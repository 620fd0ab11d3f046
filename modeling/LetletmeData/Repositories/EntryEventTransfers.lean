import LetletmeData.Library.KeyedTables
import LetletmeData.Library.Runs
import LetletmeData.Library.Transactions
import Mathlib

/-!
# Stored transfer histories of entries

`replaceForEvent` replaces the transfers of an entry by the complete history that a source
reported, when the source was checked later than the one that is stored. Points and played flags
are not part of what the source reports: they are carried over from the transfer with the same
signature.
-/

namespace LetletmeData

open LetletmeData.Library

/-- A transfer as the game reports it. -/
structure RawFPLEntryTransfer where
  elementIn : ℤ
  elementInCost : ℤ
  elementInPoints : Option ℤ
  elementOut : ℤ
  elementOutCost : ℤ
  elementOutPoints : Option ℤ
  event : ℤ
  time : String
  deriving DecidableEq

/-- The parts that `transferSignature` joins with colons; equal texts have equal parts. -/
structure TransferSignature where
  eventId : ℤ
  elementInId : Option ℤ
  elementOutId : Option ℤ
  transferTime : ℤ
  deriving DecidableEq

/-- A row of `competition.entry_event_transfers`; times are in milliseconds. -/
structure EntryEventTransfer where
  seasonId : ℤ
  entryId : ℤ
  eventId : ℤ
  elementInId : Option ℤ
  elementInCost : Option ℤ
  elementInPoints : Option ℤ
  elementInPlayed : Option Bool
  elementOutId : Option ℤ
  elementOutCost : Option ℤ
  elementOutPoints : Option ℤ
  transferTime : ℤ
  deriving DecidableEq

/-- The signature of a stored transfer. -/
def EntryEventTransfer.signature (row : EntryEventTransfer) : TransferSignature where
  eventId := row.eventId
  elementInId := row.elementInId
  elementOutId := row.elementOutId
  transferTime := row.transferTime

/-- The entry a transfer belongs to. -/
def EntryEventTransfer.entry (row : EntryEventTransfer) : ℤ × ℤ := (row.seasonId, row.entryId)

/-- The identifiers of a row are positive. -/
def EntryEventTransfer.IdsPositive (row : EntryEventTransfer) : Prop :=
  0 < row.entryId ∧ 0 < row.eventId ∧ (∀ element ∈ row.elementInId, 0 < element) ∧
    ∀ element ∈ row.elementOutId, 0 < element

/-- The check of the identifiers is decidable. -/
instance EntryEventTransfer.decidableIdsPositive (row : EntryEventTransfer) :
    Decidable row.IdsPositive :=
  inferInstanceAs (Decidable (_ ∧ _))

/-- The stored transfers, unique by entry and signature. -/
structure EntryEventTransfers where
  rows : List EntryEventTransfer
  businessUnique : (rows.map fun row => (row.entry, row.signature)).Nodup

/-- The transfers of an entry. -/
def EntryEventTransfers.ofEntry (table : EntryEventTransfers) (entry : ℤ × ℤ) :
    List EntryEventTransfer :=
  table.rows.filter fun row => row.entry = entry

/-- The table without the transfers of an entry. -/
def EntryEventTransfers.deleteEntry (table : EntryEventTransfers) (entry : ℤ × ℤ) :
    EntryEventTransfers :=
  ⟨table.rows.filter fun row => row.entry ≠ entry,
    table.businessUnique.sublist (List.filter_sublist.map _)⟩

/-- What an entry keeps of its transfer history. -/
structure TransferCheckpoint where
  transfersSyncedThroughEventId : Option ℤ
  transfersSourceCheckedAt : Option ℤ
  deriving DecidableEq

/-- The tables a call works on; `known` holds of rows whose season, event and players exist, and
`data` is what `persistEventData` writes. -/
structure TransferDatabase (Data : Type) where
  entries : KeyedTable (ℤ × ℤ) TransferCheckpoint
  transfers : EntryEventTransfers
  known : EntryEventTransfer → Bool
  data : Data

/-- What a call can throw. -/
inductive TransferError where
  | checkpointOutOfRange
  | sourceCheckpointInvalid
  | entryNotPersisted (entryId : ℤ)
  | transferTimestampInvalid (entryId : ℤ)
  | constraintViolated
  | verificationFailed
  | database
  deriving DecidableEq

/-- A source time as it is passed: a date, which may be invalid, or a text. -/
inductive SourceCheckedAt where
  | date (time : Option ℤ)
  | text (value : String)

/-- The arguments of a call. `fault` is what the database throws before the commit, if it does. -/
structure ReplaceForEvent (Data : Type) where
  seasonId : ℤ
  entryId : ℤ
  eventId : ℤ
  transfers : List RawFPLEntryTransfer
  pointsByElement : Option (ℤ → Option ℤ)
  elementInPlayed : Option Bool
  defaultPoints : Option ℤ
  checkpointThroughEventId : Option ℚ
  sourceCheckedAt : Option SourceCheckedAt
  persistEventData : Option (Data → Except TransferError Data)
  fault : Option TransferError

variable {Data : Type} (parseDate : String → Option ℤ)

namespace ReplaceForEvent

/-- The entry of a call. -/
def entry (call : ReplaceForEvent Data) : ℤ × ℤ := (call.seasonId, call.entryId)

/-- The time at which the source was checked, if there is a valid one. -/
def sourceTime (call : ReplaceForEvent Data) : Option ℤ :=
  match call.sourceCheckedAt with
  | some (.date time) => time
  | some (.text value) => if value = "" then none else parseDate value
  | none => none

/-- The event through which a call checkpoints. -/
def checkpoint (call : ReplaceForEvent Data) : ℚ :=
  call.checkpointThroughEventId.getD call.eventId

/-- The points that a call itself gives for a player of a transfer. -/
def points (call : ReplaceForEvent Data) (transfer : RawFPLEntryTransfer) (element : ℤ)
    (reported : Option ℤ) : Option ℤ :=
  (if transfer.event = call.eventId then call.pointsByElement.bind (· element) else none).or
    reported

/-- The points a call gives for the player who came in. -/
def inPoints (call : ReplaceForEvent Data) (transfer : RawFPLEntryTransfer) : Option ℤ :=
  call.points transfer transfer.elementIn transfer.elementInPoints

/-- The points a call gives for the player who went out. -/
def outPoints (call : ReplaceForEvent Data) (transfer : RawFPLEntryTransfer) : Option ℤ :=
  call.points transfer transfer.elementOut transfer.elementOutPoints

/-- The played flag that a call itself gives for a transfer. -/
def played (call : ReplaceForEvent Data) (transfer : RawFPLEntryTransfer) : Option Bool :=
  if transfer.event = call.eventId then call.elementInPlayed else none

end ReplaceForEvent

/-- The signature of a reported transfer with a valid time. -/
def RawFPLEntryTransfer.signatureAt (transfer : RawFPLEntryTransfer) (transferTime : ℤ) :
    TransferSignature where
  eventId := transfer.event
  elementInId := some transfer.elementIn
  elementOutId := some transfer.elementOut
  transferTime := transferTime

/-- The row of a reported transfer, carried over from the existing one with its signature. -/
def transferReplacementRow (call : ReplaceForEvent Data) (existing : List EntryEventTransfer)
    (transfer : RawFPLEntryTransfer) : Except TransferError EntryEventTransfer := do
  let transferTime ← orThrow (parseDate transfer.time) (.transferTimestampInvalid call.entryId)
  -- the last of several rows with one signature is the one the map holds
  let previous := existing.reverse.find? fun row =>
    row.signature = transfer.signatureAt transferTime
  return {
    seasonId := call.seasonId
    entryId := call.entryId
    eventId := transfer.event
    elementInId := some transfer.elementIn
    elementInCost := some transfer.elementInCost
    elementInPoints := ((call.inPoints transfer).or (previous.bind (·.elementInPoints))).or
      call.defaultPoints
    elementInPlayed := (call.played transfer).or (previous.bind (·.elementInPlayed))
    elementOutId := some transfer.elementOut
    elementOutCost := some transfer.elementOutCost
    elementOutPoints := ((call.outPoints transfer).or (previous.bind (·.elementOutPoints))).or
      call.defaultPoints
    transferTime := transferTime }

/-- Rows are sorted by time, then by event. -/
def TransferBefore (left right : EntryEventTransfer) : Prop :=
  left.transferTime < right.transferTime ∨
    (left.transferTime = right.transferTime ∧ left.eventId ≤ right.eventId)

/-- The order of the rows is decidable. -/
instance TransferBefore.decidable : DecidableRel TransferBefore :=
  fun _ _ => inferInstanceAs (Decidable (_ ∨ _))

/-- The complete history that replaces the existing one. -/
def buildTransferReplacementRows (call : ReplaceForEvent Data)
    (existing : List EntryEventTransfer) : Except TransferError (List EntryEventTransfer) := do
  let rows ← call.transfers.mapM (transferReplacementRow parseDate call existing)
  return rows.insertionSort TransferBefore

/-- The rows are inserted when no constraint of the table refuses them. -/
def insertTransfers (known : EntryEventTransfer → Bool) (table : EntryEventTransfers)
    (rows : List EntryEventTransfer) : Except TransferError EntryEventTransfers := do
  throwIf (∃ row ∈ rows, ¬ row.IdsPositive ∨ ¬ known row) .constraintViolated
  if hunique : ((table.rows ++ rows).map fun row => (row.entry, row.signature)).Nodup then
    return ⟨table.rows ++ rows, hunique⟩
  else
    throw .constraintViolated

/-- The stored history of the entry has the signatures of the rows. -/
def SameSignatures (rows persisted : List EntryEventTransfer) : Prop :=
  (persisted.map (·.signature)).dedup.length = (rows.map (·.signature)).dedup.length ∧
    ∀ signature ∈ rows.map (·.signature), signature ∈ persisted.map (·.signature)

/-- The comparison of signatures is decidable. -/
instance SameSignatures.decidable (rows persisted : List EntryEventTransfer) :
    Decidable (SameSignatures rows persisted) :=
  inferInstanceAs (Decidable (_ ∧ _))

/-- The checkpoint after a call that was accepted. -/
def ReplaceForEvent.checkpointed (call : ReplaceForEvent Data) (sourceCheckedAt : ℤ)
    (row : TransferCheckpoint) : TransferCheckpoint where
  transfersSyncedThroughEventId :=
    some (max (row.transfersSyncedThroughEventId.getD 0) call.checkpoint.num)
  transfersSourceCheckedAt := some sourceCheckedAt

/-- The body of `replaceForEvent`; the entry is locked, so calls for it come one after the
other. -/
def replaceForEvent (database : TransferDatabase Data) (call : ReplaceForEvent Data) :
    Except TransferError (TransferDatabase Data × Bool) := do
  throwIf (call.checkpoint.den ≠ 1 ∨ call.checkpoint < 0 ∨ call.checkpoint > call.eventId)
    .checkpointOutOfRange
  let sourceCheckedAt ← orThrow (call.sourceTime parseDate) .sourceCheckpointInvalid
  let entry ← orThrow (database.entries.find call.entry) (.entryNotPersisted call.entryId)
  if ∃ winner ∈ entry.transfersSourceCheckedAt, winner ≥ sourceCheckedAt then
    return (database, false)
  let data ← call.persistEventData.elim (.ok database.data) fun persist => persist database.data
  let existing := database.transfers.ofEntry call.entry
  let rows ← buildTransferReplacementRows parseDate call existing
  let transfers ← insertTransfers database.known
    (database.transfers.deleteEntry call.entry) rows
  throwIf (¬ SameSignatures rows (transfers.ofEntry call.entry)) .verificationFailed
  call.fault.elim (.ok ()) .error
  return ({ database with
    entries := database.entries.updateWhere (fun key _ => key = call.entry)
      (call.checkpointed sourceCheckedAt)
    transfers := transfers
    data := data }, true)

/-- What a call returns; one that throws is not accepted. -/
def ReplaceForEvent.accepted (database : TransferDatabase Data) (call : ReplaceForEvent Data) :
    Bool :=
  match replaceForEvent parseDate database call with
  | .ok (_, accepted) => accepted
  | .error _ => false

/-- The tables after a call: one that throws is rolled back. -/
def replaceForEventStep (database : TransferDatabase Data) (call : ReplaceForEvent Data) :
    TransferDatabase Data :=
  match replaceForEvent parseDate database call with
  | .ok (after, _) => after
  | .error _ => database

end LetletmeData
