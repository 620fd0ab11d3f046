import Mathlib.Algebra.Order.Ring.Rat
import LetletmeData.Domain.TournamentPlan
import LetletmeData.Library.Runs
import LetletmeData.Repositories.EntryResultUpserts

/-!
# Synchronisation of an entry

`syncEntryInfo` reads the summary and the history of an entry and stores both in one transaction,
with the event through which the snapshot is synchronised. The histories of earlier seasons and the
leagues of the entry are left out, except that writing them may throw.
-/

namespace LetletmeData

open LetletmeData.Library

/-- What `upsertFromSummary` reads of a summary; what is null or absent is `none`. -/
structure RawFPLEntrySummary where
  id : ℚ
  name : String
  playerFirstName : String
  playerLastName : String
  playerRegionName : Option String
  startedEvent : Option ℚ
  summaryOverallPoints : Option ℚ
  summaryOverallRank : Option ℚ
  bank : Option ℚ
  value : Option ℚ
  lastDeadlineTotalTransfers : Option ℚ
  lastDeadlineBank : Option ℚ
  lastDeadlineValue : Option ℚ
  deriving DecidableEq

/-- The columns of an entry that a summary writes, with the numbers as they are sent or stored. -/
structure EntryInfoRow (Number : Type) where
  entryName : String
  playerName : String
  region : Option String
  startedEvent : Option Number
  overallPoints : Option Number
  overallRank : Option Number
  bank : Option Number
  lastBank : Option Number
  lastEventId : Number
  snapshotSyncedThroughEventId : Option Number
  teamValue : Option Number
  totalTransfers : Option Number
  lastEntryName : Option String
  lastOverallPoints : Option Number
  lastOverallRank : Option Number
  lastTeamValue : Option Number
  usedEntryNames : List String
  deriving DecidableEq

/-- The entries of a season. -/
abbrev EntryInfoTable := KeyedTable ℤ (EntryInfoRow ℤ)

namespace EntryInfoRow

/-- The numbers of a row. -/
def numbers {Number : Type} (row : EntryInfoRow Number) : List Number :=
  row.lastEventId ::
    [row.startedEvent, row.overallPoints, row.overallRank, row.bank, row.lastBank,
      row.snapshotSyncedThroughEventId, row.teamValue, row.totalTransfers, row.lastOverallPoints,
      row.lastOverallRank, row.lastTeamValue].reduceOption

/-- A row of integers. -/
def stored (row : EntryInfoRow ℚ) : EntryInfoRow ℤ where
  entryName := row.entryName
  playerName := row.playerName
  region := row.region
  startedEvent := row.startedEvent.map (·.num)
  overallPoints := row.overallPoints.map (·.num)
  overallRank := row.overallRank.map (·.num)
  bank := row.bank.map (·.num)
  lastBank := row.lastBank.map (·.num)
  lastEventId := row.lastEventId.num
  snapshotSyncedThroughEventId := row.snapshotSyncedThroughEventId.map (·.num)
  teamValue := row.teamValue.map (·.num)
  totalTransfers := row.totalTransfers.map (·.num)
  lastEntryName := row.lastEntryName
  lastOverallPoints := row.lastOverallPoints.map (·.num)
  lastOverallRank := row.lastOverallRank.map (·.num)
  lastTeamValue := row.lastTeamValue.map (·.num)
  usedEntryNames := row.usedEntryNames

/-- `btrim(name) <> ''`. -/
def NameNonempty (name : String) : Prop := ∃ c ∈ name.toList, c ≠ ' '

instance (name : String) : Decidable (NameNonempty name) :=
  List.decidableBEx (· ≠ ' ') name.toList

/-- The types and the check constraints of the table. -/
def Storable (entryId : ℚ) (row : EntryInfoRow ℚ) : Prop :=
  (FitsInteger entryId ∧ 0 < entryId) ∧ (∀ number ∈ row.numbers, FitsInteger number) ∧
    (∀ event ∈ row.startedEvent, 0 < event) ∧ 0 ≤ row.lastEventId ∧
    (∀ event ∈ row.snapshotSyncedThroughEventId, 0 ≤ event) ∧
    NameNonempty row.entryName ∧ NameNonempty row.playerName

instance (entryId : ℚ) (row : EntryInfoRow ℚ) : Decidable (row.Storable entryId) :=
  inferInstanceAs (Decidable (_ ∧ _))

end EntryInfoRow

/-- `uniqueNames`. -/
def uniqueNames (names : List String) : List String :=
  names.foldl (fun result name => if name ≠ "" ∧ name ∉ result then result ++ [name] else result) []

/-- The row that a summary inserts. -/
def summaryRow (summary : RawFPLEntrySummary) (lastEventId snapshotSyncedThroughEventId : Option ℚ) :
    EntryInfoRow ℚ where
  entryName := summary.name
  playerName := trimText (summary.playerFirstName ++ " " ++ summary.playerLastName)
  region := summary.playerRegionName
  startedEvent := summary.startedEvent
  overallPoints := summary.summaryOverallPoints
  overallRank := summary.summaryOverallRank
  bank := summary.lastDeadlineBank.or summary.bank
  lastBank := some 0
  lastEventId := lastEventId.getD 0
  snapshotSyncedThroughEventId := snapshotSyncedThroughEventId
  teamValue := summary.lastDeadlineValue.or summary.value
  totalTransfers := summary.lastDeadlineTotalTransfers
  lastEntryName := none
  lastOverallPoints := some 0
  lastOverallRank := some 0
  lastTeamValue := some 0
  usedEntryNames := uniqueNames [summary.name]

/-- The update of a stored entry by the row of a summary. -/
def summaryConflictSet (old excluded : EntryInfoRow ℤ) : EntryInfoRow ℤ where
  entryName := excluded.entryName
  playerName := excluded.playerName
  region := excluded.region
  startedEvent := excluded.startedEvent
  overallPoints := excluded.overallPoints
  overallRank := excluded.overallRank
  totalTransfers := excluded.totalTransfers
  bank := excluded.bank.or old.bank
  teamValue := excluded.teamValue.or old.teamValue
  lastEventId := max old.lastEventId excluded.lastEventId
  snapshotSyncedThroughEventId :=
    match excluded.snapshotSyncedThroughEventId with
    | none => old.snapshotSyncedThroughEventId
    | some through => some (max (old.snapshotSyncedThroughEventId.getD 0) through)
  lastBank := some (old.bank.getD 0)
  lastEntryName := some old.entryName
  lastOverallPoints := some (old.overallPoints.getD 0)
  lastOverallRank := some (old.overallRank.getD 0)
  lastTeamValue := some (old.teamValue.getD 0)
  usedEntryNames := uniqueNames (old.usedEntryNames ++ excluded.usedEntryNames ++
    if old.entryName ≠ excluded.entryName then [old.entryName] else [])

/-- `upsertFromSummary`. -/
def upsertFromSummary (entries : EntryInfoTable) (summary : RawFPLEntrySummary)
    (lastEventId snapshotSyncedThroughEventId : Option ℚ) :
    Except RepositoryError EntryInfoTable :=
  let insert := summaryRow summary lastEventId snapshotSyncedThroughEventId
  if insert.Storable summary.id then
    .ok (entries.insertOrUpdate summary.id.num insert.stored fun old =>
      summaryConflictSet old insert.stored)
  else .error (.databaseError "Failed to upsert entry info" "ENTRY_INFO_UPSERT_ERROR")

/-- The events that a snapshot must cover, from the first one of the entry to the target. -/
def requiredEvents (startedEvent : Option ℚ) (targetEventId : ℚ) : List ℚ :=
  ((List.range 38).map fun offset : ℕ => max 1 (startedEvent.getD 1) + (offset : ℚ)).filter
    (· ≤ targetEventId)

/-- `validateEntryHistoryCoverage`. -/
def validateEntryHistoryCoverage (startedEvent : Option ℚ) (targetEventId : ℚ)
    (currentHistory : List HistoryCurrentItem) : Except ValidationError Unit := do
  throwIf (¬ IsInteger targetEventId ∨ targetEventId < 0 ∨ 38 < targetEventId)
    ⟨"Entry snapshot target must be an event from 0 through 38.", "ENTRY_SNAPSHOT_TARGET_INVALID"⟩
  let eventIds := currentHistory.map (·.event)
  throwIf ((∃ event ∈ eventIds, ¬ IsInteger event ∨ event < 1 ∨ 38 < event) ∨ ¬ eventIds.Nodup)
    ⟨"Entry history contains invalid or duplicate event identifiers.", "ENTRY_HISTORY_INVALID"⟩
  let missing := (requiredEvents startedEvent targetEventId).countP (· ∉ eventIds)
  throwIf (0 < missing)
    ⟨s!"Entry history is incomplete through the requested event ({missing} missing).",
      "ENTRY_HISTORY_INCOMPLETE"⟩

/-- What `syncEntryInfo` throws. -/
inductive SyncEntryError where
  | validation (error : ValidationError)
  | repository (error : RepositoryError)
  deriving DecidableEq

/-- The statements whose tables are left out. -/
inductive EntrySyncStatement where
  | writeFence
  | historyInfos
  | leagueInfos
  deriving DecidableEq

/-- A call with what it reads: the answers of the client, the current and the latest finalized
event, and how the database refuses its statements, if it does. -/
structure SyncEntryInfoCall where
  entryId : ℤ
  targetEventId : Option ℚ
  summary : RawFPLEntrySummary
  history : List HistoryCurrentItem
  currentEventId : Option ℤ
  latestFinalizedEventId : Option ℤ
  known : KnownReferences
  fault : EntrySyncStatement → Option RepositoryError

/-- `snapshotSyncedThroughEventId`. -/
def SyncEntryInfoCall.snapshotTarget (call : SyncEntryInfoCall) : ℚ :=
  call.targetEventId.getD ((call.latestFinalizedEventId.map Int.cast).getD 0)

/-- The tables a call writes. -/
structure EntryTables where
  entries : EntryInfoTable
  results : EntryResultTable

/-- A statement that writes none of these tables. -/
def SyncEntryInfoCall.perform (call : SyncEntryInfoCall) (statement : EntrySyncStatement) :
    Except RepositoryError Unit :=
  match call.fault statement with
  | none => .ok ()
  | some error => .error error

/-- The transaction of a call. -/
def writeEntrySnapshot (tables : EntryTables) (call : SyncEntryInfoCall) :
    Except RepositoryError EntryTables := do
  call.perform .writeFence
  let entries ← upsertFromSummary tables.entries call.summary
    (call.currentEventId.map fun event => (event : ℚ) - 1) (some call.snapshotTarget)
  call.perform .historyInfos
  call.perform .leagueInfos
  let results ← upsertCoreFromHistory call.known tables.results call.entryId
    (call.history.filter fun item => item.event ≤ call.snapshotTarget)
  return { entries := entries, results := results }

/-- `syncEntryInfo`. -/
def syncEntryInfo (call : SyncEntryInfoCall) (tables : EntryTables) :
    Except SyncEntryError EntryTables := do
  throwIf (call.summary.id ≠ call.entryId)
    (.validation ⟨"Entry summary identity did not match the request.", "ENTRY_ID_MISMATCH"⟩)
  (validateEntryHistoryCoverage call.summary.startedEvent call.snapshotTarget
    call.history).mapError .validation
  (writeEntrySnapshot tables call).mapError .repository

/-- The tables after a call. -/
def EntryTables.step (tables : EntryTables) (call : SyncEntryInfoCall) : EntryTables :=
  commit (syncEntryInfo call) tables

/-- `snapshotSyncedThroughEventId` of an entry. -/
def EntryTables.checkpoint (tables : EntryTables) (entryId : ℤ) : Option ℤ :=
  (tables.entries.find entryId).bind (·.snapshotSyncedThroughEventId)

end LetletmeData
