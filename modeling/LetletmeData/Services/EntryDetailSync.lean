import Mathlib.Data.Nat.Notation
import Mathlib.Logic.Function.Basic
import LetletmeData.Library.Runs
import LetletmeData.Library.Transactions
import LetletmeData.Repositories.EntryResultRows

/-!
# Synchronisation of a tournament's entries

`syncTournamentEntryDetails` runs `syncEntryInfo` for several entries at once, inside one
transaction of a mutation scope. Each call sets a savepoint on the one connection of that
transaction, runs its statements behind it, and rolls back to it when its body throws. The order
in which the connection executes the statements, and which of them fail, is given by the events of
a run.
-/

namespace LetletmeData

open LetletmeData.Library

/-! ### The statements of an entry -/

/-- The tables the transaction of an entry reads and writes. -/
inductive SnapshotTable where
  | seasons
  | entries
  | entryPastSeasons
  | entryLeagues
  | entryEventResults
  deriving DecidableEq

/-- A statement of such a transaction. -/
inductive SnapshotStatement where
  | select (table : SnapshotTable)
  | insert (table : SnapshotTable)
  | update (table : SnapshotTable)
  | delete (table : SnapshotTable)
  deriving DecidableEq

/-- Whether a statement writes. -/
def SnapshotStatement.isWrite : SnapshotStatement → Bool
  | .select _ => false
  | .insert _ => true
  | .update _ => true
  | .delete _ => true

/-- What the provider's answers for an entry decide about its statements. -/
structure EntryAnswer where
  pastSeasons : ℕ
  leagues : Option ℕ
  coreHistoryRows : ℕ

/-- The repositories bound to the transaction of an entry. -/
inductive SnapshotRepository where
  | entryInfo
  | entryHistoryInfo
  | entryLeagueInfo
  | entryEventResults
  deriving DecidableEq

/-- The four repositories. -/
def SnapshotRepository.all : List SnapshotRepository :=
  [.entryInfo, .entryHistoryInfo, .entryLeagueInfo, .entryEventResults]

/-- There are no other repositories. -/
theorem SnapshotRepository.mem_all (repository : SnapshotRepository) :
    repository ∈ SnapshotRepository.all := by
  cases repository <;> decide

namespace EntryAnswer

/-- The statements of `upsertFromSummary`. -/
def upsertFromSummary (_ : EntryAnswer) : List SnapshotStatement := [.insert .entries]

/-- The statements of `upsertFromHistory`. -/
def upsertFromHistory (answer : EntryAnswer) : List SnapshotStatement :=
  (if answer.pastSeasons = 0 then [] else [.select .seasons]) ++
    [.select .entries, .delete .entryPastSeasons] ++
    (if 0 < answer.pastSeasons then [.insert .entryPastSeasons] else []) ++
    [.update .entries]

/-- The statements of `upsertFromLeagues`. -/
def upsertFromLeagues (answer : EntryAnswer) : List SnapshotStatement :=
  match answer.leagues with
  | none => []
  | some rows => (if 0 < rows then [.insert .entryLeagues] else []) ++ [.delete .entryLeagues]

/-- The statements of `upsertCoreFromHistory`, one for each chunk of the rows. -/
def upsertCoreFromHistory (answer : EntryAnswer) : List SnapshotStatement :=
  List.replicate ((answer.coreHistoryRows + coreHistoryBatchSize - 1) / coreHistoryBatchSize)
    (.insert .entryEventResults)

/-- The statements of a repository's call, in order. -/
def statements (answer : EntryAnswer) : SnapshotRepository → List SnapshotStatement
  | .entryInfo => answer.upsertFromSummary
  | .entryHistoryInfo => answer.upsertFromHistory
  | .entryLeagueInfo => answer.upsertFromLeagues
  | .entryEventResults => answer.upsertCoreFromHistory

end EntryAnswer

/-- A write of an entry's transaction: the statement at a position of a repository's call. -/
structure SnapshotWrite where
  entryId : ℕ
  repository : SnapshotRepository
  position : ℕ
  deriving DecidableEq

/-! ### One call -/

/-- Where a call of `syncEntryInfo` is. -/
inductive EntryCallStatus where
  | waiting
  | fetching
  | opening
  | fencing
  | writing
  | throwing
  | failed
  | returned
  deriving DecidableEq

/-- A call of `syncEntryInfo`: how many statements of each repository it has executed and which of
the repositories threw. -/
structure EntryCall where
  status : EntryCallStatus
  currentEventRead : Bool
  executed : SnapshotRepository → ℕ
  broken : SnapshotRepository → Bool

namespace EntryCall

/-- A call that has not begun. -/
def waiting : EntryCall := ⟨.waiting, false, fun _ => 0, fun _ => false⟩

/-- Whether a worker is busy with the call. -/
def busy (call : EntryCall) : Bool :=
  call.status ≠ .waiting ∧ call.status ≠ .failed ∧ call.status ≠ .returned

/-- Whether the call has ended. -/
def settled (call : EntryCall) : Bool := call.status = .failed ∨ call.status = .returned

/-- A repository is in the middle of its call. The parent row comes first; the others follow
together, and go on when one of them throws. -/
def inRepository (answer : EntryAnswer) (call : EntryCall) : SnapshotRepository → Bool
  | .entryInfo => call.status = .writing ∧ call.broken .entryInfo = false
  | repository =>
    (call.status = .writing ∨ call.status = .throwing ∨ call.status = .failed) ∧
      call.broken .entryInfo = false ∧ call.broken repository = false ∧
      call.executed .entryInfo = (answer.statements .entryInfo).length

/-- A repository throws, and with it the body of the transaction. -/
def throwIn (call : EntryCall) (repository : SnapshotRepository) : EntryCall :=
  { call with
    status := if call.status = .writing then .throwing else call.status
    broken := Function.update call.broken repository true }

/-- A repository has executed its next statement. -/
def executeIn (call : EntryCall) (repository : SnapshotRepository) : EntryCall :=
  { call with
    executed := Function.update call.executed repository (call.executed repository + 1) }

/-- Every repository has executed its statements. -/
def Complete (answer : EntryAnswer) (call : EntryCall) : Prop :=
  ∀ repository ∈ SnapshotRepository.all,
    call.executed repository = (answer.statements repository).length

instance (answer : EntryAnswer) (call : EntryCall) : Decidable (call.Complete answer) :=
  inferInstanceAs (Decidable (∀ repository ∈ SnapshotRepository.all, _))

end EntryCall

/-- What happens next in a call: the connection executes one of its statements, which succeeds or
fails, or the provider answers, or code of the call runs. -/
inductive EntryEvent where
  | readCurrentEvent (succeeds : Bool)
  | refuse
  | answer
  | setSavepoint (succeeds : Bool)
  | takeFence (succeeds : Bool)
  | runStatement (repository : SnapshotRepository) (succeeds : Bool)
  | throw (repository : SnapshotRepository)
  | rollBack
  | finish
  deriving DecidableEq

/-- The transaction of the mutation scope. The savepoint of a call is named by its entry. -/
abbrev ScopeTransaction := OpenTransaction ℕ SnapshotWrite

/-- `syncEntryInfo`, one event further. Every statement of an aborted transaction fails. -/
def syncEntryInfoStep (entryId : ℕ) (answer : EntryAnswer) (call : EntryCall)
    (tx : ScopeTransaction) : EntryEvent → EntryCall × ScopeTransaction
  | .readCurrentEvent succeeds =>
    if call.status = .waiting ∨ call.currentEventRead then (call, tx)
    else if tx.aborted ∨ succeeds = false then
      ({ call with
          currentEventRead := true
          status := if call.status = .fetching then .failed else call.status }, tx.abort)
    else ({ call with currentEventRead := true }, tx)
  | .refuse =>
    if call.status = .fetching then ({ call with status := .failed }, tx) else (call, tx)
  | .answer =>
    if call.status = .fetching ∧ call.currentEventRead then
      ({ call with status := .opening }, tx)
    else (call, tx)
  | .setSavepoint succeeds =>
    if call.status = .opening then
      -- `SAVEPOINT` itself stands outside the `try` of the driver
      if tx.aborted ∨ succeeds = false then ({ call with status := .failed }, tx.abort)
      else ({ call with status := .fencing }, tx.savepoint entryId)
    else (call, tx)
  | .takeFence succeeds =>
    if call.status = .fencing then
      if tx.aborted ∨ succeeds = false then ({ call with status := .throwing }, tx.abort)
      else ({ call with status := .writing }, tx)
    else (call, tx)
  | .runStatement repository succeeds =>
    match (answer.statements repository)[call.executed repository]? with
    | none => (call, tx)
    | some statement =>
      if call.inRepository answer repository then
        if tx.aborted ∨ succeeds = false then (call.throwIn repository, tx.abort)
        else
          (call.executeIn repository,
            if statement.isWrite then tx.write ⟨entryId, repository, call.executed repository⟩
            else tx)
      else (call, tx)
  | .throw repository =>
    if call.inRepository answer repository then (call.throwIn repository, tx) else (call, tx)
  | .rollBack =>
    if call.status = .throwing then ({ call with status := .failed }, tx.rollbackTo entryId)
    else (call, tx)
  | .finish =>
    if call.status = .writing ∧ call.Complete answer then ({ call with status := .returned }, tx)
    else (call, tx)

/-! ### All calls -/

/-- A call of `syncTournamentEntryDetails`, with the stored checkpoint of each entry that has a
row, the settings of the environment and the answers of the provider. -/
structure EntryDetailCall where
  entryIds : List ℕ
  targetEventId : ℕ
  forceSnapshotRefresh : Bool
  checkpoint : ℕ → Option (Option ℕ)
  concurrency : ℕ
  answer : ℕ → EntryAnswer

namespace EntryDetailCall

variable (call : EntryDetailCall)

/-- `uniqueNumbers` of the positive entries. -/
def sanitized : List ℕ := (call.entryIds.filter (0 < ·)).eraseDups

/-- The condition of `findIdsNeedingSnapshotSync`. -/
def needsSnapshotSync (entryId : ℕ) : Bool :=
  match call.checkpoint entryId with
  | some (some checkpoint) => checkpoint < call.targetEventId
  | _ => true

/-- The entries the provider is asked for. -/
def requestedEntryIds : List ℕ :=
  if call.forceSnapshotRefresh then call.sanitized
  else call.sanitized.filter call.needsSnapshotSync

/-- The size of a batch. -/
def progressBatchSize : ℕ := max (call.concurrency * 2) 10

/-- The writes of an entry's transaction. -/
def IsWriteOf (entryId : ℕ) (write : SnapshotWrite) : Prop :=
  write.entryId = entryId ∧
    ∃ statement, ((call.answer entryId).statements write.repository)[write.position]? =
      some statement ∧ statement.isWrite

end EntryDetailCall

/-- The transaction of the mutation scope and the calls inside it; `cursor` counts the entries the
workers have taken. -/
structure EntryDetailWorld where
  tx : ScopeTransaction
  cursor : ℕ
  calls : ℕ → EntryCall

namespace EntryDetailWorld

/-- Nothing has begun. -/
def initial : EntryDetailWorld := ⟨.opened, 0, fun _ => .waiting⟩

/-- A worker of the batch is free, and the batches before it are done. -/
def mayStart (call : EntryDetailCall) (world : EntryDetailWorld) : Bool :=
  (call.requestedEntryIds.filter fun entryId => (world.calls entryId).busy).length <
      max 1 call.concurrency ∧
    ∀ entryId ∈ call.requestedEntryIds.take
        (world.cursor / call.progressBatchSize * call.progressBatchSize),
      (world.calls entryId).settled

/-- A free worker takes the next entry. -/
def start (call : EntryDetailCall) (world : EntryDetailWorld) : EntryDetailWorld :=
  match call.requestedEntryIds[world.cursor]? with
  | none => world
  | some entryId =>
    -- the entries are distinct: the next one is waiting
    if world.mayStart call ∧ (world.calls entryId).status = .waiting then
      { world with
        cursor := world.cursor + 1
        calls := Function.update world.calls entryId
          { world.calls entryId with status := .fetching } }
    else world

end EntryDetailWorld

/-- An event of a run. -/
inductive EntryDetailEvent where
  | start
  | entry (entryId : ℕ) (event : EntryEvent)
  deriving DecidableEq

/-- `syncTournamentEntryDetails`, one event further. -/
def syncTournamentEntryDetailsStep (call : EntryDetailCall) (world : EntryDetailWorld) :
    EntryDetailEvent → EntryDetailWorld
  | .start => world.start call
  | .entry entryId event =>
    let next := syncEntryInfoStep entryId (call.answer entryId) (world.calls entryId) world.tx event
    { world with
      tx := next.2
      calls := Function.update world.calls entryId next.1 }

end LetletmeData
