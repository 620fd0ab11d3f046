import Mathlib.Logic.Function.Basic
import LetletmeData.Repositories.EntryResultOrder
import LetletmeData.Utils.Errors

/-!
# Results of a tournament event

`syncTournamentEventResults` lets the entries of the active tournaments be written from their picks
and audits the rows against a freshness boundary. A boundary is exact to the microsecond, while the
rows keep the time of their picks in milliseconds. What the call itself writes is among the writes
that any process may commit at any time. The audits of stored picks and of transfers are given.
-/

namespace LetletmeData

open LetletmeData.Library

/-- `findEntryIdsNeedingRichSync`. -/
def findEntryIdsNeedingRichSync (table : EntryResultTable) (entryIds : List ℤ) (eventId : ℤ)
    (freshAfter : Timestamp) : List ℤ :=
  entryIds.filter fun entryId =>
    ¬ ∃ row ∈ table.find (entryId, eventId), ∃ time ∈ row.richSyncedAt, freshAfter.getTime ≤ time

/-- `planTournamentEventSync`. -/
structure TournamentEventSyncPlan where
  requiredResultEntryIds : List ℤ
  requiredTransferEntryIds : List ℤ
  reusedUnits : ℕ
  deriving DecidableEq

/-- `planTournamentEventSync`, given the entries whose results are stale, those with stored picks
and those with stale transfers. -/
def planTournamentEventSync (entryIds staleResultEntryIds persistedPickEntryIds
    staleTransferEntryIds : List ℤ) (skipTransfers : Bool) : TournamentEventSyncPlan :=
  let requiredResultEntryIds := entryIds.filter fun entryId =>
    entryId ∈ staleResultEntryIds ∨ entryId ∉ persistedPickEntryIds
  let requiredTransferEntryIds :=
    if skipTransfers then [] else entryIds.filter (· ∈ staleTransferEntryIds)
  { requiredResultEntryIds := requiredResultEntryIds
    requiredTransferEntryIds := requiredTransferEntryIds
    reusedUnits := entryIds.length - requiredResultEntryIds.length +
      if skipTransfers then 0 else entryIds.length - requiredTransferEntryIds.length }

/-- `TournamentFinalizationTarget`. -/
structure TournamentFinalizationTarget where
  tournamentId : ℕ
  standingsReadyAt : String
  resultsFreshAfter : Timestamp
  deriving DecidableEq

/-- An active tournament with its entries. -/
structure ActiveTournament where
  id : ℕ
  standingsReadyAt : Option String
  entryIds : List ℤ
  deriving DecidableEq

/-- The event of a call and its options; `sourceCheckedAt` is read from the database where the
options have none. -/
structure TournamentEventResultsCall where
  eventId : ℤ
  sourceCheckedAt : Timestamp
  freshAfter : Option Timestamp
  skipTransfers : Bool
  deriving DecidableEq

/-- What a call works on: its tournaments with their entries, and later its boundary and what it
planned. -/
structure ResultSync where
  call : TournamentEventResultsCall
  tournaments : List ActiveTournament
  deriving DecidableEq

/-- `entryIds`. -/
def ResultSync.entryIds (sync : ResultSync) : List ℤ :=
  (sync.tournaments.flatMap (·.entryIds)).eraseDups

/-- The result of a call. -/
structure TournamentEventResultsSummary where
  eventId : ℤ
  totalEntries : ℕ
  synced : ℕ
  errors : ℕ
  requiredUnits : ℕ
  reusedUnits : ℕ
  succeededUnits : ℕ
  failedUnits : ℕ
  finalizationTargets : List TournamentFinalizationTarget
  deriving DecidableEq

/-- Where a call stands: before its next read, or at its end. -/
inductive ResultSyncPhase where
  | idle
  | rosterRead (sync : ResultSync)
  | eventRead (sync : ResultSync) (finalizationDate : Option Timestamp)
  | bounded (sync : ResultSync) (freshAfter : Timestamp)
  | planned (sync : ResultSync) (freshAfter : Timestamp) (plan : TournamentEventSyncPlan)
  | audited (sync : ResultSync) (freshAfter : Timestamp) (plan : TournamentEventSyncPlan)
  | returned (summary : TournamentEventResultsSummary)
  | threw (error : IncompleteDataSyncError)
  deriving DecidableEq

/-- The stored results, the exact source of the last picks each row was written from, the exact
finalization of the events that are finished and data-checked, the active tournaments and the
calls. -/
structure ResultSyncWorld where
  stored : EntryResultWorld
  sources : ℤ × ℤ → Option Timestamp
  finalizedAt : ℤ → Option ℕ
  active : List ActiveTournament
  calls : ℕ → ResultSyncPhase

/-- The writes and changes of other processes, and the reads of the calls, each under the number of
its call. -/
inductive ResultSyncAction where
  | write (write : EntryResultWrite)
  | setFinalization (eventId : ℤ) (dataCheckedAt : Option ℕ)
  | setActive (tournaments : List ActiveTournament)
  | readRoster (id : ℕ) (call : TournamentEventResultsCall)
  | readEvent (id : ℕ)
  | readCutoff (id : ℕ)
  | plan (id : ℕ) (existingPickEntryIds requiredTransferEntryIds : List ℤ)
  | audit (id : ℕ) (auditedPickEntryIds missingTransferEntryIds : List ℤ)
  | readPostWorkCutoff (id : ℕ)

namespace ResultSyncWorld

/-- A call proceeds to a phase. -/
def proceed (world : ResultSyncWorld) (id : ℕ) (phase : ResultSyncPhase) : ResultSyncWorld :=
  { world with calls := Function.update world.calls id phase }

/-- The sources after a write: picks that are stored are the source of their row. -/
def sourcesAfter (world : ResultSyncWorld) (write : EntryResultWrite) (key : ℤ × ℤ) :
    Option Timestamp :=
  match write with
  | .upsertFromPicksAndLive known entryId eventId picks live richSyncedAt _ _ =>
    match upsertFromPicksAndLive known world.stored.results entryId eventId picks live
      richSyncedAt with
    | .ok _ =>
      if key = (entryId, eventId) ∧ RichWrites world.stored.results (entryId, eventId) richSyncedAt
        then some richSyncedAt
      else world.sources key
    | .error _ => world.sources key
  | _ => world.sources key

/-- The plan of the work that a boundary leaves. -/
def planFor (world : ResultSyncWorld) (sync : ResultSync) (freshAfter : Timestamp)
    (pickEntryIds transferEntryIds : List ℤ) : TournamentEventSyncPlan :=
  planTournamentEventSync sync.entryIds
    (findEntryIdsNeedingRichSync world.stored.results sync.entryIds sync.call.eventId freshAfter)
    pickEntryIds transferEntryIds sync.call.skipTransfers

/-- The result of a call without entries. -/
def emptySummary (eventId : ℤ) : TournamentEventResultsSummary where
  eventId := eventId
  totalEntries := 0
  synced := 0
  errors := 0
  requiredUnits := 0
  reusedUnits := 0
  succeededUnits := 0
  failedUnits := 0
  finalizationTargets := []

/-- The units that a plan requires. -/
def requiredUnits (plan : TournamentEventSyncPlan) : ℕ :=
  plan.requiredResultEntryIds.length + plan.requiredTransferEntryIds.length

/-- The end of an audit: it throws when work is left. -/
def auditedPhase (sync : ResultSync) (freshAfter : Timestamp)
    (plan audit : TournamentEventSyncPlan) : ResultSyncPhase :=
  let failedUnits := requiredUnits audit
  let required := max (requiredUnits plan) failedUnits
  if 0 < failedUnits then
    .threw
      { message :=
          "Tournament event synchronization did not converge for every active entry"
        requiredUnits := required, reusedUnits := plan.reusedUnits
        succeededUnits := required - failedUnits, failedUnits := failedUnits }
  else .audited sync freshAfter plan

/-- The end of a call: it throws when the event was finalized after the boundary. -/
def finishedPhase (sync : ResultSync) (freshAfter : Timestamp) (plan : TournamentEventSyncPlan)
    (postWorkFinalizationCutoff : Option Timestamp) : ResultSyncPhase :=
  let required := requiredUnits plan
  if isFreshnessBoundaryNewer freshAfter postWorkFinalizationCutoff then
    let retryUnits := max sync.entryIds.length required
    .threw
      { message := "Tournament event finalized during result sync; retrying with final evidence"
        requiredUnits := retryUnits, reusedUnits := 0, succeededUnits := 0
        failedUnits := retryUnits }
  else
    .returned
      { eventId := sync.call.eventId
        totalEntries := sync.entryIds.length
        synced := plan.requiredResultEntryIds.length
        errors := 0
        requiredUnits := required
        reusedUnits := plan.reusedUnits
        succeededUnits := required
        failedUnits := 0
        finalizationTargets := sync.tournaments.filterMap fun tournament =>
          tournament.standingsReadyAt.map fun standingsReadyAt =>
            { tournamentId := tournament.id, standingsReadyAt := standingsReadyAt
              resultsFreshAfter := freshAfter } }

/-- One write, change or read. -/
def step (world : ResultSyncWorld) : ResultSyncAction → ResultSyncWorld
  | .write write =>
    { world with stored := world.stored.step write, sources := world.sourcesAfter write }
  | .setFinalization eventId dataCheckedAt =>
    { world with finalizedAt := Function.update world.finalizedAt eventId dataCheckedAt }
  | .setActive tournaments => { world with active := tournaments }
  | .readRoster id call =>
    match world.calls id with
    | .idle =>
      let sync : ResultSync := { call := call, tournaments := world.active }
      world.proceed id
        (if sync.entryIds = [] then .returned (emptySummary call.eventId) else .rosterRead sync)
    | _ => world
  | .readEvent id =>
    match world.calls id with
    | .rosterRead sync =>
      world.proceed id (.eventRead sync
        ((world.finalizedAt sync.call.eventId).map fun exact => (Timestamp.date (exact / 1000))))
    | _ => world
  | .readCutoff id =>
    match world.calls id with
    | .eventRead sync finalizationDate =>
      let finalizationCutoff := finalizationDate.map fun date =>
        ((world.finalizedAt sync.call.eventId).map Timestamp.exact).getD date
      world.proceed id (.bounded sync (latestFreshnessTimestamp
        (sync.call.freshAfter.getD sync.call.sourceCheckedAt) finalizationCutoff))
    | _ => world
  | .plan id existingPickEntryIds requiredTransferEntryIds =>
    match world.calls id with
    | .bounded sync freshAfter =>
      world.proceed id (.planned sync freshAfter
        (world.planFor sync freshAfter existingPickEntryIds requiredTransferEntryIds))
    | _ => world
  | .audit id auditedPickEntryIds missingTransferEntryIds =>
    match world.calls id with
    | .planned sync freshAfter plan =>
      world.proceed id (auditedPhase sync freshAfter plan
        (world.planFor sync freshAfter auditedPickEntryIds missingTransferEntryIds))
    | _ => world
  | .readPostWorkCutoff id =>
    match world.calls id with
    | .audited sync freshAfter plan =>
      world.proceed id (finishedPhase sync freshAfter plan
        ((world.finalizedAt sync.call.eventId).map .exact))
    | _ => world

/-- Before the first write and the first call. -/
def initial : ResultSyncWorld where
  stored := .initial
  sources := fun _ => none
  finalizedAt := fun _ => none
  active := []
  calls := fun _ => .idle

/-- A call that returns while its event is finalized leaves every entry it started with on a source
that is not earlier than the finalization. -/
def RestsOnFinal (world : ResultSyncWorld) (action : ResultSyncAction) : Prop :=
  ∀ id sync freshAfter plan summary finalization,
    action = .readPostWorkCutoff id → world.calls id = .audited sync freshAfter plan →
    (world.step action).calls id = .returned summary →
    world.finalizedAt sync.call.eventId = some finalization →
    ∀ entryId ∈ sync.entryIds, ∃ source ∈ world.sources (entryId, sync.call.eventId),
      finalization ≤ source.microseconds

/-- The sources of the entries of a call whose boundary is not before the finalization are not in
the millisecond of the finalization and before it. -/
def SourcesApart (world : ResultSyncWorld) (action : ResultSyncAction) : Prop :=
  ∀ id sync freshAfter plan finalization,
    action = .readPostWorkCutoff id → world.calls id = .audited sync freshAfter plan →
    world.finalizedAt sync.call.eventId = some finalization →
    finalization ≤ freshAfter.microseconds →
    ∀ entryId ∈ sync.entryIds, ∀ source ∈ world.sources (entryId, sync.call.eventId),
      ¬ (source.getTime = finalization / 1000 ∧ source.microseconds < finalization)

end ResultSyncWorld

end LetletmeData
