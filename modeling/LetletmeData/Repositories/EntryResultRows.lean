import LetletmeData.Domain.EntryPicks
import LetletmeData.Domain.Freshness
import LetletmeData.Library.KeyedTables
import LetletmeData.Library.Transactions
import LetletmeData.Repositories.PublicationTables

/-!
# Writers of event results

The rows of `competition.entry_event_results` of a season, and the three statements that write
them: from the history of an entry, as baselines before its first event, and from its picks.
`created_at`, `updated_at` and the generated id are left out.
-/

namespace LetletmeData

open LetletmeData.Library

/-- The columns of a result, with the numbers as they are sent or as they are stored. -/
structure EntryResultRow (Number : Type) where
  eventPoints : Number
  eventTransfers : Number
  eventTransfersCost : Number
  eventNetPoints : Number
  eventBenchPoints : Option Number
  eventAutoSubPoints : Option Number
  eventRank : Option Number
  eventChip : Option String
  playedCaptainElementId : Option Number
  captainPoints : Option Number
  automaticSubstitutions : Option (List AutomaticSub)
  overallPoints : Number
  overallRank : Number
  teamValue : Option Number
  bank : Option Number
  richSyncedAt : Option ℕ
  deriving DecidableEq

/-- The results of a season, each under its entry and its event. -/
abbrev EntryResultTable := KeyedTable (ℤ × ℤ) (EntryResultRow ℤ)

namespace EntryResultRow

/-- The numbers of a row. -/
def numbers {Number : Type} (row : EntryResultRow Number) : List Number :=
  [row.eventPoints, row.eventTransfers, row.eventTransfersCost, row.eventNetPoints,
    row.overallPoints, row.overallRank] ++
    [row.eventBenchPoints, row.eventAutoSubPoints, row.eventRank, row.playedCaptainElementId,
      row.captainPoints, row.teamValue, row.bank].reduceOption

/-- A row of integers. -/
def stored (row : EntryResultRow ℚ) : EntryResultRow ℤ where
  eventPoints := row.eventPoints.num
  eventTransfers := row.eventTransfers.num
  eventTransfersCost := row.eventTransfersCost.num
  eventNetPoints := row.eventNetPoints.num
  eventBenchPoints := row.eventBenchPoints.map (·.num)
  eventAutoSubPoints := row.eventAutoSubPoints.map (·.num)
  eventRank := row.eventRank.map (·.num)
  eventChip := row.eventChip
  playedCaptainElementId := row.playedCaptainElementId.map (·.num)
  captainPoints := row.captainPoints.map (·.num)
  automaticSubstitutions := row.automaticSubstitutions
  overallPoints := row.overallPoints.num
  overallRank := row.overallRank.num
  teamValue := row.teamValue.map (·.num)
  bank := row.bank.map (·.num)
  richSyncedAt := row.richSyncedAt

end EntryResultRow

/-- The values of an `integer` column. -/
def FitsInteger (value : ℚ) : Prop :=
  IsInteger value ∧ -2147483648 ≤ value ∧ value ≤ 2147483647

instance (value : ℚ) : Decidable (FitsInteger value) := inferInstanceAs (Decidable (_ ∧ _))

/-- `competition.chip`. -/
def dbChips : List String := ["n/a", "wildcard", "freehit", "bboost", "3xc", "manager"]

/-- The types and the check constraints of the table. -/
def EntryResultRow.Storable (key : ℤ × ℤ) (row : EntryResultRow ℚ) : Prop :=
  (0 < key.1 ∧ key.1 ≤ 2147483647 ∧ 0 < key.2 ∧ key.2 ≤ 2147483647) ∧
    (∀ number ∈ row.numbers, FitsInteger number) ∧ (∀ chip ∈ row.eventChip, chip ∈ dbChips) ∧
    (∀ element ∈ row.playedCaptainElementId, 0 < element) ∧ (∀ rank ∈ row.eventRank, 0 ≤ rank) ∧
    0 ≤ row.overallRank ∧ 0 ≤ row.eventTransfers ∧ 0 ≤ row.eventTransfersCost

instance (key : ℤ × ℤ) (row : EntryResultRow ℚ) : Decidable (row.Storable key) :=
  inferInstanceAs (Decidable (_ ∧ _))

/-- The foreign keys of a row: whether its season, its entry, its event and its captain exist. -/
abbrev KnownReferences := ℤ × ℤ → EntryResultRow ℤ → Bool

/-- `INSERT ... ON CONFLICT DO UPDATE` of one row, which the constraints may refuse. -/
def insertResult (known : KnownReferences)
    (onConflict : EntryResultRow ℤ → EntryResultRow ℤ → EntryResultRow ℤ)
    (table : EntryResultTable) (key : ℤ × ℤ) (values : EntryResultRow ℚ) :
    Except RepositoryError EntryResultTable :=
  if values.Storable key ∧ known key values.stored = true then
    .ok (table.insertOrUpdate key values.stored fun old => onConflict old values.stored)
  else .error (.constraintViolation "entry_event_results")

/-- Every error of the database is reported as one. -/
def asDatabaseError {Value : Type} (message code : String) :
    Except RepositoryError Value → Except RepositoryError Value
  | .ok value => .ok value
  | .error _ => .error (.databaseError message code)

/-- A wrapped call returns what it wraps. -/
@[simp] theorem asDatabaseError_eq_ok {Value : Type} {message code : String}
    {body : Except RepositoryError Value} {value : Value} :
    asDatabaseError message code body = .ok value ↔ body = .ok value := by
  cases body <;> simp [asDatabaseError]

/-! ### From the history of an entry -/

/-- `EntryHistoryCurrentItemSchema`; what is null or absent is `none`. -/
structure HistoryCurrentItem where
  event : ℚ
  points : ℚ
  totalPoints : ℚ
  rank : Option ℚ
  overallRank : Option ℚ
  bank : Option ℚ
  value : Option ℚ
  eventTransfers : Option ℚ
  eventTransfersCost : Option ℚ
  pointsOnBench : Option ℚ
  deriving DecidableEq

/-- The event of an item and the columns that are written for it, unless its transfers or their
cost are missing. -/
def HistoryCurrentItem.coreRow (item : HistoryCurrentItem) : Option (ℤ × EntryResultRow ℚ) := do
  let eventTransfers ← item.eventTransfers
  let eventTransfersCost ← item.eventTransfersCost
  guard (IsInteger item.event)
  return (item.event.num,
    { eventPoints := item.points
      eventTransfers := eventTransfers
      eventTransfersCost := eventTransfersCost
      eventNetPoints := item.points - eventTransfersCost
      eventBenchPoints := item.pointsOnBench
      eventAutoSubPoints := none
      eventRank := item.rank
      eventChip := none
      playedCaptainElementId := none
      captainPoints := none
      automaticSubstitutions := none
      overallPoints := item.totalPoints
      overallRank := item.overallRank.getD 0
      teamValue := item.value
      bank := item.bank
      richSyncedAt := none })

/-- `CoreHistoryUpsertPlan`; the upserted events are those of its rows. -/
structure CoreHistoryUpsertPlan where
  rows : List (ℤ × EntryResultRow ℚ)
  fallbackEventIds : List ℚ
  deriving DecidableEq

/-- `buildCoreHistoryUpsertPlan`. -/
def buildCoreHistoryUpsertPlan (history : List HistoryCurrentItem) : CoreHistoryUpsertPlan :=
  let rows := history.filterMap HistoryCurrentItem.coreRow
  { rows := rows
    fallbackEventIds := (history.map (·.event)).filter fun event =>
      event ∉ rows.map fun row => (row.1 : ℚ) }

/-- `CORE_HISTORY_BATCH_SIZE`. -/
def coreHistoryBatchSize : ℕ := 250

/-- `chunkCoreHistoryRows`. -/
def chunkCoreHistoryRows (rows : List (ℤ × EntryResultRow ℚ)) :
    List (List (ℤ × EntryResultRow ℚ)) :=
  (List.range ((rows.length + (coreHistoryBatchSize - 1)) / coreHistoryBatchSize)).map fun batch =>
    (rows.drop (batch * coreHistoryBatchSize)).take coreHistoryBatchSize

/-- `buildCoreHistoryConflictSet`. -/
def coreHistoryConflictSet (old excluded : EntryResultRow ℤ) : EntryResultRow ℤ :=
  { old with
    eventPoints := excluded.eventPoints
    eventTransfers := excluded.eventTransfers
    eventTransfersCost := excluded.eventTransfersCost
    eventNetPoints := excluded.eventNetPoints
    eventBenchPoints := excluded.eventBenchPoints.or old.eventBenchPoints
    eventRank := excluded.eventRank.or old.eventRank
    overallPoints := excluded.overallPoints
    overallRank := if excluded.overallRank = 0 then old.overallRank else excluded.overallRank
    teamValue := excluded.teamValue.or old.teamValue
    bank := excluded.bank.or old.bank }

/-- The insertion of one batch, which may not touch a row twice. -/
def insertCoreBatch (known : KnownReferences) (entryId : ℤ) (table : EntryResultTable)
    (batch : List (ℤ × EntryResultRow ℚ)) : Except RepositoryError EntryResultTable :=
  if (batch.map Prod.fst).Nodup then
    batch.foldlM
      (fun table row => insertResult known coreHistoryConflictSet table (entryId, row.1) row.2)
      table
  else .error (.constraintViolation "ON CONFLICT DO UPDATE command cannot affect row a second time")

/-- `upsertCoreFromHistory`. -/
def upsertCoreFromHistory (known : KnownReferences) (table : EntryResultTable) (entryId : ℤ)
    (history : List HistoryCurrentItem) : Except RepositoryError EntryResultTable :=
  asDatabaseError "Failed to upsert core entry event results from history"
    "ENTRY_EVENT_RESULTS_HISTORY_UPSERT_ERROR"
    ((chunkCoreHistoryRows (buildCoreHistoryUpsertPlan history).rows).foldlM
      (insertCoreBatch known entryId) table)

/-! ### Baselines -/

/-- `PreEntryBaselineUnit`. -/
structure PreEntryBaselineUnit where
  entryId : ℤ
  eventId : ℤ
  deriving DecidableEq

/-- `PRE_ENTRY_OVERALL_RANK`. -/
def preEntryOverallRank : ℚ := 2147483647

/-- A row before the first event of an entry. -/
def preEntryBaseline : EntryResultRow ℚ where
  eventPoints := 0
  eventTransfers := 0
  eventTransfersCost := 0
  eventNetPoints := 0
  eventBenchPoints := none
  eventAutoSubPoints := none
  eventRank := none
  eventChip := none
  playedCaptainElementId := none
  captainPoints := none
  automaticSubstitutions := none
  overallPoints := 0
  overallRank := preEntryOverallRank
  teamValue := none
  bank := none
  richSyncedAt := none

/-- `INSERT ... ON CONFLICT DO NOTHING` of a baseline. -/
def insertBaseline (known : KnownReferences) (table : EntryResultTable)
    (unit : PreEntryBaselineUnit) : Except RepositoryError EntryResultTable :=
  insertResult known (fun old _ => old) table (unit.entryId, unit.eventId) preEntryBaseline

/-- `seedPreEntryBaselines`; a unit that is listed twice is inserted once. -/
def seedPreEntryBaselines (known : KnownReferences) (table : EntryResultTable)
    (units : List PreEntryBaselineUnit) : Except RepositoryError EntryResultTable :=
  asDatabaseError "Failed to seed pre-entry event result baselines"
    "ENTRY_EVENT_RESULTS_BASELINE_UPSERT_ERROR"
    (((units.filter fun unit => 0 < unit.entryId ∧ 0 < unit.eventId).dedup).foldlM
      (insertBaseline known) table)

/-! ### From picks and live points -/

/-- The columns that are written from picks and live points. -/
def richRow (picks : PicksResponse) (live : EventPointsPayload) (richSyncedAt : Timestamp) :
    EntryResultRow ℚ :=
  let captainPick := resolveScoringCaptainPick picks.picks
  { eventPoints := picks.entryHistory.points
    eventTransfers := picks.entryHistory.eventTransfers
    eventTransfersCost := picks.entryHistory.eventTransfersCost
    eventNetPoints := picks.entryHistory.points - picks.entryHistory.eventTransfersCost
    eventBenchPoints := some picks.entryHistory.pointsOnBench
    eventAutoSubPoints := some (getAutoSubPoints picks.automaticSubs live)
    eventRank := picks.entryHistory.rank
    eventChip := toNullableDbChip picks.activeChip
    playedCaptainElementId := captainPick.map (·.element)
    captainPoints := captainPick.map fun pick =>
      (elementsPoints live pick.element).getD 0 * pick.multiplier
    automaticSubstitutions := some picks.automaticSubs
    overallPoints := picks.entryHistory.totalPoints
    overallRank := picks.entryHistory.overallRank.getD 0
    teamValue := some picks.entryHistory.value
    bank := some picks.entryHistory.bank
    richSyncedAt := some richSyncedAt.getTime }

/-- The condition of the update: the stored row is not from picks, or from earlier ones. -/
def RichUpdates (old : EntryResultRow ℤ) (richSyncedAt : Timestamp) : Prop :=
  ∀ stored ∈ old.richSyncedAt, stored < richSyncedAt.getTime

instance (old : EntryResultRow ℤ) (richSyncedAt : Timestamp) :
    Decidable (RichUpdates old richSyncedAt) :=
  inferInstanceAs (Decidable (∀ stored ∈ old.richSyncedAt, _))

/-- `upsertFromPicksAndLive`. -/
def upsertFromPicksAndLive (known : KnownReferences) (table : EntryResultTable)
    (entryId eventId : ℤ) (picks : PicksResponse) (live : EventPointsPayload)
    (richSyncedAt : Timestamp) : Except RepositoryError EntryResultTable := do
  throwIf (¬ IsEntryPicksPayloadForEvent picks eventId)
    (.plainError s!"Refusing rich picks for an unexpected event for entry {entryId}, event {eventId}")
  throwIf (¬ IsCompleteEntryPicks picks.picks)
    (.plainError s!"Refusing incomplete rich picks for entry {entryId}, event {eventId}")
  throwIf (¬ HasCompleteEntryPickLiveCoverage picks.picks (live.map Prod.fst))
    (.plainError s!"Refusing incomplete event-live coverage for entry {entryId}, event {eventId}")
  throwIf (¬ SubsValid entryId eventId (picks.picks.map (·.element)) picks.automaticSubs [] [])
    (.plainError s!"Refusing invalid automatic substitutions for entry {entryId}, event {eventId}")
  asDatabaseError "Failed to upsert entry event results" "ENTRY_EVENT_RESULTS_UPSERT_ERROR"
    (insertResult known
      (fun old excluded => if RichUpdates old richSyncedAt then excluded else old)
      table (entryId, eventId) (richRow picks live richSyncedAt))

end LetletmeData
