import LetletmeData.Library.Runs
import LetletmeData.Repositories.EntryResultUpserts

/-!
# Order of the writers of event results

The writers commit in any order, each with a payload that was fetched some time before. The update
from picks is guarded by the time of its source. The update from a history is not: one that was
fetched before the stored picks replaces their scores and keeps their time.
-/

namespace LetletmeData

open LetletmeData.Library

/-- A payload that scores are taken from, with the time it was fetched at in microseconds. -/
inductive ScorePayload where
  | history (items : List HistoryCurrentItem) (fetchedAt : ℕ)
  | picks (response : PicksResponse) (fetchedAt : ℕ)
  deriving DecidableEq

namespace ScorePayload

/-- When the payload was fetched. -/
def fetchedAt : ScorePayload → ℕ
  | .history _ fetchedAt | .picks _ fetchedAt => fetchedAt

/-- The payload reports scores for an event. -/
def Reports (payload : ScorePayload) (eventId : ℤ) (scores : ScoreFields) : Prop :=
  match payload with
  | .history items _ => ∃ item ∈ items, item.event = eventId ∧ item.points = scores.eventPoints ∧
      item.eventTransfers = some (scores.eventTransfers : ℚ) ∧
      item.eventTransfersCost = some (scores.eventTransfersCost : ℚ) ∧
      item.totalPoints = scores.overallPoints
  | .picks response _ => response.entryHistory.event = eventId ∧
      response.entryHistory.points = scores.eventPoints ∧
      response.entryHistory.eventTransfers = scores.eventTransfers ∧
      response.entryHistory.eventTransfersCost = scores.eventTransfersCost ∧
      response.entryHistory.totalPoints = scores.overallPoints

end ScorePayload

/-- The commits of the writers. The source of picks is stamped before they are fetched. -/
inductive EntryResultWrite where
  | upsertCoreFromHistory (known : KnownReferences) (entryId : ℤ)
      (history : List HistoryCurrentItem) (fetchedAt : ℕ)
  | seedPreEntryBaselines (known : KnownReferences) (units : List PreEntryBaselineUnit)
  | upsertFromPicksAndLive (known : KnownReferences) (entryId eventId : ℤ) (picks : PicksResponse)
      (live : EventPointsPayload) (richSyncedAt : Timestamp) (fetchedAt : ℕ)
      (stamped : richSyncedAt.microseconds ≤ fetchedAt)

/-- The results with the payload that the scores of each row were taken from. -/
structure EntryResultWorld where
  results : EntryResultTable
  evidence : ℤ × ℤ → Option ScorePayload

namespace EntryResultWorld

/-- Before the first write. -/
def initial : EntryResultWorld := { results := .empty, evidence := fun _ => none }

/-- One write; a write that throws is rolled back. -/
def step (world : EntryResultWorld) : EntryResultWrite → EntryResultWorld
  | .upsertCoreFromHistory known entryId history fetchedAt =>
    match LetletmeData.upsertCoreFromHistory known world.results entryId history with
    | .ok results =>
      { results := results
        evidence := fun key =>
          if key.1 = entryId ∧ key.2 ∈ (buildCoreHistoryUpsertPlan history).rows.map Prod.fst then
            some (.history history fetchedAt)
          else world.evidence key }
    | .error _ => world
  | .seedPreEntryBaselines known units =>
    match LetletmeData.seedPreEntryBaselines known world.results units with
    | .ok results => { world with results := results }
    | .error _ => world
  | .upsertFromPicksAndLive known entryId eventId picks live richSyncedAt fetchedAt _ =>
    match LetletmeData.upsertFromPicksAndLive known world.results entryId eventId picks live
      richSyncedAt with
    | .ok results =>
      { results := results
        evidence := fun key =>
          if key = (entryId, eventId) ∧ RichWrites world.results (entryId, eventId) richSyncedAt then
            some (.picks picks fetchedAt)
          else world.evidence key }
    | .error _ => world

/-- When the row of an entry and event was last written from picks, in milliseconds. -/
def richSyncedAt (world : EntryResultWorld) (key : ℤ × ℤ) : Option ℕ :=
  (world.results.find key).bind (·.richSyncedAt)

/-- Every row that claims to be from picks of some time has its scores from a payload fetched at or
after that time, and net points are what the transfers leave of the points. -/
def FollowsNewest (world : EntryResultWorld) : Prop :=
  ∀ key row, world.results.find key = some row →
    row.eventNetPoints = row.eventPoints - row.eventTransfersCost ∧
      ∀ time ∈ row.richSyncedAt, ∃ payload ∈ world.evidence key,
        payload.Reports key.2 row.scores ∧ 1000 * time ≤ payload.fetchedAt

/-- No row goes back to earlier picks. -/
def RichSyncedAtKept (world : EntryResultWorld) (write : EntryResultWrite) : Prop :=
  ∀ key, ∀ time ∈ world.richSyncedAt key,
    ∃ later ∈ (world.step write).richSyncedAt key, time ≤ later

/-- A history that is committed was not fetched before the picks of a row it replaces. -/
def HistoryInTime (world : EntryResultWorld) : EntryResultWrite → Prop
  | .upsertCoreFromHistory known entryId history fetchedAt =>
    (∃ results,
      LetletmeData.upsertCoreFromHistory known world.results entryId history = .ok results) →
    ∀ event ∈ (buildCoreHistoryUpsertPlan history).rows.map Prod.fst,
      ∀ time ∈ world.richSyncedAt (entryId, event), 1000 * time ≤ fetchedAt
  | _ => True

variable {world : EntryResultWorld}

/-- Scores that are stored from an item are reported by its history. -/
theorem reports_of_mem_plan {history : List HistoryCurrentItem} {fetchedAt : ℕ} {entryId event : ℤ}
    {values : EntryResultRow ℚ} (hvalues : (event, values) ∈ (buildCoreHistoryUpsertPlan history).rows)
    (hstorable : values.Storable (entryId, event)) :
    (ScorePayload.history history fetchedAt).Reports event values.stored.scores := by
  obtain ⟨item, hitem, hcore⟩ := List.mem_filterMap.mp hvalues
  obtain ⟨hinteger, hevent, htransfers, hcost, hpoints, htotal, -, -⟩ :=
    HistoryCurrentItem.coreRow_eq_some hcore
  obtain ⟨hscore, hscoreTransfers, hscoreCost, -, hscoreTotal⟩ := hstorable.scores
  refine ⟨item, hitem, ?_, ?_, ?_, ?_, ?_⟩
  · rw [hevent, hinteger.num_eq]
  · rw [hscore, hpoints]
  · rw [hscoreTransfers, htransfers]
  · rw [hscoreCost, hcost]
  · rw [hscoreTotal, htotal]

/-- Net points that are stored are those of the stored points and cost. -/
theorem netPoints_of_storable {key : ℤ × ℤ} {values : EntryResultRow ℚ} {row : EntryResultRow ℤ}
    (hstorable : values.Storable key)
    (hnet : values.eventNetPoints = values.eventPoints - values.eventTransfersCost)
    (hscores : row.scores = values.stored.scores) :
    row.eventNetPoints = row.eventPoints - row.eventTransfersCost := by
  obtain ⟨hpoints, -, hcost, hscoreNet, -⟩ := hstorable.scores
  rw [← hscores] at hpoints hcost hscoreNet
  have hrational : (row.scores.eventNetPoints : ℚ) =
      row.scores.eventPoints - row.scores.eventTransfersCost := by
    rw [hscoreNet, hpoints, hcost, hnet]
  exact_mod_cast hrational

/-! ### What a write does to a row -/

/-- A row after a history was written: as it was, or with the scores of the history. -/
theorem step_upsertCoreFromHistory {known : KnownReferences} {entryId : ℤ}
    {history : List HistoryCurrentItem} {results : EntryResultTable}
    (h : LetletmeData.upsertCoreFromHistory known world.results entryId history = .ok results)
    (fetchedAt : ℕ) (key : ℤ × ℤ) :
    let after := world.step (.upsertCoreFromHistory known entryId history fetchedAt)
    (key.1 = entryId ∧ key.2 ∈ (buildCoreHistoryUpsertPlan history).rows.map Prod.fst ∧
      after.evidence key = some (.history history fetchedAt) ∧
      ∃ row, after.results.find key = some row ∧
        row.richSyncedAt = world.richSyncedAt key ∧
        row.eventNetPoints = row.eventPoints - row.eventTransfersCost ∧
        (ScorePayload.history history fetchedAt).Reports key.2 row.scores) ∨
      (¬ (key.1 = entryId ∧ key.2 ∈ (buildCoreHistoryUpsertPlan history).rows.map Prod.fst) ∧
        after.evidence key = world.evidence key ∧
        after.results.find key = world.results.find key) := by
  have hupserted := coreUpserted_of_upsertCoreFromHistory h
  intro after
  have hafter : after =
      { results := results
        evidence := fun key =>
          if key.1 = entryId ∧ key.2 ∈ (buildCoreHistoryUpsertPlan history).rows.map Prod.fst then
            some (.history history fetchedAt)
          else world.evidence key } := by
    simp only [after, step, h]
  rw [hafter]
  by_cases hkey : key.1 = entryId ∧ key.2 ∈ (buildCoreHistoryUpsertPlan history).rows.map Prod.fst
  · left
    obtain ⟨values, row, hvalues, hstorable, hrow, hscores, hrich⟩ :=
      hupserted.written key.2 hkey.2
    obtain ⟨item, _, hcore⟩ := List.mem_filterMap.mp hvalues
    have hnet := (HistoryCurrentItem.coreRow_eq_some hcore).2.2.2.2.2.2.1
    obtain ⟨rfl, hevent⟩ := hkey
    refine ⟨rfl, hevent, if_pos ⟨rfl, hevent⟩, row, hrow, hrich,
      netPoints_of_storable hstorable hnet hscores, ?_⟩
    rw [hscores]
    exact reports_of_mem_plan hvalues hstorable
  · exact Or.inr ⟨hkey, if_neg hkey, hupserted.kept key hkey⟩

/-- A row after a seed: as it was, or a baseline. -/
theorem step_seedPreEntryBaselines {known : KnownReferences} {units : List PreEntryBaselineUnit}
    {results : EntryResultTable}
    (h : LetletmeData.seedPreEntryBaselines known world.results units = .ok results) :
    world.step (.seedPreEntryBaselines known units) = { world with results := results } ∧
      BaselinesSeeded world.results results := by
  refine ⟨?_, baselinesSeeded_of_seedPreEntryBaselines h⟩
  simp only [step, h]

/-- A row after a write from picks: as it was, or with the scores of the picks. -/
theorem step_upsertFromPicksAndLive {known : KnownReferences} {entryId eventId : ℤ}
    {picks : PicksResponse} {live : EventPointsPayload} {richSyncedAt : Timestamp} {fetchedAt : ℕ}
    {results : EntryResultTable}
    (h : LetletmeData.upsertFromPicksAndLive known world.results entryId eventId picks live
      richSyncedAt = .ok results) (stamped : richSyncedAt.microseconds ≤ fetchedAt)
    (key : ℤ × ℤ) :
    let after := world.step
      (.upsertFromPicksAndLive known entryId eventId picks live richSyncedAt fetchedAt stamped)
    (RichWrites world.results key richSyncedAt ∧
      after.evidence key = some (.picks picks fetchedAt) ∧
      ∃ row, after.results.find key = some row ∧
        row.richSyncedAt = some richSyncedAt.getTime ∧
        row.eventNetPoints = row.eventPoints - row.eventTransfersCost ∧
        (ScorePayload.picks picks fetchedAt).Reports key.2 row.scores) ∨
      (after.evidence key = world.evidence key ∧
        after.results.find key = world.results.find key) := by
  obtain ⟨hevent, hstorable, hfind⟩ := upsertFromPicksAndLive_eq_ok h
  intro after
  have hafter : after =
      { results := results
        evidence := fun key =>
          if key = (entryId, eventId) ∧ RichWrites world.results (entryId, eventId) richSyncedAt then
            some (.picks picks fetchedAt)
          else world.evidence key } := by
    simp only [after, step, h]
  rw [hafter]
  by_cases hkey :
      key = (entryId, eventId) ∧ RichWrites world.results (entryId, eventId) richSyncedAt
  · left
    have hrow := hfind key
    rw [if_pos hkey] at hrow
    refine ⟨?_, if_pos hkey, _, hrow, rfl, netPoints_of_storable hstorable rfl rfl, ?_⟩
    · rw [hkey.1]
      exact hkey.2
    · obtain ⟨hpoints, htransfers, hcost, -, htotal⟩ := hstorable.scores
      rw [hkey.1]
      exact ⟨hevent, hpoints.symm, htransfers.symm, hcost.symm, htotal.symm⟩
  · right
    have hrow := hfind key
    rw [if_neg hkey] at hrow
    exact ⟨if_neg hkey, hrow⟩

/-- No write sets a row back to earlier picks. -/
theorem richSyncedAtKept (world : EntryResultWorld) (write : EntryResultWrite) :
    RichSyncedAtKept world write := by
  intro key time htime
  cases write with
  | upsertCoreFromHistory known entryId history fetchedAt =>
    cases h : LetletmeData.upsertCoreFromHistory known world.results entryId history with
    | error error =>
      refine ⟨time, ?_, le_rfl⟩
      simpa only [step, h] using htime
    | ok results =>
      refine ⟨time, ?_, le_rfl⟩
      rcases step_upsertCoreFromHistory h fetchedAt key with hwritten | hkept
      · obtain ⟨-, -, -, row, hrow, hrich, -⟩ := hwritten
        rw [richSyncedAt, hrow]
        exact hrich.trans htime
      · rw [richSyncedAt, hkept.2.2]
        exact htime
  | seedPreEntryBaselines known units =>
    cases h : LetletmeData.seedPreEntryBaselines known world.results units with
    | error error =>
      refine ⟨time, ?_, le_rfl⟩
      simpa only [step, h] using htime
    | ok results =>
      obtain ⟨hstep, hseeded⟩ := step_seedPreEntryBaselines h
      refine ⟨time, ?_, le_rfl⟩
      rw [hstep]
      obtain ⟨row, hrow, hrich⟩ := Option.bind_eq_some_iff.mp htime
      exact Option.bind_eq_some_iff.mpr ⟨row, hseeded.kept key row hrow, hrich⟩
  | upsertFromPicksAndLive known entryId eventId picks live richSyncedAt fetchedAt stamped =>
    cases h : LetletmeData.upsertFromPicksAndLive known world.results entryId eventId picks live
      richSyncedAt with
    | error error =>
      refine ⟨time, ?_, le_rfl⟩
      simpa only [step, h] using htime
    | ok results =>
      rcases step_upsertFromPicksAndLive h stamped key with
        hwritten | hkept
      · obtain ⟨hwrites, -, row, hrow, hrich, -⟩ := hwritten
        obtain ⟨old, hold, htimeOld⟩ := Option.bind_eq_some_iff.mp htime
        refine ⟨richSyncedAt.getTime, ?_, (hwrites old hold time htimeOld).le⟩
        rw [EntryResultWorld.richSyncedAt, hrow]
        exact hrich
      · refine ⟨time, ?_, le_rfl⟩
        rw [EntryResultWorld.richSyncedAt, hkept.2]
        exact htime

/-- A history keeps the rows on the newest evidence exactly when it is in time. -/
theorem followsNewest_upsertCoreFromHistory_iff (hworld : world.FollowsNewest)
    {known : KnownReferences} {entryId : ℤ} {history : List HistoryCurrentItem} {fetchedAt : ℕ}
    {results : EntryResultTable}
    (h : LetletmeData.upsertCoreFromHistory known world.results entryId history = .ok results) :
    (world.step (.upsertCoreFromHistory known entryId history fetchedAt)).FollowsNewest ↔
      ∀ event ∈ (buildCoreHistoryUpsertPlan history).rows.map Prod.fst,
        ∀ time ∈ world.richSyncedAt (entryId, event), 1000 * time ≤ fetchedAt := by
  have hspec := step_upsertCoreFromHistory h fetchedAt
  constructor
  · intro hnewest event hevent time htime
    rcases hspec (entryId, event) with hwritten | hkept
    · obtain ⟨-, -, hevidence, row, hrow, hrich, -⟩ := hwritten
      obtain ⟨payload, hpayload, -, hle⟩ :=
        (hnewest _ row hrow).2 time (hrich.trans htime)
      obtain rfl := Option.some.inj (hevidence.symm.trans hpayload)
      exact hle
    · exact absurd ⟨rfl, hevent⟩ hkept.1
  · intro hinTime key row hrow
    rcases hspec key with hwritten | hkept
    · obtain ⟨rfl, hevent, hevidence, row', hrow', hrich, hnet, hreports⟩ := hwritten
      obtain rfl := Option.some.inj (hrow'.symm.trans hrow)
      refine ⟨hnet, fun time htime => ⟨_, hevidence, hreports, ?_⟩⟩
      exact hinTime key.2 hevent time (hrich.symm.trans htime)
    · rw [hkept.2.2] at hrow
      rw [hkept.2.1]
      exact hworld key row hrow

/-- A seed keeps the rows on the newest evidence. -/
theorem followsNewest_seedPreEntryBaselines (hworld : world.FollowsNewest)
    {known : KnownReferences} {units : List PreEntryBaselineUnit} :
    (world.step (.seedPreEntryBaselines known units)).FollowsNewest := by
  cases h : LetletmeData.seedPreEntryBaselines known world.results units with
  | error error =>
    simp only [step, h]
    exact hworld
  | ok results =>
    obtain ⟨hstep, hseeded⟩ := step_seedPreEntryBaselines h
    rw [hstep]
    intro key row hrow
    rcases hseeded.added key row hrow with hold | hbaseline
    · exact hworld key row hold
    · rw [hbaseline]
      simp [preEntryBaseline, EntryResultRow.stored]

/-- Picks stamped before they were fetched keep the rows on the newest evidence. -/
theorem followsNewest_upsertFromPicksAndLive (hworld : world.FollowsNewest)
    {known : KnownReferences} {entryId eventId : ℤ} {picks : PicksResponse}
    {live : EventPointsPayload} {richSyncedAt : Timestamp} {fetchedAt : ℕ}
    (stamped : richSyncedAt.microseconds ≤ fetchedAt) :
    (world.step (.upsertFromPicksAndLive known entryId eventId picks live richSyncedAt fetchedAt
      stamped)).FollowsNewest := by
  cases h : LetletmeData.upsertFromPicksAndLive known world.results entryId eventId picks live
    richSyncedAt with
  | error error =>
    simp only [step, h]
    exact hworld
  | ok results =>
    intro key row hrow
    rcases step_upsertFromPicksAndLive h stamped key with
      hwritten | hkept
    · obtain ⟨-, hevidence, row', hrow', hrich, hnet, hreports⟩ := hwritten
      obtain rfl := Option.some.inj (hrow'.symm.trans hrow)
      refine ⟨hnet, fun time htime => ⟨_, hevidence, hreports, ?_⟩⟩
      obtain rfl := Option.some.inj (hrich.symm.trans htime)
      have hdate := richSyncedAt.getTime_eq
      change 1000 * richSyncedAt.getTime ≤ fetchedAt
      omega
    · rw [hkept.2] at hrow
      rw [hkept.1]
      exact hworld key row hrow

/-- A write keeps the rows on the newest evidence exactly when a history is in time. -/
theorem followsNewest_step_iff (hworld : world.FollowsNewest) (write : EntryResultWrite) :
    (world.step write).FollowsNewest ↔ HistoryInTime world write := by
  cases write with
  | upsertCoreFromHistory known entryId history fetchedAt =>
    cases h : LetletmeData.upsertCoreFromHistory known world.results entryId history with
    | error error => simp [step, HistoryInTime, h, hworld]
    | ok results =>
      rw [followsNewest_upsertCoreFromHistory_iff hworld h]
      simp [HistoryInTime, h]
  | seedPreEntryBaselines known units =>
    exact iff_of_true (followsNewest_seedPreEntryBaselines hworld) trivial
  | upsertFromPicksAndLive known entryId eventId picks live richSyncedAt fetchedAt stamped =>
    exact iff_of_true (followsNewest_upsertFromPicksAndLive hworld stamped) trivial

/-- In every order of commits no row goes back to earlier picks, and the rows follow the newest
evidence in every state exactly when every history that is committed is in time. -/
theorem storedResults_followNewest_iff (writes : List EntryResultWrite) :
    EveryStep step RichSyncedAtKept initial writes ∧
      ((∀ before, before <+: writes → (runSteps step initial before).FollowsNewest) ↔
        EveryStep step HistoryInTime initial writes) := by
  have hinitial : initial.FollowsNewest := fun key row hrow => by
    simp [initial] at hrow
  have hstep : ∀ world write, FollowsNewest world →
      (FollowsNewest (step world write) ↔ HistoryInTime world write) :=
    fun world write hworld => followsNewest_step_iff hworld write
  exact ⟨everyStep_of_forall richSyncedAtKept initial writes,
    forall_prefix_iff_everyStep hstep initial writes hinitial⟩

/-- Fifteen picks with the first as captain. -/
def fifteenPicks : List PickItem :=
  (List.range 15).map fun index =>
    { element := index + 1, position := index + 1
      multiplier := if index = 0 then 2 else if index < 11 then 1 else 0
      isCaptain := index = 0, isViceCaptain := index = 1 }

/-- Picks of an event with the given points. -/
def picksWithPoints (event points : ℚ) : PicksResponse where
  activeChip := none
  automaticSubs := []
  entryHistory :=
    { event := event, points := points, totalPoints := points, rank := none, overallRank := none
      bank := 0, value := 1000, eventTransfers := 1, eventTransfersCost := 0, pointsOnBench := 0 }
  picks := fifteenPicks

/-- A history with one event. -/
def historyWithPoints (event points : ℚ) : List HistoryCurrentItem :=
  [{ event := event, points := points, totalPoints := points, rank := none, overallRank := none
     bank := none, value := none, eventTransfers := some 1, eventTransfersCost := some 0
     pointsOnBench := none }]

/-- A history fetched at 1 s is committed after picks fetched at 5 s: the row keeps the time of the
picks and shows the points of the history. -/
theorem storedResults_slowHistory :
    let live : EventPointsPayload := (List.range 15).map fun index => ((index : ℚ) + 1, 2)
    let writes : List EntryResultWrite :=
      [.upsertFromPicksAndLive (fun _ _ => true) 7 3 (picksWithPoints 3 60) live (.exact 5000000)
        5000000 le_rfl,
        .upsertCoreFromHistory (fun _ _ => true) 7 (historyWithPoints 3 41) 1000000]
    let after := runSteps step initial writes
    (after.results.find (7, 3)).map (fun row => (row.richSyncedAt, row.eventPoints)) =
      some (some 5000, 41) ∧ ¬ after.FollowsNewest := by
  intro live writes after
  have hshown : (after.results.find (7, 3)).map (fun row => (row.richSyncedAt, row.eventPoints)) =
      some (some 5000, 41) := by decide +kernel
  have hevidence : (after.evidence (7, 3)).map ScorePayload.fetchedAt = some 1000000 := by
    decide +kernel
  refine ⟨hshown, fun hnewest => ?_⟩
  obtain ⟨row, hrow, hshows⟩ := Option.map_eq_some_iff.mp hshown
  obtain ⟨payload, hpayload, -, hle⟩ := (hnewest _ row hrow).2 5000 (Prod.ext_iff.mp hshows).1
  have hfetched : some payload.fetchedAt = some 1000000 := by
    rw [← hevidence, Option.mem_def.mp hpayload]
    rfl
  obtain hat := Option.some.inj hfetched
  omega

end EntryResultWorld

end LetletmeData
