import LetletmeData.Services.TournamentEventResults

/-!
# Final results on final evidence

An audit that leaves no work found every entry with picks at or after the boundary, in milliseconds,
and a call returns only when its event was not finalized after the boundary. The sources of the
entries are then not before the millisecond of the finalization. Within that millisecond a source
before the finalization goes unnoticed.
-/

namespace LetletmeData

open LetletmeData.Library

namespace ResultSyncWorld

variable {world : ResultSyncWorld}

/-- Where a call stands after one has proceeded. -/
theorem calls_of_proceed {id other : ℕ} {phase now : ResultSyncPhase}
    (h : (world.proceed id phase).calls other = now) : phase = now ∨ world.calls other = now := by
  by_cases hid : other = id
  · left
    simpa [proceed, hid] using h
  · right
    simpa [proceed, hid] using h

/-! ### Writes -/

/-- Sources change with the times of the rows. -/
theorem richSyncedAt_step (hmarked : ∀ key,
      world.stored.richSyncedAt key = (world.sources key).map Timestamp.getTime)
    (write : EntryResultWrite) (key : ℤ × ℤ) :
    (world.stored.step write).richSyncedAt key =
      (world.sourcesAfter write key).map Timestamp.getTime := by
  cases write with
  | upsertCoreFromHistory known entryId history fetchedAt =>
    change _ = (world.sources key).map Timestamp.getTime
    rw [← hmarked key]
    cases h : upsertCoreFromHistory known world.stored.results entryId history with
    | error error => simp only [EntryResultWorld.step, h]
    | ok results =>
      rcases EntryResultWorld.step_upsertCoreFromHistory h fetchedAt key with
        hwritten | hkept
      · obtain ⟨-, -, -, row, hrow, hrich, -⟩ := hwritten
        rw [EntryResultWorld.richSyncedAt, hrow]
        exact hrich
      · rw [EntryResultWorld.richSyncedAt, hkept.2.2]
        rfl
  | seedPreEntryBaselines known units =>
    change _ = (world.sources key).map Timestamp.getTime
    rw [← hmarked key]
    cases h : seedPreEntryBaselines known world.stored.results units with
    | error error => simp only [EntryResultWorld.step, h]
    | ok results =>
      obtain ⟨hstep, hseeded⟩ := EntryResultWorld.step_seedPreEntryBaselines h
      rw [hstep, EntryResultWorld.richSyncedAt, EntryResultWorld.richSyncedAt]
      cases hold : world.stored.results.find key with
      | some row => rw [hseeded.kept key row hold]
      | none =>
        cases hnew : results.find key with
        | none => rfl
        | some row =>
          obtain rfl := (hseeded.added key row hnew).resolve_left (by simp [hold])
          rfl
  | upsertFromPicksAndLive known entryId eventId picks live richSyncedAt fetchedAt stamped =>
    cases h : upsertFromPicksAndLive known world.stored.results entryId eventId picks live
      richSyncedAt with
    | error error =>
      simp only [EntryResultWorld.step, sourcesAfter, h]
      exact hmarked key
    | ok results =>
      have hfind := (upsertFromPicksAndLive_eq_ok h).2.2 key
      simp only [EntryResultWorld.step, sourcesAfter, h, EntryResultWorld.richSyncedAt, hfind]
      split
      next => rfl
      next => exact hmarked key

/-! ### Audits -/

/-- An entry that an audit does not require has picks at or after the boundary. -/
theorem exists_richSyncedAt_of_not_required {sync : ResultSync} {freshAfter : Timestamp}
    {pickEntryIds transferEntryIds : List ℤ} {entryId : ℤ} (hentry : entryId ∈ sync.entryIds)
    (hnot : entryId ∉
      (world.planFor sync freshAfter pickEntryIds transferEntryIds).requiredResultEntryIds) :
    ∃ time ∈ world.stored.richSyncedAt (entryId, sync.call.eventId), freshAfter.getTime ≤ time := by
  have hfresh : entryId ∉ findEntryIdsNeedingRichSync world.stored.results sync.entryIds
      sync.call.eventId freshAfter := by
    intro hstale
    refine hnot (List.mem_filter.mpr ⟨hentry, ?_⟩)
    simp [hstale]
  have hrow : ∃ row ∈ world.stored.results.find (entryId, sync.call.eventId),
      ∃ time ∈ row.richSyncedAt, freshAfter.getTime ≤ time := by
    by_contra hnone
    exact hfresh (List.mem_filter.mpr ⟨hentry, decide_eq_true hnone⟩)
  obtain ⟨row, hrow, time, htime, hle⟩ := hrow
  exact ⟨time, Option.bind_eq_some_iff.mpr ⟨row, hrow, htime⟩, hle⟩

/-- An audit that a call passes requires no entry. -/
theorem eq_nil_of_auditedPhase {sync sync' : ResultSync} {freshAfter freshAfter' : Timestamp}
    {plan audit plan' : TournamentEventSyncPlan}
    (h : auditedPhase sync freshAfter plan audit = .audited sync' freshAfter' plan') :
    sync = sync' ∧ freshAfter = freshAfter' ∧ audit.requiredResultEntryIds = [] := by
  unfold auditedPhase at h
  dsimp only at h
  split at h
  next => simp at h
  next hnone =>
    obtain ⟨hsync, hfresh, -⟩ := ResultSyncPhase.audited.inj h
    refine ⟨hsync, hfresh, List.length_eq_zero_iff.mp ?_⟩
    unfold requiredUnits at hnone
    omega

/-- A call that returns was not overtaken by a finalization. -/
theorem le_of_finishedPhase {sync : ResultSync} {freshAfter : Timestamp}
    {plan : TournamentEventSyncPlan} {finalization : ℕ} :
    (∃ summary, finishedPhase sync freshAfter plan (some (.exact finalization)) =
      .returned summary) ↔ finalization ≤ freshAfter.microseconds := by
  unfold finishedPhase
  cases hnewer : isFreshnessBoundaryNewer freshAfter (some (.exact finalization)) with
  | true =>
    have hlater : ¬ finalization ≤ freshAfter.microseconds := by
      intro hle
      rw [(isFreshnessBoundaryNewer_eq_false freshAfter (.exact finalization)).mpr hle] at hnewer
      simp at hnewer
    simp [hlater]
  | false =>
    have hle : finalization ≤ freshAfter.microseconds :=
      (isFreshnessBoundaryNewer_eq_false freshAfter (.exact finalization)).mp hnewer
    simp [hle]

/-! ### The invariant -/

/-- Rows carry the milliseconds of their sources, and the entries of a call that passed its audit
have picks at or after its boundary. -/
structure Evidenced (world : ResultSyncWorld) : Prop where
  marked : ∀ key, world.stored.richSyncedAt key = (world.sources key).map Timestamp.getTime
  audited : ∀ id sync freshAfter plan, world.calls id = .audited sync freshAfter plan →
    ∀ entryId ∈ sync.entryIds, ∃ time ∈ world.stored.richSyncedAt (entryId, sync.call.eventId),
      freshAfter.getTime ≤ time

/-- Nothing is stored at the start. -/
theorem evidenced_initial : initial.Evidenced :=
  ⟨fun _ => rfl, fun _ _ _ _ hid => absurd hid (by simp [initial])⟩

/-- A call that proceeds to an audited phase only with its evidence. -/
theorem Evidenced.proceed (h : world.Evidenced) {id : ℕ} {phase : ResultSyncPhase}
    (hphase : ∀ sync freshAfter plan, phase = .audited sync freshAfter plan →
      ∀ entryId ∈ sync.entryIds, ∃ time ∈ world.stored.richSyncedAt (entryId, sync.call.eventId),
        freshAfter.getTime ≤ time) : (world.proceed id phase).Evidenced := by
  refine ⟨h.marked, fun other sync freshAfter plan hother => ?_⟩
  rcases calls_of_proceed hother with hnow | hbefore
  · exact hphase sync freshAfter plan hnow
  · exact h.audited other sync freshAfter plan hbefore

/-- Every write, change and read keeps the invariant. -/
theorem Evidenced.step (h : world.Evidenced) (action : ResultSyncAction) :
    (world.step action).Evidenced := by
  cases action with
  | write write =>
    refine ⟨richSyncedAt_step h.marked write, fun id sync freshAfter plan hid entryId hentry => ?_⟩
    obtain ⟨time, htime, hle⟩ := h.audited id sync freshAfter plan hid entryId hentry
    obtain ⟨later, hlater, hkept⟩ := EntryResultWorld.richSyncedAtKept world.stored write
      (entryId, sync.call.eventId) time htime
    exact ⟨later, hlater, hle.trans hkept⟩
  | setFinalization eventId dataCheckedAt => exact ⟨h.marked, h.audited⟩
  | setActive tournaments => exact ⟨h.marked, h.audited⟩
  | readRoster id call =>
    simp only [ResultSyncWorld.step]
    split
    next =>
      refine h.proceed fun sync freshAfter plan hphase => ?_
      split at hphase
      · exact absurd hphase (by simp)
      · exact absurd hphase (by simp)
    next => exact h
  | readEvent id =>
    simp only [ResultSyncWorld.step]
    split
    next => exact h.proceed fun _ _ _ hphase => absurd hphase (by simp)
    next => exact h
  | readCutoff id =>
    simp only [ResultSyncWorld.step]
    split
    next => exact h.proceed fun _ _ _ hphase => absurd hphase (by simp)
    next => exact h
  | plan id existingPickEntryIds requiredTransferEntryIds =>
    simp only [ResultSyncWorld.step]
    split
    next => exact h.proceed fun _ _ _ hphase => absurd hphase (by simp)
    next => exact h
  | audit id auditedPickEntryIds missingTransferEntryIds =>
    simp only [ResultSyncWorld.step]
    split
    next sync freshAfter plan hid =>
      refine h.proceed fun sync' freshAfter' plan' hphase entryId hentry => ?_
      obtain ⟨hsync, hboundary, hnone⟩ := eq_nil_of_auditedPhase hphase
      rw [← hsync] at hentry ⊢
      rw [← hboundary]
      have hnot : entryId ∉ (world.planFor sync freshAfter auditedPickEntryIds
          missingTransferEntryIds).requiredResultEntryIds := by
        rw [hnone]
        exact List.not_mem_nil
      exact exists_richSyncedAt_of_not_required hentry hnot
    next => exact h
  | readPostWorkCutoff id =>
    simp only [ResultSyncWorld.step]
    split
    next sync freshAfter plan hid =>
      refine h.proceed fun sync' freshAfter' plan' hphase => ?_
      unfold finishedPhase at hphase
      dsimp only at hphase
      split at hphase <;> simp at hphase
    next => exact h

/-! ### Returns -/

/-- A call returns while its event is finalized exactly when its boundary is not earlier. -/
theorem returned_iff {id : ℕ} {sync : ResultSync} {freshAfter : Timestamp}
    {plan : TournamentEventSyncPlan} {finalization : ℕ}
    (hid : world.calls id = .audited sync freshAfter plan)
    (hfinal : world.finalizedAt sync.call.eventId = some finalization) :
    (∃ summary, (world.step (.readPostWorkCutoff id)).calls id = .returned summary) ↔
      finalization ≤ freshAfter.microseconds := by
  have hcalls : (world.step (.readPostWorkCutoff id)).calls id =
      finishedPhase sync freshAfter plan (some (.exact finalization)) := by
    simp [step, hid, hfinal, proceed]
  rw [hcalls]
  exact le_of_finishedPhase

/-- With its evidence, a return rests on final sources exactly when none is in the millisecond of
the finalization and before it. -/
theorem Evidenced.restsOnFinal_iff (h : world.Evidenced) (action : ResultSyncAction) :
    RestsOnFinal world action ↔ SourcesApart world action := by
  constructor
  · intro hrests id sync freshAfter plan finalization haction hid hfinal hle entryId hentry source
      hsource hclose
    obtain ⟨summary, hsummary⟩ := (returned_iff hid hfinal).mpr hle
    rw [← haction] at hsummary
    obtain ⟨source', hsource', hlate⟩ :=
      hrests id sync freshAfter plan summary finalization haction hid hsummary hfinal entryId hentry
    obtain rfl := Option.some.inj (hsource.symm.trans hsource')
    exact absurd hclose.2 (not_lt.mpr hlate)
  · intro hapart id sync freshAfter plan summary finalization haction hid hsummary hfinal entryId
      hentry
    rw [haction] at hsummary
    have hle := (returned_iff hid hfinal).mp ⟨summary, hsummary⟩
    obtain ⟨time, htime, hfresh⟩ := h.audited id sync freshAfter plan hid entryId hentry
    rw [h.marked] at htime
    obtain ⟨source, hsource, rfl⟩ := Option.map_eq_some_iff.mp htime
    refine ⟨source, hsource, ?_⟩
    have hnot := hapart id sync freshAfter plan finalization haction hid hfinal hle entryId hentry
      source hsource
    rw [Timestamp.getTime_eq] at hfresh hnot
    rw [Timestamp.getTime_eq] at hfresh
    omega

/-- In every history of writes, finalizations and calls, every call that returns while its event is
finalized rests on final sources exactly when no source of its entries is earlier than the
finalization within the same millisecond. -/
theorem finalResults_restOnFinal_iff (actions : List ResultSyncAction) :
    EveryStep step RestsOnFinal initial actions ↔ EveryStep step SourcesApart initial actions :=
  everyStep_congr (fun _ action (h : Evidenced _) => h.step action)
    (fun _ action h => h.restsOnFinal_iff action) initial actions evidenced_initial

/-- A call for event 3 that finds its entry up to date. -/
def eventThreeCall : TournamentEventResultsCall where
  eventId := 3
  sourceCheckedAt := .exact 5000500
  freshAfter := none
  skipTransfers := true

/-- A tournament with entry 7. -/
def oneEntryTournament : ActiveTournament where
  id := 1
  standingsReadyAt := none
  entryIds := [7]

/-- Picks are stamped 0.1 ms into a millisecond and the event is finalized 0.8 ms later. The call
that returns afterwards takes the row for one from the finalization on. -/
theorem finalResults_sameMillisecond :
    let live : EventPointsPayload := (List.range 15).map fun index => ((index : ℚ) + 1, 2)
    let before : List ResultSyncAction :=
      [.write (.upsertFromPicksAndLive (fun _ _ => true) 7 3
          (EntryResultWorld.picksWithPoints 3 60) live (.exact 5000100) 5000100 le_rfl),
        .setActive [oneEntryTournament], .setFinalization 3 (some 5000900),
        .readRoster 0 eventThreeCall, .readEvent 0, .readCutoff 0, .plan 0 [7] [], .audit 0 [7] []]
    let world := runSteps step initial before
    world.sources (7, 3) = some (.exact 5000100) ∧ world.finalizedAt 3 = some 5000900 ∧
      (∃ summary, (world.step (.readPostWorkCutoff 0)).calls 0 = .returned summary) ∧
      ¬ EveryStep step RestsOnFinal initial (before ++ [.readPostWorkCutoff 0]) := by
  intro live before world
  have hsource : world.sources (7, 3) = some (.exact 5000100) := by decide +kernel
  have hfinal : world.finalizedAt 3 = some 5000900 := by decide +kernel
  have hid : world.calls 0 = .audited ⟨eventThreeCall, [oneEntryTournament]⟩ (.exact 5000900)
      { requiredResultEntryIds := [], requiredTransferEntryIds := [], reusedUnits := 1 } := by
    decide +kernel
  have hreturned := (returned_iff hid hfinal).mpr le_rfl
  refine ⟨hsource, hfinal, hreturned, fun hrests => ?_⟩
  obtain ⟨summary, hsummary⟩ := hreturned
  have hlast : RestsOnFinal world (.readPostWorkCutoff 0) :=
    ((everyStep_append initial before _).mp hrests).2.1
  obtain ⟨source, hfound, hlate⟩ :=
    hlast 0 _ _ _ summary 5000900 rfl hid hsummary hfinal 7 (by decide)
  obtain rfl := Option.some.inj (hsource.symm.trans hfound)
  exact absurd hlate (by decide)

end ResultSyncWorld

end LetletmeData
