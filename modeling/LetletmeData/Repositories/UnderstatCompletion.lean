import LetletmeData.Repositories.UnderstatSync

/-!
# Completion of Understat runs

The last call that completes an item counts all items as completed. A call that counted earlier may
still write its older count after it, and moves a run that is ready back to running. Without such
late writes, the run ends ready.
-/

namespace LetletmeData

open LetletmeData.Library

namespace UnderstatWorld

variable {world : UnderstatWorld} {items : UnderstatItems}

/-! ### Counts -/

/-- Nothing is counted that no item has as its status. -/
theorem count_eq_zero {status : UnderstatItemStatus} :
    items.count status = 0 ↔ ∀ entry ∈ items.entries, entry.2.status ≠ status := by
  simp [UnderstatItems.count, List.countP_eq_zero]

/-- Counts without open or failed items mean that every item is completed, if none is skipped. -/
theorem allCompleted_of_ready (hskipped : ∀ entry ∈ items.entries, entry.2.status ≠ .skipped)
    (hready : items.counts.Ready) : AllCompleted items := by
  obtain ⟨hpending, hfailed⟩ := hready
  have hzero : items.count .pending = 0 ∧ items.count .running = 0 := by
    simpa [UnderstatItems.counts] using hpending
  intro entry hentry
  have hnotPending := count_eq_zero.mp hzero.1 entry hentry
  have hnotRunning := count_eq_zero.mp hzero.2 entry hentry
  have hnotFailed := count_eq_zero.mp hfailed entry hentry
  have hnotSkipped := hskipped entry hentry
  cases hstatus : entry.2.status <;> simp_all

/-- When every item is completed the counts say so. -/
theorem ready_of_allCompleted (h : AllCompleted items) : items.counts.Ready := by
  have hzero : ∀ status, status ≠ .completed → items.count status = 0 := by
    intro status hne
    refine count_eq_zero.mpr fun entry hentry hstatus => hne ?_
    rw [← hstatus, h entry hentry]
  constructor
  · simp [UnderstatItems.counts, hzero .pending (by decide), hzero .running (by decide)]
  · exact hzero .failed (by decide)

/-- When every item is completed all of them are counted. -/
theorem completedItems_of_allCompleted (h : AllCompleted items) :
    items.counts.completedItems = items.entries.length := by
  change items.entries.countP _ = _
  exact List.countP_eq_length.mpr fun entry hentry => by simpa using h entry hentry

/-- Counts of completed items call for the run to be ready. -/
theorem runStatus_of_ready {counts : UnderstatCounts} (h : counts.Ready) :
    counts.runStatus = .readyToPublish := by
  obtain ⟨hpending, hfailed⟩ := h
  simp [UnderstatCounts.runStatus, hpending, hfailed]

/-- Other counts call for another status. -/
theorem runStatus_of_not_ready {counts : UnderstatCounts} (h : ¬ counts.Ready) :
    counts.runStatus = .running ∨ counts.pendingItems = 0 ∧ counts.runStatus = .failed := by
  unfold UnderstatCounts.runStatus
  by_cases hpending : counts.pendingItems = 0
  · have hfailed : 0 < counts.failedItems :=
      Nat.pos_of_ne_zero fun hzero => h ⟨hpending, hzero⟩
    right
    simp [hpending, hfailed]
  · left
    simp [hpending]

/-! ### Updates of items -/

/-- An update rewrites the item under its key while it can be updated. -/
theorem entries_writeItem (key : UnderstatItemKey) (write : UnderstatItem → UnderstatItem) :
    (world.writeItem key write).entries = world.items.entries.map fun entry =>
      (entry.1, if entry.1 = key ∧ Unsettled world.run entry.2 then write entry.2 else entry.2) :=
  rfl

/-- An item that is updated was not completed. -/
theorem not_allCompleted_of_updates {key : UnderstatItemKey} (h : world.Updates key) :
    ¬ AllCompleted world.items ∧ world.run.status.Active := by
  obtain ⟨item, hitem, hunsettled⟩ := h
  exact ⟨fun hall => hunsettled.1 (hall _ (KeyedTable.mem_entries_iff.mpr hitem)),
    hunsettled.2.2⟩

/-- An item that is updated to another status is not completed. -/
theorem not_allCompleted_writeItem {key : UnderstatItemKey} (h : world.Updates key)
    (write : UnderstatItem → UnderstatItem) (hwrite : ∀ item, (write item).status ≠ .completed) :
    ¬ AllCompleted (world.writeItem key write) := by
  obtain ⟨item, hitem, hunsettled⟩ := h
  intro hall
  have hmem : (key, write item) ∈ (world.writeItem key write).entries := by
    rw [entries_writeItem]
    refine List.mem_map.mpr ⟨(key, item), KeyedTable.mem_entries_iff.mpr hitem, ?_⟩
    rw [if_pos ⟨rfl, hunsettled⟩]
  exact hwrite item (hall _ hmem)

/-- No update skips an item. -/
theorem not_skipped_writeItem {key : UnderstatItemKey} {write : UnderstatItem → UnderstatItem}
    (h : ∀ entry ∈ world.items.entries, entry.2.status ≠ .skipped)
    (hwrite : ∀ item, (write item).status ≠ .skipped) :
    ∀ entry ∈ (world.writeItem key write).entries, entry.2.status ≠ .skipped := by
  intro entry hentry
  rw [entries_writeItem] at hentry
  obtain ⟨old, hold, rfl⟩ := List.mem_map.mp hentry
  dsimp only
  split
  next => exact hwrite old.2
  next => exact h old hold

/-- Without a row to update nothing is written. -/
theorem writeItem_of_not_updates {key : UnderstatItemKey} {write : UnderstatItem → UnderstatItem}
    (h : ¬ world.Updates key) : world.writeItem key write = world.items := by
  refine KeyedTable.ext_entries ?_
  rw [entries_writeItem]
  refine (List.map_congr_left fun entry hentry => ?_).trans (List.map_id _)
  have hnot : ¬ (entry.1 = key ∧ Unsettled world.run entry.2) := by
    intro hselected
    refine h ⟨entry.2, ?_, hselected.2⟩
    exact KeyedTable.mem_entries_iff.mp (hselected.1 ▸ hentry)
  rw [if_neg hnot]
  rfl

/-! ### What holds between the statements -/

/-- The call will report that all items are completed: it is about to count them, or has counted
them as they are. -/
def WillReport (items : UnderstatItems) : UnderstatPhase → Prop
  | .counting operation => operation.answer true = some true
  | .writing operation counts => operation.answer true = some true ∧ counts = items.counts
  | _ => False

/-- A call that will report has not ended. -/
theorem WillReport.inFlight {phase : UnderstatPhase} (h : WillReport items phase) :
    phase.InFlight := by
  cases phase with
  | counting | writing => trivial
  | _ => exact h.elim

/-- The state between the statements of the calls. -/
structure Consistent (world : UnderstatWorld) : Prop where
  skipped : ∀ entry ∈ world.items.entries, entry.2.status ≠ .skipped
  ready : world.run.status = .readyToPublish → AllCompleted world.items ∧
    world.run.completedItems = world.items.entries.length
  active : AllCompleted world.items → world.run.status.Active
  answered : ∀ id, world.calls id = .returned (some true) → world.run.status = .readyToPublish
  counted : ∀ id operation counts, world.calls id = .writing operation counts → counts.Ready →
    AllCompleted world.items ∧ counts = world.items.counts
  reported : AllCompleted world.items → (∃ id, world.calls id = .returned (some true)) ∨
    ∃ id, WillReport world.items (world.calls id)

/-- On a fresh run everything is still open. -/
theorem Fresh.consistent (h : world.Fresh) : Consistent world := by
  have hnot : ¬ AllCompleted world.items := by
    intro hall
    obtain ⟨entry, hentry⟩ := List.exists_mem_of_ne_nil _ h.items
    exact (h.unsettled entry hentry).1 (hall entry hentry)
  refine ⟨fun entry hentry => (h.unsettled entry hentry).2, fun hready => ?_,
    fun hall => absurd hall hnot, fun id hid => ?_, fun id _ _ hid => ?_,
    fun hall => absurd hall hnot⟩
  · rcases h.status with hstatus | hstatus
    · exact absurd (hstatus.symm.trans hready) (by decide)
    · exact absurd (hstatus.symm.trans hready) (by decide)
  · exact absurd ((h.calls id).symm.trans hid) (by simp)
  · exact absurd ((h.calls id).symm.trans hid) (by simp)

/-- The call proceeds. -/
@[simp] theorem calls_proceed_self (id : ℕ) (phase : UnderstatPhase) :
    (world.proceed id phase).calls id = phase := by
  simp [UnderstatWorld.proceed]

/-- Other calls stay where they are. -/
theorem calls_proceed_of_ne {id other : ℕ} (h : other ≠ id) (phase : UnderstatPhase) :
    (world.proceed id phase).calls other = world.calls other := by
  simp [UnderstatWorld.proceed, h]

/-- Where a call stands after one has proceeded. -/
theorem calls_of_proceed {id other : ℕ} {phase now : UnderstatPhase}
    (h : (world.proceed id phase).calls other = now) : phase = now ∨ world.calls other = now := by
  by_cases hid : other = id
  · rw [hid, calls_proceed_self] at h
    exact Or.inl h
  · rw [calls_proceed_of_ne hid] at h
    exact Or.inr h

/-- A call that proceeds, with the tables as they are, to a phase that claims no more than its
present one. -/
theorem Consistent.proceed (h : world.Consistent) {id : ℕ} {phase : UnderstatPhase}
    (hanswer : phase ≠ .returned (some true))
    (hold : world.calls id ≠ .returned (some true))
    (hcounts : ∀ operation counts, phase = .writing operation counts →
      counts = world.items.counts)
    (hreport : AllCompleted world.items → WillReport world.items (world.calls id) →
      WillReport world.items phase) :
    (world.proceed id phase).Consistent where
  skipped := h.skipped
  ready := h.ready
  active := h.active
  answered := by
    intro other hother
    rcases calls_of_proceed hother with hphase | hphase
    · exact absurd hphase hanswer
    · exact h.answered other hphase
  counted := by
    intro other operation counts hother hready
    rcases calls_of_proceed hother with hphase | hphase
    · obtain rfl := hcounts operation counts hphase
      exact ⟨allCompleted_of_ready h.skipped hready, rfl⟩
    · exact h.counted other operation counts hphase hready
  reported := by
    intro hall
    rcases h.reported hall with hanswered | hwill
    · obtain ⟨other, hother⟩ := hanswered
      have hid : other ≠ id := by
        rintro rfl
        exact hold hother
      exact Or.inl ⟨other, (calls_proceed_of_ne hid _).trans hother⟩
    · obtain ⟨other, hother⟩ := hwill
      refine Or.inr ⟨other, ?_⟩
      by_cases hid : other = id
      · subst hid
        rw [calls_proceed_self]
        exact hreport hall hother
      · rw [calls_proceed_of_ne hid]
        exact hother

/-- An update of an item that was open. -/
theorem Consistent.updated (h : world.Consistent) {key : UnderstatItemKey} {id : ℕ}
    {phase : UnderstatPhase} {write : UnderstatItem → UnderstatItem} (hupdates : world.Updates key)
    (hskipped : ∀ item, (write item).status ≠ .skipped)
    (hanswer : phase ≠ .returned (some true))
    (hcounts : ∀ operation counts, phase ≠ .writing operation counts)
    (hreport : AllCompleted (world.writeItem key write) →
      WillReport (world.writeItem key write) phase) :
    ({ world with items := world.writeItem key write }.proceed id phase).Consistent := by
  obtain ⟨hopen, hactive⟩ := not_allCompleted_of_updates hupdates
  have hready : world.run.status ≠ .readyToPublish := fun hready => hopen (h.ready hready).1
  constructor
  · exact not_skipped_writeItem h.skipped hskipped
  · exact fun hnow => absurd hnow hready
  · exact fun _ => hactive
  · intro other hother
    rcases calls_of_proceed hother with hphase | hphase
    · exact absurd hphase hanswer
    · exact h.answered other hphase
  · intro other operation counts hother hcounted
    rcases calls_of_proceed hother with hphase | hphase
    · exact absurd hphase (hcounts operation counts)
    · exact absurd (h.counted other operation counts hphase hcounted).1 hopen
  · intro hall
    refine Or.inr ⟨id, ?_⟩
    rw [calls_proceed_self]
    exact hreport hall

/-- The first statement of a call. -/
theorem Consistent.startCall (h : world.Consistent) {id : ℕ} (hidle : world.calls id = .idle)
    (operation : UnderstatOperation) : (world.startCall id operation).Consistent := by
  have hold : world.calls id ≠ .returned (some true) := by simp [hidle]
  have hsilent : ¬ WillReport world.items (world.calls id) := by simp [hidle, WillReport]
  cases operation with
  | completeItem key sourceHash normalizedPayload =>
    by_cases hupdates : world.Updates key
    · rw [UnderstatWorld.startCall, if_pos hupdates]
      exact h.updated hupdates (by simp) (by simp) (by simp) fun _ => rfl
    · rw [UnderstatWorld.startCall, if_neg hupdates]
      exact h.proceed (by simp) hold (by simp) fun _ hwill => absurd hwill hsilent
  | failItem key error =>
    by_cases hupdates : world.Updates key
    · rw [UnderstatWorld.startCall, if_pos hupdates]
      refine h.updated hupdates (by simp) (by simp) (by simp) fun hall => ?_
      exact absurd hall (not_allCompleted_writeItem hupdates _ (by simp))
    · rw [UnderstatWorld.startCall, if_neg hupdates]
      exact h.proceed (by simp) hold (by simp) fun _ hwill => absurd hwill hsilent
  | refreshRun =>
    exact h.proceed (by simp) hold (by simp) fun _ hwill => absurd hwill hsilent

/-- A run whose status keeps its meaning. -/
theorem Consistent.withRun (h : world.Consistent) {run : UnderstatRun}
    (hready : run.status = .readyToPublish → AllCompleted world.items ∧
      run.completedItems = world.items.entries.length)
    (hactive : AllCompleted world.items → run.status.Active)
    (hkept : world.run.status = .readyToPublish → run.status = .readyToPublish) :
    ({ world with run := run } : UnderstatWorld).Consistent where
  skipped := h.skipped
  ready := hready
  active := hactive
  answered := fun id hid => hkept (h.answered id hid)
  counted := h.counted
  reported := h.reported

/-- The error of a failed item is noted on the run. -/
theorem Consistent.updateSummary (h : world.Consistent) (id : ℕ) :
    (world.step (.updateSummary id)).Consistent := by
  simp only [step]
  split
  next operation error hphase =>
    have hrun : ({ world with
        run := if world.run.status.Active then { world.run with errorSummary := some error }
          else world.run } : UnderstatWorld).Consistent := by
      split
      · exact h.withRun h.ready h.active fun hready => hready
      · exact h
    refine hrun.proceed (by simp) ?_ (by simp) ?_
    · simp [hphase]
    · simp [hphase, WillReport]
  next => exact h

/-- The count of a call shows the items as they are. -/
theorem Consistent.countItems (h : world.Consistent) (id : ℕ) :
    (world.step (.countItems id)).Consistent := by
  simp only [step]
  split
  next operation hphase =>
    refine h.proceed (by simp) (by simp [hphase]) (by simp) fun _ hwill => ?_
    rw [hphase] at hwill
    exact ⟨hwill, rfl⟩
  next => exact h

/-- A worker that marks its item as running does not touch a completed one. -/
theorem Consistent.markItemRunning (h : world.Consistent) (key : UnderstatItemKey) :
    (world.step (.markItemRunning key)).Consistent := by
  simp only [step]
  by_cases hupdates : world.Updates key
  · obtain ⟨hopen, hactive⟩ := not_allCompleted_of_updates hupdates
    have hready : world.run.status ≠ .readyToPublish := fun hready => hopen (h.ready hready).1
    have hstill := not_allCompleted_writeItem hupdates (fun item =>
      { item with status := .running, attempts := item.attempts + 1, lastError := none })
      (by simp)
    constructor
    · exact not_skipped_writeItem h.skipped (by simp)
    · exact fun hnow => absurd hnow hready
    · exact fun hall => absurd hall hstill
    · exact h.answered
    · intro id operation counts hid hcounted
      exact absurd (h.counted id operation counts hid hcounted).1 hopen
    · exact fun hall => absurd hall hstill
  · rw [writeItem_of_not_updates hupdates]
    exact h

/-- Counts that leave no item open or failed are those of the completed items. -/
theorem Consistent.written_ready (h : world.Consistent) {id : ℕ} {operation : UnderstatOperation}
    {counts : UnderstatCounts} (hphase : world.calls id = .writing operation counts)
    (hready : counts.Ready) :
    ({ world with run := refreshedRun world.run counts }.proceed id
      (.returned (operation.answer true))).Consistent := by
  obtain ⟨hall, hcounts⟩ := h.counted id operation counts hphase hready
  have hstatus : (refreshedRun world.run counts).status = .readyToPublish :=
    runStatus_of_ready hready
  have hcompleted : (refreshedRun world.run counts).completedItems = world.items.entries.length := by
    rw [← completedItems_of_allCompleted hall, ← hcounts]
    rfl
  constructor
  · exact h.skipped
  · exact fun _ => ⟨hall, hcompleted⟩
  · exact fun _ => Or.inr (Or.inr hstatus)
  · exact fun _ _ => hstatus
  · intro other operation' counts' hother
    rcases calls_of_proceed hother with hnow | hnow
    · exact absurd hnow (by simp)
    · exact h.counted other operation' counts' hnow
  · intro _
    by_cases hanswer : operation.answer true = some true
    · refine Or.inl ⟨id, ?_⟩
      rw [calls_proceed_self, hanswer]
    · rcases h.reported hall with hanswered | hwill
      · obtain ⟨other, hother⟩ := hanswered
        have hid : other ≠ id := by
          rintro rfl
          simp [hphase] at hother
        exact Or.inl ⟨other, (calls_proceed_of_ne hid _).trans hother⟩
      · obtain ⟨other, hother⟩ := hwill
        have hid : other ≠ id := by
          rintro rfl
          rw [hphase] at hother
          exact hanswer hother.1
        refine Or.inr ⟨other, ?_⟩
        rw [calls_proceed_of_ne hid]
        exact hother

/-- Counts that leave an item open or failed, written before the run is ready: while an item is
open, or late but without an effect that lasts. -/
theorem Consistent.written_not_ready (h : world.Consistent) {id : ℕ} {operation : UnderstatOperation}
    {counts : UnderstatCounts} (hphase : world.calls id = .writing operation counts)
    (hready : ¬ counts.Ready) (hbefore : world.run.status ≠ .readyToPublish)
    (hlate : AllCompleted world.items → counts.pendingItems ≠ 0) :
    ({ world with run := refreshedRun world.run counts }.proceed id
      (.returned (operation.answer false))).Consistent := by
  have hstatus := runStatus_of_not_ready hready
  have hnone : ∀ other, world.calls other ≠ .returned (some true) :=
    fun other hother => hbefore (h.answered other hother)
  constructor
  · exact h.skipped
  · intro hnow
    change counts.runStatus = _ at hnow
    rcases hstatus with hrunning | hfailed
    · exact absurd (hrunning.symm.trans hnow) (by decide)
    · exact absurd (hfailed.2.symm.trans hnow) (by decide)
  · intro hall
    rcases hstatus with hrunning | hfailed
    · exact Or.inr (Or.inl hrunning)
    · exact absurd hfailed.1 (hlate hall)
  · intro other hother
    rcases calls_of_proceed hother with hnow | hnow
    · cases operation <;> simp [UnderstatOperation.answer] at hnow
    · exact absurd hnow (hnone other)
  · intro other operation' counts' hother
    rcases calls_of_proceed hother with hnow | hnow
    · exact absurd hnow (by simp)
    · exact h.counted other operation' counts' hnow
  · intro hall
    obtain ⟨other, hother⟩ := (h.reported hall).resolve_left fun hanswered =>
      hanswered.elim hnone
    have hid : other ≠ id := by
      rintro rfl
      rw [hphase] at hother
      have hcounts : counts = world.items.counts := hother.2
      rw [hcounts] at hready
      exact hready (ready_of_allCompleted hall)
    refine Or.inr ⟨other, ?_⟩
    rw [calls_proceed_of_ne hid]
    exact hother

/-- Writing counts in time. -/
theorem Consistent.updateRun (h : world.Consistent) {id : ℕ}
    (hinTime : CountsInTime world (.updateRun id)) : (world.step (.updateRun id)).Consistent := by
  simp only [step]
  split
  next operation counts hphase =>
    by_cases hactive : world.run.status.Active
    · rw [if_pos hactive]
      by_cases hready : counts.Ready
      · rw [decide_eq_true hready]
        exact h.written_ready hphase hready
      · rw [decide_eq_false hready]
        have hold : AllCompleted world.items → counts.pendingItems ≠ 0 ∧
            world.run.status ≠ .readyToPublish := by
          intro hall
          refine hinTime id operation counts rfl hphase hall ?_
          rintro rfl
          exact hready (ready_of_allCompleted hall)
        refine h.written_not_ready hphase hready ?_ fun hall => (hold hall).1
        intro hnow
        exact (hold (h.ready hnow).1).2 hnow
    · rw [if_neg hactive]
      refine h.proceed ?_ (by simp [hphase]) (by simp) fun hall => absurd (h.active hall) hactive
      cases operation <;> simp [UnderstatOperation.answer]
  next => exact h

/-- Every statement keeps the state consistent, if counts are written in time. -/
theorem Consistent.step (h : world.Consistent) {action : UnderstatAction}
    (hinTime : CountsInTime world action) : (world.step action).Consistent := by
  cases action with
  | updateItem id operation =>
    simp only [UnderstatWorld.step]
    split
    next hidle => exact h.startCall hidle operation
    next => exact h
  | updateSummary id => exact h.updateSummary id
  | countItems id => exact h.countItems id
  | updateRun id => exact h.updateRun hinTime
  | markItemRunning key => exact h.markItemRunning key

/-! ### Whole runs -/

/-- In a consistent state completion is exact. -/
theorem Consistent.completedExactly (h : world.Consistent) : world.CompletedExactly := by
  intro hall hreturned
  rcases h.reported hall with hanswered | hwill
  · obtain ⟨id, hid⟩ := hanswered
    have hready := h.answered id hid
    exact ⟨hready, (h.ready hready).2, id, hid⟩
  · obtain ⟨id, hid⟩ := hwill
    exact absurd hid.inFlight (hreturned id)

/-- A statement other than the write of counts keeps the status of the run. -/
theorem status_step {action : UnderstatAction} (h : ∀ id, action ≠ .updateRun id) :
    (world.step action).run.status = world.run.status := by
  cases action with
  | updateItem id operation =>
    simp only [step]
    split
    · cases operation <;> simp only [startCall]
      · split <;> rfl
      · split <;> rfl
      · rfl
    · rfl
  | updateSummary id =>
    simp only [step]
    split
    · change (if _ then _ else _ : UnderstatRun).status = _
      split <;> rfl
    · rfl
  | countItems id =>
    simp only [step]
    split <;> rfl
  | updateRun id => exact absurd rfl (h id)
  | markItemRunning key => rfl

/-- Counts written in time leave a ready run ready. -/
theorem Consistent.staysReady (h : world.Consistent) {action : UnderstatAction}
    (hinTime : CountsInTime world action) : StaysReady world action := by
  intro hready
  by_cases hwrite : ∃ id, action = .updateRun id
  · obtain ⟨id, rfl⟩ := hwrite
    simp only [UnderstatWorld.step]
    split
    next operation counts hphase =>
      have hall := (h.ready hready).1
      have hcounts : world.items.counts = counts := by
        by_contra hne
        exact (hinTime id operation counts rfl hphase hall hne).2 hready
      have hactive := h.active hall
      rw [if_pos hactive]
      change counts.runStatus ≠ _
      rw [← hcounts, runStatus_of_ready (ready_of_allCompleted hall)]
      decide
    next => simp [hready]
  · rw [status_step fun id hid => hwrite ⟨id, hid⟩, hready]
    decide

/-- A run with pending items, before its workers start. -/
def freshRun (keys : List UnderstatItemKey) (h : keys.Nodup) : UnderstatWorld where
  run :=
    { status := .running, completedItems := 0, skippedItems := 0, failedItems := 0
      errorSummary := none }
  items :=
    { entries := keys.map fun key =>
        (key,
          { status := .pending, attempts := 0, sourceHash := none, normalizedPayload := none
            lastError := none })
      distinct := by simpa [List.map_map, Function.comp_def] using h }
  calls := fun _ => .idle

/-- New runs are fresh. -/
theorem fresh_freshRun {keys : List UnderstatItemKey} (h : keys.Nodup) (hkeys : keys ≠ []) :
    (freshRun keys h).Fresh where
  status := Or.inr rfl
  items := by simpa [freshRun] using hkeys
  unsettled := by simp [freshRun]
  calls := fun _ => rfl

/-- The league of a run. -/
def leagueItem : UnderstatItemKey := { resourceType := "league", resourceId := "EPL" }

/-- A team of a run. -/
def teamItem : UnderstatItemKey := { resourceType := "team", resourceId := "89" }

end UnderstatWorld

end LetletmeData
