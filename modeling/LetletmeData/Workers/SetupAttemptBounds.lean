import LetletmeData.Workers.SetupAttempts

/-!
# Bounded setup attempts

Every run that enters the setup raises the stored counter, or its record does, so that the counter
bounds the runs since the last manual retry. A setup job of a resume takes the tournament over with
the counter set back to zero; as long as it only does so where the counter was zero and the setup
unfinished, the bound holds. A ready tournament and one that has failed for good are left alone in
every history.
-/

namespace LetletmeData

open LetletmeData.Library

variable {row : TournamentSetupRow} {job : TournamentSetupJob} {resumeJobLive : Bool}

/-! ### Statements -/

namespace TournamentSetupRow

/-- A settled row is not live. -/
theorem live_of_settled (h : row.settled = true) : row.live = false := by
  unfold settled at h
  unfold live
  rcases of_decide_eq_true h with hready | ⟨hfailed, -⟩
  · simp [hready]
  · simp [hfailed]

/-- A row that is not live accepts no failure. -/
theorem markSetupAttemptFailure_of_not_live (h : row.live = false)
    (failure : TournamentSetupAttemptFailure) (now : ℕ) :
    row.markSetupAttemptFailure failure now = row := by
  unfold markSetupAttemptFailure acceptsFailure
  rw [if_neg]
  simp [h]

/-- Nor is it queued by the watchdog. -/
theorem markStuck_of_not_live (h : row.live = false) (expected : Option ℕ) (now : ℕ) :
    row.markStuckSetupQueuedIfUnchanged expected now = row := by
  unfold markStuckSetupQueuedIfUnchanged
  rw [if_neg]
  simp [h]

/-- A failure is never recorded beside an end: a live row is unfinished, a failed one has neither a
retry time nor is it unfinished. -/
structure Consistent (row : TournamentSetupRow) : Prop where
  unfinished : row.live = true → row.setupFinishedAt = none
  ended : row.setupStatus = .failed → row.setupNextRetryAt = none ∧ row.setupFinishedAt ≠ none

/-- What a record of a failure does to a consistent row: it raises the counter of a live one to the
attempt, unless the counter is there already, and may fail it. -/
theorem markSetupAttemptFailure_spec (hrow : row.Consistent)
    (failure : TournamentSetupAttemptFailure) (now : ℕ) :
    (row.markSetupAttemptFailure failure now).Consistent ∧
      (row.markSetupAttemptFailure failure now).setupMaxAttempts = row.setupMaxAttempts ∧
      ((row.markSetupAttemptFailure failure now).live = true → row.live = true ∧
        max row.setupAttempt (min row.setupMaxAttempts failure.attempt) ≤
          (row.markSetupAttemptFailure failure now).setupAttempt) := by
  have hle := row.attempt_le
  unfold markSetupAttemptFailure
  split
  next haccepts =>
    obtain ⟨hlive, -, hattempt⟩ := of_decide_eq_true haccepts
    cases hterminal : failure.terminal with
    | true =>
      refine ⟨⟨fun h => ?_, fun _ => ⟨by simp, by simp⟩⟩, rfl, fun h => ?_⟩
      · simp [live] at h
      · simp [live] at h
    | false =>
      rw [hterminal, if_neg Bool.false_ne_true] at hattempt
      refine ⟨⟨fun _ => rfl, fun h => by simp at h⟩, rfl, fun _ => ⟨hlive, ?_⟩⟩
      dsimp only
      omega
  next hrefused =>
    refine ⟨hrow, rfl, fun hlive => ⟨hlive, ?_⟩⟩
    have hattempt : ¬ (if failure.terminal = true then row.setupAttempt ≤ max 1 failure.attempt
        else row.setupAttempt < max 1 failure.attempt) := by
      intro hattempt
      exact hrefused (decide_eq_true ⟨hlive, hrow.unfinished hlive, hattempt⟩)
    split at hattempt <;> omega

end TournamentSetupRow

/-! ### A run -/

/-- A job of a resume owns the row. -/
def ClaimsResume (job : TournamentSetupJob) (row : TournamentSetupRow) : Prop :=
  ∃ marker ∈ job.resumeMarker, row.resumable marker = true

/-- A job goes on with the row it has found or, for a resume, with a row it has set back. -/
theorem claimSetupJob_cases {claimed : TournamentSetupRow}
    (h : claimSetupJob job resumeJobLive row = some claimed) :
    claimed = row ∨
      (ClaimsResume job row ∧ claimed.setupStatus = .pending ∧ claimed.setupAttempt = 0 ∧
        claimed.setupFinishedAt = row.setupFinishedAt ∧
        claimed.setupMaxAttempts = row.setupMaxAttempts) := by
  unfold claimSetupJob at h
  split at h
  next marker hmarker =>
    unfold TournamentSetupRow.markResumeProcessingIfPending at h
    split at h
    next hresumable =>
      cases h
      exact .inr ⟨⟨marker, hmarker, hresumable⟩, rfl, rfl, rfl, rfl⟩
    next => cases h
  next =>
    split at h
    · split at h
      · exact .inl (Option.some.inj h).symm
      · cases h
    · exact .inl (Option.some.inj h).symm

/-- A row that a resume may own is not ready. -/
theorem TournamentSetupRow.not_ready_of_resumable {marker : ℕ} (h : row.resumable marker = true) :
    row.setupStatus ≠ .ready := by
  intro hready
  simp [TournamentSetupRow.resumable, hready] at h

/-- The row a job goes on with counts the same attempts, where resumes keep the count. -/
theorem claimed_counts (hrow : row.Consistent)
    (hkeeps : ClaimsResume job row → row.setupAttempt = 0 ∧ row.setupFinishedAt = none)
    {claimed : TournamentSetupRow} (h : claimSetupJob job resumeJobLive row = some claimed) :
    claimed.Consistent ∧ claimed.setupMaxAttempts = row.setupMaxAttempts ∧
      (claimed.live = true → row.live = true ∧ claimed.setupAttempt = row.setupAttempt) := by
  rcases claimSetupJob_cases h with rfl | ⟨hclaims, hpending, hzero, hfinished, hmax⟩
  · exact ⟨hrow, rfl, fun hlive => ⟨hlive, rfl⟩⟩
  · obtain ⟨hattempt, hunfinished⟩ := hkeeps hclaims
    refine ⟨⟨fun _ => hfinished.trans hunfinished, fun hfailed => ?_⟩, hmax, fun _ => ⟨?_, ?_⟩⟩
    · rw [hpending] at hfailed
      cases hfailed
    · obtain ⟨marker, -, hresumable⟩ := hclaims
      have hready := TournamentSetupRow.not_ready_of_resumable hresumable
      have hfailed : row.setupStatus ≠ .failed := fun h => (hrow.ended h).2 hunfinished
      unfold TournamentSetupRow.live
      cases hstatus : row.setupStatus <;> simp_all
    · rw [hzero, hattempt]

/-- A job that is ignored leaves the row as it was. -/
theorem eq_of_ignored {left : TournamentSetupRow}
    (h : startSetupJob job resumeJobLive row = .ignored left) : left = row := by
  unfold startSetupJob at h
  split at h
  · cases h
    rfl
  next claimed hclaimed =>
    split at h
    next hsettled =>
      cases h
      rcases claimSetupJob_cases hclaimed with heq | ⟨-, hpending, -⟩
      · exact heq
      · simp [TournamentSetupRow.settled, hpending] at hsettled
    next =>
      dsimp only at h
      split at h <;> cases h

/-- A job that has used its attempts has claimed the row. -/
theorem claimed_of_exhausted {claimed : TournamentSetupRow} {attempt maxAttempts : ℕ}
    {error : SetupError}
    (h : startSetupJob job resumeJobLive row = .exhausted claimed attempt maxAttempts error) :
    claimSetupJob job resumeJobLive row = some claimed := by
  unfold startSetupJob at h
  split at h
  · cases h
  next hclaimed =>
    split at h
    · cases h
    · dsimp only at h
      split at h
      · cases h
        exact hclaimed
      · cases h

/-- A job that enters the setup does so with a later attempt than the stored one. -/
theorem entered_of_enters {claimed : TournamentSetupRow} {attempt maxAttempts : ℕ}
    (h : startSetupJob job resumeJobLive row = .enters claimed attempt maxAttempts) :
    claimSetupJob job resumeJobLive row = some claimed ∧ claimed.settled = false ∧
      claimed.setupAttempt + 1 ≤ attempt ∧ attempt ≤ claimed.setupMaxAttempts := by
  unfold startSetupJob at h
  split at h
  · cases h
  next hclaimed =>
    split at h
    · cases h
    next hsettled =>
      dsimp only at h
      split at h
      · cases h
      next hattempts =>
        cases h
        have hpos := claimed.maxAttempts_pos
        exact ⟨hclaimed, Bool.eq_false_iff.mpr hsettled, by omega, by omega⟩

/-- A consistent row that is not settled is live. -/
theorem TournamentSetupRow.Consistent.live_of_not_settled (hrow : row.Consistent)
    (h : row.settled = false) : row.live = true := by
  have hended := hrow.ended
  unfold settled at h
  unfold live
  cases hstatus : row.setupStatus <;> simp_all

/-- The runs that have entered the setup after a run, of which there were some number before. -/
def SetupRunResult.enteredAfter (result : SetupRunResult) (entered : ℕ) : ℕ :=
  if result.entered then entered + 1 else entered

/-- How the counter bounds the runs that have entered the setup: while the row is live, at most one
of them, whose record is still to come, is not counted. -/
structure Counted (row : TournamentSetupRow) (entered pending : ℕ) : Prop where
  consistent : row.Consistent
  bounded : entered ≤ row.setupMaxAttempts
  counted : row.live = true → entered ≤ row.setupAttempt + pending

/-- A record raises the counter to its attempt. -/
theorem Counted.record {entered pending : ℕ} (h : Counted row entered pending)
    {failure : TournamentSetupAttemptFailure} (hattempt : row.live = true →
      entered ≤ max row.setupAttempt failure.attempt) (now : ℕ) :
    Counted (row.markSetupAttemptFailure failure now) entered 0 := by
  obtain ⟨hconsistent, hmax, hraised⟩ :=
    TournamentSetupRow.markSetupAttemptFailure_spec h.consistent failure now
  refine ⟨hconsistent, hmax ▸ h.bounded, fun hlive => ?_⟩
  obtain ⟨hbefore, hle⟩ := hraised hlive
  have hentered := hattempt hbefore
  have hbounded := h.bounded
  omega

/-- What a setup that completes leaves is ready. -/
theorem counted_completed {entered : ℕ} (progressMarker : Option ℕ) (attempt : ℕ)
    (completion : SetupCompletion) (now : ℕ) (hbounded : entered ≤ row.setupMaxAttempts) :
    Counted (setupTournamentStructure progressMarker attempt completion now row) entered 0 := by
  have hready : (setupTournamentStructure progressMarker attempt completion now row).setupStatus =
      .ready := rfl
  refine ⟨⟨fun hlive => ?_, fun hfailed => ?_⟩, ?_, fun hlive => ?_⟩
  · simp [TournamentSetupRow.live, hready] at hlive
  · rw [hready] at hfailed
    cases hfailed
  · unfold setupTournamentStructure TournamentSetupRow.markReadyAndResume
    dsimp only
    split <;> exact hbounded
  · simp [TournamentSetupRow.live, hready] at hlive

/-- A run of a job keeps the count: what it enters is recorded, or completes, or escapes. -/
theorem Counted.runSetupJob {entered : ℕ} (h : Counted row entered 0)
    (hkeeps : ClaimsResume job row → row.setupAttempt = 0 ∧ row.setupFinishedAt = none)
    (resumeJobLive : Bool) (ending : SetupEnding) (now : ℕ) :
    Counted (runSetupJob job resumeJobLive ending now row).row
      ((runSetupJob job resumeJobLive ending now row).enteredAfter entered)
      (if (runSetupJob job resumeJobLive ending now row).escaped.isSome then 1 else 0) := by
  have hcounted {claimed : TournamentSetupRow}
      (hclaim : claimSetupJob job resumeJobLive row = some claimed) : Counted claimed entered 0 := by
    obtain ⟨hconsistent, hmax, hlive⟩ := claimed_counts h.consistent hkeeps hclaim
    refine ⟨hconsistent, hmax ▸ h.bounded, fun hclaimed => ?_⟩
    obtain ⟨hrow, hattempt⟩ := hlive hclaimed
    rw [hattempt]
    exact h.counted hrow
  have henters {claimed : TournamentSetupRow} {attempt maxAttempts : ℕ}
      (hstart : startSetupJob job resumeJobLive row = .enters claimed attempt maxAttempts) :
      Counted claimed (entered + 1) 1 ∧ entered + 1 ≤ attempt := by
    obtain ⟨hclaim, hsettled, hattempt, hmax⟩ := entered_of_enters hstart
    have hbefore := hcounted hclaim
    have hentered := hbefore.counted (hbefore.consistent.live_of_not_settled hsettled)
    exact ⟨⟨hbefore.consistent, by omega, fun _ => by omega⟩, by omega⟩
  unfold LetletmeData.runSetupJob
  split
  next enteredSetup error claimed attempt maxAttempts hstart =>
    -- the transaction is rolled back: the row is as it was
    obtain ⟨hclaim, -, -, -⟩ := entered_of_enters hstart
    have hmax := (claimed_counts h.consistent hkeeps hclaim).2.1
    have hbounded := (henters hstart).1.bounded
    have hbefore := h.bounded
    unfold SetupRunResult.enteredAfter
    dsimp only [Option.isSome_some]
    refine ⟨h.consistent, ?_, fun hlive => ?_⟩
    · split <;> omega
    · have hcount := h.counted hlive
      split <;> simp <;> omega
  next => exact ⟨h.consistent, h.bounded, fun hlive => Nat.le_succ_of_le (h.counted hlive)⟩
  next error =>
    split
    · exact h
    next hclaim =>
      -- no setup was entered
      have hclaimed : Counted ((claimSetupJob job resumeJobLive row).getD row) entered 0 := by
        cases hclaim : claimSetupJob job resumeJobLive row with
        | none => exact h
        | some claimed => exact hcounted hclaim
      exact hclaimed.record (fun hlive => le_max_of_le_left (hclaimed.counted hlive)) now
  next left hstart =>
    rw [eq_of_ignored hstart]
    exact h
  next claimed attempt maxAttempts error hstart =>
    have hclaimed := hcounted (claimed_of_exhausted hstart)
    exact hclaimed.record (fun hlive => le_max_of_le_left (hclaimed.counted hlive)) now
  next completion claimed attempt maxAttempts hstart =>
    exact counted_completed _ _ _ _ (henters hstart).1.bounded
  next error claimed attempt maxAttempts hstart =>
    obtain ⟨hclaimed, hattempt⟩ := henters hstart
    exact hclaimed.record (fun _ => le_max_of_le_right hattempt) now

/-- A run leaves a settled row alone, unless it is a resume that owns it. -/
theorem runSetupJob_of_settled (hsettled : row.settled = true) (hclaims : ¬ ClaimsResume job row)
    (resumeJobLive : Bool) (ending : SetupEnding) (now : ℕ) :
    (runSetupJob job resumeJobLive ending now row).row = row := by
  have hclaim {claimed : TournamentSetupRow}
      (h : claimSetupJob job resumeJobLive row = some claimed) : claimed = row :=
    (claimSetupJob_cases h).resolve_right fun hresumed => hclaims hresumed.1
  have hlive := TournamentSetupRow.live_of_settled hsettled
  unfold LetletmeData.runSetupJob
  split
  · rfl
  · rfl
  · split
    · rfl
    · have hclaimed : (claimSetupJob job resumeJobLive row).getD row = row := by
        cases h : claimSetupJob job resumeJobLive row with
        | none => rfl
        | some claimed => exact hclaim h
      dsimp only
      rw [hclaimed]
      exact TournamentSetupRow.markSetupAttemptFailure_of_not_live hlive _ _
  next hstart => exact eq_of_ignored hstart
  next hstart =>
    rw [hclaim (claimed_of_exhausted hstart)]
    exact TournamentSetupRow.markSetupAttemptFailure_of_not_live hlive _ _
  all_goals
    rename_i hstart
    obtain ⟨hclaimed, hopen, -, -⟩ := entered_of_enters hstart
    rw [hclaim hclaimed, hsettled] at hopen
    cases hopen

/-! ### Histories -/

/-- The number the runs that have entered the setup do not exceed. -/
def EscapedRun.reach (setupAttempt : ℕ) : EscapedRun → ℕ
  | .settled => setupAttempt
  | .escaped _ _ => setupAttempt + 1
  | .recording failure => max setupAttempt failure.attempt

/-- A later counter reaches further. -/
theorem EscapedRun.reach_mono (escaped : EscapedRun) {before after : ℕ} (h : before ≤ after) :
    escaped.reach before ≤ escaped.reach after := by
  cases escaped with
  | settled => exact h
  | escaped job error => exact Nat.add_le_add_right h 1
  | recording failure => exact max_le_max_right _ h

/-- The runs that have entered the setup are counted, or their record is on its way. -/
structure SetupWorld.Sound (world : SetupWorld) : Prop where
  consistent : world.row.Consistent
  bounded : world.entered ≤ world.row.setupMaxAttempts
  counted : world.row.live = true → world.entered ≤ world.escaped.reach world.row.setupAttempt

/-- A job runs, and owns a resume. -/
def TakesOver (world : SetupWorld) : SetupEvent → Prop
  | .runJob job _ _ _ => world.escaped = .settled ∧ ClaimsResume job world.row
  | _ => False

/-- A resume is taken over only with a counter of zero and an unfinished setup. -/
def TakeoverKeepsCount (world : SetupWorld) (event : SetupEvent) : Prop :=
  TakesOver world event → world.row.setupAttempt = 0 ∧ world.row.setupFinishedAt = none

namespace SetupWorld.Sound

variable {world : SetupWorld}

/-- A record that raises the counter keeps the runs counted. -/
theorem recordLate (h : world.Sound) (position now : ℕ) : (world.recordLate position now).Sound := by
  unfold SetupWorld.recordLate
  split
  · exact h
  next failure hfailure =>
    obtain ⟨hconsistent, hmax, hraised⟩ :=
      TournamentSetupRow.markSetupAttemptFailure_spec h.consistent failure now
    refine ⟨hconsistent, hmax ▸ h.bounded, fun hlive => ?_⟩
    obtain ⟨hbefore, hle⟩ := hraised hlive
    exact (h.counted hbefore).trans (world.escaped.reach_mono (le_of_max_le_left hle))

/-- The watchdog keeps the counter. -/
theorem recoverStuck (h : world.Sound) (position : ℕ) (active : Bool) (now : ℕ) :
    (world.recoverStuck position active now).Sound := by
  unfold SetupWorld.recoverStuck
  split
  · exact h
  next found hfound =>
    split
    · exact h
    · split
      · exact h
      · unfold TournamentSetupRow.markStuckSetupQueuedIfUnchanged
        split
        next hguard =>
          exact ⟨⟨fun _ => rfl, fun hfailed => by cases hfailed⟩, h.bounded,
            fun _ => h.counted hguard.1⟩
        next => exact h

/-- The record of an escaped run has its attempt in view from the read on. -/
theorem readEscaped (h : world.Sound) (now : ℕ) : (world.readEscaped now).Sound := by
  have hcounted := h.counted
  unfold SetupWorld.readEscaped
  split
  next job error hescaped =>
    rw [hescaped] at hcounted
    refine ⟨h.consistent, h.bounded, fun hlive => ?_⟩
    have hentered := hcounted hlive
    have hbounded := h.bounded
    dsimp only [EscapedRun.reach] at hentered ⊢
    cases hfailure : escapedFailure job error now world.row with
    | none =>
      unfold escapedFailure at hfailure
      split at hfailure
      next hsettled =>
        rw [TournamentSetupRow.live_of_settled hsettled] at hlive
        cases hlive
      next => cases hfailure
    | some failure =>
      unfold escapedFailure at hfailure
      split at hfailure
      · cases hfailure
      · cases hfailure
        dsimp only [EscapedRun.reach]
        omega
  next => exact h

/-- The record settles the run. -/
theorem recordEscaped (h : world.Sound) (now : ℕ) : (world.recordEscaped now).Sound := by
  have hcounted := h.counted
  unfold SetupWorld.recordEscaped
  split
  next failure hescaped =>
    rw [hescaped] at hcounted
    have hbefore : Counted world.row world.entered world.entered :=
      ⟨h.consistent, h.bounded, fun _ => Nat.le_add_left _ _⟩
    have hrecorded := hbefore.record hcounted now
    exact ⟨hrecorded.consistent, hrecorded.bounded, hrecorded.counted⟩
  next => exact h

/-- A job keeps the runs counted. -/
theorem runJob (h : world.Sound) {job : TournamentSetupJob} {resumeJobLive : Bool}
    {ending : SetupEnding} {now : ℕ}
    (hkeeps : TakeoverKeepsCount world (.runJob job resumeJobLive ending now)) :
    (world.runJob job resumeJobLive ending now).Sound := by
  have hcounted := h.counted
  unfold SetupWorld.runJob
  split
  next hescaped =>
    rw [hescaped] at hcounted
    have hrun := Counted.runSetupJob ⟨h.consistent, h.bounded, hcounted⟩
      (fun hclaims => hkeeps ⟨hescaped, hclaims⟩) resumeJobLive ending now
    generalize LetletmeData.runSetupJob job resumeJobLive ending now world.row = result at hrun ⊢
    obtain ⟨after, entered, escaped⟩ := result
    cases escaped <;> exact ⟨hrun.consistent, hrun.bounded, hrun.counted⟩
  next => exact h

/-- Every event keeps the runs counted. -/
theorem step (h : world.Sound) {event : SetupEvent} (hkeeps : TakeoverKeepsCount world event) :
    (setupStep world event).Sound := by
  cases event with
  | runJob job resumeJobLive ending now => exact h.runJob hkeeps
  | readEscaped now => exact h.readEscaped now
  | recordEscaped now => exact h.recordEscaped now
  | readLate job error now => exact ⟨h.consistent, h.bounded, h.counted⟩
  | recordLate position now => exact h.recordLate position now
  | findStuck cutoff =>
    dsimp only [setupStep, SetupWorld.findStuck]
    split
    · exact h
    · split
      · exact ⟨h.consistent, h.bounded, h.counted⟩
      · exact h
  | recoverStuck position active now => exact h.recoverStuck position active now
  | manualRetry now =>
    exact ⟨⟨fun _ => rfl, fun hfailed => by cases hfailed⟩, Nat.zero_le _, fun _ => Nat.zero_le _⟩
  | manualRetryFails now =>
    refine ⟨⟨fun hlive => ?_, fun _ => ⟨rfl, fun hfinished => by cases hfinished⟩⟩, h.bounded,
      fun hlive => ?_⟩ <;>
    cases hlive

end SetupWorld.Sound

/-- A manual retry, or the failure of one. -/
def SetupEvent.isManual : SetupEvent → Bool
  | .manualRetry _ => true
  | .manualRetryFails _ => true
  | _ => false

/-- An event leaves a settled row alone, unless it is a manual retry or takes the row over. -/
theorem setupStep_of_settled {world : SetupWorld} (hsettled : world.row.settled = true)
    {event : SetupEvent} (hmanual : event.isManual = false) (htakes : ¬ TakesOver world event) :
    (setupStep world event).row = world.row := by
  have hlive := TournamentSetupRow.live_of_settled hsettled
  cases event with
  | runJob job resumeJobLive ending now =>
    dsimp only [setupStep, SetupWorld.runJob]
    split
    next hescaped =>
      exact runSetupJob_of_settled hsettled (fun hclaims => htakes ⟨hescaped, hclaims⟩) _ _ _
    next => rfl
  | readEscaped now =>
    dsimp only [setupStep, SetupWorld.readEscaped]
    split <;> rfl
  | recordEscaped now =>
    dsimp only [setupStep, SetupWorld.recordEscaped]
    split
    · exact TournamentSetupRow.markSetupAttemptFailure_of_not_live hlive _ _
    · rfl
  | readLate job error now => rfl
  | recordLate position now =>
    dsimp only [setupStep, SetupWorld.recordLate]
    split
    · rfl
    · exact TournamentSetupRow.markSetupAttemptFailure_of_not_live hlive _ _
  | findStuck cutoff =>
    dsimp only [setupStep, SetupWorld.findStuck]
    split
    · rfl
    · split <;> rfl
  | recoverStuck position active now =>
    dsimp only [setupStep, SetupWorld.recoverStuck]
    split
    · rfl
    · split
      · rfl
      · split
        · rfl
        · exact TournamentSetupRow.markStuck_of_not_live hlive _ _
  | manualRetry now => cases hmanual
  | manualRetryFails now => cases hmanual

/-- What is promised of an event: no more runs have entered the setup since the last manual retry
than there are attempts, only a manual retry changes a ready tournament, and only a manual retry or
a resume changes one that has failed without a next retry. -/
structure AttemptsBounded (world : SetupWorld) (event : SetupEvent) : Prop where
  bounded : (setupStep world event).entered ≤ (setupStep world event).row.setupMaxAttempts
  ready : world.row.setupStatus = .ready → event.isManual = false →
    (setupStep world event).row = world.row
  failed : world.row.setupStatus = .failed → world.row.setupNextRetryAt = none →
    event.isManual = false → ¬ TakesOver world event → (setupStep world event).row = world.row

/-- A row as it is created or as a manual retry leaves it. -/
structure TournamentSetupRow.Begins (row : TournamentSetupRow) : Prop where
  live : row.live = true
  setupAttempt : row.setupAttempt = 0
  unfinished : row.setupFinishedAt = none

/-- An official tournament whose resume has failed, at the time of a manual retry. -/
def retriedRow : TournamentSetupRow :=
  TournamentSetupRow.markSetupRetryQueued 0
    { state := .inactive
      rosterMode := .officialSync
      rosterSyncStatus := some .failed
      rosterSyncError := some "TOURNAMENT_ROSTER_FROZEN"
      rosterLastSyncedAt := none
      totalTeamNum := 4
      setupStatus := .failed
      setupPhase := .failed
      setupError := some "Tournament setup failed."
      setupCompletedUnits := 0
      setupTotalUnits := 0
      setupWarningCount := 0
      setupProgressUpdatedAt := none
      setupProgressIndeterminate := false
      setupAttempt := 3
      setupMaxAttempts := 3
      setupNextRetryAt := none
      setupLastErrorCode := some "SETUP_FAILED"
      setupLastErrorAt := none
      setupStartedAt := none
      setupFinishedAt := none
      standingsReadyAt := none
      profilesReadyAt := none
      insightsReadyAt := none
      maxAttempts_pos := Nat.succ_pos 2
      attempt_le := le_refl 3 }

/-- The retry itself, which finds the provider down. -/
def failingRetry : List SetupEvent :=
  [.runJob ⟨.manual, none, 0, some 3, none⟩ false (.throws ⟨"FPL_UNAVAILABLE", false⟩) 1000]

/-- A round of the watchdog: it finds the setup stuck, enqueues a job of the resume, and the setup of
that job throws. -/
def watchdogRound (position progress now : ℕ) : List SetupEvent :=
  [.findStuck now, .recoverStuck position false now,
    .runJob ⟨.resume, some progress, 0, some 3, none⟩ false
      (.throws ⟨"FPL_UNAVAILABLE", false⟩) now]

end LetletmeData
