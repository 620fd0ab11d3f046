import LetletmeData.Workers.TournamentSync
import Mathlib.Tactic.Common

/-!
# The cascade barrier opens when all six jobs have noted, and does not get stuck

Slots are never taken back, so once all six jobs have noted the refresh is pending until it is
marked as enqueued. The job that noted last finds it so: it returns only from an attempt that
enqueued the refresh or found it enqueued.
-/

namespace LetletmeData

open LetletmeData.Library

/-- What holds of the keys and the queue of a cascade. -/
structure BarrierKeys (shared : CascadeShared) : Prop where
  noGaps : NoGaps shared.keys
  pending : .refreshPending ∈ shared.keys → AllNoted shared.keys
  marked : .refreshDone ∈ shared.keys → shared.refreshJobs ≠ []
  opened : AllNoted shared.keys → .refreshPending ∈ shared.keys ∨ .refreshDone ∈ shared.keys

/-- What no step of a cascade takes back. -/
structure CascadeShared.Grows (before after : CascadeShared) : Prop where
  slots : ∀ jobKey, .slot jobKey ∈ before.keys → .slot jobKey ∈ after.keys
  marked : .refreshDone ∈ before.keys → .refreshDone ∈ after.keys
  enqueued : before.refreshJobs ≠ [] → after.refreshJobs ≠ []

/-- The completion of the attempt's job has been noted. -/
def Noted (job : Option CascadeJob) (keys : Finset CascadeKey) : Prop :=
  ∀ own ∈ job, .slot (.completed own) ∈ keys

/-- What holds of an attempt at each of its phases. -/
def PhaseKept (job : Option CascadeJob) (shared : CascadeShared) : CascadePhase → Prop
  | .syncing | .enqueueingSelectionStats | .releasing => True
  | .noting jobKey later => later = [] ∧ ∃ own, job = some own ∧ jobKey = .completed own
  | .extendingMeta later => later = [] ∧ Noted job shared.keys
  | .claiming => Noted job shared.keys
  | .enqueueing => Noted job shared.keys ∧ AllNoted shared.keys
  | .markingDone => Noted job shared.keys ∧ shared.refreshJobs ≠ []
  | .deletingPending => Noted job shared.keys ∧ .refreshDone ∈ shared.keys
  | .deletingLease => Noted job shared.keys ∧ shared.refreshJobs ≠ []

section Shared

variable {before after : CascadeShared}

/-- Nothing is taken back from all six notes. -/
theorem CascadeShared.Grows.allNoted (h : before.Grows after) (hnoted : AllNoted before.keys) :
    AllNoted after.keys :=
  fun job => h.slots _ (hnoted job)

/-- Nor from the note of one job. -/
theorem CascadeShared.Grows.noted (h : before.Grows after) {job : Option CascadeJob}
    (hnoted : Noted job before.keys) : Noted job after.keys :=
  fun own hown => h.slots _ (hnoted own hown)

/-- What holds of an attempt survives the steps of the others. -/
theorem PhaseKept.grows {job : Option CascadeJob} {phase : CascadePhase}
    (h : PhaseKept job before phase) (hgrows : before.Grows after) :
    PhaseKept job after phase := by
  cases phase with
  | syncing => trivial
  | enqueueingSelectionStats => trivial
  | releasing => trivial
  | noting jobKey later => exact h
  | extendingMeta later => exact ⟨h.1, hgrows.noted h.2⟩
  | claiming => exact hgrows.noted h
  | enqueueing => exact ⟨hgrows.noted h.1, hgrows.allNoted h.2⟩
  | markingDone => exact ⟨hgrows.noted h.1, hgrows.enqueued h.2⟩
  | deletingPending => exact ⟨hgrows.noted h.1, hgrows.marked h.2⟩
  | deletingLease => exact ⟨hgrows.noted h.1, hgrows.enqueued h.2⟩

end Shared

/-- What a command of an attempt does: it keeps the barrier, takes nothing back, and leaves the
attempt as its next phase says. An attempt that returns has noted its job, and found the refresh
enqueued if all six jobs had noted. Only a note can be the one that completes them. -/
structure CascadeCommand (job : Option CascadeJob) (before : CascadeShared)
    (result : CascadeShared × CascadeOutcome) : Prop where
  keys : BarrierKeys result.1
  grows : before.Grows result.1
  continues : ∀ phase, result.2 = .continues phase → PhaseKept job result.1 phase
  returns : result.2 = .returns →
    Noted job result.1.keys ∧ (AllNoted result.1.keys → result.1.refreshJobs ≠ [])
  completes : AllNoted result.1.keys →
    AllNoted before.keys ∨ ∃ own, .slot (.completed own) ∉ before.keys ∧ result.2 ≠ .returns
  early : result.1.refreshJobs ≠ before.refreshJobs → AllNoted before.keys

/-- The lease was taken from `before` or given to it, and nothing else. -/
structure OnlyLease (before after : CascadeShared) : Prop where
  keys : ∀ key, key ≠ .refreshLease → (key ∈ after.keys ↔ key ∈ before.keys)
  refreshJobs : after.refreshJobs = before.refreshJobs

section Commands

variable {job : Option CascadeJob} {before after : CascadeShared}

/-- Nothing changes. -/
theorem OnlyLease.refl (shared : CascadeShared) : OnlyLease shared shared :=
  ⟨fun _ _ => Iff.rfl, rfl⟩

/-- The lease goes. -/
theorem OnlyLease.erase (shared : CascadeShared) :
    OnlyLease shared { shared with keys := shared.keys.erase .refreshLease } := by
  refine ⟨?_, rfl⟩
  intro key hkey
  simp [hkey]

/-- The lease is taken. -/
theorem OnlyLease.insert (shared : CascadeShared) :
    OnlyLease shared { shared with keys := insert .refreshLease shared.keys } := by
  refine ⟨?_, rfl⟩
  intro key hkey
  simp [hkey]

/-- The lease has no part in which jobs have noted. -/
theorem OnlyLease.allNoted (h : OnlyLease before after) :
    AllNoted after.keys ↔ AllNoted before.keys :=
  forall_congr' fun _ => h.keys _ (by simp)

/-- Without its lease the barrier is kept as well. -/
theorem OnlyLease.kept (h : OnlyLease before after) (hkeys : BarrierKeys before) :
    BarrierKeys after where
  noGaps job hmem := hkeys.noGaps job ((h.keys _ (by simp)).mp hmem)
  pending hmem := h.allNoted.mpr (hkeys.pending ((h.keys _ (by simp)).mp hmem))
  marked hmem := by
    rw [h.refreshJobs]
    exact hkeys.marked ((h.keys _ (by simp)).mp hmem)
  opened hall := (hkeys.opened (h.allNoted.mp hall)).imp (h.keys _ (by simp)).mpr
    (h.keys _ (by simp)).mpr

/-- A lease that comes or goes takes nothing back. -/
theorem OnlyLease.grows (h : OnlyLease before after) : before.Grows after where
  slots jobKey := (h.keys _ (by simp)).mpr
  marked := (h.keys _ (by simp)).mpr
  enqueued hjobs := by
    rw [h.refreshJobs]
    exact hjobs

/-- A command that at most changes the lease, if its outcome holds. -/
theorem CascadeCommand.of_onlyLease (h : BarrierKeys before) (hlease : OnlyLease before after)
    {outcome : CascadeOutcome}
    (hcontinues : ∀ phase, outcome = .continues phase → PhaseKept job after phase)
    (hreturns : outcome = .returns →
      Noted job after.keys ∧ (AllNoted after.keys → after.refreshJobs ≠ [])) :
    CascadeCommand job before (after, outcome) where
  keys := hlease.kept h
  grows := hlease.grows
  continues := hcontinues
  returns := hreturns
  completes hall := Or.inl (hlease.allNoted.mp hall)
  early hchanged := absurd hlease.refreshJobs hchanged

/-- An attempt that goes on without changing anything. -/
theorem CascadeCommand.goesOn (h : BarrierKeys before) {phase : CascadePhase}
    (hphase : PhaseKept job before phase) :
    CascadeCommand job before (before, .continues phase) := by
  apply CascadeCommand.of_onlyLease h (OnlyLease.refl before)
  · intro other heq
    rw [← CascadeOutcome.continues.inj heq]
    exact hphase
  · intro heq
    cases heq

/-- How an attempt fails: at once, or with the lease still to be released. -/
def Failed (outcome : CascadeOutcome) : Prop :=
  outcome = .throws ∨ outcome = .continues .releasing

/-- A failed attempt has nothing to keep. -/
theorem Failed.continues {outcome : CascadeOutcome} (h : Failed outcome) (shared : CascadeShared)
    (phase : CascadePhase) (heq : outcome = .continues phase) : PhaseKept job shared phase := by
  cases h with
  | inl hthrows => exact absurd (hthrows.symm.trans heq) (by simp)
  | inr hreleasing =>
    rw [← CascadeOutcome.continues.inj (hreleasing.symm.trans heq)]
    trivial

/-- Failing is not returning. -/
theorem Failed.not_returns {outcome : CascadeOutcome} (h : Failed outcome) :
    outcome ≠ .returns := by
  rintro rfl
  cases h with
  | inl hthrows => cases hthrows
  | inr hreleasing => cases hreleasing

/-- Whatever becomes of a command, it does what it does when it is carried out. -/
theorem CascadeCommand.command (h : BarrierKeys before) (fate : CommandFate)
    {failed : CascadeOutcome} (hfailed : Failed failed)
    {effect : CascadeShared × CascadeOutcome} (heffect : CascadeCommand job before effect) :
    CascadeCommand job before (command fate failed effect before) := by
  cases fate with
  | done => exact heffect
  | refused =>
    exact CascadeCommand.of_onlyLease h (OnlyLease.refl before) (hfailed.continues _)
      fun hreturns => absurd hreturns hfailed.not_returns
  | lostReply =>
    exact
      { keys := heffect.keys
        grows := heffect.grows
        continues := hfailed.continues _
        returns := fun hreturns => absurd hreturns hfailed.not_returns
        completes := fun hall => (heffect.completes hall).imp id fun hown =>
          hown.imp fun _ hslot => ⟨hslot.1, hfailed.not_returns⟩
        early := heffect.early }

/-- Keys that come to a cascade take nothing back. -/
theorem CascadeShared.Grows.insert (shared : CascadeShared) (keys : Finset CascadeKey)
    (h : shared.keys ⊆ keys) : shared.Grows { shared with keys := keys } where
  slots _ hslot := h hslot
  marked hdone := h hdone
  enqueued hjobs := hjobs

/-- A completion that is noted: the flag is set with the last of the six slots. -/
theorem CascadeCommand.note (h : BarrierKeys before) (own : CascadeJob) :
    CascadeCommand (some own) before
      ({ before with keys := (noteCascadeStructureComplete before.keys (.completed own)).1 },
        .continues (.extendingMeta [])) := by
  have hgaps : NoGaps (insert (.slot (.completed own)) before.keys) := by
    intro job
    simpa using h.noGaps job
  cases noteCascadeStructureComplete_completed h.noGaps own with
  | inl htaken =>
    rw [htaken.2]
    refine CascadeCommand.goesOn h ⟨rfl, ?_⟩
    intro job hjob
    rw [← Option.some.inj hjob]
    exact htaken.1
  | inr hfree =>
    have hown : ∀ keys : Finset CascadeKey, .slot (.completed own) ∈ keys →
        Noted (some own) keys := by
      intro keys hmem job hjob
      rw [← Option.some.inj hjob]
      exact hmem
    cases hfree.2 with
    | inl hlast =>
      rw [hlast.2]
      have hslots : ∀ jobKey, CascadeKey.slot jobKey ∈
          insert .refreshPending (insert (.slot (.completed own)) before.keys) ↔
            .slot jobKey ∈ insert (.slot (.completed own)) before.keys := by
        intro jobKey
        simp
      exact
        { keys :=
            { noGaps := fun job hmem => hgaps job ((hslots _).mp hmem)
              pending := fun _ job => (hslots _).mpr (hlast.1 job)
              marked := fun hdone => h.marked (by simpa using hdone)
              opened := fun _ => Or.inl (Finset.mem_insert_self _ _) }
          grows := CascadeShared.Grows.insert before _
            ((Finset.subset_insert _ _).trans (Finset.subset_insert _ _))
          continues := by
            intro phase heq
            rw [← CascadeOutcome.continues.inj heq]
            exact ⟨rfl, hown _ (by simp)⟩
          returns := fun hreturns => by cases hreturns
          completes := fun _ => Or.inr ⟨own, hfree.1, by simp⟩
          early := fun hchanged => absurd rfl hchanged }
    | inr hmore =>
      rw [hmore.2]
      exact
        { keys :=
            { noGaps := hgaps
              pending := fun hpending =>
                fun job => Finset.mem_insert_of_mem (h.pending (by simpa using hpending) job)
              marked := fun hdone => h.marked (by simpa using hdone)
              opened := fun hall => absurd hall hmore.1 }
          grows := CascadeShared.Grows.insert before _ (Finset.subset_insert _ _)
          continues := by
            intro phase heq
            rw [← CascadeOutcome.continues.inj heq]
            exact ⟨rfl, hown _ (by simp)⟩
          returns := fun hreturns => by cases hreturns
          completes := fun hall => absurd hall hmore.1
          early := fun hchanged => absurd rfl hchanged }

/-- A claim succeeds only when all six jobs have noted, and is told that nothing is pending only
when one has not. -/
theorem CascadeCommand.claim (h : BarrierKeys before) (hnoted : Noted job before.keys) :
    CascadeCommand job before (claimEffect before) := by
  obtain ⟨hdone, hkeys, hresult⟩ | ⟨hdone, hpending, hkeys, hresult⟩ |
      ⟨-, hkeys, hresult⟩ | ⟨hpending, hkeys, hresult⟩ := tryClaimCascadeRefresh_cases before.keys
  · have heffect : claimEffect before = (before, .returns) := by
      simp [claimEffect, hkeys, hresult]
    rw [heffect]
    exact CascadeCommand.of_onlyLease h (OnlyLease.refl before) (by simp)
      fun _ => ⟨hnoted, fun _ => h.marked hdone⟩
  · have heffect : claimEffect before = (before, .returns) := by
      simp [claimEffect, hkeys, hresult]
    rw [heffect]
    refine CascadeCommand.of_onlyLease h (OnlyLease.refl before) (by simp)
      fun _ => ⟨hnoted, fun hall => ?_⟩
    cases h.opened hall with
    | inl hset => exact absurd hset hpending
    | inr hset => exact absurd hset hdone
  · have heffect : claimEffect before = (before, .throws) := by
      simp [claimEffect, hkeys, hresult]
    rw [heffect]
    exact CascadeCommand.of_onlyLease h (OnlyLease.refl before) (by simp) (by simp)
  · have heffect : claimEffect before =
        ({ before with keys := insert .refreshLease before.keys }, .continues .enqueueing) := by
      simp [claimEffect, hkeys, hresult]
    have hlease := OnlyLease.insert before
    rw [heffect]
    refine CascadeCommand.of_onlyLease h hlease ?_ (by simp)
    intro phase heq
    rw [← CascadeOutcome.continues.inj heq]
    exact ⟨hlease.grows.noted hnoted, hlease.grows.allNoted (h.pending hpending)⟩

/-- A queue to which a job is added is not empty. -/
theorem addRefreshJob_ne_nil (jobs : List ℕ) (now : ℕ) : addRefreshJob jobs now ≠ [] := by
  unfold addRefreshJob
  split
  · rename_i hmem
    exact List.ne_nil_of_mem hmem
  · simp

/-- The refresh is added to the queue. -/
theorem CascadeCommand.enqueue (h : BarrierKeys before) (hnoted : Noted job before.keys)
    (hall : AllNoted before.keys) (now : ℕ) :
    CascadeCommand job before
      ({ before with refreshJobs := addRefreshJob before.refreshJobs now },
        .continues .markingDone) where
  keys :=
    { noGaps := h.noGaps
      pending := h.pending
      marked := fun _ => addRefreshJob_ne_nil _ _
      opened := h.opened }
  grows := ⟨fun _ hslot => hslot, fun hdone => hdone, fun _ => addRefreshJob_ne_nil _ _⟩
  continues phase heq := by
    rw [← CascadeOutcome.continues.inj heq]
    exact ⟨hnoted, addRefreshJob_ne_nil _ _⟩
  returns hreturns := by cases hreturns
  completes _ := Or.inl hall
  early _ := hall

/-- The refresh is marked as enqueued. -/
theorem CascadeCommand.mark (h : BarrierKeys before) (hnoted : Noted job before.keys)
    (hjobs : before.refreshJobs ≠ []) :
    CascadeCommand job before
      ({ before with keys := insert .refreshDone before.keys }, .continues .deletingPending) := by
  have hslots : ∀ jobKey, CascadeKey.slot jobKey ∈ insert .refreshDone before.keys ↔
      .slot jobKey ∈ before.keys := by
    intro jobKey
    simp
  have hgrows := CascadeShared.Grows.insert before _ (Finset.subset_insert .refreshDone _)
  exact
    { keys :=
        { noGaps := fun job hmem => h.noGaps job ((hslots _).mp hmem)
          pending := fun hpending => hgrows.allNoted (h.pending (by simpa using hpending))
          marked := fun _ => hjobs
          opened := fun _ => Or.inr (Finset.mem_insert_self _ _) }
      grows := hgrows
      continues := by
        intro phase heq
        rw [← CascadeOutcome.continues.inj heq]
        exact ⟨hgrows.noted hnoted, Finset.mem_insert_self _ _⟩
      returns := fun hreturns => by cases hreturns
      completes := fun hall => Or.inl fun job => (hslots _).mp (hall job)
      early := fun hchanged => absurd rfl hchanged }

/-- Once it is marked, the refresh is no longer pending. -/
theorem CascadeCommand.deletePending (h : BarrierKeys before) (hnoted : Noted job before.keys)
    (hdone : .refreshDone ∈ before.keys) :
    CascadeCommand job before
      ({ before with keys := before.keys.erase .refreshPending },
        .continues .deletingLease) := by
  have hslots : ∀ jobKey, CascadeKey.slot jobKey ∈ before.keys.erase .refreshPending ↔
      .slot jobKey ∈ before.keys := by
    intro jobKey
    simp
  have hkept : CascadeKey.refreshDone ∈ before.keys.erase .refreshPending := by
    simpa using hdone
  exact
    { keys :=
        { noGaps := fun job hmem => h.noGaps job ((hslots _).mp hmem)
          pending := fun hpending => absurd hpending (Finset.notMem_erase _ _)
          marked := fun _ => h.marked hdone
          opened := fun _ => Or.inr hkept }
      grows := ⟨fun _ hslot => (hslots _).mpr hslot, fun _ => hkept, fun hjobs => hjobs⟩
      continues := by
        intro phase heq
        rw [← CascadeOutcome.continues.inj heq]
        exact ⟨fun own hown => (hslots _).mpr (hnoted own hown), h.marked hdone⟩
      returns := fun hreturns => by cases hreturns
      completes := fun hall => Or.inl fun job => (hslots _).mp (hall job)
      early := fun hchanged => absurd rfl hchanged }

/-- Every command of an attempt. -/
theorem CascadeAttempt.advance_command (h : BarrierKeys before) (attempt : CascadeAttempt)
    (hphase : PhaseKept attempt.job before attempt.phase) (fate : CommandFate) (now : ℕ) :
    CascadeCommand attempt.job before (attempt.advance fate now before) := by
  obtain ⟨job, phase⟩ := attempt
  have hthrows : Failed .throws := Or.inl rfl
  have hreleases : Failed (.continues .releasing) := Or.inr rfl
  have hown : PhaseKept job before (noteOwn job) := by
    cases job with
    | none => exact fun own hown => by cases hown
    | some own => exact ⟨rfl, own, rfl, rfl⟩
  cases phase with
  | syncing =>
    refine CascadeCommand.command h fate hthrows (CascadeCommand.goesOn h ?_)
    split
    · trivial
    · exact hown
  | enqueueingSelectionStats =>
    exact CascadeCommand.command h fate hthrows (CascadeCommand.goesOn h hown)
  | noting jobKey later =>
    obtain ⟨rfl, own, rfl, rfl⟩ := hphase
    exact CascadeCommand.command h fate hthrows (CascadeCommand.note h own)
  | extendingMeta later =>
    obtain ⟨rfl, hnoted⟩ := hphase
    exact CascadeCommand.command h fate hthrows (CascadeCommand.goesOn h hnoted)
  | claiming => exact CascadeCommand.command h fate hthrows (CascadeCommand.claim h hphase)
  | enqueueing =>
    exact CascadeCommand.command h fate hreleases
      (CascadeCommand.enqueue h hphase.1 hphase.2 now)
  | markingDone =>
    exact CascadeCommand.command h fate hreleases (CascadeCommand.mark h hphase.1 hphase.2)
  | deletingPending =>
    exact CascadeCommand.command h fate hreleases
      (CascadeCommand.deletePending h hphase.1 hphase.2)
  | deletingLease =>
    have hlease := OnlyLease.erase before
    refine CascadeCommand.command h fate hreleases
      (CascadeCommand.of_onlyLease h hlease (by simp) fun _ => ?_)
    exact ⟨hlease.grows.noted hphase.1, fun _ => hphase.2⟩
  | releasing =>
    exact CascadeCommand.command h fate hthrows
      (CascadeCommand.of_onlyLease h (OnlyLease.erase before) (by simp) (by simp))

end Commands

/-- What holds of a cascade as it runs. -/
structure BarrierKept (world : CascadeWorld) : Prop where
  keys : BarrierKeys world.shared
  attempts : ∀ attempt ∈ world.attempts, PhaseKept attempt.job world.shared attempt.phase
  returned : ∀ job ∈ world.returned, .slot (.completed job) ∈ world.shared.keys
  enqueued : AllNoted world.shared.keys →
    world.shared.refreshJobs ≠ [] ∨ ∃ job, job ∉ world.returned

/-- The loop of the fan-out notes nothing. -/
theorem enqueueGaps_eq_nil {added : CascadeJob → Bool} {gaps : List CascadeJobKey}
    (h : enqueueGaps added = some gaps) : gaps = [] := by
  unfold enqueueGaps at h
  split at h
  · cases h
  · rename_i hnone
    have hall : fanOutJobs.filter (fun job => !added job) = [] :=
      List.length_eq_zero_iff.mp (Nat.eq_zero_of_not_pos hnone)
    have hfirst : (fanOutJobs.take 3).filter (fun job => !added job) = [] := by
      rw [List.filter_eq_nil_iff] at hall ⊢
      exact fun job hjob => hall job (List.mem_of_mem_take hjob)
    rw [hfirst] at h
    exact (Option.some.inj h).symm

/-- A cascade before its fan-out. -/
theorem BarrierKept.initial : BarrierKept CascadeWorld.initial where
  keys := ⟨fun _ => by simp [CascadeWorld.initial], fun h => by simp [CascadeWorld.initial] at h,
    fun h => by simp [CascadeWorld.initial] at h,
    fun h => by simpa [CascadeWorld.initial] using h .pointsRace⟩
  attempts := by simp [CascadeWorld.initial]
  returned := by simp [CascadeWorld.initial]
  enqueued h := by simpa [CascadeWorld.initial] using h .pointsRace

section Steps

variable {world : CascadeWorld}

/-- A new attempt that has nothing to keep yet. -/
theorem BarrierKept.started (h : BarrierKept world) {attempt : CascadeAttempt}
    (hphase : PhaseKept attempt.job world.shared attempt.phase) :
    BarrierKept { world with attempts := world.attempts ++ [attempt] } where
  keys := h.keys
  attempts other hother := by
    cases List.mem_append.mp hother with
    | inl hold => exact h.attempts other hold
    | inr hnew =>
      rw [List.mem_singleton.mp hnew]
      exact hphase
  returned := h.returned
  enqueued := h.enqueued

/-- A command of one attempt. -/
theorem BarrierKept.settle (h : BarrierKept world) {attempt : CascadeAttempt} (position : ℕ)
    {result : CascadeShared × CascadeOutcome}
    (hcommand : CascadeCommand attempt.job world.shared result) :
    BarrierKept (world.settle position attempt result) := by
  have hothers : ∀ other ∈ world.attempts, PhaseKept other.job result.1 other.phase :=
    fun other hother => (h.attempts other hother).grows hcommand.grows
  have hreturned : ∀ job ∈ world.returned, .slot (.completed job) ∈ result.1.keys :=
    fun job hjob => hcommand.grows.slots _ (h.returned job hjob)
  have henqueued : AllNoted result.1.keys →
      result.1.refreshJobs ≠ [] ∨ ∃ job, job ∉ world.returned := by
    intro hall
    cases hcommand.completes hall with
    | inl hbefore => exact (h.enqueued hbefore).imp hcommand.grows.enqueued id
    | inr hlast =>
      obtain ⟨own, hfree, -⟩ := hlast
      exact Or.inr ⟨own, fun hmem => hfree (h.returned own hmem)⟩
  unfold CascadeWorld.settle
  split
  · rename_i phase hphase
    refine ⟨hcommand.keys, ?_, hreturned, henqueued⟩
    intro other hother
    cases List.mem_or_eq_of_mem_set hother with
    | inl hold => exact hothers other hold
    | inr hnew =>
      rw [hnew]
      exact hcommand.continues phase hphase
  · rename_i hreturns
    have hends := hcommand.returns hreturns
    refine ⟨hcommand.keys, fun other hother => hothers other (List.mem_of_mem_eraseIdx hother),
      ?_, fun hall => Or.inl (hends.2 hall)⟩
    intro job hjob
    cases Finset.mem_union.mp hjob with
    | inl hold => exact hreturned job hold
    | inr hown => exact hends.1 job (Option.mem_toFinset.mp hown)
  · exact ⟨hcommand.keys, fun other hother => hothers other (List.mem_of_mem_eraseIdx hother),
      hreturned, henqueued⟩

/-- Every step of a cascade keeps the barrier. -/
theorem BarrierKept.step (h : BarrierKept world) (action : CascadeAction) :
    BarrierKept (cascadeStep world action) := by
  cases action with
  | fanOut added =>
    simp only [cascadeStep]
    split
    · exact h
    · rename_i gaps hgaps
      rw [enqueueGaps_eq_nil hgaps]
      exact h.started fun own hown => by cases hown
  | start job => exact h.started trivial
  | advance position fate now =>
    simp only [cascadeStep]
    split
    · exact h
    · rename_i attempt hattempt
      have hphase := h.attempts attempt (List.mem_of_getElem? hattempt)
      exact h.settle position (attempt.advance_command h.keys hphase fate now)
  | crash position =>
    exact ⟨h.keys, fun attempt hattempt => h.attempts attempt (List.mem_of_mem_eraseIdx hattempt),
      h.returned, h.enqueued⟩
  | leaseExpires =>
    have hlease := OnlyLease.erase world.shared
    exact ⟨hlease.kept h.keys, fun attempt hattempt => (h.attempts attempt hattempt).grows
      hlease.grows, fun job hjob => hlease.grows.slots _ (h.returned job hjob),
      fun hall => (h.enqueued (hlease.allNoted.mp hall)).imp hlease.grows.enqueued id⟩

/-- A step enqueues the refresh only when all six jobs have noted. -/
theorem BarrierKept.allNoted_of_enqueued (h : BarrierKept world) (action : CascadeAction)
    (hchanged : (cascadeStep world action).shared.refreshJobs ≠ world.shared.refreshJobs) :
    AllNoted world.shared.keys := by
  cases action with
  | fanOut added =>
    simp only [cascadeStep] at hchanged
    split at hchanged
    · exact absurd rfl hchanged
    · exact absurd rfl hchanged
  | start job => exact absurd rfl hchanged
  | advance position fate now =>
    simp only [cascadeStep] at hchanged
    split at hchanged
    · exact absurd rfl hchanged
    · rename_i attempt hattempt
      have hphase := h.attempts attempt (List.mem_of_getElem? hattempt)
      apply (attempt.advance_command h.keys hphase fate now).early
      intro hsame
      unfold CascadeWorld.settle at hchanged
      split at hchanged <;> exact hchanged hsame
  | crash position => exact absurd rfl hchanged
  | leaseExpires => exact absurd rfl hchanged

end Steps

/-- However its attempts interleave, crash and are retried, a cascade enqueues its refresh only
when all six jobs have noted their completion, and has enqueued it once all six have returned. -/
theorem cascadeBarrier_opens (actions : List CascadeAction) :
    EveryStep cascadeStep (fun before action =>
        (cascadeStep before action).shared.refreshJobs ≠ before.shared.refreshJobs →
          AllNoted before.shared.keys) CascadeWorld.initial actions ∧
      ((∀ job, job ∈ (runSteps cascadeStep CascadeWorld.initial actions).returned) →
        (runSteps cascadeStep CascadeWorld.initial actions).shared.refreshJobs ≠ []) := by
  have hstep : ∀ world action, BarrierKept world → BarrierKept (cascadeStep world action) :=
    fun _ action h => h.step action
  refine ⟨?_, ?_⟩
  · exact everyStep_of_invariant hstep (fun _ action h => h.allNoted_of_enqueued action) _ actions
      BarrierKept.initial
  · intro hreturned
    have hkept := runSteps_invariant hstep CascadeWorld.initial actions BarrierKept.initial
    cases hkept.enqueued fun job => hkept.returned job (hreturned job) with
    | inl henqueued => exact henqueued
    | inr hmissing =>
      obtain ⟨job, hjob⟩ := hmissing
      exact absurd (hreturned job) hjob

/-- One attempt of each job after the other: the last one enqueues the refresh. -/
example :
    let world := runSteps cascadeStep CascadeWorld.initial
      (cascadeCompletionBarrierJobs.flatMap fun job =>
        .start job :: List.replicate 8 (.advance 0 .done 1))
    (∀ job ∈ cascadeCompletionBarrierJobs, job ∈ world.returned) ∧
      world.shared.refreshJobs = [1] := by
  decide +kernel

end LetletmeData
