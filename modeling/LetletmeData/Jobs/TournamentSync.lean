import Mathlib.Data.Finset.Basic
import Mathlib.Data.List.Count

/-!
# The completion barrier of a tournament cascade

The keys of one cascade in Redis: a slot for each completion note, the refresh-pending flag, the
flag that the refresh has been enqueued, and the lease of the worker that enqueues it. Scripts
are atomic; only the lease expires.
-/

namespace LetletmeData

/-- The jobs that must finish before the materialized views are refreshed. -/
inductive CascadeJob where
  | pointsRace
  | battleRace
  | knockout
  | transfersPost
  | cupResults
  | selectionStats
  deriving DecidableEq, Repr

/-- The roles of the barrier. -/
def cascadeCompletionBarrierJobs : List CascadeJob :=
  [.pointsRace, .battleRace, .knockout, .transfersPost, .cupResults, .selectionStats]

/-- What names a completion note. -/
inductive CascadeJobKey where
  | completed (job : CascadeJob)
  | enqueueFailed (job : CascadeJob)
  deriving DecidableEq, Repr

/-- The keys of one cascade. -/
inductive CascadeKey where
  | slot (jobKey : CascadeJobKey)
  | refreshPending
  | refreshDone
  | refreshLease
  deriving DecidableEq, Repr

/-- Every job has a role. -/
theorem mem_cascadeCompletionBarrierJobs (job : CascadeJob) :
    job ∈ cascadeCompletionBarrierJobs := by
  cases job <;> decide

/-- A role is done by either of its slots. -/
def cascadeRoleDone (keys : Finset CascadeKey) (role : CascadeJob) : Bool :=
  decide (.slot (.completed role) ∈ keys) || decide (.slot (.enqueueFailed role) ∈ keys)

/-- The script of a completion note: `-2` when the slot is taken, `0` when all roles are done,
else how many remain. -/
def noteCascadeStructureComplete (keys : Finset CascadeKey) (jobKey : CascadeJobKey) :
    Finset CascadeKey × ℤ :=
  if .slot jobKey ∈ keys then (keys, -2)
  else
    let claimed := insert (.slot jobKey) keys
    let done := cascadeCompletionBarrierJobs.countP (cascadeRoleDone claimed)
    let required := cascadeCompletionBarrierJobs.length
    if done ≥ required then (insert .refreshPending claimed, 0)
    else (claimed, (required : ℤ) - done)

/-- The script that claims the enqueue: 1 claimed, 2 already enqueued, 3 not pending, 4 lease
busy. -/
def tryClaimCascadeRefresh (keys : Finset CascadeKey) : Finset CascadeKey × ℤ :=
  if .refreshDone ∈ keys then (keys, 2)
  else if .refreshPending ∉ keys then (keys, 3)
  else if .refreshLease ∈ keys then (keys, 4)
  else
    let leased := insert .refreshLease keys
    -- the script looks again after it has the lease
    if .refreshDone ∈ leased then (leased.erase .refreshLease, 2) else (leased, 1)

/-- What a caller learns from the claim. -/
inductive CascadeRefreshClaimResult where
  | claimed
  | alreadyEnqueued
  | notPending
  | leaseBusy
  deriving DecidableEq, Repr

/-- How the code of the claim is read. -/
def cascadeRefreshClaimResult (code : ℤ) : CascadeRefreshClaimResult :=
  if code = 1 then .claimed
  else if code = 2 then .alreadyEnqueued
  else if code = 3 then .notPending
  else if code = 4 then .leaseBusy
  else .notPending

/-- All six jobs have noted their completion. -/
def AllNoted (keys : Finset CascadeKey) : Prop :=
  ∀ job, .slot (.completed job) ∈ keys

/-- Nobody noted a job as one that could not be enqueued. -/
def NoGaps (keys : Finset CascadeKey) : Prop :=
  ∀ job, .slot (.enqueueFailed job) ∉ keys

variable {keys : Finset CascadeKey}

/-- Without gaps the script counts the noted completions. -/
theorem countP_cascadeRoleDone (hgaps : NoGaps keys) :
    cascadeCompletionBarrierJobs.countP (cascadeRoleDone keys) ≥
      cascadeCompletionBarrierJobs.length ↔ AllNoted keys := by
  have hle := List.countP_le_length (p := cascadeRoleDone keys) (l := cascadeCompletionBarrierJobs)
  have hall := List.countP_eq_length (p := cascadeRoleDone keys)
    (l := cascadeCompletionBarrierJobs)
  constructor
  · intro hge job
    have hdone := hall.mp (le_antisymm hle hge) job (mem_cascadeCompletionBarrierJobs job)
    simpa [cascadeRoleDone, hgaps job] using hdone
  · intro hnoted
    exact (hall.mpr fun job _ => by simp [cascadeRoleDone, hnoted job]).ge

/-- A note of a completion takes its slot, and sets the flag when all six jobs have noted. -/
theorem noteCascadeStructureComplete_completed (hgaps : NoGaps keys) (job : CascadeJob) :
    (.slot (.completed job) ∈ keys ∧
        (noteCascadeStructureComplete keys (.completed job)).1 = keys) ∨
      (.slot (.completed job) ∉ keys ∧
        ((AllNoted (insert (.slot (.completed job)) keys) ∧
            (noteCascadeStructureComplete keys (.completed job)).1 =
              insert .refreshPending (insert (.slot (.completed job)) keys)) ∨
          (¬ AllNoted (insert (.slot (.completed job)) keys) ∧
            (noteCascadeStructureComplete keys (.completed job)).1 =
              insert (.slot (.completed job)) keys))) := by
  have hgaps' : NoGaps (insert (.slot (.completed job)) keys) := by
    intro other
    simpa using hgaps other
  have hcount := countP_cascadeRoleDone hgaps'
  unfold noteCascadeStructureComplete
  split
  · rename_i htaken
    exact Or.inl ⟨htaken, rfl⟩
  · rename_i hfree
    refine Or.inr ⟨hfree, ?_⟩
    dsimp only
    split
    · rename_i hge
      exact Or.inl ⟨hcount.mp hge, rfl⟩
    · rename_i hlt
      exact Or.inr ⟨fun hnoted => hlt (hcount.mpr hnoted), rfl⟩

/-- What the claim answers, and what it changes. -/
theorem tryClaimCascadeRefresh_cases (keys : Finset CascadeKey) :
    (.refreshDone ∈ keys ∧ (tryClaimCascadeRefresh keys).1 = keys ∧
        cascadeRefreshClaimResult (tryClaimCascadeRefresh keys).2 = .alreadyEnqueued) ∨
      (.refreshDone ∉ keys ∧ .refreshPending ∉ keys ∧ (tryClaimCascadeRefresh keys).1 = keys ∧
        cascadeRefreshClaimResult (tryClaimCascadeRefresh keys).2 = .notPending) ∨
      (.refreshPending ∈ keys ∧ (tryClaimCascadeRefresh keys).1 = keys ∧
        cascadeRefreshClaimResult (tryClaimCascadeRefresh keys).2 = .leaseBusy) ∨
      (.refreshPending ∈ keys ∧
        (tryClaimCascadeRefresh keys).1 = insert .refreshLease keys ∧
        cascadeRefreshClaimResult (tryClaimCascadeRefresh keys).2 = .claimed) := by
  by_cases hdone : CascadeKey.refreshDone ∈ keys
  · left
    simp [tryClaimCascadeRefresh, cascadeRefreshClaimResult, hdone]
  · by_cases hpending : CascadeKey.refreshPending ∈ keys
    · by_cases hlease : CascadeKey.refreshLease ∈ keys
      · simp [tryClaimCascadeRefresh, cascadeRefreshClaimResult, hdone, hpending, hlease]
      · simp [tryClaimCascadeRefresh, cascadeRefreshClaimResult, hdone, hpending, hlease]
    · simp [tryClaimCascadeRefresh, cascadeRefreshClaimResult, hdone, hpending]

end LetletmeData
