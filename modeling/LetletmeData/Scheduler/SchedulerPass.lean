import Mathlib.Logic.Function.Basic
import LetletmeData.Repositories.SchedulerObligations

/-!
# Scheduler passes

A pass reserves an obligation for every plan of its definitions, claims what is due and enqueues it.
An obligation that has ended is never opened again: a plan finds it under its key and leaves it as
it is.
-/

namespace LetletmeData

/-- The unique key of an obligation. -/
structure ObligationKey where
  jobName : String
  scopeKey : String
  periodKey : String
  deriving DecidableEq

/-- `SchedulerObligationPlan`; the evidence that the row carries along is left out. -/
structure SchedulerObligationPlan where
  scopeKey : String
  periodKey : String
  dueAt : ℕ
  eventId : Option ℕ
  terminalStatus : Option ClosureStatus
  deriving DecidableEq

/-- The key of a plan of a definition. -/
def SchedulerObligationPlan.key (plan : SchedulerObligationPlan) (jobName : String) :
    ObligationKey where
  jobName := jobName
  scopeKey := plan.scopeKey
  periodKey := plan.periodKey

/-- All obligations. -/
abbrev Obligations := ObligationKey → ObligationState

/-- How the enqueue of a claimed obligation ends: with a Bull job, or with an error. -/
inductive EnqueueOutcome where
  | enqueued (jobSuffix : Option String) (runId : Option ℕ)
  | failed (now : ℕ)
  deriving DecidableEq

/-- What a pass is given: its time, the plans of the definitions in the order of the registry, when
it claims, and the due obligations that fit its limit with how their enqueue ends. -/
structure SchedulerPass where
  now : ℕ
  claimedAt : ℕ
  claims : List (ObligationKey × EnqueueOutcome)

namespace Obligations

/-- One call on an obligation. -/
def call (configured : Option ℕ) (obligations : Obligations) (key : ObligationKey)
    (call : ObligationCall) : Obligations :=
  Function.update obligations key (obligationStep configured (obligations key) call)

/-- Reserve a plan, and close it if it says so. -/
def reservePlan (configured : Option ℕ) (jobName : String) (obligations : Obligations)
    (plan : SchedulerObligationPlan) : Obligations :=
  let reserved := obligations.call configured (plan.key jobName) (.reserve plan.dueAt)
  match plan.terminalStatus with
  | some status => reserved.call configured (plan.key jobName) (.markIrrecoverable (some status))
  | none => reserved

/-- Reserve the plans of a definition. -/
def reserveDefinition (configured : Option ℕ) (obligations : Obligations)
    (definition : String × List SchedulerObligationPlan) : Obligations :=
  definition.2.foldl (reservePlan configured definition.1) obligations

/-- Claim an obligation and enqueue it for the owner of the claim. -/
def claimAndEnqueue (configured : Option ℕ) (claimedAt : ℕ) (obligations : Obligations)
    (claim : ObligationKey × EnqueueOutcome) : Obligations :=
  let owner := (obligations claim.1).nextOwner
  let claimed := obligations.call configured claim.1 (.claim none claimedAt)
  match claim.2 with
  | .enqueued jobSuffix runId => claimed.call configured claim.1 (.confirm owner jobSuffix runId)
  | .failed now => claimed.call configured claim.1 (.fail now (some owner) none none)

/-- `runSchedulerPass`, given the plans of the registry. -/
def runSchedulerPass (configured : Option ℕ) (obligations : Obligations)
    (registry : List (String × List SchedulerObligationPlan)) (pass : SchedulerPass) :
    Obligations :=
  pass.claims.foldl (claimAndEnqueue configured pass.claimedAt)
    (registry.foldl (reserveDefinition configured) obligations)

end Obligations

/-! ### Open and ended obligations -/

/-- A status that no call leaves. -/
def SchedulerObligationStatus.Terminal (status : SchedulerObligationStatus) : Prop :=
  status = .succeeded ∨ status = .skipped ∨ status = .irrecoverable

instance SchedulerObligationStatus.decidableTerminal (status : SchedulerObligationStatus) :
    Decidable status.Terminal :=
  inferInstanceAs (Decidable (_ ∨ _ ∨ _))

namespace ObligationState

/-- The obligation is reserved and has not ended. -/
def Open (state : ObligationState) : Prop := ∃ row ∈ state.row, ¬ row.status.Terminal

instance (state : ObligationState) : Decidable state.Open :=
  inferInstanceAs (Decidable (∃ row ∈ state.row, _))

/-- The obligation has ended. -/
def Ended (state : ObligationState) : Prop := ∃ row ∈ state.row, row.status.Terminal

instance (state : ObligationState) : Decidable state.Ended :=
  inferInstanceAs (Decidable (∃ row ∈ state.row, _))

/-- An open obligation has not ended. -/
theorem Open.not_ended {state : ObligationState} (h : state.Open) : ¬ state.Ended := by
  obtain ⟨row, hrow, hopen⟩ := h
  rintro ⟨row', hrow', hended⟩
  obtain rfl := Option.some.inj (hrow.symm.trans hrow')
  exact hopen hended

end ObligationState

/-- A write that leaves ended rows as they are and ends no row. -/
def KeepsOpen (write : SchedulerObligation → SchedulerObligation) : Prop :=
  ∀ row, (row.status.Terminal → write row = row) ∧
    (¬ row.status.Terminal → ¬ (write row).status.Terminal)

/-- A write that leaves ended rows as they are. -/
def KeepsEnded (write : SchedulerObligation → SchedulerObligation) : Prop :=
  ∀ row, row.status.Terminal → write row = row

/-- Rows in flight have not ended. -/
theorem not_inFlight_of_terminal {row : SchedulerObligation} (h : row.status.Terminal) :
    ¬ row.InFlight := by
  rcases h with h | h | h <;> simp [SchedulerObligation.InFlight, h]

/-- Confirming an enqueue ends nothing. -/
theorem confirm_keepsOpen (owner : ℕ) (bullJobId : Option BullJobId) (runId : Option ℕ) :
    KeepsOpen (confirmSchedulerObligationEnqueued owner bullJobId runId) := by
  intro row
  unfold confirmSchedulerObligationEnqueued
  split
  next h =>
    have hnot : ¬ row.status.Terminal := fun hended => not_inFlight_of_terminal hended (Or.inl h.2)
    exact ⟨fun hended => absurd hended hnot, fun _ => by simp [SchedulerObligationStatus.Terminal]⟩
  next => exact ⟨fun _ => rfl, fun h => h⟩

/-- A failed attempt is not the end. -/
theorem fail_keepsOpen (now : ℕ) (owner generation : Option ℕ) (retryDelayMs : Option ℤ) :
    KeepsOpen (failSchedulerObligation now owner generation retryDelayMs) := by
  intro row
  unfold failSchedulerObligation
  split
  next h =>
    have hnot : ¬ row.status.Terminal := fun hended => not_inFlight_of_terminal hended h.2.2
    exact ⟨fun hended => absurd hended hnot, fun _ => by simp [SchedulerObligation.closed,
      SchedulerObligationStatus.Terminal]⟩
  next => exact ⟨fun _ => rfl, fun h => h⟩

/-- Extending a lease ends nothing. -/
theorem renew_keepsOpen (configured : Option ℕ) (now : ℕ) (generation : Option ℕ)
    (additionalLeaseMs : ℤ) :
    KeepsOpen (renewSchedulerObligation configured now generation additionalLeaseMs) := by
  intro row
  simp only [renewSchedulerObligation]
  split
  next h =>
    have hnot : ¬ row.status.Terminal := fun hended => not_inFlight_of_terminal hended h.2.2.2.2
    exact ⟨fun hended => absurd hended hnot, fun hopen => hopen⟩
  next => exact ⟨fun _ => rfl, fun h => h⟩

/-- Only a row in flight is completed. -/
theorem complete_keepsEnded (status : CompletionStatus) (generation : Option ℕ) :
    KeepsEnded (completeSchedulerObligation status generation) := by
  intro row hended
  exact if_neg fun h => not_inFlight_of_terminal hended h.2

/-- Only a row in flight is completed by its job. -/
theorem completeByBullJobId_keepsEnded (bullJobId : BullJobId) :
    KeepsEnded (completeSchedulerObligationByBullJobId bullJobId) := by
  intro row hended
  exact if_neg fun h => not_inFlight_of_terminal hended h.2

/-- Only a waiting row is closed. -/
theorem markIrrecoverable_keepsEnded (status : Option ClosureStatus) :
    KeepsEnded (markSchedulerObligationIrrecoverable status) := by
  intro row hended
  refine if_neg fun h => ?_
  rcases hended with hended | hended | hended <;> simp [hended] at h

namespace ObligationState

variable {configured : Option ℕ} {state : ObligationState}

/-- What was open is open, and what had ended has ended. -/
def OpenKept (before after : ObligationState) : Prop :=
  (before.Open → after.Open) ∧ (before.Ended → after.Ended)

/-- Nothing changes. -/
theorem OpenKept.refl (state : ObligationState) : OpenKept state state := ⟨fun h => h, fun h => h⟩

/-- One change after the other. -/
theorem OpenKept.trans {first second third : ObligationState} (hfirst : OpenKept first second)
    (hsecond : OpenKept second third) : OpenKept first third :=
  ⟨fun h => hsecond.1 (hfirst.1 h), fun h => hsecond.2 (hfirst.2 h)⟩

/-- A write that keeps open rows open keeps the obligation open or ended. -/
theorem update_keepsOpen {write : SchedulerObligation → SchedulerObligation}
    (hwrite : KeepsOpen write) : OpenKept state (state.update write) := by
  constructor
  · rintro ⟨row, hrow, hopen⟩
    exact ⟨write row, Option.map_eq_some_iff.mpr ⟨row, hrow, rfl⟩, (hwrite row).2 hopen⟩
  · rintro ⟨row, hrow, hended⟩
    refine ⟨row, Option.map_eq_some_iff.mpr ⟨row, hrow, (hwrite row).1 hended⟩, hended⟩

/-- A write that leaves ended rows keeps the obligation ended. -/
theorem update_keepsEnded {write : SchedulerObligation → SchedulerObligation}
    (hwrite : KeepsEnded write) (h : state.Ended) : (state.update write).Ended := by
  obtain ⟨row, hrow, hended⟩ := h
  exact ⟨row, Option.map_eq_some_iff.mpr ⟨row, hrow, hwrite row hended⟩, hended⟩

/-- A reservation opens what is not there and leaves the rest. -/
theorem reserve_open (dueAt : ℕ) :
    (¬ state.Ended → (obligationStep configured state (.reserve dueAt)).Open) ∧
      (state.Ended → (obligationStep configured state (.reserve dueAt)).Ended) := by
  constructor
  · intro hnot
    refine ⟨_, rfl, ?_⟩
    cases hrow : state.row with
    | none => simp [reserveSchedulerObligation, SchedulerObligationStatus.Terminal]
    | some row => exact fun hended => hnot ⟨row, hrow, hended⟩
  · rintro ⟨row, hrow, hended⟩
    refine ⟨row, ?_, hended⟩
    simp only [obligationStep]
    rw [Option.mem_def.mp hrow]
    rfl

/-- A claim leaves ended obligations and ends none. -/
theorem claim_keepsOpen (leaseMs : Option ℕ) (dbNow : ℕ) :
    OpenKept state (obligationStep configured state (.claim leaseMs dbNow)) := by
  simp only [obligationStep, claimStep]
  split
  next lease row _ hrow =>
    split
    next hclaimable =>
      have hnot : ¬ row.status.Terminal := by
        intro hended
        rcases hclaimable.2 with hwaiting | hinFlight
        · rcases hended with hended | hended | hended <;> simp [hended] at hwaiting
        · exact not_inFlight_of_terminal hended hinFlight.1
      refine ⟨fun _ => ⟨_, rfl, ?_⟩, ?_⟩
      · simp [claimSchedulerObligation, SchedulerObligationStatus.Terminal]
      · rintro ⟨row', hrow', hended⟩
        obtain rfl := Option.some.inj (hrow.symm.trans hrow')
        exact absurd hended hnot
    next => exact OpenKept.refl state
  next => exact OpenKept.refl state

/-- A confirmation leaves ended obligations and ends none. -/
theorem confirm_step_keepsOpen (owner : ℕ) (jobSuffix : Option String) (runId : Option ℕ) :
    OpenKept state (obligationStep configured state (.confirm owner jobSuffix runId)) := by
  simp only [obligationStep]
  split
  next => exact update_keepsOpen (confirm_keepsOpen _ _ _)
  next => exact OpenKept.refl state

/-- An obligation that has ended stays ended, whatever is called on it. -/
theorem Ended.step (h : state.Ended) (call : ObligationCall) :
    (obligationStep configured state call).Ended := by
  cases call with
  | reserve dueAt => exact (reserve_open dueAt).2 h
  | claim leaseMs dbNow => exact (claim_keepsOpen leaseMs dbNow).2 h
  | confirm owner jobSuffix runId => exact (confirm_step_keepsOpen owner jobSuffix runId).2 h
  | renew now generation additionalLeaseMs =>
    exact (update_keepsOpen (renew_keepsOpen configured now generation additionalLeaseMs)).2 h
  | complete status generation => exact update_keepsEnded (complete_keepsEnded status generation) h
  | fail now owner generation retryDelayMs =>
    exact (update_keepsOpen (fail_keepsOpen now owner generation retryDelayMs)).2 h
  | markIrrecoverable status => exact update_keepsEnded (markIrrecoverable_keepsEnded status) h
  | completeByBullJobId bullJobId =>
    exact update_keepsEnded (completeByBullJobId_keepsEnded bullJobId) h
  | failByBullJobIdRead bullJobId =>
    simp only [obligationStep]
    split
    · split <;> exact h
    · exact h
  | failByBullJobIdWrite bullJobId now =>
    simp only [obligationStep]
    split
    · exact (update_keepsOpen (fail_keepsOpen now none none none)).2 h
    · exact h

end ObligationState

/-! ### Passes -/

namespace Obligations

open ObligationState (OpenKept)

variable {configured : Option ℕ} {obligations : Obligations} {key : ObligationKey}

/-- A call acts on its own obligation. -/
theorem call_self (call : ObligationCall) :
    (obligations.call configured key call) key =
      obligationStep configured (obligations key) call := by
  simp [Obligations.call]

/-- A call leaves the other obligations. -/
theorem call_of_ne {other : ObligationKey} (h : key ≠ other) (call : ObligationCall) :
    (obligations.call configured other call) key = obligations key := by
  simp [Obligations.call, h]

/-- A claim with its enqueue leaves ended obligations and ends none. -/
theorem claimAndEnqueue_keepsOpen (obligations : Obligations) (claimedAt : ℕ)
    (claim : ObligationKey × EnqueueOutcome) :
    OpenKept (obligations key) (obligations.claimAndEnqueue configured claimedAt claim key) := by
  obtain ⟨claimKey, outcome⟩ := claim
  by_cases hkey : key = claimKey
  · subst hkey
    have hclaim : OpenKept (obligations key)
        (obligationStep configured (obligations key) (.claim none claimedAt)) :=
      ObligationState.claim_keepsOpen none claimedAt
    refine hclaim.trans ?_
    cases outcome with
    | enqueued jobSuffix runId =>
      simp only [claimAndEnqueue, call_self]
      exact ObligationState.confirm_step_keepsOpen _ jobSuffix runId
    | failed now =>
      simp only [claimAndEnqueue, call_self]
      exact ObligationState.update_keepsOpen (fail_keepsOpen now _ none none)
  · have hsame : obligations.claimAndEnqueue configured claimedAt (claimKey, outcome) key =
        obligations key := by
      cases outcome <;> simp only [claimAndEnqueue, call_of_ne hkey]
    rw [hsame]
    exact OpenKept.refl _

/-- Claims leave ended obligations and end none. -/
theorem claims_keepOpen (claimedAt : ℕ) (claims : List (ObligationKey × EnqueueOutcome))
    (obligations : Obligations) :
    OpenKept (obligations key)
      (claims.foldl (claimAndEnqueue configured claimedAt) obligations key) := by
  induction claims generalizing obligations with
  | nil => exact OpenKept.refl _
  | cons claim rest ih =>
    exact (claimAndEnqueue_keepsOpen obligations claimedAt claim).trans (ih _)

/-- Plans of other definitions leave the obligation as it is. -/
theorem reserveDefinition_of_ne {definition : String × List SchedulerObligationPlan}
    (h : definition.1 ≠ key.jobName) (obligations : Obligations) :
    obligations.reserveDefinition configured definition key = obligations key := by
  unfold reserveDefinition
  induction definition.2 generalizing obligations with
  | nil => rfl
  | cons plan rest ih =>
    have hne : key ≠ plan.key definition.1 := by
      rintro rfl
      exact h rfl
    rw [List.foldl_cons, ih]
    unfold reservePlan
    cases plan.terminalStatus <;> simp only [call_of_ne hne]

/-- Other definitions leave the obligation as it is. -/
theorem reserveDefinitions_of_ne {registry : List (String × List SchedulerObligationPlan)}
    (h : ∀ definition ∈ registry, definition.1 ≠ key.jobName) (obligations : Obligations) :
    registry.foldl (reserveDefinition configured) obligations key = obligations key := by
  induction registry generalizing obligations with
  | nil => rfl
  | cons definition rest ih =>
    rw [List.foldl_cons, ih fun other hother => h other (List.mem_cons_of_mem _ hother)]
    exact reserveDefinition_of_ne (h definition List.mem_cons_self) obligations

/-- A plan that closes nothing leaves ended obligations and ends none. -/
theorem reservePlan_keepsOpen {jobName : String} {plan : SchedulerObligationPlan}
    (hplan : plan.terminalStatus = none) (obligations : Obligations) :
    OpenKept (obligations key) (obligations.reservePlan configured jobName plan key) := by
  simp only [reservePlan, hplan]
  by_cases hkey : key = plan.key jobName
  · subst hkey
    rw [call_self]
    exact ⟨fun hopen => (ObligationState.reserve_open plan.dueAt).1 hopen.not_ended,
      (ObligationState.reserve_open plan.dueAt).2⟩
  · rw [call_of_ne hkey]
    exact OpenKept.refl _

/-- Plans that close nothing leave ended obligations and end none. -/
theorem reservePlans_keepOpen {jobName : String} {plans : List SchedulerObligationPlan}
    (hplans : ∀ plan ∈ plans, plan.terminalStatus = none) (obligations : Obligations) :
    OpenKept (obligations key) (plans.foldl (reservePlan configured jobName) obligations key) := by
  induction plans generalizing obligations with
  | nil => exact OpenKept.refl _
  | cons plan rest ih =>
    exact (reservePlan_keepsOpen (hplans plan List.mem_cons_self) obligations).trans
      (ih (fun other hother => hplans other (List.mem_cons_of_mem _ hother)) _)

/-- A plan opens its obligation unless it has ended. -/
theorem reservePlans_open {jobName : String} {plans : List SchedulerObligationPlan}
    (hplans : ∀ plan ∈ plans, plan.terminalStatus = none) {plan : SchedulerObligationPlan}
    (hplan : plan ∈ plans) (obligations : Obligations)
    (h : ¬ (obligations (plan.key jobName)).Ended) :
    (plans.foldl (reservePlan configured jobName) obligations (plan.key jobName)).Open := by
  induction plans generalizing obligations with
  | nil => simp at hplan
  | cons first rest ih =>
    have hrest : ∀ other ∈ rest, other.terminalStatus = none :=
      fun other hother => hplans other (List.mem_cons_of_mem _ hother)
    rw [List.foldl_cons]
    by_cases hkey : plan.key jobName = first.key jobName
    · refine (reservePlans_keepOpen hrest _).1 ?_
      rw [hkey] at h ⊢
      simp only [reservePlan, hplans first List.mem_cons_self, call_self]
      exact (ObligationState.reserve_open first.dueAt).1 h
    · have hne : plan ≠ first := fun heq => hkey (by rw [heq])
      refine ih hrest ((List.mem_cons.mp hplan).resolve_left hne) _ ?_
      simp only [reservePlan, hplans first List.mem_cons_self, call_of_ne hkey]
      exact h

/-- After a pass the obligation of a plan is open exactly when it had not ended before. -/
theorem open_runSchedulerPass_iff {before after : List (String × List SchedulerObligationPlan)}
    {jobName : String} {plans : List SchedulerObligationPlan}
    (hbefore : ∀ definition ∈ before, definition.1 ≠ jobName)
    (hafter : ∀ definition ∈ after, definition.1 ≠ jobName)
    (hplans : ∀ plan ∈ plans, plan.terminalStatus = none) {plan : SchedulerObligationPlan}
    (hplan : plan ∈ plans) (obligations : Obligations) (pass : SchedulerPass) :
    (obligations.runSchedulerPass configured (before ++ (jobName, plans) :: after) pass
      (plan.key jobName)).Open ↔ ¬ (obligations (plan.key jobName)).Ended := by
  let started := before.foldl (reserveDefinition configured) obligations
  have hstarted : started (plan.key jobName) = obligations (plan.key jobName) :=
    reserveDefinitions_of_ne hbefore obligations
  let reserved := plans.foldl (reservePlan configured jobName) started
  have hreserved : (before ++ (jobName, plans) :: after).foldl (reserveDefinition configured)
      obligations (plan.key jobName) = reserved (plan.key jobName) := by
    rw [List.foldl_append, List.foldl_cons]
    exact reserveDefinitions_of_ne hafter reserved
  have hclaims : OpenKept (reserved (plan.key jobName))
      (obligations.runSchedulerPass configured (before ++ (jobName, plans) :: after) pass
        (plan.key jobName)) := by
    rw [← hreserved]
    exact claims_keepOpen pass.claimedAt pass.claims _
  constructor
  · intro hopen hended
    rw [← hstarted] at hended
    exact hopen.not_ended (hclaims.2 ((reservePlans_keepOpen hplans started).2 hended))
  · intro hnot
    rw [← hstarted] at hnot
    exact hclaims.1 (reservePlans_open hplans hplan started hnot)

/-- No call opens an obligation that has ended. -/
theorem ended_call (h : (obligations key).Ended) (other : ObligationKey) (call : ObligationCall) :
    (obligations.call configured other call key).Ended := by
  by_cases hkey : key = other
  · subst hkey
    rw [call_self]
    exact h.step call
  · rw [call_of_ne hkey]
    exact h

/-- No plan opens an obligation that has ended. -/
theorem ended_reservePlans {jobName : String} (plans : List SchedulerObligationPlan)
    (h : (obligations key).Ended) :
    (plans.foldl (reservePlan configured jobName) obligations key).Ended := by
  induction plans generalizing obligations with
  | nil => exact h
  | cons plan rest ih =>
    refine ih ?_
    unfold reservePlan
    cases plan.terminalStatus with
    | none => exact ended_call h _ _
    | some status => exact ended_call (ended_call h _ _) _ _

/-- No pass opens an obligation that has ended. -/
theorem ended_runSchedulerPass (registry : List (String × List SchedulerObligationPlan))
    (pass : SchedulerPass) (h : (obligations key).Ended) :
    (obligations.runSchedulerPass configured registry pass key).Ended := by
  refine (claims_keepOpen pass.claimedAt pass.claims _).2 ?_
  induction registry generalizing obligations with
  | nil => exact h
  | cons definition rest ih => exact ih (ended_reservePlans definition.2 h)

end Obligations

end LetletmeData
