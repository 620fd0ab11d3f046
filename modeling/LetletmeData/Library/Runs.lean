import Mathlib.Algebra.Order.Ring.Int
import Mathlib.Order.Basic

/-!
# Runs

Runs of a step function, and stores in which runs only move forward.
-/

namespace LetletmeData.Library

/-! ## Runs of a total step function

A run takes a list of actions from a starting state. Conditions are judged at every
step, in the state the step starts from, so one definition states both what a caller
must respect and what each step must guarantee. The rules below turn a step lemma into
a statement about every run.
-/

section StepRuns

variable {State Action : Type*} (step : State → Action → State)

/-- The state reached by taking the actions in order. -/
def runSteps : State → List Action → State
  | state, [] => state
  | state, action :: rest => runSteps (step state action) rest

/-- A condition that holds of every step of a run, judged where the step starts. -/
def EveryStep (condition : State → Action → Prop) : State → List Action → Prop
  | _, [] => True
  | state, action :: rest =>
    condition state action ∧ EveryStep condition (step state action) rest

/-- A decidable condition is decided step by step along a concrete run. -/
instance EveryStep.decidable (condition : State → Action → Prop)
    [∀ state action, Decidable (condition state action)] :
    ∀ state actions, Decidable (EveryStep step condition state actions)
  | _, [] => inferInstanceAs (Decidable True)
  | state, action :: rest =>
    have := EveryStep.decidable condition (step state action) rest
    inferInstanceAs (Decidable (condition state action ∧ _))

/-- An empty run stays where it starts. -/
@[simp] theorem runSteps_nil (state : State) : runSteps step state [] = state := rfl

/-- A nonempty run takes its first step and continues from there. -/
@[simp] theorem runSteps_cons (state : State) (action : Action) (rest : List Action) :
    runSteps step state (action :: rest) = runSteps step (step state action) rest := rfl

/-- Consecutive runs compose. -/
theorem runSteps_append (state : State) (first second : List Action) :
    runSteps step state (first ++ second) = runSteps step (runSteps step state first) second := by
  induction first generalizing state with
  | nil => rfl
  | cons action rest ih => simp only [List.cons_append, runSteps_cons, ih]

variable {step}

/-- What every step preserves, every run preserves. -/
theorem runSteps_invariant {invariant : State → Prop}
    (hstep : ∀ state action, invariant state → invariant (step state action))
    (state : State) (actions : List Action) (h : invariant state) :
    invariant (runSteps step state actions) := by
  induction actions generalizing state with
  | nil => exact h
  | cons action rest ih => exact ih _ (hstep state action h)

/-- What allowed steps preserve, runs of allowed steps preserve. -/
theorem runSteps_invariant_of_allowed {invariant : State → Prop} {allowed : Action → Prop}
    (hstep : ∀ state action, invariant state → allowed action → invariant (step state action))
    (state : State) (actions : List Action) (h : invariant state)
    (hactions : ∀ action ∈ actions, allowed action) : invariant (runSteps step state actions) := by
  induction actions generalizing state with
  | nil => exact h
  | cons action rest ih =>
    exact ih _ (hstep state action h (hactions action List.mem_cons_self)) fun other hother =>
      hactions other (List.mem_cons_of_mem _ hother)

/-- When a step leaves to see only what the next step would have left alone, a run leaves to
see what its last step does on its own. -/
theorem runSteps_of_absorbing {Seen : Type*} {observe : State → Seen} {invariant : State → Prop}
    {allowed : Action → Prop}
    (hstep : ∀ state action, invariant state → allowed action → invariant (step state action))
    (habsorb : ∀ state earlier later, invariant state → allowed earlier → allowed later →
      observe (step (step state earlier) later) = observe (step state later))
    (state : State) (actions : List Action) (last : Action) (h : invariant state)
    (hactions : ∀ action ∈ actions, allowed action) (hlast : allowed last) :
    observe (runSteps step state (actions ++ [last])) = observe (step state last) := by
  induction actions generalizing state with
  | nil => rfl
  | cons action rest ih =>
    have haction : allowed action := hactions action List.mem_cons_self
    have hrest : ∀ other ∈ rest, allowed other :=
      fun other hother => hactions other (List.mem_cons_of_mem _ hother)
    rw [List.cons_append, runSteps_cons, ih _ (hstep state action h haction) hrest]
    exact habsorb state action last h haction hlast

/-- A condition holds along every run when an invariant of the steps implies it. -/
theorem everyStep_of_invariant {invariant : State → Prop} {condition : State → Action → Prop}
    (hstep : ∀ state action, invariant state → invariant (step state action))
    (himplies : ∀ state action, invariant state → condition state action)
    (state : State) (actions : List Action) (h : invariant state) :
    EveryStep step condition state actions := by
  induction actions generalizing state with
  | nil => trivial
  | cons action rest ih => exact ⟨himplies state action h, ih _ (hstep state action h)⟩

/-- Under an invariant that guarded steps preserve, guarded runs satisfy what guarded
steps satisfy. -/
theorem EveryStep.of_guard {invariant : State → Prop} {guard condition : State → Action → Prop}
    (hstep : ∀ state action, invariant state → guard state action →
      invariant (step state action))
    (himplies : ∀ state action, invariant state → guard state action → condition state action)
    {state : State} {actions : List Action} (h : invariant state)
    (hguard : EveryStep step guard state actions) : EveryStep step condition state actions := by
  induction actions generalizing state with
  | nil => trivial
  | cons action rest ih =>
    exact ⟨himplies state action h hguard.1, ih (hstep state action h hguard.1) hguard.2⟩

/-- What holds in every state and of every action holds at every step. -/
theorem everyStep_of_forall {condition : State → Action → Prop}
    (h : ∀ state action, condition state action) (state : State) (actions : List Action) :
    EveryStep step condition state actions := by
  induction actions generalizing state with
  | nil => trivial
  | cons action rest ih => exact ⟨h state action, ih _⟩

/-- What holds of every action of a run holds at every step of it. -/
theorem everyStep_of_forall_mem {allowed : Action → Prop} (state : State) {actions : List Action}
    (h : ∀ action ∈ actions, allowed action) :
    EveryStep step (fun _ action => allowed action) state actions := by
  induction actions generalizing state with
  | nil => trivial
  | cons first rest ih =>
    exact ⟨h first List.mem_cons_self,
      ih _ fun other hother => h other (List.mem_cons_of_mem _ hother)⟩

/-- Two conditions hold along a run when both hold at every step of it. -/
theorem everyStep_and {left right : State → Action → Prop} {state : State} {actions : List Action} :
    EveryStep step (fun state action => left state action ∧ right state action) state actions ↔
      EveryStep step left state actions ∧ EveryStep step right state actions := by
  induction actions generalizing state with
  | nil => simp [EveryStep]
  | cons action rest ih =>
    simp only [EveryStep, ih]
    exact and_and_and_comm

/-- What guarded steps preserve, runs of guarded steps preserve. -/
theorem runSteps_invariant_of_guard {invariant : State → Prop} {guard : State → Action → Prop}
    (hstep : ∀ state action, invariant state → guard state action →
      invariant (step state action))
    {state : State} {actions : List Action} (h : invariant state)
    (hguard : EveryStep step guard state actions) : invariant (runSteps step state actions) := by
  induction actions generalizing state with
  | nil => exact h
  | cons action rest ih => exact ih (hstep state action h hguard.1) hguard.2

/-- Conditions equivalent under an invariant of the steps hold along the same runs. -/
theorem everyStep_congr {invariant : State → Prop} {left right : State → Action → Prop}
    (hstep : ∀ state action, invariant state → invariant (step state action))
    (hiff : ∀ state action, invariant state → (left state action ↔ right state action))
    (state : State) (actions : List Action) (h : invariant state) :
    EveryStep step left state actions ↔ EveryStep step right state actions := by
  induction actions generalizing state with
  | nil => exact Iff.rfl
  | cons action rest ih => exact and_congr (hiff state action h) (ih _ (hstep state action h))

/-- Conditions equivalent under an invariant of the allowed steps hold along the same runs of
allowed steps. -/
theorem everyStep_congr_of_allowed {invariant : State → Prop} {allowed : Action → Prop}
    {left right : State → Action → Prop}
    (hstep : ∀ state action, invariant state → allowed action → invariant (step state action))
    (hiff : ∀ state action, invariant state → allowed action →
      (left state action ↔ right state action))
    (state : State) (actions : List Action) (h : invariant state)
    (hactions : ∀ action ∈ actions, allowed action) :
    EveryStep step left state actions ↔ EveryStep step right state actions := by
  induction actions generalizing state with
  | nil => exact Iff.rfl
  | cons action rest ih =>
    have haction : allowed action := hactions action List.mem_cons_self
    exact and_congr (hiff state action h haction)
      (ih _ (hstep state action h haction) fun other hother =>
        hactions other (List.mem_cons_of_mem _ hother))

/-- What a run shows was there at the start, or a step of the run had cause to show it. -/
theorem exists_prefix_of_step {Value : Type*} {invariant : State → Prop}
    {shown cause : State → Value → Prop}
    (hinvariant : ∀ state action, invariant state → invariant (step state action))
    (hstep : ∀ state action value, invariant state → shown (step state action) value →
      shown state value ∨ cause state value)
    (state : State) (actions : List Action) (hinitial : invariant state) {value : Value}
    (h : shown (runSteps step state actions) value) :
    shown state value ∨ ∃ before, before <+: actions ∧ cause (runSteps step state before) value := by
  induction actions generalizing state with
  | nil => exact Or.inl h
  | cons action rest ih =>
    cases ih (step state action) (hinvariant state action hinitial) h with
    | inl hnext =>
      cases hstep state action value hinitial hnext with
      | inl hshown => exact Or.inl hshown
      | inr hcause => exact Or.inr ⟨[], List.nil_prefix, hcause⟩
    | inr hlater =>
      obtain ⟨before, hprefix, hcause⟩ := hlater
      exact Or.inr ⟨action :: before, List.cons_prefix_cons.mpr ⟨rfl, hprefix⟩, hcause⟩

/-- When an invariant lets a step keep a property exactly under a condition, the property holds
all along a run exactly when every step meets the condition. The invariant need only be kept
where the property holds. -/
theorem forall_prefix_iff_everyStep_of_invariant {invariant property : State → Prop}
    {condition : State → Action → Prop}
    (hinvariant : ∀ state action, invariant state → property state →
      invariant (step state action))
    (hstep : ∀ state action, invariant state → property state →
      (property (step state action) ↔ condition state action))
    (state : State) (actions : List Action) (hinitial : invariant state) (h : property state) :
    (∀ before, before <+: actions → property (runSteps step state before)) ↔
      EveryStep step condition state actions := by
  induction actions generalizing state with
  | nil => simp [EveryStep, h]
  | cons action rest ih =>
    have hkept : invariant (step state action) := hinvariant state action hinitial h
    rw [EveryStep, ← hstep state action hinitial h]
    constructor
    · intro hprefixes
      have hnext : property (step state action) := hprefixes [action] (by simp)
      exact ⟨hnext, (ih _ hkept hnext).mp fun before hbefore =>
        hprefixes (action :: before) (List.cons_prefix_cons.mpr ⟨rfl, hbefore⟩)⟩
    · intro hsteps before hbefore
      cases before with
      | nil => exact h
      | cons first before =>
        have hsame := List.cons_prefix_cons.mp hbefore
        rw [hsame.1]
        exact (ih _ hkept hsteps.1).mpr hsteps.2 before hsame.2

/-- The same for a step that needs no invariant. -/
theorem forall_prefix_iff_everyStep {property : State → Prop} {condition : State → Action → Prop}
    (hstep : ∀ state action, property state → (property (step state action) ↔
      condition state action))
    (state : State) (actions : List Action) (h : property state) :
    (∀ before, before <+: actions → property (runSteps step state before)) ↔
      EveryStep step condition state actions :=
  have hinvariant : ∀ state (_ : Action), True → property state → True := fun _ _ _ _ => trivial
  forall_prefix_iff_everyStep_of_invariant hinvariant (fun _ _ _ => hstep _ _)
    state actions trivial h

/-- A condition on consecutive runs is a condition on each of them. -/
theorem everyStep_append {condition : State → Action → Prop} (state : State)
    (first second : List Action) :
    EveryStep step condition state (first ++ second) ↔
      EveryStep step condition state first ∧
        EveryStep step condition (runSteps step state first) second := by
  induction first generalizing state with
  | nil => simp [EveryStep]
  | cons action rest ih => simp only [List.cons_append, EveryStep, ih, runSteps_cons, and_assoc]

/-- A reflexive and transitive relation respected by every step relates the ends of a run. -/
theorem EveryStep.related_ends {related : State → State → Prop}
    (hrefl : ∀ state, related state state)
    (htrans : ∀ first second third, related first second → related second third →
      related first third)
    {state : State} {actions : List Action}
    (h : EveryStep step (fun s a => related s (step s a)) state actions) :
    related state (runSteps step state actions) := by
  induction actions generalizing state with
  | nil => exact hrefl state
  | cons action rest ih => exact htrans _ _ _ h.1 (ih h.2)

/-- Such a relation holds at every step exactly when it relates the ends of every stretch
of the run. -/
theorem everyStep_iff_forall_stretch {related : State → State → Prop}
    (hrefl : ∀ state, related state state)
    (htrans : ∀ first second third, related first second → related second third →
      related first third)
    (state : State) (actions : List Action) :
    EveryStep step (fun s a => related s (step s a)) state actions ↔
      ∀ before stretch after, actions = before ++ stretch ++ after →
        related (runSteps step state before) (runSteps step state (before ++ stretch)) := by
  constructor
  · rintro h before stretch after rfl
    rw [List.append_assoc, everyStep_append, everyStep_append] at h
    rw [runSteps_append]
    exact h.2.1.related_ends hrefl htrans
  · intro h
    induction actions generalizing state with
    | nil => trivial
    | cons action rest ih =>
      refine ⟨h [] [action] rest rfl, ih _ fun before stretch after hsplit => ?_⟩
      exact h (action :: before) stretch after (by simp [hsplit])

end StepRuns

/-! ## Slots that only advance

A slot shows at most one version at a time, and a version has a rank. A store advances when no
slot that showed a version becomes empty or shows another version of the same or a lower rank.
-/

section AdvancingSlots

variable {Slot Version : Type*} (rank : Version → ℕ)

/-- Every version shown is still shown, or gave way to one of a higher rank. -/
def Advances (earlier later : Slot → Option Version) : Prop :=
  ∀ slot, ∀ version ∈ earlier slot, ∃ version' ∈ later slot,
    version' = version ∨ rank version < rank version'

variable {rank}

/-- A store that does not change advances. -/
theorem Advances.refl (shown : Slot → Option Version) : Advances rank shown shown :=
  fun _ version h => ⟨version, h, .inl rfl⟩

/-- Advances compose. -/
theorem Advances.trans {first second third : Slot → Option Version}
    (h : Advances rank first second) (h' : Advances rank second third) :
    Advances rank first third := by
  intro slot version hversion
  obtain ⟨middle, hmiddle, hfirst⟩ := h slot version hversion
  obtain ⟨last, hlast, hsecond⟩ := h' slot middle hmiddle
  refine ⟨last, hlast, ?_⟩
  rcases hfirst with rfl | hfirst
  · exact hsecond
  · rcases hsecond with rfl | hsecond
    · exact .inr hfirst
    · exact .inr (Nat.lt_trans hfirst hsecond)

end AdvancingSlots

end LetletmeData.Library
