import Mathlib.Data.List.Sort
import Mathlib.Logic.Relation
import LetletmeData.Library.Runs

/-!
# Locks taken in one order

Every caller takes the locks of its own list one at a time, runs its body while it holds all of
them, and gives all of them back at once, at any time. When all lists ascend in one linear order
of the locks, the callers never wait for each other in a circle; callers with a lock in common
are never inside together, whatever the order.
-/

namespace LetletmeData.Library

/-- Where a call stands. -/
inductive LockCall (Key : Type*) where
  | notStarted
  | acquiring (remaining : List Key)
  | inside
  | ended

/-- Who holds each lock, and where each call stands. -/
structure LockWorld (Caller Key : Type*) where
  holder : Key → Option Caller
  calls : Caller → LockCall Key

/-- A caller starts, asks for its next lock, enters its body, or gives everything back, which it
does when its body is over and also when it fails on the way. -/
inductive LockAction (Caller : Type*) where
  | start (caller : Caller)
  | acquire (caller : Caller)
  | enter (caller : Caller)
  | release (caller : Caller)

namespace LockWorld

variable {Caller Key : Type*}

/-- No lock is held and no call has started. -/
def initial : LockWorld Caller Key where
  holder := fun _ => none
  calls := fun _ => .notStarted

/-- The caller is in its body. -/
def Inside (world : LockWorld Caller Key) (caller : Caller) : Prop :=
  world.calls caller = .inside

/-- The next lock of the call is held by another caller. -/
def WaitsFor (world : LockWorld Caller Key) (caller other : Caller) : Prop :=
  ∃ key rest, world.calls caller = .acquiring (key :: rest) ∧ world.holder key = some other ∧
    other ≠ caller

variable [DecidableEq Caller] [DecidableEq Key] (wanted : Caller → List Key)

/-- One step of one caller; a lock that another caller holds is not granted. -/
def step (world : LockWorld Caller Key) : LockAction Caller → LockWorld Caller Key
  | .start caller =>
    match world.calls caller with
    | .notStarted =>
      { world with calls := Function.update world.calls caller (.acquiring (wanted caller)) }
    | _ => world
  | .acquire caller =>
    match world.calls caller with
    | .acquiring (key :: rest) =>
      if world.holder key = none ∨ world.holder key = some caller then
        { holder := Function.update world.holder key (some caller)
          calls := Function.update world.calls caller (.acquiring rest) }
      else world
    | _ => world
  | .enter caller =>
    match world.calls caller with
    | .acquiring [] => { world with calls := Function.update world.calls caller .inside }
    | _ => world
  | .release caller =>
    match world.calls caller with
    | .notStarted | .ended => world
    | _ =>
      { holder := fun key => if world.holder key = some caller then none else world.holder key
        calls := Function.update world.calls caller .ended }

/-- What a call holds is what it has taken from its list so far. -/
def Holds (world : LockWorld Caller Key) (caller : Caller) : Prop :=
  match world.calls caller with
  | .notStarted | .ended => ∀ key, world.holder key ≠ some caller
  | .acquiring remaining =>
    ∃ taken, wanted caller = taken ++ remaining ∧
      ∀ key, world.holder key = some caller ↔ key ∈ taken
  | .inside => ∀ key, world.holder key = some caller ↔ key ∈ wanted caller

variable {wanted} {world : LockWorld Caller Key}

section Standing

omit [DecidableEq Caller] [DecidableEq Key]

variable {caller : Caller}

/-- A call that has not started holds nothing. -/
theorem holds_notStarted (hstands : world.calls caller = .notStarted) :
    world.Holds wanted caller ↔ ∀ key, world.holder key ≠ some caller := by
  unfold Holds
  rw [hstands]

/-- A call that has ended holds nothing. -/
theorem holds_ended (hstands : world.calls caller = .ended) :
    world.Holds wanted caller ↔ ∀ key, world.holder key ≠ some caller := by
  unfold Holds
  rw [hstands]

/-- A call on its way holds what stands before its remaining locks. -/
theorem holds_acquiring {remaining : List Key}
    (hstands : world.calls caller = .acquiring remaining) :
    world.Holds wanted caller ↔ ∃ taken, wanted caller = taken ++ remaining ∧
      ∀ key, world.holder key = some caller ↔ key ∈ taken := by
  unfold Holds
  rw [hstands]

/-- A call in its body holds its whole list. -/
theorem holds_inside (hstands : world.calls caller = .inside) :
    world.Holds wanted caller ↔ ∀ key, world.holder key = some caller ↔ key ∈ wanted caller := by
  unfold Holds
  rw [hstands]

/-- A call that holds the same locks and stands where it stood keeps what it has taken. -/
theorem Holds.congr {next : LockWorld Caller Key}
    (hcall : next.calls caller = world.calls caller)
    (hholder : ∀ key, next.holder key = some caller ↔ world.holder key = some caller)
    (h : world.Holds wanted caller) : next.Holds wanted caller := by
  unfold Holds at h ⊢
  rw [hcall]
  cases hstands : world.calls caller with
  | notStarted | ended =>
    rw [hstands] at h
    exact fun key hkey => h key ((hholder key).mp hkey)
  | acquiring remaining =>
    rw [hstands] at h
    obtain ⟨taken, hwanted, htaken⟩ := h
    exact ⟨taken, hwanted, fun key => (hholder key).trans (htaken key)⟩
  | inside =>
    rw [hstands] at h
    exact fun key => (hholder key).trans (h key)

end Standing

/-- Taking a free lock adds it to what the caller has taken and leaves the other calls. -/
theorem holds_acquire {other : Caller} {key : Key} {rest : List Key}
    (hstands : world.calls other = .acquiring (key :: rest))
    (hfree : world.holder key = none ∨ world.holder key = some other) {caller : Caller}
    (h : world.Holds wanted caller) :
    Holds wanted
      { holder := Function.update world.holder key (some other)
        calls := Function.update world.calls other (.acquiring rest) } caller := by
  by_cases hcaller : caller = other
  · subst hcaller
    obtain ⟨taken, hwanted, htaken⟩ := (holds_acquiring hstands).mp h
    refine (holds_acquiring (Function.update_self ..)).mpr ⟨taken ++ [key], by rw [hwanted, List.append_assoc, List.singleton_append], ?_⟩
    intro asked
    by_cases hasked : asked = key
    · simp [hasked]
    · simp [hasked, htaken asked]
  · refine h.congr (Function.update_of_ne hcaller _ _) fun asked => ?_
    by_cases hasked : asked = key
    · subst hasked
      have hnot : world.holder asked ≠ some caller := by
        intro hheld
        cases hfree with
        | inl hnone => exact absurd (hheld.symm.trans hnone) (Option.some_ne_none caller)
        | inr hself => exact hcaller (Option.some.inj (hheld.symm.trans hself))
      simp [hnot, Ne.symm hcaller]
    · simp [hasked]

omit [DecidableEq Key] in
/-- Giving everything back leaves the other calls with what they have taken. -/
theorem holds_release {other caller : Caller} (h : world.Holds wanted caller) :
    Holds wanted
      { holder := fun key => if world.holder key = some other then none else world.holder key
        calls := Function.update world.calls other .ended } caller := by
  by_cases hcaller : caller = other
  · subst hcaller
    refine (holds_ended (Function.update_self ..)).mpr fun key => ?_
    by_cases hheld : world.holder key = some caller
    · simp [hheld]
    · simp [hheld]
  · refine h.congr (Function.update_of_ne hcaller _ _) fun key => ?_
    by_cases hheld : world.holder key = some other
    · simp [hheld, Ne.symm hcaller]
    · simp [hheld]

/-- Every step leaves every call with what it has taken. -/
theorem holds_step (h : ∀ caller, world.Holds wanted caller) (action : LockAction Caller)
    (caller : Caller) : (world.step wanted action).Holds wanted caller := by
  cases action with
  | start other =>
    simp only [step]
    split
    next hstands =>
      by_cases hcaller : caller = other
      · subst hcaller
        have hnone := (holds_notStarted hstands).mp (h caller)
        exact (holds_acquiring (Function.update_self ..)).mpr
          ⟨[], rfl, fun key => iff_of_false (hnone key) List.not_mem_nil⟩
      · exact (h caller).congr (Function.update_of_ne hcaller _ _) fun _ => Iff.rfl
    next => exact h caller
  | acquire other =>
    simp only [step]
    split
    next key rest hstands =>
      split
      next hfree => exact holds_acquire hstands hfree (h caller)
      next => exact h caller
    next => exact h caller
  | enter other =>
    simp only [step]
    split
    next hstands =>
      by_cases hcaller : caller = other
      · subst hcaller
        obtain ⟨taken, hwanted, htaken⟩ := (holds_acquiring hstands).mp (h caller)
        rw [List.append_nil] at hwanted
        exact (holds_inside (Function.update_self ..)).mpr (hwanted ▸ htaken)
      · exact (h caller).congr (Function.update_of_ne hcaller _ _) fun _ => Iff.rfl
    next => exact h caller
  | release other =>
    simp only [step]
    split
    next => exact h caller
    next => exact h caller
    next => exact holds_release (h caller)

/-- In every state a run reaches, every call holds what it has taken. -/
theorem holds_runSteps (actions : List (LockAction Caller)) (caller : Caller) :
    (runSteps (step wanted) initial actions).Holds wanted caller := by
  have hinitial : ∀ caller, (initial : LockWorld Caller Key).Holds wanted caller :=
    fun _ => (holds_notStarted rfl).mpr fun _ => (Option.some_ne_none _).symm
  have hstep : ∀ (world : LockWorld Caller Key) action, (∀ caller, world.Holds wanted caller) →
      ∀ caller, (world.step wanted action).Holds wanted caller :=
    fun _ action h => holds_step h action
  exact runSteps_invariant hstep initial actions hinitial caller

omit [DecidableEq Caller] [DecidableEq Key] in
/-- Callers with a lock in common are not inside together. -/
theorem not_inside_of_common (h : ∀ caller, world.Holds wanted caller) {first second : Caller}
    (hne : first ≠ second) {key : Key} (hfirst : key ∈ wanted first)
    (hsecond : key ∈ wanted second) : ¬ (world.Inside first ∧ world.Inside second) := by
  intro hinside
  have holds_of_inside : ∀ caller, world.Inside caller → key ∈ wanted caller →
      world.holder key = some caller := by
    intro caller hcaller hmem
    exact ((holds_inside hcaller).mp (h caller) key).mpr hmem
  have hheld := holds_of_inside first hinside.1 hfirst
  rw [holds_of_inside second hinside.2 hsecond] at hheld
  exact hne (Option.some.inj hheld).symm

/-! ### Waiting in the order of the locks -/

section Ordered

variable {Key : Type*} [LinearOrder Key] {wanted : Caller → List Key} {world : LockWorld Caller Key}

omit [DecidableEq Caller] in
/-- When a caller waits for another that waits too, the other waits for a greater lock. -/
theorem WaitsFor.lt (hsorted : ∀ caller, (wanted caller).SortedLT)
    (h : ∀ caller, world.Holds wanted caller) {caller other : Caller}
    (hwaits : world.WaitsFor caller other) {key next : Key} {rest later : List Key}
    (hstands : world.calls caller = .acquiring (key :: rest))
    (hother : world.calls other = .acquiring (next :: later)) : key < next := by
  obtain ⟨held, _, hcaller, hheld, _⟩ := hwaits
  cases hstands.symm.trans hcaller
  obtain ⟨taken, hwanted, htaken⟩ := (holds_acquiring hother).mp (h other)
  have hpairs := (hsorted other).pairwise
  rw [hwanted, List.pairwise_append] at hpairs
  exact hpairs.2.2 key ((htaken key).mp hheld) next List.mem_cons_self

omit [DecidableEq Caller] in
/-- Along a chain of waiting callers the locks waited for ascend. -/
theorem lt_of_transGen (hsorted : ∀ caller, (wanted caller).SortedLT)
    (h : ∀ caller, world.Holds wanted caller) {caller other : Caller}
    (hchain : Relation.TransGen world.WaitsFor caller other) {key next : Key}
    {rest later : List Key} (hstands : world.calls caller = .acquiring (key :: rest))
    (hother : world.calls other = .acquiring (next :: later)) : key < next := by
  induction hchain generalizing next later with
  | single hwaits => exact hwaits.lt hsorted h hstands hother
  | tail _ hwaits ih =>
    obtain ⟨between, _, hmiddle, _, _⟩ := id hwaits
    exact (ih hmiddle).trans (hwaits.lt hsorted h hmiddle hother)

/-- Callers whose lists ascend never wait for each other in a circle. -/
theorem acyclic_runSteps (hsorted : ∀ caller, (wanted caller).SortedLT)
    (actions : List (LockAction Caller)) (caller : Caller) :
    ¬ Relation.TransGen (runSteps (step wanted) initial actions).WaitsFor caller caller := by
  intro hcycle
  obtain ⟨_, ⟨key, rest, hstands, _, _⟩, _⟩ := Relation.TransGen.head'_iff.mp hcycle
  exact lt_irrefl key
    (lt_of_transGen hsorted (holds_runSteps actions) hcycle hstands hstands)

end Ordered

end LockWorld

end LetletmeData.Library
