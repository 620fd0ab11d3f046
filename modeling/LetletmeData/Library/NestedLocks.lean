import Mathlib.Data.List.Infix
import Mathlib.Logic.Relation
import LetletmeData.Library.Runs

/-!
# Locks that accumulate over nested calls

Every caller makes one call after another, each with a list of locks that it takes one at a time.
The calls are nested in one transaction, so that what a call has taken stays held when the next
one asks, up to the end of the caller or until a savepoint behind its outermost call is rolled
back. When every caller that waits asks for a lock above all it holds, no callers wait for each
other in a circle.
-/

namespace LetletmeData.Library

/-- Where a caller stands: the locks it has taken, in the order it took them, those its present
call still asks for, and the calls that are to come. -/
inductive NestedCall (Key : Type*) where
  | asking (taken remaining : List Key) (later : List (List Key))
  | running (taken : List Key) (later : List (List Key))
  | ended
  deriving DecidableEq

/-- The locks a caller has taken. -/
def NestedCall.taken {Key : Type*} : NestedCall Key → List Key
  | .asking taken _ _ => taken
  | .running taken _ => taken
  | .ended => []

/-- The locks of the outermost call. -/
def outermost {Key : Type*} (calls : List (List Key)) : List Key := calls.headD []

/-- Who holds each lock, and where each caller stands. -/
structure NestedLockWorld (Caller Key : Type*) where
  holder : Key → Option Caller
  calls : Caller → NestedCall Key

/-- A caller makes its next call, asks for the next lock of the call, enters the body of the call,
rolls back to the savepoint behind its outermost call, or ends and gives everything back. -/
inductive NestedLockAction (Caller : Type*) where
  | call (caller : Caller)
  | acquire (caller : Caller)
  | enter (caller : Caller)
  | rollBack (caller : Caller)
  | finish (caller : Caller)

namespace NestedLockWorld

variable {Caller Key : Type*}

/-- No lock is held, and every caller is about to make its outermost call. -/
def initial (wanted : Caller → List (List Key)) : NestedLockWorld Caller Key where
  holder := fun _ => none
  calls := fun caller => .running [] (wanted caller)

/-- The next lock the caller asks for. -/
def Wants (world : NestedLockWorld Caller Key) (caller : Caller) (key : Key) : Prop :=
  ∃ taken rest later, world.calls caller = .asking taken (key :: rest) later

/-- The caller asks for a lock that another one holds. -/
def WaitsFor (world : NestedLockWorld Caller Key) (caller other : Caller) : Prop :=
  ∃ key, world.Wants caller key ∧ world.holder key = some other ∧ other ≠ caller

variable [DecidableEq Caller] [DecidableEq Key] (wanted : Caller → List (List Key))

/-- One step of one caller; a lock that another caller holds is not granted. -/
def step (world : NestedLockWorld Caller Key) : NestedLockAction Caller →
    NestedLockWorld Caller Key
  | .call caller =>
    match world.calls caller with
    | .running taken (call :: later) =>
      { world with calls := Function.update world.calls caller (.asking taken call later) }
    | _ => world
  | .acquire caller =>
    match world.calls caller with
    | .asking taken (key :: rest) later =>
      if world.holder key = none ∨ world.holder key = some caller then
        { holder := Function.update world.holder key (some caller)
          calls := Function.update world.calls caller (.asking (taken ++ [key]) rest later) }
      else world
    | _ => world
  | .enter caller =>
    match world.calls caller with
    | .asking taken [] later =>
      { world with calls := Function.update world.calls caller (.running taken later) }
    | _ => world
  | .rollBack caller =>
    match world.calls caller with
    | .ended => world
    | stands =>
      -- the savepoint lies behind the outermost call, whose locks stay
      let kept := outermost (wanted caller)
      if kept <+: stands.taken then
        { holder := fun key =>
            if world.holder key = some caller ∧ key ∉ kept then none else world.holder key
          calls := Function.update world.calls caller (.running kept []) }
      else world
  | .finish caller =>
    { holder := fun key => if world.holder key = some caller then none else world.holder key
      calls := Function.update world.calls caller .ended }

/-- A caller that is in the middle of its calls has taken the locks of those before, and of the
present one what stands before the remaining ones. After a rollback no calls are to come. -/
def Stands (world : NestedLockWorld Caller Key) (caller : Caller) : Prop :=
  (∀ key, world.holder key = some caller ↔ key ∈ (world.calls caller).taken) ∧
    match world.calls caller with
    | .asking taken remaining later =>
      ∃ made own, wanted caller = made ++ (own ++ remaining) :: later ∧
        taken = made.flatten ++ own
    | .running taken later =>
      ∃ made rest, wanted caller = made ++ rest ∧ taken = made.flatten ∧ (later = rest ∨ later = [])
    | .ended => True

variable {wanted} {world : NestedLockWorld Caller Key}

omit [DecidableEq Caller] [DecidableEq Key] in
/-- A caller that stands where it stood and holds what it held has kept its place. -/
theorem Stands.congr {next : NestedLockWorld Caller Key} {caller : Caller}
    (h : world.Stands wanted caller) (hcall : next.calls caller = world.calls caller)
    (hholder : ∀ key, next.holder key = some caller ↔ world.holder key = some caller) :
    next.Stands wanted caller := by
  unfold Stands
  rw [hcall]
  exact ⟨fun key => (hholder key).trans (h.1 key), h.2⟩

omit [DecidableEq Caller] [DecidableEq Key] in
/-- What a caller has taken stands before what it asks for in its list. -/
theorem Stands.of_asking {caller : Caller} {taken remaining : List Key} {later : List (List Key)}
    (h : world.Stands wanted caller) (hcall : world.calls caller = .asking taken remaining later) :
    (∀ key, world.holder key = some caller ↔ key ∈ taken) ∧
      ∃ made own, wanted caller = made ++ (own ++ remaining) :: later ∧
        taken = made.flatten ++ own := by
  unfold Stands at h
  rw [hcall] at h
  exact h

omit [DecidableEq Caller] [DecidableEq Key] in
/-- What a caller has taken between its calls are the locks of those it has made. -/
theorem Stands.of_running {caller : Caller} {taken : List Key} {later : List (List Key)}
    (h : world.Stands wanted caller) (hcall : world.calls caller = .running taken later) :
    (∀ key, world.holder key = some caller ↔ key ∈ taken) ∧
      ∃ made rest, wanted caller = made ++ rest ∧ taken = made.flatten ∧
        (later = rest ∨ later = []) := by
  unfold Stands at h
  rw [hcall] at h
  exact h

omit [DecidableEq Key] in
/-- A step of one caller keeps the place of the others. -/
theorem stands_step_of_ne {other caller : Caller} (hne : caller ≠ other)
    {holder : Key → Option Caller} (stands : NestedCall Key)
    (hholder : ∀ key, holder key = some caller ↔ world.holder key = some caller)
    (h : world.Stands wanted caller) :
    Stands wanted ⟨holder, Function.update world.calls other stands⟩ caller :=
  h.congr (Function.update_of_ne hne _ _) hholder

omit [DecidableEq Key] in
/-- Making the next call. -/
theorem stands_call (h : ∀ caller, world.Stands wanted caller) {other : Caller} {taken : List Key}
    {call : List Key} {later : List (List Key)}
    (hcall : world.calls other = .running taken (call :: later)) (caller : Caller) :
    Stands wanted
      { world with calls := Function.update world.calls other (.asking taken call later) }
      caller := by
  by_cases hne : caller = other
  · subst hne
    obtain ⟨hholds, made, rest, hwanted, htaken, hlater⟩ := (h caller).of_running hcall
    obtain rfl := hlater.resolve_right (List.cons_ne_nil _ _)
    unfold Stands
    simp only [Function.update_self]
    exact ⟨hholds, made, [], hwanted, by rw [htaken, List.append_nil]⟩
  · exact stands_step_of_ne hne _ (fun _ => Iff.rfl) (h caller)

/-- Taking a free lock. -/
theorem stands_acquire (h : ∀ caller, world.Stands wanted caller) {other : Caller}
    {taken : List Key} {key : Key} {rest : List Key} {later : List (List Key)}
    (hcall : world.calls other = .asking taken (key :: rest) later)
    (hfree : world.holder key = none ∨ world.holder key = some other) (caller : Caller) :
    Stands wanted
      { holder := Function.update world.holder key (some other)
        calls := Function.update world.calls other (.asking (taken ++ [key]) rest later) }
      caller := by
  by_cases hne : caller = other
  · subst hne
    obtain ⟨hholds, made, own, hwanted, htaken⟩ := (h caller).of_asking hcall
    unfold Stands
    simp only [Function.update_self]
    refine ⟨fun asked => ?_, made, own ++ [key], by simpa using hwanted, by simp [htaken]⟩
    by_cases hasked : asked = key
    · simp [NestedCall.taken, hasked]
    · simpa [NestedCall.taken, hasked] using hholds asked
  · refine stands_step_of_ne hne _ (fun asked => ?_) (h caller)
    by_cases hasked : asked = key
    · subst hasked
      rcases hfree with hnone | hself
      · simp [hnone, Ne.symm hne]
      · simp [hself]
    · simp [hasked]

omit [DecidableEq Key] in
/-- Entering the body of a call. -/
theorem stands_enter (h : ∀ caller, world.Stands wanted caller) {other : Caller}
    {taken : List Key} {later : List (List Key)}
    (hcall : world.calls other = .asking taken [] later) (caller : Caller) :
    Stands wanted
      { world with calls := Function.update world.calls other (.running taken later) } caller := by
  by_cases hne : caller = other
  · subst hne
    obtain ⟨hholds, made, own, hwanted, htaken⟩ := (h caller).of_asking hcall
    unfold Stands
    simp only [Function.update_self]
    refine ⟨hholds, made ++ [own], later, by simpa using hwanted, by simp [htaken], Or.inl rfl⟩
  · exact stands_step_of_ne hne _ (fun _ => Iff.rfl) (h caller)

/-- Rolling back to the savepoint behind the outermost call. -/
theorem stands_rollBack (h : ∀ caller, world.Stands wanted caller) {other : Caller}
    (hkept : outermost (wanted other) <+: (world.calls other).taken) (caller : Caller) :
    Stands wanted
      { holder := fun key =>
          if world.holder key = some other ∧ key ∉ outermost (wanted other) then none
          else world.holder key
        calls := Function.update world.calls other (.running (outermost (wanted other)) []) }
      caller := by
  by_cases hne : caller = other
  · subst hne
    unfold Stands
    simp only [Function.update_self]
    refine ⟨fun key => ?_, ?_⟩
    · have hheld : key ∈ outermost (wanted caller) → world.holder key = some caller :=
        fun hmem => ((h caller).1 key).mpr (hkept.subset hmem)
      by_cases hmem : key ∈ outermost (wanted caller)
      · simp [NestedCall.taken, hmem, hheld hmem]
      · by_cases hholder : world.holder key = some caller
        · simp [NestedCall.taken, hmem, hholder]
        · simp [NestedCall.taken, hmem, hholder]
    · cases hwanted : wanted caller with
      | nil => exact ⟨[], [], rfl, rfl, Or.inl rfl⟩
      | cons call later => exact ⟨[call], later, rfl, by simp [outermost], Or.inr trivial⟩
  · refine stands_step_of_ne hne _ (fun key => ?_) (h caller)
    by_cases hholder : world.holder key = some other
    · by_cases hmem : key ∈ outermost (wanted other)
      · simp [hmem]
      · simp [hmem, hholder, Ne.symm hne]
    · simp [hholder]

omit [DecidableEq Key] in
/-- Giving everything back. -/
theorem stands_finish (h : ∀ caller, world.Stands wanted caller) (other caller : Caller) :
    Stands wanted
      { holder := fun key => if world.holder key = some other then none else world.holder key
        calls := Function.update world.calls other .ended } caller := by
  by_cases hne : caller = other
  · subst hne
    unfold Stands
    simp only [Function.update_self]
    refine ⟨fun key => ?_, trivial⟩
    by_cases hholder : world.holder key = some caller
    · simp [NestedCall.taken, hholder]
    · simp [NestedCall.taken, hholder]
  · refine (h caller).congr (Function.update_of_ne hne _ _) fun key => ?_
    by_cases hholder : world.holder key = some other
    · simp [hholder, Ne.symm hne]
    · simp [hholder]

/-- Every step keeps the place of every caller. -/
theorem stands_step (h : ∀ caller, world.Stands wanted caller) (action : NestedLockAction Caller)
    (caller : Caller) : (world.step wanted action).Stands wanted caller := by
  cases action with
  | call other =>
    simp only [step]
    split
    next hcall => exact stands_call h hcall caller
    next => exact h caller
  | acquire other =>
    simp only [step]
    split
    next hcall =>
      split
      next hfree => exact stands_acquire h hcall hfree caller
      next => exact h caller
    next => exact h caller
  | enter other =>
    simp only [step]
    split
    next hcall => exact stands_enter h hcall caller
    next => exact h caller
  | rollBack other =>
    simp only [step]
    split
    next => exact h caller
    next =>
      split
      next hkept => exact stands_rollBack h hkept caller
      next => exact h caller
  | finish other => exact stands_finish h other caller

omit [DecidableEq Caller] [DecidableEq Key] in
/-- In the beginning every caller has its place. -/
theorem stands_initial (caller : Caller) : (initial wanted).Stands wanted caller :=
  ⟨fun _ => by simp [initial, NestedCall.taken], [], wanted caller, rfl, rfl, Or.inl rfl⟩

/-! ### What a caller holds -/

omit [DecidableEq Caller] [DecidableEq Key] in
/-- What a caller has taken stands at the front of the locks of all its calls. -/
theorem Stands.taken_begins {caller : Caller} (h : world.Stands wanted caller) :
    (world.calls caller).taken <+: (wanted caller).flatten := by
  cases hcall : world.calls caller with
  | asking taken remaining later =>
    obtain ⟨-, made, own, hwanted, rfl⟩ := h.of_asking hcall
    exact ⟨remaining ++ later.flatten, by simp [NestedCall.taken, hwanted]⟩
  | running taken later =>
    obtain ⟨-, made, rest, hwanted, rfl, -⟩ := h.of_running hcall
    exact ⟨rest.flatten, by simp [NestedCall.taken, hwanted]⟩
  | ended => exact List.nil_prefix

/-! ### Waiting -/

section Ordered

omit [DecidableEq Caller] [DecidableEq Key]

variable {Rank : Type*} [Preorder Rank]

/-- A caller asks for one lock at a time. -/
theorem Wants.unique {caller : Caller} {key other : Key} (h : world.Wants caller key)
    (hother : world.Wants caller other) : key = other := by
  obtain ⟨_, _, _, hcall⟩ := h
  obtain ⟨_, _, _, hcallOther⟩ := hother
  cases hcall.symm.trans hcallOther
  rfl

/-- Along a chain of waiting callers the locks waited for rise. -/
theorem rank_lt_of_transGen {rank : Key → Rank}
    (hrises : ∀ caller other key, world.Wants caller key → world.holder key = some other →
      other ≠ caller → ∀ held, world.holder held = some caller → rank held < rank key)
    {caller last : Caller} (hchain : Relation.TransGen world.WaitsFor caller last)
    {key next : Key} (hkey : world.Wants caller key) (hnext : world.Wants last next)
    {holder : Caller} (hholder : world.holder next = some holder) (hne : holder ≠ last) :
    rank key < rank next := by
  induction hchain generalizing next holder with
  | single hwaits =>
    obtain ⟨wanted, hwanted, hheld, -⟩ := hwaits
    obtain rfl := hkey.unique hwanted
    exact hrises _ _ _ hnext hholder hne _ hheld
  | tail _ hwaits ih =>
    obtain ⟨between, hbetween, hheld, hother⟩ := hwaits
    exact (ih hbetween hheld hother).trans (hrises _ _ _ hnext hholder hne _ hheld)

/-- When every caller that waits asks for a lock above all it holds, no callers wait for each
other in a circle. -/
theorem acyclic_of_rises (rank : Key → Rank)
    (hrises : ∀ caller other key, world.Wants caller key → world.holder key = some other →
      other ≠ caller → ∀ held, world.holder held = some caller → rank held < rank key)
    (caller : Caller) : ¬ Relation.TransGen world.WaitsFor caller caller := by
  intro hcycle
  obtain ⟨_, hwaits, -⟩ := Relation.TransGen.head'_iff.mp hcycle
  obtain ⟨key, hkey, hheld, hne⟩ := hwaits
  exact lt_irrefl _ (rank_lt_of_transGen hrises hcycle hkey hkey hheld hne)

end Ordered

end NestedLockWorld

end LetletmeData.Library
