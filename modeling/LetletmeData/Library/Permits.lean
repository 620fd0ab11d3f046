import Mathlib.Data.List.Basic
import Mathlib.Logic.Function.Basic
import Mathlib.Algebra.Order.Group.Nat

/-!
# Permits

Operations of several classes share a number of permits. An operation that comes while a permit is
free takes it; otherwise it waits in the queue of its class. A permit that is given back goes to the
first operation that waits in a class before which no other class waits, and is free when none does.
-/

namespace LetletmeData.Library

/-- Who holds a permit and who waits for one, with the order in which the operations of each class
came and in which they were admitted. -/
structure Permits (Class Operation : Type*) where
  running : List Operation
  waiting : Class → List Operation
  arrived : Class → List Operation
  admitted : Class → List Operation

namespace Permits

variable {Class Operation : Type*} [DecidableEq Class] [DecidableEq Operation]

/-- Nobody has come. -/
def none : Permits Class Operation := ⟨[], fun _ => [], fun _ => [], fun _ => []⟩

/-- An operation joins a list of its class. -/
def joined (lists : Class → List Operation) (kind : Class) (operation : Operation) :
    Class → List Operation :=
  Function.update lists kind (lists kind ++ [operation])

omit [DecidableEq Operation] in
/-- The list of its class ends with the operation. -/
theorem joined_self (lists : Class → List Operation) (kind : Class) (operation : Operation) :
    joined lists kind operation kind = lists kind ++ [operation] := Function.update_self _ _ _

omit [DecidableEq Operation] in
/-- The lists of other classes stay. -/
theorem joined_of_ne {lists : Class → List Operation} {kind other : Class} (h : other ≠ kind)
    (operation : Operation) : joined lists kind operation other = lists other :=
  Function.update_of_ne h _ _

omit [DecidableEq Operation] in
/-- What a list holds after an operation has joined one. -/
theorem mem_joined {lists : Class → List Operation} {kind other : Class}
    {operation member : Operation} :
    member ∈ joined lists kind operation other ↔
      member ∈ lists other ∨ other = kind ∧ member = operation := by
  by_cases hother : other = kind
  · rw [hother, joined_self, List.mem_append, List.mem_singleton, and_iff_right rfl]
  · rw [joined_of_ne hother, or_iff_left fun h => hother h.1]

/-- What may happen to permits of a limited number. -/
inductive Step (limit : ℕ) (before : Class → Class → Prop) :
    Permits Class Operation → Permits Class Operation → Prop where
  | start (permits : Permits Class Operation) (kind : Class) (operation : Operation)
      (hfree : permits.running.length < limit) :
      Step limit before permits
        { permits with
          running := permits.running ++ [operation]
          arrived := joined permits.arrived kind operation
          admitted := joined permits.admitted kind operation }
  | wait (permits : Permits Class Operation) (kind : Class) (operation : Operation)
      (hfull : ¬ permits.running.length < limit) :
      Step limit before permits
        { permits with
          waiting := joined permits.waiting kind operation
          arrived := joined permits.arrived kind operation }
  | free (permits : Permits Class Operation) (operation : Operation)
      (hrunning : operation ∈ permits.running) (hnone : ∀ kind, permits.waiting kind = []) :
      Step limit before permits { permits with running := permits.running.erase operation }
  | handOver (permits : Permits Class Operation) (operation next : Operation) (kind : Class)
      (rest : List Operation) (hrunning : operation ∈ permits.running)
      (hnext : permits.waiting kind = next :: rest)
      (hfirst : ∀ other, before other kind → permits.waiting other = []) :
      Step limit before permits
        { permits with
          running := permits.running.erase operation ++ [next]
          waiting := Function.update permits.waiting kind rest
          admitted := joined permits.admitted kind next }

/-- No permit is held too often, none is free while an operation waits, and the operations of a
class are admitted in the order in which they came. -/
structure Sound (limit : ℕ) (permits : Permits Class Operation) : Prop where
  within : permits.running.length ≤ limit
  full : ∀ kind, permits.waiting kind ≠ [] → permits.running.length = limit
  inOrder : ∀ kind, permits.admitted kind ++ permits.waiting kind = permits.arrived kind

omit [DecidableEq Class] [DecidableEq Operation] in
/-- Nobody waits for a permit that is there. -/
theorem Sound.waiting_eq_nil {limit : ℕ} {permits : Permits Class Operation}
    (h : permits.Sound limit) (hfree : permits.running.length < limit) (kind : Class) :
    permits.waiting kind = [] := by
  by_contra hwaits
  exact absurd (h.full kind hwaits) hfree.ne

omit [DecidableEq Class] [DecidableEq Operation] in
/-- Before anybody comes all is sound. -/
theorem sound_none (limit : ℕ) : (none : Permits Class Operation).Sound limit :=
  ⟨Nat.zero_le _, fun _ h => absurd rfl h, fun _ => rfl⟩

/-- Whatever happens keeps permits sound. -/
theorem Sound.step {limit : ℕ} {before : Class → Class → Prop}
    {permits next : Permits Class Operation} (h : permits.Sound limit)
    (hstep : Step limit before permits next) : next.Sound limit := by
  cases hstep with
  | start kind operation hfree =>
    have hnone := h.waiting_eq_nil hfree
    refine ⟨?_, fun other hwaits => absurd (hnone other) hwaits, fun other => ?_⟩
    · rw [List.length_append, List.length_singleton]
      exact hfree
    · change joined permits.admitted kind operation other ++ permits.waiting other =
        joined permits.arrived kind operation other
      have hother := h.inOrder other
      rw [hnone other, List.append_nil] at hother ⊢
      by_cases hkind : other = kind
      · subst hkind
        rw [joined_self, joined_self, hother]
      · rw [joined_of_ne hkind, joined_of_ne hkind, hother]
  | wait kind operation hfull =>
    have hlimit : permits.running.length = limit := le_antisymm h.within (not_lt.mp hfull)
    refine ⟨h.within, fun _ _ => hlimit, fun other => ?_⟩
    change permits.admitted other ++ joined permits.waiting kind operation other =
      joined permits.arrived kind operation other
    have hother := h.inOrder other
    by_cases hkind : other = kind
    · subst hkind
      rw [joined_self, joined_self, ← hother, List.append_assoc]
    · rw [joined_of_ne hkind, joined_of_ne hkind, hother]
  | free operation hrunning hnone =>
    refine ⟨?_, fun other hwaits => absurd (hnone other) hwaits, h.inOrder⟩
    exact (List.length_erase_le).trans h.within
  | handOver operation waiter kind rest hrunning hnext hfirst =>
    have hlength : (permits.running.erase operation ++ [waiter]).length =
        permits.running.length := by
      rw [List.length_append, List.length_erase_of_mem hrunning, List.length_singleton]
      exact Nat.sub_add_cancel (List.length_pos_of_mem hrunning)
    have hlimit : permits.running.length = limit := h.full kind (by simp [hnext])
    refine ⟨hlength.trans_le h.within, fun _ _ => hlength.trans hlimit, fun other => ?_⟩
    change joined permits.admitted kind waiter other ++
      Function.update permits.waiting kind rest other = permits.arrived other
    have hother := h.inOrder other
    by_cases hkind : other = kind
    · subst hkind
      rw [joined_self, Function.update_self, ← hother, hnext, List.append_assoc]
      rfl
    · rw [joined_of_ne hkind, Function.update_of_ne hkind, hother]

/-- An operation is admitted only while nobody waits who goes before it. -/
theorem Step.waiting_eq_nil {limit : ℕ} {before : Class → Class → Prop}
    {permits next : Permits Class Operation} (hstep : Step limit before permits next)
    (h : permits.Sound limit) {kind other : Class}
    (hadmitted : next.admitted kind ≠ permits.admitted kind) (hbefore : before other kind) :
    permits.waiting other = [] := by
  cases hstep with
  | start started operation hfree => exact h.waiting_eq_nil hfree other
  | wait waiter operation hfull => exact absurd rfl hadmitted
  | free operation hrunning hnone => exact hnone other
  | handOver operation waiter first rest hrunning hnext hfirst =>
    by_cases hkind : kind = first
    · exact hfirst other (hkind ▸ hbefore)
    · exact absurd (joined_of_ne hkind _) hadmitted

/-! ### Operations of one class -/

/-- The permits of operations of one class. -/
def single (running waiting arrived admitted : List Operation) : Permits Unit Operation :=
  ⟨running, fun _ => waiting, fun _ => arrived, fun _ => admitted⟩

section Single

variable {limit : ℕ} {running waiting arrived admitted : List Operation}

omit [DecidableEq Operation] in
/-- The list of the only class ends with an operation that joins it. -/
theorem joined_unit (list : List Operation) (operation : Operation) :
    joined (fun _ => list) () operation = fun _ : Unit => list ++ [operation] :=
  funext fun _ => joined_self _ _ _

/-- An operation that finds a permit takes it. -/
theorem Sound.start (h : (single running waiting arrived admitted).Sound limit)
    (hfree : running.length < limit) (operation : Operation) :
    (single (running ++ [operation]) waiting (arrived ++ [operation])
      (admitted ++ [operation])).Sound limit := by
  have hnext := h.step (@Step.start _ _ _ _ _ (fun _ _ => False) _ () operation hfree)
  simpa only [single, joined_unit] using hnext

/-- An operation that finds no permit waits. -/
theorem Sound.wait (h : (single running waiting arrived admitted).Sound limit)
    (hfull : ¬ running.length < limit) (operation : Operation) :
    (single running (waiting ++ [operation]) (arrived ++ [operation]) admitted).Sound limit := by
  have hnext := h.step (@Step.wait _ _ _ _ _ (fun _ _ => False) _ () operation hfull)
  simpa only [single, joined_unit] using hnext

/-- A permit that nobody waits for becomes free. -/
theorem Sound.free (h : (single running [] arrived admitted).Sound limit) {operation : Operation}
    (hrunning : operation ∈ running) :
    (single (running.erase operation) [] arrived admitted).Sound limit :=
  h.step (@Step.free _ _ _ _ _ (fun _ _ => False) _ operation hrunning fun _ => rfl)

/-- A permit is handed to the operation that has waited longest. -/
theorem Sound.handOver {next : Operation}
    (h : (single running (next :: waiting) arrived admitted).Sound limit) {operation : Operation}
    (hrunning : operation ∈ running) :
    (single (running.erase operation ++ [next]) waiting arrived (admitted ++ [next])).Sound
      limit := by
  have hnext := h.step (@Step.handOver _ _ _ _ _ (fun _ _ => False) _ operation next () waiting
    hrunning rfl fun _ hbefore => hbefore.elim)
  have hwaiting : Function.update (fun _ : Unit => next :: waiting) () waiting = fun _ => waiting :=
    funext fun _ => Function.update_self _ _ _
  simpa only [single, joined_unit, hwaiting] using hnext

end Single

end Permits

end LetletmeData.Library
