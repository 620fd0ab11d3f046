import Mathlib.Algebra.Order.Ring.Nat
import Mathlib.Data.List.Forall2
import Mathlib.Algebra.Order.BigOperators.Group.List
import Mathlib.Tactic.Common

/-!
# Sums of bounded numbers

Numbers within given bounds can be chosen with a given sum exactly when no lower bound exceeds its
upper one and the sum lies between those of the bounds.
-/

namespace LetletmeData.Library

/-- Numbers within bounds, in their order. -/
def Within (bounds : List (ℕ × ℕ)) (numbers : List ℕ) : Prop :=
  List.Forall₂ (fun bound number => bound.1 ≤ number ∧ number ≤ bound.2) bounds numbers

/-- The sum of numbers within bounds lies between those of the bounds. -/
theorem Within.sum_le {bounds : List (ℕ × ℕ)} {numbers : List ℕ} (h : Within bounds numbers) :
    (∀ bound ∈ bounds, bound.1 ≤ bound.2) ∧ (bounds.map Prod.fst).sum ≤ numbers.sum ∧
      numbers.sum ≤ (bounds.map Prod.snd).sum := by
  induction h with
  | nil => simp
  | cons hhead _ ih =>
    obtain ⟨hbounds, hlow, hhigh⟩ := ih
    simp only [List.forall_mem_cons, List.map_cons, List.sum_cons]
    exact ⟨⟨hhead.1.trans hhead.2, hbounds⟩, by omega, by omega⟩

/-- Every sum between those of the bounds is one of numbers within them. -/
theorem exists_within_of_sum {bounds : List (ℕ × ℕ)} (hbounds : ∀ bound ∈ bounds, bound.1 ≤ bound.2)
    {total : ℕ} (hlow : (bounds.map Prod.fst).sum ≤ total)
    (hhigh : total ≤ (bounds.map Prod.snd).sum) :
    ∃ numbers, Within bounds numbers ∧ numbers.sum = total := by
  induction bounds generalizing total with
  | nil =>
    refine ⟨[], List.Forall₂.nil, ?_⟩
    simpa using (Nat.le_zero.mp hhigh).symm
  | cons bound bounds ih =>
    simp only [List.forall_mem_cons, List.map_cons, List.sum_cons] at hbounds hlow hhigh
    -- the others take as much as they can
    have hrest : min (total - bound.1) (bounds.map Prod.snd).sum ≤ (bounds.map Prod.snd).sum :=
      min_le_right _ _
    have hsums : (bounds.map Prod.fst).sum ≤ (bounds.map Prod.snd).sum :=
      List.sum_le_sum fun other hother => hbounds.2 other hother
    obtain ⟨numbers, hwithin, hsum⟩ := ih hbounds.2
      (le_min (by omega : (bounds.map Prod.fst).sum ≤ total - bound.1) hsums) hrest
    refine ⟨(total - numbers.sum) :: numbers, List.Forall₂.cons ?_ hwithin, ?_⟩
    · rw [hsum]
      omega
    · rw [List.sum_cons, hsum]
      omega

/-- When a sum of numbers within bounds can be reached. -/
theorem exists_within_iff {bounds : List (ℕ × ℕ)} {total : ℕ} :
    (∃ numbers, Within bounds numbers ∧ numbers.sum = total) ↔
      (∀ bound ∈ bounds, bound.1 ≤ bound.2) ∧ (bounds.map Prod.fst).sum ≤ total ∧
        total ≤ (bounds.map Prod.snd).sum := by
  constructor
  · rintro ⟨numbers, hwithin, rfl⟩
    exact hwithin.sum_le
  · rintro ⟨hbounds, hlow, hhigh⟩
    exact exists_within_of_sum hbounds hlow hhigh

end LetletmeData.Library
