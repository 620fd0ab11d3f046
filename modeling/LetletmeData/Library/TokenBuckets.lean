import Mathlib.Algebra.Order.Field.Basic
import Mathlib.Data.List.Count
import Mathlib.Tactic.Linarith
import Mathlib.Tactic.Ring

/-!
# Token buckets

A bucket refills at a constant rate up to its capacity, and every grant takes one token. Counting
from any starting time, the grants and the tokens that are left were all paid for, by the
capacity at first and by the rate since then. So the grants between two times are bounded by the
capacity and what the rate gives between them.
-/

namespace LetletmeData.Library

variable {K : Type*} [Field K] [LinearOrder K] [IsStrictOrderedRing K]

/-- The tokens of a bucket at the time it was last refilled. -/
structure TokenBucket (K : Type*) where
  tokens : K
  refilledAt : K

namespace TokenBucket

variable (capacity rate : K)

/-- The tokens that came in since the last time, up to the capacity. -/
def refill (now : K) (bucket : TokenBucket K) : TokenBucket K where
  tokens := min capacity (bucket.tokens + max 0 (now - bucket.refilledAt) * rate)
  refilledAt := now

/-- A grant takes one token. -/
def take (bucket : TokenBucket K) : TokenBucket K where
  tokens := bucket.tokens - 1
  refilledAt := bucket.refilledAt

/-- Counted from any time, the grants and the tokens left were paid for; times after the last
refill have seen no grant. -/
def Paid (bucket : TokenBucket K) (grants : List K) : Prop :=
  ∀ start, grants.countP (start ≤ ·) = 0 ∨
    start ≤ bucket.refilledAt ∧
      (grants.countP (start ≤ ·) : K) + bucket.tokens ≤
        capacity + rate * (bucket.refilledAt - start)

/-- Between any two times there are no more grants than the capacity and the rate allow. -/
def Bounded (grants : List K) : Prop :=
  ∀ start stop, start ≤ stop →
    (grants.countP (fun time => start ≤ time ∧ time ≤ stop) : K) ≤
      capacity + rate * (stop - start)

variable {capacity rate} {bucket : TokenBucket K} {grants : List K}

omit [IsStrictOrderedRing K] in
/-- Without grants there is nothing to pay for. -/
theorem paid_nil : Paid capacity rate bucket [] := fun _ => Or.inl rfl

/-- Without grants every bound holds. -/
theorem bounded_nil (hcapacity : 0 ≤ capacity) (hrate : 0 ≤ rate) : Bounded capacity rate [] := by
  intro start stop hle
  have hnonneg : 0 ≤ rate * (stop - start) := mul_nonneg hrate (sub_nonneg.mpr hle)
  simpa using add_nonneg hcapacity hnonneg

/-- What comes in by a refill is paid for by the time that has passed. -/
theorem Paid.refill (h : Paid capacity rate bucket grants) {now : K}
    (hnow : bucket.refilledAt ≤ now) :
    Paid capacity rate (bucket.refill capacity rate now) grants := by
  intro start
  cases h start with
  | inl hnone => exact Or.inl hnone
  | inr hpaid =>
    right
    have htokens : (bucket.refill capacity rate now).tokens ≤
        bucket.tokens + (now - bucket.refilledAt) * rate := by
      calc (bucket.refill capacity rate now).tokens
          ≤ bucket.tokens + max 0 (now - bucket.refilledAt) * rate := min_le_right _ _
        _ = bucket.tokens + (now - bucket.refilledAt) * rate := by
          rw [max_eq_right (sub_nonneg.mpr hnow)]
    refine ⟨hpaid.1.trans hnow, ?_⟩
    calc (grants.countP (start ≤ ·) : K) + (bucket.refill capacity rate now).tokens
        ≤ grants.countP (start ≤ ·) + (bucket.tokens + (now - bucket.refilledAt) * rate) :=
          add_le_add le_rfl htokens
      _ = grants.countP (start ≤ ·) + bucket.tokens + (now - bucket.refilledAt) * rate :=
          (add_assoc _ _ _).symm
      _ ≤ capacity + rate * (bucket.refilledAt - start) + (now - bucket.refilledAt) * rate :=
          add_le_add hpaid.2 le_rfl
      _ = capacity + rate * (now - start) := by ring

omit [IsStrictOrderedRing K] in
/-- A refilled bucket is not fuller than its capacity. -/
theorem tokens_refill_le (bucket : TokenBucket K) (now : K) :
    (bucket.refill capacity rate now).tokens ≤ capacity := min_le_left _ _

/-- A refill keeps a bucket that is not overdrawn so. -/
theorem tokens_refill_nonneg (hcapacity : 0 ≤ capacity) (hrate : 0 ≤ rate)
    (h : 0 ≤ bucket.tokens) (now : K) : 0 ≤ (bucket.refill capacity rate now).tokens :=
  le_min hcapacity (add_nonneg h (mul_nonneg (le_max_left _ _) hrate))

/-- A grant at the time of the refill is paid for by its token. -/
theorem Paid.take (h : Paid capacity rate bucket grants) (hrate : 0 ≤ rate)
    (hfull : bucket.tokens ≤ capacity) :
    Paid capacity rate bucket.take (bucket.refilledAt :: grants) := by
  intro start
  by_cases hstart : start ≤ bucket.refilledAt
  · right
    refine ⟨hstart, ?_⟩
    have hnonneg : 0 ≤ rate * (bucket.refilledAt - start) :=
      mul_nonneg hrate (sub_nonneg.mpr hstart)
    have hcount : (bucket.refilledAt :: grants).countP (start ≤ ·) =
        grants.countP (start ≤ ·) + 1 := List.countP_cons_of_pos (by simpa using hstart)
    rw [hcount]
    push_cast
    change _ + (bucket.tokens - 1) ≤ capacity + rate * (bucket.refilledAt - start)
    cases h start with
    | inl hnone =>
      rw [hnone]
      push_cast
      linarith
    | inr hpaid => linarith [hpaid.2]
  · left
    have hcount : (bucket.refilledAt :: grants).countP (start ≤ ·) =
        grants.countP (start ≤ ·) := List.countP_cons_of_neg (by simpa using hstart)
    rw [hcount]
    exact (h start).resolve_right fun hpaid => hstart hpaid.1

/-- A paid grant keeps the bound between any two times, when it is the last one so far. -/
theorem Bounded.take (h : Bounded capacity rate grants) (hcapacity : 0 ≤ capacity)
    (hrate : 0 ≤ rate) (hpaid : Paid capacity rate bucket.take (bucket.refilledAt :: grants))
    (htokens : 0 ≤ bucket.take.tokens) (hlast : ∀ time ∈ grants, time ≤ bucket.refilledAt) :
    Bounded capacity rate (bucket.refilledAt :: grants) := by
  intro start stop hle
  by_cases hstop : bucket.refilledAt ≤ stop
  · have hcount : (bucket.refilledAt :: grants).countP (fun time => start ≤ time ∧ time ≤ stop) =
        (bucket.refilledAt :: grants).countP (start ≤ ·) := by
      refine List.countP_congr fun time htime => ?_
      have hbefore : time ≤ stop := by
        cases List.mem_cons.mp htime with
        | inl hself => exact hself.le.trans hstop
        | inr hold => exact (hlast time hold).trans hstop
      simp [hbefore]
    rw [hcount]
    cases hpaid start with
    | inl hnone =>
      have hnonneg : 0 ≤ rate * (stop - start) := mul_nonneg hrate (sub_nonneg.mpr hle)
      rw [hnone]
      push_cast
      exact add_nonneg hcapacity hnonneg
    | inr hpaid =>
      have hgrow : rate * (bucket.refilledAt - start) ≤ rate * (stop - start) :=
        mul_le_mul_of_nonneg_left (sub_le_sub_right hstop start) hrate
      have hbound := hpaid.2
      change _ ≤ capacity + rate * (bucket.refilledAt - start) at hbound
      linarith
  · have hcount : (bucket.refilledAt :: grants).countP (fun time => start ≤ time ∧ time ≤ stop) =
        grants.countP (fun time => start ≤ time ∧ time ≤ stop) :=
      List.countP_cons_of_neg (by simp [hstop])
    rw [hcount]
    exact h start stop hle

end TokenBucket

end LetletmeData.Library
