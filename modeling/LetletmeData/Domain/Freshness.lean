import Mathlib.Algebra.Order.Ring.Int

/-!
# Freshness boundaries

A timestamp is a date, which counts milliseconds, or a text with microseconds. The later one of two
is found by their dates and then by their fractions.
-/

namespace LetletmeData

/-- `Date | string`: a valid date in milliseconds or the text of a time in microseconds. -/
inductive Timestamp where
  | date (milliseconds : ℕ)
  | exact (microseconds : ℕ)
  deriving DecidableEq

namespace Timestamp

/-- `new Date(value).getTime()`. -/
def getTime : Timestamp → ℕ
  | .date milliseconds => milliseconds
  | .exact microseconds => microseconds / 1000

/-- `fractionalMicroseconds`. -/
def fractionalMicroseconds : Timestamp → ℕ
  | .date milliseconds => milliseconds % 1000 * 1000
  | .exact microseconds => microseconds % 1000000

/-- The time a timestamp stands for, in microseconds. -/
def microseconds : Timestamp → ℕ
  | .date milliseconds => milliseconds * 1000
  | .exact microseconds => microseconds

/-- The date of a timestamp counts its full milliseconds. -/
theorem getTime_eq (timestamp : Timestamp) : timestamp.getTime = timestamp.microseconds / 1000 := by
  cases timestamp <;> simp [getTime, microseconds]

/-- Of two timestamps with one date, the fractions tell which is later. -/
theorem fraction_lt_iff {left right : Timestamp} (h : left.getTime = right.getTime) :
    left.fractionalMicroseconds < right.fractionalMicroseconds ↔
      left.microseconds < right.microseconds := by
  cases left <;> cases right <;>
    simp only [getTime, fractionalMicroseconds, microseconds] at * <;> omega

end Timestamp

/-- `latestFreshnessTimestamp`. -/
def latestFreshnessTimestamp (sourceFreshAfter : Timestamp)
    (finalizationCutoff : Option Timestamp) : Timestamp :=
  match finalizationCutoff with
  | none => sourceFreshAfter
  | some cutoff =>
    if cutoff.getTime ≠ sourceFreshAfter.getTime then
      if sourceFreshAfter.getTime < cutoff.getTime then cutoff else sourceFreshAfter
    else if sourceFreshAfter.fractionalMicroseconds < cutoff.fractionalMicroseconds then cutoff
    else sourceFreshAfter

/-- `isFreshnessBoundaryNewer`. -/
def isFreshnessBoundaryNewer (sourceFreshAfter : Timestamp)
    (candidateFinalization : Option Timestamp) : Bool :=
  candidateFinalization.isSome &&
    latestFreshnessTimestamp sourceFreshAfter candidateFinalization ≠ sourceFreshAfter

/-- The later timestamp is found exactly. -/
theorem latestFreshnessTimestamp_some (source cutoff : Timestamp) :
    latestFreshnessTimestamp source (some cutoff) =
      if source.microseconds < cutoff.microseconds then cutoff else source := by
  unfold latestFreshnessTimestamp
  by_cases htime : cutoff.getTime = source.getTime
  · simp only [htime, ne_eq, not_true_eq_false, if_false,
      Timestamp.fraction_lt_iff htime.symm]
  · have hlt : source.getTime < cutoff.getTime ↔ source.microseconds < cutoff.microseconds := by
      rw [Timestamp.getTime_eq, Timestamp.getTime_eq] at htime ⊢
      omega
    simp only [ne_eq, htime, not_false_eq_true, if_true, hlt]

/-- A boundary that is not newer is not later. -/
theorem isFreshnessBoundaryNewer_eq_false (source cutoff : Timestamp) :
    isFreshnessBoundaryNewer source (some cutoff) = false ↔
      cutoff.microseconds ≤ source.microseconds := by
  rw [isFreshnessBoundaryNewer, latestFreshnessTimestamp_some]
  by_cases h : source.microseconds < cutoff.microseconds
  · have hne : cutoff ≠ source := by
      rintro rfl
      exact lt_irrefl _ h
    simp [h, hne]
  · simp [h, not_lt.mp h]

end LetletmeData
