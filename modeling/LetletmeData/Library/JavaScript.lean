import Mathlib.Algebra.Order.Ring.Int
import Mathlib.Data.List.Dedup
import Mathlib.Data.List.Forall2
import Mathlib.Data.List.TakeWhile
import Mathlib.Data.Nat.Notation
import Mathlib.Data.Rat.Lemmas

/-!
# The standard library of the language

Numbers, texts and sets as the modelled code takes them from the language.
-/

namespace LetletmeData.Library

/-! ## Numbers and texts of the language

What the modelled code takes from the JavaScript standard library: integers among the numbers, the
safe integers, the number a digit text writes, and trimming.
-/

/-- `Number.isInteger`. -/
def IsInteger (value : ℚ) : Prop := value.den = 1

instance (value : ℚ) : Decidable (IsInteger value) := inferInstanceAs (Decidable (_ = _))

/-- An integer is its numerator. -/
theorem IsInteger.num_eq {value : ℚ} (h : IsInteger value) : (value.num : ℚ) = value :=
  Rat.den_eq_one_iff value |>.mp h

/-- `Number.MAX_SAFE_INTEGER`. -/
def maxSafeInteger : ℕ := 2 ^ 53 - 1

/-- The least integer that `Number` reads as infinite. -/
def infinityThreshold : ℕ := 2 ^ 1024 - 2 ^ 970

/-- A power of two is at most half of each later one. -/
theorem two_pow_le_sub {low high : ℕ} (h : low < high) : 2 ^ low ≤ 2 ^ high - 2 ^ low := by
  have hdouble : 2 ^ (low + 1) ≤ 2 ^ high := Nat.pow_le_pow_right (by omega) h
  rw [Nat.pow_succ'] at hdouble
  omega

/-- Short numbers are finite. -/
theorem lt_infinityThreshold {number size : ℕ} (hsize : size ≤ 970) (h : number < 2 ^ size) :
    number < infinityThreshold :=
  (h.trans_le (Nat.pow_le_pow_right Nat.two_pos hsize)).trans_le (two_pow_le_sub (by omega))

/-- The number that decimal digits write. -/
def decimalValue (digits : List Char) : ℕ :=
  digits.foldl (fun value digit => 10 * value + (digit.toNat - 48)) 0

/-- The characters `String.prototype.trim` removes. -/
def isTrimmed (c : Char) : Bool :=
  (0x09 ≤ c.toNat && c.toNat ≤ 0x0D) || (0x2000 ≤ c.toNat && c.toNat ≤ 0x200A) ||
    [0x20, 0xA0, 0x1680, 0x2028, 0x2029, 0x202F, 0x205F, 0x3000, 0xFEFF].contains c.toNat

/-- `String.prototype.trim`. -/
def trimText (text : String) : String :=
  String.ofList (((text.toList.dropWhile isTrimmed).reverse.dropWhile isTrimmed).reverse)

/-- `value?.trim() || null`. -/
def trimmedOrNull (value : Option String) : Option String :=
  (value.map trimText).filter (· ≠ "")

/-- `length` of a text: characters beyond the basic plane count twice. -/
def utf16Length (text : String) : ℕ :=
  text.toList.foldl (fun length c => length + if c.toNat < 0x10000 then 1 else 2) 0

/-! ## Sets of values

A `Set` built of a list has as many members as the list has different values. Comparing the two
sizes finds repetitions, as comparing the numbers of values and of results finds what has not been
read.
-/

section ValueSets

variable {Value : Type*} [DecidableEq Value]

/-- `new Set(values).size`. -/
def setSize (values : List Value) : ℕ := values.dedup.length

/-- A set is as large as a list without repetitions. -/
theorem setSize_eq_length_iff {values : List Value} :
    setSize values = values.length ↔ values.Nodup := by
  rw [setSize, ← List.dedup_eq_self]
  exact ⟨fun h => (List.dedup_sublist _).eq_of_length h, congrArg List.length⟩

/-- The values of a list that another one lacks. -/
def lacking (values others : List Value) : List Value := values.filter fun value => value ∉ others

/-- No value is lacking exactly when all of them are in the other list. -/
theorem lacking_eq_nil_iff {values others : List Value} :
    lacking values others = [] ↔ ∀ value ∈ values, value ∈ others := by
  rw [lacking, List.filter_eq_nil_iff]
  simp

/-- Distinct values that lack none of each other are the same. -/
theorem perm_of_lacking_eq_nil {values others : List Value} (hvalues : values.Nodup)
    (hothers : others.Nodup) (hmissing : lacking others values = [])
    (hextra : lacking values others = []) : values.Perm others :=
  (List.perm_ext_iff_of_nodup hvalues hothers).mpr fun value =>
    ⟨lacking_eq_nil_iff.mp hextra value, lacking_eq_nil_iff.mp hmissing value⟩

omit [DecidableEq Value] in
/-- When as many results are left, every value has been read. -/
theorem forall₂_of_length_filterMap {Read : Type*} {read : Value → Option Read}
    {values : List Value} (h : (values.filterMap read).length = values.length) :
    List.Forall₂ (fun value result => read value = some result) values (values.filterMap read) := by
  induction values with
  | nil => exact List.Forall₂.nil
  | cons value rest ih =>
    cases hvalue : read value with
    | none =>
      rw [List.filterMap_cons_none hvalue, List.length_cons] at h
      have := List.length_filterMap_le read rest
      omega
    | some result =>
      rw [List.filterMap_cons_some hvalue, List.length_cons, List.length_cons] at h
      rw [List.filterMap_cons_some hvalue]
      exact List.Forall₂.cons hvalue (ih (Nat.succ.inj h))

omit [DecidableEq Value] in
/-- Values that correspond have the same images where the images of corresponding ones agree. -/
theorem map_eq_of_forall₂ {Read Image : Type*} {related : Value → Read → Prop}
    {values : List Value} {results : List Read} (h : List.Forall₂ related values results)
    {left : Value → Image} {right : Read → Image}
    (hsame : ∀ value result, related value result → left value = right result) :
    values.map left = results.map right := by
  induction h with
  | nil => rfl
  | cons hhead _ ih => rw [List.map_cons, List.map_cons, hsame _ _ hhead, ih]

omit [DecidableEq Value] in
/-- All values of a list are there exactly when each is. -/
theorem mapM_eq_some {Read : Type*} {read : Value → Option Read} {sources : List Value}
    {results : List Read} :
    sources.mapM read = some results ↔
      List.Forall₂ (fun source result => read source = some result) sources results := by
  induction sources generalizing results with
  | nil => simp [eq_comm]
  | cons source sources ih =>
    rw [List.mapM_cons, List.forall₂_cons_left_iff]
    simp only [Option.pure_def, Option.bind_eq_bind, Option.bind_eq_some_iff, Option.some.injEq, ih]
    constructor
    · rintro ⟨result, hresult, rest, hrest, rfl⟩
      exact ⟨result, rest, hresult, hrest, rfl⟩
    · rintro ⟨result, rest, hresult, hrest, rfl⟩
      exact ⟨result, hresult, rest, hrest, rfl⟩

end ValueSets

end LetletmeData.Library
