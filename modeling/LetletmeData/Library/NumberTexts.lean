import Mathlib.Algebra.Order.Floor.Semiring
import Mathlib.Data.Int.Log
import Mathlib.Data.Rat.Floor
import LetletmeData.Library.JavaScript

/-!
# Numbers of the language and their texts

Which numbers there are, and what is read from a text.
-/

namespace LetletmeData.Library

/-! ## Numbers with 53 significant bits

A number of the language is the nearest one with 53 significant bits, of which the last stands for
at least `2 ^ -1074`, and the even one of two that are equally near. Zeros are not told apart by
their signs.
-/

/-- The nearest integer, the even one of two. -/
def roundHalfEven (value : ℚ) : ℤ :=
  let low := ⌊value⌋
  if value - low < 1 / 2 then low
  else if 1 / 2 < value - low then low + 1
  else if low % 2 = 0 then low
  else low + 1

/-- The exponent of the last significant bit. -/
def unitExponent (value : ℚ) : ℤ := max (Int.log 2 |value| - 52) (-1074)

/-- The nearest number of the language, if it is finite. -/
def roundDouble (value : ℚ) : Option ℚ :=
  let unit : ℚ := 2 ^ unitExponent value
  let rounded := roundHalfEven (value / unit) * unit
  if |rounded| < 2 ^ 1024 then some rounded else none

/-- `Number.isSafeInteger`. -/
def IsSafeInteger (value : ℚ) : Prop := IsInteger value ∧ value.num.natAbs ≤ maxSafeInteger

instance (value : ℚ) : Decidable (IsSafeInteger value) := inferInstanceAs (Decidable (_ ∧ _))

/-- A positive integer is the natural number read of it. -/
theorem toNat_num {value : ℚ} (hinteger : IsSafeInteger value) (hpos : 0 < value) :
    (value.num.toNat : ℚ) = value := by
  have hnum : 0 ≤ value.num := Rat.num_nonneg.mpr hpos.le
  calc ((value.num.toNat : ℕ) : ℚ) = ((value.num.toNat : ℤ) : ℚ) := rfl
    _ = (value.num : ℚ) := by rw [Int.toNat_of_nonneg hnum]
    _ = value := hinteger.1.num_eq

/-- Integers are not rounded. -/
@[simp] theorem roundHalfEven_intCast (value : ℤ) : roundHalfEven value = value := by
  simp [roundHalfEven]

/-- Rounding leaves nothing below an integer that is not below it. -/
theorem le_roundHalfEven {low : ℤ} {value : ℚ} (h : (low : ℚ) ≤ value) :
    low ≤ roundHalfEven value := by
  have hfloor : low ≤ ⌊value⌋ := Int.le_floor.mpr h
  unfold roundHalfEven
  dsimp only
  split_ifs <;> omega

/-- Rounding leaves nothing above an integer that is not above it. -/
theorem roundHalfEven_le {high : ℤ} {value : ℚ} (h : value ≤ high) :
    roundHalfEven value ≤ high := by
  have hfloor : (⌊value⌋ : ℚ) ≤ value := Int.floor_le value
  rcases h.lt_or_eq with hlt | rfl
  · have : ⌊value⌋ < high := Int.floor_lt.mpr hlt
    unfold roundHalfEven
    dsimp only
    split_ifs <;> omega
  · simp

/-- The last significant bit of a small number does not stand for more than one. -/
theorem unitExponent_nonpos {value : ℚ} (h : |value| < 2 ^ 53) : unitExponent value ≤ 0 := by
  refine max_le ?_ (by norm_num)
  rcases eq_or_ne value 0 with rfl | hne
  · simp
  · have hlog : Int.log 2 |value| < 53 := by
      rw [← Int.lt_zpow_iff_log_lt (by norm_num) (abs_pos.mpr hne)]
      exact_mod_cast h
    omega

/-- Small integers are numbers of the language. -/
theorem roundDouble_intCast {value : ℤ} (h : |value| < 2 ^ 53) :
    roundDouble value = some (value : ℚ) := by
  have hsmall : |(value : ℚ)| < 2 ^ 53 := by exact_mod_cast h
  obtain ⟨places, hplaces⟩ := Int.eq_ofNat_of_zero_le
    (neg_nonneg.mpr (unitExponent_nonpos hsmall))
  have hunit : (2 : ℚ) ^ unitExponent (value : ℚ) = (2 ^ places)⁻¹ := by
    rw [← neg_neg (unitExponent (value : ℚ)), hplaces, zpow_neg]
    rfl
  have hrounded : (roundHalfEven ((value : ℚ) / 2 ^ unitExponent (value : ℚ)) : ℚ) *
      2 ^ unitExponent (value : ℚ) = value := by
    have hscaled : (value : ℚ) / (2 ^ places)⁻¹ = ((value * 2 ^ places : ℤ) : ℚ) := by
      push_cast
      rw [div_inv_eq_mul]
    rw [hunit, hscaled, roundHalfEven_intCast]
    push_cast
    rw [mul_inv_cancel_right₀ (by positivity)]
  unfold roundDouble
  dsimp only
  have hfinite : |(value : ℚ)| < 2 ^ 1024 :=
    hsmall.trans (pow_lt_pow_right₀ (by norm_num) (by norm_num))
  rw [hrounded, if_pos hfinite]

/-- Large numbers are rounded to large ones. -/
theorem le_of_roundDouble {value rounded : ℚ} (h : 2 ^ 53 ≤ value)
    (hrounded : roundDouble value = some rounded) : 2 ^ 53 ≤ rounded := by
  have hpos : 0 < value := lt_of_lt_of_le (by positivity) h
  have hlog : 53 ≤ Int.log 2 |value| := by
    rw [abs_of_pos hpos, ← Int.zpow_le_iff_le_log (by norm_num) hpos]
    exact_mod_cast h
  have hexponent : unitExponent value = Int.log 2 |value| - 52 := max_eq_left (by omega)
  have hscaled : ((2 ^ 52 : ℤ) : ℚ) ≤ value / 2 ^ unitExponent value := by
    rw [le_div_iff₀ (zpow_pos (by norm_num) _), hexponent, zpow_sub₀ (by norm_num)]
    have hle := Int.zpow_log_le_self (b := 2) (by norm_num) hpos
    rw [abs_of_pos hpos]
    push_cast
    calc (2 : ℚ) ^ 52 * (2 ^ Int.log 2 value / 2 ^ (52 : ℤ)) = 2 ^ Int.log 2 value := by
          field_simp
      _ ≤ value := by exact_mod_cast hle
  have hround := le_roundHalfEven hscaled
  unfold roundDouble at hrounded
  dsimp only at hrounded
  split at hrounded
  next =>
    rw [← Option.some.inj hrounded]
    have hunit : (2 : ℚ) ≤ 2 ^ unitExponent value := by
      have := zpow_le_zpow_right₀ (by norm_num : (1 : ℚ) ≤ 2)
        (by omega : (1 : ℤ) ≤ unitExponent value)
      simpa using this
    have hcast : ((2 ^ 52 : ℤ) : ℚ) ≤ (roundHalfEven (value / 2 ^ unitExponent value) : ℚ) := by
      exact_mod_cast hround
    calc (2 : ℚ) ^ 53 = ((2 ^ 52 : ℤ) : ℚ) * 2 := by norm_num
      _ ≤ _ := mul_le_mul hcast hunit (by norm_num) (le_trans (by norm_num) hcast)
  next => exact absurd hrounded.symm (Option.some_ne_none _)

/-! ## Texts of numbers

What `Number` reads: decimal digits with a point, an exponent and a sign, and digits of another
radix behind its mark. What is written need not be a number of the language; the nearest one is
read.
-/

/-- The number of decimal digits, some of them behind the point, with an exponent. -/
def decimalNumber (whole fraction : List Char) (exponent : ℤ) : ℚ :=
  decimalValue (whole ++ fraction) * 10 ^ (exponent - fraction.length)

/-- Nothing but digits, and at least one. -/
def isDigits (chars : List Char) : Bool := chars ≠ [] && chars.all Char.isDigit

/-- The digits of an exponent. -/
def readExponentDigits (digits : List Char) : Option ℤ :=
  if isDigits digits then some (decimalValue digits) else none

/-- An exponent. -/
def readExponent : List Char → Option ℤ
  | '-' :: digits => (readExponentDigits digits).map Neg.neg
  | '+' :: digits => readExponentDigits digits
  | digits => readExponentDigits digits

/-- The digits behind a point, and what follows. -/
def readFraction : List Char → List Char × List Char
  | '.' :: rest => (rest.takeWhile Char.isDigit, rest.dropWhile Char.isDigit)
  | rest => ([], rest)

/-- A decimal literal without a sign. -/
def readUnsignedDecimal (chars : List Char) : Option ℚ :=
  let whole := chars.takeWhile Char.isDigit
  let (fraction, rest) := readFraction (chars.dropWhile Char.isDigit)
  if whole = [] ∧ fraction = [] then none
  else
    match rest with
    | [] => some (decimalNumber whole fraction 0)
    | mark :: rest =>
      if mark = 'e' ∨ mark = 'E' then (readExponent rest).map (decimalNumber whole fraction)
      else none

/-- A decimal literal. -/
def readDecimal : List Char → Option ℚ
  | '-' :: chars => (readUnsignedDecimal chars).map Neg.neg
  | '+' :: chars => readUnsignedDecimal chars
  | chars => readUnsignedDecimal chars

/-- The value of a digit of some radix. -/
def radixDigit (radix : ℕ) (c : Char) : Option ℕ :=
  let value :=
    if c.isDigit then c.toNat - 48
    else if 'a' ≤ c ∧ c ≤ 'f' then c.toNat - 87
    else if 'A' ≤ c ∧ c ≤ 'F' then c.toNat - 55
    else radix
  if value < radix then some value else none

/-- Digits of some radix. -/
def readRadix (radix : ℕ) (chars : List Char) : Option ℚ :=
  if chars = [] then none
  else (chars.mapM (radixDigit radix)).map fun digits =>
    ((digits.foldl (fun value digit => radix * value + digit) 0 : ℕ) : ℚ)

/-- What a numeric literal says exactly. -/
def readNumeric : List Char → Option ℚ
  | [] => some 0
  | '0' :: 'x' :: digits => readRadix 16 digits
  | '0' :: 'X' :: digits => readRadix 16 digits
  | '0' :: 'o' :: digits => readRadix 8 digits
  | '0' :: 'O' :: digits => readRadix 8 digits
  | '0' :: 'b' :: digits => readRadix 2 digits
  | '0' :: 'B' :: digits => readRadix 2 digits
  | chars => readDecimal chars

/-- `Number` of a text, if it is finite. -/
def numberOfText (text : String) : Option ℚ :=
  (readNumeric (trimText text).toList).bind roundDouble

/-- Digits alone are their decimal value. -/
theorem readUnsignedDecimal_of_isDigits {chars : List Char} (h : isDigits chars = true) :
    readUnsignedDecimal chars = some (decimalValue chars : ℚ) := by
  simp only [isDigits, Bool.and_eq_true, decide_eq_true_eq, List.all_eq_true] at h
  have htake : chars.takeWhile Char.isDigit = chars := List.takeWhile_eq_self_iff.mpr h.2
  have hdrop : chars.dropWhile Char.isDigit = [] := List.dropWhile_eq_nil_iff.mpr h.2
  unfold readUnsignedDecimal
  rw [htake, hdrop]
  simp [readFraction, decimalNumber, h.1]

/-- Trimming leaves a text of other characters as it is. -/
theorem trimText_eq_self {text : String} (h : ∀ c ∈ text.toList, isTrimmed c = false) :
    trimText text = text := by
  have hkeep : ∀ chars : List Char, (∀ c ∈ chars, isTrimmed c = false) →
      chars.dropWhile isTrimmed = chars := by
    intro chars hchars
    cases chars with
    | nil => rfl
    | cons c rest => exact List.dropWhile_cons_of_neg (by simp [hchars c List.mem_cons_self])
  rw [trimText, hkeep _ h, hkeep _ fun c hc => h c (List.mem_reverse.mp hc), List.reverse_reverse,
    String.ofList_toList]

/-- Digits are not trimmed. -/
theorem isTrimmed_of_isDigit {c : Char} (h : c.isDigit = true) : isTrimmed c = false := by
  have hrange : 48 ≤ c.toNat ∧ c.toNat ≤ 57 := by
    simpa [Char.isDigit, UInt32.le_iff_toNat_le] using h
  rw [Bool.eq_false_iff]
  intro htrimmed
  simp only [isTrimmed, List.contains_eq_mem, Bool.or_eq_true, Bool.and_eq_true,
    decide_eq_true_eq, List.mem_cons, List.not_mem_nil, or_false] at htrimmed
  omega

/-- Digits alone are read as the nearest number to their decimal value. -/
theorem numberOfText_of_isDigits {text : String} (h : isDigits text.toList = true) :
    numberOfText text = roundDouble (decimalValue text.toList : ℚ) := by
  have hread := readUnsignedDecimal_of_isDigits h
  simp only [isDigits, Bool.and_eq_true, decide_eq_true_eq, List.all_eq_true] at h
  have htrim : trimText text = text :=
    trimText_eq_self fun c hc => isTrimmed_of_isDigit (h.2 c hc)
  have hnumeric : readNumeric text.toList = readDecimal text.toList := by
    unfold readNumeric
    split
    next hnil => exact absurd hnil h.1
    all_goals first
      | rfl
      | next digits hcons =>
        have hmark := h.2 _ (hcons ▸ List.mem_cons_of_mem _ List.mem_cons_self)
        exact absurd hmark (by decide)
  have hdecimal : readDecimal text.toList = readUnsignedDecimal text.toList := by
    unfold readDecimal
    split
    · next chars hcons => exact absurd (h.2 '-' (hcons ▸ List.mem_cons_self)) (by decide)
    · next chars hcons => exact absurd (h.2 '+' (hcons ▸ List.mem_cons_self)) (by decide)
    · rfl
  rw [numberOfText, htrim, hnumeric, hdecimal, hread, Option.bind_some]

/-- A positive safe integer read of digits alone is their decimal value. -/
theorem toNat_num_of_isDigits {text : String} (h : isDigits text.toList = true) {number : ℚ}
    (hnumber : numberOfText text = some number) (hsafe : IsSafeInteger number)
    (hpos : 0 < number) : number.num.toNat = decimalValue text.toList := by
  rw [numberOfText_of_isDigits h] at hnumber
  rcases lt_or_ge (decimalValue text.toList) (2 ^ 53) with hsmall | hlarge
  · have hround := @roundDouble_intCast (decimalValue text.toList : ℤ) (by
      rw [abs_of_nonneg (Int.natCast_nonneg _)]
      exact_mod_cast hsmall)
    rw [Int.cast_natCast] at hround
    obtain rfl := Option.some.inj (hnumber.symm.trans hround)
    simp
  · have hle := le_of_roundDouble (by exact_mod_cast hlarge) hnumber
    rw [← toNat_num hsafe hpos] at hle
    have hbound := hsafe.2
    have : 2 ^ 53 ≤ number.num.toNat := by exact_mod_cast hle
    unfold maxSafeInteger at hbound
    omega

end LetletmeData.Library
