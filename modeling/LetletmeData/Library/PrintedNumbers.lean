import LetletmeData.Library.Decimals

/-!
# Printed numbers

A number of the language is printed with the fewest digits that are read back as it, and the nearest
of those. The digits are looked for from the greatest power of ten down to the last one that any
number of the language needs, where all its digits are written.
-/

namespace LetletmeData.Library

/-! ### Rounded numbers -/

/-- A finite number of the language. -/
def IsDouble (value : ℚ) : Prop := roundDouble value = some value

/-- Two to the power of some exponent is positive. -/
theorem two_zpow_pos (exponent : ℤ) : (0 : ℚ) < 2 ^ exponent := zpow_pos (by norm_num) exponent

/-- An integer of at most 53 bits in units of some power of two is one in the units of its
rounding. -/
theorem exists_scaled {value : ℚ} {number unit : ℤ} (hvalue : value = number * 2 ^ unit)
    (hnumber : |number| ≤ 2 ^ 53) (hunit : -1074 ≤ unit) :
    ∃ scaled : ℤ, value / 2 ^ unitExponent value = scaled := by
  have htwo : (2 : ℚ) ≠ 0 := by norm_num
  rcases eq_or_ne value 0 with hzero | hzero
  · exact ⟨0, by rw [hzero, zero_div, Int.cast_zero]⟩
  rcases le_or_gt (unitExponent value) unit with hle | hgt
  · obtain ⟨places, hplaces⟩ := Int.eq_ofNat_of_zero_le (sub_nonneg.mpr hle)
    refine ⟨number * 2 ^ places, ?_⟩
    nth_rewrite 1 [hvalue]
    rw [mul_div_assoc, ← zpow_sub₀ htwo, hplaces]
    push_cast
    rfl
  -- only 2 ^ 53 units are rounded to greater ones, and to half as many
  have hlog : unitExponent value = Int.log 2 |value| - 52 := by
    unfold unitExponent at hgt ⊢
    omega
  have hlow : (2 : ℚ) ^ Int.log 2 |value| ≤ |value| :=
    Int.zpow_log_le_self (by norm_num) (abs_pos.mpr hzero)
  have hsize : |value| = |(number : ℚ)| * 2 ^ unit := by
    rw [hvalue, abs_mul, abs_of_pos (two_zpow_pos unit)]
  have hhigh : |(number : ℚ)| ≤ 2 ^ (53 : ℤ) := by exact_mod_cast hnumber
  have hpowers : (2 : ℚ) ^ Int.log 2 |value| ≤ 2 ^ (53 + unit) := by
    rw [zpow_add₀ htwo]
    exact hlow.trans (hsize.trans_le (mul_le_mul_of_nonneg_right hhigh (two_zpow_pos unit).le))
  have hexponent := (zpow_le_zpow_iff_right₀ (by norm_num : (1 : ℚ) < 2)).mp hpowers
  have hnext : unitExponent value = unit + 1 := by omega
  have hall : |(number : ℚ)| = 2 ^ (52 : ℤ) * 2 := by
    have hfull : (2 : ℚ) ^ (53 : ℤ) ≤ |(number : ℚ)| := by
      refine le_of_mul_le_mul_right ?_ (two_zpow_pos unit)
      rw [← hsize, ← zpow_add₀ htwo, show 53 + unit = Int.log 2 |value| by omega]
      exact hlow
    rw [le_antisymm hhigh hfull]
    norm_num
  rw [hnext, zpow_add_one₀ htwo]
  rcases abs_eq (by positivity) |>.mp hall with heq | heq
  · refine ⟨2 ^ 52, ?_⟩
    rw [hvalue, heq, div_eq_iff (by positivity)]
    push_cast
    ring
  · refine ⟨-2 ^ 52, ?_⟩
    rw [hvalue, heq, div_eq_iff (by positivity)]
    push_cast
    ring

/-- Integers of at most 53 bits in units of some power of two are not rounded. -/
theorem isDouble_of_scaled {number unit : ℤ} (hnumber : |number| ≤ 2 ^ 53) (hunit : -1074 ≤ unit)
    (hfinite : |(number : ℚ) * 2 ^ unit| < 2 ^ 1024) : IsDouble ((number : ℚ) * 2 ^ unit) := by
  obtain ⟨scaled, hscaled⟩ := exists_scaled rfl hnumber hunit
  have hrounded : (roundHalfEven ((number : ℚ) * 2 ^ unit / 2 ^ unitExponent (number * 2 ^ unit)) :
      ℚ) * 2 ^ unitExponent ((number : ℚ) * 2 ^ unit) = number * 2 ^ unit := by
    rw [hscaled, roundHalfEven_intCast, ← hscaled, div_mul_cancel₀ _ (two_zpow_pos _).ne']
  unfold IsDouble roundDouble
  dsimp only
  rw [hrounded, if_pos hfinite]

/-- What has been rounded is a number of the language. -/
theorem isDouble_of_roundDouble {value rounded : ℚ} (h : roundDouble value = some rounded) :
    IsDouble rounded := by
  have hpow := two_zpow_pos (unitExponent value)
  have hsize : |value / 2 ^ unitExponent value| ≤ 2 ^ 53 := by
    rw [abs_div, abs_of_pos hpow, div_le_iff₀ hpow]
    have hlog := Int.lt_zpow_succ_log_self (b := 2) (by norm_num) |value|
    have hexponent : Int.log 2 |value| + 1 ≤ 53 + unitExponent value := by
      unfold unitExponent
      omega
    calc |value| ≤ 2 ^ (Int.log 2 |value| + 1) := by exact_mod_cast hlog.le
      _ ≤ 2 ^ (53 + unitExponent value) := zpow_le_zpow_right₀ (by norm_num) hexponent
      _ = 2 ^ 53 * 2 ^ unitExponent value := by rw [zpow_add₀ (by norm_num)]; norm_num
  have hrounded : |roundHalfEven (value / 2 ^ unitExponent value)| ≤ 2 ^ 53 := by
    obtain ⟨hlow, hhigh⟩ := abs_le.mp hsize
    refine abs_le.mpr ⟨le_roundHalfEven ?_, roundHalfEven_le ?_⟩
    · exact_mod_cast hlow
    · exact_mod_cast hhigh
  unfold roundDouble at h
  dsimp only at h
  split at h
  next hfinite =>
    rw [← Option.some.inj h]
    exact isDouble_of_scaled hrounded (le_max_right _ _) hfinite
  next => exact absurd h.symm (Option.some_ne_none _)

/-- Small natural numbers are numbers of the language. -/
theorem isDouble_natCast {number : ℕ} (h : number ≤ maxSafeInteger) : IsDouble (number : ℚ) := by
  have hround := @roundDouble_intCast number (by
    rw [abs_of_nonneg (Int.natCast_nonneg _)]
    unfold maxSafeInteger at h
    omega)
  rw [Int.cast_natCast] at hround
  exact hround

/-! ### Digits -/

/-- Zeros are taken off the end of a mantissa, at most as many as given. -/
def stripZeros : ℕ → ℕ → ℤ → ℕ × ℤ
  | 0, mantissa, exponent => (mantissa, exponent)
  | places + 1, mantissa, exponent =>
    if mantissa % 10 = 0 then stripZeros places (mantissa / 10) (exponent + 1)
    else (mantissa, exponent)

/-- A number by any of its digits. -/
def Decimal.ofScaled (negative : Bool) (mantissa : ℕ) (exponent : ℤ) : Decimal :=
  let stripped := stripZeros mantissa mantissa exponent
  if h : stripped.1 % 10 = 0 then ⟨false, 0, 0, fun _ => ⟨rfl, rfl, rfl⟩⟩
  else ⟨negative, stripped.1, stripped.2, fun hzero => absurd hzero h⟩

/-- The digits down to a power of ten that are read back as a number: the nearest ones if they are,
otherwise the next ones below or above. -/
def digitsDownTo (value : ℚ) (exponent : ℤ) : Option Decimal :=
  let scaled := |value| / 10 ^ exponent
  ([roundHalfEven scaled, ⌊scaled⌋, ⌊scaled⌋ + 1].map fun mantissa =>
    Decimal.ofScaled (value < 0) mantissa.toNat exponent).find? fun digits =>
      roundDouble digits.value = some value

/-- The powers of ten that digits can end at, from the greatest on. -/
def lastExponents (value : ℚ) : List ℤ :=
  let greatest := max (Int.log 10 |value| + 1) (-1074)
  (List.range (greatest + 1075).toNat).map fun place : ℕ => greatest - place

/-- The digits that a number is printed with. -/
def printedDigits (value : ℚ) : Decimal :=
  ((lastExponents value).findSome? (digitsDownTo value)).getD ⟨false, 0, 0, by decide⟩

/-- Zeros at the end change the exponent and not the number, and none are left. -/
theorem stripZeros_spec {places mantissa : ℕ} (h : mantissa ≤ places) (exponent : ℤ) :
    ((stripZeros places mantissa exponent).1 : ℚ) * 10 ^ (stripZeros places mantissa exponent).2 =
        mantissa * 10 ^ exponent ∧
      ((stripZeros places mantissa exponent).1 % 10 = 0 → mantissa = 0) := by
  induction places generalizing mantissa exponent with
  | zero =>
    obtain rfl := Nat.le_zero.mp h
    exact ⟨rfl, fun _ => rfl⟩
  | succ places ih =>
    rw [stripZeros]
    split
    next hzero =>
      obtain ⟨rest, rfl⟩ := Nat.dvd_of_mod_eq_zero hzero
      rw [Nat.mul_div_cancel_left rest (by norm_num)]
      obtain ⟨hvalue, hrest⟩ := ih (by omega : rest ≤ places) (exponent + 1)
      refine ⟨?_, fun hmod => by rw [hrest hmod]⟩
      rw [hvalue, zpow_add_one₀ (by norm_num)]
      push_cast
      ring
    next hne => exact ⟨rfl, fun hmod => absurd hmod hne⟩

/-- Digits write the number that they were taken from. -/
theorem value_ofScaled (negative : Bool) (mantissa : ℕ) (exponent : ℤ) :
    (Decimal.ofScaled negative mantissa exponent).value =
      (if negative then -1 else 1) * (mantissa * 10 ^ exponent) := by
  obtain ⟨hvalue, hzero⟩ := stripZeros_spec (le_refl mantissa) exponent
  unfold Decimal.ofScaled
  dsimp only
  split
  next hmod => rw [hzero hmod]; simp [Decimal.value]
  next => rw [Decimal.value, hvalue]

/-- A number with a last bit has a last digit at the same place. -/
theorem exists_mantissa {value : ℚ} {number unit : ℤ} {last : ℕ}
    (hvalue : value = number * 2 ^ unit) (hunit : -(last : ℤ) ≤ unit) : ∃ mantissa : ℕ, |value| / 10 ^ (-(last : ℤ)) = mantissa := by
  obtain ⟨places, hplaces⟩ := Int.eq_ofNat_of_zero_le (by omega : 0 ≤ unit + last)
  refine ⟨number.natAbs * 2 ^ places * 5 ^ last, ?_⟩
  have hunits : (2 : ℚ) ^ unit = 2 ^ places / 2 ^ last := by
    rw [show unit = (places : ℤ) - last by omega, zpow_sub₀ (by norm_num), zpow_natCast,
      zpow_natCast]
  rw [hvalue, abs_mul, abs_of_pos (two_zpow_pos unit), hunits, zpow_neg, zpow_natCast,
    div_inv_eq_mul, show (10 : ℚ) = 2 * 5 by norm_num, mul_pow]
  push_cast
  rw [Nat.cast_natAbs, Int.cast_abs]
  field_simp

/-- A number is read back of its own digits. -/
theorem exists_digitsDownTo {value : ℚ} (h : IsDouble value) {exponent : ℤ} {mantissa : ℕ}
    (hmantissa : |value| / 10 ^ exponent = mantissa) :
    ∃ digits, digitsDownTo value exponent = some digits := by
  refine Option.isSome_iff_exists.mp (List.find?_isSome.mpr
    ⟨Decimal.ofScaled (value < 0) mantissa exponent, ?_, ?_⟩)
  · have hround := roundHalfEven_intCast mantissa
    rw [Int.cast_natCast] at hround
    simp [hmantissa, hround]
  · have hsize : (mantissa : ℚ) * 10 ^ exponent = |value| := by
      rw [← hmantissa, div_mul_cancel₀ _ (zpow_ne_zero _ (by norm_num))]
    have hvalue : (Decimal.ofScaled (value < 0) mantissa exponent).value = value := by
      rw [value_ofScaled, hsize]
      by_cases hneg : value < 0
      · simp [hneg, abs_of_neg hneg]
      · simp [hneg, abs_of_nonneg (not_lt.mp hneg)]
    rw [hvalue]
    exact decide_eq_true h

/-- The last power of ten is among those that digits can end at. -/
theorem mem_lastExponents (value : ℚ) : (-1074 : ℤ) ∈ lastExponents value := by
  unfold lastExponents
  dsimp only
  generalize Int.log 10 |value| + 1 = first
  refine List.mem_map.mpr ⟨(max first (-1074) + 1074).toNat, List.mem_range.mpr ?_, ?_⟩ <;> omega

/-- The printed digits are read back as the number. -/
theorem roundDouble_printedDigits {value : ℚ} (h : IsDouble value) :
    roundDouble (printedDigits value).value = some value := by
  have hfound : ((lastExponents value).findSome? (digitsDownTo value)).isSome := by
    obtain ⟨number, unit, hunit, hvalue⟩ : ∃ number unit : ℤ, -((1074 : ℕ) : ℤ) ≤ unit ∧
        value = number * 2 ^ unit := by
      unfold IsDouble roundDouble at h
      dsimp only at h
      split at h
      next => exact ⟨_, _, le_max_right _ _, (Option.some.inj h).symm⟩
      next => exact absurd h.symm (Option.some_ne_none _)
    obtain ⟨mantissa, hmantissa⟩ := exists_mantissa hvalue hunit
    obtain ⟨digits, hdigits⟩ := exists_digitsDownTo h hmantissa
    exact List.findSome?_isSome_iff.mpr
      ⟨_, mem_lastExponents value, Option.isSome_iff_exists.mpr ⟨digits, hdigits⟩⟩
  obtain ⟨digits, hdigits⟩ := Option.isSome_iff_exists.mp hfound
  obtain ⟨exponent, -, hfind⟩ := List.exists_of_findSome?_eq_some hdigits
  rw [printedDigits, hdigits, Option.getD_some]
  unfold digitsDownTo at hfind
  have hread := List.find?_some hfind
  exact of_decide_eq_true hread

/-! ### Texts -/

/-- Digits that some number is printed with. -/
def Decimal.IsPrinted (digits : Decimal) : Prop :=
  ∃ value, IsDouble value ∧ printedDigits value = digits

/-- The number that a literal is read as, with the digits that it is printed with; none if it is not
finite. -/
def readNumber (literal : String) : Option Decimal :=
  ((readDecimal literal.toList).bind roundDouble).map printedDigits

/-- What is read is printed. -/
theorem isPrinted_of_readNumber {literal : String} {digits : Decimal}
    (h : readNumber literal = some digits) : digits.IsPrinted := by
  obtain ⟨value, hvalue, rfl⟩ := Option.map_eq_some_iff.mp h
  obtain ⟨exact, -, hround⟩ := Option.bind_eq_some_iff.mp hvalue
  exact ⟨value, isDouble_of_roundDouble hround, rfl⟩

/-- What is printed is read. -/
theorem readNumber_text {digits : Decimal} (h : digits.IsPrinted) :
    readNumber digits.text = some digits := by
  obtain ⟨value, hvalue, rfl⟩ := h
  rw [readNumber, Decimal.readDecimal_text, Option.bind_some, roundDouble_printedDigits hvalue,
    Option.map_some]

/-- A finite number of the language. -/
structure ScriptNumber where
  value : ℚ
  isDouble : IsDouble value

/-- The digits that a number is printed with. -/
def ScriptNumber.digits (number : ScriptNumber) : Decimal := printedDigits number.value

/-- A natural number that the language has. -/
def ScriptNumber.ofSafe (number : ℕ) (h : number ≤ maxSafeInteger) : ScriptNumber :=
  ⟨number, isDouble_natCast h⟩

/-- The number that digits are read as, if it is finite. -/
def Decimal.doubleValue (digits : Decimal) : Option ℚ := roundDouble digits.value

/-- The digits of a number are printed. -/
theorem ScriptNumber.isPrinted_digits (number : ScriptNumber) : number.digits.IsPrinted :=
  ⟨number.value, number.isDouble, rfl⟩

/-- The digits of a number are read as the number. -/
@[simp] theorem ScriptNumber.doubleValue_digits (number : ScriptNumber) :
    number.digits.doubleValue = some number.value := roundDouble_printedDigits number.isDouble

end LetletmeData.Library
