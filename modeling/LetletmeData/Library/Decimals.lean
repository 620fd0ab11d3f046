import Mathlib.Algebra.Order.Field.Power
import Mathlib.Data.Rat.Lemmas
import Mathlib.Tactic.FieldSimp
import LetletmeData.Library.NumberTexts

/-!
# Decimals

A finite number of the language is printed with the shortest digits that are read back as it. It is
given here by these digits and the place of its point. Up to 21 places before the point and six
zeros behind it they are written out; other numbers have an exponent. Both forms are read as the
number they write, so that the text of a number identifies it. Zeros are not told apart by their
signs, as they are printed alike.
-/

namespace LetletmeData.Library

/-- A number by its digits without zeros at the end, and the power of ten of the last one. -/
structure Decimal where
  negative : Bool
  mantissa : ℕ
  exponent : ℤ
  normal : mantissa % 10 = 0 → negative = false ∧ mantissa = 0 ∧ exponent = 0
  deriving DecidableEq

/-- The zero has its normal form. -/
theorem Decimal.zero_normal : 0 % 10 = 0 → false = false ∧ 0 = 0 ∧ (0 : ℤ) = 0 := by decide

/-- The parts of a decimal literal. -/
structure LiteralParts where
  whole : List Char
  fraction : List Char
  exponent : Option ℤ

/-- An exponent with its sign. -/
def exponentChars (exponent : ℤ) : List Char :=
  (if exponent < 0 then '-' else '+') :: Nat.toDigits 10 exponent.natAbs

namespace LiteralParts

/-- The digits behind the point. -/
def fractionChars (parts : LiteralParts) : List Char :=
  if parts.fraction = [] then [] else '.' :: parts.fraction

/-- The exponent with its mark. -/
def markedExponent (parts : LiteralParts) : List Char :=
  match parts.exponent with
  | none => []
  | some exponent => 'e' :: exponentChars exponent

/-- The characters of a literal. -/
def chars (parts : LiteralParts) : List Char :=
  parts.whole ++ (parts.fractionChars ++ parts.markedExponent)

/-- The number that a literal writes. -/
def value (parts : LiteralParts) : ℚ :=
  decimalNumber parts.whole parts.fraction (parts.exponent.getD 0)

/-- Digits, and at least one before the point. -/
structure WellFormed (parts : LiteralParts) : Prop where
  whole : isDigits parts.whole = true
  fraction : ∀ c ∈ parts.fraction, c.isDigit = true

end LiteralParts

/-! ### Reading literals -/

/-- A scan of digits stops in front of anything else. -/
theorem takeWhile_digits {digits rest : List Char} (hdigits : ∀ c ∈ digits, c.isDigit = true)
    (hrest : ∀ c ∈ rest.head?, c.isDigit = false) :
    (digits ++ rest).takeWhile Char.isDigit = digits ∧
      (digits ++ rest).dropWhile Char.isDigit = rest := by
  rw [List.takeWhile_append_of_pos hdigits, List.dropWhile_append_of_pos hdigits]
  cases rest with
  | nil => exact ⟨List.append_nil _, rfl⟩
  | cons c rest =>
    have hc := hrest c rfl
    rw [List.takeWhile_cons_of_neg (by simp [hc]), List.dropWhile_cons_of_neg (by simp [hc])]
    exact ⟨List.append_nil _, rfl⟩

/-- Printed digits are digits. -/
theorem isDigits_toDigits (number : ℕ) : isDigits (Nat.toDigits 10 number) = true := by
  simp only [isDigits, Bool.and_eq_true, decide_eq_true_eq, List.all_eq_true]
  exact ⟨List.ne_nil_of_length_pos Nat.length_toDigits_pos, fun c hc =>
    Nat.isDigit_of_mem_toDigits (by omega) (Nat.le_refl 10) hc⟩

/-- Printed digits write the number. -/
@[simp] theorem decimalValue_toDigits (number : ℕ) :
    decimalValue (Nat.toDigits 10 number) = number := Nat.ofDigitChars_ten_toDigits

/-- A printed exponent is read back. -/
theorem readExponent_exponentChars (exponent : ℤ) :
    readExponent (exponentChars exponent) = some exponent := by
  unfold exponentChars
  split
  next hneg =>
    rw [readExponent, readExponentDigits, if_pos (isDigits_toDigits _), decimalValue_toDigits]
    simp only [Option.map_some, Option.some.injEq]
    omega
  next hpos =>
    rw [readExponent, readExponentDigits, if_pos (isDigits_toDigits _), decimalValue_toDigits]
    simp only [Option.some.injEq]
    omega

namespace LiteralParts

/-- Neither a digit nor a point begins an exponent. -/
theorem head_markedExponent (parts : LiteralParts) :
    ∀ c ∈ parts.markedExponent.head?, c.isDigit = false ∧ c ≠ '.' := by
  unfold markedExponent
  split
  · simp
  · rintro c ⟨⟩
    decide

/-- No digit begins what follows the digits before the point. -/
theorem head_behind (parts : LiteralParts) :
    ∀ c ∈ (parts.fractionChars ++ parts.markedExponent).head?, c.isDigit = false := by
  unfold fractionChars
  split
  · exact fun c hc => (parts.head_markedExponent c hc).1
  · rintro c ⟨⟩
    rfl

/-- The digits behind the point are read. -/
theorem readFraction_behind {parts : LiteralParts} (h : parts.WellFormed) :
    readFraction (parts.fractionChars ++ parts.markedExponent) =
      (parts.fraction, parts.markedExponent) := by
  unfold fractionChars
  split
  next hnil =>
    rw [hnil, List.nil_append]
    cases hmarked : parts.markedExponent with
    | nil => rfl
    | cons c rest =>
      have hc := (parts.head_markedExponent c (by rw [hmarked]; rfl)).2
      unfold readFraction
      split
      next heq => exact absurd (List.cons.inj heq).1 hc
      next => rfl
  next =>
    obtain ⟨htake, hdrop⟩ := takeWhile_digits h.fraction
      fun c hc => (parts.head_markedExponent c hc).1
    rw [List.cons_append, readFraction, htake, hdrop]

/-- A literal is read as the number it writes. -/
theorem readUnsignedDecimal_chars {parts : LiteralParts} (h : parts.WellFormed) :
    readUnsignedDecimal parts.chars = some parts.value := by
  have hwhole := h.whole
  simp only [isDigits, Bool.and_eq_true, decide_eq_true_eq, List.all_eq_true] at hwhole
  obtain ⟨htake, hdrop⟩ := takeWhile_digits hwhole.2 parts.head_behind
  unfold readUnsignedDecimal
  rw [chars, htake, hdrop, readFraction_behind h]
  simp only [hwhole.1, false_and, if_false]
  unfold markedExponent value
  cases hexponent : parts.exponent with
  | none => rfl
  | some exponent => simp [readExponent_exponentChars]

/-- A literal begins with a digit. -/
theorem head_chars {parts : LiteralParts} (h : parts.WellFormed) :
    ∃ c rest, parts.chars = c :: rest ∧ c.isDigit = true := by
  have hwhole := h.whole
  simp only [isDigits, Bool.and_eq_true, decide_eq_true_eq, List.all_eq_true] at hwhole
  obtain ⟨c, rest, heq⟩ := List.exists_cons_of_ne_nil hwhole.1
  exact ⟨c, rest ++ (parts.fractionChars ++ parts.markedExponent), by rw [chars, heq]; rfl,
    hwhole.2 c (heq ▸ List.mem_cons_self)⟩

end LiteralParts

/-! ### Layouts -/

namespace Decimal

/-- The digits of a number. -/
def digits (number : Decimal) : List Char := Nat.toDigits 10 number.mantissa

/-- The place of the point behind the first digit. -/
def point (number : Decimal) : ℤ := number.digits.length + number.exponent

/-- All digits, filled up with zeros to the point. -/
def plainParts (number : Decimal) : LiteralParts :=
  if number.digits.length ≤ number.point then
    { whole := number.digits ++ List.replicate (number.point - number.digits.length).toNat '0'
      fraction := []
      exponent := none }
  else if 0 < number.point then
    { whole := number.digits.take number.point.toNat
      fraction := number.digits.drop number.point.toNat
      exponent := none }
  else
    { whole := ['0']
      fraction := List.replicate (-number.point).toNat '0' ++ number.digits
      exponent := none }

/-- The point behind the first digit, and an exponent. -/
def exponentParts (number : Decimal) : LiteralParts :=
  { whole := number.digits.take 1
    fraction := number.digits.drop 1
    exponent := some (number.point - 1) }

/-- Numbers that are printed without an exponent. -/
def IsPlain (number : Decimal) : Prop := -6 < number.point ∧ number.point ≤ 21

instance (number : Decimal) : Decidable number.IsPlain := inferInstanceAs (Decidable (_ ∧ _))

/-- The parts that a number is printed with. -/
def parts (number : Decimal) : LiteralParts :=
  if number.IsPlain then number.plainParts else number.exponentParts

/-- A literal with the sign of a number. -/
def signed (number : Decimal) (chars : List Char) : List Char :=
  if number.negative then '-' :: chars else chars

/-- `Number.prototype.toString`. -/
def text (number : Decimal) : String := String.ofList (number.signed number.parts.chars)

/-- The text of a number without an exponent. -/
def plainText (number : Decimal) : String := String.ofList (number.signed number.plainParts.chars)

/-- The number that is given by its digits. -/
def value (number : Decimal) : ℚ :=
  (if number.negative then -1 else 1) * (number.mantissa * 10 ^ number.exponent)

example : (Decimal.mk false 15 20 (by decide)).text = "1.5e+21" := by decide
example : (Decimal.mk true 25 (-2) (by decide)).text = "-0.25" := by decide

/-- The digits are digits. -/
theorem isDigit_of_mem_digits {number : Decimal} {c : Char} (h : c ∈ number.digits) :
    c.isDigit = true := Nat.isDigit_of_mem_toDigits (by omega) (Nat.le_refl 10) h

/-- There are digits. -/
theorem length_digits_pos (number : Decimal) : 0 < number.digits.length := Nat.length_toDigits_pos

/-- What consists of digits, and has one, is digits. -/
theorem isDigits_of_forall {chars : List Char} (hlength : 0 < chars.length)
    (h : ∀ c ∈ chars, c.isDigit = true) : isDigits chars = true := by
  simp only [isDigits, Bool.and_eq_true, decide_eq_true_eq, List.all_eq_true]
  exact ⟨List.ne_nil_of_length_pos hlength, h⟩

/-- Digits written out are a literal. -/
theorem plainParts_wellFormed (number : Decimal) : number.plainParts.WellFormed := by
  have hlength := number.length_digits_pos
  unfold plainParts
  split_ifs with hfilled hsplit
  · refine ⟨isDigits_of_forall (by simp; omega) fun c hc => ?_,
      fun c hc => absurd hc List.not_mem_nil⟩
    rcases List.mem_append.mp hc with hc | hc
    · exact isDigit_of_mem_digits hc
    · rw [List.eq_of_mem_replicate hc]; rfl
  · refine ⟨isDigits_of_forall (by simp; omega) fun c hc => ?_, fun c hc => ?_⟩
    · exact isDigit_of_mem_digits (List.mem_of_mem_take hc)
    · exact isDigit_of_mem_digits (List.mem_of_mem_drop hc)
  · refine ⟨rfl, fun c hc => ?_⟩
    rcases List.mem_append.mp hc with hc | hc
    · rw [List.eq_of_mem_replicate hc]; rfl
    · exact isDigit_of_mem_digits hc

/-- Digits with an exponent are a literal. -/
theorem exponentParts_wellFormed (number : Decimal) : number.exponentParts.WellFormed := by
  have hlength := number.length_digits_pos
  refine ⟨isDigits_of_forall (by simp [exponentParts]; omega) fun c hc => ?_, fun c hc => ?_⟩
  · exact isDigit_of_mem_digits (List.mem_of_mem_take hc)
  · exact isDigit_of_mem_digits (List.mem_of_mem_drop hc)

/-- A printed number is a literal. -/
theorem parts_wellFormed (number : Decimal) : number.parts.WellFormed := by
  unfold parts
  split
  · exact number.plainParts_wellFormed
  · exact number.exponentParts_wellFormed

/-- Zeros in front of digits do not count. -/
theorem decimalValue_zeros_append (zeros : ℕ) (digits : List Char) :
    decimalValue (List.replicate zeros '0' ++ digits) = decimalValue digits := by
  change Nat.ofDigitChars 10 _ 0 = Nat.ofDigitChars 10 _ 0
  rw [Nat.ofDigitChars_append, Nat.ofDigitChars_replicate_zero, Nat.mul_zero]

/-- Every zero behind digits counts ten times. -/
theorem decimalValue_append_zeros (digits : List Char) (zeros : ℕ) :
    decimalValue (digits ++ List.replicate zeros '0') = 10 ^ zeros * decimalValue digits := by
  change Nat.ofDigitChars 10 _ 0 = _
  rw [Nat.ofDigitChars_append, Nat.ofDigitChars_replicate_zero]
  rfl

/-- The digits written out write the number. -/
theorem value_plainParts (number : Decimal) :
    number.plainParts.value = number.mantissa * 10 ^ number.exponent := by
  have hlength := number.length_digits_pos
  have hvalue : decimalValue number.digits = number.mantissa := decimalValue_toDigits _
  have hpoint : number.point = number.digits.length + number.exponent := rfl
  unfold plainParts
  split_ifs with hfilled hsplit
  · have hzeros : ((number.point - number.digits.length).toNat : ℤ) = number.exponent := by omega
    simp only [LiteralParts.value, decimalNumber, List.append_nil, Option.getD_none,
      List.length_nil, Int.ofNat_zero, Int.sub_zero, zpow_zero, mul_one]
    rw [decimalValue_append_zeros, hvalue, ← hzeros, zpow_natCast]
    push_cast
    ring
  · have hdrop : (number.digits.drop number.point.toNat).length = -number.exponent := by
      rw [List.length_drop]
      omega
    simp only [LiteralParts.value, decimalNumber, Option.getD_none, List.take_append_drop, hvalue,
      hdrop]
    rw [zero_sub, neg_neg]
  · have hfraction : ((List.replicate (-number.point).toNat '0' ++ number.digits).length : ℤ) =
        -number.exponent := by
      rw [List.length_append, List.length_replicate]
      omega
    simp only [LiteralParts.value, decimalNumber, Option.getD_none, hfraction]
    have hzeros := decimalValue_zeros_append ((-number.point).toNat + 1) number.digits
    rw [List.replicate_succ, List.cons_append] at hzeros
    rw [List.cons_append, List.nil_append, hzeros, hvalue, zero_sub, neg_neg]

/-- The digits with an exponent write the number. -/
theorem value_exponentParts (number : Decimal) :
    number.exponentParts.value = number.mantissa * 10 ^ number.exponent := by
  have hlength := number.length_digits_pos
  have hvalue : decimalValue number.digits = number.mantissa := decimalValue_toDigits _
  have hexponent : number.point - 1 - ((number.digits.drop 1).length : ℤ) = number.exponent := by
    rw [List.length_drop, point]
    omega
  simp only [LiteralParts.value, decimalNumber, exponentParts, List.take_append_drop, hvalue,
    Option.getD_some, hexponent]

/-- A number is printed as a literal of itself. -/
theorem value_parts (number : Decimal) :
    number.parts.value = number.mantissa * 10 ^ number.exponent := by
  unfold parts
  split
  · exact number.value_plainParts
  · exact number.value_exponentParts

/-- Literals of a number are read as the number. -/
theorem readDecimal_signed {number : Decimal} {parts : LiteralParts} (hparts : parts.WellFormed)
    (hvalue : parts.value = number.mantissa * 10 ^ number.exponent) :
    readDecimal (number.signed parts.chars) = some number.value := by
  have hread := LiteralParts.readUnsignedDecimal_chars hparts
  unfold signed value
  split
  · rw [readDecimal, hread, hvalue]
    simp
  · obtain ⟨c, rest, hchars, hc⟩ := LiteralParts.head_chars hparts
    rw [hchars] at hread ⊢
    unfold readDecimal
    split
    next heq => rw [(List.cons.inj heq).1] at hc; exact absurd hc (by decide)
    next heq => rw [(List.cons.inj heq).1] at hc; exact absurd hc (by decide)
    next => rw [hread, hvalue, one_mul]

/-- A printed number is read back. -/
theorem readDecimal_text (number : Decimal) :
    readDecimal number.text.toList = some number.value := by
  rw [text, String.toList_ofList]
  exact readDecimal_signed number.parts_wellFormed number.value_parts

/-- Digits without zeros at the end and the place of the last one tell a number. -/
theorem mantissa_exponent_injective {left right : ℕ} {leftExponent rightExponent : ℤ}
    (hleft : left % 10 ≠ 0) (hright : right % 10 ≠ 0)
    (h : (left : ℚ) * 10 ^ leftExponent = right * 10 ^ rightExponent) :
    left = right ∧ leftExponent = rightExponent := by
  have hshift : ∀ {low high : ℕ} {places : ℕ} {exponent : ℤ}, high % 10 ≠ 0 →
      (low : ℚ) * 10 ^ (exponent + places) = high * 10 ^ exponent → places = 0 ∧ low = high := by
    intro low high places exponent hhigh heq
    rw [zpow_add₀ (by norm_num), zpow_natCast, mul_comm ((10 : ℚ) ^ exponent), ← mul_assoc] at heq
    have hcancel := mul_right_cancel₀ (zpow_ne_zero exponent (by norm_num : (10 : ℚ) ≠ 0)) heq
    have hnat : low * 10 ^ places = high := by exact_mod_cast hcancel
    cases places with
    | zero => exact ⟨rfl, by simpa using hnat⟩
    | succ places =>
      refine absurd ?_ hhigh
      rw [← hnat, pow_succ, ← mul_assoc, Nat.mul_mod_left]
  rcases le_total leftExponent rightExponent with hle | hle
  · obtain ⟨places, rfl⟩ := Int.le.dest hle
    obtain ⟨rfl, rfl⟩ := hshift hleft h.symm
    exact ⟨rfl, by simp⟩
  · obtain ⟨places, rfl⟩ := Int.le.dest hle
    obtain ⟨rfl, rfl⟩ := hshift hright h
    exact ⟨rfl, by simp⟩

/-- Numbers of one value are one. -/
theorem value_injective : Function.Injective value := by
  intro left right h
  have habs : (left.mantissa : ℚ) * 10 ^ left.exponent = right.mantissa * 10 ^ right.exponent := by
    have hsize : ∀ number : Decimal, |number.value| = number.mantissa * 10 ^ number.exponent := by
      intro number
      have hpos : (0 : ℚ) ≤ number.mantissa * 10 ^ number.exponent := by positivity
      unfold value
      split <;> simp [abs_of_nonneg hpos]
    rw [← hsize, ← hsize, h]
  have hzero : ∀ number : Decimal, number.mantissa % 10 = 0 ↔
      (number.mantissa : ℚ) * 10 ^ number.exponent = 0 := by
    intro number
    rw [mul_eq_zero_iff_right (zpow_ne_zero _ (by norm_num)), Nat.cast_eq_zero]
    exact ⟨fun hmod => (number.normal hmod).2.1, fun heq => by rw [heq]⟩
  obtain ⟨leftSign, leftMantissa, leftExponent, hleft⟩ := left
  obtain ⟨rightSign, rightMantissa, rightExponent, hright⟩ := right
  have hzeroLeft := hzero ⟨leftSign, leftMantissa, leftExponent, hleft⟩
  have hzeroRight := hzero ⟨rightSign, rightMantissa, rightExponent, hright⟩
  dsimp only at habs hzeroLeft hzeroRight
  by_cases hmod : leftMantissa % 10 = 0
  · have hmod' := hzeroRight.mpr (habs ▸ hzeroLeft.mp hmod)
    obtain ⟨rfl, rfl, rfl⟩ := hleft hmod
    obtain ⟨rfl, rfl, rfl⟩ := hright hmod'
    rfl
  · have hmod' : rightMantissa % 10 ≠ 0 := fun hmod' =>
      hmod (hzeroLeft.mpr (habs ▸ hzeroRight.mp hmod'))
    obtain ⟨rfl, rfl⟩ := mantissa_exponent_injective hmod hmod' habs
    have hpos : (0 : ℚ) < leftMantissa * 10 ^ leftExponent := by
      have : 0 < leftMantissa := by omega
      positivity
    have hsign : leftSign = rightSign := by
      unfold value at h
      dsimp only at h
      cases leftSign <;> cases rightSign
      · rfl
      · simp at h; linarith
      · simp at h; linarith
      · rfl
    subst hsign
    rfl

/-- The text of a number identifies it. -/
theorem text_injective : Function.Injective text := by
  intro left right h
  have hread := left.readDecimal_text
  rw [h, right.readDecimal_text] at hread
  exact (value_injective (Option.some.inj hread)).symm

/-- A number is printed as it is written out exactly when it has no exponent. -/
theorem text_eq_plainText_iff (number : Decimal) :
    number.text = number.plainText ↔ number.IsPlain := by
  constructor
  · intro h
    by_contra hplain
    have hmark : 'e' ∈ number.text.toList := by
      rw [text, String.toList_ofList, parts, if_neg hplain]
      have : 'e' ∈ number.exponentParts.chars := by
        simp [LiteralParts.chars, LiteralParts.markedExponent, exponentParts]
      unfold signed
      split
      · exact List.mem_cons_of_mem _ this
      · exact this
    rw [h, plainText, String.toList_ofList] at hmark
    have hwell := number.plainParts_wellFormed
    have hnone : number.plainParts.exponent = none := by
      unfold plainParts
      split_ifs <;> rfl
    have hnot : 'e' ∉ number.plainParts.chars := by
      rw [LiteralParts.chars, LiteralParts.fractionChars, LiteralParts.markedExponent, hnone]
      have hwhole := hwell.whole
      simp only [isDigits, Bool.and_eq_true, decide_eq_true_eq, List.all_eq_true] at hwhole
      intro hmem
      rw [List.append_nil, List.mem_append] at hmem
      rcases hmem with hmem | hmem
      · exact absurd (hwhole.2 _ hmem) (by decide)
      · split at hmem
        · exact absurd hmem List.not_mem_nil
        · rcases List.mem_cons.mp hmem with hpoint | hmem
          · exact absurd hpoint (by decide)
          · exact absurd (hwell.fraction _ hmem) (by decide)
    unfold signed at hmark
    split at hmark
    · rcases List.mem_cons.mp hmark with heq | hmem
      · exact absurd heq (by decide)
      · exact hnot hmem
    · exact hnot hmark
  · intro hplain
    rw [text, plainText, parts, if_pos hplain]

end Decimal

end LetletmeData.Library
