import Mathlib.Data.List.Infix
import Mathlib.Data.List.Lex
import Mathlib.Data.Nat.Digits.Defs
import Mathlib.Data.Nat.Notation
import Mathlib.Order.Lattice
import Mathlib.Tactic.Common

/-!
# Texts

Where the parts of a text end, and how texts are compared.
-/

namespace LetletmeData.Library

/-! ## Texts joined by a separator

A separator that does not occur in a part shows where the part ends.
-/

/-- Texts before the first occurrence of a character are the same when the whole texts are. -/
theorem append_cons_injective {α : Type*} {c : α} {left right leftRest rightRest : List α}
    (hleft : c ∉ left) (hright : c ∉ right)
    (h : left ++ c :: leftRest = right ++ c :: rightRest) :
    left = right ∧ leftRest = rightRest := by
  induction left generalizing right with
  | nil =>
    cases right with
    | nil => exact ⟨rfl, (List.cons.inj h).2⟩
    | cons d right => exact absurd ((List.cons.inj h).1 ▸ List.mem_cons_self) hright
  | cons d left ih =>
    cases right with
    | nil => exact absurd ((List.cons.inj h).1 ▸ List.mem_cons_self) hleft
    | cons e right =>
      obtain ⟨hhead, htail⟩ := List.cons.inj h
      obtain ⟨hsame, hrest⟩ := ih (fun hmem => hleft (List.mem_cons_of_mem _ hmem))
        (fun hmem => hright (List.mem_cons_of_mem _ hmem)) htail
      exact ⟨by rw [hhead, hsame], hrest⟩

/-- Behind its last separator a text is the part after it. -/
theorem append_cons_injective_last {α : Type*} {separator : α}
    {left right leftRest rightRest : List α}
    (hleft : separator ∉ leftRest) (hright : separator ∉ rightRest)
    (h : left ++ separator :: leftRest = right ++ separator :: rightRest) :
    left = right ∧ leftRest = rightRest := by
  have hreverse := congrArg List.reverse h
  simp only [List.reverse_append, List.reverse_cons, List.append_assoc, List.singleton_append]
    at hreverse
  obtain ⟨hrest, hpart⟩ := append_cons_injective (mt List.mem_reverse.mp hleft)
    (mt List.mem_reverse.mp hright) hreverse
  exact ⟨List.reverse_injective hpart, List.reverse_injective hrest⟩

/-- The digits of a number hold no other character. -/
theorem not_mem_toDigits {c : Char} (hc : c.isDigit = false) (value : ℕ) :
    c ∉ Nat.toDigits 10 value := by
  intro hmem
  have hdigit := Nat.isDigit_of_mem_toDigits (by omega) (Nat.le_refl 10) hmem
  exact Bool.false_ne_true (hc.symm.trans hdigit)

/-- The text of a number holds no other character. -/
theorem not_mem_repr {separator : Char} (h : separator.isDigit = false) (value : ℕ) :
    separator ∉ value.repr.toList := by
  rw [Nat.toList_repr]
  exact not_mem_toDigits h value

/-- The digits of a number identify it. -/
theorem toDigits_ten_injective : Function.Injective (Nat.toDigits 10) := by
  intro left right h
  rw [← Nat.ofDigitChars_ten_toDigits (n := left), h, Nat.ofDigitChars_ten_toDigits]

/-- A number ends where something else than a digit stands. -/
theorem repr_append_injective {c : Char} (hc : c.isDigit = false) {left right : ℕ}
    {leftRest rightRest : List Char}
    (h : left.repr.toList ++ c :: leftRest = right.repr.toList ++ c :: rightRest) :
    left = right ∧ leftRest = rightRest := by
  rw [Nat.toList_repr, Nat.toList_repr] at h
  obtain ⟨hdigits, hrest⟩ :=
    append_cons_injective (not_mem_toDigits hc left) (not_mem_toDigits hc right) h
  exact ⟨toDigits_ten_injective hdigits, hrest⟩

/-! ## Encodings of texts

The language compares texts by their UTF-16 units: a character beyond the basic plane has two. A
database may compare them by their UTF-8 bytes, and shorter ones may come first in either encoding.
-/

/-- The UTF-16 units of a character. -/
def charUnits (c : Char) : List ℕ :=
  if c.toNat < 0x10000 then [c.toNat]
  else [0xD800 + (c.toNat - 0x10000) / 0x400, 0xDC00 + (c.toNat - 0x10000) % 0x400]

/-- The UTF-16 units of a text. -/
def codeUnits (text : String) : List ℕ := text.toList.flatMap charUnits

/-- `left <= right`. -/
def UnitsLe (left right : String) : Prop := codeUnits left ≤ codeUnits right

instance : DecidableRel UnitsLe := fun left right =>
  inferInstanceAs (Decidable (codeUnits left ≤ codeUnits right))

/-- A character is no surrogate and within the code space. -/
theorem toNat_bounds (c : Char) : c.toNat < 0xD800 ∨ 0xDFFF < c.toNat ∧ c.toNat < 0x110000 :=
  c.valid

/-- The first units of a text tell its first character. -/
theorem charUnits_append_injective {left right : Char} {leftRest rightRest : List ℕ}
    (h : charUnits left ++ leftRest = charUnits right ++ rightRest) :
    left = right ∧ leftRest = rightRest := by
  have hleft := toNat_bounds left
  have hright := toNat_bounds right
  unfold charUnits at h
  split at h <;> split at h <;>
    simp only [List.cons_append, List.nil_append, List.cons.injEq] at h
  · exact ⟨Char.toNat_inj.mp h.1, h.2⟩
  · omega
  · omega
  · exact ⟨Char.toNat_inj.mp (by omega), h.2.2⟩

/-- Every character has units. -/
theorem charUnits_ne_nil (c : Char) : charUnits c ≠ [] := by
  unfold charUnits
  split <;> exact List.cons_ne_nil _ _

/-- The units of a text identify it. -/
theorem codeUnits_injective : Function.Injective codeUnits := by
  intro left right h
  rw [← String.toList_inj]
  unfold codeUnits at h
  generalize left.toList = left, right.toList = right at h
  induction left generalizing right with
  | nil =>
    cases right with
    | nil => rfl
    | cons c right =>
      rw [List.flatMap_nil, List.flatMap_cons, eq_comm, List.append_eq_nil_iff] at h
      exact absurd h.1 (charUnits_ne_nil c)
  | cons c left ih =>
    cases right with
    | nil =>
      rw [List.flatMap_nil, List.flatMap_cons, List.append_eq_nil_iff] at h
      exact absurd h.1 (charUnits_ne_nil c)
    | cons d right =>
      obtain ⟨rfl, hrest⟩ := charUnits_append_injective h
      rw [ih right hrest]

/-! ### Reading units -/

/-- The first unit of a pair. -/
def IsHighUnit (unit : ℕ) : Prop := 0xD800 ≤ unit ∧ unit < 0xDC00

instance (unit : ℕ) : Decidable (IsHighUnit unit) := inferInstanceAs (Decidable (_ ∧ _))

/-- The second unit of a pair. -/
def IsLowUnit (unit : ℕ) : Prop := 0xDC00 ≤ unit ∧ unit < 0xE000

instance (unit : ℕ) : Decidable (IsLowUnit unit) := inferInstanceAs (Decidable (_ ∧ _))

/-- A unit on its own; half a pair is no character, and is replaced. -/
def charOfUnit (unit : ℕ) : Char :=
  if IsHighUnit unit ∨ IsLowUnit unit then Char.ofNat 0xFFFD else Char.ofNat unit

/-- The text of units. -/
def decodeUnits : List ℕ → List Char
  | [] => []
  | [unit] => [charOfUnit unit]
  | high :: low :: rest =>
    if IsHighUnit high ∧ IsLowUnit low then
      Char.ofNat (0x10000 + 0x400 * (high - 0xD800) + (low - 0xDC00)) :: decodeUnits rest
    else charOfUnit high :: decodeUnits (low :: rest)

/-- Other units than the first one of a pair stand on their own. -/
theorem decodeUnits_cons {unit : ℕ} (h : ¬ IsHighUnit unit) (rest : List ℕ) :
    decodeUnits (unit :: rest) = charOfUnit unit :: decodeUnits rest := by
  cases rest with
  | nil => rfl
  | cons low rest => rw [decodeUnits, if_neg fun hpair => h hpair.1]

/-- The units of a text are read as the text. -/
theorem decodeUnits_charUnits (chars : List Char) :
    decodeUnits (chars.flatMap charUnits) = chars := by
  induction chars with
  | nil => rfl
  | cons c chars ih =>
    have hc := toNat_bounds c
    rw [List.flatMap_cons]
    unfold charUnits
    split
    next hsmall =>
      have hhigh : ¬ IsHighUnit c.toNat := by unfold IsHighUnit; omega
      have hlow : ¬ IsLowUnit c.toNat := by unfold IsLowUnit; omega
      rw [List.cons_append, List.nil_append, decodeUnits_cons hhigh, charOfUnit,
        if_neg (not_or.mpr ⟨hhigh, hlow⟩), Char.ofNat_toNat]
      exact congrArg _ ih
    next hlarge =>
      have hpair : IsHighUnit (0xD800 + (c.toNat - 0x10000) / 0x400) ∧
          IsLowUnit (0xDC00 + (c.toNat - 0x10000) % 0x400) := by
        unfold IsHighUnit IsLowUnit
        omega
      have hvalue : 0x10000 + 0x400 * (0xD800 + (c.toNat - 0x10000) / 0x400 - 0xD800) +
          (0xDC00 + (c.toNat - 0x10000) % 0x400 - 0xDC00) = c.toNat := by omega
      rw [List.cons_append, List.cons_append, List.nil_append, decodeUnits, if_pos hpair, hvalue,
        Char.ofNat_toNat]
      exact congrArg _ ih

instance : Std.Total UnitsLe := ⟨fun left right => le_total (codeUnits left) (codeUnits right)⟩

instance : IsTrans String UnitsLe := ⟨fun _ _ _ => le_trans⟩

instance : Std.Antisymm UnitsLe := ⟨fun _ _ hle hge => codeUnits_injective (le_antisymm hle hge)⟩

/-! ### Shorter texts first -/

/-- The UTF-8 bytes of a text. -/
def utf8Bytes (text : String) : List ℕ := text.toUTF8.data.toList.map UInt8.toNat

/-- The bytes of a text identify it. -/
theorem utf8Bytes_injective : Function.Injective utf8Bytes := by
  intro left right h
  have hbytes := List.map_injective_iff.mpr (fun _ _ => UInt8.toNat_inj.mp) h
  exact String.toByteArray_inj.mp (ByteArray.ext (Array.toList_inj.mp hbytes))

/-- The shorter text in an encoding comes first, and of two of one length the smaller. -/
def LengthFirstLe (encode : String → List ℕ) (left right : String) : Prop :=
  (encode left).length < (encode right).length ∨
    ((encode left).length = (encode right).length ∧ encode left ≤ encode right)

instance (encode : String → List ℕ) : DecidableRel (LengthFirstLe encode) := fun _ _ =>
  inferInstanceAs (Decidable (_ ∨ _))

instance (encode : String → List ℕ) : Std.Total (LengthFirstLe encode) := by
  refine ⟨fun left right => ?_⟩
  rcases lt_trichotomy (encode left).length (encode right).length with hlt | heq | hgt
  · exact .inl (.inl hlt)
  · exact (le_total (encode left) (encode right)).imp (fun hle => .inr ⟨heq, hle⟩)
      fun hge => .inr ⟨heq.symm, hge⟩
  · exact .inr (.inl hgt)

instance (encode : String → List ℕ) : IsTrans String (LengthFirstLe encode) := by
  refine ⟨fun _ _ _ hleft hright => ?_⟩
  rcases hleft with hlt | ⟨heq, hle⟩ <;> rcases hright with hlt' | ⟨heq', hle'⟩
  · exact .inl (hlt.trans hlt')
  · exact .inl (hlt.trans_eq heq')
  · exact .inl (heq.trans_lt hlt')
  · exact .inr ⟨heq.trans heq', hle.trans hle'⟩

/-- In an encoding that identifies texts, no two of them come first before each other. -/
theorem LengthFirstLe.antisymm {encode : String → List ℕ} (hencode : Function.Injective encode)
    {left right : String} (h : LengthFirstLe encode left right)
    (h' : LengthFirstLe encode right left) : left = right := by
  rcases h with hlt | ⟨heq, hle⟩ <;> rcases h' with hlt' | ⟨heq', hle'⟩
  · exact absurd hlt' hlt.asymm
  · exact absurd heq' hlt.ne'
  · exact absurd heq hlt'.ne'
  · exact hencode (le_antisymm hle hle')

instance : Std.Antisymm (LengthFirstLe codeUnits) := 
  ⟨fun _ _ h h' => h.antisymm codeUnits_injective h'⟩

instance : Std.Antisymm (LengthFirstLe utf8Bytes) := 
  ⟨fun _ _ h h' => h.antisymm utf8Bytes_injective h'⟩

/-- The code of a character in lower case. -/
theorem toNat_toLower (c : Char) :
    c.toLower.toNat = if 65 ≤ c.toNat ∧ c.toNat ≤ 90 then c.toNat + 32 else c.toNat := by
  unfold Char.toLower
  split
  next h =>
    have hbounds : 65 ≤ c.toNat ∧ c.toNat ≤ 90 := h
    rw [if_pos hbounds]
    change (c.val + 32).toNat = c.val.toNat + 32
    have hle : c.val.toNat ≤ 90 := hbounds.2
    rw [UInt32.toNat_add]
    exact Nat.mod_eq_of_lt (by change c.val.toNat + 32 < 2 ^ 32; omega)
  next h =>
    have hbounds : ¬ (65 ≤ c.toNat ∧ c.toNat ≤ 90) := h
    rw [if_neg hbounds]

/-- A character in lower case is its own lower case. -/
@[simp] theorem toLower_toLower (c : Char) : c.toLower.toLower = c.toLower := by
  rw [← Char.toNat_inj, toNat_toLower (c.toLower), if_neg]
  rw [toNat_toLower]
  split <;> omega

end LetletmeData.Library
