import Mathlib.Algebra.Order.Ring.Int
import Mathlib.Data.List.Forall2
import Mathlib.Data.String.Basic

/-!
# Timestamps in ISO format

`Date.prototype.toISOString` writes a time as fields of fixed width, from the year down to the
millisecond. Up to the year 9999 the texts therefore sort as the times do.
-/

namespace LetletmeData.Library

/-- The last digits of a number, in a field of the given width. -/
def padDigits : ℕ → ℕ → List Char
  | 0, _ => []
  | width + 1, number => padDigits width (number / 10) ++ [Nat.digitChar (number % 10)]

/-- The text of fields that are each closed by a separator. -/
def fieldsText : List (ℕ × Char) → List ℕ → List Char
  | (width, separator) :: layout, value :: values =>
    padDigits width value ++ separator :: fieldsText layout values
  | _, _ => []

/-- A number in units of decreasing size. -/
def splitUnits : List ℕ → ℕ → List ℕ
  | [], number => [number]
  | unit :: units, number => number / unit :: splitUnits units (number % unit)

/-- The block of a sequence of blocks that a number falls into, and its place there. -/
def locateBlock : List ℕ → ℕ → ℕ × ℕ
  | [], number => (0, number)
  | length :: lengths, number =>
    if number < length then (0, number)
    else
      let later := locateBlock lengths (number - length)
      (later.1 + 1, later.2)

/-- The leap years of the calendar. -/
def isLeapYear (year : ℕ) : Bool := year % 4 = 0 && (year % 100 ≠ 0 || year % 400 = 0)

/-- The days of a year. -/
def yearLength (year : ℕ) : ℕ := if isLeapYear year then 366 else 365

/-- The days of the months of a year. -/
def monthLengths (year : ℕ) : List ℕ :=
  [31, if isLeapYear year then 29 else 28, 31, 30, 31, 30, 31, 31, 30, 31, 30, 31]

/-- The year of a day counted from the start of a year, and its place there; the search goes on
for a number of years. -/
def locateYear : ℕ → ℕ → ℕ → ℕ × ℕ
  | 0, year, day => (year, day)
  | years + 1, year, day =>
    if day < yearLength year then (year, day)
    else locateYear years (year + 1) (day - yearLength year)

/-- Year, month and day of a day counted from the start of 1970. -/
def dateFields (day : ℕ) : List ℕ :=
  let year := locateYear 8030 1970 day
  let month := locateBlock (monthLengths year.1) year.2
  [year.1, month.1 + 1, month.2 + 1]

/-- A day and a time of day in milliseconds. -/
def millisecondsPerDay : ℕ := 86400000

/-- The fields of a time in milliseconds since the start of 1970. -/
def isoFields (time : ℕ) : List ℕ :=
  dateFields (time / millisecondsPerDay) ++
    splitUnits [3600000, 60000, 1000] (time % millisecondsPerDay)

/-- The widths and separators of the fields. -/
def isoLayout : List (ℕ × Char) :=
  [(4, '-'), (2, '-'), (2, 'T'), (2, ':'), (2, ':'), (2, '.'), (3, 'Z')]

/-- `Date.prototype.toISOString` of a time before the year 10000. -/
def toISOString (time : ℕ) : String := String.ofList (fieldsText isoLayout (isoFields time))

/-- The year of a time; from 10000 on the format is another one. -/
def isoYear (time : ℕ) : ℕ := (locateYear 8030 1970 (time / millisecondsPerDay)).1

example : toISOString 1755345600000 = "2025-08-16T12:00:00.000Z" := by decide

section Lexicographic

variable {Letter : Type*} [LT Letter]

/-- Of two texts whose parts have the same length, the first parts decide. -/
theorem append_lt_append_of_length_eq {left right : List Letter} (h : left < right)
    (hlength : left.length = right.length) (left' right' : List Letter) :
    left ++ left' < right ++ right' := by
  induction h with
  | nil => simp at hlength
  | cons _ ih => exact List.Lex.cons (ih (by simpa using hlength))
  | rel hletter => exact List.Lex.rel hletter

end Lexicographic

/-- A field has its width. -/
@[simp] theorem length_padDigits (width number : ℕ) : (padDigits width number).length = width := by
  induction width generalizing number with
  | zero => rfl
  | succ width ih => simp [padDigits, ih]

/-- Fields of one width sort as their numbers do. -/
theorem padDigits_lt {width left right : ℕ} (h : left < right) (hright : right < 10 ^ width) :
    padDigits width left < padDigits width right := by
  induction width generalizing left right with
  | zero => simp at hright; omega
  | succ width ih =>
    have hdigit : ∀ a < 10, ∀ b < 10, a < b → Nat.digitChar a < Nat.digitChar b := by decide
    have hbound : right / 10 < 10 ^ width := by
      rw [pow_succ] at hright
      omega
    rw [padDigits, padDigits]
    have hle : left / 10 ≤ right / 10 := Nat.div_le_div_right h.le
    rcases hle.lt_or_eq with hlt | heq
    · exact append_lt_append_of_length_eq (ih hlt hbound) (by simp) _ _
    · rw [heq]
      refine List.append_left_lt (List.Lex.rel ?_)
      exact hdigit _ (Nat.mod_lt _ (by omega)) _ (Nat.mod_lt _ (by omega)) (by omega)

/-- Texts of one layout sort as their fields do. -/
theorem fieldsText_lt {layout : List (ℕ × Char)} {left right : List ℕ} (h : left < right)
    (hlength : left.length = right.length)
    (hright : List.Forall₂ (fun (field : ℕ × Char) value => value < 10 ^ field.1) layout right) :
    fieldsText layout left < fieldsText layout right := by
  induction hright generalizing left with
  | nil => simp at h
  | @cons field value layout right hvalue _ ih =>
    obtain ⟨width, separator⟩ := field
    cases left with
    | nil => simp at hlength
    | cons other left =>
      rw [fieldsText, fieldsText]
      rcases List.cons_lt_cons_iff.mp h with hlt | ⟨rfl, hrest⟩
      · exact append_lt_append_of_length_eq (padDigits_lt hlt hvalue) (by simp) _ _
      · exact List.append_left_lt (List.Lex.cons (ih hrest (by simpa using hlength)))

/-- Numbers of units have one field for each unit and one for the rest. -/
@[simp] theorem length_splitUnits (units : List ℕ) (number : ℕ) :
    (splitUnits units number).length = units.length + 1 := by
  induction units generalizing number with
  | nil => rfl
  | cons unit units ih => simp [splitUnits, ih]

/-- Units sort as their numbers do. -/
theorem splitUnits_lt {units : List ℕ} {left right : ℕ} (h : left < right) :
    splitUnits units left < splitUnits units right := by
  induction units generalizing left right with
  | nil => exact List.Lex.rel h
  | cons unit units ih =>
    rw [splitUnits, splitUnits]
    have hle : left / unit ≤ right / unit := Nat.div_le_div_right h.le
    rcases hle.lt_or_eq with hlt | heq
    · exact List.Lex.rel hlt
    · rw [heq]
      refine List.Lex.cons (ih ?_)
      have hleft := Nat.div_add_mod left unit
      have hright := Nat.div_add_mod right unit
      rw [heq] at hleft
      omega

/-- A later number falls into a later block, or to a later place of the same one. -/
theorem locateBlock_lt {lengths : List ℕ} {left right : ℕ} (h : left < right) :
    (locateBlock lengths left).1 < (locateBlock lengths right).1 ∨
      ((locateBlock lengths left).1 = (locateBlock lengths right).1 ∧
        (locateBlock lengths left).2 < (locateBlock lengths right).2) := by
  induction lengths generalizing left right with
  | nil => exact .inr ⟨rfl, h⟩
  | cons length lengths ih =>
    rw [locateBlock, locateBlock]
    by_cases hright : right < length
    · rw [if_pos hright, if_pos (h.trans hright)]
      exact .inr ⟨rfl, h⟩
    · rw [if_neg hright]
      by_cases hleft : left < length
      · rw [if_pos hleft]
        exact .inl (Nat.succ_pos _)
      · rw [if_neg hleft]
        have hrest := @ih (left - length) (right - length) (by omega)
        simpa using hrest

/-- There are no more blocks than lengths. -/
theorem locateBlock_fst_le (lengths : List ℕ) (number : ℕ) :
    (locateBlock lengths number).1 ≤ lengths.length := by
  induction lengths generalizing number with
  | nil => exact le_rfl
  | cons length lengths ih =>
    rw [locateBlock]
    split
    · exact Nat.zero_le _
    · exact Nat.succ_le_succ (ih _)

/-- The place in a block is below the length of the longest block. -/
theorem locateBlock_snd_lt {lengths : List ℕ} {number bound : ℕ} (h : number < lengths.sum)
    (hbound : ∀ length ∈ lengths, length ≤ bound) : (locateBlock lengths number).2 < bound := by
  induction lengths generalizing number with
  | nil => simp at h
  | cons length lengths ih =>
    rw [locateBlock]
    split
    next hlt => exact hlt.trans_le (hbound length List.mem_cons_self)
    · rw [List.sum_cons] at h
      exact ih (by omega) fun other hother => hbound other (List.mem_cons_of_mem _ hother)

/-- The search does not go back. -/
theorem le_locateYear (years year day : ℕ) : year ≤ (locateYear years year day).1 := by
  induction years generalizing year day with
  | zero => exact le_rfl
  | succ years ih =>
    rw [locateYear]
    split
    · exact le_rfl
    · exact (Nat.le_succ year).trans (ih _ _)

/-- A later day falls into a later year, or to a later day of the same one. -/
theorem locateYear_lt {years year left right : ℕ} (h : left < right) :
    (locateYear years year left).1 < (locateYear years year right).1 ∨
      ((locateYear years year left).1 = (locateYear years year right).1 ∧
        (locateYear years year left).2 < (locateYear years year right).2) := by
  induction years generalizing year left right with
  | zero => exact .inr ⟨rfl, h⟩
  | succ years ih =>
    rw [locateYear, locateYear]
    by_cases hright : right < yearLength year
    · rw [if_pos hright, if_pos (h.trans hright)]
      exact .inr ⟨rfl, h⟩
    · rw [if_neg hright]
      by_cases hleft : left < yearLength year
      · rw [if_pos hleft]
        exact .inl (Nat.lt_of_succ_le (le_locateYear years (year + 1) _))
      · rw [if_neg hleft]
        exact ih (by omega)

/-- A year that the search reached holds its day. -/
theorem locateYear_snd_lt {years year day : ℕ} (h : (locateYear years year day).1 < year + years) :
    (locateYear years year day).2 < yearLength (locateYear years year day).1 := by
  induction years generalizing year day with
  | zero => exact absurd h (lt_irrefl year)
  | succ years ih =>
    rw [locateYear] at h ⊢
    split
    next hday => exact hday
    next hday =>
      rw [if_neg hday] at h
      exact ih (by omega)

/-- The months of a year have its days. -/
theorem sum_monthLengths (year : ℕ) : (monthLengths year).sum = yearLength year := by
  unfold monthLengths yearLength
  split <;> rfl

/-- Later days have later dates. -/
theorem dateFields_lt {left right : ℕ} (h : left < right) : dateFields left < dateFields right := by
  rw [dateFields, dateFields]
  rcases @locateYear_lt 8030 1970 left right h with hyear | ⟨hyear, hday⟩
  · exact List.Lex.rel hyear
  · rw [hyear]
    refine List.Lex.cons ?_
    rcases locateBlock_lt hday with hmonth | ⟨hmonth, hplace⟩
    · exact List.Lex.rel (Nat.succ_lt_succ hmonth)
    · rw [hmonth]
      exact List.Lex.cons (List.Lex.rel (Nat.succ_lt_succ hplace))

/-- A date has three fields. -/
theorem length_dateFields (day : ℕ) : (dateFields day).length = 3 := rfl

/-- A time has seven fields. -/
theorem length_isoFields (time : ℕ) : (isoFields time).length = 7 := by
  simp [isoFields, length_dateFields]

/-- Later times have later fields. -/
theorem isoFields_lt {left right : ℕ} (h : left < right) : isoFields left < isoFields right := by
  rw [isoFields, isoFields]
  have hle : left / millisecondsPerDay ≤ right / millisecondsPerDay := Nat.div_le_div_right h.le
  rcases hle.lt_or_eq with hlt | heq
  · exact append_lt_append_of_length_eq (dateFields_lt hlt)
      ((length_dateFields _).trans (length_dateFields _).symm) _ _
  · rw [heq]
    refine List.append_left_lt (splitUnits_lt ?_)
    unfold millisecondsPerDay at heq ⊢
    omega

/-- The fields of a time before the year 10000 have their widths. -/
theorem isoFields_fit {time : ℕ} (h : isoYear time < 10000) :
    List.Forall₂ (fun (field : ℕ × Char) value => value < 10 ^ field.1) isoLayout
      (isoFields time) := by
  have hday := @locateYear_snd_lt 8030 1970 (time / millisecondsPerDay) h
  have hrest : time % millisecondsPerDay < 86400000 := Nat.mod_lt _ (by decide)
  unfold isoYear at h
  simp only [isoFields, dateFields]
  generalize locateYear 8030 1970 (time / millisecondsPerDay) = year at h hday ⊢
  have hmonth : (locateBlock (monthLengths year.1) year.2).1 ≤ 12 := locateBlock_fst_le _ _
  have hplace : (locateBlock (monthLengths year.1) year.2).2 < 31 := by
    refine locateBlock_snd_lt (by rw [sum_monthLengths]; exact hday) ?_
    unfold monthLengths
    split <;> decide
  simp only [isoLayout, splitUnits, List.cons_append, List.nil_append, List.forall₂_cons,
    List.Forall₂.nil, and_true]
  refine ⟨h, ?_, ?_, ?_, ?_, ?_, ?_⟩ <;> omega

/-- Before the year 10000 the texts of times sort as the times do. -/
theorem toISOString_lt {left right : ℕ} (h : left < right) (hright : isoYear right < 10000) :
    toISOString left < toISOString right := by
  rw [String.lt_iff_toList_lt, toISOString, toISOString, String.toList_ofList, String.toList_ofList]
  exact fieldsText_lt (isoFields_lt h) ((length_isoFields _).trans (length_isoFields _).symm)
    (isoFields_fit hright)

/-- Before the year 10000 the texts of times are ordered as the times are. -/
theorem toISOString_le_iff {left right : ℕ} (hleft : isoYear left < 10000)
    (hright : isoYear right < 10000) : toISOString left ≤ toISOString right ↔ left ≤ right := by
  constructor
  · intro h
    by_contra hlt
    exact absurd h (not_le.mpr (toISOString_lt (not_le.mp hlt) hleft))
  · intro h
    rcases h.lt_or_eq with hlt | rfl
    · exact (toISOString_lt hlt hright).le
    · exact le_rfl

/-- Before the year 10000 the text of a time identifies it. -/
theorem toISOString_injective {left right : ℕ} (hleft : isoYear left < 10000)
    (hright : isoYear right < 10000) (h : toISOString left = toISOString right) : left = right :=
  le_antisymm ((toISOString_le_iff hleft hright).mp h.le)
    ((toISOString_le_iff hright hleft).mp h.ge)

/-- The text of as many fields as a layout has is as long as the layout. -/
theorem length_fieldsText {layout : List (ℕ × Char)} {fields : List ℕ}
    (h : fields.length = layout.length) :
    (fieldsText layout fields).length = (layout.map fun field => field.1 + 1).sum := by
  induction layout generalizing fields with
  | nil => cases fields <;> rfl
  | cons field layout ih =>
    cases fields with
    | nil => exact absurd h (by simp)
    | cons number fields =>
      have hrest : fields.length = layout.length := Nat.succ.inj h
      simp [fieldsText, ih hrest]
      omega

/-- The texts of times are equally long. -/
theorem length_toISOString (time : ℕ) : (toISOString time).toList.length = 24 := by
  rw [toISOString, String.toList_ofList, length_fieldsText (length_isoFields time)]
  rfl

end LetletmeData.Library
