import LetletmeData.Library.IsoTimestamps
import LetletmeData.Library.Decimals

/-!
# Dates of the language

A valid date is a time within a hundred million days of the start of 1970. It is written with the
year, month and day of the calendar, which repeats every 400 years; years before 0 and from 10000 on
are written with six digits and a sign. The text of a date is read as the date. What other texts
stand for is left to a function of the host.
-/

namespace LetletmeData.Library

/-- The time of a valid date, in milliseconds since the start of 1970. -/
structure DateValue where
  time : ℤ
  valid : -8640000000000000 ≤ time ∧ time ≤ 8640000000000000
  deriving DecidableEq

/-- The start of 1970 is a date. -/
theorem valid_zero : -8640000000000000 ≤ (0 : ℤ) ∧ (0 : ℤ) ≤ 8640000000000000 := by decide

/-! ### The calendar -/

/-- The days of 400 years. -/
def cycleLength : ℤ := 146097

/-- The days from the start of year 0 to the start of 1970. -/
def epochDay : ℤ := 719528

/-- The lengths of the years of a cycle. -/
def cycleYears : List ℕ := (List.range 400).map yearLength

/-- Year, month and day of a day counted from the start of 1970. -/
def calendarFields (day : ℤ) : ℤ × ℕ × ℕ :=
  let year := locateBlock cycleYears ((day + epochDay) % cycleLength).toNat
  let month := locateBlock (monthLengths year.1) year.2
  (400 * ((day + epochDay) / cycleLength) + year.1, month.1 + 1, month.2 + 1)

/-- The day of a year, month and day, counted from the start of 1970. -/
def calendarDay (year : ℤ) (month day : ℕ) : ℤ :=
  let place := (year % 400).toNat
  cycleLength * (year / 400) + (cycleYears.take place).sum +
    ((monthLengths place).take (month - 1)).sum + (day - 1 : ℕ) - epochDay

/-- The blocks before the one of a number, and its place there, add up to it. -/
theorem sum_take_locateBlock (lengths : List ℕ) (number : ℕ) :
    (lengths.take (locateBlock lengths number).1).sum + (locateBlock lengths number).2 =
      number := by
  induction lengths generalizing number with
  | nil => simp [locateBlock]
  | cons length lengths ih =>
    rw [locateBlock]
    split
    next => simp
    next hge =>
      have hrest := ih (number - length)
      simp only [List.take_succ_cons, List.sum_cons]
      omega

/-- A number below the sum of the lengths falls into one of the blocks. -/
theorem locateBlock_fst_lt {lengths : List ℕ} {number : ℕ} (h : number < lengths.sum) :
    (locateBlock lengths number).1 < lengths.length := by
  induction lengths generalizing number with
  | nil => simp at h
  | cons length lengths ih =>
    rw [locateBlock]
    split
    next => exact Nat.succ_pos _
    next hge =>
      rw [List.sum_cons] at h
      exact Nat.succ_lt_succ (ih (by omega))

/-- A number below the sum of the lengths has its place within its block. -/
theorem locateBlock_snd_lt_getD {lengths : List ℕ} {number : ℕ} (h : number < lengths.sum) :
    (locateBlock lengths number).2 < lengths.getD (locateBlock lengths number).1 0 := by
  induction lengths generalizing number with
  | nil => simp at h
  | cons length lengths ih =>
    rw [locateBlock]
    split
    next hlt => exact hlt
    next hge =>
      rw [List.sum_cons] at h
      exact ih (by omega)

/-- The years of a cycle have its days. -/
theorem toNat_cycle_lt (day : ℤ) : ((day + epochDay) % cycleLength).toNat < cycleYears.sum := by
  have hsum : cycleYears.sum = 146097 := by decide +kernel
  rw [hsum, cycleLength]
  omega

/-- Every day of a cycle falls into one of its years. -/
theorem cycleYear_lt (day : ℤ) :
    (locateBlock cycleYears ((day + epochDay) % cycleLength).toNat).1 < 400 := by
  have hlength : cycleYears.length = 400 := by simp [cycleYears]
  rw [← hlength]
  exact locateBlock_fst_lt (toNat_cycle_lt day)

/-- The fields of a day are those of the day only. -/
theorem calendarDay_calendarFields (day : ℤ) :
    calendarDay (calendarFields day).1 (calendarFields day).2.1 (calendarFields day).2.2 = day := by
  have hyear := cycleYear_lt day
  have hdays := sum_take_locateBlock cycleYears ((day + epochDay) % cycleLength).toNat
  unfold calendarFields calendarDay
  dsimp only
  generalize locateBlock cycleYears ((day + epochDay) % cycleLength).toNat = year at hyear hdays ⊢
  have hmonths := sum_take_locateBlock (monthLengths year.1) year.2
  generalize locateBlock (monthLengths year.1) year.2 = month at hmonths ⊢
  have hplace : ((400 * ((day + epochDay) / cycleLength) + (year.1 : ℤ)) % 400).toNat = year.1 := by
    omega
  have hcycle : (400 * ((day + epochDay) / cycleLength) + (year.1 : ℤ)) / 400 =
      (day + epochDay) / cycleLength := by omega
  rw [hplace, hcycle, Nat.add_sub_cancel, Nat.add_sub_cancel]
  have hdivision := Int.mul_ediv_add_emod (day + epochDay) cycleLength
  have hnonneg : 0 ≤ (day + epochDay) % cycleLength := Int.emod_nonneg _ (by decide)
  omega

/-! ### Texts -/

/-- A year, with six digits and a sign where four digits are not enough. -/
def yearChars (year : ℤ) : List Char :=
  if 0 ≤ year ∧ year ≤ 9999 then padDigits 4 year.toNat
  else (if year < 0 then '-' else '+') :: padDigits 6 year.natAbs

/-- Fields of fixed widths, each behind its separator. -/
def separatedFields : List (Char × ℕ) → List ℕ → List Char
  | (separator, width) :: layout, value :: values =>
    separator :: (padDigits width value ++ separatedFields layout values)
  | _, _ => ['Z']

/-- The separators and widths of the fields behind the year. -/
def dateLayout : List (Char × ℕ) :=
  [('-', 2), ('-', 2), ('T', 2), (':', 2), (':', 2), ('.', 3)]

/-- The day of a time. -/
def DateValue.day (date : DateValue) : ℤ := date.time / 86400000

/-- The fields of a time behind the year. -/
def DateValue.fields (date : DateValue) : List ℕ :=
  (calendarFields date.day).2.1 :: (calendarFields date.day).2.2 ::
    splitUnits [3600000, 60000, 1000] (date.time % 86400000).toNat

/-- `Date.prototype.toISOString`. -/
def DateValue.toISOString (date : DateValue) : String :=
  String.ofList (yearChars (calendarFields date.day).1 ++ separatedFields dateLayout date.fields)

example : (DateValue.mk 1755345600000 (by decide)).toISOString = "2025-08-16T12:00:00.000Z" := by
  decide +kernel

example : (DateValue.mk (-62198755200000) (by decide)).toISOString =
    "-000001-01-01T00:00:00.000Z" := by decide +kernel

/-! ### Reading -/

/-- The year at the start of a text, and what follows. -/
def readYear : List Char → ℤ × List Char
  | [] => (0, [])
  | c :: rest =>
    if c = '+' then (decimalValue (rest.take 6), rest.drop 6)
    else if c = '-' then (-decimalValue (rest.take 6), rest.drop 6)
    else (decimalValue ((c :: rest).take 4), (c :: rest).drop 4)

/-- Fields of fixed widths, each behind a separator. -/
def readFields : List (Char × ℕ) → List Char → List ℕ
  | [], _ => []
  | (_, width) :: layout, chars =>
    decimalValue ((chars.drop 1).take width) :: readFields layout (chars.drop (width + 1))

/-- The time of a year and the fields behind it. -/
def timeOfFields (year : ℤ) : List ℕ → ℤ
  | [month, day, hour, minute, second, millisecond] =>
    86400000 * calendarDay year month day +
      (3600000 * hour + 60000 * minute + 1000 * second + millisecond : ℕ)
  | _ => 0

/-- The date of a time, if it is valid. -/
def dateOfTime (time : ℤ) : Option DateValue :=
  if h : -8640000000000000 ≤ time ∧ time ≤ 8640000000000000 then some ⟨time, h⟩ else none

/-- The date whose text is given. -/
def readISOString (text : String) : Option DateValue :=
  let (year, rest) := readYear text.toList
  (dateOfTime (timeOfFields year (readFields dateLayout rest))).filter
    fun date => date.toISOString = text

/-- `new Date(text)`, if it is valid; the host reads what is no text of a date. -/
def parseDate (host : String → Option DateValue) (text : String) : Option DateValue :=
  (readISOString text).or (host text)

/-- A number is read of its digits. -/
theorem decimalValue_padDigits {width number : ℕ} (h : number < 10 ^ width) :
    decimalValue (padDigits width number) = number := by
  induction width generalizing number with
  | zero =>
    rw [pow_zero] at h
    rw [Nat.lt_one_iff.mp h]
    rfl
  | succ width ih =>
    have hlast : decimalValue (padDigits width (number / 10) ++ [Nat.digitChar (number % 10)]) =
        10 * decimalValue (padDigits width (number / 10)) +
          ((Nat.digitChar (number % 10)).toNat - 48) := by
      unfold decimalValue
      rw [List.foldl_append]
      rfl
    rw [padDigits, hlast, ih (by rw [pow_succ] at h; omega),
      Nat.toNat_digitChar_sub_48_of_lt_ten (Nat.mod_lt _ (by decide))]
    omega

/-- Digits do not begin with a sign. -/
theorem head_padDigits {width number : ℕ} :
    ∀ c ∈ (padDigits width number).head?, c ≠ '+' ∧ c ≠ '-' := by
  have hdigit : ∀ digit < 10, Nat.digitChar digit ≠ '+' ∧ Nat.digitChar digit ≠ '-' := by decide
  intro c hc
  have hmem : ∀ width number, ∀ c ∈ padDigits width number, c ≠ '+' ∧ c ≠ '-' := by
    intro width
    induction width with
    | zero => exact fun number c hc => absurd hc List.not_mem_nil
    | succ width ih =>
      intro number c hc
      rcases List.mem_append.mp hc with hc | hc
      · exact ih _ c hc
      · rw [List.mem_singleton.mp hc]
        exact hdigit _ (Nat.mod_lt _ (by decide))
  exact hmem width number c (List.mem_of_mem_head? hc)

/-- A year is read back. -/
theorem readYear_yearChars {year : ℤ} (h : year.natAbs < 10 ^ 6) (rest : List Char) :
    readYear (yearChars year ++ rest) = (year, rest) := by
  unfold yearChars
  split
  next hshort =>
    have hlength := length_padDigits 4 year.toNat
    have hvalue : decimalValue (padDigits 4 year.toNat) = year.toNat :=
      decimalValue_padDigits (by omega)
    have htake : (padDigits 4 year.toNat ++ rest).take 4 = padDigits 4 year.toNat :=
      List.take_left' hlength
    have hdrop : (padDigits 4 year.toNat ++ rest).drop 4 = rest := List.drop_left' hlength
    cases hchars : padDigits 4 year.toNat with
    | nil => rw [hchars] at hlength; exact absurd hlength (by decide)
    | cons c chars =>
      have hc := head_padDigits c (by rw [hchars]; rfl)
      rw [hchars, List.cons_append] at htake hdrop
      rw [hchars] at hvalue
      rw [List.cons_append, readYear, if_neg hc.1, if_neg hc.2, htake, hdrop, hvalue]
      simp [hshort.1]
  next hlong =>
    have hlength := length_padDigits 6 year.natAbs
    have hvalue := decimalValue_padDigits h
    rw [List.cons_append, readYear, List.take_left' hlength, List.drop_left' hlength, hvalue]
    split
    next hneg =>
      rw [if_neg (by decide), if_pos rfl, Prod.mk.injEq]
      exact ⟨by omega, rfl⟩
    next hpos =>
      rw [if_pos rfl, Prod.mk.injEq]
      exact ⟨by omega, rfl⟩

/-- Fields are read back. -/
theorem readFields_separatedFields {layout : List (Char × ℕ)} {values : List ℕ}
    (h : List.Forall₂ (fun place value => value < 10 ^ place.2) layout values) :
    readFields layout (separatedFields layout values) = values := by
  induction h with
  | nil => rfl
  | @cons place value layout values hvalue _ ih =>
    obtain ⟨separator, width⟩ := place
    have hlength := length_padDigits width value
    rw [separatedFields, readFields, List.drop_one, List.tail_cons, List.take_left' hlength,
      List.drop_succ_cons, List.drop_left' hlength, ih, decimalValue_padDigits hvalue]

/-- Months and days have two digits. -/
theorem calendarFields_lt (day : ℤ) :
    (calendarFields day).2.1 ≤ 13 ∧ (calendarFields day).2.2 ≤ 31 := by
  have hyear := cycleYear_lt day
  have hplace := locateBlock_snd_lt_getD (toNat_cycle_lt day)
  have hget : ∀ place < 400, cycleYears.getD place 0 = yearLength place := by
    intro place hlt
    rw [List.getD_eq_getElem?_getD, cycleYears, List.getElem?_map, List.getElem?_range hlt]
    rfl
  unfold calendarFields
  dsimp only
  generalize locateBlock cycleYears ((day + epochDay) % cycleLength).toNat = year at hyear hplace ⊢
  rw [hget _ hyear, ← sum_monthLengths] at hplace
  refine ⟨Nat.succ_le_succ (locateBlock_fst_le (monthLengths year.1) year.2), ?_⟩
  refine locateBlock_snd_lt hplace ?_
  unfold monthLengths
  split <;> decide

/-- The fields behind the year fit their widths. -/
theorem DateValue.fields_fit (date : DateValue) :
    List.Forall₂ (fun (place : Char × ℕ) value => value < 10 ^ place.2) dateLayout
      date.fields := by
  have hday := calendarFields_lt date.day
  have hrest : (date.time % 86400000).toNat < 86400000 := by omega
  unfold fields
  generalize (date.time % 86400000).toNat = rest at hrest ⊢
  simp only [dateLayout, splitUnits, List.forall₂_cons, List.Forall₂.nil, and_true]
  refine ⟨?_, ?_, ?_, ?_, ?_, ?_⟩ <;> omega

/-- Years of valid dates have six digits. -/
theorem DateValue.year_lt (date : DateValue) : (calendarFields date.day).1.natAbs < 10 ^ 6 := by
  have hyear := cycleYear_lt date.day
  have hvalid := date.valid
  unfold calendarFields
  dsimp only
  unfold DateValue.day epochDay cycleLength at *
  omega

/-- The fields of a time are those of the time only. -/
theorem DateValue.timeOfFields_fields (date : DateValue) :
    timeOfFields (calendarFields date.day).1 date.fields = date.time := by
  have hday := calendarDay_calendarFields date.day
  unfold fields
  simp only [splitUnits, timeOfFields, hday]
  have hrest : ((date.time % 86400000).toNat : ℤ) = date.time % 86400000 := by omega
  have hdivision := Int.mul_ediv_add_emod date.time 86400000
  unfold DateValue.day
  omega

/-- The text of a date is read as the date. -/
theorem readISOString_toISOString (date : DateValue) :
    readISOString date.toISOString = some date := by
  have hyear := readYear_yearChars date.year_lt (separatedFields dateLayout date.fields)
  have hfields := readFields_separatedFields date.fields_fit
  have htext : date.toISOString.toList =
      yearChars (calendarFields date.day).1 ++ separatedFields dateLayout date.fields :=
    String.toList_ofList
  have hdate : dateOfTime date.time = some date := dif_pos date.valid
  unfold readISOString
  rw [htext, hyear]
  dsimp only
  rw [hfields, date.timeOfFields_fields, hdate, Option.filter_some, decide_eq_true rfl, if_pos rfl]

/-- `new Date` of the text of a date is the date. -/
@[simp] theorem parseDate_toISOString (host : String → Option DateValue) (date : DateValue) :
    parseDate host date.toISOString = some date := by
  rw [parseDate, readISOString_toISOString, Option.some_or]

end LetletmeData.Library
