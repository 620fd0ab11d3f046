import LetletmeData.Library.Decimals
import LetletmeData.Library.JsonTexts
import LetletmeData.Library.Texts

/-!
# Reading JSON texts

`JSON.parse` up to the values of numbers, which stand as they are written, and up to fields of one
name, which are all kept. The text of a value is read as the value, with or without gaps behind its
commas and colons.
-/

namespace LetletmeData.Library

/-! ### Texts -/

mutual

/-- The text of a value, with a gap behind every comma and colon. -/
def Json.chars (gap : List Char) : Json → List Char
  | .null => "null".toList
  | .bool true => "true".toList
  | .bool false => "false".toList
  | .number text => text.toList
  | .string value => quoted value
  | .array [] => "[]".toList
  | .array (item :: items) => '[' :: (item.chars gap ++ laterItems gap items)
  | .object [] => "\x7b\x7d".toList
  | .object (field :: fields) => '{' :: (fieldChars gap field ++ laterFields gap fields)

/-- The items of an array behind the first, up to its end. -/
def laterItems (gap : List Char) : List Json → List Char
  | [] => [']']
  | item :: items => ',' :: (gap ++ (item.chars gap ++ laterItems gap items))

/-- The fields of an object behind the first, up to its end. -/
def laterFields (gap : List Char) : List (String × Json) → List Char
  | [] => ['}']
  | field :: fields => ',' :: (gap ++ (fieldChars gap field ++ laterFields gap fields))

/-- A field of an object. -/
def fieldChars (gap : List Char) : String × Json → List Char
  | (name, value) => quoted name ++ ':' :: (gap ++ value.chars gap)

end

/-- The text of a value. -/
def Json.text (gap : List Char) (value : Json) : String := String.ofList (value.chars gap)

/-! ### Numbers -/

/-- Digits that begin with a zero only if they are nothing else. -/
def isWholePart (digits : List Char) : Bool :=
  digits = ['0'] || (isDigits digits && digits.head? ≠ some '0')

/-- An exponent, or nothing. -/
def isExponentPart : List Char → Bool
  | [] => true
  | mark :: rest => (mark = 'e' || mark = 'E') && (readExponent rest).isSome

/-- A JSON number without a sign. -/
def isUnsignedJsonNumber (chars : List Char) : Bool :=
  isWholePart (chars.takeWhile Char.isDigit) &&
    match chars.dropWhile Char.isDigit with
    | [] => true
    | c :: rest =>
      if c = '.' then
        rest.takeWhile Char.isDigit ≠ [] && isExponentPart (rest.dropWhile Char.isDigit)
      else isExponentPart (c :: rest)

/-- A JSON number. -/
def isJsonNumber : List Char → Bool
  | [] => false
  | c :: rest => if c = '-' then isUnsignedJsonNumber rest else isUnsignedJsonNumber (c :: rest)

/-- Characters of numbers. -/
def isNumberChar (c : Char) : Bool :=
  c.isDigit || c = '-' || c = '+' || c = '.' || c = 'e' || c = 'E'

/-! ### Strings -/

/-- The unit of a short escape. -/
def shortUnit (letter : Char) : Option ℕ :=
  if letter = '"' then some 0x22
  else if letter = '\\' then some 0x5C
  else if letter = '/' then some 0x2F
  else if letter = 'b' then some 0x08
  else if letter = 'f' then some 0x0C
  else if letter = 'n' then some 0x0A
  else if letter = 'r' then some 0x0D
  else if letter = 't' then some 0x09
  else none

/-- The unit of four hexadecimal digits. -/
def hexUnit (digits : List Char) : Option ℕ :=
  (digits.mapM (radixDigit 16)).map fun values =>
    values.foldl (fun value digit => 16 * value + digit) 0

/-- Units in front of what is read behind them. -/
def prependUnits (units : List ℕ) (read : List ℕ × List Char) : List ℕ × List Char :=
  (units ++ read.1, read.2)

/-- The units of a string up to its closing quotation mark, and what follows. -/
def readUnits : List Char → Option (List ℕ × List Char)
  | [] => none
  | c :: rest =>
    if c = '"' then some ([], rest)
    else if c = '\\' then
      match rest with
      | [] => none
      | letter :: rest =>
        if letter = 'u' then
          match rest with
          | first :: second :: third :: fourth :: rest =>
            (hexUnit [first, second, third, fourth]).bind fun unit =>
              (readUnits rest).map (prependUnits [unit])
          | _ => none
        else (shortUnit letter).bind fun unit => (readUnits rest).map (prependUnits [unit])
    else if c.toNat < 32 then none
    else (readUnits rest).map (prependUnits (charUnits c))

/-- A string up to its closing quotation mark, and what follows. -/
def readString (chars : List Char) : Option (String × List Char) :=
  (readUnits chars).map fun (units, rest) => (String.ofList (decodeUnits units), rest)

/-! ### Values -/

/-- White space between tokens. -/
def isJsonSpace (c : Char) : Bool := c = ' ' || c = '\t' || c = '\n' || c = '\r'

/-- What follows white space. -/
def skipSpaces (chars : List Char) : List Char := chars.dropWhile isJsonSpace

/-- What follows a word. -/
def readWord (word chars : List Char) : Option (List Char) :=
  if word.isPrefixOf chars then some (chars.drop word.length) else none

/-- A value without items or fields, and what follows. -/
def readScalar (chars : List Char) : Option (Json × List Char) :=
  match readWord "null".toList chars, readWord "true".toList chars,
      readWord "false".toList chars with
  | some rest, _, _ => some (.null, rest)
  | _, some rest, _ => some (.bool true, rest)
  | _, _, some rest => some (.bool false, rest)
  | _, _, _ =>
    let number := chars.takeWhile isNumberChar
    if isJsonNumber number then
      some (.number (String.ofList number), chars.dropWhile isNumberChar)
    else none

/-- What follows a character behind white space. -/
def readMark (mark : Char) (chars : List Char) : Option (List Char) :=
  match skipSpaces chars with
  | [] => none
  | c :: rest => if c = mark then some rest else none

mutual

/-- A value behind white space, and what follows. -/
def readValue : ℕ → List Char → Option (Json × List Char)
  | 0, _ => none
  | fuel + 1, chars =>
    match skipSpaces chars with
    | [] => none
    | c :: rest =>
      if c = '"' then (readString rest).map fun (value, rest) => (.string value, rest)
      else if c = '[' then
        match readMark ']' rest with
        | some rest => some (.array [], rest)
        | none => do
          let (item, rest) ← readValue fuel rest
          let (items, rest) ← readLaterItems fuel rest
          return (.array (item :: items), rest)
      else if c = '{' then
        match readMark '}' rest with
        | some rest => some (.object [], rest)
        | none => do
          let (field, rest) ← readField fuel rest
          let (fields, rest) ← readLaterFields fuel rest
          return (.object (field :: fields), rest)
      else readScalar (c :: rest)

/-- The items of an array behind the first, and what follows the array. -/
def readLaterItems : ℕ → List Char → Option (List Json × List Char)
  | 0, _ => none
  | fuel + 1, chars =>
    match readMark ']' chars with
    | some rest => some ([], rest)
    | none => do
      let rest ← readMark ',' chars
      let (item, rest) ← readValue fuel rest
      let (items, rest) ← readLaterItems fuel rest
      return (item :: items, rest)

/-- The fields of an object behind the first, and what follows the object. -/
def readLaterFields : ℕ → List Char → Option (List (String × Json) × List Char)
  | 0, _ => none
  | fuel + 1, chars =>
    match readMark '}' chars with
    | some rest => some ([], rest)
    | none => do
      let rest ← readMark ',' chars
      let (field, rest) ← readField fuel rest
      let (fields, rest) ← readLaterFields fuel rest
      return (field :: fields, rest)

/-- A field, and what follows. -/
def readField : ℕ → List Char → Option ((String × Json) × List Char)
  | 0, _ => none
  | fuel + 1, chars => do
    let rest ← readMark '"' chars
    let (name, rest) ← readString rest
    let rest ← readMark ':' rest
    let (value, rest) ← readValue fuel rest
    return ((name, value), rest)

end

/-- The value that a text writes. Every step consumes a character. -/
def readJson (text : String) : Option Json :=
  match readValue text.toList.length text.toList with
  | some (value, rest) => if skipSpaces rest = [] then some value else none
  | none => none

example : (readJson "[1, \x7b\"a\": \"\\u00e9\" \x7d]").isSome = true := by decide +kernel

/-- A value whose numbers are written as numbers. -/
inductive Json.WellFormed : Json → Prop where
  | null : WellFormed .null
  | bool (value : Bool) : WellFormed (.bool value)
  | number {text : String} (valid : isJsonNumber text.toList = true)
      (chars : ∀ c ∈ text.toList, isNumberChar c = true) : WellFormed (.number text)
  | string (value : String) : WellFormed (.string value)
  | array {items : List Json} (h : ∀ item ∈ items, item.WellFormed) : WellFormed (.array items)
  | object {fields : List (String × Json)} (h : ∀ field ∈ fields, field.2.WellFormed) :
      WellFormed (.object fields)

/-! ### Printed numbers -/

/-- A literal without a zero in front is a JSON number. -/
theorem LiteralParts.isUnsignedJsonNumber_chars {parts : LiteralParts} (h : parts.WellFormed)
    (hwhole : isWholePart parts.whole = true) : isUnsignedJsonNumber parts.chars = true := by
  have hdigits := h.whole
  simp only [isDigits, Bool.and_eq_true, decide_eq_true_eq, List.all_eq_true] at hdigits
  obtain ⟨htake, hdrop⟩ := takeWhile_digits hdigits.2 parts.head_behind
  have hexponent : isExponentPart parts.markedExponent = true := by
    unfold markedExponent
    split
    · rfl
    · simp [isExponentPart, readExponent_exponentChars]
  unfold isUnsignedJsonNumber
  rw [chars, htake, hdrop, hwhole, Bool.true_and]
  by_cases hfraction : parts.fraction = []
  · rw [fractionChars, if_pos hfraction, List.nil_append]
    cases hmarked : parts.markedExponent with
    | nil => rfl
    | cons c rest =>
      rw [hmarked] at hexponent
      have hc := (parts.head_markedExponent c (by rw [hmarked]; rfl)).2
      simp only [hc, if_false, hexponent]
  · obtain ⟨htake, hdrop⟩ := takeWhile_digits h.fraction
      fun c hc => (parts.head_markedExponent c hc).1
    rw [fractionChars, if_neg hfraction]
    simp only [List.cons_append, htake, hdrop, if_true, hexponent, Bool.and_true]
    simpa using hfraction

/-- A literal has the characters of numbers only. -/
theorem LiteralParts.isNumberChar_of_mem {parts : LiteralParts} (h : parts.WellFormed) {c : Char}
    (hc : c ∈ parts.chars) : isNumberChar c = true := by
  have hdigits := h.whole
  simp only [isDigits, Bool.and_eq_true, decide_eq_true_eq, List.all_eq_true] at hdigits
  have hdigit : ∀ c : Char, c.isDigit = true → isNumberChar c = true := fun c hc => by
    simp [isNumberChar, hc]
  rcases List.mem_append.mp hc with hc | hc
  · exact hdigit c (hdigits.2 c hc)
  rcases List.mem_append.mp hc with hc | hc
  · unfold fractionChars at hc
    split at hc
    · exact absurd hc List.not_mem_nil
    · rcases List.mem_cons.mp hc with rfl | hc
      · rfl
      · exact hdigit c (h.fraction c hc)
  · unfold markedExponent exponentChars at hc
    split at hc
    · exact absurd hc List.not_mem_nil
    · simp only [List.mem_cons] at hc
      rcases hc with rfl | rfl | hc
      · rfl
      · split <;> rfl
      · exact hdigit c (Nat.isDigit_of_mem_toDigits (by omega) (Nat.le_refl 10) hc)

/-- No zero is printed in front of a number. -/
theorem head_toDigits {number : ℕ} (h : 0 < number) :
    (Nat.toDigits 10 number).head? ≠ some '0' := by
  induction number using Nat.strong_induction_on with
  | _ number ih =>
    rcases Nat.lt_or_ge number 10 with hsmall | hlarge
    · have hall : ∀ number < 10, 0 < number → (Nat.toDigits 10 number).head? ≠ some '0' := by decide
      exact hall number hsmall h
    · have hsplit := Nat.toDigits_append_toDigits (b := 10) (n := number / 10) (d := number % 10)
        (by omega) (by omega) (by omega)
      rw [Nat.div_add_mod] at hsplit
      rw [← hsplit,
        List.head?_append_of_ne_nil _ (List.ne_nil_of_length_pos Nat.length_toDigits_pos)]
      exact ih (number / 10) (by omega) (by omega)

namespace Decimal

/-- Digits of a number other than zero do not begin with a zero. -/
theorem isWholePart_of_prefix {number : Decimal} (h : number.mantissa ≠ 0) {whole : List Char}
    (hdigits : isDigits whole = true) (hhead : whole.head? = number.digits.head?) :
    isWholePart whole = true := by
  have hzero := head_toDigits (Nat.pos_of_ne_zero h)
  rw [isWholePart, hdigits, hhead, Bool.true_and, Bool.or_eq_true]
  exact Or.inr (decide_eq_true hzero)

/-- The number zero is printed with one digit. -/
theorem digits_of_zero {number : Decimal} (h : number.mantissa = 0) :
    number.digits = ['0'] ∧ number.point = 1 := by
  have hexponent := (number.normal (by rw [h])).2.2
  have hdigits : number.digits = ['0'] := by rw [digits, h]; rfl
  exact ⟨hdigits, by rw [point, hdigits, hexponent]; rfl⟩

/-- The first digits of a number begin as all of them do. -/
theorem head?_take_digits (number : Decimal) {places : ℕ} (h : 0 < places) :
    (number.digits.take places).head? = number.digits.head? := by
  rw [List.head?_take, if_neg (by omega)]

/-- No zero stands in front of digits that are written out. -/
theorem isWholePart_plainParts (number : Decimal) : isWholePart number.plainParts.whole = true := by
  have hdigits := number.plainParts_wellFormed.whole
  by_cases hzero : number.mantissa = 0
  · obtain ⟨hdigits, hpoint⟩ := digits_of_zero hzero
    simp [plainParts, hdigits, hpoint, isWholePart]
  · unfold plainParts at hdigits ⊢
    split_ifs at hdigits ⊢ with hfilled hsplit
    · exact isWholePart_of_prefix hzero hdigits (List.head?_append_of_ne_nil _
        (List.ne_nil_of_length_pos number.length_digits_pos))
    · exact isWholePart_of_prefix hzero hdigits (number.head?_take_digits (by omega))
    · rfl

/-- No zero stands in front of digits with an exponent. -/
theorem isWholePart_exponentParts (number : Decimal) :
    isWholePart number.exponentParts.whole = true := by
  by_cases hzero : number.mantissa = 0
  · simp [exponentParts, (digits_of_zero hzero).1, isWholePart]
  · exact isWholePart_of_prefix hzero number.exponentParts_wellFormed.whole
      (number.head?_take_digits Nat.one_pos)

/-- A literal without a zero in front is a JSON number, with a sign or without. -/
theorem wellFormed_signed (number : Decimal) {parts : LiteralParts} (h : parts.WellFormed)
    (hwhole : isWholePart parts.whole = true) :
    (Json.number (String.ofList (number.signed parts.chars))).WellFormed := by
  have hnumber := LiteralParts.isUnsignedJsonNumber_chars h hwhole
  have hchars := fun c => LiteralParts.isNumberChar_of_mem (c := c) h
  obtain ⟨c, rest, hhead, hdigit⟩ := LiteralParts.head_chars h
  refine .number ?_ ?_
  · rw [String.toList_ofList, signed]
    split
    · exact hnumber
    · rw [hhead] at hnumber ⊢
      have hc : c ≠ '-' := by rintro rfl; exact absurd hdigit (by decide)
      simp only [isJsonNumber, hc, if_false, hnumber]
  · rw [String.toList_ofList, signed]
    split
    · exact List.forall_mem_cons.mpr ⟨rfl, hchars⟩
    · exact hchars

/-- The text of a number is a JSON number. -/
theorem wellFormed_text (number : Decimal) : (Json.number number.text).WellFormed := by
  refine wellFormed_signed number number.parts_wellFormed ?_
  unfold parts
  split
  · exact number.isWholePart_plainParts
  · exact number.isWholePart_exponentParts

/-- The text of a number without an exponent is a JSON number. -/
theorem wellFormed_plainText (number : Decimal) : (Json.number number.plainText).WellFormed :=
  wellFormed_signed number number.plainParts_wellFormed number.isWholePart_plainParts

end Decimal

/-! ### Texts are read as what they are of -/

/-- A property of all values is one that arrays and objects have of their parts. -/
theorem Json.induct {motive : Json → Prop} (null : motive .null)
    (bool : ∀ value, motive (.bool value)) (number : ∀ text, motive (.number text))
    (string : ∀ value, motive (.string value))
    (array : ∀ items, (∀ item ∈ items, motive item) → motive (.array items))
    (object : ∀ fields, (∀ field ∈ fields, motive field.2) → motive (.object fields))
    (value : Json) : motive value :=
  @Json.rec motive (fun items => ∀ item ∈ items, motive item)
    (fun fields => ∀ field ∈ fields, motive field.2) (fun field => motive field.2)
    null bool number string array object (fun _ h => absurd h List.not_mem_nil)
    (fun _ _ hitem hitems => List.forall_mem_cons.mpr ⟨hitem, hitems⟩)
    (fun _ h => absurd h List.not_mem_nil)
    (fun _ _ hfield hfields => List.forall_mem_cons.mpr ⟨hfield, hfields⟩) (fun _ _ h => h) value

/-- The digits of a control character are read as its unit. -/
theorem hexUnit_control {number : ℕ} (h : number < 32) :
    hexUnit ['0', '0', Nat.digitChar (number / 16), Nat.digitChar (number % 16)] = some number := by
  have hall : ∀ number < 32, hexUnit ['0', '0', Nat.digitChar (number / 16),
      Nat.digitChar (number % 16)] = some number := by decide
  exact hall number h

/-- The letter of a short escape is read as the unit of the character. -/
theorem shortUnit_shortEscape {c letter : Char} (h : shortEscape c = some letter) :
    shortUnit letter = some c.toNat ∧ c.toNat < 0x10000 := by
  unfold shortEscape at h
  split_ifs at h <;> cases h <;> subst c <;> decide

/-- A quotation mark closes a string. -/
theorem readUnits_quote (rest : List Char) : readUnits ('"' :: rest) = some ([], rest) := by
  rw [readUnits.eq_def]
  exact if_pos rfl

/-- An escaped character is read as its units. -/
theorem readUnits_escapeChar (c : Char) (rest : List Char) :
    readUnits (escapeChar c ++ rest) = (readUnits rest).map (prependUnits (charUnits c)) := by
  unfold escapeChar
  cases hshort : shortEscape c with
  | some letter =>
    obtain ⟨hunit, hsmall⟩ := shortUnit_shortEscape hshort
    have hletter := shortEscape_ne hshort
    rw [List.cons_append, List.cons_append, List.nil_append, readUnits.eq_def, charUnits,
      if_pos hsmall]
    simp [hletter, hunit]
  | none =>
    obtain ⟨hbackslash, hquote⟩ := ne_of_shortEscape_none hshort
    dsimp only
    split
    next hcontrol =>
      have hsmall : c.toNat < 0x10000 := lt_trans hcontrol (by decide)
      simp only [List.cons_append, List.nil_append]
      rw [readUnits.eq_def, charUnits, if_pos hsmall]
      simp [hexUnit_control hcontrol]
    next hplain =>
      rw [List.cons_append, List.nil_append, readUnits.eq_def]
      simp [hquote, hbackslash, hplain]

/-- A quoted string is read as the string. -/
theorem readString_quoted (value : String) (rest : List Char) :
    readString ((value.toList.flatMap escapeChar ++ ['"']) ++ rest) = some (value, rest) := by
  have hunits : ∀ chars : List Char, readUnits ((chars.flatMap escapeChar ++ ['"']) ++ rest) =
      some (chars.flatMap charUnits, rest) := by
    intro chars
    induction chars with
    | nil => exact readUnits_quote rest
    | cons c chars ih =>
      rw [List.flatMap_cons, List.append_assoc, List.append_assoc, readUnits_escapeChar,
        ← List.append_assoc, ih]
      rfl
  rw [readString, hunits, Option.map_some]
  simp only [decodeUnits_charUnits, String.ofList_toList]

/-- White space in front of a character is skipped. -/
theorem skipSpaces_append {gap : List Char} (hgap : ∀ c ∈ gap, isJsonSpace c = true)
    (chars : List Char) : skipSpaces (gap ++ chars) = skipSpaces chars :=
  List.dropWhile_append_of_pos hgap

/-- Other characters than white space are not skipped. -/
theorem skipSpaces_cons {c : Char} (hc : isJsonSpace c = false) (chars : List Char) :
    skipSpaces (c :: chars) = c :: chars := List.dropWhile_cons_of_neg (by simp [hc])

/-- A mark is read. -/
theorem readMark_cons {mark : Char} (hmark : isJsonSpace mark = false) (rest : List Char) :
    readMark mark (mark :: rest) = some rest := by
  rw [readMark, skipSpaces_cons hmark]
  exact if_pos rfl

/-- Another character is not taken for a mark. -/
theorem readMark_cons_of_ne {mark c : Char} (hc : isJsonSpace c = false) (hne : c ≠ mark)
    (rest : List Char) : readMark mark (c :: rest) = none := by
  rw [readMark, skipSpaces_cons hc]
  exact if_neg hne

/-- White space in front of a value is skipped. -/
theorem readValue_gap {gap : List Char} (hgap : ∀ c ∈ gap, isJsonSpace c = true) (fuel : ℕ)
    (chars : List Char) : readValue fuel (gap ++ chars) = readValue fuel chars := by
  cases fuel with
  | zero => rw [readValue, readValue]
  | succ fuel => rw [readValue, readValue, skipSpaces_append hgap]

/-- White space in front of a field is skipped. -/
theorem readField_gap {gap : List Char} (hgap : ∀ c ∈ gap, isJsonSpace c = true) (fuel : ℕ)
    (chars : List Char) : readField fuel (gap ++ chars) = readField fuel chars := by
  cases fuel with
  | zero => rw [readField, readField]
  | succ fuel => rw [readField, readField, readMark, readMark, skipSpaces_append hgap]

/-- Whether a value is read from its text, whatever follows. -/
def Json.Reads (gap : List Char) (value : Json) : Prop :=
  ∀ fuel rest, (value.chars gap).length ≤ fuel → (∀ c ∈ rest.head?, isNumberChar c = false) →
    readValue fuel (value.chars gap ++ rest) = some (value, rest)

/-- A well-formed value begins with neither white space nor a closing bracket. -/
theorem Json.WellFormed.head {value : Json} (h : value.WellFormed) (gap : List Char) :
    ∃ c rest, value.chars gap = c :: rest ∧ isJsonSpace c = false ∧ c ≠ ']' := by
  cases h with
  | null => exact ⟨_, _, rfl, by decide, by decide⟩
  | bool value => cases value <;> exact ⟨_, _, rfl, by decide, by decide⟩
  | @number text valid chars =>
    rw [Json.chars]
    cases htext : text.toList with
    | nil => rw [htext] at valid; exact absurd valid (by decide)
    | cons c rest =>
      have hc := chars c (htext ▸ List.mem_cons_self)
      refine ⟨c, rest, rfl, ?_, ?_⟩
      · rw [Bool.eq_false_iff]
        intro hspace
        simp only [isJsonSpace, Bool.or_eq_true, decide_eq_true_eq] at hspace
        rcases hspace with ((rfl | rfl) | rfl) | rfl <;> exact absurd hc (by decide)
      · rintro rfl
        exact absurd hc (by decide)
  | string value => exact ⟨_, _, rfl, by decide, by decide⟩
  | @array items _ => cases items <;> exact ⟨_, _, rfl, by decide, by decide⟩
  | @object fields _ => cases fields <;> exact ⟨_, _, rfl, by decide, by decide⟩

section Reading

variable {gap : List Char}

/-- A text that is as long as the one of a value is not empty. -/
theorem Json.WellFormed.exists_fuel {value : Json} (h : value.WellFormed) {fuel : ℕ}
    (hfuel : (value.chars gap).length ≤ fuel) : ∃ less, fuel = less + 1 := by
  obtain ⟨c, rest, htext, -, -⟩ := h.head gap
  rw [htext, List.length_cons] at hfuel
  exact ⟨fuel - 1, by omega⟩

/-- The later items of an array are read. -/
theorem readLaterItems_chars (hgap : ∀ c ∈ gap, isJsonSpace c = true) {items : List Json}
    (hitems : ∀ item ∈ items, item.Reads gap) {fuel : ℕ}
    (hfuel : (laterItems gap items).length ≤ fuel) (rest : List Char) :
    readLaterItems fuel (laterItems gap items ++ rest) = some (items, rest) := by
  induction items generalizing fuel with
  | nil =>
    obtain ⟨fuel, rfl⟩ := Nat.exists_eq_add_of_lt (show 0 < fuel from hfuel)
    rw [laterItems, List.cons_append, readLaterItems, readMark_cons (by decide)]
    rfl
  | cons item items ih =>
    obtain ⟨hitem, hitems⟩ := List.forall_mem_cons.mp hitems
    rw [laterItems] at hfuel ⊢
    simp only [List.length_cons, List.length_append] at hfuel
    obtain ⟨fuel, rfl⟩ := Nat.exists_eq_add_of_lt (show 0 < fuel by omega)
    rw [Nat.zero_add] at hfuel ⊢
    have hhead : ∀ c ∈ (laterItems gap items ++ rest).head?, isNumberChar c = false := by
      cases items <;> rw [laterItems] <;> rintro c ⟨⟩ <;> decide
    rw [List.cons_append, readLaterItems, readMark_cons_of_ne (by decide) (by decide),
      readMark_cons (by decide), List.append_assoc, List.append_assoc]
    simp only [Option.bind_eq_bind, Option.bind_some]
    rw [readValue_gap hgap, hitem fuel _ (by omega) hhead]
    simp only [Option.bind_some]
    rw [ih hitems (by omega)]
    rfl

/-- A field is read. -/
theorem readField_chars (hgap : ∀ c ∈ gap, isJsonSpace c = true) {field : String × Json}
    (hfield : field.2.Reads gap) {fuel : ℕ} (hfuel : (fieldChars gap field).length ≤ fuel)
    {rest : List Char} (hrest : ∀ c ∈ rest.head?, isNumberChar c = false) :
    readField fuel (fieldChars gap field ++ rest) = some (field, rest) := by
  obtain ⟨name, value⟩ := field
  have hvalue : value.Reads gap := hfield
  rw [fieldChars, quoted] at hfuel ⊢
  simp only [List.length_cons, List.length_append] at hfuel
  obtain ⟨fuel, rfl⟩ := Nat.exists_eq_add_of_lt (show 0 < fuel by omega)
  rw [Nat.zero_add] at hfuel ⊢
  rw [readField, List.cons_append, List.cons_append, readMark_cons (by decide), List.append_assoc]
  simp only [Option.bind_eq_bind, Option.bind_some]
  rw [readString_quoted]
  simp only [Option.bind_some]
  rw [List.cons_append, readMark_cons (by decide), List.append_assoc]
  simp only [Option.bind_some]
  rw [readValue_gap hgap, hvalue fuel rest (by omega) hrest]
  rfl

/-- The later fields of an object are read. -/
theorem readLaterFields_chars (hgap : ∀ c ∈ gap, isJsonSpace c = true)
    {fields : List (String × Json)} (hfields : ∀ field ∈ fields, field.2.Reads gap) {fuel : ℕ}
    (hfuel : (laterFields gap fields).length ≤ fuel) (rest : List Char) :
    readLaterFields fuel (laterFields gap fields ++ rest) = some (fields, rest) := by
  induction fields generalizing fuel with
  | nil =>
    obtain ⟨fuel, rfl⟩ := Nat.exists_eq_add_of_lt (show 0 < fuel from hfuel)
    rw [laterFields, List.cons_append, readLaterFields, readMark_cons (by decide)]
    rfl
  | cons field fields ih =>
    obtain ⟨hfield, hfields⟩ := List.forall_mem_cons.mp hfields
    rw [laterFields] at hfuel ⊢
    simp only [List.length_cons, List.length_append] at hfuel
    obtain ⟨fuel, rfl⟩ := Nat.exists_eq_add_of_lt (show 0 < fuel by omega)
    rw [Nat.zero_add] at hfuel ⊢
    have hhead : ∀ c ∈ (laterFields gap fields ++ rest).head?, isNumberChar c = false := by
      cases fields <;> rw [laterFields] <;> rintro c ⟨⟩ <;> decide
    rw [List.cons_append, readLaterFields, readMark_cons_of_ne (by decide) (by decide),
      readMark_cons (by decide), List.append_assoc, List.append_assoc]
    simp only [Option.bind_eq_bind, Option.bind_some]
    rw [readField_gap hgap, readField_chars hgap hfield (by omega) hhead]
    simp only [Option.bind_some]
    rw [ih hfields (by omega)]
    rfl

/-- A text that begins with another character is not taken for a word. -/
theorem readWord_of_ne {c d : Char} (hne : c ≠ d) (word rest : List Char) :
    readWord (d :: word) (c :: rest) = none := by
  rw [readWord, if_neg]
  intro hprefix
  exact hne (List.cons_prefix_cons.mp (List.isPrefixOf_iff_prefix.mp hprefix)).1.symm

/-- A written number is read. -/
theorem readScalar_number {text : String} (valid : isJsonNumber text.toList = true)
    (chars : ∀ c ∈ text.toList, isNumberChar c = true) {rest : List Char}
    (hrest : ∀ c ∈ rest.head?, isNumberChar c = false) :
    readScalar (text.toList ++ rest) = some (.number text, rest) := by
  have htake : (text.toList ++ rest).takeWhile isNumberChar = text.toList ∧
      (text.toList ++ rest).dropWhile isNumberChar = rest := by
    rw [List.takeWhile_append_of_pos chars, List.dropWhile_append_of_pos chars]
    cases rest with
    | nil => exact ⟨List.append_nil _, rfl⟩
    | cons c rest =>
      have hc := hrest c rfl
      rw [List.takeWhile_cons_of_neg (by simp [hc]), List.dropWhile_cons_of_neg (by simp [hc])]
      exact ⟨List.append_nil _, rfl⟩
  have hword : ∀ (first : Char) (word : List Char), isNumberChar first = false →
      readWord (first :: word) (text.toList ++ rest) = none := by
    intro first word hfirst
    cases htext : text.toList with
    | nil => rw [htext] at valid; exact absurd valid (by decide)
    | cons c others =>
      refine readWord_of_ne ?_ word _
      rintro rfl
      have hc := chars c (htext ▸ List.mem_cons_self)
      rw [hc] at hfirst
      exact absurd hfirst.symm Bool.false_ne_true
  have hnull : readWord "null".toList (text.toList ++ rest) = none := hword 'n' _ rfl
  have htrue : readWord "true".toList (text.toList ++ rest) = none := hword 't' _ rfl
  have hfalse : readWord "false".toList (text.toList ++ rest) = none := hword 'f' _ rfl
  rw [readScalar, hnull, htrue, hfalse]
  simp only [htake.1, htake.2, valid, if_true, String.ofList_toList]

/-- A well-formed value is read from its text. -/
theorem Json.WellFormed.reads (hgap : ∀ c ∈ gap, isJsonSpace c = true) {value : Json}
    (h : value.WellFormed) : value.Reads gap := by
  induction h with
  | null =>
    intro fuel rest hfuel hrest
    obtain ⟨fuel, rfl⟩ := Json.WellFormed.null.exists_fuel hfuel
    rfl
  | bool value =>
    intro fuel rest hfuel hrest
    obtain ⟨fuel, rfl⟩ := (Json.WellFormed.bool value).exists_fuel hfuel
    cases value <;> rfl
  | @number text valid chars =>
    intro fuel rest hfuel hrest
    obtain ⟨c, others, htext, hspace, -⟩ := (Json.WellFormed.number valid chars).head gap
    obtain ⟨fuel, rfl⟩ := (Json.WellFormed.number valid chars).exists_fuel hfuel
    rw [Json.chars] at htext ⊢
    have hc := chars c (htext ▸ List.mem_cons_self)
    have hread := readScalar_number valid chars hrest
    have hne : c ≠ '"' ∧ c ≠ '[' ∧ c ≠ '{' := by
      refine ⟨?_, ?_, ?_⟩ <;> rintro rfl <;> exact absurd hc (by decide)
    rw [htext, List.cons_append] at hread ⊢
    rw [readValue, skipSpaces_cons hspace]
    simp only [hne.1, hne.2.1, hne.2.2, if_false]
    exact hread
  | string value =>
    intro fuel rest hfuel hrest
    obtain ⟨fuel, rfl⟩ := (Json.WellFormed.string value).exists_fuel hfuel
    rw [Json.chars, quoted, List.cons_append, readValue, skipSpaces_cons (by decide)]
    simp only [if_true, readString_quoted, Option.map_some]
  | @array items hitems ih =>
    intro fuel rest hfuel hrest
    obtain ⟨fuel, rfl⟩ := (Json.WellFormed.array hitems).exists_fuel hfuel
    cases items with
    | nil => rfl
    | cons item items =>
      rw [Json.chars] at hfuel ⊢
      simp only [List.length_cons, List.length_append] at hfuel
      obtain ⟨hitem, hlater⟩ := List.forall_mem_cons.mp ih
      obtain ⟨c, others, htext, hspace, hclose⟩ := (hitems item List.mem_cons_self).head gap
      have hhead : ∀ c ∈ (laterItems gap items ++ rest).head?, isNumberChar c = false := by
        cases items <;> rw [laterItems] <;> rintro c ⟨⟩ <;> decide
      have hopen : readMark ']' (item.chars gap ++ (laterItems gap items ++ rest)) = none := by
        rw [htext]
        exact readMark_cons_of_ne hspace hclose _
      rw [List.cons_append, List.append_assoc, readValue, skipSpaces_cons (by decide)]
      simp only [hopen, Char.reduceEq, if_false, if_true, Option.bind_eq_bind]
      rw [hitem fuel _ (by omega) hhead, Option.bind_some]
      simp only [readLaterItems_chars hgap hlater (by omega : (laterItems gap items).length ≤ fuel),
        Option.bind_some]
      rfl
  | @object fields hfields ih =>
    intro fuel rest hfuel hrest
    obtain ⟨fuel, rfl⟩ := (Json.WellFormed.object hfields).exists_fuel hfuel
    cases fields with
    | nil => rfl
    | cons field fields =>
      rw [Json.chars] at hfuel ⊢
      simp only [List.length_cons, List.length_append] at hfuel
      obtain ⟨hfield, hlater⟩ := List.forall_mem_cons.mp ih
      have hhead : ∀ c ∈ (laterFields gap fields ++ rest).head?, isNumberChar c = false := by
        cases fields <;> rw [laterFields] <;> rintro c ⟨⟩ <;> decide
      have hopen :
          readMark '}' (fieldChars gap field ++ (laterFields gap fields ++ rest)) = none := by
        rw [fieldChars, quoted, List.cons_append, List.cons_append]
        exact readMark_cons_of_ne (by decide) (by decide) _
      rw [List.cons_append, List.append_assoc, readValue, skipSpaces_cons (by decide)]
      simp only [hopen, Char.reduceEq, if_false, if_true, Option.bind_eq_bind]
      rw [readField_chars hgap hfield (by omega) hhead, Option.bind_some]
      simp only [readLaterFields_chars hgap hlater
        (by omega : (laterFields gap fields).length ≤ fuel), Option.bind_some]
      rfl

/-- The text of a value is read as the value. -/
theorem readJson_text (hgap : ∀ c ∈ gap, isJsonSpace c = true) {value : Json}
    (h : value.WellFormed) : readJson (value.text gap) = some value := by
  have hread := h.reads hgap (value.chars gap).length [] le_rfl (by simp)
  rw [List.append_nil] at hread
  rw [readJson, Json.text, String.toList_ofList, hread]
  rfl

/-- The text of a value identifies it. -/
theorem Json.text_injective (hgap : ∀ c ∈ gap, isJsonSpace c = true) {left right : Json}
    (hleft : left.WellFormed) (hright : right.WellFormed) (h : left.text gap = right.text gap) :
    left = right := by
  have hread := readJson_text hgap hleft
  rw [h, readJson_text hgap hright] at hread
  exact (Option.some.inj hread).symm

end Reading

end LetletmeData.Library
