import Mathlib.Data.List.Sort
import Mathlib.Data.Nat.Notation
import Mathlib.Data.String.Basic
import Mathlib.Tactic.Common
import LetletmeData.Library.Texts

/-!
# JSON texts

Texts that identify the value they were written of.
-/

namespace LetletmeData.Library

/-! ## Canonical JSON texts

The text of a list of flat records whose field names are fixed: scalars, then fields, then the list.
No scalar contains a comma or a closing brace, so every part of a text ends where the next one
begins, and the text identifies the records.
-/

/-- A value without structure. -/
inductive JsonScalar where
  | null
  | bool (value : Bool)
  | number (value : ℕ)
  deriving DecidableEq

/-- The characters of a scalar. -/
def JsonScalar.chars : JsonScalar → List Char
  | null => "null".toList
  | bool true => "true".toList
  | bool false => "false".toList
  | number value => Nat.toDigits 10 value

/-- `"name":`. -/
def jsonKey (name : String) : List Char := '"' :: (name.toList ++ ['"', ':'])

/-- The fields of a record up to its closing brace. -/
def jsonFields : List String → List JsonScalar → List Char
  | name :: names, value :: values =>
    jsonKey name ++ (value.chars ++
      match names, values with
      | [], _ => ['}']
      | _, [] => ['}']
      | _, _ => ',' :: jsonFields names values)
  | _, _ => ['}']

/-- A field that others follow. -/
theorem jsonFields_cons_cons (name second : String) (names : List String)
    (value next : JsonScalar) (values : List JsonScalar) :
    jsonFields (name :: second :: names) (value :: next :: values) =
      jsonKey name ++ (value.chars ++ ',' :: jsonFields (second :: names) (next :: values)) :=
  rfl

/-- The text of a record. -/
def jsonRecord (names : List String) (values : List JsonScalar) : List Char :=
  '{' :: jsonFields names values

/-- The rest of a list after an item. -/
def jsonTail (item : List JsonScalar → List Char) : List (List JsonScalar) → List Char
  | [] => [']']
  | values :: rest => ',' :: (item values ++ jsonTail item rest)

/-- The text of a list of records. -/
def jsonRecords (names : List String) : List (List JsonScalar) → String
  | [] => "[]"
  | values :: rest =>
    String.ofList ('[' :: (jsonRecord names values ++ jsonTail (jsonRecord names) rest))

/-- What ends a scalar is not part of it. -/
theorem JsonScalar.not_mem_chars {c : Char} (hc : c = ',' ∨ c = '}') (value : JsonScalar) :
    c ∉ value.chars := by
  have hdigit : c.isDigit = false := by cases hc <;> subst c <;> rfl
  cases value with
  | null => cases hc <;> subst c <;> decide
  | bool value => cases value <;> cases hc <;> subst c <;> decide
  | number value => exact not_mem_toDigits hdigit value

/-- A number is not written with letters. -/
theorem toDigits_ne_of_mem {c : Char} (hc : c.isDigit = false) {text : List Char} (hmem : c ∈ text)
    (value : ℕ) : Nat.toDigits 10 value ≠ text :=
  fun h => not_mem_toDigits hc value (h ▸ hmem)

/-- The characters of a scalar identify it. -/
theorem JsonScalar.chars_injective : Function.Injective JsonScalar.chars := by
  intro left right h
  cases left with
  | null =>
    cases right with
    | null => rfl
    | bool value => cases value <;> exact absurd h (by decide)
    | number value => exact absurd h.symm (toDigits_ne_of_mem (c := 'n') rfl (by decide) value)
  | bool left =>
    cases right with
    | null => cases left <;> exact absurd h (by decide)
    | bool right => cases left <;> cases right <;> first | rfl | exact absurd h (by decide)
    | number value =>
      cases left <;> exact absurd h.symm (toDigits_ne_of_mem (c := 'e') rfl (by decide) value)
  | number left =>
    cases right with
    | null => exact absurd h (toDigits_ne_of_mem (c := 'n') rfl (by decide) left)
    | bool value =>
      cases value <;> exact absurd h (toDigits_ne_of_mem (c := 'e') rfl (by decide) left)
    | number right => exact congrArg JsonScalar.number (toDigits_ten_injective h)

/-- A scalar ends where its delimiter stands. -/
theorem JsonScalar.append_injective {c : Char} (hc : c = ',' ∨ c = '}') {left right : JsonScalar}
    {leftRest rightRest : List Char}
    (h : left.chars ++ c :: leftRest = right.chars ++ c :: rightRest) :
    left = right ∧ leftRest = rightRest := by
  obtain ⟨hchars, hrest⟩ :=
    append_cons_injective (left.not_mem_chars hc) (right.not_mem_chars hc) h
  exact ⟨JsonScalar.chars_injective hchars, hrest⟩

/-- The fields of records with the same names end where they agree. -/
theorem jsonFields_append_injective (names : List String) {left right : List JsonScalar}
    (hleft : left.length = names.length) (hright : right.length = names.length)
    {leftRest rightRest : List Char}
    (h : jsonFields names left ++ leftRest = jsonFields names right ++ rightRest) :
    left = right ∧ leftRest = rightRest := by
  induction names generalizing left right with
  | nil =>
    rw [List.length_nil, List.length_eq_zero_iff] at hleft hright
    subst hleft hright
    exact ⟨rfl, (List.cons.inj h).2⟩
  | cons name names ih =>
    match left, right, hleft, hright with
    | value :: left, other :: right, hleft, hright =>
      simp only [List.length_cons, Nat.add_right_cancel_iff] at hleft hright
      cases names with
      | nil =>
        rw [List.length_nil, List.length_eq_zero_iff] at hleft hright
        subst hleft hright
        simp only [jsonFields, List.append_assoc, List.append_cancel_left_eq, List.cons_append,
          List.nil_append] at h
        obtain ⟨hvalue, hrest⟩ := JsonScalar.append_injective (Or.inr rfl) h
        exact ⟨by rw [hvalue], hrest⟩
      | cons second names =>
        match left, right, hleft, hright with
        | value' :: left, other' :: right, hleft, hright =>
          simp only [jsonFields_cons_cons, List.append_assoc, List.append_cancel_left_eq,
            List.cons_append] at h
          obtain ⟨hvalue, hrest⟩ := JsonScalar.append_injective (Or.inl rfl) h
          obtain ⟨hvalues, hrest'⟩ := ih hleft hright hrest
          exact ⟨by rw [hvalue, hvalues], hrest'⟩

/-- A record ends where its text does. -/
theorem jsonRecord_append_injective (names : List String) {left right : List JsonScalar}
    (hleft : left.length = names.length) (hright : right.length = names.length)
    {leftRest rightRest : List Char}
    (h : jsonRecord names left ++ leftRest = jsonRecord names right ++ rightRest) :
    left = right ∧ leftRest = rightRest :=
  jsonFields_append_injective names hleft hright (List.cons.inj h).2

/-- The rest of a list identifies its records. -/
theorem jsonTail_injective (names : List String) {left right : List (List JsonScalar)}
    (hleft : ∀ values ∈ left, values.length = names.length)
    (hright : ∀ values ∈ right, values.length = names.length)
    (h : jsonTail (jsonRecord names) left = jsonTail (jsonRecord names) right) : left = right := by
  induction left generalizing right with
  | nil =>
    cases right with
    | nil => rfl
    | cons other right => exact absurd (List.cons.inj h).1 (by decide)
  | cons values left ih =>
    cases right with
    | nil => exact absurd (List.cons.inj h).1 (by decide)
    | cons other right =>
      obtain ⟨hfirst, hrest⟩ := jsonRecord_append_injective names
        (hleft values List.mem_cons_self) (hright other List.mem_cons_self) (List.cons.inj h).2
      rw [hfirst, ih (fun values hmem => hleft values (List.mem_cons_of_mem _ hmem))
        (fun values hmem => hright values (List.mem_cons_of_mem _ hmem)) hrest]

/-- The text of a list of records identifies them. -/
theorem jsonRecords_injective (names : List String) {left right : List (List JsonScalar)}
    (hleft : ∀ values ∈ left, values.length = names.length)
    (hright : ∀ values ∈ right, values.length = names.length)
    (h : jsonRecords names left = jsonRecords names right) : left = right := by
  cases left with
  | nil =>
    cases right with
    | nil => rfl
    | cons other right =>
      have hchars := congrArg String.toList h
      simp only [jsonRecords, String.toList_ofList, jsonRecord] at hchars
      exact absurd (List.cons.inj (List.cons.inj hchars).2).1 (by decide)
  | cons values left =>
    cases right with
    | nil =>
      have hchars := congrArg String.toList h
      simp only [jsonRecords, String.toList_ofList, jsonRecord] at hchars
      exact absurd (List.cons.inj (List.cons.inj hchars).2).1 (by decide)
    | cons other right =>
      have hchars := String.ofList_injective h
      obtain ⟨hfirst, hrest⟩ := jsonRecord_append_injective names
        (hleft values List.mem_cons_self) (hright other List.mem_cons_self)
        (List.cons.inj hchars).2
      rw [hfirst, jsonTail_injective names
        (fun values hmem => hleft values (List.mem_cons_of_mem _ hmem))
        (fun values hmem => hright values (List.mem_cons_of_mem _ hmem)) hrest]

/-! ## Canonical JSON values

The text of a JSON value with the fields of every object in the order of their names. A quoted
string identifies its characters, and objects that differ in the text of one field only have
different texts.
-/

/-- A JSON value; a number stands as it is printed. -/
inductive Json where
  | null
  | bool (value : Bool)
  | number (text : String)
  | string (value : String)
  | array (items : List Json)
  | object (fields : List (String × Json))

/-! ### Quoted strings -/

/-- The letter that follows the backslash in the short escape of a character. -/
def shortEscape (c : Char) : Option Char :=
  if c = '"' then some '"'
  else if c = '\\' then some '\\'
  else if c = '\x08' then some 'b'
  else if c = '\t' then some 't'
  else if c = '\n' then some 'n'
  else if c = '\x0c' then some 'f'
  else if c = '\r' then some 'r'
  else none

/-- A character inside a quoted string. -/
def escapeChar (c : Char) : List Char :=
  match shortEscape c with
  | some letter => ['\\', letter]
  | none =>
    if c.toNat < 32 then
      ['\\', 'u', '0', '0', Nat.digitChar (c.toNat / 16), Nat.digitChar (c.toNat % 16)]
    else [c]

/-- `JSON.stringify` of a string. -/
def quoted (value : String) : List Char :=
  '"' :: (value.toList.flatMap escapeChar ++ ['"'])

/-- No short escape is written with a `u`. -/
theorem shortEscape_ne {c letter : Char} (h : shortEscape c = some letter) : letter ≠ 'u' := by
  unfold shortEscape at h
  split_ifs at h <;> cases h <;> decide

/-- A character without a short escape is neither a backslash nor a quotation mark. -/
theorem ne_of_shortEscape_none {c : Char} (h : shortEscape c = none) : c ≠ '\\' ∧ c ≠ '"' := by
  constructor <;> rintro rfl <;> exact absurd h (by decide)

/-! ### Objects -/

/-- Texts with commas between them. -/
def commaJoined : List (List Char) → List Char
  | [] => []
  | [text] => text
  | text :: second :: rest => text ++ ',' :: commaJoined (second :: rest)

/-- A field of an object. -/
def fieldText (field : String × List Char) : List Char := quoted field.1 ++ ':' :: field.2

/-- The fields of an object in the order of their names. -/
def objectText (fields : List (String × List Char)) : List Char :=
  '{' :: (commaJoined
    ((fields.insertionSort fun left right => left.1 ≤ right.1).map fieldText) ++ ['}'])

mutual

/-- `canonicalJson`. -/
def Json.canonicalChars : Json → List Char
  | .null => "null".toList
  | .bool true => "true".toList
  | .bool false => "false".toList
  | .number text => text.toList
  | .string value => quoted value
  | .array items => '[' :: (commaJoined (canonicalItems items) ++ [']'])
  | .object fields => objectText (canonicalFields fields)

/-- The texts of the items of an array. -/
def canonicalItems : List Json → List (List Char)
  | [] => []
  | item :: rest => item.canonicalChars :: canonicalItems rest

/-- The names of the fields of an object with the texts of their values. -/
def canonicalFields : List (String × Json) → List (String × List Char)
  | [] => []
  | field :: rest => canonicalField field :: canonicalFields rest

/-- The name of a field with the text of its value. -/
def canonicalField : String × Json → String × List Char
  | (name, value) => (name, value.canonicalChars)

end

/-- The text of a value. -/
def Json.canonicalText (value : Json) : String := String.ofList value.canonicalChars

/-- Joined texts without commas of their own are taken apart again. -/
theorem commaJoined_injective {left right : List (List Char)}
    (hleft : ∀ text ∈ left, text ≠ [] ∧ ',' ∉ text)
    (hright : ∀ text ∈ right, text ≠ [] ∧ ',' ∉ text)
    (h : commaJoined left = commaJoined right) : left = right := by
  induction left generalizing right with
  | nil =>
    cases right with
    | nil => rfl
    | cons text rest =>
      cases rest with
      | nil => exact absurd h.symm (hright text List.mem_cons_self).1
      | cons second rest => exact absurd h.symm (by simp [commaJoined])
  | cons text rest ih =>
    have htext := hleft text List.mem_cons_self
    have hrest := fun other hother => hleft other (List.mem_cons_of_mem text hother)
    cases right with
    | nil =>
      cases rest with
      | nil => exact absurd h htext.1
      | cons second rest => exact absurd h (by simp [commaJoined])
    | cons text' rest' =>
      have htext' := hright text' List.mem_cons_self
      have hrest' := fun other hother => hright other (List.mem_cons_of_mem text' hother)
      cases rest with
      | nil =>
        cases rest' with
        | nil => rw [show text = text' from h]
        | cons second' rest' =>
          refine absurd ?_ htext.2
          rw [show text = text' ++ ',' :: commaJoined (second' :: rest') from h]
          simp
      | cons second rest =>
        cases rest' with
        | nil =>
          refine absurd ?_ htext'.2
          rw [show text' = text ++ ',' :: commaJoined (second :: rest) from h.symm]
          simp
        | cons second' rest' =>
          obtain ⟨hhead, htail⟩ := append_cons_injective htext.2 htext'.2 h
          rw [hhead, ih hrest hrest' htail]

end LetletmeData.Library
