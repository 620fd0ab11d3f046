import LetletmeData.Library.ScriptValues

/-!
# Content hashes

A value is hashed by a text that does not depend on the order of the fields of its objects. The text
of a published live payload is meant to be the one that the database prints of it: there the shorter
name comes first, and of two of one length the smaller. The code measures and compares the UTF-16
units of names and prints numbers as the language does, where the database takes the UTF-8 bytes and
prints no exponents.
-/

namespace LetletmeData

open LetletmeData.Library

/-! ### Canonical texts -/

/-- The number that a property name is an array index of. -/
def arrayIndex (key : String) : Option ℕ :=
  let index := decimalValue key.toList
  if isDigits key.toList ∧ toString index = key ∧ index < 2 ^ 32 - 1 then some index else none

/-- `Object.fromEntries`: properties that are array indices come first, in the order of their
numbers. -/
def objectFromEntries {α : Type*} (entries : List (String × α)) : List (String × α) :=
  ((entries.filter fun entry => (arrayIndex entry.1).isSome).insertionSort fun left right =>
      (arrayIndex left.1).getD 0 ≤ (arrayIndex right.1).getD 0) ++
    entries.filter fun entry => !(arrayIndex entry.1).isSome

mutual

/-- `canonicalize`. -/
def canonicalize : JsValue → JsValue
  | .array items => .array (canonicalizeItems items)
  | .date value => .string value.toISOString
  | .object fields => .object (objectFromEntries (sortEntries UnitsLe (canonicalizeFields fields)))
  | .null => .null
  | .bool value => .bool value
  | .number value => .number value
  | .string value => .string value

/-- The items of an array in canonical form. -/
def canonicalizeItems : List JsValue → List JsValue
  | [] => []
  | item :: items => canonicalize item :: canonicalizeItems items

/-- The fields of an object with their values in canonical form. -/
def canonicalizeFields : List (String × JsValue) → List (String × JsValue)
  | [] => []
  | field :: fields => canonicalizeField field :: canonicalizeFields fields

/-- A field with its value in canonical form. -/
def canonicalizeField : String × JsValue → String × JsValue
  | (name, value) => (name, canonicalize value)

end

/-- `canonicalJson`. -/
def canonicalJson (value : JsValue) : String := (canonicalize value).stringify

example : canonicalJson (.object [("b", .null), ("10", .null), ("9", .null)]) =
    "\x7b\"9\":null,\"10\":null,\"b\":null\x7d" := by decide +kernel

/-- `contentHash`. -/
def contentHash (sha256 : String → String) (value : JsValue) : String :=
  sha256 (canonicalJson value)

/-! ### Texts of the database -/

mutual

/-- A value with the fields of every object in an order of their names. -/
def arranged (le : String → String → Prop) [DecidableRel le] (numberText : Decimal → String) :
    JsValue → Json
  | .array items => .array (arrangedItems le numberText items)
  | .date value => .string value.toISOString
  | .object fields => .object (sortEntries le (arrangedFields le numberText fields))
  | .null => .null
  | .bool value => .bool value
  | .number value => .number (numberText value)
  | .string value => .string value

/-- The items of an array, arranged. -/
def arrangedItems (le : String → String → Prop) [DecidableRel le] (numberText : Decimal → String) :
    List JsValue → List Json
  | [] => []
  | item :: items => arranged le numberText item :: arrangedItems le numberText items

/-- The fields of an object with their values arranged. -/
def arrangedFields (le : String → String → Prop) [DecidableRel le]
    (numberText : Decimal → String) : List (String × JsValue) → List (String × Json)
  | [] => []
  | field :: fields => arrangedField le numberText field :: arrangedFields le numberText fields

/-- A field with its value arranged. -/
def arrangedField (le : String → String → Prop) [DecidableRel le] (numberText : Decimal → String) :
    String × JsValue → String × Json
  | (name, value) => (name, arranged le numberText value)

end

/-- `serializePostgresJsonb`: a blank behind every comma and colon, and the names in the order of
their lengths and then of the texts. -/
def serializePostgresJsonb (value : JsValue) : String :=
  (arranged (LengthFirstLe codeUnits) Decimal.text value).text [' ']

/-- `postgresJsonbContentHash`. -/
def postgresJsonbContentHash (sha256 : String → String) (value : JsValue) : String :=
  sha256 (serializePostgresJsonb value)

/-- What the database prints of a value that it stores as `jsonb`. -/
def storedJsonbText (value : JsValue) : String :=
  (arranged (LengthFirstLe utf8Bytes) Decimal.plainText value).text [' ']

/-! ### Equal texts of equal contents -/

/-- Items are brought into canonical form one by one. -/
@[simp] theorem canonicalizeItems_eq (items : List JsValue) :
    canonicalizeItems items = items.map canonicalize := by
  induction items with
  | nil => rfl
  | cons item items ih => rw [canonicalizeItems, ih, List.map_cons]

/-- Fields are brought into canonical form one by one. -/
@[simp] theorem canonicalizeFields_eq (fields : List (String × JsValue)) :
    canonicalizeFields fields = fields.map fun field => (field.1, canonicalize field.2) := by
  induction fields with
  | nil => rfl
  | cons field fields ih =>
    obtain ⟨name, value⟩ := field
    rw [canonicalizeFields, ih, List.map_cons, canonicalizeField]

/-- The order of properties loses and adds none. -/
theorem objectFromEntries_perm {α : Type*} (entries : List (String × α)) :
    (objectFromEntries entries).Perm entries :=
  ((List.perm_insertionSort _ _).append_right _).trans (List.filter_append_perm _ _)

/-- The canonical form has no dates. -/
theorem dateFree_canonicalize (value : JsValue) : (canonicalize value).DateFree := by
  induction value using JsValue.induct with
  | null => exact .null
  | bool value => exact .bool value
  | number value => exact .number value
  | string value => exact .string value
  | date value => exact .string _
  | array items ih =>
    rw [canonicalize, canonicalizeItems_eq]
    exact .array (List.forall_mem_map.mpr ih)
  | object fields ih =>
    rw [canonicalize, canonicalizeFields_eq]
    refine .object fun field hfield => ?_
    have hmem := (sortEntries_perm UnitsLe _).mem_iff.mp
      ((objectFromEntries_perm _).mem_iff.mp hfield)
    obtain ⟨source, hsource, rfl⟩ := List.mem_map.mp hmem
    exact ih source hsource

/-- Fields with distinct names are arranged to one list exactly when they are the same in some
order. -/
theorem arrangement_eq_iff {fields others : List (String × JsValue)}
    (hfields : (fields.map Prod.fst).Nodup) :
    objectFromEntries (sortEntries UnitsLe fields) =
        objectFromEntries (sortEntries UnitsLe others) ↔ fields.Perm others := by
  constructor
  · intro h
    have hleft := (objectFromEntries_perm _).trans (sortEntries_perm UnitsLe fields)
    have hright := (objectFromEntries_perm _).trans (sortEntries_perm UnitsLe others)
    rw [h] at hleft
    exact hleft.symm.trans hright
  · intro h
    rw [sortEntries_eq_of_perm UnitsLe h hfields]

/-- Fields with distinct names are the same in some order exactly when there are as many, and each
is among the others. -/
theorem map_perm_iff {fields others : List (String × JsValue)} (f : JsValue → JsValue)
    (hfields : (fields.map Prod.fst).Nodup) :
    (fields.map fun field => (field.1, f field.2)).Perm
        (others.map fun field => (field.1, f field.2)) ↔ fields.length = others.length ∧
      ∀ field ∈ fields, ∃ other, (field.1, other) ∈ others ∧ f field.2 = f other := by
  constructor
  · intro h
    refine ⟨by simpa using h.length_eq, fun field hfield => ?_⟩
    obtain ⟨other, hother, heq⟩ := List.mem_map.mp (h.mem_iff.mp (List.mem_map_of_mem hfield))
    obtain ⟨hname, hvalue⟩ := Prod.mk.inj heq
    exact ⟨other.2, by rw [← hname]; exact hother, hvalue.symm⟩
  · rintro ⟨hlength, hamong⟩
    refine perm_of_entries_subset ?_ (by simpa using hlength) ?_
    · rw [List.map_map]
      exact hfields
    · rintro _ hentry
      obtain ⟨field, hfield, rfl⟩ := List.mem_map.mp hentry
      obtain ⟨other, hother, hvalue⟩ := hamong field hfield
      exact List.mem_map.mpr ⟨(field.1, other), hother, by rw [hvalue]⟩

/-- Values without dates have one canonical form exactly when they have the same content. -/
theorem canonicalize_eq_iff {value other : JsValue} (hvalue : value.DateFree)
    (hother : other.DateFree) (hkeys : value.DistinctKeys) (hkeys' : other.DistinctKeys) :
    canonicalize value = canonicalize other ↔ value.SameContent other := by
  induction value using JsValue.induct generalizing other with
  | null => cases hother <;> simp [canonicalize, JsValue.SameContent]
  | bool value => cases hother <;> simp [canonicalize, JsValue.SameContent]
  | number value => cases hother <;> simp [canonicalize, JsValue.SameContent]
  | string value => cases hother <;> simp [canonicalize, JsValue.SameContent]
  | date value => cases hvalue
  | array items ih =>
    obtain _ | _ | _ | _ | hitems | _ := hvalue
    obtain _ | _ | _ | _ | _ | hdistinct | _ := hkeys
    cases hother with
    | @array others hothers =>
      obtain _ | _ | _ | _ | _ | hdistinct' | _ := hkeys'
      rw [JsValue.sameContent_array]
      simp only [canonicalize, canonicalizeItems_eq, JsValue.array.injEq]
      exact JsValue.map_eq_map_iff fun item hitem other hother => ih item hitem (hitems item hitem)
        (hothers other hother) (hdistinct item hitem) (hdistinct' other hother)
    | _ => simp [canonicalize, JsValue.SameContent]
  | object fields ih =>
    obtain _ | _ | _ | _ | _ | hfields := hvalue
    obtain _ | _ | _ | _ | _ | _ | ⟨hnodup, hdistinct⟩ := hkeys
    cases hother with
    | @object others hothers =>
      obtain _ | _ | _ | _ | _ | _ | ⟨hnodup', hdistinct'⟩ := hkeys'
      rw [JsValue.sameContent_object]
      simp only [canonicalize, canonicalizeFields_eq, JsValue.object.injEq]
      rw [arrangement_eq_iff (by rw [List.map_map]; exact hnodup), map_perm_iff _ hnodup]
      refine and_congr_right fun _ => forall₂_congr fun field hfield => exists_congr fun value =>
        and_congr_right fun hvalue => ?_
      exact ih field hfield (hfields field hfield) (hothers _ hvalue) (hdistinct field hfield)
        (hdistinct' _ hvalue)
    | _ => simp [canonicalize, JsValue.SameContent]

/-- A JSON value: no dates, and no object with two fields of one name. -/
structure JsonValue where
  value : JsValue
  dateFree : value.DateFree
  distinctKeys : value.DistinctKeys

/-- Canonical texts are the same exactly when the contents are. -/
theorem canonicalJson_eq_iff (left right : JsonValue) :
    canonicalJson left.value = canonicalJson right.value ↔
      left.value.SameContent right.value := by
  rw [← canonicalize_eq_iff left.dateFree right.dateFree left.distinctKeys right.distinctKeys]
  constructor
  · intro h
    have hjson := Json.text_injective (by simp) (canonicalize left.value).wellFormed_toJson
      (canonicalize right.value).wellFormed_toJson h
    exact JsValue.toJson_injective (dateFree_canonicalize _) (dateFree_canonicalize _) hjson
  · exact fun h => by rw [canonicalJson, h, canonicalJson]

/-! ### The order of the database -/

/-- Items are arranged one by one. -/
@[simp] theorem arrangedItems_eq (le : String → String → Prop) [DecidableRel le]
    (numberText : Decimal → String) (items : List JsValue) :
    arrangedItems le numberText items = items.map (arranged le numberText) := by
  induction items with
  | nil => rfl
  | cons item items ih => rw [arrangedItems, ih, List.map_cons]

/-- Fields are arranged one by one. -/
@[simp] theorem arrangedFields_eq (le : String → String → Prop) [DecidableRel le]
    (numberText : Decimal → String) (fields : List (String × JsValue)) :
    arrangedFields le numberText fields =
      fields.map fun field => (field.1, arranged le numberText field.2) := by
  induction fields with
  | nil => rfl
  | cons field fields ih =>
    obtain ⟨name, value⟩ := field
    rw [arrangedFields, ih, List.map_cons, arrangedField]

/-- What is arranged is a JSON text if its numbers are. -/
theorem wellFormed_arranged {le : String → String → Prop} [DecidableRel le]
    {numberText : Decimal → String} (h : ∀ number, (Json.number (numberText number)).WellFormed)
    (value : JsValue) : (arranged le numberText value).WellFormed := by
  induction value using JsValue.induct with
  | null => exact .null
  | bool value => exact .bool value
  | number value => exact h value
  | string value => exact .string value
  | date value => exact .string _
  | array items ih =>
    rw [arranged, arrangedItems_eq]
    exact .array (List.forall_mem_map.mpr ih)
  | object fields ih =>
    rw [arranged, arrangedFields_eq]
    refine .object fun field hfield => ?_
    obtain ⟨source, hsource, rfl⟩ := List.mem_map.mp ((sortEntries_perm le _).mem_iff.mp hfield)
    exact ih source hsource

/-- The names of every object are listed in the order of the database. -/
inductive InJsonbOrder : JsValue → Prop where
  | null : InJsonbOrder .null
  | bool (value : Bool) : InJsonbOrder (.bool value)
  | number (value : Decimal) : InJsonbOrder (.number value)
  | string (value : String) : InJsonbOrder (.string value)
  | date (value : DateValue) : InJsonbOrder (.date value)
  | array {items : List JsValue} (h : ∀ item ∈ items, InJsonbOrder item) :
      InJsonbOrder (.array items)
  | object {fields : List (String × JsValue)}
      (names : (fields.map Prod.fst).insertionSort (LengthFirstLe codeUnits) =
        (fields.map Prod.fst).insertionSort (LengthFirstLe utf8Bytes))
      (h : ∀ field ∈ fields, InJsonbOrder field.2) : InJsonbOrder (.object fields)

/-- Any two names of one object compare the same by the lengths and values of their units as by
those of their bytes, and no number is printed with an exponent. -/
inductive ReadsAlike : JsValue → Prop where
  | null : ReadsAlike .null
  | bool (value : Bool) : ReadsAlike (.bool value)
  | number {value : Decimal} (plain : value.IsPlain) : ReadsAlike (.number value)
  | string (value : String) : ReadsAlike (.string value)
  | date (value : DateValue) : ReadsAlike (.date value)
  | array {items : List JsValue} (h : ∀ item ∈ items, ReadsAlike item) : ReadsAlike (.array items)
  | object {fields : List (String × JsValue)}
      (names : ∀ left ∈ fields.map Prod.fst, ∀ right ∈ fields.map Prod.fst,
        LengthFirstLe codeUnits left right ↔ LengthFirstLe utf8Bytes left right)
      (h : ∀ field ∈ fields, ReadsAlike field.2) : ReadsAlike (.object fields)

/-- Values are arranged alike exactly when they read alike. -/
theorem arranged_eq_iff {value : JsValue} (hkeys : value.DistinctKeys) :
    arranged (LengthFirstLe codeUnits) Decimal.text value =
        arranged (LengthFirstLe utf8Bytes) Decimal.plainText value ↔ ReadsAlike value := by
  induction value using JsValue.induct with
  | null => exact iff_of_true rfl .null
  | bool value => exact iff_of_true rfl (.bool value)
  | number value =>
    rw [arranged, arranged, Json.number.injEq, Decimal.text_eq_plainText_iff]
    exact ⟨.number, fun | .number plain => plain⟩
  | string value => exact iff_of_true rfl (.string value)
  | date value => exact iff_of_true rfl (.date value)
  | array items ih =>
    obtain _ | _ | _ | _ | _ | hdistinct | _ := hkeys
    rw [arranged, arranged, arrangedItems_eq, arrangedItems_eq, Json.array.injEq, List.map_inj_left]
    have hitems := forall₂_congr fun item hitem => ih item hitem (hdistinct item hitem)
    exact ⟨fun h => .array (hitems.mp h), fun | .array h => hitems.mpr h⟩
  | object fields ih =>
    obtain _ | _ | _ | _ | _ | _ | ⟨hnodup, hdistinct⟩ := hkeys
    rw [arranged, arranged, arrangedFields_eq, arrangedFields_eq, Json.object.injEq,
      sortEntries_map_eq_iff _ _ hnodup]
    have hfields := forall₂_congr fun field hfield => ih field hfield (hdistinct field hfield)
    exact ⟨fun h => .object h.1 (hfields.mp h.2), fun | .object names h => ⟨names, hfields.mpr h⟩⟩

/-- Names are listed in the order of the database wherever values read alike. -/
theorem ReadsAlike.inJsonbOrder {value : JsValue} (h : ReadsAlike value) : InJsonbOrder value := by
  induction h with
  | null => exact .null
  | bool value => exact .bool value
  | number _ => exact .number _
  | string value => exact .string value
  | date value => exact .date value
  | array _ ih => exact .array ih
  | object names _ ih => exact .object ((insertionSort_eq_iff _ _).mpr names) ih

/-- Canonical texts are equal exactly when contents are. The text of the database, and with it the
hash, is that of the program exactly when the value reads alike. -/
theorem contentTexts_agree_iff (left right : JsonValue) :
    (canonicalJson left.value = canonicalJson right.value ↔
        left.value.SameContent right.value) ∧
      ((InJsonbOrder left.value ∧ ∀ sha256 : String → String,
          postgresJsonbContentHash sha256 left.value = sha256 (storedJsonbText left.value)) ↔
        ReadsAlike left.value) := by
  refine ⟨canonicalJson_eq_iff left right, ?_⟩
  have hgap : ∀ c ∈ [' '], isJsonSpace c = true := by
    intro c hc
    rw [List.mem_singleton.mp hc]
    rfl
  rw [← arranged_eq_iff left.distinctKeys]
  constructor
  · rintro ⟨-, hhash⟩
    exact Json.text_injective hgap (wellFormed_arranged Decimal.wellFormed_text _)
      (wellFormed_arranged Decimal.wellFormed_plainText _) (hhash id)
  · intro h
    refine ⟨((arranged_eq_iff left.distinctKeys).mp h).inJsonbOrder, fun sha256 => ?_⟩
    rw [postgresJsonbContentHash, serializePostgresJsonb, h, storedJsonbText]

/-- The name `é` has one unit and two bytes: it comes before `zz` by its units, and behind it by its
bytes. -/
theorem accented_name_misplaced :
    ¬ InJsonbOrder (.object [("é", .null), ("zz", .null)]) ∧
      serializePostgresJsonb (.object [("é", .null), ("zz", .null)]) =
        "\x7b\"é\": null, \"zz\": null\x7d" ∧
      storedJsonbText (.object [("é", .null), ("zz", .null)]) =
        "\x7b\"zz\": null, \"é\": null\x7d" := by
  refine ⟨fun h => ?_, by decide +kernel, by decide +kernel⟩
  obtain _ | _ | _ | _ | _ | _ | ⟨names, -⟩ := h
  exact absurd names (by decide +kernel)

end LetletmeData
