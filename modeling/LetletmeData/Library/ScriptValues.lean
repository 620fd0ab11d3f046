import LetletmeData.Library.CalendarDates
import LetletmeData.Library.JsonReading
import LetletmeData.Library.SortedEntries

/-!
# Values of the language

The values that `JSON.stringify` takes, dates among them. The fields of an object stand in the order
of its properties. Two values have the same content if they differ in the order of the fields of
objects only, at any depth.
-/

namespace LetletmeData.Library

/-- A value without functions and without missing parts. -/
inductive JsValue where
  | null
  | bool (value : Bool)
  | number (value : Decimal)
  | string (value : String)
  | date (value : DateValue)
  | array (items : List JsValue)
  | object (fields : List (String × JsValue))

/-- The fields of an object. -/
abbrev Fields : Type := List (String × JsValue)

namespace JsValue

/-- A property of all values is one that arrays and objects have of their parts. -/
theorem induct {motive : JsValue → Prop} (null : motive .null)
    (bool : ∀ value, motive (.bool value)) (number : ∀ value, motive (.number value))
    (string : ∀ value, motive (.string value)) (date : ∀ value, motive (.date value))
    (array : ∀ items, (∀ item ∈ items, motive item) → motive (.array items))
    (object : ∀ fields, (∀ field ∈ fields, motive field.2) → motive (.object fields))
    (value : JsValue) : motive value :=
  @JsValue.rec motive (fun items => ∀ item ∈ items, motive item)
    (fun fields => ∀ field ∈ fields, motive field.2) (fun field => motive field.2)
    null bool number string date array object
    (fun _ h => absurd h List.not_mem_nil)
    (fun _ _ hitem hitems => List.forall_mem_cons.mpr ⟨hitem, hitems⟩)
    (fun _ h => absurd h List.not_mem_nil)
    (fun _ _ hfield hfields => List.forall_mem_cons.mpr ⟨hfield, hfields⟩) (fun _ _ h => h) value

/-- No object has two fields of one name. -/
inductive DistinctKeys : JsValue → Prop where
  | null : DistinctKeys .null
  | bool (value : Bool) : DistinctKeys (.bool value)
  | number (value : Decimal) : DistinctKeys (.number value)
  | string (value : String) : DistinctKeys (.string value)
  | date (value : DateValue) : DistinctKeys (.date value)
  | array {items : List JsValue} (h : ∀ item ∈ items, item.DistinctKeys) :
      DistinctKeys (.array items)
  | object {fields : List (String × JsValue)} (keys : (fields.map Prod.fst).Nodup)
      (h : ∀ field ∈ fields, field.2.DistinctKeys) : DistinctKeys (.object fields)

/-- There are no dates. -/
inductive DateFree : JsValue → Prop where
  | null : DateFree .null
  | bool (value : Bool) : DateFree (.bool value)
  | number (value : Decimal) : DateFree (.number value)
  | string (value : String) : DateFree (.string value)
  | array {items : List JsValue} (h : ∀ item ∈ items, item.DateFree) : DateFree (.array items)
  | object {fields : List (String × JsValue)} (h : ∀ field ∈ fields, field.2.DateFree) :
      DateFree (.object fields)

mutual

/-- Two values are the same up to the order of the fields of objects. -/
def SameContent : JsValue → JsValue → Prop
  | .null, .null => True
  | .bool value, .bool other => value = other
  | .number value, .number other => value = other
  | .string value, .string other => value = other
  | .date value, .date other => value = other
  | .array items, .array others => sameItems items others
  | .object fields, .object others => fields.length = others.length ∧ fieldsAmong fields others
  | _, _ => False

/-- Items are the same one by one. -/
def sameItems : List JsValue → List JsValue → Prop
  | [], [] => True
  | item :: items, other :: others => item.SameContent other ∧ sameItems items others
  | _, _ => False

/-- All fields are among others. -/
def fieldsAmong : List (String × JsValue) → List (String × JsValue) → Prop
  | [], _ => True
  | field :: fields, others => fieldAmong field others ∧ fieldsAmong fields others

/-- A field is among others. -/
def fieldAmong : String × JsValue → List (String × JsValue) → Prop
  | (name, value), others => ∃ other, (name, other) ∈ others ∧ value.SameContent other

end

/-- Arrays have the same content if their items have. -/
theorem sameContent_array {items others : List JsValue} :
    SameContent (.array items) (.array others) ↔ List.Forall₂ SameContent items others := by
  rw [SameContent]
  induction items generalizing others with
  | nil => cases others <;> simp [sameItems]
  | cons item items ih =>
    cases others with
    | nil => simp [sameItems]
    | cons other others => rw [sameItems, ih, List.forall₂_cons]

/-- Objects have the same content if they have as many fields, and the same ones. -/
theorem sameContent_object {fields others : List (String × JsValue)} :
    SameContent (.object fields) (.object others) ↔ fields.length = others.length ∧
      ∀ field ∈ fields, ∃ other, (field.1, other) ∈ others ∧ field.2.SameContent other := by
  have hamong : ∀ fields, fieldsAmong fields others ↔
      ∀ field ∈ fields, ∃ other, (field.1, other) ∈ others ∧ field.2.SameContent other := by
    intro fields
    induction fields with
    | nil => simp [fieldsAmong]
    | cons field fields ih =>
      obtain ⟨name, value⟩ := field
      rw [fieldsAmong, ih, List.forall_mem_cons, fieldAmong]
  rw [SameContent, hamong]

/-- Every value has its own content. -/
theorem SameContent.refl (value : JsValue) : value.SameContent value := by
  induction value using JsValue.induct with
  | null => simp only [SameContent]
  | bool value => simp only [SameContent]
  | number value => simp only [SameContent]
  | string value => simp only [SameContent]
  | date value => simp only [SameContent]
  | array items ih => exact sameContent_array.mpr (List.forall₂_same.mpr ih)
  | object fields ih =>
    exact sameContent_object.mpr ⟨rfl, fun field hfield => ⟨field.2, hfield, ih field hfield⟩⟩

/-! ### JSON texts -/

mutual

/-- What `JSON.stringify` writes. -/
def toJson : JsValue → Json
  | .null => .null
  | .bool value => .bool value
  | .number value => .number value.text
  | .string value => .string value
  | .date value => .string value.toISOString
  | .array items => .array (itemsToJson items)
  | .object fields => .object (fieldsToJson fields)

/-- What is written of the items of an array. -/
def itemsToJson : List JsValue → List Json
  | [] => []
  | item :: items => item.toJson :: itemsToJson items

/-- What is written of the fields of an object. -/
def fieldsToJson : List (String × JsValue) → List (String × Json)
  | [] => []
  | field :: fields => fieldToJson field :: fieldsToJson fields

/-- What is written of a field. -/
def fieldToJson : String × JsValue → String × Json
  | (name, value) => (name, value.toJson)

end

/-- `JSON.stringify`. -/
def stringify (value : JsValue) : String := value.toJson.text []

/-- Items are written one by one. -/
@[simp] theorem itemsToJson_eq (items : List JsValue) : itemsToJson items = items.map toJson := by
  induction items with
  | nil => rfl
  | cons item items ih => rw [itemsToJson, ih, List.map_cons]

/-- Fields are written one by one. -/
@[simp] theorem fieldsToJson_eq (fields : List (String × JsValue)) :
    fieldsToJson fields = fields.map fun field => (field.1, field.2.toJson) := by
  induction fields with
  | nil => rfl
  | cons field fields ih =>
    obtain ⟨name, value⟩ := field
    rw [fieldsToJson, ih, List.map_cons, fieldToJson]

/-- What is written is a JSON text. -/
theorem wellFormed_toJson (value : JsValue) : value.toJson.WellFormed := by
  induction value using induct with
  | null => exact .null
  | bool value => exact .bool value
  | number value => exact value.wellFormed_text
  | string value => exact .string value
  | date value => exact .string value.toISOString
  | array items ih =>
    rw [toJson, itemsToJson_eq]
    exact .array (List.forall_mem_map.mpr ih)
  | object fields ih =>
    rw [toJson, fieldsToJson_eq]
    exact .object (List.forall_mem_map.mpr ih)

/-- Images are the same one by one. -/
theorem map_eq_map_iff {α β : Type*} {f : α → β} {related : α → α → Prop} {items others : List α}
    (h : ∀ item ∈ items, ∀ other ∈ others, f item = f other ↔ related item other) :
    items.map f = others.map f ↔ List.Forall₂ related items others := by
  induction items generalizing others with
  | nil => cases others <;> simp
  | cons item items ih =>
    cases others with
    | nil => simp
    | cons other others =>
      rw [List.map_cons, List.map_cons, List.cons.injEq, List.forall₂_cons,
        h item List.mem_cons_self other List.mem_cons_self,
        ih fun one hone another hanother => h one (List.mem_cons_of_mem _ hone) another
          (List.mem_cons_of_mem _ hanother)]

/-- Items that are told apart by their images are the same if the images are. -/
theorem map_injective_on {α β : Type*} {f : α → β} {items others : List α}
    (h : ∀ item ∈ items, ∀ other ∈ others, f item = f other → item = other)
    (hmap : items.map f = others.map f) : items = others := by
  rw [← List.forall₂_eq_eq_eq]
  exact (map_eq_map_iff fun item hitem other hother =>
    ⟨h item hitem other hother, congrArg f⟩).mp hmap

/-- What is written of a value without dates tells the value. -/
theorem toJson_injective {left right : JsValue} (hleft : left.DateFree) (hright : right.DateFree)
    (h : left.toJson = right.toJson) : left = right := by
  induction left using induct generalizing right with
  | null => cases hright <;> cases h; rfl
  | bool value => cases hright <;> cases h; rfl
  | number value =>
    cases hright with
    | number other => rw [Decimal.text_injective (Json.number.inj h)]
    | _ => cases h
  | string value => cases hright <;> cases h; rfl
  | date value => cases hleft
  | array items ih =>
    obtain _ | _ | _ | _ | hitems | _ := hleft
    cases hright with
    | array hothers =>
      simp only [toJson, itemsToJson_eq] at h
      exact congrArg array (map_injective_on (fun item hitem other hother heq =>
        ih item hitem (hitems item hitem) (hothers other hother) heq) (Json.array.inj h))
    | _ => simp [toJson] at h
  | object fields ih =>
    obtain _ | _ | _ | _ | _ | hfields := hleft
    cases hright with
    | object hothers =>
      simp only [toJson, fieldsToJson_eq] at h
      refine congrArg object (map_injective_on (fun field hfield other hother heq => ?_)
        (Json.object.inj h))
      obtain ⟨hname, hvalue⟩ := Prod.mk.inj heq
      exact Prod.ext hname (ih field hfield (hfields field hfield) (hothers other hother) hvalue)
    | _ => simp [toJson] at h

end JsValue

end LetletmeData.Library
