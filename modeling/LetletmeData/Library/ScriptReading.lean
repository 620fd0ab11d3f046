import LetletmeData.Library.PrintedNumbers
import LetletmeData.Library.ScriptObjects
import LetletmeData.Library.Transactions

/-!
# Reading values of the language

`JSON.parse`. A number is read as the nearest one of the language; of several fields of one name the
last value counts, at the place of the first. A text with a number that is not finite is not read
here. What is read is written and read again as it is. Names that are array indices, which the
language lists first, stay in their places.
-/

namespace LetletmeData.Library

/-! ### Properties -/

section Properties

variable {α β : Type*}

/-- A property is set: at its place if there is one of its name, and else behind the others. -/
def setProperty (fields : List (String × α)) (field : String × α) : List (String × α) :=
  if field.1 ∈ fields.map Prod.fst then
    fields.map fun other => if other.1 = field.1 then field else other
  else fields ++ [field]

/-- The properties of an object with the given fields. -/
def lastOfEach (fields : List (String × α)) : List (String × α) := fields.foldl setProperty []

/-- Names stay distinct. -/
theorem nodup_setProperty {fields : List (String × α)} (h : (fields.map Prod.fst).Nodup)
    (field : String × α) : ((setProperty fields field).map Prod.fst).Nodup := by
  unfold setProperty
  split
  · have hnames : (fields.map fun other =>
        if other.1 = field.1 then field else other).map Prod.fst = fields.map Prod.fst := by
      rw [List.map_map]
      refine List.map_congr_left fun other _ => ?_
      rw [Function.comp_apply]
      split
      next heq => exact heq.symm
      next => rfl
    rw [hnames]
    exact h
  next hnew =>
    rw [List.map_append]
    exact h.append (List.nodup_singleton _) (List.disjoint_singleton.mpr hnew)

/-- Objects have distinct names. -/
theorem nodup_lastOfEach (fields : List (String × α)) :
    ((lastOfEach fields).map Prod.fst).Nodup := by
  suffices hfold : ∀ set : List (String × α), (set.map Prod.fst).Nodup →
      ((fields.foldl setProperty set).map Prod.fst).Nodup from hfold [] List.nodup_nil
  induction fields with
  | nil => exact fun set hset => hset
  | cons field fields ih => exact fun set hset => ih _ (nodup_setProperty hset field)

/-- Fields of distinct names are set in their order. -/
theorem lastOfEach_eq_self {fields : List (String × α)} (h : (fields.map Prod.fst).Nodup) :
    lastOfEach fields = fields := by
  suffices hfold : ∀ set : List (String × α), ((set ++ fields).map Prod.fst).Nodup →
      fields.foldl setProperty set = set ++ fields from hfold [] h
  clear h
  induction fields with
  | nil => exact fun set _ => (List.append_nil set).symm
  | cons field fields ih =>
    intro set hset
    have hnew : field.1 ∉ set.map Prod.fst := by
      rw [List.map_append, List.nodup_append] at hset
      exact fun hmem => hset.2.2 _ hmem _ (List.mem_map_of_mem List.mem_cons_self) rfl
    rw [List.foldl_cons, setProperty, if_neg hnew, ih _ (by simpa using hset), List.append_assoc,
      List.singleton_append]

/-- A property that is read was among the fields, or set. -/
theorem mem_setProperty {fields : List (String × α)} {field other : String × α}
    (h : other ∈ setProperty fields field) : other ∈ fields ∨ other = field := by
  unfold setProperty at h
  split at h
  · obtain ⟨source, hsource, rfl⟩ := List.mem_map.mp h
    split
    · exact .inr rfl
    · exact .inl hsource
  · rcases List.mem_append.mp h with h | h
    · exact .inl h
    · exact .inr (List.mem_singleton.mp h)

/-- The properties of an object are among its fields. -/
theorem mem_of_mem_lastOfEach {fields : List (String × α)} {field : String × α}
    (h : field ∈ lastOfEach fields) : field ∈ fields := by
  suffices hfold : ∀ set : List (String × α), field ∈ fields.foldl setProperty set →
      field ∈ set ∨ field ∈ fields from (hfold [] h).resolve_left List.not_mem_nil
  clear h
  induction fields with
  | nil => exact fun set hset => .inl hset
  | cons next fields ih =>
    intro set hset
    rcases ih _ hset with hmem | hmem
    · rcases mem_setProperty hmem with hmem | rfl
      · exact .inl hmem
      · exact .inr List.mem_cons_self
    · exact .inr (List.mem_cons_of_mem _ hmem)

/-- The values of all properties, if there are all. -/
def allValues (fields : List (String × Option α)) : Option (List (String × α)) :=
  fields.mapM fun field => field.2.map fun value => (field.1, value)

/-- All values stand under the names of the properties. -/
theorem allValues_eq_some {fields : List (String × Option α)} {values : List (String × α)} :
    allValues fields = some values ↔
      List.Forall₂ (fun field value => field.1 = value.1 ∧ field.2 = some value.2) fields
        values := by
  have hfield : ∀ (field : String × Option α) (value : String × α),
      field.2.map (fun found => (field.1, found)) = some value ↔
        field.1 = value.1 ∧ field.2 = some value.2 := by
    rintro ⟨name, found⟩ ⟨key, value⟩
    cases found <;> simp
  simp only [allValues, mapM_eq_some, hfield]

end Properties

/-! ### Values -/

namespace JsValue

mutual

/-- The value that a JSON value stands for. -/
def ofJson : Json → Option JsValue
  | .null => some .null
  | .bool value => some (.bool value)
  | .number literal => (readNumber literal).map .number
  | .string value => some (.string value)
  | .array items => ((itemsOfJson items).mapM id).map .array
  | .object fields => (allValues (lastOfEach (fieldsOfJson fields))).map .object

/-- The values of items. -/
def itemsOfJson : List Json → List (Option JsValue)
  | [] => []
  | item :: items => ofJson item :: itemsOfJson items

/-- The values of fields. -/
def fieldsOfJson : List (String × Json) → List (String × Option JsValue)
  | [] => []
  | field :: fields => fieldOfJson field :: fieldsOfJson fields

/-- The value of a field. -/
def fieldOfJson : String × Json → String × Option JsValue
  | (name, value) => (name, ofJson value)

end

/-- `JSON.parse`. -/
def parse (text : String) : Option JsValue := (readJson text).bind ofJson

/-- What a text can be read as: no dates, no object with two fields of one name, and numbers as they
are printed. -/
inductive IsParsed : JsValue → Prop where
  | null : IsParsed .null
  | bool (value : Bool) : IsParsed (.bool value)
  | number {value : Decimal} (printed : value.IsPrinted) : IsParsed (.number value)
  | string (value : String) : IsParsed (.string value)
  | array {items : List JsValue} (h : ∀ item ∈ items, item.IsParsed) : IsParsed (.array items)
  | object {fields : List (String × JsValue)} (names : (fields.map Prod.fst).Nodup)
      (h : ∀ field ∈ fields, field.2.IsParsed) : IsParsed (.object fields)

/-- Items are read one by one. -/
@[simp] theorem itemsOfJson_eq (items : List Json) : itemsOfJson items = items.map ofJson := by
  induction items with
  | nil => rfl
  | cons item items ih => rw [itemsOfJson, ih, List.map_cons]

/-- Fields are read one by one. -/
@[simp] theorem fieldsOfJson_eq (fields : List (String × Json)) :
    fieldsOfJson fields = fields.map fun field => (field.1, ofJson field.2) := by
  induction fields with
  | nil => rfl
  | cons field fields ih =>
    obtain ⟨name, value⟩ := field
    rw [fieldsOfJson, ih, List.map_cons, fieldOfJson]

/-- What has been read is read again of what is written of it. -/
theorem IsParsed.ofJson_toJson {value : JsValue} (h : value.IsParsed) :
    ofJson value.toJson = some value := by
  induction h with
  | null => rfl
  | bool value => rfl
  | number printed => rw [toJson, ofJson, readNumber_text printed]; rfl
  | string value => rfl
  | @array items _ ih =>
    have hitems : ((items.map toJson).map ofJson).mapM id = some items := by
      rw [mapM_eq_some, List.map_map, List.forall₂_map_left_iff]
      exact List.forall₂_same.mpr ih
    rw [toJson, ofJson, itemsToJson_eq, itemsOfJson_eq, hitems]
    rfl
  | @object fields names _ ih =>
    have hfields : allValues ((fields.map fun field => (field.1, field.2.toJson)).map
        fun field => (field.1, ofJson field.2)) = some fields := by
      rw [allValues_eq_some, List.map_map, List.forall₂_map_left_iff]
      exact List.forall₂_same.mpr fun field hfield => ⟨rfl, ih field hfield⟩
    rw [toJson, ofJson, fieldsToJson_eq, fieldsOfJson_eq, lastOfEach_eq_self, hfields]
    · rfl
    · rw [List.map_map, List.map_map]
      exact names

/-- What has been read is read again of its text. -/
theorem IsParsed.parse_stringify {value : JsValue} (h : value.IsParsed) :
    parse value.stringify = some value := by
  rw [parse, stringify, readJson_text (by simp) value.wellFormed_toJson]
  exact h.ofJson_toJson

/-- Everything that is read has been read. -/
theorem isParsed_of_ofJson {json : Json} {value : JsValue} (h : ofJson json = some value) :
    value.IsParsed := by
  induction json using Json.induct generalizing value with
  | null => cases h; exact .null
  | bool flag => cases h; exact .bool flag
  | number literal =>
    rw [ofJson] at h
    obtain ⟨digits, hdigits, rfl⟩ := Option.map_eq_some_iff.mp h
    exact .number (isPrinted_of_readNumber hdigits)
  | string text => cases h; exact .string text
  | array items ih =>
    rw [ofJson, itemsOfJson_eq] at h
    obtain ⟨values, hvalues, rfl⟩ := Option.map_eq_some_iff.mp h
    rw [mapM_eq_some, List.forall₂_map_left_iff] at hvalues
    refine .array fun value hvalue => ?_
    obtain ⟨item, hitem, heq⟩ := exists_of_mem_of_forall₂ hvalues hvalue
    exact ih item hitem heq
  | object fields ih =>
    rw [ofJson, fieldsOfJson_eq] at h
    obtain ⟨values, hvalues, rfl⟩ := Option.map_eq_some_iff.mp h
    rw [allValues_eq_some] at hvalues
    refine .object ?_ fun field hfield => ?_
    · rw [← map_fst_of_forall₂ (fun _ _ h => h.1) hvalues]
      exact nodup_lastOfEach _
    · obtain ⟨source, hsource, -, heq⟩ := exists_of_mem_of_forall₂ hvalues hfield
      obtain ⟨original, horiginal, rfl⟩ := List.mem_map.mp (mem_of_mem_lastOfEach hsource)
      exact ih original horiginal heq

/-- Every value that a text is read as has been read. -/
theorem isParsed_of_parse {text : String} {value : JsValue} (h : parse text = some value) :
    value.IsParsed := by
  obtain ⟨json, -, hjson⟩ := Option.bind_eq_some_iff.mp h
  exact isParsed_of_ofJson hjson

/-- An object that has been read stays one if properties are set to what has been read. -/
theorem IsParsed.spread {fields overrides : List (String × JsValue)}
    (hfields : (JsValue.object fields).IsParsed)
    (hoverrides : (JsValue.object overrides).IsParsed) :
    (JsValue.object (spread fields overrides)).IsParsed := by
  obtain _ | _ | _ | _ | _ | ⟨hnames, hvalues⟩ := hfields
  obtain _ | _ | _ | _ | _ | ⟨hoverrideNames, hoverrideValues⟩ := hoverrides
  have hspread := nodup_spread hnames hoverrideNames
  refine .object hspread fun field hfield => ?_
  have hlookup := (KeyedTable.mem_iff_lookup hspread).mp hfield
  rw [lookup_spread, Option.or_eq_some_iff] at hlookup
  rcases hlookup with hoverride | ⟨-, hold⟩
  · exact hoverrideValues _ ((KeyedTable.mem_iff_lookup hoverrideNames).mpr hoverride)
  · exact hvalues _ ((KeyedTable.mem_iff_lookup hnames).mpr hold)

end JsValue

end LetletmeData.Library
