import LetletmeData.Library.KeyedTables
import LetletmeData.Library.ScriptValues

/-!
# Objects of the language

The properties of an object are found by their names. Two objects have the same content when the
same names lead to the same content. A value that is written and read again has the texts of its
dates in their places.
-/

namespace LetletmeData.Library

section Entries

variable {κ α β : Type*} [DecidableEq κ]

/-- A name that nothing is found under is no name of the entries. -/
theorem lookup_eq_none {entries : List (κ × α)} {name : κ} :
    entries.lookup name = none ↔ name ∉ entries.map Prod.fst := by
  rw [List.lookup_eq_none_iff, List.mem_map, not_exists]
  exact ⟨fun h entry ⟨hentry, heq⟩ => by simpa [heq] using h entry hentry,
    fun h entry hentry => by simpa using fun heq => h entry ⟨hentry, heq.symm⟩⟩

/-- What entries are turned into is found under the same names. -/
theorem lookup_map (f : κ → α → β) (entries : List (κ × α)) (name : κ) :
    (entries.map fun entry => (entry.1, f entry.1 entry.2)).lookup name =
      (entries.lookup name).map (f name) := by
  induction entries with
  | nil => rfl
  | cons entry entries ih =>
    rw [List.map_cons, List.lookup_cons, List.lookup_cons, ih]
    by_cases hname : name = entry.1
    · simp [hname]
    · simp [beq_false_of_ne hname]

/-- Entries are left out by their names. -/
theorem lookup_filter (keep : κ → Bool) (entries : List (κ × α)) (name : κ) :
    (entries.filter fun entry => keep entry.1).lookup name =
      if keep name then entries.lookup name else none := by
  induction entries with
  | nil => simp
  | cons entry entries ih =>
    obtain ⟨key, value⟩ := entry
    rw [List.filter_cons, List.lookup_cons]
    by_cases hname : name = key
    · subst hname
      cases hkeep : keep name <;> simp [ih, hkeep]
    · have hne := beq_false_of_ne hname
      cases hkeep : keep key <;> simp [List.lookup_cons, hne, ih]

omit [DecidableEq κ] in
/-- Entries that have the same names one by one have the same names. -/
theorem map_fst_of_forall₂ {related : κ × α → κ × β → Prop}
    (hrelated : ∀ left right, related left right → left.1 = right.1)
    {lefts : List (κ × α)} {rights : List (κ × β)}
    (h : List.Forall₂ related lefts rights) : lefts.map Prod.fst = rights.map Prod.fst := by
  induction h with
  | nil => rfl
  | cons hhead _ ih => rw [List.map_cons, List.map_cons, hrelated _ _ hhead, ih]

end Entries

namespace JsValue

/-! ### Properties -/

/-- Objects of the same content have the same names. -/
theorem SameContent.perm_names {fields others : List (String × JsValue)}
    (h : SameContent (.object fields) (.object others)) (hfields : (fields.map Prod.fst).Nodup) :
    (fields.map Prod.fst).Perm (others.map Prod.fst) := by
  obtain ⟨hlength, hamong⟩ := sameContent_object.mp h
  have hsubset : ∀ name ∈ fields.map Prod.fst, name ∈ others.map Prod.fst := by
    intro name hname
    obtain ⟨field, hfield, rfl⟩ := List.mem_map.mp hname
    obtain ⟨other, hother, -⟩ := hamong field hfield
    exact List.mem_map.mpr ⟨_, hother, rfl⟩
  exact (List.subperm_of_subset hfields hsubset).perm_of_length_le (by simpa using hlength.ge)

/-- Objects have the same content if the same names lead to the same content. -/
theorem sameContent_object_iff {fields others : List (String × JsValue)}
    (hfields : (fields.map Prod.fst).Nodup) (hothers : (others.map Prod.fst).Nodup) :
    SameContent (.object fields) (.object others) ↔
      ∀ name, Option.Rel SameContent (fields.lookup name) (others.lookup name) := by
  constructor
  · intro h name
    cases hlookup : fields.lookup name with
    | some value =>
      obtain ⟨other, hother, hsame⟩ :=
        (sameContent_object.mp h).2 _ ((KeyedTable.mem_iff_lookup hfields).mpr hlookup)
      rw [(KeyedTable.mem_iff_lookup hothers).mp hother]
      exact .some hsame
    | none =>
      have hperm := h.perm_names hfields
      rw [lookup_eq_none.mpr fun hmem => lookup_eq_none.mp hlookup (hperm.mem_iff.mpr hmem)]
      exact .none
  · intro h
    have hkeys : ∀ name, name ∈ fields.map Prod.fst ↔ name ∈ others.map Prod.fst := by
      intro name
      rw [← not_iff_not, ← lookup_eq_none, ← lookup_eq_none]
      have hrel := h name
      generalize fields.lookup name = left at hrel
      generalize others.lookup name = right at hrel
      cases hrel <;> simp
    refine sameContent_object.mpr ⟨?_, fun field hfield => ?_⟩
    · have hperm := (List.perm_ext_iff_of_nodup hfields hothers).mpr hkeys
      simpa using hperm.length_eq
    · have hrel := h field.1
      rw [(KeyedTable.mem_iff_lookup hfields).mp hfield] at hrel
      cases hlookup : others.lookup field.1 with
      | none => rw [hlookup] at hrel; cases hrel
      | some other =>
        rw [hlookup] at hrel
        cases hrel with
        | some hsame => exact ⟨other, (KeyedTable.mem_iff_lookup hothers).mpr hlookup, hsame⟩

/-- What has the content of an object is an object. -/
theorem SameContent.exists_object {fields : List (String × JsValue)} {other : JsValue}
    (h : SameContent (.object fields) other) : ∃ others, other = .object others := by
  cases other with
  | object others => exact ⟨others, rfl⟩
  | _ => simp [SameContent] at h

/-- What has the content of an array is an array. -/
theorem SameContent.exists_array {items : List JsValue} {other : JsValue}
    (h : SameContent (.array items) other) :
    ∃ others, other = .array others ∧ List.Forall₂ SameContent items others := by
  cases other with
  | array others => exact ⟨others, rfl, sameContent_array.mp h⟩
  | _ => simp [SameContent] at h

/-- `{ ...fields, ...overrides }`, where the names of the overrides are distinct. -/
def spread (fields overrides : List (String × JsValue)) : List (String × JsValue) :=
  (fields.map fun field => (field.1, (overrides.lookup field.1).getD field.2)) ++
    overrides.filter fun override => override.1 ∉ fields.map Prod.fst

/-- An override is found under its name, and otherwise what was there. -/
theorem lookup_spread (fields overrides : List (String × JsValue)) (name : String) :
    (spread fields overrides).lookup name = (overrides.lookup name).or (fields.lookup name) := by
  rw [spread, List.lookup_append,
    lookup_map (fun name value => (overrides.lookup name).getD value) fields name,
    lookup_filter (fun name => decide (name ∉ fields.map Prod.fst)) overrides name]
  cases hfield : fields.lookup name with
  | none =>
    have hname := lookup_eq_none.mp hfield
    simp only [Option.map_none, Option.none_or, hname, not_false_eq_true, decide_true, if_true,
      Option.or_none]
  | some value => cases overrides.lookup name <;> rfl

/-- The names stay in their order, and new ones follow. -/
theorem map_fst_spread (fields overrides : List (String × JsValue)) :
    (spread fields overrides).map Prod.fst = fields.map Prod.fst ++
      (overrides.filter fun override => override.1 ∉ fields.map Prod.fst).map Prod.fst := by
  rw [spread, List.map_append, List.map_map]
  rfl

/-- The names stay distinct. -/
theorem nodup_spread {fields overrides : List (String × JsValue)}
    (hfields : (fields.map Prod.fst).Nodup) (hoverrides : (overrides.map Prod.fst).Nodup) :
    ((spread fields overrides).map Prod.fst).Nodup := by
  rw [map_fst_spread]
  refine List.Nodup.append hfields ?_ ?_
  · exact hoverrides.sublist (List.filter_sublist.map Prod.fst)
  · intro name hname hoverride
    obtain ⟨override, hmem, rfl⟩ := List.mem_map.mp hoverride
    have hnot := of_decide_eq_true (List.mem_filter.mp hmem).2
    exact hnot hname

/-- Fields that have the same content one by one are found under the same names. -/
theorem rel_lookup_of_forall₂ {fields others : List (String × JsValue)}
    (h : List.Forall₂ (fun field other => other.1 = field.1 ∧ field.2.SameContent other.2) fields
      others) (name : String) :
    Option.Rel SameContent (fields.lookup name) (others.lookup name) := by
  induction h with
  | nil => exact .none
  | @cons field other _ _ hfield _ ih =>
    rw [List.lookup_cons, List.lookup_cons, hfield.1]
    split
    · exact .some hfield.2
    · exact ih

/-- Fields that have the same content one by one make objects of the same content. -/
theorem sameContent_of_forall₂ {fields others : List (String × JsValue)}
    (hfields : (fields.map Prod.fst).Nodup)
    (h : List.Forall₂ (fun field other => other.1 = field.1 ∧ field.2.SameContent other.2) fields
      others) : SameContent (.object fields) (.object others) := by
  refine (sameContent_object_iff hfields ?_).mpr (rel_lookup_of_forall₂ h)
  rw [← map_fst_of_forall₂ (fun _ _ h => h.1.symm) h]
  exact hfields

/-- An object whose fields are all overridden has the content of the overrides. -/
theorem sameContent_spread {fields other overrides : List (String × JsValue)}
    (hfields : (fields.map Prod.fst).Nodup)
    (hnames : (fields.map Prod.fst).Perm (other.map Prod.fst))
    (h : List.Forall₂ (fun field override => override.1 = field.1 ∧
      field.2.SameContent override.2) fields overrides) :
    SameContent (.object fields) (.object (spread other overrides)) := by
  have hoverrides : (overrides.map Prod.fst).Nodup := by
    rw [← map_fst_of_forall₂ (fun _ _ h => h.1.symm) h]
    exact hfields
  refine (sameContent_object_iff hfields
    (nodup_spread (hnames.nodup_iff.mp hfields) hoverrides)).mpr fun name => ?_
  have hrel := rel_lookup_of_forall₂ h name
  rw [lookup_spread]
  cases hfield : fields.lookup name with
  | some value =>
    rw [hfield] at hrel
    generalize overrides.lookup name = override at hrel
    cases hrel with
    | some hsame => exact .some hsame
  | none =>
    rw [hfield] at hrel
    have hother : other.lookup name = none :=
      lookup_eq_none.mpr fun hmem => lookup_eq_none.mp hfield (hnames.mem_iff.mpr hmem)
    generalize overrides.lookup name = override at hrel
    cases hrel with
    | none => rw [hother]; exact .none

/-! ### Writing and reading again -/

mutual

/-- `JSON.parse(JSON.stringify(value))`: dates become their texts. -/
def reparsed : JsValue → JsValue
  | .date value => .string value.toISOString
  | .array items => .array (reparsedItems items)
  | .object fields => .object (reparsedFields fields)
  | .null => .null
  | .bool value => .bool value
  | .number value => .number value
  | .string value => .string value

/-- The items of an array, written and read again. -/
def reparsedItems : List JsValue → List JsValue
  | [] => []
  | item :: items => item.reparsed :: reparsedItems items

/-- The fields of an object, written and read again. -/
def reparsedFields : List (String × JsValue) → List (String × JsValue)
  | [] => []
  | field :: fields => reparsedField field :: reparsedFields fields

/-- A field, written and read again. -/
def reparsedField : String × JsValue → String × JsValue
  | (name, value) => (name, value.reparsed)

end

/-- Items are written and read one by one. -/
@[simp] theorem reparsedItems_eq (items : List JsValue) :
    reparsedItems items = items.map reparsed := by
  induction items with
  | nil => rfl
  | cons item items ih => rw [reparsedItems, ih, List.map_cons]

/-- Fields are written and read one by one. -/
@[simp] theorem reparsedFields_eq (fields : List (String × JsValue)) :
    reparsedFields fields = fields.map fun field => (field.1, field.2.reparsed) := by
  induction fields with
  | nil => rfl
  | cons field fields ih =>
    obtain ⟨name, value⟩ := field
    rw [reparsedFields, ih, List.map_cons, reparsedField]

/-- What is read has no dates. -/
theorem dateFree_reparsed (value : JsValue) : value.reparsed.DateFree := by
  induction value using induct with
  | null => exact .null
  | bool value => exact .bool value
  | number value => exact .number value
  | string value => exact .string value
  | date value => exact .string _
  | array items ih =>
    rw [reparsed, reparsedItems_eq]
    exact .array (List.forall_mem_map.mpr ih)
  | object fields ih =>
    rw [reparsed, reparsedFields_eq]
    exact .object (List.forall_mem_map.mpr ih)

/-- Names stay distinct. -/
theorem DistinctKeys.reparsed {value : JsValue} (h : value.DistinctKeys) :
    value.reparsed.DistinctKeys := by
  induction h with
  | null => exact .null
  | bool value => exact .bool value
  | number value => exact .number value
  | string value => exact .string value
  | date value => exact .string _
  | array _ ih =>
    rw [JsValue.reparsed, reparsedItems_eq]
    exact .array (List.forall_mem_map.mpr ih)
  | object keys _ ih =>
    rw [JsValue.reparsed, reparsedFields_eq]
    refine .object ?_ (List.forall_mem_map.mpr ih)
    rw [List.map_map]
    exact keys

end JsValue

end LetletmeData.Library
