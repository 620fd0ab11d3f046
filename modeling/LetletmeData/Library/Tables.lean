import Mathlib.Algebra.BigOperators.Group.List.Basic
import Mathlib.Algebra.Order.Ring.Int
import Mathlib.Data.List.Nodup
import Mathlib.Data.List.Perm.Basic
import Mathlib.Order.Basic

/-!
# Tables as lists of rows

Rows that are merged under their keys, rows that nothing has written since, and rows in groups.
-/

namespace LetletmeData.Library

/-! ## Keyed tables

A table is a list of rows in which no two rows share a key. `INSERT ... ON CONFLICT DO
UPDATE` merges into the row with the same key or appends a new one.
-/

section KeyedTables

variable {Row Key : Type*} [DecidableEq Key] (key : Row → Key) (merge : Row → Row → Row)

/-- Merge a row into the one with its key, or append it. -/
def upsertRow (table : List Row) (row : Row) : List Row :=
  if ∃ old ∈ table, key old = key row then
    table.map fun old => if key old = key row then merge old row else old
  else table ++ [row]

/-- Upsert rows one after the other. -/
def upsertBatch (table rows : List Row) : List Row :=
  rows.foldl (upsertRow key merge) table

variable {key merge}

/-- Upserting a row whose key is present updates in place. -/
theorem upsertRow_of_mem {table : List Row} {row : Row} (h : ∃ old ∈ table, key old = key row) :
    upsertRow key merge table row =
      table.map fun old => if key old = key row then merge old row else old := if_pos h

/-- Upserting rows with distinct keys that are all present updates each of them in place. -/
theorem upsertBatch_eq_map (hmerge : ∀ old row, key old = key row → key (merge old row) = key old)
    (table rows : List Row) (hdistinct : (rows.map key).Nodup)
    (hpresent : ∀ row ∈ rows, ∃ old ∈ table, key old = key row) :
    upsertBatch key merge table rows = table.map fun old =>
      ((rows.find? fun row => key row = key old).map (merge old)).getD old := by
  induction rows generalizing table with
  | nil => simp [upsertBatch]
  | cons row rest ih =>
    have hkeep : ∀ old, key (if key old = key row then merge old row else old) = key old := by
      intro old
      split
      · next hsame => exact hmerge old row hsame
      · rfl
    have hrest : ∀ other ∈ rest, key other ≠ key row := by
      intro other hother heq
      exact (List.nodup_cons.mp hdistinct).1 (heq ▸ List.mem_map_of_mem hother)
    rw [upsertBatch, List.foldl_cons, upsertRow_of_mem (hpresent row List.mem_cons_self)]
    change upsertBatch key merge _ rest = _
    rw [ih _ (List.nodup_cons.mp hdistinct).2, List.map_map]
    · refine List.map_congr_left fun old _ => ?_
      simp only [Function.comp_apply, hkeep]
      by_cases hsame : key old = key row
      · have hnone : (rest.find? fun other => key other = key old) = none := by
          simpa [hsame] using hrest
        simp [hsame]
        rw [hsame] at hnone
        simp [hnone]
      · simp [hsame, Ne.symm hsame]
    · intro other hother
      obtain ⟨old, hold, heq⟩ := hpresent other (List.mem_cons_of_mem row hother)
      exact ⟨_, List.mem_map_of_mem hold, (hkeep old).trans heq⟩

omit [DecidableEq Key] in
/-- Rows derived from a table whose keys they keep have distinct keys as well. -/
theorem nodup_filterMap_key {update : Row → Option Row}
    (hkey : ∀ old row, update old = some row → key row = key old) {table : List Row}
    (hdistinct : (table.map key).Nodup) : ((table.filterMap update).map key).Nodup := by
  rw [List.Nodup, List.pairwise_map] at hdistinct ⊢
  rw [List.pairwise_filterMap]
  refine hdistinct.imp fun {left right} hne leftRow hleft rightRow hright heq => hne ?_
  rw [← hkey left leftRow hleft, ← hkey right rightRow hright, heq]

/-- Upserting updates of selected rows of a table changes exactly these rows, in place. -/
theorem upsertBatch_filterMap
    (hmerge : ∀ old row, key old = key row → key (merge old row) = key old)
    {update : Row → Option Row} (hkey : ∀ old row, update old = some row → key row = key old)
    {table : List Row} (hdistinct : (table.map key).Nodup) :
    upsertBatch key merge table (table.filterMap update) =
      table.map fun old => ((update old).map (merge old)).getD old := by
  have hsource : ∀ old ∈ table, ∀ row ∈ table.filterMap update, key row = key old →
      update old = some row := by
    intro old hold row hrow heq
    obtain ⟨origin, horigin, hupdate⟩ := List.mem_filterMap.mp hrow
    have hsame : origin = old :=
      List.inj_on_of_nodup_map hdistinct horigin hold ((hkey origin row hupdate) ▸ heq)
    rwa [hsame] at hupdate
  rw [upsertBatch_eq_map hmerge _ _ (nodup_filterMap_key hkey hdistinct)]
  · refine List.map_congr_left fun old hold => ?_
    cases hfind : (table.filterMap update).find? fun row => key row = key old with
    | some row =>
      have hrow := List.mem_of_find?_eq_some hfind
      have heq : key row = key old := by simpa using List.find?_some hfind
      rw [hsource old hold row hrow heq]
    | none =>
      cases hupdate : update old with
      | none => rfl
      | some row =>
        have hrow : row ∈ table.filterMap update := List.mem_filterMap.mpr ⟨old, hold, hupdate⟩
        have habsent := List.find?_eq_none.mp hfind row hrow
        exact absurd (hkey old row hupdate) (by simpa using habsent)
  · intro row hrow
    obtain ⟨old, hold, hupdate⟩ := List.mem_filterMap.mp hrow
    exact ⟨old, hold, (hkey old row hupdate).symm⟩

/-- Upserting updates of the rows that satisfy a condition, in whatever order they were read,
changes exactly these rows, in place. -/
theorem upsertBatch_map_of_perm
    (hmerge : ∀ old row, key old = key row → key (merge old row) = key old)
    {update : Row → Row} (hkey : ∀ old, key (update old) = key old) {selected : Row → Bool}
    {table picked : List Row} (hpicked : picked.Perm (table.filter selected))
    (hdistinct : (table.map key).Nodup) :
    upsertBatch key merge table (picked.map update) =
      table.map fun old => if selected old then merge old (update old) else old := by
  have hmem : ∀ row, row ∈ picked ↔ row ∈ table ∧ selected row := fun row => by
    rw [hpicked.mem_iff, List.mem_filter]
  have hkeys : (picked.map update).map key = picked.map key := by
    rw [List.map_map]
    exact List.map_congr_left fun old _ => hkey old
  rw [upsertBatch_eq_map hmerge]
  · refine List.map_congr_left fun old hold => ?_
    cases hfind : (picked.map update).find? fun row => key row = key old with
    | some row =>
      obtain ⟨origin, horigin, rfl⟩ := List.mem_map.mp (List.mem_of_find?_eq_some hfind)
      have heq : key (update origin) = key old := by simpa using List.find?_some hfind
      obtain ⟨hstored, hselected⟩ := (hmem origin).mp horigin
      have hsame : origin = old :=
        List.inj_on_of_nodup_map hdistinct hstored hold ((hkey origin).symm.trans heq)
      rw [← hsame, if_pos hselected]
      rfl
    | none =>
      have hother : ¬ selected old := fun hselected =>
        List.find?_eq_none.mp hfind _ (List.mem_map_of_mem ((hmem old).mpr ⟨hold, hselected⟩))
          (decide_eq_true (hkey old))
      rw [if_neg hother]
      rfl
  · rw [hkeys, (hpicked.map key).nodup_iff]
    exact hdistinct.sublist (List.filter_sublist.map key)
  · intro row hrow
    obtain ⟨old, hold, rfl⟩ := List.mem_map.mp hrow
    exact ⟨old, ((hmem old).mp hold).1, (hkey old).symm⟩

/-- A key that is listed is found with one of its values. -/
theorem exists_lookup_of_mem {Value : Type*} {updates : List (Key × Value)} {k : Key} {value : Value}
    (h : (k, value) ∈ updates) :
    ∃ found, updates.lookup k = some found ∧ (k, found) ∈ updates := by
  obtain ⟨found, hfound⟩ := Option.isSome_iff_exists.mp
    (List.lookup_isSome_iff.mpr ⟨(k, value), h, beq_self_eq_true k⟩)
  obtain ⟨before, after, hsplit, -⟩ := List.lookup_eq_some_iff.mp hfound
  exact ⟨found, hfound, by simp [hsplit]⟩

/-- Counting by key, over distinct keys that cover a list, counts the whole list. -/
theorem sum_countP_key {Item : Type*} (keyOf : Item → Key) {keys : List Key}
    (hdistinct : keys.Nodup) (counted : Item → Bool) {items : List Item}
    (hkeys : ∀ item ∈ items, keyOf item ∈ keys) :
    (keys.map fun k => items.countP fun item => keyOf item = k && counted item).sum =
      items.countP counted := by
  induction items with
  | nil => simp
  | cons item rest ih =>
    have hrest := ih fun other hother => hkeys other (List.mem_cons_of_mem item hother)
    have hown : (keys.map fun k => if (keyOf item = k && counted item) = true then 1 else 0).sum =
        if counted item = true then 1 else 0 := by
      cases hcounted : counted item with
      | true =>
        have hone : (keys.filter fun k => keyOf item = k).length = 1 := by
          simp only [eq_comm (a := keyOf item), List.filter_eq, List.length_replicate]
          exact List.count_eq_one_of_mem hdistinct (hkeys item List.mem_cons_self)
        simp [List.sum_map_ite, hone]
      | false => simp
    simp only [List.countP_cons, List.sum_map_add, hrest, hown]

end KeyedTables

/-! ## Rows that have stood since

Every write leaves a row with a later stamp than all before it. A row that bears a stamp of the
past has therefore stood since then. Rows may have gone in the meantime, and what tells that none
has gone is how many there are under each key.
-/

section UnwrittenRows

variable {Row : Type*} (stamp : Row → ℕ) {read : ℕ} {earlier between later : List Row}

/-- The later rows that are stamped no later than a reading stood when the earlier rows were read,
and in the same order. -/
def UnwrittenSince (read : ℕ) (earlier later : List Row) : Prop :=
  (later.filter fun row => stamp row ≤ read).Sublist earlier

variable {stamp}

/-- Nothing has happened. -/
theorem UnwrittenSince.refl (read : ℕ) (rows : List Row) : UnwrittenSince stamp read rows rows :=
  List.filter_sublist

/-- Rows may go. -/
theorem UnwrittenSince.sublist {rows : List Row} (h : UnwrittenSince stamp read earlier later)
    (hrows : rows.Sublist later) : UnwrittenSince stamp read earlier rows :=
  (hrows.filter _).trans h

/-- Rows with later stamps may come. -/
theorem UnwrittenSince.append {rows : List Row} (h : UnwrittenSince stamp read earlier later)
    (hrows : ∀ row ∈ rows, read < stamp row) :
    UnwrittenSince stamp read earlier (later ++ rows) := by
  have hnone : rows.filter (fun row => stamp row ≤ read) = [] := by
    apply List.filter_eq_nil_iff.mpr
    intro row hrow
    simpa using hrows row hrow
  unfold UnwrittenSince
  rw [List.filter_append, hnone, List.append_nil]
  exact h

/-- Selected rows that are all stamped no later than the reading stood when it was made. -/
theorem UnwrittenSince.filter {selected : Row → Bool}
    (h : UnwrittenSince stamp read earlier later)
    (hold : ∀ row ∈ later, selected row → stamp row ≤ read) :
    (later.filter selected).Sublist (earlier.filter selected) := by
  have hall : later.filter selected =
      (later.filter fun row => stamp row ≤ read).filter selected := by
    rw [List.filter_filter]
    apply List.filter_congr
    intro row hrow
    cases hselected : selected row with
    | false => rfl
    | true => simpa using hold row hrow hselected
  rw [hall]
  exact List.Sublist.filter selected h

/-- No row has gone when there are as many as before under each key. -/
theorem sublist_eq_of_countP {Key : Type*} [DecidableEq Key] (key : Row → Key)
    (h : later.Sublist earlier)
    (hcount : ∀ k, later.countP (key · = k) = earlier.countP (key · = k)) : later = earlier := by
  induction h with
  | slnil => rfl
  | @cons later earlier row h ih =>
    -- the row that is left out is missing under its key
    have hmissing := hcount (key row)
    have hle : later.countP (key · = key row) ≤ earlier.countP (key · = key row) := h.countP_le
    simp only [List.countP_cons, decide_true, if_true] at hmissing
    omega
  | @cons_cons later earlier row h ih =>
    congr 1
    apply ih
    intro k
    have hk := hcount k
    simp only [List.countP_cons] at hk
    omega

end UnwrittenRows

/-! ## Values grouped by a key

The groups of a list stand in the order in which their keys appear first, and within a group the
values stay in order. Every kept value is in the group of its key, and in no other.
-/

section Grouping

variable {Key Value : Type*} [DecidableEq Key]

end Grouping

end LetletmeData.Library
