import Mathlib.Data.List.Sort
import Mathlib.Algebra.Order.Ring.Int

/-!
# Tables under a primary key

A table lists its rows under distinct keys. What a statement does to a table is determined
by the row it leaves under each key, so every operation below is described by `find`.
-/

namespace LetletmeData.Library

/-- The rows of a table, no two of which share their primary key. -/
structure KeyedTable (Key Row : Type*) where
  entries : List (Key × Row)
  distinct : (entries.map Prod.fst).Nodup

namespace KeyedTable

variable {Key Row : Type*} [DecidableEq Key]

/-- The table without rows. -/
def empty : KeyedTable Key Row := ⟨[], List.nodup_nil⟩

/-- The row under a key. -/
def find (table : KeyedTable Key Row) (key : Key) : Option Row := table.entries.lookup key

/-- `SELECT ... WHERE`. -/
def selectWhere (table : KeyedTable Key Row) (selected : Key → Row → Prop)
    [∀ key row, Decidable (selected key row)] : List (Key × Row) :=
  table.entries.filter fun entry => selected entry.1 entry.2

/-- `SELECT ... WHERE ... ORDER BY`. -/
def selectSorted (table : KeyedTable Key Row) (selected : Key → Row → Prop)
    [∀ key row, Decidable (selected key row)] (le : Key × Row → Key × Row → Prop)
    [DecidableRel le] : List (Key × Row) :=
  (table.selectWhere selected).insertionSort le

/-- `INSERT ... ON CONFLICT DO NOTHING` on the primary key. -/
def insertAbsent (table : KeyedTable Key Row) (key : Key) (row : Row) : KeyedTable Key Row :=
  if h : key ∈ table.entries.map Prod.fst then table
  else
    ⟨table.entries ++ [(key, row)], by
      rw [List.map_append, List.nodup_append']
      exact ⟨table.distinct, List.nodup_singleton key, by simpa using h⟩⟩

/-- `UPDATE ... SET ... WHERE`. -/
def updateWhere (table : KeyedTable Key Row) (selected : Key → Row → Prop)
    [∀ key row, Decidable (selected key row)] (write : Row → Row) : KeyedTable Key Row :=
  ⟨table.entries.map fun entry =>
      (entry.1, if selected entry.1 entry.2 then write entry.2 else entry.2), by
    rw [List.map_map]
    exact table.distinct⟩

/-- `DELETE ... WHERE`. -/
def deleteWhere (table : KeyedTable Key Row) (selected : Key → Row → Prop)
    [∀ key row, Decidable (selected key row)] : KeyedTable Key Row :=
  ⟨table.entries.filter fun entry => ¬ selected entry.1 entry.2,
    table.distinct.sublist (List.filter_sublist.map Prod.fst)⟩

/-- `INSERT ... ON CONFLICT DO UPDATE` on the primary key, replacing the whole row. -/
def upsert (table : KeyedTable Key Row) (key : Key) (row : Row) : KeyedTable Key Row :=
  (table.insertAbsent key row).updateWhere (fun other _ => other = key) fun _ => row

/-- `INSERT ... ON CONFLICT DO UPDATE` on the primary key, with a function of the present row. -/
def insertOrUpdate (table : KeyedTable Key Row) (key : Key) (row : Row) (update : Row → Row) :
    KeyedTable Key Row :=
  match table.find key with
  | some _ => table.updateWhere (fun other _ => other = key) update
  | none => table.insertAbsent key row

/-- In a list with distinct keys, an entry is the one its key looks up. -/
theorem mem_iff_lookup {entries : List (Key × Row)} (hdistinct : (entries.map Prod.fst).Nodup)
    {key : Key} {row : Row} : (key, row) ∈ entries ↔ entries.lookup key = some row := by
  induction entries with
  | nil => simp
  | cons entry rest ih =>
    rw [List.map_cons] at hdistinct
    obtain ⟨hfresh, hrest⟩ := List.nodup_cons.mp hdistinct
    rw [List.lookup_cons, List.mem_cons, Prod.ext_iff]
    by_cases hkey : key = entry.1
    · have hnot : (key, row) ∉ rest := fun hmem =>
        hfresh (hkey ▸ List.mem_map_of_mem (f := Prod.fst) hmem)
      subst hkey
      simp [hnot, eq_comm]
    · simp [hkey, beq_false_of_ne hkey, ih hrest]

variable {table : KeyedTable Key Row} {key : Key} {row : Row}

/-- A key is listed with the row that is found under it, and with no other. -/
theorem mem_entries_iff : (key, row) ∈ table.entries ↔ table.find key = some row :=
  mem_iff_lookup table.distinct

omit [DecidableEq Key] in
/-- Equal lists of entries make equal tables. -/
theorem ext_entries {left right : KeyedTable Key Row} (h : left.entries = right.entries) :
    left = right := by
  cases left
  cases right
  cases h
  rfl

/-- Nothing is found in the empty table. -/
@[simp] theorem find_empty : (empty : KeyedTable Key Row).find key = none := rfl

/-- A key without a row is not listed. -/
theorem find_eq_none_iff : table.find key = none ↔ key ∉ table.entries.map Prod.fst := by
  rw [Option.eq_none_iff_forall_ne_some]
  simp [← mem_entries_iff]

/-- A selection returns exactly the rows found that it selects. -/
theorem mem_selectWhere {selected : Key → Row → Prop} [∀ key row, Decidable (selected key row)] :
    (key, row) ∈ table.selectWhere selected ↔ table.find key = some row ∧ selected key row := by
  simp [selectWhere, mem_entries_iff]

/-- Sorting a selection returns the same rows. -/
theorem mem_selectSorted {selected : Key → Row → Prop} [∀ key row, Decidable (selected key row)]
    {le : Key × Row → Key × Row → Prop} [DecidableRel le] :
    (key, row) ∈ table.selectSorted selected le ↔
      table.find key = some row ∧ selected key row := by
  rw [selectSorted, List.mem_insertionSort, mem_selectWhere]

/-- An insertion leaves every present row and adds its own where there was none. -/
theorem find_insertAbsent (other : Key) :
    (table.insertAbsent key row).find other =
      (table.find other).or (if other = key then some row else none) := by
  unfold insertAbsent
  split
  next h =>
    obtain ⟨old, hold⟩ := Option.ne_none_iff_exists'.mp (mt find_eq_none_iff.mp (not_not.mpr h))
    by_cases hother : other = key
    · simp [hother, hold]
    · simp [hother]
  next h =>
    unfold find
    rw [List.lookup_append]
    congr 1
    by_cases hother : other = key
    · simp [hother]
    · simp [hother, List.lookup_cons, beq_false_of_ne hother]

/-- An insertion under a present key changes nothing. -/
theorem insertAbsent_of_find (h : table.find key ≠ none) : table.insertAbsent key row = table :=
  dif_pos (not_not.mp fun hnot => h (find_eq_none_iff.mpr hnot))

/-- An insertion under a new key is found there. -/
theorem find_insertAbsent_self (h : table.find key = none) :
    (table.insertAbsent key row).find key = some row := by
  simp [find_insertAbsent, h]

/-- An insertion keeps what was found. -/
theorem find_insertAbsent_of_find {other : Key} {old : Row} (h : table.find other = some old) :
    (table.insertAbsent key row).find other = some old := by
  simp [find_insertAbsent, h]

/-- An update rewrites the selected rows under their keys. -/
theorem find_updateWhere (selected : Key → Row → Prop) [∀ key row, Decidable (selected key row)]
    (write : Row → Row) (other : Key) :
    (table.updateWhere selected write).find other =
      (table.find other).map fun old => if selected other old then write old else old := by
  unfold find updateWhere
  dsimp only
  induction table.entries with
  | nil => rfl
  | cons entry rest ih =>
    rw [List.map_cons, List.lookup_cons, List.lookup_cons]
    by_cases hother : other = entry.1
    · simp [hother]
    · simpa only [beq_false_of_ne hother] using ih

/-- A deletion removes exactly the selected rows. -/
theorem find_deleteWhere (selected : Key → Row → Prop) [∀ key row, Decidable (selected key row)]
    (other : Key) :
    (table.deleteWhere selected).find other =
      (table.find other).filter fun old => ¬ selected other old := by
  refine Option.ext fun old => ?_
  rw [← mem_entries_iff, Option.filter_eq_some_iff, ← mem_entries_iff]
  simp [deleteWhere]

/-- A row that is not selected survives a deletion. -/
theorem find_deleteWhere_of_not {selected : Key → Row → Prop}
    [∀ key row, Decidable (selected key row)]
    (h : ∀ old, table.find key = some old → ¬ selected key old) :
    (table.deleteWhere selected).find key = table.find key := by
  rw [find_deleteWhere]
  cases hfind : table.find key with
  | none => rfl
  | some old => simp [h old hfind]

/-- What is found after a deletion was not selected. -/
theorem find_of_find_deleteWhere {selected : Key → Row → Prop}
    [∀ key row, Decidable (selected key row)]
    (h : (table.deleteWhere selected).find key = some row) :
    table.find key = some row ∧ ¬ selected key row := by
  rw [find_deleteWhere, Option.filter_eq_some_iff] at h
  exact ⟨h.1, of_decide_eq_true h.2⟩

/-- An upserted row is found under its key, the others stay. -/
theorem find_upsert (other : Key) :
    (table.upsert key row).find other =
      if other = key then some row else table.find other := by
  rw [upsert, find_updateWhere, find_insertAbsent]
  by_cases hother : other = key
  · cases hfind : table.find key <;> simp [hother, hfind]
  · simp [hother]

/-- The row under the key is inserted or updated, the others stay. -/
theorem find_insertOrUpdate (update : Row → Row) (other : Key) :
    (table.insertOrUpdate key row update).find other =
      if other = key then some ((table.find key).elim row update) else table.find other := by
  unfold insertOrUpdate
  split
  next old hold =>
    rw [find_updateWhere]
    by_cases hother : other = key
    · simp [hother, hold]
    · simp [hother]
  next hnone =>
    rw [find_insertAbsent]
    by_cases hother : other = key
    · simp [hother, hnone]
    · simp [hother]

omit [DecidableEq Key] in
/-- No row is listed twice. -/
theorem nodup_entries (table : KeyedTable Key Row) : table.entries.Nodup :=
  List.Nodup.of_map Prod.fst table.distinct

/-- Deleting a key that is not there changes nothing. -/
theorem deleteWhere_key_of_find_none (h : table.find key = none) :
    (table.deleteWhere fun other _ => other = key) = table := by
  refine ext_entries (List.filter_eq_self.mpr fun entry hentry => ?_)
  have hne : entry.1 ≠ key := by
    intro heq
    rw [← heq] at h
    exact find_eq_none_iff.mp h (List.mem_map_of_mem (f := Prod.fst) hentry)
  simpa using hne

/-- A table consists of the row under a key and what is left without it. -/
theorem perm_deleteWhere_key (h : table.find key = some row) :
    table.entries.Perm ((key, row) :: (table.deleteWhere fun other _ => other = key).entries) := by
  have hone : table.entries.filter (fun entry => decide (entry.1 = key)) = [(key, row)] := by
    refine List.perm_singleton.mp ((List.perm_ext_iff_of_nodup ((nodup_entries _).filter _)
      (List.nodup_singleton _)).mpr fun entry => ?_)
    rw [List.mem_filter, List.mem_singleton, decide_eq_true_eq]
    constructor
    · intro hentry
      have hfind := mem_entries_iff.mp hentry.1
      rw [hentry.2, h] at hfind
      exact Prod.ext hentry.2 (Option.some.inj hfind).symm
    · intro hentry
      rw [hentry]
      exact ⟨mem_entries_iff.mpr h, rfl⟩
  have hsplit := (List.filter_append_perm (fun entry => decide (entry.1 = key))
    table.entries).symm
  rw [hone] at hsplit
  simpa [deleteWhere] using hsplit

/-- A new row is added to the others. -/
theorem perm_upsert_of_find_none (h : table.find key = none) :
    (table.upsert key row).entries.Perm ((key, row) :: table.entries) := by
  have hnew : (key, row) ∉ table.entries := by
    rw [mem_entries_iff, h]
    exact (Option.some_ne_none row).symm
  refine (List.perm_ext_iff_of_nodup (nodup_entries _)
    (List.nodup_cons.mpr ⟨hnew, nodup_entries _⟩)).mpr fun entry => ?_
  obtain ⟨other, old⟩ := entry
  rw [mem_entries_iff, find_upsert, List.mem_cons, mem_entries_iff]
  by_cases hother : other = key
  · simp [hother, h, eq_comm]
  · simp [hother]

end KeyedTable

end LetletmeData.Library
