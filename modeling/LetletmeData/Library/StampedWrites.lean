import LetletmeData.Library.KeyedTables
import Mathlib

/-!
# Stores of stamped rows

Rows carry a stamp, and a log holds the key and the stamp of every write. A store shows the
newest of its writes when no logged stamp is above that of the row under its key. A store that
refuses older rows always does; one that overwrites does as long as its writes come in the order
of their stamps.
-/

namespace LetletmeData.Library

variable {Key Row : Type*} [DecidableEq Key] (stamp : Row → ℤ)

/-- Every logged write is at most as new as the row shown, and every row shown is logged. -/
structure ShowsNewest (table : KeyedTable Key Row) (log : List (Key × ℤ)) : Prop where
  newest : ∀ key time, (key, time) ∈ log → ∃ row, table.find key = some row ∧ time ≤ stamp row
  logged : ∀ key row, table.find key = some row → (key, stamp row) ∈ log

/-- No row gives way to an older one. -/
def NeverOlder (before after : KeyedTable Key Row) : Prop :=
  ∀ key row, before.find key = some row →
    ∃ row', after.find key = some row' ∧ stamp row ≤ stamp row'

/-- What a list of writes adds to the log. -/
def stampsOf (writes : List (Key × Row)) : List (Key × ℤ) :=
  writes.map fun write => (write.1, stamp write.2)

/-- The writes one after the other, the last under a key staying. -/
def overwriteAll (table : KeyedTable Key Row) (writes : List (Key × Row)) : KeyedTable Key Row :=
  writes.foldl (fun table write => table.upsert write.1 write.2) table

/-- A write that does not replace a newer row. -/
def upsertNewer (table : KeyedTable Key Row) (write : Key × Row) : KeyedTable Key Row :=
  match table.find write.1 with
  | none => table.upsert write.1 write.2
  | some stored =>
    if stamp stored ≤ stamp write.2 then table.upsert write.1 write.2 else table

/-- The writes one after the other, none replacing a newer row. -/
def upsertAllNewer (table : KeyedTable Key Row) (writes : List (Key × Row)) :
    KeyedTable Key Row :=
  writes.foldl (upsertNewer stamp) table

variable {stamp} {table before middle after : KeyedTable Key Row} {log : List (Key × ℤ)}
  {writes : List (Key × Row)}

/-- A store that does not change never becomes older. -/
theorem NeverOlder.refl (table : KeyedTable Key Row) : NeverOlder stamp table table :=
  fun _ row h => ⟨row, h, le_rfl⟩

/-- Never becoming older composes. -/
theorem NeverOlder.trans (h : NeverOlder stamp before middle)
    (h' : NeverOlder stamp middle after) : NeverOlder stamp before after := by
  intro key row hrow
  obtain ⟨row', hrow', hle⟩ := h key row hrow
  obtain ⟨row'', hrow'', hle'⟩ := h' key row' hrow'
  exact ⟨row'', hrow'', hle.trans hle'⟩

/-- Writing a row leaves the other keys as they are. -/
theorem NeverOlder.upsert {key : Key} {row : Row}
    (h : ∀ stored, table.find key = some stored → stamp stored ≤ stamp row) :
    NeverOlder stamp table (table.upsert key row) := by
  intro other stored hstored
  rw [KeyedTable.find_upsert]
  split
  · rename_i hother
    subst hother
    exact ⟨row, rfl, h stored hstored⟩
  · exact ⟨stored, hstored, le_rfl⟩

/-- An older row is refused, so the store never becomes older. -/
theorem NeverOlder.upsertNewer (table : KeyedTable Key Row) (write : Key × Row) :
    NeverOlder stamp table (upsertNewer stamp table write) := by
  unfold Library.upsertNewer
  split
  · rename_i hnone
    exact NeverOlder.upsert fun stored hstored => by rw [hnone] at hstored; cases hstored
  · rename_i stored hstored
    split
    · rename_i hle
      refine NeverOlder.upsert fun other hother => ?_
      rw [← Option.some.inj (hstored.symm.trans hother)]
      exact hle
    · exact NeverOlder.refl table

/-- Nor with any number of writes. -/
theorem NeverOlder.upsertAllNewer (table : KeyedTable Key Row) (writes : List (Key × Row)) :
    NeverOlder stamp table (upsertAllNewer stamp table writes) := by
  induction writes generalizing table with
  | nil => exact NeverOlder.refl table
  | cons write rest ih => exact (NeverOlder.upsertNewer table write).trans (ih _)

/-- A row that is not older than what is logged under its key is shown as the newest. -/
theorem ShowsNewest.upsert (h : ShowsNewest stamp table log) {key : Key} {row : Row}
    (hnewest : ∀ time, (key, time) ∈ log → time ≤ stamp row) :
    ShowsNewest stamp (table.upsert key row) (log ++ [(key, stamp row)]) := by
  refine ⟨?_, ?_⟩
  · intro other time hmem
    rw [KeyedTable.find_upsert]
    split
    · rename_i hother
      subst hother
      refine ⟨row, rfl, ?_⟩
      cases List.mem_append.mp hmem with
      | inl hlogged => exact hnewest time hlogged
      | inr hnew => exact (Prod.mk.inj (List.mem_singleton.mp hnew)).2.le
    · rename_i hother
      cases List.mem_append.mp hmem with
      | inl hlogged => exact h.newest other time hlogged
      | inr hnew => exact absurd (Prod.mk.inj (List.mem_singleton.mp hnew)).1 hother
  · intro other stored hstored
    rw [KeyedTable.find_upsert] at hstored
    split at hstored
    · rename_i hother
      rw [hother, ← Option.some.inj hstored]
      exact List.mem_append_right _ (List.mem_singleton_self _)
    · exact List.mem_append_left _ (h.logged other stored hstored)

/-- A write that may be refused is shown, or what it does not replace is newer. -/
theorem ShowsNewest.upsertNewer (h : ShowsNewest stamp table log) (write : Key × Row) :
    ShowsNewest stamp (upsertNewer stamp table write) (log ++ [(write.1, stamp write.2)]) := by
  unfold Library.upsertNewer
  split
  · rename_i hnone
    apply h.upsert
    intro time hmem
    obtain ⟨row, hrow, -⟩ := h.newest write.1 time hmem
    rw [hnone] at hrow
    cases hrow
  · rename_i stored hstored
    split
    · rename_i hle
      apply h.upsert
      intro time hmem
      obtain ⟨row, hrow, htime⟩ := h.newest write.1 time hmem
      rw [Option.some.inj (hstored.symm.trans hrow)] at hle
      exact htime.trans hle
    · rename_i hgt
      refine ⟨?_, fun key row hrow => List.mem_append_left _ (h.logged key row hrow)⟩
      intro key time hmem
      cases List.mem_append.mp hmem with
      | inl hlogged => exact h.newest key time hlogged
      | inr hnew =>
        obtain ⟨rfl, rfl⟩ := Prod.mk.inj (List.mem_singleton.mp hnew)
        exact ⟨stored, hstored, (not_le.mp hgt).le⟩

/-- A store that refuses older rows shows the newest of all its writes. -/
theorem ShowsNewest.upsertAllNewer (h : ShowsNewest stamp table log)
    (writes : List (Key × Row)) :
    ShowsNewest stamp (upsertAllNewer stamp table writes) (log ++ stampsOf stamp writes) := by
  induction writes generalizing table log with
  | nil => simpa [Library.upsertAllNewer, stampsOf] using h
  | cons write rest ih =>
    simpa [Library.upsertAllNewer, stampsOf] using ih (h.upsertNewer write)

/-- Writes that come in the order of their stamps, also after those that are logged. -/
structure InOrder (stamp : Row → ℤ) (log : List (Key × ℤ)) (writes : List (Key × Row)) :
    Prop where
  among : writes.Pairwise fun earlier later =>
    earlier.1 = later.1 → stamp earlier.2 ≤ stamp later.2
  logged : ∀ write ∈ writes, ∀ time, (write.1, time) ∈ log → time ≤ stamp write.2

/-- Overwriting in order shows the newest, and never becomes older. -/
theorem ShowsNewest.overwriteAll (h : ShowsNewest stamp table log)
    (horder : InOrder stamp log writes) :
    ShowsNewest stamp (overwriteAll table writes) (log ++ stampsOf stamp writes) ∧
      NeverOlder stamp table (overwriteAll table writes) := by
  induction writes generalizing table log with
  | nil => exact ⟨by simpa [Library.overwriteAll, stampsOf] using h, NeverOlder.refl table⟩
  | cons write rest ih =>
    have hfirst := horder.logged write List.mem_cons_self
    have hpairs := List.pairwise_cons.mp horder.among
    have horder' : InOrder stamp (log ++ [(write.1, stamp write.2)]) rest := by
      refine ⟨hpairs.2, ?_⟩
      intro later hlater time hmem
      cases List.mem_append.mp hmem with
      | inl hlogged => exact horder.logged later (List.mem_cons_of_mem _ hlater) time hlogged
      | inr hnew =>
        obtain ⟨hkey, rfl⟩ := Prod.mk.inj (List.mem_singleton.mp hnew)
        exact hpairs.1 later hlater hkey.symm
    have hrest := ih (h.upsert hfirst) horder'
    refine ⟨by simpa [Library.overwriteAll, stampsOf] using hrest.1, ?_⟩
    refine NeverOlder.trans (NeverOlder.upsert fun stored hstored => ?_) hrest.2
    exact hfirst _ (h.logged write.1 stored hstored)

/-- Under a key that is written the last of its writes is found, under another what was there. -/
theorem find_overwriteAll (table : KeyedTable Key Row) (writes : List (Key × Row)) (key : Key) :
    (∃ row, (key, row) ∈ writes ∧ (overwriteAll table writes).find key = some row) ∨
      ((∀ write ∈ writes, write.1 ≠ key) ∧
        (overwriteAll table writes).find key = table.find key) := by
  induction writes generalizing table with
  | nil => exact Or.inr ⟨by simp, rfl⟩
  | cons write rest ih =>
    cases ih (table.upsert write.1 write.2) with
    | inl hlater =>
      obtain ⟨row, hmem, hfind⟩ := hlater
      exact Or.inl ⟨row, List.mem_cons_of_mem _ hmem, hfind⟩
    | inr hnone =>
      obtain ⟨hother, hfind⟩ := hnone
      rw [KeyedTable.find_upsert] at hfind
      split at hfind
      · rename_i hkey
        exact Or.inl ⟨write.2, by rw [hkey]; exact List.mem_cons_self, hfind⟩
      · rename_i hkey
        refine Or.inr ⟨?_, hfind⟩
        intro other hmem
        cases List.mem_cons.mp hmem with
        | inl heq => exact fun h => hkey (by rw [← h, heq])
        | inr hrest => exact hother other hrest

/-- Writes with one stamp for each key are in order when they are not older than the log. -/
theorem InOrder.of_same
    (hsame : ∀ write ∈ writes, ∀ other ∈ writes, write.1 = other.1 →
      stamp write.2 = stamp other.2)
    (hlogged : ∀ write ∈ writes, ∀ time, (write.1, time) ∈ log → time ≤ stamp write.2) :
    InOrder stamp log writes := by
  have hany : writes.Pairwise fun _ _ => True := List.pairwise_of_forall fun _ _ => trivial
  refine ⟨hany.imp_of_mem fun hleft hright _ hkey => ?_, hlogged⟩
  exact (hsame _ hleft _ hright hkey).le

/-- When overwriting does not make a store older, the writes came in order. -/
theorem InOrder.of_neverOlder (h : ShowsNewest stamp table log)
    (hsame : ∀ write ∈ writes, ∀ other ∈ writes, write.1 = other.1 →
      stamp write.2 = stamp other.2)
    (hnever : NeverOlder stamp table (overwriteAll table writes)) :
    InOrder stamp log writes := by
  apply InOrder.of_same hsame
  intro write hwrite time hmem
  obtain ⟨row, hrow, htime⟩ := h.newest write.1 time hmem
  obtain ⟨row', hrow', hle⟩ := hnever write.1 row hrow
  cases find_overwriteAll table writes write.1 with
  | inl hlast =>
    obtain ⟨last, hlast, hfind⟩ := hlast
    rw [Option.some.inj (hrow'.symm.trans hfind)] at hle
    exact htime.trans (hle.trans (hsame _ hlast _ hwrite rfl).le)
  | inr hnone => exact absurd rfl (hnone.1 write hwrite)

end LetletmeData.Library
