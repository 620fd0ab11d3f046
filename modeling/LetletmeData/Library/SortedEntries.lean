import Mathlib.Data.List.Pairwise
import Mathlib.Data.List.Sort
import Mathlib.Order.RelClasses

/-!
# Entries in the order of their keys

Entries with distinct keys have one order for each order of the keys. Two orders of the keys arrange
them alike exactly when they compare every two of them alike.
-/

namespace LetletmeData.Library

variable {κ α β : Type*}

/-- Entries in the order of their keys. -/
def sortEntries (le : κ → κ → Prop) [DecidableRel le] (entries : List (κ × α)) : List (κ × α) :=
  entries.insertionSort fun left right => le left.1 right.1

/-- Entries with distinct keys that are among others, and as many, are the others in some order. -/
theorem perm_of_entries_subset {entries others : List (κ × α)}
    (hnodup : (entries.map Prod.fst).Nodup) (hlength : entries.length = others.length)
    (hsubset : ∀ entry ∈ entries, entry ∈ others) : entries.Perm others :=
  (List.subperm_of_subset (List.Nodup.of_map _ hnodup) hsubset).perm_of_length_le hlength.ge

/-- Entries with distinct keys and one key are one. -/
theorem eq_of_fst_eq {entries : List (κ × α)} (hnodup : (entries.map Prod.fst).Nodup)
    {left right : κ × α} (hleft : left ∈ entries) (hright : right ∈ entries)
    (h : left.1 = right.1) : left = right := List.inj_on_of_nodup_map hnodup hleft hright h

section OneOrder

variable (le : κ → κ → Prop) [DecidableRel le]

/-- The entries are sorted, none is lost or added. -/
theorem sortEntries_perm (entries : List (κ × α)) : (sortEntries le entries).Perm entries :=
  List.perm_insertionSort _ _

/-- The keys of sorted entries are the sorted keys. -/
theorem map_fst_sortEntries (entries : List (κ × α)) :
    (sortEntries le entries).map Prod.fst = (entries.map Prod.fst).insertionSort le :=
  List.map_insertionSort _ _ Prod.fst entries fun _ _ _ _ => Iff.rfl

variable [Std.Total le] [IsTrans κ le]

/-- Sorted keys are sorted. -/
theorem pairwise_sortEntries (entries : List (κ × α)) :
    (sortEntries le entries).Pairwise fun left right => le left.1 right.1 := by
  have hkeys := List.pairwise_insertionSort le (entries.map Prod.fst)
  rw [← map_fst_sortEntries, List.pairwise_map] at hkeys
  exact hkeys

variable [Std.Antisymm le]

/-- The order in which entries come does not matter. -/
theorem sortEntries_eq_of_perm {entries others : List (κ × α)} (h : entries.Perm others)
    (hnodup : (entries.map Prod.fst).Nodup) : sortEntries le entries = sortEntries le others := by
  have hleft := sortEntries_perm le entries
  have hright := sortEntries_perm le others
  refine List.Perm.eq_of_pairwise ?_ (pairwise_sortEntries le entries)
    (pairwise_sortEntries le others) (hleft.trans (h.trans hright.symm))
  intro one other hone hother hle hge
  exact eq_of_fst_eq hnodup (hleft.mem_iff.mp hone) (h.mem_iff.mpr (hright.mem_iff.mp hother))
    (antisymm hle hge)

end OneOrder

section TwoOrders

variable (first second : κ → κ → Prop) [DecidableRel first] [DecidableRel second]
  [Std.Total first] [IsTrans κ first] [Std.Antisymm first]
  [Std.Total second] [IsTrans κ second] [Std.Antisymm second]

/-- Keys are arranged alike by two orders exactly when these compare every two of them alike. -/
theorem insertionSort_eq_iff {keys : List κ} :
    keys.insertionSort first = keys.insertionSort second ↔
      ∀ left ∈ keys, ∀ right ∈ keys, first left right ↔ second left right := by
  have hmem : ∀ key, key ∈ keys.insertionSort first ↔ key ∈ keys :=
    fun key => (List.perm_insertionSort first keys).mem_iff
  constructor
  · intro h left hleft right hright
    have hfirst := List.pairwise_insertionSort first keys
    have hsecond := List.pairwise_insertionSort second keys
    rw [← h] at hsecond
    let alike : κ → κ → Prop := fun one other =>
      (first one other ↔ second one other) ∧ (first other one ↔ second other one)
    have : Std.Symm alike := ⟨fun _ _ halike => halike.symm⟩
    -- the one that comes first is smaller in both orders, and larger only if they are the same
    have halike : (keys.insertionSort first).Pairwise alike := by
      refine (hfirst.and hsecond).imp fun {one other} hboth => ⟨iff_of_true hboth.1 hboth.2, ?_⟩
      constructor
      · intro hother
        obtain rfl := antisymm hboth.1 hother
        exact hboth.2
      · intro hother
        obtain rfl := antisymm hboth.2 hother
        exact hboth.1
    have hself : ∀ key ∈ keys.insertionSort first, alike key key := fun key _ =>
      ⟨iff_of_true (refl_of first key) (refl_of second key),
        iff_of_true (refl_of first key) (refl_of second key)⟩
    exact (halike.forall_of_forall hself ((hmem left).mpr hleft) ((hmem right).mpr hright)).1
  · intro h
    have hsorted : (keys.insertionSort first).Pairwise second :=
      (List.pairwise_insertionSort first keys).imp_of_mem fun hleft hright hle =>
        (h _ ((hmem _).mp hleft) _ ((hmem _).mp hright)).mp hle
    exact List.Perm.eq_of_pairwise (fun _ _ _ _ => antisymm) hsorted
      (List.pairwise_insertionSort second keys)
      ((List.perm_insertionSort first keys).trans (List.perm_insertionSort second keys).symm)

/-- Entries with distinct keys are sorted to the same list by two orders exactly when the orders
compare every two keys alike and the entries are the same. -/
theorem sortEntries_map_eq_iff {entries : List (κ × α)} (hnodup : (entries.map Prod.fst).Nodup)
    (f g : α → β) :
    sortEntries first (entries.map fun entry => (entry.1, f entry.2)) =
        sortEntries second (entries.map fun entry => (entry.1, g entry.2)) ↔
      (∀ left ∈ entries.map Prod.fst, ∀ right ∈ entries.map Prod.fst,
        first left right ↔ second left right) ∧ ∀ entry ∈ entries, f entry.2 = g entry.2 := by
  have hkeys : ∀ h : α → β, (entries.map fun entry => (entry.1, h entry.2)).map Prod.fst =
      entries.map Prod.fst := fun h => by rw [List.map_map]; rfl
  constructor
  · intro h
    have hsorted := congrArg (List.map Prod.fst) h
    rw [map_fst_sortEntries, map_fst_sortEntries, hkeys, hkeys] at hsorted
    refine ⟨(insertionSort_eq_iff first second).mp hsorted, fun entry hentry => ?_⟩
    have hleft : (entry.1, f entry.2) ∈
        sortEntries first (entries.map fun entry => (entry.1, f entry.2)) :=
      (sortEntries_perm first _).mem_iff.mpr (List.mem_map_of_mem hentry)
    rw [h, (sortEntries_perm second _).mem_iff] at hleft
    have hright : (entry.1, g entry.2) ∈ entries.map fun entry => (entry.1, g entry.2) :=
      List.mem_map_of_mem hentry
    exact congrArg Prod.snd (eq_of_fst_eq (by rw [hkeys]; exact hnodup) hleft hright rfl)
  · rintro ⟨horder, hvalues⟩
    have hmap : (entries.map fun entry => (entry.1, f entry.2)) =
        entries.map fun entry => (entry.1, g entry.2) :=
      List.map_congr_left fun entry hentry => by rw [hvalues entry hentry]
    rw [hmap]
    generalize hothers : (entries.map fun entry => (entry.1, g entry.2)) = others
    have hnodup' : (others.map Prod.fst).Nodup := by rw [← hothers, hkeys]; exact hnodup
    have horder' : ∀ left ∈ others.map Prod.fst, ∀ right ∈ others.map Prod.fst,
        first left right ↔ second left right := by rw [← hothers, hkeys]; exact horder
    have hfirst := pairwise_sortEntries first others
    have hperm := sortEntries_perm first others
    refine List.Perm.eq_of_pairwise ?_ (hfirst.imp_of_mem fun {one other} hone hother hle => ?_)
      (pairwise_sortEntries second others) (hperm.trans (sortEntries_perm second others).symm)
    · intro one other hone hother hle hge
      exact eq_of_fst_eq hnodup' (hperm.mem_iff.mp hone)
        ((sortEntries_perm second others).mem_iff.mp hother) (antisymm hle hge)
    · exact (horder' _ (List.mem_map_of_mem (hperm.mem_iff.mp hone)) _
        (List.mem_map_of_mem (hperm.mem_iff.mp hother))).mp hle

end TwoOrders

end LetletmeData.Library
