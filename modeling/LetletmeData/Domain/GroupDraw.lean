import Mathlib.Data.List.Induction
import Mathlib.Data.List.Nodup
import LetletmeData.Domain.Tournament

/-!
# The snake draw of groups

The draw deals the ranked entries over the groups, back and forth. Every entry lands in one
group, and a group gets an entry from every full cycle.
-/

namespace LetletmeData

section Draw

variable {groupCount : ℕ}

/-- The snake stays within the groups. -/
theorem snakeGroupIndex_lt (hpos : 0 < groupCount) (index : ℕ) :
    snakeGroupIndex groupCount index < groupCount := by
  have hmod := Nat.mod_lt index hpos
  simp only [snakeGroupIndex]
  split <;> omega

/-- The next entry of the draw joins the group of its index. -/
theorem dealGroups_concat (entries : List EntrySeed) (entry : EntrySeed) :
    dealGroups groupCount (entries ++ [entry]) =
      (dealGroups groupCount entries).modify (snakeGroupIndex groupCount entries.length)
        fun group => group ++ [entry] := by
  simp [dealGroups, List.zipIdx_append]

/-- The draw fills every group. -/
@[simp] theorem length_dealGroups (entries : List EntrySeed) :
    (dealGroups groupCount entries).length = groupCount := by
  induction entries using List.reverseRecOn with
  | nil => simp [dealGroups]
  | append_singleton entries entry ih => rw [dealGroups_concat, List.length_modify, ih]

/-- The number of entries among the first of the draw that land in a group. -/
def dealtTo (groupCount groupIndex entryCount : ℕ) : ℕ :=
  (List.range entryCount).countP fun index => snakeGroupIndex groupCount index = groupIndex

/-- The size of a group is the number of entries dealt to it. -/
theorem length_dealGroups_getElem? (entries : List EntrySeed) {groupIndex : ℕ}
    (hgroup : groupIndex < groupCount) :
    ((dealGroups groupCount entries)[groupIndex]?).map List.length =
      some (dealtTo groupCount groupIndex entries.length) := by
  induction entries using List.reverseRecOn with
  | nil => simp [dealGroups, dealtTo, hgroup]
  | append_singleton entries entry ih =>
    rw [dealGroups_concat, List.getElem?_modify]
    obtain ⟨group, hget, hlength⟩ := Option.map_eq_some_iff.mp ih
    rw [dealtTo] at hlength
    rw [hget, List.length_append, List.length_singleton, dealtTo, List.range_succ,
      List.countP_append, List.countP_singleton]
    by_cases hindex : snakeGroupIndex groupCount entries.length = groupIndex <;>
      simp [hindex, hlength]

/-- One cycle of the draw deals one entry to each group. -/
theorem dealtTo_cycle (hpos : 0 < groupCount) {groupIndex : ℕ} (hgroup : groupIndex < groupCount)
    (cycle : ℕ) :
    ((List.range groupCount).map fun offset => cycle * groupCount + offset).countP
      (fun index => snakeGroupIndex groupCount index = groupIndex) = 1 := by
  have hslot : ∃ slot < groupCount, ∀ offset < groupCount,
      snakeGroupIndex groupCount (cycle * groupCount + offset) = groupIndex ↔ offset = slot := by
    refine ⟨if cycle % 2 = 0 then groupIndex else groupCount - groupIndex - 1, ?_, ?_⟩
    · split <;> omega
    · intro offset hoffset
      have hdiv : (cycle * groupCount + offset) / groupCount = cycle := by
        rw [Nat.mul_comm, Nat.mul_add_div hpos, Nat.div_eq_of_lt hoffset, Nat.add_zero]
      have hmod : (cycle * groupCount + offset) % groupCount = offset := by
        rw [Nat.mul_comm, Nat.mul_add_mod, Nat.mod_eq_of_lt hoffset]
      simp only [snakeGroupIndex, hdiv, hmod]
      split <;> omega
  obtain ⟨slot, hslot, hiff⟩ := hslot
  rw [List.countP_map]
  calc (List.range groupCount).countP _
      = (List.range groupCount).countP (fun offset => offset == slot) := by
        refine List.countP_congr fun offset hoffset => ?_
        simpa using hiff offset (List.mem_range.mp hoffset)
    _ = 1 := by
        rw [← List.count, List.count_range, if_pos hslot]

/-- Full cycles deal one entry each to every group. -/
theorem dealtTo_cycles (hpos : 0 < groupCount) {groupIndex : ℕ} (hgroup : groupIndex < groupCount)
    (cycles : ℕ) : dealtTo groupCount groupIndex (cycles * groupCount) = cycles := by
  induction cycles with
  | zero => simp [dealtTo]
  | succ cycles ih =>
    rw [dealtTo] at ih ⊢
    rw [Nat.succ_mul, List.range_add, List.countP_append, ih, dealtTo_cycle hpos hgroup]

/-- A group gets at least an equal share, rounded down. -/
theorem share_le_dealtTo (hpos : 0 < groupCount) {groupIndex : ℕ} (hgroup : groupIndex < groupCount)
    (entryCount : ℕ) : entryCount / groupCount ≤ dealtTo groupCount groupIndex entryCount := by
  conv_rhs => rw [← Nat.div_add_mod' entryCount groupCount, dealtTo, List.range_add,
    List.countP_append]
  have hcycles := dealtTo_cycles hpos hgroup (entryCount / groupCount)
  rw [dealtTo] at hcycles
  omega

/-- Appending to one of the groups appends to the whole draw, up to order. -/
theorem flatten_modify_concat_perm (groups : List (List EntrySeed)) (entry : EntrySeed)
    {groupIndex : ℕ} (hgroup : groupIndex < groups.length) :
    (groups.modify groupIndex fun group => group ++ [entry]).flatten.Perm
      (groups.flatten ++ [entry]) := by
  induction groups generalizing groupIndex with
  | nil => exact absurd hgroup (Nat.not_lt_zero _)
  | cons group rest ih =>
    cases groupIndex with
    | zero =>
      simp only [List.modify_zero_cons, List.flatten_cons, List.append_assoc]
      exact List.Perm.append_left group List.perm_append_comm
    | succ groupIndex =>
      simp only [List.modify_succ_cons, List.flatten_cons, List.append_assoc]
      exact List.Perm.append_left group (ih (Nat.lt_of_succ_lt_succ hgroup))

/-- The draw deals every entry exactly once. -/
theorem flatten_dealGroups_perm (hpos : 0 < groupCount) (entries : List EntrySeed) :
    (dealGroups groupCount entries).flatten.Perm entries := by
  induction entries using List.reverseRecOn with
  | nil => simp [dealGroups]
  | append_singleton entries entry ih =>
    rw [dealGroups_concat]
    refine (flatten_modify_concat_perm _ entry ?_).trans (ih.append_right [entry])
    rw [length_dealGroups]
    exact snakeGroupIndex_lt hpos _

end Draw

section Rows

variable (tournament : TournamentConfig) (entries : List EntrySeed)

/-- A tournament plays at least one group. -/
theorem TournamentConfig.groupCount_pos : 0 < tournament.groupCount :=
  lt_of_lt_of_le Nat.one_pos (le_max_right _ _)

/-- The group rows hold every entry exactly once. -/
theorem map_entryId_buildGroupRows_perm :
    ((buildGroupRows tournament entries).map GroupRow.entryId).Perm
      (entries.map EntrySeed.entryId) := by
  have hrows : (buildGroupRows tournament entries).map GroupRow.entryId =
      (dealGroups tournament.groupCount (sortEntrySeeds entries)).flatten.map
        EntrySeed.entryId := by
    rw [buildGroupRows, List.map_flatMap, List.map_flatten, List.flatMap_def]
    conv_rhs => rw [← List.zipIdx_map_fst 0 (dealGroups _ _), List.map_map]
    refine congrArg List.flatten (List.map_congr_left fun (group, groupIndex) _ => ?_)
    simp only [groupRowsOf, List.map_map, Function.comp_apply]
    conv_rhs => rw [← List.zipIdx_map_fst 0 group, List.map_map]
    rfl
  rw [hrows]
  exact ((flatten_dealGroups_perm tournament.groupCount_pos _).trans
    (List.perm_insertionSort _ _)).map _

/-- Of the rows that are listed group by group, those of one group are the group's own. -/
theorem flatMap_zipIdx_filter {α β : Type} (groups : List α) (rows : α → ℕ → List β)
    (groupIdOf : β → ℕ) (hid : ∀ group index, ∀ row ∈ rows group index, groupIdOf row = index + 1)
    (start groupIndex : ℕ) :
    ((groups.zipIdx start).flatMap fun (group, index) => rows group index).filter
        (fun row => groupIdOf row = start + groupIndex + 1) =
      (groups[groupIndex]?.map fun group => rows group (start + groupIndex)).getD [] := by
  induction groups generalizing start groupIndex with
  | nil => simp
  | cons group rest ih =>
    rw [List.zipIdx_cons, List.flatMap_cons, List.filter_append]
    cases groupIndex with
    | zero =>
      have hown : (rows group start).filter (fun row => groupIdOf row = start + 0 + 1) =
          rows group start := by
        rw [List.filter_eq_self]
        intro row hrow
        simpa using hid group start row hrow
      have hlater : ((rest.zipIdx (start + 1)).flatMap fun (group, index) =>
          rows group index).filter (fun row => groupIdOf row = start + 0 + 1) = [] := by
        rw [List.filter_eq_nil_iff]
        intro row hrow
        obtain ⟨⟨other, index⟩, hother, hmem⟩ := List.mem_flatMap.mp hrow
        have hindex := List.le_snd_of_mem_zipIdx hother
        simp only [hid other index row hmem, decide_eq_true_eq]
        omega
      simp [hown, hlater]
    | succ groupIndex =>
      have hown : (rows group start).filter
          (fun row => groupIdOf row = start + (groupIndex + 1) + 1) = [] := by
        rw [List.filter_eq_nil_iff]
        intro row hrow
        simp only [hid group start row hrow, decide_eq_true_eq]
        omega
      have hrest := ih (start + 1) groupIndex
      rw [show start + 1 + groupIndex = start + (groupIndex + 1) by omega] at hrest
      rw [hown, hrest]
      simp

/-- A group holds as many rows as entries were dealt to it. -/
theorem length_filter_buildGroupRows {groupIndex : ℕ} (hgroup : groupIndex < tournament.groupCount) :
    ((buildGroupRows tournament entries).filter fun row => row.groupId = groupIndex + 1).length =
      dealtTo tournament.groupCount groupIndex entries.length := by
  have hfilter := flatMap_zipIdx_filter
    (dealGroups tournament.groupCount (sortEntrySeeds entries))
    (groupRowsOf tournament) GroupRow.groupId
    (by
      intro group index row hrow
      obtain ⟨⟨entry, slotIndex⟩, -, rfl⟩ := List.mem_map.mp hrow
      rfl) 0 groupIndex
  rw [Nat.zero_add] at hfilter
  have hlength := length_dealGroups_getElem? (sortEntrySeeds entries) hgroup
  obtain ⟨group, hget, hsize⟩ := Option.map_eq_some_iff.mp hlength
  rw [sortEntrySeeds, List.length_insertionSort] at hsize
  rw [buildGroupRows, hfilter, hget, Option.map_some, Option.getD_some, groupRowsOf,
    List.length_map, List.length_zipIdx, hsize]

/-- Group ids run from one to the number of groups, and rows belong to the tournament. -/
theorem mem_buildGroupRows {row : GroupRow} (hrow : row ∈ buildGroupRows tournament entries) :
    row.tournamentId = tournament.id ∧ 1 ≤ row.groupId ∧ row.groupId ≤ tournament.groupCount := by
  obtain ⟨⟨group, groupIndex⟩, hgroup, hmem⟩ := List.mem_flatMap.mp hrow
  obtain ⟨⟨entry, slotIndex⟩, -, rfl⟩ := List.mem_map.mp hmem
  have hindex := List.snd_lt_of_mem_zipIdx hgroup
  rw [length_dealGroups] at hindex
  exact ⟨rfl, Nat.le_add_left 1 _, hindex⟩

end Rows

end LetletmeData
