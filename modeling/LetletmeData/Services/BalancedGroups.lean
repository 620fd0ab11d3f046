import LetletmeData.Services.Qualification

/-!
# Balanced groups

The draw deals one entry to each group in every full cycle, so group sizes differ by at most one,
and within a cycle no group gets two entries. A plan with a knockout phase has room in every group
for the entries that the group has to supply.
-/

namespace LetletmeData

open LetletmeData.Library

section Draw

variable {groupCount : ℕ}

/-- A group gets at most an equal share, rounded up. -/
theorem dealtTo_le_share (hpos : 0 < groupCount) {groupIndex : ℕ} (hgroup : groupIndex < groupCount)
    (entryCount : ℕ) : dealtTo groupCount groupIndex entryCount ≤ entryCount / groupCount + 1 := by
  have hcycles := dealtTo_cycles hpos hgroup (entryCount / groupCount + 1)
  have hlater : entryCount ≤ (entryCount / groupCount + 1) * groupCount := by
    have hrest := Nat.mod_lt entryCount hpos
    have hsplit := Nat.div_add_mod' entryCount groupCount
    rw [Nat.add_mul, Nat.one_mul]
    omega
  calc dealtTo groupCount groupIndex entryCount
      ≤ dealtTo groupCount groupIndex ((entryCount / groupCount + 1) * groupCount) :=
        ((List.range_sublist).mpr hlater).countP_le
    _ = entryCount / groupCount + 1 := hcycles

/-- Entries of one cycle go to different groups. -/
theorem snakeGroupIndex_injective {left right : ℕ} (hpos : 0 < groupCount)
    (hcycle : left / groupCount = right / groupCount)
    (h : snakeGroupIndex groupCount left = snakeGroupIndex groupCount right) : left = right := by
  have hleft := Nat.mod_lt left hpos
  have hright := Nat.mod_lt right hpos
  have hoffset : left % groupCount = right % groupCount := by
    simp only [snakeGroupIndex, hcycle] at h
    split at h <;> omega
  rw [← Nat.div_add_mod left groupCount, ← Nat.div_add_mod right groupCount, hcycle, hoffset]

/-- A group holds the entries that the snake sends there. -/
theorem mem_dealGroups (entries : List EntrySeed) {group : List EntrySeed} {groupIndex : ℕ}
    (hget : (dealGroups groupCount entries)[groupIndex]? = some group) (entry : EntrySeed) :
    entry ∈ group ↔
      ∃ index, entries[index]? = some entry ∧ snakeGroupIndex groupCount index = groupIndex := by
  induction entries using List.reverseRecOn generalizing group with
  | nil =>
    have hempty : group = [] := by
      rw [dealGroups, List.zipIdx_nil, List.foldl_nil, List.getElem?_replicate] at hget
      split at hget
      · exact (Option.some.inj hget).symm
      · cases hget
    simp [hempty]
  | append_singleton entries last ih =>
    rw [dealGroups_concat, List.getElem?_modify] at hget
    obtain ⟨before, hbefore, hgroup⟩ := Option.map_eq_some_iff.mp hget
    have hlast : (∃ index, (entries ++ [last])[index]? = some entry ∧
        snakeGroupIndex groupCount index = groupIndex) ↔
          (∃ index, entries[index]? = some entry ∧
            snakeGroupIndex groupCount index = groupIndex) ∨
          entry = last ∧ snakeGroupIndex groupCount entries.length = groupIndex := by
      constructor
      · rintro ⟨index, hindex, hsnake⟩
        rcases Nat.lt_or_ge index entries.length with hlt | hge
        · rw [List.getElem?_append_left hlt] at hindex
          exact Or.inl ⟨index, hindex, hsnake⟩
        · rw [List.getElem?_append_right hge, List.getElem?_singleton] at hindex
          split at hindex
          · next hzero =>
            have heq : index = entries.length := by omega
            exact Or.inr ⟨(Option.some.inj hindex).symm, heq ▸ hsnake⟩
          · cases hindex
      · rintro (⟨index, hindex, hsnake⟩ | ⟨rfl, hsnake⟩)
        · have hlt : index < entries.length := (List.getElem?_eq_some_iff.mp hindex).1
          exact ⟨index, (List.getElem?_append_left hlt).trans hindex, hsnake⟩
        · exact ⟨entries.length, by simp, hsnake⟩
    rw [hlast, ← ih hbefore, ← hgroup]
    split
    · next hsnake => simp [hsnake]
    · next hsnake => simp [hsnake]

end Draw

section Rows

variable {tournament : TournamentConfig} {entries : List EntrySeed}

/-- A row holds an entry that the snake sends to the row's group. -/
theorem exists_place_of_mem_buildGroupRows {row : GroupRow}
    (hrow : row ∈ buildGroupRows tournament entries) :
    ∃ index entry, (sortEntrySeeds entries)[index]? = some entry ∧ entry.entryId = row.entryId ∧
      row.groupId = snakeGroupIndex tournament.groupCount index + 1 := by
  obtain ⟨⟨group, groupIndex⟩, hgroup, hmem⟩ := List.mem_flatMap.mp hrow
  obtain ⟨⟨entry, slotIndex⟩, hentry, rfl⟩ := List.mem_map.mp hmem
  have hget := List.mk_mem_zipIdx_iff_getElem?.mp hgroup
  obtain ⟨index, hindex, hsnake⟩ :=
    (mem_dealGroups (sortEntrySeeds entries) hget entry).mp (List.fst_mem_of_mem_zipIdx hentry)
  exact ⟨index, entry, hindex, rfl, by rw [hsnake]; rfl⟩

/-- The rows of a group are numbered from one. -/
theorem map_groupIndex_buildGroupRows {groupIndex : ℕ}
    (hgroup : groupIndex < tournament.groupCount) :
    ((buildGroupRows tournament entries).filter fun row => row.groupId = groupIndex + 1).map
        GroupRow.groupIndex =
      List.range' 1 (dealtTo tournament.groupCount groupIndex entries.length) := by
  have hfilter := flatMap_zipIdx_filter
    (dealGroups tournament.groupCount (sortEntrySeeds entries))
    (groupRowsOf tournament) GroupRow.groupId
    (by
      intro group index row hrow
      obtain ⟨⟨entry, slotIndex⟩, -, rfl⟩ := List.mem_map.mp hrow
      rfl) 0 groupIndex
  rw [Nat.zero_add] at hfilter
  obtain ⟨group, hget, hsize⟩ := Option.map_eq_some_iff.mp
    (length_dealGroups_getElem? (sortEntrySeeds entries) hgroup)
  rw [sortEntrySeeds, List.length_insertionSort] at hsize
  rw [buildGroupRows, hfilter, hget, Option.map_some, Option.getD_some, groupRowsOf, List.map_map]
  have hslots : (GroupRow.groupIndex ∘ fun place : EntrySeed × ℕ =>
      groupRow tournament groupIndex place.2 place.1) = (1 + ·) ∘ Prod.snd := by
    funext place
    exact Nat.add_comm _ _
  rw [hslots, ← List.map_map, List.zipIdx_map_snd, List.map_add_range', hsize]

end Rows

/-- The draw of a tournament is a balanced partition. -/
structure BalancedDraw (tournament : TournamentConfig) (entries : List EntrySeed) : Prop where
  assigned : ((buildGroupRows tournament entries).map GroupRow.entryId).Perm
    (entries.map EntrySeed.entryId)
  grouped : ∀ row ∈ buildGroupRows tournament entries,
    1 ≤ row.groupId ∧ row.groupId ≤ tournament.groupCount
  balanced : ∀ groupId otherId, 1 ≤ groupId → groupId ≤ tournament.groupCount → 1 ≤ otherId →
    otherId ≤ tournament.groupCount →
      (groupMembers (buildGroupRows tournament entries) groupId).length ≤
        (groupMembers (buildGroupRows tournament entries) otherId).length + 1
  numbered : ∀ groupId, 1 ≤ groupId → groupId ≤ tournament.groupCount →
    ((buildGroupRows tournament entries).filter fun row => row.groupId = groupId).map
        GroupRow.groupIndex =
      List.range' 1 (groupMembers (buildGroupRows tournament entries) groupId).length
  blocks : ∀ row ∈ buildGroupRows tournament entries,
    ∀ other ∈ buildGroupRows tournament entries, ∀ index otherIndex,
      (sortEntrySeeds entries)[index]?.map EntrySeed.entryId = some row.entryId →
      (sortEntrySeeds entries)[otherIndex]?.map EntrySeed.entryId = some other.entryId →
        index / tournament.groupCount = otherIndex / tournament.groupCount →
          index ≠ otherIndex → row.groupId ≠ other.groupId

section Balance

variable (tournament : TournamentConfig) {entries : List EntrySeed}

/-- A group has as many members as entries were dealt to it. -/
theorem length_groupMembers (entries : List EntrySeed) {groupIndex : ℕ}
    (hgroup : groupIndex < tournament.groupCount) :
    (groupMembers (buildGroupRows tournament entries) (groupIndex + 1)).length =
      dealtTo tournament.groupCount groupIndex entries.length := by
  rw [groupMembers, List.length_map, length_filter_buildGroupRows tournament entries hgroup]

/-- Entries with distinct ids are drawn evenly. -/
theorem balancedDraw (hdistinct : (entries.map EntrySeed.entryId).Nodup) :
    BalancedDraw tournament entries where
  assigned := map_entryId_buildGroupRows_perm tournament entries
  grouped := fun row hrow => (mem_buildGroupRows tournament entries hrow).2
  balanced := by
    intro groupId otherId hpos hgroup hotherPos hother
    obtain ⟨groupIndex, rfl⟩ := Nat.exists_eq_add_of_le' hpos
    obtain ⟨otherIndex, rfl⟩ := Nat.exists_eq_add_of_le' hotherPos
    rw [length_groupMembers tournament entries hgroup,
      length_groupMembers tournament entries hother]
    have hmost := dealtTo_le_share tournament.groupCount_pos hgroup entries.length
    have hleast := share_le_dealtTo tournament.groupCount_pos hother entries.length
    omega
  numbered := by
    intro groupId hpos hgroup
    obtain ⟨groupIndex, rfl⟩ := Nat.exists_eq_add_of_le' hpos
    rw [length_groupMembers tournament entries hgroup, map_groupIndex_buildGroupRows hgroup]
  blocks := by
    intro row hrow other hother index otherIndex hindex hotherIndex hcycle hne hgroup
    -- ranked ids are distinct, so the places of the rows are the given ones
    have hranked : ((sortEntrySeeds entries).map EntrySeed.entryId).Nodup :=
      ((List.perm_insertionSort _ entries).map EntrySeed.entryId).nodup_iff.mpr hdistinct
    have hplace : ∀ row ∈ buildGroupRows tournament entries, ∀ index,
        (sortEntrySeeds entries)[index]?.map EntrySeed.entryId = some row.entryId →
          row.groupId = snakeGroupIndex tournament.groupCount index + 1 := by
      intro row hrow index hindex
      obtain ⟨place, entry, hentry, hid, hgroupId⟩ := exists_place_of_mem_buildGroupRows hrow
      have hsame : ((sortEntrySeeds entries).map EntrySeed.entryId)[index]? =
          ((sortEntrySeeds entries).map EntrySeed.entryId)[place]? := by
        rw [List.getElem?_map, List.getElem?_map, hindex, hentry, ← hid]
        rfl
      have hlt : index < ((sortEntrySeeds entries).map EntrySeed.entryId).length := by
        rw [← List.getElem?_map] at hindex
        exact (List.getElem?_eq_some_iff.mp hindex).1
      rw [(List.getElem?_inj hlt hranked).mp hsame]
      exact hgroupId
    have hsnake := (hplace row hrow index hindex).symm.trans
      (hgroup.trans (hplace other hother otherIndex hotherIndex))
    exact hne (snakeGroupIndex_injective tournament.groupCount_pos hcycle (Nat.succ.inj hsnake))

end Balance

section Accepted

variable {payload : TournamentCreateInput} {selectedParticipants : List TournamentParticipant}
  {leagueId : ℕ} {leagueType : LeagueType} {sourceLeagueName : Option String}
  {sourceConfig : Option SourceConfig} {plan : TournamentStructurePlan}

/-- Only a points race has a number of qualifiers. -/
theorem pointsRaces_of_groupQualifyNum
    (haccepted : planTournamentStructure payload selectedParticipants leagueId leagueType
      sourceLeagueName sourceConfig = .ok plan)
    {cut : ℕ} (hcut : plan.groupQualifyNum = some cut) : plan.groupMode = .pointsRaces := by
  rw [planTournamentStructure] at haccepted
  obtain ⟨-, haccepted⟩ := ok_of_guard haccepted
  obtain ⟨-, haccepted⟩ := ok_of_guard haccepted
  split at haccepted
  next =>
    obtain ⟨-, haccepted⟩ := ok_of_guard haccepted
    split at haccepted
    · simp only [planOfficialH2H] at haccepted
      obtain ⟨-, hplan⟩ := ok_of_guard haccepted
      obtain rfl := Except.ok.inj hplan
      cases hcut
    · simp only [planPhases] at haccepted
      obtain ⟨-, hnext⟩ := ok_of_guard haccepted
      obtain ⟨-, hnext⟩ := ok_of_guard hnext
      obtain ⟨-, hnext⟩ := ok_of_guard hnext
      obtain ⟨-, hplan⟩ := ok_of_guard hnext
      obtain rfl := Except.ok.inj hplan
      cases hformat : payload.groupFormat with
      | none => simp [hformat] at hcut
      | points => simp [GroupFormat.groupMode]
  next => cases haccepted

/-- The groups of an accepted plan are drawn evenly, and before a knockout every group has at least
the entries that it has to supply. -/
theorem plannedGroups_balanced
    (haccepted : planTournamentStructure payload selectedParticipants leagueId leagueType
      sourceLeagueName sourceConfig = .ok plan)
    (id : ℕ) {entries : List EntrySeed} (hdistinct : (entries.map EntrySeed.entryId).Nodup) :
    BalancedDraw (plan.config id) entries ∧
      (plan.knockoutMode ≠ .noKnockout → entries.length = selectedParticipants.length →
        ∀ cut ∈ plan.groupQualifyNum, ∀ groupId, 1 ≤ groupId → groupId ≤ plan.groupNum →
          cut ≤ (groupMembers (buildGroupRows (plan.config id) entries) groupId).length) := by
  refine ⟨balancedDraw (plan.config id) hdistinct, ?_⟩
  intro hknockout hroster cut hcut groupId hpos hgroup
  obtain ⟨planned, hplanned⟩ := planTournamentStructure_plannedQualification haccepted
    (pointsRaces_of_groupQualifyNum haccepted hcut) hknockout id
  obtain rfl : cut = planned := Option.some.inj (hcut.symm.trans hplanned.groupQualifyNum)
  rw [← hroster] at hplanned
  exact cut_le_groupMembers hplanned hpos hgroup

end Accepted

/-- The group of the final is drawn evenly. -/
theorem plannedGroups_balanced_final :
    BalancedDraw (finalPlan.config 1) finalEntries ∧
      (finalPlan.knockoutMode ≠ .noKnockout → finalEntries.length = cupParticipants.length →
        ∀ cut ∈ finalPlan.groupQualifyNum, ∀ groupId, 1 ≤ groupId → groupId ≤ finalPlan.groupNum →
          cut ≤ (groupMembers (buildGroupRows (finalPlan.config 1) finalEntries) groupId).length) :=
  plannedGroups_balanced finalRequest_accepted 1 (by decide)

/-- A request for a points race of one gameweek without a knockout that names four qualifiers. -/
def openRaceRequest : TournamentCreateInput :=
  { finalRequest with
    groupNum := some "1"
    qualifiersPerGroup := some "4"
    knockoutFormat := .none
    groupNum_valid := by simp [isOptionalPositiveIntegerText]
    qualifiersPerGroup_valid := by simp [isOptionalPositiveIntegerText] }

/-- Without a knockout the number of qualifiers is not checked: a race of three entries is accepted
that qualifies four. -/
theorem openRace_group_too_small :
    ∃ plan, planTournamentStructure openRaceRequest cupParticipants 1 .classic none none = .ok plan ∧
      finalEntries.length = cupParticipants.length ∧ plan.groupQualifyNum = some 4 ∧
        plan.groupNum = 1 ∧
        (groupMembers (buildGroupRows (plan.config 1) finalEntries) 1).length = 3 := by
  have hcount : ∀ text count, count < 10 → decimalValue text.toList = count → count ≠ 0 →
      (trimText text).isEmpty = false → toOptionalPositiveInteger (some text) = some count := by
    intro text count hsmall hparsed hpos hempty
    have hfinite : ¬ infinityThreshold ≤ count :=
      not_le.mpr (@lt_infinityThreshold count 10 (by omega) (hsmall.trans (by decide)))
    rw [toOptionalPositiveInteger, Option.bind_some, hempty]
    simp [hparsed, hfinite, hpos]
  have hgroups : toOptionalPositiveInteger openRaceRequest.groupNum = some 1 :=
    hcount "1" 1 (by decide) (by decide) (by decide) (by decide)
  have hqualifiers : toOptionalPositiveInteger openRaceRequest.qualifiersPerGroup = some 4 :=
    hcount "4" 4 (by decide) (by decide) (by decide) (by decide)
  simp only [planTournamentStructure, planPhases, hgroups, hqualifiers]
  exact ⟨_, rfl, rfl, rfl, rfl, by decide⟩

end LetletmeData
