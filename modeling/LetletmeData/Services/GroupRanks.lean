import LetletmeData.Services.TournamentPointsRace
import LetletmeData.Services.TournamentBattleRace

/-!
# Ranks within the groups of a tournament

Points races and battle races rank the rows of each group by points and then by overall rank.
Ties share the place of the last row of the tie. What a row is given therefore depends on nothing
but the sort keys of its own group.
-/

namespace LetletmeData

open LetletmeData.Library

/-- The rows of a group. -/
def groupRows (rows : List GroupRow) (groupId : ℕ) : List GroupRow :=
  rows.filter fun row => row.groupId = groupId

/-- Ranks within groups are those of a competition with the given sort keys: ties share a rank,
better keys come first, nothing but the keys of the group counts, and without ties the ranks are
the places. -/
structure CompetitionRanked {Key : Type*} [LinearOrder Key] (key : GroupRow → Key)
    (rank : List GroupRow → GroupRow → Option ℕ) : Prop where
  level : ∀ rows, ∀ left ∈ rows, ∀ right ∈ rows, left.groupId = right.groupId →
    key left = key right → rank rows left = rank rows right
  better : ∀ rows, ∀ left ∈ rows, ∀ right ∈ rows, left.groupId = right.groupId →
    key left < key right →
      ∃ first ∈ rank rows left, ∃ second ∈ rank rows right, first < second
  fromKeys : ∀ rows others, ∀ left ∈ rows, ∀ right ∈ others, key left = key right →
    ((groupRows rows left.groupId).map key).Perm ((groupRows others right.groupId).map key) →
      rank rows left = rank others right
  untied : ∀ rows groupId, ((groupRows rows groupId).map key).Nodup →
    ((groupRows rows groupId).map (rank rows)).Perm
      ((List.range' 1 (groupRows rows groupId).length).map some)

section Ranks

variable {Key : Type*} [LinearOrder Key] {key : GroupRow → Key}
  {rank : List GroupRow → GroupRow → Option ℕ}

/-- Ranks that count the rows of the group that are at least as good are those of a
competition. -/
theorem CompetitionRanked.of_atLeastAsGood
    (hrank : ∀ rows, ∀ row ∈ rows,
      rank rows row = some (atLeastAsGood key (groupRows rows row.groupId) row)) :
    CompetitionRanked key rank where
  level := by
    intro rows left hleft right hright hgroup hkey
    rw [hrank rows left hleft, hrank rows right hright, hgroup, atLeastAsGood_eq_countP_map,
      atLeastAsGood_eq_countP_map, hkey]
  better := by
    intro rows left hleft right hright hgroup hlt
    refine ⟨_, hrank rows left hleft, _, hrank rows right hright, ?_⟩
    rw [hgroup]
    exact atLeastAsGood_lt hlt (List.mem_filter.mpr ⟨hright, by simp⟩)
  fromKeys := by
    intro rows others left hleft right hright hkey hperm
    rw [hrank rows left hleft, hrank others right hright, atLeastAsGood_eq_countP_map,
      atLeastAsGood_eq_countP_map, hkey, hperm.countP_eq]
  untied := by
    intro rows groupId hnodup
    have hplaces := (map_atLeastAsGood_perm hnodup).map some
    rw [List.map_map] at hplaces
    refine List.Perm.trans (List.Perm.of_eq (List.map_congr_left fun row hrow => ?_)) hplaces
    obtain ⟨hmem, hgroup⟩ := List.mem_filter.mp hrow
    rw [hrank rows row hmem, Function.comp_apply, of_decide_eq_true hgroup]

/-- The rank that `rankGroups` of its own group gives to a row. -/
theorem lookup_rankGroups_groupRows {view : GroupRow → RankedEntry} {rows : List GroupRow}
    {row : GroupRow} (hrow : row ∈ rows) :
    (rankGroups ((groupRows rows row.groupId).map view)).lookup
        (groupRankKey (view row).totalNetPoints (view row).overallRank) =
      some (atLeastAsGood (fun row => rankedScore (view row)) (groupRows rows row.groupId)
        row) := by
  have hmem : view row ∈ (groupRows rows row.groupId).map view :=
    List.mem_map_of_mem (List.mem_filter.mpr ⟨hrow, by simp⟩)
  rw [lookup_rankGroups hmem, atLeastAsGood_eq_countP_map, atLeastAsGood_eq_countP_map,
    List.map_map]
  rfl

end Ranks

/-- The ranks of points races and of battle races are those of a competition, by points and then
by overall rank. -/
theorem groupRanks_competition (groupQualifyNum : Option ℕ) :
    CompetitionRanked (fun row => rankedScore (rankedEntry row))
        (fun rows row => (applyGroupRank groupQualifyNum rows row).groupRank) ∧
      CompetitionRanked (fun row => rankedScore (rankedBattleEntry row))
        (fun rows row => (applyBattleRank groupQualifyNum rows row).groupRank) := by
  constructor
  · refine CompetitionRanked.of_atLeastAsGood fun rows row hrow => ?_
    have hlookup := @lookup_rankGroups_groupRows rankedEntry rows row hrow
    exact congrArg (fun rank => some (rank.getD 0)) hlookup
  · refine CompetitionRanked.of_atLeastAsGood fun rows row hrow => ?_
    have hlookup := @lookup_rankGroups_groupRows rankedBattleEntry rows row hrow
    exact congrArg (fun rank => some (rank.getD 0)) hlookup

end LetletmeData
