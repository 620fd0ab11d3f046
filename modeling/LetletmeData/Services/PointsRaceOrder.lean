import LetletmeData.Library.Runs
import LetletmeData.Services.TournamentPointsRace

/-!
# The order of points-race synchronisations

A synchronisation overwrites every column it computes with totals up to its own event, so a
run of synchronisations leaves exactly what its last one writes.
-/

namespace LetletmeData

open LetletmeData.Library

variable {tournament : TournamentConfig} {entryIds : List ℕ} {results : List EntryEventResult}
  {startEventId endEventId : ℕ}

/-- The tables after synchronising an event. -/
def pointsRaceStep (tournament : TournamentConfig) (entryIds : List ℕ)
    (results : List EntryEventResult) (state : PointsRaceState) (eventId : ℕ) : PointsRaceState :=
  (syncTournamentPointsRaceResultsForTournament tournament entryIds results eventId state).1

/-- Every entry has a result in the event. -/
def EventComplete (entryIds : List ℕ) (results : List EntryEventResult) (eventId : ℕ) : Prop :=
  ∀ entryId ∈ entryIds, (eventResultOf results eventId entryId).isSome

/-- What a synchronisation makes of a group row. -/
def pointsRaceRow (tournament : TournamentConfig) (startEventId endEventId : ℕ)
    (entryIds : List ℕ) (results : List EntryEventResult) (eventId : ℕ) (groups : List GroupRow)
    (group : GroupRow) : GroupRow :=
  ((memberTotals tournament startEventId endEventId entryIds results eventId group).map
    (applyGroupRank tournament.groupQualifyNum
      (updatedGroupRows tournament startEventId endEventId entryIds results eventId groups))).getD
    group

/-- The key columns never change. -/
theorem memberTotals_key {eventId : ℕ} {group row : GroupRow}
    (h : memberTotals tournament startEventId endEventId entryIds results eventId group = some row) :
    row.key = group.key := by
  unfold memberTotals at h
  split at h
  · obtain ⟨eventResult, -, rfl⟩ := Option.map_eq_some_iff.mp h
    rfl
  · exact absurd h (by simp)

/-- Ranking a row keeps its key. -/
theorem applyGroupRank_key (groupQualifyNum : Option ℕ) (updatedGroups : List GroupRow)
    (group : GroupRow) : (applyGroupRank groupQualifyNum updatedGroups group).key = group.key := rfl

/-- A synchronised row keeps its key. -/
theorem pointsRaceRow_key (eventId : ℕ) (groups : List GroupRow) (group : GroupRow) :
    (pointsRaceRow tournament startEventId endEventId entryIds results eventId groups group).key =
      group.key := by
  unfold pointsRaceRow
  cases h : memberTotals tournament startEventId endEventId entryIds results eventId group with
  | none => rfl
  | some row =>
    rw [Option.map_some, Option.getD_some, applyGroupRank_key]
    exact memberTotals_key h

/-- Rows of other tournaments and entries are left alone. -/
theorem pointsRaceRow_of_not_member {group : GroupRow}
    (h : ¬ IsMemberRow tournament entryIds group) (eventId : ℕ) (groups : List GroupRow) :
    pointsRaceRow tournament startEventId endEventId entryIds results eventId groups group =
      group := by
  simp [pointsRaceRow, memberTotals, h]

/-- A synchronisation of a complete event rewrites the group rows one by one. -/
theorem pointsRaceStep_groups (hstart : tournament.groupStartedEventId = some startEventId)
    (hend : tournament.groupEndedEventId = some endEventId) (hpositive : startEventId ≠ 0)
    (hpositive' : endEventId ≠ 0) {eventId : ℕ} (hcomplete : EventComplete entryIds results eventId)
    {state : PointsRaceState} (hkeys : (state.groups.map GroupRow.key).Nodup) :
    (pointsRaceStep tournament entryIds results state eventId).groups =
      state.groups.map
        (pointsRaceRow tournament startEventId endEventId entryIds results eventId
          state.groups) := by
  have hskip : (∀ group ∈ state.groups, ¬ IsMemberRow tournament entryIds group) →
      state.groups = state.groups.map
        (pointsRaceRow tournament startEventId endEventId entryIds results eventId
          state.groups) := by
    intro hnone
    conv_lhs => rw [← List.map_id state.groups]
    exact List.map_congr_left fun group hgroup =>
      (pointsRaceRow_of_not_member (hnone group hgroup) eventId state.groups).symm
  simp only [pointsRaceStep, syncTournamentPointsRaceResultsForTournament, hstart, hend, hpositive,
    hpositive', false_or]
  split
  next hentries =>
    exact hskip fun group _ hmember => by simp [IsMemberRow, hentries] at hmember
  next hentries =>
    split
    next hmissing =>
      refine hskip fun group hgroup hmember => ?_
      rcases hmissing with hresults | hgroups
      · obtain ⟨result, hresult⟩ := Option.isSome_iff_exists.mp (hcomplete _ hmember.2)
        have hfound := List.find?_some hresult
        have hmem := List.mem_of_find?_eq_some hresult
        simp only [Bool.and_eq_true, decide_eq_true_eq] at hfound
        refine List.filter_eq_nil_iff.mp hresults result hmem ?_
        simp [hfound.1, hfound.2, hmember.2]
      · exact absurd (List.filter_eq_nil_iff.mp hgroups group hgroup) (by simp [hmember])
    next =>
      simp only [updatedGroupRows, List.map_filterMap]
      rw [upsertBatch_filterMap (fun _ _ hsame => hsame.symm) _ hkeys]
      · refine List.map_congr_left fun group _ => ?_
        rw [Option.map_map]
        rfl
      · intro old row hrow
        obtain ⟨totals, htotals, rfl⟩ := Option.map_eq_some_iff.mp hrow
        rw [applyGroupRank_key]
        exact memberTotals_key htotals

/-- An earlier synchronisation does not change what a later one ranks. -/
theorem rankLookup_map {eventId : ℕ} {groups : List GroupRow} {rewrite : GroupRow → GroupRow}
    (hkey : ∀ group, (rewrite group).key = group.key) (groupId : ℕ) :
    rankLookup (updatedGroupRows tournament startEventId endEventId entryIds results eventId
        (groups.map rewrite)) groupId =
      rankLookup (updatedGroupRows tournament startEventId endEventId entryIds results eventId
        groups) groupId := by
  unfold rankLookup updatedGroupRows
  congr 1
  simp only [List.filter_filterMap, List.map_filterMap, List.filterMap_map]
  refine List.filterMap_congr fun group _ => ?_
  obtain ⟨htournament, hgroup, hentry⟩ :
      (rewrite group).tournamentId = group.tournamentId ∧ (rewrite group).groupId = group.groupId ∧
        (rewrite group).entryId = group.entryId := by
    simpa [GroupRow.key] using hkey group
  have hsame : IsMemberRow tournament entryIds (rewrite group) ↔
      IsMemberRow tournament entryIds group := by
    rw [IsMemberRow, IsMemberRow, htournament, hentry]
  by_cases hmember : IsMemberRow tournament entryIds group
  · simp only [Function.comp_apply, memberTotals, if_pos hmember, if_pos (hsame.mpr hmember),
      hentry]
    cases eventResultOf results eventId group.entryId with
    | none => rfl
    | some eventResult =>
      by_cases hid : group.groupId = groupId <;>
        simp [Option.filter, pointsGroupUpdate, rankedEntry, hgroup, hentry, hid]
  · simp [memberTotals, hmember, hsame]

/-- The ranks and the qualification of a row depend on the updated rows only through the
ranks of its group. -/
theorem applyGroupRank_congr {groupQualifyNum : Option ℕ} {updated others : List GroupRow}
    {group : GroupRow} (h : rankLookup updated group.groupId = rankLookup others group.groupId) :
    applyGroupRank groupQualifyNum updated group = applyGroupRank groupQualifyNum others group := by
  simp only [applyGroupRank, h]

/-- Taking totals keeps the entry. -/
@[simp] theorem pointsGroupUpdate_entryId (eventId : ℕ) (totals : EntryTotals)
    (result : EntryEventResult) (group : GroupRow) :
    (pointsGroupUpdate startEventId eventId totals result group).entryId = group.entryId := rfl

/-- Ranking keeps the entry. -/
@[simp] theorem applyGroupRank_entryId (groupQualifyNum : Option ℕ) (updated : List GroupRow)
    (group : GroupRow) : (applyGroupRank groupQualifyNum updated group).entryId = group.entryId :=
  rfl

/-- Totals and ranks overwrite the totals and ranks of an earlier event. -/
theorem applyGroupRank_overwrites (groupQualifyNum : Option ℕ) (updated others : List GroupRow)
    (earlier later : ℕ) (totals others' : EntryTotals) (result other : EntryEventResult)
    (group : GroupRow) :
    applyGroupRank groupQualifyNum updated (pointsGroupUpdate startEventId later totals result
        (applyGroupRank groupQualifyNum others
          (pointsGroupUpdate startEventId earlier others' other group))) =
      applyGroupRank groupQualifyNum updated
        (pointsGroupUpdate startEventId later totals result group) := by
  cases groupQualifyNum with
  | none => rfl
  | some cut =>
    by_cases hcut : cut = 0
    · simp only [applyGroupRank, pointsGroupUpdate, hcut, if_true]
    · simp only [applyGroupRank, pointsGroupUpdate, hcut, if_false]
      rfl

/-- A synchronisation of a complete event overwrites what an earlier one wrote to a row. -/
theorem pointsRaceRow_absorb {earlier later : ℕ} (hlater : EventComplete entryIds results later)
    (groups : List GroupRow) (group : GroupRow) :
    pointsRaceRow tournament startEventId endEventId entryIds results later
        (groups.map (pointsRaceRow tournament startEventId endEventId entryIds results earlier
          groups))
        (pointsRaceRow tournament startEventId endEventId entryIds results earlier groups group) =
      pointsRaceRow tournament startEventId endEventId entryIds results later groups group := by
  by_cases hmember : IsMemberRow tournament entryIds group
  · obtain ⟨result, hresult⟩ := Option.isSome_iff_exists.mp (hlater _ hmember.2)
    cases hearlier : eventResultOf results earlier group.entryId with
    | none =>
      have hkeep : pointsRaceRow tournament startEventId endEventId entryIds results earlier
          groups group = group := by
        simp [pointsRaceRow, memberTotals, hmember, hearlier]
      rw [hkeep]
      simp only [pointsRaceRow, memberTotals, if_pos hmember, hresult, Option.map_some,
        Option.getD_some]
      exact applyGroupRank_congr (rankLookup_map (pointsRaceRow_key earlier groups) _)
    | some earlierResult =>
      have hearlierRow : pointsRaceRow tournament startEventId endEventId entryIds results earlier
          groups group = applyGroupRank tournament.groupQualifyNum
            (updatedGroupRows tournament startEventId endEventId entryIds results earlier groups)
            (pointsGroupUpdate startEventId earlier (aggregateTotalsByEntry results startEventId
              (min earlier endEventId) group.entryId) earlierResult group) := by
        simp [pointsRaceRow, memberTotals, hmember, hearlier]
      rw [hearlierRow]
      have hmember' : ∀ updated totals, IsMemberRow tournament entryIds
          (applyGroupRank tournament.groupQualifyNum updated
            (pointsGroupUpdate startEventId earlier totals earlierResult group)) :=
        fun _ _ => hmember
      simp only [pointsRaceRow, memberTotals, if_pos hmember, if_pos (hmember' _ _),
        applyGroupRank_entryId, pointsGroupUpdate_entryId, hresult, Option.map_some,
        Option.getD_some, applyGroupRank_overwrites]
      exact applyGroupRank_congr (rankLookup_map (pointsRaceRow_key earlier groups) _)
  · rw [pointsRaceRow_of_not_member hmember, pointsRaceRow_of_not_member hmember,
      pointsRaceRow_of_not_member hmember]

section Window

variable (hstart : tournament.groupStartedEventId = some startEventId)
  (hend : tournament.groupEndedEventId = some endEventId) (hpositive : startEventId ≠ 0)
  (hpositive' : endEventId ≠ 0)

include hstart hend hpositive hpositive'

/-- A synchronisation keeps the keys of the group rows. -/
theorem pointsRaceStep_keys {eventId : ℕ} (hcomplete : EventComplete entryIds results eventId)
    {state : PointsRaceState} (hkeys : (state.groups.map GroupRow.key).Nodup) :
    (pointsRaceStep tournament entryIds results state eventId).groups.map GroupRow.key =
      state.groups.map GroupRow.key := by
  rw [pointsRaceStep_groups hstart hend hpositive hpositive' hcomplete hkeys, List.map_map]
  exact List.map_congr_left fun group _ => pointsRaceRow_key eventId state.groups group

/-- A synchronisation of a complete event leaves nothing of an earlier one. -/
theorem pointsRaceStep_absorb {earlier later : ℕ}
    (hearlier : EventComplete entryIds results earlier)
    (hlater : EventComplete entryIds results later) {state : PointsRaceState}
    (hkeys : (state.groups.map GroupRow.key).Nodup) :
    (pointsRaceStep tournament entryIds results
        (pointsRaceStep tournament entryIds results state earlier) later).groups =
      (pointsRaceStep tournament entryIds results state later).groups := by
  have hkeys' := pointsRaceStep_keys hstart hend hpositive hpositive' hearlier hkeys
  have hearlierGroups := pointsRaceStep_groups hstart hend hpositive hpositive' hearlier hkeys
  rw [pointsRaceStep_groups hstart hend hpositive hpositive' hlater (hkeys' ▸ hkeys),
    pointsRaceStep_groups hstart hend hpositive hpositive' hlater hkeys, hearlierGroups,
    List.map_map]
  exact List.map_congr_left fun group _ => pointsRaceRow_absorb hlater state.groups group

/-- A run of synchronisations leaves the group rows of its last one. -/
theorem pointsRaceRun_groups {events : List ℕ} {last : ℕ}
    (hevents : ∀ eventId ∈ events, EventComplete entryIds results eventId)
    (hlast : EventComplete entryIds results last) {state : PointsRaceState}
    (hkeys : (state.groups.map GroupRow.key).Nodup) :
    (runSteps (pointsRaceStep tournament entryIds results) state (events ++ [last])).groups =
      state.groups.map
        (pointsRaceRow tournament startEventId endEventId entryIds results last state.groups) := by
  have hinvariant : ∀ (state : PointsRaceState) (eventId : ℕ),
      (state.groups.map GroupRow.key).Nodup → EventComplete entryIds results eventId →
      ((pointsRaceStep tournament entryIds results state eventId).groups.map
        GroupRow.key).Nodup := by
    intro state eventId hkeys hcomplete
    rw [pointsRaceStep_keys hstart hend hpositive hpositive' hcomplete hkeys]
    exact hkeys
  rw [runSteps_of_absorbing hinvariant
    (fun state earlier later hkeys hearlier hlater =>
      pointsRaceStep_absorb hstart hend hpositive hpositive' hearlier hlater hkeys)
    state events last hkeys hevents hlast]
  exact pointsRaceStep_groups hstart hend hpositive hpositive' hlast hkeys

end Window

/-- The columns of a group row that a synchronisation computes. -/
structure GroupStanding where
  groupPoints : ℤ
  totalPoints : ℤ
  totalTransfersCost : ℤ
  totalNetPoints : ℤ
  overallRank : Option ℕ
  groupRank : Option ℕ
  played : ℤ
  qualified : ℕ
  deriving DecidableEq

/-- The standing of a group row. -/
def GroupRow.standing (row : GroupRow) : GroupStanding :=
  ⟨row.groupPoints, row.totalPoints, row.totalTransfersCost, row.totalNetPoints, row.overallRank,
    row.groupRank, row.played, row.qualified⟩

/-- The events of a run once each, in ascending order. -/
def ascendingOnce (events : List ℕ) : List ℕ := events.dedup.insertionSort (· ≤ ·)

/-- The ascending order ends with the greatest event. -/
theorem ascendingOnce_eq_concat {events : List ℕ} (hne : events ≠ []) :
    ∃ earlier greatest, ascendingOnce events = earlier ++ [greatest] ∧ greatest ∈ events ∧
      ∀ eventId ∈ events, eventId ≤ greatest := by
  have hmem : ∀ eventId, eventId ∈ ascendingOnce events ↔ eventId ∈ events := by
    intro eventId
    rw [ascendingOnce, List.mem_insertionSort, List.mem_dedup]
  have hsome : ascendingOnce events ≠ [] := by
    obtain ⟨eventId, heventId⟩ := List.exists_mem_of_ne_nil events hne
    exact List.ne_nil_of_mem ((hmem eventId).mpr heventId)
  refine ⟨_, _, (List.dropLast_append_getLast hsome).symm,
    (hmem _).mp (List.getLast_mem hsome), fun eventId heventId => ?_⟩
  have hsorted := List.pairwise_insertionSort (· ≤ ·) events.dedup
  change (ascendingOnce events).Pairwise (· ≤ ·) at hsorted
  have hin := (hmem eventId).mpr heventId
  rw [← List.dropLast_append_getLast hsome] at hsorted hin
  rcases List.mem_append.mp hin with hearlier | hlast
  · exact (List.pairwise_append.mp hsorted).2.2 eventId hearlier _ (List.mem_singleton_self _)
  · exact (List.mem_singleton.mp hlast).le

/-- The events played that a synchronised member row shows. -/
theorem pointsRaceRow_played {eventId : ℕ} (hcomplete : EventComplete entryIds results eventId)
    (groups : List GroupRow) {group : GroupRow} (hmember : IsMemberRow tournament entryIds group) :
    (pointsRaceRow tournament startEventId endEventId entryIds results eventId groups
      group).played = (eventId : ℤ) - startEventId + 1 := by
  obtain ⟨result, hresult⟩ := Option.isSome_iff_exists.mp (hcomplete _ hmember.2)
  simp [pointsRaceRow, memberTotals, hmember, hresult, applyGroupRank, pointsGroupUpdate]

/-- The standings of a run over complete events are those of the ascending order exactly
when its last synchronisation is of the greatest event. -/
theorem pointsRace_standings_eq_ascending_iff {events : List ℕ} (hne : events ≠ [])
    (hwindow : ∀ eventId ∈ events, inPointsRaceWindow tournament eventId)
    (hcomplete : ∀ eventId ∈ events, EventComplete entryIds results eventId)
    {state : PointsRaceState} (hkeys : (state.groups.map GroupRow.key).Nodup)
    (hmember : ∃ group ∈ state.groups, IsMemberRow tournament entryIds group) :
    (runSteps (pointsRaceStep tournament entryIds results) state events).groups.map
        GroupRow.standing =
      (runSteps (pointsRaceStep tournament entryIds results) state (ascendingOnce events)).groups.map
        GroupRow.standing ↔
    ∀ eventId ∈ events, eventId ≤ events.getLast hne := by
  obtain ⟨-, startEventId, hstart, endEventId, hend, hpositive, hpositive', -⟩ :=
    hwindow _ (List.getLast_mem hne)
  obtain ⟨earlier, greatest, hascending, hgreatest, hbound⟩ := ascendingOnce_eq_concat hne
  have hsubset : ∀ eventId ∈ earlier, eventId ∈ events := by
    intro eventId heventId
    have : eventId ∈ ascendingOnce events := by
      rw [hascending]
      exact List.mem_append_left _ heventId
    rwa [ascendingOnce, List.mem_insertionSort, List.mem_dedup] at this
  have hrun : (runSteps (pointsRaceStep tournament entryIds results) state events).groups =
      state.groups.map (pointsRaceRow tournament startEventId endEventId entryIds results
        (events.getLast hne) state.groups) := by
    conv_lhs => rw [← List.dropLast_append_getLast hne]
    exact pointsRaceRun_groups hstart hend hpositive hpositive'
      (fun eventId heventId => hcomplete eventId (List.dropLast_subset _ heventId))
      (hcomplete _ (List.getLast_mem hne)) hkeys
  rw [hrun, hascending, pointsRaceRun_groups hstart hend hpositive hpositive'
    (fun eventId heventId => hcomplete eventId (hsubset eventId heventId))
    (hcomplete greatest hgreatest) hkeys]
  constructor
  · intro hsame
    obtain ⟨group, hgroup, hgroupMember⟩ := hmember
    rw [List.map_map, List.map_map] at hsame
    have hstanding := List.map_inj_left.mp hsame group hgroup
    have hplayed := congrArg GroupStanding.played hstanding
    simp only [Function.comp_apply, GroupRow.standing,
      pointsRaceRow_played (hcomplete _ (List.getLast_mem hne)) _ hgroupMember,
      pointsRaceRow_played (hcomplete greatest hgreatest) _ hgroupMember] at hplayed
    have hlast : events.getLast hne = greatest := by omega
    rwa [hlast]
  · intro hlast
    have hsame : events.getLast hne = greatest :=
      le_antisymm (hbound _ (List.getLast_mem hne)) (hlast greatest hgreatest)
    rw [hsame]

/-- A points race of two entries over two events. -/
def duelConfig : TournamentConfig :=
  { id := 1
    totalTeamNum := 2
    groupMode := .pointsRaces
    groupNum := some 1
    groupStartedEventId := some 1
    groupEndedEventId := some 2
    groupQualifyNum := none
    knockoutMode := .noKnockout
    knockoutTeamNum := none
    knockoutEventNum := none
    knockoutStartedEventId := none
    knockoutEndedEventId := none
    knockoutPlayAgainstNum := none }

/-- Both entries score in both events. -/
def duelResults : List EntryEventResult :=
  [⟨11, 1, 50, 0, 50, none, 5, none, []⟩, ⟨12, 1, 60, 0, 60, none, 6, none, []⟩,
    ⟨11, 2, 70, 0, 70, none, 5, none, []⟩, ⟨12, 2, 40, 4, 36, none, 6, none, []⟩]

/-- The group rows before any event was synchronised. -/
def duelState : PointsRaceState :=
  ⟨buildGroupRows duelConfig [⟨11, some 5⟩, ⟨12, some 6⟩], []⟩

/-- Both events of the duel are complete. -/
theorem duel_complete : ∀ eventId ∈ [2, 1], EventComplete [11, 12] duelResults eventId := by
  unfold EventComplete
  decide

/-- Synchronising the first event again after the second one leaves its standings. -/
theorem duel_standings_depend_on_order :
    (runSteps (pointsRaceStep duelConfig [11, 12] duelResults) duelState [2, 1]).groups.map
        GroupRow.standing ≠
      (runSteps (pointsRaceStep duelConfig [11, 12] duelResults) duelState
        (ascendingOnce [2, 1])).groups.map GroupRow.standing := by
  decide

/-- The duel's two orders agree exactly when the second event is synchronised last. -/
theorem duel_standings_iff :
    (runSteps (pointsRaceStep duelConfig [11, 12] duelResults) duelState [2, 1]).groups.map
        GroupRow.standing =
      (runSteps (pointsRaceStep duelConfig [11, 12] duelResults) duelState
        (ascendingOnce [2, 1])).groups.map GroupRow.standing ↔
    ∀ eventId ∈ [2, 1], eventId ≤ 1 :=
  pointsRace_standings_eq_ascending_iff (List.cons_ne_nil 2 [1])
    (by
      intro eventId heventId
      have hevents : eventId = 2 ∨ eventId = 1 := by simpa using heventId
      exact ⟨rfl, 1, rfl, 2, rfl, by decide, by decide, by omega, by omega⟩)
    duel_complete (by decide) ⟨_, List.mem_cons_self, by decide⟩

end LetletmeData
