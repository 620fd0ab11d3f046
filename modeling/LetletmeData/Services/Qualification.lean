import LetletmeData.Domain.BracketShape
import LetletmeData.Domain.GroupDraw
import LetletmeData.Services.PointsRaceOrder
import LetletmeData.Services.TournamentPointsRace
import LetletmeData.Services.TournamentSeed

/-!
# Qualification for the knockout

The planner, the group draw, the ranks and the seeder have to agree on the number of
qualifiers. A rank shared by a tie counts the whole tie, so a tie across the cut leaves
places of its group empty, and the knockout is not seeded.
-/

namespace LetletmeData

open LetletmeData.Library

/-- What an entry is ranked by after an event. -/
def entryStanding (results : List EntryEventResult) (startEventId endEventId eventId entryId : ℕ) :
    RankedEntry :=
  ⟨entryId, (aggregateTotalsByEntry results startEventId (min eventId endEventId)
    entryId).totalNetPoints, (eventResultOf results eventId entryId).map
      EntryEventResult.overallRank⟩

/-- The score of an entry after an event: more points first, then the better overall rank. -/
def entryScore (results : List EntryEventResult) (startEventId endEventId eventId entryId : ℕ) :
    ℤ ×ₗ ℕ :=
  rankedScore (entryStanding results startEventId endEventId eventId entryId)

/-- The entries of a group. -/
def groupMembers (groups : List GroupRow) (groupId : ℕ) : List ℕ :=
  (groups.filter fun row => row.groupId = groupId).map GroupRow.entryId

/-- The number of entries of a group that are flagged as qualified. -/
def qualifiedCount (groups : List GroupRow) (groupId : ℕ) : ℕ :=
  groups.countP fun row => row.groupId = groupId && row.qualified = 1

section Ranks

variable {tournament : TournamentConfig} {entryIds : List ℕ} {results : List EntryEventResult}
  {startEventId endEventId eventId : ℕ}

/-- The totals of a member row in a complete event. -/
theorem memberTotals_of_complete (hcomplete : EventComplete entryIds results eventId)
    {row : GroupRow} (hmember : IsMemberRow tournament entryIds row) :
    ∃ updated, memberTotals tournament startEventId endEventId entryIds results eventId row =
        some updated ∧ updated.groupId = row.groupId ∧
      rankedEntry updated =
        entryStanding results startEventId endEventId eventId row.entryId := by
  obtain ⟨result, hresult⟩ := Option.isSome_iff_exists.mp (hcomplete _ hmember.2)
  refine ⟨pointsGroupUpdate startEventId eventId
    (aggregateTotalsByEntry results startEventId (min eventId endEventId) row.entryId) result row,
    by rw [memberTotals, if_pos hmember, hresult, Option.map_some], rfl, ?_⟩
  simp [rankedEntry, entryStanding, pointsGroupUpdate, hresult]

/-- In a complete event, a group ranks all of its entries. -/
theorem rankLookup_of_complete (hcomplete : EventComplete entryIds results eventId)
    {groups : List GroupRow} (hmember : ∀ row ∈ groups, IsMemberRow tournament entryIds row)
    (groupId : ℕ) :
    rankLookup (updatedGroupRows tournament startEventId endEventId entryIds results eventId
        groups) groupId =
      rankGroups ((groupMembers groups groupId).map
        (entryStanding results startEventId endEventId eventId)) := by
  unfold rankLookup
  congr 1
  induction groups with
  | nil => rfl
  | cons row rest ih =>
    obtain ⟨updated, hupdated, hgroup, hranked⟩ :=
      @memberTotals_of_complete tournament entryIds results startEventId endEventId eventId
        hcomplete row (hmember row List.mem_cons_self)
    have hrest := ih fun other hother => hmember other (List.mem_cons_of_mem row hother)
    rw [updatedGroupRows] at hrest ⊢
    rw [List.filterMap_cons_some hupdated]
    by_cases hid : row.groupId = groupId
    · simpa [groupMembers, hgroup, hid, hranked] using hrest
    · simpa [groupMembers, hgroup, hid] using hrest

/-- With a cut, a member is qualified exactly when its rank lies within it. -/
theorem pointsRaceRow_qualified {cut : ℕ} (hcut : tournament.groupQualifyNum = some cut)
    (hpos : cut ≠ 0) (hcomplete : EventComplete entryIds results eventId)
    {groups : List GroupRow} (hmember : ∀ row ∈ groups, IsMemberRow tournament entryIds row)
    {row : GroupRow} (hrow : row ∈ groups) :
    (pointsRaceRow tournament startEventId endEventId entryIds results eventId groups
        row).qualified = 1 ↔
      atLeastAsGood (entryScore results startEventId endEventId eventId)
        (groupMembers groups row.groupId) row.entryId ≤ cut := by
  obtain ⟨updated, hupdated, hgroup, hranked⟩ :=
    @memberTotals_of_complete tournament entryIds results startEventId endEventId eventId
      hcomplete row (hmember row hrow)
  have hlisted : row.entryId ∈ groupMembers groups row.groupId :=
    List.mem_map_of_mem (List.mem_filter.mpr ⟨hrow, by simp⟩)
  have hrank := lookup_rankGroups (List.mem_map_of_mem (f := entryStanding results
    startEventId endEventId eventId) hlisted)
  rw [← hranked] at hrank
  have hcount : atLeastAsGood rankedScore ((groupMembers groups row.groupId).map
      (entryStanding results startEventId endEventId eventId)) (rankedEntry updated) =
      atLeastAsGood (entryScore results startEventId endEventId eventId)
        (groupMembers groups row.groupId) row.entryId := by
    rw [hranked, atLeastAsGood, List.countP_map]
    rfl
  have hpositive : 0 < atLeastAsGood (entryScore results startEventId endEventId eventId)
      (groupMembers groups row.groupId) row.entryId :=
    List.countP_pos_iff.mpr ⟨row.entryId, hlisted, by simp⟩
  have hlookup : (rankLookup (updatedGroupRows tournament startEventId endEventId entryIds results
      eventId groups) updated.groupId).lookup
        (groupRankKey updated.totalNetPoints updated.overallRank) =
      some (atLeastAsGood (entryScore results startEventId endEventId eventId)
        (groupMembers groups row.groupId) row.entryId) := by
    rw [hgroup, rankLookup_of_complete hcomplete hmember, ← hcount]
    exact hrank
  simp only [pointsRaceRow, hupdated, Option.map_some, Option.getD_some, applyGroupRank, hcut,
    if_neg hpos, hlookup, hpositive, true_and]
  split
  next hrank => simp [hrank]
  next hrank => simp [hrank]

/-- A synchronised row keeps its group. -/
theorem pointsRaceRow_groupId (groups : List GroupRow) (row : GroupRow) :
    (pointsRaceRow tournament startEventId endEventId entryIds results eventId groups
      row).groupId = row.groupId :=
  congrArg (fun key => key.2.1) (pointsRaceRow_key eventId groups row)

/-- After a complete event, the qualified entries of a group are those ranked within the cut. -/
theorem qualifiedCount_eq {cut : ℕ} (hcut : tournament.groupQualifyNum = some cut)
    (hpos : cut ≠ 0) (hcomplete : EventComplete entryIds results eventId)
    {groups : List GroupRow} (hmember : ∀ row ∈ groups, IsMemberRow tournament entryIds row)
    (groupId : ℕ) :
    qualifiedCount (groups.map (pointsRaceRow tournament startEventId endEventId entryIds results
        eventId groups)) groupId =
      (groupMembers groups groupId).countP fun entryId =>
        atLeastAsGood (entryScore results startEventId endEventId eventId)
          (groupMembers groups groupId) entryId ≤ cut := by
  rw [qualifiedCount, List.countP_map, groupMembers, List.countP_map, List.countP_filter]
  refine List.countP_congr fun row hrow => ?_
  have hgroup := @pointsRaceRow_groupId tournament entryIds results startEventId endEventId eventId
    groups row
  have hqualified := @pointsRaceRow_qualified tournament entryIds results startEventId endEventId
    eventId cut hcut hpos hcomplete groups hmember row hrow
  simp only [Function.comp_apply, Bool.and_eq_true, decide_eq_true_eq, hgroup, hqualified]
  constructor
  · rintro ⟨rfl, hrank⟩
    exact ⟨hrank, rfl⟩
  · rintro ⟨hrank, rfl⟩
    exact ⟨rfl, hrank⟩

end Ranks

/-- The qualified rows are those of each group together. -/
theorem length_findQualifiedEntries (groups : List GroupRow) {groupCount : ℕ}
    (hgroups : ∀ row ∈ groups, 1 ≤ row.groupId ∧ row.groupId ≤ groupCount) :
    (findQualifiedEntriesByTournamentId groups).length =
      ∑ groupId ∈ Finset.Icc 1 groupCount, qualifiedCount groups groupId := by
  rw [findQualifiedEntriesByTournamentId, List.length_insertionSort, List.length_map,
    ← List.countP_eq_length_filter]
  induction groups with
  | nil => simp [qualifiedCount]
  | cons row rest ih =>
    have hrest := ih fun other hother => hgroups other (List.mem_cons_of_mem row hother)
    have hown : ∑ groupId ∈ Finset.Icc 1 groupCount,
        (if (row.groupId = groupId && row.qualified = 1) = true then 1 else 0) =
          if row.qualified = 1 then 1 else 0 := by
      by_cases hqualified : row.qualified = 1
      · simp [hqualified, Finset.sum_ite_eq, hgroups row List.mem_cons_self]
      · simp [hqualified]
    simp only [qualifiedCount, List.countP_cons, Finset.sum_add_distrib, hown] at hrest ⊢
    rw [hrest]
    simp

/-- Groups that qualify no more than the cut qualify as many as planned in total exactly when
each of them fills its cut. -/
theorem sum_qualifiedCount_eq_iff {groups : List GroupRow} {groupCount cut : ℕ}
    (hle : ∀ groupId, 1 ≤ groupId → groupId ≤ groupCount → qualifiedCount groups groupId ≤ cut) :
    ∑ groupId ∈ Finset.Icc 1 groupCount, qualifiedCount groups groupId = groupCount * cut ↔
      ∀ groupId, 1 ≤ groupId → groupId ≤ groupCount → qualifiedCount groups groupId = cut := by
  have hconst : groupCount * cut = ∑ _groupId ∈ Finset.Icc 1 groupCount, cut := by simp
  rw [hconst, Finset.sum_eq_sum_iff_of_le fun groupId hgroup =>
    hle groupId (Finset.mem_Icc.mp hgroup).1 (Finset.mem_Icc.mp hgroup).2]
  simp only [Finset.mem_Icc, and_imp]

section Seeder

variable {tournament : TournamentConfig} {entrants legs start : ℕ}

/-- A fresh bracket has a first round without entries. -/
theorem findRoundOne_storedBracket (plan : PlannedKnockout tournament entrants legs start) :
    (findRoundOne (storedBracket (buildKnockoutRows tournament none))).length =
        nextPowerOfTwo entrants / 2 ∧
      ∀ row ∈ findRoundOne (storedBracket (buildKnockoutRows tournament none)),
        row.homeEntryId = none ∧ row.awayEntryId = none := by
  have hrows : ((storedBracket (buildKnockoutRows tournament none)).knockouts.filter
      fun row => row.round = 1) =
        ((List.range (nextPowerOfTwo entrants / 2)).map fun index =>
          bracketMatch tournament none (Nat.clog 2 entrants) 1 index).map Knockout.ofRow := by
    rw [← filter_roundOne none plan, storedBracket, List.filter_map]
    rfl
  constructor
  · rw [findRoundOne, List.length_insertionSort, hrows, List.length_map, List.length_map,
      List.length_range]
  · intro row hrow
    rw [findRoundOne, List.mem_insertionSort, hrows] at hrow
    obtain ⟨built, hbuilt, rfl⟩ := List.mem_map.mp hrow
    obtain ⟨index, -, rfl⟩ := List.mem_map.mp hbuilt
    exact ⟨rfl, rfl⟩

/-- Pairs with a home entry for every first-round match seed the whole round. -/
theorem alreadySeeded_seedRoundOne {pairs : List SeedPair} {state : KnockoutState} (legs : ℕ)
    (hlength : (findRoundOne state).length = pairs.length)
    (hhome : ∀ pair ∈ pairs, pair.homeEntryId ≠ none) :
    alreadySeeded (findRoundOne (seedRoundOne pairs legs state)) = true := by
  have hupdates : ∀ row ∈ findRoundOne state, ∃ pair ∈ pairs,
      (roundOneUpdates pairs (findRoundOne state)).lookup row.matchId = some pair := by
    intro row hrow
    obtain ⟨index, hindex, hget⟩ := List.mem_iff_getElem.mp hrow
    have hsource : index < pairs.length := hlength ▸ hindex
    have hpair : (row.matchId, pairs[index]) ∈ roundOneUpdates pairs (findRoundOne state) := by
      refine List.mem_filterMap.mpr ⟨(row, index), ?_, by simp⟩
      rw [List.mem_zipIdx_iff_getElem?, List.getElem?_eq_getElem hindex, hget]
    obtain ⟨pair, hlookup, hlisted⟩ := exists_lookup_of_mem hpair
    refine ⟨pair, ?_, hlookup⟩
    obtain ⟨_, -, hsome⟩ := List.mem_filterMap.mp hlisted
    obtain ⟨_, hget, heq⟩ := Option.map_eq_some_iff.mp hsome
    rw [← (Prod.mk.inj heq).2]
    exact List.mem_of_getElem? hget
  rw [alreadySeeded, List.all_eq_true]
  intro row hrow
  rw [findRoundOne, List.mem_insertionSort, List.mem_filter] at hrow
  obtain ⟨hrow, hround⟩ := hrow
  obtain ⟨old, hold, rfl⟩ := List.mem_map.mp hrow
  have holdRound : old.round = 1 := by
    split at hround
    · exact of_decide_eq_true hround
    · exact of_decide_eq_true hround
  have hfound : old ∈ findRoundOne state := by
    rw [findRoundOne, List.mem_insertionSort]
    exact List.mem_filter.mpr ⟨hold, decide_eq_true holdRound⟩
  obtain ⟨pair, hpair, hlookup⟩ := hupdates old hfound
  simp only [hlookup, Bool.or_eq_true]
  exact Or.inl (Option.isSome_iff_ne_none.mpr (hhome pair hpair))

/-- Behind a group phase, the seeder fills the first round of a fresh bracket exactly when
enough entries have qualified. -/
theorem ensureKnockoutRoundOneSeeded_iff (plan : PlannedKnockout tournament entrants legs start)
    (hgroupMode : tournament.groupMode ≠ .noGroup)
    (hknockout : tournament.knockoutMode ≠ .noKnockout) (entrySeeds : List EntrySeed)
    (groups : List GroupRow) :
    alreadySeeded (findRoundOne (ensureKnockoutRoundOneSeeded tournament entrySeeds groups
        (storedBracket (buildKnockoutRows tournament none)))) = true ↔
      entrants ≤ (findQualifiedEntriesByTournamentId groups).length := by
  obtain ⟨hlength, hfresh⟩ := findRoundOne_storedBracket plan
  have htwo := plan.two_le_entrants
  have hlegs := plan.one_le_legs
  obtain ⟨halvings, hsize, -, -⟩ := nextPowerOfTwo_bounds htwo
  have hnonempty : findRoundOne (storedBracket (buildKnockoutRows tournament none)) ≠ [] := by
    have := Nat.two_pow_pos halvings
    rw [← List.length_pos_iff, hlength, hsize, pow_succ']
    omega
  have hunseeded :
      alreadySeeded (findRoundOne (storedBracket (buildKnockoutRows tournament none))) = false := by
    obtain ⟨row, hrow⟩ := List.exists_mem_of_ne_nil _ hnonempty
    rw [alreadySeeded, List.all_eq_false]
    exact ⟨row, hrow, by simp [hfresh row hrow]⟩
  simp only [ensureKnockoutRoundOneSeeded, plan.knockoutTeamNum, plan.knockoutPlayAgainstNum,
    hunseeded, hknockout, hnonempty, Bool.false_eq_true, or_false, false_or]
  rw [if_neg (by omega), knockoutEntrants, if_neg hgroupMode]
  by_cases henough : (findQualifiedEntriesByTournamentId groups).length < entrants
  · simp [henough, hunseeded]
  · have hids : (((sortQualifiedEntries (findQualifiedEntriesByTournamentId groups)).take
        entrants).map QualifiedEntry.entryId).length = entrants := by
      rw [List.length_map, List.length_take, sortQualifiedEntries, List.length_insertionSort]
      omega
    simp only [if_neg henough, Option.bind_some, hids, lt_irrefl, if_false]
    generalize ((sortQualifiedEntries (findQualifiedEntriesByTournamentId groups)).take
      entrants).map QualifiedEntry.entryId = ids at hids
    subst hids
    exact iff_of_true (alreadySeeded_seedRoundOne legs
      (hlength.trans (length_seedBracketEntries htwo).symm)
      (seedBracketEntries_home_present htwo)) (not_lt.mp henough)

end Seeder

/-- The columns of an accepted points race that is followed by a knockout. -/
structure PlannedQualification (tournament : TournamentConfig) (entryCount groupCount cut : ℕ) :
    Prop where
  groupMode : tournament.groupMode = .pointsRaces
  groupNum : tournament.groupNum = some groupCount
  one_le_groupCount : 1 ≤ groupCount
  groupQualifyNum : tournament.groupQualifyNum = some cut
  one_le_cut : 1 ≤ cut
  window : ∃ startEventId endEventId, tournament.groupStartedEventId = some startEventId ∧
    tournament.groupEndedEventId = some endEventId ∧ 1 ≤ startEventId ∧ 1 ≤ endEventId
  qualifiers_le : groupCount * cut ≤ entryCount
  knockoutTeamNum : tournament.knockoutTeamNum = some (groupCount * cut)

/-- A requested count is positive. -/
theorem toOptionalPositiveInteger_pos {value : Option String} {count : ℕ}
    (h : toOptionalPositiveInteger value = some count) : 1 ≤ count := by
  obtain ⟨text, -, htext⟩ := Option.bind_eq_some_iff.mp h
  simp only [Option.ite_none_left_eq_some, Option.some.injEq] at htext
  obtain ⟨-, hguard, rfl⟩ := htext
  exact Nat.one_le_iff_ne_zero.mpr fun hzero => hguard (Or.inl hzero)

section Accepted

variable {payload : TournamentCreateInput} {selectedParticipants : List TournamentParticipant}
  {leagueId : ℕ} {leagueType : LeagueType} {sourceLeagueName : Option String}
  {sourceConfig : Option SourceConfig} {plan : TournamentStructurePlan}

/-- The planner accepts a points race before a knockout only with groups that can supply its
entrants. -/
theorem planTournamentStructure_plannedQualification
    (haccepted : planTournamentStructure payload selectedParticipants leagueId leagueType
      sourceLeagueName sourceConfig = .ok plan)
    (hpointsRace : plan.groupMode = .pointsRaces) (hknockout : plan.knockoutMode ≠ .noKnockout)
    (id : ℕ) :
    ∃ cut, PlannedQualification (plan.config id) selectedParticipants.length plan.groupNum cut := by
  rw [planTournamentStructure] at haccepted
  obtain ⟨-, haccepted⟩ := ok_of_guard haccepted
  obtain ⟨-, haccepted⟩ := ok_of_guard haccepted
  split at haccepted
  next groupStartedEventId groupEndedEventId hstart hend =>
    obtain ⟨-, haccepted⟩ := ok_of_guard haccepted
    split at haccepted
    · simp only [planOfficialH2H] at haccepted
      obtain ⟨-, hplan⟩ := ok_of_guard haccepted
      obtain rfl := Except.ok.inj hplan
      exact absurd hpointsRace (by simp)
    · simp only [planPhases] at haccepted
      obtain ⟨hqualifiers, hnext⟩ := ok_of_guard haccepted
      obtain ⟨htotal, hnext⟩ := ok_of_guard hnext
      obtain ⟨-, hnext⟩ := ok_of_guard hnext
      obtain ⟨-, hplan⟩ := ok_of_guard hnext
      obtain rfl := Except.ok.inj hplan
      have hpoints : payload.groupFormat = .points := by
        cases hformat : payload.groupFormat with
        | none => simp [hformat, GroupFormat.groupMode] at hpointsRace
        | points => rfl
      have hformat : payload.knockoutFormat ≠ .none := by
        intro hnone
        exact hknockout (by simp [hnone, KnockoutFormat.knockoutMode])
      cases hcut : toOptionalPositiveInteger payload.qualifiersPerGroup with
      | none => simp [hpoints, hformat, hcut] at hqualifiers
      | some cut =>
        refine ⟨cut, ?_⟩
        simp only [hpoints, hformat, hcut, ne_eq, not_false_eq_true, true_and,
          Option.getD_some] at htotal
        exact
          { groupMode := by simp [TournamentStructurePlan.config, hpoints, GroupFormat.groupMode]
            groupNum := by simp [TournamentStructurePlan.config, hpoints]
            one_le_groupCount := by
              simp only [hpoints, reduceCtorEq, if_false]
              cases hgroups : toOptionalPositiveInteger payload.groupNum with
              | none => exact le_refl 1
              | some groupNum => exact toOptionalPositiveInteger_pos hgroups
            groupQualifyNum := by simp [TournamentStructurePlan.config, hpoints]
            one_le_cut := toOptionalPositiveInteger_pos hcut
            window := ⟨_, _, rfl, rfl, (parseGameweek_bounds hstart).1,
              (parseGameweek_bounds hend).1⟩
            qualifiers_le := by simpa [hpoints] using htotal
            knockoutTeamNum := by simp [TournamentStructurePlan.config, hpoints, hformat] }
  next => exact absurd haccepted (by simp)

/-- The group phase supplies the entrants its knockout was planned for. -/
structure QualifiedAsPlanned (tournament : TournamentConfig) (entrySeeds : List EntrySeed)
    (groupCount cut : ℕ) (groups : List GroupRow) : Prop where
  every_group : ∀ groupId, 1 ≤ groupId → groupId ≤ groupCount → qualifiedCount groups groupId = cut
  in_total : (findQualifiedEntriesByTournamentId groups).length = groupCount * cut
  seeded : alreadySeeded (findRoundOne (ensureKnockoutRoundOneSeeded tournament entrySeeds groups
    (storedBracket (buildKnockoutRows tournament none)))) = true

/-- Groups that were drawn for a planned qualification are large enough for their cut. -/
theorem cut_le_groupMembers {tournament : TournamentConfig} {entries : List EntrySeed}
    {groupCount cut : ℕ} (planned : PlannedQualification tournament entries.length groupCount cut)
    {groupId : ℕ} (hpos : 1 ≤ groupId) (hgroup : groupId ≤ groupCount) :
    cut ≤ (groupMembers (buildGroupRows tournament entries) groupId).length := by
  have hcount : tournament.groupCount = groupCount := by
    rw [TournamentConfig.groupCount, planned.groupNum, Option.getD_some]
    exact max_eq_left planned.one_le_groupCount
  obtain ⟨groupIndex, rfl⟩ := Nat.exists_eq_add_of_le' hpos
  have hindex : groupIndex < tournament.groupCount := by omega
  rw [groupMembers, List.length_map, length_filter_buildGroupRows tournament entries hindex, hcount]
  refine le_trans ?_ (share_le_dealtTo planned.one_le_groupCount (hcount ▸ hindex) entries.length)
  rw [Nat.le_div_iff_mul_le planned.one_le_groupCount, Nat.mul_comm]
  exact planned.qualifiers_le

/-- After the last group event of an accepted points race, every group has supplied its
qualifiers and the knockout is seeded exactly when no tie lies across the cut of a group. -/
theorem lastGroupSync_qualifiedAsPlanned_iff
    (haccepted : planTournamentStructure payload selectedParticipants leagueId leagueType
      sourceLeagueName sourceConfig = .ok plan)
    (hpointsRace : plan.groupMode = .pointsRaces) (hknockout : plan.knockoutMode ≠ .noKnockout)
    (id : ℕ) {cut : ℕ} (hcut : plan.groupQualifyNum = some cut) {entries : List EntrySeed}
    (hroster : (entries.map EntrySeed.entryId).Perm
      (selectedParticipants.map fun participant => decimalValue participant.id.toList))
    (hdistinct : (entries.map EntrySeed.entryId).Nodup) {results : List EntryEventResult}
    {earlier : List ℕ}
    (hcomplete : ∀ eventId ∈ earlier ++ [plan.groupEndedEventId],
      EventComplete (entries.map EntrySeed.entryId) results eventId) :
    QualifiedAsPlanned (plan.config id) entries plan.groupNum cut
        (runSteps (pointsRaceStep (plan.config id) (entries.map EntrySeed.entryId) results)
          ⟨buildGroupRows (plan.config id) entries, []⟩
          (earlier ++ [plan.groupEndedEventId])).groups ↔
      ∀ groupId, 1 ≤ groupId → groupId ≤ plan.groupNum →
        ¬ TieAcross (entryScore results plan.groupStartedEventId plan.groupEndedEventId
            plan.groupEndedEventId)
          (groupMembers (buildGroupRows (plan.config id) entries) groupId) cut := by
  obtain ⟨_, planned⟩ :=
    planTournamentStructure_plannedQualification haccepted hpointsRace hknockout id
  obtain rfl : cut = _ := Option.some.inj (hcut.symm.trans planned.groupQualifyNum)
  obtain ⟨_, _, _, _, bracket, -⟩ := planTournamentStructure_plannedKnockout haccepted hknockout id
  obtain rfl := Option.some.inj (planned.knockoutTeamNum.symm.trans bracket.knockoutTeamNum)
  obtain ⟨_, _, hstart, hend, hstartPos, hendPos⟩ := planned.window
  cases hstart
  cases hend
  have hcount : selectedParticipants.length = entries.length := by
    simpa using hroster.length_eq.symm
  rw [hcount] at planned
  have hentryIds := map_entryId_buildGroupRows_perm (plan.config id) entries
  have hkeys : ((buildGroupRows (plan.config id) entries).map GroupRow.key).Nodup := by
    refine List.Nodup.of_map (fun key => key.2.2) ?_
    rw [List.map_map]
    exact hentryIds.nodup_iff.mpr hdistinct
  have hmember : ∀ row ∈ buildGroupRows (plan.config id) entries,
      IsMemberRow (plan.config id) (entries.map EntrySeed.entryId) row := fun row hrow =>
    ⟨(mem_buildGroupRows _ _ hrow).1, hentryIds.mem_iff.mp (List.mem_map_of_mem hrow)⟩
  have hlast := hcomplete plan.groupEndedEventId (by simp)
  rw [pointsRaceRun_groups rfl rfl (by omega) (by omega)
    (fun eventId heventId => hcomplete eventId (List.mem_append_left _ heventId)) hlast hkeys]
  have hqualified := fun groupId =>
    @qualifiedCount_eq (plan.config id) (entries.map EntrySeed.entryId) results
      plan.groupStartedEventId plan.groupEndedEventId plan.groupEndedEventId cut
      planned.groupQualifyNum (by have := planned.one_le_cut; omega) hlast _ hmember groupId
  have hgroups : ∀ row ∈ (buildGroupRows (plan.config id) entries).map
      (pointsRaceRow (plan.config id) plan.groupStartedEventId plan.groupEndedEventId
        (entries.map EntrySeed.entryId) results plan.groupEndedEventId
        (buildGroupRows (plan.config id) entries)),
      1 ≤ row.groupId ∧ row.groupId ≤ plan.groupNum := by
    intro row hrow
    obtain ⟨built, hbuilt, rfl⟩ := List.mem_map.mp hrow
    have hbounds := (mem_buildGroupRows _ _ hbuilt).2
    rw [TournamentConfig.groupCount, planned.groupNum, Option.getD_some,
      max_eq_left planned.one_le_groupCount] at hbounds
    rw [pointsRaceRow_groupId]
    exact hbounds
  constructor
  · intro hplanned groupId hpos hgroup
    rw [← countP_rank_le_eq_iff (cut_le_groupMembers planned hpos hgroup), ← hqualified]
    exact hplanned.every_group groupId hpos hgroup
  · intro hties
    have hevery : ∀ groupId, 1 ≤ groupId → groupId ≤ plan.groupNum → qualifiedCount
        ((buildGroupRows (plan.config id) entries).map (pointsRaceRow (plan.config id)
          plan.groupStartedEventId plan.groupEndedEventId (entries.map EntrySeed.entryId) results
          plan.groupEndedEventId (buildGroupRows (plan.config id) entries))) groupId = cut := by
      intro groupId hpos hgroup
      rw [hqualified, countP_rank_le_eq_iff (cut_le_groupMembers planned hpos hgroup)]
      exact hties groupId hpos hgroup
    have htotal := (length_findQualifiedEntries _ hgroups).trans
      ((sum_qualifiedCount_eq_iff fun groupId hpos hgroup =>
        (hevery groupId hpos hgroup).le).mpr hevery)
    exact
      { every_group := hevery
        in_total := htotal
        seeded := (ensureKnockoutRoundOneSeeded_iff bracket (by simp [planned.groupMode]) hknockout
          entries _).mpr htotal.ge }

end Accepted

/-- A request for a points race of one gameweek whose best two play a final. -/
def finalRequest : TournamentCreateInput :=
  { tournamentName := "Final"
    adminId := "7"
    creator := "admin"
    platformAdmin := none
    participantSource := .custom
    groupFormat := .points
    startGameweek := "GW1"
    endGameweek := "GW1"
    groupNum := none
    qualifiersPerGroup := some "2"
    knockoutFormat := .single
    adminId_digits := cupRequest.adminId_digits
    groupNum_valid := cupRequest.groupNum_valid
    qualifiersPerGroup_valid := by simp [isOptionalPositiveIntegerText] }

/-- The plan of the final. -/
def finalPlan : TournamentStructurePlan :=
  { leagueId := 1
    leagueType := .classic
    sourceLeagueName := none
    rosterMode := .snapshot
    tournamentName := "Final"
    creator := "admin"
    adminEntryId := 7
    selectedParticipants := cupParticipants
    groupMode := .pointsRaces
    groupTeamNum := 3
    groupNum := 1
    groupAutoAverages := false
    groupStartedEventId := 1
    groupEndedEventId := 1
    groupRounds := 1
    groupQualifyNum := some 2
    knockoutMode := .singleElimination
    knockoutTeamNum := some 2
    knockoutEventNum := some 1
    knockoutRounds := some 1
    knockoutStartedEventId := some 2
    knockoutEndedEventId := some 2
    knockoutPlayAgainstNum := some 1 }

/-- The planner accepts the final. -/
theorem finalRequest_accepted :
    planTournamentStructure finalRequest cupParticipants 1 .classic none none = .ok finalPlan := by
  have hqualifiers : toOptionalPositiveInteger finalRequest.qualifiersPerGroup = some 2 := by
    have hfinite : ¬ infinityThreshold ≤ 2 := 
      not_le.mpr (@lt_infinityThreshold 2 2 (by omega) (by decide))
    have hparsed : decimalValue "2".toList = 2 := by decide
    have hempty : (trimText "2").isEmpty = false := by decide
    rw [finalRequest, toOptionalPositiveInteger, Option.bind_some, hempty]
    simp only [hparsed, hfinite]
    rfl
  simp only [planTournamentStructure, planPhases, hqualifiers]
  rfl

/-- The roster of the final. -/
def finalEntries : List EntrySeed := [⟨7, some 1⟩, ⟨8, some 2⟩, ⟨9, some 3⟩]

/-- The results of the final's gameweek, with the points and rank of the third entry. -/
def finalResults (points : ℤ) (overallRank : ℕ) : List EntryEventResult :=
  [⟨7, 1, 60, 0, 60, none, 10, none, []⟩, ⟨8, 1, 50, 0, 50, none, 20, none, []⟩,
    ⟨9, 1, points, 0, points, none, overallRank, none, []⟩]

/-- Two entries that are level in second place both miss the final, which stays empty. -/
theorem final_tie_not_qualifiedAsPlanned :
    planTournamentStructure finalRequest cupParticipants 1 .classic none none = .ok finalPlan ∧
      (∀ entryId ∈ finalEntries.map EntrySeed.entryId,
        (eventResultOf (finalResults 50 20) 1 entryId).isSome) ∧
      ¬ QualifiedAsPlanned (finalPlan.config 1) finalEntries 1 2
        (runSteps (pointsRaceStep (finalPlan.config 1) (finalEntries.map EntrySeed.entryId)
          (finalResults 50 20)) ⟨buildGroupRows (finalPlan.config 1) finalEntries, []⟩
          [1]).groups := by
  refine ⟨finalRequest_accepted, by decide, fun planned => ?_⟩
  have hcount := planned.every_group 1 (le_refl 1) (le_refl 1)
  revert hcount
  decide

/-- Without the tie, the final is played exactly if no tie lies across its cut. -/
theorem final_qualifiedAsPlanned_iff :
    QualifiedAsPlanned (finalPlan.config 1) finalEntries 1 2
        (runSteps (pointsRaceStep (finalPlan.config 1) (finalEntries.map EntrySeed.entryId)
          (finalResults 40 30)) ⟨buildGroupRows (finalPlan.config 1) finalEntries, []⟩
          ([] ++ [1])).groups ↔
      ∀ groupId, 1 ≤ groupId → groupId ≤ 1 →
        ¬ TieAcross (entryScore (finalResults 40 30) 1 1 1)
          (groupMembers (buildGroupRows (finalPlan.config 1) finalEntries) groupId) 2 :=
  lastGroupSync_qualifiedAsPlanned_iff finalRequest_accepted rfl (by decide) 1 rfl
    (by decide) (by decide) (by unfold EventComplete; decide)

end LetletmeData
