import LetletmeData.Services.BattleRaceRuns
import LetletmeData.Services.TournamentPointsRace

/-!
# Convergence of a battle race

Once every event was synchronised, all pairings have their final scores, and if the latest
event in play has a scored pairing then every horizon is that event. Further synchronisations
compute the same group rows, which show the standings through that event.
-/

namespace LetletmeData

open LetletmeData.Library

variable {tournament : TournamentConfig} {entryIds : List ℕ} {results : List EntryEventResult}
  {startEventId endEventId : ℕ}

/-- The horizon of an event is the latest event with a scored pairing. -/
theorem recomputeThroughEventId_eq {battleResults : List BattleGroupResult} {latest eventId : ℕ}
    (hfrom : startEventId ≤ latest) (hto : latest ≤ endEventId)
    (hscored : ∃ row ∈ battleResults, row.eventId = latest ∧ row.isScored = true)
    (hbound : ∀ row ∈ battleResults, startEventId ≤ row.eventId → row.eventId ≤ endEventId →
      row.isScored = true → row.eventId ≤ latest)
    (hevent : eventId ≤ latest) :
    recomputeThroughEventId battleResults startEventId endEventId eventId = latest := by
  have hmax : findMaxEventIdInRange battleResults startEventId endEventId = some latest := by
    rw [findMaxEventIdInRange, List.max?_eq_some_iff]
    constructor
    · obtain ⟨row, hrow, rfl, hrowScored⟩ := hscored
      exact List.mem_map_of_mem (List.mem_filter.mpr ⟨hrow, by simp [hfrom, hto, hrowScored]⟩)
    · intro eventId hmem
      obtain ⟨row, hrow, rfl⟩ := List.mem_map.mp hmem
      simp only [List.mem_filter, Bool.and_eq_true, decide_eq_true_eq] at hrow
      exact hbound row hrow.1 hrow.2.1.1 hrow.2.1.2 hrow.2.2
  rw [recomputeThroughEventId, hmax, Option.getD_some]
  omega

section Rows

variable {history : List BattleGroupResult} {throughEventId : ℕ} {groups : List GroupRow}

/-- A row that is updated takes its rank among the updated rows. -/
theorem battleRow_of_update {group update : GroupRow}
    (h : battleGroupUpdate tournament startEventId entryIds results history throughEventId group =
      some update) :
    battleRow tournament startEventId entryIds results history throughEventId groups group =
      applyBattleRank tournament.groupQualifyNum (groups.filterMap
        (battleGroupUpdate tournament startEventId entryIds results history throughEventId))
        update := by
  rw [battleRow, h]
  rfl

/-- A row that is not updated stays as it is. -/
theorem battleRow_of_no_update {group : GroupRow}
    (h : battleGroupUpdate tournament startEventId entryIds results history throughEventId group =
      none) :
    battleRow tournament startEventId entryIds results history throughEventId groups group =
      group := by
  rw [battleRow, h]
  rfl

/-- Updating a synchronised row only carries its rank and its qualification over. -/
theorem battleGroupUpdate_battleRow (group : GroupRow) :
    battleGroupUpdate tournament startEventId entryIds results history throughEventId
        (battleRow tournament startEventId entryIds results history throughEventId groups group) =
      (battleGroupUpdate tournament startEventId entryIds results history throughEventId
        group).map fun update =>
          { update with
            groupRank := (battleRow tournament startEventId entryIds results history
              throughEventId groups group).groupRank
            qualified := (battleRow tournament startEventId entryIds results history
              throughEventId groups group).qualified } := by
  cases h : battleGroupUpdate tournament startEventId entryIds results history throughEventId
    group with
  | none =>
    rw [battleRow_of_no_update h, h, Option.map_none]
  | some update =>
    rw [battleRow_of_update h]
    simp only [battleGroupUpdate, Option.ite_none_right_eq_some, Option.map_eq_some_iff] at h
    obtain ⟨hmember, eventResult, hresult, rfl⟩ := h
    simp only [battleGroupUpdate, applyBattleRank]
    rw [if_pos (by exact hmember), hresult]
    rfl

/-- Synchronised rows are ranked like the rows they come from. -/
theorem rankBattleGroups_map (groupId : ℕ) (rows : List GroupRow) :
    rankBattleGroups ((rows.map (battleRow tournament startEventId entryIds results history
        throughEventId groups)).filterMap
          (battleGroupUpdate tournament startEventId entryIds results history throughEventId))
        groupId =
      rankBattleGroups (rows.filterMap
        (battleGroupUpdate tournament startEventId entryIds results history throughEventId))
        groupId := by
  unfold rankBattleGroups
  congr 1
  simp only [List.filter_filterMap, List.map_filterMap, List.filterMap_map]
  refine List.filterMap_congr fun group _ => ?_
  rw [Function.comp_apply, battleGroupUpdate_battleRow]
  cases battleGroupUpdate tournament startEventId entryIds results history throughEventId group with
  | none => rfl
  | some update =>
    by_cases hid : update.groupId = groupId <;> simp [Option.filter, hid, rankedBattleEntry]

/-- Computing the group rows again from the same pairings changes nothing. -/
theorem battleRow_idempotent (group : GroupRow) :
    battleRow tournament startEventId entryIds results history throughEventId
        (groups.map (battleRow tournament startEventId entryIds results history throughEventId
          groups))
        (battleRow tournament startEventId entryIds results history throughEventId groups group) =
      battleRow tournament startEventId entryIds results history throughEventId groups group := by
  rw [battleRow, battleGroupUpdate_battleRow]
  cases h : battleGroupUpdate tournament startEventId entryIds results history throughEventId
    group with
  | none => rfl
  | some update =>
    rw [battleRow_of_update h]
    simp only [Option.map_some, Option.getD_some, applyBattleRank, rankBattleGroups_map]
    cases tournament.groupQualifyNum with
    | none => rfl
    | some cut =>
      by_cases hcut : cut = 0
      · simp [hcut]
      · simp [hcut]

/-- A member with a result at the horizon is updated once its group is in the history. -/
theorem battleGroupUpdate_of_member {group : GroupRow}
    (hmember : IsMemberRow tournament entryIds group)
    (hgroup : ∃ pairing ∈ history, pairing.groupId = group.groupId)
    {eventResult : EntryEventResult}
    (hresult : eventResultOf results throughEventId group.entryId = some eventResult) :
    ∃ update, battleGroupUpdate tournament startEventId entryIds results history throughEventId
        group = some update ∧ update.groupId = group.groupId ∧ update.entryId = group.entryId ∧
      update.groupPoints = (counterOf history group.groupId group.entryId).points ∧
      update.won = (counterOf history group.groupId group.entryId).won ∧
      update.drawn = (counterOf history group.groupId group.entryId).drawn ∧
      update.lost = (counterOf history group.groupId group.entryId).lost ∧
      update.played = (throughEventId : ℤ) - startEventId + 1 ∧
      update.overallRank = some eventResult.overallRank := by
  refine ⟨_, by rw [battleGroupUpdate, if_pos ⟨hmember, hgroup⟩, hresult, Option.map_some], ?_⟩
  exact ⟨rfl, rfl, rfl, rfl, rfl, rfl, rfl, rfl⟩

/-- A group ranks its members with a result at the horizon. -/
theorem map_rankedBattleEntry_filter {groupId : ℕ}
    (hgroup : ∃ pairing ∈ history, pairing.groupId = groupId) {rows : List GroupRow}
    (hmember : ∀ row ∈ rows, IsMemberRow tournament entryIds row) :
    ((rows.filterMap (battleGroupUpdate tournament startEventId entryIds results history
        throughEventId)).filter fun row => row.groupId = groupId).map rankedBattleEntry =
      ((rows.map (battleRow tournament startEventId entryIds results history throughEventId
        groups)).filter fun row => row.groupId = groupId &&
          (eventResultOf results throughEventId row.entryId).isSome).map rankedBattleEntry := by
  induction rows with
  | nil => rfl
  | cons row rest ih =>
    have hrest := ih fun other hother => hmember other (List.mem_cons_of_mem row hother)
    have hkey := @battleRow_key tournament entryIds results startEventId history throughEventId
      groups row
    simp only [GroupRow.key, Prod.mk.injEq] at hkey
    by_cases hid : row.groupId = groupId
    · cases hresult : eventResultOf results throughEventId row.entryId with
      | none =>
        have hnone : battleGroupUpdate tournament startEventId entryIds results history
            throughEventId row = none := by
          simp [battleGroupUpdate, hresult]
        simpa [hnone, hkey, hresult] using hrest
      | some eventResult =>
        obtain ⟨update, hupdate, hupdateGroup, -⟩ :=
          @battleGroupUpdate_of_member tournament entryIds results startEventId history
            throughEventId row (hmember row List.mem_cons_self) (hid.symm ▸ hgroup) _ hresult
        have hranked : rankedBattleEntry (battleRow tournament startEventId entryIds results
            history throughEventId groups row) = rankedBattleEntry update := by
          rw [battleRow_of_update hupdate]
          rfl
        simpa [hupdate, hupdateGroup, hkey, hresult, hid, hranked] using hrest
    · cases hupdate : battleGroupUpdate tournament startEventId entryIds results history
        throughEventId row with
      | none => simpa [hupdate, hkey, hid] using hrest
      | some update =>
        have hupdateKey := battleGroupUpdate_key hupdate
        simp only [GroupRow.key, Prod.mk.injEq] at hupdateKey
        simpa [hupdate, hupdateKey, hkey, hid] using hrest

/-- What the row of an entry shows after the events through the latest one in play. -/
structure BattleStanding (results : List EntryEventResult) (startEventId latest : ℕ)
    (state : BattleRaceState) (row : GroupRow) : Prop where
  matches_counted : row.won + row.drawn + row.lost =
    state.battleResults.countP fun pairing =>
      pairing.groupId = row.groupId && pairing.isScored && pairing.involves row.entryId &&
        (startEventId ≤ pairing.eventId && pairing.eventId ≤ latest)
  events_played : row.played = (latest : ℤ) - startEventId + 1
  points : row.groupPoints = 3 * row.won + row.drawn
  overall_rank : row.overallRank =
    (eventResultOf results latest row.entryId).map EntryEventResult.overallRank
  rank : row.groupRank = some (atLeastAsGood (fun other => rankedScore (rankedBattleEntry other))
    (state.groups.filter fun other => other.groupId = row.groupId &&
      (eventResultOf results latest other.entryId).isSome) row)

section Latest

variable {state : BattleRaceState} {latest : ℕ}
  (race : LocalBattleRace tournament entryIds results state)
  (hmember : ∀ group ∈ groups, IsMemberRow tournament entryIds group)
  (hgroups : state.groups = groups.map (battleRow tournament startEventId entryIds results
    (findByTournamentAndEventRange state.battleResults startEventId latest) latest groups))

include race in
/-- The pairings of a local battle race are fair. -/
theorem LocalBattleRace.fairPairing {pairing : BattleGroupResult}
    (hpairing : pairing ∈ findByTournamentAndEventRange state.battleResults startEventId latest) :
    FairPairing pairing :=
  have hmem := List.mem_of_mem_filter hpairing
  (race.pairings pairing hmem).fairPairing (race.scores pairing hmem)

include race in
/-- A group lists an entry once. -/
theorem LocalBattleRace.nodup_entryIds (groupId : ℕ) :
    ((state.groups.filter fun row => row.groupId = groupId).map GroupRow.entryId).Nodup := by
  refine List.Nodup.of_map (fun entryId => (tournament.id, groupId, entryId)) ?_
  have hkeys : ((state.groups.filter fun row => row.groupId = groupId).map GroupRow.key).Nodup :=
    race.groupKeys.sublist (List.filter_sublist.map GroupRow.key)
  rw [List.map_map]
  rw [List.map_congr_left (g := (fun entryId => (tournament.id, groupId, entryId)) ∘
    GroupRow.entryId)] at hkeys
  · exact hkeys
  · intro row hrow
    simp only [List.mem_filter, decide_eq_true_eq] at hrow
    simp [GroupRow.key, (race.members row hrow.1).1, hrow.2]

include race in
/-- The counted sides of a group are entries of the group. -/
theorem LocalBattleRace.sides_covered (groupId : ℕ) :
    ∀ side ∈ groupSides (findByTournamentAndEventRange state.battleResults startEventId latest)
        groupId,
      side.1 ∈ (state.groups.filter fun row => row.groupId = groupId).map GroupRow.entryId := by
  intro side hside
  obtain ⟨pairing, hpairing, hmem⟩ := List.mem_flatMap.mp hside
  simp only [List.mem_filter, decide_eq_true_eq] at hpairing
  obtain ⟨hpairing, rfl⟩ := hpairing
  obtain ⟨home, away, hhome, haway, -, hhomeSlot, hawaySlot⟩ :=
    (race.pairings pairing (List.mem_of_mem_filter hpairing)).opponents
  have hentry : (tournament.id, pairing.groupId, side.1) ∈ state.groups.map GroupRow.key := by
    obtain ⟨home', away', _, _, hhome', haway', -, hsides⟩ :=
      (race.fairPairing hpairing).sides_eq (isScored_of_mem_sides hmem)
    obtain rfl : home' = home := Option.some.inj (hhome'.symm.trans hhome)
    obtain rfl : away' = away := Option.some.inj (haway'.symm.trans haway)
    rw [hsides] at hmem
    simp only [List.mem_cons, List.not_mem_nil, or_false] at hmem
    rcases hmem with rfl | rfl
    · exact hhomeSlot
    · exact hawaySlot
  obtain ⟨row, hrow, hkey⟩ := List.mem_map.mp hentry
  simp only [GroupRow.key, Prod.mk.injEq] at hkey
  exact List.mem_map.mpr ⟨row, List.mem_filter.mpr ⟨hrow, decide_eq_true hkey.2.1⟩, hkey.2.2⟩

include hmember hgroups in
/-- Where the row of a member with a result comes from. -/
theorem exists_update_of_mem_groups {row : GroupRow} (hrow : row ∈ state.groups)
    (hplayed : ∃ pairing ∈ findByTournamentAndEventRange state.battleResults startEventId latest,
      pairing.groupId = row.groupId)
    (hresult : (eventResultOf results latest row.entryId).isSome) :
    ∃ update ∈ (groups.filterMap (battleGroupUpdate tournament startEventId entryIds results
        (findByTournamentAndEventRange state.battleResults startEventId latest) latest)).filter
          (fun other => other.groupId = row.groupId),
      row = applyBattleRank tournament.groupQualifyNum (groups.filterMap
          (battleGroupUpdate tournament startEventId entryIds results
            (findByTournamentAndEventRange state.battleResults startEventId latest) latest))
          update ∧
        (row.won, row.drawn, row.lost, row.groupPoints) =
          ((counterOf (findByTournamentAndEventRange state.battleResults startEventId latest)
              row.groupId row.entryId).won,
            (counterOf (findByTournamentAndEventRange state.battleResults startEventId latest)
              row.groupId row.entryId).drawn,
            (counterOf (findByTournamentAndEventRange state.battleResults startEventId latest)
              row.groupId row.entryId).lost,
            (counterOf (findByTournamentAndEventRange state.battleResults startEventId latest)
              row.groupId row.entryId).points) ∧
        row.played = (latest : ℤ) - startEventId + 1 ∧
        row.overallRank =
          (eventResultOf results latest row.entryId).map EntryEventResult.overallRank := by
  rw [hgroups] at hrow
  obtain ⟨group, hgroup, rfl⟩ := List.mem_map.mp hrow
  have hkey := @battleRow_key tournament entryIds results startEventId
    (findByTournamentAndEventRange state.battleResults startEventId latest) latest groups group
  simp only [GroupRow.key, Prod.mk.injEq] at hkey
  rw [hkey.2.1] at hplayed
  rw [hkey.2.2] at hresult
  obtain ⟨eventResult, heventResult⟩ := Option.isSome_iff_exists.mp hresult
  obtain ⟨update, hupdate, hgroupId, hentryId, hpoints, hwon, hdrawn, hlost, hevents, hoverall⟩ :=
    @battleGroupUpdate_of_member tournament entryIds results startEventId _ latest group
      (hmember group hgroup) hplayed _ heventResult
  rw [hkey.2.1, hkey.2.2, battleRow_of_update hupdate]
  refine ⟨update, List.mem_filter.mpr ⟨List.mem_filterMap.mpr ⟨group, hgroup, hupdate⟩,
    decide_eq_true hgroupId⟩, rfl, ?_, hevents, ?_⟩
  · simp only [applyBattleRank, hwon, hdrawn, hlost, hpoints]
  · simp only [applyBattleRank, hoverall, heventResult, Option.map_some]

include race hmember hgroups

/-- The rows computed through the latest event in play show the standings there. -/
theorem battleStanding_of_mem_groups {row : GroupRow} (hrow : row ∈ state.groups)
    (hplayed : ∃ pairing ∈ findByTournamentAndEventRange state.battleResults startEventId latest,
      pairing.groupId = row.groupId)
    (hresult : (eventResultOf results latest row.entryId).isSome) :
    BattleStanding results startEventId latest state row := by
  obtain ⟨update, hlisted, heq, hcounters, hevents, hoverall⟩ :=
    exists_update_of_mem_groups hmember hgroups hrow hplayed hresult
  simp only [Prod.mk.injEq] at hcounters
  obtain ⟨hwon, hdrawn, hlost, hpoints⟩ := hcounters
  have hfair : ∀ pairing ∈ findByTournamentAndEventRange state.battleResults startEventId latest,
      FairPairing pairing := fun pairing hpairing => race.fairPairing hpairing
  have hsides := groupSides_isMatchPoints hfair row.groupId
  refine
    { matches_counted := ?_
      events_played := hevents
      points := ?_
      overall_rank := hoverall
      rank := ?_ }
  · rw [hwon, hdrawn, hlost, counterOf_matches hsides, countP_groupSides hfair,
      findByTournamentAndEventRange, List.countP_filter]
  · rw [hpoints, hwon, hdrawn]
    exact counterOf_points hsides row.entryId
  · have hrank := lookup_rankGroups (List.mem_map_of_mem (f := rankedBattleEntry) hlisted)
    have hcount := @map_rankedBattleEntry_filter tournament entryIds results startEventId
      _ latest groups _ hplayed groups hmember
    have hgroupId : update.groupId = row.groupId := by
      rw [heq]
      rfl
    have hranked : rankedBattleEntry update = rankedBattleEntry row := by
      rw [heq]
      rfl
    conv_lhs => rw [heq]
    simp only [applyBattleRank, rankBattleGroups, hgroupId]
    rw [show groupRankKey update.groupPoints update.overallRank = groupRankKey
      (rankedBattleEntry update).totalNetPoints (rankedBattleEntry update).overallRank from rfl,
      hrank, Option.getD_some, hcount, ← hgroups, atLeastAsGood, List.countP_map, hranked]
    rfl

/-- Once all members of a group have results, its wins balance its losses. -/
theorem sum_won_eq_sum_lost_of_groups {groupId : ℕ}
    (hplayed : ∃ pairing ∈ findByTournamentAndEventRange state.battleResults startEventId latest,
      pairing.groupId = groupId)
    (hresults : ∀ row ∈ state.groups, row.groupId = groupId →
      (eventResultOf results latest row.entryId).isSome) :
    ((state.groups.filter fun row => row.groupId = groupId).map GroupRow.won).sum =
      ((state.groups.filter fun row => row.groupId = groupId).map GroupRow.lost).sum := by
  have hfair : ∀ pairing ∈ findByTournamentAndEventRange state.battleResults startEventId latest,
      FairPairing pairing := fun pairing hpairing => race.fairPairing hpairing
  have hrows : ∀ row ∈ state.groups.filter (fun row => row.groupId = groupId),
      row.won = (counterOf (findByTournamentAndEventRange state.battleResults startEventId latest)
          groupId row.entryId).won ∧
        row.lost = (counterOf (findByTournamentAndEventRange state.battleResults startEventId
          latest) groupId row.entryId).lost := by
    intro row hrow
    simp only [List.mem_filter, decide_eq_true_eq] at hrow
    obtain ⟨hrow, rfl⟩ := hrow
    obtain ⟨-, -, -, hcounters, -⟩ :=
      exists_update_of_mem_groups hmember hgroups hrow hplayed (hresults row hrow rfl)
    simp only [Prod.mk.injEq] at hcounters
    exact ⟨hcounters.1, hcounters.2.2.1⟩
  have hbalance := sum_won_eq_sum_lost hfair groupId (race.nodup_entryIds groupId)
    (race.sides_covered groupId)
  rw [List.map_map, List.map_map] at hbalance
  rw [List.map_congr_left fun row hrow => (hrows row hrow).1,
    List.map_congr_left fun row hrow => (hrows row hrow).2]
  exact hbalance

end Latest

end Rows

/-- The latest event of the window in which the tournament has pairings and results. -/
def IsLatestInPlay (results : List EntryEventResult) (entryIds : List ℕ)
    (startEventId endEventId : ℕ) (state : BattleRaceState) (latest : ℕ) : Prop :=
  startEventId ≤ latest ∧ latest ≤ endEventId ∧ InPlay results entryIds state latest ∧
    ∀ eventId, startEventId ≤ eventId → eventId ≤ endEventId →
      InPlay results entryIds state eventId → eventId ≤ latest

/-- A window with an event in play has a latest one. -/
theorem exists_isLatestInPlay {state : BattleRaceState}
    (h : ∃ eventId, startEventId ≤ eventId ∧ eventId ≤ endEventId ∧
      InPlay results entryIds state eventId) :
    ∃ latest, IsLatestInPlay results entryIds startEventId endEventId state latest := by
  classical
  obtain ⟨eventId, hfrom, hto, hplay⟩ := h
  have hspec := Nat.findGreatest_spec (P := fun eventId => startEventId ≤ eventId ∧
    InPlay results entryIds state eventId) hto ⟨hfrom, hplay⟩
  exact ⟨_, hspec.1, Nat.findGreatest_le endEventId, hspec.2, fun other hfrom' hto' hplay' =>
    Nat.le_findGreatest hto' ⟨hfrom', hplay'⟩⟩

/-- A battle race that further synchronisations leave alone, with the standings through the
latest event in play. -/
structure ConvergedBattleRace (tournament : TournamentConfig) (entryIds : List ℕ)
    (results : List EntryEventResult) (startEventId endEventId : ℕ) (state : BattleRaceState) :
    Prop where
  stable : ∀ eventId, startEventId ≤ eventId → eventId ≤ endEventId →
    battleRaceStep tournament entryIds results state eventId = state
  standings : ∀ latest, IsLatestInPlay results entryIds startEventId endEventId state latest →
    ∀ row ∈ state.groups,
      (∃ pairing ∈ findByTournamentAndEventRange state.battleResults startEventId latest,
        pairing.groupId = row.groupId) →
      (eventResultOf results latest row.entryId).isSome →
      BattleStanding results startEventId latest state row
  balanced : ∀ latest, IsLatestInPlay results entryIds startEventId endEventId state latest →
    ∀ groupId,
      (∃ pairing ∈ findByTournamentAndEventRange state.battleResults startEventId latest,
        pairing.groupId = groupId) →
      (∀ row ∈ state.groups, row.groupId = groupId →
        (eventResultOf results latest row.entryId).isSome) →
      ((state.groups.filter fun row => row.groupId = groupId).map GroupRow.won).sum =
        ((state.groups.filter fun row => row.groupId = groupId).map GroupRow.lost).sum

section Converged

variable (hstart : tournament.groupStartedEventId = some startEventId)
  (hend : tournament.groupEndedEventId = some endEventId) (hpositive : startEventId ≠ 0)
  (hpositive' : endEventId ≠ 0) {state : BattleRaceState}
  (race : LocalBattleRace tournament entryIds results state)
  (hsettled : ∀ row ∈ state.battleResults, startEventId ≤ row.eventId → row.eventId ≤ endEventId →
    row = row.settled results entryIds)

include race hsettled in
/-- Over settled pairings, the horizon of every event in play is the latest one, if that has
a scored pairing. -/
theorem recomputeThroughEventId_of_settled {latest : ℕ}
    (hlatest : IsLatestInPlay results entryIds startEventId endEventId state latest)
    (hscored : ∃ row ∈ state.battleResults, row.eventId = latest ∧
      row.HasResults results entryIds)
    {eventId : ℕ} (hfrom : startEventId ≤ eventId) (hto : eventId ≤ endEventId)
    (hplay : InPlay results entryIds state eventId) :
    recomputeThroughEventId state.battleResults startEventId endEventId eventId = latest := by
  obtain ⟨hlatestFrom, hlatestTo, -, hmax⟩ := hlatest
  refine recomputeThroughEventId_eq hlatestFrom hlatestTo ?_ ?_ (hmax eventId hfrom hto hplay)
  · obtain ⟨row, hrow, rfl, hresults⟩ := hscored
    refine ⟨row, hrow, rfl, ?_⟩
    rw [hsettled row hrow hlatestFrom hlatestTo]
    exact (race.pairings row hrow).settled_isScored_iff.mpr hresults
  · intro row hrow hrowFrom hrowTo hrowScored
    rw [hsettled row hrow hrowFrom hrowTo] at hrowScored
    obtain ⟨home, away, -, -, hhome, -⟩ :=
      (race.pairings row hrow).settled_isScored_iff.mp hrowScored
    obtain ⟨result, hresult⟩ := Option.isSome_iff_exists.mp hhome
    have hmem := List.mem_of_find?_eq_some hresult
    simp only [findByEventAndEntryIds, List.mem_filter, Bool.and_eq_true, decide_eq_true_eq,
      List.contains_iff_mem] at hmem
    exact hmax _ hrowFrom hrowTo ⟨⟨row, hrow, rfl⟩, result, hmem.1, hmem.2.1, hmem.2.2⟩

include hstart hend hpositive hpositive' race hsettled in
/-- Over settled pairings and the group rows computed from them, a further synchronisation
changes nothing. -/
theorem battleRaceStep_eq_self {latest : ℕ} {groups : List GroupRow}
    (hgroups : state.groups = groups.map (battleRow tournament startEventId entryIds results
      (findByTournamentAndEventRange state.battleResults startEventId latest) latest groups))
    {eventId : ℕ} (hfrom : startEventId ≤ eventId) (hto : eventId ≤ endEventId)
    (hplay : InPlay results entryIds state eventId)
    (hthrough : recomputeThroughEventId state.battleResults startEventId endEventId eventId =
      latest) :
    battleRaceStep tournament entryIds results state eventId = state := by
  obtain ⟨hpairings, hrows⟩ :=
    battleRaceStep_of_inPlay hstart hend hpositive hpositive' race hplay
  have hsame : state.battleResults.map (rescored results entryIds eventId) =
      state.battleResults := by
    conv_rhs => rw [← List.map_id state.battleResults]
    refine List.map_congr_left fun row hrow => ?_
    unfold rescored
    split
    next heq => exact (hsettled row hrow (heq ▸ hfrom) (heq ▸ hto)).symm
    next => rfl
  rw [hsame] at hpairings hrows
  have hstable : battleStandings tournament startEventId endEventId entryIds results
      state.battleResults eventId state.groups = state.groups := by
    rw [battleStandings, hthrough]
    conv_rhs => rw [hgroups]
    conv_lhs => rw [hgroups]
    rw [List.map_map]
    exact List.map_congr_left fun group _ => battleRow_idempotent group
  generalize battleRaceStep tournament entryIds results state eventId = next at *
  cases next
  cases state
  simp only [BattleRaceState.mk.injEq]
  exact ⟨hpairings, hrows.trans hstable⟩

end Converged

/-- Once every event was synchronised, a battle race has converged, provided that the latest
event in play has a pairing whose two entries have results. -/
theorem battleRaceRun_converged (hstart : tournament.groupStartedEventId = some startEventId)
    (hend : tournament.groupEndedEventId = some endEventId) (hpositive : startEventId ≠ 0)
    (hpositive' : endEventId ≠ 0) {state : BattleRaceState}
    (race : LocalBattleRace tournament entryIds results state)
    (hscored : ∀ latest, IsLatestInPlay results entryIds startEventId endEventId state latest →
      ∃ row ∈ state.battleResults, row.eventId = latest ∧ row.HasResults results entryIds)
    {events : List ℕ} (hwindow : ∀ eventId ∈ events, startEventId ≤ eventId ∧ eventId ≤ endEventId)
    (hall : ∀ eventId, startEventId ≤ eventId → eventId ≤ endEventId → eventId ∈ events) :
    ConvergedBattleRace tournament entryIds results startEventId endEventId
      (runSteps (battleRaceStep tournament entryIds results) state events) := by
  have hfinal := battleRaceRun_localBattleRace hstart hend hpositive hpositive' race events
  have hpairings := battleRaceRun_battleResults hstart hend hpositive hpositive' race events
  have hplay := inPlay_battleRaceRun hstart hend hpositive hpositive' race events
  have hgroups := @battleRaceRun_groups tournament entryIds results startEventId endEventId hstart
    hend hpositive hpositive' state race events
  generalize runSteps (battleRaceStep tournament entryIds results) state events = final at *
  have hsettled : ∀ row ∈ final.battleResults, startEventId ≤ row.eventId →
      row.eventId ≤ endEventId → row = row.settled results entryIds := by
    rw [hpairings]
    intro row hrow hfrom hto
    obtain ⟨old, hold, rfl⟩ := List.mem_map.mp hrow
    split
    · exact (race.pairings old hold).settled_congr cleared_settled |>.symm
    next hevent =>
      rw [if_neg hevent] at hfrom hto
      exact absurd (hall old.eventId hfrom hto) hevent
  have hscoredFinal : ∀ latest,
      IsLatestInPlay results entryIds startEventId endEventId final latest →
      ∃ row ∈ final.battleResults, row.eventId = latest ∧ row.HasResults results entryIds := by
    intro latest hlatest
    simp only [IsLatestInPlay, hplay] at hlatest
    obtain ⟨old, hold, rfl, hresults⟩ := hscored latest hlatest
    rw [hpairings]
    refine ⟨_, List.mem_map_of_mem hold, ?_⟩
    split
    · exact ⟨settled_eventId, (@eq_of_cleared_eq _ (BattleGroupResult.HasResults results entryIds)
        _ _ (fun _ => rfl) cleared_settled).mpr hresults⟩
    · exact ⟨rfl, hresults⟩
  by_cases hsome : ∃ eventId ∈ events, InPlay results entryIds state eventId
  · obtain ⟨played, hplayed, hplayedInPlay, groups, hkeys, hrows⟩ := hgroups hsome
    obtain ⟨latest, hlatest⟩ := @exists_isLatestInPlay entryIds results startEventId endEventId
      final ⟨played, (hwindow played hplayed).1, (hwindow played hplayed).2,
        (hplay played).mpr hplayedInPlay⟩
    have hthrough := @recomputeThroughEventId_of_settled tournament entryIds results startEventId
      endEventId final hfinal hsettled latest hlatest (hscoredFinal latest hlatest)
    have hunique : ∀ other, IsLatestInPlay results entryIds startEventId endEventId final other →
        other = latest := fun other hother =>
      le_antisymm (hlatest.2.2.2 other hother.1 hother.2.1 hother.2.2.1)
        (hother.2.2.2 latest hlatest.1 hlatest.2.1 hlatest.2.2.1)
    rw [battleStandings, hthrough (hwindow played hplayed).1 (hwindow played hplayed).2
      ((hplay played).mpr hplayedInPlay)] at hrows
    have hmember := race.isMemberRow_of_keys hkeys
    refine { stable := ?_, standings := ?_, balanced := ?_ }
    · intro eventId hfrom hto
      by_cases hevent : InPlay results entryIds final eventId
      · exact battleRaceStep_eq_self hstart hend hpositive hpositive' hfinal hsettled hrows hfrom
          hto hevent (hthrough hfrom hto hevent)
      · exact battleRaceStep_of_not_inPlay hevent
    · intro other hother row hrow
      rw [hunique other hother]
      exact battleStanding_of_mem_groups hfinal hmember hrows hrow
    · intro other hother groupId
      rw [hunique other hother]
      exact sum_won_eq_sum_lost_of_groups hfinal hmember hrows
  · have hnone : ∀ eventId, startEventId ≤ eventId → eventId ≤ endEventId →
        ¬ InPlay results entryIds final eventId := fun eventId hfrom hto hevent =>
      hsome ⟨eventId, hall eventId hfrom hto, (hplay eventId).mp hevent⟩
    exact
      { stable := fun eventId hfrom hto => battleRaceStep_of_not_inPlay (hnone eventId hfrom hto)
        standings := fun latest hlatest =>
          absurd hlatest.2.2.1 (hnone latest hlatest.1 hlatest.2.1)
        balanced := fun latest hlatest =>
          absurd hlatest.2.2.1 (hnone latest hlatest.1 hlatest.2.1) }

/-- A battle race of one group over two events. -/
def derbyConfig : TournamentConfig :=
  { id := 1
    totalTeamNum := 4
    groupMode := .battleRaces
    groupNum := some 1
    groupStartedEventId := some 1
    groupEndedEventId := some 2
    groupQualifyNum := none
    knockoutMode := .noKnockout
    knockoutTeamNum := none
    knockoutEventNum := none
    knockoutStartedEventId := none
    knockoutEndedEventId := none
    knockoutPlayAgainstNum := none }

/-- An unscored pairing of the derby. -/
def derbyPairing (eventId home away : ℕ) : BattleGroupResult :=
  { tournamentId := 1
    groupId := 1
    eventId := eventId
    homeIndex := home
    homeEntryId := some home
    homeNetPoints := none
    homeRank := none
    homeMatchPoints := none
    awayIndex := away
    awayEntryId := some away
    awayNetPoints := none
    awayRank := none
    awayMatchPoints := none
    officialMatchId := none }

/-- The result of an entry of the derby; its overall rank is its id. -/
def derbyResult (eventId entryId : ℕ) (points : ℤ) : EntryEventResult :=
  ⟨entryId, eventId, points, 0, points, none, entryId, none, []⟩

/-- The tables of the derby before any event was synchronised. -/
def derbyState (entryIds : List ℕ) (pairings : List BattleGroupResult) : BattleRaceState :=
  ⟨pairings, buildGroupRows derbyConfig (entryIds.map fun entryId => ⟨entryId, some entryId⟩)⟩

/-- The group rows of the derby after synchronising the given events. -/
def derbyRun (entryIds : List ℕ) (pairings : List BattleGroupResult)
    (results : List EntryEventResult) (events : List ℕ) : BattleRaceState :=
  runSteps (battleRaceStep derbyConfig entryIds results) (derbyState entryIds pairings) events

/-- Three entries of which one has no pairing in the first event. -/
def derbyWithBye : BattleRaceState :=
  derbyRun [11, 12, 13] [derbyPairing 1 11 12, derbyPairing 2 11 13]
    [derbyResult 1 11 50, derbyResult 1 12 40, derbyResult 1 13 30, derbyResult 2 11 50,
      derbyResult 2 12 40, derbyResult 2 13 30] [1, 2]

/-- Two entries whose second pairing lacks a result, after the given synchronisations. -/
def derbyUnscored (events : List ℕ) : BattleRaceState :=
  derbyRun [11, 12] [derbyPairing 1 11 12, derbyPairing 2 11 12]
    [derbyResult 1 11 50, derbyResult 1 12 40, derbyResult 2 11 50] events

/-- Four entries of which one has no result in the last event. -/
def derbyMissing : BattleRaceState :=
  derbyRun [11, 12, 13, 14]
    [derbyPairing 1 11 12, derbyPairing 1 13 14, derbyPairing 2 11 12, derbyPairing 2 13 14]
    [derbyResult 1 11 50, derbyResult 1 12 40, derbyResult 1 13 50, derbyResult 1 14 40,
      derbyResult 2 11 50, derbyResult 2 12 40, derbyResult 2 13 50] [2, 1]

/-- Two entries that have drawn. -/
def derbyDrawn : BattleRaceState :=
  derbyRun [11, 12] [derbyPairing 1 11 12] [derbyResult 1 11 50, derbyResult 1 12 50] [1, 2]

/-- An entry without a pairing has still played the event; a later event in which no pairing
is scored moves the horizon of its own synchronisation only; the row of a member without a
result at the horizon is not updated; and level points are ranked by overall rank. -/
theorem derby_does_not_converge :
    (∃ row ∈ derbyWithBye.groups, row.played ≠ row.won + row.drawn + row.lost) ∧
    derbyUnscored [1, 2, 1] ≠ derbyUnscored [1, 2] ∧
    (derbyMissing.groups.map GroupRow.won).sum ≠ (derbyMissing.groups.map GroupRow.lost).sum ∧
    ∃ row ∈ derbyDrawn.groups, row.groupRank ≠
      some (1 + derbyDrawn.groups.countP fun other => row.groupPoints < other.groupPoints) := by
  decide

/-- The results of a derby of two entries. -/
def derbyResults : List EntryEventResult :=
  [derbyResult 1 11 50, derbyResult 1 12 40, derbyResult 2 11 30, derbyResult 2 12 30]

/-- A derby of two entries with all results converges in any order. -/
theorem derby_converged :
    ConvergedBattleRace derbyConfig [11, 12] derbyResults 1 2
      (runSteps (battleRaceStep derbyConfig [11, 12] derbyResults)
        (derbyState [11, 12] [derbyPairing 1 11 12, derbyPairing 2 12 11]) [2, 1, 2]) := by
  refine battleRaceRun_converged rfl rfl (by decide) (by decide) ?_ ?_ ?_ ?_
  · exact
      { groupKeys := by decide
        members := by decide
        battleKeys := by decide
        pairings := by
          intro row hrow
          have hcases : row = derbyPairing 1 11 12 ∨ row = derbyPairing 2 12 11 := by
            simpa [derbyState] using hrow
          rcases hcases with rfl | rfl
          · exact ⟨rfl, 11, 12, rfl, rfl, by decide, by decide, by decide⟩
          · exact ⟨rfl, 12, 11, rfl, rfl, by decide, by decide, by decide⟩
        scores := by decide }
  · intro latest hlatest
    have hplay : InPlay derbyResults [11, 12]
        (derbyState [11, 12] [derbyPairing 1 11 12, derbyPairing 2 12 11]) 2 :=
      ⟨⟨derbyPairing 2 12 11, by decide, rfl⟩, derbyResult 2 11 30, by decide, rfl, by decide⟩
    obtain rfl : latest = 2 :=
      le_antisymm hlatest.2.1 (hlatest.2.2.2 2 (by decide) (by decide) hplay)
    exact ⟨derbyPairing 2 12 11, by decide, rfl, 12, 11, rfl, rfl, by decide, by decide⟩
  · decide
  · intro eventId hfrom hto
    have hcases : eventId = 2 ∨ eventId = 1 := by omega
    rcases hcases with rfl | rfl
    · decide
    · decide

end LetletmeData
