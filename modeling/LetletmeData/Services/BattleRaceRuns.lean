import LetletmeData.Library.Runs
import LetletmeData.Services.BattleRaceScores

/-!
# Runs of battle-race synchronisations

A synchronisation settles the pairings of its own event and computes the group rows from all
stored pairings. Over a run, the pairings of its events are settled, and the group rows are
those of its last event in play.
-/

namespace LetletmeData

open LetletmeData.Library

variable {tournament : TournamentConfig} {entryIds : List ℕ} {results : List EntryEventResult}
  {startEventId endEventId : ℕ}

/-- The tables after synchronising an event. -/
def battleRaceStep (tournament : TournamentConfig) (entryIds : List ℕ)
    (results : List EntryEventResult) (state : BattleRaceState) (eventId : ℕ) : BattleRaceState :=
  (syncTournamentBattleRaceResultsForTournament tournament entryIds results eventId state).1

/-- What synchronising an event makes of a pairing. -/
def rescored (results : List EntryEventResult) (entryIds : List ℕ) (eventId : ℕ)
    (row : BattleGroupResult) : BattleGroupResult :=
  if row.eventId = eventId then row.settled results entryIds else row

/-- What a synchronisation with the given history and horizon makes of a group row. -/
def battleRow (tournament : TournamentConfig) (startEventId : ℕ) (entryIds : List ℕ)
    (results : List EntryEventResult) (history : List BattleGroupResult) (throughEventId : ℕ)
    (groups : List GroupRow) (group : GroupRow) : GroupRow :=
  ((battleGroupUpdate tournament startEventId entryIds results history throughEventId group).map
    (applyBattleRank tournament.groupQualifyNum (groups.filterMap
      (battleGroupUpdate tournament startEventId entryIds results history throughEventId)))).getD
    group

/-- The group rows that synchronising an event computes from the stored pairings. -/
def battleStandings (tournament : TournamentConfig) (startEventId endEventId : ℕ)
    (entryIds : List ℕ) (results : List EntryEventResult) (battleResults : List BattleGroupResult)
    (eventId : ℕ) (groups : List GroupRow) : List GroupRow :=
  let throughEventId := recomputeThroughEventId battleResults startEventId endEventId eventId
  groups.map (battleRow tournament startEventId entryIds results
    (findByTournamentAndEventRange battleResults startEventId throughEventId) throughEventId
    groups)

/-- An updated row keeps its key. -/
theorem battleGroupUpdate_key {history : List BattleGroupResult} {throughEventId : ℕ}
    {group row : GroupRow}
    (h : battleGroupUpdate tournament startEventId entryIds results history throughEventId group =
      some row) : row.key = group.key := by
  unfold battleGroupUpdate at h
  split at h
  · obtain ⟨eventResult, -, rfl⟩ := Option.map_eq_some_iff.mp h
    rfl
  · exact absurd h (by simp)

/-- A synchronised group row keeps its key. -/
theorem battleRow_key (history : List BattleGroupResult) (throughEventId : ℕ)
    (groups : List GroupRow) (group : GroupRow) :
    (battleRow tournament startEventId entryIds results history throughEventId groups group).key =
      group.key := by
  unfold battleRow
  cases h : battleGroupUpdate tournament startEventId entryIds results history throughEventId
    group with
  | none => rfl
  | some row =>
    change row.key = group.key
    exact battleGroupUpdate_key h

/-- Rows with the keys of a local battle race are rows of its members. -/
theorem LocalBattleRace.isMemberRow_of_keys {state : BattleRaceState}
    (race : LocalBattleRace tournament entryIds results state) {groups : List GroupRow}
    (hkeys : groups.map GroupRow.key = state.groups.map GroupRow.key) :
    ∀ group ∈ groups, IsMemberRow tournament entryIds group := by
  intro group hgroup
  have hkey := hkeys ▸ List.mem_map_of_mem (f := GroupRow.key) hgroup
  obtain ⟨old, hold, heq⟩ := List.mem_map.mp hkey
  simp only [GroupRow.key, Prod.mk.injEq] at heq
  have hmember := race.members old hold
  exact ⟨heq.1 ▸ hmember.1, heq.2.2 ▸ hmember.2⟩

/-- A synchronisation of an event that is not in play changes nothing. -/
theorem battleRaceStep_of_not_inPlay {state : BattleRaceState} {eventId : ℕ}
    (h : ¬ InPlay results entryIds state eventId) :
    battleRaceStep tournament entryIds results state eventId = state := by
  have hguard : findByEventAndEntryIds results eventId entryIds = [] ∨
      (state.battleResults.filter fun row => row.eventId = eventId) = [] := by
    by_contra hboth
    obtain ⟨hresults, hpairings⟩ := not_or.mp hboth
    obtain ⟨result, hresult⟩ := List.exists_mem_of_ne_nil _ hresults
    obtain ⟨row, hrow⟩ := List.exists_mem_of_ne_nil _ hpairings
    simp only [findByEventAndEntryIds, List.mem_filter, Bool.and_eq_true, decide_eq_true_eq,
      List.contains_iff_mem] at hresult hrow
    exact h ⟨⟨row, hrow⟩, result, hresult.1, hresult.2.1, hresult.2.2⟩
  simp only [battleRaceStep, syncTournamentBattleRaceResultsForTournament]
  split
  · rw [if_pos hguard]
    split
    · rfl
    · rfl
  · rfl

section Step

variable (hstart : tournament.groupStartedEventId = some startEventId)
  (hend : tournament.groupEndedEventId = some endEventId) (hpositive : startEventId ≠ 0)
  (hpositive' : endEventId ≠ 0)

include hstart hend hpositive hpositive'

/-- A synchronisation of an event in play settles its pairings and rewrites the group rows. -/
theorem battleRaceStep_of_inPlay {state : BattleRaceState} {eventId : ℕ}
    (race : LocalBattleRace tournament entryIds results state)
    (h : InPlay results entryIds state eventId) :
    (battleRaceStep tournament entryIds results state eventId).battleResults =
        state.battleResults.map (rescored results entryIds eventId) ∧
      (battleRaceStep tournament entryIds results state eventId).groups =
        battleStandings tournament startEventId endEventId entryIds results
          (state.battleResults.map (rescored results entryIds eventId)) eventId state.groups := by
  obtain ⟨⟨pairing, hpairing, hevent⟩, result, hresult, hresultEvent, hentry⟩ := h
  have hresults : findByEventAndEntryIds results eventId entryIds ≠ [] := by
    refine List.ne_nil_of_mem (a := result) (List.mem_filter.mpr ⟨hresult, ?_⟩)
    simp [hresultEvent, hentry]
  have hpairings : (state.battleResults.filter fun row => row.eventId = eventId) ≠ [] :=
    List.ne_nil_of_mem (a := pairing) (List.mem_filter.mpr ⟨hpairing, by simp [hevent]⟩)
  have hentries : entryIds ≠ [] := List.ne_nil_of_mem hentry
  have hrescored : upsertBatch BattleGroupResult.key BattleGroupResult.merge state.battleResults
      ((state.battleResults.filter fun row => row.eventId = eventId).filterMap
        (scoreBattleResult results entryIds eventId)) =
      state.battleResults.map (rescored results entryIds eventId) := by
    rw [List.filterMap_filter, upsertBatch_filterMap _ _ race.battleKeys]
    · refine List.map_congr_left fun row hrow => ?_
      by_cases heq : row.eventId = eventId
      · obtain ⟨_, _, -, -, hscore, -⟩ := @LocalPairing.settled_eq results entryIds _ _ _
          (race.pairings row hrow)
        rw [heq] at hscore
        simp [heq, hscore, rescored, merge_eq_of_cleared_eq cleared_settled.symm]
      · simp [heq, rescored]
    · exact fun _ _ _ => rfl
    · intro old row hrow
      simp only [Option.ite_none_right_eq_some] at hrow
      exact scoreBattleResult_key hrow.2
  simp only [battleRaceStep, syncTournamentBattleRaceResultsForTournament, hstart, hend, hpositive,
    hpositive', hentries, hresults, hpairings, or_self, if_false, hrescored, List.map_filterMap]
  refine ⟨trivial, ?_⟩
  rw [upsertBatch_filterMap (fun _ _ hsame => hsame.symm) _ race.groupKeys]
  · refine List.map_congr_left fun group _ => ?_
    rw [Option.map_map]
    rfl
  · intro old row hrow
    obtain ⟨update, hupdate, rfl⟩ := Option.map_eq_some_iff.mp hrow
    change update.key = old.key
    exact battleGroupUpdate_key hupdate

/-- A synchronisation settles the pairings of its event. -/
theorem battleRaceStep_battleResults {state : BattleRaceState}
    (race : LocalBattleRace tournament entryIds results state) (eventId : ℕ) :
    (battleRaceStep tournament entryIds results state eventId).battleResults =
      state.battleResults.map (rescored results entryIds eventId) := by
  by_cases h : InPlay results entryIds state eventId
  · exact (battleRaceStep_of_inPlay hstart hend hpositive hpositive' race h).1
  · rw [battleRaceStep_of_not_inPlay h]
    conv_lhs => rw [← List.map_id state.battleResults]
    refine List.map_congr_left fun row hrow => ?_
    by_cases heq : row.eventId = eventId
    · -- without results, the pairing has no scores to lose
      have hnone : findByEventAndEntryIds results row.eventId entryIds = [] := by
        rw [findByEventAndEntryIds, List.filter_eq_nil_iff]
        intro result hresult hmatch
        simp only [Bool.and_eq_true, decide_eq_true_eq, List.contains_iff_mem] at hmatch
        exact h ⟨⟨row, hrow, heq⟩, result, hresult, hmatch.1.trans heq, hmatch.2⟩
      have hcleared := (race.pairings row hrow).settled_eq_cleared hnone
      rw [rescored, if_pos heq]
      rcases race.scores row hrow with hscores | hscores
      · rw [hcleared]
        exact hscores
      · exact hscores
    · rw [rescored, if_neg heq]
      rfl

/-- A synchronisation keeps the keys of the group rows. -/
theorem battleRaceStep_groupKeys {state : BattleRaceState}
    (race : LocalBattleRace tournament entryIds results state) (eventId : ℕ) :
    (battleRaceStep tournament entryIds results state eventId).groups.map GroupRow.key =
      state.groups.map GroupRow.key := by
  by_cases h : InPlay results entryIds state eventId
  · rw [(battleRaceStep_of_inPlay hstart hend hpositive hpositive' race h).2, battleStandings,
      List.map_map]
    exact List.map_congr_left fun group _ => battleRow_key _ _ _ group
  · rw [battleRaceStep_of_not_inPlay h]

/-- A synchronisation keeps a local battle race. -/
theorem battleRaceStep_localBattleRace {state : BattleRaceState}
    (race : LocalBattleRace tournament entryIds results state) (eventId : ℕ) :
    LocalBattleRace tournament entryIds results
      (battleRaceStep tournament entryIds results state eventId) := by
  have hkeys := battleRaceStep_groupKeys hstart hend hpositive hpositive' race eventId
  have hpairings := battleRaceStep_battleResults hstart hend hpositive hpositive' race eventId
  have hcleared : ∀ row : BattleGroupResult,
      (rescored results entryIds eventId row).cleared = row.cleared := by
    intro row
    unfold rescored
    split
    · exact cleared_settled
    · rfl
  refine
    { groupKeys := by rw [hkeys]; exact race.groupKeys
      members := fun group hgroup => ?_
      battleKeys := ?_
      pairings := ?_
      scores := ?_ }
  · exact race.isMemberRow_of_keys hkeys group hgroup
  · rw [hpairings, List.map_map]
    have hsame : BattleGroupResult.key ∘ rescored results entryIds eventId =
        BattleGroupResult.key := funext fun row => eq_of_cleared_eq (fun _ => rfl) (hcleared row)
    rw [hsame]
    exact race.battleKeys
  · rw [hpairings, hkeys]
    intro row hrow
    obtain ⟨old, hold, rfl⟩ := List.mem_map.mp hrow
    exact (race.pairings old hold).of_cleared_eq (hcleared old)
  · rw [hpairings]
    intro row hrow
    obtain ⟨old, hold, rfl⟩ := List.mem_map.mp hrow
    have hsettled := @LocalPairing.settled_congr results entryIds _ _ _ _ (hcleared old)
      (race.pairings old hold)
    rw [hsettled, hcleared, rescored]
    split
    · exact Or.inr rfl
    · exact race.scores old hold

/-- A run of synchronisations keeps a local battle race. -/
theorem battleRaceRun_localBattleRace {state : BattleRaceState}
    (race : LocalBattleRace tournament entryIds results state) (events : List ℕ) :
    LocalBattleRace tournament entryIds results
      (runSteps (battleRaceStep tournament entryIds results) state events) :=
  @runSteps_invariant _ _ _ (LocalBattleRace tournament entryIds results)
    (fun _ eventId hrace =>
      battleRaceStep_localBattleRace hstart hend hpositive hpositive' hrace eventId) _ _ race

/-- A run keeps the keys of the group rows. -/
theorem battleRaceRun_groupKeys {state : BattleRaceState}
    (race : LocalBattleRace tournament entryIds results state) (events : List ℕ) :
    (runSteps (battleRaceStep tournament entryIds results) state events).groups.map GroupRow.key =
      state.groups.map GroupRow.key := by
  induction events generalizing state with
  | nil => rfl
  | cons eventId rest ih =>
    rw [runSteps_cons,
      ih (battleRaceStep_localBattleRace hstart hend hpositive hpositive' race eventId)]
    exact battleRaceStep_groupKeys hstart hend hpositive hpositive' race eventId

/-- A run settles the pairings of its events. -/
theorem battleRaceRun_battleResults {state : BattleRaceState}
    (race : LocalBattleRace tournament entryIds results state) (events : List ℕ) :
    (runSteps (battleRaceStep tournament entryIds results) state events).battleResults =
      state.battleResults.map fun row =>
        if row.eventId ∈ events then row.settled results entryIds else row := by
  induction events generalizing state with
  | nil => simp
  | cons eventId rest ih =>
    rw [runSteps_cons,
      ih (battleRaceStep_localBattleRace hstart hend hpositive hpositive' race eventId),
      battleRaceStep_battleResults hstart hend hpositive hpositive' race, List.map_map]
    refine List.map_congr_left fun row hrow => ?_
    have hsettled := @LocalPairing.settled_congr results entryIds _ _ _ _
      (@cleared_settled results entryIds row) (race.pairings row hrow)
    by_cases heq : row.eventId = eventId
    · simp [rescored, heq, hsettled]
    · simp [rescored, heq]

/-- A run does not change which events are in play. -/
theorem inPlay_battleRaceRun {state : BattleRaceState}
    (race : LocalBattleRace tournament entryIds results state) (events : List ℕ) (eventId : ℕ) :
    InPlay results entryIds (runSteps (battleRaceStep tournament entryIds results) state events)
        eventId ↔ InPlay results entryIds state eventId := by
  unfold InPlay
  rw [battleRaceRun_battleResults hstart hend hpositive hpositive' race]
  refine and_congr_left fun _ => ?_
  constructor
  · rintro ⟨row, hrow, hevent⟩
    obtain ⟨old, hold, rfl⟩ := List.mem_map.mp hrow
    refine ⟨old, hold, ?_⟩
    split at hevent
    · simpa using hevent
    · exact hevent
  · rintro ⟨row, hrow, hevent⟩
    refine ⟨_, List.mem_map_of_mem hrow, ?_⟩
    split
    · simpa using hevent
    · exact hevent

/-- After a run with some event in play, the group rows are those that its last event in play
computes from the pairings as they stand. -/
theorem battleRaceRun_groups {state : BattleRaceState}
    (race : LocalBattleRace tournament entryIds results state) {events : List ℕ}
    (h : ∃ eventId ∈ events, InPlay results entryIds state eventId) :
    ∃ eventId ∈ events, InPlay results entryIds state eventId ∧ ∃ groups : List GroupRow,
      groups.map GroupRow.key = state.groups.map GroupRow.key ∧
      (runSteps (battleRaceStep tournament entryIds results) state events).groups =
        battleStandings tournament startEventId endEventId entryIds results
          (runSteps (battleRaceStep tournament entryIds results) state events).battleResults
          eventId groups := by
  induction events using List.reverseRecOn with
  | nil => simp at h
  | append_singleton earlier last ih =>
    have hrace := battleRaceRun_localBattleRace hstart hend hpositive hpositive' race earlier
    rw [runSteps_append, runSteps_cons, runSteps_nil]
    by_cases hlast : InPlay results entryIds state last
    · -- the last synchronisation computes the rows from the pairings it leaves
      have hinPlay := (inPlay_battleRaceRun hstart hend hpositive hpositive' race earlier
        last).mpr hlast
      obtain ⟨hpairings, hgroups⟩ :=
        battleRaceStep_of_inPlay hstart hend hpositive hpositive' hrace hinPlay
      refine ⟨last, by simp, hlast, _, ?_, by rw [hpairings]; exact hgroups⟩
      exact battleRaceRun_groupKeys hstart hend hpositive hpositive' race earlier
    · -- the last synchronisation changes nothing
      have hnot := (inPlay_battleRaceRun hstart hend hpositive hpositive' race earlier
        last).not.mpr hlast
      have hearlier : ∃ eventId ∈ earlier, InPlay results entryIds state eventId := by
        obtain ⟨eventId, hevent, hplay⟩ := h
        rcases List.mem_append.mp hevent with hmem | hmem
        · exact ⟨eventId, hmem, hplay⟩
        · obtain rfl := List.mem_singleton.mp hmem
          exact absurd hplay hlast
      obtain ⟨eventId, hevent, hplay, groups, hkeys, hgroups⟩ := ih hearlier
      rw [battleRaceStep_of_not_inPlay hnot]
      exact ⟨eventId, List.mem_append_left _ hevent, hplay, groups, hkeys, hgroups⟩

end Step

end LetletmeData
