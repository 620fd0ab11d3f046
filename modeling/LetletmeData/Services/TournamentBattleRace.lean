import LetletmeData.Services.TournamentPointsRace

/-!
# Battle-race results

One synchronisation of a local battle race for an event: the event's pairings take their
scores, and the group rows take the counters of all stored pairings up to a horizon that
depends on which pairings are scored.
-/

namespace LetletmeData

open LetletmeData.Library

/-- One stored pairing of a battle race. -/
structure BattleGroupResult where
  tournamentId : ℕ
  groupId : ℕ
  eventId : ℕ
  homeIndex : ℕ
  homeEntryId : Option ℕ
  homeNetPoints : Option ℤ
  homeRank : Option ℕ
  homeMatchPoints : Option ℤ
  awayIndex : ℕ
  awayEntryId : Option ℕ
  awayNetPoints : Option ℤ
  awayRank : Option ℕ
  awayMatchPoints : Option ℤ
  officialMatchId : Option ℕ
  deriving DecidableEq

/-- The battle tables of one tournament. -/
structure BattleRaceState where
  battleResults : List BattleGroupResult
  groups : List GroupRow
  deriving DecidableEq

/-- The key of a pairing. -/
def BattleGroupResult.key (row : BattleGroupResult) : ℕ × ℕ × ℕ × ℕ × ℕ :=
  (row.tournamentId, row.groupId, row.eventId, row.homeIndex, row.awayIndex)

/-- An upserted pairing overwrites the scores of the stored one. -/
def BattleGroupResult.merge (old row : BattleGroupResult) : BattleGroupResult :=
  { old with
    homeNetPoints := row.homeNetPoints
    homeRank := row.homeRank
    homeMatchPoints := row.homeMatchPoints
    awayNetPoints := row.awayNetPoints
    awayRank := row.awayRank
    awayMatchPoints := row.awayMatchPoints }

/-- The points of a side for its match. -/
def matchPoints (homeNet awayNet : ℤ) : ℤ :=
  if awayNet < homeNet then 3 else if homeNet < awayNet then 0 else 1

/-- A pairing without scores. -/
def BattleGroupResult.cleared (row : BattleGroupResult) : BattleGroupResult :=
  { row with
    homeNetPoints := none
    homeRank := none
    homeMatchPoints := none
    awayNetPoints := none
    awayRank := none
    awayMatchPoints := none }

/-- A pairing with the scores of its two results, cleared while one of them is missing. -/
def BattleGroupResult.scored (row : BattleGroupResult) (homeResult awayResult :
    Option EntryEventResult) : BattleGroupResult :=
  match homeResult, awayResult with
  | some homeResult, some awayResult =>
    { row with
      homeNetPoints := some homeResult.eventNetPoints
      homeRank := homeResult.eventRank
      homeMatchPoints := some (matchPoints homeResult.eventNetPoints awayResult.eventNetPoints)
      awayNetPoints := some awayResult.eventNetPoints
      awayRank := awayResult.eventRank
      awayMatchPoints := some (matchPoints awayResult.eventNetPoints homeResult.eventNetPoints) }
  | _, _ => row.cleared

/-- The result of an entry of the tournament in an event. -/
def memberResult (results : List EntryEventResult) (entryIds : List ℕ) (eventId entryId : ℕ) :
    Option EntryEventResult :=
  (findByEventAndEntryIds results eventId entryIds).find? fun result => result.entryId = entryId

/-- Score a pairing from the results of its event; only local pairings of two entries are
scored. -/
def scoreBattleResult (results : List EntryEventResult) (entryIds : List ℕ) (eventId : ℕ)
    (row : BattleGroupResult) : Option BattleGroupResult :=
  match row.officialMatchId, row.homeEntryId, row.awayEntryId with
  | none, some homeEntryId, some awayEntryId =>
    some (row.scored (memberResult results entryIds eventId homeEntryId)
      (memberResult results entryIds eventId awayEntryId))
  | _, _, _ => none

/-- Whether a pairing has match points. -/
def BattleGroupResult.isScored (row : BattleGroupResult) : Bool :=
  row.homeMatchPoints.isSome && row.awayMatchPoints.isSome

/-- The latest event in a range with a scored pairing. -/
def findMaxEventIdInRange (battleResults : List BattleGroupResult)
    (startEventId endEventId : ℕ) : Option ℕ :=
  ((battleResults.filter fun row => startEventId ≤ row.eventId && row.eventId ≤ endEventId &&
    row.isScored).map BattleGroupResult.eventId).max?

/-- The event through which the counters are computed when an event is synchronised. -/
def recomputeThroughEventId (battleResults : List BattleGroupResult)
    (startEventId endEventId eventId : ℕ) : ℕ :=
  min endEventId
    (max eventId ((findMaxEventIdInRange battleResults startEventId endEventId).getD eventId))

/-- The pairings of a range of events. -/
def findByTournamentAndEventRange (battleResults : List BattleGroupResult)
    (startEventId endEventId : ℕ) : List BattleGroupResult :=
  battleResults.filter fun row => startEventId ≤ row.eventId && row.eventId ≤ endEventId

/-- The running counters of an entry. -/
structure Counter where
  points : ℤ
  won : ℕ
  drawn : ℕ
  lost : ℕ
  deriving DecidableEq

/-- `newCounter`. -/
def newCounter : Counter := ⟨0, 0, 0, 0⟩

/-- Count a match with the points of one side. -/
def Counter.add (counter : Counter) (points : ℤ) : Counter :=
  if points = 3 then ⟨counter.points + points, counter.won + 1, counter.drawn, counter.lost⟩
  else if points = 1 then
    ⟨counter.points + points, counter.won, counter.drawn + 1, counter.lost⟩
  else ⟨counter.points + points, counter.won, counter.drawn, counter.lost + 1⟩

/-- The sides of a pairing with their match points, once both are awarded. -/
def BattleGroupResult.sides (row : BattleGroupResult) : List (ℕ × ℤ) :=
  match row.homeMatchPoints, row.awayMatchPoints, row.homeEntryId, row.awayEntryId with
  | some homeMatchPoints, some awayMatchPoints, some homeEntryId, some awayEntryId =>
    [(homeEntryId, homeMatchPoints), (awayEntryId, awayMatchPoints)]
  | _, _, _, _ => []

/-- The counted sides of a group. -/
def groupSides (history : List BattleGroupResult) (groupId : ℕ) : List (ℕ × ℤ) :=
  (history.filter fun row => row.groupId = groupId).flatMap BattleGroupResult.sides

/-- The counter of an entry in a group. -/
def counterOf (history : List BattleGroupResult) (groupId entryId : ℕ) : Counter :=
  ((groupSides history groupId).filter fun side => side.1 = entryId).foldl
    (fun counter side => counter.add side.2) newCounter

/-- The row of a member with its counters, absent without a result at the horizon or without
a pairing of its group. -/
def battleGroupUpdate (tournament : TournamentConfig) (startEventId : ℕ) (entryIds : List ℕ)
    (results : List EntryEventResult) (history : List BattleGroupResult) (throughEventId : ℕ)
    (group : GroupRow) : Option GroupRow :=
  if IsMemberRow tournament entryIds group ∧ ∃ row ∈ history, row.groupId = group.groupId then
    (eventResultOf results throughEventId group.entryId).map fun eventResult =>
      let counter := counterOf history group.groupId group.entryId
      let totals := aggregateTotalsByEntry results startEventId throughEventId group.entryId
      { group with
        groupPoints := counter.points
        played := (throughEventId : ℤ) - startEventId + 1
        won := counter.won
        drawn := counter.drawn
        lost := counter.lost
        totalPoints := totals.totalPoints
        totalTransfersCost := totals.totalTransfersCost
        totalNetPoints := totals.totalNetPoints
        overallRank := some eventResult.overallRank }
  else none

/-- What a battle group ranks a row by: the same order as in a points race, on match points. -/
def rankedBattleEntry (group : GroupRow) : RankedEntry :=
  ⟨group.entryId, group.groupPoints, group.overallRank⟩

/-- `rankBattleGroups`, for the group of a row among the rows that are updated together. -/
def rankBattleGroups (updatedGroups : List GroupRow) (groupId : ℕ) : List (String × ℕ) :=
  rankGroups ((updatedGroups.filter fun group => group.groupId = groupId).map rankedBattleEntry)

/-- The rank of an updated row, and its qualification where a group has a cut. -/
def applyBattleRank (groupQualifyNum : Option ℕ) (updatedGroups : List GroupRow)
    (group : GroupRow) : GroupRow :=
  let rank := ((rankBattleGroups updatedGroups group.groupId).lookup
    (groupRankKey group.groupPoints group.overallRank)).getD 0
  { group with
    groupRank := some rank
    qualified :=
      match groupQualifyNum with
      | some cut => if cut = 0 then group.qualified else if 0 < rank ∧ rank ≤ cut then 1 else 0
      | none => group.qualified }

/-- The members of the groups in play that have no result at the horizon. -/
def skippedMembers (tournament : TournamentConfig) (entryIds : List ℕ)
    (results : List EntryEventResult) (history : List BattleGroupResult) (throughEventId : ℕ)
    (groups : List GroupRow) : ℕ :=
  groups.countP fun group =>
    decide (IsMemberRow tournament entryIds group ∧ ∃ row ∈ history, row.groupId = group.groupId) &&
      (eventResultOf results throughEventId group.entryId).isNone

/-- Synchronise one local battle race for an event. -/
def syncTournamentBattleRaceResultsForTournament (tournament : TournamentConfig)
    (entryIds : List ℕ) (results : List EntryEventResult) (eventId : ℕ)
    (state : BattleRaceState) : BattleRaceState × SyncCounts :=
  match tournament.groupStartedEventId, tournament.groupEndedEventId with
  | some startEventId, some endEventId =>
    let eventPairings := state.battleResults.filter fun row => row.eventId = eventId
    if startEventId = 0 ∨ endEventId = 0 ∨ entryIds = [] then (state, ⟨0, 0, 0⟩)
    else if findByEventAndEntryIds results eventId entryIds = [] ∨ eventPairings = [] then
      (state, ⟨0, 0, entryIds.length⟩)
    else
      let scoredBattleResults :=
        eventPairings.filterMap (scoreBattleResult results entryIds eventId)
      let battleResults := upsertBatch BattleGroupResult.key BattleGroupResult.merge
        state.battleResults scoredBattleResults
      let throughEventId := recomputeThroughEventId battleResults startEventId endEventId eventId
      let history := findByTournamentAndEventRange battleResults startEventId throughEventId
      let updatedGroups := state.groups.filterMap
        (battleGroupUpdate tournament startEventId entryIds results history throughEventId)
      let rankedGroups := updatedGroups.map (applyBattleRank tournament.groupQualifyNum updatedGroups)
      ({ battleResults := battleResults
         groups := upsertBatch GroupRow.key (fun _ row => row) state.groups rankedGroups },
        ⟨rankedGroups.length, scoredBattleResults.length,
          (eventPairings.countP fun row =>
              match scoreBattleResult results entryIds eventId row with
              | some scored => !scored.isScored
              | none => true) +
            skippedMembers tournament entryIds results history throughEventId state.groups⟩)
  | _, _ => (state, ⟨0, 0, 0⟩)

end LetletmeData
