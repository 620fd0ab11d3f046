import LetletmeData.Library.KeyedTables
import LetletmeData.Library.Tables
import LetletmeData.Repositories.EntryEventResults
import LetletmeData.Services.TournamentSeed

/-!
# Knockout results

One synchronisation of a knockout for an event: the legs of the event take their scores, the
matches that end with it take their winners, and the winners enter the matches of the next
round. A result or a match that the database refuses rolls the transaction back.
-/

namespace LetletmeData

open LetletmeData.Library

/-! ## The stored rows -/

/-- The key of a stored match. -/
def Knockout.key (row : Knockout) : ℕ × ℕ := (row.tournamentId, row.matchId)

/-- An upserted match keeps its place in the bracket. -/
def Knockout.merge (old row : Knockout) : Knockout :=
  { row with
    round := old.round
    startedEventId := old.startedEventId
    endedEventId := old.endedEventId
    nextMatchId := old.nextMatchId }

/-- The key of a stored leg. -/
def KnockoutResult.key (row : KnockoutResult) : ℕ × ℕ × ℕ × ℕ :=
  (row.tournamentId, row.eventId, row.matchId, row.playAgainstId)

/-- The check `tournament_knockout_results_distinct_entries`. -/
def KnockoutResult.distinctEntries (row : KnockoutResult) : Bool :=
  row.homeEntryId = none || row.homeEntryId ≠ row.awayEntryId

/-- The matches that satisfy a condition, in the order of their ids. -/
def selectKnockouts (selected : Knockout → Bool) (knockouts : List Knockout) : List Knockout :=
  (knockouts.filter selected).insertionSort fun left right => left.matchId ≤ right.matchId

/-- The matches that end with an event. -/
def findByTournamentAndEndedEvent (eventId : ℕ) : List Knockout → List Knockout :=
  selectKnockouts fun row => row.endedEventId = eventId

/-- The matches of a round. -/
def findByTournamentAndRound (round : ℕ) : List Knockout → List Knockout :=
  selectKnockouts fun row => row.round = round

/-- The legs played in an event, in the order of their matches. -/
def findByTournamentAndEvent (eventId : ℕ) (results : List KnockoutResult) :
    List KnockoutResult :=
  (results.filter fun row => row.eventId = eventId).insertionSort fun left right =>
    left.matchId ≤ right.matchId

/-- All legs of the given matches. -/
def findByTournamentAndMatchIds (matchIds : List ℕ) (results : List KnockoutResult) :
    List KnockoutResult :=
  results.filter fun row => matchIds.contains row.matchId

/-- Store matches. -/
def upsertKnockouts (knockouts : List Knockout) : List Knockout → List Knockout :=
  upsertBatch Knockout.key Knockout.merge knockouts

/-- Store legs: an upsert sets every column of the row. -/
def upsertKnockoutResults (results : List KnockoutResult) :
    List KnockoutResult → List KnockoutResult :=
  upsertBatch KnockoutResult.key (fun _ row => row) results

/-! ## Scores -/

/-- The goals of a player in a finalised event. -/
structure EventLiveGoals where
  elementId : ℕ
  goalsScored : Option ℤ
  goalsConceded : Option ℤ
  deriving DecidableEq

/-- What one side of a match is compared by. -/
structure SideScore where
  netPoints : ℤ
  goalsScored : ℤ
  goalsConceded : ℤ
  deriving DecidableEq

/-- The players whose goals count: all of them with the bench boost. -/
def pickElements (picks : List EntryEventPick) (chip : Option String) : List ℕ :=
  if chip = some "bboost" then picks.map EntryEventPick.element
  else (picks.filter fun pick => pick.position ≤ 11).map EntryEventPick.element

/-- The finalised goals by player, unless a required player has none. -/
def loadFinalizedKnockoutLiveMap (eventId : ℕ) (requiredElementIds : List ℕ)
    (eventLives : List EventLiveGoals) : Except String (List EventLiveGoals) :=
  let missingElementIds := requiredElementIds.eraseDups.filter fun elementId =>
    !eventLives.any fun live => live.elementId = elementId
  if missingElementIds = [] then .ok eventLives
  else
    let listed := ",".intercalate ((missingElementIds.take 10).map fun elementId => elementId.repr)
    .error (s!"Finalized event live data is incomplete for knockout event {eventId}; " ++
      s!"missing elements: {listed}")

/-- The goals of the players, scored and conceded. -/
def sumGoals (elementIds : List ℕ) (liveMap : List EventLiveGoals) : ℤ × ℤ :=
  elementIds.foldl (fun acc elementId =>
    let live := liveMap.find? fun live => live.elementId = elementId
    (acc.1 + (live.bind EventLiveGoals.goalsScored).getD 0,
      acc.2 + (live.bind EventLiveGoals.goalsConceded).getD 0)) (0, 0)

/-- The side that wins: a lone entry, more net points, more goals scored, fewer conceded, and
the lower entry id at last. -/
def resolveMatchWinner (homeEntryId awayEntryId : Option ℕ) (home away : SideScore) : Option ℕ :=
  match homeEntryId, awayEntryId with
  | none, awayEntryId => awayEntryId
  | some homeEntryId, none => some homeEntryId
  | some homeEntryId, some awayEntryId =>
    if home.netPoints > away.netPoints then some homeEntryId
    else if home.netPoints < away.netPoints then some awayEntryId
    else if home.goalsScored > away.goalsScored then some homeEntryId
    else if home.goalsScored < away.goalsScored then some awayEntryId
    else if home.goalsConceded < away.goalsConceded then some homeEntryId
    else if home.goalsConceded > away.goalsConceded then some awayEntryId
    else if homeEntryId ≤ awayEntryId then some homeEntryId
    else some awayEntryId

/-- The wins of an entry over the legs, counted in halves: two for a win, one for a draw. -/
def calcEntryWinningNum (results : List KnockoutResult) (entryId : Option ℕ) : ℕ :=
  match entryId with
  | none => 0
  | some entryId =>
    results.foldl (fun winningNum result =>
      let homeNet := result.homeNetPoints.getD 0
      let awayNet := result.awayNetPoints.getD 0
      if result.homeEntryId = some entryId ∧ result.awayEntryId = none then winningNum + 2
      else if result.awayEntryId = some entryId ∧ result.homeEntryId = none then winningNum + 2
      else if result.homeEntryId = some entryId ∧ homeNet > awayNet then winningNum + 2
      else if result.awayEntryId = some entryId ∧ awayNet > homeNet then winningNum + 2
      else if homeNet = awayNet ∧
          (result.homeEntryId = some entryId ∨ result.awayEntryId = some entryId) then
        winningNum + 1
      else winningNum) 0

/-- The score of the home slot of a leg. -/
def KnockoutResult.homeScore (result : KnockoutResult) : SideScore :=
  ⟨result.homeNetPoints.getD 0, result.homeGoalsScored.getD 0, result.homeGoalsConceded.getD 0⟩

/-- The score of the away slot of a leg. -/
def KnockoutResult.awayScore (result : KnockoutResult) : SideScore :=
  ⟨result.awayNetPoints.getD 0, result.awayGoalsScored.getD 0, result.awayGoalsConceded.getD 0⟩

/-- Add up two scores. -/
def SideScore.add (left right : SideScore) : SideScore :=
  ⟨left.netPoints + right.netPoints, left.goalsScored + right.goalsScored,
    left.goalsConceded + right.goalsConceded⟩

/-- The totals of one slot of a match: a leg counts with the slot that holds the entry. -/
def sideTotals (results : List KnockoutResult) (entryId : Option ℕ) : SideScore :=
  results.foldl (fun acc result =>
    let acc := if result.homeEntryId = entryId then acc.add result.homeScore else acc
    if result.awayEntryId = entryId then acc.add result.awayScore else acc) ⟨0, 0, 0⟩

/-- The winner of a match from its legs: the winner of the only one, of all of them, or of the
totals. -/
def resolveRoundWinner (matchResults : List KnockoutResult) (homeEntryId awayEntryId : Option ℕ) :
    Option ℕ :=
  match matchResults with
  | [] => none
  | [result] => result.matchWinner
  | _ =>
    match (matchResults.filterMap KnockoutResult.matchWinner).eraseDups with
    | [winner] => some winner
    | _ =>
      resolveMatchWinner homeEntryId awayEntryId (sideTotals matchResults homeEntryId)
        (sideTotals matchResults awayEntryId)

/-! ## One synchronisation -/

/-- What a synchronisation reads beside the bracket. -/
structure KnockoutSyncInput where
  eventId : ℕ
  entrySeeds : List EntrySeed
  groups : List GroupRow
  entryIds : List ℕ
  entryEventResults : List EntryEventResult
  eventLives : List EventLiveGoals
  deriving DecidableEq

/-- What a synchronisation reports. -/
structure KnockoutSyncCounts where
  updatedResults : ℕ
  updatedKnockouts : ℕ
  skipped : ℕ
  deriving DecidableEq

/-- The score of a slot in an event. -/
def slotScore (eventResults : List EntryEventResult) (liveMap : List EventLiveGoals)
    (entryId : Option ℕ) : SideScore :=
  let entryResult := entryId.bind fun entryId =>
    eventResults.find? fun result => result.entryId = entryId
  let picks := (entryResult.map EntryEventResult.eventPicks).getD []
  let goals := sumGoals (pickElements picks (entryResult.bind EntryEventResult.eventChip)) liveMap
  ⟨(entryResult.map EntryEventResult.eventNetPoints).getD 0, goals.1, goals.2⟩

/-- A leg with the scores of its event. -/
def scoreResult (eventResults : List EntryEventResult) (liveMap : List EventLiveGoals)
    (result : KnockoutResult) : KnockoutResult :=
  let home := slotScore eventResults liveMap result.homeEntryId
  let away := slotScore eventResults liveMap result.awayEntryId
  { result with
    homeNetPoints := some home.netPoints
    homeGoalsScored := some home.goalsScored
    homeGoalsConceded := some home.goalsConceded
    awayNetPoints := some away.netPoints
    awayGoalsScored := some away.goalsScored
    awayGoalsConceded := some away.goalsConceded
    matchWinner := resolveMatchWinner result.homeEntryId result.awayEntryId home away }

/-- The picks of an entry, empty without a result. -/
def canonicalPicks (eventResults : List EntryEventResult) (entryId : ℕ) : List EntryEventPick :=
  ((eventResults.find? fun result => result.entryId = entryId).map
    EntryEventResult.eventPicks).getD []

/-- The players an entry needs goals of. -/
def requiredElements (eventResults : List EntryEventResult) (entryId : ℕ) : List ℕ :=
  pickElements (canonicalPicks eventResults entryId)
    ((eventResults.find? fun result => result.entryId = entryId).bind EntryEventResult.eventChip)

/-- The legs of the event with their scores, nothing when there is nothing to score. -/
def scoreKnockoutResults (tournament : TournamentConfig) (input : KnockoutSyncInput)
    (state : KnockoutState) : Except String (Option (List KnockoutResult)) :=
  let eventId := input.eventId
  let eventResults := findByEventAndEntryIds input.entryEventResults eventId input.entryIds
  let knockoutResults := findByTournamentAndEvent eventId state.results
  let participatingEntryIds := (knockoutResults.flatMap fun result =>
    result.homeEntryId.toList ++ result.awayEntryId.toList).eraseDups
  if eventResults = [] ∨ knockoutResults = [] then .ok none
  else if ∃ result ∈ knockoutResults, result.homeEntryId = none ∧ result.awayEntryId = none then
    let id := tournament.id
    .error s!"Knockout fixtures are not fully seeded for tournament {id} in event {eventId}"
  else
    match participatingEntryIds.find? fun entryId => canonicalPicks eventResults entryId = [] with
    | some entryId =>
      .error s!"Canonical picks are missing for knockout entry {entryId} in event {eventId}"
    | none =>
      match loadFinalizedKnockoutLiveMap eventId
          (participatingEntryIds.flatMap (requiredElements eventResults)) input.eventLives with
      | .error message => .error message
      | .ok liveMap => .ok (some (knockoutResults.map (scoreResult eventResults liveMap)))

/-- A match with the totals of its legs and its winner. An integer column takes a number of
half wins only where it can store it. -/
def decideKnockout (storeWins : ℕ → Option ℤ) (allMatchResults : List KnockoutResult)
    (knockout : Knockout) : Knockout :=
  let results := allMatchResults.filter fun result => result.matchId = knockout.matchId
  let home := sideTotals results knockout.homeEntryId
  let away := sideTotals results knockout.awayEntryId
  { knockout with
    homeNetPoints := some home.netPoints
    homeGoalsScored := some home.goalsScored
    homeGoalsConceded := some home.goalsConceded
    homeWins := storeWins (calcEntryWinningNum results knockout.homeEntryId)
    awayNetPoints := some away.netPoints
    awayGoalsScored := some away.goalsScored
    awayGoalsConceded := some away.goalsConceded
    awayWins := storeWins (calcEntryWinningNum results knockout.awayEntryId)
    roundWinner := resolveRoundWinner results knockout.homeEntryId knockout.awayEntryId }

/-- Whether the wins of a decided match could be stored. -/
def Knockout.winsStored (knockout : Knockout) : Bool :=
  knockout.homeWins.isSome && knockout.awayWins.isSome

/-- The entries that winners bring into a match of the next round. -/
structure KnockoutRoundSummary where
  nextRound : ℕ
  nextHomeEntryId : Option ℕ
  nextAwayEntryId : Option ℕ
  deriving DecidableEq

/-- Record the winner of a match for the one it feeds: an odd match fills the home slot. -/
def recordRoundWinner (nextRoundMap : KeyedTable ℕ KnockoutRoundSummary) (knockout : Knockout) :
    KeyedTable ℕ KnockoutRoundSummary :=
  match knockout.nextMatchId, knockout.roundWinner with
  | some nextMatchId, some roundWinner =>
    let existing := (nextRoundMap.find nextMatchId).getD ⟨knockout.round + 1, none, none⟩
    nextRoundMap.upsert nextMatchId
      (if knockout.matchId % 2 = 1 then { existing with nextHomeEntryId := some roundWinner }
      else { existing with nextAwayEntryId := some roundWinner })
  | _, _ => nextRoundMap

/-- What the decided matches bring into the next round. -/
def nextRoundMapOf (updatedKnockouts : List Knockout) : KeyedTable ℕ KnockoutRoundSummary :=
  updatedKnockouts.foldl recordRoundWinner KeyedTable.empty

/-- A match with the entries that winners bring into it. -/
def advanceKnockout (nextRoundMap : KeyedTable ℕ KnockoutRoundSummary) (knockout : Knockout) :
    Knockout :=
  match nextRoundMap.find knockout.matchId with
  | none => knockout
  | some nextData =>
    { knockout with
      homeEntryId := nextData.nextHomeEntryId.or knockout.homeEntryId
      awayEntryId := nextData.nextAwayEntryId.or knockout.awayEntryId }

/-- A leg with the entries that winners bring into its match, once both are known; every
second leg swaps them. -/
def advanceKnockoutResult (nextRoundMap : KeyedTable ℕ KnockoutRoundSummary)
    (result : KnockoutResult) : KnockoutResult :=
  match nextRoundMap.find result.matchId with
  | some ⟨_, some homeEntryId, some awayEntryId⟩ =>
    let swap := result.playAgainstId % 2 = 0
    { result with
      homeEntryId := some (if swap then awayEntryId else homeEntryId)
      awayEntryId := some (if swap then homeEntryId else awayEntryId) }
  | _ => result

/-- The transaction that stores the scored legs, decides the matches that end with the event
and brings their winners into the next round. -/
def storeKnockoutSync (storeWins : ℕ → Option ℤ) (eventId : ℕ)
    (updatedResults : List KnockoutResult) (state : KnockoutState) :
    Except String (KnockoutState × ℕ) :=
  let results := upsertKnockoutResults state.results updatedResults
  let allMatchResults :=
    findByTournamentAndMatchIds (updatedResults.map fun result => result.matchId) results
  let updatedKnockouts := (findByTournamentAndEndedEvent eventId state.knockouts).map
    (decideKnockout storeWins allMatchResults)
  let knockouts := upsertKnockouts state.knockouts updatedKnockouts
  let nextRoundMap := nextRoundMapOf updatedKnockouts
  if ¬ updatedResults.all KnockoutResult.distinctEntries then
    .error "Failed to upsert tournament knockout results"
  else if ¬ updatedKnockouts.all Knockout.winsStored then
    .error "Failed to upsert tournament knockouts"
  else
    match nextRoundMap.entries with
    | [] => .ok (⟨knockouts, results⟩, updatedKnockouts.length)
    | (_, first) :: _ =>
      let updatedNextKnockouts :=
        (findByTournamentAndRound first.nextRound knockouts).map (advanceKnockout nextRoundMap)
      let updatedNextResults :=
        (findByTournamentAndMatchIds (nextRoundMap.entries.map Prod.fst) results).map
          (advanceKnockoutResult nextRoundMap)
      if ¬ updatedNextResults.all KnockoutResult.distinctEntries then
        .error "Failed to upsert tournament knockout results"
      else
        .ok (⟨upsertKnockouts knockouts updatedNextKnockouts,
          upsertKnockoutResults results updatedNextResults⟩, updatedKnockouts.length)

/-- Synchronise one knockout for an event. The first round is seeded outside of the
transaction, so it stays seeded when the rest is refused. -/
def syncKnockoutForTournament (storeWins : ℕ → Option ℤ) (tournament : TournamentConfig)
    (input : KnockoutSyncInput) (state : KnockoutState) :
    Except String KnockoutSyncCounts × KnockoutState :=
  if tournament.knockoutStartedEventId.getD 0 = 0 ∨ tournament.knockoutEndedEventId.getD 0 = 0 then
    (.ok ⟨0, 0, 0⟩, state)
  else
    let state := ensureKnockoutRoundOneSeeded tournament input.entrySeeds input.groups state
    match scoreKnockoutResults tournament input state with
    | .error message => (.error message, state)
    | .ok none => (.ok ⟨0, 0, input.entryIds.length⟩, state)
    | .ok (some updatedResults) =>
      match storeKnockoutSync storeWins input.eventId updatedResults state with
      | .error message => (.error message, state)
      | .ok (stored, updatedKnockouts) =>
        (.ok ⟨updatedResults.length, updatedKnockouts, 0⟩, stored)

end LetletmeData
