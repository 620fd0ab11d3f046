import LetletmeData.Domain.Tournament

/-!
# Seeding the first knockout round

The stored bracket of one tournament and the service that fills its first round, from the
whole roster or from the entries that qualified in their groups.
-/

namespace LetletmeData

/-- A stored match, with the aggregate score of its legs. -/
structure Knockout extends KnockoutMatchRow where
  homeNetPoints : Option ℤ
  homeGoalsScored : Option ℤ
  homeGoalsConceded : Option ℤ
  homeWins : Option ℤ
  awayNetPoints : Option ℤ
  awayGoalsScored : Option ℤ
  awayGoalsConceded : Option ℤ
  awayWins : Option ℤ
  roundWinner : Option ℕ
  deriving DecidableEq

/-- A stored leg, with its score. -/
structure KnockoutResult extends KnockoutResultRow where
  homeNetPoints : Option ℤ
  homeGoalsScored : Option ℤ
  homeGoalsConceded : Option ℤ
  awayNetPoints : Option ℤ
  awayGoalsScored : Option ℤ
  awayGoalsConceded : Option ℤ
  matchWinner : Option ℕ
  deriving DecidableEq

/-- The knockout tables of one tournament. -/
structure KnockoutState where
  knockouts : List Knockout
  results : List KnockoutResult
  deriving DecidableEq

/-- A match as it is inserted, without a score. -/
def Knockout.ofRow (row : KnockoutMatchRow) : Knockout :=
  { row with
    homeNetPoints := none
    homeGoalsScored := none
    homeGoalsConceded := none
    homeWins := none
    awayNetPoints := none
    awayGoalsScored := none
    awayGoalsConceded := none
    awayWins := none
    roundWinner := none }

/-- A leg as it is inserted, without a score. -/
def KnockoutResult.ofRow (row : KnockoutResultRow) : KnockoutResult :=
  { row with
    homeNetPoints := none
    homeGoalsScored := none
    homeGoalsConceded := none
    awayNetPoints := none
    awayGoalsScored := none
    awayGoalsConceded := none
    matchWinner := none }

/-- The stored bracket of fresh rows. -/
def storedBracket (rows : KnockoutRows) : KnockoutState :=
  ⟨rows.matchRows.map Knockout.ofRow, rows.resultRows.map KnockoutResult.ofRow⟩

/-- The first-round matches in the order of their ids. -/
def findRoundOne (state : KnockoutState) : List Knockout :=
  (state.knockouts.filter fun row => row.round = 1).insertionSort fun left right =>
    left.matchId ≤ right.matchId

/-- Put the pairs into the matches of the given ids. -/
def seedRoundOneBulk (updates : List (ℕ × SeedPair)) (knockouts : List Knockout) :
    List Knockout :=
  knockouts.map fun row =>
    match updates.lookup row.matchId with
    | some pair => { row with homeEntryId := pair.homeEntryId, awayEntryId := pair.awayEntryId }
    | none => row

/-- Put the pairs into the legs of the matches of the given ids. -/
def seedRoundOneResultsBulk (updates : List ((ℕ × ℕ) × SeedPair))
    (results : List KnockoutResult) : List KnockoutResult :=
  results.map fun row =>
    match updates.lookup (row.matchId, row.playAgainstId) with
    | some pair => { row with homeEntryId := pair.homeEntryId, awayEntryId := pair.awayEntryId }
    | none => row

/-- The pairs of the first-round matches, in order. -/
def roundOneUpdates (seededPairs : List SeedPair) (roundOneMatches : List Knockout) :
    List (ℕ × SeedPair) :=
  roundOneMatches.zipIdx.filterMap fun (row, index) =>
    seededPairs[index]?.map fun pair => (row.matchId, pair)

/-- Seed the first-round matches and their legs with the pairs. -/
def seedRoundOne (seededPairs : List SeedPair) (playAgainstNum : ℕ) (state : KnockoutState) :
    KnockoutState :=
  let matchUpdates := roundOneUpdates seededPairs (findRoundOne state)
  let resultUpdates := matchUpdates.flatMap fun (matchId, pair) =>
    (List.range playAgainstNum).map fun leg =>
      ((matchId, leg + 1), if leg % 2 = 1 then pair.swap else pair)
  { knockouts := seedRoundOneBulk matchUpdates state.knockouts
    results := seedRoundOneResultsBulk resultUpdates state.results }

/-- The qualified rows of a tournament's groups, best first. -/
def findQualifiedEntriesByTournamentId (groups : List GroupRow) : List QualifiedEntry :=
  ((groups.filter fun row => row.qualified = 1).map fun row =>
    ⟨row.entryId, row.groupId, row.groupRank, row.overallRank⟩).insertionSort
      fun left right => qualifiedEntryLe left right

/-- The entries that enter the knockout, best first, absent while there are too few. -/
def knockoutEntrants (tournament : TournamentConfig) (entrySeeds : List EntrySeed)
    (groups : List GroupRow) (knockoutTeamNum : ℕ) : Option (List ℕ) :=
  let seededEntryIds :=
    if tournament.groupMode = .noGroup then
      some (((sortEntrySeeds entrySeeds).take knockoutTeamNum).map EntrySeed.entryId)
    else
      let qualifiedEntries := findQualifiedEntriesByTournamentId groups
      if qualifiedEntries.length < knockoutTeamNum then none
      else some (((sortQualifiedEntries qualifiedEntries).take knockoutTeamNum).map
        QualifiedEntry.entryId)
  seededEntryIds.bind fun ids => if ids.length < knockoutTeamNum then none else some ids

/-- Whether every match has an entry in some slot. -/
def alreadySeeded (roundOne : List Knockout) : Bool :=
  roundOne.all fun row => row.homeEntryId.isSome || row.awayEntryId.isSome

/-- Seed the first round once its entrants are known. -/
def ensureKnockoutRoundOneSeeded (tournament : TournamentConfig) (entrySeeds : List EntrySeed)
    (groups : List GroupRow) (state : KnockoutState) : KnockoutState :=
  match tournament.knockoutTeamNum, tournament.knockoutPlayAgainstNum with
  | some knockoutTeamNum, some playAgainstNum =>
    if tournament.knockoutMode = .noKnockout ∨ knockoutTeamNum = 0 ∨ playAgainstNum = 0 ∨
        findRoundOne state = [] ∨ alreadySeeded (findRoundOne state) then state
    else
      match knockoutEntrants tournament entrySeeds groups knockoutTeamNum with
      | some entryIds =>
        seedRoundOne (seedBracketEntries entryIds knockoutTeamNum) playAgainstNum state
      | none => state
  | _, _ => state

end LetletmeData
