import Mathlib.Algebra.Order.Ring.Int
import Mathlib.Data.List.Sort
import Mathlib.Data.Nat.Log

/-!
# Tournament structure

Seeding, the group draw and the knockout bracket, as `domain/tournament.ts` computes them
from a tournament's configuration. Entry, tournament and event identifiers are positive
integers; `null` is `none`. The logarithm of a field size is taken as exact.
-/

namespace LetletmeData

/-- The rank of an entry that has none: `MAX_RANK`. -/
def maxRank : ℕ := 2147483647

/-- How a group phase scores its entries. -/
inductive GroupMode where
  | noGroup
  | pointsRaces
  | battleRaces
  deriving DecidableEq

/-- How a knockout phase decides its matches. -/
inductive KnockoutMode where
  | noKnockout
  | singleElimination
  | doubleElimination
  | headToHead
  deriving DecidableEq

/-- The configuration a stored tournament hands to its builders and services. -/
structure TournamentConfig where
  id : ℕ
  totalTeamNum : ℕ
  groupMode : GroupMode
  groupNum : Option ℕ
  groupStartedEventId : Option ℕ
  groupEndedEventId : Option ℕ
  groupQualifyNum : Option ℕ
  knockoutMode : KnockoutMode
  knockoutTeamNum : Option ℕ
  knockoutEventNum : Option ℕ
  knockoutStartedEventId : Option ℕ
  knockoutEndedEventId : Option ℕ
  knockoutPlayAgainstNum : Option ℕ
  deriving DecidableEq

/-- An entry with the overall rank that orders the draw. -/
structure EntrySeed where
  entryId : ℕ
  overallRank : Option ℕ
  deriving DecidableEq

/-- An entry that left its group for the knockout. -/
structure QualifiedEntry where
  entryId : ℕ
  groupId : ℕ
  groupRank : Option ℕ
  overallRank : Option ℕ
  deriving DecidableEq

/-- The two slots of a first-round match. -/
structure SeedPair where
  homeEntryId : Option ℕ
  awayEntryId : Option ℕ
  deriving DecidableEq

/-- The pair with its slots exchanged, as every second leg plays it. -/
def SeedPair.swap (pair : SeedPair) : SeedPair := ⟨pair.awayEntryId, pair.homeEntryId⟩

/-- One group slot, before any event was scored. -/
structure GroupRow where
  tournamentId : ℕ
  groupId : ℕ
  groupName : String
  groupIndex : ℕ
  entryId : ℕ
  startedEventId : Option ℕ
  endedEventId : Option ℕ
  groupPoints : ℤ
  groupRank : Option ℕ
  played : ℤ
  won : ℕ
  drawn : ℕ
  lost : ℕ
  totalPoints : ℤ
  totalTransfersCost : ℤ
  totalNetPoints : ℤ
  qualified : ℕ
  overallRank : Option ℕ
  deriving DecidableEq

/-- One match of the bracket. -/
structure KnockoutMatchRow where
  tournamentId : ℕ
  round : ℕ
  startedEventId : ℕ
  endedEventId : ℕ
  matchId : ℕ
  nextMatchId : Option ℕ
  homeEntryId : Option ℕ
  awayEntryId : Option ℕ
  deriving DecidableEq

/-- One leg of a match. -/
structure KnockoutResultRow where
  tournamentId : ℕ
  eventId : ℕ
  matchId : ℕ
  playAgainstId : ℕ
  homeEntryId : Option ℕ
  awayEntryId : Option ℕ
  deriving DecidableEq

/-! ## Seeding -/

/-- The least power of two that holds the field. -/
def nextPowerOfTwo (value : ℕ) : ℕ :=
  if value = 0 then 0 else 2 ^ Nat.clog 2 value

/-- The doubling loop of the seed order. The size doubles in each pass, so as many passes
as the bracket has slots are never exhausted. -/
def buildBracketSeedOrderLoop (bracketSize : ℕ) : ℕ → ℕ → List ℕ → List ℕ
  | 0, _, seedOrder => seedOrder
  | passes + 1, size, seedOrder =>
    if size < bracketSize then
      let nextSize := size * 2
      buildBracketSeedOrderLoop bracketSize passes nextSize
        (seedOrder.flatMap fun seed => [seed, nextSize + 1 - seed])
    else seedOrder

/-- The seeds in bracket order. -/
def buildBracketSeedOrder (bracketSize : ℕ) : List ℕ :=
  buildBracketSeedOrderLoop bracketSize bracketSize 2 [1, 2]

/-- The sort of the draw: overall rank, then entry id. -/
def entrySeedLe (left right : EntrySeed) : Bool :=
  let leftRank := left.overallRank.getD maxRank
  let rightRank := right.overallRank.getD maxRank
  leftRank < rightRank || (leftRank = rightRank && left.entryId ≤ right.entryId)

/-- The entries of the draw from best to worst. -/
def sortEntrySeeds (entries : List EntrySeed) : List EntrySeed :=
  entries.insertionSort fun left right => entrySeedLe left right

/-- The sort of the qualifiers: group rank, group, overall rank, entry id. -/
def qualifiedEntryLe (left right : QualifiedEntry) : Bool :=
  let leftGroupRank := left.groupRank.getD maxRank
  let rightGroupRank := right.groupRank.getD maxRank
  let leftRank := left.overallRank.getD maxRank
  let rightRank := right.overallRank.getD maxRank
  leftGroupRank < rightGroupRank || (leftGroupRank = rightGroupRank &&
    (left.groupId < right.groupId || (left.groupId = right.groupId &&
      (leftRank < rightRank || (leftRank = rightRank && left.entryId ≤ right.entryId)))))

/-- The qualifiers from best to worst. -/
def sortQualifiedEntries (entries : List QualifiedEntry) : List QualifiedEntry :=
  entries.insertionSort fun left right => qualifiedEntryLe left right

/-- The entry of a seed; a seed beyond the field is a bye. -/
def entryOfSeed (normalized : List ℕ) (teamCount seed : ℕ) : Option ℕ :=
  if seed ≤ teamCount then normalized[seed - 1]? else none

/-- The first-round pairs of a field, best entry first. -/
def seedBracketEntries (entries : List ℕ) (teamCount : ℕ) : List SeedPair :=
  if teamCount < 2 then []
  else
    let bracketSize := nextPowerOfTwo teamCount
    let normalized := entries.take teamCount
    let seedOrder := buildBracketSeedOrder bracketSize
    (List.range (bracketSize / 2)).map fun index =>
      { homeEntryId := seedOrder[2 * index]?.bind (entryOfSeed normalized teamCount)
        awayEntryId := seedOrder[2 * index + 1]?.bind (entryOfSeed normalized teamCount) }

/-! ## Groups -/

/-- The label of a group. -/
def groupNameForIndex (index : ℕ) : String :=
  if index < 26 then String.ofList [Char.ofNat (65 + index)] else s!"Group {index + 1}"

/-- The group of the entry at an index of the draw: the direction alternates per cycle. -/
def snakeGroupIndex (groupCount index : ℕ) : ℕ :=
  let cycle := index / groupCount
  let offset := index % groupCount
  if cycle % 2 = 0 then offset else groupCount - offset - 1

/-- The draw dealt out over the groups. -/
def dealGroups (groupCount : ℕ) (orderedEntries : List EntrySeed) : List (List EntrySeed) :=
  orderedEntries.zipIdx.foldl
    (fun groups (entry, index) =>
      groups.modify (snakeGroupIndex groupCount index) fun group => group ++ [entry])
    (List.replicate groupCount [])

/-- The row of a fresh group slot. -/
def groupRow (tournament : TournamentConfig) (groupIndex slotIndex : ℕ) (entry : EntrySeed) :
    GroupRow :=
  { tournamentId := tournament.id
    groupId := groupIndex + 1
    groupName := groupNameForIndex groupIndex
    groupIndex := slotIndex + 1
    entryId := entry.entryId
    startedEventId := tournament.groupStartedEventId
    endedEventId := tournament.groupEndedEventId
    groupPoints := 0
    groupRank := none
    played := 0
    won := 0
    drawn := 0
    lost := 0
    totalPoints := 0
    totalTransfersCost := 0
    totalNetPoints := 0
    qualified := 0
    overallRank := entry.overallRank }

/-- The groups a tournament plays. -/
def TournamentConfig.groupCount (tournament : TournamentConfig) : ℕ :=
  max (tournament.groupNum.getD 1) 1

/-- The rows of one group. -/
def groupRowsOf (tournament : TournamentConfig) (groupEntries : List EntrySeed) (groupIndex : ℕ) :
    List GroupRow :=
  groupEntries.zipIdx.map fun (entry, slotIndex) => groupRow tournament groupIndex slotIndex entry

/-- The group phase of a tournament. -/
def buildGroupRows (tournament : TournamentConfig) (entries : List EntrySeed) : List GroupRow :=
  let groupedEntries := dealGroups tournament.groupCount (sortEntrySeeds entries)
  groupedEntries.zipIdx.flatMap fun (groupEntries, groupIndex) =>
    groupRowsOf tournament groupEntries groupIndex

/-! ## Knockout -/

/-- The first match id of each round, and the id after the last round. -/
def roundStartIds (bracketSize eventNum : ℕ) : List ℕ × ℕ :=
  (List.range' 1 eventNum).foldl
    (fun (ids, nextMatchId) round => (ids ++ [nextMatchId], nextMatchId + bracketSize / 2 ^ round))
    ([], 1)

/-- A bracket: its matches and the legs of each. -/
structure KnockoutRows where
  matchRows : List KnockoutMatchRow
  resultRows : List KnockoutResultRow
  deriving DecidableEq

/-- The events a round is played over start where the previous round ended. -/
def knockoutRoundStart (tournament : TournamentConfig) (round : ℕ) : ℕ :=
  tournament.knockoutStartedEventId.getD 0 +
    (round - 1) * tournament.knockoutPlayAgainstNum.getD 1

/-- The seeded pair of a first-round match. -/
def knockoutSeed (seededRoundOne : Option (List SeedPair)) (round index : ℕ) : Option SeedPair :=
  if round = 1 then seededRoundOne.bind fun pairs => pairs[index]? else none

/-- The match at an index of a round. -/
def knockoutMatchRow (tournament : TournamentConfig) (seededRoundOne : Option (List SeedPair))
    (startIds : List ℕ) (round index : ℕ) : KnockoutMatchRow :=
  let seeded := knockoutSeed seededRoundOne round index
  { tournamentId := tournament.id
    round := round
    startedEventId := knockoutRoundStart tournament round
    endedEventId :=
      knockoutRoundStart tournament round + tournament.knockoutPlayAgainstNum.getD 1 - 1
    matchId := startIds.getD (round - 1) 0 + index
    nextMatchId :=
      if round < tournament.knockoutEventNum.getD 0 then some (startIds.getD round 0 + index / 2)
      else none
    homeEntryId := seeded.bind SeedPair.homeEntryId
    awayEntryId := seeded.bind SeedPair.awayEntryId }

/-- One leg of the match at an index of a round; every second leg swaps the slots. -/
def knockoutResultRow (tournament : TournamentConfig) (seededRoundOne : Option (List SeedPair))
    (startIds : List ℕ) (round index leg : ℕ) : KnockoutResultRow :=
  let seeded := (knockoutSeed seededRoundOne round index).map fun pair =>
    if leg % 2 = 1 then pair.swap else pair
  { tournamentId := tournament.id
    eventId := knockoutRoundStart tournament round + leg
    matchId := startIds.getD (round - 1) 0 + index
    playAgainstId := leg + 1
    homeEntryId := seeded.bind SeedPair.homeEntryId
    awayEntryId := seeded.bind SeedPair.awayEntryId }

/-- The bracket of a tournament. The planner's event count never exceeds the number of
halvings of the bracket, so every division is exact. -/
def buildKnockoutRows (tournament : TournamentConfig) (seededRoundOne : Option (List SeedPair)) :
    KnockoutRows :=
  let teamCount := tournament.knockoutTeamNum.getD 0
  let eventNum := tournament.knockoutEventNum.getD 0
  let playAgainstNum := tournament.knockoutPlayAgainstNum.getD 1
  let knockoutStart := tournament.knockoutStartedEventId.getD 0
  if teamCount < 2 ∨ eventNum < 1 ∨ knockoutStart < 1 then ⟨[], []⟩
  else
    let bracketSize := nextPowerOfTwo teamCount
    let startIds := (roundStartIds bracketSize eventNum).1
    let rounds := List.range' 1 eventNum
    { matchRows := rounds.flatMap fun round =>
        (List.range (bracketSize / 2 ^ round)).map fun index =>
          knockoutMatchRow tournament seededRoundOne startIds round index
      resultRows := rounds.flatMap fun round =>
        (List.range (bracketSize / 2 ^ round)).flatMap fun index =>
          (List.range playAgainstNum).map fun leg =>
            knockoutResultRow tournament seededRoundOne startIds round index leg }

end LetletmeData
