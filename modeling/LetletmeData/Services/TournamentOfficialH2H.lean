import Mathlib.Algebra.Order.Floor.Defs
import Mathlib.Data.List.Infix
import LetletmeData.Library.JsonTexts
import LetletmeData.Repositories.TournamentOfficialH2H

/-!
# Official H2H mirrors

A sync of an official H2H tournament validates the matches of one source snapshot against the
roster and the group window, builds the rows to store and the hash of the regular schedule, and
publishes them.
-/

namespace LetletmeData

open LetletmeData.Library

/-- `RawFPLLeagueH2HMatch` with its place in the response; a tiebreak is the text that is stored. -/
structure OfficialH2HMatch where
  id : ℕ
  event : ℕ
  entry1 : Option ℕ
  points1 : Option ℤ
  win1 : Option ℕ
  draw1 : Option ℕ
  loss1 : Option ℕ
  total1 : Option ℕ
  entry2 : Option ℕ
  points2 : Option ℤ
  win2 : Option ℕ
  draw2 : Option ℕ
  loss2 : Option ℕ
  total2 : Option ℕ
  winner : Option ℕ
  isKnockout : Option Bool
  isBye : Option Bool
  knockoutName : Option String
  tiebreak : Option String
  sourceOrder : ℕ
  deriving DecidableEq

/-- The fields of `TournamentSyncContext` that a sync uses. -/
structure OfficialH2HTournament where
  id : ℕ
  groupStartedEventId : Option ℕ
  groupEndedEventId : Option ℕ
  knockoutTeamNum : Option ℕ
  knockoutEventNum : Option ℕ
  knockoutStartedEventId : Option ℕ

/-- `officialKnockoutName`. -/
def officialKnockoutName (m : OfficialH2HMatch) : Option String := trimmedOrNull m.knockoutName

/-- `isOfficialKnockoutMatch`. -/
def isOfficialKnockoutMatch (m : OfficialH2HMatch) : Prop :=
  officialKnockoutName m ≠ none ∨ m.isKnockout = some true

instance (m : OfficialH2HMatch) : Decidable (isOfficialKnockoutMatch m) :=
  inferInstanceAs (Decidable (_ ∨ _))

/-- The regular matches of a response. -/
def regularMatches (sourceMatches : List OfficialH2HMatch) : List OfficialH2HMatch :=
  sourceMatches.filter fun m => ¬ isOfficialKnockoutMatch m

/-- Three points for a win, one for a draw. -/
def outcomePoints (win draw : Option ℕ) : ℤ :=
  if win.getD 0 ≠ 0 then 3 else if draw.getD 0 ≠ 0 then 1 else 0

/-- `matchPoints`. -/
def OfficialH2HMatch.matchPoints (m : OfficialH2HMatch) : Option ℤ × Option ℤ :=
  let outcome := [m.win1, m.draw1, m.loss1, m.win2, m.draw2, m.loss2]
  let totals : Option (ℕ × ℕ) :=
    match m.total1, m.total2 with
    | some total1, some total2 =>
      if total1 + total2 = 2 ∨ total1 + total2 = 3 then some (total1, total2) else none
    | _, _ => none
  match totals with
  | some (total1, total2) => (some (total1 : ℤ), some (total2 : ℤ))
  | none =>
    if 0 < (outcome.map (·.getD 0)).sum then
      (some (outcomePoints m.win1 m.draw1), some (outcomePoints m.win2 m.draw2))
    else
      match m.winner with
      | some _ =>
        (some (if m.winner = m.entry1 then 3 else 0), some (if m.winner = m.entry2 then 3 else 0))
      | none =>
        -- an outcome that is announced but empty is still open
        if (m.total1 :: m.total2 :: outcome).any (·.isSome) then (none, none)
        else
          match m.points1, m.points2 with
          | some points1, some points2 =>
            if points2 < points1 then (some 3, some 0)
            else if points1 < points2 then (some 0, some 3)
            else (some 1, some 1)
          | _, _ => (none, none)

/-! ### Validation -/

/-- `assertMatchSides`. -/
def assertMatchSides (entryIds : List ℕ) (m : OfficialH2HMatch) : Except String Unit := do
  throwIf (¬ isOfficialKnockoutMatch m ∧ m.entry1 = none ∧ m.entry2 = none)
    ("Official H2H regular match " ++ toString m.id ++ " has no real side.")
  throwIf (m.entry1 ≠ none ∧ m.entry2 ≠ none ∧ m.entry1 = m.entry2)
    ("Official H2H match " ++ toString m.id ++ " repeats the same entry.")
  match ([m.entry1, m.entry2, m.winner].filterMap id).find? (· ∉ entryIds) with
  | some entryId =>
    .error ("Official H2H match " ++ toString m.id ++ " references entry " ++ toString entryId ++
      " outside the roster.")
  | none => .ok ()
  throwIf (m.winner ≠ none ∧ m.winner ≠ m.entry1 ∧ m.winner ≠ m.entry2)
    ("Official H2H match " ++ toString m.id ++ " has a winner outside its sides.")

/-- The first entry that stands in a list for the second time. -/
def firstRepeatedEntry : List ℕ → List ℕ → Option ℕ
  | _, [] => none
  | seen, entryId :: rest =>
    if entryId ∈ seen then some entryId else firstRepeatedEntry (entryId :: seen) rest

/-- The regular matches of one event cover the roster exactly once. -/
def assertEventCoverage (entryIds : List ℕ) (regular : List OfficialH2HMatch) (eventId : ℕ) :
    Except String Unit := do
  let eventMatches := regular.filter fun m => m.event = eventId
  let rosterSize := entryIds.dedup.length
  let expected := (rosterSize + 1) / 2
  throwIf (eventMatches.length ≠ expected)
    ("Official H2H GW" ++ toString eventId ++ " has " ++ toString eventMatches.length ++ " of " ++
      toString expected ++ " matches.")
  let sides := eventMatches.flatMap fun m => [m.entry1, m.entry2]
  let seenEntries := sides.filterMap id
  match firstRepeatedEntry [] seenEntries with
  | some entryId =>
    .error ("Official H2H GW" ++ toString eventId ++ " repeats entry " ++ toString entryId ++ ".")
  | none => .ok ()
  throwIf (seenEntries.length ≠ rosterSize ∨ sides.count none ≠ rosterSize % 2)
    ("Official H2H GW" ++ toString eventId ++ " does not cover the roster exactly once.")

/-- `validateOfficialH2HSchedule`. -/
def validateOfficialH2HSchedule (tournament : OfficialH2HTournament) (entryIds : List ℕ)
    (sourceMatches : List OfficialH2HMatch) : Except String Unit :=
  if sourceMatches = [] then .ok ()
  else do
    sourceMatches.forM (assertMatchSides entryIds)
    let regular := regularMatches sourceMatches
    match tournament.groupStartedEventId, tournament.groupEndedEventId with
    | some startEventId, some endEventId =>
      throwIf (regular = []) "Official H2H response does not contain a complete regular schedule."
      match regular.find? fun m => m.event < startEventId ∨ endEventId < m.event with
      | some m =>
        .error ("Official H2H regular match " ++ toString m.id ++
          " falls outside the group window.")
      | none => .ok ()
      (List.range' startEventId (endEventId + 1 - startEventId)).forM
        (assertEventCoverage entryIds regular)
    | _, _ => .error "Official H2H response does not contain a complete regular schedule."

/-! ### Rows -/

/-- The row of a regular match. -/
def officialBattleRow (checkedAt : ℕ) (m : OfficialH2HMatch) : ℕ × BattleResultValues :=
  (m.id,
    { groupId := 1
      eventId := m.event
      homeIndex := m.sourceOrder * 2 + 1
      homeEntryId := m.entry1
      homeNetPoints := m.points1
      homeRank := none
      homeMatchPoints := m.matchPoints.1
      awayIndex := m.sourceOrder * 2 + 2
      awayEntryId := m.entry2
      awayNetPoints := m.points2
      awayRank := none
      awayMatchPoints := m.matchPoints.2
      sourceOrder := m.sourceOrder
      homeIsAverage := m.entry1 = none
      awayIsAverage := m.entry2 = none
      isBye := m.isBye.getD false
      sourceCheckedAt := checkedAt })

/-- `toLowerCase`, as far as Latin letters can come out of it. -/
def lowerCaseText (text : String) : List Char :=
  text.toList.flatMap fun c =>
    if c = '\u0130' then ['i', '\u0307'] else if c = '\u212A' then ['k'] else [c.toLower]

/-- `resolveKnockoutRound`. -/
def resolveKnockoutRound (tournament : OfficialH2HTournament) (m : OfficialH2HMatch) : ℤ :=
  let rounds : ℤ := tournament.knockoutEventNum.getD 0
  let name := lowerCaseText ((m.knockoutName.map trimText).getD "")
  if "quarter".toList <:+: name then max 1 (rounds - 2)
  else if "semi".toList <:+: name then max 1 (rounds - 1)
  else if "final".toList <:+: name then max 1 rounds
  else
    let start : ℤ := tournament.knockoutStartedEventId.getD m.event
    min (max (m.event - start + 1) 1) (max rounds 1)

/-- The matches that a round has when the teams are halved in every round. -/
def matchesOfRound (teamCount : ℕ) (round : ℤ) : ℚ := teamCount / 2 ^ round.toNat

/-- The row of a knockout match in its round. -/
def officialKnockoutRow (checkedAt : ℕ) (localMatchId : ℚ) (m : OfficialH2HMatch) :
    ℕ × KnockoutResultValues :=
  (m.id,
    { eventId := m.event
      matchId := localMatchId
      playAgainstId := 1
      homeEntryId := m.entry1
      homeNetPoints := m.points1
      awayEntryId := m.entry2
      awayNetPoints := m.points2
      matchWinner := m.winner
      sourceOrder := m.sourceOrder
      knockoutName := officialKnockoutName m
      tiebreak := m.tiebreak
      sourceCheckedAt := checkedAt })

/-- The knockout matches with their local identifiers, in order; `placed` are the rounds of those
before. -/
def placeKnockoutMatches (tournament : OfficialH2HTournament) :
    List ℤ → List OfficialH2HMatch → Except String (List (ℚ × OfficialH2HMatch))
  | _, [] => .ok []
  | placed, m :: rest => do
    let teamCount := tournament.knockoutTeamNum.getD 0
    let round := resolveKnockoutRound tournament m
    let roundIndex := placed.count round
    let expected : ℚ := if 0 < teamCount then matchesOfRound teamCount round else 0
    throwIf (tournament.knockoutEventNum.getD 0 < 1 ∨ expected < 1 ∨ expected ≤ roundIndex)
      ("Official H2H knockout match " ++ toString m.id ++ " does not fit the configured bracket.")
    let roundStart : ℚ := teamCount - matchesOfRound teamCount (round - 1) + 1
    let others ← placeKnockoutMatches tournament (placed ++ [round]) rest
    return (roundStart + roundIndex, m) :: others

/-- The bracket row of a local match, from its source if there is one. -/
def officialBracketRow (tournament : OfficialH2HTournament) (placed : List (ℚ × OfficialH2HMatch))
    (round : ℕ) (localMatchId : ℚ) (nextMatchId : Option ℚ) : ℚ × OfficialBracketRow :=
  let source := (placed.reverse.lookup localMatchId)
  let planned : ℤ := (tournament.knockoutStartedEventId.getD 1 : ℤ) + round - 1
  let eventId : ℤ := (source.map fun m => (m.event : ℤ)).getD planned
  let won (side : OfficialH2HMatch → Option ℕ) : ℕ :=
    if ∃ m ∈ source, m.winner ≠ none ∧ m.winner = side m then 1 else 0
  (localMatchId,
    { round := round
      startedEventId := eventId
      endedEventId := eventId
      nextMatchId := nextMatchId
      homeEntryId := source.bind (·.entry1)
      homeNetPoints := source.bind (·.points1)
      homeWins := won (·.entry1)
      awayEntryId := source.bind (·.entry2)
      awayNetPoints := source.bind (·.points2)
      awayWins := won (·.entry2)
      roundWinner := source.bind (·.winner) })

/-- The bracket from a round on, whose matches begin with the given identifier. -/
def bracketRowsFrom (tournament : OfficialH2HTournament) (placed : List (ℚ × OfficialH2HMatch)) :
    ℕ → ℕ → ℚ → List (ℚ × OfficialBracketRow)
  | 0, _, _ => []
  | rounds + 1, round, matchId =>
    let inRound := matchesOfRound (tournament.knockoutTeamNum.getD 0) round
    (List.range ⌈inRound⌉.toNat).map (fun index : ℕ =>
        officialBracketRow tournament placed round (matchId + index)
          (if rounds = 0 then none else some (matchId + inRound + ((index / 2 : ℕ) : ℚ)))) ++
      bracketRowsFrom tournament placed rounds (round + 1) (matchId + inRound)

/-- The fields of the schedule that are hashed, in the order of their sorted names. -/
def scheduleFields : List String :=
  ["awayEntryId", "eventId", "homeEntryId", "isBye", "officialMatchId", "sourceOrder"]

/-- An entry, or nothing for the average team. -/
def entryScalar (entry : Option ℕ) : JsonScalar := (entry.map .number).getD .null

/-- What is hashed of a regular match. -/
def scheduleValues (m : OfficialH2HMatch) : List JsonScalar :=
  [entryScalar m.entry2, .number m.event, entryScalar m.entry1, .bool (m.isBye.getD false),
    .number m.id, .number m.sourceOrder]

/-- `canonicalJson` of the regular schedule. -/
def scheduleText (sourceMatches : List OfficialH2HMatch) : String :=
  jsonRecords scheduleFields ((regularMatches sourceMatches).map scheduleValues)

/-- A standing of the league, with the sides the code reads. -/
structure OfficialH2HStanding where
  entry : ℕ
  rank : Option ℚ
  total : Option ℚ
  pointsTotal : Option ℤ
  matchesPlayed : Option ℤ
  matchesWon : Option ℤ
  matchesDrawn : Option ℤ
  matchesLost : Option ℤ
  pointsFor : Option ℤ
  deriving DecidableEq

/-- `nonNegativeInteger`. -/
def nonNegativeInteger (value : Option ℚ) : ℕ :=
  match value with
  | some value => if value.den = 1 ∧ 0 ≤ value.num then value.num.toNat else 0
  | none => 0

/-- `projectOfficialH2HStandings`, with the totals of each entry. -/
def projectOfficialH2HStandings (currentGroups : List (OfficialGroupKey × OfficialGroupRow))
    (standings : List OfficialH2HStanding) (totalsByEntry : List (ℕ × ℤ × ℤ)) :
    List (OfficialGroupKey × OfficialGroupRow) :=
  currentGroups.map fun group =>
    -- a later standing of an entry replaces an earlier one
    match standings.reverse.find? fun standing => standing.entry = group.1.entryId with
    | none => group
    | some standing =>
      let totals := totalsByEntry.reverse.lookup group.1.entryId
      (group.1,
        { group.2 with
          groupPoints := nonNegativeInteger (standing.total.or (standing.pointsTotal.map (↑·)))
          groupRank := standing.rank
          played := nonNegativeInteger (standing.matchesPlayed.map (↑·))
          won := nonNegativeInteger (standing.matchesWon.map (↑·))
          drawn := nonNegativeInteger (standing.matchesDrawn.map (↑·))
          lost := nonNegativeInteger (standing.matchesLost.map (↑·))
          totalPoints := (totals.map (·.1)).getD 0
          totalTransfersCost := (totals.map (·.2)).getD 0
          totalNetPoints := standing.pointsFor.getD 0 })

/-- A sync: the season, the tournament and its roster, the snapshot of the source, what was read of
the groups and totals, its time, and which statements the database refuses. -/
structure OfficialH2HCall where
  season : ℕ
  tournament : OfficialH2HTournament
  entryIds : List ℕ
  sourceMatches : List OfficialH2HMatch
  standings : List OfficialH2HStanding
  currentGroups : List (OfficialGroupKey × OfficialGroupRow)
  totalsByEntry : List (ℕ × ℤ × ℤ)
  checkedAt : ℕ
  refused : RefusedStatements

/-- `buildOfficialH2HRows`, with the schedule lock and the groups that complete the publication. -/
def buildOfficialH2HPublication (sha256 : String → String) (call : OfficialH2HCall) :
    Except String OfficialH2HPublication := do
  validateOfficialH2HSchedule call.tournament call.entryIds call.sourceMatches
  let regular := regularMatches call.sourceMatches
  let knockout := call.sourceMatches.filter fun m => isOfficialKnockoutMatch m
  let placed ← placeKnockoutMatches call.tournament [] knockout
  let bracketRows :=
    if knockout ≠ [] ∧ 0 < call.tournament.knockoutEventNum.getD 0 ∧
        1 < call.tournament.knockoutTeamNum.getD 0 then
      bracketRowsFrom call.tournament placed (call.tournament.knockoutEventNum.getD 0) 1 1
    else []
  return {
    scheduleHash := sha256 (scheduleText call.sourceMatches)
    checkedAt := call.checkedAt
    lockSchedule := regular ≠ []
    battleRows := regular.map (officialBattleRow call.checkedAt)
    knockoutRows := placed.map fun item => officialKnockoutRow call.checkedAt item.1 item.2
    bracketRows
    groupRows :=
      projectOfficialH2HStandings call.currentGroups call.standings call.totalsByEntry }

/-- The standings and the stored groups belong to the roster. -/
def assertOfficialH2HRoster (call : OfficialH2HCall) : Except String Unit := do
  let rosterSize := call.entryIds.dedup.length
  throwIf (call.standings ≠ [] ∧ call.standings.length ≠ rosterSize)
    "Official H2H standings do not cover the complete roster."
  match (call.standings.map (·.entry)).find? (· ∉ call.entryIds) with
  | some entryId =>
    .error ("Official H2H standings reference entry " ++ toString entryId ++
      " outside the roster.")
  | none => .ok ()
  throwIf (call.currentGroups.length ≠ rosterSize ∨
      ∃ group ∈ call.currentGroups, group.1.entryId ∉ call.entryIds)
    "Official H2H tournament group does not match its roster."

/-- `syncOfficialH2HTournament` from its snapshot on. -/
def syncOfficialH2H (sha256 : String → String) (call : OfficialH2HCall)
    (tables : OfficialH2HTables) : Except String OfficialH2HTables := do
  assertOfficialH2HRoster call
  let publication ← buildOfficialH2HPublication sha256 call
  publishOfficialH2H call.season call.tournament.id publication call.refused tables

/-- One sync after the other; the transaction of one that throws is rolled back. -/
def officialH2HStep (sha256 : String → String) (tables : OfficialH2HTables)
    (call : OfficialH2HCall) : OfficialH2HTables :=
  commit (syncOfficialH2H sha256 call) tables

end LetletmeData
