import Mathlib.Data.Rat.Lemmas
import Mathlib.Algebra.Order.Ring.Rat
import LetletmeData.Domain.CoreSnapshot
import LetletmeData.Library.JavaScript
import LetletmeData.Library.KeyedTables
import LetletmeData.Library.Texts
import LetletmeData.Library.Transactions

/-!
# Preparing a live snapshot

A fetched live payload and the fetched fixtures of an event are checked against the roster of the
season and the fixtures that the event should have, and turned into the rows that are stored and
published. Numbers of a payload are finite. What a payload explains of a player is unknown until
it has been read as a fixture with its statistics.
-/

namespace LetletmeData

open LetletmeData.Library

/-! ### Payloads -/

/-- `RawFPLEventLiveStats`. -/
structure RawFPLEventLiveStats where
  minutes : ℚ
  goalsScored : ℚ
  assists : ℚ
  cleanSheets : ℚ
  goalsConceded : ℚ
  ownGoals : ℚ
  penaltiesSaved : ℚ
  penaltiesMissed : ℚ
  yellowCards : ℚ
  redCards : ℚ
  saves : ℚ
  bonus : ℚ
  bps : ℚ
  defensiveContribution : Option ℚ
  starts : ℚ
  expectedGoals : String
  expectedAssists : String
  expectedGoalInvolvements : String
  expectedGoalsConceded : String
  totalPoints : ℚ
  inDreamteam : Bool

/-- `RawFPLEventExplainStat`. -/
structure RawFPLEventExplainStat where
  identifier : String
  points : ℚ
  value : ℚ
  pointsModification : Option ℚ

/-- `RawFPLEventExplainFixture`. -/
structure RawFPLEventExplainFixture where
  fixture : ℚ
  stats : List RawFPLEventExplainStat

/-- `RawFPLEventLiveElement`. An explained candidate is what `EventExplainFixtureSchema` reads of
it, if it does. -/
structure RawFPLEventLiveElement where
  id : ℚ
  stats : RawFPLEventLiveStats
  explain : Option (List (Option RawFPLEventExplainFixture))

/-- The numbers of a row of statistics in a fixture. -/
structure RawFixtureStatValue where
  value : ℚ
  element : ℚ

/-- A statistic of a fixture. -/
structure RawFixtureStat where
  identifier : String
  a : List RawFixtureStatValue
  h : List RawFixtureStatValue

/-- `RawFPLFixture`. -/
structure RawFPLFixture where
  code : ℚ
  event : Option ℚ
  finished : Bool
  finishedProvisional : Bool
  id : ℚ
  kickoffTime : Option String
  minutes : ℚ
  provisionalStartTime : Bool
  started : Option Bool
  teamA : ℚ
  teamAScore : Option ℚ
  teamH : ℚ
  teamHScore : Option ℚ
  stats : Option (List RawFixtureStat)
  teamHDifficulty : Option ℚ
  teamADifficulty : Option ℚ
  pulseId : ℚ

/-- The parts of `LiveSnapshotReferenceData` that are read. -/
structure LiveSnapshotReferenceData where
  season : String
  nameById : KeyedTable ℚ String
  shortNameById : KeyedTable ℚ String
  playerTeamById : KeyedTable ℚ ℚ

/-! ### Prepared rows -/

/-- `EventLiveFixtureBreakdownStat`. -/
structure EventLiveFixtureBreakdownStat where
  identifier : String
  value : ℚ
  points : ℚ
  pointsModification : Option ℚ

/-- `EventLiveFixtureBreakdown`. -/
structure EventLiveFixtureBreakdown where
  fixtureId : ℚ
  stats : List EventLiveFixtureBreakdownStat

/-- `EventLive`. -/
structure EventLive where
  eventId : ℚ
  elementId : ℚ
  minutes : Option ℚ
  goalsScored : Option ℚ
  assists : Option ℚ
  cleanSheets : Option ℚ
  goalsConceded : Option ℚ
  ownGoals : Option ℚ
  penaltiesSaved : Option ℚ
  penaltiesMissed : Option ℚ
  yellowCards : Option ℚ
  redCards : Option ℚ
  saves : Option ℚ
  bonus : Option ℚ
  bps : Option ℚ
  defensiveContribution : Option ℚ
  starts : Option Bool
  expectedGoals : Option String
  expectedAssists : Option String
  expectedGoalInvolvements : Option String
  expectedGoalsConceded : Option String
  inDreamTeam : Option Bool
  totalPoints : ℚ
  createdAt : Option ℕ
  fixtureBreakdown : Option (List EventLiveFixtureBreakdown)

/-- `EventLiveExplain`. -/
structure EventLiveExplain where
  eventId : ℚ
  elementId : ℚ
  bonus : Option ℚ
  minutes : Option ℚ
  minutesPoints : Option ℚ
  goalsScored : Option ℚ
  goalsScoredPoints : Option ℚ
  assists : Option ℚ
  assistsPoints : Option ℚ
  cleanSheets : Option ℚ
  cleanSheetsPoints : Option ℚ
  goalsConceded : Option ℚ
  goalsConcededPoints : Option ℚ
  ownGoals : Option ℚ
  ownGoalsPoints : Option ℚ
  penaltiesSaved : Option ℚ
  penaltiesSavedPoints : Option ℚ
  penaltiesMissed : Option ℚ
  penaltiesMissedPoints : Option ℚ
  yellowCards : Option ℚ
  yellowCardsPoints : Option ℚ
  redCards : Option ℚ
  redCardsPoints : Option ℚ
  saves : Option ℚ
  savesPoints : Option ℚ
  defensiveContribution : Option ℚ
  defensiveContributionPoints : Option ℚ

/-- `FplPlayerFixtureEvidence`. -/
structure FplPlayerFixtureEvidence where
  eventId : ℚ
  fixtureId : ℚ
  elementId : ℚ
  minutes : ℚ
  starts : Option ℚ
  goals : ℚ
  assists : ℚ
  ownGoals : ℚ
  yellowCards : ℚ
  redCards : ℚ

/-- `PreparedEventLives`. -/
structure PreparedEventLives where
  eventId : ℚ
  sourceCount : ℕ
  eventLives : List EventLive
  explains : List EventLiveExplain
  fixtureEvidence : List FplPlayerFixtureEvidence
  errors : ℤ

/-- `LiveSnapshotState`. -/
inductive LiveSnapshotState where
  | scheduled
  | live
  | settled
  deriving DecidableEq

/-- `PreparedLiveSnapshot`. -/
structure PreparedLiveSnapshot where
  season : String
  eventId : ℚ
  eventLives : PreparedEventLives
  fixtures : List Fixture
  state : LiveSnapshotState

/-- The errors that the preparation throws, with what their messages name. -/
inductive LiveSnapshotError where
  | invalidEventId (eventId : ℚ)
  | noElements
  | duplicatePlayers (eventId : ℚ)
  | playerMismatch (eventId : ℚ) (missing unexpected : List ℚ)
  | mixedEvents (event : Option ℚ) (eventId : ℚ)
  | unexpectedFixtures (eventId : ℚ)
  | invalidFixtureBaseline (eventId : ℚ)
  | fixtureMismatch (eventId : ℚ) (missing unexpected : List ℚ)
  | missingTeams (teamIds : List ℚ)
  | incompleteFixtures (eventId : ℚ)
  | allFixturesInvalid (originalCount : ℕ)
  | invalidEventLive (elementId : ℚ)
  | missingElement (eventId elementId : ℚ)
  | invalidExplain (eventId elementId : ℚ)
  | duplicateBreakdown (eventId fixtureId elementId : ℚ)
  | emptyStat (eventId fixtureId elementId : ℚ)
  | duplicateStat (eventId fixtureId elementId : ℚ) (identifier : String)
  | duplicateExplain (eventId fixtureId elementId : ℚ)
  | invalidStat (identifier : String) (value : ℚ)

/-! ### Event lives -/

/-- `z.number().int().min(least).nullable()`. -/
def IntegerFrom (least : ℚ) (value : Option ℚ) : Prop :=
  ∀ number ∈ value, IsInteger number ∧ least ≤ number

/-- `z.number().int().min(least).max(most).nullable()`. -/
def IntegerWithin (least most : ℚ) (value : Option ℚ) : Prop :=
  ∀ number ∈ value, IsInteger number ∧ least ≤ number ∧ number ≤ most

instance (least : ℚ) (value : Option ℚ) : Decidable (IntegerFrom least value) :=
  inferInstanceAs (Decidable (∀ number ∈ value, _))

instance (least most : ℚ) (value : Option ℚ) : Decidable (IntegerWithin least most value) :=
  inferInstanceAs (Decidable (∀ number ∈ value, _))

/-- `EventLiveSchema`, as far as it restricts a row without a breakdown. -/
def EventLive.Valid (row : EventLive) : Prop :=
  (IsInteger row.eventId ∧ 0 < row.eventId) ∧ (IsInteger row.elementId ∧ 0 < row.elementId) ∧
    IntegerWithin 0 150 row.minutes ∧ IntegerFrom 0 row.goalsScored ∧ IntegerFrom 0 row.assists ∧
    IntegerWithin 0 1 row.cleanSheets ∧ IntegerFrom 0 row.goalsConceded ∧
    IntegerFrom 0 row.ownGoals ∧ IntegerFrom 0 row.penaltiesSaved ∧
    IntegerFrom 0 row.penaltiesMissed ∧ IntegerWithin 0 2 row.yellowCards ∧
    IntegerWithin 0 1 row.redCards ∧ IntegerFrom 0 row.saves ∧ IntegerWithin 0 3 row.bonus ∧
    (∀ number ∈ row.bps, IsInteger number) ∧ IntegerFrom 0 row.defensiveContribution ∧
    IsInteger row.totalPoints

instance EventLive.decidableValid (row : EventLive) : Decidable row.Valid := inferInstanceAs (Decidable (_ ∧ _))

/-- `transformEventLive`. -/
def transformEventLive (eventId : ℚ) (rawElement : RawFPLEventLiveElement) :
    Except LiveSnapshotError EventLive :=
  let stats := rawElement.stats
  let transformed : EventLive :=
    { eventId := eventId
      elementId := rawElement.id
      minutes := some stats.minutes
      goalsScored := some stats.goalsScored
      assists := some stats.assists
      cleanSheets := some stats.cleanSheets
      goalsConceded := some stats.goalsConceded
      ownGoals := some stats.ownGoals
      penaltiesSaved := some stats.penaltiesSaved
      penaltiesMissed := some stats.penaltiesMissed
      yellowCards := some stats.yellowCards
      redCards := some stats.redCards
      saves := some stats.saves
      bonus := some stats.bonus
      bps := some stats.bps
      defensiveContribution := stats.defensiveContribution
      starts := some (decide (0 < stats.starts))
      expectedGoals := some stats.expectedGoals
      expectedAssists := some stats.expectedAssists
      expectedGoalInvolvements := some stats.expectedGoalInvolvements
      expectedGoalsConceded := some stats.expectedGoalsConceded
      inDreamTeam := some stats.inDreamteam
      totalPoints := stats.totalPoints
      createdAt := none
      fixtureBreakdown := none }
  if transformed.Valid then .ok transformed else .error (.invalidEventLive rawElement.id)

/-- `transformEventLives`. -/
def transformEventLives (eventId : ℚ) (rawElements : List RawFPLEventLiveElement) :
    Except LiveSnapshotError (List EventLive) :=
  rawElements.mapM (transformEventLive eventId)

/-- The statistics of `normalizeFixtureBreakdown`, behind those with the given identifiers. -/
def normalizeStats (eventId fixtureId elementId : ℚ) :
    List String → List RawFPLEventExplainStat →
      Except LiveSnapshotError (List EventLiveFixtureBreakdownStat)
  | _, [] => .ok []
  | identifiers, stat :: rest => do
    let identifier := trimText stat.identifier
    throwIf (identifier = "") (.emptyStat eventId fixtureId elementId)
    throwIf (identifier ∈ identifiers) (.duplicateStat eventId fixtureId elementId identifier)
    let stats ← normalizeStats eventId fixtureId elementId (identifiers ++ [identifier]) rest
    return ⟨identifier, stat.value, stat.points, stat.pointsModification⟩ :: stats

/-- The candidates of `normalizeFixtureBreakdown`, behind those of the given fixtures. -/
def normalizeCandidates (eventId elementId : ℚ) :
    List ℚ → List (Option RawFPLEventExplainFixture) →
      Except LiveSnapshotError (List EventLiveFixtureBreakdown)
  | _, [] => .ok []
  | fixtureIds, candidate :: rest => do
    let fixture ← orThrow candidate (.invalidExplain eventId elementId)
    throwIf (fixture.fixture ∈ fixtureIds) (.duplicateBreakdown eventId fixture.fixture elementId)
    let stats ← normalizeStats eventId fixture.fixture elementId [] fixture.stats
    let breakdown ← normalizeCandidates eventId elementId (fixtureIds ++ [fixture.fixture]) rest
    return ⟨fixture.fixture,
      stats.insertionSort fun left right => UnitsLe left.identifier right.identifier⟩ :: breakdown

/-- `normalizeFixtureBreakdown`. -/
def normalizeFixtureBreakdown (eventId : ℚ) (element : RawFPLEventLiveElement) :
    Except LiveSnapshotError (List EventLiveFixtureBreakdown) :=
  match element.explain with
  | none => .ok []
  | some explain => do
    let breakdown ← normalizeCandidates eventId element.id [] explain
    return breakdown.insertionSort fun left right => left.fixtureId ≤ right.fixtureId

/-- `attachEventLiveFixtureBreakdowns`. -/
def attachEventLiveFixtureBreakdowns (eventId : ℚ) (eventLives : List EventLive)
    (elements : List RawFPLEventLiveElement) : Except LiveSnapshotError (List EventLive) :=
  let elementsById : KeyedTable ℚ RawFPLEventLiveElement :=
    elements.foldl (fun table element => table.upsert element.id element) .empty
  eventLives.mapM fun eventLive => do
    let element ← orThrow (elementsById.find eventLive.elementId)
      (.missingElement eventId eventLive.elementId)
    let breakdown ← normalizeFixtureBreakdown eventId element
    return { eventLive with fixtureBreakdown := some breakdown }

/-! ### Explains and evidence -/

/-- The value and the points of a statistic over fixtures. -/
structure StatTotal where
  value : ℚ
  points : ℚ

/-- `buildStatAccumulator`. The candidates that are no fixtures are skipped. -/
def buildStatAccumulator (explain : Option (List (Option RawFPLEventExplainFixture))) :
    KeyedTable String StatTotal :=
  ((explain.getD []).filterMap id).foldl (fun accumulator fixture =>
    fixture.stats.foldl (fun accumulator stat =>
      let identifier := trimText stat.identifier
      if identifier = "" then accumulator
      else
        let prev := (accumulator.find identifier).getD ⟨0, 0⟩
        accumulator.upsert identifier
          ⟨prev.value + stat.value,
            prev.points + stat.points + stat.pointsModification.getD 0⟩) accumulator) .empty

/-- `transformSingleEventLiveExplain`. -/
def transformSingleEventLiveExplain (eventId : ℚ) (element : RawFPLEventLiveElement) :
    EventLiveExplain :=
  let accumulator := buildStatAccumulator element.explain
  let val (stat : String) : ℚ := ((accumulator.find stat).map (·.value)).getD 0
  let pts (stat : String) : ℚ := ((accumulator.find stat).map (·.points)).getD 0
  { eventId := eventId
    elementId := element.id
    bonus := some element.stats.bonus
    minutes := some element.stats.minutes
    minutesPoints := (accumulator.find "minutes").map (·.points)
    goalsScored := some (val "goals_scored")
    goalsScoredPoints := some (pts "goals_scored")
    assists := some (val "assists")
    assistsPoints := some (pts "assists")
    cleanSheets := some (val "clean_sheets")
    cleanSheetsPoints := some (pts "clean_sheets")
    goalsConceded := some (val "goals_conceded")
    goalsConcededPoints := some (pts "goals_conceded")
    ownGoals := some (val "own_goals")
    ownGoalsPoints := some (pts "own_goals")
    penaltiesSaved := some (val "penalties_saved")
    penaltiesSavedPoints := some (pts "penalties_saved")
    penaltiesMissed := some (val "penalties_missed")
    penaltiesMissedPoints := some (pts "penalties_missed")
    yellowCards := some (val "yellow_cards")
    yellowCardsPoints := some (pts "yellow_cards")
    redCards := some (val "red_cards")
    redCardsPoints := some (pts "red_cards")
    saves := some (val "saves")
    savesPoints := some (pts "saves")
    defensiveContribution := some (val "defensive_contribution")
    defensiveContributionPoints := some (pts "defensive_contribution") }

/-- `transformEventLiveExplains`. -/
def transformEventLiveExplains (eventId : ℚ) (elements : List RawFPLEventLiveElement) :
    List EventLiveExplain :=
  elements.map (transformSingleEventLiveExplain eventId)

/-- `selectedStatValue`. -/
def selectedStatValue (stats : KeyedTable String ℚ) (identifier : String) :
    Except LiveSnapshotError ℚ := do
  let value := (stats.find identifier).getD 0
  throwIf (¬ IsInteger value ∨ value < 0) (.invalidStat identifier value)
  return value

/-- `optionalSelectedStatValue`. -/
def optionalSelectedStatValue (stats : KeyedTable String ℚ) (identifier : String) :
    Except LiveSnapshotError (Option ℚ) :=
  if (stats.find identifier).isSome then some <$> selectedStatValue stats identifier else .ok none

/-- The values of the statistics of a fixture by their identifiers. -/
def statValues (stats : List RawFPLEventExplainStat) : KeyedTable String ℚ :=
  stats.foldl (fun values stat =>
    values.upsert stat.identifier ((values.find stat.identifier).getD 0 + stat.value)) .empty

/-- The row that `transformFplPlayerFixtureEvidence` makes of an explained fixture. -/
def fixtureEvidence (eventId elementId : ℚ) (fixture : RawFPLEventExplainFixture) :
    Except LiveSnapshotError FplPlayerFixtureEvidence := do
  let stats := statValues fixture.stats
  let minutes ← selectedStatValue stats "minutes"
  let starts ← optionalSelectedStatValue stats "starts"
  let goals ← selectedStatValue stats "goals_scored"
  let assists ← selectedStatValue stats "assists"
  let ownGoals ← selectedStatValue stats "own_goals"
  let yellowCards ← selectedStatValue stats "yellow_cards"
  let redCards ← selectedStatValue stats "red_cards"
  return {
    eventId := eventId
    fixtureId := fixture.fixture
    elementId := elementId
    minutes := minutes
    starts := starts
    goals := goals
    assists := assists
    ownGoals := ownGoals
    yellowCards := yellowCards
    redCards := redCards }

/-- One candidate of the loops of `transformFplPlayerFixtureEvidence`. The identities seen so far
are those of the rows. -/
def addEvidence (eventId elementId : ℚ) (rows : List FplPlayerFixtureEvidence)
    (candidate : Option RawFPLEventExplainFixture) :
    Except LiveSnapshotError (List FplPlayerFixtureEvidence) := do
  let fixture ← orThrow candidate (.invalidExplain eventId elementId)
  throwIf ((fixture.fixture, elementId) ∈ rows.map fun row => (row.fixtureId, row.elementId))
    (.duplicateExplain eventId fixture.fixture elementId)
  let row ← fixtureEvidence eventId elementId fixture
  return rows ++ [row]

/-- `transformFplPlayerFixtureEvidence`. -/
def transformFplPlayerFixtureEvidence (eventId : ℚ) (elements : List RawFPLEventLiveElement) :
    Except LiveSnapshotError (List FplPlayerFixtureEvidence) := do
  let rows ← elements.foldlM (fun rows element =>
    (element.explain.getD []).foldlM (addEvidence eventId element.id) rows) []
  return rows.insertionSort fun left right => left.fixtureId < right.fixtureId ∨
    left.fixtureId = right.fixtureId ∧ left.elementId ≤ right.elementId

/-- `prepareEventLives`. -/
def prepareEventLives (eventId : ℚ) (elements : List RawFPLEventLiveElement) :
    Except LiveSnapshotError PreparedEventLives := do
  let transformed ← transformEventLives eventId elements
  let eventLives ← attachEventLiveFixtureBreakdowns eventId transformed elements
  let evidence ← transformFplPlayerFixtureEvidence eventId elements
  return {
    eventId := eventId
    sourceCount := elements.length
    eventLives := eventLives
    explains := transformEventLiveExplains eventId elements
    fixtureEvidence := evidence
    errors := elements.length - eventLives.length }

/-! ### Fixtures -/

/-- `z.number().int()`. -/
def readInteger (value : ℚ) : Option ℤ := if IsInteger value then some value.num else none

/-- `z.number().int().min(0)`. -/
def readNatural (value : ℚ) : Option ℕ :=
  ((readInteger value).filter (0 ≤ ·)).map Int.toNat

/-- `z.number().int().positive()`. -/
def readPositive (value : ℚ) : Option ℕ := (readNatural value).filter (0 < ·)

/-- `z.number().int().min(1).max(most)`. -/
def readUpTo (most : ℕ) (value : ℚ) : Option ℕ := (readPositive value).filter (· ≤ most)

/-- `schema.nullable()`. -/
def readNullable {Value : Type} (read : ℚ → Option Value) : Option ℚ → Option (Option Value)
  | none => some none
  | some value => (read value).map some

/-- A row of statistics in a fixture. -/
def readStatValue (raw : RawFixtureStatValue) : Option FixtureStatValue := do
  let value ← readInteger raw.value
  let element ← readPositive raw.element
  return ⟨value, element⟩

/-- A statistic of a fixture. -/
def readStat (raw : RawFixtureStat) : Option FixtureStat := do
  let a ← raw.a.mapM readStatValue
  let h ← raw.h.mapM readStatValue
  return ⟨raw.identifier, a, h⟩

/-- `transformFixture`, which throws at whatever `RawFPLFixtureSchema` does not accept. What it
accepts passes `FixtureSchema`. A kickoff time that is no date is dropped. -/
def transformFixture (dateParse : String → Option ℕ) (raw : RawFPLFixture) : Option Fixture := do
  let code ← readPositive raw.code
  let event ← readNullable (readUpTo 38) raw.event
  let id ← readPositive raw.id
  let minutes ← readNatural raw.minutes
  let teamA ← readPositive raw.teamA
  let teamAScore ← readNullable readNatural raw.teamAScore
  let teamH ← readPositive raw.teamH
  let teamHScore ← readNullable readNatural raw.teamHScore
  let stats ← (raw.stats.getD []).mapM readStat
  let teamHDifficulty ← readNullable (readUpTo 5) raw.teamHDifficulty
  let teamADifficulty ← readNullable (readUpTo 5) raw.teamADifficulty
  let pulseId ← readNatural raw.pulseId
  return {
    id := id
    code := code
    event := event
    finished := raw.finished
    finishedProvisional := raw.finishedProvisional
    kickoffTime := (raw.kickoffTime.filter (· ≠ "")).bind dateParse
    minutes := minutes
    provisionalStartTime := raw.provisionalStartTime
    started := raw.started
    teamA := teamA
    teamAScore := teamAScore
    teamH := teamH
    teamHScore := teamHScore
    stats := stats
    teamHDifficulty := teamHDifficulty
    teamADifficulty := teamADifficulty
    pulseId := pulseId
    createdAt := none
    updatedAt := none }

/-- `transformFixtures`: what cannot be transformed is skipped. -/
def transformFixtures (dateParse : String → Option ℕ) (rawFixtures : List RawFPLFixture) :
    Except LiveSnapshotError (List Fixture) := do
  let fixtures := rawFixtures.filterMap (transformFixture dateParse)
  throwIf (fixtures.length = 0 ∧ 0 < rawFixtures.length) (.allFixturesInvalid rawFixtures.length)
  return fixtures

/-- `resolveSnapshotState`. -/
def resolveSnapshotState (fixtures : List Fixture) : LiveSnapshotState :=
  if fixtures.length = 0 then .scheduled
  else if fixtures.any fun fixture =>
      fixture.started = some true ∧ ¬ fixture.finished ∧ ¬ fixture.finishedProvisional then .live
  else if fixtures.all fun fixture => fixture.finished || fixture.finishedProvisional then .settled
  else if fixtures.any fun fixture =>
      fixture.started = some true ∨ fixture.finished ∨ fixture.finishedProvisional then .live
  else .scheduled

/-! ### The preparation -/

/-- The ids of the roster. -/
def LiveSnapshotReferenceData.rosterIds (referenceData : LiveSnapshotReferenceData) : List ℚ :=
  referenceData.playerTeamById.entries.map Prod.fst

/-- `prepareLiveSnapshot`. -/
def prepareLiveSnapshot (dateParse : String → Option ℕ) (eventId : ℚ)
    (elements : List RawFPLEventLiveElement) (rawFixtures : List RawFPLFixture)
    (referenceData : LiveSnapshotReferenceData) (expectedFixtureIds : List ℚ) :
    Except LiveSnapshotError PreparedLiveSnapshot := do
  throwIf (¬ IsInteger eventId ∨ eventId ≤ 0) (.invalidEventId eventId)
  throwIf (elements.length = 0) .noElements
  let liveElementIds := elements.map (·.id)
  let expectedLiveElementIds := referenceData.rosterIds
  throwIf (setSize liveElementIds ≠ liveElementIds.length ∨
      setSize expectedLiveElementIds ≠ expectedLiveElementIds.length)
    (.duplicatePlayers eventId)
  let missingPlayers := lacking expectedLiveElementIds liveElementIds
  let unexpectedPlayers := lacking liveElementIds expectedLiveElementIds
  throwIf (0 < missingPlayers.length ∨ 0 < unexpectedPlayers.length)
    (.playerMismatch eventId (missingPlayers.insertionSort (· ≤ ·))
      (unexpectedPlayers.insertionSort (· ≤ ·)))
  let wrongEventFixture := rawFixtures.find? fun fixture =>
    fixture.event ≠ none ∧ fixture.event ≠ some eventId
  throwIf wrongEventFixture.isSome (.mixedEvents (wrongEventFixture.bind (·.event)) eventId)
  let rawFixtureIds := rawFixtures.map (·.id)
  throwIf (expectedFixtureIds.length = 0 ∧ 0 < rawFixtureIds.length) (.unexpectedFixtures eventId)
  throwIf (0 < expectedFixtureIds.length ∧
      (setSize rawFixtureIds ≠ rawFixtureIds.length ∨
        setSize expectedFixtureIds ≠ expectedFixtureIds.length))
    (.invalidFixtureBaseline eventId)
  let missingFixtures := lacking expectedFixtureIds rawFixtureIds
  let unexpectedFixtures := lacking rawFixtureIds expectedFixtureIds
  throwIf (0 < missingFixtures.length ∨ 0 < unexpectedFixtures.length)
    (.fixtureMismatch eventId (missingFixtures.insertionSort (· ≤ ·))
      (unexpectedFixtures.insertionSort (· ≤ ·)))
  let fixtureTeamIds := (rawFixtures.flatMap fun fixture => [fixture.teamH, fixture.teamA]).dedup
  let missingTeams := fixtureTeamIds.filter fun teamId =>
    (referenceData.nameById.find teamId).isNone ∨ (referenceData.shortNameById.find teamId).isNone
  throwIf (0 < missingTeams.length) (.missingTeams missingTeams)
  let eventLives ← prepareEventLives eventId elements
  let fixtures ← transformFixtures dateParse rawFixtures
  throwIf (fixtures.length ≠ rawFixtures.length ∨
      ∃ fixture ∈ fixtures, fixture.event.map Nat.cast ≠ some eventId)
    (.incompleteFixtures eventId)
  return {
    season := referenceData.season
    eventId := eventId
    eventLives := eventLives
    fixtures := fixtures
    state := resolveSnapshotState fixtures }

/-! ### What a preparation has checked -/

/-- The fixtures that a payload explains of a player. -/
def explainedIds (element : RawFPLEventLiveElement) : List ℚ :=
  (element.explain.getD []).filterMap fun candidate => candidate.map (·.fixture)

/-- The prepared rows cover the roster and the expected fixtures exactly: every player and every
fixture has one row, and what is explained or proved of a player is of one of these fixtures. -/
structure ExactCoverage (elements : List RawFPLEventLiveElement) (rawFixtures : List RawFPLFixture)
    (rosterIds expectedFixtureIds : List ℚ) (prepared : PreparedLiveSnapshot) : Prop where
  roster : rosterIds.Nodup
  elementIds : (elements.map (·.id)).Perm rosterIds
  lives : (prepared.eventLives.eventLives.map (·.elementId)).Perm rosterIds
  explains : (prepared.eventLives.explains.map (·.elementId)).Perm rosterIds
  expected : expectedFixtureIds.Nodup
  rawFixtureIds : (rawFixtures.map (·.id)).Perm expectedFixtureIds
  fixtures : (prepared.fixtures.map fun fixture => (fixture.id : ℚ)).Perm expectedFixtureIds
  event : ∀ fixture ∈ prepared.fixtures, fixture.event.map Nat.cast = some prepared.eventId
  breakdowns : ∀ live ∈ prepared.eventLives.eventLives, ∃ breakdown,
    live.fixtureBreakdown = some breakdown ∧
      ∀ item ∈ breakdown, ∃ fixture ∈ prepared.fixtures, (fixture.id : ℚ) = item.fixtureId
  evidence : ∀ row ∈ prepared.eventLives.fixtureEvidence, row.elementId ∈ rosterIds ∧
    ∃ fixture ∈ prepared.fixtures, (fixture.id : ℚ) = row.fixtureId
  evidenceOnce : (prepared.eventLives.fixtureEvidence.map
    fun row => (row.fixtureId, row.elementId)).Nodup

/-- A transformed fixture keeps its id. -/
theorem transformFixture_id {dateParse : String → Option ℕ} {raw : RawFPLFixture}
    {fixture : Fixture} (h : transformFixture dateParse raw = some fixture) :
    (fixture.id : ℚ) = raw.id := by
  unfold transformFixture at h
  simp only [Option.bind_eq_bind, Option.bind_eq_some_iff, Option.pure_def, Option.some.injEq] at h
  obtain ⟨_, -, _, -, id, hid, _, -, _, -, _, -, _, -, _, -, _, -, _, -, _, -, _, -, rfl⟩ := h
  unfold readPositive readNatural readInteger at hid
  simp only [Option.filter_eq_some_iff, Option.map_eq_some_iff] at hid
  obtain ⟨⟨number, ⟨hnumber, hnonneg⟩, rfl⟩, -⟩ := hid
  split at hnumber
  next hinteger =>
    obtain rfl := Option.some.inj hnumber
    calc ((raw.id.num.toNat : ℕ) : ℚ) = ((raw.id.num.toNat : ℤ) : ℚ) := rfl
      _ = (raw.id.num : ℚ) := by rw [Int.toNat_of_nonneg (of_decide_eq_true hnonneg)]
      _ = raw.id := hinteger.num_eq
  next => exact absurd hnumber.symm (Option.some_ne_none _)

/-- Nothing has been skipped when as many fixtures are left. -/
theorem transformFixtures_ids {dateParse : String → Option ℕ} {rawFixtures : List RawFPLFixture}
    (h : (rawFixtures.filterMap (transformFixture dateParse)).length = rawFixtures.length) :
    (rawFixtures.filterMap (transformFixture dateParse)).map (fun fixture => (fixture.id : ℚ)) =
      rawFixtures.map (·.id) :=
  (map_eq_of_forall₂ (forall₂_of_length_filterMap h) fun _ _ hread =>
    (transformFixture_id hread).symm).symm

/-- The normalized candidates are fixtures, in their order. -/
theorem normalizeCandidates_ids {eventId elementId : ℚ} {fixtureIds : List ℚ}
    {candidates : List (Option RawFPLEventExplainFixture)}
    {breakdown : List EventLiveFixtureBreakdown}
    (h : normalizeCandidates eventId elementId fixtureIds candidates = .ok breakdown) :
    breakdown.map (·.fixtureId) =
      candidates.filterMap fun candidate => candidate.map (·.fixture) := by
  induction candidates generalizing fixtureIds breakdown with
  | nil =>
    rw [normalizeCandidates, Except.ok.injEq] at h
    subst h
    rfl
  | cons candidate rest ih =>
    rw [normalizeCandidates, orThrow_bind_eq_ok] at h
    obtain ⟨fixture, rfl, h⟩ := h
    rw [throwIf_bind_eq_ok, bind_eq_ok] at h
    obtain ⟨-, stats, -, h⟩ := h
    obtain ⟨others, hothers, h⟩ := bind_eq_ok.mp h
    obtain rfl := Except.ok.inj h
    rw [List.map_cons, ih hothers]
    rfl

/-- The breakdown of a player is of the explained fixtures. -/
theorem normalizeFixtureBreakdown_ids {eventId : ℚ} {element : RawFPLEventLiveElement}
    {breakdown : List EventLiveFixtureBreakdown}
    (h : normalizeFixtureBreakdown eventId element = .ok breakdown) :
    (breakdown.map (·.fixtureId)).Perm (explainedIds element) := by
  unfold normalizeFixtureBreakdown at h
  unfold explainedIds
  split at h
  next hnone =>
    obtain rfl := Except.ok.inj h
    rw [hnone]
    exact List.Perm.refl _
  next explain hexplain =>
    obtain ⟨sorted, hsorted, h⟩ := bind_eq_ok.mp h
    obtain rfl := Except.ok.inj h
    rw [hexplain, Option.getD_some, ← normalizeCandidates_ids hsorted]
    exact (List.perm_insertionSort _ _).map _

/-- Elements are found under their ids. -/
theorem find_elementsById {elements : List RawFPLEventLiveElement}
    (hdistinct : (elements.map (·.id)).Nodup) {element : RawFPLEventLiveElement}
    (helement : element ∈ elements) :
    (elements.foldl (fun table element => table.upsert element.id element)
      (.empty : KeyedTable ℚ RawFPLEventLiveElement)).find element.id = some element := by
  have hfold : ∀ (list : List RawFPLEventLiveElement) (table : KeyedTable ℚ RawFPLEventLiveElement),
      (list.map (·.id)).Nodup → element ∈ list ∨
        element.id ∉ list.map (·.id) ∧ table.find element.id = some element →
      (list.foldl (fun table element => table.upsert element.id element) table).find element.id =
        some element := by
    intro list
    induction list with
    | nil =>
      intro table _ h
      exact (h.resolve_left List.not_mem_nil).2
    | cons first rest ih =>
      intro table hnodup h
      rw [List.map_cons, List.nodup_cons] at hnodup
      refine ih _ hnodup.2 ?_
      rw [KeyedTable.find_upsert]
      rcases h with hmem | ⟨hnot, hfind⟩
      · rcases List.mem_cons.mp hmem with rfl | hrest
        · exact Or.inr ⟨hnodup.1, if_pos rfl⟩
        · exact Or.inl hrest
      · rw [List.map_cons, List.mem_cons, not_or] at hnot
        exact Or.inr ⟨hnot.2, by rwa [if_neg hnot.1]⟩
  exact hfold elements _ hdistinct (Or.inl helement)

/-- A live row of a player with the breakdown of the explained fixtures. -/
def LiveRowOf (element : RawFPLEventLiveElement) (live : EventLive) : Prop :=
  live.elementId = element.id ∧ ∃ breakdown, live.fixtureBreakdown = some breakdown ∧
    (breakdown.map (·.fixtureId)).Perm (explainedIds element)

/-- Every element gets the live row with its breakdown. -/
theorem attachEventLiveFixtureBreakdowns_rows {eventId : ℚ}
    {elements : List RawFPLEventLiveElement} (hdistinct : (elements.map (·.id)).Nodup)
    {transformed eventLives : List EventLive}
    (htransformed : transformEventLives eventId elements = .ok transformed)
    (h : attachEventLiveFixtureBreakdowns eventId transformed elements = .ok eventLives) :
    List.Forall₂ LiveRowOf elements eventLives := by
  have hids : List.Forall₂ (fun element live => live.elementId = RawFPLEventLiveElement.id element)
      elements transformed := by
    refine (mapM_eq_ok.mp htransformed).imp fun element live hlive => ?_
    unfold transformEventLive at hlive
    dsimp only at hlive
    split at hlive
    next => exact (congrArg EventLive.elementId (Except.ok.inj hlive)).symm
    next => exact absurd hlive (by simp)
  have hrows := mapM_eq_ok.mp h
  have hfind := fun element => @find_elementsById elements hdistinct element
  generalize elements.foldl (fun table element => table.upsert element.id element)
    (.empty : KeyedTable ℚ RawFPLEventLiveElement) = table at hfind hrows
  clear htransformed h hdistinct
  induction hids generalizing eventLives with
  | nil =>
    obtain rfl := List.forall₂_nil_left_iff.mp hrows
    exact List.Forall₂.nil
  | @cons element live elements lives hid _ ih =>
    obtain ⟨row, rows, hrow, hrest, rfl⟩ := List.forall₂_cons_left_iff.mp hrows
    refine List.Forall₂.cons ?_
      (ih (fun other hother => hfind other (List.mem_cons_of_mem _ hother)) hrest)
    obtain ⟨found, hfound, hrow⟩ := orThrow_bind_eq_ok.mp hrow
    rw [hid, hfind element List.mem_cons_self] at hfound
    obtain rfl := Option.some.inj hfound
    obtain ⟨breakdown, hbreakdown, hrow⟩ := bind_eq_ok.mp hrow
    obtain rfl := Except.ok.inj hrow
    exact ⟨hid, breakdown, rfl, normalizeFixtureBreakdown_ids hbreakdown⟩

/-- The rows are of explained fixtures of the elements, each once. -/
structure EvidenceOf (elements : List RawFPLEventLiveElement)
    (rows : List FplPlayerFixtureEvidence) : Prop where
  explained : ∀ row ∈ rows, ∃ element ∈ elements,
    row.elementId = element.id ∧ row.fixtureId ∈ explainedIds element
  once : (rows.map fun row => (row.fixtureId, row.elementId)).Nodup

/-- A candidate adds the row of its fixture. -/
theorem EvidenceOf.addEvidence {elements : List RawFPLEventLiveElement}
    {rows next : List FplPlayerFixtureEvidence} (h : EvidenceOf elements rows) {eventId : ℚ}
    {element : RawFPLEventLiveElement} (helement : element ∈ elements)
    {candidate : Option RawFPLEventExplainFixture}
    (hcandidate : candidate ∈ element.explain.getD [])
    (hnext : addEvidence eventId element.id rows candidate = .ok next) :
    EvidenceOf elements next := by
  unfold LetletmeData.addEvidence at hnext
  rw [orThrow_bind_eq_ok] at hnext
  obtain ⟨fixture, rfl, hnext⟩ := hnext
  rw [throwIf_bind_eq_ok, bind_eq_ok] at hnext
  obtain ⟨hnew, row, hrow, hnext⟩ := hnext
  obtain rfl := Except.ok.inj hnext
  have hids : row.fixtureId = fixture.fixture ∧ row.elementId = element.id := by
    unfold fixtureEvidence at hrow
    simp only [bind_eq_ok] at hrow
    obtain ⟨_, -, _, -, _, -, _, -, _, -, _, -, _, -, hrow⟩ := hrow
    obtain rfl := Except.ok.inj hrow
    exact ⟨rfl, rfl⟩
  constructor
  · intro other hother
    rcases List.mem_append.mp hother with hmem | hmem
    · exact h.explained other hmem
    · obtain rfl := List.mem_singleton.mp hmem
      exact ⟨element, helement, hids.2,
        List.mem_filterMap.mpr ⟨some fixture, hcandidate, congrArg some hids.1.symm⟩⟩
  · rw [List.map_append, List.map_singleton, List.nodup_append']
    refine ⟨h.once, List.nodup_singleton _, ?_⟩
    rw [List.disjoint_singleton, hids.1, hids.2]
    exact hnew

/-- All rows of evidence are of explained fixtures, each once. -/
theorem transformFplPlayerFixtureEvidence_rows {eventId : ℚ}
    {elements : List RawFPLEventLiveElement} {rows : List FplPlayerFixtureEvidence}
    (h : transformFplPlayerFixtureEvidence eventId elements = .ok rows) :
    EvidenceOf elements rows := by
  obtain ⟨unsorted, hrun, h⟩ := bind_eq_ok.mp h
  obtain rfl := Except.ok.inj h
  have hunsorted : EvidenceOf elements unsorted := by
    have hnone : EvidenceOf elements [] :=
      ⟨fun _ h => absurd h List.not_mem_nil, List.nodup_nil⟩
    refine foldlM_invariant (fun rows element next helement hrows hnext => ?_) hnone hrun
    exact foldlM_invariant (fun rows candidate next hcandidate hrows hnext =>
      hrows.addEvidence helement hcandidate hnext) hrows hnext
  have hperm := List.perm_insertionSort (fun left right : FplPlayerFixtureEvidence =>
    left.fixtureId < right.fixtureId ∨
      left.fixtureId = right.fixtureId ∧ left.elementId ≤ right.elementId) unsorted
  exact ⟨fun row hrow => hunsorted.explained row (hperm.mem_iff.mp hrow),
    (hperm.map _).nodup_iff.mpr hunsorted.once⟩

/-- Everything that a preparation which returns has checked and built. -/
structure PreparedOf (eventId : ℚ) (elements : List RawFPLEventLiveElement)
    (rawFixtures : List RawFPLFixture) (rosterIds expectedFixtureIds : List ℚ)
    (prepared : PreparedLiveSnapshot) : Prop where
  sameEvent : prepared.eventId = eventId
  roster : rosterIds.Nodup
  elementIds : (elements.map (·.id)).Perm rosterIds
  expected : expectedFixtureIds.Nodup
  rawFixtureIds : (rawFixtures.map (·.id)).Perm expectedFixtureIds
  fixtures : prepared.fixtures.map (fun fixture => (fixture.id : ℚ)) = rawFixtures.map (·.id)
  event : ∀ fixture ∈ prepared.fixtures, fixture.event.map Nat.cast = some eventId
  lives : List.Forall₂ LiveRowOf elements prepared.eventLives.eventLives
  explains : prepared.eventLives.explains = elements.map (transformSingleEventLiveExplain eventId)
  evidence : EvidenceOf elements prepared.eventLives.fixtureEvidence

/-- What a preparation has checked and built when it returns. -/
theorem prepareLiveSnapshot_of_ok {dateParse : String → Option ℕ} {eventId : ℚ}
    {elements : List RawFPLEventLiveElement} {rawFixtures : List RawFPLFixture}
    {referenceData : LiveSnapshotReferenceData} {expectedFixtureIds : List ℚ}
    {prepared : PreparedLiveSnapshot}
    (h : prepareLiveSnapshot dateParse eventId elements rawFixtures referenceData
      expectedFixtureIds = .ok prepared) :
    PreparedOf eventId elements rawFixtures referenceData.rosterIds expectedFixtureIds
      prepared := by
  unfold prepareLiveSnapshot at h
  simp only [throwIf_bind_eq_ok, List.length_pos_iff, not_or, not_and, not_not,
    setSize_eq_length_iff] at h
  obtain ⟨-, -, hdistinct, hplayers, -, hblank, hbaseline, hfixtureIds, -, h⟩ := h
  obtain ⟨lives, hlives, h⟩ := bind_eq_ok.mp h
  obtain ⟨fixtures, hfixtures, h⟩ := bind_eq_ok.mp h
  rw [throwIf_bind_eq_ok, not_or, not_not] at h
  obtain ⟨⟨hlength, hevent⟩, h⟩ := h
  obtain rfl := Except.ok.inj h
  have helements : (elements.map (·.id)).Perm referenceData.rosterIds :=
    perm_of_lacking_eq_nil hdistinct.1 hdistinct.2 hplayers.1 hplayers.2
  have hbaseline : (rawFixtures.map (·.id)).Nodup ∧ expectedFixtureIds.Nodup := by
    by_cases hnone : expectedFixtureIds = []
    · have hraw : rawFixtures.map (·.id) = [] :=
        List.length_eq_zero_iff.mp (Nat.eq_zero_of_not_pos
          (by simpa using hblank (by rw [hnone]; rfl)))
      rw [hraw, hnone]
      exact ⟨List.nodup_nil, List.nodup_nil⟩
    · exact hbaseline hnone
  obtain ⟨transformed, htransformed, hlives⟩ := bind_eq_ok.mp hlives
  obtain ⟨rows, hrows, hlives⟩ := bind_eq_ok.mp hlives
  obtain ⟨evidence, hevidence, hlives⟩ := bind_eq_ok.mp hlives
  obtain rfl := Except.ok.inj hlives
  unfold transformFixtures at hfixtures
  rw [throwIf_bind_eq_ok] at hfixtures
  obtain rfl := Except.ok.inj hfixtures.2
  refine ⟨rfl, hdistinct.2, helements, hbaseline.2,
    perm_of_lacking_eq_nil hbaseline.1 hbaseline.2 hfixtureIds.1 hfixtureIds.2,
    transformFixtures_ids hlength, fun fixture hfixture => ?_,
    attachEventLiveFixtureBreakdowns_rows hdistinct.1 htransformed hrows, rfl,
    transformFplPlayerFixtureEvidence_rows hevidence⟩
  by_contra hne
  exact hevent ⟨fixture, hfixture, hne⟩

/-- The prepared fixtures are the expected ones. -/
theorem PreparedOf.mem_expected_iff {eventId : ℚ} {elements : List RawFPLEventLiveElement}
    {rawFixtures : List RawFPLFixture} {rosterIds expectedFixtureIds : List ℚ}
    {prepared : PreparedLiveSnapshot}
    (h : PreparedOf eventId elements rawFixtures rosterIds expectedFixtureIds prepared)
    (fixtureId : ℚ) : fixtureId ∈ expectedFixtureIds ↔
      ∃ fixture ∈ prepared.fixtures, (fixture.id : ℚ) = fixtureId := by
  rw [← h.rawFixtureIds.mem_iff, ← h.fixtures, List.mem_map]

/-- Exact coverage leaves no explained fixture that is not expected. -/
theorem PreparedOf.explained_of_exactCoverage {eventId : ℚ}
    {elements : List RawFPLEventLiveElement} {rawFixtures : List RawFPLFixture}
    {rosterIds expectedFixtureIds : List ℚ} {prepared : PreparedLiveSnapshot}
    (h : PreparedOf eventId elements rawFixtures rosterIds expectedFixtureIds prepared)
    (hcoverage : ExactCoverage elements rawFixtures rosterIds expectedFixtureIds prepared)
    {element : RawFPLEventLiveElement} (helement : element ∈ elements) {fixtureId : ℚ}
    (hexplained : fixtureId ∈ explainedIds element) : fixtureId ∈ expectedFixtureIds := by
  obtain ⟨live, hlive, -, breakdown, hsome, hperm⟩ :=
    exists_of_mem_of_forall₂ h.lives.flip helement
  obtain ⟨found, hfound, hall⟩ := hcoverage.breakdowns live hlive
  obtain rfl : breakdown = found := Option.some.inj (hsome.symm.trans hfound)
  obtain ⟨item, hitem, rfl⟩ := List.mem_map.mp (hperm.mem_iff.mpr hexplained)
  exact (h.mem_expected_iff _).mpr (hall item hitem)

/-- A prepared snapshot covers the roster and the expected fixtures exactly if and only if
everything the payload explains is of an expected fixture: that alone is not checked. -/
theorem prepareLiveSnapshot_exactCoverage_iff (dateParse : String → Option ℕ) (eventId : ℚ)
    (elements : List RawFPLEventLiveElement) (rawFixtures : List RawFPLFixture)
    (referenceData : LiveSnapshotReferenceData) (expectedFixtureIds : List ℚ)
    (prepared : PreparedLiveSnapshot)
    (h : prepareLiveSnapshot dateParse eventId elements rawFixtures referenceData
      expectedFixtureIds = .ok prepared) :
    ExactCoverage elements rawFixtures referenceData.rosterIds expectedFixtureIds prepared ↔
      ∀ element ∈ elements, ∀ fixtureId ∈ explainedIds element, fixtureId ∈ expectedFixtureIds := by
  have hof := prepareLiveSnapshot_of_ok h
  constructor
  · intro hcoverage element helement fixtureId hexplained
    exact hof.explained_of_exactCoverage hcoverage helement hexplained
  · intro hexplained
    refine ⟨hof.roster, hof.elementIds, ?_, ?_, hof.expected, hof.rawFixtureIds, ?_,
      fun fixture hfixture => ?_, fun live hlive => ?_, fun row hrow => ?_, hof.evidence.once⟩
    · rw [← map_eq_of_forall₂ hof.lives fun element live hrow => hrow.1.symm]
      exact hof.elementIds
    · rw [hof.explains, List.map_map]
      exact hof.elementIds
    · rw [hof.fixtures]
      exact hof.rawFixtureIds
    · rw [hof.sameEvent]
      exact hof.event fixture hfixture
    · obtain ⟨element, helement, -, breakdown, hsome, hperm⟩ :=
        exists_of_mem_of_forall₂ hof.lives hlive
      refine ⟨breakdown, hsome, fun item hitem => (hof.mem_expected_iff _).mp ?_⟩
      exact hexplained element helement _ (hperm.mem_iff.mp (List.mem_map_of_mem hitem))
    · obtain ⟨element, helement, hid, hfixture⟩ := hof.evidence.explained row hrow
      refine ⟨hid ▸ hof.elementIds.mem_iff.mp (List.mem_map_of_mem helement),
        (hof.mem_expected_iff _).mp ?_⟩
      exact hexplained element helement _ hfixture

/-- The statistics of a player who has not played. -/
def idleStats : RawFPLEventLiveStats where
  minutes := 0
  goalsScored := 0
  assists := 0
  cleanSheets := 0
  goalsConceded := 0
  ownGoals := 0
  penaltiesSaved := 0
  penaltiesMissed := 0
  yellowCards := 0
  redCards := 0
  saves := 0
  bonus := 0
  bps := 0
  defensiveContribution := none
  starts := 0
  expectedGoals := "0.00"
  expectedAssists := "0.00"
  expectedGoalInvolvements := "0.00"
  expectedGoalsConceded := "0.00"
  totalPoints := 0
  inDreamteam := false

/-- A player of whom the payload explains one fixture. -/
def explainedElement (fixtureId : ℚ) : RawFPLEventLiveElement where
  id := 10
  stats := idleStats
  explain := some [some ⟨fixtureId, [⟨"minutes", 0, 0, none⟩]⟩]

/-- The one fixture of an event, between the teams 1 and 2. -/
def onlyFixture : RawFPLFixture where
  code := 70
  event := some 3
  finished := false
  finishedProvisional := false
  id := 7
  kickoffTime := none
  minutes := 0
  provisionalStartTime := false
  started := some true
  teamA := 2
  teamAScore := none
  teamH := 1
  teamHScore := none
  stats := none
  teamHDifficulty := none
  teamADifficulty := none
  pulseId := 0

/-- A season with two teams and one player. -/
def smallReferenceData : LiveSnapshotReferenceData where
  season := "2526"
  nameById := (KeyedTable.empty.upsert 1 "Home").upsert 2 "Away"
  shortNameById := (KeyedTable.empty.upsert 1 "HOM").upsert 2 "AWA"
  playerTeamById := KeyedTable.empty.upsert 10 1

/-- The preparation of a payload that explains one fixture of its only player. -/
def smallPreparation (fixtureId : ℚ) : Except LiveSnapshotError PreparedLiveSnapshot :=
  prepareLiveSnapshot (fun _ => none) 3 [explainedElement fixtureId] [onlyFixture]
    smallReferenceData [7]

/-- A result that is no error. -/
theorem exists_eq_ok {Error Value : Type} {result : Except Error Value}
    (h : result.toOption.isSome = true) : ∃ value, result = .ok value := by
  cases result with
  | ok value => exact ⟨value, rfl⟩
  | error error => exact absurd h Bool.false_ne_true

/-- The preparation of a payload that explains the expected fixture covers everything. -/
theorem smallPreparation_exactCoverage : ∃ prepared, smallPreparation 7 = .ok prepared ∧
    ExactCoverage [explainedElement 7] [onlyFixture] smallReferenceData.rosterIds [7] prepared := by
  obtain ⟨prepared, hprepared⟩ := exists_eq_ok
    (by decide +kernel : (smallPreparation 7).toOption.isSome = true)
  refine ⟨prepared, hprepared,
    (prepareLiveSnapshot_exactCoverage_iff _ _ _ _ _ _ prepared hprepared).mpr ?_⟩
  simp [explainedElement, explainedIds]

/-- The preparation of a payload that explains a fixture of no event of the season returns. -/
theorem smallPreparation_unknown_fixture : ∃ prepared, smallPreparation 99 = .ok prepared ∧
    ¬ ExactCoverage [explainedElement 99] [onlyFixture] smallReferenceData.rosterIds [7]
      prepared := by
  obtain ⟨prepared, hprepared⟩ := exists_eq_ok
    (by decide +kernel : (smallPreparation 99).toOption.isSome = true)
  refine ⟨prepared, hprepared, fun hcoverage => ?_⟩
  have hexpected := (prepareLiveSnapshot_of_ok hprepared).explained_of_exactCoverage hcoverage
    List.mem_cons_self (by simp [explainedElement, explainedIds] :
      (99 : ℚ) ∈ explainedIds (explainedElement 99))
  exact absurd hexpected (by decide +kernel)

end LetletmeData
