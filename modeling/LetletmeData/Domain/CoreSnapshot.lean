import Mathlib.Data.List.Sort
import Mathlib.Algebra.Order.Ring.Int
import Mathlib.Data.Rat.Defs

/-!
# The core snapshot of a season

Events, teams, players, phases and fixtures as they are fetched, stored and published. Dates are
given in milliseconds.
-/

namespace LetletmeData

/-- `EventChipData`. -/
structure EventChipData where
  chipName : String
  numberPlayed : ℕ
  deriving DecidableEq

/-- `EventTopElementData`. -/
structure EventTopElementData where
  element : ℕ
  points : ℤ
  deriving DecidableEq

/-- `Event`. -/
structure Event where
  id : ℕ
  name : String
  deadlineTime : Option String
  averageEntryScore : Option ℤ
  finished : Bool
  dataChecked : Bool
  dataCheckedAt : Option ℕ
  highestScoringEntry : Option ℕ
  deadlineTimeEpoch : Option ℤ
  deadlineTimeGameOffset : Option ℤ
  highestScore : Option ℤ
  isPrevious : Bool
  isCurrent : Bool
  isNext : Bool
  cupLeagueCreate : Bool
  h2hKoMatchesCreated : Bool
  chipPlays : Option (List EventChipData)
  mostSelected : Option ℕ
  mostTransferredIn : Option ℕ
  topElement : Option ℕ
  topElementInfo : Option EventTopElementData
  transfersMade : Option ℕ
  mostCaptained : Option ℕ
  mostViceCaptained : Option ℕ
  createdAt : Option ℕ
  updatedAt : Option ℕ

/-- `Player`. -/
structure Player where
  id : ℕ
  code : ℕ
  type : ℕ
  teamId : ℕ
  price : ℤ
  startPrice : ℤ
  firstName : String
  secondName : String
  webName : String
  deriving DecidableEq

/-- `Team`. -/
structure Team where
  id : ℕ
  name : String
  shortName : String
  code : ℕ
  draw : ℕ
  form : Option String
  loss : ℕ
  played : ℕ
  points : ℕ
  position : ℕ
  strength : Option ℕ
  teamDivision : Option ℕ
  unavailable : Bool
  win : ℕ
  strengthOverallHome : ℕ
  strengthOverallAway : ℕ
  strengthAttackHome : ℕ
  strengthAttackAway : ℕ
  strengthDefenceHome : ℕ
  strengthDefenceAway : ℕ
  pulseId : ℕ
  createdAt : Option ℕ
  updatedAt : Option ℕ

/-- `Phase`. -/
structure Phase where
  id : ℕ
  name : String
  startEvent : ℕ
  stopEvent : ℕ
  highestScore : Option ℤ
  deriving DecidableEq

/-- An entry of `FixtureStat`. -/
structure FixtureStatValue where
  value : ℤ
  element : ℕ
  deriving DecidableEq

/-- `FixtureStat`. -/
structure FixtureStat where
  identifier : String
  a : List FixtureStatValue
  h : List FixtureStatValue
  deriving DecidableEq

/-- `Fixture`. -/
structure Fixture where
  id : ℕ
  code : ℕ
  event : Option ℕ
  finished : Bool
  finishedProvisional : Bool
  kickoffTime : Option ℕ
  minutes : ℕ
  provisionalStartTime : Bool
  started : Option Bool
  teamA : ℕ
  teamAScore : Option ℕ
  teamH : ℕ
  teamHScore : Option ℕ
  stats : List FixtureStat
  teamHDifficulty : Option ℕ
  teamADifficulty : Option ℕ
  pulseId : ℕ
  createdAt : Option ℕ
  updatedAt : Option ℕ
  deriving DecidableEq

/-- `SelectionRulePosition`. -/
structure SelectionRulePosition where
  id : ℕ
  name : String
  shortName : String
  squadSelect : ℕ
  minPlay : ℕ
  maxPlay : ℕ
  deriving DecidableEq

/-- `SelectionRuleChipWindow`. -/
structure SelectionRuleChipWindow where
  id : ℕ
  name : String
  number : ℕ
  startEvent : ℚ
  stopEvent : ℚ
  chipType : String
  deriving DecidableEq

/-- `SelectionRules`. -/
structure SelectionRules where
  squadSize : ℕ
  startingSize : ℕ
  budget : ℕ
  maxPlayersPerTeam : ℕ
  currencyMultiplier : ℕ
  positions : List SelectionRulePosition
  chips : List SelectionRuleChipWindow
  deriving DecidableEq

/-- `CoreSnapshot`. -/
structure CoreSnapshot where
  season : String
  events : List Event
  teams : List Team
  players : List Player
  phases : List Phase
  fixtures : List Fixture
  selectionRules : Option SelectionRules

/-- The payloads of a core publication, under their item names. -/
structure CorePayloads where
  events : List Event
  teams : List Team
  players : List Player
  phases : List Phase
  fixtures : List Fixture
  currentEventId : Option ℕ
  selectionRules : Option SelectionRules

/-- When a deadline was due, if the event has one that can be read and it is over. -/
def passedDeadline (dateParse : String → Option ℤ) (now : ℕ) (event : Event) : Option ℤ :=
  ((event.deadlineTime.filter (· ≠ "")).bind dateParse).filter (· ≤ now)

/-- `selectCurrentEventIdByDeadline`: the event whose deadline passed last. -/
def selectCurrentEventIdByDeadline (dateParse : String → Option ℤ) (events : List Event)
    (sourceCheckedAt : ℕ) : Option ℕ :=
  let passed := events.filter fun event => (passedDeadline dateParse sourceCheckedAt event).isSome
  let deadline (event : Event) : ℤ := (passedDeadline dateParse sourceCheckedAt event).getD 0
  ((passed.insertionSort fun left right => deadline right ≤ deadline left).head?).map (·.id)

/-- The payloads `syncCoreSnapshot` and `publishCoreSnapshotPublication` build of a snapshot. -/
def corePayloads (dateParse : String → Option ℤ) (snapshot : CoreSnapshot) (sourceCheckedAt : ℕ) :
    CorePayloads :=
  { events := snapshot.events
    teams := snapshot.teams
    players := snapshot.players
    phases := snapshot.phases
    fixtures := snapshot.fixtures
    currentEventId := selectCurrentEventIdByDeadline dateParse snapshot.events sourceCheckedAt
    selectionRules := snapshot.selectionRules }

end LetletmeData
