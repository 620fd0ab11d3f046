import LetletmeData.Library.ScriptValues

/-!
# Understat records

The records that a run of the synchronisation stages. Their fields are numbers, texts, flags and
dates, and only some may be null.
-/

namespace LetletmeData.Understat

open LetletmeData.Library

/-- `UnderstatTeamSide`. -/
inductive UnderstatTeamSide where
  | h
  | a
  deriving DecidableEq

/-- The text of a side. -/
def UnderstatTeamSide.text : UnderstatTeamSide → String
  | h => "h"
  | a => "a"

/-- `UnderstatTeamResult`. -/
inductive UnderstatTeamResult where
  | w
  | d
  | l
  deriving DecidableEq

/-- The text of a result. -/
def UnderstatTeamResult.text : UnderstatTeamResult → String
  | w => "w"
  | d => "d"
  | l => "l"

/-- `UnderstatSeasonState`. -/
inductive UnderstatSeasonState where
  | planned
  | active
  | complete
  deriving DecidableEq

/-- The text of a state. -/
def UnderstatSeasonState.text : UnderstatSeasonState → String
  | planned => "planned"
  | active => "active"
  | complete => "complete"

/-- `UnderstatSplitDimension`. -/
inductive UnderstatSplitDimension where
  | situation
  | formation
  | gameState
  | timing
  | shotZone
  | attackSpeed
  | result
  deriving DecidableEq

/-- The text of a dimension. -/
def UnderstatSplitDimension.text : UnderstatSplitDimension → String
  | situation => "situation"
  | formation => "formation"
  | gameState => "gameState"
  | timing => "timing"
  | shotZone => "shotZone"
  | attackSpeed => "attackSpeed"
  | result => "result"

/-! ### Fields -/

/-- A number or null. -/
def numberOrNull : Option Decimal → JsValue
  | some number => .number number
  | none => .null

/-- A text or null. -/
def textOrNull : Option String → JsValue
  | some text => .string text
  | none => .null

/-- Neither a date nor an array nor an object. -/
def isScalar : JsValue → Bool
  | .null | .bool _ | .number _ | .string _ => true
  | .date _ | .array _ | .object _ => false

/-- Fields of one name each, with dates under some of the names and scalars under the others. -/
structure FlatRecord (dates : List String) (fields : Fields) : Prop where
  names : (fields.map Prod.fst).Nodup
  dated : ∀ name ∈ dates, name ∈ fields.map Prod.fst
  values : ∀ field ∈ fields,
    if field.1 ∈ dates then ∃ date, field.2 = .date date else isScalar field.2 = true

/-! ### Records -/

/-- `UnderstatSeason`. -/
structure UnderstatSeason where
  season : String
  sourceYear : Decimal
  league : String
  state : UnderstatSeasonState
  firstSeenAt : DateValue
  lastSeenAt : DateValue

/-- The fields of a season. -/
def UnderstatSeason.fields (row : UnderstatSeason) : Fields :=
  [("season", .string row.season), ("sourceYear", .number row.sourceYear),
    ("league", .string row.league), ("state", .string row.state.text),
    ("firstSeenAt", .date row.firstSeenAt), ("lastSeenAt", .date row.lastSeenAt)]

/-- `UnderstatTeam`. -/
structure UnderstatTeam where
  id : Decimal
  title : String
  shortTitle : Option String
  firstSeenSeason : String
  lastSeenSeason : String
  sourceHash : String

/-- The fields of a team. -/
def UnderstatTeam.fields (row : UnderstatTeam) : Fields :=
  [("id", .number row.id), ("title", .string row.title), ("shortTitle", textOrNull row.shortTitle),
    ("firstSeenSeason", .string row.firstSeenSeason),
    ("lastSeenSeason", .string row.lastSeenSeason), ("sourceHash", .string row.sourceHash)]

/-- `UnderstatMatch`. -/
structure UnderstatMatch where
  id : Decimal
  season : String
  homeTeamId : Decimal
  awayTeamId : Decimal
  kickoffAt : DateValue
  isResult : Bool
  homeGoals : Option Decimal
  awayGoals : Option Decimal
  homeXg : Option Decimal
  awayXg : Option Decimal
  forecastHomeWin : Option Decimal
  forecastDraw : Option Decimal
  forecastAwayWin : Option Decimal
  sourceHash : String
  sourceCheckedAt : DateValue
  lastSeenAt : DateValue

/-- The fields of a match. -/
def UnderstatMatch.fields (row : UnderstatMatch) : Fields :=
  [("id", .number row.id), ("season", .string row.season), ("homeTeamId", .number row.homeTeamId),
    ("awayTeamId", .number row.awayTeamId), ("kickoffAt", .date row.kickoffAt),
    ("isResult", .bool row.isResult), ("homeGoals", numberOrNull row.homeGoals),
    ("awayGoals", numberOrNull row.awayGoals), ("homeXg", numberOrNull row.homeXg),
    ("awayXg", numberOrNull row.awayXg), ("forecastHomeWin", numberOrNull row.forecastHomeWin),
    ("forecastDraw", numberOrNull row.forecastDraw),
    ("forecastAwayWin", numberOrNull row.forecastAwayWin), ("sourceHash", .string row.sourceHash),
    ("sourceCheckedAt", .date row.sourceCheckedAt), ("lastSeenAt", .date row.lastSeenAt)]

/-- `UnderstatTeamMatchStat`. -/
structure UnderstatTeamMatchStat where
  matchId : Decimal
  teamId : Decimal
  side : UnderstatTeamSide
  xg : Decimal
  xga : Decimal
  npxg : Decimal
  npxga : Decimal
  npxgd : Decimal
  ppdaAtt : Decimal
  ppdaDef : Decimal
  ppdaAllowedAtt : Decimal
  ppdaAllowedDef : Decimal
  deep : Decimal
  deepAllowed : Decimal
  scored : Decimal
  missed : Decimal
  xpoints : Decimal
  result : UnderstatTeamResult
  points : Decimal
  wins : Decimal
  draws : Decimal
  losses : Decimal
  sourceHash : String

/-- The fields of the statistics of a team in a match. -/
def UnderstatTeamMatchStat.fields (row : UnderstatTeamMatchStat) : Fields :=
  [("matchId", .number row.matchId), ("teamId", .number row.teamId),
    ("side", .string row.side.text), ("xg", .number row.xg), ("xga", .number row.xga),
    ("npxg", .number row.npxg), ("npxga", .number row.npxga), ("npxgd", .number row.npxgd),
    ("ppdaAtt", .number row.ppdaAtt), ("ppdaDef", .number row.ppdaDef),
    ("ppdaAllowedAtt", .number row.ppdaAllowedAtt), ("ppdaAllowedDef", .number row.ppdaAllowedDef),
    ("deep", .number row.deep), ("deepAllowed", .number row.deepAllowed),
    ("scored", .number row.scored), ("missed", .number row.missed),
    ("xpoints", .number row.xpoints), ("result", .string row.result.text),
    ("points", .number row.points), ("wins", .number row.wins), ("draws", .number row.draws),
    ("losses", .number row.losses), ("sourceHash", .string row.sourceHash)]

/-- `UnderstatTeamSeason`. -/
structure UnderstatTeamSeason where
  season : String
  teamId : Decimal
  sourceTitle : String
  sourceShortTitle : Option String
  games : Decimal
  wins : Decimal
  draws : Decimal
  losses : Decimal
  goalsFor : Decimal
  goalsAgainst : Decimal
  points : Decimal
  xg : Decimal
  xga : Decimal
  npxg : Decimal
  npxga : Decimal
  npxgd : Decimal
  xpoints : Decimal
  deep : Decimal
  deepAllowed : Decimal
  ppdaAtt : Decimal
  ppdaDef : Decimal
  ppdaAllowedAtt : Decimal
  ppdaAllowedDef : Decimal
  sourceHash : String
  lastSyncedAt : DateValue

/-- The fields of the season of a team. -/
def UnderstatTeamSeason.fields (row : UnderstatTeamSeason) : Fields :=
  [("season", .string row.season), ("teamId", .number row.teamId),
    ("sourceTitle", .string row.sourceTitle),
    ("sourceShortTitle", textOrNull row.sourceShortTitle), ("games", .number row.games),
    ("wins", .number row.wins), ("draws", .number row.draws), ("losses", .number row.losses),
    ("goalsFor", .number row.goalsFor), ("goalsAgainst", .number row.goalsAgainst),
    ("points", .number row.points), ("xg", .number row.xg), ("xga", .number row.xga),
    ("npxg", .number row.npxg), ("npxga", .number row.npxga), ("npxgd", .number row.npxgd),
    ("xpoints", .number row.xpoints), ("deep", .number row.deep),
    ("deepAllowed", .number row.deepAllowed), ("ppdaAtt", .number row.ppdaAtt),
    ("ppdaDef", .number row.ppdaDef), ("ppdaAllowedAtt", .number row.ppdaAllowedAtt),
    ("ppdaAllowedDef", .number row.ppdaAllowedDef), ("sourceHash", .string row.sourceHash),
    ("lastSyncedAt", .date row.lastSyncedAt)]

/-- `UnderstatTeamStatSplit`. -/
structure UnderstatTeamStatSplit where
  season : String
  teamId : Decimal
  dimension : UnderstatSplitDimension
  splitKey : String
  label : Option String
  timeMinutes : Option Decimal
  shotsFor : Decimal
  goalsFor : Decimal
  xgFor : Decimal
  shotsAgainst : Decimal
  goalsAgainst : Decimal
  xgAgainst : Decimal
  sourceHash : String

/-- The fields of a split of the statistics of a team. -/
def UnderstatTeamStatSplit.fields (row : UnderstatTeamStatSplit) : Fields :=
  [("season", .string row.season), ("teamId", .number row.teamId),
    ("dimension", .string row.dimension.text), ("splitKey", .string row.splitKey),
    ("label", textOrNull row.label), ("timeMinutes", numberOrNull row.timeMinutes),
    ("shotsFor", .number row.shotsFor), ("goalsFor", .number row.goalsFor),
    ("xgFor", .number row.xgFor), ("shotsAgainst", .number row.shotsAgainst),
    ("goalsAgainst", .number row.goalsAgainst), ("xgAgainst", .number row.xgAgainst),
    ("sourceHash", .string row.sourceHash)]

/-- `UnderstatPlayer`. -/
structure UnderstatPlayer where
  id : Decimal
  name : String
  favoritePosition : Option String
  firstSeenSeason : String
  lastSeenSeason : String
  sourceHash : String

/-- The fields of a player. -/
def UnderstatPlayer.fields (row : UnderstatPlayer) : Fields :=
  [("id", .number row.id), ("name", .string row.name),
    ("favoritePosition", textOrNull row.favoritePosition),
    ("firstSeenSeason", .string row.firstSeenSeason),
    ("lastSeenSeason", .string row.lastSeenSeason), ("sourceHash", .string row.sourceHash)]

/-- `UnderstatPlayerStats`. -/
structure UnderstatPlayerStats where
  games : Decimal
  time : Decimal
  goals : Decimal
  npg : Decimal
  assists : Decimal
  shots : Decimal
  keyPasses : Decimal
  yellowCards : Decimal
  redCards : Decimal
  xg : Decimal
  npxg : Decimal
  xa : Decimal
  xgChain : Decimal
  xgBuildup : Decimal
  position : String

/-- The fields of the statistics of a player. -/
def UnderstatPlayerStats.fields (row : UnderstatPlayerStats) : Fields :=
  [("games", .number row.games), ("time", .number row.time), ("goals", .number row.goals),
    ("npg", .number row.npg), ("assists", .number row.assists), ("shots", .number row.shots),
    ("keyPasses", .number row.keyPasses), ("yellowCards", .number row.yellowCards),
    ("redCards", .number row.redCards), ("xg", .number row.xg), ("npxg", .number row.npxg),
    ("xa", .number row.xa), ("xgChain", .number row.xgChain), ("xgBuildup", .number row.xgBuildup),
    ("position", .string row.position)]

/-- `UnderstatPlayerSeason`. -/
structure UnderstatPlayerSeason extends UnderstatPlayerStats where
  season : String
  playerId : Decimal
  sourceName : String
  sourceTeamTitle : String
  sourceHash : String

/-- The fields of the season of a player. -/
def UnderstatPlayerSeason.fields (row : UnderstatPlayerSeason) : Fields :=
  [("season", .string row.season), ("playerId", .number row.playerId),
    ("sourceName", .string row.sourceName), ("sourceTeamTitle", .string row.sourceTeamTitle)] ++
    row.toUnderstatPlayerStats.fields ++ [("sourceHash", .string row.sourceHash)]

/-- `UnderstatPlayerTeamSeason`. -/
structure UnderstatPlayerTeamSeason extends UnderstatPlayerStats where
  season : String
  playerId : Decimal
  teamId : Decimal
  sourceHash : String

/-- The fields of the season of a player in a team. -/
def UnderstatPlayerTeamSeason.fields (row : UnderstatPlayerTeamSeason) : Fields :=
  [("season", .string row.season), ("playerId", .number row.playerId),
    ("teamId", .number row.teamId)] ++ row.toUnderstatPlayerStats.fields ++
    [("sourceHash", .string row.sourceHash)]

/-- `UnderstatPlayerMatchStat`. -/
structure UnderstatPlayerMatchStat where
  rosterId : Decimal
  matchId : Decimal
  playerId : Decimal
  teamId : Decimal
  playerName : String
  side : UnderstatTeamSide
  position : String
  positionOrder : Decimal
  minutes : Decimal
  started : Bool
  goals : Decimal
  ownGoals : Decimal
  shots : Decimal
  keyPasses : Decimal
  assists : Decimal
  yellowCards : Decimal
  redCards : Decimal
  xg : Decimal
  xa : Decimal
  xgChain : Decimal
  xgBuildup : Decimal
  rosterInId : Option Decimal
  rosterOutId : Option Decimal
  sourceHash : String

/-- The fields of the statistics of a player in a match. -/
def UnderstatPlayerMatchStat.fields (row : UnderstatPlayerMatchStat) : Fields :=
  [("rosterId", .number row.rosterId), ("matchId", .number row.matchId),
    ("playerId", .number row.playerId), ("teamId", .number row.teamId),
    ("playerName", .string row.playerName), ("side", .string row.side.text),
    ("position", .string row.position), ("positionOrder", .number row.positionOrder),
    ("minutes", .number row.minutes), ("started", .bool row.started), ("goals", .number row.goals),
    ("ownGoals", .number row.ownGoals), ("shots", .number row.shots),
    ("keyPasses", .number row.keyPasses), ("assists", .number row.assists),
    ("yellowCards", .number row.yellowCards), ("redCards", .number row.redCards),
    ("xg", .number row.xg), ("xa", .number row.xa), ("xgChain", .number row.xgChain),
    ("xgBuildup", .number row.xgBuildup), ("rosterInId", numberOrNull row.rosterInId),
    ("rosterOutId", numberOrNull row.rosterOutId), ("sourceHash", .string row.sourceHash)]

/-- The objects of rows. -/
def rowObjects {Row : Type} (fields : Row → Fields) (rows : List Row) : JsValue :=
  .array (rows.map fun row => .object (fields row))

/-- `UnderstatTeamDiscovery`. -/
structure UnderstatTeamDiscovery where
  season : UnderstatSeason
  teams : List UnderstatTeam
  «matches» : List UnderstatMatch
  teamMatchStats : List UnderstatTeamMatchStat
  teamSeasons : List UnderstatTeamSeason

/-- The fields of what is discovered of teams. -/
def UnderstatTeamDiscovery.fields (discovery : UnderstatTeamDiscovery) : Fields :=
  [("season", .object discovery.season.fields),
    ("teams", rowObjects UnderstatTeam.fields discovery.teams),
    ("matches", rowObjects UnderstatMatch.fields discovery.matches),
    ("teamMatchStats", rowObjects UnderstatTeamMatchStat.fields discovery.teamMatchStats),
    ("teamSeasons", rowObjects UnderstatTeamSeason.fields discovery.teamSeasons)]

/-- `UnderstatPlayerDiscovery`. -/
structure UnderstatPlayerDiscovery where
  season : UnderstatSeason
  teams : List UnderstatTeam
  «matches» : List UnderstatMatch
  players : List UnderstatPlayer
  playerSeasons : List UnderstatPlayerSeason

/-- The fields of what is discovered of players. -/
def UnderstatPlayerDiscovery.fields (discovery : UnderstatPlayerDiscovery) : Fields :=
  [("season", .object discovery.season.fields),
    ("teams", rowObjects UnderstatTeam.fields discovery.teams),
    ("matches", rowObjects UnderstatMatch.fields discovery.matches),
    ("players", rowObjects UnderstatPlayer.fields discovery.players),
    ("playerSeasons", rowObjects UnderstatPlayerSeason.fields discovery.playerSeasons)]

/-! ### Shapes -/

/-- A flag is a scalar. -/
@[simp] theorem isScalar_bool (value : Bool) : isScalar (.bool value) = true := rfl

/-- A number is a scalar. -/
@[simp] theorem isScalar_number (value : Decimal) : isScalar (.number value) = true := rfl

/-- A text is a scalar. -/
@[simp] theorem isScalar_string (value : String) : isScalar (.string value) = true := rfl

/-- A text or null is a scalar. -/
@[simp] theorem isScalar_textOrNull (text : Option String) : isScalar (textOrNull text) = true := by
  cases text <;> rfl

/-- A number or null is a scalar. -/
@[simp] theorem isScalar_numberOrNull (number : Option Decimal) :
    isScalar (numberOrNull number) = true := by cases number <;> rfl

/-- Seasons are flat but for when they were first and last seen. -/
theorem UnderstatSeason.flat (row : UnderstatSeason) :
    FlatRecord ["firstSeenAt", "lastSeenAt"] row.fields := by
  constructor <;> simp [fields]

/-- Teams are flat. -/
theorem UnderstatTeam.flat (row : UnderstatTeam) : FlatRecord [] row.fields := by
  constructor <;> simp [fields]

/-- Matches are flat but for their three dates. -/
theorem UnderstatMatch.flat (row : UnderstatMatch) :
    FlatRecord ["kickoffAt", "sourceCheckedAt", "lastSeenAt"] row.fields := by
  constructor <;> simp [fields]

/-- The statistics of teams in matches are flat. -/
theorem UnderstatTeamMatchStat.flat (row : UnderstatTeamMatchStat) : FlatRecord [] row.fields := by
  constructor <;> simp [fields]

/-- The seasons of teams are flat but for when they were synchronised. -/
theorem UnderstatTeamSeason.flat (row : UnderstatTeamSeason) :
    FlatRecord ["lastSyncedAt"] row.fields := by
  constructor <;> simp [fields]

/-- Splits are flat. -/
theorem UnderstatTeamStatSplit.flat (row : UnderstatTeamStatSplit) : FlatRecord [] row.fields := by
  constructor <;> simp [fields]

/-- Players are flat. -/
theorem UnderstatPlayer.flat (row : UnderstatPlayer) : FlatRecord [] row.fields := by
  constructor <;> simp [fields]

/-- The seasons of players are flat. -/
theorem UnderstatPlayerSeason.flat (row : UnderstatPlayerSeason) : FlatRecord [] row.fields := by
  constructor <;> simp [fields, UnderstatPlayerStats.fields]

/-- The seasons of players in teams are flat. -/
theorem UnderstatPlayerTeamSeason.flat (row : UnderstatPlayerTeamSeason) :
    FlatRecord [] row.fields := by
  constructor <;> simp [fields, UnderstatPlayerStats.fields]

/-- The statistics of players in matches are flat. -/
theorem UnderstatPlayerMatchStat.flat (row : UnderstatPlayerMatchStat) :
    FlatRecord [] row.fields := by
  constructor <;> simp [fields]

end LetletmeData.Understat
