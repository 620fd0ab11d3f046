import Mathlib.Data.Int.Notation
import LetletmeData.Library.JavaScript
import LetletmeData.Domain.Tournament

/-!
# Planning a tournament

The checks of `planTournamentStructure` and the plan it returns. The payload has passed
`tournamentCreateInputSchema`, so a numeric text is empty or digits without a leading zero,
and the source configuration has passed the league client, so a start event is positive.
-/

namespace LetletmeData

open LetletmeData.Library

/-- The two kinds of league a tournament is drawn from. -/
inductive LeagueType where
  | classic
  | h2h
  deriving DecidableEq

/-- Whether the roster follows its league. -/
inductive RosterMode where
  | snapshot
  | officialSync
  deriving DecidableEq

/-- Where the participants come from. -/
inductive ParticipantSource where
  | official
  | custom
  deriving DecidableEq

/-- The requested group phase. -/
inductive GroupFormat where
  | none
  | points
  deriving DecidableEq

/-- The requested knockout phase. -/
inductive KnockoutFormat where
  | none
  | single
  | double
  deriving DecidableEq

/-- `groupModeMap`. -/
def GroupFormat.groupMode : GroupFormat → GroupMode
  | none => .noGroup
  | points => .pointsRaces

/-- `knockoutModeMap`. -/
def KnockoutFormat.knockoutMode : KnockoutFormat → KnockoutMode
  | none => .noKnockout
  | single => .singleElimination
  | double => .doubleElimination

/-- A member of the league. The id is the text of a positive integer. -/
structure TournamentParticipant where
  id : String
  team : String
  manager : String
  overallRank : ℕ
  totalPoints : ℕ
  deriving DecidableEq

/-! ## Texts -/

/-- `optionalPositiveIntegerStringSchema`. -/
def isOptionalPositiveIntegerText (text : String) : Bool :=
  match text.toList with
  | [] => true
  | head :: rest => head != '0' && (head :: rest).all Char.isDigit

/-- A positive count, or nothing. Counts are exact up to the safe integers. -/
def toOptionalPositiveInteger (value : Option String) : Option ℕ :=
  value.bind fun text =>
    if (trimText text).isEmpty then none
    else
      let parsed := decimalValue text.toList
      if parsed = 0 ∨ infinityThreshold ≤ parsed then none else some parsed

/-- The gameweek of a text `GW1` to `GW38`, in either letter case. -/
def parseGameweek (value : String) : Option ℕ :=
  match value.toList with
  | g :: w :: digits =>
    if g.toLower = 'g' ∧ w.toLower = 'w' ∧ digits.all Char.isDigit ∧
        (digits.length = 1 ∨ digits.length = 2) then
      let parsed := decimalValue digits
      if 1 ≤ parsed ∧ parsed ≤ 38 then some parsed else none
    else none
  | _ => none

/-! ## The plan -/

/-- The validated request to create a tournament. -/
structure TournamentCreateInput where
  tournamentName : String
  adminId : String
  creator : String
  platformAdmin : Option Bool
  participantSource : ParticipantSource
  groupFormat : GroupFormat
  startGameweek : String
  endGameweek : String
  groupNum : Option String
  qualifiersPerGroup : Option String
  knockoutFormat : KnockoutFormat
  adminId_digits : adminId.toList ≠ [] ∧ adminId.toList.all Char.isDigit
  groupNum_valid : ∀ text ∈ groupNum, isOptionalPositiveIntegerText text
  qualifiersPerGroup_valid : ∀ text ∈ qualifiersPerGroup, isOptionalPositiveIntegerText text

/-- The league's own schedule. -/
structure SourceConfig where
  startEventId : Option ℕ
  knockoutRounds : Option ℤ
  startEventId_positive : ∀ eventId ∈ startEventId, 1 ≤ eventId

/-- The structure of a tournament to be created. -/
structure TournamentStructurePlan where
  leagueId : ℕ
  leagueType : LeagueType
  sourceLeagueName : Option String
  rosterMode : RosterMode
  tournamentName : String
  creator : String
  adminEntryId : ℕ
  selectedParticipants : List TournamentParticipant
  groupMode : GroupMode
  groupTeamNum : ℕ
  groupNum : ℕ
  groupAutoAverages : Bool
  groupStartedEventId : ℕ
  groupEndedEventId : ℕ
  groupRounds : ℕ
  groupQualifyNum : Option ℕ
  knockoutMode : KnockoutMode
  knockoutTeamNum : Option ℕ
  knockoutEventNum : Option ℕ
  knockoutRounds : Option ℕ
  knockoutStartedEventId : Option ℕ
  knockoutEndedEventId : Option ℕ
  knockoutPlayAgainstNum : Option ℕ
  deriving DecidableEq

/-- A rejected request: its message and its code. -/
structure ValidationError where
  message : String
  code : String
  deriving DecidableEq

/-- The plan of an official head-to-head league: the league's schedule up to its knockout
rounds, which end the season. -/
def planOfficialH2H (payload : TournamentCreateInput)
    (selectedParticipants : List TournamentParticipant) (leagueId : ℕ) (leagueType : LeagueType)
    (sourceLeagueName : Option String) (sourceConfig : Option SourceConfig)
    (groupStartedEventId : ℕ) : Except ValidationError TournamentStructurePlan :=
  let officialStartEventId :=
    (sourceConfig.bind SourceConfig.startEventId).getD groupStartedEventId
  let officialKnockoutRounds :=
    ((sourceConfig.bind SourceConfig.knockoutRounds).getD 0).toNat
  if (officialStartEventId : ℤ) > 38 - officialKnockoutRounds then
    .error ⟨"Official H2H league schedule window is invalid.", "TOURNAMENT_H2H_WINDOW_INVALID"⟩
  else
    let officialGroupEndedEventId := 38 - officialKnockoutRounds
    let whenKnockout := fun value : ℕ => if 0 < officialKnockoutRounds then some value else none
    .ok
      { leagueId := leagueId
        leagueType := leagueType
        sourceLeagueName := sourceLeagueName
        rosterMode := .officialSync
        tournamentName := trimText payload.tournamentName
        creator := trimText payload.creator
        adminEntryId := decimalValue payload.adminId.toList
        selectedParticipants := selectedParticipants
        groupMode := .battleRaces
        groupTeamNum := selectedParticipants.length
        groupNum := 1
        groupAutoAverages := selectedParticipants.length % 2 = 1
        groupStartedEventId := officialStartEventId
        groupEndedEventId := officialGroupEndedEventId
        groupRounds := officialGroupEndedEventId - officialStartEventId + 1
        groupQualifyNum := none
        knockoutMode := if 0 < officialKnockoutRounds then .headToHead else .noKnockout
        knockoutTeamNum := whenKnockout (2 ^ officialKnockoutRounds)
        knockoutEventNum := whenKnockout officialKnockoutRounds
        knockoutRounds := whenKnockout officialKnockoutRounds
        knockoutStartedEventId := whenKnockout (officialGroupEndedEventId + 1)
        knockoutEndedEventId := whenKnockout 38
        knockoutPlayAgainstNum := whenKnockout 1 }

/-- The legs of each match. -/
def KnockoutFormat.playAgainstNum : KnockoutFormat → Option ℕ
  | none => .none
  | single => some 1
  | double => some 2

/-- The events of a knockout with the given rounds. -/
def KnockoutFormat.knockoutRounds (knockoutEventNum : Option ℕ) : KnockoutFormat → Option ℕ
  | none => .none
  | double => some (knockoutEventNum.getD 0 * 2)
  | single => knockoutEventNum

/-- The last event of a knockout, absent when its start or its length is. -/
def KnockoutFormat.knockoutEndedEventId (knockoutStartedEventId knockoutRounds : Option ℕ)
    (knockoutFormat : KnockoutFormat) : Option ℕ :=
  if knockoutFormat = .none ∨ knockoutStartedEventId.getD 0 = 0 ∨ knockoutRounds.getD 0 = 0 then
    .none
  else some (knockoutStartedEventId.getD 0 + (knockoutRounds.getD 0 - 1))

/-- The plan of a group phase, a knockout phase or both. -/
def planPhases (payload : TournamentCreateInput)
    (selectedParticipants : List TournamentParticipant) (leagueId : ℕ) (leagueType : LeagueType)
    (sourceLeagueName : Option String) (groupStartedEventId groupEndedEventId : ℕ) :
    Except ValidationError TournamentStructurePlan :=
  let groupNum := (toOptionalPositiveInteger payload.groupNum).getD 1
  let qualifiersPerGroup := toOptionalPositiveInteger payload.qualifiersPerGroup
  let groupRounds := groupEndedEventId + 1 - groupStartedEventId
  let groupTeamNum :=
    if payload.groupFormat = .points then (selectedParticipants.length + groupNum - 1) / groupNum
    else selectedParticipants.length
  let knockoutTeamNum :=
    if payload.knockoutFormat = .none then none
    else if payload.groupFormat = .points then some (groupNum * qualifiersPerGroup.getD 0)
    else some selectedParticipants.length
  let knockoutEventNum := knockoutTeamNum.bind fun teamNum =>
    if 2 ≤ teamNum then some (Nat.clog 2 teamNum) else none
  let knockoutRounds := payload.knockoutFormat.knockoutRounds knockoutEventNum
  let knockoutStartedEventId :=
    if payload.knockoutFormat = .none then none
    else if payload.groupFormat = .none then some groupStartedEventId
    else some (groupEndedEventId + 1)
  let knockoutEndedEventId :=
    payload.knockoutFormat.knockoutEndedEventId knockoutStartedEventId knockoutRounds
  if payload.groupFormat ≠ .none ∧ payload.knockoutFormat ≠ .none ∧
      qualifiersPerGroup.getD 0 = 0 then
    .error ⟨"Group number and qualifiers per group are required for a group phase.",
      "TOURNAMENT_QUALIFIERS_REQUIRED"⟩
  else if payload.groupFormat = .points ∧ payload.knockoutFormat ≠ .none ∧
      groupNum * qualifiersPerGroup.getD 0 > selectedParticipants.length then
    .error ⟨"Group qualify total cannot exceed the total selected entries.",
      "TOURNAMENT_QUALIFY_TOTAL_EXCEEDS"⟩
  else if payload.knockoutFormat ≠ .none ∧
      (knockoutTeamNum.getD 0 < 2 ∨ knockoutEventNum.getD 0 = 0) then
    .error ⟨"Knockout stage settings are incomplete or invalid.", "TOURNAMENT_KNOCKOUT_INVALID"⟩
  else if payload.knockoutFormat ≠ .none ∧
      (knockoutEndedEventId.getD 0 = 0 ∨ knockoutEndedEventId.getD 0 > 38) then
    .error ⟨"Knockout phase exceeds GW38.", "TOURNAMENT_KNOCKOUT_EXCEEDS_GW38"⟩
  else
    .ok
      { leagueId := leagueId
        leagueType := leagueType
        sourceLeagueName := sourceLeagueName
        rosterMode :=
          if payload.participantSource = .official ∧ leagueType = .classic ∧
              payload.groupFormat = .points ∧ groupNum = 1 ∧ payload.knockoutFormat = .none then
            .officialSync
          else .snapshot
        tournamentName := trimText payload.tournamentName
        creator := trimText payload.creator
        adminEntryId := decimalValue payload.adminId.toList
        selectedParticipants := selectedParticipants
        groupMode := payload.groupFormat.groupMode
        groupTeamNum := groupTeamNum
        groupNum := if payload.groupFormat = .none then 1 else groupNum
        groupAutoAverages := false
        groupStartedEventId := groupStartedEventId
        groupEndedEventId := groupEndedEventId
        groupRounds := groupRounds
        groupQualifyNum := if payload.groupFormat = .none then none else qualifiersPerGroup
        knockoutMode := payload.knockoutFormat.knockoutMode
        knockoutTeamNum := knockoutTeamNum
        knockoutEventNum := knockoutEventNum
        knockoutRounds := knockoutRounds
        knockoutStartedEventId := knockoutStartedEventId
        knockoutEndedEventId := knockoutEndedEventId
        knockoutPlayAgainstNum := payload.knockoutFormat.playAgainstNum }

/-- Check the request and plan its tournament. -/
def planTournamentStructure (payload : TournamentCreateInput)
    (selectedParticipants : List TournamentParticipant) (leagueId : ℕ) (leagueType : LeagueType)
    (sourceLeagueName : Option String) (sourceConfig : Option SourceConfig) :
    Except ValidationError TournamentStructurePlan :=
  if selectedParticipants.length < 2 then
    .error ⟨"Tournament requires at least 2 selected participants.",
      "TOURNAMENT_PARTICIPANTS_TOO_FEW"⟩
  else if payload.platformAdmin ≠ some true ∧ ∀ participant ∈ selectedParticipants,
      decimalValue participant.id.toList ≠ decimalValue payload.adminId.toList then
    .error ⟨"Admin ID must be included in the tournament participant set.",
      "TOURNAMENT_ADMIN_NOT_PARTICIPANT"⟩
  else
    match parseGameweek payload.startGameweek, parseGameweek payload.endGameweek with
    | some groupStartedEventId, some groupEndedEventId =>
      if groupStartedEventId > groupEndedEventId then
        .error ⟨"Group stage gameweeks are invalid.", "TOURNAMENT_GROUP_GAMEWEEKS_INVALID"⟩
      else if payload.participantSource = .official ∧ leagueType = .h2h then
        planOfficialH2H payload selectedParticipants leagueId leagueType sourceLeagueName
          sourceConfig groupStartedEventId
      else
        planPhases payload selectedParticipants leagueId leagueType sourceLeagueName
          groupStartedEventId groupEndedEventId
    | _, _ => .error ⟨"Group stage gameweeks are invalid.", "TOURNAMENT_GROUP_GAMEWEEKS_INVALID"⟩

/-- The configuration that is stored for a plan and read back by the builders. -/
def TournamentStructurePlan.config (plan : TournamentStructurePlan) (id : ℕ) : TournamentConfig :=
  { id := id
    totalTeamNum := plan.selectedParticipants.length
    groupMode := plan.groupMode
    groupNum := some plan.groupNum
    groupStartedEventId := some plan.groupStartedEventId
    groupEndedEventId := some plan.groupEndedEventId
    groupQualifyNum := plan.groupQualifyNum
    knockoutMode := plan.knockoutMode
    knockoutTeamNum := plan.knockoutTeamNum
    knockoutEventNum := plan.knockoutEventNum
    knockoutStartedEventId := plan.knockoutStartedEventId
    knockoutEndedEventId := plan.knockoutEndedEventId
    knockoutPlayAgainstNum := plan.knockoutPlayAgainstNum }

end LetletmeData
