import LetletmeData.Domain.TournamentSetupIssue
import LetletmeData.Services.TournamentSetup

/-!
# The audit of a tournament

What the audit of a setup finds in the rows it reads, and the setup issues made of its findings. A
finding keeps its data beside its text, so that the later reading of the text is a function of it.
-/

namespace LetletmeData

/-- The configuration of a tournament with what decides whether its source schedules it. -/
structure TournamentSetupConfig where
  tournament : TournamentConfig
  leagueType : Option LeagueType
  rosterMode : Option RosterMode

/-- `isOfficialH2HTournament`. -/
def TournamentSetupConfig.isOfficialH2HTournament (config : TournamentSetupConfig) : Bool :=
  config.leagueType = some .h2h && config.rosterMode = some .officialSync &&
    config.tournament.groupMode = .battleRaces

/-- What the queries of an audit return: the entries, which of them have their rows, the slots of
the groups, and how many rows of results there are. -/
structure TournamentAuditReads where
  entryIds : List ℤ
  hasEntryInfo : ℤ → Bool
  hasEntryLeagueInfo : ℤ → Bool
  groupSlots : List (ℕ × ℕ)
  knockoutMatches : ℕ
  knockoutResults : ℕ
  entryResults : ℕ → ℕ
  pointsGroupResults : ℕ → ℕ
  eventKnockoutResults : ℕ → ℕ
  invalidKnockoutResults : ℕ → ℕ

/-- A finding of an audit. -/
inductive TournamentAuditIssue where
  | entriesCount (count totalTeamNum : ℕ)
  | missingEntryInfos (count : ℕ)
  | missingEntryLeagueInfos (count : ℕ)
  | groupsCount (count participants : ℕ)
  | invalidGroupIndex (groupId : ℕ)
  | knockoutMismatch (matchCount expectedMatches results expectedResults : ℕ)
  | missingEventResults (eventId : ℕ)
  | missingPointsGroupResults (eventId : ℕ)
  | invalidKnockoutResults (eventId : ℕ)
  deriving DecidableEq

namespace TournamentAuditIssue

/-- The text of a finding. -/
def message : TournamentAuditIssue → String
  | .entriesCount count totalTeamNum =>
    s!"tournament_entries count {count} does not match total_team_num {totalTeamNum}"
  | .missingEntryInfos count => s!"missing entry_infos for {count} entries"
  | .missingEntryLeagueInfos count => s!"missing entry_league_infos for {count} entries"
  | .groupsCount count participants =>
    s!"tournament_groups count {count} does not match participant count {participants}"
  | .invalidGroupIndex groupId => s!"invalid group_index sequence in group {groupId}"
  | .knockoutMismatch matchCount expectedMatches results expectedResults =>
    s!"knockout structure mismatch: matches {matchCount}/{expectedMatches}, results {results}/{expectedResults}"
  | .missingEventResults eventId => s!"missing entry_event_results rows for event {eventId}"
  | .missingPointsGroupResults eventId =>
    s!"missing tournament_points_group_results rows for event {eventId}"
  | .invalidKnockoutResults eventId =>
    s!"invalid tournament_knockout_results rows for event {eventId}"

/-- The number after `event` in the text. -/
def eventId : TournamentAuditIssue → Option ℕ
  | .missingEventResults eventId | .missingPointsGroupResults eventId
  | .invalidKnockoutResults eventId => some eventId
  | _ => none

/-- The text begins as that of a profile issue. -/
def isProfileIssue : TournamentAuditIssue → Bool
  | .missingEntryInfos _ | .missingEntryLeagueInfos _ => true
  | _ => false

/-- The text begins as that of an issue of the structure. -/
def blocksStandings : TournamentAuditIssue → Bool
  | .entriesCount _ _ | .groupsCount _ _ | .invalidGroupIndex _ | .knockoutMismatch _ _ _ _ => true
  | _ => false

/-- `isBlockingCoreAuditIssue`. -/
def isBlockingCoreAuditIssue : TournamentAuditIssue → Bool
  | .missingEntryLeagueInfos _ => false
  | _ => true

end TournamentAuditIssue

/-- `TournamentAuditResult`, as far as it becomes setup issues. -/
structure TournamentAuditResult where
  issues : List TournamentAuditIssue
  missingEntryInfoIds : List ℤ
  missingEntryLeagueInfoIds : List ℤ

namespace TournamentAuditReads

variable (config : TournamentSetupConfig) (reads : TournamentAuditReads)

/-- The findings about the slots of the groups: of the groups with a gap, the first is reported. -/
def groupIssues : List TournamentAuditIssue :=
  if config.tournament.groupMode = .noGroup then []
  else if reads.groupSlots.length ≠ reads.entryIds.length then
    [.groupsCount reads.groupSlots.length reads.entryIds.length]
  else
    let invalid := (reads.groupSlots.map Prod.fst).eraseDups.find? fun groupId =>
      let slots := (reads.groupSlots.filter fun slot => slot.1 = groupId).map Prod.snd
      slots.insertionSort (· ≤ ·) ≠ List.range' 1 slots.length
    invalid.toList.map .invalidGroupIndex

/-- The findings about the bracket. -/
def knockoutIssues : List TournamentAuditIssue :=
  if config.tournament.knockoutMode = .noKnockout ∨ config.isOfficialH2HTournament then []
  else
    let expected := buildKnockoutRows config.tournament none
    if reads.knockoutMatches ≠ expected.matchRows.length ∨
        reads.knockoutResults ≠ expected.resultRows.length then
      [.knockoutMismatch reads.knockoutMatches expected.matchRows.length reads.knockoutResults
        expected.resultRows.length]
    else []

/-- The findings about the results of the events of a window. -/
def resultIssues (window : TournamentBackfillWindow) : List TournamentAuditIssue :=
  let tournament := config.tournament
  let groupEvents := window.eventIds.filter
    (inPhase tournament.groupStartedEventId tournament.groupEndedEventId)
  let knockoutEvents := window.eventIds.filter
    (inPhase tournament.knockoutStartedEventId tournament.knockoutEndedEventId)
  let expected := (buildKnockoutRows tournament none).resultRows
  ((window.eventIds.filter fun eventId => reads.entryResults eventId < reads.entryIds.length).map
      .missingEventResults) ++
    (if tournament.groupMode = .pointsRaces then
      (groupEvents.filter fun eventId =>
        reads.pointsGroupResults eventId < reads.entryIds.length).map .missingPointsGroupResults
    else []) ++
    if tournament.knockoutMode ≠ .noKnockout ∧ ¬ config.isOfficialH2HTournament then
      (knockoutEvents.filter fun eventId =>
        reads.eventKnockoutResults eventId ≠ expected.countP (·.eventId = eventId) ∨
          0 < reads.invalidKnockoutResults eventId).map .invalidKnockoutResults
    else []

/-- The window whose results an audit looks at. -/
def auditedWindow (window : Option TournamentBackfillWindow) : Option TournamentBackfillWindow :=
  if reads.entryIds = [] then none else window

end TournamentAuditReads

/-- `auditTournamentSetup`. -/
def auditTournamentSetup (config : TournamentSetupConfig)
    (window : Option TournamentBackfillWindow) (reads : TournamentAuditReads) :
    TournamentAuditResult :=
  let missingEntryInfoIds := reads.entryIds.filter fun entryId => !reads.hasEntryInfo entryId
  let missingEntryLeagueInfoIds :=
    reads.entryIds.filter fun entryId => !reads.hasEntryLeagueInfo entryId
  { issues :=
      (if reads.entryIds.length ≠ config.tournament.totalTeamNum then
        [.entriesCount reads.entryIds.length config.tournament.totalTeamNum] else []) ++
      (if missingEntryInfoIds ≠ [] then [.missingEntryInfos missingEntryInfoIds.length] else []) ++
      (if missingEntryLeagueInfoIds ≠ [] then
        [.missingEntryLeagueInfos missingEntryLeagueInfoIds.length] else []) ++
      reads.groupIssues config ++ reads.knockoutIssues config ++
      (reads.auditedWindow window).elim [] (reads.resultIssues config)
    missingEntryInfoIds
    missingEntryLeagueInfoIds }

/-- `tournamentSetupIssueFromAuditMessage`. -/
def tournamentSetupIssueFromAuditMessage (issue : TournamentAuditIssue)
    (affectedEntryIds : List ℤ) : TournamentSetupIssue where
  scope := if issue.isProfileIssue then .entryInfo else .eventResults
  message := issue.message
  eventId := issue.eventId
  failedEntries := affectedEntryIds
  blocksStandings := issue.blocksStandings
  code := some (if issue.isProfileIssue then .entryProfileIncomplete
    else if issue.blocksStandings then .structureIntegrityFailed else .tournamentResultsIncomplete)
  category := some (if issue.isProfileIssue then .profiles else .results)
  severity := some (if issue.blocksStandings then .blocking else .warning)

/-- The issues every caller makes of an audit. -/
def TournamentAuditResult.setupIssues (audit : TournamentAuditResult) (entryIds : List ℤ) :
    List TournamentSetupIssue :=
  audit.issues.map fun issue => tournamentSetupIssueFromAuditMessage issue <|
    match issue with
    | .missingEntryLeagueInfos _ => audit.missingEntryLeagueInfoIds
    | .missingEntryInfos _ => audit.missingEntryInfoIds
    | _ => entryIds

end LetletmeData
