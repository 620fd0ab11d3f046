import Mathlib.Algebra.Order.Ring.Int
import Mathlib.Data.List.Dedup
import Mathlib.Data.List.Sort

/-!
# Setup issues

What a setup, a repair or an audit reports about a tournament, and the key under which a report is
stored. Instants are counted in milliseconds.
-/

namespace LetletmeData

/-- `TOURNAMENT_SETUP_ISSUE_CODES`. -/
inductive TournamentSetupIssueCode where
  | entryProfileIncomplete
  | entryHistoryIncomplete
  | leagueInsightsIncomplete
  | selectionInsightsIncomplete
  | tournamentResultsIncomplete
  | structureIntegrityFailed
  deriving DecidableEq

/-- The text of a code. -/
def TournamentSetupIssueCode.text : TournamentSetupIssueCode → String
  | .entryProfileIncomplete => "ENTRY_PROFILE_INCOMPLETE"
  | .entryHistoryIncomplete => "ENTRY_HISTORY_INCOMPLETE"
  | .leagueInsightsIncomplete => "LEAGUE_INSIGHTS_INCOMPLETE"
  | .selectionInsightsIncomplete => "SELECTION_INSIGHTS_INCOMPLETE"
  | .tournamentResultsIncomplete => "TOURNAMENT_RESULTS_INCOMPLETE"
  | .structureIntegrityFailed => "STRUCTURE_INTEGRITY_FAILED"

/-- `TournamentSetupIssueCategory`. -/
inductive TournamentSetupIssueCategory where
  | profiles
  | insights
  | results
  deriving DecidableEq

/-- `TournamentSetupIssueSeverity`. -/
inductive TournamentSetupIssueSeverity where
  | warning
  | blocking
  deriving DecidableEq

/-- `setupIssueKey`. -/
def setupIssueKey (code : TournamentSetupIssueCode) (eventId : Option ℕ) : String :=
  code.text ++ ":" ++ eventId.elim "all" toString

/-- `dedupeSetupIssueEntries`. -/
def dedupeSetupIssueEntries (ids : List ℤ) : List ℤ :=
  ((ids.filter (0 < ·)).dedup).insertionSort (· ≤ ·)

/-- Deduplication keeps the entries that can be ids. -/
@[simp] theorem mem_dedupeSetupIssueEntries {ids : List ℤ} {entryId : ℤ} :
    entryId ∈ dedupeSetupIssueEntries ids ↔ entryId ∈ ids ∧ 0 < entryId := by
  simp [dedupeSetupIssueEntries]

/-- `TournamentSetupIssueInput`. Every caller takes the key from `setupIssueKey`. -/
structure TournamentSetupIssueInput where
  code : TournamentSetupIssueCode
  category : TournamentSetupIssueCategory
  severity : TournamentSetupIssueSeverity
  eventId : Option ℕ
  affectedEntryIds : List ℤ
  diagnosticCode : Option String
  internalMessage : Option String
  nextRepairAt : Option ℕ
  deriving DecidableEq

/-- The key of an issue. -/
def TournamentSetupIssueInput.issueKey (issue : TournamentSetupIssueInput) : String :=
  setupIssueKey issue.code issue.eventId

/-! ### Issues as the services report them -/

/-- `TournamentSetupIssueScope`. -/
inductive TournamentSetupIssueScope where
  | entryInfo
  | eventResults
  | leagueEventResults
  | selectionInsights
  | pointsRace
  | battleRace
  | knockout
  deriving DecidableEq

/-- The code of `issueDefaults`. -/
def TournamentSetupIssueScope.code : TournamentSetupIssueScope → TournamentSetupIssueCode
  | .entryInfo => .entryProfileIncomplete
  | .leagueEventResults => .leagueInsightsIncomplete
  | .selectionInsights => .selectionInsightsIncomplete
  | .eventResults | .pointsRace | .battleRace | .knockout => .tournamentResultsIncomplete

/-- The category of `issueDefaults`. -/
def TournamentSetupIssueScope.category : TournamentSetupIssueScope → TournamentSetupIssueCategory
  | .entryInfo => .profiles
  | .leagueEventResults | .selectionInsights => .insights
  | .eventResults | .pointsRace | .battleRace | .knockout => .results

/-- `TournamentSetupIssue`. No service gives it a key or an instant of repair. -/
structure TournamentSetupIssue where
  scope : TournamentSetupIssueScope
  message : String
  eventId : Option ℕ := none
  failedEntries : List ℤ := []
  blocksStandings : Bool := false
  code : Option TournamentSetupIssueCode := none
  category : Option TournamentSetupIssueCategory := none
  severity : Option TournamentSetupIssueSeverity := none
  diagnosticCode : Option String := none
  deriving DecidableEq

/-- `normalizeTournamentSetupIssue`. -/
def normalizeTournamentSetupIssue (now : ℕ) (issue : TournamentSetupIssue) :
    TournamentSetupIssueInput where
  code := issue.code.getD issue.scope.code
  category := issue.category.getD issue.scope.category
  severity := issue.severity.getD (if issue.blocksStandings then .blocking else .warning)
  eventId := issue.eventId
  affectedEntryIds := issue.failedEntries
  diagnosticCode := issue.diagnosticCode
  internalMessage := some issue.message
  nextRepairAt := some (now + 5 * 60000)

end LetletmeData
