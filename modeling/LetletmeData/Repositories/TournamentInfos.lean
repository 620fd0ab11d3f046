import Mathlib.Order.Lattice
import LetletmeData.Domain.TournamentPlan

/-!
# The setup columns of a tournament

The statements that move a tournament through its setup: those of the tournament repository and,
of the roster repository, the two that a setup job runs itself. Instants are counted in
milliseconds; the text of an instant, which serves as the marker of a resume, stands for it.
-/

namespace LetletmeData

/-- `tournament_setup_status`. -/
inductive TournamentSetupStatus where
  | pending
  | processing
  | ready
  | failed
  deriving DecidableEq

/-- `tournament_setup_phase`. -/
inductive TournamentSetupPhase where
  | queued
  | syncingEntries
  | buildingStructure
  | calculatingStandings
  | enrichingHistory
  | finalizing
  | ready
  | failed
  deriving DecidableEq

/-- `tournament_state`. -/
inductive TournamentState where
  | active
  | inactive
  | finished
  deriving DecidableEq

/-- The columns of a tournament that its setup reads or writes. The constraint
`tournaments_setup_attempts_valid` is checked on every write. -/
structure TournamentSetupRow where
  state : TournamentState
  rosterMode : RosterMode
  rosterSyncStatus : Option TournamentSetupStatus
  rosterSyncError : Option String
  rosterLastSyncedAt : Option ℕ
  totalTeamNum : ℕ
  setupStatus : TournamentSetupStatus
  setupPhase : TournamentSetupPhase
  setupError : Option String
  setupCompletedUnits : ℕ
  setupTotalUnits : ℕ
  setupWarningCount : ℕ
  setupProgressUpdatedAt : Option ℕ
  setupProgressIndeterminate : Bool
  setupAttempt : ℕ
  setupMaxAttempts : ℕ
  setupNextRetryAt : Option ℕ
  setupLastErrorCode : Option String
  setupLastErrorAt : Option ℕ
  setupStartedAt : Option ℕ
  setupFinishedAt : Option ℕ
  standingsReadyAt : Option ℕ
  profilesReadyAt : Option ℕ
  insightsReadyAt : Option ℕ
  maxAttempts_pos : 1 ≤ setupMaxAttempts
  attempt_le : setupAttempt ≤ setupMaxAttempts

/-- `TournamentSetupAttemptFailure`. -/
structure TournamentSetupAttemptFailure where
  attempt : ℕ
  terminal : Bool
  errorCode : String
  nextRetryAt : Option ℕ
  startedAt : ℕ
  deriving DecidableEq

namespace TournamentSetupRow

/-- A setup that has neither ended nor failed for good. -/
def live (row : TournamentSetupRow) : Bool :=
  row.setupStatus = .pending ∨ row.setupStatus = .processing

/-- The states a setup job does not touch. -/
def settled (row : TournamentSetupRow) : Bool :=
  row.setupStatus = .ready ∨ (row.setupStatus = .failed ∧ row.setupNextRetryAt = none)

/-- `markSetupProcessing`. -/
def markSetupProcessing (progressMarker : Option ℕ) (attempt now : ℕ) (row : TournamentSetupRow) :
    TournamentSetupRow :=
  { row with
    setupStatus := .processing
    setupError := none
    setupPhase := .syncingEntries
    setupCompletedUnits := 0
    setupTotalUnits := 0
    setupProgressUpdatedAt := some (progressMarker.getD now)
    setupWarningCount := 0
    setupAttempt := min row.setupMaxAttempts (max 1 attempt)
    setupNextRetryAt := none
    setupLastErrorCode := none
    setupLastErrorAt := none
    setupProgressIndeterminate := false
    profilesReadyAt := none
    insightsReadyAt := none
    setupStartedAt := some now
    setupFinishedAt := none
    standingsReadyAt := none
    attempt_le := Nat.min_le_left _ _ }

/-- `markSetupRetryQueued`. -/
def markSetupRetryQueued (now : ℕ) (row : TournamentSetupRow) : TournamentSetupRow :=
  { row with
    setupStatus := .processing
    setupError := none
    setupPhase := .queued
    setupCompletedUnits := 0
    setupTotalUnits := 0
    setupProgressUpdatedAt := some now
    setupWarningCount := 0
    setupAttempt := 0
    setupNextRetryAt := none
    setupLastErrorCode := none
    setupLastErrorAt := none
    setupProgressIndeterminate := false
    setupStartedAt := none
    setupFinishedAt := none
    standingsReadyAt := none
    profilesReadyAt := none
    insightsReadyAt := none
    attempt_le := Nat.zero_le _ }

/-- `markSetupProgress`. -/
def markSetupProgress (phase : TournamentSetupPhase) (completedUnits totalUnits : ℕ)
    (progressMarker : Option ℕ) (progressIndeterminate : Bool) (now : ℕ)
    (row : TournamentSetupRow) : TournamentSetupRow :=
  { row with
    setupPhase := phase
    setupCompletedUnits := min totalUnits completedUnits
    setupTotalUnits := totalUnits
    setupProgressIndeterminate := progressIndeterminate
    setupProgressUpdatedAt := some (progressMarker.getD now) }

/-- `markStandingsReady`. -/
def markStandingsReady (progressMarker : Option ℕ) (now : ℕ) (row : TournamentSetupRow) :
    TournamentSetupRow :=
  { row with
    standingsReadyAt := row.standingsReadyAt.or (some now)
    setupProgressUpdatedAt := some (progressMarker.getD now) }

/-- `markSetupResult` with the status `'ready'`. -/
def markSetupReady (warningCount now : ℕ) (row : TournamentSetupRow) : TournamentSetupRow :=
  { row with
    setupStatus := .ready
    setupPhase := .ready
    setupWarningCount := warningCount
    setupError := none
    setupNextRetryAt := none
    setupLastErrorCode := none
    setupLastErrorAt := none
    setupProgressIndeterminate := false
    setupProgressUpdatedAt := some now
    setupFinishedAt := some now }

/-- `markSetupResult` with the status `'failed'`. -/
def markSetupFailed (now : ℕ) (row : TournamentSetupRow) : TournamentSetupRow :=
  { row with
    setupStatus := .failed
    setupPhase := .failed
    setupWarningCount := 0
    setupError := some "Tournament setup failed."
    setupNextRetryAt := none
    setupLastErrorCode := some "SETUP_FAILED"
    setupLastErrorAt := some now
    setupProgressIndeterminate := false
    setupProgressUpdatedAt := some now
    setupFinishedAt := some now }

/-- The condition of the statement of `markSetupAttemptFailure`. -/
def acceptsFailure (failure : TournamentSetupAttemptFailure) (row : TournamentSetupRow) : Bool :=
  row.live ∧ row.setupFinishedAt = none ∧
    if failure.terminal then row.setupAttempt ≤ max 1 failure.attempt
    else row.setupAttempt < max 1 failure.attempt

/-- `markSetupAttemptFailure`. -/
def markSetupAttemptFailure (failure : TournamentSetupAttemptFailure) (now : ℕ)
    (row : TournamentSetupRow) : TournamentSetupRow :=
  if row.acceptsFailure failure then
    { row with
      setupStatus := if failure.terminal then .failed else .processing
      setupPhase := if failure.terminal then .failed else .queued
      setupCompletedUnits := 0
      setupTotalUnits := 0
      setupWarningCount := 0
      setupError := if failure.terminal then some "Tournament setup failed." else none
      setupNextRetryAt := if failure.terminal then none else failure.nextRetryAt
      setupAttempt := min row.setupMaxAttempts (max 1 failure.attempt)
      setupLastErrorCode := some failure.errorCode
      setupLastErrorAt := some now
      setupProgressIndeterminate := false
      setupProgressUpdatedAt := some now
      setupStartedAt := row.setupStartedAt.or (some failure.startedAt)
      setupFinishedAt := if failure.terminal then some now else none
      standingsReadyAt := none
      profilesReadyAt := none
      insightsReadyAt := none
      attempt_le := Nat.min_le_left _ _ }
  else row

/-- When a setup last showed progress. -/
def lastProgress (row : TournamentSetupRow) : Option ℕ :=
  row.setupProgressUpdatedAt.or row.setupStartedAt

/-- `markStuckSetupQueuedIfUnchanged`. -/
def markStuckSetupQueuedIfUnchanged (expectedProgressUpdatedAt : Option ℕ) (now : ℕ)
    (row : TournamentSetupRow) : TournamentSetupRow :=
  if row.live ∧ row.lastProgress = expectedProgressUpdatedAt then
    -- the attempt counter is kept
    { row with
      setupStatus := .pending
      setupPhase := .queued
      setupCompletedUnits := 0
      setupTotalUnits := 0
      setupWarningCount := 0
      setupError := none
      setupLastErrorCode := row.setupLastErrorCode.or (some "STUCK_SETUP_RECOVERY")
      setupLastErrorAt := some now
      setupNextRetryAt := some now
      setupProgressUpdatedAt := some now
      setupStartedAt := none
      setupFinishedAt := none }
  else row

/-- The condition of the statement of `markResumeProcessingIfPending`. -/
def resumable (marker : ℕ) (row : TournamentSetupRow) : Bool :=
  ((row.state = .inactive ∧
      (row.rosterSyncStatus = some .processing ∨ row.rosterSyncStatus = some .failed) ∧
      (row.setupStatus = .pending ∨ row.setupStatus = .processing ∨ row.setupStatus = .failed) ∧
      (row.setupPhase = .queued ∨ row.setupPhase = .failed ∨ row.setupStatus = .processing)) ∨
    (row.state = .active ∧ row.rosterSyncStatus = some .ready ∧ row.setupStatus = .processing)) ∧
  row.setupProgressUpdatedAt = some marker

/-- `markResumeProcessingIfPending` with a marker; `none` when it owns no resume. -/
def markResumeProcessingIfPending (marker : ℕ) (row : TournamentSetupRow) :
    Option TournamentSetupRow :=
  if row.resumable marker then
    some { row with
      rosterSyncStatus := some .processing
      rosterSyncError := none
      setupStatus := .pending
      setupPhase := .queued
      setupError := none
      setupWarningCount := 0
      setupCompletedUnits := 0
      setupTotalUnits := 0
      setupAttempt := 0
      setupNextRetryAt := none
      setupLastErrorCode := none
      setupLastErrorAt := none
      setupProgressIndeterminate := false
      standingsReadyAt := none
      profilesReadyAt := none
      insightsReadyAt := none
      attempt_le := Nat.zero_le _ }
  else none

/-- `markReadyAndResume`. -/
def markReadyAndResume (now : ℕ) (row : TournamentSetupRow) : TournamentSetupRow :=
  if row.rosterSyncStatus = some .processing then
    let playable : Bool := row.state = .finished ∨ 2 ≤ row.totalTeamNum
    { row with
      state := if row.state = .finished then row.state
        else if 2 ≤ row.totalTeamNum then .active else row.state
      rosterSyncStatus := some (if playable then .ready else .failed)
      rosterSyncError :=
        if playable then none else some "Tournament requires at least two participants."
      rosterLastSyncedAt :=
        if playable then row.rosterLastSyncedAt.or (some now) else row.rosterLastSyncedAt }
  else row

end TournamentSetupRow

end LetletmeData
