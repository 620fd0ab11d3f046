import LetletmeData.Library.Runs
import LetletmeData.Repositories.TournamentInfos

/-!
# Attempts of a tournament setup

The jobs of one tournament run one after another under its lifecycle scope, which the records of
escaped failures and the watchdog take as well; only the reads of a record and of the watchdog
stand outside it. A manual retry is refused while a job of the tournament runs. Which jobs there
are, how their setups end and what a fallback or the watchdog reads is given by the events of a
history.
-/

namespace LetletmeData

open LetletmeData.Library

/-- `TournamentSetupJobSource`. -/
inductive TournamentSetupJobSource where
  | create
  | manual
  | watchdog
  | roster
  | resume
  deriving DecidableEq

/-- A delivery of a setup job: its data, the attempts BullMQ has counted before it, and the attempts
it is allowed. -/
structure TournamentSetupJob where
  source : TournamentSetupJobSource
  resumeMarker : Option ℕ
  attemptsMade : ℕ
  attempts : Option ℕ
  processedOn : Option ℕ
  deriving DecidableEq

/-- An error with the code `tournamentSetupErrorCode` finds in it. -/
structure SetupError where
  code : String
  unrecoverable : Bool
  deriving DecidableEq

/-- `getTournamentSetupRetryDelayMs`. -/
def getTournamentSetupRetryDelayMs (attempt : ℕ) : ℕ := 60000 * 2 ^ (attempt - 1)

/-- `isTerminalJobAttemptFailure`. -/
def isTerminalJobAttemptFailure (job : TournamentSetupJob) (error : SetupError) (attempt : ℕ) :
    Bool :=
  error.unrecoverable || max 1 (job.attempts.getD 1) ≤ attempt

/-! ### A run of the worker -/

/-- How the transaction of a job begins: it is ignored, it throws before the setup, or it enters
`setupTournamentStructure`. Each case carries the row as the transaction has left it. -/
inductive SetupStart where
  | ignored (row : TournamentSetupRow)
  | exhausted (row : TournamentSetupRow) (attempt maxAttempts : ℕ) (error : SetupError)
  | enters (row : TournamentSetupRow) (attempt maxAttempts : ℕ)

/-- A resume of an official roster is pending. -/
def TournamentSetupRow.resumePending (row : TournamentSetupRow) : Bool :=
  row.rosterMode = .officialSync ∧ row.state = .inactive ∧
    (row.rosterSyncStatus = some .processing ∨ row.rosterSyncStatus = some .failed) ∧
    (row.setupStatus = .pending ∨ row.setupStatus = .processing ∨ row.setupStatus = .failed) ∧
    (row.setupPhase = .queued ∨ row.setupPhase = .failed ∨ row.setupStatus = .processing)

/-- Whether a job may go on: a resume has to own its marker, and any other job waits for a pending
resume, unless it is a manual retry beside no live job of the resume. -/
def claimSetupJob (job : TournamentSetupJob) (resumeJobLive : Bool) (row : TournamentSetupRow) :
    Option TournamentSetupRow :=
  match job.resumeMarker with
  | some marker => row.markResumeProcessingIfPending marker
  | none =>
    if row.resumePending then
      if job.source = .manual ∧ resumeJobLive = false then some row else none
    else some row

/-- The attempt BullMQ counts. -/
def TournamentSetupJob.bullmqAttempt (job : TournamentSetupJob) : ℕ := max 1 (job.attemptsMade + 1)

/-- What the worker does before the setup. -/
def startSetupJob (job : TournamentSetupJob) (resumeJobLive : Bool) (row : TournamentSetupRow) :
    SetupStart :=
  match claimSetupJob job resumeJobLive row with
  | none => .ignored row
  | some claimed =>
    if claimed.settled then .ignored claimed
    else
      let maxAttempts := max 1 claimed.setupMaxAttempts
      let nextAttempt := max job.bullmqAttempt (claimed.setupAttempt + 1)
      let attempt := min maxAttempts nextAttempt
      if maxAttempts < nextAttempt then
        .exhausted claimed attempt maxAttempts
          ⟨claimed.setupLastErrorCode.getD "SETUP_AUTOMATIC_RETRIES_EXHAUSTED", false⟩
      else .enters claimed attempt maxAttempts

/-- What the handler of the worker records. -/
def attemptFailure (job : TournamentSetupJob) (error : SetupError)
    (attempt maxAttempts startedAt now : ℕ) : TournamentSetupAttemptFailure :=
  let terminal := isTerminalJobAttemptFailure job error attempt || maxAttempts ≤ attempt
  { attempt
    terminal
    errorCode := error.code
    nextRetryAt := if terminal then none else some (now + getTournamentSetupRetryDelayMs attempt)
    startedAt }

/-- What a setup that completes leaves in the row: the last progress it marked and the instants
and warnings it published. -/
structure SetupCompletion where
  phase : TournamentSetupPhase
  completedUnits : ℕ
  totalUnits : ℕ
  progressIndeterminate : Bool
  profilesReadyAt : Option ℕ
  insightsReadyAt : Option ℕ
  warningCount : ℕ

/-- `setupTournamentStructure` that returns. -/
def setupTournamentStructure (progressMarker : Option ℕ) (attempt : ℕ)
    (completion : SetupCompletion) (now : ℕ) (row : TournamentSetupRow) : TournamentSetupRow :=
  let processing := row.markSetupProcessing progressMarker attempt now
  let progressed := processing.markSetupProgress completion.phase completion.completedUnits
    completion.totalUnits progressMarker completion.progressIndeterminate now
  let published := progressed.markStandingsReady progressMarker now
  let issued : TournamentSetupRow :=
    { published with
      profilesReadyAt := completion.profilesReadyAt
      insightsReadyAt := completion.insightsReadyAt }
  (issued.markReadyAndResume now).markSetupReady completion.warningCount now

/-- How the transaction of a job ends: the setup completes or throws inside its savepoint, or the
worker throws before it has read the status, or the whole transaction is rolled back, before or
after the setup was entered. -/
inductive SetupEnding where
  | completes (completion : SetupCompletion)
  | throws (error : SetupError)
  | throwsEarly (error : SetupError)
  | escapes (enteredSetup : Bool) (error : SetupError)

/-- What remains of a run: the row, whether the setup was entered, and the error that the handler
of the worker has not recorded. -/
structure SetupRunResult where
  row : TournamentSetupRow
  entered : Bool
  escaped : Option SetupError

/-- A delivery of a job, from the lifecycle scope to the end of its transaction. -/
def runSetupJob (job : TournamentSetupJob) (resumeJobLive : Bool) (ending : SetupEnding) (now : ℕ)
    (row : TournamentSetupRow) : SetupRunResult :=
  match ending, startSetupJob job resumeJobLive row with
  | .escapes enteredSetup error, .enters _ _ _ => ⟨row, enteredSetup, some error⟩
  | .escapes _ error, _ => ⟨row, false, some error⟩
  | .throwsEarly error, _ =>
    -- the counter of the queue is all the worker knows
    match job.resumeMarker, claimSetupJob job resumeJobLive row with
    | some _, none => ⟨row, false, none⟩
    | _, claimed =>
      let failure := attemptFailure job error job.bullmqAttempt (max 1 (job.attempts.getD 1)) now now
      ⟨(claimed.getD row).markSetupAttemptFailure failure now, false, none⟩
  | _, .ignored left => ⟨left, false, none⟩
  | _, .exhausted claimed attempt maxAttempts error =>
    ⟨claimed.markSetupAttemptFailure (attemptFailure job error attempt maxAttempts now now) now,
      false, none⟩
  | .completes completion, .enters claimed attempt _ =>
    ⟨setupTournamentStructure job.resumeMarker attempt completion now claimed, true, none⟩
  | .throws error, .enters claimed attempt maxAttempts =>
    -- the savepoint takes back what the setup has written
    ⟨claimed.markSetupAttemptFailure (attemptFailure job error attempt maxAttempts now now) now,
      true, none⟩

/-! ### Records of escaped failures -/

/-- `persistEscapedTournamentSetupFailure` up to the record: `none` when there is nothing to
record. The failed delivery counts among the attempts of its job. -/
def escapedFailure (job : TournamentSetupJob) (error : SetupError) (now : ℕ)
    (status : TournamentSetupRow) : Option TournamentSetupAttemptFailure :=
  if status.settled then none
  else
    let maxAttempts := max 1 status.setupMaxAttempts
    let bullmqAttempt := max 1 job.attemptsMade
    let nextAttempt := max bullmqAttempt (status.setupAttempt + 1)
    let attempt := min maxAttempts nextAttempt
    let terminal := isTerminalJobAttemptFailure job error job.attemptsMade || maxAttempts ≤ nextAttempt
    some
      { attempt
        terminal
        errorCode := error.code
        nextRetryAt := if terminal then none else some (now + getTournamentSetupRetryDelayMs attempt)
        startedAt := job.processedOn.getD now }

/-- Where the record of an escaped run is. -/
inductive EscapedRun where
  | settled
  | escaped (job : TournamentSetupJob) (error : SetupError)
  | recording (failure : TournamentSetupAttemptFailure)

/-! ### Histories -/

/-- A row as the watchdog found it. -/
structure StuckTournamentRow where
  setupProgressUpdatedAt : Option ℕ
  state : TournamentState
  rosterMode : RosterMode
  rosterSyncStatus : Option TournamentSetupStatus
  deriving DecidableEq

/-- The row of a tournament, the record of the run that escaped last, the records that come late,
what the watchdog has found, and the number of runs that have entered the setup since the last
manual retry. -/
structure SetupWorld where
  row : TournamentSetupRow
  escaped : EscapedRun
  late : List TournamentSetupAttemptFailure
  stuck : List StuckTournamentRow
  entered : ℕ

/-- An event of a history. -/
inductive SetupEvent where
  | runJob (job : TournamentSetupJob) (resumeJobLive : Bool) (ending : SetupEnding) (now : ℕ)
  | readEscaped (now : ℕ)
  | recordEscaped (now : ℕ)
  | readLate (job : TournamentSetupJob) (error : SetupError) (now : ℕ)
  | recordLate (position now : ℕ)
  | findStuck (cutoff : ℕ)
  | recoverStuck (position : ℕ) (active : Bool) (now : ℕ)
  | manualRetry (now : ℕ)
  | manualRetryFails (now : ℕ)

namespace SetupWorld

/-- A tournament whose history begins. -/
def start (row : TournamentSetupRow) : SetupWorld := ⟨row, .settled, [], [], 0⟩

/-- A job runs; after a run whose transaction was rolled back it waits for the record. -/
def runJob (job : TournamentSetupJob) (resumeJobLive : Bool) (ending : SetupEnding) (now : ℕ)
    (world : SetupWorld) : SetupWorld :=
  match world.escaped with
  | .settled =>
    let result := runSetupJob job resumeJobLive ending now world.row
    { world with
      row := result.row
      escaped := match result.escaped with
        | none => .settled
        | some error => .escaped { job with attemptsMade := job.attemptsMade + 1 } error
      entered := if result.entered then world.entered + 1 else world.entered }
  | _ => world

/-- The fallback of the escaped run reads the status. -/
def readEscaped (now : ℕ) (world : SetupWorld) : SetupWorld :=
  match world.escaped with
  | .escaped job error =>
    { world with
      escaped := match escapedFailure job error now world.row with
        | none => .settled
        | some failure => .recording failure }
  | _ => world

/-- The fallback of the escaped run records the failure. -/
def recordEscaped (now : ℕ) (world : SetupWorld) : SetupWorld :=
  match world.escaped with
  | .recording failure =>
    { world with row := world.row.markSetupAttemptFailure failure now, escaped := .settled }
  | _ => world

/-- A repeated or late fallback of some job reads the status. -/
def readLate (job : TournamentSetupJob) (error : SetupError) (now : ℕ) (world : SetupWorld) :
    SetupWorld :=
  { world with late := world.late ++ (escapedFailure job error now world.row).toList }

/-- A repeated or late fallback records a failure. -/
def recordLate (position now : ℕ) (world : SetupWorld) : SetupWorld :=
  match world.late[position]? with
  | none => world
  | some failure => { world with row := world.row.markSetupAttemptFailure failure now }

/-- `findStuckProcessing`, of the one tournament. -/
def findStuck (cutoff : ℕ) (world : SetupWorld) : SetupWorld :=
  match world.row.lastProgress with
  | none => world
  | some progress =>
    if world.row.live ∧ progress < cutoff then
      { world with
        stuck := world.stuck ++
          [⟨some progress, world.row.state, world.row.rosterMode, world.row.rosterSyncStatus⟩] }
    else world

/-- `recoverStuckTournamentSetups`, of a row it has found. A stuck resume is handed to its own job
and leaves the row as it is. -/
def recoverStuck (position : ℕ) (active : Bool) (now : ℕ) (world : SetupWorld) : SetupWorld :=
  match world.stuck[position]? with
  | none => world
  | some found =>
    if active then world
    else if found.state = .inactive ∧ found.rosterMode = .officialSync ∧
        (found.rosterSyncStatus = some .processing ∨ found.rosterSyncStatus = some .failed) then
      world
    else
      { world with
        row := world.row.markStuckSetupQueuedIfUnchanged found.setupProgressUpdatedAt now }

/-- `requeueTournamentSetup`. -/
def manualRetry (now : ℕ) (world : SetupWorld) : SetupWorld :=
  { world with row := world.row.markSetupRetryQueued now, entered := 0 }

/-- `requeueTournamentSetup` that could not enqueue its job. -/
def manualRetryFails (now : ℕ) (world : SetupWorld) : SetupWorld :=
  { world with row := world.row.markSetupFailed now }

end SetupWorld

/-- A history, one event further. -/
def setupStep (world : SetupWorld) : SetupEvent → SetupWorld
  | .runJob job resumeJobLive ending now => world.runJob job resumeJobLive ending now
  | .readEscaped now => world.readEscaped now
  | .recordEscaped now => world.recordEscaped now
  | .readLate job error now => world.readLate job error now
  | .recordLate position now => world.recordLate position now
  | .findStuck cutoff => world.findStuck cutoff
  | .recoverStuck position active now => world.recoverStuck position active now
  | .manualRetry now => world.manualRetry now
  | .manualRetryFails now => world.manualRetryFails now

end LetletmeData
