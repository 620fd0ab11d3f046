import Mathlib.Data.Int.Notation
import Mathlib.Data.Nat.Notation
import LetletmeData.Content.AcquisitionPhase
import LetletmeData.Library.Transactions

/-!
# Recurring acquisition runs

A schedule hands out one run after the other. A claim leases the schedule to a new run for the
window that its checkpoint asks for, or for the window of the run that has just failed; the run
ends in a result, in a failure or deferred, and its end releases the lease. Times are milliseconds
of the epoch.
-/

namespace LetletmeData

open LetletmeData.Library

/-- `RecurringAdapterKind`. -/
inductive RecurringAdapterKind where
  | xAccount
  | xSemantic
  | rssAtom
  | podcastFeed
  | youtubeChannel
  deriving DecidableEq

/-- The adapters that search X. -/
def RecurringAdapterKind.IsX (kind : RecurringAdapterKind) : Prop :=
  kind = .xAccount ∨ kind = .xSemantic

instance (kind : RecurringAdapterKind) : Decidable kind.IsX :=
  inferInstanceAs (Decidable (_ ∨ _))

/-- The fields of `AcquisitionProfile` that recurring runs use. -/
structure AcquisitionProfile where
  adapterKind : RecurringAdapterKind
  cadenceMinutes : AcquisitionPhase → ℕ
  lookbackMinutes : ℕ
  maxItems : ℕ
  saturationThreshold : ℕ

/-- The status of an acquisition run. -/
inductive RunStatus where
  | pending
  | running
  | empty
  | checkedNoChange
  | completed
  | partialResult
  | saturated
  | gap
  | budgetDeferred
  | contentDeferred
  | failed
  deriving DecidableEq

/-- The run has not ended. -/
def RunStatus.Open (status : RunStatus) : Prop := status = .pending ∨ status = .running

instance RunStatus.decidableOpen (status : RunStatus) : Decidable status.Open := inferInstanceAs (Decidable (_ ∨ _))

/-- The checkpoint of a schedule, in the fields that requests are derived from. -/
structure ScheduleCheckpoint where
  checkedAt : ℤ
  windowEnd : ℤ
  deriving DecidableEq

/-- `HttpValidator`. -/
structure HttpValidator where
  etag : Option String
  lastModified : Option String
  deriving DecidableEq

/-- `circuit_state`. -/
inductive CircuitState where
  | closed
  | tripped
  | halfOpen
  deriving DecidableEq

/-- An active row of `content.source_schedules`. -/
structure SourceSchedule where
  checkpoint : Option ScheduleCheckpoint
  validator : HttpValidator
  bootstrapCompletedAt : Option ℤ
  bootstrapCutoffAt : Option ℤ
  nextDueAt : ℤ
  failureStreak : ℕ
  leaseOwner : Option ℕ
  leaseExpiresAt : Option ℤ
  circuitState : CircuitState
  probeAfter : Option ℤ
  deriving DecidableEq

/-- The window of a request. -/
structure AcquisitionWindow where
  windowStart : ℤ
  windowEnd : ℤ
  deriving DecidableEq

/-- `FormalRunRequestV1` of a recurring run; the payload is what its adapter asks for besides. -/
structure RunRequest (Payload : Type) where
  phase : AcquisitionPhase
  window : AcquisitionWindow
  payload : Payload
  deriving DecidableEq

/-- A row of `content.acquisition_runs`; the report is what its result leaves in the row. -/
structure AcquisitionRun (Payload Report : Type) where
  runId : ℕ
  request : RunRequest Payload
  status : RunStatus
  leaseExpiresAt : Option ℤ
  checkpointAdvanced : Bool
  report : Option Report
  deriving DecidableEq

/-- A row of `content.acquisition_gaps`. -/
structure AcquisitionGap where
  window : AcquisitionWindow
  reason : String
  deriving DecidableEq

/-- A schedule with its runs, the newest first, and the gaps that were declared. -/
structure RecurringTables (Payload Report : Type) where
  schedule : SourceSchedule
  runs : List (AcquisitionRun Payload Report)
  gaps : List AcquisitionGap

/-- The milliseconds of some minutes. -/
def minutes (count : ℕ) : ℤ := count * 60000

/-! ### Requests -/

/-- `setUTCHours(0, 0, 0, 0)`. -/
def startOfDay (time : ℤ) : ℤ := time - time % 86400000

/-- `requestWindow`. -/
def requestWindow (profile : AcquisitionProfile) (dbNow : ℤ)
    (checkpoint : Option ScheduleCheckpoint) (bootstrapCutoffAt : ℤ) (bootstrapEnabled : Bool) :
    AcquisitionWindow :=
  if profile.adapterKind.IsX then
    let windowEnd := dbNow - minutes 1
    let overlapped :=
      match checkpoint with
      | some checkpoint => checkpoint.windowEnd - minutes 2
      | none => windowEnd - minutes profile.lookbackMinutes
    let maximumStart := windowEnd - minutes (24 * 60)
    let boundedStart := if overlapped < maximumStart then maximumStart else overlapped
    ⟨if profile.adapterKind = .xSemantic then startOfDay boundedStart else boundedStart, windowEnd⟩
  else
    let windowStart :=
      if bootstrapEnabled then bootstrapCutoffAt - minutes profile.lookbackMinutes
      else (checkpoint.map (·.checkedAt)).getD (dbNow - minutes profile.lookbackMinutes)
    ⟨windowStart, dbNow⟩

/-- What a claim finds besides the tables: the phase, whether the profile of the schedule is the
one in the code, whether its target can be read, whether a failed run still matches the schedule,
and whether the budget of an X run is reserved. -/
structure ClaimFacts where
  phase : AcquisitionPhase
  profileCurrent : Bool
  targetEligible : Bool
  retryMatches : Bool
  budgetReserved : Bool

section Runs

variable {Payload Report : Type}

/-- The request of a new window. -/
def freshRequest (profile : AcquisitionProfile) (payload : ℤ → SourceSchedule → Payload)
    (phase : AcquisitionPhase) (dbNow : ℤ) (schedule : SourceSchedule) : RunRequest Payload where
  phase := phase
  window := requestWindow profile dbNow schedule.checkpoint
    (schedule.bootstrapCutoffAt.getD dbNow) schedule.bootstrapCompletedAt.isNone
  payload := payload dbNow schedule

/-- After one or two failures the request of the run that failed last is taken again. -/
def retryRequest (facts : ClaimFacts) (fresh : RunRequest Payload)
    (tables : RecurringTables Payload Report) : Except String (RunRequest Payload) :=
  if 0 < tables.schedule.failureStreak ∧ tables.schedule.failureStreak < 3 then
    match tables.runs.find? fun run => run.status = .failed with
    | none => .ok fresh
    | some retry => do
      throwIf (facts.retryMatches = false)
        "Retry run no longer matches its recurring schedule contract"
      return retry.request
  else .ok fresh

/-! ### Ends of runs -/

/-- The run with an identifier, if it has not ended. -/
def RecurringTables.openRun (tables : RecurringTables Payload Report) (runId : ℕ) :
    Option (AcquisitionRun Payload Report) :=
  tables.runs.find? fun run => run.runId = runId ∧ run.status.Open

/-- Rewrites the run with an identifier, if it has not ended. -/
def updateOpenRun (runId : ℕ)
    (write : AcquisitionRun Payload Report → AcquisitionRun Payload Report)
    (runs : List (AcquisitionRun Payload Report)) : List (AcquisitionRun Payload Report) :=
  runs.map fun run => if run.runId = runId ∧ run.status.Open then write run else run

/-- Ends a run. -/
def AcquisitionRun.ended (run : AcquisitionRun Payload Report) (status : RunStatus)
    (checkpointAdvanced : Bool) (report : Option Report) : AcquisitionRun Payload Report :=
  { run with status, leaseExpiresAt := none, checkpointAdvanced, report }

/-- The next failure is the third one in a row of a schedule on X, or a later one. -/
def ExhaustedXWindow (profile : AcquisitionProfile) (schedule : SourceSchedule) : Prop :=
  3 ≤ schedule.failureStreak + 1 ∧ profile.adapterKind.IsX

instance (profile : AcquisitionProfile) (schedule : SourceSchedule) :
    Decidable (ExhaustedXWindow profile schedule) :=
  inferInstanceAs (Decidable (_ ∧ _))

/-- One more failure of a schedule. The third one in a row opens its circuit, and on X it gives the
window of the run up: the window is declared a gap and the checkpoint passes it. -/
def failRecurringRun (profile : AcquisitionProfile) (runId : ℕ) (dbNow retryDelay : ℤ)
    (reason : String) (tables : RecurringTables Payload Report) : RecurringTables Payload Report :=
  let failureStreak := tables.schedule.failureStreak + 1
  let exhausted := if ExhaustedXWindow profile tables.schedule then tables.openRun runId else none
  { schedule :=
      { tables.schedule with
        leaseOwner := none
        leaseExpiresAt := none
        failureStreak := failureStreak
        circuitState := if 3 ≤ failureStreak then .tripped else .closed
        probeAfter := if 3 ≤ failureStreak then some (dbNow + minutes 30) else none
        nextDueAt := dbNow + (if 3 ≤ failureStreak then minutes 30 else retryDelay)
        checkpoint :=
          (exhausted.map fun run => ⟨dbNow, run.request.window.windowEnd⟩).or
            tables.schedule.checkpoint }
    runs := updateOpenRun runId
      (·.ended (if ExhaustedXWindow profile tables.schedule then .gap else .failed)
        (ExhaustedXWindow profile tables.schedule) none) tables.runs
    gaps := (exhausted.map fun run => ⟨run.request.window, reason⟩).toList ++ tables.gaps }

/-- `failFormalRun` of a recurring run. -/
def failFormalRun (profile : AcquisitionProfile) (runId : ℕ) (dbNow : ℤ)
    (tables : RecurringTables Payload Report) : RecurringTables Payload Report :=
  match tables.openRun runId with
  | none => tables
  | some _ =>
    let retryDelay := if tables.schedule.failureStreak = 0 then minutes 1 else minutes 5
    failRecurringRun profile runId dbNow retryDelay "RETRY_EXHAUSTED" tables

/-- `beginFormalRun`; a run that is not pending is left as it is. -/
def beginFormalRun (runId : ℕ) (dbNow : ℤ) (tables : RecurringTables Payload Report) :
    Except String (RecurringTables Payload Report) :=
  match tables.runs.find? fun run => run.runId = runId with
  | none => .error "Formal acquisition run not found"
  | some run =>
    if run.status ≠ .pending then .ok tables
    else if ∃ expiresAt ∈ run.leaseExpiresAt, expiresAt ≤ dbNow then
      .error "Formal acquisition run lease expired before worker start"
    else .ok { tables with runs := updateOpenRun runId ({ · with status := .running }) tables.runs }

/-- What the result of a recurring run is persisted with: the status and the report of the run, the
validator of the first batch if there is one, the checkpoint if it is complete, and a gap. -/
structure RecurringResult (Report : Type) where
  status : RunStatus
  report : Report
  nextDueAt : ℤ
  validator : Option HttpValidator
  checkpoint : Option ScheduleCheckpoint
  bootstrapCompleted : Bool
  gap : Option AcquisitionGap

/-- The end of `persistAcquisitionResult`, for a recurring run. -/
def persistRecurringResult (runId : ℕ) (dbNow : ℤ) (result : RecurringResult Report)
    (tables : RecurringTables Payload Report) : Except String (RecurringTables Payload Report) := do
  throwIf (¬ ∃ run ∈ tables.openRun runId, run.status = .running)
    "Acquisition run is not RUNNING"
  throwIf (result.nextDueAt < dbNow) "Recurring terminal result requires a future nextDueAt"
  return {
    schedule :=
      { tables.schedule with
        leaseOwner := none
        leaseExpiresAt := none
        nextDueAt := result.nextDueAt
        failureStreak := 0
        circuitState := .closed
        probeAfter := none
        validator := result.validator.getD tables.schedule.validator
        checkpoint := result.checkpoint.or tables.schedule.checkpoint
        bootstrapCompletedAt :=
          if result.bootstrapCompleted then some dbNow else tables.schedule.bootstrapCompletedAt }
    runs := updateOpenRun runId
      (·.ended result.status result.checkpoint.isSome (some result.report)) tables.runs
    gaps := result.gap.toList ++ tables.gaps }

/-! ### Claims -/

/-- The schedule can be claimed: it is due, not leased and its circuit lets a run pass. -/
def SourceSchedule.Due (schedule : SourceSchedule) (dbNow : ℤ) : Prop :=
  schedule.nextDueAt ≤ dbNow ∧ (∀ expiresAt ∈ schedule.leaseExpiresAt, expiresAt ≤ dbNow) ∧
    (schedule.circuitState = .closed ∨ ∃ probeAfter ∈ schedule.probeAfter, probeAfter ≤ dbNow)

instance (schedule : SourceSchedule) (dbNow : ℤ) : Decidable (schedule.Due dbNow) :=
  inferInstanceAs (Decidable (_ ∧ _ ∧ _))

/-- The run whose lease of the schedule has expired. -/
def SourceSchedule.expiredOwner (schedule : SourceSchedule) (dbNow : ℤ) : Option ℕ :=
  schedule.leaseOwner.filter fun _ => ∃ expiresAt ∈ schedule.leaseExpiresAt, expiresAt ≤ dbNow

/-- A run whose lease has expired has failed. -/
def recoverExpiredLease (profile : AcquisitionProfile) (dbNow : ℤ)
    (tables : RecurringTables Payload Report) : RecurringTables Payload Report :=
  match tables.schedule.expiredOwner dbNow with
  | none => tables
  | some owner =>
    failRecurringRun profile owner dbNow 0 "RETRY_EXHAUSTED_LEASE_EXPIRED" tables

/-- `queueKind` gives an X run six minutes and a feed two. -/
def leaseMinutes (profile : AcquisitionProfile) : ℕ := if profile.adapterKind.IsX then 6 else 2

/-- A new run of a schedule that nothing leases; the state of the circuit is the selected one. -/
def claimRun (profile : AcquisitionProfile) (payload : ℤ → SourceSchedule → Payload)
    (facts : ClaimFacts) (dbNow : ℤ) (selectedCircuit : CircuitState)
    (tables : RecurringTables Payload Report) : Except String (RecurringTables Payload Report) := do
  let fresh := freshRequest profile payload facts.phase dbNow tables.schedule
  throwIf (profile.adapterKind.IsX ∧ fresh.window.windowEnd < fresh.window.windowStart)
    (if profile.adapterKind = .xAccount then "Keyword X scan window is inverted"
      else "Semantic X scan window is inverted")
  let request ← retryRequest facts fresh tables
  let run : AcquisitionRun Payload Report :=
    { runId := tables.runs.length
      request
      status := .pending
      leaseExpiresAt := some (dbNow + minutes (leaseMinutes profile))
      checkpointAdvanced := false
      report := none }
  if profile.adapterKind.IsX ∧ facts.budgetReserved = false then
    return {
      tables with
      schedule :=
        { tables.schedule with
          leaseOwner := none
          leaseExpiresAt := none
          nextDueAt := dbNow + minutes (min 30 (profile.cadenceMinutes request.phase)) }
      runs := run.ended .budgetDeferred false none :: tables.runs }
  return {
    tables with
    schedule :=
      { tables.schedule with
        leaseOwner := some run.runId
        leaseExpiresAt := run.leaseExpiresAt
        bootstrapCutoffAt := some (tables.schedule.bootstrapCutoffAt.getD dbNow)
        circuitState := if selectedCircuit = .closed then .closed else .halfOpen }
    runs := run :: tables.runs }

/-- `claimDueFormalRuns`, for one schedule. -/
def claimDueFormalRun (profile : AcquisitionProfile) (payload : ℤ → SourceSchedule → Payload)
    (facts : ClaimFacts) (dbNow : ℤ) (tables : RecurringTables Payload Report) :
    Except String (RecurringTables Payload Report) :=
  if ¬ tables.schedule.Due dbNow then .ok tables
  else
    let recovered := recoverExpiredLease profile dbNow tables
    if tables.schedule.expiredOwner dbNow ≠ none ∧ 3 ≤ recovered.schedule.failureStreak then
      .ok recovered
    else if facts.profileCurrent = false then
      .ok {
        recovered with
        schedule :=
          { recovered.schedule with
            circuitState := .tripped
            probeAfter := some (dbNow + minutes 30)
            leaseOwner := none
            leaseExpiresAt := none } }
    else if facts.targetEligible = false then
      .ok {
        recovered with
        schedule :=
          { recovered.schedule with
            nextDueAt := dbNow + minutes 5
            leaseOwner := none
            leaseExpiresAt := none } }
    else claimRun profile payload facts dbNow tables.schedule.circuitState recovered

end Runs

end LetletmeData
