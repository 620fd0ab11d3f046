import LetletmeData.Content.MediaBudget
import LetletmeData.Content.RecurringRuns

/-!
# YouTube transcript runs

A worker begins a run, reserves credits before the first submission, and submits or polls. What
the provider bills with an answer is recorded in a trace, in the run and in its reservation: when
the run is parked for another poll, when its result is persisted, or when it fails. A failed run
with a provider job is polled again later. The parts of these transactions that do not concern the
provider may throw; a transaction that throws leaves nothing behind.
-/

namespace LetletmeData

open LetletmeData.Library

/-- The operation of a call to the provider. -/
inductive SupadataOperation where
  | submit
  | poll
  deriving DecidableEq

/-- The terminal state of a trace; the last one is `FAILED:` with the failure class. -/
inductive TraceTerminalState where
  | submitted
  | queued
  | active
  | completed
  | empty
  | unavailable
  | failed
  | failure (failureClass : String)
  deriving DecidableEq

/-- The columns of `acquisition_provider_traces` that the units go by. -/
structure ProviderTrace where
  runId : String
  sequence : ℕ
  operation : SupadataOperation
  providerUnits : ℚ
  terminalState : TraceTerminalState
  deriving DecidableEq

/-- A YouTube transcript run; the counter of recoveries is in its metrics. -/
structure TranscriptRun where
  status : RunStatus
  providerJobId : Option String
  providerUnits : Option ℚ
  providerPollRecoveries : ℕ
  createdAt : ℤ
  completedAt : Option ℤ

/-- What a worker has read of its run, and whether it may call the provider. -/
structure TranscriptWorker where
  providerJobId : Option String
  providerUnits : ℚ
  providerTraceSequence : ℕ
  mayCall : Bool

/-- The results of `submit`. -/
inductive SupadataSubmitResult where
  | completed
  | empty
  | unavailable
  | pending (jobId : String)

/-- The statuses of a pending job. -/
inductive SupadataPendingStatus where
  | queued
  | active

/-- `providerStatus.toUpperCase()`. -/
def SupadataPendingStatus.terminalState : SupadataPendingStatus → TraceTerminalState
  | queued => .queued
  | active => .active

/-- The results of `poll`. -/
inductive SupadataPollResult where
  | completed
  | empty
  | failed
  | pending (providerStatus : SupadataPendingStatus)

/-- What a call of the client ends with: a submission is billed or throws, a poll need not be
billed, and an error carries evidence when at least one unit was billed. -/
inductive SupadataAnswer where
  | submitted (result : SupadataSubmitResult) (providerUnits : ℕ) (billed : 0 < providerUnits)
  | polled (result : SupadataPollResult) (providerUnits : ℕ)
  | rejected (failureClass : String) (providerUnits : ℕ)

/-- `SupadataFailureEvidence`; the hashes of job identifiers go with the identifiers. -/
structure SupadataFailureEvidence where
  operation : SupadataOperation
  providerJobId : Option String
  providerUnits : ℕ

/-- The runs with their workers, the traces from the newest on, and the budget tables. -/
structure TranscriptWorld where
  runs : String → TranscriptRun
  workers : String → Option TranscriptWorker
  traces : List ProviderTrace
  tables : XBudgetTables

namespace TranscriptWorld

variable (world : TranscriptWorld)

/-- The run row is written. -/
def updateRun (runId : String) (write : TranscriptRun → TranscriptRun) : TranscriptWorld :=
  { world with runs := Function.update world.runs runId (write (world.runs runId)) }

/-- The worker of a run, or none. -/
def setWorker (runId : String) (worker : Option TranscriptWorker) : TranscriptWorld :=
  { world with workers := Function.update world.workers runId worker }

/-- The traces of a run, from the newest on. -/
def tracesOf (runId : String) : List ProviderTrace :=
  world.traces.filter (·.runId = runId)

/-- `max(sequence) + 1`. -/
def nextTraceSequence (runId : String) : ℕ :=
  ((world.tracesOf runId).map (·.sequence + 1)).max?.getD 0

/-- `INSERT` of a trace; its sequence is unique in its run. -/
def insertTrace (trace : ProviderTrace) : Except String TranscriptWorld := do
  throwIf (∃ old ∈ world.tracesOf trace.runId, old.sequence = trace.sequence)
    "content_acquisition_provider_traces_run_sequence_key"
  return { world with traces := trace :: world.traces }

/-- `reconcileReservedProviderBudget` for Supadata credits. -/
def reconcileCredits (runId : String) (actualUnits : ℚ) (dbNow : ℤ) :
    Except String (TranscriptWorld × Bool) := do
  let (tables, reconciled) ← reconcileReservedProviderBudget runId MediaProvider.supadata.scopeKey
    MediaProvider.supadata.unitKind actualUnits dbNow world.tables
  return ({ world with tables }, reconciled)

/-- `commitRunBudgets` and `releaseXRunBudgets`. -/
def transitionBudgets (runId : String) (committed : Bool) (dbNow : ℤ) :
    Except String TranscriptWorld := do
  let (tables, _) ← transitionRunBudgets runId committed dbNow world.tables
  return { world with tables }

/-- `beginFormalRun`: nothing else is done in a run that is not pending. -/
def beginFormalRun (runId : String) : TranscriptWorld :=
  let run := world.runs runId
  if run.status = .pending then
    (world.updateRun runId fun run => { run with status := .running }).setWorker runId
      (some
        { providerJobId := run.providerJobId
          providerUnits := run.providerUnits.getD 0
          providerTraceSequence := world.nextTraceSequence runId
          mayCall := run.providerJobId.isSome })
  else world

/-- `!value.trim() || value.length > 512`. -/
def invalidJobId (jobId : String) : Prop := trimText jobId = "" ∨ 512 < utf16Length jobId

instance (jobId : String) : Decidable (invalidJobId jobId) :=
  inferInstanceAs (Decidable (_ ∨ _))

/-- `parkFormalRunForProviderPoll`. -/
def parkFormalRunForProviderPoll (runId providerJobId : String) (providerUnits : ℚ)
    (nextPollAt dbNow : ℤ) (sequence : ℕ) (operation : SupadataOperation)
    (terminalState : TraceTerminalState) (commitReservedCredits : Bool) :
    Except String TranscriptWorld := do
  throwIf (invalidJobId providerJobId) "Provider job ID is invalid"
  throwIf (providerUnits < 0) "Provider units must be non-negative"
  throwIf (nextPollAt ≤ dbNow) "Provider next poll time must be in the future"
  let run := world.runs runId
  if run.status ≠ .running then return world
  else
    throwIf (∃ jobId ∈ run.providerJobId, jobId ≠ providerJobId)
      "Formal run cannot be rebound to another provider job"
    let existingUnits := run.providerUnits.getD 0
    throwIf (existingUnits < 0) "Persisted provider units are invalid"
    let billed ← if commitReservedCredits then do
        throwIf (run.providerJobId ≠ none ∨ providerUnits ≤ 0)
          "Only the first billed provider submission may commit reserved credits"
        let (reconciled, found) ← world.reconcileCredits runId providerUnits dbNow
        throwIf (found = false) "Supadata submission has no reserved credit budget"
        reconciled.transitionBudgets runId true dbNow
      else .ok world
    let traced ← billed.insertTrace { runId, sequence, operation, providerUnits, terminalState }
    return traced.updateRun runId fun run =>
      { run with
        status := .pending, providerJobId := some providerJobId
        providerUnits := some (existingUnits + providerUnits) }

/-- What `persistAcquisitionResult` writes to the traces, the budgets and the run. -/
def persistProviderResult (runId : String) (state : RunStatus) (trace : ProviderTrace)
    (totalProviderUnits : ℚ) (dbNow : ℤ) : Except String TranscriptWorld := do
  throwIf ((world.runs runId).status ≠ .running) "Acquisition run is not RUNNING"
  let traced ← world.insertTrace trace
  let (reconciled, _) ← traced.reconcileCredits runId totalProviderUnits dbNow
  let committed ← reconciled.transitionBudgets runId true dbNow
  return committed.updateRun runId fun run =>
    { run with
      status := state, providerUnits := some totalProviderUnits, completedAt := some dbNow }

/-- The evidence of a failure does not belong to the run. -/
def invalidEvidence (run : TranscriptRun) (evidence : SupadataFailureEvidence) : Prop :=
  evidence.operation ≠ (if run.providerJobId.isSome then .poll else .submit) ∨
    (run.providerJobId.isSome ∧ evidence.providerJobId ≠ run.providerJobId) ∨
    (∃ jobId ∈ evidence.providerJobId, invalidJobId jobId) ∨ evidence.providerUnits < 1

instance (run : TranscriptRun) (evidence : SupadataFailureEvidence) :
    Decidable (invalidEvidence run evidence) :=
  inferInstanceAs (Decidable (_ ∨ (_ ∧ _) ∨ (∃ jobId ∈ evidence.providerJobId, _) ∨ _))

/-- `failFormalRun`, with evidence of a billed answer or without. -/
def failFormalRun (runId failureClass : String) (evidence : Option SupadataFailureEvidence)
    (dbNow : ℤ) : Except String TranscriptWorld :=
  let run := world.runs runId
  if ¬ run.status.Open then .ok world
  else match evidence with
    | some evidence => do
      throwIf (invalidEvidence run evidence)
        "Failed Supadata run has invalid billable provider evidence"
      let existingUnits := run.providerUnits.getD 0
      throwIf (existingUnits < 0) "Failed Supadata run has invalid persisted provider units"
      let total := existingUnits + evidence.providerUnits
      let (reconciled, found) ← world.reconcileCredits runId total dbNow
      throwIf (found = false) "Billed Supadata failure has no reserved credit budget"
      let committed ← reconciled.transitionBudgets runId true dbNow
      let traced ← committed.insertTrace
        { runId, sequence := committed.nextTraceSequence runId, operation := evidence.operation
          providerUnits := evidence.providerUnits, terminalState := .failure failureClass }
      return traced.updateRun runId fun run =>
        { run with
          status := .failed, providerJobId := evidence.providerJobId.or run.providerJobId
          providerUnits := some total, completedAt := some dbNow }
    | none => do
      let released ← world.transitionBudgets runId false dbNow
      return released.updateRun runId fun run =>
        { run with status := .failed, completedAt := some dbNow }

/-- `deferFormalRunForBudget`. -/
def deferFormalRunForBudget (runId : String) (dbNow : ℤ) : Except String TranscriptWorld :=
  if ¬ (world.runs runId).status.Open then .ok world
  else do
    let released ← world.transitionBudgets runId false dbNow
    return released.updateRun runId fun run =>
      { run with status := .budgetDeferred, completedAt := some dbNow }

/-- `recoverFailedProviderPoll`. -/
def recoverFailedProviderPoll (runId : String) (dbNow : ℤ) : TranscriptWorld :=
  let run := world.runs runId
  if run.status ≠ .failed ∨ run.providerJobId = none then world
  else if 2 ≤ run.providerPollRecoveries then world
  else if dbNow < run.completedAt.getD run.createdAt + (run.providerPollRecoveries + 1) * 60000 then
    world
  else
    world.updateRun runId fun run =>
      { run with
        status := .pending, completedAt := none
        providerPollRecoveries := run.providerPollRecoveries + 1 }

/-! ### The worker -/

/-- The worker's call has thrown: the run fails, and the worker ends either way. -/
def fail (runId failureClass : String) (evidence : Option SupadataFailureEvidence) (dbNow : ℤ) :
    TranscriptWorld :=
  (commit (fun world => world.failFormalRun runId failureClass evidence dbNow) world).setWorker
    runId none

/-- What a worker does before its first call: it reserves credits, and the run is deferred when
they do not fit. -/
def reserveCredits (request : MediaBudgetRequest) (expectedCredits dailyCreditLimit : ℤ) :
    Except String TranscriptWorld := do
  let (tables, result) ←
    reserveSupadataCreditBudget request expectedCredits dailyCreditLimit world.tables
  let reserved : TranscriptWorld := { world with tables }
  if result.reserved then
    return reserved.setWorker request.runId
      ((world.workers request.runId).map fun worker => { worker with mayCall := true })
  else
    let deferred ← reserved.deferFormalRunForBudget request.runId request.dbNow
    return deferred.setWorker request.runId none

/-- The evidence of an answer, when it was billed. -/
def evidenceOf (operation : SupadataOperation) (providerJobId : Option String)
    (providerUnits : ℕ) : Option SupadataFailureEvidence :=
  if 0 < providerUnits then some { operation, providerJobId, providerUnits } else none

/-- The state a submission is persisted in: only a transcript completes the run, and without a
new revision it has brought no change. -/
def persistedState (completed revised : Bool) : RunStatus :=
  if completed then (if revised then .completed else .checkedNoChange) else .contentDeferred

/-- The times of an answer, and what the rest of its transaction does: the failure class of an
error it throws, and whether it adds a revision. -/
structure AnswerStoring where
  dbNow : ℤ
  nextPollAt : ℤ
  thrown : Option String
  revised : Bool

/-- The result of a submission is stored: the run is parked for a poll, or its result persisted. -/
def storeSubmit (runId : String) (worker : TranscriptWorker) (result : SupadataSubmitResult)
    (providerUnits : ℕ) (storing : AnswerStoring) : Except String TranscriptWorld := do
  throwIf storing.thrown.isSome (storing.thrown.getD "")
  let persist (completed : Bool) (terminalState : TraceTerminalState) :=
    world.persistProviderResult runId (persistedState completed storing.revised)
      { runId, sequence := worker.providerTraceSequence, operation := .submit
        providerUnits, terminalState }
      (worker.providerUnits + providerUnits) storing.dbNow
  match result with
  | .pending jobId =>
    world.parkFormalRunForProviderPoll runId jobId providerUnits storing.nextPollAt storing.dbNow
      worker.providerTraceSequence .submit .submitted true
  | .completed => persist true .completed
  | .empty => persist false .empty
  | .unavailable => persist false .unavailable

/-- The result of a poll is stored: the run is parked again, or its result persisted. -/
def storePoll (runId jobId : String) (worker : TranscriptWorker) (result : SupadataPollResult)
    (providerUnits : ℕ) (storing : AnswerStoring) : Except String TranscriptWorld := do
  throwIf storing.thrown.isSome (storing.thrown.getD "")
  let persist (completed : Bool) (terminalState : TraceTerminalState) :=
    world.persistProviderResult runId (persistedState completed storing.revised)
      { runId, sequence := worker.providerTraceSequence, operation := .poll
        providerUnits, terminalState }
      (worker.providerUnits + providerUnits) storing.dbNow
  match result with
  | .pending status =>
    world.parkFormalRunForProviderPoll runId jobId providerUnits storing.nextPollAt storing.dbNow
      worker.providerTraceSequence .poll status.terminalState false
  | .completed => persist true .completed
  | .empty => persist false .empty
  | .failed => persist false .failed

/-- The job of a submission that is pending. -/
def pendingJob : SupadataSubmitResult → Option String
  | .pending jobId => some jobId
  | .completed | .empty | .unavailable => none

/-- A result is stored, or the run fails with the evidence of the result. -/
def settle (runId : String) (stored : Except String TranscriptWorld)
    (evidence : Option SupadataFailureEvidence) (storing : AnswerStoring) : TranscriptWorld :=
  match stored with
  | .ok stored => stored.setWorker runId none
  | .error _ =>
    world.fail runId (storing.thrown.getD "ADAPTER_FAILED") evidence storing.dbNow

/-- What a worker does with the answer to its call. -/
def receive (runId : String) (worker : TranscriptWorker) (answer : SupadataAnswer)
    (storing : AnswerStoring) : TranscriptWorld :=
  match answer, worker.providerJobId with
  | .submitted result providerUnits _, none =>
    world.settle runId (world.storeSubmit runId worker result providerUnits storing)
      (evidenceOf .submit (pendingJob result) providerUnits) storing
  | .polled result providerUnits, some jobId =>
    world.settle runId (world.storePoll runId jobId worker result providerUnits storing)
      (evidenceOf .poll (some jobId) providerUnits) storing
  | .rejected failureClass providerUnits, none =>
    world.fail runId failureClass (evidenceOf .submit none providerUnits) storing.dbNow
  | .rejected failureClass providerUnits, some jobId =>
    world.fail runId failureClass (evidenceOf .poll (some jobId) providerUnits) storing.dbNow
  | .submitted _ _ _, some _ | .polled _ _, none => world

end TranscriptWorld

/-- The steps of transcript runs. -/
inductive TranscriptAction where
  | beginRun (runId : String)
  | reserve (request : MediaBudgetRequest) (expectedCredits dailyCreditLimit : ℤ)
  | answer (runId : String) (answer : SupadataAnswer) (storing : TranscriptWorld.AnswerStoring)
  | abort (runId failureClass : String) (dbNow : ℤ)
  | recover (runId : String) (dbNow : ℤ)

/-- A step: a worker's next transaction, an error elsewhere in the worker, or a recovery. -/
def transcriptStep (world : TranscriptWorld) : TranscriptAction → TranscriptWorld
  | .beginRun runId => world.beginFormalRun runId
  | .reserve request expectedCredits dailyCreditLimit =>
    match world.workers request.runId with
    | some worker =>
      if worker.mayCall then world
      else
        match world.reserveCredits request expectedCredits dailyCreditLimit with
        | .ok reserved => reserved
        | .error _ => world.fail request.runId "ADAPTER_FAILED" none request.dbNow
    | none => world
  | .answer runId answer storing =>
    match world.workers runId with
    | some worker => if worker.mayCall then world.receive runId worker answer storing else world
    | none => world
  | .abort runId failureClass dbNow =>
    match world.workers runId with
    | some _ => world.fail runId failureClass none dbNow
    | none => world
  | .recover runId dbNow => world.recoverFailedProviderPoll runId dbNow

end LetletmeData
