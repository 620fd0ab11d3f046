import LetletmeData.Content.ReceiptRevisions

/-!
# Closing a run

The part of `persistAcquisitionResult` that follows the revision loop: triggered runs, the declared
gap, the budgets of the run, its schedule and its row.
-/

namespace LetletmeData

open LetletmeData.Library

variable (texts : ContentTexts)

/-! ### Triggered runs -/

/-- `childTarget`. -/
structure ChildTarget where
  endpointId : Option String
  partitionId : Option String
  sourceSnapshot : Json
  endpointSnapshot : Json
  targetReceiptId : Option String
  targetReceiptRevisionId : Option String

/-- What the kinds of jobs on a discovered item differ in: the queue, whether the parent must be a
run of an endpoint, and the words of the errors. -/
structure DiscoveryJob where
  queueName : TriggeredQueue
  requiresEndpoint : Bool
  queueError : String
  endpointError : String
  escapeError : String
  bindError : String
  targetError : String

/-- The branch of `ARTICLE_FETCH`. -/
def articleJob : DiscoveryJob where
  queueName := .httpAcquisition
  requiresEndpoint := false
  queueError := "Triggered article must target the formal HTTP queue"
  endpointError := "Triggered article endpoint does not match persisted acquisition facts"
  escapeError := "Triggered article cannot escape its parent endpoint"
  bindError := "Triggered article request is not bound to an accepted parent item"
  targetError := "Triggered article target ReceiptRevision is missing"

/-- The branch of `PODCAST_TRANSCRIPT`. -/
def podcastJob : DiscoveryJob where
  queueName := .mediaTranscript
  requiresEndpoint := true
  queueError := "Triggered Podcast transcript must target the media queue"
  endpointError := "Triggered Podcast endpoint does not match persisted acquisition facts"
  escapeError := "Triggered Podcast transcript cannot escape its parent feed endpoint"
  bindError := "Triggered Podcast request is not bound to an accepted parent episode"
  targetError := "Triggered Podcast target ReceiptRevision is missing"

/-- The branch of `YOUTUBE_METADATA` and `YOUTUBE_TRANSCRIPT`. -/
def youtubeJob : DiscoveryJob where
  queueName := .httpAcquisition
  requiresEndpoint := true
  queueError := "Triggered YouTube work must target the formal HTTP queue"
  endpointError := "Triggered YouTube endpoint does not match persisted acquisition facts"
  escapeError := "Triggered YouTube work cannot escape its parent channel endpoint"
  bindError := "Triggered YouTube request is not bound to an accepted parent video"
  targetError := "Triggered YouTube target ReceiptRevision is missing"

/-- The target of a job on a discovered item; there is none when its receipt was not revised. -/
def discoveryTarget (job : DiscoveryJob) (run : FormalRun)
    (endpoints : List (String × SourceEndpoint)) (workItems : List CanonicalWorkItem)
    (loop : RevisionLoop) (queueName : TriggeredQueue) (snapshot : EndpointSnapshot)
    (endpointSnapshot : Json) (item : AcquisitionItem) : Except String (Option ChildTarget) := do
  throwIf (queueName ≠ job.queueName) job.queueError
  let endpoint ← orThrow (endpoints.lookup snapshot.endpointKey) job.endpointError
  throwIf (endpoint.endpointId ≠ snapshot.endpointId) job.endpointError
  throwIf (if run.endpointId.isNone then job.requiresEndpoint = true
    else run.endpointId ≠ some endpoint.endpointId) job.escapeError
  let key := receiptKey endpoint.sourceKey item.contentKind item.externalItemId
  let work ← orThrow (workItems.find? fun work => work.receiptKey = key) job.bindError
  throwIf (work.canonicalHash texts ≠ (canonicalAcquisitionItem texts item).hash texts)
    job.bindError
  if key ∉ loop.revisedReceiptKeys then return none
  else
    let target ← orThrow (loop.persistedReceiptByKey.lookup key) job.targetError
    return some
      { endpointId := some endpoint.endpointId, partitionId := none
        sourceSnapshot := .array [.object [("sourceId", .string endpoint.sourceId),
          ("sourceKey", .string endpoint.sourceKey)]]
        endpointSnapshot, targetReceiptId := some target.receiptId
        targetReceiptRevisionId := some target.receiptRevisionId }

/-- The target of a follow-up scan of the partition of the run. -/
def followUpTarget (input : PersistAcquisitionInput) (run : FormalRun) (queueName : TriggeredQueue)
    (request : FormalRunRequest) (partition : PartitionSnapshot) :
    Except String (Option ChildTarget) := do
  throwIf (queueName ≠ .xScan) "Triggered X follow-up must target the formal X queue"
  throwIf (run.partitionId.isNone = true ∨ run.parentRunId.isSome = true)
    "Only a recurring partition run may create one X saturation follow-up"
  throwIf (some partition.partitionId ≠ run.partitionId ∨ request.adapterKind ≠ run.adapterKind ∨
      request.profileKey ≠ run.profileKey ∨ request.profileRevision ≠ run.profileRevision ∨
      sha256CanonicalJson texts partition.snapshot ≠ sha256CanonicalJson texts run.endpointSnapshot)
    "Triggered X follow-up does not match its parent partition snapshot"
  throwIf (¬ ∃ windowStart ∈ run.windowStart, ∃ windowEnd ∈ run.windowEnd,
      windowStart ≤ request.windowStart ∧ request.windowEnd < windowEnd ∧
        request.windowStart ≤ request.windowEnd)
    "Triggered X follow-up window is not a bounded earlier subwindow"
  throwIf (input.triggeredXBudget.isNone = true)
    "Triggered X follow-up requires an explicit budget policy"
  return some
    { endpointId := none, partitionId := run.partitionId, sourceSnapshot := run.sourceSnapshot
      endpointSnapshot := partition.snapshot, targetReceiptId := none
      targetReceiptRevisionId := none }

/-- The target of a triggered job, by its kind. -/
def childTarget (input : PersistAcquisitionInput) (run : FormalRun)
    (endpoints : List (String × SourceEndpoint)) (workItems : List CanonicalWorkItem)
    (loop : RevisionLoop) (queueName : TriggeredQueue) (request : FormalRunRequest) :
    Except String (Option ChildTarget) :=
  let unsupported : Except String (Option ChildTarget) :=
    .error ("Unsupported triggered acquisition job " ++ request.jobKind.text)
  let endpointSnapshot := recordField "endpoint" request.snapshot
  match request.jobKind, request.target with
  | .articleFetch, .endpoint endpoint (some item) =>
    discoveryTarget texts articleJob run endpoints workItems loop queueName endpoint
      endpointSnapshot item
  | .podcastTranscript, .endpoint endpoint (some item) =>
    discoveryTarget texts podcastJob run endpoints workItems loop queueName endpoint
      endpointSnapshot item
  | .youtubeMetadata, .endpoint endpoint (some item)
  | .youtubeTranscript, .endpoint endpoint (some item) =>
    discoveryTarget texts youtubeJob run endpoints workItems loop queueName endpoint
      endpointSnapshot item
  | .xKeywordScan, .partition partition | .xSemanticScan, .partition partition =>
    followUpTarget texts input run queueName request partition
  | _, _ => unsupported

/-- The searches of X among the jobs. -/
def FormalJobKind.IsXScan (kind : FormalJobKind) : Prop :=
  kind = .xKeywordScan ∨ kind = .xSemanticScan

instance (kind : FormalJobKind) : Decidable kind.IsXScan := inferInstanceAs (Decidable (_ ∨ _))

/-- The row of a triggered run. -/
def childRun (call : PersistCall) (request : FormalRunRequest) (requestHash : String)
    (target : ChildTarget) : FormalRun where
  status := .pending
  endpointId := target.endpointId
  partitionId := target.partitionId
  scheduleId := none
  parentRunId := some call.input.runId
  adapterKind := request.adapterKind
  jobKind := request.jobKind
  profileKey := request.profileKey
  profileRevision := request.profileRevision
  windowStart := some request.windowStart
  windowEnd := some request.windowEnd
  request := some request
  requestHash := requestHash
  attemptNo := 1
  sourceSnapshot := target.sourceSnapshot
  endpointSnapshot := target.endpointSnapshot
  targetReceiptId := target.targetReceiptId
  targetReceiptRevisionId := target.targetReceiptRevisionId
  leaseExpiresAt := if request.jobKind.IsXScan then some (call.dbNow + 6 * 60000) else none
  failureClass := none
  outcome := none

/-- Triggered runs so far. -/
structure TriggerLoop where
  tables : FormalTables
  triggeredJobCount : ℕ

/-- The budget of a follow-up is reserved, or the run is deferred and its window is a gap. The flag
tells whether the job is dispatched. -/
def reserveFollowUp (call : PersistCall) (run : FormalRun) (place : ℕ) (childRunId : String)
    (request : FormalRunRequest) (tables : FormalTables) : Except String (FormalTables × Bool) :=
  match call.input.triggeredXBudget with
  | none => .ok (tables, true)
  | some (policy, lane) => do
    let (budgets, budget) ← reserveXRunBudgets
      { runId := childRunId, phase := request.phase, lane := .acquisition lane
        dbNow := call.dbNow, policy, units := 1, separateReservation := false
        newIds := call.reservationIds place, firstRow := call.firstRow } tables.budgets
    if budget.reserved then return ({ tables with budgets }, true)
    else
      return ({ tables with
        budgets
        runs := tables.runs.updateWhere (fun id _ => id = childRunId) fun row =>
          { row with
            status := .budgetDeferred, leaseExpiresAt := none
            outcome := some
              { resultCount := 0, rejectedCount := 0
                runMetrics := .object [("deferredScope", nullable .string budget.deferredScope),
                  ("remainingBeforeReservation",
                    .number (texts.numberText budget.remainingBeforeReservation))]
                provider := none, providerUnits := none, xCallCount := 0, traceVerified := false
                checkpointAdvanced := false, completedAt := call.dbNow } }
        gaps := tables.gaps ++ [{
          declaringRunId := childRunId, endpointId := none, partitionId := run.partitionId
          windowStart := request.windowStart, windowEnd := request.windowEnd
          reason := "SATURATION_FOLLOWUP_BUDGET_DEFERRED" }] }, false)

/-- One pass of the loop over the triggered jobs. -/
def triggerJob (call : PersistCall) (run : FormalRun) (endpoints : List (String × SourceEndpoint))
    (workItems : List CanonicalWorkItem) (revised : RevisionLoop) (loop : TriggerLoop)
    (entry : TriggeredContentJob × ℕ) : Except String TriggerLoop := do
  let (triggered, place) := entry
  throwIf (triggered.priority < 1 ∨ 1000 < triggered.priority)
    "Triggered acquisition priority must be an integer from 1 to 1000"
  let request ← orThrow triggered.request "Formal run request is invalid"
  match ← childTarget texts call.input run endpoints workItems revised triggered.queueName request
  with
  | none => return loop
  | some target =>
    let requestHash := sha256CanonicalJson texts request.snapshot
    if ∃ entry ∈ loop.tables.runs.entries, entry.2.jobKind = request.jobKind ∧
        entry.2.requestHash = requestHash ∧ entry.2.attemptNo = 1 then return loop
    else
      let childRunId := call.childRunIds place
      let jobId := "content-trigger-" ++ sha256CanonicalJson texts
        (.object [("parentRunId", .string call.input.runId), ("requestHash", .string requestHash)])
      let runs ← insertUnique loop.tables.runs childRunId
        (childRun call request requestHash target) "acquisition_runs_pkey"
      let inserted := { loop.tables with runs }
      let (tables, dispatched) ←
        if request.jobKind.IsXScan then
            reserveFollowUp texts call run place childRunId request inserted
        else .ok (inserted, true)
      if dispatched = false then return { loop with tables }
      else
        let jobs ← insertUnique tables.jobs childRunId
          { queueName := triggered.queueName, jobId, priority := triggered.priority
            availableAt := triggered.availableAt.getD call.dbNow }
          "content_acquisition_job_outbox_run_key"
        return ⟨{ tables with jobs }, loop.triggeredJobCount + 1⟩

/-! ### The end of the run -/

/-- The identity evidence is stored. -/
def storeIdentityEvidence (input : PersistAcquisitionInput) (tables : FormalTables) :
    FormalTables :=
  { tables with
    endpoints := input.endpointIdentityEvidence.foldl (fun endpoints evidence =>
      endpoints.updateWhere (fun key _ => key = evidence.1) fun endpoint =>
        { endpoint with stableExternalId := some evidence.2 }) tables.endpoints }

/-- The sequences of traces are unique and not negative. -/
def checkTraceSequences (kind : String) (sequences : List ℤ) : Except String Unit :=
  throwIf (¬ sequences.Nodup ∨ ∃ sequence ∈ sequences, sequence < 0)
    (kind ++ " trace sequences must be unique non-negative integers")

/-- The declared gap is stored. -/
def storeGap (input : PersistAcquisitionInput) (run : FormalRun) (tables : FormalTables) :
    Except String FormalTables :=
  match input.acquisitionGap with
  | none => .ok tables
  | some gap => do
    throwIf (input.state ∉ [.gap, .partialResult, .saturated])
      "Acquisition gap requires terminal PARTIAL, GAP, or SATURATED state"
    let windowStart ← orThrow gap.windowStart "Acquisition gap window is invalid"
    let windowEnd ← orThrow gap.windowEnd "Acquisition gap window is invalid"
    throwIf (windowEnd < windowStart) "Acquisition gap window is invalid"
    throwIf (∃ hash ∈ gap.detailsHash, hash ≠ "" ∧ ¬ IsHexDigest hash)
      "Acquisition gap details hash is invalid"
    return { tables with
      gaps := tables.gaps ++ [{
        declaringRunId := input.runId, endpointId := run.endpointId, partitionId := run.partitionId
        windowStart, windowEnd, reason := gap.reason }] }

/-- The state a run ends in: without a new revision nothing has changed. -/
def derivedState (state : PersistedAcquisitionState) (revisionCount : ℕ) :
    PersistedAcquisitionState :=
  if state = .completed ∧ revisionCount = 0 then .checkedNoChange else state

/-- The budgets of the run are reconciled and committed. -/
def settleBudgets (call : PersistCall) (budgets : XBudgetTables) : Except String XBudgetTables := do
  let input := call.input
  let reconciled ←
    match input.providerResult with
    | some ⟨"supadata", some units⟩ =>
      Prod.fst <$> reconcileReservedProviderBudget input.runId "SUPADATA_TRANSCRIPT" "CREDIT" units
        call.dbNow budgets
    | _ => .ok budgets
  let (committed, committedReservations) ←
    transitionRunBudgets input.runId true call.dbNow reconciled
  throwIf (input.providerResult.map (·.provider) = some "grok-build" ∧ committedReservations = 0)
    "Attested formal X result has no reserved budget"
  return committed

/-- `scheduleUpdate`. -/
def updatedSchedule (call : PersistCall) (nextDueAt : ℤ) (schedule : ResultSchedule) :
    ResultSchedule :=
  let validator := (call.input.batches.head?).map (·.validator)
  { leaseOwner := none
    leaseExpiresAt := none
    nextDueAt
    failureStreak := 0
    circuitState := .closed
    probeAfter := none
    validator := validator.or schedule.validator
    cacheNotBefore :=
      match validator with
      | none => schedule.cacheNotBefore
      | some validator => (validator.cacheNotBefore.filter (· ≠ "")).bind texts.dateParse
    checkpoint :=
      if call.input.checkpointComplete then call.input.checkpoint.getD (.object [])
      else schedule.checkpoint
    bootstrapCompletedAt :=
      if call.input.bootstrapCompleted then some call.dbNow else schedule.bootstrapCompletedAt
    updatedAt := call.dbNow }

/-- The schedule of a recurring run gets its next due time; the flag tells whether its checkpoint
has advanced. -/
def closeSchedule (call : PersistCall) (run : FormalRun) (tables : FormalTables) :
    Except String (FormalTables × Bool) :=
  match run.scheduleId with
  | some scheduleId => do
    let nextDueAt ← orThrow call.input.nextDueAt
      "Recurring terminal result requires a future nextDueAt"
    throwIf (nextDueAt < call.dbNow) "Recurring terminal result requires a future nextDueAt"
    return ({ tables with
      schedules := tables.schedules.updateWhere (fun id _ => id = scheduleId)
        (updatedSchedule texts call nextDueAt) }, call.input.checkpointComplete)
  | none => do
    throwIf (call.input.checkpointComplete = true)
      "Triggered run cannot advance a recurring schedule checkpoint"
    return (tables, false)

/-- The terminal update of the run, which must still be `RUNNING`. -/
def closeRun (call : PersistCall) (state : PersistedAcquisitionState) (outcome : RunOutcome)
    (tables : FormalTables) : Except String FormalTables := do
  throwIf (¬ ∃ run ∈ tables.runs.find call.input.runId, run.status = .running)
    "Acquisition run terminal transition was lost"
  return { tables with
    runs := tables.runs.updateWhere (fun id _ => id = call.input.runId) fun run =>
      { run with
        status := state.runStatus, leaseExpiresAt := none, failureClass := none
        -- a result without a provider leaves the columns of the provider as they are
        outcome := some { outcome with
          provider := outcome.provider.or (run.outcome.bind (·.provider))
          providerUnits := outcome.providerUnits.or (run.outcome.bind (·.providerUnits)) } } }

/-- What follows the revision loop. -/
def closeResult (call : PersistCall) (run : FormalRun) (endpoints : List (String × SourceEndpoint))
    (workItems : List CanonicalWorkItem) (revised : RevisionLoop) (tables : FormalTables) :
    Except String (FormalTables × PersistAcquisitionResult) := do
  let input := call.input
  checkTraceSequences "HTTP" input.httpTraceSequences
  let priorGrokTraceCount := tables.grokTraces.count input.runId
  checkTraceSequences "Provider" (input.providerTraces.map (·.sequence))
  let grokTraces := input.providerTraces.filter (·.provider = "grok-build")
  let identified := storeIdentityEvidence input { tables with
    grokTraces := tables.grokTraces ++ grokTraces.map fun _ => input.runId }
  let triggered ← input.triggeredJobs.zipIdx.foldlM
    (triggerJob texts call run endpoints workItems revised) ⟨identified, 0⟩
  let declared ← storeGap input run triggered.tables
  throwIf (input.state = .checkedNoChange ∧ 0 < revised.revisionCount)
    "CHECKED_NO_CHANGE cannot create a ReceiptRevision"
  throwIf (input.state = .empty ∧ 0 < revised.revisionCount)
    "EMPTY cannot create a ReceiptRevision"
  let budgets ← settleBudgets call declared.budgets
  let (scheduled, checkpointAdvanced) ← closeSchedule texts call run { declared with budgets }
  let state := derivedState input.state revised.revisionCount
  let closed ← closeRun call state
    { resultCount := workItems.length, rejectedCount := input.rejections.length
      runMetrics := input.runMetrics.getD (.object [])
      provider := input.providerResult.map (·.provider)
      providerUnits := input.providerResult.bind (·.providerUnits)
      xCallCount := priorGrokTraceCount + grokTraces.length
      traceVerified := grokTraces.any (·.terminalState = some "ATTESTED_FINAL")
      checkpointAdvanced, completedAt := call.dbNow } scheduled
  return (closed,
    { state, receiptCount := workItems.length, revisionCount := revised.revisionCount
      unchangedCount := revised.unchangedCount, rejectedCount := input.rejections.length
      outboxCount := revised.outboxCount, checkpointAdvanced
      triggeredJobCount := triggered.triggeredJobCount })

end LetletmeData
