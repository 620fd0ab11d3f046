import LetletmeData.Content.FeedAdapter
import LetletmeData.Library.Runs

/-!
# Polls of a feed

The history of one feed schedule: its server publishes documents, the scheduler claims runs, and
the worker of a run fetches the document with the validator of its request and persists what it
selected. The state keeps what each worker was answered and what was observed of each item.
-/

namespace LetletmeData

open LetletmeData.Library

/-- What a feed request asks for besides its window. -/
structure FeedRequest where
  validator : HttpValidator
  bootstrapEnabled : Bool
  cutoffAt : ℤ
  lookbackMinutes : ℕ
  maxItems : ℕ
  deriving DecidableEq

/-- A feed: its format, its profile and its server. -/
structure PolledFeed where
  format : FeedFormat
  profile : AcquisitionProfile
  server : FeedServer
  notX : ¬ profile.adapterKind.IsX

/-- `asString` of the stored parts of a validator. -/
def HttpValidator.sent (validator : HttpValidator) : HttpValidator :=
  ⟨validator.etag.filter (· ≠ ""), validator.lastModified.filter (· ≠ "")⟩

/-- The rest of a `FEED_POLL` request. -/
def feedRequest (profile : AcquisitionProfile) (dbNow : ℤ) (schedule : SourceSchedule) :
    FeedRequest where
  validator := schedule.validator.sent
  bootstrapEnabled := schedule.bootstrapCompletedAt.isNone
  cutoffAt := schedule.bootstrapCutoffAt.getD dbNow
  lookbackMinutes := profile.lookbackMinutes
  maxItems := profile.maxItems

/-- The metrics that a result leaves in the row of its run. -/
abbrev FeedTables := RecurringTables FeedRequest (Option FeedBootstrapMetrics)

/-- A run of a feed schedule. -/
abbrev FeedRun := AcquisitionRun FeedRequest (Option FeedBootstrapMetrics)

/-- What the worker of a run was answered: the document that the server had, and its answer. -/
structure FeedFetch where
  runId : ℕ
  checkedAt : ℤ
  cacheNotBefore : Option ℤ
  document : FeedDocument
  response : FeedResponse

/-- A row of `content.source_observations`: an item that was accepted, or why it was rejected. -/
structure FeedObservation where
  runId : ℕ
  externalItemId : String
  outcome : Except String FeedItem

/-- The state of the server and of the tables, the newest rows first. -/
structure FeedWorld where
  dbNow : ℤ
  document : FeedDocument
  tables : FeedTables
  fetches : List FeedFetch
  observations : List FeedObservation

/-- What can happen. -/
inductive FeedAction where
  | wait (elapsed : ℕ)
  | publish (document : FeedDocument)
  | claim (facts : ClaimFacts)
  | start (runId : ℕ)
  | fetch (runId : ℕ) (checkedAt : ℤ) (cacheNotBefore : Option ℤ)
  | finish (runId : ℕ)
  | fail (runId : ℕ)

/-- What the worker of a run was answered, if it was. -/
def FeedWorld.fetchOf (world : FeedWorld) (runId : ℕ) : Option FeedFetch :=
  world.fetches.find? fun fetch => fetch.runId = runId

/-- The scope of a request: that of the bootstrap, or the window of the poll. -/
def feedScope (request : RunRequest FeedRequest) : FeedScope :=
  if request.payload.bootstrapEnabled then
    ⟨request.payload.cutoffAt - minutes request.payload.lookbackMinutes, request.payload.cutoffAt,
      request.payload.maxItems⟩
  else ⟨request.window.windowStart, request.window.windowEnd, request.payload.maxItems⟩

/-- `FeedAdapterResult`. -/
structure FeedAdapterResult where
  stateHint : RunStatus
  items : List FeedItem
  rejections : List FeedItemRejection
  metrics : Option FeedBootstrapMetrics
  validator : HttpValidator
  deriving DecidableEq

/-- `runFeedAdapter`, once the answer is there. -/
def runFeedAdapter (format : FeedFormat) (request : RunRequest FeedRequest)
    (response : FeedResponse) : FeedAdapterResult :=
  match response with
  | .notModified validator => ⟨.checkedNoChange, [], [], none, validator⟩
  | .document nodes validator =>
    let parsed := parseFeedXml format (feedScope request) nodes
    let stateHint : RunStatus :=
      if parsed.items = [] then
        if 0 < parsed.metrics.skippedCount then .checkedNoChange else .empty
      else .completed
    ⟨stateHint, parsed.items, parsed.rejections, some parsed.metrics, validator⟩

/-- `assertResultSemantics`. -/
def assertResultSemantics (status : RunStatus) (itemCount rejectedCount : ℕ) :
    Except String Unit := do
  throwIf (status = .empty ∧ (itemCount ≠ 0 ∨ rejectedCount ≠ 0))
    "EMPTY requires a successful zero-item result"
  throwIf (status = .partialResult ∧ (itemCount = 0 ∨ rejectedCount = 0))
    "PARTIAL requires accepted and rejected items"
  throwIf (status = .completed ∧ itemCount = 0) "COMPLETED requires at least one valid item"
  throwIf (status = .saturated ∧ itemCount = 0) "SATURATED requires returned items"

/-- The status that a poll is persisted with. -/
def feedPollStatus (request : RunRequest FeedRequest) (result : FeedAdapterResult) :
    Except String RunStatus := do
  throwIf (result.rejections ≠ [] ∧ result.items = [])
    "Feed parser rejected every in-scope item"
  let feedWindowTruncated : Prop :=
    request.payload.bootstrapEnabled = false ∧ ∃ metrics ∈ result.metrics, 0 < metrics.itemLimitCount
  let status :=
    if request.payload.bootstrapEnabled = false ∧ result.rejections ≠ [] ∧ result.items ≠ [] then
      .partialResult
    else if feedWindowTruncated then .partialResult
    else result.stateHint
  assertResultSemantics status result.items.length result.rejections.length
  return status

/-- `nextDueAt`. -/
def nextDueAt (checkedAt : ℤ) (cadenceMinutes : ℕ) (cacheNotBefore : Option ℤ) : ℤ :=
  let cadence := checkedAt + minutes cadenceMinutes
  match cacheNotBefore with
  | some cache => if cadence < cache then cache else cadence
  | none => cadence

/-- The current revision of an item. -/
def currentItem (observations : List FeedObservation) (externalItemId : String) : Option FeedItem :=
  (observations.filter fun row => row.externalItemId = externalItemId).findSome? fun row =>
    match row.outcome with
    | .ok item => some item
    | .error _ => none

/-- `persistAcquisitionResult` of a poll. -/
def persistFeedPoll (feed : PolledFeed) (run : FeedRun) (fetch : FeedFetch) (world : FeedWorld) :
    Except String FeedWorld := do
  let result := runFeedAdapter feed.format run.request fetch.response
  let status ← feedPollStatus run.request result
  let checkpointComplete : Bool := status ≠ .partialResult
  let revised := ∃ item ∈ result.items,
    currentItem world.observations item.externalItemId ≠ some item
  let tables ← persistRecurringResult run.runId world.dbNow
    { status := if status = .completed ∧ ¬ revised then .checkedNoChange else status
      report := result.metrics
      nextDueAt :=
        nextDueAt fetch.checkedAt (feed.profile.cadenceMinutes run.request.phase)
          fetch.cacheNotBefore
      validator := some result.validator
      checkpoint :=
        if checkpointComplete then some ⟨fetch.checkedAt, run.request.window.windowEnd⟩ else none
      bootstrapCompleted := run.request.payload.bootstrapEnabled ∧ checkpointComplete
      gap := none }
    world.tables
  return {
    world with
    tables
    observations :=
      result.items.map (fun item => ⟨run.runId, item.externalItemId, .ok item⟩) ++
        result.rejections.map
          (fun rejection => ⟨run.runId, rejection.externalItemId, .error rejection.reasonCode⟩) ++
        world.observations }

/-- One step. A worker that cannot persist its result fails its run. -/
def feedStep (feed : PolledFeed) (world : FeedWorld) : FeedAction → FeedWorld
  | .wait elapsed => { world with dbNow := world.dbNow + elapsed }
  | .publish document => { world with document }
  | .claim facts =>
    { world with
      tables := commit
        (claimDueFormalRun feed.profile (feedRequest feed.profile) facts world.dbNow)
        world.tables }
  | .start runId => { world with tables := commit (beginFormalRun runId world.dbNow) world.tables }
  | .fetch runId checkedAt cacheNotBefore =>
    match world.tables.openRun runId with
    | none => world
    | some run =>
      -- a worker starts its run, then it fetches once
      if run.status ≠ .running ∨ world.fetchOf runId ≠ none then world
      else
        { world with
          fetches :=
            { runId
              checkedAt
              cacheNotBefore
              document := world.document
              response := feed.server.respond run.request.payload.validator world.document } ::
              world.fetches }
  | .finish runId =>
    match world.tables.openRun runId, world.fetchOf runId with
    | some run, some fetch =>
      match persistFeedPoll feed run fetch world with
      | .ok written => written
      | .error _ =>
        { world with tables := failFormalRun feed.profile runId world.dbNow world.tables }
    | _, _ => world
  | .fail runId =>
    { world with tables := failFormalRun feed.profile runId world.dbNow world.tables }

/-- A schedule that has not been polled yet. -/
def FeedWorld.initial (dbNow nextDueAt : ℤ) (document : FeedDocument) : FeedWorld where
  dbNow := dbNow
  document := document
  tables :=
    { schedule :=
        { checkpoint := none
          validator := .empty
          bootstrapCompletedAt := none
          bootstrapCutoffAt := none
          nextDueAt := nextDueAt
          failureStreak := 0
          leaseOwner := none
          leaseExpiresAt := none
          circuitState := .closed
          probeAfter := none }
      runs := []
      gaps := [] }
  fetches := []
  observations := []

end LetletmeData
