import LetletmeData.Content.AcquisitionItems
import LetletmeData.Content.RecurringRuns
import LetletmeData.Content.XBudget
import LetletmeData.Library.KeyedTables

/-!
# Acquisition results

A worker hands the result of a run to `persistAcquisitionResult`: batches of items, rejected items
and what becomes of the run. The result is checked against the run and its request, and the items
of all endpoints are merged by the receipt they belong to. What is stored of transcripts and of
traces beside their count is left out.
-/

namespace LetletmeData

open LetletmeData.Library

/-! ### Requests and rows -/

/-- `adapterKind` of a formal run. -/
inductive FormalAdapterKind where
  | xAccount
  | xSemantic
  | rssAtom
  | podcastFeed
  | youtubeChannel
  | articleHttp
  | hermesTranscript
  | supadataTranscript
  deriving DecidableEq

/-- `jobKind` of a formal run. -/
inductive FormalJobKind where
  | feedPoll
  | xKeywordScan
  | xSemanticScan
  | xThreadFetch
  | xIdentity
  | articleFetch
  | podcastTranscript
  | youtubeMetadata
  | youtubeTranscript
  deriving DecidableEq

/-- The text of a kind. -/
def FormalJobKind.text : FormalJobKind → String
  | feedPoll => "FEED_POLL"
  | xKeywordScan => "X_KEYWORD_SCAN"
  | xSemanticScan => "X_SEMANTIC_SCAN"
  | xThreadFetch => "X_THREAD_FETCH"
  | xIdentity => "X_IDENTITY"
  | articleFetch => "ARTICLE_FETCH"
  | podcastTranscript => "PODCAST_TRANSCRIPT"
  | youtubeMetadata => "YOUTUBE_METADATA"
  | youtubeTranscript => "YOUTUBE_TRANSCRIPT"

/-- The fields of an endpoint snapshot that persisting reads. -/
structure EndpointSnapshot where
  endpointId : String
  endpointKey : String
  sourceId : String
  sourceKey : String
  rightsPolicy : Json

/-- `partition` of a request; the snapshot is the value it was parsed from. -/
structure PartitionSnapshot where
  partitionId : String
  members : List EndpointSnapshot
  snapshot : Json

/-- What a request is about. -/
inductive RequestTarget where
  | endpoint (endpoint : EndpointSnapshot) (discoveryItem : Option AcquisitionItem)
  | partition (partition : PartitionSnapshot)

/-- `FormalRunRequestV1` in the fields that persisting reads; the snapshot is the value it was
parsed from. -/
structure FormalRunRequest where
  jobKind : FormalJobKind
  adapterKind : FormalAdapterKind
  phase : AcquisitionPhase
  profileKey : String
  profileRevision : ℕ
  windowStart : ℤ
  windowEnd : ℤ
  target : RequestTarget
  snapshot : Json

/-- `immutableEndpoints`. -/
def FormalRunRequest.immutableEndpoints (request : FormalRunRequest) : List EndpointSnapshot :=
  match request.target with
  | .endpoint endpoint _ => [endpoint]
  | .partition partition => partition.members

/-- `request.partition.partitionId`, if there is a partition. -/
def FormalRunRequest.partitionId (request : FormalRunRequest) : Option String :=
  match request.target with
  | .endpoint _ _ => none
  | .partition partition => some partition.partitionId

/-- `immutableEndpointByKey.get`. -/
def FormalRunRequest.immutableEndpointByKey (request : FormalRunRequest) (endpointKey : String) :
    Option EndpointSnapshot :=
  request.immutableEndpoints.reverse.find? fun endpoint => endpoint.endpointKey = endpointKey

/-- What a result leaves in the row of its run. -/
structure RunOutcome where
  resultCount : ℕ
  rejectedCount : ℕ
  runMetrics : Json
  provider : Option String
  providerUnits : Option ℚ
  xCallCount : ℕ
  traceVerified : Bool
  checkpointAdvanced : Bool
  completedAt : ℤ

/-- A row of `content.acquisition_runs`; a request snapshot that does not parse is missing. -/
structure FormalRun where
  status : RunStatus
  endpointId : Option String
  partitionId : Option String
  scheduleId : Option String
  parentRunId : Option String
  adapterKind : FormalAdapterKind
  jobKind : FormalJobKind
  profileKey : String
  profileRevision : ℕ
  windowStart : Option ℤ
  windowEnd : Option ℤ
  request : Option FormalRunRequest
  requestHash : String
  attemptNo : ℕ
  sourceSnapshot : Json
  endpointSnapshot : Json
  targetReceiptId : Option String
  targetReceiptRevisionId : Option String
  leaseExpiresAt : Option ℤ
  failureClass : Option String
  outcome : Option RunOutcome

/-- `status` of an endpoint. -/
inductive EndpointStatus where
  | active
  | paused
  | observed
  | dormant
  deriving DecidableEq

/-- A row of `content.source_endpoints` with the key of its source; `handle` is the handle in its
locator. -/
structure SourceEndpoint where
  endpointId : String
  sourceId : String
  sourceKey : String
  rightsPolicy : Json
  stableExternalId : Option String
  adapterKind : FormalAdapterKind
  handle : Option String
  status : EndpointStatus

/-- A row of `content.source_schedules` as a result writes it. -/
structure ResultSchedule where
  leaseOwner : Option String
  leaseExpiresAt : Option ℤ
  nextDueAt : ℤ
  failureStreak : ℕ
  circuitState : CircuitState
  probeAfter : Option ℤ
  validator : Option BatchValidator
  cacheNotBefore : Option ℤ
  checkpoint : Json
  bootstrapCompletedAt : Option ℤ
  updatedAt : ℤ

/-! ### Results -/

/-- `PersistedAcquisitionState`. -/
inductive PersistedAcquisitionState where
  | empty
  | checkedNoChange
  | completed
  | partialResult
  | saturated
  | gap
  | contentDeferred
  deriving DecidableEq

/-- The text of a state. -/
def PersistedAcquisitionState.text : PersistedAcquisitionState → String
  | empty => "EMPTY"
  | checkedNoChange => "CHECKED_NO_CHANGE"
  | completed => "COMPLETED"
  | partialResult => "PARTIAL"
  | saturated => "SATURATED"
  | gap => "GAP"
  | contentDeferred => "CONTENT_DEFERRED"

/-- The status of a run that ends in a state. -/
def PersistedAcquisitionState.runStatus : PersistedAcquisitionState → RunStatus
  | empty => .empty
  | checkedNoChange => .checkedNoChange
  | completed => .completed
  | partialResult => .partialResult
  | saturated => .saturated
  | gap => .gap
  | contentDeferred => .contentDeferred

/-- `AcquisitionItemRejection`. -/
structure AcquisitionItemRejection where
  endpointKey : String
  externalItemId : String
  reasonCode : String
  nativeItemHash : Option String

/-- The queues of triggered jobs. -/
inductive TriggeredQueue where
  | httpAcquisition
  | xScan
  | mediaTranscript
  deriving DecidableEq

/-- `TriggeredContentJob`; a request that does not parse is missing. -/
structure TriggeredContentJob where
  request : Option FormalRunRequest
  queueName : TriggeredQueue
  priority : ℤ
  availableAt : Option ℤ

/-- `acquisitionGap`; a time that is not valid is missing. -/
structure DeclaredGap where
  windowStart : Option ℤ
  windowEnd : Option ℤ
  reason : String
  detailsHash : Option String

/-- `providerTraces`, as far as they are read. -/
structure ResultTrace where
  sequence : ℤ
  provider : String
  terminalState : Option String

/-- `providerResult`. -/
structure ProviderResult where
  provider : String
  providerUnits : Option ℚ

/-- `PersistAcquisitionResultInput`. -/
structure PersistAcquisitionInput where
  runId : String
  state : PersistedAcquisitionState
  batches : List AcquisitionBatch
  rejections : List AcquisitionItemRejection
  checkpointComplete : Bool
  checkpoint : Option Json
  nextDueAt : Option ℤ
  bootstrapCompleted : Bool
  endpointIdentityEvidence : List (String × String)
  semanticAuthorEvidence : Option (List (String × String))
  triggeredJobs : List TriggeredContentJob
  triggeredXBudget : Option (XBudgetPolicy × XAcquisitionLane)
  acquisitionGap : Option DeclaredGap
  httpTraceSequences : List ℤ
  providerTraces : List ResultTrace
  providerResult : Option ProviderResult
  runMetrics : Option Json

/-- `PersistAcquisitionResult`. -/
structure PersistAcquisitionResult where
  state : PersistedAcquisitionState
  receiptCount : ℕ
  revisionCount : ℕ
  unchangedCount : ℕ
  rejectedCount : ℕ
  outboxCount : ℕ
  checkpointAdvanced : Bool
  triggeredJobCount : ℕ
  deriving DecidableEq

/-- `assertResultSemantics`. -/
def PersistAcquisitionInput.assertResultSemantics (input : PersistAcquisitionInput) :
    Except String Unit := do
  let itemCount := (input.batches.map (·.items.length)).sum
  let rejectedCount := input.rejections.length
  throwIf (input.state = .empty ∧ (itemCount ≠ 0 ∨ rejectedCount ≠ 0))
    "EMPTY requires a successful zero-item result"
  throwIf (input.state = .partialResult ∧ (itemCount = 0 ∨ rejectedCount = 0))
    "PARTIAL requires accepted and rejected items"
  throwIf (input.state = .completed ∧ itemCount = 0) "COMPLETED requires at least one valid item"
  throwIf (input.state = .saturated ∧ itemCount = 0) "SATURATED requires returned items"
  throwIf (input.checkpointComplete = true ∧
      input.state ∉ [.empty, .checkedNoChange, .completed, .saturated, .partialResult])
    (input.state.text ++ " cannot advance a discovery checkpoint")

/-- The run is still `RUNNING` and its columns match its request. -/
def readRun (run : Option FormalRun) (runId : String) :
    Except String (FormalRun × FormalRunRequest) := do
  let run ← orThrow run ("Acquisition run not found: " ++ runId)
  throwIf (run.status ≠ .running) "Acquisition run is not RUNNING"
  let request ← orThrow run.request "Formal run request is invalid"
  throwIf (request.jobKind ≠ run.jobKind ∨ request.adapterKind ≠ run.adapterKind ∨
      request.profileKey ≠ run.profileKey ∨ request.profileRevision ≠ run.profileRevision)
    "Acquisition run columns do not match its immutable request snapshot"
  throwIf (run.targetReceiptId.isNone ≠ run.targetReceiptRevisionId.isNone)
    "Triggered acquisition run has an incomplete target receipt contract"
  return (run, request)

/-! ### The endpoints of a result -/

variable (texts : ContentTexts) (input : PersistAcquisitionInput)

/-- `requestedEndpointKeys`. -/
def requestedEndpointKeys : List String :=
  ((input.batches.map (·.endpointKey)) ++ input.rejections.map (·.endpointKey)).dedup.insertionSort
    (· ≤ ·)

/-- The row of an endpoint is the one in the snapshot. -/
def SourceEndpoint.Matches (row : SourceEndpoint) (snapshot : EndpointSnapshot) : Prop :=
  row.endpointId = snapshot.endpointId ∧ row.sourceId = snapshot.sourceId ∧
    row.sourceKey = snapshot.sourceKey

instance (row : SourceEndpoint) (snapshot : EndpointSnapshot) : Decidable (row.Matches snapshot) :=
  inferInstanceAs (Decidable (_ ∧ _ ∧ _))

/-- Identity evidence agrees with what is known of its endpoint. -/
def checkIdentityEvidence (endpoints : List (String × SourceEndpoint)) :
    List (String × String) → Except String Unit
  | [] => .ok ()
  | (endpointKey, stableExternalId) :: rest => do
    let endpoint ← orThrow (endpoints.lookup endpointKey)
      ("Identity evidence references unknown endpoint " ++ endpointKey)
    throwIf (∃ known ∈ endpoint.stableExternalId, known ≠ stableExternalId)
      ("Stable endpoint identity conflict: " ++ endpointKey)
    checkIdentityEvidence endpoints rest

/-- Every resolved author is the X account of its endpoint. -/
def checkSemanticAuthors (evidence : List (String × String))
    (endpoints : List (String × SourceEndpoint)) : List String → Except String Unit
  | [] => .ok ()
  | endpointKey :: rest => do
    let endpoint ← orThrow (endpoints.lookup endpointKey)
      ("Semantic evidence references unknown endpoint " ++ endpointKey)
    throwIf (endpoint.adapterKind ≠ .xAccount ∨
        endpoint.status ∉ [EndpointStatus.active, .paused, .observed] ∨
        ¬ ∃ handle ∈ endpoint.handle, handle ≠ "" ∧
          ∃ author ∈ evidence.lookup endpointKey,
            texts.toLowerCase handle = texts.toLowerCase author)
      "Semantic result is not bound to its resolved X author endpoint"
    checkSemanticAuthors evidence endpoints rest

/-- The checks of a semantic result against the authors it resolved. -/
def checkSemanticEvidence (run : FormalRun) (request : FormalRunRequest)
    (evidence : List (String × String)) (endpoints : List (String × SourceEndpoint)) :
    Except String Unit := do
  throwIf (run.adapterKind ≠ .xSemantic)
    "Semantic author evidence is only valid for X_SEMANTIC runs"
  throwIf (request.partitionId.isNone ∨ request.partitionId ≠ run.partitionId)
    "Semantic partition run does not match its immutable request snapshot"
  let returnedEndpointKeys := (input.batches.map (·.endpointKey)).dedup.insertionSort (· ≤ ·)
  let evidenceKeys := (evidence.map Prod.fst).insertionSort (· ≤ ·)
  throwIf (sha256CanonicalJson texts (.array (evidenceKeys.map .string)) ≠
      sha256CanonicalJson texts (.array (returnedEndpointKeys.map .string)))
    "Semantic author evidence must cover exactly the accepted endpoints"
  throwIf (∃ rejection ∈ input.rejections, rejection.endpointKey ∉ evidence.map Prod.fst ∧
      (request.immutableEndpointByKey rejection.endpointKey).isNone)
    "Semantic rejection escaped resolved authors and its immutable partition"
  checkSemanticAuthors texts evidence endpoints evidenceKeys
  throwIf (∃ entry ∈ endpoints, ∃ snapshot ∈ request.immutableEndpointByKey entry.1,
      ¬ entry.2.Matches snapshot ∨ entry.2.adapterKind ≠ .xSemantic)
    "Semantic rejection endpoint escaped its immutable partition snapshot"

/-- The endpoints of the result belong to the target of the run. -/
def checkEndpoints (run : FormalRun) (request : FormalRunRequest)
    (endpoints : List (String × SourceEndpoint)) : Except String Unit :=
  match run.endpointId, run.partitionId, input.semanticAuthorEvidence with
  | some endpointId, _, _ =>
    match request.immutableEndpoints with
    | [endpoint] =>
      throwIf (endpoint.endpointId ≠ endpointId ∨
          ∃ entry ∈ endpoints, entry.1 ≠ endpoint.endpointKey ∨ ¬ entry.2.Matches endpoint)
        "Endpoint result does not match its immutable request snapshot"
    | _ => .error "Endpoint result does not match its immutable request snapshot"
  | none, some _, some evidence => checkSemanticEvidence texts input run request evidence endpoints
  | none, some _, none => do
    throwIf (request.partitionId.isNone ∨ request.partitionId ≠ run.partitionId)
      "Partition run does not match its immutable request snapshot"
    throwIf (∃ entry ∈ endpoints,
        ¬ ∃ snapshot ∈ request.immutableEndpointByKey entry.1, entry.2.Matches snapshot)
      "Partition result escaped its immutable request snapshot"
  | none, none, _ => .error "Formal acquisition run has no endpoint or partition target"

/-! ### The items of a result by receipt -/

/-- `CanonicalWorkItem`. -/
structure CanonicalWorkItem where
  receiptKey : String
  sourceId : String
  primaryEndpointId : String
  item : AcquisitionItem
  rightsPolicy : Json
  observationEndpoints : List String

/-- `payload` of a work item. -/
def CanonicalWorkItem.payload (work : CanonicalWorkItem) : CanonicalPayload :=
  canonicalAcquisitionItem texts work.item

/-- `canonicalHash` of a work item. -/
def CanonicalWorkItem.canonicalHash (work : CanonicalWorkItem) : String :=
  (work.payload texts).hash texts

/-- `asRecord`. -/
def asRecord : Json → Json
  | .object fields => .object fields
  | _ => .object []

/-- `asRecord(asRecord(value)[name])`. -/
def recordField (name : String) (value : Json) : Json :=
  match asRecord value with
  | .object fields => asRecord ((fields.lookup name).getD .null)
  | _ => .object []

/-- `rightsPolicyHash`. -/
def rightsPolicyHash (value : Json) : String := sha256CanonicalJson texts (asRecord value)

/-- The rights of an item of an endpoint. -/
def itemRightsPolicy (run : FormalRun) (request : FormalRunRequest) (endpointKey : String)
    (endpoint : SourceEndpoint) : Json :=
  if run.adapterKind = .xSemantic then asRecord endpoint.rightsPolicy
  else
    match request.immutableEndpointByKey endpointKey with
    | some snapshot => recordField "endpoint" snapshot.rightsPolicy
    | none => .object []

/-- An item enters the work of its receipt. -/
def addItem (run : FormalRun) (request : FormalRunRequest)
    (works : List CanonicalWorkItem) (entry : (String × SourceEndpoint) × AcquisitionItem) :
    Except String (List CanonicalWorkItem) :=
  let ((endpointKey, endpoint), item) := entry
  let key := receiptKey endpoint.sourceKey item.contentKind item.externalItemId
  match works.find? fun work => work.receiptKey = key with
  | some prior => do
    throwIf (prior.canonicalHash texts ≠ (canonicalAcquisitionItem texts item).hash texts ∨
        prior.sourceId ≠ endpoint.sourceId ∨ prior.item.contentKind ≠ item.contentKind)
      ("Conflicting cross-endpoint facts for receipt " ++ key)
    return works.map fun work =>
      if work.receiptKey = key then
        { work with
          observationEndpoints :=
            (work.observationEndpoints ++ [endpoint.endpointId]).dedup.insertionSort (· ≤ ·) }
      else work
  | none =>
    .ok (works ++ [{
      receiptKey := key
      sourceId := endpoint.sourceId
      primaryEndpointId := endpoint.endpointId
      item
      rightsPolicy := itemRightsPolicy run request endpointKey endpoint
      observationEndpoints := [endpoint.endpointId] }])

/-- The items of the batches with their endpoints. -/
def batchItems (endpoints : List (String × SourceEndpoint)) :
    List AcquisitionBatch → Except String (List ((String × SourceEndpoint) × AcquisitionItem))
  | [] => .ok []
  | batch :: rest => do
    let endpoint ← orThrow (endpoints.lookup batch.endpointKey)
      ("Missing endpoint " ++ batch.endpointKey)
    let others ← batchItems endpoints rest
    return batch.items.map (((batch.endpointKey, endpoint), ·)) ++ others

/-- `workByReceiptKey`. -/
def mergeItems (run : FormalRun) (request : FormalRunRequest)
    (items : List ((String × SourceEndpoint) × AcquisitionItem)) :
    Except String (List CanonicalWorkItem) :=
  items.foldlM (addItem texts run request) []

/-- The checks of the endpoints and the work of the result in the order of the receipt keys. -/
def gatherWork (run : FormalRun) (request : FormalRunRequest) (targetReceiptKey : Option String)
    (endpoints : List (String × SourceEndpoint)) : Except String (List CanonicalWorkItem) := do
  throwIf (endpoints.length ≠ (requestedEndpointKeys input).length)
    "Acquisition result references an unknown endpoint"
  checkIdentityEvidence endpoints input.endpointIdentityEvidence
  checkEndpoints texts input run request endpoints
  let items ← batchItems endpoints input.batches
  let works ← mergeItems texts run request items
  let workItems := works.insertionSort fun left right =>
    texts.localeCompare left.receiptKey right.receiptKey ≠ .gt
  throwIf (∃ key ∈ targetReceiptKey,
      1 < workItems.length ∨ ∃ first ∈ workItems.head?, first.receiptKey ≠ key)
    "Triggered acquisition result escaped its target receipt identity"
  return workItems

end LetletmeData
