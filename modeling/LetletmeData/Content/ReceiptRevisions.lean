import LetletmeData.Content.AcquisitionResults

/-!
# Receipt revisions

What `persistAcquisitionResult` writes. A receipt is revised when the hash of an item differs from
the one of its current revision, and every revision is announced by one event of the outbox. Then
the observations are stored, triggered runs are created, and the budgets, the schedule and the run
are closed.
-/

namespace LetletmeData

open LetletmeData.Library

/-! ### Tables -/

/-- A row of `content.source_receipts`. -/
structure SourceReceipt where
  receiptKey : String
  runId : String
  sourceId : String
  primaryEndpointId : String
  externalId : String
  contentKind : ContentKind
  canonicalUrl : Option String
  currentRevisionId : Option String
  capturedAt : ℤ
  publishedAt : Option ℤ
  payload : CanonicalPayload
  canonicalHash : String
  rightsPolicy : Json

/-- A row of `content.source_receipt_revisions`. -/
structure ReceiptRevision where
  receiptId : String
  revisionNumber : ℕ
  runId : String
  endpointId : String
  payload : CanonicalPayload
  canonicalHash : String
  bodyAvailability : BodyAvailability

/-- The types of pipeline events. -/
inductive ReceiptEventType where
  | accepted
  | updated
  deriving DecidableEq

/-- The text of a type. -/
def ReceiptEventType.text : ReceiptEventType → String
  | accepted => "receipt.accepted.v1"
  | updated => "receipt.updated.v1"

/-- A row of `content.pipeline_outbox`. -/
structure PipelineEvent where
  eventType : ReceiptEventType
  receiptId : String
  receiptRevisionId : String
  runId : String
  sourceId : String
  endpointId : String
  occurredAt : ℤ
  deriving DecidableEq

/-- What identifies an observation. -/
structure ObservationKey where
  runId : String
  endpointId : String
  externalItemId : String
  deriving DecidableEq

/-- `outcome` of an observation. -/
inductive ObservationOutcome where
  | accepted
  | unchanged
  | rejected
  deriving DecidableEq

/-- A row of `content.source_observations`. -/
structure SourceObservation where
  receiptId : Option String
  receiptRevisionId : Option String
  outcome : ObservationOutcome
  nativeItemHash : Option String
  reasonCode : Option String
  observedAt : ℤ
  deriving DecidableEq

/-- The tables of the receipts; events lie under their keys. -/
structure ReceiptTables where
  receipts : KeyedTable String SourceReceipt
  revisions : KeyedTable String ReceiptRevision
  outbox : KeyedTable String PipelineEvent
  observations : KeyedTable ObservationKey SourceObservation

/-- A row of `content.acquisition_gaps`. -/
structure StoredGap where
  declaringRunId : String
  endpointId : Option String
  partitionId : Option String
  windowStart : ℤ
  windowEnd : ℤ
  reason : String

/-- A row of `content.acquisition_job_outbox`. -/
structure AcquisitionJob where
  queueName : TriggeredQueue
  jobId : String
  priority : ℤ
  availableAt : ℤ

/-- The other tables a result is read against and written to; endpoints lie under their keys, and
of the traces of providers only those of `grok-build` are counted. -/
structure FormalTables where
  runs : KeyedTable String FormalRun
  endpoints : KeyedTable String SourceEndpoint
  schedules : KeyedTable String ResultSchedule
  budgets : XBudgetTables
  gaps : List StoredGap
  jobs : KeyedTable String AcquisitionJob
  grokTraces : List String

/-- No row in any table. -/
def ReceiptTables.initial : ReceiptTables := ⟨.empty, .empty, .empty, .empty⟩

/-! ### Insertions under the constraints of the tables -/

/-- An insertion under a primary or unique key. -/
def insertUnique {Key Row : Type} [DecidableEq Key] (table : KeyedTable Key Row) (key : Key)
    (row : Row) (constraint : String) : Except String (KeyedTable Key Row) := do
  throwIf ((table.find key).isSome = true) constraint
  return table.insertAbsent key row

/-- `INSERT` of a receipt. -/
def ReceiptTables.insertReceipt (tables : ReceiptTables) (receiptId : String)
    (receipt : SourceReceipt) : Except String ReceiptTables := do
  throwIf (∃ entry ∈ tables.receipts.entries, entry.2.receiptKey = receipt.receiptKey)
    "content_source_receipts_receipt_key_key"
  let receipts ← insertUnique tables.receipts receiptId receipt "source_receipts_pkey"
  return { tables with receipts }

/-- `INSERT` of a revision. -/
def ReceiptTables.insertRevision (tables : ReceiptTables) (receiptRevisionId : String)
    (revision : ReceiptRevision) : Except String ReceiptTables := do
  throwIf (∃ entry ∈ tables.revisions.entries, entry.2.receiptId = revision.receiptId ∧
      entry.2.revisionNumber = revision.revisionNumber)
    "content_source_receipt_revisions_receipt_number_key"
  throwIf (∃ entry ∈ tables.revisions.entries, entry.2.runId = revision.runId ∧
      entry.2.receiptId = revision.receiptId)
    "content_source_receipt_revisions_run_receipt_key"
  let revisions ← insertUnique tables.revisions receiptRevisionId revision
    "source_receipt_revisions_pkey"
  return { tables with revisions }

/-- `INSERT` of an event; `eventKey` is its type and its revision. -/
def ReceiptTables.insertEvent (tables : ReceiptTables) (event : PipelineEvent) :
    Except String ReceiptTables := do
  let eventKey := event.eventType.text ++ ":" ++ event.receiptRevisionId
  let outbox ← insertUnique tables.outbox eventKey event "content_pipeline_outbox_event_key_key"
  return { tables with outbox }

/-- `UPDATE ... WHERE receipt_id = ...`. -/
def ReceiptTables.updateReceipt (tables : ReceiptTables) (receiptId : String)
    (write : SourceReceipt → SourceReceipt) : ReceiptTables :=
  { tables with receipts := tables.receipts.updateWhere (fun id _ => id = receiptId) write }

/-! ### The revision loop -/

variable (texts : ContentTexts)

/-- The identifiers a call draws for a receipt. -/
structure ReceiptIds where
  receiptId : String
  receiptRevisionId : String
  deriving DecidableEq

/-- A call with the clock of its transaction and the identifiers it draws: for receipts by their
keys, for triggered runs and their reservations by their places. -/
structure PersistCall where
  input : PersistAcquisitionInput
  dbNow : ℤ
  receiptIds : String → ReceiptIds
  childRunIds : ℕ → String
  reservationIds : ℕ → ℕ → String
  firstRow : ℕ

/-- The receipts and the current revisions a call has read. -/
structure ReceiptsRead where
  existing : List (String × SourceReceipt)
  revisions : List (String × ReceiptRevision)

/-- `existingByKey.get`. -/
def ReceiptsRead.existingByKey (read : ReceiptsRead) (key : String) :
    Option (String × SourceReceipt) :=
  read.existing.find? fun entry => entry.2.receiptKey = key

/-- The state of the revision loop. -/
structure RevisionLoop where
  tables : ReceiptTables
  revisionCount : ℕ
  unchangedCount : ℕ
  outboxCount : ℕ
  revisedReceiptKeys : List String
  persistedReceiptByKey : List (String × ReceiptIds)
  observationRows : List (ObservationKey × SourceObservation)

/-- `new Date(publishedAt)`, if there is one. -/
def publishedTime (item : AcquisitionItem) : Option ℤ :=
  (item.publishedAt.filter (· ≠ "")).bind texts.dateParse

/-- The row of a new receipt, before its first revision. -/
def newReceipt (call : PersistCall) (work : CanonicalWorkItem) : SourceReceipt where
  receiptKey := work.receiptKey
  runId := call.input.runId
  sourceId := work.sourceId
  primaryEndpointId := work.primaryEndpointId
  externalId := work.item.externalItemId
  contentKind := work.item.contentKind
  canonicalUrl := work.item.canonicalUrl
  currentRevisionId := none
  capturedAt := call.dbNow
  publishedAt := publishedTime texts work.item
  payload := work.payload texts
  canonicalHash := work.canonicalHash texts
  rightsPolicy := work.rightsPolicy

/-- The row of a new revision. -/
def newRevision (call : PersistCall) (work : CanonicalWorkItem) (receiptId : String)
    (revisionNumber : ℕ) : ReceiptRevision where
  receiptId := receiptId
  revisionNumber := revisionNumber
  runId := call.input.runId
  endpointId := work.primaryEndpointId
  payload := work.payload texts
  canonicalHash := work.canonicalHash texts
  bodyAvailability := work.item.body.availability

/-- A receipt that is new is inserted. -/
def openReceipt (call : PersistCall) (work : CanonicalWorkItem) (isNew : Bool) (receiptId : String)
    (tables : ReceiptTables) : Except String ReceiptTables :=
  if isNew then tables.insertReceipt receiptId (newReceipt texts call work) else .ok tables

/-- The writes of a new revision of a receipt, which is inserted first when it is new. -/
def writeRevision (call : PersistCall) (work : CanonicalWorkItem) (isNew : Bool)
    (ids : ReceiptIds) (revisionNumber : ℕ) (tables : ReceiptTables) :
    Except String ReceiptTables := do
  let inserted ← openReceipt texts call work isNew ids.receiptId tables
  let revised ← inserted.insertRevision ids.receiptRevisionId
    (newRevision texts call work ids.receiptId revisionNumber)
  let current := revised.updateReceipt ids.receiptId fun receipt =>
    { receipt with
      canonicalUrl := work.item.canonicalUrl, publishedAt := publishedTime texts work.item
      payload := work.payload texts, canonicalHash := work.canonicalHash texts
      rightsPolicy := work.rightsPolicy, currentRevisionId := some ids.receiptRevisionId }
  current.insertEvent
    { eventType := if isNew then .accepted else .updated, receiptId := ids.receiptId
      receiptRevisionId := ids.receiptRevisionId, runId := call.input.runId
      sourceId := work.sourceId, endpointId := work.primaryEndpointId, occurredAt := call.dbNow }

/-- The observations of an item, one for each endpoint that reported it. -/
def itemObservations (call : PersistCall) (work : CanonicalWorkItem) (ids : ReceiptIds)
    (outcome : ObservationOutcome) : List (ObservationKey × SourceObservation) :=
  work.observationEndpoints.map fun endpointId =>
    (⟨call.input.runId, endpointId, work.item.externalItemId⟩,
      { receiptId := some ids.receiptId, receiptRevisionId := some ids.receiptRevisionId, outcome
        nativeItemHash := some (work.canonicalHash texts), reasonCode := none
        observedAt := call.dbNow })

/-- An item whose receipt has been written. -/
def RevisionLoop.persisted (loop : RevisionLoop) (call : PersistCall) (work : CanonicalWorkItem)
    (ids : ReceiptIds) (outcome : ObservationOutcome) (tables : ReceiptTables) : RevisionLoop :=
  { loop with
    tables
    revisionCount := loop.revisionCount + if outcome = .accepted then 1 else 0
    unchangedCount := loop.unchangedCount + if outcome = .accepted then 0 else 1
    outboxCount := loop.outboxCount + if outcome = .accepted then 1 else 0
    revisedReceiptKeys :=
      if outcome = .accepted then loop.revisedReceiptKeys ++ [work.receiptKey]
      else loop.revisedReceiptKeys
    persistedReceiptByKey := loop.persistedReceiptByKey ++ [(work.receiptKey, ids)]
    observationRows := loop.observationRows ++ itemObservations texts call work ids outcome }

/-- One pass of the revision loop. -/
def reviseReceipt (call : PersistCall) (read : ReceiptsRead) (loop : RevisionLoop)
    (work : CanonicalWorkItem) : Except String RevisionLoop :=
  match read.existingByKey work.receiptKey with
  | none => do
    let ids := call.receiptIds work.receiptKey
    let tables ← writeRevision texts call work true ids 1 loop.tables
    return loop.persisted texts call work ids .accepted tables
  | some (receiptId, existing) => do
    throwIf (existing.sourceId ≠ work.sourceId ∨ existing.externalId ≠ work.item.externalItemId ∨
        existing.contentKind ≠ work.item.contentKind)
      ("Stable receipt identity conflict: " ++ work.receiptKey)
    let noCurrent := "Receipt " ++ work.receiptKey ++ " has no readable current revision"
    let currentId ← orThrow existing.currentRevisionId noCurrent
    let current ← orThrow (read.revisions.lookup currentId) noCurrent
    if current.canonicalHash ≠ work.canonicalHash texts then
      let ids : ReceiptIds := ⟨receiptId, (call.receiptIds work.receiptKey).receiptRevisionId⟩
      let tables ← writeRevision texts call work false ids (current.revisionNumber + 1) loop.tables
      return loop.persisted texts call work ids .accepted tables
    else
      let tables :=
        if rightsPolicyHash texts existing.rightsPolicy ≠ rightsPolicyHash texts work.rightsPolicy
        then loop.tables.updateReceipt receiptId fun receipt =>
          { receipt with rightsPolicy := work.rightsPolicy }
        else loop.tables
      return loop.persisted texts call work ⟨receiptId, currentId⟩ .unchanged tables

/-- The revision loop. -/
def reviseReceipts (call : PersistCall) (workItems : List CanonicalWorkItem) (read : ReceiptsRead)
    (tables : ReceiptTables) : Except String RevisionLoop :=
  workItems.foldlM (reviseReceipt texts call read)
    { tables, revisionCount := 0, unchangedCount := 0, outboxCount := 0, revisedReceiptKeys := []
      persistedReceiptByKey := [], observationRows := [] }

/-! ### Observations -/

/-- The observations of rejected items. -/
def rejectionObservations (call : PersistCall) (endpoints : List (String × SourceEndpoint)) :
    List AcquisitionItemRejection → Except String (List (ObservationKey × SourceObservation))
  | [] => .ok []
  | rejection :: rest => do
    let endpoint ← orThrow (endpoints.lookup rejection.endpointKey)
      ("Unknown rejection endpoint " ++ rejection.endpointKey)
    let others ← rejectionObservations call endpoints rest
    return (⟨call.input.runId, endpoint.endpointId, rejection.externalItemId⟩,
      { receiptId := none, receiptRevisionId := none, outcome := .rejected
        nativeItemHash := rejection.nativeItemHash, reasonCode := some rejection.reasonCode
        observedAt := call.dbNow }) :: others

/-- `INSERT` of the observations. -/
def ReceiptTables.insertObservations (tables : ReceiptTables)
    (rows : List (ObservationKey × SourceObservation)) : Except String ReceiptTables := do
  let observations ← rows.foldlM (fun table row =>
    insertUnique table row.1 row.2 "content_source_observations_run_item_key") tables.observations
  return { tables with observations }

/-- The revisions and the observations of a result. -/
def persistReceipts (call : PersistCall) (endpoints : List (String × SourceEndpoint))
    (workItems : List CanonicalWorkItem) (read : ReceiptsRead) (tables : ReceiptTables) :
    Except String RevisionLoop := do
  let loop ← reviseReceipts texts call workItems read tables
  let rejected ← rejectionObservations call endpoints call.input.rejections
  let tables ← loop.tables.insertObservations (loop.observationRows ++ rejected)
  return { loop with tables }

end LetletmeData
