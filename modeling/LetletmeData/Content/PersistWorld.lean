import LetletmeData.Content.ResultClosing
import LetletmeData.Library.Runs

/-!
# Concurrent results

Any number of `persistAcquisitionResult` transactions run at once. Each locks the row of its run and
the advisory locks of its receipt keys, reads what is committed at the moment of each statement, and
its writes are committed together. A lock that another call holds is not granted, and a call gives
its locks back when it ends.
-/

namespace LetletmeData

open LetletmeData.Library

/-- What a call knows once it has read its run. -/
structure PersistWork where
  call : PersistCall
  run : FormalRun
  request : FormalRunRequest
  targetReceiptKey : Option String

/-- Where a call stands. -/
inductive PersistPhase where
  | idle
  | targeting (work : PersistWork) (key : String)
  | targeted (work : PersistWork) (key : String)
  | gathering (work : PersistWork)
  | locking (work : PersistWork) (endpoints : List (String × SourceEndpoint))
      (items : List CanonicalWorkItem) (remaining : List String)
  | resolving (work : PersistWork) (endpoints : List (String × SourceEndpoint))
      (items : List CanonicalWorkItem) (existing : List (String × SourceReceipt))
  | writing (work : PersistWork) (endpoints : List (String × SourceEndpoint))
      (items : List CanonicalWorkItem) (read : ReceiptsRead)
  | returned (result : PersistAcquisitionResult)
  | threw (error : String)

/-- The committed tables, the locks and the calls. -/
structure PersistWorld where
  receipts : ReceiptTables
  formal : FormalTables
  keyLocks : ℤ → Option ℕ
  runLocks : String → Option ℕ
  calls : ℕ → PersistPhase

/-- The statements of the calls, each under the identifier of its call; a call may fail at any of
them. Other code writes the other tables in between. -/
inductive PersistAction where
  | start (id : ℕ) (call : PersistCall)
  | lockTarget (id : ℕ)
  | readTarget (id : ℕ)
  | gather (id : ℕ)
  | lockKey (id : ℕ)
  | readReceipts (id : ℕ)
  | readRevisions (id : ℕ)
  | commit (id : ℕ)
  | fail (id : ℕ) (error : String)
  | elsewhere (formal : FormalTables)

/-- The call whose statement it is. -/
def PersistAction.caller : PersistAction → Option ℕ
  | .start id _ | .lockTarget id | .readTarget id | .gather id | .lockKey id | .readReceipts id
  | .readRevisions id | .commit id | .fail id _ => some id
  | .elsewhere _ => none

namespace PersistWorld

variable (texts : ContentTexts) (hashtext : String → ℤ)

/-- No call has started. -/
def initial (receipts : ReceiptTables) (formal : FormalTables) : PersistWorld where
  receipts := receipts
  formal := formal
  keyLocks := fun _ => none
  runLocks := fun _ => none
  calls := fun _ => .idle

/-- A call proceeds to a phase. -/
def proceed (world : PersistWorld) (id : ℕ) (phase : PersistPhase) : PersistWorld :=
  { world with calls := Function.update world.calls id phase }

/-- A call ends and gives its locks back. -/
def conclude (world : PersistWorld) (id : ℕ) (phase : PersistPhase) : PersistWorld :=
  { world with
    calls := Function.update world.calls id phase
    keyLocks := fun key => if world.keyLocks key = some id then none else world.keyLocks key
    runLocks := fun run => if world.runLocks run = some id then none else world.runLocks run }

/-- A call goes on with a result, or throws: its transaction is rolled back. -/
def attempt {Value : Type} (world : PersistWorld) (id : ℕ) (result : Except String Value)
    (next : Value → PersistWorld) : PersistWorld :=
  match result with
  | .ok value => next value
  | .error error => world.conclude id (.threw error)

/-- The checks before the target: the result, the run and its request, and the key of the target
receipt. -/
def beginPersist (call : PersistCall) (world : PersistWorld) : Except String PersistWork := do
  call.input.assertResultSemantics
  throwIf (∃ batch ∈ call.input.batches, ¬ batch.Accepted texts) "ZodError"
  let (run, request) ← readRun (world.formal.runs.find call.input.runId) call.input.runId
  match run.targetReceiptId with
  | none => return ⟨call, run, request, none⟩
  | some receiptId =>
    let receipt ← orThrow (world.receipts.receipts.find receiptId)
      "Triggered acquisition target receipt disappeared"
    return ⟨call, run, request, some receipt.receiptKey⟩

/-- The target receipt under its lock: still at the revision the run was created for, and the one
its request names. -/
def checkTarget (work : PersistWork) (receipts : ReceiptTables) : Except String Unit := do
  let receipt := work.run.targetReceiptId.bind receipts.receipts.find
  throwIf (receipt.bind (·.currentRevisionId) ≠ work.run.targetReceiptRevisionId)
    "STALE_TARGET_RECEIPT_REVISION"
  let mismatch := "Triggered acquisition request does not match its target receipt identity"
  match work.request.target with
  | .endpoint endpoint (some item) =>
    throwIf (¬ ∃ target ∈ receipt, target.sourceId = endpoint.sourceId ∧
        target.primaryEndpointId = endpoint.endpointId ∧
        target.externalId = item.externalItemId ∧ target.contentKind = item.contentKind) mismatch
  | _ => .error mismatch

/-- The rows of the requested endpoints. -/
def requestedEndpoints (input : PersistAcquisitionInput) (formal : FormalTables) :
    List (String × SourceEndpoint) :=
  formal.endpoints.selectSorted (fun key _ => key ∈ requestedEndpointKeys input)
    fun left right => left.1 ≤ right.1

/-- The receipts of the items. -/
def selectReceipts (items : List CanonicalWorkItem) (receipts : ReceiptTables) :
    List (String × SourceReceipt) :=
  receipts.receipts.selectSorted
    (fun _ receipt => receipt.receiptKey ∈ items.map (·.receiptKey))
    fun left right => left.2.receiptKey ≤ right.2.receiptKey

/-- The current revisions of receipts. -/
def selectRevisions (existing : List (String × SourceReceipt)) (receipts : ReceiptTables) :
    List (String × ReceiptRevision) :=
  receipts.revisions.selectWhere fun id _ =>
    some id ∈ existing.map fun entry => entry.2.currentRevisionId

/-- One statement of a call, or a write elsewhere. -/
def step (world : PersistWorld) : PersistAction → PersistWorld
  | .start id call =>
    match world.calls id with
    | .idle =>
      if world.runLocks call.input.runId = none then
        let locked := { world with
          runLocks := Function.update world.runLocks call.input.runId (some id) }
        locked.attempt id (beginPersist texts call world) fun work =>
          locked.proceed id
            (match work.targetReceiptKey with
            | some key => .targeting work key
            | none => .gathering work)
      else world
    | _ => world
  | .lockTarget id =>
    match world.calls id with
    | .targeting work key =>
      if world.keyLocks (hashtext key) = none then
        { world with keyLocks := Function.update world.keyLocks (hashtext key) (some id) }.proceed
          id (.targeted work key)
      else world
    | _ => world
  | .readTarget id =>
    match world.calls id with
    | .targeted work _ =>
      world.attempt id (checkTarget work world.receipts) fun _ => world.proceed id (.gathering work)
    | _ => world
  | .gather id =>
    match world.calls id with
    | .gathering work =>
      let endpoints := requestedEndpoints work.call.input world.formal
      world.attempt id (gatherWork texts work.call.input work.run work.request
        work.targetReceiptKey endpoints) fun items =>
        world.proceed id (.locking work endpoints items (items.map (·.receiptKey)))
    | _ => world
  | .lockKey id =>
    match world.calls id with
    | .locking work endpoints items (key :: rest) =>
      if world.keyLocks (hashtext key) = none ∨ world.keyLocks (hashtext key) = some id then
        { world with keyLocks := Function.update world.keyLocks (hashtext key) (some id) }.proceed
          id (.locking work endpoints items rest)
      else world
    | _ => world
  | .readReceipts id =>
    match world.calls id with
    | .locking work endpoints items [] =>
      world.proceed id (.resolving work endpoints items (selectReceipts items world.receipts))
    | _ => world
  | .readRevisions id =>
    match world.calls id with
    | .resolving work endpoints items existing =>
      world.proceed id
        (.writing work endpoints items ⟨existing, selectRevisions existing world.receipts⟩)
    | _ => world
  | .commit id =>
    match world.calls id with
    | .writing work endpoints items read =>
      let written : Except String (RevisionLoop × FormalTables × PersistAcquisitionResult) := do
        let revised ← persistReceipts texts work.call endpoints items read world.receipts
        let (formal, result) ←
          closeResult texts work.call work.run endpoints items revised world.formal
        return (revised, formal, result)
      world.attempt id written fun (revised, formal, result) =>
        { world with receipts := revised.tables, formal }.conclude id (.returned result)
    | _ => world
  | .fail id error =>
    match world.calls id with
    | .idle | .returned _ | .threw _ => world
    | _ => world.conclude id (.threw error)
  | .elsewhere formal => { world with formal }

end PersistWorld

end LetletmeData
