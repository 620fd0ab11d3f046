import LetletmeData.Library.Runs
import LetletmeData.Services.MyFplSnapshotPublication

/-!
# The dispatch of My FPL snapshot publications

A dispatch claims receipts of active publications and delivers them one by one: under the advisory
lock of the event it checks that the publication is still active, runs the pointer script and
settles the receipt. Captures and dispatches run side by side, statement by statement where they
meet.
-/

namespace LetletmeData

open LetletmeData.Library

/-! ### Redis -/

/-- The text under a pointer's key: a manifest, or one the script cannot decode. -/
inductive MyFplPointerText where
  | manifest (manifest : MyFplSnapshotRedisManifest)
  | undecodable
  deriving DecidableEq

/-- The replies of the pointer script. -/
inductive MyFplActivateReply where
  | invalidActiveManifest
  | stale
  | revisionConflict
  | published
  deriving DecidableEq

/-- The text of a reply. -/
def MyFplActivateReply.text : MyFplActivateReply → String
  | invalidActiveManifest => "invalid_active_manifest"
  | stale => "stale"
  | revisionConflict => "revision_conflict"
  | published => "published"

/-- `/^\d{4}$/`. -/
def isFourDigits (text : String) : Prop :=
  text.toList.length = 4 ∧ ∀ c ∈ text.toList, c.isDigit = true

instance (text : String) : Decidable (isFourDigits text) := inferInstanceAs (Decidable (_ ∧ _))

/-- `Number.isSafeInteger(value) && value > 0`. -/
def isPositiveSafe (value : ℤ) : Prop := 0 < value ∧ value ≤ maxSafeInteger

instance (value : ℤ) : Decidable (isPositiveSafe value) := inferInstanceAs (Decidable (_ ∧ _))

/-- `myFplSnapshotRedisManifestKey`. -/
def myFplSnapshotRedisManifestKey (seasonCode : String) (eventId : ℤ) : Except String String := do
  throwIf (¬ (isFourDigits seasonCode ∧ isPositiveSafe eventId))
    "Invalid My FPL Redis manifest scope"
  return "llm:data:fpl:my-fpl:" ++ seasonCode ++ ":" ++ toString eventId ++ ":active"

/-- `/^\d{4}-\d{2}-\d{2}$/`. -/
def isDateText (text : String) : Prop :=
  text.toList.length = 10 ∧
    ∀ item ∈ text.toList.zipIdx, if item.2 = 4 ∨ item.2 = 7 then item.1 = '-' else item.1.isDigit = true

instance (text : String) : Decidable (isDateText text) := inferInstanceAs (Decidable (_ ∧ _))

/-- `/^[0-9a-f]{64}$/`. -/
def isSha256Text (text : String) : Prop :=
  text.toList.length = 64 ∧ ∀ c ∈ text.toList, c.isDigit = true ∨ ('a' ≤ c ∧ c ≤ 'f')

instance (text : String) : Decidable (isSha256Text text) := inferInstanceAs (Decidable (_ ∧ _))

/-- `isMyFplSnapshotRedisManifest`, with `Date.parse` as a parameter. -/
def isMyFplSnapshotRedisManifest (isTimestamp : String → Bool)
    (candidate : MyFplSnapshotRedisManifest) : Prop :=
  candidate.dataset = "fpl:my-fpl" ∧ isFourDigits candidate.seasonCode ∧
    isPositiveSafe candidate.eventId ∧ isPositiveSafe candidate.revision ∧
    isDateText candidate.snapshotDate ∧ isTimestamp candidate.sourceCheckedAt = true ∧
    isTimestamp candidate.publishedAt = true ∧ isSha256Text candidate.contentSha256

instance (isTimestamp : String → Bool) (candidate : MyFplSnapshotRedisManifest) :
    Decidable (isMyFplSnapshotRedisManifest isTimestamp candidate) :=
  inferInstanceAs (Decidable (_ ∧ _))

/-- `MY_FPL_SNAPSHOT_REDIS_ACTIVATE_SCRIPT`. -/
def activateMyFplPointer (candidate : MyFplSnapshotRedisManifest)
    (current : Option MyFplPointerText) : Option MyFplPointerText × MyFplActivateReply :=
  match current with
  | some .undecodable => (current, .invalidActiveManifest)
  | some (.manifest active) =>
    if candidate.revision < active.revision then (current, .stale)
    else if active.revision = candidate.revision ∧
        active.contentSha256 ≠ candidate.contentSha256 then
      (current, .revisionConflict)
    else (some (.manifest candidate), .published)
  | none => (some (.manifest candidate), .published)

/-! ### Receipts -/

/-- A receipt that is given up. -/
def MyFplSnapshotReceipt.supersede (message : String) (clock : ℕ) (receipt : MyFplSnapshotReceipt) :
    MyFplSnapshotReceipt :=
  { receipt with
    status := .superseded, deliveredAt := some clock, leaseOwner := none, leaseExpiresAt := none
    lastError := some message, updatedAt := clock }

/-- A receipt that is leased. -/
def MyFplSnapshotReceipt.lease (owner : String) (clock : ℕ) (receipt : MyFplSnapshotReceipt) :
    MyFplSnapshotReceipt :=
  { receipt with
    status := .processing, attempts := receipt.attempts + 1, leaseOwner := some owner
    leaseExpiresAt := some (clock + 2 * 60000), updatedAt := clock }

/-- A receipt that is delivered. -/
def MyFplSnapshotReceipt.deliver (clock : ℕ) (receipt : MyFplSnapshotReceipt) :
    MyFplSnapshotReceipt :=
  { receipt with
    status := .delivered, deliveredAt := some clock, leaseOwner := none, leaseExpiresAt := none
    lastError := none, updatedAt := clock }

/-- A receipt that is released for a later attempt. -/
def MyFplSnapshotReceipt.release (message : String) (clock : ℕ) (receipt : MyFplSnapshotReceipt) :
    MyFplSnapshotReceipt :=
  { receipt with
    status := .pending, availableAt := clock + 30 * 60000, leaseOwner := none
    leaseExpiresAt := none, lastError := some message, updatedAt := clock }

/-- What a dispatch says of a publication that was replaced. -/
def noLongerActive : String := "Publication is no longer the active My FPL revision"

/-- `UPDATE ... WHERE outbox_id = ... AND lease_owner = ...`. -/
def updateOwnedReceipt (outboxId owner : String)
    (write : MyFplSnapshotReceipt → MyFplSnapshotReceipt) (tables : MyFplTables) : MyFplTables :=
  { tables with
    outbox := tables.outbox.updateWhere
      (fun id receipt => id = outboxId ∧ receipt.leaseOwner = some owner) write }

/-- A receipt is still to be delivered. -/
def MyFplSnapshotReceipt.Open (receipt : MyFplSnapshotReceipt) : Prop :=
  receipt.status = .pending ∨ receipt.status = .processing

instance (receipt : MyFplSnapshotReceipt) : Decidable receipt.Open :=
  inferInstanceAs (Decidable (_ ∨ _))

/-- The publication of a receipt is stored with this activity. -/
def PublicationIs (active : Bool) (tables : MyFplTables) (key : MyFplRevision) : Prop :=
  ∃ row ∈ tables.publications.find key, row.active = active

instance (active : Bool) (tables : MyFplTables) (key : MyFplRevision) :
    Decidable (PublicationIs active tables key) :=
  inferInstanceAs (Decidable (∃ row ∈ tables.publications.find key, _))

/-- A claim of receipts: its options, its time and the rows other transactions have locked. -/
structure MyFplClaim where
  owner : String
  clock : ℕ
  limit : ℕ
  seasonCode : Option String
  eventId : Option ℤ
  locked : String → Bool

/-- The claim takes a receipt. -/
def MyFplClaim.Takes (claim : MyFplClaim) (tables : MyFplTables) (id : String)
    (receipt : MyFplSnapshotReceipt) : Prop :=
  receipt.Open ∧ PublicationIs true tables receipt.key ∧ receipt.availableAt ≤ claim.clock ∧
    (receipt.status = .pending ∨ ∀ expiry ∈ receipt.leaseExpiresAt, expiry ≤ claim.clock) ∧
    (∀ eventId ∈ claim.eventId, eventId ≠ 0 → receipt.key.scope.eventId = eventId) ∧
    (∀ seasonCode ∈ claim.seasonCode, seasonCode ≠ "" →
      receipt.manifest.seasonCode = seasonCode) ∧
    claim.locked id = false

instance (claim : MyFplClaim) (tables : MyFplTables) (id : String)
    (receipt : MyFplSnapshotReceipt) : Decidable (claim.Takes tables id receipt) :=
  inferInstanceAs (Decidable (_ ∧ _))

/-- The transaction that claims receipts. -/
def claimMyFplReceipts (claim : MyFplClaim) (tables : MyFplTables) :
    MyFplTables × List (String × MyFplSnapshotReceipt) :=
  let outbox := tables.outbox.updateWhere
    (fun _ receipt => receipt.Open ∧ PublicationIs false tables receipt.key)
    (MyFplSnapshotReceipt.supersede noLongerActive claim.clock)
  let rows := (outbox.selectSorted (claim.Takes tables) fun left right =>
    left.2.availableAt < right.2.availableAt ∨
      (left.2.availableAt = right.2.availableAt ∧ left.1 ≤ right.1)).take claim.limit
  ({ tables with
     outbox := outbox.updateWhere (fun id _ => id ∈ rows.map Prod.fst)
       (MyFplSnapshotReceipt.lease claim.owner claim.clock) }, rows)

/-! ### Captures and dispatches side by side -/

/-- How far a capture has come: it waits for the lock with what its transaction will read, or holds
the lock and has been given a revision. -/
inductive MyFplCapturePhase where
  | waiting
  | inserted (content : MyFplSnapshotContent) (revision : ℕ)

/-- A capture whose transaction has begun. -/
structure MyFplCaptureRun where
  call : MyFplSnapshotCall
  override : MyFplOverride
  seen : KeyedTable MyFplRevision MyFplSnapshotPublication
  phase : MyFplCapturePhase

/-- How far a dispatch has come with its first row. -/
inductive MyFplDispatchPhase where
  | idle
  | owned
  | replied (reply : MyFplActivateReply)

/-- A dispatch with the claimed rows that are left. -/
structure MyFplDispatchRun where
  rows : List (String × MyFplSnapshotReceipt)
  phase : MyFplDispatchPhase

/-- Who holds an advisory lock. -/
inductive MyFplLockHolder where
  | capture (id : ℕ)
  | dispatch (owner : String)
  deriving DecidableEq

/-- The tables, the sequence, the advisory locks, the pointers in Redis and what is running. -/
structure MyFplWorld where
  tables : MyFplTables
  nextRevision : ℕ
  locks : KeyedTable MyFplScope MyFplLockHolder
  pointers : KeyedTable String MyFplPointerText
  captures : KeyedTable ℕ MyFplCaptureRun
  dispatches : KeyedTable String MyFplDispatchRun

/-- Nothing is published and nothing runs. -/
def MyFplWorld.initial : MyFplWorld := ⟨⟨.empty, .empty⟩, 1, .empty, .empty, .empty, .empty⟩

/-- A transaction that ends gives its lock back. -/
def MyFplWorld.unlock (world : MyFplWorld) (holder : MyFplLockHolder) : MyFplWorld :=
  { world with locks := world.locks.deleteWhere fun _ other => other = holder }

/-- A capture has ended. -/
def MyFplWorld.endCapture (world : MyFplWorld) (id : ℕ) : MyFplWorld :=
  { world.unlock (.capture id) with captures := world.captures.deleteWhere fun key _ => key = id }

/-- A dispatch is done with its first row. -/
def MyFplWorld.nextRow (world : MyFplWorld) (owner : String)
    (rest : List (String × MyFplSnapshotReceipt)) : MyFplWorld :=
  { world.unlock (.dispatch owner) with dispatches := world.dispatches.upsert owner ⟨rest, .idle⟩ }

/-- The options are checked and the transaction begins: what it will read is fixed while it waits
for the lock. -/
def beginCapture (id : ℕ) (call : MyFplSnapshotCall) (world : MyFplWorld) : MyFplWorld :=
  match world.captures.find id, overrideMetadata call with
  | none, .ok override =>
    { world with
      captures := world.captures.upsert id ⟨call, override, world.tables.publications, .waiting⟩ }
  | _, _ => world

/-- A waiting capture gets the lock, decides and is given a revision. -/
def insertCapture (id : ℕ) (world : MyFplWorld) : MyFplWorld :=
  match world.captures.find id with
  | some ⟨call, override, seen, .waiting⟩ =>
    if world.locks.find call.scope ≠ none then world
    else
      match decideCapture call override seen with
      | .ok (.publish content) =>
        { world with
          nextRevision := world.nextRevision + 1
          locks := world.locks.insertAbsent call.scope (.capture id)
          captures := world.captures.upsert id
            ⟨call, override, seen, .inserted content world.nextRevision⟩ }
      | _ => world.endCapture id
  | _ => world

/-- A capture that holds the lock writes and commits, or is rolled back. -/
def commitCapture (id : ℕ) (world : MyFplWorld) : MyFplWorld :=
  match world.captures.find id with
  | some ⟨call, override, seen, .inserted content revision⟩ =>
    match publishCapture call override content revision seen world.tables with
    | .ok tables => { world with tables }.endCapture id
    | .error _ => world.endCapture id
  | _ => world

/-- A dispatch begins by claiming receipts. -/
def beginDispatch (claim : MyFplClaim) (world : MyFplWorld) : MyFplWorld :=
  if world.dispatches.find claim.owner = none ∧ 1 ≤ claim.limit ∧ claim.limit ≤ 100 then
    let (tables, rows) := claimMyFplReceipts claim world.tables
    { world with tables, dispatches := world.dispatches.upsert claim.owner ⟨rows, .idle⟩ }
  else world

/-- A claimed row is checked: its manifest, then under the lock whether it is still owned and its
publication active. -/
def ownReceipt (isTimestamp : String → Bool) (owner : String) (clock : ℕ) (world : MyFplWorld) :
    MyFplWorld :=
  match world.dispatches.find owner with
  | some ⟨(id, row) :: rest, .idle⟩ =>
    if ¬ isMyFplSnapshotRedisManifest isTimestamp row.manifest then
      { world with
        tables := updateOwnedReceipt id owner
          (MyFplSnapshotReceipt.release ("Invalid My FPL snapshot outbox manifest " ++ id) clock)
          world.tables }.nextRow owner rest
    else if world.locks.find row.key.scope ≠ none then world
    else if ∃ receipt ∈ world.tables.outbox.find id, receipt.leaseOwner = some owner ∧
        PublicationIs true world.tables receipt.key then
      { world with
        locks := world.locks.insertAbsent row.key.scope (.dispatch owner)
        dispatches := world.dispatches.upsert owner ⟨(id, row) :: rest, .owned⟩ }
    else
      { world with
        tables := updateOwnedReceipt id owner (MyFplSnapshotReceipt.supersede noLongerActive clock)
          world.tables }.nextRow owner rest
  | _ => world

/-- The pointer script of an owned row runs. -/
def runPointerScript (owner : String) (world : MyFplWorld) : MyFplWorld :=
  match world.dispatches.find owner with
  | some ⟨(id, row) :: rest, .owned⟩ =>
    match myFplSnapshotRedisManifestKey row.manifest.seasonCode row.manifest.eventId with
    | .ok key =>
      let (pointer, reply) := activateMyFplPointer row.manifest (world.pointers.find key)
      { world with
        pointers := (pointer.map (world.pointers.upsert key)).getD world.pointers
        dispatches := world.dispatches.upsert owner ⟨(id, row) :: rest, .replied reply⟩ }
    | .error _ => world
  | _ => world

/-- What the reply makes of the receipt. -/
def MyFplActivateReply.settle (reply : MyFplActivateReply) (clock : ℕ) :
    MyFplSnapshotReceipt → MyFplSnapshotReceipt :=
  match reply with
  | .published => MyFplSnapshotReceipt.deliver clock
  | .stale =>
    MyFplSnapshotReceipt.supersede "A newer My FPL revision already owns the Redis manifest" clock
  | _ =>
    MyFplSnapshotReceipt.release ("My FPL Redis manifest activation failed: " ++ reply.text) clock

/-- The receipt is settled by the reply. -/
def settleReceipt (owner : String) (clock : ℕ) (world : MyFplWorld) : MyFplWorld :=
  match world.dispatches.find owner with
  | some ⟨(id, _) :: rest, .replied reply⟩ =>
    { world with
      tables := updateOwnedReceipt id owner (reply.settle clock) world.tables }.nextRow owner rest
  | _ => world

/-- A statement of a dispatch fails: its transaction is rolled back and the row released. -/
def failReceipt (owner message : String) (clock : ℕ) (world : MyFplWorld) : MyFplWorld :=
  match world.dispatches.find owner with
  | some ⟨(id, _) :: rest, _⟩ =>
    { world with
      tables := updateOwnedReceipt id owner (MyFplSnapshotReceipt.release message clock)
        world.tables }.nextRow owner rest
  | _ => world

/-- A dispatch returns or its process dies. -/
def endDispatch (owner : String) (world : MyFplWorld) : MyFplWorld :=
  { world.unlock (.dispatch owner) with
    dispatches := world.dispatches.deleteWhere fun key _ => key = owner }

/-- The steps of captures and dispatches. -/
inductive MyFplAction where
  | beginCapture (id : ℕ) (call : MyFplSnapshotCall)
  | insertCapture (id : ℕ)
  | commitCapture (id : ℕ)
  | abortCapture (id : ℕ)
  | beginDispatch (claim : MyFplClaim)
  | ownReceipt (owner : String) (clock : ℕ)
  | runPointerScript (owner : String)
  | settleReceipt (owner : String) (clock : ℕ)
  | failReceipt (owner message : String) (clock : ℕ)
  | endDispatch (owner : String)

/-- One step; what cannot happen now leaves the world as it is. -/
def myFplStep (isTimestamp : String → Bool) (world : MyFplWorld) : MyFplAction → MyFplWorld
  | .beginCapture id call => LetletmeData.beginCapture id call world
  | .insertCapture id => LetletmeData.insertCapture id world
  | .commitCapture id => LetletmeData.commitCapture id world
  | .abortCapture id => world.endCapture id
  | .beginDispatch claim => LetletmeData.beginDispatch claim world
  | .ownReceipt owner clock => LetletmeData.ownReceipt isTimestamp owner clock world
  | .runPointerScript owner => LetletmeData.runPointerScript owner world
  | .settleReceipt owner clock => LetletmeData.settleReceipt owner clock world
  | .failReceipt owner message clock => LetletmeData.failReceipt owner message clock world
  | .endDispatch owner => LetletmeData.endDispatch owner world

end LetletmeData
