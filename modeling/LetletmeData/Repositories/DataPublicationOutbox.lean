import LetletmeData.Repositories.SyncOperations

/-!
# The delivery outbox

An activation leaves a receipt in the outbox. Workers claim receipts under a lease, load the
proven payloads and report how far the delivery got; a report of a worker that lost its lease,
or on a delivered receipt, changes nothing.
-/

namespace LetletmeData

open LetletmeData.Library

/-- The texts a stored payload may have been hashed as, in the order they are tried. -/
def payloadCandidates (dataset : DataPublicationDataset) (payload : StoredPayload) :
    List String :=
  [if dataset = .live then payload.postgresJsonbCanonicalJson else payload.canonicalJson,
    payload.stringify, payload.postgresJsonbCanonicalJson]

/-- A candidate that has the size and digest of the manifest, which the row repeats. -/
def ProvesItem (host : HostFunctions) (itemManifest : DataPublicationManifestItem)
    (row : DatasetPublicationItem) (candidate : String) : Prop :=
  candidate.utf8ByteSize = itemManifest.bytes ∧ host.sha256 candidate = itemManifest.sha256 ∧
    row.checksum = itemManifest.sha256

instance (host : HostFunctions) (itemManifest : DataPublicationManifestItem)
    (row : DatasetPublicationItem) (candidate : String) :
    Decidable (ProvesItem host itemManifest row candidate) :=
  inferInstanceAs (Decidable (_ ∧ _))

/-- Load one item of a manifest. An empty text counts as no payload. -/
def loadItem (host : HostFunctions) (db : Database) (publicationId : ℕ)
    (dataset : DataPublicationDataset) (itemManifest : DataPublicationManifestItem) :
    Except RepositoryError DataPublicationDeliveryItem := do
  let row ← orThrow (db.items.find (publicationId, itemManifest.name))
    (.plainError
      ("Publication " ++ uuidText publicationId ++ " is missing " ++ itemManifest.name))
  let payload ← orThrow
    (((payloadCandidates dataset row.payload).find? (ProvesItem host itemManifest row ·)).filter
      (· ≠ ""))
    (.plainError
      ("Publication " ++ uuidText publicationId ++ " has invalid proof for " ++ itemManifest.name))
  return { manifest := itemManifest, payload := payload }

/-- `loadPreparedPublication`. -/
def loadPreparedPublication (host : HostFunctions) (db : Database) (publicationId : ℕ)
    (manifestValue : Option DataPublicationManifest) : Except RepositoryError PreparedDelivery := do
  let manifest ← orThrow (parseDataPublicationManifest host manifestValue)
    (.plainError ("Publication " ++ uuidText publicationId ++ " has an invalid manifest"))
  let items ← manifest.items.mapM (loadItem host db publicationId manifest.dataset)
  return { manifest := manifest, items := items }

/-- `loadDataPublicationDelivery`. -/
def loadDataPublicationDelivery (host : HostFunctions) (publicationId : ℕ) (db : Database) :
    Except RepositoryError PreparedDelivery := do
  let row ← orThrow (db.publications.find publicationId)
    (.plainError ("Publication " ++ uuidText publicationId ++ " does not exist"))
  loadPreparedPublication host db publicationId row.manifest

/-- `ClaimedDataPublicationOutbox`. -/
structure ClaimedDataPublicationOutbox where
  outboxId : ℕ
  owner : ℕ
  publicationId : ℕ
  delivery : PreparedDelivery
  deriving DecidableEq

/-- The statuses that still wait for a delivery. -/
def undeliveredStatuses : List OutboxStatus := [.pending, .staged, .dbActivated, .redisActivated]

/-- The selection of a claim: undelivered, available and not under a running lease. -/
def DataPublicationOutbox.Claimable (dbNow : ℕ) (publicationId : Option ℕ)
    (receipt : DataPublicationOutbox) : Prop :=
  (∀ id ∈ publicationId, receipt.publicationId = id) ∧ receipt.deliveredAt = none ∧
    receipt.availableAt ≤ dbNow ∧ (∀ expiresAt ∈ receipt.leaseExpiresAt, expiresAt ≤ dbNow) ∧
    receipt.status ∈ undeliveredStatuses

instance (dbNow : ℕ) (publicationId : Option ℕ) (receipt : DataPublicationOutbox) :
    Decidable (receipt.Claimable dbNow publicationId) :=
  inferInstanceAs (Decidable (_ ∧ _))

/-- `ORDER BY available_at, outbox_id`. -/
def availableBefore (left right : ℕ × DataPublicationOutbox) : Prop :=
  left.2.availableAt < right.2.availableAt ∨
    (left.2.availableAt = right.2.availableAt ∧ left.1 ≤ right.1)

instance : DecidableRel availableBefore := fun _ _ => inferInstanceAs (Decidable (_ ∨ _))

/-- Load what a selected receipt delivers. -/
def claimReceipt (host : HostFunctions) (owner : ℕ) (db : Database)
    (entry : ℕ × DataPublicationOutbox) : Except RepositoryError ClaimedDataPublicationOutbox := do
  let delivery ← loadPreparedPublication host db entry.2.publicationId (some entry.2.manifest)
  return ⟨entry.1, owner, entry.2.publicationId, delivery⟩

/-- Lease a batch of receipts to a fresh owner and load what they deliver. One receipt that
cannot be loaded undoes the whole claim. -/
def claimDataPublicationOutbox (host : HostFunctions) (dbNow owner : ℕ)
    (limit leaseMs publicationId : Option ℕ) (db : Database) :
    Except RepositoryError (Database × List ClaimedDataPublicationOutbox) := do
  let limit := limit.getD 20
  throwIf (limit < 1 ∨ 100 < limit)
    (.plainError "Data publication outbox claim limit must be between 1 and 100")
  let leaseMs := leaseMs.getD 60000
  throwIf (leaseMs < 1 ∨ maxSafeInteger < leaseMs)
    (.plainError "Data publication outbox lease must be positive")
  let rows := (db.outbox.selectSorted
    (fun _ receipt => receipt.Claimable dbNow publicationId) availableBefore).take limit
  let claimed ← rows.mapM (claimReceipt host owner db)
  let outbox := db.outbox.updateWhere (fun id _ => id ∈ rows.map Prod.fst) fun receipt =>
    { receipt with
      leaseOwner := some owner
      leaseExpiresAt := some (dbNow + leaseMs)
      attempts := receipt.attempts + 1 }
  return ({ db with outbox := outbox }, claimed)

/-- The guard of every report: the worker still holds the lease of an undelivered receipt. -/
def DataPublicationOutbox.OwnedBy (owner : ℕ) (receipt : DataPublicationOutbox) : Prop :=
  receipt.leaseOwner = some owner ∧ receipt.deliveredAt = none

instance (owner : ℕ) (receipt : DataPublicationOutbox) : Decidable (receipt.OwnedBy owner) :=
  inferInstanceAs (Decidable (_ ∧ _))

/-- The receipt a report updates, if its guard lets it. -/
def ownedReceipt (outboxId owner : ℕ) (db : Database) : Option DataPublicationOutbox :=
  (db.outbox.find outboxId).filter (·.OwnedBy owner)

/-- Update an owned receipt; the call returns whether it did. -/
def writeOwnedReceipt (outboxId owner : ℕ)
    (write : DataPublicationOutbox → DataPublicationOutbox) (db : Database) : Database :=
  { db with
    outbox := db.outbox.updateWhere (fun id receipt => id = outboxId ∧ receipt.OwnedBy owner)
      write }

/-- Close a receipt as delivered. -/
def DataPublicationOutbox.closed (now : ℕ) (receipt : DataPublicationOutbox) :
    DataPublicationOutbox :=
  { receipt with
    status := .delivered
    deliveredAt := some now
    leaseOwner := none
    leaseExpiresAt := none }

/-- The source run becomes published only with its delivered receipt. -/
def publishDeliveredRun (receipt : DataPublicationOutbox) (db : Database) : Database :=
  db.moveRun receipt.sourceRunId [.readyToPublish, .published] fun run =>
    { run with status := .published, publicationId := some receipt.publicationId }

/-- `markDataPublicationOutboxDelivered`. -/
def markDataPublicationOutboxDelivered (now outboxId owner : ℕ) (db : Database) :
    Database × Bool :=
  match ownedReceipt outboxId owner db with
  | some receipt =>
    (publishDeliveredRun receipt (writeOwnedReceipt outboxId owner (·.closed now) db), true)
  | none => (db, false)

/-- What a reconciler may close: any undelivered receipt of the publication, even a failed one. -/
def DataPublicationOutbox.Reconcilable (publicationId : ℕ) (receipt : DataPublicationOutbox) :
    Prop :=
  receipt.publicationId = publicationId ∧ receipt.deliveredAt = none ∧
    receipt.status ∈ undeliveredStatuses ++ [.failed]

instance (publicationId : ℕ) (receipt : DataPublicationOutbox) :
    Decidable (receipt.Reconcilable publicationId) :=
  inferInstanceAs (Decidable (_ ∧ _))

/-- `markDataPublicationOutboxReconciled`. -/
def markDataPublicationOutboxReconciled (now publicationId : ℕ) (db : Database) :
    Database × Bool :=
  match (db.outbox.selectWhere fun _ receipt => receipt.Reconcilable publicationId).head? with
  | some entry =>
    (publishDeliveredRun entry.2
      { db with
        outbox := db.outbox.updateWhere (fun _ receipt => receipt.Reconcilable publicationId)
          (·.closed now) }, true)
  | none => (db, false)

/-- The stages a dispatcher reports before the delivery. -/
inductive OutboxStage where
  | staged
  | redisActivated
  deriving DecidableEq

/-- The stage as a status column. -/
def OutboxStage.status : OutboxStage → OutboxStatus
  | staged => .staged
  | redisActivated => .redisActivated

/-- `markDataPublicationOutboxStage`. -/
def markDataPublicationOutboxStage (outboxId owner : ℕ) (stage : OutboxStage) (db : Database) :
    Database × Bool :=
  (writeOwnedReceipt outboxId owner (fun receipt => { receipt with status := stage.status }) db,
    (ownedReceipt outboxId owner db).isSome)

/-- `releaseDataPublicationOutbox`: back to pending after a delay, a minute by default. -/
def releaseDataPublicationOutbox (now outboxId owner : ℕ) (retryDelayMs : Option ℤ)
    (db : Database) : Database × Bool :=
  (writeOwnedReceipt outboxId owner
      (fun receipt =>
        { receipt with
          status := .pending
          availableAt := now + (retryDelayMs.getD 60000).toNat
          leaseOwner := none
          leaseExpiresAt := none }) db,
    (ownedReceipt outboxId owner db).isSome)

/-- `failDataPublicationOutbox`. -/
def failDataPublicationOutbox (outboxId owner : ℕ) (db : Database) : Database × Bool :=
  (writeOwnedReceipt outboxId owner
      (fun receipt =>
        { receipt with status := .failed, leaseOwner := none, leaseExpiresAt := none }) db,
    (ownedReceipt outboxId owner db).isSome)

end LetletmeData
