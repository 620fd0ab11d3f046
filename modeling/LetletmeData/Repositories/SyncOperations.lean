import LetletmeData.Repositories.PublicationTables

/-!
# Source runs and dataset publications

The calls of the sync operations repository on runs and publications. Each is one statement
or one transaction, so it returns the tables it leaves or the error it throws; preparing a
publication first commits the removal of expired ones.
-/

namespace LetletmeData

open LetletmeData.Library

/-- `EXPIRED_PUBLICATION_CLEANUP_BATCH_SIZE`. -/
def expiredPublicationCleanupBatchSize : ℕ := 100

/-- Fifteen minutes in milliseconds. -/
def fifteenMinutes : ℕ := 15 * 60 * 1000

/-- A day in milliseconds. -/
def twentyFourHours : ℕ := 24 * 60 * 60 * 1000

/-- Insert a running source run, or find the one that was started with the same identity. -/
def startRun (runId : ℕ) (input : StartSyncRunInput) (db : Database) :
    Except RepositoryError Database :=
  match db.runs.find runId with
  | some run => do
    throwIf (run.identity ≠ input)
      (.databaseError "Sync run ID is already bound to another immutable identity"
        "SYNC_RUN_ID_CONFLICT")
    return db
  | none => do
    throwIf (∃ season ∈ input.season, season.seasonId ∉ db.seasons)
      (.constraintViolation "sync_runs_season_fk")
    return { db with
      runs := db.runs.insertAbsent runId
        { identity := input, status := .running, publicationId := none } }

/-- The statuses `finishRun` accepts. -/
inductive FinishedRunStatus where
  | completed
  | readyToPublish
  | published
  | skipped
  deriving DecidableEq

/-- The finished status as a status column. -/
def FinishedRunStatus.status : FinishedRunStatus → SyncRunStatus
  | completed => .completed
  | readyToPublish => .readyToPublish
  | published => .published
  | skipped => .skipped

/-- Finish a run. The publication column is written only when the input has one, even null. -/
def finishRun (runId : ℕ) (status : FinishedRunStatus) (publicationId : Option (Option ℕ))
    (db : Database) : Except RepositoryError Database := do
  let current ← orThrow (db.runs.find runId)
    (.databaseError "Sync run does not exist" "SYNC_RUN_NOT_FOUND")
  throwIf (current.status ≠ status.status ∧ current.status ∉ nonTerminalRunStatuses)
    (.databaseError
      ("Sync run cannot transition from " ++ current.status.text ++ " to " ++ status.status.text)
      "SYNC_RUN_TERMINAL_STATE_CONFLICT")
  throwIf (∃ written ∈ publicationId, ∃ id ∈ written, db.publications.find id = none)
    (.constraintViolation "sync_runs_publication_fk")
  return { db with
    runs := db.runs.updateWhere (fun id _ => id = runId) fun run =>
      { run with
        status := status.status
        publicationId := publicationId.getD run.publicationId } }

/-- Fail a run that has not reached another terminal status. -/
def failRun (runId : ℕ) (db : Database) : Database :=
  db.moveRun runId (nonTerminalRunStatuses ++ [.failed]) fun run => { run with status := .failed }

/-- The retired and failed rows whose retention is over. -/
def DatasetPublication.Expired (now : ℕ) (row : DatasetPublication) : Prop :=
  (∃ expiresAt ∈ row.expiresAt, expiresAt ≤ now) ∧ (row.status = .retired ∨ row.status = .failed)

instance (now : ℕ) (row : DatasetPublication) : Decidable (row.Expired now) :=
  inferInstanceAs (Decidable (_ ∧ _))

/-- `ORDER BY expires_at, publication_id`. -/
def expiresBefore (left right : ℕ × DatasetPublication) : Prop :=
  left.2.expiresAt.getD 0 < right.2.expiresAt.getD 0 ∨
    (left.2.expiresAt.getD 0 = right.2.expiresAt.getD 0 ∧ left.1 ≤ right.1)

instance : DecidableRel expiresBefore := fun _ _ => inferInstanceAs (Decidable (_ ∨ _))

/-- One batch of expired publications. -/
def expiredPublications (now : ℕ) (db : Database) : List ℕ :=
  ((db.publications.selectSorted (fun _ row => row.Expired now) expiresBefore).take
    expiredPublicationCleanupBatchSize).map Prod.fst

/-- Detach runs from one batch of expired publications and delete these; items and outbox
receipts go with their publication. -/
def cleanupExpired (now : ℕ) (db : Database) : Database :=
  let expiredIds := expiredPublications now db
  { db with
    runs := db.runs.updateWhere (fun _ run => ∃ id ∈ run.publicationId, id ∈ expiredIds)
      fun run => { run with publicationId := none }
    publications := db.publications.deleteWhere fun id row => id ∈ expiredIds ∧ row.Expired now
    items := db.items.deleteWhere fun key _ => key.1 ∈ expiredIds
    outbox := db.outbox.deleteWhere fun _ receipt => receipt.publicationId ∈ expiredIds }

/-- `PreparePublicationInput`, with the identifier given or drawn. -/
structure PreparePublicationInput where
  publicationId : ℕ
  dataset : DataPublicationDataset
  season : FplSeasonRef
  eventId : Option ℕ
  sourceRunId : ℕ
  manifest : Option DataPublicationManifest
  deriving DecidableEq

/-- The scope to prepare in. -/
def PreparePublicationInput.scope (input : PreparePublicationInput) : PublicationScope :=
  publicationScope input.dataset input.season input.eventId

/-- `PreparedDatasetPublication`. -/
structure PreparedDatasetPublication where
  publicationId : ℕ
  revision : ℕ
  status : PublicationStatus
  deriving DecidableEq

/-- The row that a preparation inserts. -/
def stagingRow (now revision : ℕ) (input : PreparePublicationInput) : DatasetPublication :=
  { scope := input.scope
    revision := revision
    status := .staging
    manifest := input.manifest
    sourceRunId := input.sourceRunId
    expiresAt := some (now + fifteenMinutes) }

/-- The foreign keys of a new publication. -/
def PublicationReferences (input : PreparePublicationInput) (db : Database) : Prop :=
  db.runs.find input.sourceRunId ≠ none ∧ input.season.seasonId ∈ db.seasons ∧
    ∀ eventId ∈ input.eventId, (input.season.seasonId, eventId) ∈ db.events

instance (input : PreparePublicationInput) (db : Database) :
    Decidable (PublicationReferences input db) :=
  inferInstanceAs (Decidable (_ ∧ _))

/-- Insert a staging row, or find the one that the identifier is bound to. The sequence
advances either way. -/
def insertStaging (now : ℕ) (input : PreparePublicationInput) (db : Database) :
    Database × Except RepositoryError PreparedDatasetPublication :=
  let revision := db.nextRevision
  let drawn := { db with nextRevision := revision + 1 }
  match db.publications.find input.publicationId with
  | some row =>
    (drawn, do
      throwIf (row.scope ≠ input.scope ∨ row.sourceRunId ≠ input.sourceRunId)
        (.databaseError "Publication ID is already bound to another scope"
          "DATASET_PUBLICATION_ID_CONFLICT")
      return ⟨input.publicationId, row.revision, row.status⟩)
  | none =>
    if PublicationReferences input db then
      ({ drawn with
          publications :=
            db.publications.insertAbsent input.publicationId (stagingRow now revision input) },
        .ok ⟨input.publicationId, revision, .staging⟩)
    else (drawn, .error (.constraintViolation "dataset_publications_fk"))

/-- Clean up, then insert or find the staging row. -/
def preparePublication (now : ℕ) (input : PreparePublicationInput) (db : Database) :
    Database × Except RepositoryError PreparedDatasetPublication :=
  if isDataPublicationId input.publicationId then
    insertStaging now input (cleanupExpired now db)
  else
    (db, .error (.databaseError "Publication ID must be an RFC UUID"
      "DATASET_PUBLICATION_ID_INVALID"))

/-- `DatasetPublicationItemInput`. -/
structure DatasetPublicationItemInput where
  name : String
  payload : StoredPayload
  count : ℕ
  checksum : String
  deriving DecidableEq

/-- The item sets that may be staged: the live pair, the market context, or the core items
with or without the selection rules. -/
def StageableItems (names : List String) : Prop :=
  (names.length = 2 ∧ "eventLive" ∈ names ∧ "fixtures" ∈ names) ∨
    (names.length = 1 ∧ "context" ∈ names) ∨
    ((names.length = (datasetItemNames .core).length ∨ names.length = legacyCoreItemNames.length) ∧
      (∀ name ∈ names, name ∈ datasetItemNames .core) ∧
      (names.length = (datasetItemNames .core).length ∨
        ∀ name ∈ names, name ∈ legacyCoreItemNames))

instance (names : List String) : Decidable (StageableItems names) :=
  inferInstanceAs (Decidable (_ ∨ _))

/-- Store the payloads of a publication, replacing earlier ones of the same names. -/
def stagePublicationItems (publicationId : ℕ) (items : List DatasetPublicationItemInput)
    (db : Database) : Except RepositoryError Database := do
  throwIf (¬ StageableItems (items.map (·.name)) ∨ ¬ (items.map (·.name)).Nodup)
    (.databaseError "Publication item proof is incomplete" "DATASET_PUBLICATION_ITEMS_INCOMPLETE")
  throwIf (db.publications.find publicationId = none)
    (.constraintViolation "dataset_publication_items_publication_fk")
  return { db with
    items := items.foldl
      (fun table item => table.upsert (publicationId, item.name)
        { payload := item.payload, itemCount := item.count, checksum := item.checksum })
      db.items }

/-- The input of `activatePublication`; the outbox receipt is optional. -/
structure ActivatePublicationInput where
  publicationId : ℕ
  dataset : DataPublicationDataset
  season : FplSeasonRef
  eventId : Option ℕ
  sourceRunId : ℕ
  manifest : DataPublicationManifest
  outboxId : Option ℕ
  deriving DecidableEq

namespace ActivatePublicationInput

variable (input : ActivatePublicationInput)

/-- The scope to activate in. -/
def scope : PublicationScope := publicationScope input.dataset input.season input.eventId

/-- `assertPublicationManifest`, as the condition it asserts. -/
def ManifestMatches (revision : ℕ) : Prop :=
  input.manifest.publicationId = input.publicationId ∧ input.manifest.dataset = input.dataset ∧
    input.manifest.seasonCode = input.season.seasonCode ∧
    input.manifest.eventId = input.eventId ∧ input.manifest.revision = revision

instance (revision : ℕ) : Decidable (input.ManifestMatches revision) :=
  inferInstanceAs (Decidable (_ ∧ _))

/-- The stored items prove the items of the manifest. -/
def ItemProof (db : Database) : Prop :=
  (db.items.selectWhere fun key _ => key.1 = input.publicationId).length =
      input.manifest.items.length ∧
    ∀ item ∈ input.manifest.items, ∃ row ∈ db.items.find (input.publicationId, item.name),
      row.itemCount = item.count ∧ row.checksum = item.sha256

instance (db : Database) : Decidable (input.ItemProof db) := inferInstanceAs (Decidable (_ ∧ _))

/-- Another publication is active in the scope at the target's revision or above. -/
def Superseded (db : Database) (revision : ℕ) : Prop :=
  ∃ entry ∈ db.activeIn input.scope, entry.1 ≠ input.publicationId ∧ revision ≤ entry.2.revision

instance (db : Database) (revision : ℕ) : Decidable (input.Superseded db revision) :=
  inferInstanceAs (Decidable (∃ entry ∈ db.activeIn input.scope, _))

end ActivatePublicationInput

/-- The reads and checks of `activatePublication`. -/
def checkActivation (input : ActivatePublicationInput) (db : Database) :
    Except RepositoryError Unit := do
  let targetRow ← orThrow (db.publications.find input.publicationId)
    (.databaseError "Dataset publication does not exist" "DATASET_PUBLICATION_NOT_FOUND")
  throwIf (targetRow.scope ≠ input.scope ∨ targetRow.sourceRunId ≠ input.sourceRunId)
    (.databaseError "Dataset publication is bound to another scope or source run"
      "DATASET_PUBLICATION_SCOPE_CONFLICT")
  throwIf (targetRow.status ≠ .staging ∧ targetRow.status ≠ .active)
    (.databaseError ("Dataset publication cannot be activated from " ++ targetRow.status.text)
      "DATASET_PUBLICATION_TERMINAL_STATE_CONFLICT")
  throwIf (¬ input.ManifestMatches targetRow.revision)
    (.databaseError "Publication manifest does not match its database scope"
      "DATASET_PUBLICATION_MANIFEST_MISMATCH")
  -- callers without an outbox receipt need no item proof
  throwIf (input.outboxId.isSome ∧ ¬ input.ItemProof db)
    (.databaseError (input.dataset.text ++ " publication item proof is incomplete")
      "DATASET_PUBLICATION_ITEMS_INCOMPLETE")
  throwIf (input.Superseded db targetRow.revision)
    (.databaseError "A newer dataset publication is already active for this scope"
      "DATASET_PUBLICATION_STALE_ACTIVATION")
  let run ← orThrow (db.runs.find input.sourceRunId)
    (.databaseError "Publication source run does not exist" "SYNC_RUN_NOT_FOUND")
  throwIf (∃ bound ∈ run.publicationId, bound ≠ input.publicationId)
    (.databaseError "Sync run is already bound to another publication"
      "SYNC_RUN_PUBLICATION_CONFLICT")
  throwIf (run.status ≠ .published ∧ run.status ∉ nonTerminalRunStatuses)
    (.databaseError ("Publication source run cannot publish from " ++ run.status.text)
      "SYNC_RUN_TERMINAL_STATE_CONFLICT")

/-- Retire what else is active in the scope, then activate the target under its manifest. -/
def activatedPublications (now : ℕ) (input : ActivatePublicationInput) (db : Database) :
    KeyedTable ℕ DatasetPublication :=
  (db.publications.updateWhere
    (fun id row => (row.scope = input.scope ∧ row.status = .active) ∧ id ≠ input.publicationId)
    fun row => { row with status := .retired, expiresAt := some (now + twentyFourHours) })
  |>.updateWhere (fun id _ => id = input.publicationId)
    fun row => { row with status := .active, manifest := some input.manifest, expiresAt := none }

/-- The source run of an activation: ready to publish when a receipt has to be delivered. -/
def activatedRun (input : ActivatePublicationInput) (run : SyncRun) : SyncRun :=
  { run with
    status := if input.outboxId.isSome then .readyToPublish else .published
    publicationId := some input.publicationId }

/-- The receipt that an activation inserts. -/
def activationReceipt (now : ℕ) (input : ActivatePublicationInput) : DataPublicationOutbox :=
  { publicationId := input.publicationId
    sourceRunId := input.sourceRunId
    scope := input.scope
    manifest := input.manifest
    status := .dbActivated
    availableAt := now
    attempts := 0
    leaseOwner := none
    leaseExpiresAt := none
    deliveredAt := none }

/-- A publication has at most one receipt; a new one needs an identifier of its own. -/
def insertReceipt (now : ℕ) (input : ActivatePublicationInput) (db : Database) :
    Except RepositoryError (KeyedTable ℕ DataPublicationOutbox) :=
  match input.outboxId with
  | none => .ok db.outbox
  | some outboxId =>
    if ∃ entry ∈ db.outbox.entries, entry.2.publicationId = input.publicationId then .ok db.outbox
    else if db.outbox.find outboxId = none then
      .ok (db.outbox.insertAbsent outboxId (activationReceipt now input))
    else .error (.constraintViolation "data_publication_outbox_pkey")

/-- The transaction body of `activatePublication`. -/
def activatePublication (now : ℕ) (input : ActivatePublicationInput) (db : Database) :
    Except RepositoryError Database := do
  checkActivation input db
  let outbox ← insertReceipt now input db
  return { db with
    publications := activatedPublications now input db
    runs := db.runs.updateWhere (fun id _ => id = input.sourceRunId) (activatedRun input)
    outbox := outbox }

/-- A failed publication expires at once. -/
def DatasetPublication.failedAt (now : ℕ) (row : DatasetPublication) : DatasetPublication :=
  { row with status := .failed, expiresAt := some now }

/-- A skipped publication is retired for a while. -/
def DatasetPublication.skippedAt (now : ℕ) (row : DatasetPublication) : DatasetPublication :=
  { row with status := .retired, expiresAt := some (now + fifteenMinutes) }

/-- Close a staging publication and move its source run. -/
def closeStaging (publicationId : ℕ) (write : DatasetPublication → DatasetPublication)
    (allowed : List SyncRunStatus) (runStatus : SyncRunStatus) (row : DatasetPublication)
    (db : Database) : Database :=
  Database.moveRun
    { db with
      publications := db.publications.updateWhere
        (fun id stored => id = publicationId ∧ stored.status = .staging) write }
    row.sourceRunId allowed fun run => { run with status := runStatus }

/-- `failPublication`: fail a staging publication and its run, or find it failed already. -/
def failPublication (now publicationId : ℕ) (db : Database) :
    Except RepositoryError Database := do
  let row ← orThrow (db.publications.find publicationId)
    (.databaseError "Dataset publication does not exist" "DATASET_PUBLICATION_NOT_FOUND")
  if row.status = .staging then
    return closeStaging publicationId (·.failedAt now) (nonTerminalRunStatuses ++ [.failed])
      .failed row db
  else
    throwIf (row.status ≠ .failed)
      (.databaseError ("Dataset publication cannot fail from " ++ row.status.text)
        "DATASET_PUBLICATION_TERMINAL_STATE_CONFLICT")
    return db

/-- `skipPublication`: retire a staging publication and skip its run, or find it retired. -/
def skipPublication (now publicationId : ℕ) (db : Database) :
    Except RepositoryError Database := do
  let row ← orThrow (db.publications.find publicationId)
    (.databaseError "Dataset publication does not exist" "DATASET_PUBLICATION_NOT_FOUND")
  if row.status = .staging then
    return closeStaging publicationId (·.skippedAt now) (nonTerminalRunStatuses ++ [.skipped])
      .skipped row db
  else
    throwIf (row.status ≠ .retired)
      (.databaseError ("Dataset publication cannot be skipped from " ++ row.status.text)
        "DATASET_PUBLICATION_TERMINAL_STATE_CONFLICT")
    return db

/-- `findActivePublication`: the identifier and revision of the scope's active row. -/
def findActivePublication (scope : PublicationScope) (db : Database) :
    Option PreparedDatasetPublication :=
  (db.activeIn scope).head?.map fun entry => ⟨entry.1, entry.2.revision, entry.2.status⟩

/-- The newest revision first. -/
def newerRevision (left right : ℕ × DatasetPublication) : Prop :=
  right.2.revision ≤ left.2.revision

instance : DecidableRel newerRevision := fun _ _ => inferInstanceAs (Decidable (_ ≤ _))

/-- `findStagingPublication`: the newest staging row of the scope. -/
def findStagingPublication (scope : PublicationScope) (db : Database) :
    Option (ℕ × DatasetPublication) :=
  (db.publications.selectSorted (fun _ row => row.scope = scope ∧ row.status = .staging)
    newerRevision).head?

end LetletmeData
