import LetletmeData.Library.Procedures
import LetletmeData.Repositories.OutboxDelivery
import LetletmeData.Services.LiveSnapshotSync

/-!
# One call of a snapshot sync

The calls of `syncLiveSnapshot` and `syncCoreSnapshot` after their source run was started, up to
their return or throw. Every statement may fail before or after it takes effect, and what
happens outside the publication tables may throw. The catch block decides by the variables that
were assigned before the throw.
-/

namespace LetletmeData

open LetletmeData.Library

/-- The tables, and the variables the catch block reads: the publication identifier once it is
drawn, and `cachePublished` or `persistenceCommitted`. -/
structure SyncFrame where
  db : Database
  publicationId : Option ℕ
  handedOver : Bool

/-- A procedure of a sync. -/
abbrev SyncProcedure := Procedure SyncFrame RepositoryError

/-- A statement on the tables. -/
def onDatabase {Value : Type} (fault : Fault RepositoryError)
    (body : Database → Database × Except RepositoryError Value) : SyncProcedure Value :=
  statement fault fun frame => ({ frame with db := (body frame.db).1 }, (body frame.db).2)

/-- A transaction as a statement. -/
def transaction (body : Database → Except RepositoryError Database) (db : Database) :
    Database × Except RepositoryError Unit :=
  (commit body db, (body db).map fun _ => ())

/-- The catch block, up to the rethrow. -/
def closeFailedSync (now sourceRunId : ℕ) : SyncProcedure Unit := do
  let frame ← get
  match frame.publicationId, frame.handedOver with
  | some publicationId, false =>
    ignoreErrors (onDatabase .none (transaction (failPublication now publicationId)))
  | some _, true => pure ()
  | none, _ =>
    ignoreErrors (onDatabase .none (transaction fun db => .ok (failRun sourceRunId db)))

/-- The identifiers a sync draws and the clock of the database. -/
structure SyncIdentity where
  sourceRunId : ℕ
  publicationId : ℕ
  outboxId : ℕ
  now : ℕ

/-- The last phase of a sync: the activation, the dispatch of its receipt, in any calls the
dispatcher comes to make, and the check that it was delivered. -/
structure HandOver where
  activating : Fault RepositoryError
  dispatching : List DeliveryCall
  dispatched : Except RepositoryError Unit

/-- Activate under the manifest and dispatch the receipt. -/
def handOver (host : HostFunctions) (now : ℕ) (input : ActivatePublicationInput)
    (plan : HandOver) : SyncProcedure Unit := do
  onDatabase plan.activating (transaction (activatePublication now input))
  onDatabase .none fun db => (runSteps (deliveryStep host) db plan.dispatching, .ok ())
  external plan.dispatched

/-- Skip the publication and its run. -/
def skipSync (identity : SyncIdentity) (skipping finishing : Fault RepositoryError) :
    SyncProcedure Unit := do
  onDatabase skipping (transaction (skipPublication identity.now identity.publicationId))
  onDatabase finishing (transaction (finishRun identity.sourceRunId .skipped none))

section Live

/-- What a call of `syncLiveSnapshot` meets: the fence and the season as it finds them, the fetch
and whether its content is new, the faults of its statements, and what the writes behind the
fence, the heartbeat and the staging in Redis come to. -/
structure LiveSyncPlan extends SyncIdentity, HandOver where
  currentSeasons : List FplSeasonRef
  liveSnapshotCheckedAt : Option ℕ
  fetched : Except RepositoryError (LiveSnapshotFetch × Bool)
  canonicalWrites : Except RepositoryError Unit
  persisting : Fault RepositoryError
  heartbeat : Except RepositoryError Unit
  staging : Fault RepositoryError
  publishing : Except RepositoryError Bool
  skipping : Fault RepositoryError
  finishing : Fault RepositoryError

variable (host : HostFunctions) (season : FplSeasonRef) (eventId : ℕ) (plan : LiveSyncPlan)

/-- The tables as the call finds them. -/
def LiveSyncPlan.tables (db : Database) : LiveTables :=
  { db := db
    currentSeasons := plan.currentSeasons
    liveSnapshotCheckedAt := plan.liveSnapshotCheckedAt }

/-- The staging transaction of the call. -/
def LiveSyncPlan.stage (fetch : LiveSnapshotFetch) (db : Database) :
    Database × Except RepositoryError (Option StagedLiveSnapshot) :=
  let result := stageLiveSnapshot host season eventId plan.now plan.publicationId
    plan.sourceRunId fetch plan.canonicalWrites (plan.tables db)
  (result.1.db, result.2)

/-- The activation of a snapshot the call has staged. -/
def LiveSyncPlan.activation (staged : StagedLiveSnapshot) : ActivatePublicationInput :=
  liveActivationInput season eventId plan.sourceRunId
    (staged.delivery host season eventId).manifest plan.outboxId

/-- The branch of unchanged content. -/
def syncUnchangedLiveSnapshot (fetch : LiveSnapshotFetch) : SyncProcedure Unit := do
  onDatabase plan.persisting fun db =>
    (db, (persistLiveSnapshotDurably season eventId fetch.checkedAt plan.canonicalWrites
      (plan.tables db)).map fun _ => ())
  external plan.heartbeat
  onDatabase plan.finishing (transaction (finishRun plan.sourceRunId .skipped none))

/-- The branch of new content. -/
def syncChangedLiveSnapshot (fetch : LiveSnapshotFetch) : SyncProcedure Unit := do
  assign fun frame => { frame with publicationId := some plan.publicationId }
  match ← onDatabase plan.staging (plan.stage host season eventId fetch) with
  | none => pure ()
  | some staged =>
    match ← external plan.publishing with
    | false => skipSync plan.toSyncIdentity plan.skipping plan.finishing
    | true =>
      assign fun frame => { frame with handedOver := true }
      handOver host plan.now (plan.activation host season eventId staged) plan.toHandOver

/-- The try block of `syncLiveSnapshot`. -/
def syncLiveSnapshotBody : SyncProcedure Unit := do
  match ← external plan.fetched with
  | (fetch, false) => syncUnchangedLiveSnapshot season eventId plan fetch
  | (fetch, true) => syncChangedLiveSnapshot host season eventId plan fetch

/-- `syncLiveSnapshot` from the start of its source run on. -/
def syncLiveSnapshot : SyncProcedure Unit :=
  tryCatch (syncLiveSnapshotBody host season eventId plan) fun error => do
    closeFailedSync plan.now plan.sourceRunId
    throw error

end Live

section Core

/-- What a core sync publishes of its fetch. -/
structure CoreSnapshotFetch where
  sourceCheckedAt : ℕ
  publishedAt : ℕ
  events : PublishedValue
  teams : PublishedValue
  players : PublishedValue
  phases : PublishedValue
  fixtures : PublishedValue
  currentEventId : PublishedValue
  selectionRules : PublishedValue

/-- The items of a core publication. -/
def CoreSnapshotFetch.items (fetch : CoreSnapshotFetch) : List (String × PublishedValue) :=
  [("events", fetch.events), ("teams", fetch.teams), ("players", fetch.players),
    ("phases", fetch.phases), ("fixtures", fetch.fixtures),
    ("currentEventId", fetch.currentEventId), ("selectionRules", fetch.selectionRules)]

/-- What a call of `syncCoreSnapshot` meets: the fetch, the faults of its statements, and what
the writes of the core rows, the staging in Redis and the check of the season come to. -/
structure CoreSyncPlan extends SyncIdentity, HandOver where
  fetched : Except RepositoryError CoreSnapshotFetch
  canonicalWrites : Except RepositoryError Unit
  staging : Fault RepositoryError
  publishing : Except RepositoryError Bool
  skipping : Fault RepositoryError
  finishing : Fault RepositoryError

variable (host : HostFunctions) (season : FplSeasonRef) (plan : CoreSyncPlan)

/-- The publication that `prepareCoreSnapshotCache` prepares under a revision. -/
def CoreSyncPlan.delivery (fetch : CoreSnapshotFetch) (revision : ℕ) : PreparedDelivery :=
  prepareDataPublication host
    { dataset := .core
      seasonCode := season.seasonCode
      eventId := none
      revision := revision
      publicationId := plan.publicationId
      sourceCheckedAt := fetch.sourceCheckedAt
      lastSuccessfulFetchAt := none
      publishedAt := fetch.publishedAt
      state := .active
      items := fetch.items }

/-- The item proofs that `syncCoreSnapshot` stages, with the digests of the prepared items. -/
def coreItemProof (item : String × PublishedValue) : DatasetPublicationItemInput :=
  { name := item.1
    payload := item.2.payload
    count := item.2.count
    checksum := host.sha256 (item.2.text .core) }

/-- The input `syncCoreSnapshot` prepares. -/
def CoreSyncPlan.stagingInput : PreparePublicationInput :=
  { publicationId := plan.publicationId
    dataset := .core
    season := season
    eventId := none
    sourceRunId := plan.sourceRunId
    manifest := none }

/-- The body of the staging transaction: the revision of what is staged. -/
def coreStagingTransaction (fetch : CoreSnapshotFetch) (db : Database) :
    Except RepositoryError (Database × ℕ) := do
  let (drawn, prepared) := preparePublication plan.now (plan.stagingInput season) db
  let staging ← prepared
  let written ← stagePublicationItems staging.publicationId
    (fetch.items.map (coreItemProof host)) drawn
  plan.canonicalWrites
  return (written, staging.revision)

/-- The staging transaction. When it throws, all it leaves is a revision that was drawn. -/
def CoreSyncPlan.stage (fetch : CoreSnapshotFetch) (db : Database) :
    Database × Except RepositoryError ℕ :=
  match coreStagingTransaction host season plan fetch db with
  | .ok (written, revision) => (written, .ok revision)
  | .error error =>
    let drawn := (preparePublication plan.now (plan.stagingInput season) db).1.nextRevision
    ({ db with nextRevision := drawn }, .error error)

/-- The activation of the snapshot that was staged under a revision. -/
def CoreSyncPlan.activation (fetch : CoreSnapshotFetch) (revision : ℕ) :
    ActivatePublicationInput :=
  { publicationId := plan.publicationId
    dataset := .core
    season := season
    eventId := none
    sourceRunId := plan.sourceRunId
    manifest := (plan.delivery host season fetch revision).manifest
    outboxId := some plan.outboxId }

/-- The try block of `syncCoreSnapshot`, with `publishCoreSnapshotPublication`. -/
def syncCoreSnapshotBody : SyncProcedure Unit := do
  let fetch ← external plan.fetched
  assign fun frame => { frame with publicationId := some plan.publicationId }
  let revision ← onDatabase plan.staging (plan.stage host season fetch)
  assign fun frame => { frame with handedOver := true }
  match ← external plan.publishing with
  | false => skipSync plan.toSyncIdentity plan.skipping plan.finishing
  | true => handOver host plan.now (plan.activation host season fetch revision) plan.toHandOver

/-- `syncCoreSnapshot` from the start of its source run on. -/
def syncCoreSnapshot : SyncProcedure Unit :=
  tryCatch (syncCoreSnapshotBody host season plan) fun error => do
    closeFailedSync plan.now plan.sourceRunId
    throw error

end Core

/-- The frame in which the try block starts. -/
def SyncFrame.start (db : Database) : SyncFrame :=
  { db := db, publicationId := none, handedOver := false }

/-- The tables that a sync leaves when it returns or throws. -/
def tablesAfter (sync : SyncProcedure Unit) (db : Database) : Database :=
  (sync.run.run (.start db)).2.db

end LetletmeData
