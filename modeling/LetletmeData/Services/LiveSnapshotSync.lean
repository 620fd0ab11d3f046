import LetletmeData.Cache.LiveSnapshotCache
import LetletmeData.Cache.PreparedPublication
import LetletmeData.Repositories.PublicationCalls

/-!
# Synchronising live snapshots

A worker fetches the live data of an event and stages a publication of it in one transaction,
under the mutation scope of the event: it draws the identifier and the revision, claims the
fence by its check time, and stores the payloads. Then it stages the items in Redis, activates
the publication in the database and delivers it, each in a step of its own. A worker may stop
after any step, and what it has in memory stays usable to it at any later time.
-/

namespace LetletmeData

open LetletmeData.Library

/-- What a worker publishes of a fetch, with the times it has read. Clocks are before the
year 10000. -/
structure LiveSnapshotFetch where
  checkedAt : ℕ
  checkedAt_year : isoYear checkedAt < 10000
  lastSuccessfulFetchAt : ℕ
  publishedAt : ℕ
  state : DataPublicationState
  eventLives : PublishedValue
  fixtures : PublishedValue

/-- The items of a live publication. -/
def LiveSnapshotFetch.items (fetch : LiveSnapshotFetch) : List (String × PublishedValue) :=
  [("eventLive", fetch.eventLives), ("fixtures", fetch.fixtures)]

/-- `publicationItemProof`. -/
def publicationItemProof (host : HostFunctions) (item : String × PublishedValue) :
    DatasetPublicationItemInput :=
  { name := item.1
    payload := item.2.payload
    count := item.2.count
    checksum := host.sha256 item.2.payload.postgresJsonbCanonicalJson }

/-- The publication that a committed staging transaction has left to its worker. -/
structure StagedLiveSnapshot where
  sourceRunId : ℕ
  fetch : LiveSnapshotFetch
  publicationId : ℕ
  revision : ℕ

/-- The publication that `publishLiveSnapshotCache` prepares of a staged snapshot. -/
def StagedLiveSnapshot.delivery (host : HostFunctions) (season : FplSeasonRef) (eventId : ℕ)
    (staged : StagedLiveSnapshot) : PreparedDelivery :=
  prepareDataPublication host
    { dataset := .live
      seasonCode := season.seasonCode
      eventId := some eventId
      revision := staged.revision
      publicationId := staged.publicationId
      sourceCheckedAt := staged.fetch.checkedAt
      lastSuccessfulFetchAt := some staged.fetch.lastSuccessfulFetchAt
      publishedAt := staged.fetch.publishedAt
      state := staged.fetch.state
      items := staged.fetch.items }

/-- The tables of publications, the current seasons, and the fence of the event: the check time
of its last live snapshot. -/
structure LiveTables where
  db : Database
  currentSeasons : List FplSeasonRef
  liveSnapshotCheckedAt : Option ℕ

/-- `claimLiveSnapshotFence`: whether the fence was accepted, and the check time that won. -/
def claimLiveSnapshotFence (season : FplSeasonRef) (eventId checkedAt : ℕ) (tables : LiveTables) :
    Except RepositoryError (LiveTables × Bool × ℕ) :=
  if (season.seasonId, eventId) ∈ tables.db.events ∧
      ∀ current ∈ tables.liveSnapshotCheckedAt, current ≤ checkedAt then
    .ok ({ tables with liveSnapshotCheckedAt := some checkedAt }, true, checkedAt)
  else do
    throwIf ((season.seasonId, eventId) ∉ tables.db.events)
      (.plainError ("Cannot persist live data for missing event " ++ toString eventId))
    let winnerCheckedAt ← orThrow
      (tables.liveSnapshotCheckedAt.filter fun winner => checkedAt < winner)
      (.plainError "Live snapshot ordering fence did not advance")
    return (tables, false, winnerCheckedAt)

/-- `persistLiveSnapshotDurably` as far as the fence goes: whether it was accepted. The writes of
the fixtures and player facts behind the fence may throw. -/
def persistLiveSnapshotDurably (season : FplSeasonRef) (eventId checkedAt : ℕ)
    (canonicalWrites : Except RepositoryError Unit) (tables : LiveTables) :
    Except RepositoryError (LiveTables × Bool) := do
  throwIf (tables.currentSeasons ≠ [season])
    (.databaseError
      ("FPL season " ++ season.seasonCode ++ " is not the sole current database season")
      "CURRENT_SEASON_MISMATCH")
  let (claimed, accepted, _) ← claimLiveSnapshotFence season eventId checkedAt tables
  if accepted then canonicalWrites
  return (claimed, accepted)

/-- The input `syncLiveSnapshot` prepares. The manifest it stores at first is none yet. -/
def liveStagingInput (season : FplSeasonRef) (eventId publicationId sourceRunId : ℕ) :
    PreparePublicationInput :=
  { publicationId := publicationId
    dataset := .live
    season := season
    eventId := some eventId
    sourceRunId := sourceRunId
    manifest := none }

/-- The body of the staging transaction: what is staged, unless the fence was lost and the
publication skipped. -/
def liveStagingTransaction (host : HostFunctions) (season : FplSeasonRef)
    (eventId now publicationId sourceRunId : ℕ) (fetch : LiveSnapshotFetch)
    (canonicalWrites : Except RepositoryError Unit) (tables : LiveTables) :
    Except RepositoryError (LiveTables × Option StagedLiveSnapshot) := do
  let (db, prepared) :=
    preparePublication now (liveStagingInput season eventId publicationId sourceRunId) tables.db
  let staging ← prepared
  let (persisted, accepted) ←
    persistLiveSnapshotDurably season eventId fetch.checkedAt canonicalWrites
      { tables with db := db }
  if accepted then do
    let written ← stagePublicationItems staging.publicationId
      (fetch.items.map (publicationItemProof host)) persisted.db
    return ({ persisted with db := written },
      some ⟨sourceRunId, fetch, staging.publicationId, staging.revision⟩)
  else do
    let written ← skipPublication now staging.publicationId persisted.db
    return ({ persisted with db := written }, none)

/-- The staging transaction. When it throws, all it leaves is a revision that was drawn. -/
def stageLiveSnapshot (host : HostFunctions) (season : FplSeasonRef)
    (eventId now publicationId sourceRunId : ℕ) (fetch : LiveSnapshotFetch)
    (canonicalWrites : Except RepositoryError Unit) (tables : LiveTables) :
    LiveTables × Except RepositoryError (Option StagedLiveSnapshot) :=
  match liveStagingTransaction host season eventId now publicationId sourceRunId fetch
    canonicalWrites tables with
  | .ok (written, staged) => (written, .ok staged)
  | .error error =>
    let drawn := (preparePublication now
      (liveStagingInput season eventId publicationId sourceRunId) tables.db).1.nextRevision
    ({ tables with db := { tables.db with nextRevision := drawn } }, .error error)

/-- The activation of a live publication under a manifest, with a receipt. -/
def liveActivationInput (season : FplSeasonRef) (eventId sourceRunId : ℕ)
    (manifest : DataPublicationManifest) (outboxId : ℕ) : ActivatePublicationInput :=
  { publicationId := manifest.publicationId
    dataset := .live
    season := season
    eventId := some eventId
    sourceRunId := sourceRunId
    manifest := manifest
    outboxId := some outboxId }

/-- The live publications of an event in the database. -/
def livePublicationScope (season : FplSeasonRef) (eventId : ℕ) : PublicationScope :=
  publicationScope .live season (some eventId)

/-- The tables, the keys of the event in Redis, and what the workers have in memory: staged
snapshots, manifests read from Redis and claimed deliveries. The manifests under which a
publication of the event became active are recorded in order. -/
structure LiveSyncWorld where
  tables : LiveTables
  cache : PublicationCache
  staged : List StagedLiveSnapshot
  read : List DataPublicationManifest
  claimed : List ClaimedDataPublicationOutbox
  activated : List DataPublicationManifest

/-- The steps of the workers, a number standing for the worker that took the remembered value,
the end of a key's lifetime, and any other call on the tables. -/
inductive LiveSyncAction where
  | persistUnchanged (checkedAt : ℕ) (canonicalWrites : Except RepositoryError Unit)
  | stage (now publicationId sourceRunId : ℕ) (fetch : LiveSnapshotFetch)
      (canonicalWrites : Except RepositoryError Unit)
  | publish (worker : ℕ)
  | activate (worker now outboxId : ℕ)
  | readPublished
  | refreshHeartbeat (reader lastSuccessfulFetchAt : ℕ)
  | recoverPending (reader sourceRunId now outboxId : ℕ)
  | claim (dbNow owner : ℕ) (limit leaseMs publicationId : Option ℕ)
  | stageDelivery (dispatcher : ℕ)
  | activatePointer (dispatcher : ℕ)
  | expire (key : String)
  | call (call : DatabaseCall)

/-- The call activates a publication of the event, or one that is delivered to its keys. -/
def DatabaseCall.ActivatesLive (season : FplSeasonRef) (eventId : ℕ) : DatabaseCall → Prop
  | .activatePublication _ input =>
    input.scope = livePublicationScope season eventId ∨
      input.manifest.scope = liveScope season.seasonCode eventId
  | _ => False

instance (season : FplSeasonRef) (eventId : ℕ) :
    ∀ call : DatabaseCall, Decidable (call.ActivatesLive season eventId)
  | .activatePublication _ input =>
    inferInstanceAs (Decidable (input.scope = livePublicationScope season eventId ∨
      input.manifest.scope = liveScope season.seasonCode eventId))
  | .startRun .. | .finishRun .. | .failRun _ | .preparePublication .. | .stagePublicationItems ..
  | .failPublication .. | .skipPublication .. | .claimOutbox .. | .markOutboxStage ..
  | .markOutboxDelivered .. | .markOutboxReconciled .. | .releaseOutbox .. | .failOutbox .. =>
    inferInstanceAs (Decidable False)

namespace LiveSyncWorld

variable (world : LiveSyncWorld)

/-- Nothing is published, and no worker has started. -/
def initial (currentSeasons : List FplSeasonRef) (seasons : List ℕ) (events : List (ℕ × ℕ)) :
    LiveSyncWorld :=
  { tables :=
      { db := .initial seasons events, currentSeasons := currentSeasons
        liveSnapshotCheckedAt := none }
    cache := .initial
    staged := []
    read := []
    claimed := []
    activated := [] }

/-- The tables after another call. -/
def withDatabase (db : Database) : LiveSyncWorld :=
  { world with tables := { world.tables with db := db } }

/-- An operation on the keys of the event. -/
def operate (operation : CacheOperation) : LiveSyncWorld :=
  { world with cache := cacheStep world.cache operation }

/-- An activation, recorded if it succeeds. -/
def activate (now : ℕ) (input : ActivatePublicationInput) : LiveSyncWorld :=
  match activatePublication now input world.tables.db with
  | .ok db => { world.withDatabase db with activated := world.activated ++ [input.manifest] }
  | .error _ => world

/-- A claim, whose deliveries the dispatcher then has in memory. -/
def claim (host : HostFunctions) (dbNow owner : ℕ) (limit leaseMs publicationId : Option ℕ) :
    LiveSyncWorld :=
  match claimDataPublicationOutbox host dbNow owner limit leaseMs publicationId
    world.tables.db with
  | .ok (db, rows) => { world.withDatabase db with claimed := world.claimed ++ rows }
  | .error _ => world

/-- A delivery in memory that goes to the keys of the event. -/
def deliveryTo (scope : DataPublicationScope) (dispatcher : ℕ) : Option PreparedDelivery :=
  (world.claimed[dispatcher]?.map (·.delivery)).filter (·.manifest.scope = scope)

end LiveSyncWorld

/-- One step of a worker, or another one. Publication identifiers are drawn anew, and activations
of the event are the workers' own. -/
def liveSyncStep (host : LiveHostFunctions) (season : FplSeasonRef) (eventId : ℕ)
    (world : LiveSyncWorld) : LiveSyncAction → LiveSyncWorld
  | .persistUnchanged checkedAt canonicalWrites =>
    match persistLiveSnapshotDurably season eventId checkedAt canonicalWrites world.tables with
    | .ok (tables, _) => { world with tables := tables }
    | .error _ => world
  | .stage now publicationId sourceRunId fetch canonicalWrites =>
    if world.tables.db.publications.find publicationId = none then
      match stageLiveSnapshot host.toHostFunctions season eventId now publicationId sourceRunId
        fetch canonicalWrites world.tables with
      | (tables, .ok (some staged)) =>
        { world with tables := tables, staged := world.staged ++ [staged] }
      | (tables, _) => { world with tables := tables }
    else world
  | .publish worker =>
    match world.staged[worker]? with
    | some staged => world.operate (.stage (staged.delivery host.toHostFunctions season eventId))
    | none => world
  | .activate worker now outboxId =>
    match world.staged[worker]? with
    | some staged =>
      world.activate now (liveActivationInput season eventId staged.sourceRunId
        (staged.delivery host.toHostFunctions season eventId).manifest outboxId)
    | none => world
  | .readPublished =>
    { world with
      read := world.read ++ (readPointer host.toHostFunctions
        (liveScope season.seasonCode eventId) world.cache).toList }
  | .refreshHeartbeat reader lastSuccessfulFetchAt =>
    match world.read[reader]? with
    | some active =>
      world.operate (.compareAndSwap active.publicationId
        (some (active.refreshed (toISOString lastSuccessfulFetchAt))))
    | none => world
  | .recoverPending reader sourceRunId now outboxId =>
    match world.read[reader]? with
    | some cached =>
      world.activate now (liveActivationInput season eventId sourceRunId cached outboxId)
    | none => world
  | .claim dbNow owner limit leaseMs publicationId =>
    world.claim host.toHostFunctions dbNow owner limit leaseMs publicationId
  | .stageDelivery dispatcher =>
    match world.deliveryTo (liveScope season.seasonCode eventId) dispatcher with
    | some delivery => world.operate (.stage delivery)
    | none => world
  | .activatePointer dispatcher =>
    match world.deliveryTo (liveScope season.seasonCode eventId) dispatcher with
    | some delivery => world.operate (.activate delivery.manifest)
    | none => world
  | .expire key => world.operate (.expire key)
  | .call call =>
    if call.ActivatesLive season eventId then world
    else world.withDatabase (databaseStep host.toHostFunctions world.tables.db call)

end LetletmeData
