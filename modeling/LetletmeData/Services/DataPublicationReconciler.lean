import LetletmeData.Cache.LiveSnapshotCache
import LetletmeData.Library.IsoTimestamps
import LetletmeData.Repositories.PublicationCalls

/-!
# Reconciling Redis with the database

A reconciler compares the publication that is active in the database with the one Redis points
to, and repairs the pointer. Each of its reads and writes is a step of its own, as are those of
the dispatchers that deliver receipts, so that any number of them interleave with each other and
with any calls on the tables.
-/

namespace LetletmeData

open LetletmeData.Library

/-- The keys of all scopes: a pointer for each scope, and the items. -/
structure RedisKeys where
  pointers : DataPublicationScope → Option PointerText
  items : KeyedTable String CachedItem

namespace RedisKeys

/-- Nothing is cached. -/
def initial : RedisKeys := { pointers := fun _ => none, items := .empty }

/-- What an operation on a scope works on. -/
def cache (redis : RedisKeys) (scope : DataPublicationScope) : PublicationCache :=
  { pointer := redis.pointers scope, items := redis.items }

/-- What an operation on a scope leaves. -/
def write (redis : RedisKeys) (scope : DataPublicationScope) (cache : PublicationCache) :
    RedisKeys :=
  { pointers := Function.update redis.pointers scope cache.pointer, items := cache.items }

end RedisKeys

/-- The database and Redis. -/
structure PublicationStores where
  db : Database
  redis : RedisKeys

namespace PublicationStores

variable (stores : PublicationStores)

/-- A call on the tables. -/
def call (host : HostFunctions) (call : DatabaseCall) : PublicationStores :=
  { stores with db := databaseStep host stores.db call }

/-- An operation on the keys of a scope. -/
def operate (scope : DataPublicationScope) (operation : CacheOperation) : PublicationStores :=
  { stores with
    redis := stores.redis.write scope (cacheStep (stores.redis.cache scope) operation) }

end PublicationStores

/-- What comes next in the delivery of a claimed receipt. -/
inductive DeliveryPhase where
  | stage
  | markStaged
  | activate
  | markRedisActivated
  | markDelivered
  | fail
  | release
  | settled (delivered : Bool)

/-- The values a step draws: the clock, the token of a claim and the identifier of a receipt. -/
structure StepDraw where
  now : ℕ
  owner : ℕ
  outboxId : ℕ

/-- One step of the delivery of a receipt in `dispatchDataPublicationOutbox`. A pointer that is
newer fails the receipt, every other error releases it. -/
def deliveryPhaseStep (host : HostFunctions) (draw : StepDraw)
    (row : ClaimedDataPublicationOutbox) (stores : PublicationStores) :
    DeliveryPhase → PublicationStores × DeliveryPhase
  | .stage =>
    let scope := row.delivery.manifest.scope
    (stores.operate scope (.stage row.delivery),
      match (stageDataPublicationItems row.delivery (stores.redis.cache scope)).2 with
      | .ok _ => .markStaged
      | .error _ => .release)
  | .markStaged =>
    (stores.call host (.markOutboxStage row.outboxId row.owner .staged),
      if (markDataPublicationOutboxStage row.outboxId row.owner .staged stores.db).2 then .activate
      else .release)
  | .activate =>
    let scope := row.delivery.manifest.scope
    (stores.operate scope (.activate row.delivery.manifest),
      match (activateDataPublicationPointer host row.delivery.manifest
        (stores.redis.cache scope)).2 with
      | .ok .published => .markRedisActivated
      | .ok .stale => .fail
      | .error _ => .release)
  | .markRedisActivated =>
    (stores.call host (.markOutboxStage row.outboxId row.owner .redisActivated),
      if (markDataPublicationOutboxStage row.outboxId row.owner .redisActivated stores.db).2 then
        .markDelivered
      else .release)
  | .markDelivered =>
    (stores.call host (.markOutboxDelivered draw.now row.outboxId row.owner),
      .settled (markDataPublicationOutboxDelivered draw.now row.outboxId row.owner stores.db).2)
  | .fail => (stores.call host (.failOutbox row.outboxId row.owner), .settled false)
  | .release =>
    (stores.call host (.releaseOutbox draw.now row.outboxId row.owner none), .settled false)
  | .settled delivered => (stores, .settled delivered)

/-- A call of `dispatchDataPublicationOutbox` for one publication, with limit 1. -/
inductive Dispatch where
  | claim
  | deliver (row : ClaimedDataPublicationOutbox) (phase : DeliveryPhase)

/-- How far such a call got: it goes on, returns the number of deliveries or throws. -/
inductive DispatchProgress where
  | running (dispatch : Dispatch)
  | returned (delivered : ℕ)
  | threw

/-- One step of the call. -/
def dispatchStep (host : HostFunctions) (draw : StepDraw) (publicationId : ℕ)
    (stores : PublicationStores) : Dispatch → PublicationStores × DispatchProgress
  | .claim =>
    (stores.call host (.claimOutbox draw.now draw.owner (some 1) none (some publicationId)),
      match claimDataPublicationOutbox host draw.now draw.owner (some 1) none (some publicationId)
        stores.db with
      | .ok (_, row :: _) => .running (.deliver row .stage)
      | .ok (_, []) => .returned 0
      | .error _ => .threw)
  | .deliver row phase =>
    let result := deliveryPhaseStep host draw row stores phase
    (result.1, match result.2 with
      | .settled delivered => .returned (if delivered then 1 else 0)
      | next => .running (.deliver row next))

/-- What a reconciler has read: the active row and the active publication in Redis. -/
structure ReconcilerView where
  dbActive : Option PreparedDatasetPublication
  redisActive : Option DataPublicationManifest

/-- The status of a reconciliation. -/
inductive ReconciliationStatus where
  | matched
  | repaired
  | ghost
  | missing
  deriving DecidableEq

/-- What comes next in `reconcileDataPublication`. -/
inductive ReconcilerPhase where
  | findActive
  | readPointer (dbActive : Option PreparedDatasetPublication)
  | readItems (dbActive : Option PreparedDatasetPublication) (manifest : DataPublicationManifest)
  | findStaging (view : ReconcilerView)
  | loadStaging (view : ReconcilerView) (stagingId sourceRunId : ℕ)
  | stageStaging (view : ReconcilerView) (stagingId sourceRunId : ℕ) (prepared : PreparedDelivery)
  | activateStaging (view : ReconcilerView) (stagingId sourceRunId : ℕ)
      (manifest : DataPublicationManifest)
  | dispatchStaging (stagingId : ℕ) (dispatch : Dispatch)
  | loadCanonical (dbActive : PreparedDatasetPublication)
      (redisActive : Option DataPublicationManifest)
  | dispatchCanonical (dbActive : PreparedDatasetPublication)
      (redisActive : Option DataPublicationManifest) (canonical : PreparedDelivery)
      (dispatch : Dispatch)
  | stageCanonical (dbActive : PreparedDatasetPublication)
      (redisActive : Option DataPublicationManifest) (canonical : PreparedDelivery)
  | repairPointer (dbActive : PreparedDatasetPublication)
      (redisActive : Option DataPublicationManifest) (canonical : DataPublicationManifest)
  | markReconciled (dbActive : PreparedDatasetPublication)
  | returned (status : ReconciliationStatus)
  | threw

/-- Without a staging publication, or after an error before its activation. -/
def ReconcilerView.afterStaging (view : ReconcilerView) : ReconcilerPhase :=
  match view.dbActive with
  | none => .returned (if view.redisActive.isSome then .ghost else .missing)
  | some dbActive => .loadCanonical dbActive view.redisActive

/-- The canonical publication is the one that was read from Redis. -/
def MatchesRedis (redisActive : Option DataPublicationManifest)
    (canonical : DataPublicationManifest) : Prop :=
  ∃ active ∈ redisActive, active.publicationId = canonical.publicationId ∧
    active.revision = canonical.revision

instance (redisActive : Option DataPublicationManifest) (canonical : DataPublicationManifest) :
    Decidable (MatchesRedis redisActive canonical) :=
  inferInstanceAs (Decidable (∃ active ∈ redisActive, _))

/-- The activation of a staging publication by a reconciler. -/
def stagingActivation (scope : DataPublicationScope) (season : FplSeasonRef)
    (stagingId sourceRunId outboxId : ℕ) (manifest : DataPublicationManifest) :
    ActivatePublicationInput :=
  { publicationId := stagingId
    dataset := scope.dataset
    season := season
    eventId := scope.eventId
    sourceRunId := sourceRunId
    manifest := manifest
    outboxId := some outboxId }

/-- One step of `reconcileDataPublication`. -/
def reconcileStep (host : HostFunctions) (draw : StepDraw) (scope : DataPublicationScope)
    (season : FplSeasonRef) (stores : PublicationStores) :
    ReconcilerPhase → PublicationStores × ReconcilerPhase
  | .findActive =>
    (stores, .readPointer
      (findActivePublication (publicationScope scope.dataset season scope.eventId) stores.db))
  | .readPointer dbActive =>
    (stores, match readPointer host scope (stores.redis.cache scope) with
      | some manifest => .readItems dbActive manifest
      | none => .findStaging ⟨dbActive, none⟩)
  | .readItems dbActive manifest =>
    (stores, .findStaging ⟨dbActive, readItems host manifest (stores.redis.cache scope)⟩)
  | .findStaging view =>
    (stores, match findStagingPublication
        (publicationScope scope.dataset season scope.eventId) stores.db with
      | some (stagingId, row) => .loadStaging view stagingId row.sourceRunId
      | none => view.afterStaging)
  | .loadStaging view stagingId sourceRunId =>
    (stores, match loadDataPublicationDelivery host stagingId stores.db with
      | .ok prepared => .stageStaging view stagingId sourceRunId prepared
      | .error _ => view.afterStaging)
  | .stageStaging view stagingId sourceRunId prepared =>
    let stagingScope := prepared.manifest.scope
    (stores.operate stagingScope (.stage prepared),
      match (stageDataPublicationItems prepared (stores.redis.cache stagingScope)).2 with
      | .ok _ => .activateStaging view stagingId sourceRunId prepared.manifest
      | .error _ => view.afterStaging)
  | .activateStaging view stagingId sourceRunId manifest =>
    let input := stagingActivation scope season stagingId sourceRunId draw.outboxId manifest
    (stores.call host (.activatePublication draw.now input),
      match activatePublication draw.now input stores.db with
      | .ok _ => .dispatchStaging stagingId .claim
      | .error _ => view.afterStaging)
  | .dispatchStaging stagingId dispatch =>
    let result := dispatchStep host draw stagingId stores dispatch
    (result.1, match result.2 with
      | .running next => .dispatchStaging stagingId next
      | .returned _ => .returned .repaired
      | .threw => .threw)
  | .loadCanonical dbActive redisActive =>
    (stores, match loadDataPublicationDelivery host dbActive.publicationId stores.db with
      | .ok canonical =>
        if MatchesRedis redisActive canonical.manifest then .returned .matched
        else .dispatchCanonical dbActive redisActive canonical .claim
      | .error _ => .threw)
  | .dispatchCanonical dbActive redisActive canonical dispatch =>
    let result := dispatchStep host draw dbActive.publicationId stores dispatch
    (result.1, match result.2 with
      | .running next => .dispatchCanonical dbActive redisActive canonical next
      | .returned delivered =>
        if delivered = 1 then .returned .repaired
        else .stageCanonical dbActive redisActive canonical
      | .threw => .threw)
  | .stageCanonical dbActive redisActive canonical =>
    let canonicalScope := canonical.manifest.scope
    (stores.operate canonicalScope (.stage canonical),
      match (stageDataPublicationItems canonical (stores.redis.cache canonicalScope)).2 with
      | .ok _ => .repairPointer dbActive redisActive canonical.manifest
      | .error _ => .threw)
  | .repairPointer dbActive none canonical =>
    let canonicalScope := canonical.scope
    (stores.operate canonicalScope (.activate canonical),
      match (activateDataPublicationPointer host canonical
        (stores.redis.cache canonicalScope)).2 with
      | .ok .published => .markReconciled dbActive
      | .ok .stale => .threw
      | .error _ => .threw)
  | .repairPointer dbActive (some active) canonical =>
    (stores.operate scope (.compareAndSwap active.publicationId (some canonical)),
      if (compareAndSwapActiveRevision active.publicationId (some canonical)
          (stores.redis.cache scope)).2 = .replaced then .markReconciled dbActive
      else .threw)
  | .markReconciled dbActive =>
    (stores.call host (.markOutboxReconciled draw.now dbActive.publicationId),
      .returned .repaired)
  | .returned status => (stores, .returned status)
  | .threw => (stores, .threw)

/-- A call of `reconcileDataPublication`. -/
structure Reconciler where
  scope : DataPublicationScope
  season : FplSeasonRef
  phase : ReconcilerPhase

/-- The stores, the identifiers and revisions that were drawn for publications, the deliveries of
dispatchers, the manifests heartbeats have read, and the reconcilers. -/
structure ReconcilingWorld where
  stores : PublicationStores
  drawn : List (ℕ × ℕ)
  deliveries : List (ClaimedDataPublicationOutbox × DeliveryPhase)
  heartbeats : List (DataPublicationScope × DataPublicationManifest)
  reconcilers : List Reconciler

/-- Steps of the processes, a number standing for the process, the end of a key's lifetime, and
any other call on the tables. -/
inductive ReconcilingAction where
  | call (call : DatabaseCall)
  | claim (dbNow owner : ℕ) (limit leaseMs publicationId : Option ℕ)
  | deliver (delivery : ℕ) (draw : StepDraw)
  | readPublished (scope : DataPublicationScope)
  | refreshHeartbeat (reader lastSuccessfulFetchAt : ℕ)
  | retire (scope : DataPublicationScope)
  | expire (scope : DataPublicationScope) (key : String)
  | startReconciler (scope : DataPublicationScope) (season : FplSeasonRef)
  | reconcile (reconciler : ℕ) (draw : StepDraw)

namespace ReconcilingWorld

variable (world : ReconcilingWorld)

/-- Nothing is published, and no process has started. -/
def initial (seasons : List ℕ) (events : List (ℕ × ℕ)) : ReconcilingWorld :=
  { stores := { db := .initial seasons events, redis := .initial }
    drawn := []
    deliveries := []
    heartbeats := []
    reconcilers := [] }

/-- A call on the tables. Publication identifiers are drawn anew. -/
def call (host : HostFunctions) (call : DatabaseCall) : ReconcilingWorld :=
  match call with
  | .preparePublication _ input =>
    if input.publicationId ∈ world.drawn.map Prod.fst then world
    else
      { world with
        stores := world.stores.call host call
        drawn := world.drawn ++ [(input.publicationId, world.stores.db.nextRevision)] }
  | _ => { world with stores := world.stores.call host call }

/-- A claim, whose deliveries a dispatcher then makes. -/
def claim (host : HostFunctions) (dbNow owner : ℕ) (limit leaseMs publicationId : Option ℕ) :
    ReconcilingWorld :=
  match claimDataPublicationOutbox host dbNow owner limit leaseMs publicationId
    world.stores.db with
  | .ok (_, rows) =>
    { world with
      stores := world.stores.call host (.claimOutbox dbNow owner limit leaseMs publicationId)
      deliveries := world.deliveries ++ rows.map fun row => (row, .stage) }
  | .error _ => world

end ReconcilingWorld

/-- One step of a process, or another one. -/
def reconcilingStep (host : HostFunctions) (world : ReconcilingWorld) :
    ReconcilingAction → ReconcilingWorld
  | .call call => world.call host call
  | .claim dbNow owner limit leaseMs publicationId =>
    world.claim host dbNow owner limit leaseMs publicationId
  | .deliver delivery draw =>
    match world.deliveries[delivery]? with
    | some (row, phase) =>
      let result := deliveryPhaseStep host draw row world.stores phase
      { world with
        stores := result.1
        deliveries := world.deliveries.set delivery (row, result.2) }
    | none => world
  | .readPublished scope =>
    { world with
      heartbeats := world.heartbeats ++
        ((readPointer host scope (world.stores.redis.cache scope)).map fun manifest =>
          (scope, manifest)).toList }
  | .refreshHeartbeat reader lastSuccessfulFetchAt =>
    match world.heartbeats[reader]? with
    | some (scope, active) =>
      { world with
        stores := world.stores.operate scope (.compareAndSwap active.publicationId
          (some (active.refreshed (toISOString lastSuccessfulFetchAt)))) }
    | none => world
  | .retire scope => { world with stores := world.stores.operate scope .retire }
  | .expire scope key => { world with stores := world.stores.operate scope (.expire key) }
  | .startReconciler scope season =>
    { world with reconcilers := world.reconcilers ++ [⟨scope, season, .findActive⟩] }
  | .reconcile reconciler draw =>
    match world.reconcilers[reconciler]? with
    | some found =>
      let result := reconcileStep host draw found.scope found.season world.stores found.phase
      { world with
        stores := result.1
        reconcilers := world.reconcilers.set reconciler { found with phase := result.2 } }
    | none => world

end LetletmeData
