import Mathlib.Data.String.Basic
import LetletmeData.Cache.PublicationManifest
import LetletmeData.Library.KeyedTables
import LetletmeData.Library.Runs

/-!
# The active pointer and the items of one scope in Redis

A scope has one pointer, which holds the text of a manifest, and one key for every staged item.
Each script runs atomically. A key with a remaining lifetime may be gone at any later moment,
so lifetimes are kept on the keys and expiry is a step of its own. Item keys are written as
strings only, and none of them is the pointer's key.
-/

namespace LetletmeData

open LetletmeData.Library

/-- `DATA_PUBLICATION_STAGING_TTL_MS`. -/
def dataPublicationStagingTtlMs : ℕ := 15 * 60 * 1000

/-- `DATA_PUBLICATION_RETIRED_TTL_MS`. -/
def dataPublicationRetiredTtlMs : ℕ := 24 * 60 * 60 * 1000

/-- The text of the pointer: a manifest, or something the scripts cannot decode. -/
inductive PointerText where
  | manifest (manifest : DataPublicationManifest)
  | undecodable
  deriving DecidableEq

/-- A cached item; without a remaining lifetime it is persistent. -/
structure CachedItem where
  payload : String
  ttlMs : Option ℕ
  deriving DecidableEq

/-- The keys of one scope. -/
structure PublicationCache where
  pointer : Option PointerText
  items : KeyedTable String CachedItem

/-- An error of the cache layer. -/
structure CacheError where
  message : String
  code : String
  deriving DecidableEq

namespace PublicationCache

/-- Nothing is cached. -/
def initial : PublicationCache := { pointer := none, items := .empty }

/-- `PERSIST` on each key. -/
def persist (cache : PublicationCache) (keys : List String) : PublicationCache :=
  { cache with
    items := cache.items.updateWhere (fun key _ => key ∈ keys) fun item =>
      { item with ttlMs := none } }

/-- `PEXPIRE` with the retired lifetime on each key. -/
def retireKeys (cache : PublicationCache) (keys : List String) : PublicationCache :=
  { cache with
    items := cache.items.updateWhere (fun key _ => key ∈ keys) fun item =>
      { item with ttlMs := some dataPublicationRetiredTtlMs } }

/-- The lifetime of a key is over; persistent keys stay. -/
def expire (cache : PublicationCache) (key : String) : PublicationCache :=
  { cache with
    items := cache.items.deleteWhere fun other item => other = key ∧ item.ttlMs ≠ none }

/-- The manifest the pointer names, if it can be decoded. -/
def activeManifest (cache : PublicationCache) : Option DataPublicationManifest :=
  match cache.pointer with
  | some (.manifest manifest) => some manifest
  | _ => none

/-- The active manifest is what the pointer holds. -/
theorem mem_activeManifest {cache : PublicationCache} {manifest : DataPublicationManifest} :
    manifest ∈ cache.activeManifest ↔ cache.pointer = some (.manifest manifest) := by
  unfold activeManifest
  split
  next found hpointer => simp [hpointer]
  next hnone =>
    refine ⟨fun hmem => (nomatch hmem), fun hpointer => ?_⟩
    exact absurd hpointer (hnone manifest)

end PublicationCache

/-- The item keys of a manifest. -/
def DataPublicationManifest.keys (manifest : DataPublicationManifest) : List String :=
  manifest.items.map (·.key)

/-- The pipeline of `SET ... PX ... NX`, which leaves present keys alone. -/
def setStagedItems (items : List DataPublicationDeliveryItem) (cache : PublicationCache) :
    PublicationCache :=
  { cache with
    items := items.foldl
      (fun table item =>
        table.insertAbsent item.manifest.key
          { payload := item.payload, ttlMs := some dataPublicationStagingTtlMs })
      cache.items }

/-- `MGET` returned the payload of the item. -/
def StagedPayload (cache : PublicationCache) (item : DataPublicationDeliveryItem) : Prop :=
  (cache.items.find item.manifest.key).map (·.payload) = some item.payload

instance (cache : PublicationCache) (item : DataPublicationDeliveryItem) :
    Decidable (StagedPayload cache item) :=
  inferInstanceAs (Decidable (_ = _))

/-- `stageDataPublicationItems`: set the missing items, then compare all of them. -/
def stageDataPublicationItems (prepared : PreparedDelivery) (cache : PublicationCache) :
    PublicationCache × Except CacheError Unit :=
  let staged := setStagedItems prepared.items cache
  match prepared.items.find? fun item => ¬ StagedPayload staged item with
  | some item =>
    (staged, .error
      { message := "Publication stage conflicts with immutable item " ++ item.manifest.name
        code := "DATA_PUBLICATION_STAGE_CONFLICT" })
  | none =>
    if hasAcceptedItemNames prepared.manifest.dataset
        (prepared.items.map fun item => item.manifest.name) then (staged, .ok ())
    else
      (staged, .error
        { message := "Publication item set does not match " ++ prepared.manifest.dataset.text
          code := "DATA_PUBLICATION_ITEM_SET_INVALID" })

/-- What the activation script returns. -/
inductive ActivationStatus where
  | published
  | idempotent (active : DataPublicationManifest)
  | stale (active : DataPublicationManifest)
  | publicationIdConflict
  | invalidActiveManifest
  | missingStage (key : String)
  | wrongStageSize (key : String)
  deriving DecidableEq

/-- The fields that two manifests of one publication must share; only `publishedAt` is free. -/
def SamePublication (current candidate : DataPublicationManifest) : Prop :=
  current.dataset = candidate.dataset ∧ current.seasonCode = candidate.seasonCode ∧
    current.eventId = candidate.eventId ∧ current.revision = candidate.revision ∧
    current.sourceCheckedAt = candidate.sourceCheckedAt ∧
    current.lastSuccessfulFetchAt = candidate.lastSuccessfulFetchAt ∧
    current.state = candidate.state ∧ current.items = candidate.items

instance (current candidate : DataPublicationManifest) :
    Decidable (SamePublication current candidate) :=
  inferInstanceAs (Decidable (_ ∧ _))

/-- The active manifest is as new as the candidate, by check time and then by revision. -/
def NewerOrEqual (current candidate : DataPublicationManifest) : Prop :=
  candidate.sourceCheckedAt < current.sourceCheckedAt ∨
    (current.sourceCheckedAt = candidate.sourceCheckedAt ∧ candidate.revision ≤ current.revision)

instance (current candidate : DataPublicationManifest) :
    Decidable (NewerOrEqual current candidate) :=
  inferInstanceAs (Decidable (_ ∨ _))

/-- The first item that is not staged, or not with its size. -/
def firstUnstaged (candidate : DataPublicationManifest) (cache : PublicationCache) :
    Option ActivationStatus :=
  candidate.items.findSome? fun item =>
    match cache.items.find item.key with
    | none => some (.missingStage item.key)
    | some cached =>
      if cached.payload.utf8ByteSize = item.bytes then none else some (.wrongStageSize item.key)

/-- Persist the candidate's items, point to it, and let the other items of the displaced
manifest expire. -/
def installManifest (displaced : List String) (candidate : DataPublicationManifest)
    (cache : PublicationCache) : PublicationCache × ActivationStatus :=
  match firstUnstaged candidate cache with
  | some status => (cache, status)
  | none =>
    ({ cache.persist candidate.keys with
        pointer := some (.manifest candidate) }.retireKeys
      (displaced.filter (· ∉ candidate.keys)), .published)

/-- `ACTIVATE_REVISION_SCRIPT`. -/
def activateRevision (candidate : DataPublicationManifest) (cache : PublicationCache) :
    PublicationCache × ActivationStatus :=
  match cache.pointer with
  | none => installManifest [] candidate cache
  | some .undecodable => (cache, .invalidActiveManifest)
  | some (.manifest current) =>
    if current.publicationId = candidate.publicationId then
      if SamePublication current candidate then (cache, .idempotent current)
      else (cache, .publicationIdConflict)
    else if NewerOrEqual current candidate then (cache, .stale current)
    else installManifest current.keys candidate cache

/-- The result of `activateDataPublicationPointer`: published, stale, or an error. -/
inductive PublishStatus where
  | published
  | stale
  deriving DecidableEq

/-- `activateDataPublicationPointer`: an idempotent activation returns the active manifest,
which has to parse. -/
def activateDataPublicationPointer (host : HostFunctions) (manifest : DataPublicationManifest)
    (cache : PublicationCache) : PublicationCache × Except CacheError PublishStatus :=
  match activateRevision manifest cache with
  | (written, .published) => (written, .ok .published)
  | (written, .idempotent active) =>
    if active.Accepted host then (written, .ok .published)
    else
      (written, .error
        { message := "Idempotent publication returned an invalid active manifest"
          code := "DATA_PUBLICATION_ACTIVATION_FAILED" })
  | (written, .stale _) => (written, .ok .stale)
  | (written, .publicationIdConflict) =>
    (written, .error
      { message := "Atomic publication failed: publication_id_conflict"
        code := "DATA_PUBLICATION_ACTIVATION_FAILED" })
  | (written, .invalidActiveManifest) =>
    (written, .error
      { message := "Atomic publication failed: invalid_active_manifest"
        code := "DATA_PUBLICATION_ACTIVATION_FAILED" })
  | (written, .missingStage key) =>
    (written, .error
      { message := "Atomic publication failed: missing_stage (" ++ key ++ ")"
        code := "DATA_PUBLICATION_ACTIVATION_FAILED" })
  | (written, .wrongStageSize key) =>
    (written, .error
      { message := "Atomic publication failed: wrong_stage_size (" ++ key ++ ")"
        code := "DATA_PUBLICATION_ACTIVATION_FAILED" })

/-- What the compare-and-swap script returns. -/
inductive SwapStatus where
  | missing
  | invalid
  | changed
  | removed
  | replaced
  | missingStage (key : String)
  deriving DecidableEq

/-- The keys the swap persists before it finds one missing. -/
def stagedPrefix (candidate : DataPublicationManifest) (cache : PublicationCache) :
    List String :=
  candidate.keys.takeWhile fun key => (cache.items.find key).isSome

/-- `COMPARE_AND_SWAP_ACTIVE_REVISION_SCRIPT`. -/
def compareAndSwapActiveRevision (expectedPublicationId : ℕ)
    (replacement : Option DataPublicationManifest) (cache : PublicationCache) :
    PublicationCache × SwapStatus :=
  match cache.pointer with
  | none => (cache, .missing)
  | some .undecodable => (cache, .invalid)
  | some (.manifest current) =>
    if current.publicationId ≠ expectedPublicationId then (cache, .changed)
    else match replacement with
      | none => ({ cache with pointer := none }, .removed)
      | some candidate =>
        match candidate.keys.find? fun key => (cache.items.find key).isNone with
        | some key => (cache.persist (stagedPrefix candidate cache), .missingStage key)
        | none =>
          ({ cache.persist candidate.keys with pointer := some (.manifest candidate) },
            .replaced)

/-- `RETIRE_ACTIVE_REVISION_SCRIPT`. -/
def retireActiveRevision (cache : PublicationCache) : PublicationCache :=
  match cache.pointer with
  | some (.manifest current) => { cache.retireKeys current.keys with pointer := none }
  | _ => cache

/-- A cached payload passes the checks of `readActiveDataPublication` on its item. -/
def ReadablePayload (host : HostFunctions) (item : DataPublicationManifestItem)
    (cached : Option CachedItem) : Prop :=
  ∃ found ∈ cached, found.payload.utf8ByteSize = item.bytes ∧
    host.sha256 found.payload = item.sha256 ∧
    host.jsonItemCount found.payload = some item.count

instance (host : HostFunctions) (item : DataPublicationManifestItem)
    (cached : Option CachedItem) : Decidable (ReadablePayload host item cached) :=
  inferInstanceAs (Decidable (∃ found ∈ cached, _))

/-- The first read of `readActiveDataPublication`: a manifest of the scope with items. -/
def readPointer (host : HostFunctions) (scope : DataPublicationScope)
    (cache : PublicationCache) : Option DataPublicationManifest :=
  (parseDataPublicationManifest host cache.activeManifest).filter fun manifest =>
    manifest.scope = scope ∧ manifest.items ≠ []

/-- The second read of `readActiveDataPublication`: every item of the manifest is there. -/
def readItems (host : HostFunctions) (manifest : DataPublicationManifest)
    (cache : PublicationCache) : Option DataPublicationManifest :=
  if ∀ item ∈ manifest.items, ReadablePayload host item (cache.items.find item.key) then
    some manifest
  else none

/-- The operations on the keys of a scope, and the end of a key's lifetime. -/
inductive CacheOperation where
  | stage (prepared : PreparedDelivery)
  | activate (manifest : DataPublicationManifest)
  | compareAndSwap (expectedPublicationId : ℕ) (replacement : Option DataPublicationManifest)
  | retire
  | expire (key : String)

/-- One operation on the keys of a scope. -/
def cacheStep (cache : PublicationCache) : CacheOperation → PublicationCache
  | .stage prepared => (stageDataPublicationItems prepared cache).1
  | .activate manifest => (activateRevision manifest cache).1
  | .compareAndSwap expectedPublicationId replacement =>
    (compareAndSwapActiveRevision expectedPublicationId replacement cache).1
  | .retire => retireActiveRevision cache
  | .expire key => cache.expire key

end LetletmeData
