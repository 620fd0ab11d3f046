import LetletmeData.Cache.PointerContents

/-!
# The heartbeat of a live snapshot

A poll that finds the live payload unchanged refreshes the time of the last successful fetch in
the active manifest. It reads the pointer, then the items, and swaps the pointer it read for a
copy with its own time. The swap asks only that the pointer still names the same publication, so
a poll may overwrite the later time of another one that read and swapped meanwhile.
-/

namespace LetletmeData

open LetletmeData.Library

/-- What the live cache takes from its host besides: `Date.parse`, and whether a JSON text holds
an array. -/
structure LiveHostFunctions extends HostFunctions where
  dateParse : String → Option ℤ
  jsonIsArray : String → Bool

/-- The scope of the live snapshots of an event. -/
def liveScope (season : String) (eventId : ℕ) : DataPublicationScope :=
  { dataset := .live, seasonCode := season, eventId := some eventId }

/-- The payload of the named item is an array. -/
def HoldsArray (host : LiveHostFunctions) (manifest : DataPublicationManifest)
    (cache : PublicationCache) (name : String) : Prop :=
  ∃ item ∈ manifest.items, item.name = name ∧
    ∃ cached ∈ cache.items.find item.key, host.jsonIsArray cached.payload = true

instance (host : LiveHostFunctions) (manifest : DataPublicationManifest)
    (cache : PublicationCache) (name : String) : Decidable (HoldsArray host manifest cache name) :=
  inferInstanceAs (Decidable (∃ item ∈ manifest.items, _))

/-- `readLiveSnapshotCache` from the second read on. -/
def readLiveItems (host : LiveHostFunctions) (manifest : DataPublicationManifest)
    (cache : PublicationCache) : Option DataPublicationManifest :=
  (readItems host.toHostFunctions manifest cache).filter fun active =>
    HoldsArray host active cache "eventLive" ∧ HoldsArray host active cache "fixtures" ∧
      active.state ≠ .active

/-- The manifest already names a fetch that is as late. -/
def AlreadyFetched (host : LiveHostFunctions) (manifest : DataPublicationManifest)
    (lastSuccessfulFetchAt : String) : Prop :=
  ∃ current ∈ host.dateParse (manifest.lastSuccessfulFetchAt.getD manifest.sourceCheckedAt),
    ∃ fetched ∈ host.dateParse lastSuccessfulFetchAt, fetched ≤ current

instance (host : LiveHostFunctions) (manifest : DataPublicationManifest)
    (lastSuccessfulFetchAt : String) :
    Decidable (AlreadyFetched host manifest lastSuccessfulFetchAt) :=
  inferInstanceAs (Decidable (∃ current ∈ host.dateParse _, _))

/-- The manifest with the time of a later fetch. -/
def DataPublicationManifest.refreshed (manifest : DataPublicationManifest)
    (lastSuccessfulFetchAt : String) : DataPublicationManifest :=
  { manifest with lastSuccessfulFetchAt := some lastSuccessfulFetchAt }

/-- Where a call of `refreshLiveSnapshotHeartbeat` stands; its date is given by the ISO text. -/
inductive PendingHeartbeat where
  | started (lastSuccessfulFetchAt : String)
  | pointerRead (lastSuccessfulFetchAt : String) (manifest : DataPublicationManifest)
  | swapping (lastSuccessfulFetchAt : String) (manifest : DataPublicationManifest)
  deriving DecidableEq

/-- The keys of one live scope, and the heartbeat calls under way. -/
structure LiveCacheWorld where
  cache : PublicationCache
  heartbeats : KeyedTable ℕ PendingHeartbeat

/-- The commands of heartbeats, deliveries and retirements, and the end of lifetimes. -/
inductive LiveCacheAction where
  | refresh (call : ℕ) (lastSuccessfulFetchAt : String)
  | readPointer (call : ℕ)
  | readItems (call : ℕ)
  | swap (call : ℕ)
  | stage (prepared : PreparedDelivery)
  | activate (manifest : DataPublicationManifest)
  | retire
  | expire (key : String)

namespace LiveCacheWorld

/-- Nothing is cached, and no call is under way. -/
def initial : LiveCacheWorld := { cache := .initial, heartbeats := .empty }

/-- The call goes on. -/
def proceed (world : LiveCacheWorld) (call : ℕ) (pending : PendingHeartbeat) : LiveCacheWorld :=
  { world with heartbeats := world.heartbeats.upsert call pending }

/-- The call returns. -/
def finish (world : LiveCacheWorld) (call : ℕ) : LiveCacheWorld :=
  { world with heartbeats := world.heartbeats.deleteWhere fun other _ => other = call }

/-- An operation on the cached keys. -/
def operate (world : LiveCacheWorld) (operation : CacheOperation) : LiveCacheWorld :=
  { world with cache := cacheStep world.cache operation }

end LiveCacheWorld

/-- One command of `refreshLiveSnapshotHeartbeat`, or another operation on the scope. A call with
an invalid date throws, one without a complete live snapshot returns nothing, and one that finds
a fetch as late returns the snapshot. -/
def liveCacheStep (host : LiveHostFunctions) (scope : DataPublicationScope)
    (world : LiveCacheWorld) : LiveCacheAction → LiveCacheWorld
  | .refresh call lastSuccessfulFetchAt =>
    if (host.dateParse lastSuccessfulFetchAt).isSome then
      { world with heartbeats := world.heartbeats.insertAbsent call (.started lastSuccessfulFetchAt) }
    else world
  | .readPointer call =>
    match world.heartbeats.find call with
    | some (.started lastSuccessfulFetchAt) =>
      match LetletmeData.readPointer host.toHostFunctions scope world.cache with
      | none => world.finish call
      | some manifest => world.proceed call (.pointerRead lastSuccessfulFetchAt manifest)
    | _ => world
  | .readItems call =>
    match world.heartbeats.find call with
    | some (.pointerRead lastSuccessfulFetchAt manifest) =>
      match readLiveItems host manifest world.cache with
      | none => world.finish call
      | some active =>
        if AlreadyFetched host active lastSuccessfulFetchAt then world.finish call
        else world.proceed call (.swapping lastSuccessfulFetchAt active)
    | _ => world
  | .swap call =>
    match world.heartbeats.find call with
    | some (.swapping lastSuccessfulFetchAt active) =>
      (world.operate (.compareAndSwap active.publicationId
        (some (active.refreshed lastSuccessfulFetchAt)))).finish call
    | _ => world
  | .stage prepared => world.operate (.stage prepared)
  | .activate manifest => world.operate (.activate manifest)
  | .retire => world.operate .retire
  | .expire key => world.operate (.expire key)

section Steps

variable {host : LiveHostFunctions} {scope : DataPublicationScope} {world : LiveCacheWorld}
  {call : ℕ}

/-- The cache after the swap of a call that has read an older fetch. -/
theorem cache_swap {text : String} {active : DataPublicationManifest}
    (h : world.heartbeats.find call = some (.swapping text active)) :
    (liveCacheStep host scope world (.swap call)).cache =
      (compareAndSwapActiveRevision active.publicationId (some (active.refreshed text))
        world.cache).1 := by
  rw [liveCacheStep, h]
  rfl

/-- A call that has not come to its swap writes nothing. -/
theorem cache_swap_of_not (h : ∀ text active,
    world.heartbeats.find call ≠ some (.swapping text active)) :
    (liveCacheStep host scope world (.swap call)).cache = world.cache := by
  rw [liveCacheStep]
  split
  next text active hswapping => exact absurd hswapping (h text active)
  · rfl

/-- The reads of a call write nothing. -/
theorem cache_refresh (text : String) :
    (liveCacheStep host scope world (.refresh call text)).cache = world.cache := by
  rw [liveCacheStep]
  split <;> rfl

/-- The reads of a call write nothing. -/
theorem cache_readPointer :
    (liveCacheStep host scope world (.readPointer call)).cache = world.cache := by
  rw [liveCacheStep]
  split
  · split <;> rfl
  · rfl

/-- The reads of a call write nothing. -/
theorem cache_readItems :
    (liveCacheStep host scope world (.readItems call)).cache = world.cache := by
  rw [liveCacheStep]
  split
  · split
    · rfl
    · split <;> rfl
  · rfl

/-- The second read returns the manifest of the first. -/
theorem eq_of_readLiveItems {manifest active : DataPublicationManifest} {cache : PublicationCache}
    (h : readLiveItems host manifest cache = some active) : active = manifest := by
  obtain ⟨hread, -⟩ := Option.filter_eq_some_iff.mp h
  unfold readItems at hread
  split at hread
  · exact (Option.some.inj hread).symm
  · cases hread

end Steps

section Pending

variable {host : LiveHostFunctions} {scope : DataPublicationScope}
  {kind : PendingHeartbeat → Prop} {world : LiveCacheWorld}

/-- A kind that every call under way is of. -/
def LiveCacheWorld.AllPending (kind : PendingHeartbeat → Prop) (world : LiveCacheWorld) : Prop :=
  ∀ call pending, world.heartbeats.find call = some pending → kind pending

/-- Calls that return leave the kind of the others. -/
theorem LiveCacheWorld.AllPending.finish (h : world.AllPending kind) (call : ℕ) :
    (world.finish call).AllPending kind := fun other pending hpending =>
  h other pending (KeyedTable.find_of_find_deleteWhere hpending).1

/-- A call that goes on within the kind keeps it. -/
theorem LiveCacheWorld.AllPending.proceed (h : world.AllPending kind) {call : ℕ}
    {pending : PendingHeartbeat} (hpending : kind pending) :
    (world.proceed call pending).AllPending kind := by
  intro other found hfound
  change (world.heartbeats.upsert call pending).find other = some found at hfound
  rw [KeyedTable.find_upsert] at hfound
  split at hfound
  · exact Option.some.inj hfound ▸ hpending
  · exact h other found hfound

/-- A kind of pending calls is kept by every step when new calls are of it, and each read leads
from it to it. -/
theorem LiveCacheWorld.AllPending.step (h : world.AllPending kind) (action : LiveCacheAction)
    (hstart : ∀ text, (host.dateParse text).isSome → kind (.started text))
    (hpointer : ∀ text manifest, kind (.started text) →
      LetletmeData.readPointer host.toHostFunctions scope world.cache = some manifest →
        kind (.pointerRead text manifest))
    (hitems : ∀ text manifest active, kind (.pointerRead text manifest) →
      readLiveItems host manifest world.cache = some active →
        ¬ AlreadyFetched host active text → kind (.swapping text active)) :
    (liveCacheStep host scope world action).AllPending kind := by
  cases action with
  | refresh call text =>
    rw [liveCacheStep]
    split
    next hvalid =>
      intro other pending hpending
      rw [KeyedTable.find_insertAbsent] at hpending
      rcases Option.or_eq_some_iff.mp hpending with hold | ⟨-, hnew⟩
      · exact h other pending hold
      · split at hnew
        · exact Option.some.inj hnew ▸ hstart text hvalid
        · exact nomatch hnew
    · exact h
  | readPointer call =>
    rw [liveCacheStep]
    split
    next text hstarted =>
      split
      · exact h.finish call
      next manifest hread => exact h.proceed (hpointer text manifest (h call _ hstarted) hread)
    · exact h
  | readItems call =>
    rw [liveCacheStep]
    split
    next text manifest hread =>
      split
      · exact h.finish call
      next active hactive =>
        split
        · exact h.finish call
        next hlate => exact h.proceed (hitems text manifest active (h call _ hread) hactive hlate)
    · exact h
  | swap call =>
    rw [liveCacheStep]
    split
    · exact LiveCacheWorld.AllPending.finish (fun other pending => h other pending) call
    · exact h
  | _ => exact fun other pending => h other pending

end Pending

section Examples

/-- The time of a check at noon, and one or two minutes later. -/
def pollTime : ℕ → String
  | 0 => "2025-08-16T12:00:00.000Z"
  | 1 => "2025-08-16T12:01:00.000Z"
  | _ => "2025-08-16T12:02:00.000Z"

/-- The host on the texts of empty live snapshots. -/
def pollHost : LiveHostFunctions :=
  { sha256 := fun text => if text = "[]" then emptyListDigest else ""
    isTimestamp := fun text => text = pollTime 0 ∨ text = pollTime 1 ∨ text = pollTime 2
    jsonItemCount := fun text => if text = "[]" then some 0 else none
    dateParse := fun text =>
      if text = pollTime 0 then some 1755345600000
      else if text = pollTime 1 then some 1755345660000
      else if text = pollTime 2 then some 1755345720000
      else none
    jsonIsArray := fun text => text = "[]" }

/-- A live snapshot without players and fixtures. -/
def emptyLiveManifest : DataPublicationManifest :=
  { dataset := .live, seasonCode := season2526.seasonCode, eventId := some 1, revision := 1,
    publicationId := contextId 1, sourceCheckedAt := pollTime 0,
    lastSuccessfulFetchAt := some (pollTime 0), publishedAt := pollTime 0, state := .live,
    items := ["eventLive", "fixtures"].map fun name =>
      { name := name, key := "llm:data:fpl:live:2526:1:1:" ++ name, count := 0, bytes := 2,
        sha256 := emptyListDigest } }

/-- The prepared delivery of the empty live snapshot. -/
def emptyLiveDelivery : PreparedDelivery :=
  { manifest := emptyLiveManifest
    items := emptyLiveManifest.items.map fun item => { manifest := item, payload := "[]" } }

/-- A heartbeat reads pointer and items. -/
def heartbeatReads (call minute : ℕ) : List LiveCacheAction :=
  [.refresh call (pollTime minute), .readPointer call, .readItems call]

end Examples

end LetletmeData
