import LetletmeData.Cache.LiveSnapshotCache

/-!
# Repeated deliveries

A delivery stages the items of a prepared publication and activates its manifest. When the
publication is active already, its items are present and hold what is staged, so staging changes
nothing. Activation compares the manifests, the time of the last fetch included, which a
heartbeat rewrites: only as long as none did is the repeated delivery accepted.
-/

namespace LetletmeData

open LetletmeData.Library

/-- The publications that were prepared, each of them once: an identifier has one delivery and an
item key one payload. -/
structure PreparedPublications (host : HostFunctions) where
  prepared : PreparedDelivery → Prop
  accepted : ∀ delivery, prepared delivery → delivery.manifest.Accepted host
  itemized : ∀ delivery, prepared delivery →
    delivery.items.map (·.manifest) = delivery.manifest.items
  one_delivery : ∀ delivery other, prepared delivery → prepared other →
    delivery.manifest.publicationId = other.manifest.publicationId → delivery = other
  one_payload : ∀ delivery other, prepared delivery → prepared other →
    ∀ item ∈ delivery.items, ∀ item' ∈ other.items,
      item.manifest.key = item'.manifest.key → item.payload = item'.payload

/-- The action delivers prepared publications only. -/
def LiveCacheAction.Delivers {host : HostFunctions} (publications : PreparedPublications host) :
    LiveCacheAction → Prop
  | .stage prepared => publications.prepared prepared
  | .activate manifest => ∃ delivery, publications.prepared delivery ∧ delivery.manifest = manifest
  | _ => True

/-- A step that delivers the active publication again succeeds and leaves the cache as it is. -/
def RedeliverySucceeds (host : HostFunctions) (world : LiveCacheWorld) : LiveCacheAction → Prop
  | .stage prepared =>
    ∀ current, world.cache.pointer = some (.manifest current) →
      current.publicationId = prepared.manifest.publicationId →
        stageDataPublicationItems prepared world.cache = (world.cache, .ok ())
  | .activate manifest =>
    ∀ current, world.cache.pointer = some (.manifest current) →
      current.publicationId = manifest.publicationId →
        activateDataPublicationPointer host manifest world.cache = (world.cache, .ok .published)
  | _ => True

/-- When the active publication is activated again, no heartbeat has rewritten the time of its
last fetch. -/
def FetchUntouched (world : LiveCacheWorld) : LiveCacheAction → Prop
  | .activate manifest =>
    ∀ current, world.cache.pointer = some (.manifest current) →
      current.publicationId = manifest.publicationId →
        current.lastSuccessfulFetchAt = manifest.lastSuccessfulFetchAt
  | _ => True

namespace PreparedPublications

variable {host : LiveHostFunctions} {scope : DataPublicationScope}
  (publications : PreparedPublications host.toHostFunctions)

/-- The payload that was prepared under a key. -/
def Payload (key payload : String) : Prop :=
  ∀ delivery, publications.prepared delivery → ∀ item ∈ delivery.items,
    item.manifest.key = key → item.payload = payload

/-- A prepared manifest, but for the time of the last fetch. -/
def Names (manifest : DataPublicationManifest) : Prop :=
  ∃ delivery, publications.prepared delivery ∧ ∃ fetchedAt,
    manifest = { delivery.manifest with lastSuccessfulFetchAt := fetchedAt }

/-- The manifest a call has read names a prepared publication. -/
def NamedBy : PendingHeartbeat → Prop
  | .started _ => True
  | .pointerRead _ manifest => publications.Names manifest
  | .swapping _ active => publications.Names active

/-- Prepared publications are all that is cached, active or about to be swapped. -/
structure Kept (world : LiveCacheWorld) : Prop where
  cache : world.cache.Kept publications.Payload
  pointer : ∀ manifest, world.cache.pointer = some (.manifest manifest) →
    publications.Names manifest
  heartbeats : world.AllPending publications.NamedBy

variable {publications}

/-- A refreshed manifest names the same publication. -/
theorem Names.refreshed {manifest : DataPublicationManifest} (h : publications.Names manifest)
    (text : String) : publications.Names (manifest.refreshed text) := by
  obtain ⟨delivery, hdelivery, fetchedAt, rfl⟩ := h
  exact ⟨delivery, hdelivery, some text, rfl⟩

/-- Nothing is cached at first. -/
theorem Kept.initial : publications.Kept .initial :=
  ⟨.initial, fun _ hpointer => (nomatch hpointer), fun _ _ hpending => (nomatch hpending)⟩

/-- An operation that stages prepared payloads and installs named manifests keeps the world. -/
theorem Kept.operate {world : LiveCacheWorld} (h : publications.Kept world)
    {operation : CacheOperation} (hstages : operation.Stages publications.Payload)
    (hcandidate : ∀ candidate, operation.candidate = some candidate →
      publications.Names candidate) : publications.Kept (world.operate operation) :=
  ⟨h.cache.step hstages, pointer_kind_cacheStep h.pointer hcandidate, h.heartbeats⟩

/-- Deliveries of prepared publications and heartbeats keep the world. -/
theorem Kept.step {world : LiveCacheWorld} {action : LiveCacheAction}
    (h : publications.Kept world) (haction : action.Delivers publications) :
    publications.Kept (liveCacheStep host scope world action) := by
  have hpending : (liveCacheStep host scope world action).AllPending publications.NamedBy := by
    refine h.heartbeats.step action (fun _ _ => trivial) ?_ ?_
    · exact fun text manifest _ hread => h.pointer manifest (pointer_of_readPointer hread)
    · intro text manifest active hnamed hread _
      obtain rfl := eq_of_readLiveItems hread
      exact hnamed
  have hunchanged : (liveCacheStep host scope world action).cache = world.cache →
      publications.Kept (liveCacheStep host scope world action) :=
    fun heq => ⟨heq ▸ h.cache, heq ▸ h.pointer, hpending⟩
  cases action with
  | refresh call text => exact hunchanged (cache_refresh text)
  | readPointer call => exact hunchanged cache_readPointer
  | readItems call => exact hunchanged cache_readItems
  | swap call =>
    by_cases hswap : ∃ text active, world.heartbeats.find call = some (.swapping text active)
    · obtain ⟨text, active, hswapping⟩ := hswap
      have hnamed : publications.Names active := h.heartbeats call _ hswapping
      have hoperate : publications.Kept (world.operate (.compareAndSwap active.publicationId
          (some (active.refreshed text)))) := by
        refine h.operate (fun _ heq => nomatch heq) ?_
        rintro candidate heq
        obtain rfl : active.refreshed text = candidate := Option.some.inj heq
        exact hnamed.refreshed text
      exact ⟨cache_swap hswapping ▸ hoperate.cache, cache_swap hswapping ▸ hoperate.pointer, hpending⟩
    · exact hunchanged (cache_swap_of_not fun text active hswapping =>
        hswap ⟨text, active, hswapping⟩)
  | stage prepared =>
    refine h.operate ?_ fun _ heq => nomatch heq
    rintro other heq item hitem delivery hdelivery item' hitem' hkey
    obtain rfl : prepared = other := by simpa using heq
    exact publications.one_payload delivery prepared hdelivery haction item' hitem' item hitem hkey
  | activate manifest =>
    refine h.operate (fun _ heq => nomatch heq) ?_
    rintro candidate heq
    obtain rfl : manifest = candidate := Option.some.inj heq
    obtain ⟨delivery, hdelivery, rfl⟩ := haction
    exact ⟨delivery, hdelivery, _, rfl⟩
  | retire => exact h.operate (fun _ heq => nomatch heq) fun _ heq => nomatch heq
  | expire key => exact h.operate (fun _ heq => nomatch heq) fun _ heq => nomatch heq

/-- The pointer names the one prepared publication of its identifier. -/
theorem Kept.current_eq {world : LiveCacheWorld} (h : publications.Kept world)
    {delivery : PreparedDelivery} (hdelivery : publications.prepared delivery)
    {current : DataPublicationManifest} (hpointer : world.cache.pointer = some (.manifest current))
    (hid : current.publicationId = delivery.manifest.publicationId) :
    current = { delivery.manifest with lastSuccessfulFetchAt := current.lastSuccessfulFetchAt } := by
  obtain ⟨other, hother, fetchedAt, rfl⟩ := h.pointer current hpointer
  obtain rfl := publications.one_delivery other delivery hother hdelivery hid
  rfl

/-- Staging an active publication again finds all its items. -/
theorem Kept.stage_again {world : LiveCacheWorld} (h : publications.Kept world)
    {prepared : PreparedDelivery} (hprepared : publications.prepared prepared)
    {current : DataPublicationManifest} (hpointer : world.cache.pointer = some (.manifest current))
    (hid : current.publicationId = prepared.manifest.publicationId) :
    stageDataPublicationItems prepared world.cache = (world.cache, .ok ()) := by
  have hitems := publications.itemized prepared hprepared
  have hcurrent : current.items = prepared.manifest.items :=
    congrArg (·.items) (h.current_eq hprepared hpointer hid)
  have hfind : ∀ item ∈ prepared.items,
      ∃ cached, world.cache.items.find item.manifest.key = some cached ∧
        item.payload = cached.payload := by
    intro item hitem
    have hkey : item.manifest.key ∈ current.keys :=
      List.mem_map.mpr ⟨item.manifest, hcurrent ▸ hitems ▸ List.mem_map_of_mem hitem, rfl⟩
    obtain ⟨cached, hcached, -⟩ := h.cache.complete current hpointer _ hkey
    exact ⟨cached, hcached, h.cache.stored _ cached hcached prepared hprepared item hitem rfl⟩
  have hpresent : setStagedItems prepared.items world.cache = world.cache := by
    refine setStagedItems_of_present fun item hitem => ?_
    obtain ⟨cached, hcached, -⟩ := hfind item hitem
    simp [hcached]
  have hstaged : (prepared.items.find? fun item => ¬ StagedPayload world.cache item) = none := by
    refine List.find?_eq_none.mpr fun item hitem => ?_
    obtain ⟨cached, hcached, hpayload⟩ := hfind item hitem
    simp [StagedPayload, hcached, hpayload]
  have hnames : prepared.items.map (fun item => item.manifest.name) =
      prepared.manifest.items.map (·.name) := by
    rw [← hitems, List.map_map]
    rfl
  have haccepted := (publications.accepted prepared hprepared).2.2.2.2.2.2.2.2.2.2
  rw [stageDataPublicationItems, hpresent, hstaged, hnames]
  exact if_pos haccepted

/-- Activating an active publication again is accepted exactly when the last fetch is the same. -/
theorem Kept.activate_again_iff {world : LiveCacheWorld} (h : publications.Kept world)
    {delivery : PreparedDelivery} (hdelivery : publications.prepared delivery)
    {current : DataPublicationManifest} (hpointer : world.cache.pointer = some (.manifest current))
    (hid : current.publicationId = delivery.manifest.publicationId) :
    activateDataPublicationPointer host.toHostFunctions delivery.manifest world.cache =
        (world.cache, .ok .published) ↔
      current.lastSuccessfulFetchAt = delivery.manifest.lastSuccessfulFetchAt := by
  have hcurrent := h.current_eq hdelivery hpointer hid
  by_cases hfetch : current.lastSuccessfulFetchAt = delivery.manifest.lastSuccessfulFetchAt
  · rw [hfetch] at hcurrent
    have hidempotent : activateRevision delivery.manifest world.cache =
        (world.cache, .idempotent delivery.manifest) := by
      simp [activateRevision, hpointer, hcurrent, SamePublication]
    refine iff_of_true ?_ hfetch
    rw [activateDataPublicationPointer, hidempotent]
    exact if_pos (publications.accepted delivery hdelivery)
  · have hconflict : activateRevision delivery.manifest world.cache =
        (world.cache, .publicationIdConflict) := by
      simp [activateRevision, hpointer, hid, SamePublication, hfetch]
    refine iff_of_false ?_ hfetch
    rw [activateDataPublicationPointer, hconflict]
    exact fun heq => nomatch (Prod.ext_iff.mp heq).2

/-- A step succeeds in delivering the active publication again exactly when the last fetch is
untouched. -/
theorem Kept.redeliverySucceeds_iff {world : LiveCacheWorld} {action : LiveCacheAction}
    (h : publications.Kept world) (haction : action.Delivers publications) :
    RedeliverySucceeds host.toHostFunctions world action ↔ FetchUntouched world action := by
  cases action with
  | stage prepared =>
    exact iff_of_true (fun _ hpointer hid => h.stage_again haction hpointer hid) trivial
  | activate manifest =>
    obtain ⟨delivery, hdelivery, rfl⟩ := haction
    refine forall_congr' fun current => forall_congr' fun hpointer => forall_congr' fun hid => ?_
    exact h.activate_again_iff hdelivery hpointer hid
  | _ => exact Iff.rfl

end PreparedPublications

/-- In every run of deliveries of prepared publications, heartbeats and retirements from the
empty cache, each delivery of the active publication succeeds and changes nothing exactly when
no heartbeat has rewritten the last fetch before a repeated activation. -/
theorem everyStep_redeliverySucceeds_iff (host : LiveHostFunctions) (scope : DataPublicationScope)
    (publications : PreparedPublications host.toHostFunctions) (actions : List LiveCacheAction)
    (hactions : ∀ action ∈ actions, action.Delivers publications) :
    EveryStep (liveCacheStep host scope) (RedeliverySucceeds host.toHostFunctions) .initial
        actions ↔
      EveryStep (liveCacheStep host scope) FetchUntouched .initial actions :=
  everyStep_congr_of_allowed
    (fun world action (h : publications.Kept world) haction =>
      (h.step haction : publications.Kept (liveCacheStep host scope world action)))
    (fun _ _ h haction => h.redeliverySucceeds_iff haction) .initial actions .initial hactions

section Examples

/-- The empty live snapshot is the only publication. -/
def onlyEmptyLive : PreparedPublications pollHost.toHostFunctions where
  prepared delivery := delivery = emptyLiveDelivery
  accepted := by
    rintro delivery rfl
    decide
  itemized := by
    rintro delivery rfl
    decide
  one_delivery := by
    rintro delivery other rfl rfl -
    rfl
  one_payload := by
    rintro delivery other rfl rfl
    decide

/-- The snapshot is delivered, delivered again, refreshed by a poll and delivered once more. -/
def refreshedDelivery : List LiveCacheAction :=
  [.stage emptyLiveDelivery, .activate emptyLiveManifest, .stage emptyLiveDelivery,
    .activate emptyLiveManifest] ++ heartbeatReads 1 1 ++ [.swap 1, .stage emptyLiveDelivery]

/-- The first repetition succeeds, and staging after the poll too. -/
theorem refreshed_delivery_succeeds :
    EveryStep (liveCacheStep pollHost (liveScope "2526" 1))
        (RedeliverySucceeds pollHost.toHostFunctions) .initial refreshedDelivery ↔
      EveryStep (liveCacheStep pollHost (liveScope "2526" 1)) FetchUntouched .initial
        refreshedDelivery := by
  refine everyStep_redeliverySucceeds_iff pollHost (liveScope "2526" 1) onlyEmptyLive _ ?_
  intro action haction
  simp only [refreshedDelivery, heartbeatReads, List.cons_append, List.nil_append, List.mem_cons,
    List.not_mem_nil, or_false] at haction
  rcases haction with rfl | rfl | rfl | rfl | rfl | rfl | rfl | rfl | rfl
  all_goals first | exact trivial | exact rfl | exact ⟨emptyLiveDelivery, rfl, rfl⟩

/-- After the poll the active publication's own manifest is rejected as a conflict. -/
theorem refreshed_delivery_conflicts :
    ¬ EveryStep (liveCacheStep pollHost (liveScope "2526" 1))
      (RedeliverySucceeds pollHost.toHostFunctions) .initial
      (refreshedDelivery ++ [.activate emptyLiveManifest]) := by
  intro h
  have hlast := ((everyStep_append _ _ _).mp h).2.1 (emptyLiveManifest.refreshed (pollTime 1))
    (by decide) (by decide)
  have hresult := (Prod.ext_iff.mp hlast).2
  exact absurd hresult (by decide)

end Examples

end LetletmeData
