import LetletmeData.Cache.LiveSnapshotCache

/-!
# Racing heartbeats

A heartbeat swaps in a later time than the one it read. The time of a publication therefore
moves back exactly when a call lands after another one that carries a later time and landed
since the first one's read.
-/

namespace LetletmeData

open LetletmeData.Library

/-- The time of the last successful fetch, where the manifest names one. -/
def lastFetch (host : LiveHostFunctions) (manifest : DataPublicationManifest) : Option ℤ :=
  manifest.lastSuccessfulFetchAt.bind host.dateParse

/-- As long as the pointer names the same publication, its last fetch does not move back. -/
def FetchKept (host : LiveHostFunctions) (before after : PublicationCache) : Prop :=
  ∀ manifest later, before.pointer = some (.manifest manifest) →
    after.pointer = some (.manifest later) → manifest.publicationId = later.publicationId →
      ∀ fetched ∈ lastFetch host manifest, ∃ latest ∈ lastFetch host later, fetched ≤ latest

/-- Since the call read the pointer, another heartbeat of the publication has moved it past the
call's own time. -/
def Overtaken (host : LiveHostFunctions) (world : LiveCacheWorld) (call : ℕ) : Prop :=
  ∃ text active current, world.heartbeats.find call = some (.swapping text active) ∧
    world.cache.pointer = some (.manifest current) ∧
    current.publicationId = active.publicationId ∧ current ≠ active ∧
    (∀ key ∈ active.keys, world.cache.items.find key ≠ none) ∧
    ∃ fetched ∈ lastFetch host current, ∀ own ∈ host.dateParse text, own < fetched

/-- The step is no swap of an overtaken heartbeat. -/
def NotOvertaken (host : LiveHostFunctions) (world : LiveCacheWorld) (action : LiveCacheAction) :
    Prop :=
  ∀ call, action = .swap call → ¬ Overtaken host world call

section Fresh

variable {host : LiveHostFunctions} {scope : DataPublicationScope}

/-- The call has a valid date, later than the fetch it read. -/
def PendingHeartbeat.Fresh (host : LiveHostFunctions) : PendingHeartbeat → Prop
  | started text => (host.dateParse text).isSome
  | pointerRead text _ => (host.dateParse text).isSome
  | swapping text active =>
    ∃ own ∈ host.dateParse text, ∀ fetched ∈ lastFetch host active, fetched < own

/-- Calls under way stay fresh. -/
theorem allFresh_step (world : LiveCacheWorld) (action : LiveCacheAction)
    (h : world.AllPending (·.Fresh host)) :
    (liveCacheStep host scope world action).AllPending (·.Fresh host) := by
  refine h.step action (fun text hvalid => hvalid) (fun text manifest hstarted _ => hstarted) ?_
  intro text manifest active hread _ hlate
  obtain ⟨own, hown⟩ := Option.isSome_iff_exists.mp hread
  refine ⟨own, hown, fun fetched hfetched => lt_of_not_ge fun hle => hlate ?_⟩
  obtain ⟨latest, hlatest, hparse⟩ := Option.bind_eq_some_iff.mp hfetched
  exact ⟨fetched, by rw [hlatest]; exact hparse, own, hown, hle⟩

/-- A step that leaves the pointer keeps the fetch. -/
theorem FetchKept.of_pointer_eq {before after : PublicationCache}
    (h : after.pointer = before.pointer) : FetchKept host before after := by
  intro manifest later hbefore hafter _ fetched hfetched
  obtain rfl : manifest = later := by simpa [h, hbefore] using hafter
  exact ⟨fetched, hfetched, le_rfl⟩

/-- A step after which nothing is active keeps the fetch. -/
theorem FetchKept.of_pointer_none {before after : PublicationCache} (h : after.pointer = none) :
    FetchKept host before after := by
  intro manifest later _ hafter
  rw [h] at hafter
  exact nomatch hafter

/-- An activation installs another publication than the active one. -/
theorem FetchKept.activate (candidate : DataPublicationManifest) (cache : PublicationCache) :
    FetchKept host cache (activateRevision candidate cache).1 := by
  rcases activateRevision_spec candidate cache with ⟨heq, -⟩ | ⟨-, hother, -, -, displaced, -, heq⟩
  · exact .of_pointer_eq (by rw [heq])
  · intro manifest later hbefore hafter hid
    rw [heq] at hafter
    obtain rfl : candidate = later := by
      simpa [PublicationCache.retireKeys] using hafter
    exact absurd hid (hother manifest hbefore).1

/-- An overtaken call is about to swap a manifest of the active publication. -/
theorem Overtaken.of_swapping {world : LiveCacheWorld} {call : ℕ} {text : String}
    {active : DataPublicationManifest}
    (hswapping : world.heartbeats.find call = some (.swapping text active)) :
    Overtaken host world call ↔ ∃ current, world.cache.pointer = some (.manifest current) ∧
      current.publicationId = active.publicationId ∧ current ≠ active ∧
      (∀ key ∈ active.keys, world.cache.items.find key ≠ none) ∧
      ∃ fetched ∈ lastFetch host current, ∀ own ∈ host.dateParse text, own < fetched := by
  constructor
  · rintro ⟨text', active', current, hswapping', hovertaken⟩
    obtain ⟨rfl, rfl⟩ : text = text' ∧ active = active' := by simpa [hswapping] using hswapping'
    exact ⟨current, hovertaken⟩
  · rintro ⟨current, hovertaken⟩
    exact ⟨text, active, current, hswapping, hovertaken⟩

/-- A swap keeps the fetch exactly when its call was not overtaken. -/
theorem fetchKept_swap_iff {world : LiveCacheWorld} (h : world.AllPending (·.Fresh host))
    (call : ℕ) :
    FetchKept host world.cache (liveCacheStep host scope world (.swap call)).cache ↔
      ¬ Overtaken host world call := by
  by_cases hpending : ∃ text active, world.heartbeats.find call = some (.swapping text active)
  · obtain ⟨text, active, hswapping⟩ := hpending
    obtain ⟨own, hown, hfresh⟩ := h call _ hswapping
    rw [cache_swap hswapping, Overtaken.of_swapping hswapping]
    by_cases hfound : ∃ current, world.cache.pointer = some (.manifest current) ∧
        current.publicationId = active.publicationId
    · obtain ⟨current, hpointer, hid⟩ := hfound
      by_cases hpresent : ∀ key ∈ (active.refreshed text).keys, world.cache.items.find key ≠ none
      · rw [swap_some hpointer hid hpresent]
        constructor
        · rintro hkept ⟨current', hpointer', -, -, -, fetched, hfetched, hlater⟩
          obtain rfl : current = current' := by simpa [hpointer] using hpointer'
          obtain ⟨latest, hlatest, hle⟩ := hkept current _ hpointer rfl hid fetched hfetched
          exact absurd (hlater latest hlatest) (not_lt.mpr hle)
        · intro hfree manifest later hbefore hafter _ fetched hfetched
          obtain rfl : current = manifest := by simpa [hpointer] using hbefore
          obtain rfl : active.refreshed text = later := by simpa using hafter
          refine ⟨own, hown, le_of_not_gt fun hlt => hfree ?_⟩
          refine ⟨current, hpointer, hid, ?_, hpresent, fetched, hfetched, fun other hother => ?_⟩
          · rintro rfl
            exact absurd (hfresh fetched hfetched) (not_lt.mpr hlt.le)
          · obtain rfl : own = other := Option.some.inj (hown.symm.trans hother)
            exact hlt
      · rw [swap_incomplete hpointer hid hpresent]
        exact iff_of_true (.of_pointer_eq rfl) fun ⟨_, _, _, _, hall, _⟩ => hpresent hall
    · rw [swap_of_not_expected _ fun current hpointer hid => hfound ⟨current, hpointer, hid⟩]
      exact iff_of_true (.of_pointer_eq rfl) fun ⟨current, hpointer, hid, _⟩ =>
        hfound ⟨current, hpointer, hid⟩
  · have hnone : ∀ text active, world.heartbeats.find call ≠ some (.swapping text active) :=
      fun text active hswapping => hpending ⟨text, active, hswapping⟩
    rw [cache_swap_of_not hnone]
    exact iff_of_true (.of_pointer_eq rfl) fun ⟨text, active, _, hswapping, _⟩ =>
      hnone text active hswapping

/-- The other steps keep the fetch. -/
theorem fetchKept_of_not_swap (world : LiveCacheWorld) {action : LiveCacheAction}
    (h : ∀ call, action ≠ .swap call) :
    FetchKept host world.cache (liveCacheStep host scope world action).cache := by
  cases action with
  | refresh call text => exact .of_pointer_eq (by rw [cache_refresh])
  | readPointer call => exact .of_pointer_eq (by rw [cache_readPointer])
  | readItems call => exact .of_pointer_eq (by rw [cache_readItems])
  | swap call => exact absurd rfl (h call)
  | stage prepared => exact .of_pointer_eq (by
      rw [liveCacheStep, LiveCacheWorld.operate, cacheStep, stageDataPublicationItems_fst]; rfl)
  | activate candidate => exact .activate candidate world.cache
  | retire =>
    rw [liveCacheStep, LiveCacheWorld.operate, cacheStep, retireActiveRevision]
    split
    · exact .of_pointer_none rfl
    · exact .of_pointer_eq rfl
  | expire key => exact .of_pointer_eq rfl

end Fresh

/-- In every run of heartbeats, deliveries and retirements from the empty cache, the last fetch
of the active publication never moves back exactly when no swap is that of a heartbeat overtaken
since its read. -/
theorem everyStep_fetchKept_iff (host : LiveHostFunctions) (scope : DataPublicationScope)
    (actions : List LiveCacheAction) :
    EveryStep (liveCacheStep host scope)
        (fun world action => FetchKept host world.cache (liveCacheStep host scope world action).cache)
        .initial actions ↔
      EveryStep (liveCacheStep host scope) (NotOvertaken host) .initial actions := by
  refine everyStep_congr (fun world action (h : world.AllPending (·.Fresh host)) =>
    allFresh_step world action h) ?_ _ _ fun _ _ hpending => nomatch hpending
  intro world action h
  by_cases hswap : ∃ call, action = .swap call
  · obtain ⟨call, rfl⟩ := hswap
    rw [fetchKept_swap_iff h]
    exact ⟨fun hfree other heq => LiveCacheAction.swap.inj heq ▸ hfree, fun hfree => hfree call rfl⟩
  · have hother : ∀ call, action ≠ .swap call := fun call heq => hswap ⟨call, heq⟩
    exact iff_of_true (fetchKept_of_not_swap world hother) fun call heq => absurd heq (hother call)

section Examples

/-- Two polls read the publication of noon, and the later one swaps. -/
def racingPolls : List LiveCacheAction :=
  [.stage emptyLiveDelivery, .activate emptyLiveManifest] ++ heartbeatReads 1 1 ++
    heartbeatReads 2 2 ++ [.swap 2]

/-- The swap of the earlier poll moves the last fetch back by a minute. -/
theorem racing_polls_move_back :
    ¬ EveryStep (liveCacheStep pollHost (liveScope "2526" 1))
      (fun world action => FetchKept pollHost world.cache
        (liveCacheStep pollHost (liveScope "2526" 1) world action).cache) .initial
      (racingPolls ++ [.swap 1]) := by
  intro h
  obtain ⟨latest, hlatest, hle⟩ := ((everyStep_append _ _ _).mp h).2.1
    (emptyLiveManifest.refreshed (pollTime 2)) (emptyLiveManifest.refreshed (pollTime 1))
    (by decide) (by decide) rfl 1755345720000 (by decide)
  obtain rfl : latest = 1755345660000 := Option.some.inj (hlatest.symm.trans (by decide))
  exact absurd hle (by decide)

end Examples

end LetletmeData
