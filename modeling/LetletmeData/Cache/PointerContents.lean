import Mathlib.Data.String.Basic
import LetletmeData.Cache.DataPublication

/-!
# What the active pointer leads to

Activation and swap persist every item of the manifest they install, and only items of another
manifest are ever given a lifetime. So a pointer leads to present and persistent items, which
hold what was staged under their keys. These payloads are the ones the manifest describes as
long as a key stands for one proof.
-/

namespace LetletmeData

open LetletmeData.Library

section Keys

variable {cache : PublicationCache} (key : String)

/-- Persisting removes the lifetime of the given keys. -/
theorem find_persist (keys : List String) :
    (cache.persist keys).items.find key = (cache.items.find key).map fun item =>
      if key ∈ keys then { item with ttlMs := none } else item :=
  KeyedTable.find_updateWhere _ _ key

/-- Retiring sets the lifetime of the given keys. -/
theorem find_retireKeys (keys : List String) :
    (cache.retireKeys keys).items.find key = (cache.items.find key).map fun item =>
      if key ∈ keys then { item with ttlMs := some dataPublicationRetiredTtlMs } else item :=
  KeyedTable.find_updateWhere _ _ key

/-- Staging adds the missing items and leaves the present ones. -/
theorem find_setStagedItems (items : List DataPublicationDeliveryItem) :
    (setStagedItems items cache).items.find key =
      (cache.items.find key).or ((items.find? fun item => item.manifest.key = key).map fun item =>
        { payload := item.payload, ttlMs := some dataPublicationStagingTtlMs }) := by
  unfold setStagedItems
  generalize cache.items = table
  induction items generalizing table with
  | nil => simp
  | cons item rest ih =>
    rw [List.foldl_cons, ih, KeyedTable.find_insertAbsent, List.find?_cons]
    by_cases hkey : item.manifest.key = key
    · cases table.find key <;> simp [hkey]
    · simp [hkey, Ne.symm hkey]

variable {key}

/-- Staging items that are all present changes nothing. -/
theorem setStagedItems_of_present {items : List DataPublicationDeliveryItem}
    (h : ∀ item ∈ items, cache.items.find item.manifest.key ≠ none) :
    setStagedItems items cache = cache := by
  induction items with
  | nil => rfl
  | cons item rest ih =>
    have hrest := ih fun other hother => h other (List.mem_cons_of_mem _ hother)
    unfold setStagedItems at hrest ⊢
    rw [List.foldl_cons, KeyedTable.insertAbsent_of_find (h item List.mem_cons_self)]
    exact hrest

/-- A stage attempt writes the same keys whether it succeeds or not. -/
theorem stageDataPublicationItems_fst (prepared : PreparedDelivery) :
    (stageDataPublicationItems prepared cache).1 = setStagedItems prepared.items cache := by
  unfold stageDataPublicationItems
  dsimp only
  split
  · rfl
  · split <;> rfl

/-- A key that is persistent stays what it is when lifetimes end. -/
theorem find_expire_of_persistent {item : CachedItem} (hitem : cache.items.find key = some item)
    (hpersistent : item.ttlMs = none) (other : String) :
    (cache.expire other).items.find key = some item := by
  rw [← hitem]
  refine KeyedTable.find_deleteWhere_of_not fun found hfound hexpired => hexpired.2 ?_
  obtain rfl : item = found := Option.some.inj (hitem.symm.trans hfound)
  exact hpersistent

end Keys

/-- An unstaged item is missing or of another size. -/
theorem firstUnstaged_status {candidate : DataPublicationManifest} {cache : PublicationCache}
    {status : ActivationStatus} (h : firstUnstaged candidate cache = some status) :
    ∃ key, status = .missingStage key ∨ status = .wrongStageSize key := by
  obtain ⟨item, -, hitem⟩ := List.exists_of_findSome?_eq_some h
  refine ⟨item.key, ?_⟩
  split at hitem
  · exact .inl (Option.some.inj hitem).symm
  · split at hitem
    · exact nomatch hitem
    · exact .inr (Option.some.inj hitem).symm

/-- What an activation does: nothing, or it installs the candidate over an older manifest. -/
theorem activateRevision_spec (candidate : DataPublicationManifest) (cache : PublicationCache) :
    ((activateRevision candidate cache).1 = cache ∧
        (activateRevision candidate cache).2 ≠ .published) ∨
      (firstUnstaged candidate cache = none ∧
        (∀ current, cache.pointer = some (.manifest current) →
          current.publicationId ≠ candidate.publicationId ∧ ¬ NewerOrEqual current candidate) ∧
        cache.pointer ≠ some .undecodable ∧
        (activateRevision candidate cache).2 = .published ∧
        ∃ displaced, (∀ current, cache.pointer = some (.manifest current) →
            displaced = current.keys) ∧
          (activateRevision candidate cache).1 =
            { cache.persist candidate.keys with
              pointer := some (.manifest candidate) }.retireKeys
                (displaced.filter (· ∉ candidate.keys))) := by
  have hinstall : ∀ displaced,
      (firstUnstaged candidate cache = none ∧
        installManifest displaced candidate cache =
          ({ cache.persist candidate.keys with
              pointer := some (.manifest candidate) }.retireKeys
            (displaced.filter (· ∉ candidate.keys)), .published)) ∨
      ∃ status, installManifest displaced candidate cache = (cache, status) ∧
        status ≠ .published := by
    intro displaced
    unfold installManifest
    cases hunstaged : firstUnstaged candidate cache with
    | none => exact .inl ⟨rfl, rfl⟩
    | some status =>
      obtain ⟨key, rfl | rfl⟩ := firstUnstaged_status hunstaged <;> exact .inr ⟨_, rfl, nofun⟩
  unfold activateRevision
  split
  next hpointer =>
    rcases hinstall [] with ⟨hstaged, heq⟩ | ⟨status, heq, hstatus⟩
    · rw [heq]
      exact .inr ⟨hstaged, by simp [hpointer], by simp [hpointer], rfl, [], by simp [hpointer], rfl⟩
    · rw [heq]
      exact .inl ⟨rfl, hstatus⟩
  · exact .inl ⟨rfl, nofun⟩
  next current hpointer =>
    split
    · split <;> exact .inl ⟨rfl, nofun⟩
    next hid =>
      split
      · exact .inl ⟨rfl, nofun⟩
      next holder =>
        rcases hinstall current.keys with ⟨hstaged, heq⟩ | ⟨status, heq, hstatus⟩
        · rw [heq]
          exact .inr ⟨hstaged, by simp [hpointer, hid, holder], by simp [hpointer], rfl,
            current.keys, by simp [hpointer], rfl⟩
        · rw [heq]
          exact .inl ⟨rfl, hstatus⟩

section Swap

variable {cache : PublicationCache} {current candidate : DataPublicationManifest} {expected : ℕ}

/-- Without the expected pointer a swap writes nothing. -/
theorem swap_of_not_expected (replacement : Option DataPublicationManifest)
    (h : ∀ current, cache.pointer = some (.manifest current) →
      current.publicationId ≠ expected) :
    (compareAndSwapActiveRevision expected replacement cache).1 = cache := by
  unfold compareAndSwapActiveRevision
  split
  · rfl
  · rfl
  next current hpointer => rw [if_pos (h current hpointer)]

/-- A swap without replacement removes the expected pointer. -/
theorem swap_none (hpointer : cache.pointer = some (.manifest current))
    (hid : current.publicationId = expected) :
    compareAndSwapActiveRevision expected none cache =
      ({ cache with pointer := none }, .removed) := by
  simp [compareAndSwapActiveRevision, hpointer, hid]

/-- A swap installs a replacement all of whose items are present. -/
theorem swap_some (hpointer : cache.pointer = some (.manifest current))
    (hid : current.publicationId = expected)
    (hpresent : ∀ key ∈ candidate.keys, cache.items.find key ≠ none) :
    compareAndSwapActiveRevision expected (some candidate) cache =
      ({ cache.persist candidate.keys with pointer := some (.manifest candidate) },
        .replaced) := by
  have hnone : (candidate.keys.find? fun key => (cache.items.find key).isNone) = none :=
    List.find?_eq_none.mpr fun key hkey => by simpa using hpresent key hkey
  simp [compareAndSwapActiveRevision, hpointer, hid, hnone]

/-- A swap to an incomplete replacement persists what it finds before the missing item. -/
theorem swap_incomplete (hpointer : cache.pointer = some (.manifest current))
    (hid : current.publicationId = expected)
    (hmissing : ¬ ∀ key ∈ candidate.keys, cache.items.find key ≠ none) :
    (compareAndSwapActiveRevision expected (some candidate) cache).1 =
      cache.persist (stagedPrefix candidate cache) := by
  obtain ⟨key, hkey⟩ := not_forall.mp hmissing
  obtain ⟨hmem, hnone⟩ := Classical.not_imp.mp hkey
  have hfound : (candidate.keys.find? fun key => (cache.items.find key).isNone).isSome :=
    List.find?_isSome.mpr ⟨key, hmem, by simpa using hnone⟩
  obtain ⟨missing, hmissing⟩ := Option.isSome_iff_exists.mp hfound
  simp [compareAndSwapActiveRevision, hpointer, hid, hmissing]

end Swap

section Kept

variable {expected : String → String → Prop} {cache : PublicationCache}

/-- Keys hold expected payloads, and the items of the pointer are present and persistent. -/
structure PublicationCache.Kept (expected : String → String → Prop) (cache : PublicationCache) :
    Prop where
  stored : ∀ key cached, cache.items.find key = some cached → expected key cached.payload
  complete : ∀ manifest, cache.pointer = some (.manifest manifest) → ∀ key ∈ manifest.keys,
    ∃ cached, cache.items.find key = some cached ∧ cached.ttlMs = none

/-- The operation stages expected payloads only. -/
def CacheOperation.Stages (expected : String → String → Prop) (operation : CacheOperation) :
    Prop :=
  ∀ prepared, operation = .stage prepared →
    ∀ item ∈ prepared.items, expected item.manifest.key item.payload

namespace PublicationCache.Kept

/-- Nothing is cached at first. -/
theorem initial : PublicationCache.initial.Kept expected :=
  ⟨fun _ _ hcached => (nomatch hcached), fun _ hpointer => (nomatch hpointer)⟩

/-- Rewriting lifetimes keeps the payloads. -/
theorem stored_of_map (h : cache.Kept expected) {later : PublicationCache}
    {write : String → CachedItem → CachedItem}
    (hfind : ∀ key, later.items.find key = (cache.items.find key).map (write key))
    (hwrite : ∀ key cached, (write key cached).payload = cached.payload) (key : String)
    (cached : CachedItem) (hcached : later.items.find key = some cached) :
    expected key cached.payload := by
  rw [hfind] at hcached
  obtain ⟨old, hold, rfl⟩ := Option.map_eq_some_iff.mp hcached
  rw [hwrite]
  exact h.stored key old hold

/-- Persisting more keys keeps what the pointer leads to. -/
theorem persist (h : cache.Kept expected) (keys : List String) :
    (cache.persist keys).Kept expected := by
  refine ⟨h.stored_of_map (find_persist · keys) fun key cached => by split <;> rfl, ?_⟩
  intro manifest hpointer key hkey
  obtain ⟨cached, hcached, hpersistent⟩ := h.complete manifest hpointer key hkey
  refine ⟨_, by rw [find_persist, hcached, Option.map_some], ?_⟩
  split
  · rfl
  · exact hpersistent

/-- A pointer to present and persisted items is complete. -/
theorem point (h : cache.Kept expected) {candidate : DataPublicationManifest}
    (hpresent : ∀ key ∈ candidate.keys, cache.items.find key ≠ none) :
    { cache.persist candidate.keys with pointer := some (.manifest candidate) }.Kept
      expected := by
  refine ⟨(h.persist candidate.keys).stored, ?_⟩
  intro manifest hpointer key hkey
  obtain rfl : candidate = manifest := by simpa using hpointer
  obtain ⟨cached, hcached⟩ := Option.ne_none_iff_exists'.mp (hpresent key hkey)
  refine ⟨{ cached with ttlMs := none }, ?_, rfl⟩
  change (cache.persist candidate.keys).items.find key = _
  rw [find_persist, hcached, Option.map_some, if_pos hkey]

/-- Giving other keys than the pointer's a lifetime keeps what the pointer leads to. -/
theorem retireKeys (h : cache.Kept expected) {keys : List String}
    (hother : ∀ manifest, cache.pointer = some (.manifest manifest) →
      ∀ key ∈ keys, key ∉ manifest.keys) : (cache.retireKeys keys).Kept expected := by
  refine ⟨h.stored_of_map (find_retireKeys · keys) fun key cached => by split <;> rfl, ?_⟩
  intro manifest hpointer key hkey
  obtain ⟨cached, hcached, hpersistent⟩ := h.complete manifest hpointer key hkey
  refine ⟨cached, ?_, hpersistent⟩
  have hkept : key ∉ keys := fun hmem => hother manifest hpointer key hmem hkey
  rw [find_retireKeys, hcached, Option.map_some, if_neg hkept]

/-- A candidate none of whose items is unstaged has all of them present. -/
theorem present_of_staged {candidate : DataPublicationManifest}
    (h : firstUnstaged candidate cache = none) :
    ∀ key ∈ candidate.keys, cache.items.find key ≠ none := by
  intro key hkey hnone
  obtain ⟨item, hitem, rfl⟩ := List.mem_map.mp hkey
  have hstaged := List.findSome?_eq_none_iff.mp h item hitem
  simp [hnone] at hstaged

/-- A stage attempt adds expected payloads. -/
theorem stage (h : cache.Kept expected) {prepared : PreparedDelivery}
    (hprepared : ∀ item ∈ prepared.items, expected item.manifest.key item.payload) :
    (setStagedItems prepared.items cache).Kept expected := by
  constructor
  · intro key cached hcached
    rw [find_setStagedItems] at hcached
    rcases Option.or_eq_some_iff.mp hcached with hold | ⟨-, hnew⟩
    · exact h.stored key cached hold
    · obtain ⟨item, hitem, rfl⟩ := Option.map_eq_some_iff.mp hnew
      obtain rfl : item.manifest.key = key := by simpa using List.find?_some hitem
      exact hprepared item (List.mem_of_find?_eq_some hitem)
  · intro manifest hpointer key hkey
    obtain ⟨cached, hcached, hpersistent⟩ := h.complete manifest hpointer key hkey
    exact ⟨cached, by rw [find_setStagedItems, hcached]; rfl, hpersistent⟩

/-- An activation keeps what the pointer leads to. -/
theorem activate (h : cache.Kept expected) (candidate : DataPublicationManifest) :
    (activateRevision candidate cache).1.Kept expected := by
  rcases activateRevision_spec candidate cache with ⟨heq, -⟩ |
    ⟨hstaged, -, -, -, displaced, -, heq⟩
  · rw [heq]
    exact h
  · rw [heq]
    refine (h.point (present_of_staged hstaged)).retireKeys ?_
    rintro manifest hpointer key hkey
    obtain rfl : candidate = manifest := by simpa using hpointer
    simpa using (List.mem_filter.mp hkey).2

/-- A swap keeps what the pointer leads to. -/
theorem swap (h : cache.Kept expected) (expectedPublicationId : ℕ)
    (replacement : Option DataPublicationManifest) :
    (compareAndSwapActiveRevision expectedPublicationId replacement cache).1.Kept expected := by
  by_cases hfound : ∃ current, cache.pointer = some (.manifest current) ∧
      current.publicationId = expectedPublicationId
  · obtain ⟨current, hpointer, hid⟩ := hfound
    cases replacement with
    | none =>
      rw [swap_none hpointer hid]
      exact ⟨h.stored, nofun⟩
    | some candidate =>
      by_cases hpresent : ∀ key ∈ candidate.keys, cache.items.find key ≠ none
      · rw [swap_some hpointer hid hpresent]
        exact h.point hpresent
      · rw [swap_incomplete hpointer hid hpresent]
        exact h.persist _
  · rw [swap_of_not_expected replacement fun current hpointer hid =>
      hfound ⟨current, hpointer, hid⟩]
    exact h

/-- Every operation that stages expected payloads keeps what the pointer leads to. -/
theorem step (h : cache.Kept expected) {operation : CacheOperation}
    (hstages : operation.Stages expected) : (cacheStep cache operation).Kept expected := by
  cases operation with
  | stage prepared =>
    rw [cacheStep, stageDataPublicationItems_fst]
    exact h.stage (hstages prepared rfl)
  | activate candidate => exact h.activate candidate
  | compareAndSwap expectedPublicationId replacement =>
    exact h.swap expectedPublicationId replacement
  | retire =>
    rw [cacheStep, retireActiveRevision]
    split
    · exact ⟨h.stored_of_map (find_retireKeys · _) fun key cached => by split <;> rfl, nofun⟩
    · exact h
  | expire other =>
    constructor
    · intro key cached hcached
      exact h.stored key cached (KeyedTable.find_of_find_deleteWhere hcached).1
    · intro manifest hpointer key hkey
      obtain ⟨cached, hcached, hpersistent⟩ := h.complete manifest hpointer key hkey
      exact ⟨cached, find_expire_of_persistent hcached hpersistent other, hpersistent⟩

end PublicationCache.Kept

end Kept

section Complete

variable {host : HostFunctions}

/-- The payload has the size and the digest of the manifest item. -/
def DataPublicationManifestItem.Describes (host : HostFunctions)
    (item : DataPublicationManifestItem) (payload : String) : Prop :=
  payload.utf8ByteSize = item.bytes ∧ host.sha256 payload = item.sha256

instance (host : HostFunctions) (item : DataPublicationManifestItem) (payload : String) :
    Decidable (item.Describes host payload) :=
  inferInstanceAs (Decidable (_ ∧ _))

/-- A delivery whose payloads are the ones their manifest items describe. -/
def PreparedDelivery.Proven (host : HostFunctions) (prepared : PreparedDelivery) : Prop :=
  ∀ item ∈ prepared.items, item.manifest.Describes host item.payload

instance (host : HostFunctions) (prepared : PreparedDelivery) :
    Decidable (prepared.Proven host) :=
  inferInstanceAs (Decidable (∀ item ∈ prepared.items, _))

/-- Every item of the active manifest is present, persistent and holds what it describes. -/
def PointerComplete (host : HostFunctions) (cache : PublicationCache) : Prop :=
  ∀ manifest, cache.pointer = some (.manifest manifest) → ∀ item ∈ manifest.items,
    ∃ cached, cache.items.find item.key = some cached ∧ cached.ttlMs = none ∧
      item.Describes host cached.payload

/-- The manifest an operation would install. -/
def CacheOperation.candidate : CacheOperation → Option DataPublicationManifest
  | .activate manifest => some manifest
  | .compareAndSwap _ replacement => replacement
  | _ => none

/-- The manifest items an operation mentions. -/
def CacheOperation.items : CacheOperation → List DataPublicationManifestItem
  | .stage prepared => prepared.items.map (·.manifest)
  | .activate manifest => manifest.items
  | .compareAndSwap _ (some manifest) => manifest.items
  | _ => []

/-- Items under one key have one size and one digest. -/
def OneProofPerKey (known : DataPublicationManifestItem → Prop) : Prop :=
  ∀ item item', known item → known item' → item.key = item'.key →
    item.bytes = item'.bytes ∧ item.sha256 = item'.sha256

/-- The pointer an operation leaves is the one it found, none, or its candidate. -/
theorem pointer_cacheStep (cache : PublicationCache) (operation : CacheOperation) :
    (cacheStep cache operation).pointer = cache.pointer ∨
      (cacheStep cache operation).pointer = none ∨
      ∃ candidate, operation.candidate = some candidate ∧
        (cacheStep cache operation).pointer = some (.manifest candidate) := by
  cases operation with
  | stage prepared =>
    rw [cacheStep, stageDataPublicationItems_fst]
    exact .inl rfl
  | activate candidate =>
    rw [cacheStep]
    rcases activateRevision_spec candidate cache with ⟨heq, -⟩ | ⟨-, -, -, -, displaced, -, heq⟩
    · exact .inl (by rw [heq])
    · exact .inr (.inr ⟨candidate, rfl, by rw [heq]; rfl⟩)
  | compareAndSwap expected replacement =>
    rw [cacheStep]
    by_cases hfound : ∃ current, cache.pointer = some (.manifest current) ∧
        current.publicationId = expected
    · obtain ⟨current, hpointer, hid⟩ := hfound
      cases replacement with
      | none => exact .inr (.inl (by rw [swap_none hpointer hid]))
      | some candidate =>
        by_cases hpresent : ∀ key ∈ candidate.keys, cache.items.find key ≠ none
        · exact .inr (.inr ⟨candidate, rfl, by rw [swap_some hpointer hid hpresent]⟩)
        · exact .inl (by rw [swap_incomplete hpointer hid hpresent]; rfl)
    · exact .inl (by rw [swap_of_not_expected replacement fun current hpointer hid =>
        hfound ⟨current, hpointer, hid⟩])
  | retire =>
    rw [cacheStep, retireActiveRevision]
    split
    · exact .inr (.inl rfl)
    · exact .inl rfl
  | expire key => exact .inl rfl

/-- A pointer keeps naming manifests of a kind that every candidate is of. -/
theorem pointer_kind_cacheStep {kind : DataPublicationManifest → Prop} {cache : PublicationCache}
    {operation : CacheOperation}
    (h : ∀ manifest, cache.pointer = some (.manifest manifest) → kind manifest)
    (hcandidate : ∀ candidate, operation.candidate = some candidate → kind candidate) :
    ∀ manifest, (cacheStep cache operation).pointer = some (.manifest manifest) →
      kind manifest := by
  intro manifest hpointer
  rcases pointer_cacheStep cache operation with heq | heq | ⟨candidate, hmem, heq⟩
  · exact h manifest (heq ▸ hpointer)
  · rw [heq] at hpointer
    exact nomatch hpointer
  · rw [heq] at hpointer
    obtain rfl : candidate = manifest := by simpa using hpointer
    exact hcandidate candidate hmem

/-- The manifest the first read returns is the pointer's. -/
theorem pointer_of_readPointer {host : HostFunctions} {scope : DataPublicationScope}
    {cache : PublicationCache} {manifest : DataPublicationManifest}
    (h : readPointer host scope cache = some manifest) :
    cache.pointer = some (.manifest manifest) := by
  obtain ⟨hparsed, -⟩ := Option.filter_eq_some_iff.mp h
  obtain ⟨hactive, -⟩ := Option.filter_eq_some_iff.mp hparsed
  exact PublicationCache.mem_activeManifest.mp hactive

end Complete

section Advance

/-- A manifest is as new as itself. -/
theorem NewerOrEqual.refl (manifest : DataPublicationManifest) :
    NewerOrEqual manifest manifest :=
  .inr ⟨rfl, le_rfl⟩

/-- Of two manifests, one is as new as the other. -/
theorem NewerOrEqual.of_not {current candidate : DataPublicationManifest}
    (h : ¬ NewerOrEqual current candidate) : NewerOrEqual candidate current := by
  obtain ⟨hchecked, hrevision⟩ := not_or.mp h
  rcases lt_trichotomy current.sourceCheckedAt candidate.sourceCheckedAt with hlt | heq | hgt
  · exact .inl hlt
  · exact .inr ⟨heq.symm, (lt_of_not_ge fun hle => hrevision ⟨heq, hle⟩).le⟩
  · exact absurd hgt hchecked

/-- The script answers `idempotent` or `stale` only with the manifest it found. -/
theorem activateRevision_kept {candidate active : DataPublicationManifest}
    {cache : PublicationCache} (h : (activateRevision candidate cache).2 = .idempotent active ∨
      (activateRevision candidate cache).2 = .stale active) :
    cache.pointer = some (.manifest active) := by
  have hinstall : ∀ displaced, (installManifest displaced candidate cache).2 ≠ .idempotent active ∧
      (installManifest displaced candidate cache).2 ≠ .stale active := by
    intro displaced
    unfold installManifest
    cases hunstaged : firstUnstaged candidate cache with
    | none => exact ⟨nofun, nofun⟩
    | some status =>
      obtain ⟨key, rfl | rfl⟩ := firstUnstaged_status hunstaged <;> exact ⟨nofun, nofun⟩
  unfold activateRevision at h
  split at h
  · exact absurd h (not_or.mpr (hinstall []))
  · simp at h
  next current hpointer =>
    split at h
    · split at h
      · simpa [hpointer] using h
      · simp at h
    · split at h
      · simpa [hpointer] using h
      · exact absurd h (not_or.mpr (hinstall current.keys))

/-- A call that does not throw leaves a pointer as new as the one it found. -/
def ActivationAdvances (host : HostFunctions) (cache : PublicationCache) :
    CacheOperation → Prop
  | .activate manifest =>
    ∀ status, (activateDataPublicationPointer host manifest cache).2 = .ok status →
      ∃ later, (activateDataPublicationPointer host manifest cache).1.pointer =
          some (.manifest later) ∧
        ∀ current, cache.pointer = some (.manifest current) → NewerOrEqual later current
  | _ => True

/-- The call writes what the script writes. -/
theorem activateDataPublicationPointer_fst (host : HostFunctions)
    (manifest : DataPublicationManifest) (cache : PublicationCache) :
    (activateDataPublicationPointer host manifest cache).1 =
      (activateRevision manifest cache).1 := by
  unfold activateDataPublicationPointer
  split <;> simp only [*]
  split <;> rfl

/-- The call succeeds only when the script published, found the publication active, or found a
pointer as new. -/
theorem activateDataPublicationPointer_ok {host : HostFunctions}
    {manifest : DataPublicationManifest} {cache : PublicationCache} {status : PublishStatus}
    (h : (activateDataPublicationPointer host manifest cache).2 = .ok status) :
    (activateRevision manifest cache).2 = .published ∨
      ∃ active, (activateRevision manifest cache).2 = .idempotent active ∨
        (activateRevision manifest cache).2 = .stale active := by
  unfold activateDataPublicationPointer at h
  generalize activateRevision manifest cache = result at h ⊢
  obtain ⟨written, answer⟩ := result
  cases answer with
  | published => exact .inl rfl
  | idempotent active => exact .inr ⟨active, .inl rfl⟩
  | stale active => exact .inr ⟨active, .inr rfl⟩
  | _ => cases h

/-- Every activation advances the pointer, whatever is cached. -/
theorem activationAdvances (host : HostFunctions) (cache : PublicationCache)
    (operation : CacheOperation) : ActivationAdvances host cache operation := by
  cases operation with
  | activate manifest =>
    intro status hstatus
    rw [activateDataPublicationPointer_fst]
    rcases activateRevision_spec manifest cache with ⟨heq, hunpublished⟩ |
      ⟨-, hnewer, -, -, displaced, -, heq⟩
    · rcases activateDataPublicationPointer_ok hstatus with hpublished | ⟨active, hkept⟩
      · exact absurd hpublished hunpublished
      · have hactive := activateRevision_kept hkept
        refine ⟨active, by rw [heq, hactive], fun current hcurrent => ?_⟩
        obtain rfl : active = current := by simpa [hactive] using hcurrent
        exact .refl active
    · exact ⟨manifest, by rw [heq]; rfl, fun current hcurrent => .of_not (hnewer current hcurrent).2⟩
  | _ => trivial

/-- As long as an item key stands for one proof, every run of the scripts leaves a pointer whose
items are present, persistent and what the manifest describes, and no activation moves the
pointer back. -/
theorem pointerComplete_runSteps (host : HostFunctions) (operations : List CacheOperation)
    (hproven : ∀ prepared, .stage prepared ∈ operations → prepared.Proven host)
    (hproof : OneProofPerKey fun item => ∃ operation ∈ operations, item ∈ operation.items) :
    PointerComplete host (runSteps cacheStep .initial operations) ∧
      EveryStep cacheStep (ActivationAdvances host) .initial operations := by
  let known (item : DataPublicationManifestItem) : Prop :=
    ∃ operation ∈ operations, item ∈ operation.items
  let described (key payload : String) : Prop :=
    ∀ item, known item → item.key = key → item.Describes host payload
  let leads (cache : PublicationCache) : Prop := cache.Kept described ∧
    ∀ manifest, cache.pointer = some (.manifest manifest) → ∀ item ∈ manifest.items, known item
  have hstep : ∀ cache operation, leads cache → operation ∈ operations →
      leads (cacheStep cache operation) := by
    rintro cache operation ⟨hkept, hknown⟩ hoperation
    refine ⟨hkept.step ?_, pointer_kind_cacheStep hknown ?_⟩
    · rintro prepared rfl item hitem other hother hkey
      have hself : known item.manifest :=
        ⟨_, hoperation, List.mem_map.mpr ⟨item, hitem, rfl⟩⟩
      obtain ⟨hbytes, hsha⟩ := hproof other item.manifest hother hself hkey
      obtain ⟨hsize, hdigest⟩ := hproven prepared hoperation item hitem
      exact ⟨hsize.trans hbytes.symm, hdigest.trans hsha.symm⟩
    · intro candidate hcandidate item hitem
      refine ⟨operation, hoperation, ?_⟩
      cases operation with
      | activate manifest =>
        obtain rfl : manifest = candidate := Option.some.inj hcandidate
        exact hitem
      | compareAndSwap expected replacement =>
        obtain rfl : replacement = some candidate := hcandidate
        exact hitem
      | _ => exact nomatch hcandidate
  have hinitial : leads .initial := ⟨.initial, fun _ hpointer => nomatch hpointer⟩
  obtain ⟨hkept, hknown⟩ : leads (runSteps cacheStep .initial operations) :=
    runSteps_invariant_of_allowed hstep .initial operations hinitial fun _ hmem => hmem
  refine ⟨?_, everyStep_of_invariant (fun _ _ (_ : True) => trivial)
    (fun cache operation _ => activationAdvances host cache operation) .initial operations trivial⟩
  intro manifest hpointer item hitem
  obtain ⟨cached, hcached, hpersistent⟩ :=
    hkept.complete manifest hpointer item.key (List.mem_map.mpr ⟨item, hitem, rfl⟩)
  exact ⟨cached, hcached, hpersistent,
    hkept.stored item.key cached hcached item (hknown manifest hpointer item hitem) rfl⟩

end Advance

section Examples

/-- The digest of the empty array. -/
def emptyListDigest : String :=
  "4f53cda18c2baa0c0354bb5f9a3ecbe5ed12ab4d8e11ba873c2f11161202b945"

/-- The host on the texts of empty objects and arrays. -/
def contextsHost : HostFunctions :=
  { contextHost with
    sha256 := fun text => if text = "[]" then emptyListDigest else contextHost.sha256 text }

/-- A prepared empty context. -/
def contextDelivery (id revision : ℕ) : PreparedDelivery :=
  { manifest := contextManifest id revision
    items := (contextManifest id revision).items.map fun item =>
      { manifest := item, payload := "{}" } }

/-- An empty list prepared under the same revision, by a publication of its own. -/
def rivalDelivery (id revision : ℕ) : PreparedDelivery :=
  let items := (contextManifest id revision).items.map fun item =>
    { item with sha256 := emptyListDigest }
  { manifest := { contextManifest id revision with items := items }
    items := items.map fun item => { manifest := item, payload := "[]" } }

/-- Publish the first context and let a swap put the second in its place. -/
def contextHistory : List CacheOperation :=
  [.stage (contextDelivery (contextId 1) 1), .activate (contextManifest (contextId 1) 1),
    .stage (contextDelivery (contextId 2) 2),
    .compareAndSwap (contextId 1) (some (contextManifest (contextId 2) 2))]

/-- Two contexts under two revisions have one proof for each key. -/
theorem pointerComplete_contexts :
    PointerComplete contextHost (runSteps cacheStep .initial contextHistory) ∧
      EveryStep cacheStep (ActivationAdvances contextHost) .initial contextHistory := by
  refine pointerComplete_runSteps contextHost contextHistory ?_ ?_
  · intro prepared hprepared
    simp only [contextHistory, List.mem_cons, List.not_mem_nil, CacheOperation.stage.injEq,
      reduceCtorEq, or_false, false_or] at hprepared
    rcases hprepared with rfl | rfl <;> decide
  · rintro item item' ⟨operation, hoperation, hitem⟩ ⟨operation', hoperation', hitem'⟩ hkey
    have hall : ∀ item ∈ contextHistory.flatMap CacheOperation.items,
        item.bytes = 2 ∧ item.sha256 = contextDigest := by decide
    have h := hall item (List.mem_flatMap.mpr ⟨operation, hoperation, hitem⟩)
    have h' := hall item' (List.mem_flatMap.mpr ⟨operation', hoperation', hitem'⟩)
    exact ⟨h.1.trans h'.1.symm, h.2.trans h'.2.symm⟩

/-- Under one revision, the payload staged for one publication is published for another. -/
theorem rival_context_published :
    (contextDelivery (contextId 1) 1).Proven contextsHost ∧
      (rivalDelivery (contextId 2) 1).Proven contextsHost ∧
      ¬ PointerComplete contextsHost (runSteps cacheStep .initial
        [.stage (rivalDelivery (contextId 2) 1), .activate (contextManifest (contextId 1) 1)]) := by
  refine ⟨by decide, by decide, fun h => ?_⟩
  obtain ⟨cached, hcached, -, hdescribes⟩ := h (contextManifest (contextId 1) 1) (by decide)
    _ List.mem_cons_self
  obtain rfl : cached = { payload := "[]", ttlMs := none } :=
    Option.some.inj (hcached.symm.trans (by decide))
  exact absurd hdescribes (by decide)

end Examples

end LetletmeData
