import Mathlib.Data.List.TakeWhile
import LetletmeData.Cache.PointerContents

/-!
# Items that stay behind

Activation and retirement give a lifetime to the items they displace. The swap does not: it may
leave behind the items of the manifest it replaces or removes, and it persists staged items
before it finds one missing. These are the only ways to a persistent item that the pointer does
not name.
-/

namespace LetletmeData

open LetletmeData.Library

/-- A key holds an item without a lifetime. -/
def Persistent (cache : PublicationCache) (key : String) : Prop :=
  ∃ cached ∈ cache.items.find key, cached.ttlMs = none

instance (cache : PublicationCache) (key : String) : Decidable (Persistent cache key) :=
  inferInstanceAs (Decidable (∃ cached ∈ cache.items.find key, _))

/-- Every persistent item belongs to the publication the pointer names. -/
def NothingLeftBehind (cache : PublicationCache) : Prop :=
  ∀ key, Persistent cache key →
    ∃ manifest, cache.pointer = some (.manifest manifest) ∧ key ∈ manifest.keys

/-- The step is no swap that leaves an item behind: a removal of a pointer with persistent items,
a replacement without one of them, or an incomplete replacement that persists an item the
pointer does not name. -/
def LeavesNothingBehind (cache : PublicationCache) : CacheOperation → Prop
  | .compareAndSwap expectedPublicationId none =>
    ∀ current, cache.pointer = some (.manifest current) →
      current.publicationId = expectedPublicationId →
        ∀ key ∈ current.keys, ¬ Persistent cache key
  | .compareAndSwap expectedPublicationId (some candidate) =>
    ∀ current, cache.pointer = some (.manifest current) →
      current.publicationId = expectedPublicationId →
        if ∀ key ∈ candidate.keys, cache.items.find key ≠ none then
          ∀ key ∈ current.keys, Persistent cache key → key ∈ candidate.keys
        else ∀ key ∈ stagedPrefix candidate cache, key ∈ current.keys
  | _ => True

section Persistence

variable {cache : PublicationCache} {key : String}

/-- Persisting makes the present ones of the given keys persistent. -/
theorem persistent_persist {keys : List String} :
    Persistent (cache.persist keys) key ↔
      Persistent cache key ∨ (key ∈ keys ∧ cache.items.find key ≠ none) := by
  rw [Persistent, Persistent, find_persist]
  cases cache.items.find key with
  | none => simp
  | some cached => by_cases hkey : key ∈ keys <;> simp [hkey]

/-- Retiring ends the persistence of the given keys. -/
theorem persistent_retireKeys {keys : List String} :
    Persistent (cache.retireKeys keys) key ↔ Persistent cache key ∧ key ∉ keys := by
  rw [Persistent, Persistent, find_retireKeys]
  cases cache.items.find key with
  | none => simp
  | some cached => by_cases hkey : key ∈ keys <;> simp [hkey]

/-- Staged items have a lifetime. -/
theorem persistent_setStagedItems {items : List DataPublicationDeliveryItem} :
    Persistent (setStagedItems items cache) key ↔ Persistent cache key := by
  rw [Persistent, Persistent, find_setStagedItems]
  cases cache.items.find key with
  | none => simp
  | some cached => simp

/-- Lifetimes that end leave the persistent items. -/
theorem persistent_expire {other : String} :
    Persistent (cache.expire other) key ↔ Persistent cache key := by
  constructor
  · rintro ⟨cached, hcached, hpersistent⟩
    exact ⟨cached, (KeyedTable.find_of_find_deleteWhere hcached).1, hpersistent⟩
  · rintro ⟨cached, hcached, hpersistent⟩
    exact ⟨cached, find_expire_of_persistent hcached hpersistent other, hpersistent⟩

/-- The staged prefix lists candidate keys that are present. -/
theorem mem_stagedPrefix {candidate : DataPublicationManifest}
    (h : key ∈ stagedPrefix candidate cache) : cache.items.find key ≠ none := by
  have hpresent := List.mem_takeWhile_imp h
  exact Option.isSome_iff_ne_none.mp hpresent

end Persistence

namespace NothingLeftBehind

variable {cache : PublicationCache}

/-- Nothing is left behind at first. -/
theorem initial : NothingLeftBehind .initial := by
  rintro key ⟨cached, hcached, -⟩
  exact nomatch hcached

/-- The persistent items belong to the manifest the pointer names. -/
theorem mem_keys (h : NothingLeftBehind cache) {manifest : DataPublicationManifest}
    (hpointer : cache.pointer = some (.manifest manifest)) {key : String}
    (hkey : Persistent cache key) : key ∈ manifest.keys := by
  obtain ⟨named, hnamed, hmem⟩ := h key hkey
  obtain rfl : manifest = named := by simpa [hpointer] using hnamed
  exact hmem

/-- An activation leaves nothing behind. -/
theorem activate (h : NothingLeftBehind cache) (candidate : DataPublicationManifest) :
    NothingLeftBehind (activateRevision candidate cache).1 := by
  rcases activateRevision_spec candidate cache with ⟨heq, -⟩ |
    ⟨-, -, -, -, displaced, hdisplaced, heq⟩
  · rw [heq]
    exact h
  · rw [heq]
    intro key hkey
    refine ⟨candidate, rfl, ?_⟩
    obtain ⟨hpersistent, hkept⟩ := persistent_retireKeys.mp hkey
    by_contra hother
    rcases persistent_persist.mp hpersistent with hold | ⟨hcandidate, -⟩
    · obtain ⟨current, hpointer, hmem⟩ := h key hold
      exact hkept (List.mem_filter.mpr ⟨hdisplaced current hpointer ▸ hmem, by simpa using hother⟩)
    · exact hother hcandidate

/-- Retirement leaves nothing behind. -/
theorem retire (h : NothingLeftBehind cache) : NothingLeftBehind (retireActiveRevision cache) := by
  unfold retireActiveRevision
  split
  next current hpointer =>
    intro key hkey
    obtain ⟨hpersistent, hkept⟩ := persistent_retireKeys.mp hkey
    exact absurd (h.mem_keys hpointer hpersistent) hkept
  · exact h

/-- A removed pointer leaves nothing behind when none of its items was persistent. -/
theorem remove_iff (h : NothingLeftBehind cache) {current : DataPublicationManifest}
    (hpointer : cache.pointer = some (.manifest current)) :
    NothingLeftBehind { cache with pointer := none } ↔
      ∀ key ∈ current.keys, ¬ Persistent cache key := by
  constructor
  · intro hafter key _ hkey
    obtain ⟨manifest, hnone, -⟩ := hafter key hkey
    exact nomatch hnone
  · intro hnone key hkey
    exact absurd hkey (hnone key (h.mem_keys hpointer hkey))

/-- A replacement leaves nothing behind when it keeps the persistent items. -/
theorem replace_iff (h : NothingLeftBehind cache) {current candidate : DataPublicationManifest}
    (hpointer : cache.pointer = some (.manifest current)) :
    NothingLeftBehind { cache.persist candidate.keys with
        pointer := some (.manifest candidate) } ↔
      ∀ key ∈ current.keys, Persistent cache key → key ∈ candidate.keys := by
  constructor
  · intro hafter key _ hkey
    exact hafter.mem_keys rfl (persistent_persist.mpr (.inl hkey))
  · intro hkept key hkey
    refine ⟨candidate, rfl, ?_⟩
    rcases persistent_persist.mp hkey with hold | ⟨hcandidate, -⟩
    · exact hkept key (h.mem_keys hpointer hold) hold
    · exact hcandidate

/-- Persisting present keys leaves nothing behind when the pointer names them. -/
theorem persist_iff (h : NothingLeftBehind cache) {current : DataPublicationManifest}
    (hpointer : cache.pointer = some (.manifest current)) {keys : List String}
    (hpresent : ∀ key ∈ keys, cache.items.find key ≠ none) :
    NothingLeftBehind (cache.persist keys) ↔ ∀ key ∈ keys, key ∈ current.keys := by
  constructor
  · intro hafter key hkey
    exact hafter.mem_keys hpointer (persistent_persist.mpr (.inr ⟨hkey, hpresent key hkey⟩))
  · intro hnamed key hkey
    refine ⟨current, hpointer, ?_⟩
    rcases persistent_persist.mp hkey with hold | ⟨hmem, -⟩
    · exact h.mem_keys hpointer hold
    · exact hnamed key hmem

/-- A swap leaves nothing behind exactly under the condition on swaps. -/
theorem swap_iff (h : NothingLeftBehind cache) (expected : ℕ)
    (replacement : Option DataPublicationManifest) :
    NothingLeftBehind (compareAndSwapActiveRevision expected replacement cache).1 ↔
      LeavesNothingBehind cache (.compareAndSwap expected replacement) := by
  by_cases hfound : ∃ current, cache.pointer = some (.manifest current) ∧
      current.publicationId = expected
  · obtain ⟨current, hpointer, hid⟩ := hfound
    -- the expected pointer is the only one the condition speaks about
    have honly : ∀ kept : DataPublicationManifest → Prop, kept current ↔
        ∀ found, cache.pointer = some (.manifest found) →
          found.publicationId = expected → kept found := by
      refine fun kept => ⟨fun hkept found hfound _ => ?_, fun hall => hall current hpointer hid⟩
      obtain rfl : current = found := by simpa [hpointer] using hfound
      exact hkept
    cases replacement with
    | none =>
      rw [swap_none hpointer hid, h.remove_iff hpointer]
      exact honly fun found => ∀ key ∈ found.keys, ¬ Persistent cache key
    | some candidate =>
      refine Iff.trans ?_ (honly fun found =>
        if ∀ key ∈ candidate.keys, cache.items.find key ≠ none then
          ∀ key ∈ found.keys, Persistent cache key → key ∈ candidate.keys
        else ∀ key ∈ stagedPrefix candidate cache, key ∈ found.keys)
      by_cases hpresent : ∀ key ∈ candidate.keys, cache.items.find key ≠ none
      · rw [swap_some hpointer hid hpresent, h.replace_iff hpointer, if_pos hpresent]
      · rw [swap_incomplete hpointer hid hpresent, if_neg hpresent]
        exact h.persist_iff hpointer fun key hkey => mem_stagedPrefix hkey
  · have hother : ∀ current, cache.pointer = some (.manifest current) →
        current.publicationId ≠ expected :=
      fun current hpointer hid => hfound ⟨current, hpointer, hid⟩
    rw [swap_of_not_expected replacement hother]
    refine iff_of_true h ?_
    cases replacement with
    | none => exact fun current hpointer hid => absurd hid (hother current hpointer)
    | some candidate => exact fun current hpointer hid => absurd hid (hother current hpointer)

/-- A step leaves nothing behind exactly when it is no swap that does. -/
theorem step_iff (cache : PublicationCache) (operation : CacheOperation)
    (h : NothingLeftBehind cache) :
    NothingLeftBehind (cacheStep cache operation) ↔ LeavesNothingBehind cache operation := by
  cases operation with
  | stage prepared =>
    refine iff_of_true ?_ trivial
    intro key hkey
    simp only [cacheStep, stageDataPublicationItems_fst] at hkey ⊢
    exact h key (persistent_setStagedItems.mp hkey)
  | activate candidate => exact iff_of_true (h.activate candidate) trivial
  | compareAndSwap expected replacement => exact h.swap_iff expected replacement
  | retire => exact iff_of_true h.retire trivial
  | expire other => exact iff_of_true (fun key hkey => h key (persistent_expire.mp hkey)) trivial

end NothingLeftBehind

/-- All along a run of the scripts the persistent items belong to the publication the pointer
names, exactly when no step is a swap that leaves an item behind. -/
theorem nothingLeftBehind_iff_everyStep (operations : List CacheOperation) :
    (∀ before, before <+: operations →
        NothingLeftBehind (runSteps cacheStep .initial before)) ↔
      EveryStep cacheStep LeavesNothingBehind .initial operations :=
  forall_prefix_iff_everyStep NothingLeftBehind.step_iff .initial operations .initial

/-- After the swap the item of the first context is persistent, and the pointer names the
second. -/
theorem swapped_context_left_behind :
    ¬ NothingLeftBehind (runSteps cacheStep .initial contextHistory) := by
  intro h
  have hkey : "llm:data:fpl:market:2526:1:context" ∈ (contextManifest (contextId 2) 2).keys :=
    h.mem_keys (by decide) (by decide)
  exact absurd hkey (by decide)

end LetletmeData
