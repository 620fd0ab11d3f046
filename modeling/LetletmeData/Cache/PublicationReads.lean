import LetletmeData.Cache.PointerContents

/-!
# Reads of the active publication

A reader fetches the pointer, and then the items that it names. Between the two commands other
clients may replace or retire the publication, which gives its items a lifetime but leaves them
there. So a reader returns the whole publication that was active when it began, unless an item
runs out before the second command.
-/

namespace LetletmeData

open LetletmeData.Library

/-- `readActiveDataPublication` of a valid scope, with the caches that its two commands find; the
items are given by their names and texts. -/
def readActiveDataPublication (host : HostFunctions) (scope : DataPublicationScope)
    (atPointer atItems : PublicationCache) :
    Option (DataPublicationManifest × List (String × String)) :=
  (readPointer host scope atPointer).bind fun manifest =>
    (readItems host manifest atItems).map fun active =>
      (active, active.items.map fun item =>
        (item.name, ((atItems.items.find item.key).map (·.payload)).getD ""))

/-- Every key stands for one content, which is what is staged under it and what passes the checks
on every item of that key. -/
structure StandsFor (host : HostFunctions) (operations : List CacheOperation)
    (content : String → String) : Prop where
  staged : ∀ prepared, .stage prepared ∈ operations → ∀ item ∈ prepared.items,
    item.payload = content item.manifest.key
  readable : ∀ operation ∈ operations, ∀ candidate ∈ operation.candidate,
    ∀ item ∈ candidate.items, ReadablePayload host item (some ⟨content item.key, none⟩)

section Reads

variable {host : HostFunctions} {content : String → String} {cache : PublicationCache}

/-- Only the end of its lifetime removes a key. -/
theorem find_cacheStep_ne_none {key : String} {operation : CacheOperation}
    (h : cache.items.find key ≠ none) (hkept : operation ≠ .expire key) :
    (cacheStep cache operation).items.find key ≠ none := by
  have hpersist : ∀ keys, (cache.persist keys).items.find key ≠ none := fun keys => by
    rwa [find_persist, Ne, Option.map_eq_none_iff]
  have hretire : ∀ (later : PublicationCache) keys, later.items.find key ≠ none →
      (later.retireKeys keys).items.find key ≠ none := fun later keys hlater => by
    rwa [find_retireKeys, Ne, Option.map_eq_none_iff]
  cases operation with
  | stage prepared =>
    rw [cacheStep, stageDataPublicationItems_fst, find_setStagedItems, Ne, Option.or_eq_none_iff]
    exact fun hnone => h hnone.1
  | activate candidate =>
    rw [cacheStep]
    obtain ⟨heq, -⟩ | ⟨-, -, -, -, displaced, -, heq⟩ := activateRevision_spec candidate cache
    · rwa [heq]
    · rw [heq]
      exact hretire _ _ (hpersist candidate.keys)
  | compareAndSwap expected replacement =>
    rw [cacheStep]
    by_cases hfound : ∃ current, cache.pointer = some (.manifest current) ∧
        current.publicationId = expected
    · obtain ⟨current, hpointer, hid⟩ := hfound
      cases replacement with
      | none =>
        rw [swap_none hpointer hid]
        exact h
      | some candidate =>
        by_cases hpresent : ∀ key ∈ candidate.keys, cache.items.find key ≠ none
        · rw [swap_some hpointer hid hpresent]
          exact hpersist candidate.keys
        · rw [swap_incomplete hpointer hid hpresent]
          exact hpersist _
    · rw [swap_of_not_expected replacement fun current hpointer hid =>
        hfound ⟨current, hpointer, hid⟩]
      exact h
  | retire =>
    rw [cacheStep, retireActiveRevision]
    split
    · exact hretire cache _ h
    · exact h
  | expire other =>
    rw [cacheStep, PublicationCache.expire, KeyedTable.find_deleteWhere_of_not]
    · exact h
    · rintro cached - ⟨rfl, -⟩
      exact hkept rfl

/-- What a run keeps: keys hold their content, the pointer leads to persistent items, and its
manifest was a candidate. -/
theorem kept_runSteps {operations : List CacheOperation}
    (h : StandsFor host operations content) {first : List CacheOperation}
    (hfirst : first <+: operations) :
    (runSteps cacheStep .initial first).Kept (fun key payload => payload = content key) ∧
      ∀ manifest, (runSteps cacheStep .initial first).pointer = some (.manifest manifest) →
        ∀ item ∈ manifest.items, ReadablePayload host item (some ⟨content item.key, none⟩) := by
  have hcontent : ∀ cache operation,
      cache.Kept (fun key payload => payload = content key) → operation ∈ operations →
        (cacheStep cache operation).Kept fun key payload => payload = content key := by
    intro cache operation hkept hoperation
    refine hkept.step ?_
    rintro prepared rfl
    exact h.staged prepared hoperation
  have hcandidate : ∀ (cache : PublicationCache) operation,
      (∀ manifest, cache.pointer = some (.manifest manifest) → ∀ item ∈ manifest.items,
        ReadablePayload host item (some ⟨content item.key, none⟩)) → operation ∈ operations →
      ∀ manifest, (cacheStep cache operation).pointer = some (.manifest manifest) →
        ∀ item ∈ manifest.items, ReadablePayload host item (some ⟨content item.key, none⟩) :=
    fun cache operation hknown hoperation => pointer_kind_cacheStep hknown fun candidate hmem =>
      h.readable operation hoperation candidate hmem
  exact ⟨runSteps_invariant_of_allowed hcontent .initial first .initial fun _ => hfirst.mem,
    runSteps_invariant_of_allowed hcandidate .initial first nofun fun _ => hfirst.mem⟩

end Reads

end LetletmeData
