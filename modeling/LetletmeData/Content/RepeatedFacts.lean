import Mathlib.Data.List.Dedup
import LetletmeData.Content.ReceiptHistory

/-!
# Facts that are seen again

An item is recognised by the hash of its payload, and the payload names the endpoint that reported
it. The same facts are no news when the same endpoint reports them again; another endpoint of the
same source revises the receipt, or conflicts with the first one in a common result.
-/

namespace LetletmeData

open LetletmeData.Library

/-- An item of a result with its endpoint. -/
abbrev ReportedItem := (String × SourceEndpoint) × AcquisitionItem

/-- The key of the receipt of a reported item. -/
def ReportedItem.key (entry : ReportedItem) : String :=
  receiptKey entry.1.2.sourceKey entry.2.contentKind entry.2.externalItemId

variable (texts : ContentTexts)

/-- Endpoints of one source report the same facts. -/
def SameReport (entry other : ReportedItem) : Prop :=
  entry.1.2.sourceId = other.1.2.sourceId ∧
    canonicalFacts texts entry.2.toItemFacts = canonicalFacts texts other.2.toItemFacts

/-- A revision is the current one of the receipt under a key. -/
def ReceiptTables.IsCurrent (tables : ReceiptTables) (key receiptId : String)
    (current : ReceiptRevision) : Prop :=
  ∃ receipt currentId, tables.receipts.find receiptId = some receipt ∧ receipt.receiptKey = key ∧
    receipt.currentRevisionId = some currentId ∧ tables.revisions.find currentId = some current

/-- The hash of a revision is the one of its payload. -/
def ReceiptTables.Hashed (tables : ReceiptTables) : Prop :=
  ∀ id revision, tables.revisions.find id = some revision →
    revision.canonicalHash = revision.payload.hash texts

namespace PersistWorld

variable (hashtext : String → ℤ)

/-- The same facts are no news. An item with the facts of the current revision of its receipt does
not revise it, and items of one receipt that agree are merged, with the endpoints of all of them. -/
def NotNews (world : PersistWorld) (action : PersistAction) : Prop :=
  match action with
  | .commit id =>
    ∀ work endpoints items read, world.calls id = .writing work endpoints items read →
      ∀ item ∈ items, ∀ receiptId current,
        world.receipts.IsCurrent item.receiptKey receiptId current →
        current.payload.facts = (item.payload texts).facts →
        (world.step texts hashtext action).receipts.numbersOf receiptId =
          world.receipts.numbersOf receiptId
  | .gather id =>
    ∀ work, world.calls id = .gathering work → ∀ entries,
      batchItems (requestedEndpoints work.call.input world.formal) work.call.input.batches =
        .ok entries →
      ∀ key, (∀ entry ∈ entries, ∀ other ∈ entries, ReportedItem.key entry = key →
          ReportedItem.key other = key → SameReport texts entry other) →
        mergeItems texts work.run work.request entries ≠
          .error ("Conflicting cross-endpoint facts for receipt " ++ key) ∧
        ∀ works, mergeItems texts work.run work.request entries = .ok works →
          ∀ entry ∈ entries, ReportedItem.key entry = key →
            ∃ item ∈ works, item.receiptKey = key ∧
              entry.1.2.endpointId ∈ item.observationEndpoints
  | _ => True

/-- Facts are only seen again by the endpoint that reported them first: an item with the facts of
the current revision comes from the endpoint of that revision, and items of one result that agree
come from one endpoint. -/
def SameEndpoint (world : PersistWorld) (action : PersistAction) : Prop :=
  match action with
  | .commit id =>
    ∀ work endpoints items read, world.calls id = .writing work endpoints items read →
      ∀ item ∈ items, ∀ receiptId current,
        world.receipts.IsCurrent item.receiptKey receiptId current →
        current.payload.facts = (item.payload texts).facts →
        current.payload.endpointKey = item.item.endpointKey
  | .gather id =>
    ∀ work, world.calls id = .gathering work → ∀ entries,
      batchItems (requestedEndpoints work.call.input world.formal) work.call.input.batches =
        .ok entries →
      ∀ entry ∈ entries, ∀ other ∈ entries, ReportedItem.key entry = ReportedItem.key other →
        SameReport texts entry other → entry.2.endpointKey = other.2.endpointKey
  | _ => True

end PersistWorld

variable {texts} {tables written : ReceiptTables} {call : PersistCall} {read : ReceiptsRead}

/-! ### Items of one result -/

/-- The canonical form keeps the kind. -/
theorem contentKind_canonicalFacts (item : ItemFacts) :
    (canonicalFacts texts item).contentKind = item.contentKind := by
  simp only [canonicalFacts]

/-- Same facts from the same endpoint have the same payload. -/
theorem payload_eq_of_sameEndpoint {item other : AcquisitionItem}
    (hfacts : canonicalFacts texts item.toItemFacts = canonicalFacts texts other.toItemFacts)
    (hendpoint : item.endpointKey = other.endpointKey) :
    canonicalAcquisitionItem texts item = canonicalAcquisitionItem texts other := by
  unfold canonicalAcquisitionItem
  rw [hfacts, hendpoint]

/-- The work that an item finds under its key. -/
theorem receiptKey_of_find {works : List CanonicalWorkItem} {key : String}
    {prior : CanonicalWorkItem} (h : works.find? (fun work => work.receiptKey = key) = some prior) :
    prior.receiptKey = key := by
  simpa using List.find?_some h

/-- The work collected from the items so far: every receipt was opened by one of them, and each of
them is observed in its receipt. -/
structure Collected (works : List CanonicalWorkItem) (entries : List ReportedItem) : Prop where
  opened : ∀ work ∈ works, ∃ entry ∈ entries, work.receiptKey = ReportedItem.key entry ∧
    work.item = entry.2 ∧ work.sourceId = entry.1.2.sourceId
  observed : ∀ entry ∈ entries, ∃ work ∈ works, work.receiptKey = ReportedItem.key entry ∧
    entry.1.2.endpointId ∈ work.observationEndpoints

/-- An item that is not refused is collected. -/
theorem Collected.addItem {run : FormalRun} {request : FormalRunRequest}
    {works next : List CanonicalWorkItem} {entries : List ReportedItem} {entry : ReportedItem}
    (h : Collected works entries) (hadd : addItem texts run request works entry = .ok next) :
    Collected next (entries ++ [entry]) := by
  unfold LetletmeData.addItem at hadd
  dsimp only at hadd
  split at hadd
  next prior hprior =>
    simp only [throwIf_bind_eq_ok] at hadd
    obtain rfl := Except.ok.inj hadd.2
    refine ⟨fun work hwork => ?_, fun other hother => ?_⟩
    · obtain ⟨old, hold, rfl⟩ := List.mem_map.mp hwork
      obtain ⟨first, hfirst, hkey, hitem, hsource⟩ := h.opened old hold
      refine ⟨first, List.mem_append_left _ hfirst, ?_⟩
      split
      next => exact ⟨hkey, hitem, hsource⟩
      next => exact ⟨hkey, hitem, hsource⟩
    · rcases List.mem_append.mp hother with hold | hnew
      · obtain ⟨work, hwork, hkey, hobserved⟩ := h.observed other hold
        refine ⟨_, List.mem_map_of_mem hwork, ?_⟩
        split
        next => exact ⟨hkey, by simp [hobserved]⟩
        next => exact ⟨hkey, hobserved⟩
      · obtain rfl := List.mem_singleton.mp hnew
        have hmem := List.mem_of_find?_eq_some hprior
        have hkey : prior.receiptKey = ReportedItem.key other := receiptKey_of_find hprior
        refine ⟨_, List.mem_map_of_mem hmem, ?_⟩
        split
        next => exact ⟨hkey, by simp⟩
        next hne => exact absurd hkey hne
  next =>
    obtain rfl := Except.ok.inj hadd
    refine ⟨fun work hwork => ?_, fun other hother => ?_⟩
    · rcases List.mem_append.mp hwork with hold | hnew
      · obtain ⟨first, hfirst, hopened⟩ := h.opened work hold
        exact ⟨first, List.mem_append_left _ hfirst, hopened⟩
      · obtain rfl := List.mem_singleton.mp hnew
        exact ⟨entry, by simp, rfl, rfl, rfl⟩
    · rcases List.mem_append.mp hother with hold | hnew
      · obtain ⟨work, hwork, hobserved⟩ := h.observed other hold
        exact ⟨work, List.mem_append_left _ hwork, hobserved⟩
      · obtain rfl := List.mem_singleton.mp hnew
        exact ⟨_, List.mem_append_right _ (List.mem_singleton.mpr rfl), rfl, by simp⟩

/-- An item is refused for a receipt that another item opened with another hash, another source or
another kind. -/
theorem addItem_eq_error {run : FormalRun} {request : FormalRunRequest}
    {works : List CanonicalWorkItem} {entries : List ReportedItem} {entry : ReportedItem}
    {key : String} (h : Collected works entries)
    (hadd : addItem texts run request works entry =
      .error ("Conflicting cross-endpoint facts for receipt " ++ key)) :
    ReportedItem.key entry = key ∧ ∃ other ∈ entries, ReportedItem.key other = key ∧
      (canonicalAcquisitionItem texts other.2 ≠ canonicalAcquisitionItem texts entry.2 ∨
        other.1.2.sourceId ≠ entry.1.2.sourceId ∨ other.2.contentKind ≠ entry.2.contentKind) := by
  unfold LetletmeData.addItem at hadd
  dsimp only at hadd
  split at hadd
  next prior hprior =>
    unfold throwIf at hadd
    split at hadd
    next hconflict =>
      have hmessage := Except.error.inj hadd
      have hkey : ReportedItem.key entry = key := String.append_right_inj _ |>.mp hmessage
      obtain ⟨other, hother, hotherKey, hitem, hsource⟩ :=
        h.opened prior (List.mem_of_find?_eq_some hprior)
      have hpriorKey : prior.receiptKey = ReportedItem.key entry := receiptKey_of_find hprior
      refine ⟨hkey, other, hother, by rw [← hotherKey, hpriorKey, hkey], ?_⟩
      rw [← hitem, ← hsource]
      rcases hconflict with hhash | hconflict
      · exact Or.inl fun hequal => hhash (congrArg (·.hash texts) hequal)
      · exact Or.inr hconflict
    next => exact absurd hadd (by simp [bind, Except.bind, pure, Except.pure])
  next => exact absurd hadd (by simp)

/-- Items of one receipt that agree and come from one endpoint are merged. -/
theorem mergeItems_of_agreeing (run : FormalRun) (request : FormalRunRequest)
    {entries : List ReportedItem} {key : String}
    (hagree : ∀ entry ∈ entries, ∀ other ∈ entries, ReportedItem.key entry = key →
      ReportedItem.key other = key → SameReport texts entry other)
    (hendpoint : ∀ entry ∈ entries, ∀ other ∈ entries,
      ReportedItem.key entry = ReportedItem.key other → SameReport texts entry other →
      entry.2.endpointKey = other.2.endpointKey) :
    mergeItems texts run request entries ≠
        .error ("Conflicting cross-endpoint facts for receipt " ++ key) ∧
      ∀ works, mergeItems texts run request entries = .ok works → Collected works entries := by
  -- the entries are taken from left to right, `taken` are the ones already collected
  have hfold : ∀ (rest taken : List ReportedItem) (works : List CanonicalWorkItem),
      entries = taken ++ rest → Collected works taken →
      rest.foldlM (addItem texts run request) works ≠
          .error ("Conflicting cross-endpoint facts for receipt " ++ key) ∧
        ∀ last, rest.foldlM (addItem texts run request) works = .ok last →
          Collected last entries := by
    intro rest
    induction rest with
    | nil =>
      intro taken works hentries hworks
      refine ⟨by simp [pure, Except.pure], fun last hlast => ?_⟩
      obtain rfl := Except.ok.inj hlast
      rw [hentries, List.append_nil]
      exact hworks
    | cons entry rest ih =>
      intro taken works hentries hworks
      rw [List.foldlM_cons]
      cases hadd : LetletmeData.addItem texts run request works entry with
      | error error =>
        refine ⟨fun herror => ?_, fun last (hlast : Except.error error = Except.ok last) =>
          absurd hlast (by simp)⟩
        have hmessage : error = _ := Except.error.inj herror
        rw [hmessage] at hadd
        obtain ⟨hkey, other, hother, hotherKey, hconflict⟩ := addItem_eq_error hworks hadd
        have hmem : entry ∈ entries := by simp [hentries]
        have hotherMem : other ∈ entries := by simp [hentries, hother]
        have hsame := hagree other hotherMem entry hmem hotherKey hkey
        have hkeys := hendpoint other hotherMem entry hmem (hotherKey.trans hkey.symm) hsame
        rcases hconflict with hpayload | hsource | hkind
        · exact hpayload (payload_eq_of_sameEndpoint hsame.2 hkeys)
        · exact hsource hsame.1
        · have hkinds := congrArg ItemFacts.contentKind hsame.2
          rw [contentKind_canonicalFacts, contentKind_canonicalFacts] at hkinds
          exact hkind hkinds
      | ok next =>
        exact ih (taken ++ [entry]) next (by simp [hentries]) (hworks.addItem hadd)
  exact hfold entries [] [] rfl
    ⟨fun work hwork => absurd hwork List.not_mem_nil, fun entry hentry =>
      absurd hentry List.not_mem_nil⟩

/-! ### Items of the current revision -/

/-- A pass keeps hashes the ones of their payloads. -/
theorem PassWritten.hashed {work : CanonicalWorkItem}
    (h : PassWritten texts call read work tables written) (hhashed : tables.Hashed texts)
    (hread : ReadSound read tables) : written.Hashed texts := by
  have hrevised : ∀ {ids isNew number},
      RevisionWritten tables written ids (newRevision texts call work ids.receiptId number) isNew →
      written.Hashed texts := by
    intro ids isNew number hwritten id revision hfind
    rcases hwritten.find_revision.mp hfind with hold | ⟨_, rfl⟩
    · exact hhashed id revision hold
    · rfl
  cases h with
  | opened ids _ hwrite =>
    exact hrevised (revisionWritten_of_ok (fun hfalse => absurd hfalse (by decide)) hwrite)
  | revised receiptId currentId existing current hexisting _ _ _ hwrite =>
    obtain ⟨hmem, _⟩ := ReceiptsRead.mem_of_existingByKey hexisting
    obtain ⟨⟨now, hnow, _⟩, _⟩ := hread.existing _ hmem
    exact hrevised (revisionWritten_of_ok (fun _ => ⟨now, hnow⟩) hwrite)
  | unchanged h =>
    rcases h with rfl | ⟨receiptId, rfl⟩
    · exact hhashed
    · exact hhashed

/-- The receipt still has the revision as its current one, and no others than it had. -/
structure Unrevised (tables later : ReceiptTables) (key receiptId : String)
    (current : ReceiptRevision) : Prop where
  isCurrent : later.IsCurrent key receiptId current
  numbers : later.numbersOf receiptId = tables.numbersOf receiptId

/-- A revision of another receipt leaves a receipt unrevised. -/
theorem RevisionWritten.unrevised {ids : ReceiptIds} {revision current : ReceiptRevision}
    {isNew : Bool} {key receiptId : String}
    (h : RevisionWritten tables written ids revision isNew) (hne : ids.receiptId ≠ receiptId)
    (hcurrent : tables.IsCurrent key receiptId current) :
    Unrevised tables written key receiptId current := by
  obtain ⟨receipt, currentId, hfind, hkey, hid, hrevision⟩ := hcurrent
  refine ⟨⟨receipt, currentId, (h.others _ (Ne.symm hne)).trans hfind, hkey, hid,
    h.find_revision.mpr (Or.inl hrevision)⟩, ?_⟩
  rw [h.numbersOf, if_neg hne, List.append_nil]

/-- A pass for an item with the facts and the endpoint of the current revision, or for an item of
another receipt, leaves the receipt unrevised. -/
theorem PassWritten.unrevised {work : CanonicalWorkItem} {key receiptId : String}
    {current : ReceiptRevision} (h : PassWritten texts call read work tables written)
    (htruthful : tables.Truthful) (hhashed : tables.Hashed texts) (hread : ReadSound read tables)
    (hcurrent : tables.IsCurrent key receiptId current)
    (hsame : work.receiptKey = key → current.payload = work.payload texts) :
    Unrevised tables written key receiptId current := by
  obtain ⟨receipt, currentId, hfind, hkey, hid, hrevision⟩ := id hcurrent
  cases h with
  | opened ids hnone hwrite =>
    have hwritten := revisionWritten_of_ok (fun hfalse => absurd hfalse (by decide)) hwrite
    obtain ⟨_, _, _, _, hisNew, _⟩ := hwritten.receipt
    have hne : ids.receiptId ≠ receiptId := by
      rintro rfl
      exact absurd ((hisNew rfl).1.symm.trans hfind) (Option.some_ne_none _).symm
    exact hwritten.unrevised hne hcurrent
  | revised otherId readId existing compared hexisting hreadId hlookup hdiffers hwrite =>
    obtain ⟨hmem, hreadKey⟩ := ReceiptsRead.mem_of_existingByKey hexisting
    obtain ⟨⟨now, hnow, hnowKey⟩, hsound⟩ := hread.existing _ hmem
    have hwritten := revisionWritten_of_ok (fun _ => ⟨now, hnow⟩) hwrite
    by_cases hother : otherId = receiptId
    · -- the compared revision is the last one, so it is the current one, and nothing differs
      subst hother
      obtain rfl := Option.some.inj (hnow.symm.trans hfind)
      have hworkKey : work.receiptKey = key := by rw [← hreadKey, ← hkey, hnowKey]
      have hcompared := hread.revisions _ (mem_of_lookup hlookup)
      obtain ⟨same, hsameFind, hof⟩ := hsound readId hreadId
      obtain rfl := Option.some.inj (hsameFind.symm.trans hcompared)
      have hfree := hwritten.numberFree
      have hlast := htruthful.numbers_of_next_free hcompared (by rw [hof]; exact hfree)
      obtain ⟨lastId, last, hlastId, hlastFind, hlastOf, _, hperm⟩ := htruthful.current hfind
      obtain rfl := Option.some.inj (hid.symm.trans hlastId)
      obtain rfl := Option.some.inj (hrevision.symm.trans hlastFind)
      rw [hof] at hlast
      have hlength := hlast.length_eq.symm.trans hperm.length_eq
      rw [List.length_range', List.length_range'] at hlength
      have hequal := htruthful.eq_of_number hcompared hlastFind (hof.trans hlastOf.symm) hlength
      refine absurd ?_ hdiffers
      rw [hhashed _ _ hcompared, hequal, hsame hworkKey]
      rfl
    · exact hwritten.unrevised hother hcurrent
  | unchanged h =>
    rcases h with rfl | ⟨otherId, rfl⟩
    · exact ⟨hcurrent, rfl⟩
    · refine ⟨?_, rfl⟩
      by_cases hother : receiptId = otherId
      · subst hother
        exact ⟨_, currentId, ReceiptTables.find_updateReceipt_self hfind, hkey, hid, hrevision⟩
      · exact ⟨receipt, currentId, (ReceiptTables.find_updateReceipt_of_ne hother).trans hfind, hkey,
          hid, hrevision⟩

/-- What a call persists keeps hashes, and leaves a receipt unrevised whose items all have the
payload of its current revision. -/
theorem unrevised_of_persistReceipts {items : List CanonicalWorkItem}
    {endpoints : List (String × SourceEndpoint)} {loop : RevisionLoop}
    (htruthful : tables.Truthful) (hhashed : tables.Hashed texts) (hread : ReadSound read tables)
    (h : persistReceipts texts call endpoints items read tables = .ok loop) :
    loop.tables.Hashed texts ∧ ∀ key receiptId current, tables.IsCurrent key receiptId current →
      (∀ item ∈ items, item.receiptKey = key → current.payload = item.payload texts) →
      loop.tables.numbersOf receiptId = tables.numbersOf receiptId := by
  have hloop : ∀ (items : List CanonicalWorkItem) (first last : RevisionLoop),
      items.foldlM (reviseReceipt texts call read) first = .ok last → first.tables.Truthful →
      first.tables.Hashed texts → ReadSound read first.tables →
      last.tables.Hashed texts ∧ ∀ key receiptId current,
        first.tables.IsCurrent key receiptId current →
        (∀ item ∈ items, item.receiptKey = key → current.payload = item.payload texts) →
        last.tables.numbersOf receiptId = first.tables.numbersOf receiptId := by
    intro items
    induction items with
    | nil =>
      intro first last hfold _ hhashed _
      obtain rfl := Except.ok.inj hfold
      exact ⟨hhashed, fun _ _ _ _ _ => rfl⟩
    | cons work rest ih =>
      intro first last hfold htruthful hhashed hsound
      rw [List.foldlM_cons] at hfold
      obtain ⟨next, hpass, hrest⟩ := bind_eq_ok.mp hfold
      have hwritten := passWritten_of_ok hpass
      obtain ⟨hnext, hgrown⟩ := hwritten.truthful htruthful hsound
      obtain ⟨hlast, hothers⟩ := ih next last hrest hnext (hwritten.hashed hhashed hsound)
        (hsound.grown hgrown)
      refine ⟨hlast, fun key receiptId current hcurrent hsame => ?_⟩
      have hkept := hwritten.unrevised htruthful hhashed hsound hcurrent
        (hsame work List.mem_cons_self)
      rw [hothers key receiptId current hkept.isCurrent fun item hitem =>
        hsame item (List.mem_cons_of_mem _ hitem), hkept.numbers]
  obtain ⟨revised, hrevised, h⟩ := bind_eq_ok.mp h
  obtain ⟨_, _, h⟩ := bind_eq_ok.mp h
  obtain ⟨stored, hstored, hlast⟩ := bind_eq_ok.mp h
  obtain rfl := Except.ok.inj hlast
  obtain ⟨observations, rfl⟩ := ReceiptTables.insertObservations_eq_ok hstored
  exact hloop items _ revised hrevised htruthful hhashed hread

/-! ### Runs -/

namespace PersistWorld

variable {hashtext : String → ℤ} {world : PersistWorld}

/-- The receipts after a step are the ones before, or what a call in its last phase persists. -/
theorem receipts_step (texts : ContentTexts) (hashtext : String → ℤ) (world : PersistWorld)
    (action : PersistAction) :
    (world.step texts hashtext action).receipts = world.receipts ∨
      ∃ id work endpoints items read revised, action = .commit id ∧
        world.calls id = .writing work endpoints items read ∧
        persistReceipts texts work.call endpoints items read world.receipts = .ok revised ∧
        (world.step texts hashtext action).receipts = revised.tables := by
  have hattempt : ∀ {Value : Type} {locked : PersistWorld} {id : ℕ} (result : Except String Value)
      (next : Value → PersistWorld), locked.receipts = world.receipts →
      (∀ value, (next value).receipts = world.receipts) →
      (locked.attempt id result next).receipts = world.receipts := by
    intro Value locked id result next hlocked hnext
    cases result with
    | ok value => exact hnext value
    | error error => exact hlocked
  cases action with
  | commit id =>
    simp only [PersistWorld.step]
    split
    next work endpoints items read hphase =>
      unfold attempt
      split
      next written hwritten =>
        obtain ⟨revised, hrevised, hwritten⟩ := bind_eq_ok.mp hwritten
        obtain ⟨closed, _, hwritten⟩ := bind_eq_ok.mp hwritten
        obtain rfl := Except.ok.inj hwritten
        exact Or.inr ⟨id, work, endpoints, items, read, revised, rfl, hphase, hrevised, rfl⟩
      next => exact Or.inl rfl
    next => exact Or.inl rfl
  | start id call =>
    refine Or.inl ?_
    simp only [PersistWorld.step]
    split
    next =>
      split
      next => exact hattempt _ _ rfl fun _ => rfl
      next => rfl
    next => rfl
  | readTarget id =>
    refine Or.inl ?_
    simp only [PersistWorld.step]
    split
    next => exact hattempt _ _ rfl fun _ => rfl
    next => rfl
  | gather id =>
    refine Or.inl ?_
    simp only [PersistWorld.step]
    split
    next => exact hattempt _ _ rfl fun _ => rfl
    next => rfl
  | lockTarget id =>
    refine Or.inl ?_
    simp only [PersistWorld.step]
    split
    next => split <;> rfl
    next => rfl
  | lockKey id =>
    refine Or.inl ?_
    simp only [PersistWorld.step]
    split
    next => split <;> rfl
    next => rfl
  | readReceipts id =>
    refine Or.inl ?_
    simp only [PersistWorld.step]
    split <;> rfl
  | readRevisions id =>
    refine Or.inl ?_
    simp only [PersistWorld.step]
    split <;> rfl
  | fail id error =>
    refine Or.inl ?_
    simp only [PersistWorld.step]
    split <;> rfl
  | elsewhere formal => exact Or.inl rfl

/-- The histories are true and their hashes are the ones of their payloads. -/
structure HashedSound (texts : ContentTexts) (world : PersistWorld) : Prop where
  sound : world.Sound
  hashed : world.receipts.Hashed texts

/-- Every step keeps the histories and their hashes. -/
theorem HashedSound.step (h : HashedSound texts world) (action : PersistAction) :
    HashedSound texts (world.step texts hashtext action) := by
  refine ⟨h.sound.step action, ?_⟩
  rcases receipts_step texts hashtext world action with
    hsame | ⟨id, work, endpoints, items, read, revised, _, hphase, hrevised, hreceipts⟩
  · rw [hsame]
    exact h.hashed
  · have hsound := h.sound.calls id
    rw [hphase] at hsound
    rw [hreceipts]
    exact (unrevised_of_persistReceipts h.sound.truthful h.hashed hsound.2 hrevised).1

/-- A step at which facts are only seen again by their endpoint brings no news about them. -/
theorem HashedSound.notNews (h : HashedSound texts world) {action : PersistAction}
    (hsame : SameEndpoint texts world action) : NotNews texts hashtext world action := by
  cases action with
  | commit id =>
    intro work endpoints items read hphase item hitem receiptId current hcurrent hfacts
    rcases receipts_step texts hashtext world (.commit id) with
      hunchanged | ⟨other, otherWork, otherEndpoints, otherItems, otherRead, revised, hid, hother,
        hrevised, hreceipts⟩
    · rw [hunchanged]
    · obtain rfl := PersistAction.commit.inj hid
      cases hphase.symm.trans hother
      have hsound := h.sound.calls id
      rw [hphase] at hsound
      rw [hreceipts]
      have hkept := (unrevised_of_persistReceipts h.sound.truthful h.hashed hsound.2 hrevised).2
      refine hkept item.receiptKey receiptId current hcurrent fun same hmem hkey => ?_
      -- no other item belongs to the receipt
      obtain rfl := List.inj_on_of_nodup_map hsound.1 hmem hitem hkey
      have hendpoint := hsame work endpoints items read hphase same hitem receiptId current
        hcurrent hfacts
      have hpayload : ∀ first second : CanonicalPayload, first.facts = second.facts →
          first.endpointKey = second.endpointKey → first = second := by
        intro first second hfirst hsecond
        cases first
        cases second
        simp_all
      exact hpayload _ _ hfacts hendpoint
  | gather id =>
    intro work hphase entries hentries key hagree
    have hmerge := mergeItems_of_agreeing work.run work.request hagree
      (hsame work hphase entries hentries)
    refine ⟨hmerge.1, fun works hworks entry hentry hkey => ?_⟩
    obtain ⟨item, hitem, hitemKey, hobserved⟩ := (hmerge.2 works hworks).observed entry hentry
    exact ⟨item, hitem, hitemKey.trans hkey, hobserved⟩
  | _ => trivial

/-- One result in which two endpoints report the post with the same facts. -/
def sharedCall : PersistCall :=
  exampleCall "first" [reportedBatch "alpha" "Out", reportedBatch "beta" "Out"]

/-- The items of that result. -/
def sharedItems : List ReportedItem :=
  [(("alpha", exampleEndpointRow "alpha"), reportedPost "alpha" "Out"),
    (("beta", exampleEndpointRow "beta"), reportedPost "beta" "Out")]

/-- They are refused as conflicting. -/
theorem mergeItems_sharedItems :
    mergeItems plainTexts exampleRun exampleScan sharedItems =
      .error ("Conflicting cross-endpoint facts for receipt " ++ "x:100") := by
  have hrefused : (match mergeItems plainTexts exampleRun exampleScan sharedItems with
      | .error error => decide (error =
          "Conflicting cross-endpoint facts for receipt " ++ "x:100")
      | .ok _ => false) = true := by decide +kernel
  cases hmerge : mergeItems plainTexts exampleRun exampleScan sharedItems with
  | error error =>
    rw [hmerge] at hrefused
    rw [of_decide_eq_true hrefused]
  | ok works =>
    rw [hmerge] at hrefused
    exact absurd hrefused Bool.false_ne_true

end PersistWorld

end LetletmeData
