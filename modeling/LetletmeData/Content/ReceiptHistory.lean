import LetletmeData.Content.PersistWorld

/-!
# The history of receipts

The revisions of a receipt are numbered without gaps, the current one is the last, consecutive ones
differ, and each is announced once. The number of a new revision comes from a revision that was
read earlier; when another call has been faster, that number is taken and the insertion is refused.
-/

namespace LetletmeData

open LetletmeData.Library

/-- The numbers of the revisions of a receipt. -/
def ReceiptTables.numbersOf (tables : ReceiptTables) (receiptId : String) : List ℕ :=
  (tables.revisions.selectWhere fun _ revision => revision.receiptId = receiptId).map
    fun entry => entry.2.revisionNumber

/-- The events that announce a revision. -/
def ReceiptTables.eventsOf (tables : ReceiptTables) (receiptRevisionId : String) :
    List (String × PipelineEvent) :=
  tables.outbox.selectWhere fun _ event => event.receiptRevisionId = receiptRevisionId

/-- The history of every receipt is complete and true. -/
structure ReceiptTables.Truthful (tables : ReceiptTables) : Prop where
  keyed : ∀ {id other receipt otherReceipt}, tables.receipts.find id = some receipt →
    tables.receipts.find other = some otherReceipt →
    receipt.receiptKey = otherReceipt.receiptKey → id = other
  current : ∀ {receiptId receipt}, tables.receipts.find receiptId = some receipt →
    ∃ revisionId revision, receipt.currentRevisionId = some revisionId ∧
      tables.revisions.find revisionId = some revision ∧ revision.receiptId = receiptId ∧
      revision.canonicalHash = receipt.canonicalHash ∧
      (tables.numbersOf receiptId).Perm (List.range' 1 revision.revisionNumber)
  changed : ∀ {first second earlier later}, tables.revisions.find first = some earlier →
    tables.revisions.find second = some later → earlier.receiptId = later.receiptId →
    later.revisionNumber = earlier.revisionNumber + 1 →
    earlier.canonicalHash ≠ later.canonicalHash
  owned : ∀ {revisionId revision}, tables.revisions.find revisionId = some revision →
    ∃ receipt, tables.receipts.find revision.receiptId = some receipt
  announced : ∀ {revisionId revision}, tables.revisions.find revisionId = some revision →
    (tables.eventsOf revisionId).length = 1
  announces : ∀ {eventKey event}, tables.outbox.find eventKey = some event →
    ∃ revision, tables.revisions.find event.receiptRevisionId = some revision ∧
      revision.receiptId = event.receiptId

/-- Without rows there is nothing to be wrong about. -/
theorem ReceiptTables.truthful_initial : ReceiptTables.initial.Truthful where
  keyed := fun h => absurd h (Option.some_ne_none _).symm
  current := fun h => absurd h (Option.some_ne_none _).symm
  changed := fun h => absurd h (Option.some_ne_none _).symm
  owned := fun h => absurd h (Option.some_ne_none _).symm
  announced := fun h => absurd h (Option.some_ne_none _).symm
  announces := fun h => absurd h (Option.some_ne_none _).symm

variable {tables written later : ReceiptTables}

/-! ### What a revision writes -/

/-- An accepted insertion appends its row. -/
theorem insertUnique_eq_ok {Key Row : Type} [DecidableEq Key] {table result : KeyedTable Key Row}
    {key : Key} {row : Row} {constraint : String}
    (h : insertUnique table key row constraint = .ok result) :
    table.find key = none ∧ result = table.insertAbsent key row := by
  simp only [insertUnique, throwIf_bind_eq_ok, Bool.not_eq_true, Option.isSome_eq_false_iff,
    Option.isNone_iff_eq_none] at h
  exact ⟨h.1, (Except.ok.inj h.2).symm⟩

/-- A row under a new key stands behind the others. -/
theorem entries_insertAbsent {Key Row : Type} [DecidableEq Key] {table : KeyedTable Key Row}
    {key : Key} {row : Row} (h : table.find key = none) :
    (table.insertAbsent key row).entries = table.entries ++ [(key, row)] := by
  unfold KeyedTable.insertAbsent
  rw [dif_neg (KeyedTable.find_eq_none_iff.mp h)]

/-- What a new revision of a receipt leaves in the tables. -/
structure RevisionWritten (tables written : ReceiptTables) (ids : ReceiptIds)
    (revision : ReceiptRevision) (isNew : Bool) : Prop where
  ofReceipt : revision.receiptId = ids.receiptId
  revisionAbsent : tables.revisions.find ids.receiptRevisionId = none
  numberFree : revision.revisionNumber ∉ tables.numbersOf ids.receiptId
  revisions : written.revisions =
    tables.revisions.insertAbsent ids.receiptRevisionId revision
  others : ∀ id ≠ ids.receiptId, written.receipts.find id = tables.receipts.find id
  receipt : ∃ receipt, written.receipts.find ids.receiptId = some receipt ∧
    receipt.currentRevisionId = some ids.receiptRevisionId ∧
    receipt.canonicalHash = revision.canonicalHash ∧
    (isNew = true → tables.receipts.find ids.receiptId = none ∧
      ∀ id old, tables.receipts.find id = some old → old.receiptKey ≠ receipt.receiptKey) ∧
    (isNew = false → ∃ old, tables.receipts.find ids.receiptId = some old ∧
      old.receiptKey = receipt.receiptKey)
  outbox : ∃ eventKey event, tables.outbox.find eventKey = none ∧
    event.receiptRevisionId = ids.receiptRevisionId ∧ event.receiptId = ids.receiptId ∧
    written.outbox = tables.outbox.insertAbsent eventKey event

/-- A row that is not under the key of an update stays. -/
theorem ReceiptTables.find_updateReceipt_of_ne {receiptId id : String}
    {write : SourceReceipt → SourceReceipt} (h : id ≠ receiptId) :
    (tables.updateReceipt receiptId write).receipts.find id = tables.receipts.find id := by
  unfold ReceiptTables.updateReceipt
  rw [KeyedTable.find_updateWhere]
  simp [h]

/-- An update writes the row under its key. -/
theorem ReceiptTables.find_updateReceipt_self {receiptId : String} {receipt : SourceReceipt}
    {write : SourceReceipt → SourceReceipt} (h : tables.receipts.find receiptId = some receipt) :
    (tables.updateReceipt receiptId write).receipts.find receiptId = some (write receipt) := by
  unfold ReceiptTables.updateReceipt
  rw [KeyedTable.find_updateWhere, h]
  simp

/-- An accepted receipt is new under its identifier and its key. -/
theorem ReceiptTables.insertReceipt_eq_ok {receiptId : String} {receipt : SourceReceipt}
    (h : tables.insertReceipt receiptId receipt = .ok written) :
    tables.receipts.find receiptId = none ∧
      (∀ id old, tables.receipts.find id = some old → old.receiptKey ≠ receipt.receiptKey) ∧
      written = { tables with receipts := tables.receipts.insertAbsent receiptId receipt } := by
  simp only [ReceiptTables.insertReceipt, throwIf_bind_eq_ok] at h
  obtain ⟨hkeys, h⟩ := h
  obtain ⟨receipts, hinsert, hwritten⟩ := bind_eq_ok.mp h
  obtain ⟨habsent, rfl⟩ := insertUnique_eq_ok hinsert
  refine ⟨habsent, ?_, (Except.ok.inj hwritten).symm⟩
  intro id old hold hsame
  exact hkeys ⟨(id, old), KeyedTable.mem_entries_iff.mpr hold, hsame⟩

/-- An accepted revision is new and has a new number for its receipt. -/
theorem ReceiptTables.insertRevision_eq_ok {revisionId : String} {revision : ReceiptRevision}
    (h : tables.insertRevision revisionId revision = .ok written) :
    tables.revisions.find revisionId = none ∧
      revision.revisionNumber ∉ tables.numbersOf revision.receiptId ∧
      written = { tables with revisions := tables.revisions.insertAbsent revisionId revision } := by
  simp only [ReceiptTables.insertRevision, throwIf_bind_eq_ok] at h
  obtain ⟨hnumbers, _, h⟩ := h
  obtain ⟨revisions, hinsert, hwritten⟩ := bind_eq_ok.mp h
  obtain ⟨habsent, rfl⟩ := insertUnique_eq_ok hinsert
  refine ⟨habsent, ?_, (Except.ok.inj hwritten).symm⟩
  intro hmem
  obtain ⟨entry, hentry, hnumber⟩ := List.mem_map.mp hmem
  rw [KeyedTable.selectWhere, List.mem_filter, decide_eq_true_eq] at hentry
  exact hnumbers ⟨entry, hentry.1, hentry.2, hnumber⟩

/-- An accepted event has a new key. -/
theorem ReceiptTables.insertEvent_eq_ok {event : PipelineEvent}
    (h : tables.insertEvent event = .ok written) :
    ∃ eventKey, tables.outbox.find eventKey = none ∧
      written = { tables with outbox := tables.outbox.insertAbsent eventKey event } := by
  simp only [ReceiptTables.insertEvent, bind_eq_ok] at h
  obtain ⟨outbox, hinsert, hwritten⟩ := h
  obtain ⟨habsent, rfl⟩ := insertUnique_eq_ok hinsert
  exact ⟨_, habsent, (Except.ok.inj hwritten).symm⟩

variable {texts : ContentTexts} {call : PersistCall} {work : CanonicalWorkItem}

/-- What `writeRevision` writes when none of its insertions is refused. -/
theorem revisionWritten_of_ok {isNew : Bool} {ids : ReceiptIds} {number : ℕ}
    (hold : isNew = false → ∃ old, tables.receipts.find ids.receiptId = some old)
    (h : writeRevision texts call work isNew ids number tables = .ok written) :
    RevisionWritten tables written ids (newRevision texts call work ids.receiptId number) isNew := by
  unfold writeRevision at h
  obtain ⟨inserted, hinserted, h⟩ := bind_eq_ok.mp h
  obtain ⟨revised, hrevised, h⟩ := bind_eq_ok.mp h
  obtain ⟨hrevision, hnumber, rfl⟩ := ReceiptTables.insertRevision_eq_ok hrevised
  obtain ⟨eventKey, hevent, rfl⟩ := ReceiptTables.insertEvent_eq_ok h
  cases isNew with
  | true =>
    obtain ⟨habsent, hkeys, rfl⟩ := ReceiptTables.insertReceipt_eq_ok hinserted
    exact {
      ofReceipt := rfl
      revisionAbsent := hrevision
      numberFree := hnumber
      revisions := rfl
      others := by
        intro id hid
        refine (ReceiptTables.find_updateReceipt_of_ne hid).trans ?_
        dsimp only
        rw [KeyedTable.find_insertAbsent, if_neg hid, Option.or_none]
      receipt := by
        have hself : (tables.receipts.insertAbsent ids.receiptId
            (newReceipt texts call work)).find ids.receiptId = _ :=
          KeyedTable.find_insertAbsent_self habsent
        exact ⟨_, ReceiptTables.find_updateReceipt_self hself, rfl, rfl,
          fun _ => ⟨habsent, hkeys⟩, fun hfalse => absurd hfalse (by decide)⟩
      outbox := ⟨eventKey, _, hevent, rfl, rfl, rfl⟩ }
  | false =>
    obtain rfl := Except.ok.inj hinserted
    obtain ⟨old, hold⟩ := hold rfl
    exact {
      ofReceipt := rfl
      revisionAbsent := hrevision
      numberFree := hnumber
      revisions := rfl
      others := fun id hid => ReceiptTables.find_updateReceipt_of_ne hid
      receipt := ⟨_, ReceiptTables.find_updateReceipt_self hold, rfl, rfl,
        fun htrue => absurd htrue (by decide), fun _ => ⟨old, hold, rfl⟩⟩
      outbox := ⟨eventKey, _, hevent, rfl, rfl, rfl⟩ }

/-! ### Numbers and events -/

/-- A number belongs to a revision of the receipt. -/
theorem ReceiptTables.mem_numbersOf {receiptId : String} {number : ℕ} :
    number ∈ tables.numbersOf receiptId ↔
      ∃ id revision, tables.revisions.find id = some revision ∧ revision.receiptId = receiptId ∧
        revision.revisionNumber = number := by
  unfold ReceiptTables.numbersOf
  rw [List.mem_map]
  constructor
  · rintro ⟨entry, hentry, hnumber⟩
    have hfound := KeyedTable.mem_selectWhere.mp hentry
    exact ⟨entry.1, entry.2, hfound.1, hfound.2, hnumber⟩
  · rintro ⟨id, revision, hfind, hreceipt, hnumber⟩
    exact ⟨(id, revision), KeyedTable.mem_selectWhere.mpr ⟨hfind, hreceipt⟩, hnumber⟩

/-- Revisions of one receipt with one number are the same. -/
theorem ReceiptTables.Truthful.eq_of_number (h : tables.Truthful) {first second : String}
    {earlier later : ReceiptRevision} (hfirst : tables.revisions.find first = some earlier)
    (hsecond : tables.revisions.find second = some later)
    (hreceipt : earlier.receiptId = later.receiptId)
    (hnumber : earlier.revisionNumber = later.revisionNumber) : earlier = later := by
  obtain ⟨receipt, hreceiptFind⟩ := h.owned hsecond
  obtain ⟨_, _, _, _, _, _, hperm⟩ := h.current hreceiptFind
  have hnodup : (tables.numbersOf later.receiptId).Nodup := hperm.nodup_iff.mpr List.nodup_range'
  have hpair := List.inj_on_of_nodup_map hnodup
    (KeyedTable.mem_selectWhere.mpr ⟨hfirst, hreceipt⟩)
    (KeyedTable.mem_selectWhere.mpr ⟨hsecond, rfl⟩) hnumber
  exact congrArg Prod.snd hpair

/-- A revision whose next number is free is the last one of its receipt. -/
theorem ReceiptTables.Truthful.numbers_of_next_free (h : tables.Truthful) {id : String}
    {revision : ReceiptRevision} (hfind : tables.revisions.find id = some revision)
    (hfree : revision.revisionNumber + 1 ∉ tables.numbersOf revision.receiptId) :
    (tables.numbersOf revision.receiptId).Perm (List.range' 1 revision.revisionNumber) := by
  obtain ⟨receipt, hreceipt⟩ := h.owned hfind
  obtain ⟨_, current, _, _, _, _, hperm⟩ := h.current hreceipt
  have hmem : revision.revisionNumber ∈ tables.numbersOf revision.receiptId :=
    ReceiptTables.mem_numbersOf.mpr ⟨id, revision, hfind, rfl, rfl⟩
  rw [hperm.mem_iff, List.mem_range'_1] at hmem hfree
  have hlast : revision.revisionNumber = current.revisionNumber := by omega
  rw [hlast]
  exact hperm

section Written

variable {ids : ReceiptIds} {revision : ReceiptRevision} {isNew : Bool}

/-- After a revision the rows are the earlier ones and the new one. -/
theorem RevisionWritten.find_revision (h : RevisionWritten tables written ids revision isNew)
    {id : String} {row : ReceiptRevision} :
    written.revisions.find id = some row ↔
      tables.revisions.find id = some row ∨ id = ids.receiptRevisionId ∧ row = revision := by
  rw [h.revisions, KeyedTable.find_insertAbsent]
  by_cases hid : id = ids.receiptRevisionId
  · subst hid
    simp [h.revisionAbsent, eq_comm]
  · simp [hid]

/-- After a revision its receipt has one more number. -/
theorem RevisionWritten.numbersOf (h : RevisionWritten tables written ids revision isNew)
    (receiptId : String) :
    written.numbersOf receiptId =
      tables.numbersOf receiptId ++
        if ids.receiptId = receiptId then [revision.revisionNumber] else [] := by
  unfold ReceiptTables.numbersOf KeyedTable.selectWhere
  rw [h.revisions, entries_insertAbsent h.revisionAbsent, List.filter_append, List.map_append]
  by_cases hid : ids.receiptId = receiptId
  · simp [h.ofReceipt, hid]
  · simp [h.ofReceipt, hid]

/-- After a revision there is one more event, and it announces the revision. -/
theorem RevisionWritten.eventsOf_length (h : RevisionWritten tables written ids revision isNew)
    (revisionId : String) :
    (written.eventsOf revisionId).length =
      (tables.eventsOf revisionId).length + if ids.receiptRevisionId = revisionId then 1 else 0 := by
  obtain ⟨eventKey, event, habsent, hrevision, _, houtbox⟩ := h.outbox
  unfold ReceiptTables.eventsOf KeyedTable.selectWhere
  rw [houtbox, entries_insertAbsent habsent, List.filter_append, List.length_append]
  by_cases hid : ids.receiptRevisionId = revisionId
  · simp [hrevision, hid]
  · simp [hrevision, hid]

/-- A revision that follows the last one of its receipt, or is the first of a new receipt, keeps the
histories true. -/
theorem ReceiptTables.Truthful.of_written (h : tables.Truthful)
    (hwritten : RevisionWritten tables written ids revision isNew)
    (hnew : isNew = true → revision.revisionNumber = 1)
    (hnext : isNew = false → ∃ id earlier, tables.revisions.find id = some earlier ∧
      earlier.receiptId = ids.receiptId ∧ revision.revisionNumber = earlier.revisionNumber + 1 ∧
      earlier.canonicalHash ≠ revision.canonicalHash) : written.Truthful := by
  obtain ⟨receipt, hreceipt, hcurrentId, hhash, hisNew, hisOld⟩ := hwritten.receipt
  -- the numbers before the new one
  have hnumbers : ∃ count, revision.revisionNumber = count + 1 ∧
      (tables.numbersOf ids.receiptId).Perm (List.range' 1 count) := by
    cases isNew with
    | true =>
      refine ⟨0, hnew rfl, List.Perm.of_eq (List.eq_nil_iff_forall_not_mem.mpr ?_)⟩
      intro number hnumber
      obtain ⟨id, old, hold, hof, _⟩ := ReceiptTables.mem_numbersOf.mp hnumber
      obtain ⟨other, hother⟩ := h.owned hold
      rw [hof, (hisNew rfl).1] at hother
      exact absurd hother (Option.some_ne_none _).symm
    | false =>
      obtain ⟨id, earlier, hfind, hof, hnumber, _⟩ := hnext rfl
      have hfree := hwritten.numberFree
      rw [hnumber, ← hof] at hfree
      have hperm := h.numbers_of_next_free hfind hfree
      rw [hof] at hperm
      exact ⟨earlier.revisionNumber, hnumber, hperm⟩
  obtain ⟨count, hcount, hperm⟩ := hnumbers
  have hnot : ∀ {id old}, tables.revisions.find id = some old →
      old.receiptId = ids.receiptId → old.revisionNumber ≤ count := by
    intro id old hold hof
    have hmem := ReceiptTables.mem_numbersOf.mpr ⟨id, old, hold, hof, rfl⟩
    rw [hperm.mem_iff, List.mem_range'_1] at hmem
    omega
  refine ⟨?_, ?_, ?_, ?_, ?_, ?_⟩
  · -- keys
    have hself : ∀ {other otherReceipt}, other ≠ ids.receiptId →
        written.receipts.find other = some otherReceipt →
        receipt.receiptKey ≠ otherReceipt.receiptKey := by
      intro other otherReceipt hne hother hkey
      rw [hwritten.others other hne] at hother
      cases isNew with
      | true => exact (hisNew rfl).2 other otherReceipt hother hkey.symm
      | false =>
        obtain ⟨old, hold, holdKey⟩ := hisOld rfl
        exact hne (h.keyed hother hold (by rw [← hkey, holdKey]))
    intro id other row otherRow hid hother hkey
    by_cases hleft : id = ids.receiptId
    · subst hleft
      by_contra hne
      obtain rfl := Option.some.inj (hreceipt.symm.trans hid)
      exact hself (fun heq => hne heq.symm) hother hkey
    · by_cases hright : other = ids.receiptId
      · subst hright
        obtain rfl := Option.some.inj (hreceipt.symm.trans hother)
        exact absurd hkey.symm (hself hleft hid)
      · rw [hwritten.others _ hleft] at hid
        rw [hwritten.others _ hright] at hother
        exact h.keyed hid hother hkey
  · -- current revisions
    intro receiptId row hrow
    by_cases hid : receiptId = ids.receiptId
    · subst hid
      obtain rfl := Option.some.inj (hreceipt.symm.trans hrow)
      refine ⟨_, revision, hcurrentId, hwritten.find_revision.mpr (Or.inr ⟨rfl, rfl⟩),
        hwritten.ofReceipt, hhash.symm, ?_⟩
      rw [hwritten.numbersOf, if_pos rfl, hcount, List.range'_1_concat, Nat.add_comm 1 count]
      exact hperm.append_right _
    · rw [hwritten.others _ hid] at hrow
      obtain ⟨revisionId, old, hcurrent, hold, hof, holdHash, hnumbers⟩ := h.current hrow
      refine ⟨revisionId, old, hcurrent, hwritten.find_revision.mpr (Or.inl hold), hof, holdHash, ?_⟩
      rw [hwritten.numbersOf, if_neg (Ne.symm hid), List.append_nil]
      exact hnumbers
  · -- consecutive revisions
    intro first second earlier later hfirst hsecond hsame hnumber
    rcases hwritten.find_revision.mp hfirst with hfirst | ⟨_, rfl⟩
    · rcases hwritten.find_revision.mp hsecond with hsecond | ⟨_, rfl⟩
      · exact h.changed hfirst hsecond hsame hnumber
      · -- the revision before the new one is the one it was compared with
        rw [hwritten.ofReceipt] at hsame
        cases isNew with
        | true =>
          obtain ⟨other, hother⟩ := h.owned hfirst
          rw [hsame, (hisNew rfl).1] at hother
          exact absurd hother (Option.some_ne_none _).symm
        | false =>
          obtain ⟨id, compared, hfind, hof, hnext, hdiffers⟩ := hnext rfl
          have hequal := h.eq_of_number hfirst hfind (hsame.trans hof.symm) (by omega)
          rw [hequal]
          exact hdiffers
    · rcases hwritten.find_revision.mp hsecond with hsecond | ⟨_, rfl⟩
      · have hle := hnot hsecond (hsame.symm.trans hwritten.ofReceipt)
        omega
      · omega
  · -- receipts of revisions
    intro revisionId row hrow
    have hkept : ∀ {id old}, tables.receipts.find id = some old →
        ∃ now, written.receipts.find id = some now := by
      intro id old hold
      by_cases hid : id = ids.receiptId
      · exact ⟨receipt, hid ▸ hreceipt⟩
      · exact ⟨old, (hwritten.others id hid).trans hold⟩
    rcases hwritten.find_revision.mp hrow with hold | ⟨_, rfl⟩
    · obtain ⟨old, hfind⟩ := h.owned hold
      exact hkept hfind
    · exact ⟨receipt, hwritten.ofReceipt ▸ hreceipt⟩
  · -- events of revisions
    intro revisionId row hrow
    rw [hwritten.eventsOf_length]
    rcases hwritten.find_revision.mp hrow with hold | ⟨rfl, _⟩
    · have hne : ids.receiptRevisionId ≠ revisionId := by
        rintro rfl
        exact absurd (hold.symm.trans hwritten.revisionAbsent) (Option.some_ne_none _)
      rw [if_neg hne]
      exact h.announced hold
    · have hnone : tables.eventsOf ids.receiptRevisionId = [] := by
        refine List.eq_nil_iff_forall_not_mem.mpr fun entry hentry => ?_
        have hfound := KeyedTable.mem_selectWhere.mp hentry
        obtain ⟨old, hold, _⟩ := h.announces hfound.1
        rw [hfound.2, hwritten.revisionAbsent] at hold
        exact absurd hold (Option.some_ne_none _).symm
      rw [if_pos rfl, hnone]
      rfl
  · -- revisions of events
    intro eventKey event hevent
    obtain ⟨newKey, newEvent, habsent, hrevisionId, hreceiptId, houtbox⟩ := hwritten.outbox
    rw [houtbox, KeyedTable.find_insertAbsent] at hevent
    cases hold : tables.outbox.find eventKey with
    | some old =>
      rw [hold, Option.some_or] at hevent
      obtain rfl := Option.some.inj hevent
      obtain ⟨row, hrow, hof⟩ := h.announces hold
      exact ⟨row, hwritten.find_revision.mpr (Or.inl hrow), hof⟩
    | none =>
      rw [hold, Option.none_or] at hevent
      split at hevent
      next =>
        obtain rfl := Option.some.inj hevent
        exact ⟨revision, hwritten.find_revision.mpr (Or.inr ⟨hrevisionId, rfl⟩),
          hwritten.ofReceipt.trans hreceiptId.symm⟩
      next => exact absurd hevent (Option.some_ne_none _).symm

end Written

/-! ### What a call has read -/

/-- Receipts stay under their keys and revisions stay as they are. -/
structure ReceiptTables.Grown (tables later : ReceiptTables) : Prop where
  receipts : ∀ {id receipt}, tables.receipts.find id = some receipt →
    ∃ now, later.receipts.find id = some now ∧ now.receiptKey = receipt.receiptKey
  revisions : ∀ {id revision}, tables.revisions.find id = some revision →
    later.revisions.find id = some revision

/-- Nothing has happened. -/
theorem ReceiptTables.Grown.refl (tables : ReceiptTables) : tables.Grown tables :=
  ⟨fun h => ⟨_, h, rfl⟩, fun h => h⟩

/-- One growth after another. -/
theorem ReceiptTables.Grown.trans (h : tables.Grown written) (hnext : written.Grown later) :
    tables.Grown later := by
  refine ⟨fun hfind => ?_, fun hfind => hnext.revisions (h.revisions hfind)⟩
  obtain ⟨now, hnow, hkey⟩ := h.receipts hfind
  obtain ⟨last, hlast, hlastKey⟩ := hnext.receipts hnow
  exact ⟨last, hlast, hlastKey.trans hkey⟩

/-- The receipts that were read are still there, and what they named as their current revision is
one of theirs. -/
def ExistingSound (existing : List (String × SourceReceipt)) (tables : ReceiptTables) : Prop :=
  ∀ entry ∈ existing,
    (∃ now, tables.receipts.find entry.1 = some now ∧ now.receiptKey = entry.2.receiptKey) ∧
    ∀ currentId ∈ entry.2.currentRevisionId, ∃ revision,
      tables.revisions.find currentId = some revision ∧ revision.receiptId = entry.1

/-- What was read is sound. -/
structure ReadSound (read : ReceiptsRead) (tables : ReceiptTables) : Prop where
  existing : ExistingSound read.existing tables
  revisions : ∀ entry ∈ read.revisions, tables.revisions.find entry.1 = some entry.2

/-- Receipts that were read stay sound. -/
theorem ExistingSound.grown {existing : List (String × SourceReceipt)}
    (h : ExistingSound existing tables) (hgrown : tables.Grown later) :
    ExistingSound existing later := by
  intro entry hentry
  obtain ⟨⟨now, hnow, hkey⟩, hcurrent⟩ := h entry hentry
  obtain ⟨last, hlast, hlastKey⟩ := hgrown.receipts hnow
  refine ⟨⟨last, hlast, hlastKey.trans hkey⟩, fun currentId hid => ?_⟩
  obtain ⟨revision, hrevision, hof⟩ := hcurrent currentId hid
  exact ⟨revision, hgrown.revisions hrevision, hof⟩

/-- What was read stays sound. -/
theorem ReadSound.grown {read : ReceiptsRead} (h : ReadSound read tables)
    (hgrown : tables.Grown later) : ReadSound read later :=
  ⟨h.existing.grown hgrown, fun entry hentry => hgrown.revisions (h.revisions entry hentry)⟩

/-- Receipts are read as they are. -/
theorem existingSound_select (h : tables.Truthful) (items : List CanonicalWorkItem) :
    ExistingSound (PersistWorld.selectReceipts items tables) tables := by
  intro entry hentry
  have hfind := (KeyedTable.mem_selectSorted.mp hentry).1
  obtain ⟨revisionId, revision, hcurrent, hrevision, hof, _⟩ := h.current hfind
  refine ⟨⟨entry.2, hfind, rfl⟩, fun currentId hid => ?_⟩
  rw [hcurrent] at hid
  obtain rfl := Option.some.inj hid
  exact ⟨revision, hrevision, hof⟩

/-- Revisions are read as they are. -/
theorem ExistingSound.readSound {existing : List (String × SourceReceipt)}
    (h : ExistingSound existing tables) :
    ReadSound ⟨existing, PersistWorld.selectRevisions existing tables⟩ tables := by
  refine ⟨h, fun entry hentry => ?_⟩
  have hselected : entry ∈ tables.revisions.selectWhere fun id _ =>
      some id ∈ existing.map fun entry => entry.2.currentRevisionId := hentry
  exact (KeyedTable.mem_selectWhere.mp hselected).1

/-- A revision leaves the other receipts and all earlier revisions. -/
theorem RevisionWritten.grown {ids : ReceiptIds} {revision : ReceiptRevision} {isNew : Bool}
    (h : RevisionWritten tables written ids revision isNew) : tables.Grown written := by
  refine ⟨fun {id receipt} hfind => ?_, fun hfind => h.find_revision.mpr (Or.inl hfind)⟩
  by_cases hid : id = ids.receiptId
  · subst hid
    obtain ⟨now, hnow, _, _, hisNew, hisOld⟩ := h.receipt
    cases isNew with
    | true => exact absurd ((hisNew rfl).1.symm.trans hfind) (Option.some_ne_none _).symm
    | false =>
      obtain ⟨old, hold, hkey⟩ := hisOld rfl
      obtain rfl := Option.some.inj (hold.symm.trans hfind)
      exact ⟨now, hnow, hkey.symm⟩
  · exact ⟨receipt, (h.others id hid).trans hfind, rfl⟩

/-! ### The revision loop -/

/-- New rights of a receipt do not touch its history. -/
theorem ReceiptTables.Truthful.updateRights (h : tables.Truthful) (receiptId : String)
    (rightsPolicy : Json) :
    (tables.updateReceipt receiptId fun receipt =>
      { receipt with rightsPolicy := rightsPolicy }).Truthful ∧
    tables.Grown (tables.updateReceipt receiptId fun receipt =>
      { receipt with rightsPolicy := rightsPolicy }) := by
  have hfind : ∀ {id now}, (tables.updateReceipt receiptId fun receipt =>
      { receipt with rightsPolicy := rightsPolicy }).receipts.find id = some now →
      ∃ old, tables.receipts.find id = some old ∧ now.receiptKey = old.receiptKey ∧
        now.currentRevisionId = old.currentRevisionId ∧ now.canonicalHash = old.canonicalHash := by
    intro id now hnow
    by_cases hid : id = receiptId
    · subst hid
      unfold ReceiptTables.updateReceipt at hnow
      rw [KeyedTable.find_updateWhere, Option.map_eq_some_iff] at hnow
      obtain ⟨old, hold, rfl⟩ := hnow
      exact ⟨old, hold, by simp, by simp, by simp⟩
    · rw [ReceiptTables.find_updateReceipt_of_ne hid] at hnow
      exact ⟨now, hnow, rfl, rfl, rfl⟩
  have hgrown : ∀ {id old}, tables.receipts.find id = some old →
      ∃ now, (tables.updateReceipt receiptId fun receipt =>
        { receipt with rightsPolicy := rightsPolicy }).receipts.find id = some now ∧
        now.receiptKey = old.receiptKey := by
    intro id old hold
    by_cases hid : id = receiptId
    · subst hid
      exact ⟨_, ReceiptTables.find_updateReceipt_self hold, rfl⟩
    · exact ⟨old, (ReceiptTables.find_updateReceipt_of_ne hid).trans hold, rfl⟩
  refine ⟨⟨?_, ?_, h.changed, ?_, h.announced, h.announces⟩, ⟨hgrown, fun hrow => hrow⟩⟩
  · intro id other row otherRow hrow hother hkey
    obtain ⟨old, hold, holdKey, _⟩ := hfind hrow
    obtain ⟨otherOld, hotherOld, hotherKey, _⟩ := hfind hother
    exact h.keyed hold hotherOld (holdKey.symm.trans (hkey.trans hotherKey))
  · intro id row hrow
    obtain ⟨old, hold, _, hcurrent, hhash⟩ := hfind hrow
    rw [hcurrent, hhash]
    exact h.current hold
  · intro revisionId revision hrevision
    obtain ⟨old, hold⟩ := h.owned hrevision
    obtain ⟨now, hnow, _⟩ := hgrown hold
    exact ⟨now, hnow⟩

/-- How a pass of the revision loop ends when it does not throw: the receipt is revised, with the
number after the one that was read, or it is left with its revisions. -/
inductive PassWritten (texts : ContentTexts) (call : PersistCall) (read : ReceiptsRead)
    (work : CanonicalWorkItem) (tables written : ReceiptTables) : Prop where
  | opened (ids : ReceiptIds) (hnone : read.existingByKey work.receiptKey = none)
      (h : writeRevision texts call work true ids 1 tables = .ok written)
  | revised (receiptId currentId : String) (existing : SourceReceipt) (current : ReceiptRevision)
      (hexisting : read.existingByKey work.receiptKey = some (receiptId, existing))
      (hid : existing.currentRevisionId = some currentId)
      (hcurrent : read.revisions.lookup currentId = some current)
      (hdiffers : current.canonicalHash ≠ work.canonicalHash texts)
      (h : writeRevision texts call work false
        ⟨receiptId, (call.receiptIds work.receiptKey).receiptRevisionId⟩
        (current.revisionNumber + 1) tables = .ok written)
  | unchanged (h : written = tables ∨ ∃ receiptId, written = tables.updateReceipt receiptId
        fun receipt => { receipt with rightsPolicy := work.rightsPolicy })

/-- What a pass of the revision loop does. -/
theorem passWritten_of_ok {read : ReceiptsRead} {loop next : RevisionLoop}
    (h : reviseReceipt texts call read loop work = .ok next) :
    PassWritten texts call read work loop.tables next.tables := by
  unfold reviseReceipt at h
  cases hexisting : read.existingByKey work.receiptKey with
  | none =>
    simp only [hexisting] at h
    obtain ⟨tables, hwrite, hnext⟩ := bind_eq_ok.mp h
    obtain rfl := Except.ok.inj hnext
    exact .opened _ hexisting hwrite
  | some entry =>
    simp only [hexisting, throwIf_bind_eq_ok, orThrow_bind_eq_ok] at h
    obtain ⟨_, currentId, hid, current, hcurrent, h⟩ := h
    split at h
    next hdiffers =>
      obtain ⟨tables, hwrite, hnext⟩ := bind_eq_ok.mp h
      obtain rfl := Except.ok.inj hnext
      exact .revised entry.1 currentId entry.2 current hexisting hid hcurrent hdiffers hwrite
    next =>
      obtain rfl := Except.ok.inj h
      refine .unchanged ?_
      simp only [RevisionLoop.persisted]
      split
      next => exact Or.inr ⟨entry.1, rfl⟩
      next => exact Or.inl rfl

/-- A receipt that was read under a key is one of those read. -/
theorem ReceiptsRead.mem_of_existingByKey {read : ReceiptsRead} {key : String}
    {entry : String × SourceReceipt} (h : read.existingByKey key = some entry) :
    entry ∈ read.existing ∧ entry.2.receiptKey = key := by
  unfold ReceiptsRead.existingByKey at h
  exact ⟨List.mem_of_find?_eq_some h, by simpa using List.find?_some h⟩

/-- The row that a lookup finds is in the list. -/
theorem mem_of_lookup {Key Row : Type} [DecidableEq Key] {entries : List (Key × Row)} {key : Key}
    {row : Row} (h : entries.lookup key = some row) : (key, row) ∈ entries := by
  obtain ⟨first, last, heq, _⟩ := List.lookup_eq_some_iff.mp h
  rw [heq]
  simp

/-- A pass keeps the histories true. -/
theorem PassWritten.truthful {read : ReceiptsRead}
    (h : PassWritten texts call read work tables written) (htruthful : tables.Truthful)
    (hread : ReadSound read tables) : written.Truthful ∧ tables.Grown written := by
  cases h with
  | opened ids hnone hwrite =>
    have hwritten := revisionWritten_of_ok (fun hfalse => absurd hfalse (by decide)) hwrite
    exact ⟨htruthful.of_written hwritten (fun _ => rfl) fun hfalse => absurd hfalse (by decide),
      hwritten.grown⟩
  | revised receiptId currentId existing current hexisting hid hcurrent hdiffers hwrite =>
    obtain ⟨hmem, _⟩ := ReceiptsRead.mem_of_existingByKey hexisting
    obtain ⟨⟨now, hnow, _⟩, hsound⟩ := hread.existing _ hmem
    have hwritten := revisionWritten_of_ok (fun _ => ⟨now, hnow⟩) hwrite
    refine ⟨htruthful.of_written hwritten (fun htrue => absurd htrue (by decide)) fun _ => ?_,
      hwritten.grown⟩
    have hfind := hread.revisions _ (mem_of_lookup hcurrent)
    obtain ⟨revision, hrevision, hof⟩ := hsound currentId hid
    obtain rfl := Option.some.inj (hrevision.symm.trans hfind)
    exact ⟨currentId, revision, hfind, hof, rfl, hdiffers⟩
  | unchanged h =>
    rcases h with rfl | ⟨receiptId, rfl⟩
    · exact ⟨htruthful, .refl _⟩
    · exact htruthful.updateRights receiptId work.rightsPolicy

/-- The revision loop keeps the histories true. -/
theorem truthful_of_reviseReceipts {read : ReceiptsRead} {items : List CanonicalWorkItem}
    {loop : RevisionLoop} (htruthful : tables.Truthful) (hread : ReadSound read tables)
    (h : reviseReceipts texts call items read tables = .ok loop) :
    loop.tables.Truthful ∧ tables.Grown loop.tables := by
  have hloop : ∀ (items : List CanonicalWorkItem) (first last : RevisionLoop),
      items.foldlM (reviseReceipt texts call read) first = .ok last → first.tables.Truthful →
      ReadSound read first.tables → last.tables.Truthful ∧ first.tables.Grown last.tables := by
    intro items
    induction items with
    | nil =>
      intro first last hfold hfirst _
      obtain rfl := Except.ok.inj hfold
      exact ⟨hfirst, .refl _⟩
    | cons work rest ih =>
      intro first last hfold hfirst hsound
      rw [List.foldlM_cons] at hfold
      obtain ⟨next, hpass, hrest⟩ := bind_eq_ok.mp hfold
      obtain ⟨hnext, hgrown⟩ := (passWritten_of_ok hpass).truthful hfirst hsound
      obtain ⟨hlast, hgrownLast⟩ := ih next last hrest hnext (hsound.grown hgrown)
      exact ⟨hlast, hgrown.trans hgrownLast⟩
  exact hloop items _ loop h htruthful hread

/-- Observations do not touch the histories. -/
theorem ReceiptTables.insertObservations_eq_ok
    {rows : List (ObservationKey × SourceObservation)}
    (h : tables.insertObservations rows = .ok written) :
    ∃ observations, written = { tables with observations } := by
  obtain ⟨observations, _, hwritten⟩ := bind_eq_ok.mp h
  exact ⟨observations, (Except.ok.inj hwritten).symm⟩

/-- What a call persists keeps the histories true. -/
theorem truthful_of_persistReceipts {read : ReceiptsRead} {items : List CanonicalWorkItem}
    {endpoints : List (String × SourceEndpoint)} {loop : RevisionLoop}
    (htruthful : tables.Truthful) (hread : ReadSound read tables)
    (h : persistReceipts texts call endpoints items read tables = .ok loop) :
    loop.tables.Truthful ∧ tables.Grown loop.tables := by
  obtain ⟨revised, hrevised, h⟩ := bind_eq_ok.mp h
  obtain ⟨_, _, h⟩ := bind_eq_ok.mp h
  obtain ⟨stored, hstored, hloop⟩ := bind_eq_ok.mp h
  obtain rfl := Except.ok.inj hloop
  obtain ⟨observations, rfl⟩ := ReceiptTables.insertObservations_eq_ok hstored
  obtain ⟨hkept, hgrown⟩ := truthful_of_reviseReceipts htruthful hread hrevised
  exact ⟨⟨hkept.keyed, hkept.current, hkept.changed, hkept.owned, hkept.announced,
    hkept.announces⟩, ⟨hgrown.receipts, hgrown.revisions⟩⟩

/-! ### The items of a call -/

/-- No two items belong to one receipt. -/
def DistinctKeys (items : List CanonicalWorkItem) : Prop := (items.map (·.receiptKey)).Nodup

/-- An item enters the work of its receipt, or opens it. -/
theorem DistinctKeys.addItem {run : FormalRun} {request : FormalRunRequest}
    {works next : List CanonicalWorkItem} {entry : (String × SourceEndpoint) × AcquisitionItem}
    (h : DistinctKeys works) (hadd : addItem texts run request works entry = .ok next) :
    DistinctKeys next := by
  unfold LetletmeData.addItem at hadd
  dsimp only at hadd
  split at hadd
  next =>
    simp only [throwIf_bind_eq_ok] at hadd
    obtain rfl := Except.ok.inj hadd.2
    unfold DistinctKeys at h ⊢
    have hkeys : ∀ (key : String) (write : CanonicalWorkItem → List String),
        ((works.map fun work => if work.receiptKey = key then
          { work with observationEndpoints := write work } else work).map (·.receiptKey)) =
        works.map (·.receiptKey) := by
      intro key write
      rw [List.map_map]
      refine List.map_congr_left fun work _ => ?_
      simp only [Function.comp_apply]
      split <;> rfl
    rw [hkeys]
    exact h
  next hnone =>
    obtain rfl := Except.ok.inj hadd
    unfold DistinctKeys at h ⊢
    rw [List.map_append, List.nodup_append']
    refine ⟨h, List.nodup_singleton _, ?_⟩
    intro key hkey hnew
    obtain ⟨work, hwork, rfl⟩ := List.mem_map.mp hkey
    have hne := List.find?_eq_none.mp hnone work hwork
    simp only [List.map_cons, List.map_nil, List.mem_singleton] at hnew
    exact hne (by simpa using hnew)

/-- The merged items belong to distinct receipts. -/
theorem distinctKeys_of_mergeItems {run : FormalRun} {request : FormalRunRequest}
    {entries : List ((String × SourceEndpoint) × AcquisitionItem)} {works : List CanonicalWorkItem}
    (h : mergeItems texts run request entries = .ok works) : DistinctKeys works := by
  have hfold : ∀ (entries : List ((String × SourceEndpoint) × AcquisitionItem))
      (first last : List CanonicalWorkItem), DistinctKeys first →
      entries.foldlM (addItem texts run request) first = .ok last → DistinctKeys last := by
    intro entries
    induction entries with
    | nil =>
      intro first last hfirst hlast
      obtain rfl := Except.ok.inj hlast
      exact hfirst
    | cons entry rest ih =>
      intro first last hfirst hlast
      rw [List.foldlM_cons] at hlast
      obtain ⟨next, hadd, hrest⟩ := bind_eq_ok.mp hlast
      exact ih next last (hfirst.addItem hadd) hrest
  exact hfold entries [] works List.nodup_nil h

/-- The gathered items are the merged ones, in another order. -/
theorem gatherWork_eq_ok {input : PersistAcquisitionInput} {run : FormalRun}
    {request : FormalRunRequest} {target : Option String}
    {endpoints : List (String × SourceEndpoint)} {items : List CanonicalWorkItem}
    (h : gatherWork texts input run request target endpoints = .ok items) :
    ∃ entries works, batchItems endpoints input.batches = .ok entries ∧
      mergeItems texts run request entries = .ok works ∧ items.Perm works := by
  unfold gatherWork at h
  rw [throwIf_bind_eq_ok] at h
  obtain ⟨_, _, h⟩ := bind_eq_ok.mp h.2
  obtain ⟨_, _, h⟩ := bind_eq_ok.mp h
  obtain ⟨entries, hentries, h⟩ := bind_eq_ok.mp h
  obtain ⟨works, hworks, h⟩ := bind_eq_ok.mp h
  rw [throwIf_bind_eq_ok] at h
  obtain rfl := Except.ok.inj h.2
  exact ⟨entries, works, hentries, hworks, List.perm_insertionSort _ _⟩

/-- The gathered items belong to distinct receipts. -/
theorem distinctKeys_of_gatherWork {input : PersistAcquisitionInput} {run : FormalRun}
    {request : FormalRunRequest} {target : Option String}
    {endpoints : List (String × SourceEndpoint)} {items : List CanonicalWorkItem}
    (h : gatherWork texts input run request target endpoints = .ok items) : DistinctKeys items := by
  obtain ⟨_, works, _, hworks, hperm⟩ := gatherWork_eq_ok h
  exact (hperm.map _).nodup_iff.mpr (distinctKeys_of_mergeItems hworks)

/-! ### Runs -/

namespace PersistWorld

/-- A call works on distinct receipts, and what it has read of them is sound. -/
def PhaseSound (receipts : ReceiptTables) : PersistPhase → Prop
  | .locking _ _ items _ => DistinctKeys items
  | .resolving _ _ items existing => DistinctKeys items ∧ ExistingSound existing receipts
  | .writing _ _ items read => DistinctKeys items ∧ ReadSound read receipts
  | _ => True

/-- The histories are true and the calls know nothing wrong. -/
structure Sound (world : PersistWorld) : Prop where
  truthful : world.receipts.Truthful
  calls : ∀ id, PhaseSound world.receipts (world.calls id)

/-- A step of a call changes the tables only when the call returns, and what has returned does not
throw any more. -/
structure ThrowsUnchanged (world next : PersistWorld) (caller : Option ℕ) : Prop where
  returned : ∀ id result, world.calls id = .returned result → next.calls id = .returned result
  tables : ∀ id, caller = some id → (∀ result, next.calls id ≠ .returned result) →
    next.receipts = world.receipts ∧ next.formal = world.formal

variable {texts : ContentTexts} {hashtext : String → ℤ} {world : PersistWorld}

/-- What is sound stays sound while receipts only grow. -/
theorem PhaseSound.grown {phase : PersistPhase} (h : PhaseSound tables phase)
    (hgrown : tables.Grown later) : PhaseSound later phase := by
  cases phase with
  | locking => exact h
  | resolving => exact ⟨h.1, h.2.grown hgrown⟩
  | writing => exact ⟨h.1, h.2.grown hgrown⟩
  | _ => trivial

/-- A call that goes on to a sound phase, with the receipts as they are. -/
theorem Sound.update (h : world.Sound) {next : PersistWorld} {id : ℕ} {phase : PersistPhase}
    (hreceipts : next.receipts = world.receipts)
    (hcalls : next.calls = Function.update world.calls id phase)
    (hphase : PhaseSound world.receipts phase) : next.Sound := by
  refine ⟨hreceipts ▸ h.truthful, fun other => ?_⟩
  rw [hcalls, hreceipts]
  by_cases hother : other = id
  · rw [hother, Function.update_self]
    exact hphase
  · rw [Function.update_of_ne hother]
    exact h.calls other

/-- What follows an attempt holds after success and after an error. -/
theorem attempt_induction {Value : Type} {id : ℕ} {result : Except String Value}
    {next : Value → PersistWorld} {property : PersistWorld → Prop}
    (hok : ∀ value, result = .ok value → property (next value))
    (herror : ∀ error, property (world.conclude id (.threw error))) :
    property (world.attempt id result next) := by
  unfold attempt
  cases result with
  | ok value => exact hok value rfl
  | error error => exact herror error

/-- A call that throws leaves everything sound. -/
theorem Sound.conclude_threw (h : world.Sound) (id : ℕ) (error : String) :
    (world.conclude id (.threw error)).Sound :=
  h.update rfl rfl trivial

/-- Every step keeps the histories true. -/
theorem Sound.step (h : world.Sound) (action : PersistAction) :
    (world.step texts hashtext action).Sound := by
  cases action with
  | start id call =>
    simp only [PersistWorld.step]
    split
    next =>
      split
      next =>
        have hlocked : ({ world with
            runLocks := Function.update world.runLocks call.input.runId (some id) } :
            PersistWorld).Sound := ⟨h.truthful, h.calls⟩
        refine attempt_induction (fun work _ => ?_) fun error => hlocked.conclude_threw id error
        refine hlocked.update rfl rfl ?_
        cases work.targetReceiptKey <;> trivial
      next => exact h
    next => exact h
  | lockTarget id =>
    simp only [PersistWorld.step]
    split
    next =>
      split
      next => exact h.update rfl rfl trivial
      next => exact h
    next => exact h
  | readTarget id =>
    simp only [PersistWorld.step]
    split
    next =>
      exact attempt_induction (fun _ _ => h.update rfl rfl trivial) fun error =>
        h.conclude_threw id error
    next => exact h
  | gather id =>
    simp only [PersistWorld.step]
    split
    next =>
      exact attempt_induction
        (fun _ hgather => h.update rfl rfl (distinctKeys_of_gatherWork hgather)) fun error =>
        h.conclude_threw id error
    next => exact h
  | lockKey id =>
    simp only [PersistWorld.step]
    split
    next hphase =>
      have hsound := h.calls id
      rw [hphase] at hsound
      split
      next => exact h.update rfl rfl hsound
      next => exact h
    next => exact h
  | readReceipts id =>
    simp only [PersistWorld.step]
    split
    next hphase =>
      have hsound := h.calls id
      rw [hphase] at hsound
      exact h.update rfl rfl ⟨hsound, existingSound_select h.truthful _⟩
    next => exact h
  | readRevisions id =>
    simp only [PersistWorld.step]
    split
    next hphase =>
      have hsound := h.calls id
      rw [hphase] at hsound
      exact h.update rfl rfl ⟨hsound.1, hsound.2.readSound⟩
    next => exact h
  | commit id =>
    simp only [PersistWorld.step]
    split
    next work endpoints items read hphase =>
      have hsound := h.calls id
      rw [hphase] at hsound
      refine attempt_induction (fun written hwritten => ?_) fun error => h.conclude_threw id error
      obtain ⟨revised, hrevised, hwritten⟩ := bind_eq_ok.mp hwritten
      obtain ⟨closed, _, hwritten⟩ := bind_eq_ok.mp hwritten
      obtain rfl := Except.ok.inj hwritten
      obtain ⟨htruthful, hgrown⟩ := truthful_of_persistReceipts h.truthful hsound.2 hrevised
      have hothers : ({ world with receipts := revised.tables, formal := closed.1 } :
          PersistWorld).Sound := ⟨htruthful, fun other => (h.calls other).grown hgrown⟩
      exact hothers.update rfl rfl trivial
    next => exact h
  | fail id error =>
    simp only [PersistWorld.step]
    split
    next => exact h
    next => exact h
    next => exact h
    next => exact h.conclude_threw id error
  | elsewhere formal => exact ⟨h.truthful, h.calls⟩

/-- A call that goes on or throws changes no table and no other call. -/
theorem ThrowsUnchanged.of_update {next : PersistWorld} {id : ℕ} {phase : PersistPhase}
    {caller : Option ℕ} (hcall : ∀ result, world.calls id ≠ .returned result)
    (hcalls : next.calls = Function.update world.calls id phase)
    (hreceipts : next.receipts = world.receipts) (hformal : next.formal = world.formal) :
    ThrowsUnchanged world next caller := by
  refine ⟨fun other result hreturned => ?_, fun _ _ _ => ⟨hreceipts, hformal⟩⟩
  have hne : other ≠ id := by
    rintro rfl
    exact hcall result hreturned
  rw [hcalls, Function.update_of_ne hne]
  exact hreturned

/-- An attempt that throws changes no table and no other call. -/
theorem ThrowsUnchanged.of_attempt {Value : Type} {locked : PersistWorld} {id : ℕ}
    {result : Except String Value} {next : Value → PersistWorld} {caller : Option ℕ}
    (hcall : ∀ result, world.calls id ≠ .returned result) (hcalls : locked.calls = world.calls)
    (hreceipts : locked.receipts = world.receipts) (hformal : locked.formal = world.formal)
    (hok : ∀ value, ThrowsUnchanged world (next value) caller) :
    ThrowsUnchanged world (locked.attempt id result next) caller := by
  unfold attempt
  cases result with
  | ok value => exact hok value
  | error error =>
    exact .of_update hcall (congrArg (Function.update · id _) hcalls) hreceipts hformal

/-- A step that does not apply changes nothing. -/
theorem ThrowsUnchanged.refl (world : PersistWorld) (caller : Option ℕ) :
    ThrowsUnchanged world world caller :=
  ⟨fun _ _ h => h, fun _ _ _ => ⟨rfl, rfl⟩⟩

/-- A call in another phase has not returned. -/
theorem not_returned {id : ℕ} {phase : PersistPhase} (hphase : world.calls id = phase)
    (h : ∀ result, phase ≠ .returned result) (result : PersistAcquisitionResult) :
    world.calls id ≠ .returned result :=
  fun hreturned => h result (hphase.symm.trans hreturned)

/-- No step of a call that throws changes anything. -/
theorem throwsUnchanged_step (world : PersistWorld) (action : PersistAction) :
    ThrowsUnchanged world (world.step texts hashtext action) action.caller := by
  cases action with
  | start id call =>
    simp only [PersistWorld.step]
    split
    next hphase =>
      have hcall := not_returned hphase fun _ h => PersistPhase.noConfusion h
      split
      next =>
        exact .of_attempt hcall rfl rfl rfl fun _ => .of_update hcall rfl rfl rfl
      next => exact .refl _ _
    next => exact .refl _ _
  | lockTarget id =>
    simp only [PersistWorld.step]
    split
    next hphase =>
      have hcall := not_returned hphase fun _ h => PersistPhase.noConfusion h
      split
      next => exact .of_update hcall rfl rfl rfl
      next => exact .refl _ _
    next => exact .refl _ _
  | readTarget id =>
    simp only [PersistWorld.step]
    split
    next hphase =>
      have hcall := not_returned hphase fun _ h => PersistPhase.noConfusion h
      exact .of_attempt hcall rfl rfl rfl fun _ => .of_update hcall rfl rfl rfl
    next => exact .refl _ _
  | gather id =>
    simp only [PersistWorld.step]
    split
    next hphase =>
      have hcall := not_returned hphase fun _ h => PersistPhase.noConfusion h
      exact .of_attempt hcall rfl rfl rfl fun _ => .of_update hcall rfl rfl rfl
    next => exact .refl _ _
  | lockKey id =>
    simp only [PersistWorld.step]
    split
    next hphase =>
      have hcall := not_returned hphase fun _ h => PersistPhase.noConfusion h
      split
      next => exact .of_update hcall rfl rfl rfl
      next => exact .refl _ _
    next => exact .refl _ _
  | readReceipts id =>
    simp only [PersistWorld.step]
    split
    next hphase =>
      exact .of_update (not_returned hphase fun _ h => PersistPhase.noConfusion h) rfl rfl rfl
    next => exact .refl _ _
  | readRevisions id =>
    simp only [PersistWorld.step]
    split
    next hphase =>
      exact .of_update (not_returned hphase fun _ h => PersistPhase.noConfusion h) rfl rfl rfl
    next => exact .refl _ _
  | commit id =>
    simp only [PersistWorld.step]
    split
    next hphase =>
      have hcall := not_returned hphase fun _ h => PersistPhase.noConfusion h
      refine .of_attempt hcall rfl rfl rfl fun written => ?_
      -- the only step that writes ends in a result
      refine ⟨fun other result hreturned => ?_, fun caller hcaller hnot => ?_⟩
      · have hne : other ≠ id := by
          rintro rfl
          exact hcall result hreturned
        exact (Function.update_of_ne hne _ _).trans hreturned
      · obtain rfl := Option.some.inj hcaller
        exact absurd (Function.update_self id _ world.calls) (hnot written.2.2)
    next => exact .refl _ _
  | fail id error =>
    simp only [PersistWorld.step]
    split
    next => exact .refl _ _
    next => exact .refl _ _
    next => exact .refl _ _
    next hreturned _ =>
      exact .of_update (fun result h => by simp_all) rfl rfl rfl
  | elsewhere formal =>
    exact ⟨fun _ _ h => h, fun id hcaller => absurd hcaller (Option.some_ne_none id).symm⟩

/-- Receipt histories are true in every reachable state, and a call that throws changes nothing. -/
theorem receiptHistory_truthful (texts : ContentTexts) (hashtext : String → ℤ)
    (receipts : ReceiptTables) (formal : FormalTables) (hreceipts : receipts.Truthful)
    (actions : List PersistAction) :
    (runSteps (step texts hashtext) (initial receipts formal) actions).receipts.Truthful ∧
      EveryStep (step texts hashtext)
        (fun world action =>
          ThrowsUnchanged world (world.step texts hashtext action) action.caller)
        (initial receipts formal) actions := by
  have hstart : (initial receipts formal).Sound := ⟨hreceipts, fun _ => trivial⟩
  have hkept : ∀ world action, Sound world → (step texts hashtext world action).Sound :=
    fun _ action h => h.step action
  have hsound := runSteps_invariant hkept (initial receipts formal) actions hstart
  exact ⟨hsound.truthful,
    everyStep_of_forall (fun world action => throwsUnchanged_step world action) _ _⟩

/-! ### An example: one post, seen by two endpoints of its source -/

/-- Texts that need no normalization; nothing is hashed. -/
def plainTexts : ContentTexts where
  normalizeNfc := id
  toLowerCase := id
  localeCompare := compare
  isIsoTimestamp := fun _ => true
  dateParse := fun _ => some 0
  numberText := fun _ => "1"
  parseUrl := fun _ => none
  urlText := fun url => url.others
  sha256 := id

/-- A post as an endpoint reports it. -/
def reportedPost (endpointKey title : String) : AcquisitionItem where
  endpointKey := endpointKey
  externalItemId := "100"
  canonicalUrl := none
  sourceUrl := none
  linkAvailability := .missing
  publishedAt := none
  updatedAt := none
  title := some title
  authorExternalId := none
  contentKind := .post
  body := ⟨.metadataOnly, none⟩
  media := []
  mediaStatus := none
  transcript := ⟨.notApplicable, none, none, none, []⟩
  video := none

/-- The batch of an endpoint that reports the post. -/
def reportedBatch (endpointKey title : String) : AcquisitionBatch where
  endpointKey := endpointKey
  checkedAt := "2026-08-01T00:00:00Z"
  validator := ⟨none, none, none, none⟩
  transportBodyHash := none
  items := [reportedPost endpointKey title]

/-- The snapshot of an endpoint of the source. -/
def exampleEndpoint (endpointKey : String) : EndpointSnapshot :=
  ⟨endpointKey, endpointKey, "source", "club", .object []⟩

/-- A scan of both endpoints. -/
def exampleScan : FormalRunRequest where
  jobKind := .xKeywordScan
  adapterKind := .xAccount
  phase := .normal
  profileKey := "profile"
  profileRevision := 1
  windowStart := 0
  windowEnd := 1
  target := .partition ⟨"partition", [exampleEndpoint "alpha", exampleEndpoint "beta"], .null⟩
  snapshot := .null

/-- A running scan. -/
def exampleRun : FormalRun where
  status := .running
  endpointId := none
  partitionId := some "partition"
  scheduleId := none
  parentRunId := none
  adapterKind := .xAccount
  jobKind := .xKeywordScan
  profileKey := "profile"
  profileRevision := 1
  windowStart := none
  windowEnd := none
  request := some exampleScan
  requestHash := "hash"
  attemptNo := 1
  sourceSnapshot := .null
  endpointSnapshot := .null
  targetReceiptId := none
  targetReceiptRevisionId := none
  leaseExpiresAt := none
  failureClass := none
  outcome := none

/-- The row of an endpoint of the source. -/
def exampleEndpointRow (endpointKey : String) : SourceEndpoint :=
  ⟨endpointKey, "source", "club", .object [], none, .xAccount, none, .active⟩

/-- Two running scans of two endpoints. -/
def exampleFormal : FormalTables where
  runs := (KeyedTable.empty.insertAbsent "first" exampleRun).insertAbsent "second" exampleRun
  endpoints := (KeyedTable.empty.insertAbsent "alpha" (exampleEndpointRow "alpha")).insertAbsent
    "beta" (exampleEndpointRow "beta")
  schedules := .empty
  budgets := .initial
  gaps := []
  jobs := .empty
  grokTraces := []

/-- A call that hands over batches. -/
def exampleCall (runId : String) (batches : List AcquisitionBatch) : PersistCall where
  input :=
    { runId, state := .completed, batches, rejections := [], checkpointComplete := false
      checkpoint := none, nextDueAt := none, bootstrapCompleted := false
      endpointIdentityEvidence := [], semanticAuthorEvidence := none, triggeredJobs := []
      triggeredXBudget := none, acquisitionGap := none, httpTraceSequences := []
      providerTraces := [], providerResult := none, runMetrics := none }
  dbNow := 0
  receiptIds := fun key => ⟨key ++ "/receipt", key ++ "/" ++ runId⟩
  childRunIds := fun _ => "child"
  reservationIds := fun _ _ => "reservation"
  firstRow := 0

/-- The statements of a call that meets no other. -/
def exampleStatements (id : ℕ) (call : PersistCall) : List PersistAction :=
  [.start id call, .gather id, .lockKey id, .readReceipts id, .readRevisions id, .commit id]

/-- A post whose title is changed between two scans has two revisions, and their history is true. -/
theorem receiptHistory_truthful_retitled :
    let world := runSteps (step plainTexts fun _ => 0) (initial .initial exampleFormal)
      (exampleStatements 1 (exampleCall "first" [reportedBatch "alpha" "Out"]) ++
        exampleStatements 2 (exampleCall "second" [reportedBatch "alpha" "Doubtful"]))
    world.receipts.numbersOf "x:100/receipt" = [1, 2] ∧ world.receipts.Truthful := by
  exact ⟨by decide +kernel, (receiptHistory_truthful plainTexts (fun _ => 0) .initial exampleFormal
    ReceiptTables.truthful_initial _).1⟩

end PersistWorld

end LetletmeData
