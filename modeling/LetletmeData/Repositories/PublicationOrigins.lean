import LetletmeData.Repositories.OutboxDelivery
import LetletmeData.Repositories.PublicationHistory

/-!
# Where rows and receipts come from

A row that is found after a call was there before, perhaps still open, or the call prepared or
activated it. A receipt was there before, or an activation inserted it; what it delivers never
changes.
-/

namespace LetletmeData

open LetletmeData.Library

/-- The row of the same publication, closed at most. -/
structure DatasetPublication.Lasts (row row' : DatasetPublication) : Prop where
  scope_eq : row'.scope = row.scope
  revision_eq : row'.revision = row.revision
  manifest_eq : row'.manifest = row.manifest
  status : row'.status = row.status ∨ row'.status.Closed

/-- How a row came to be found after a call. -/
inductive RowOrigin (db : Database) (call : DatabaseCall) (id : ℕ) (row' : DatasetPublication) :
    Prop where
  | lasted (row : DatasetPublication) (hfind : db.publications.find id = some row)
      (hlasts : row.Lasts row')
  | prepared (now : ℕ) (input : PreparePublicationInput)
      (hcall : call = .preparePublication now input) (hid : id = input.publicationId)
      (hrow : row' = stagingRow now db.nextRevision input)
  | activated (now : ℕ) (input : ActivatePublicationInput) (target : DatasetPublication)
      (run : SyncRun) (hcall : call = .activatePublication now input)
      (hid : id = input.publicationId) (hallowed : ActivationAllowed input db target run)
      (hrow : row' = activatedRow now input id target)

/-- A receipt that delivers the same manifest of the same publication. -/
structure DataPublicationOutbox.Lasts (receipt receipt' : DataPublicationOutbox) : Prop where
  publicationId_eq : receipt'.publicationId = receipt.publicationId
  sourceRun_eq : receipt'.sourceRunId = receipt.sourceRunId
  scope_eq : receipt'.scope = receipt.scope
  manifest_eq : receipt'.manifest = receipt.manifest

/-- How a receipt came to be found after a call. -/
inductive ReceiptOrigin (db : Database) (call : DatabaseCall) (outboxId : ℕ)
    (receipt' : DataPublicationOutbox) : Prop where
  | lasted (receipt : DataPublicationOutbox) (hfind : db.outbox.find outboxId = some receipt)
      (hlasts : receipt.Lasts receipt')
  | inserted (now : ℕ) (input : ActivatePublicationInput) (target : DatasetPublication)
      (run : SyncRun) (hcall : call = .activatePublication now input)
      (hallowed : ActivationAllowed input db target run)
      (hreceipt : receipt' = activationReceipt now input)

/-- Everything found in later tables has its origin in a call on the earlier ones. -/
structure Originates (db : Database) (call : DatabaseCall) (later : Database) : Prop where
  rows : ∀ id row', later.publications.find id = some row' → RowOrigin db call id row'
  receipts : ∀ outboxId receipt', later.outbox.find outboxId = some receipt' →
    ReceiptOrigin db call outboxId receipt'

variable {db : Database} {call : DatabaseCall}

section Rows

variable {id : ℕ} {row' : DatasetPublication}

/-- A row lasts as it is. -/
theorem DatasetPublication.Lasts.refl (row : DatasetPublication) : row.Lasts row :=
  ⟨rfl, rfl, rfl, .inl rfl⟩

/-- A row that is still the same has lasted. -/
theorem RowOrigin.of_find (h : db.publications.find id = some row') :
    RowOrigin db call id row' :=
  .lasted row' h (.refl row')

/-- Closing a staging row leaves every other row. -/
theorem RowOrigin.closeStaging {publicationId : ℕ}
    {write : DatasetPublication → DatasetPublication} {allowed : List SyncRunStatus}
    {runStatus : SyncRunStatus} {row : DatasetPublication}
    (hwrite : ∀ stored : DatasetPublication, stored.Lasts (write stored))
    (h : (closeStaging publicationId write allowed runStatus row db).publications.find id =
      some row') : RowOrigin db call id row' := by
  change (db.publications.updateWhere _ write).find id = some row' at h
  rw [KeyedTable.find_updateWhere] at h
  obtain ⟨stored, hstored, rfl⟩ := Option.map_eq_some_iff.mp h
  refine .lasted stored hstored ?_
  split
  · exact hwrite stored
  · exact .refl stored

/-- A preparation leaves the rows that are not expired and adds at most its own. -/
theorem RowOrigin.preparePublication {now : ℕ} {input : PreparePublicationInput}
    (h : (LetletmeData.preparePublication now input db).1.publications.find id = some row') :
    RowOrigin db (.preparePublication now input) id row' := by
  unfold LetletmeData.preparePublication at h
  split at h
  · have hcleaned : ∀ row, (cleanupExpired now db).publications.find id = some row →
        db.publications.find id = some row :=
      fun row hrow => (KeyedTable.find_of_find_deleteWhere hrow).1
    rcases insertStaging_spec now input (cleanupExpired now db) with heq | ⟨-, heq⟩
    · rw [heq] at h
      exact .of_find (hcleaned row' h)
    · rw [heq, KeyedTable.find_insertAbsent] at h
      rcases Option.or_eq_some_iff.mp h with hold | ⟨-, hnew⟩
      · exact .of_find (hcleaned row' hold)
      · split at hnew
        next hid => exact .prepared now input rfl hid (Option.some.inj hnew).symm
        · cases hnew
  · exact .of_find h

/-- An activation opens its target and may retire another row. -/
theorem RowOrigin.activatePublication {now : ℕ} {input : ActivatePublicationInput}
    {target : DatasetPublication} {run : SyncRun}
    (hallowed : ActivationAllowed input db target run)
    (h : (activatedPublications now input db).find id = some row') :
    RowOrigin db (.activatePublication now input) id row' := by
  rw [find_activatedPublications] at h
  obtain ⟨row, hrow, rfl⟩ := Option.map_eq_some_iff.mp h
  by_cases hid : id = input.publicationId
  · subst hid
    obtain rfl : target = row := Option.some.inj (hallowed.target_found.symm.trans hrow)
    exact .activated now input target run rfl rfl hallowed rfl
  · refine .lasted row hrow ?_
    unfold activatedRow
    rw [if_neg hid]
    split
    · exact ⟨rfl, rfl, rfl, .inr (.inl rfl)⟩
    · exact .refl row

end Rows

section Receipts

variable {outboxId : ℕ} {receipt' : DataPublicationOutbox}

/-- A receipt lasts as it is. -/
theorem DataPublicationOutbox.Lasts.refl (receipt : DataPublicationOutbox) :
    receipt.Lasts receipt :=
  ⟨rfl, rfl, rfl, rfl⟩

/-- A receipt that is still the same has lasted. -/
theorem ReceiptOrigin.of_find (h : db.outbox.find outboxId = some receipt') :
    ReceiptOrigin db call outboxId receipt' :=
  .lasted receipt' h (.refl receipt')

/-- A preparation leaves the receipts whose publication is not expired. -/
theorem ReceiptOrigin.preparePublication {now : ℕ} {input : PreparePublicationInput}
    (h : (LetletmeData.preparePublication now input db).1.outbox.find outboxId =
      some receipt') : ReceiptOrigin db call outboxId receipt' := by
  have hcleaned : (cleanupExpired now db).outbox.find outboxId = some receipt' →
      db.outbox.find outboxId = some receipt' :=
    fun hfound => (KeyedTable.find_of_find_deleteWhere hfound).1
  unfold LetletmeData.preparePublication at h
  split at h
  · rcases insertStaging_spec now input (cleanupExpired now db) with heq | ⟨-, heq⟩
    · rw [heq] at h
      exact .of_find (hcleaned h)
    · rw [heq] at h
      exact .of_find (hcleaned h)
  · exact .of_find h

/-- An activation inserts at most the receipt of its manifest. -/
theorem ReceiptOrigin.activatePublication {now : ℕ} {input : ActivatePublicationInput}
    {target : DatasetPublication} {run : SyncRun}
    (hallowed : ActivationAllowed input db target run)
    {outbox : KeyedTable ℕ DataPublicationOutbox}
    (houtbox : insertReceipt now input db = .ok outbox)
    (h : outbox.find outboxId = some receipt') :
    ReceiptOrigin db (.activatePublication now input) outboxId receipt' := by
  unfold insertReceipt at houtbox
  split at houtbox
  · obtain rfl := Except.ok.inj houtbox
    exact .of_find h
  · split at houtbox
    · obtain rfl := Except.ok.inj houtbox
      exact .of_find h
    · split at houtbox
      · obtain rfl := Except.ok.inj houtbox
        rw [KeyedTable.find_insertAbsent] at h
        rcases Option.or_eq_some_iff.mp h with hold | ⟨-, hnew⟩
        · exact .of_find hold
        · split at hnew
          · exact .inserted now input target run rfl hallowed (Option.some.inj hnew).symm
          · cases hnew
      · cases houtbox

end Receipts

namespace Originates

variable {later : Database}

/-- A call that leaves publications and receipts leaves their origin. -/
theorem of_eq (hpublications : later.publications = db.publications)
    (houtbox : later.outbox = db.outbox) : Originates db call later :=
  ⟨fun _ _ hrow => .of_find (hpublications ▸ hrow),
    fun _ _ hreceipt => .of_find (houtbox ▸ hreceipt)⟩

/-- Reports write no column that says what a receipt delivers. -/
theorem of_updateWhere (selected : ℕ → DataPublicationOutbox → Prop)
    [∀ id receipt, Decidable (selected id receipt)]
    {write : DataPublicationOutbox → DataPublicationOutbox}
    (hwrite : ∀ receipt : DataPublicationOutbox, receipt.Lasts (write receipt))
    (hpublications : later.publications = db.publications)
    (houtbox : later.outbox = db.outbox.updateWhere selected write) :
    Originates db call later := by
  refine ⟨fun _ _ hrow => .of_find (hpublications ▸ hrow), fun outboxId receipt' hreceipt => ?_⟩
  rw [houtbox, KeyedTable.find_updateWhere] at hreceipt
  obtain ⟨receipt, hfind, rfl⟩ := Option.map_eq_some_iff.mp hreceipt
  refine .lasted receipt hfind ?_
  split
  · exact hwrite receipt
  · exact .refl receipt

/-- A report of an owner changes at most one receipt. -/
theorem writeOwnedReceipt (outboxId owner : ℕ)
    {write : DataPublicationOutbox → DataPublicationOutbox}
    (hwrite : ∀ receipt : DataPublicationOutbox, receipt.Lasts (write receipt)) :
    Originates db call (writeOwnedReceipt outboxId owner write db) :=
  of_updateWhere (fun id receipt => id = outboxId ∧ receipt.OwnedBy owner) hwrite rfl rfl

/-- What is found after a call was there before, or the call made it. -/
theorem databaseStep (host : HostFunctions) (db : Database) (call : DatabaseCall) :
    Originates db call (databaseStep host db call) := by
  have hself : Originates db call db := of_eq rfl rfl
  cases call with
  | preparePublication now input =>
    exact ⟨fun _ _ => .preparePublication, fun _ _ => .preparePublication⟩
  | activatePublication now input =>
    refine commit_induction hself fun written hwritten => ?_
    obtain ⟨⟨target, run, hallowed⟩, outbox, houtbox, rfl⟩ :=
      activatePublication_eq_ok.mp hwritten
    exact ⟨fun _ _ => .activatePublication hallowed,
      fun _ _ => .activatePublication hallowed houtbox⟩
  | failPublication now publicationId =>
    refine commit_induction hself fun written hwritten => ?_
    rcases failPublication_spec hwritten with rfl | ⟨row, rfl⟩
    · exact hself
    · exact ⟨fun _ _ => .closeStaging fun stored => ⟨rfl, rfl, rfl, .inr (.inr rfl)⟩,
        fun _ _ hreceipt => .lasted _ hreceipt (.refl _)⟩
  | skipPublication now publicationId =>
    refine commit_induction hself fun written hwritten => ?_
    rcases skipPublication_spec hwritten with rfl | ⟨row, rfl⟩
    · exact hself
    · exact ⟨fun _ _ => .closeStaging fun stored => ⟨rfl, rfl, rfl, .inr (.inl rfl)⟩,
        fun _ _ hreceipt => .lasted _ hreceipt (.refl _)⟩
  | startRun runId input =>
    refine commit_induction hself fun written hwritten => ?_
    rcases startRun_spec hwritten with rfl | ⟨-, rfl⟩ <;> exact of_eq rfl rfl
  | finishRun runId status publicationId =>
    refine commit_induction hself fun written hwritten => ?_
    obtain ⟨run, -, -, rfl⟩ := finishRun_spec hwritten
    exact of_eq rfl rfl
  | stagePublicationItems publicationId items =>
    refine commit_induction hself fun written hwritten => ?_
    obtain ⟨stored, rfl⟩ := stagePublicationItems_spec hwritten
    exact of_eq rfl rfl
  | claimOutbox dbNow owner limit leaseMs publicationId =>
    simp only [LetletmeData.databaseStep, commit, claimedTables]
    cases hclaim : claimDataPublicationOutbox host dbNow owner limit leaseMs publicationId db with
    | error error => exact hself
    | ok result =>
      obtain ⟨-, -, hwritten⟩ := claimDataPublicationOutbox_eq_ok.mp
        (show _ = Except.ok (result.1, result.2) from hclaim)
      simp only [Except.map, hwritten]
      refine ⟨fun _ row' hrow => .lasted row' hrow (.refl row'),
        fun outboxId receipt' hreceipt => ?_⟩
      simp only [KeyedTable.find_updateWhere] at hreceipt
      obtain ⟨receipt, hfind, rfl⟩ := Option.map_eq_some_iff.mp hreceipt
      refine .lasted receipt hfind ?_
      split <;> exact ⟨rfl, rfl, rfl, rfl⟩
  | markOutboxDelivered now outboxId owner =>
    simp only [LetletmeData.databaseStep, markDataPublicationOutboxDelivered]
    split
    · exact of_updateWhere (fun id receipt => id = outboxId ∧ receipt.OwnedBy owner)
        (fun receipt => (⟨rfl, rfl, rfl, rfl⟩ : receipt.Lasts (receipt.closed now))) rfl rfl
    · exact hself
  | markOutboxReconciled now publicationId =>
    simp only [LetletmeData.databaseStep, markDataPublicationOutboxReconciled]
    split
    · exact of_updateWhere (fun _ receipt => receipt.Reconcilable publicationId)
        (fun receipt => (⟨rfl, rfl, rfl, rfl⟩ : receipt.Lasts (receipt.closed now))) rfl rfl
    · exact hself
  | failRun => exact of_eq rfl rfl
  | markOutboxStage | releaseOutbox | failOutbox =>
    exact writeOwnedReceipt _ _ fun receipt => ⟨rfl, rfl, rfl, rfl⟩

end Originates

end LetletmeData
