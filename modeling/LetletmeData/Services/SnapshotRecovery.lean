import LetletmeData.Repositories.PublicationItems
import LetletmeData.Repositories.PublicationOrigins
import LetletmeData.Repositories.RunStatus
import LetletmeData.Services.SnapshotSync

/-!
# Runs of staged publications

A staged publication with its item proof can be activated later on, or failed or skipped with
its run. Once it is activated its receipt can finish the run, whatever dispatchers and
reconcilers do.
-/

namespace LetletmeData

open LetletmeData.Library

/-- The run is in a terminal status. -/
def RunTerminated (runId : ℕ) (db : Database) : Prop :=
  ∃ status, db.runStatus runId = some status ∧ status.Terminal

/-- The run is ready to publish, and an undelivered receipt of it can finish it. -/
structure RunFinishable (runId : ℕ) (db : Database) : Prop where
  ready : db.runStatus runId = some .readyToPublish
  receipt : ∃ outboxId receipt, db.outbox.find outboxId = some receipt ∧
    receipt.sourceRunId = runId ∧ receipt.deliveredAt = none ∧
    ∀ now, (markDataPublicationOutboxReconciled now receipt.publicationId db).1.runStatus runId =
      some .published

/-- The run is terminal or can be finished. -/
def RunClosed (runId : ℕ) (db : Database) : Prop :=
  RunTerminated runId db ∨ RunFinishable runId db

/-- The run is running and bound to no publication. -/
def RunOpen (runId : ℕ) (db : Database) : Prop :=
  ∃ run, db.runs.find runId = some run ∧ run.status = .running ∧ run.publicationId = none

/-- The run is open, and a publication it prepared is staged. -/
structure PublicationStaged (publicationId runId : ℕ) (db : Database) : Prop where
  run_open : RunOpen runId db
  row : ∃ row, db.publications.find publicationId = some row ∧ row.sourceRunId = runId ∧
    row.status = .staging

/-- The run is open, and the publication it prepared is staged with what its activation proves. -/
structure LeftForRecovery (input : ActivatePublicationInput) (db : Database) : Prop where
  run_open : RunOpen input.sourceRunId db
  target : ∃ row, db.publications.find input.publicationId = some row ∧
    row.scope = input.scope ∧ row.sourceRunId = input.sourceRunId ∧ row.status = .staging ∧
    input.ManifestMatches row.revision
  item_proof : input.ItemProof db
  receipt : ∃ outboxId, input.outboxId = some outboxId ∧ db.outbox.find outboxId = none ∧
    ∀ id receipt, db.outbox.find id = some receipt → receipt.publicationId ≠ input.publicationId

/-- The identifiers a sync draws are in no table yet. -/
structure SyncIdentity.Fresh (identity : SyncIdentity) (db : Database) : Prop where
  publication : db.publications.find identity.publicationId = none
  items : ∀ name, db.items.find (identity.publicationId, name) = none
  receipts : ∀ id receipt, db.outbox.find id = some receipt →
    receipt.publicationId ≠ identity.publicationId
  outbox : db.outbox.find identity.outboxId = none

section Recovery

variable {input : ActivatePublicationInput} {db : Database} {runId : ℕ}


/-- A run that was just started is open. -/
theorem RunOpen.of_startRun {input : StartSyncRunInput} {started : Database}
    (hnew : db.runs.find runId = none) (h : startRun runId input db = .ok started) :
    RunOpen runId started := by
  have hinserted : db.runs.find runId = none ∧ started = { db with
      runs := db.runs.insertAbsent runId
        { identity := input, status := .running, publicationId := none } } := by
    unfold startRun at h
    rw [hnew] at h
    obtain ⟨-, h⟩ := throwIf_bind_eq_ok.mp h
    exact ⟨hnew, (Except.ok.inj h).symm⟩
  rw [hinserted.2]
  exact ⟨_, KeyedTable.find_insertAbsent_self hnew, rfl, rfl⟩

/-- Moving an open run from running to a terminal status terminates it. -/
theorem RunOpen.terminated_moveRun (h : RunOpen runId db) {allowed : List SyncRunStatus}
    {status : SyncRunStatus} (hallowed : .running ∈ allowed) (hterminal : status.Terminal) :
    RunTerminated runId (db.moveRun runId allowed fun run => { run with status := status }) := by
  obtain ⟨run, hrun, hrunning, -⟩ := h
  refine ⟨status, ?_, hterminal⟩
  rw [Database.runStatus_moveRun, hrun, Option.map_some, if_pos ⟨rfl, hrunning ▸ hallowed⟩]

/-- Failing an open run terminates it. -/
theorem RunOpen.failRun (h : RunOpen runId db) : RunTerminated runId (failRun runId db) :=
  h.terminated_moveRun (by simp [nonTerminalRunStatuses]) (.inr (.inl rfl))

/-- A run that is finished as skipped is terminated. -/
theorem RunTerminated.of_finishRun {publicationId : Option (Option ℕ)} {later : Database}
    (h : finishRun runId .skipped publicationId db = .ok later) : RunTerminated runId later := by
  obtain ⟨run, hrun, -, rfl⟩ := finishRun_spec h
  refine ⟨.skipped, ?_, .inr (.inr rfl)⟩
  simp [Database.runStatus, KeyedTable.find_updateWhere, hrun, FinishedRunStatus.status]

/-- A terminated run stays terminated over calls that keep terminal runs. -/
theorem RunTerminated.of_keeps {later : Database} (h : RunTerminated runId db)
    (hkeeps : KeepsTerminalRuns db later) : RunTerminated runId later := by
  obtain ⟨status, hstatus, hterminal⟩ := h
  exact ⟨status, hkeeps runId status hstatus hterminal, hterminal⟩

/-- What is left for recovery is staged. -/
theorem LeftForRecovery.staged (h : LeftForRecovery input db) :
    PublicationStaged input.publicationId input.sourceRunId db := by
  obtain ⟨row, hrow, -, hsource, hstatus, -⟩ := h.target
  exact ⟨h.run_open, row, hrow, hsource, hstatus⟩

section Staged

variable {publicationId : ℕ}

/-- Closing a staged publication terminates its run. -/
theorem PublicationStaged.closeStaging (h : PublicationStaged publicationId runId db)
    {write : DatasetPublication → DatasetPublication} {status : SyncRunStatus}
    {row : DatasetPublication} (hrow : db.publications.find publicationId = some row)
    (hterminal : status.Terminal) :
    RunTerminated runId
      (closeStaging publicationId write (nonTerminalRunStatuses ++ [status]) status row db) := by
  obtain ⟨target, htarget, hsource, -⟩ := h.row
  obtain rfl : target = row := Option.some.inj (htarget.symm.trans hrow)
  rw [LetletmeData.closeStaging, hsource]
  have hopen : RunOpen runId
      { db with
        publications := db.publications.updateWhere
          (fun id stored => id = publicationId ∧ stored.status = .staging) write } :=
    h.run_open
  exact hopen.terminated_moveRun (by simp [nonTerminalRunStatuses]) hterminal

/-- Failing a staged publication fails its run. -/
theorem PublicationStaged.failPublication (h : PublicationStaged publicationId runId db)
    (now : ℕ) : RunTerminated runId (commit (failPublication now publicationId) db) := by
  obtain ⟨row, hrow, -, hstatus⟩ := h.row
  have hfailed : LetletmeData.failPublication now publicationId db =
      .ok (LetletmeData.closeStaging publicationId (·.failedAt now)
        (nonTerminalRunStatuses ++ [.failed]) .failed row db) := by
    simp [LetletmeData.failPublication, hrow, orThrow, bind, Except.bind, hstatus, pure,
      Except.pure]
  rw [commit_of_ok hfailed]
  exact h.closeStaging hrow (.inr (.inl rfl))

/-- Skipping a staged publication skips its run. -/
theorem PublicationStaged.skipPublication (h : PublicationStaged publicationId runId db)
    (now : ℕ) : RunTerminated runId (commit (skipPublication now publicationId) db) := by
  obtain ⟨row, hrow, -, hstatus⟩ := h.row
  have hskipped : LetletmeData.skipPublication now publicationId db =
      .ok (LetletmeData.closeStaging publicationId (·.skippedAt now)
        (nonTerminalRunStatuses ++ [.skipped]) .skipped row db) := by
    simp [LetletmeData.skipPublication, hrow, orThrow, bind, Except.bind, hstatus, pure,
      Except.pure]
  rw [commit_of_ok hskipped]
  exact h.closeStaging hrow (.inr (.inr rfl))

end Staged

end Recovery

section Staging

variable {db later : Database} {runId : ℕ}

/-- An open run is bound to nothing that expires. -/
theorem RunOpen.cleanupExpired (h : RunOpen runId db) (now : ℕ) :
    RunOpen runId (cleanupExpired now db) := by
  obtain ⟨run, hrun, hrunning, hunbound⟩ := h
  refine ⟨run, ?_, hrunning, hunbound⟩
  simp [LetletmeData.cleanupExpired, KeyedTable.find_updateWhere, hrun, hunbound]

/-- The preparation of a new publication stages it for its open run. -/
theorem PublicationStaged.of_prepared {now : ℕ} {staging : PreparePublicationInput}
    {prepared : PreparedDatasetPublication} (hopen : RunOpen staging.sourceRunId db)
    (habsent : db.publications.find staging.publicationId = none)
    (hprepared : (preparePublication now staging db).2 = .ok prepared) :
    PublicationStaged staging.publicationId staging.sourceRunId
      (preparePublication now staging db).1 := by
  obtain ⟨-, hwritten⟩ := preparePublication_of_absent habsent hprepared
  rw [hwritten]
  refine ⟨hopen.cleanupExpired now, stagingRow now db.nextRevision staging, ?_, rfl, rfl⟩
  refine KeyedTable.find_insertAbsent_self ?_
  rw [LetletmeData.cleanupExpired, KeyedTable.find_deleteWhere, habsent]
  rfl

/-- The activation is for what was prepared under the revision, with these items. -/
structure ActivatePublicationInput.Completes (input : ActivatePublicationInput)
    (staging : PreparePublicationInput) (revision : ℕ)
    (items : List DatasetPublicationItemInput) : Prop where
  publicationId_eq : input.publicationId = staging.publicationId
  scope_eq : input.scope = staging.scope
  sourceRun_eq : input.sourceRunId = staging.sourceRunId
  manifest_matches : input.ManifestMatches revision
  items_eq : (input.manifest.items.map fun item => (item.name, item.count, item.sha256)) =
    items.map fun item => (item.name, item.count, item.checksum)

/-- A publication that is prepared under fresh identifiers and staged with its items is left
for recovery. -/
theorem leftForRecovery_of_staged {identity : SyncIdentity} {now : ℕ}
    {staging : PreparePublicationInput} {prepared : PreparedDatasetPublication}
    {items : List DatasetPublicationItemInput} {input : ActivatePublicationInput}
    (hopen : RunOpen staging.sourceRunId db) (hfresh : identity.Fresh db)
    (hid : staging.publicationId = identity.publicationId)
    (houtbox : input.outboxId = some identity.outboxId)
    (hprepared : (preparePublication now staging db).2 = .ok prepared)
    (hstaged : stagePublicationItems prepared.publicationId items
      (preparePublication now staging db).1 = .ok later)
    (hcompletes : input.Completes staging prepared.revision items) :
    LeftForRecovery input later := by
  have habsent : db.publications.find staging.publicationId = none := hid ▸ hfresh.publication
  obtain ⟨rfl, hwritten⟩ := preparePublication_of_absent habsent hprepared
  obtain ⟨⟨-, hdistinct⟩, -, rfl⟩ := stagePublicationItems_eq_ok.mp hstaged
  have hinput : input.publicationId = identity.publicationId :=
    hcompletes.publicationId_eq.trans hid
  have hprepared' := PublicationStaged.of_prepared hopen habsent hprepared
  have hcleaned : ∀ id receipt, (preparePublication now staging db).1.outbox.find id =
      some receipt → db.outbox.find id = some receipt := by
    intro id receipt hreceipt
    rw [hwritten] at hreceipt
    exact (KeyedTable.find_of_find_deleteWhere hreceipt).1
  constructor
  · rw [hcompletes.sourceRun_eq]
    exact hprepared'.run_open
  · refine ⟨stagingRow now db.nextRevision staging, ?_, hcompletes.scope_eq.symm,
      hcompletes.sourceRun_eq.symm, rfl, hcompletes.manifest_matches⟩
    rw [hcompletes.publicationId_eq, hwritten]
    refine KeyedTable.find_insertAbsent_self ?_
    rw [LetletmeData.cleanupExpired, KeyedTable.find_deleteWhere, habsent]
    rfl
  · have hnone : ∀ name, (preparePublication now staging db).1.items.find
        (input.publicationId, name) = none := by
      intro name
      rw [hwritten, hinput]
      exact (KeyedTable.find_deleteWhere _ _).trans (by rw [hfresh.items]; rfl)
    exact itemProof_of_stagedItems hdistinct hnone hcompletes.items_eq
      (by rw [hcompletes.publicationId_eq])
  · refine ⟨identity.outboxId, houtbox, ?_, fun id receipt hreceipt => ?_⟩
    · rw [Option.eq_none_iff_forall_ne_some]
      intro receipt hreceipt
      exact nomatch hfresh.outbox.symm.trans (hcleaned _ _ hreceipt)
    · rw [hinput]
      exact hfresh.receipts id receipt (hcleaned _ _ hreceipt)

end Staging

section Delivery

variable {host : HostFunctions} {db : Database} {runId publicationId : ℕ}

/-- Publishing the run of a delivered receipt moves no other run that is ready. -/
theorem runStatus_publishDeliveredRun (receipt : DataPublicationOutbox) (db : Database)
    (h : db.runStatus runId = some .readyToPublish) :
    (publishDeliveredRun receipt db).runStatus runId =
      some (if receipt.sourceRunId = runId then .published else .readyToPublish) := by
  obtain ⟨run, hrun, hready⟩ := Option.map_eq_some_iff.mp h
  rw [publishDeliveredRun, Database.runStatus_moveRun, hrun, Option.map_some, hready]
  by_cases hsource : receipt.sourceRunId = runId
  · simp [hsource]
  · simp [hsource, Ne.symm hsource]

/-- The run waits for the delivery of a receipt of the publication. -/
def AwaitsDelivery (runId publicationId outboxId : ℕ) (db : Database) : Prop :=
  db.runStatus runId = some .readyToPublish ∧ ∃ receipt, db.outbox.find outboxId = some receipt ∧
    receipt.publicationId = publicationId ∧ receipt.deliveredAt = none

/-- A report that writes no delivery leaves the run waiting. -/
theorem AwaitsDelivery.writeOwnedReceipt {outboxId other owner : ℕ}
    {write : DataPublicationOutbox → DataPublicationOutbox}
    (h : AwaitsDelivery runId publicationId outboxId db)
    (hwrite : ∀ receipt : DataPublicationOutbox,
      (write receipt).publicationId = receipt.publicationId ∧
        (write receipt).deliveredAt = receipt.deliveredAt) :
    AwaitsDelivery runId publicationId outboxId (writeOwnedReceipt other owner write db) := by
  obtain ⟨hready, receipt, hreceipt, hpublication, hundelivered⟩ := h
  refine ⟨hready, ?_⟩
  rw [find_writeOwnedReceipt, hreceipt, Option.map_some]
  refine ⟨_, rfl, ?_⟩
  split
  · exact ⟨(hwrite receipt).1.trans hpublication, (hwrite receipt).2.trans hundelivered⟩
  · exact ⟨hpublication, hundelivered⟩

/-- A call on the receipts publishes the run or leaves it waiting. -/
theorem AwaitsDelivery.deliveryStep {outboxId : ℕ}
    (h : AwaitsDelivery runId publicationId outboxId db)
    (hreceipts : ∀ id receipt, db.outbox.find id = some receipt →
      receipt.publicationId = publicationId → receipt.sourceRunId = runId)
    (call : DeliveryCall) :
    (LetletmeData.deliveryStep host db call).runStatus runId = some .published ∨
      AwaitsDelivery runId publicationId outboxId (LetletmeData.deliveryStep host db call) := by
  obtain ⟨hready, receipt, hreceipt, hpublication, hundelivered⟩ := id h
  cases call with
  | claim dbNow owner limit leaseMs claimed =>
    right
    simp only [LetletmeData.deliveryStep, DeliveryCall.call, databaseStep, commit, claimedTables]
    cases hclaim : claimDataPublicationOutbox host dbNow owner limit leaseMs claimed db with
    | error error => exact h
    | ok result =>
      obtain ⟨-, -, hwritten⟩ := claimDataPublicationOutbox_eq_ok.mp
        (show _ = Except.ok (result.1, result.2) from hclaim)
      simp only [Except.map, hwritten]
      refine ⟨hready, ?_⟩
      rw [KeyedTable.find_updateWhere, hreceipt, Option.map_some]
      refine ⟨_, rfl, ?_⟩
      split <;> exact ⟨hpublication, hundelivered⟩
  | markStage | release | fail => exact .inr (h.writeOwnedReceipt fun _ => ⟨rfl, rfl⟩)
  | markDelivered now delivered owner =>
    simp only [LetletmeData.deliveryStep, DeliveryCall.call, databaseStep,
      markDataPublicationOutboxDelivered]
    split
    next owned howned =>
      obtain ⟨hfind, -⟩ := Option.filter_eq_some_iff.mp howned
      have hstatus := runStatus_publishDeliveredRun owned
        (LetletmeData.writeOwnedReceipt delivered owner (·.closed now) db) hready
      by_cases hsource : owned.sourceRunId = runId
      · exact .inl (hstatus.trans (by rw [if_pos hsource]))
      · refine .inr ⟨hstatus.trans (by rw [if_neg hsource]), receipt, ?_, hpublication,
          hundelivered⟩
        have hother : outboxId ≠ delivered := by
          rintro rfl
          obtain rfl : receipt = owned := Option.some.inj (hreceipt.symm.trans hfind)
          exact hsource (hreceipts _ _ hreceipt hpublication)
        rw [find_publishDeliveredRun, find_writeOwnedReceipt, hreceipt]
        simp [hother]
    · exact .inr h
  | markReconciled now reconciled =>
    simp only [LetletmeData.deliveryStep, DeliveryCall.call, databaseStep,
      markDataPublicationOutboxReconciled]
    split
    next entry hentry =>
      obtain ⟨hfind, hof⟩ := KeyedTable.mem_selectWhere.mp (List.mem_of_mem_head? hentry)
      have hstatus := runStatus_publishDeliveredRun entry.2 { db with
        outbox := db.outbox.updateWhere (fun _ receipt => receipt.Reconcilable reconciled)
          (·.closed now) } hready
      by_cases hsource : entry.2.sourceRunId = runId
      · exact .inl (hstatus.trans (by rw [if_pos hsource]))
      · refine .inr ⟨hstatus.trans (by rw [if_neg hsource]), receipt, ?_, hpublication,
          hundelivered⟩
        have hother : ¬ receipt.Reconcilable reconciled := by
          intro hreconcilable
          have hsame : entry.2.publicationId = publicationId :=
            hof.1.trans (hreconcilable.1.symm.trans hpublication)
          exact hsource (hreceipts _ _ hfind hsame)
        rw [find_publishDeliveredRun, KeyedTable.find_updateWhere, hreceipt]
        simp [hother]
    · exact .inr h

/-- The run waits for the delivery of its publication, or is published already. -/
structure InDelivery (runId publicationId : ℕ) (db : Database) : Prop where
  receipts : ∀ id receipt, db.outbox.find id = some receipt →
    receipt.publicationId = publicationId → receipt.sourceRunId = runId ∧
      (receipt.status = .delivered ↔ receipt.deliveredAt ≠ none)
  run : db.runStatus runId = some .published ∨
    ∃ outboxId, AwaitsDelivery runId publicationId outboxId db

/-- A run in delivery is closed. -/
theorem InDelivery.runClosed (h : InDelivery runId publicationId db) : RunClosed runId db := by
  rcases h.run with hpublished | ⟨id, hready, receipt, hreceipt, hpublication, hundelivered⟩
  · exact .inl ⟨.published, hpublished, .inl rfl⟩
  · obtain ⟨hsource, hagree⟩ := h.receipts id receipt hreceipt hpublication
    refine .inr ⟨hready, id, receipt, hreceipt, hsource, hundelivered, fun now => ?_⟩
    have hreconcilable : receipt.Reconcilable publicationId := by
      refine ⟨hpublication, hundelivered, ?_⟩
      have hopen : receipt.status ≠ .delivered := fun hstatus => hagree.mp hstatus hundelivered
      revert hopen
      cases receipt.status <;> decide
    rw [hpublication]
    unfold markDataPublicationOutboxReconciled
    -- the receipt that is found first is of the publication, and so of the run
    cases hselected : (db.outbox.selectWhere fun _ receipt =>
        receipt.Reconcilable publicationId).head? with
    | none =>
      have hmem : (id, receipt) ∈ db.outbox.selectWhere fun _ receipt =>
          receipt.Reconcilable publicationId :=
        KeyedTable.mem_selectWhere.mpr ⟨hreceipt, hreconcilable⟩
      exact absurd (List.head?_eq_none_iff.mp hselected) (List.ne_nil_of_mem hmem)
    | some entry =>
      obtain ⟨hentry, hof⟩ := KeyedTable.mem_selectWhere.mp (List.mem_of_mem_head? hselected)
      refine (runStatus_publishDeliveredRun entry.2 { db with outbox := _ } hready).trans ?_
      rw [if_pos (h.receipts entry.1 entry.2 hentry hof.1).1]

/-- Calls of dispatchers and reconcilers keep a run in delivery. -/
theorem InDelivery.deliveryStep (h : InDelivery runId publicationId db) (call : DeliveryCall) :
    InDelivery runId publicationId (deliveryStep host db call) := by
  refine ⟨fun id receipt' hreceipt' hpublication => ?_, ?_⟩
  · cases hfind : db.outbox.find id with
    | none => exact nomatch (find_deliveryStep_eq_none call hfind).symm.trans hreceipt'
    | some receipt =>
      have horigin := (Originates.databaseStep host db call.call).receipts id receipt' hreceipt'
      obtain ⟨old, hold, hlasts⟩ : ∃ old, db.outbox.find id = some old ∧ old.Lasts receipt' := by
        cases horigin with
        | lasted old hold hlasts => exact ⟨old, hold, hlasts⟩
        | inserted now input target run hcall => cases call <;> exact nomatch hcall
      obtain rfl : receipt = old := Option.some.inj (hfind.symm.trans hold)
      obtain ⟨hsource, hagree⟩ :=
        h.receipts id receipt hfind (hlasts.publicationId_eq.symm.trans hpublication)
      refine ⟨hlasts.sourceRun_eq.trans hsource, ?_⟩
      obtain ⟨found, hfound, heffect⟩ := deliveryStep_effect host call hfind
      obtain rfl : found = receipt' := Option.some.inj (hfound.symm.trans hreceipt')
      rcases heffect with rfl | heffect
      · exact hagree
      · exact heffect.delivered_iff hagree
  · rcases h.run with hpublished | ⟨outboxId, hawaits⟩
    · refine .inl ?_
      have hkeeps := (keepsTerminalRuns_step_iff host db call.call).mpr (by cases call <;> exact id)
      exact hkeeps runId .published hpublished (.inl rfl)
    · exact (hawaits.deliveryStep (fun id receipt hreceipt hpublication =>
        (h.receipts id receipt hreceipt hpublication).1) call).imp_right fun hlater =>
          ⟨outboxId, hlater⟩

/-- Runs of such calls do. -/
theorem InDelivery.runSteps (h : InDelivery runId publicationId db) (host : HostFunctions)
    (calls : List DeliveryCall) :
    InDelivery runId publicationId (runSteps (LetletmeData.deliveryStep host) db calls) :=
  runSteps_invariant (fun _ call hdb => hdb.deliveryStep call) db calls h

/-- The activation of what was left puts the run in delivery. -/
theorem LeftForRecovery.activated {input : ActivatePublicationInput} {now : ℕ} {later : Database}
    (h : LeftForRecovery input db) (hactivated : activatePublication now input db = .ok later) :
    InDelivery input.sourceRunId input.publicationId later := by
  obtain ⟨⟨target, run, hallowed⟩, outbox, hinsert, rfl⟩ :=
    activatePublication_eq_ok.mp hactivated
  obtain ⟨outboxId, houtboxId, hunused, hnone⟩ := h.receipt
  have hfresh : ¬ ∃ entry ∈ db.outbox.entries, entry.2.publicationId = input.publicationId := by
    rintro ⟨entry, hentry, hsame⟩
    exact hnone entry.1 entry.2 (KeyedTable.mem_entries_iff.mp hentry) hsame
  rw [insertReceipt, houtboxId] at hinsert
  dsimp only at hinsert
  rw [if_neg hfresh, if_pos hunused] at hinsert
  obtain rfl := Except.ok.inj hinsert
  refine ⟨fun id receipt hreceipt hpublication => ?_, .inr ⟨outboxId, ?_, ?_⟩⟩
  · change (db.outbox.insertAbsent _ _).find id = some receipt at hreceipt
    rw [KeyedTable.find_insertAbsent] at hreceipt
    rcases Option.or_eq_some_iff.mp hreceipt with hold | ⟨-, hnew⟩
    · exact absurd hpublication (hnone id receipt hold)
    · split at hnew
      · obtain rfl := Option.some.inj hnew
        simp [activationReceipt]
      · cases hnew
  · simp [Database.runStatus, KeyedTable.find_updateWhere, hallowed.run_found, activatedRun,
      houtboxId]
  · exact ⟨activationReceipt now input, KeyedTable.find_insertAbsent_self hunused, rfl, rfl⟩

end Delivery

end LetletmeData
