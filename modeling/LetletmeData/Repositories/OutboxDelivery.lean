import LetletmeData.Repositories.PublicationCalls

/-!
# Leases of outbox receipts

Claims, the reports of dispatchers and the repairs of reconcilers act on the same receipts. A
report needs the lease token on the row and every call needs an undelivered row, so a delivered
receipt is final and a dispatcher that was taken over is fenced out. A claim loads its whole
batch or nothing.
-/

namespace LetletmeData

open LetletmeData.Library

/-- The calls of dispatchers and reconcilers on outbox receipts. -/
inductive DeliveryCall where
  | claim (dbNow owner : ℕ) (limit leaseMs publicationId : Option ℕ)
  | markStage (outboxId owner : ℕ) (stage : OutboxStage)
  | markDelivered (now outboxId owner : ℕ)
  | markReconciled (now publicationId : ℕ)
  | release (now outboxId owner : ℕ) (retryDelayMs : Option ℤ)
  | fail (outboxId owner : ℕ)

namespace DeliveryCall

/-- The call on the tables. -/
def call : DeliveryCall → DatabaseCall
  | claim dbNow owner limit leaseMs publicationId =>
    .claimOutbox dbNow owner limit leaseMs publicationId
  | markStage outboxId owner stage => .markOutboxStage outboxId owner stage
  | markDelivered now outboxId owner => .markOutboxDelivered now outboxId owner
  | markReconciled now publicationId => .markOutboxReconciled now publicationId
  | release now outboxId owner retryDelayMs => .releaseOutbox now outboxId owner retryDelayMs
  | fail outboxId owner => .failOutbox outboxId owner

/-- The lease token a report carries; claims and reconcilers carry none. -/
def token : DeliveryCall → Option ℕ
  | markStage _ owner _ => some owner
  | markDelivered _ _ owner => some owner
  | release _ _ owner _ => some owner
  | fail _ owner => some owner
  | claim .. => none
  | markReconciled .. => none

/-- The token a claim leases its batch to. -/
def claimant : DeliveryCall → Option ℕ
  | claim _ owner _ _ _ => some owner
  | _ => none

end DeliveryCall

/-- One call on the receipts. -/
def deliveryStep (host : HostFunctions) (db : Database) (call : DeliveryCall) : Database :=
  databaseStep host db call.call

/-- The due receipts in the order claims take them. -/
def dueReceipts (dbNow : ℕ) (publicationId : Option ℕ) (db : Database) :
    List (ℕ × DataPublicationOutbox) :=
  db.outbox.selectSorted (fun _ receipt => receipt.Claimable dbNow publicationId) availableBefore

section Claims

variable {host : HostFunctions} {dbNow owner : ℕ} {limit leaseMs publicationId : Option ℕ}
  {db written : Database} {claimed : List ClaimedDataPublicationOutbox}

/-- The arguments a claim accepts. -/
def ClaimAccepted (limit leaseMs : Option ℕ) : Prop :=
  (1 ≤ limit.getD 20 ∧ limit.getD 20 ≤ 100) ∧
    1 ≤ leaseMs.getD 60000 ∧ leaseMs.getD 60000 ≤ maxSafeInteger

instance (limit leaseMs : Option ℕ) : Decidable (ClaimAccepted limit leaseMs) :=
  inferInstanceAs (Decidable (_ ∧ _))

/-- A claim returns when its arguments are accepted and its whole batch is loaded. -/
theorem claimDataPublicationOutbox_eq_ok :
    claimDataPublicationOutbox host dbNow owner limit leaseMs publicationId db =
        .ok (written, claimed) ↔
      ClaimAccepted limit leaseMs ∧
        List.Forall₂ (fun entry row => claimReceipt host owner db entry = .ok row)
          ((dueReceipts dbNow publicationId db).take (limit.getD 20)) claimed ∧
        written = { db with
          outbox := db.outbox.updateWhere
            (fun id _ => id ∈
              ((dueReceipts dbNow publicationId db).take (limit.getD 20)).map Prod.fst)
            fun receipt =>
              { receipt with
                leaseOwner := some owner
                leaseExpiresAt := some (dbNow + leaseMs.getD 60000)
                attempts := receipt.attempts + 1 } } := by
  rw [← mapM_eq_ok]
  simp only [claimDataPublicationOutbox, throwIf_bind_eq_ok, ClaimAccepted, ← not_lt, not_or,
    dueReceipts]
  cases hclaimed : List.mapM (claimReceipt host owner db) _ with
  | error error => simp [bind, Except.bind]
  | ok rows =>
    simp only [bind, Except.bind, pure, Except.pure, Except.ok.injEq, Prod.mk.injEq]
    tauto

/-- A claimed receipt is returned under its own identifier and the claim's token. -/
theorem claimReceipt_eq_ok {entry : ℕ × DataPublicationOutbox}
    {row : ClaimedDataPublicationOutbox} :
    claimReceipt host owner db entry = .ok row ↔
      ∃ delivery, loadPreparedPublication host db entry.2.publicationId (some entry.2.manifest) =
        .ok delivery ∧ row = ⟨entry.1, owner, entry.2.publicationId, delivery⟩ := by
  unfold claimReceipt
  cases loadPreparedPublication host db entry.2.publicationId (some entry.2.manifest) with
  | error error => simp [bind, Except.bind]
  | ok delivery => simp [bind, Except.bind, pure, Except.pure, eq_comm]

/-- A claim returns the identifiers of its batch. -/
theorem outboxIds_of_forall₂ {batch : List (ℕ × DataPublicationOutbox)}
    (h : List.Forall₂ (fun entry row => claimReceipt host owner db entry = .ok row) batch
      claimed) : claimed.map (·.outboxId) = batch.map Prod.fst := by
  induction h with
  | nil => rfl
  | cons hrow _ ih =>
    obtain ⟨delivery, -, rfl⟩ := claimReceipt_eq_ok.mp hrow
    simp [ih]

/-- Every receipt a claim returns was due. -/
theorem claimable_of_mem_batch {id : ℕ} {receipt : DataPublicationOutbox} {count : ℕ}
    (hid : id ∈ ((dueReceipts dbNow publicationId db).take count).map Prod.fst)
    (hreceipt : db.outbox.find id = some receipt) : receipt.Claimable dbNow publicationId := by
  obtain ⟨entry, hentry, rfl⟩ := List.mem_map.mp hid
  obtain ⟨hfind, hdue⟩ := KeyedTable.mem_selectSorted.mp (List.mem_of_mem_take hentry)
  obtain rfl : entry.2 = receipt := Option.some.inj (hfind.symm.trans hreceipt)
  exact hdue

end Claims

/-- What a call that writes a receipt found and left there. -/
structure DeliveryCall.Effect (call : DeliveryCall) (receipt receipt' : DataPublicationOutbox) :
    Prop where
  undelivered : receipt.deliveredAt = none
  owner_of_token : ∀ owner, call.token = some owner → receipt.leaseOwner = some owner
  leaseOwner : receipt'.leaseOwner = receipt.leaseOwner ∨ receipt'.leaseOwner = none ∨
    (receipt'.leaseOwner = call.claimant ∧ receipt'.leaseOwner ≠ none)
  delivered_iff : (receipt.status = .delivered ↔ receipt.deliveredAt ≠ none) →
    (receipt'.status = .delivered ↔ receipt'.deliveredAt ≠ none)

section Effects

variable {host : HostFunctions} {db : Database} {id : ℕ} {receipt : DataPublicationOutbox}

/-- An owned report finds its receipt and rewrites it, or leaves every receipt alone. -/
theorem find_writeOwnedReceipt (outboxId owner : ℕ)
    (write : DataPublicationOutbox → DataPublicationOutbox) :
    (writeOwnedReceipt outboxId owner write db).outbox.find id =
      (db.outbox.find id).map fun receipt =>
        if id = outboxId ∧ receipt.OwnedBy owner then write receipt else receipt :=
  KeyedTable.find_updateWhere _ _ _

/-- The effect of a report on a receipt that is found. -/
theorem writeOwnedReceipt_effect {call : DeliveryCall} {outboxId owner : ℕ}
    {write : DataPublicationOutbox → DataPublicationOutbox}
    (hreceipt : db.outbox.find id = some receipt)
    (htoken : call.token = some owner)
    (hlease : (write receipt).leaseOwner = receipt.leaseOwner ∨ (write receipt).leaseOwner = none)
    (hdelivered : receipt.deliveredAt = none →
      ((write receipt).status = .delivered ↔ (write receipt).deliveredAt ≠ none)) :
    ∃ receipt', (writeOwnedReceipt outboxId owner write db).outbox.find id = some receipt' ∧
      (receipt' = receipt ∨ call.Effect receipt receipt') := by
  rw [find_writeOwnedReceipt, hreceipt, Option.map_some]
  refine ⟨_, rfl, ?_⟩
  split
  next howned =>
    refine .inr ⟨howned.2.2, ?_, hlease.imp_right .inl, fun _ => hdelivered howned.2.2⟩
    rintro other hother
    rw [htoken] at hother
    exact hother ▸ howned.2.1
  · exact .inl rfl

/-- Publishing the source run leaves the receipts alone. -/
theorem find_publishDeliveredRun (row : DataPublicationOutbox) :
    (publishDeliveredRun row db).outbox.find id = db.outbox.find id := rfl

/-- Every call leaves a receipt in place, unchanged or with an effect on it. -/
theorem deliveryStep_effect (host : HostFunctions) (call : DeliveryCall)
    (hreceipt : db.outbox.find id = some receipt) :
    ∃ receipt', (deliveryStep host db call).outbox.find id = some receipt' ∧
      (receipt' = receipt ∨ call.Effect receipt receipt') := by
  cases call with
  | claim dbNow owner limit leaseMs publicationId =>
    simp only [deliveryStep, DeliveryCall.call, databaseStep, commit, claimedTables]
    cases hclaim : claimDataPublicationOutbox host dbNow owner limit leaseMs publicationId db with
    | error error => exact ⟨receipt, hreceipt, .inl rfl⟩
    | ok result =>
      obtain ⟨-, -, hwritten⟩ := claimDataPublicationOutbox_eq_ok.mp
        (show _ = Except.ok (result.1, result.2) from hclaim)
      simp only [Except.map, hwritten, KeyedTable.find_updateWhere, hreceipt, Option.map_some,
        Option.some.injEq, exists_eq_left']
      split
      next hbatch =>
        have hdue := claimable_of_mem_batch hbatch hreceipt
        refine .inr ⟨hdue.2.1, fun _ h => (by cases h), .inr (.inr ⟨rfl, Option.some_ne_none _⟩),
          fun h => h⟩
      · exact .inl rfl
  | markStage outboxId owner stage =>
    refine writeOwnedReceipt_effect hreceipt rfl (.inl rfl) fun hnone => ?_
    cases stage <;> simp [OutboxStage.status, hnone]
  | release now outboxId owner retryDelayMs =>
    exact writeOwnedReceipt_effect hreceipt rfl (.inr rfl) fun hnone => by simp [hnone]
  | fail outboxId owner =>
    exact writeOwnedReceipt_effect hreceipt rfl (.inr rfl) fun hnone => by simp [hnone]
  | markDelivered now outboxId owner =>
    simp only [deliveryStep, DeliveryCall.call, databaseStep, markDataPublicationOutboxDelivered]
    split
    · rw [find_publishDeliveredRun]
      exact writeOwnedReceipt_effect hreceipt rfl (.inr rfl) fun _ => by
        simp [DataPublicationOutbox.closed]
    · exact ⟨receipt, hreceipt, .inl rfl⟩
  | markReconciled now publicationId =>
    simp only [deliveryStep, DeliveryCall.call, databaseStep, markDataPublicationOutboxReconciled]
    split
    · rw [find_publishDeliveredRun]
      simp only [KeyedTable.find_updateWhere, hreceipt, Option.map_some, Option.some.injEq,
        exists_eq_left']
      split
      next hreconcilable =>
        exact .inr ⟨hreconcilable.2.1, fun _ h => (by cases h), .inr (.inl rfl), fun _ => by
          simp [DataPublicationOutbox.closed]⟩
      · exact .inl rfl
    · exact ⟨receipt, hreceipt, .inl rfl⟩

/-- No call of a dispatcher or reconciler adds a receipt. -/
theorem find_deliveryStep_eq_none (call : DeliveryCall) (hnone : db.outbox.find id = none) :
    (deliveryStep host db call).outbox.find id = none := by
  have howned : ∀ outboxId owner write,
      (writeOwnedReceipt outboxId owner write db).outbox.find id = none := by
    intro outboxId owner write
    rw [find_writeOwnedReceipt, hnone]
    rfl
  cases call with
  | claim dbNow owner limit leaseMs publicationId =>
    simp only [deliveryStep, DeliveryCall.call, databaseStep, commit, claimedTables]
    cases hclaim : claimDataPublicationOutbox host dbNow owner limit leaseMs publicationId db with
    | error error => exact hnone
    | ok result =>
      obtain ⟨-, -, hwritten⟩ := claimDataPublicationOutbox_eq_ok.mp
        (show _ = Except.ok (result.1, result.2) from hclaim)
      simp [Except.map, hwritten, KeyedTable.find_updateWhere, hnone]
  | markStage | release | fail => exact howned _ _ _
  | markDelivered now outboxId owner =>
    simp only [deliveryStep, DeliveryCall.call, databaseStep, markDataPublicationOutboxDelivered]
    split
    · exact howned _ _ _
    · exact hnone
  | markReconciled now publicationId =>
    simp only [deliveryStep, DeliveryCall.call, databaseStep, markDataPublicationOutboxReconciled]
    split
    · rw [find_publishDeliveredRun, KeyedTable.find_updateWhere, hnone]
      rfl
    · exact hnone

/-- A report with a token changes a receipt only while the token is on its lease. -/
theorem leaseOwner_of_changed {call : DeliveryCall} {owner : ℕ} (htoken : call.token = some owner)
    (hchanged : (deliveryStep host db call).outbox.find id ≠ db.outbox.find id) :
    ∃ receipt, db.outbox.find id = some receipt ∧ receipt.leaseOwner = some owner := by
  cases hreceipt : db.outbox.find id with
  | none => exact absurd ((find_deliveryStep_eq_none call hreceipt).trans hreceipt.symm) hchanged
  | some receipt =>
    obtain ⟨receipt', hreceipt', hsame | heffect⟩ := deliveryStep_effect host call hreceipt
    · exact absurd (hreceipt'.trans (hsame ▸ hreceipt.symm)) hchanged
    · exact ⟨receipt, rfl, heffect.owner_of_token owner htoken⟩

end Effects

/-- A receipt has the status delivered when it has a delivery time. -/
def Database.DeliveredAgree (db : Database) : Prop :=
  ∀ id receipt, db.outbox.find id = some receipt →
    (receipt.status = .delivered ↔ receipt.deliveredAt ≠ none)

namespace Database.DeliveredAgree

variable {db later : Database}

/-- Receipts that were there before agree as before. -/
theorem of_find (h : db.DeliveredAgree)
    (hfind : ∀ id receipt, later.outbox.find id = some receipt →
      db.outbox.find id = some receipt) : later.DeliveredAgree :=
  fun id receipt hreceipt => h id receipt (hfind id receipt hreceipt)

/-- A call of a dispatcher or reconciler keeps the agreement. -/
theorem deliveryStep (h : db.DeliveredAgree) (host : HostFunctions) (call : DeliveryCall) :
    (deliveryStep host db call).DeliveredAgree := by
  intro id receipt' hreceipt'
  cases hreceipt : db.outbox.find id with
  | none => exact nomatch (find_deliveryStep_eq_none call hreceipt).symm.trans hreceipt'
  | some receipt =>
    obtain ⟨found, hfound, heffect⟩ := deliveryStep_effect host call hreceipt
    obtain rfl : found = receipt' := Option.some.inj (hfound.symm.trans hreceipt')
    rcases heffect with rfl | heffect
    · exact h id found hreceipt
    · exact heffect.delivered_iff (h id receipt hreceipt)

/-- An activation inserts at most a receipt that is not delivered. -/
theorem insertReceipt (h : db.DeliveredAgree) {now : ℕ} {input : ActivatePublicationInput}
    {outbox : KeyedTable ℕ DataPublicationOutbox}
    (houtbox : insertReceipt now input db = .ok outbox) (hlater : later.outbox = outbox) :
    later.DeliveredAgree := by
  intro id receipt hreceipt
  rw [hlater] at hreceipt
  unfold LetletmeData.insertReceipt at houtbox
  split at houtbox
  · obtain rfl := Except.ok.inj houtbox
    exact h id receipt hreceipt
  · split at houtbox
    · obtain rfl := Except.ok.inj houtbox
      exact h id receipt hreceipt
    · split at houtbox
      · obtain rfl := Except.ok.inj houtbox
        rw [KeyedTable.find_insertAbsent] at hreceipt
        rcases Option.or_eq_some_iff.mp hreceipt with hold | ⟨-, hnew⟩
        · exact h id receipt hold
        · split at hnew
          · obtain rfl := Option.some.inj hnew
            simp [activationReceipt]
          · cases hnew
      · cases houtbox

/-- Every call keeps the agreement. -/
theorem step (h : db.DeliveredAgree) (host : HostFunctions) (call : DatabaseCall) :
    (databaseStep host db call).DeliveredAgree := by
  have hsame : ∀ later : Database, later.outbox = db.outbox → later.DeliveredAgree :=
    fun later houtbox => h.of_find fun id receipt hreceipt => houtbox ▸ hreceipt
  cases call with
  | startRun runId input =>
    refine commit_induction h fun written hwritten => ?_
    rcases startRun_spec hwritten with rfl | ⟨-, rfl⟩ <;> exact hsame _ rfl
  | finishRun runId status publicationId =>
    refine commit_induction h fun written hwritten => ?_
    obtain ⟨run, -, -, rfl⟩ := finishRun_spec hwritten
    exact hsame _ rfl
  | failRun runId => exact hsame _ rfl
  | preparePublication now input =>
    simp only [databaseStep, preparePublication]
    split
    · refine h.of_find fun id receipt hreceipt => ?_
      have hkept : (cleanupExpired now db).outbox.find id = some receipt := by
        rcases insertStaging_spec now input (cleanupExpired now db) with heq | ⟨-, heq⟩ <;>
          rwa [heq] at hreceipt
      exact (KeyedTable.find_of_find_deleteWhere hkept).1
    · exact h
  | stagePublicationItems publicationId items =>
    refine commit_induction h fun written hwritten => ?_
    obtain ⟨stored, rfl⟩ := stagePublicationItems_spec hwritten
    exact hsame _ rfl
  | activatePublication now input =>
    refine commit_induction h fun written hwritten => ?_
    obtain ⟨-, outbox, houtbox, rfl⟩ := activatePublication_eq_ok.mp hwritten
    exact h.insertReceipt houtbox rfl
  | failPublication now publicationId =>
    refine commit_induction h fun written hwritten => ?_
    rcases failPublication_spec hwritten with rfl | ⟨row, rfl⟩ <;> exact hsame _ rfl
  | skipPublication now publicationId =>
    refine commit_induction h fun written hwritten => ?_
    rcases skipPublication_spec hwritten with rfl | ⟨row, rfl⟩ <;> exact hsame _ rfl
  | claimOutbox dbNow owner limit leaseMs publicationId =>
    exact h.deliveryStep host (.claim dbNow owner limit leaseMs publicationId)
  | markOutboxStage outboxId owner stage =>
    exact h.deliveryStep host (.markStage outboxId owner stage)
  | markOutboxDelivered now outboxId owner =>
    exact h.deliveryStep host (.markDelivered now outboxId owner)
  | markOutboxReconciled now publicationId =>
    exact h.deliveryStep host (.markReconciled now publicationId)
  | releaseOutbox now outboxId owner retryDelayMs =>
    exact h.deliveryStep host (.release now outboxId owner retryDelayMs)
  | failOutbox outboxId owner => exact h.deliveryStep host (.fail outboxId owner)

/-- Reached tables agree. -/
theorem reached (host : HostFunctions) (seasons : List ℕ) (events : List (ℕ × ℕ))
    (calls : List DatabaseCall) :
    (runSteps (databaseStep host) (.initial seasons events) calls).DeliveredAgree :=
  runSteps_invariant (fun _ call h => h.step host call) _ calls
    (fun _ _ => nofun)

end Database.DeliveredAgree

section Runs

variable {host : HostFunctions} {db : Database} {id : ℕ} {receipt : DataPublicationOutbox}

/-- A receipt with a delivery time is final. -/
theorem find_delivered_runSteps (hreceipt : db.outbox.find id = some receipt)
    (hdelivered : receipt.deliveredAt ≠ none) (calls : List DeliveryCall) :
    (runSteps (deliveryStep host) db calls).outbox.find id = some receipt := by
  refine runSteps_invariant
    (fun db call (h : db.outbox.find id = some receipt) => ?_) db calls hreceipt
  obtain ⟨receipt', hreceipt', rfl | heffect⟩ := deliveryStep_effect host call h
  · exact hreceipt'
  · exact absurd heffect.undelivered hdelivered

/-- A lease that is not the owner's never becomes the owner's without a claim by the owner. -/
theorem leaseOwner_ne_runSteps {owner : ℕ} (calls : List DeliveryCall)
    (hclaims : ∀ call ∈ calls, call.claimant ≠ some owner)
    (hother : ∀ receipt, db.outbox.find id = some receipt → receipt.leaseOwner ≠ some owner) :
    ∀ receipt, (runSteps (deliveryStep host) db calls).outbox.find id = some receipt →
      receipt.leaseOwner ≠ some owner := by
  induction calls generalizing db with
  | nil => exact hother
  | cons call rest ih =>
    refine ih (fun other hmem => hclaims other (List.mem_cons_of_mem call hmem)) ?_
    intro receipt' hreceipt'
    cases hreceipt : db.outbox.find id with
    | none => exact nomatch (find_deliveryStep_eq_none call hreceipt).symm.trans hreceipt'
    | some receipt =>
      obtain ⟨found, hfound, heffect⟩ := deliveryStep_effect host call hreceipt
      obtain rfl : found = receipt' := Option.some.inj (hfound.symm.trans hreceipt')
      rcases heffect with rfl | heffect
      · exact hother found hreceipt
      · rcases heffect.leaseOwner with hsame | hnone | ⟨hclaim, -⟩
        · exact hsame ▸ hother receipt hreceipt
        · simp [hnone]
        · exact hclaim ▸ hclaims call List.mem_cons_self

end Runs

/-- Deliveries are leased and final. From any reachable tables and after any calls of
dispatchers and reconcilers: the reports that can change a receipt all carry one token; a
receipt that was delivered is as it was and is never claimed; and while nobody claims with the
token of a lease that is gone, reports with that token change nothing. -/
theorem outboxDelivery_leased (host : HostFunctions) (seasons : List ℕ) (events : List (ℕ × ℕ))
    (setup : List DatabaseCall) (calls : List DeliveryCall) :
    let start := runSteps (databaseStep host) (.initial seasons events) setup
    let later := runSteps (deliveryStep host) start calls
    (∀ outboxId first second owner owner', first.token = some owner →
        second.token = some owner' →
        (deliveryStep host later first).outbox.find outboxId ≠ later.outbox.find outboxId →
        (deliveryStep host later second).outbox.find outboxId ≠ later.outbox.find outboxId →
          owner = owner') ∧
      (∀ outboxId receipt, start.outbox.find outboxId = some receipt →
        receipt.status = .delivered →
          later.outbox.find outboxId = some receipt ∧
            ∀ dbNow owner limit leaseMs publicationId written claimed,
              claimDataPublicationOutbox host dbNow owner limit leaseMs publicationId later =
                  .ok (written, claimed) →
                ∀ row ∈ claimed, row.outboxId ≠ outboxId) ∧
      ∀ outboxId receipt owner, start.outbox.find outboxId = some receipt →
        receipt.leaseOwner ≠ some owner → (∀ call ∈ calls, call.claimant ≠ some owner) →
          ∀ report, report.token = some owner →
            (deliveryStep host later report).outbox.find outboxId =
              later.outbox.find outboxId := by
  intro start later
  refine ⟨?_, ?_, ?_⟩
  · intro outboxId first second owner owner' hfirst hsecond hchanged hchanged'
    obtain ⟨receipt, hreceipt, howner⟩ := leaseOwner_of_changed hfirst hchanged
    obtain ⟨receipt', hreceipt', howner'⟩ := leaseOwner_of_changed hsecond hchanged'
    obtain rfl : receipt = receipt' := Option.some.inj (hreceipt.symm.trans hreceipt')
    exact Option.some.inj (howner.symm.trans howner')
  · intro outboxId receipt hreceipt hstatus
    have hdelivered : receipt.deliveredAt ≠ none :=
      (Database.DeliveredAgree.reached host seasons events setup outboxId receipt hreceipt).mp
        hstatus
    have hlater : later.outbox.find outboxId = some receipt :=
      find_delivered_runSteps hreceipt hdelivered calls
    refine ⟨hlater, ?_⟩
    rintro dbNow owner limit leaseMs publicationId written claimed hclaim row hrow rfl
    obtain ⟨-, hrows, -⟩ := claimDataPublicationOutbox_eq_ok.mp hclaim
    have hbatch : row.outboxId ∈ claimed.map (·.outboxId) := List.mem_map.mpr ⟨row, hrow, rfl⟩
    rw [outboxIds_of_forall₂ hrows] at hbatch
    exact hdelivered (claimable_of_mem_batch hbatch hlater).2.1
  · intro outboxId receipt owner hreceipt hother hclaims report htoken
    by_contra hchanged
    obtain ⟨found, hfound, howner⟩ := leaseOwner_of_changed htoken hchanged
    refine leaseOwner_ne_runSteps calls hclaims (fun stored hstored => ?_) found hfound howner
    obtain rfl : receipt = stored := Option.some.inj (hreceipt.symm.trans hstored)
    exact hother

/-- A claim with arguments the call accepts. -/
structure ClaimCall where
  dbNow : ℕ
  owner : ℕ
  limit : Option ℕ
  leaseMs : Option ℕ
  publicationId : Option ℕ
  accepted : ClaimAccepted limit leaseMs

/-- What a claim returns or throws. -/
def ClaimCall.result (host : HostFunctions) (db : Database) (call : ClaimCall) :
    Except RepositoryError (Database × List ClaimedDataPublicationOutbox) :=
  claimDataPublicationOutbox host call.dbNow call.owner call.limit call.leaseMs call.publicationId
    db

/-- The tables after a claim. -/
def claimCallStep (host : HostFunctions) (db : Database) (call : ClaimCall) : Database :=
  deliveryStep host db
    (.claim call.dbNow call.owner call.limit call.leaseMs call.publicationId)

/-- The receipt's publication has a valid manifest and a proven payload for every item. -/
def Loadable (host : HostFunctions) (db : Database) (receipt : DataPublicationOutbox) : Bool :=
  (loadPreparedPublication host db receipt.publicationId (some receipt.manifest)).isOk

/-- A claim leases and returns the loadable due receipts, in due order and up to its limit. -/
def ServesLoadable (host : HostFunctions) (db : Database) (call : ClaimCall) : Prop :=
  ∃ written claimed, call.result host db = .ok (written, claimed) ∧
    claimed.map (·.outboxId) =
      (((dueReceipts call.dbNow call.publicationId db).filter fun entry =>
        Loadable host db entry.2).take (call.limit.getD 20)).map Prod.fst ∧
    ∀ row ∈ claimed, (written.outbox.find row.outboxId).bind (·.leaseOwner) = some call.owner

/-- No unloadable receipt is among the first due ones, up to the limit. -/
def BatchLoadable (host : HostFunctions) (db : Database) (call : ClaimCall) : Prop :=
  ∀ entry ∈ (dueReceipts call.dbNow call.publicationId db).take (call.limit.getD 20),
    Loadable host db entry.2 = true

/-- When the first values pass a test, filtering keeps them first. -/
theorem take_filter_of_forall {Value : Type*} {test : Value → Bool} {values : List Value}
    {count : ℕ} (h : ∀ value ∈ values.take count, test value = true) :
    (values.filter test).take count = values.take count := by
  induction values generalizing count with
  | nil => rfl
  | cons value rest ih =>
    cases count with
    | zero => simp
    | succ count =>
      rw [List.take_succ_cons] at h ⊢
      rw [List.filter_cons_of_pos (h value List.mem_cons_self), List.take_succ_cons,
        ih fun other hother => h other (List.mem_cons_of_mem value hother)]

/-- A receipt is returned exactly when it can be loaded. -/
theorem exists_claimReceipt_iff {host : HostFunctions} {owner : ℕ} {db : Database}
    {entry : ℕ × DataPublicationOutbox} :
    (∃ row, claimReceipt host owner db entry = .ok row) ↔ Loadable host db entry.2 = true := by
  simp only [claimReceipt_eq_ok, Loadable]
  cases loadPreparedPublication host db entry.2.publicationId (some entry.2.manifest) with
  | error error => simp [Except.isOk, Except.toBool]
  | ok delivery => simp [Except.isOk, Except.toBool]

/-- A claim serves the loadable receipts exactly when its batch holds no other. -/
theorem servesLoadable_iff (host : HostFunctions) (db : Database) (call : ClaimCall) :
    ServesLoadable host db call ↔ BatchLoadable host db call := by
  have hload : (∃ claimed, ((dueReceipts call.dbNow call.publicationId db).take
      (call.limit.getD 20)).mapM (claimReceipt host call.owner db) = .ok claimed) ↔
      BatchLoadable host db call :=
    exists_mapM_eq_ok.trans (forall₂_congr fun _ _ => exists_claimReceipt_iff)
  simp only [mapM_eq_ok] at hload
  constructor
  · rintro ⟨written, claimed, hresult, -, -⟩
    obtain ⟨-, hrows, -⟩ := claimDataPublicationOutbox_eq_ok.mp hresult
    exact hload.mp ⟨claimed, hrows⟩
  · intro hbatch
    obtain ⟨claimed, hrows⟩ := hload.mpr hbatch
    have hids := outboxIds_of_forall₂ hrows
    refine ⟨_, claimed, claimDataPublicationOutbox_eq_ok.mpr ⟨call.accepted, hrows, rfl⟩, ?_, ?_⟩
    · rw [hids, take_filter_of_forall hbatch]
    · intro row hrow
      have hid : row.outboxId ∈ claimed.map (·.outboxId) := List.mem_map.mpr ⟨row, hrow, rfl⟩
      rw [hids] at hid
      obtain ⟨entry, hentry, heq⟩ := List.mem_map.mp hid
      have hfind := (KeyedTable.mem_selectSorted.mp (List.mem_of_mem_take hentry)).1
      simp only [KeyedTable.find_updateWhere, ← heq, hfind, Option.map_some]
      rw [if_pos (heq ▸ hid)]
      rfl

/-- In a sequence of claims on any tables, every claim serves the loadable due receipts exactly
when no claim has an unloadable receipt among the first due ones up to its limit. -/
theorem everyStep_servesLoadable_iff (host : HostFunctions) (db : Database)
    (calls : List ClaimCall) :
    EveryStep (claimCallStep host) (ServesLoadable host) db calls ↔
      EveryStep (claimCallStep host) (BatchLoadable host) db calls :=
  everyStep_congr (fun _ _ (_ : True) => trivial)
    (fun db call _ => servesLoadable_iff host db call) db calls trivial

/-- Two activated contexts, the payload of the first replaced after its activation. -/
def brokenContextTables : Database :=
  runSteps (databaseStep contextHost) (.initial [2025] [])
    (stageContext (contextId 1) 1 ++
      [.activatePublication 0 (activateContext (contextId 1) 1 1 (some 1)),
        .stagePublicationItems (contextId 1)
          [{ emptyContext with
              payload :=
                { canonicalJson := "[]", stringify := "[]",
                  postgresJsonbCanonicalJson := "[]" } }]] ++
      stageContext (contextId 2) 2 ++
      [.activatePublication 0 (activateContext (contextId 2) 2 2 (some 2))])

/-- A claim of the two contexts. -/
def contextClaim : ClaimCall :=
  { dbNow := 0, owner := 7, limit := none, leaseMs := none, publicationId := none,
    accepted := by decide }

/-- The receipt of the second context is due and loadable, and the first one's blocks it. -/
theorem broken_context_blocks_claim :
    ((brokenContextTables.outbox.find 2).map fun receipt =>
        decide (receipt.Claimable contextClaim.dbNow none) &&
          Loadable contextHost brokenContextTables receipt) = some true ∧
      ¬ ServesLoadable contextHost brokenContextTables contextClaim := by
  refine ⟨by decide, ?_⟩
  rintro ⟨written, claimed, hresult, -⟩
  have hthrows : (contextClaim.result contextHost brokenContextTables).isOk = false := by decide
  rw [hresult] at hthrows
  exact nomatch hthrows

end LetletmeData
