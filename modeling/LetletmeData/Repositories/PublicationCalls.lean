import LetletmeData.Library.Runs
import LetletmeData.Repositories.DataPublicationOutbox

/-!
# Calls on the publication tables

Which calls there are, and what each of them can do.
-/

namespace LetletmeData

open LetletmeData.Library

/-! ## Calls on the publication tables

Every call of the two repositories is atomic, so a history of the tables is a list of calls
with the times, identifiers and inputs they carry.
-/

/-- The calls of the repositories on runs, publications, items and receipts. -/
inductive DatabaseCall where
  | startRun (runId : ℕ) (input : StartSyncRunInput)
  | finishRun (runId : ℕ) (status : FinishedRunStatus) (publicationId : Option (Option ℕ))
  | failRun (runId : ℕ)
  | preparePublication (now : ℕ) (input : PreparePublicationInput)
  | stagePublicationItems (publicationId : ℕ) (items : List DatasetPublicationItemInput)
  | activatePublication (now : ℕ) (input : ActivatePublicationInput)
  | failPublication (now publicationId : ℕ)
  | skipPublication (now publicationId : ℕ)
  | claimOutbox (dbNow owner : ℕ) (limit leaseMs publicationId : Option ℕ)
  | markOutboxStage (outboxId owner : ℕ) (stage : OutboxStage)
  | markOutboxDelivered (now outboxId owner : ℕ)
  | markOutboxReconciled (now publicationId : ℕ)
  | releaseOutbox (now outboxId owner : ℕ) (retryDelayMs : Option ℤ)
  | failOutbox (outboxId owner : ℕ)

/-- The tables a claim leaves: it commits only when every claimed receipt was loaded. -/
def claimedTables (host : HostFunctions) (dbNow owner : ℕ)
    (limit leaseMs publicationId : Option ℕ) (db : Database) : Except RepositoryError Database :=
  (claimDataPublicationOutbox host dbNow owner limit leaseMs publicationId db).map Prod.fst

/-- One call; a transaction that throws is rolled back. -/
def databaseStep (host : HostFunctions) (db : Database) : DatabaseCall → Database
  | .startRun runId input => commit (startRun runId input) db
  | .finishRun runId status publicationId => commit (finishRun runId status publicationId) db
  | .failRun runId => failRun runId db
  | .preparePublication now input => (preparePublication now input db).1
  | .stagePublicationItems publicationId items =>
    commit (stagePublicationItems publicationId items) db
  | .activatePublication now input => commit (activatePublication now input) db
  | .failPublication now publicationId => commit (failPublication now publicationId) db
  | .skipPublication now publicationId => commit (skipPublication now publicationId) db
  | .claimOutbox dbNow owner limit leaseMs publicationId =>
    commit (claimedTables host dbNow owner limit leaseMs publicationId) db
  | .markOutboxStage outboxId owner stage =>
    (markDataPublicationOutboxStage outboxId owner stage db).1
  | .markOutboxDelivered now outboxId owner =>
    (markDataPublicationOutboxDelivered now outboxId owner db).1
  | .markOutboxReconciled now publicationId =>
    (markDataPublicationOutboxReconciled now publicationId db).1
  | .releaseOutbox now outboxId owner retryDelayMs =>
    (releaseDataPublicationOutbox now outboxId owner retryDelayMs db).1
  | .failOutbox outboxId owner => (failDataPublicationOutbox outboxId owner db).1

section MarketContexts

/-! Calls that publish an empty market context. -/

/-- The run that fetches market contexts. -/
def contextRun : StartSyncRunInput :=
  { provider := "fpl", lane := "market", scope := "market", season := some season2526,
    eventId := none, mode := "snapshot", trigger := "scheduler" }

/-- Prepare a context for a source run. -/
def prepareContext (id runId : ℕ) : PreparePublicationInput :=
  { publicationId := id, dataset := .market, season := season2526, eventId := none,
    sourceRunId := runId, manifest := none }

/-- An empty context. -/
def emptyContext : DatasetPublicationItemInput :=
  { name := "context"
    payload :=
      { canonicalJson := "{}", stringify := "{}", postgresJsonbCanonicalJson := "{}" }
    count := 0
    checksum := contextDigest }

/-- Activate an empty context, with a receipt if one is named. -/
def activateContext (id revision runId : ℕ) (outboxId : Option ℕ) : ActivatePublicationInput :=
  { publicationId := id, dataset := .market, season := season2526, eventId := none,
    sourceRunId := runId, manifest := contextManifest id revision, outboxId := outboxId }

/-- Start a run and stage an empty context for it. -/
def stageContext (id runId : ℕ) : List DatabaseCall :=
  [.startRun runId contextRun, .preparePublication 0 (prepareContext id runId),
    .stagePublicationItems id [emptyContext]]

end MarketContexts

/-! ## What each call can do

One lemma for each call of the repositories that may write: the checks that passed and the
tables it leaves. Histories of the tables are argued about through these lemmas alone.
-/

section CallSpecs

variable {db written : Database}

/-- A started run is inserted once; a matching restart changes nothing. -/
theorem startRun_spec {runId : ℕ} {input : StartSyncRunInput}
    (h : startRun runId input db = .ok written) :
    written = db ∨
      (db.runs.find runId = none ∧
        written = { db with
          runs := db.runs.insertAbsent runId
            { identity := input, status := .running, publicationId := none } }) := by
  unfold startRun at h
  split at h
  · exact .inl (by simpa [pure, Except.pure] using (throwIf_bind_eq_ok.mp h).2.symm)
  next hfind =>
    exact .inr ⟨hfind, by simpa [pure, Except.pure] using (throwIf_bind_eq_ok.mp h).2.symm⟩

/-- A run is finished from a status that is not terminal, or again with the same status. -/
theorem finishRun_spec {runId : ℕ} {status : FinishedRunStatus}
    {publicationId : Option (Option ℕ)}
    (h : finishRun runId status publicationId db = .ok written) :
    ∃ run, db.runs.find runId = some run ∧
      (run.status = status.status ∨ run.status ∈ nonTerminalRunStatuses) ∧
      written = { db with
        runs := db.runs.updateWhere (fun id _ => id = runId) fun run =>
          { run with
            status := status.status
            publicationId := publicationId.getD run.publicationId } } := by
  simp only [finishRun, orThrow_bind_eq_ok, throwIf_bind_eq_ok, pure, Except.pure,
    Except.ok.injEq] at h
  obtain ⟨run, hfind, hstatus, -, rfl⟩ := h
  exact ⟨run, hfind, by tauto, rfl⟩

/-- Staging items writes the items of a known publication and nothing else. -/
theorem stagePublicationItems_spec {publicationId : ℕ} {items : List DatasetPublicationItemInput}
    (h : stagePublicationItems publicationId items db = .ok written) :
    ∃ stored, written = { db with items := stored } := by
  simp only [stagePublicationItems, throwIf_bind_eq_ok, pure, Except.pure,
    Except.ok.injEq] at h
  exact ⟨_, h.2.2.symm⟩

/-- What an activation requires of the tables. -/
structure ActivationAllowed (input : ActivatePublicationInput) (db : Database)
    (target : DatasetPublication) (run : SyncRun) : Prop where
  target_found : db.publications.find input.publicationId = some target
  scope_eq : target.scope = input.scope
  sourceRun_eq : target.sourceRunId = input.sourceRunId
  open_status : target.status = .staging ∨ target.status = .active
  manifest_matches : input.ManifestMatches target.revision
  item_proof : input.outboxId.isSome → input.ItemProof db
  not_superseded : ¬ input.Superseded db target.revision
  run_found : db.runs.find input.sourceRunId = some run
  run_unbound : ∀ bound ∈ run.publicationId, bound = input.publicationId
  run_status : run.status = .published ∨ run.status ∈ nonTerminalRunStatuses

/-- The checks pass exactly on what an activation requires. -/
theorem checkActivation_eq_ok {input : ActivatePublicationInput} :
    checkActivation input db = .ok () ↔ ∃ target run, ActivationAllowed input db target run := by
  simp only [checkActivation, orThrow_bind_eq_ok, throwIf_bind_eq_ok, throwIf_eq_ok]
  constructor
  · rintro ⟨target, hfind, hscope, hopen, hmanifest, hproof, hnewest, run, hrun, hbound, hstatus⟩
    exact ⟨target, run, hfind, by tauto, by tauto, by tauto, by tauto, by tauto, hnewest, hrun,
      by simpa using hbound, by tauto⟩
  · rintro ⟨target, run, h⟩
    refine ⟨target, h.target_found, ?_, ?_, not_not.mpr h.manifest_matches, ?_,
      h.not_superseded, run, h.run_found, ?_, ?_⟩
    · simp [h.scope_eq, h.sourceRun_eq]
    · exact fun hclosed => h.open_status.elim hclosed.1 hclosed.2
    · exact fun hmissing => hmissing.2 (h.item_proof hmissing.1)
    · simpa using h.run_unbound
    · exact fun hclosed => h.run_status.elim hclosed.1 hclosed.2

/-- A new receipt needs an identifier that no other publication's receipt has. -/
def ReceiptFits (input : ActivatePublicationInput) (db : Database) : Prop :=
  ∀ outboxId ∈ input.outboxId,
    (∀ entry ∈ db.outbox.entries, entry.2.publicationId ≠ input.publicationId) →
      db.outbox.find outboxId = none

/-- A receipt is inserted, kept or not asked for when it fits, and only then. -/
theorem insertReceipt_eq_ok {now : ℕ} {input : ActivatePublicationInput} :
    (∃ outbox, insertReceipt now input db = .ok outbox) ↔ ReceiptFits input db := by
  unfold insertReceipt ReceiptFits
  split
  next hnone => simp [hnone]
  next outboxId hsome =>
    simp only [hsome, Option.mem_some_iff, forall_eq']
    split
    next hpresent =>
      obtain ⟨entry, hentry, heq⟩ := hpresent
      exact ⟨fun _ habsent => absurd heq (habsent entry hentry), fun _ => ⟨_, rfl⟩⟩
    next habsent =>
      have hall : ∀ entry ∈ db.outbox.entries, entry.2.publicationId ≠ input.publicationId :=
        fun entry hentry heq => habsent ⟨entry, hentry, heq⟩
      by_cases hfind : db.outbox.find outboxId = none <;> simp [hfind]
      simpa using hall

/-- An activation that returns passed its checks and wrote the publications, the source run
and perhaps a receipt. -/
theorem activatePublication_eq_ok {now : ℕ} {input : ActivatePublicationInput} :
    activatePublication now input db = .ok written ↔
      (∃ target run, ActivationAllowed input db target run) ∧
        ∃ outbox, insertReceipt now input db = .ok outbox ∧
          written = { db with
            publications := activatedPublications now input db
            runs := db.runs.updateWhere (fun id _ => id = input.sourceRunId) (activatedRun input)
            outbox := outbox } := by
  rw [← checkActivation_eq_ok]
  unfold activatePublication
  cases hcheck : checkActivation input db with
  | error error => simp [bind, Except.bind]
  | ok _ =>
    cases hreceipt : insertReceipt now input db with
    | error error => simp [bind, Except.bind]
    | ok outbox => simp [bind, Except.bind, pure, Except.pure, eq_comm]

/-- Failing either closes a staging row or changes nothing. -/
theorem failPublication_spec {now publicationId : ℕ}
    (h : failPublication now publicationId db = .ok written) :
    written = db ∨ ∃ row, written =
      closeStaging publicationId (·.failedAt now) (nonTerminalRunStatuses ++ [.failed]) .failed
        row db := by
  simp only [failPublication, orThrow_bind_eq_ok] at h
  obtain ⟨row, -, h⟩ := h
  split at h
  · exact .inr ⟨row, by simpa [pure, Except.pure] using h.symm⟩
  · exact .inl (by simpa [pure, Except.pure] using (throwIf_bind_eq_ok.mp h).2.symm)

/-- Skipping either closes a staging row or changes nothing. -/
theorem skipPublication_spec {now publicationId : ℕ}
    (h : skipPublication now publicationId db = .ok written) :
    written = db ∨ ∃ row, written =
      closeStaging publicationId (·.skippedAt now) (nonTerminalRunStatuses ++ [.skipped]) .skipped
        row db := by
  simp only [skipPublication, orThrow_bind_eq_ok] at h
  obtain ⟨row, -, h⟩ := h
  split at h
  · exact .inr ⟨row, by simpa [pure, Except.pure] using h.symm⟩
  · exact .inl (by simpa [pure, Except.pure] using (throwIf_bind_eq_ok.mp h).2.symm)

/-- A staging row is inserted under a fresh revision, or only the revision is used up. -/
theorem insertStaging_spec (now : ℕ) (input : PreparePublicationInput) (db : Database) :
    (insertStaging now input db).1 = { db with nextRevision := db.nextRevision + 1 } ∨
      (db.publications.find input.publicationId = none ∧
        (insertStaging now input db).1 = { db with
          nextRevision := db.nextRevision + 1
          publications := db.publications.insertAbsent input.publicationId
            (stagingRow now db.nextRevision input) }) := by
  unfold insertStaging
  split
  · exact .inl rfl
  next hfind =>
    split
    · exact .inr ⟨hfind, rfl⟩
    · exact .inl rfl

/-- A new identifier is prepared under the next revision, after the removal of expired rows. -/
theorem preparePublication_of_absent {now : ℕ} {input : PreparePublicationInput}
    {prepared : PreparedDatasetPublication}
    (habsent : db.publications.find input.publicationId = none)
    (h : (preparePublication now input db).2 = .ok prepared) :
    prepared = ⟨input.publicationId, db.nextRevision, .staging⟩ ∧
      (preparePublication now input db).1 = { cleanupExpired now db with
        nextRevision := db.nextRevision + 1
        publications := (cleanupExpired now db).publications.insertAbsent input.publicationId
          (stagingRow now db.nextRevision input) } := by
  have hcleaned : (cleanupExpired now db).publications.find input.publicationId = none := by
    rw [Option.eq_none_iff_forall_ne_some]
    intro row hrow
    exact nomatch habsent.symm.trans (KeyedTable.find_of_find_deleteWhere hrow).1
  unfold preparePublication at h ⊢
  split at h
  next hid =>
    rw [if_pos hid]
    rw [insertStaging, hcleaned] at h ⊢
    dsimp only at h ⊢
    split at h
    next hreferences =>
      rw [if_pos hreferences]
      exact ⟨(Except.ok.inj h).symm, rfl⟩
    · exact nomatch h
  · exact nomatch h

/-- Preparing never takes back a revision. -/
theorem le_nextRevision_preparePublication (now : ℕ) (input : PreparePublicationInput)
    (db : Database) : db.nextRevision ≤ (preparePublication now input db).1.nextRevision := by
  unfold preparePublication
  split
  · rcases insertStaging_spec now input (cleanupExpired now db) with heq | ⟨-, heq⟩ <;>
      rw [heq] <;> exact Nat.le_succ _
  · exact le_rfl

/-- What a claim loads is what its receipt delivers. -/
theorem manifest_of_loadPreparedPublication {host : HostFunctions} {publicationId : ℕ}
    {manifest : DataPublicationManifest} {delivery : PreparedDelivery}
    (h : loadPreparedPublication host db publicationId (some manifest) = .ok delivery) :
    delivery.manifest = manifest := by
  obtain ⟨parsed, hparsed, hitems⟩ := orThrow_bind_eq_ok.mp h
  obtain ⟨items, -, hdelivery⟩ := bind_eq_ok.mp hitems
  obtain rfl := Except.ok.inj hdelivery
  obtain ⟨hsome, -⟩ := Option.filter_eq_some_iff.mp hparsed
  exact (Option.some.inj hsome).symm

/-- A claim writes only the outbox. -/
theorem claimedTables_spec {host : HostFunctions} {dbNow owner : ℕ}
    {limit leaseMs publicationId : Option ℕ}
    (h : claimedTables host dbNow owner limit leaseMs publicationId db = .ok written) :
    ∃ outbox, written = { db with outbox := outbox } := by
  unfold claimedTables at h
  cases hclaim : claimDataPublicationOutbox host dbNow owner limit leaseMs publicationId db with
  | error error => simp [hclaim, Except.map] at h
  | ok result =>
    rw [hclaim] at h
    simp only [Except.map, Except.ok.injEq] at h
    simp only [claimDataPublicationOutbox, throwIf_bind_eq_ok] at hclaim
    obtain ⟨-, -, hclaim⟩ := hclaim
    revert hclaim
    cases List.mapM (claimReceipt host owner db) _ with
    | error error => simp [bind, Except.bind]
    | ok claimed =>
      simp only [bind, Except.bind, pure, Except.pure, Except.ok.injEq]
      rintro rfl
      exact ⟨_, h.symm⟩

end CallSpecs

end LetletmeData
