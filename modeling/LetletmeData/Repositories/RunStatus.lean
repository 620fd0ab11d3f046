import LetletmeData.Repositories.PublicationCalls

/-!
# Terminal source runs

A source run that is published, failed or skipped should stay so. Every call guards its write
of the status column, but an activation with an outbox receipt moves a published run back to
ready to publish, and then keeps the delivered receipt that would have finished it.
-/

namespace LetletmeData

open LetletmeData.Library

/-- The statuses a source run ends in. -/
def SyncRunStatus.Terminal (status : SyncRunStatus) : Prop :=
  status = .published ∨ status = .failed ∨ status = .skipped

instance (status : SyncRunStatus) : Decidable status.Terminal :=
  inferInstanceAs (Decidable (_ ∨ _))

/-- A status that is not terminal is none of the terminal ones. -/
theorem not_terminal_of_mem {status : SyncRunStatus} (h : status ∈ nonTerminalRunStatuses) :
    ¬ status.Terminal := by
  revert h
  cases status <;> decide

/-- Every run that was terminal has the same status afterwards. -/
def KeepsTerminalRuns (db later : Database) : Prop :=
  ∀ runId status, db.runStatus runId = some status → status.Terminal →
    later.runStatus runId = some status

namespace KeepsTerminalRuns

variable {db later : Database}

/-- Nothing changes in no time. -/
theorem refl (db : Database) : KeepsTerminalRuns db db := fun _ _ h _ => h

/-- Terminal statuses are kept over consecutive histories. -/
theorem trans (first second third : Database) (h : KeepsTerminalRuns first second)
    (h' : KeepsTerminalRuns second third) : KeepsTerminalRuns first third :=
  fun runId status hstatus hterminal =>
    h' runId status (h runId status hstatus hterminal) hterminal

/-- A call that leaves the runs keeps them. -/
theorem of_runs_eq (h : later.runs = db.runs) : KeepsTerminalRuns db later := by
  intro runId status hstatus _
  rw [← hstatus, Database.runStatus, Database.runStatus, h]

/-- An update of runs keeps the terminal ones whose status it writes back. -/
theorem of_updateWhere (selected : ℕ → SyncRun → Prop) [∀ id run, Decidable (selected id run)]
    (write : SyncRun → SyncRun) (hruns : later.runs = db.runs.updateWhere selected write)
    (hwrite : ∀ id run, db.runs.find id = some run → selected id run → run.status.Terminal →
      (write run).status = run.status) : KeepsTerminalRuns db later := by
  intro runId status hstatus hterminal
  obtain ⟨run, hrun, rfl⟩ := Option.map_eq_some_iff.mp hstatus
  rw [Database.runStatus, hruns, KeyedTable.find_updateWhere, hrun, Option.map_some,
    Option.map_some]
  split
  next hselected => rw [hwrite runId run hrun hselected hterminal]
  · rfl

/-- Moving a run keeps terminal statuses when the only terminal one it moves from is the one
it moves to. -/
theorem moveRun {runId : ℕ} {allowed : List SyncRunStatus} {write : SyncRun → SyncRun}
    (h : ∀ run, run.status ∈ allowed → run.status.Terminal → (write run).status = run.status) :
    KeepsTerminalRuns db (db.moveRun runId allowed write) :=
  of_updateWhere (fun id run => id = runId ∧ run.status ∈ allowed) write rfl
    fun _ run _ hselected hterminal => h run hselected.2 hterminal

/-- A terminal status among the open ones and one more is that one. -/
theorem eq_of_mem_append {status last : SyncRunStatus}
    (h : status ∈ nonTerminalRunStatuses ++ [last]) (hterminal : status.Terminal) :
    last = status := by
  rcases List.mem_append.mp h with hopen | hlast
  · exact absurd hterminal (not_terminal_of_mem hopen)
  · exact (List.mem_singleton.mp hlast).symm

/-- Starting a run adds one. -/
theorem startRun (runId : ℕ) (input : StartSyncRunInput) (db : Database) :
    KeepsTerminalRuns db (commit (startRun runId input) db) := by
  refine commit_induction (refl db) fun written h => ?_
  rcases startRun_spec h with rfl | ⟨-, rfl⟩
  · exact refl _
  · intro other status hstatus _
    obtain ⟨run, hrun, rfl⟩ := Option.map_eq_some_iff.mp hstatus
    simp [Database.runStatus, KeyedTable.find_insertAbsent_of_find hrun]

/-- Finishing moves a run from an open status or to its own. -/
theorem finishRun (runId : ℕ) (status : FinishedRunStatus) (publicationId : Option (Option ℕ))
    (db : Database) : KeepsTerminalRuns db (commit (finishRun runId status publicationId) db) := by
  refine commit_induction (refl db) fun written h => ?_
  obtain ⟨run, hfind, hfrom, rfl⟩ := finishRun_spec h
  refine of_updateWhere (fun id _ => id = runId)
    (fun run => { run with
      status := status.status
      publicationId := publicationId.getD run.publicationId }) rfl
    fun id other hother hid hterminal => ?_
  obtain rfl : id = runId := hid
  obtain rfl : run = other := Option.some.inj (hfind.symm.trans hother)
  exact (hfrom.resolve_right fun hopen => not_terminal_of_mem hopen hterminal).symm

/-- Closing a staging publication moves its run to the status the closing is about. -/
theorem closeStaging (publicationId : ℕ) (write : DatasetPublication → DatasetPublication)
    (last : SyncRunStatus) (row : DatasetPublication) (db : Database) :
    KeepsTerminalRuns db
      (closeStaging publicationId write (nonTerminalRunStatuses ++ [last]) last row db) :=
  trans _ { db with publications := _ } _ (of_runs_eq rfl) (moveRun fun _ => eq_of_mem_append)

/-- Failing a publication fails its run, unless that is terminal otherwise. -/
theorem failPublication (now publicationId : ℕ) (db : Database) :
    KeepsTerminalRuns db (commit (failPublication now publicationId) db) := by
  refine commit_induction (refl db) fun written h => ?_
  rcases failPublication_spec h with rfl | ⟨row, rfl⟩
  · exact refl _
  · exact closeStaging _ _ _ _ _

/-- Skipping a publication skips its run, unless that is terminal otherwise. -/
theorem skipPublication (now publicationId : ℕ) (db : Database) :
    KeepsTerminalRuns db (commit (skipPublication now publicationId) db) := by
  refine commit_induction (refl db) fun written h => ?_
  rcases skipPublication_spec h with rfl | ⟨row, rfl⟩
  · exact refl _
  · exact closeStaging _ _ _ _ _

/-- Delivering a receipt publishes its run, which keeps every terminal status. -/
theorem publishDeliveredRun (receipt : DataPublicationOutbox) (db : Database) :
    KeepsTerminalRuns db (publishDeliveredRun receipt db) := by
  refine moveRun fun run hallowed hterminal => ?_
  change SyncRunStatus.published = run.status
  revert hallowed hterminal
  generalize run.status = status
  cases status <;> decide

/-- Preparing a publication detaches runs from removed ones and leaves their status. -/
theorem preparePublication (now : ℕ) (input : PreparePublicationInput) (db : Database) :
    KeepsTerminalRuns db (preparePublication now input db).1 := by
  unfold LetletmeData.preparePublication
  split
  · refine trans _ (cleanupExpired now db) _ ?_ ?_
    · exact of_updateWhere (fun _ run => ∃ id ∈ run.publicationId, id ∈ expiredPublications now db)
        (fun run => { run with publicationId := none }) rfl fun _ _ _ _ _ => rfl
    rcases insertStaging_spec now input (cleanupExpired now db) with h | ⟨-, h⟩ <;>
      exact of_runs_eq (by rw [h])
  · exact refl db

end KeepsTerminalRuns

/-- An activation that returns, inserts a receipt if there is none, and finds its source run
published already. -/
def RepublishesRun (db : Database) : DatabaseCall → Prop
  | .activatePublication _ input =>
    (∃ target run, ActivationAllowed input db target run) ∧ ReceiptFits input db ∧
      input.outboxId.isSome = true ∧ db.runStatus input.sourceRunId = some .published
  | _ => False

/-- An activation keeps the terminal runs unless it asks for a receipt for a published run. -/
theorem keepsTerminalRuns_activatePublication_iff (now : ℕ) (input : ActivatePublicationInput)
    (db : Database) :
    KeepsTerminalRuns db (commit (activatePublication now input) db) ↔
      ¬ RepublishesRun db (.activatePublication now input) := by
  cases hresult : activatePublication now input db with
  | error error =>
    have hnot : ¬ ((∃ target run, ActivationAllowed input db target run) ∧
        ReceiptFits input db) := by
      rintro ⟨hallowed, hfits⟩
      obtain ⟨outbox, houtbox⟩ := insertReceipt_eq_ok.mpr hfits
      rw [activatePublication_eq_ok.mpr ⟨hallowed, outbox, houtbox, rfl⟩] at hresult
      exact nomatch hresult
    rw [commit_of_error hresult]
    exact ⟨fun _ h => hnot ⟨h.1, h.2.1⟩, fun _ => KeepsTerminalRuns.refl db⟩
  | ok written =>
    rw [commit_of_ok hresult]
    obtain ⟨hallowed, outbox, houtbox, rfl⟩ := activatePublication_eq_ok.mp hresult
    have hfits : ReceiptFits input db := insertReceipt_eq_ok.mp ⟨outbox, houtbox⟩
    obtain ⟨target, run, h⟩ := hallowed
    have hstatus : db.runStatus input.sourceRunId = some run.status := by
      simp [Database.runStatus, h.run_found]
    constructor
    · rintro hkeeps ⟨-, -, hreceipt, hpublished⟩
      have hlater := hkeeps input.sourceRunId .published hpublished (.inl rfl)
      simp [Database.runStatus, KeyedTable.find_updateWhere, h.run_found, activatedRun,
        hreceipt] at hlater
    · intro hnot
      refine .of_updateWhere (fun id _ => id = input.sourceRunId) _ rfl fun id other hother hid hterminal => ?_
      obtain rfl : id = input.sourceRunId := hid
      obtain rfl : run = other := Option.some.inj (h.run_found.symm.trans hother)
      -- the only terminal status an activation accepts is published
      have hpublished : run.status = .published :=
        h.run_status.resolve_right fun hopen => not_terminal_of_mem hopen hterminal
      have hreceipt : ¬ input.outboxId.isSome = true := fun hsome =>
        hnot ⟨⟨target, run, h⟩, hfits, hsome, hstatus.trans (congrArg some hpublished)⟩
      simp [activatedRun, hreceipt, hpublished]

/-- A call keeps the terminal runs exactly when it is no such activation. -/
theorem keepsTerminalRuns_step_iff (host : HostFunctions) (db : Database) (call : DatabaseCall) :
    KeepsTerminalRuns db (databaseStep host db call) ↔ ¬ RepublishesRun db call := by
  cases call with
  | activatePublication now input => exact keepsTerminalRuns_activatePublication_iff now input db
  | startRun runId input => exact iff_of_true (.startRun runId input db) id
  | finishRun runId status publicationId =>
    exact iff_of_true (.finishRun runId status publicationId db) id
  | failRun runId => exact iff_of_true (.moveRun fun _ => KeepsTerminalRuns.eq_of_mem_append) id
  | preparePublication now input => exact iff_of_true (.preparePublication now input db) id
  | failPublication now publicationId => exact iff_of_true (.failPublication now publicationId db) id
  | skipPublication now publicationId => exact iff_of_true (.skipPublication now publicationId db) id
  | stagePublicationItems publicationId items =>
    refine iff_of_true (commit_induction (.refl db) fun written h => ?_) id
    obtain ⟨stored, rfl⟩ := stagePublicationItems_spec h
    exact .of_runs_eq rfl
  | claimOutbox dbNow owner limit leaseMs publicationId =>
    refine iff_of_true (commit_induction (.refl db) fun written h => ?_) id
    obtain ⟨outbox, rfl⟩ := claimedTables_spec h
    exact .of_runs_eq rfl
  | markOutboxDelivered now outboxId owner =>
    refine iff_of_true ?_ id
    simp only [databaseStep, markDataPublicationOutboxDelivered]
    split
    · exact .trans _ (writeOwnedReceipt outboxId owner (·.closed now) db) _ (.of_runs_eq rfl)
        (.publishDeliveredRun _ _)
    · exact .refl db
  | markOutboxReconciled now publicationId =>
    refine iff_of_true ?_ id
    simp only [databaseStep, markDataPublicationOutboxReconciled]
    split
    · exact .trans _ { db with outbox := _ } _ (.of_runs_eq rfl) (.publishDeliveredRun _ _)
    · exact .refl db
  | markOutboxStage | releaseOutbox | failOutbox =>
    exact iff_of_true (.of_runs_eq rfl) id

/-- Over every stretch of every history, terminal runs keep their status exactly when no step
activates a publication of a published run with an outbox receipt. -/
theorem terminalRuns_kept_iff (host : HostFunctions) (seasons : List ℕ) (events : List (ℕ × ℕ))
    (calls : List DatabaseCall) :
    (∀ before stretch after, calls = before ++ stretch ++ after →
      KeepsTerminalRuns (runSteps (databaseStep host) (.initial seasons events) before)
        (runSteps (databaseStep host) (.initial seasons events) (before ++ stretch))) ↔
      EveryStep (databaseStep host) (fun db call => ¬ RepublishesRun db call)
        (.initial seasons events) calls := by
  rw [← everyStep_iff_forall_stretch KeepsTerminalRuns.refl KeepsTerminalRuns.trans]
  exact everyStep_congr (fun _ _ (_ : True) => trivial)
    (fun db call _ => keepsTerminalRuns_step_iff host db call) _ _ trivial

/-- A context that is activated, delivered and activated once more leaves its published run
ready to publish. -/
theorem republished_context_run :
    ¬ KeepsTerminalRuns
      (runSteps (databaseStep contextHost) (.initial [2025] [])
        (stageContext (contextId 1) 1 ++
          [.activatePublication 0 (activateContext (contextId 1) 1 1 (some 1)),
            .claimOutbox 0 7 none none none, .markOutboxDelivered 1 1 7]))
      (runSteps (databaseStep contextHost) (.initial [2025] [])
        (stageContext (contextId 1) 1 ++
          [.activatePublication 0 (activateContext (contextId 1) 1 1 (some 1)),
            .claimOutbox 0 7 none none none, .markOutboxDelivered 1 1 7] ++
          [.activatePublication 2 (activateContext (contextId 1) 1 1 (some 2))])) := by
  intro h
  have hlater := h 1 .published (by decide) (.inl rfl)
  revert hlater
  decide

end LetletmeData
