import LetletmeData.Content.TranscriptCredits

/-!
# Every billed credit is committed

Each transaction of a run keeps its account: what an answer bills is added to the trace, to the
run and to the committed row at once, or, at a pending poll, to the open units. So a run that has
ended lacks credits exactly when it failed without a billed answer after a billed pending poll.
-/

namespace LetletmeData

open LetletmeData.Library

namespace TranscriptWorld

variable {world stored : TranscriptWorld} {runId : String}

/-! ### The budgets -/

/-- Committing or releasing writes to the tables only. -/
theorem transitionBudgets_eq_ok {committed : Bool} {dbNow : ℤ}
    (hcall : world.transitionBudgets runId committed dbNow = .ok stored) :
    ∃ tables, stored = { world with tables } ∧
      RowsRewritten (transitionRow runId committed dbNow) world.tables tables := by
  obtain ⟨⟨tables, count⟩, htransition, hstored⟩ := bind_eq_ok.mp hcall
  cases hstored
  exact ⟨tables, rfl, rowsRewritten_transition htransition⟩

/-- A reconciliation writes to the tables only. -/
theorem reconcileCredits_eq_ok {actualUnits : ℚ} {dbNow : ℤ} {done : Bool}
    (hcall : world.reconcileCredits runId actualUnits dbNow = .ok (stored, done)) :
    ∃ tables, stored = { world with tables } ∧
      RowsRewritten (reconcileRow runId .supadata actualUnits dbNow) world.tables tables := by
  obtain ⟨⟨tables, found⟩, hreconcile, hstored⟩ := bind_eq_ok.mp hcall
  cases hstored
  exact ⟨tables, rfl, (rowsRewritten_reconcile hreconcile).1⟩

/-- Committing or releasing touches the run. -/
theorem tablesTouched_transition {tables written : XBudgetTables} {committed : Bool} {dbNow : ℤ}
    (hrewritten : RowsRewritten (transitionRow runId committed dbNow) tables written) :
    TablesTouched runId tables written :=
  .of_rewritten hrewritten (transitionRow_runId runId committed dbNow)
    (transitionRow_ledgerId runId committed dbNow) fun _ hne => if_neg fun hall => hne hall.1

/-- A reconciliation touches the run. -/
theorem tablesTouched_reconcile {tables written : XBudgetTables} {actualUnits : ℚ} {dbNow : ℤ}
    (hrewritten : RowsRewritten (reconcileRow runId .supadata actualUnits dbNow) tables written) :
    TablesTouched runId tables written :=
  .of_rewritten hrewritten (reconcileRow_runId runId .supadata actualUnits dbNow)
    (reconcileRow_ledgerId runId .supadata actualUnits dbNow) fun _ hne =>
      if_neg fun hall => hne hall.1

/-- The active reservation of a run that is reconciled and committed holds the actual units. -/
theorem billed_row {tables reconciled written : XBudgetTables}
    {id : String} {row : BudgetReservation} (h : tables.OnlyOf runId id row) (hactive : row.Active)
    {actualUnits : ℚ} {dbNow : ℤ}
    (hreconciled : RowsRewritten (reconcileRow runId .supadata actualUnits dbNow) tables reconciled)
    (hcommitted : RowsRewritten (transitionRow runId true dbNow) reconciled written) :
    ∃ billed, written.OnlyOf runId id billed ∧ billed.status = .committed ∧
      billed.units = actualUnits := by
  have hrow := (h.rewrite hreconciled (reconcileRow_runId _ _ _ _)
    (reconcileRow_ledgerId _ _ _ _)).rewrite hcommitted (transitionRow_runId _ _ _)
      (transitionRow_ledgerId _ _ _)
  refine ⟨_, hrow, ?_⟩
  rw [reconcileRow, if_pos ⟨h.ofRun, hactive, h.ofProvider⟩]
  rcases hactive with hreserved | hcommitted
  · rw [transitionRow, if_pos ⟨h.ofRun, hreserved⟩]
    exact ⟨rfl, rfl⟩
  · rw [transitionRow, if_neg (by simp [hcommitted])]
    exact ⟨hcommitted, rfl⟩

/-! ### A run whose worker has ended -/

theorem not_open_failed : ¬ RunStatus.failed.Open := by decide

/-- The world with a run, the traces and the tables written, and the worker of the run gone. -/
def closed (world : TranscriptWorld) (runId : String) (run : TranscriptRun)
    (traces : List ProviderTrace) (tables : XBudgetTables) : TranscriptWorld where
  runs := Function.update world.runs runId run
  workers := Function.update world.workers runId none
  traces := traces
  tables := tables

/-- A step of a run: the accounts are kept, other runs are not touched, and the run has nothing
open at an end exactly under a condition. -/
structure Settles (world stored : TranscriptWorld) (runId : String) (condition : Prop) : Prop where
  kept : stored.Kept
  touched : Touched runId world stored
  settled : (¬ (stored.runs runId).status.Open → stored.openPollUnits runId = 0) ↔ condition

section Closed

variable {run : TranscriptRun} {traces : List ProviderTrace} {tables : XBudgetTables}

@[simp] theorem runs_closed : (world.closed runId run traces tables).runs runId = run :=
  Function.update_self ..

@[simp] theorem workers_closed : (world.closed runId run traces tables).workers runId = none :=
  Function.update_self ..

/-- The new trace of a run is its newest. -/
theorem tracesOf_cons_self {trace : ProviderTrace} (htrace : trace.runId = runId) :
    (world.closed runId run (trace :: world.traces) tables).tracesOf runId =
      trace :: world.tracesOf runId := by
  simp [tracesOf, closed, htrace]

/-- The traces of a run, with one of another run. -/
theorem tracesOf_cons_of_ne {trace : ProviderTrace} {other : String} (hne : trace.runId ≠ other) :
    (world.closed runId run (trace :: world.traces) tables).tracesOf other =
      world.tracesOf other := by
  simp [tracesOf, closed, hne]

/-- Only the run is touched. -/
theorem touched_closed (htables : TablesTouched runId world.tables tables)
    (htraces : traces = world.traces ∨
      ∃ trace : ProviderTrace, trace.runId = runId ∧ traces = trace :: world.traces) :
    Touched runId world (world.closed runId run traces tables) where
  runs := fun _ hne => Function.update_of_ne hne _ _
  workers := fun _ hne => Function.update_of_ne hne _ _
  traces := by
    intro other hne
    rcases htraces with rfl | ⟨trace, rfl, rfl⟩
    · rfl
    · exact tracesOf_cons_of_ne (Ne.symm hne)
  tables := htables

/-- A closed run whose account is kept keeps everything. -/
theorem Kept.closed (h : world.Kept)
    (htouched : Touched runId world (world.closed runId run traces tables))
    (haccount : (world.closed runId run traces tables).AccountKept runId) :
    (world.closed runId run traces tables).Kept := by
  refine h.of_touched htouched haccount fun worker hworker => ?_
  rw [workers_closed] at hworker
  cases hworker

/-- After an answer that is no pending poll nothing is open. -/
theorem openPollUnits_of_answer {trace : ProviderTrace} (htrace : trace.runId = runId)
    (hanswer : ¬ PendingPoll trace) :
    (world.closed runId run (trace :: world.traces) tables).openPollUnits runId = 0 := by
  rw [openPollUnits, tracesOf_cons_self htrace, List.takeWhile_cons_of_neg (by simpa using hanswer)]
  rfl

/-- A pending poll adds its units to the open ones. -/
theorem openPollUnits_of_pending {trace : ProviderTrace} (htrace : trace.runId = runId)
    (hpending : PendingPoll trace) :
    (world.closed runId run (trace :: world.traces) tables).openPollUnits runId =
      trace.providerUnits + world.openPollUnits runId := by
  rw [openPollUnits, tracesOf_cons_self htrace, List.takeWhile_cons_of_pos (by simpa using hpending)]
  rfl

/-- A trace adds its units. -/
theorem tracedUnits_closed {trace : ProviderTrace} (htrace : trace.runId = runId) :
    (world.closed runId run (trace :: world.traces) tables).tracedUnits runId =
      trace.providerUnits + world.tracedUnits runId := by
  rw [tracedUnits, tracesOf_cons_self htrace]
  rfl

/-- An answer whose units are committed, with all units before, keeps the accounts. -/
theorem Kept.billed (h : world.Kept) (htables : TablesTouched runId world.tables tables)
    {trace : ProviderTrace} (htrace : trace.runId = runId) (hanswer : ¬ PendingPoll trace)
    {id : String} {row : BudgetReservation} (hrow : tables.OnlyOf runId id row)
    (hstatus : row.status = .committed) {total : ℚ} (hunits : row.units = total)
    (htotal : total = (world.runs runId).providerUnits.getD 0 + trace.providerUnits)
    (hrun : run.providerUnits = some total)
    (hended : run.providerJobId = none → ¬ run.status.Open) :
    Settles world (world.closed runId run (trace :: world.traces) tables) runId True := by
  have hopen : (world.closed runId run (trace :: world.traces) tables).openPollUnits runId = 0 :=
    openPollUnits_of_answer htrace hanswer
  have htouched : Touched runId world (world.closed runId run (trace :: world.traces) tables) :=
    touched_closed htables (Or.inr ⟨trace, htrace, rfl⟩)
  refine ⟨h.closed htouched ?_, htouched, iff_true_intro fun _ => hopen⟩
  refine .committed id row hrow hstatus ?_ ?_ ?_ (Or.inr (Or.inr hopen)) ?_
  · rw [hopen, add_zero, runs_closed, hrun, hunits]
    rfl
  · rw [tracedUnits_closed htrace, (h.account runId).tracedUnits_eq, runs_closed, hrun,
      Option.getD_some, htotal, add_comm]
  · rw [runs_closed]
    exact hended
  · intro worker hworker
    rw [workers_closed] at hworker
    cases hworker

/-- A pending poll leaves the committed row; its units are open. -/
theorem Kept.parked (h : world.Kept) {trace : ProviderTrace} (htrace : trace.runId = runId)
    (hpending : PendingPoll trace) {jobId : String}
    (hjob : (world.runs runId).providerJobId = some jobId)
    (hopen : (world.runs runId).status.Open)
    (hrun : run.providerUnits =
      some ((world.runs runId).providerUnits.getD 0 + trace.providerUnits))
    (hrunOpen : run.status.Open) (hrunJob : run.providerJobId = some jobId) :
    Settles world (world.closed runId run (trace :: world.traces) world.tables) runId True := by
  have htouched : Touched runId world
      (world.closed runId run (trace :: world.traces) world.tables) :=
    touched_closed (.refl runId world.tables) (Or.inr ⟨trace, htrace, rfl⟩)
  refine ⟨h.closed htouched ?_, htouched, iff_true_intro fun hended => ?_⟩
  · cases h.account runId with
    | unreserved hnone => rw [hnone] at hjob; cases hjob
    | reserved _ _ hnone => rw [hnone] at hjob; cases hjob
    | released _ _ hnone => rw [hnone] at hjob; cases hjob
    | committed id row hrow hstatus hbilled htraced =>
      refine .committed id row hrow hstatus ?_ ?_ ?_ (Or.inr (Or.inl ?_)) ?_
      · rw [openPollUnits_of_pending htrace hpending, runs_closed, hrun, Option.getD_some, ← hbilled]
        ring
      · rw [tracedUnits_closed htrace, htraced, runs_closed, hrun, Option.getD_some, add_comm]
      · rw [runs_closed, hrunJob]
        exact fun hnone => absurd hnone.symm (Option.some_ne_none jobId).symm
      · rw [runs_closed]
        exact hrunOpen
      · intro worker hworker
        rw [workers_closed] at hworker
        cases hworker
  · rw [runs_closed] at hended
    exact absurd hrunOpen hended

/-- A failure without a billed answer releases a reserved row and leaves a committed one. -/
theorem Kept.unbilled (h : world.Kept) (hopen : (world.runs runId).status.Open) {dbNow : ℤ}
    (htables : RowsRewritten (transitionRow runId false dbNow) world.tables tables)
    (hrun : run.providerUnits = (world.runs runId).providerUnits)
    (hjob : run.providerJobId = (world.runs runId).providerJobId) (hfailed : run.status = .failed) :
    Settles world (world.closed runId run world.traces tables) runId
      (world.openPollUnits runId = 0) := by
  have htouched : Touched runId world (world.closed runId run world.traces tables) :=
    touched_closed (tablesTouched_transition htables) (Or.inl rfl)
  have hsettled : (¬ ((world.closed runId run world.traces tables).runs runId).status.Open →
      (world.closed runId run world.traces tables).openPollUnits runId = 0) ↔
        world.openPollUnits runId = 0 := by
    rw [runs_closed, hfailed]
    exact ⟨fun hopen => hopen not_open_failed, fun hopen _ => hopen⟩
  refine ⟨h.closed htouched ?_, htouched, hsettled⟩
  have hidle : ∀ worker ∈ (world.closed runId run world.traces tables).workers runId, False := by
    intro worker hworker
    rw [workers_closed] at hworker
    cases hworker
  cases h.account runId with
  | unreserved hnone hunits htraces hrows =>
    exact .unreserved (by rw [runs_closed, hjob, hnone]) (by rw [runs_closed, hrun, hunits]) htraces
      (hrows.rewrite htables (transitionRow_runId _ _ _)) fun worker hworker =>
        (hidle worker hworker).elim
  | reserved id row hnone hunits htraces hrow hstatus =>
    refine .released id _ (by rw [runs_closed, hjob, hnone]) (by rw [runs_closed, hrun, hunits])
      htraces (hrow.rewrite htables (transitionRow_runId _ _ _) (transitionRow_ledgerId _ _ _)) ?_
      (by rw [runs_closed, hfailed])
    rw [transitionRow, if_pos ⟨hrow.ofRun, hstatus⟩]
    rfl
  | released _ _ _ _ _ _ _ hended =>
    rw [hended] at hopen
    exact absurd hopen not_open_failed
  | committed id row hrow hstatus hbilled htraced =>
    have hsame : transitionRow runId false dbNow row = row := if_neg (by simp [hstatus])
    have hkept := hrow.rewrite htables (transitionRow_runId _ _ _) (transitionRow_ledgerId _ _ _)
    rw [hsame] at hkept
    refine .committed id row hkept hstatus ?_ ?_ ?_ (Or.inl ?_) fun worker hworker =>
      (hidle worker hworker).elim
    · rw [runs_closed, hrun]
      exact hbilled
    · rw [runs_closed, hrun]
      exact htraced
    · rw [runs_closed, hfailed]
      exact fun _ => not_open_failed
    · rw [runs_closed, hfailed]

end Closed

/-! ### The transactions -/

/-- A trace is added when its sequence is new. -/
theorem insertTrace_eq_ok {trace : ProviderTrace} (hcall : world.insertTrace trace = .ok stored) :
    stored = { world with traces := trace :: world.traces } := by
  unfold insertTrace at hcall
  rw [throwIf_bind_eq_ok] at hcall
  cases hcall.2
  rfl

/-- A reservation is reconciled and the run's reservations are committed. -/
def Bills (runId : String) (actualUnits : ℚ) (dbNow : ℤ) (tables written : XBudgetTables) : Prop :=
  ∃ reconciled, RowsRewritten (reconcileRow runId .supadata actualUnits dbNow) tables reconciled ∧
    RowsRewritten (transitionRow runId true dbNow) reconciled written

/-- Billing touches the run only. -/
theorem Bills.touched {tables written : XBudgetTables} {actualUnits : ℚ} {dbNow : ℤ}
    (h : Bills runId actualUnits dbNow tables written) : TablesTouched runId tables written := by
  obtain ⟨reconciled, hreconciled, hcommitted⟩ := h
  have first := tablesTouched_reconcile hreconciled
  have second := tablesTouched_transition hcommitted
  exact ⟨fun other hne hnone => second.noneOf other hne (first.noneOf other hne hnone),
    fun other hne id row hrow => second.onlyOf other hne id row (first.onlyOf other hne id row hrow)⟩

/-- What persisting a result leaves. -/
theorem persistProviderResult_eq_ok {state : RunStatus} {trace : ProviderTrace} {total : ℚ}
    {dbNow : ℤ} (hcall : world.persistProviderResult runId state trace total dbNow = .ok stored) :
    ∃ tables, Bills runId total dbNow world.tables tables ∧ stored.setWorker runId none =
      world.closed runId
        { world.runs runId with
          status := state, providerUnits := some total, completedAt := some dbNow }
        (trace :: world.traces) tables := by
  unfold persistProviderResult at hcall
  rw [throwIf_bind_eq_ok] at hcall
  obtain ⟨traced, htraced, hcall⟩ := bind_eq_ok.mp hcall.2
  obtain ⟨⟨reconciled, done⟩, hreconcile, hcall⟩ := bind_eq_ok.mp hcall
  obtain ⟨committed, hcommit, hcall⟩ := bind_eq_ok.mp hcall
  cases hcall
  obtain rfl := insertTrace_eq_ok htraced
  obtain ⟨middle, rfl, hreconciled⟩ := reconcileCredits_eq_ok hreconcile
  obtain ⟨tables, rfl, hcommitted⟩ := transitionBudgets_eq_ok hcommit
  exact ⟨tables, ⟨middle, hreconciled, hcommitted⟩, rfl⟩

/-- What parking a running run leaves: the first submission bills, a poll does not. -/
theorem parkFormalRunForProviderPoll_eq_ok {jobId : String} {units : ℚ} {nextPollAt dbNow : ℤ}
    {sequence : ℕ} {operation : SupadataOperation} {terminalState : TraceTerminalState}
    {bills : Bool} (hrunning : (world.runs runId).status = .running)
    (hcall : world.parkFormalRunForProviderPoll runId jobId units nextPollAt dbNow sequence
      operation terminalState bills = .ok stored) :
    ∃ tables, (if bills then Bills runId units dbNow world.tables tables
        else tables = world.tables) ∧ stored.setWorker runId none =
      world.closed runId
        { world.runs runId with
          status := .pending, providerJobId := some jobId
          providerUnits := some ((world.runs runId).providerUnits.getD 0 + units) }
        ({ runId, sequence, operation, providerUnits := units, terminalState } :: world.traces)
        tables := by
  unfold parkFormalRunForProviderPoll at hcall
  rw [throwIf_bind_eq_ok, throwIf_bind_eq_ok, throwIf_bind_eq_ok] at hcall
  replace hcall := hcall.2.2.2
  dsimp only at hcall
  rw [if_neg (not_not.mpr hrunning), throwIf_bind_eq_ok, throwIf_bind_eq_ok] at hcall
  replace hcall := hcall.2.2
  cases bills with
  | true =>
    rw [if_pos rfl, throwIf_bind_eq_ok] at hcall
    obtain ⟨⟨reconciled, done⟩, hreconcile, hcall⟩ := bind_eq_ok.mp hcall.2
    rw [throwIf_bind_eq_ok] at hcall
    obtain ⟨committed, hcommit, hcall⟩ := bind_eq_ok.mp hcall.2
    obtain ⟨traced, htraced, hcall⟩ := bind_eq_ok.mp hcall
    cases hcall
    obtain rfl := insertTrace_eq_ok htraced
    obtain ⟨middle, rfl, hreconciled⟩ := reconcileCredits_eq_ok hreconcile
    obtain ⟨tables, rfl, hcommitted⟩ := transitionBudgets_eq_ok hcommit
    exact ⟨tables, by rw [if_pos rfl]; exact ⟨middle, hreconciled, hcommitted⟩, rfl⟩
  | false =>
    rw [if_neg Bool.false_ne_true] at hcall
    obtain ⟨billed, hbilled, hcall⟩ := bind_eq_ok.mp hcall
    obtain rfl := Except.ok.inj hbilled
    obtain ⟨traced, htraced, hcall⟩ := bind_eq_ok.mp hcall
    cases hcall
    obtain rfl := insertTrace_eq_ok htraced
    exact ⟨world.tables, by rw [if_neg Bool.false_ne_true], rfl⟩

/-- What a failure with evidence leaves of an open run. -/
theorem failFormalRun_billed_eq_ok {failureClass : String} {evidence : SupadataFailureEvidence}
    {dbNow : ℤ} (hopen : (world.runs runId).status.Open)
    (hcall : world.failFormalRun runId failureClass (some evidence) dbNow = .ok stored) :
    ∃ sequence tables,
      Bills runId ((world.runs runId).providerUnits.getD 0 + evidence.providerUnits) dbNow
        world.tables tables ∧ stored.setWorker runId none =
      world.closed runId
        { world.runs runId with
          status := .failed
          providerJobId := evidence.providerJobId.or (world.runs runId).providerJobId
          providerUnits :=
            some ((world.runs runId).providerUnits.getD 0 + evidence.providerUnits)
          completedAt := some dbNow }
        ({ runId, sequence, operation := evidence.operation
           providerUnits := evidence.providerUnits, terminalState := .failure failureClass } ::
          world.traces) tables := by
  unfold failFormalRun at hcall
  dsimp only at hcall
  rw [if_neg (not_not.mpr hopen), throwIf_bind_eq_ok, throwIf_bind_eq_ok] at hcall
  obtain ⟨⟨reconciled, done⟩, hreconcile, hcall⟩ := bind_eq_ok.mp hcall.2.2
  rw [throwIf_bind_eq_ok] at hcall
  obtain ⟨committed, hcommit, hcall⟩ := bind_eq_ok.mp hcall.2
  obtain ⟨traced, htraced, hcall⟩ := bind_eq_ok.mp hcall
  cases hcall
  obtain rfl := insertTrace_eq_ok htraced
  obtain ⟨middle, rfl, hreconciled⟩ := reconcileCredits_eq_ok hreconcile
  obtain ⟨tables, rfl, hcommitted⟩ := transitionBudgets_eq_ok hcommit
  exact ⟨_, tables, ⟨middle, hreconciled, hcommitted⟩, rfl⟩

/-- What a failure without evidence leaves of an open run. -/
theorem failFormalRun_unbilled_eq_ok {failureClass : String} {dbNow : ℤ}
    (hopen : (world.runs runId).status.Open)
    (hcall : world.failFormalRun runId failureClass none dbNow = .ok stored) :
    ∃ tables, RowsRewritten (transitionRow runId false dbNow) world.tables tables ∧
      stored.setWorker runId none =
        world.closed runId
          { world.runs runId with status := .failed, completedAt := some dbNow } world.traces
          tables := by
  unfold failFormalRun at hcall
  dsimp only at hcall
  rw [if_neg (not_not.mpr hopen)] at hcall
  obtain ⟨released, hrelease, hcall⟩ := bind_eq_ok.mp hcall
  cases hcall
  obtain ⟨tables, rfl, hreleased⟩ := transitionBudgets_eq_ok hrelease
  exact ⟨tables, hreleased, rfl⟩

/-! ### The steps -/


/-- The run of a worker that may call the provider has an active reservation. -/
theorem Kept.activeRow (h : world.Kept) {worker : TranscriptWorker}
    (hworker : worker ∈ world.workers runId) (hmay : worker.mayCall = true) :
    ∃ id row, world.tables.OnlyOf runId id row ∧ row.Active := by
  cases h.account runId with
  | unreserved _ _ _ _ hidle =>
    rw [hidle worker hworker] at hmay
    exact absurd hmay Bool.false_ne_true
  | reserved id row _ _ _ hrow hstatus => exact ⟨id, row, hrow, Or.inl hstatus⟩
  | released _ _ _ _ _ _ _ hrun =>
    have hrunning := (h.worker runId worker hworker).running
    rw [hrun] at hrunning
    cases hrunning
  | committed id row hrow hstatus => exact ⟨id, row, hrow, Or.inr hstatus⟩

/-- A worker whose last transaction has thrown ends, and nothing else changes. -/
theorem Kept.ended (h : world.Kept) (hopen : (world.runs runId).status.Open) :
    Settles world (world.setWorker runId none) runId True := by
  have hidle : (world.setWorker runId none).workers runId = none := Function.update_self ..
  have htouched := touched_setWorker world runId none
  refine ⟨h.of_touched htouched ?_ fun worker hworker => ?_, htouched,
    iff_true_intro fun hended => absurd hopen hended⟩
  · cases h.account runId with
    | unreserved hjob hunits htraces hrows =>
      exact .unreserved hjob hunits htraces hrows (by simp [hidle])
    | reserved id row hjob hunits htraces hrow hstatus hrun =>
      exact .reserved id row hjob hunits htraces hrow hstatus hrun
        (by simp [hidle])
    | released id row hjob hunits htraces hrow hstatus hrun =>
      exact .released id row hjob hunits htraces hrow hstatus hrun
    | committed id row hrow hstatus hbilled htraced hended hpersisted =>
      exact .committed id row hrow hstatus hbilled htraced hended hpersisted
        (by simp [hidle])
  · rw [hidle] at hworker
    cases hworker

/-- A failure with evidence bills everything, or leaves the run running. -/
theorem Kept.fail_billed (h : world.Kept) {worker : TranscriptWorker}
    (hworker : worker ∈ world.workers runId) (hmay : worker.mayCall = true)
    (failureClass : String) (evidence : SupadataFailureEvidence) (dbNow : ℤ) :
    Settles world (world.fail runId failureClass (some evidence) dbNow) runId True := by
  have hopen : (world.runs runId).status.Open := Or.inr (h.worker runId worker hworker).running
  unfold fail
  cases hcall : world.failFormalRun runId failureClass (some evidence) dbNow with
  | error error =>
    rw [commit_of_error hcall]
    exact h.ended hopen
  | ok stored =>
    rw [commit_of_ok hcall]
    obtain ⟨sequence, tables, hbills, hclosed⟩ := failFormalRun_billed_eq_ok hopen hcall
    obtain ⟨id, row, hrow, hactive⟩ := h.activeRow hworker hmay
    obtain ⟨reconciled, hreconciled, hcommitted⟩ := hbills
    obtain ⟨billed, hbilled, hstatus, hunits⟩ := billed_row hrow hactive hreconciled hcommitted
    rw [hclosed]
    exact h.billed (Bills.touched ⟨reconciled, hreconciled, hcommitted⟩) rfl (by simp [PendingPoll])
      hbilled hstatus hunits rfl rfl fun _ => not_open_failed

/-- A failure without evidence settles the run exactly when nothing is open. -/
theorem Kept.fail_unbilled (h : world.Kept) {worker : TranscriptWorker}
    (hworker : worker ∈ world.workers runId) (failureClass : String) (dbNow : ℤ) :
    Settles world (world.fail runId failureClass none dbNow) runId
      (world.openPollUnits runId = 0) := by
  have hrunning := (h.worker runId worker hworker).running
  have hopen : (world.runs runId).status.Open := Or.inr hrunning
  unfold fail
  cases hcall : world.failFormalRun runId failureClass none dbNow with
  | error error =>
    rw [commit_of_error hcall]
    have hended := h.ended hopen
    have hnothing : world.openPollUnits runId = 0 := by
      cases h.account runId with
      | unreserved _ _ htraces => simp [openPollUnits, htraces]
      | reserved _ _ _ _ htraces => simp [openPollUnits, htraces]
      | released _ _ _ _ htraces => simp [openPollUnits, htraces]
      | committed id row hrow hstatus =>
        -- without a reserved row there is nothing to release, and nothing throws
        have hnone : ∀ other found, world.tables.reservations.find other = some found →
            found.runId = runId → found.status ≠ .reserved := by
          intro other found hfind hrun
          obtain rfl := hrow.only other found hfind hrun
          obtain rfl := Option.some.inj (hrow.found.symm.trans hfind)
          simp [hstatus]
        simp [failFormalRun, hopen, transitionBudgets, transition_of_no_reserved hnone, bind,
          Except.bind, pure, Except.pure] at hcall
    exact ⟨hended.kept, hended.touched, hended.settled.trans (iff_of_true trivial hnothing)⟩
  | ok stored =>
    rw [commit_of_ok hcall]
    obtain ⟨tables, hreleased, hclosed⟩ := failFormalRun_unbilled_eq_ok hopen hcall
    rw [hclosed]
    exact h.unbilled hopen hreleased rfl rfl rfl

/-- A persisted run has ended. -/
theorem not_open_persistedState (completed revised : Bool) :
    ¬ (persistedState completed revised).Open := by
  cases completed <;> cases revised <;> decide

/-- A persisted result bills everything. -/
theorem Kept.persisted (h : world.Kept) {worker : TranscriptWorker}
    (hworker : worker ∈ world.workers runId) (hmay : worker.mayCall = true)
    {completed revised : Bool} {trace : ProviderTrace} (htrace : trace.runId = runId)
    (hanswer : ¬ PendingPoll trace) {dbNow : ℤ}
    (hcall : world.persistProviderResult runId (persistedState completed revised) trace
      (worker.providerUnits + trace.providerUnits) dbNow = .ok stored) :
    Settles world (stored.setWorker runId none) runId True := by
  obtain ⟨tables, hbills, hclosed⟩ := persistProviderResult_eq_ok hcall
  obtain ⟨id, row, hrow, hactive⟩ := h.activeRow hworker hmay
  have htouched := hbills.touched
  obtain ⟨reconciled, hreconciled, hcommitted⟩ := hbills
  obtain ⟨billed, hbilled, hstatus, hunits⟩ := billed_row hrow hactive hreconciled hcommitted
  rw [hclosed]
  exact h.billed htouched htrace hanswer hbilled hstatus hunits
    (by rw [(h.worker runId worker hworker).providerUnits]) rfl
    fun _ => not_open_persistedState completed revised

/-- A stored submission bills everything. -/
theorem Kept.submitted (h : world.Kept) {worker : TranscriptWorker}
    (hworker : worker ∈ world.workers runId) (hmay : worker.mayCall = true)
    (hjob : worker.providerJobId = none) {result : SupadataSubmitResult} {units : ℕ}
    {storing : AnswerStoring}
    (hcall : world.storeSubmit runId worker result units storing = .ok stored) :
    Settles world (stored.setWorker runId none) runId True := by
  unfold storeSubmit at hcall
  rw [throwIf_bind_eq_ok] at hcall
  replace hcall := hcall.2
  cases result with
  | completed => exact h.persisted hworker hmay rfl (by simp [PendingPoll]) hcall
  | empty => exact h.persisted hworker hmay rfl (by simp [PendingPoll]) hcall
  | unavailable => exact h.persisted hworker hmay rfl (by simp [PendingPoll]) hcall
  | pending jobId =>
    have hknows := h.worker runId worker hworker
    obtain ⟨tables, hbills, hclosed⟩ :=
      parkFormalRunForProviderPoll_eq_ok hknows.running hcall
    rw [if_pos rfl] at hbills
    obtain ⟨id, row, hrow, hactive⟩ := h.activeRow hworker hmay
    have htouched := hbills.touched
    obtain ⟨reconciled, hreconciled, hcommitted⟩ := hbills
    obtain ⟨billed, hbilled, hstatus, hunits⟩ := billed_row hrow hactive hreconciled hcommitted
    -- before the first submission the run has no units
    have hnone : (world.runs runId).providerUnits.getD 0 = 0 := by
      rw [hknows.providerJobId] at hjob
      cases h.account runId with
      | unreserved _ hunits => simp [hunits]
      | reserved _ _ _ hunits => simp [hunits]
      | released _ _ _ hunits => simp [hunits]
      | committed _ _ _ _ _ _ hended => exact absurd (Or.inr hknows.running) (hended hjob)
    rw [hclosed]
    refine h.billed htouched rfl (by simp [PendingPoll]) hbilled hstatus hunits
      (by rw [hnone, zero_add]) (by rw [hnone, zero_add]) fun hnever => ?_
    exact absurd hnever (Option.some_ne_none jobId)

/-- A stored poll bills everything, or its units are open. -/
theorem Kept.polled (h : world.Kept) {worker : TranscriptWorker}
    (hworker : worker ∈ world.workers runId) (hmay : worker.mayCall = true) {jobId : String}
    (hjob : worker.providerJobId = some jobId) {result : SupadataPollResult} {units : ℕ}
    {storing : AnswerStoring}
    (hcall : world.storePoll runId jobId worker result units storing = .ok stored) :
    Settles world (stored.setWorker runId none) runId True := by
  unfold storePoll at hcall
  rw [throwIf_bind_eq_ok] at hcall
  replace hcall := hcall.2
  cases result with
  | completed => exact h.persisted hworker hmay rfl (by simp [PendingPoll]) hcall
  | empty => exact h.persisted hworker hmay rfl (by simp [PendingPoll]) hcall
  | failed => exact h.persisted hworker hmay rfl (by simp [PendingPoll]) hcall
  | pending status =>
    have hknows := h.worker runId worker hworker
    obtain ⟨tables, hsame, hclosed⟩ :=
      parkFormalRunForProviderPoll_eq_ok hknows.running hcall
    rw [if_neg Bool.false_ne_true] at hsame
    subst hsame
    have hpending : status.terminalState = .queued ∨ status.terminalState = .active := by
      cases status <;> simp [SupadataPendingStatus.terminalState]
    rw [hclosed]
    exact h.parked rfl hpending (hknows.providerJobId ▸ hjob) (Or.inr hknows.running) rfl
      (Or.inl rfl) rfl

/-- A result is stored, or the run fails with the evidence of the result. -/
theorem Kept.settle (h : world.Kept) {worker : TranscriptWorker}
    (hworker : worker ∈ world.workers runId) (hmay : worker.mayCall = true)
    {result : Except String TranscriptWorld} {operation : SupadataOperation} {job : Option String}
    {units : ℕ} {storing : AnswerStoring}
    (hstored : ∀ stored, result = .ok stored →
      Settles world (stored.setWorker runId none) runId True) :
    Settles world (world.settle runId result (evidenceOf operation job units) storing) runId
      ((∃ error, result = .error error) → units = 0 → world.openPollUnits runId = 0) := by
  cases result with
  | ok stored =>
    have hdone := hstored stored rfl
    refine ⟨hdone.kept, hdone.touched, hdone.settled.trans (iff_of_true trivial ?_)⟩
    rintro ⟨error, herror⟩
    cases herror
  | error error =>
    unfold TranscriptWorld.settle
    by_cases hunits : 0 < units
    · rw [evidenceOf, if_pos hunits]
      have hdone := h.fail_billed hworker hmay (storing.thrown.getD "ADAPTER_FAILED")
        { operation, providerJobId := job, providerUnits := units } storing.dbNow
      refine ⟨hdone.kept, hdone.touched, hdone.settled.trans (iff_of_true trivial ?_)⟩
      exact fun _ hzero => absurd hzero hunits.ne'
    · rw [evidenceOf, if_neg hunits]
      have hdone := h.fail_unbilled hworker (storing.thrown.getD "ADAPTER_FAILED") storing.dbNow
      refine ⟨hdone.kept, hdone.touched, hdone.settled.trans ?_⟩
      exact ⟨fun hopen _ _ => hopen, fun hall => hall ⟨error, rfl⟩ (Nat.eq_zero_of_not_pos hunits)⟩

/-- A step that does nothing settles what was settled. -/
theorem Kept.unchanged (h : world.Kept) (hopen : world.NothingOpen) (runId : String) :
    Settles world world runId True :=
  ⟨h, .refl runId world, iff_true_intro (hopen runId)⟩

/-- Beginning a run. -/
theorem Kept.beginFormalRun (h : world.Kept) (hopen : world.NothingOpen) (runId : String) :
    Settles world (world.beginFormalRun runId) runId True := by
  unfold TranscriptWorld.beginFormalRun
  dsimp only
  split
  next hpending =>
    have hrun := (touched_updateRun world runId fun run => { run with status := .running }).trans
      (touched_setWorker _ runId
        (some
          { providerJobId := (world.runs runId).providerJobId
            providerUnits := (world.runs runId).providerUnits.getD 0
            providerTraceSequence := world.nextTraceSequence runId
            mayCall := (world.runs runId).providerJobId.isSome }))
    refine ⟨h.of_touched hrun ?_ fun worker hworker => ?_, hrun, iff_true_intro fun hended => ?_⟩
    · cases h.account runId with
      | unreserved hjob hunits htraces hrows =>
        refine .unreserved ?_ ?_ htraces hrows fun worker hworker => ?_
        · simpa using hjob
        · simpa using hunits
        · rw [workers_setWorker, Option.mem_def, Option.some.injEq] at hworker
          simp [← hworker, hjob]
      | reserved _ _ _ _ _ _ _ hrunning => rw [hrunning] at hpending; cases hpending
      | released _ _ _ _ _ _ _ hfailed => rw [hfailed] at hpending; cases hpending
      | committed id row hrow hstatus hbilled htraced hended =>
        have hjob : (world.runs runId).providerJobId.isSome := by
          by_contra hnone
          rw [Bool.not_eq_true, Option.isSome_eq_false_iff, Option.isNone_iff_eq_none] at hnone
          exact hended hnone (Or.inl hpending)
        refine .committed id row hrow hstatus ?_ ?_ ?_ (Or.inr (Or.inl ?_)) fun worker hworker => ?_
        · simpa using hbilled
        · simpa using htraced
        · intro hnone
          rw [runs_setWorker, runs_updateRun] at hnone
          rw [hnone] at hjob
          cases hjob
        · simp [RunStatus.Open]
        · rw [workers_setWorker, Option.mem_def, Option.some.injEq] at hworker
          simp [← hworker, hjob]
    · rw [workers_setWorker, Option.mem_def, Option.some.injEq] at hworker
      subst hworker
      exact ⟨by simp, by simp, by simp⟩
    · exact absurd (Or.inr (by simp)) hended
  next => exact h.unchanged hopen runId

/-- A run whose worker may not call the provider yet has no account. -/
theorem Kept.unreserved_of_worker (h : world.Kept) {worker : TranscriptWorker}
    (hworker : worker ∈ world.workers runId) (hmay : worker.mayCall = false) :
    (world.runs runId).providerJobId = none ∧ (world.runs runId).providerUnits = none ∧
      world.tracesOf runId = [] ∧ world.tables.NoneOf runId := by
  cases h.account runId with
  | unreserved hjob hunits htraces hrows => exact ⟨hjob, hunits, htraces, hrows⟩
  | reserved _ _ _ _ _ _ _ _ hmust =>
    rw [hmust worker hworker] at hmay
    cases hmay
  | released _ _ _ _ _ _ _ hfailed =>
    have hrunning := (h.worker runId worker hworker).running
    rw [hfailed] at hrunning
    cases hrunning
  | committed _ _ _ _ _ _ _ _ hmust =>
    rw [hmust worker hworker] at hmay
    cases hmay

/-- Reserving credits for the first call. -/
theorem Kept.reserveCredits (h : world.Kept) {request : MediaBudgetRequest}
    {worker : TranscriptWorker} (hworker : worker ∈ world.workers request.runId)
    (hmay : worker.mayCall = false) {expectedCredits dailyCreditLimit : ℤ}
    (hcall : world.reserveCredits request expectedCredits dailyCreditLimit = .ok stored) :
    Settles world stored request.runId True := by
  have hknows := h.worker request.runId worker hworker
  obtain ⟨hjob, hunits, htraces, hrows⟩ := h.unreserved_of_worker hworker hmay
  obtain ⟨⟨tables, result⟩, hreserve, hcall⟩ := bind_eq_ok.mp hcall
  dsimp only at hcall
  rcases reserveCredits_rows hrows hreserve with ⟨hrefused, rfl⟩ | ⟨hreserved, hnew, hinserted⟩
  · rw [hrefused, if_neg Bool.false_ne_true] at hcall
    obtain ⟨deferred, hdeferred, hcall⟩ := bind_eq_ok.mp hcall
    cases hcall
    have hopen : (world.runs request.runId).status.Open := Or.inr hknows.running
    unfold deferFormalRunForBudget at hdeferred
    rw [if_neg (not_not.mpr hopen)] at hdeferred
    obtain ⟨released, hrelease, hdeferred⟩ := bind_eq_ok.mp hdeferred
    cases hdeferred
    obtain ⟨tables, rfl, hreleased⟩ := transitionBudgets_eq_ok hrelease
    have hdone : ∀ run : TranscriptRun, run.providerJobId = none → run.providerUnits = none →
        Settles world (world.closed request.runId run world.traces tables) request.runId True := by
      intro run hrunJob hrunUnits
      have htouched : Touched request.runId world
          (world.closed request.runId run world.traces tables) :=
        touched_closed (tablesTouched_transition hreleased) (Or.inl rfl)
      refine ⟨h.closed htouched ?_, htouched, iff_true_intro fun _ => ?_⟩
      · refine .unreserved (by rw [runs_closed, hrunJob]) (by rw [runs_closed, hrunUnits]) htraces
          (hrows.rewrite hreleased (transitionRow_runId _ _ _)) fun worker hworker => ?_
        rw [workers_closed] at hworker
        cases hworker
      · have hsame : (world.closed request.runId run world.traces tables).tracesOf request.runId =
            [] := htraces
        simp [openPollUnits, hsame]
    exact hdone { world.runs request.runId with
      status := .budgetDeferred, completedAt := some request.dbNow } hjob hunits
  · rw [if_pos hreserved] at hcall
    cases hcall
    have hwritten : TablesTouched request.runId world.tables tables :=
      ⟨fun other hne hnone => hnone.of_inserted hinserted (Ne.symm hne),
        fun other hne id row hrow => hrow.of_inserted hinserted (Ne.symm hne)⟩
    have hinsertion : Touched request.runId world { world with tables := tables } :=
      ⟨fun _ _ => rfl, fun _ _ => rfl, fun _ _ => rfl, hwritten⟩
    have htouched := hinsertion.trans (touched_setWorker { world with tables := tables }
      request.runId
      ((world.workers request.runId).map fun worker => { worker with mayCall := true }))
    have hcalls : (world.workers request.runId).map
        (fun worker => { worker with mayCall := true }) = some { worker with mayCall := true } := by
      rw [Option.mem_def.mp hworker, Option.map_some]
    have hrow : tables.OnlyOf request.runId request.newId
        (mediaReservation .supadata request expectedCredits) :=
      XBudgetTables.NoneOf.inserted hnew hinserted hrows (mediaReservation_ofProvider.mpr rfl)
    refine ⟨h.of_touched htouched ?_ fun next hnext => ?_, htouched,
      iff_true_intro fun hended => absurd (Or.inr hknows.running) hended⟩
    · refine .reserved _ _ hjob hunits htraces hrow rfl hknows.running fun next hnext => ?_
      rw [workers_setWorker, hcalls] at hnext
      simp [← Option.some.inj hnext]
    · rw [workers_setWorker, hcalls] at hnext
      rw [← Option.some.inj hnext]
      exact ⟨hknows.running, hknows.providerJobId, hknows.providerUnits⟩

/-- Recovering a failed poll. -/
theorem Kept.recover (h : world.Kept) (hopen : world.NothingOpen) (runId : String) (dbNow : ℤ) :
    Settles world (world.recoverFailedProviderPoll runId dbNow) runId True := by
  unfold recoverFailedProviderPoll
  dsimp only
  split
  next => exact h.unchanged hopen runId
  next hfailed =>
    split
    next => exact h.unchanged hopen runId
    next =>
      split
      next => exact h.unchanged hopen runId
      next =>
        rw [not_or, not_not] at hfailed
        obtain ⟨hstatus, hjob⟩ := hfailed
        have htouched := touched_updateRun world runId fun run =>
          { run with
            status := .pending, completedAt := none
            providerPollRecoveries := run.providerPollRecoveries + 1 }
        refine ⟨h.of_touched htouched ?_ fun worker hworker => ?_, htouched,
          iff_true_intro fun hended => ?_⟩
        · cases h.account runId with
          | unreserved hnone => exact absurd hnone hjob
          | reserved _ _ hnone => exact absurd hnone hjob
          | released _ _ hnone => exact absurd hnone hjob
          | committed id row hrow hcommitted hbilled htraced hended hpersisted hworker =>
            refine .committed id row hrow hcommitted ?_ ?_ ?_ (Or.inr (Or.inl ?_)) hworker
            · simpa using hbilled
            · simpa using htraced
            · rw [runs_updateRun]
              exact fun hnone => absurd hnone hjob
            · simp [RunStatus.Open]
        · have hrunning := (h.worker runId worker hworker).running
          rw [hstatus] at hrunning
          cases hrunning
        · exact absurd (Or.inl (by simp)) hended

theorem Settles.of_condition {condition : Prop} (h : Settles world stored runId True)
    (hcondition : condition) : Settles world stored runId condition :=
  ⟨h.kept, h.touched, h.settled.trans (iff_of_true trivial hcondition)⟩

/-- What a worker does with an answer settles its run, unless it fails unbilled with open
units. -/
theorem Kept.receive (h : world.Kept) (hopen : world.NothingOpen) {worker : TranscriptWorker}
    (hworker : world.workers runId = some worker) (hmay : worker.mayCall = true)
    (answer : SupadataAnswer) (storing : AnswerStoring) :
    Settles world (world.receive runId worker answer storing) runId
      (world.FailsReconciled (.answer runId answer storing)) := by
  have hrejected : ∀ failureClass units operation job,
      Settles world (world.fail runId failureClass (evidenceOf operation job units) storing.dbNow)
        runId (units = 0 → world.openPollUnits runId = 0) := by
    intro failureClass units operation job
    by_cases hunits : 0 < units
    · rw [evidenceOf, if_pos hunits]
      exact (h.fail_billed hworker hmay _ _ _).of_condition fun hzero => absurd hzero hunits.ne'
    · rw [evidenceOf, if_neg hunits]
      have hfailed := h.fail_unbilled hworker failureClass storing.dbNow
      refine ⟨hfailed.kept, hfailed.touched, hfailed.settled.trans ?_⟩
      exact ⟨fun hnothing _ => hnothing, fun hall => hall (Nat.eq_zero_of_not_pos hunits)⟩
  cases answer with
  | submitted result units billed =>
    refine Settles.of_condition ?_ (by simp [FailsReconciled])
    cases hjob : worker.providerJobId with
    | none =>
      have hdone : Settles world
          (world.settle runId (world.storeSubmit runId worker result units storing)
            (evidenceOf .submit (pendingJob result) units) storing) runId _ :=
        h.settle hworker hmay fun _ hcall => h.submitted hworker hmay hjob hcall
      simp only [TranscriptWorld.receive, hjob]
      exact ⟨hdone.kept, hdone.touched, hdone.settled.trans
        (iff_of_true (fun _ hzero => absurd hzero billed.ne') trivial)⟩
    | some jobId =>
      simp only [TranscriptWorld.receive, hjob]
      exact h.unchanged hopen runId
  | polled result units =>
    cases hjob : worker.providerJobId with
    | none =>
      simp only [TranscriptWorld.receive, hjob]
      exact (h.unchanged hopen runId).of_condition (by simp [FailsReconciled, hworker, hjob])
    | some jobId =>
      have hdone : Settles world
          (world.settle runId (world.storePoll runId jobId worker result units storing)
            (evidenceOf .poll (some jobId) units) storing) runId _ :=
        h.settle hworker hmay fun _ hcall => h.polled hworker hmay hjob hcall
      simp only [TranscriptWorld.receive, hjob]
      exact ⟨hdone.kept, hdone.touched, hdone.settled.trans
        (by simp [FailsReconciled, hworker, hmay, hjob])⟩
  | rejected failureClass units =>
    have hcondition : (units = 0 → world.openPollUnits runId = 0) ↔
        world.FailsReconciled (.answer runId (.rejected failureClass units) storing) := by
      simp [FailsReconciled, hworker, hmay]
    cases hjob : worker.providerJobId with
    | none =>
      have hdone := hrejected failureClass units .submit none
      simp only [TranscriptWorld.receive, hjob]
      exact ⟨hdone.kept, hdone.touched, hdone.settled.trans hcondition⟩
    | some jobId =>
      have hdone := hrejected failureClass units .poll (some jobId)
      simp only [TranscriptWorld.receive, hjob]
      exact ⟨hdone.kept, hdone.touched, hdone.settled.trans hcondition⟩

/-- Every step settles its run exactly when a failure without a billed answer leaves nothing
open. -/
theorem Kept.step (h : world.Kept) (hopen : world.NothingOpen) (action : TranscriptAction) :
    ∃ runId, Settles world (transcriptStep world action) runId (world.FailsReconciled action) := by
  cases action with
  | beginRun runId => exact ⟨runId, h.beginFormalRun hopen runId⟩
  | recover runId dbNow => exact ⟨runId, h.recover hopen runId dbNow⟩
  | reserve request expectedCredits dailyCreditLimit =>
    refine ⟨request.runId, ?_⟩
    simp only [transcriptStep]
    split
    next worker hworker =>
      split
      next => exact h.unchanged hopen request.runId
      next hmay =>
        rw [Bool.not_eq_true] at hmay
        split
        next reserved hreserved => exact h.reserveCredits hworker hmay hreserved
        next =>
          have hfailed := h.fail_unbilled hworker "ADAPTER_FAILED" request.dbNow
          have hnothing : world.openPollUnits request.runId = 0 := by
            simp [openPollUnits, (h.unreserved_of_worker hworker hmay).2.2.1]
          exact ⟨hfailed.kept, hfailed.touched, hfailed.settled.trans (iff_of_true hnothing trivial)⟩
    next => exact h.unchanged hopen request.runId
  | abort runId failureClass dbNow =>
    refine ⟨runId, ?_⟩
    simp only [transcriptStep, FailsReconciled]
    split
    next worker hworker =>
      have hfailed := h.fail_unbilled hworker failureClass dbNow
      exact ⟨hfailed.kept, hfailed.touched, hfailed.settled.trans (by simp [hworker])⟩
    next hnone =>
      have hsame := h.unchanged hopen runId
      exact ⟨hsame.kept, hsame.touched, hsame.settled.trans (by simp [hnone])⟩
  | answer runId answer storing =>
    refine ⟨runId, ?_⟩
    simp only [transcriptStep]
    split
    next worker hworker =>
      split
      next hmay => exact h.receive hopen hworker hmay answer storing
      next hmay =>
        have hcondition : world.FailsReconciled (.answer runId answer storing) := by
          cases answer <;> simp [FailsReconciled, hworker, hmay]
        exact (h.unchanged hopen runId).of_condition hcondition
    next hnone =>
      have hcondition : world.FailsReconciled (.answer runId answer storing) := by
        cases answer <;> simp [FailsReconciled, hnone]
      exact (h.unchanged hopen runId).of_condition hcondition

/-- A settled run leaves nothing open anywhere exactly under its condition. -/
theorem Settles.nothingOpen_iff {condition : Prop} (h : Settles world stored runId condition)
    (hopen : world.NothingOpen) : stored.NothingOpen ↔ condition := by
  rw [← h.settled]
  constructor
  · exact fun hall => hall runId
  · intro hown other hended
    by_cases hne : other = runId
    · subst hne
      exact hown hended
    · rw [h.touched.runs other hne] at hended
      have htraces := h.touched.traces other hne
      rw [openPollUnits, htraces]
      exact hopen other hended

/-- Runs that were just created, and nothing else. -/
def initial (createdAt : String → ℤ) : TranscriptWorld where
  runs := fun runId =>
    { status := .pending, providerJobId := none, providerUnits := none
      providerPollRecoveries := 0, createdAt := createdAt runId, completedAt := none }
  workers := fun _ => none
  traces := []
  tables := .initial

/-- New runs have nothing in their accounts. -/
theorem kept_initial (createdAt : String → ℤ) : (initial createdAt).Kept where
  account := fun _ =>
    .unreserved rfl rfl rfl (fun _ _ hfind => (Option.some_ne_none _ hfind.symm).elim)
      fun _ hworker => (Option.some_ne_none _ hworker.symm).elim
  worker := fun _ _ hworker => (Option.some_ne_none _ hworker.symm).elim

/-- The committed credits of the runs that have ended are those of their traces and of the runs,
in every state, exactly when no run fails without a billed answer after its last pending polls
were billed. -/
theorem transcriptCredits_agree_iff (createdAt : String → ℤ) (actions : List TranscriptAction) :
    (∀ before, before <+: actions →
      (runSteps transcriptStep (initial createdAt) before).CreditsAgree) ↔
      EveryStep transcriptStep FailsReconciled (initial createdAt) actions := by
  have hinitial := kept_initial createdAt
  have hkept : ∀ (world : TranscriptWorld) action, world.Kept → world.CreditsAgree →
      (transcriptStep world action).Kept := by
    intro world action hkept hagree
    obtain ⟨_, hsettles⟩ := hkept.step (hkept.creditsAgree_iff.mp hagree) action
    exact hsettles.kept
  have hstep : ∀ (world : TranscriptWorld) action, world.Kept → world.CreditsAgree →
      ((transcriptStep world action).CreditsAgree ↔ world.FailsReconciled action) := by
    intro world action hkept hagree
    have hopen := hkept.creditsAgree_iff.mp hagree
    obtain ⟨_, hsettles⟩ := hkept.step hopen action
    exact hsettles.kept.creditsAgree_iff.trans (hsettles.nothingOpen_iff hopen)
  exact forall_prefix_iff_everyStep_of_invariant hkept hstep _ actions hinitial
    (hinitial.creditsAgree_iff.mpr fun _ _ => rfl)

/-- Limits and times of a call for examples. -/
def exampleStoring (dbNow : ℤ) : AnswerStoring where
  dbNow := dbNow
  nextPollAt := dbNow + 60000
  thrown := none
  revised := true

/-- A submission and its first poll are billed one credit each, the job stays pending, and the
transport fails until no recovery is left. -/
def billedPendingPoll : List TranscriptAction :=
  [.beginRun "run",
    .reserve { runId := "run", dbNow := 0, newId := "credits", firstRow := 0 } 1 10,
    .answer "run" (.submitted (.pending "job") 1 Nat.one_pos) (exampleStoring 1000),
    .beginRun "run", .answer "run" (.polled (.pending .active) 1) (exampleStoring 61000),
    .beginRun "run", .answer "run" (.rejected "TRANSPORT_FAILED" 0) (exampleStoring 121000),
    .recover "run" 181000, .beginRun "run",
    .answer "run" (.rejected "TRANSPORT_FAILED" 0) (exampleStoring 182000),
    .recover "run" 302000, .beginRun "run",
    .answer "run" (.rejected "TRANSPORT_FAILED" 0) (exampleStoring 303000)]

/-- The run has failed for good with two recorded credits, one of them committed. -/
theorem billedPendingPoll_uncommitted :
    ¬ (runSteps transcriptStep (initial fun _ => 0) billedPendingPoll).CreditsAgree := by
  intro hagree
  have hended : ¬ ((runSteps transcriptStep (initial fun _ => 0) billedPendingPoll).runs
      "run").status.Open := by decide +kernel
  have hcommitted : (runSteps transcriptStep (initial fun _ => 0)
      billedPendingPoll).tables.committedCredits "run" = 1 := by decide +kernel
  have htraced : (runSteps transcriptStep (initial fun _ => 0)
      billedPendingPoll).tracedUnits "run" = 2 := by decide +kernel
  have hequal := (hagree "run" hended).1
  rw [hcommitted, htraced] at hequal
  norm_num at hequal

end TranscriptWorld

end LetletmeData
