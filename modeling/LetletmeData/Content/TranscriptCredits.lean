import LetletmeData.Content.RunReservations
import LetletmeData.Content.TranscriptRuns
import LetletmeData.Library.Runs

/-!
# Billed credits and committed credits

The first submission and every answer that ends a run set the reservation to all units billed so
far. A pending poll that is billed is recorded in its trace and in the run only: until the next
such answer the reservation lacks its units, and a failure without a billed answer leaves it so.
-/

namespace LetletmeData

open LetletmeData.Library

namespace TranscriptWorld

/-- The trace is of a poll that found its job pending. -/
def PendingPoll (trace : ProviderTrace) : Prop :=
  trace.terminalState = .queued ∨ trace.terminalState = .active

instance (trace : ProviderTrace) : Decidable (PendingPoll trace) :=
  inferInstanceAs (Decidable (_ ∨ _))

/-- The units of the traces of a run. -/
def tracedUnits (world : TranscriptWorld) (runId : String) : ℚ :=
  ((world.tracesOf runId).map (·.providerUnits)).sum

/-- The units of the pending polls that are the last traces of a run. -/
def openPollUnits (world : TranscriptWorld) (runId : String) : ℚ :=
  (((world.tracesOf runId).takeWhile (PendingPoll ·)).map (·.providerUnits)).sum

/-- When a run has ended, its committed credits are the units of its traces and its own units. -/
def CreditsAgree (world : TranscriptWorld) : Prop :=
  ∀ runId, ¬ (world.runs runId).status.Open →
    world.tables.committedCredits runId = world.tracedUnits runId ∧
      world.tables.committedCredits runId = (world.runs runId).providerUnits.getD 0

/-- A run that fails without a billed answer does not end in billed polls. -/
def FailsReconciled (world : TranscriptWorld) : TranscriptAction → Prop
  | .abort runId _ _ => (world.workers runId).isSome → world.openPollUnits runId = 0
  | .answer runId (.rejected _ providerUnits) _ =>
    (∃ worker ∈ world.workers runId, worker.mayCall) → providerUnits = 0 →
      world.openPollUnits runId = 0
  | .answer runId (.polled result providerUnits) storing =>
    (∃ worker ∈ world.workers runId, worker.mayCall ∧ ∃ jobId ∈ worker.providerJobId, ∃ error,
      world.storePoll runId jobId worker result providerUnits storing = .error error) →
      providerUnits = 0 → world.openPollUnits runId = 0
  | _ => True

/-! ### The account of a run -/

/-- Where the units of a run are: nowhere before its first call, in a reserved row during the
call, released when the call was not billed, and otherwise in a committed row, but for those of
the last pending polls. -/
inductive AccountKept (world : TranscriptWorld) (runId : String) : Prop
  | unreserved (hjob : (world.runs runId).providerJobId = none)
      (hunits : (world.runs runId).providerUnits = none) (htraces : world.tracesOf runId = [])
      (hrows : world.tables.NoneOf runId)
      (hworker : ∀ worker ∈ world.workers runId, worker.mayCall = false)
  | reserved (id : String) (row : BudgetReservation)
      (hjob : (world.runs runId).providerJobId = none)
      (hunits : (world.runs runId).providerUnits = none) (htraces : world.tracesOf runId = [])
      (hrow : world.tables.OnlyOf runId id row) (hstatus : row.status = .reserved)
      (hrun : (world.runs runId).status = .running)
      (hworker : ∀ worker ∈ world.workers runId, worker.mayCall = true)
  | released (id : String) (row : BudgetReservation)
      (hjob : (world.runs runId).providerJobId = none)
      (hunits : (world.runs runId).providerUnits = none) (htraces : world.tracesOf runId = [])
      (hrow : world.tables.OnlyOf runId id row) (hstatus : row.status = .released)
      (hrun : (world.runs runId).status = .failed)
  | committed (id : String) (row : BudgetReservation)
      (hrow : world.tables.OnlyOf runId id row) (hstatus : row.status = .committed)
      (hbilled : row.units + world.openPollUnits runId =
        (world.runs runId).providerUnits.getD 0)
      (htraced : world.tracedUnits runId = (world.runs runId).providerUnits.getD 0)
      (hended : (world.runs runId).providerJobId = none → ¬ (world.runs runId).status.Open)
      (hpersisted : (world.runs runId).status = .failed ∨ (world.runs runId).status.Open ∨
        world.openPollUnits runId = 0)
      (hworker : ∀ worker ∈ world.workers runId, worker.mayCall = true)

/-- A worker knows its run, which is running. -/
structure WorkerKnows (world : TranscriptWorld) (runId : String) (worker : TranscriptWorker) :
    Prop where
  running : (world.runs runId).status = .running
  providerJobId : worker.providerJobId = (world.runs runId).providerJobId
  providerUnits : worker.providerUnits = (world.runs runId).providerUnits.getD 0

/-- What every step keeps. -/
structure Kept (world : TranscriptWorld) : Prop where
  account : ∀ runId, world.AccountKept runId
  worker : ∀ runId, ∀ worker ∈ world.workers runId, world.WorkerKnows runId worker

variable {world stored : TranscriptWorld} {runId : String}

/-- All units of a run are in its traces. -/
theorem AccountKept.tracedUnits_eq (h : world.AccountKept runId) :
    world.tracedUnits runId = (world.runs runId).providerUnits.getD 0 := by
  cases h with
  | unreserved _ hunits htraces => simp [tracedUnits, htraces, hunits]
  | reserved _ _ _ hunits htraces => simp [tracedUnits, htraces, hunits]
  | released _ _ _ hunits htraces => simp [tracedUnits, htraces, hunits]
  | committed _ _ _ _ _ htraced => exact htraced

/-- The committed credits of a run that has ended lack the units of its last pending polls. -/
theorem AccountKept.committed_eq (h : world.AccountKept runId)
    (hended : ¬ (world.runs runId).status.Open) :
    world.tables.committedCredits runId + world.openPollUnits runId =
      (world.runs runId).providerUnits.getD 0 := by
  cases h with
  | unreserved _ hunits htraces hrows =>
    rw [hrows.committedCredits_eq]
    simp [openPollUnits, htraces, hunits]
  | reserved _ _ _ _ _ _ _ hrun => exact absurd (Or.inr hrun) hended
  | released _ _ _ hunits htraces hrow hstatus =>
    rw [hrow.committedCredits_eq, hstatus]
    simp [openPollUnits, htraces, hunits]
  | committed _ _ hrow hstatus hbilled =>
    rw [hrow.committedCredits_eq, if_pos hstatus]
    exact hbilled

/-- No run that has ended lacks units of its last pending polls. -/
def NothingOpen (world : TranscriptWorld) : Prop :=
  ∀ runId, ¬ (world.runs runId).status.Open → world.openPollUnits runId = 0

/-- With kept accounts the credits agree when nothing is open. -/
theorem Kept.creditsAgree_iff (h : world.Kept) : world.CreditsAgree ↔ world.NothingOpen := by
  refine forall_congr' fun runId => imp_congr_right fun hended => ?_
  have hcommitted := (h.account runId).committed_eq hended
  rw [(h.account runId).tracedUnits_eq, and_self]
  constructor
  · intro hagree
    linarith
  · intro hopen
    linarith

/-! ### What a step leaves of other runs -/

/-- The reservations of other runs stay. -/
structure TablesTouched (runId : String) (tables written : XBudgetTables) : Prop where
  noneOf : ∀ other, other ≠ runId → tables.NoneOf other → written.NoneOf other
  onlyOf : ∀ other, other ≠ runId → ∀ id row, tables.OnlyOf other id row →
    written.OnlyOf other id row

/-- Other runs stay, with their workers, traces and reservations. -/
structure Touched (runId : String) (world stored : TranscriptWorld) : Prop where
  runs : ∀ other, other ≠ runId → stored.runs other = world.runs other
  workers : ∀ other, other ≠ runId → stored.workers other = world.workers other
  traces : ∀ other, other ≠ runId → stored.tracesOf other = world.tracesOf other
  tables : TablesTouched runId world.tables stored.tables

theorem TablesTouched.refl (runId : String) (tables : XBudgetTables) :
    TablesTouched runId tables tables where
  noneOf := fun _ _ h => h
  onlyOf := fun _ _ _ _ h => h

theorem Touched.refl (runId : String) (world : TranscriptWorld) : Touched runId world world where
  runs := fun _ _ => rfl
  workers := fun _ _ => rfl
  traces := fun _ _ => rfl
  tables := .refl runId world.tables

theorem Touched.trans {middle : TranscriptWorld} (first : Touched runId world middle)
    (second : Touched runId middle stored) : Touched runId world stored where
  runs := fun other hne => (second.runs other hne).trans (first.runs other hne)
  workers := fun other hne => (second.workers other hne).trans (first.workers other hne)
  traces := fun other hne => (second.traces other hne).trans (first.traces other hne)
  tables :=
    { noneOf := fun other hne h => second.tables.noneOf other hne (first.tables.noneOf other hne h)
      onlyOf := fun other hne id row h =>
        second.tables.onlyOf other hne id row (first.tables.onlyOf other hne id row h) }

/-- Rewriting rows of a run touches no other. -/
theorem TablesTouched.of_rewritten {tables written : XBudgetTables}
    {write : BudgetReservation → BudgetReservation} (hrewritten : RowsRewritten write tables written)
    (hrun : ∀ row, (write row).runId = row.runId)
    (hledger : ∀ row, (write row).ledgerId = row.ledgerId)
    (hother : ∀ row, row.runId ≠ runId → write row = row) : TablesTouched runId tables written where
  noneOf := fun _ _ h => h.rewrite hrewritten hrun
  onlyOf := by
    intro other hne id row h
    have hkept := h.rewrite hrewritten hrun hledger
    rw [hother row (h.ofRun ▸ hne)] at hkept
    exact hkept

theorem touched_updateRun (world : TranscriptWorld) (runId : String)
    (write : TranscriptRun → TranscriptRun) : Touched runId world (world.updateRun runId write) where
  runs := fun _ hne => Function.update_of_ne hne _ _
  workers := fun _ _ => rfl
  traces := fun _ _ => rfl
  tables := .refl runId world.tables

theorem touched_setWorker (world : TranscriptWorld) (runId : String)
    (worker : Option TranscriptWorker) : Touched runId world (world.setWorker runId worker) where
  runs := fun _ _ => rfl
  workers := fun _ hne => Function.update_of_ne hne _ _
  traces := fun _ _ => rfl
  tables := .refl runId world.tables

section Updates

variable (world : TranscriptWorld) (runId : String) (write : TranscriptRun → TranscriptRun)
  (worker : Option TranscriptWorker)

@[simp] theorem runs_updateRun :
    (world.updateRun runId write).runs runId = write (world.runs runId) :=
  Function.update_self ..

@[simp] theorem openPollUnits_updateRun (other : String) :
    (world.updateRun runId write).openPollUnits other = world.openPollUnits other := rfl

@[simp] theorem tracedUnits_updateRun (other : String) :
    (world.updateRun runId write).tracedUnits other = world.tracedUnits other := rfl

@[simp] theorem workers_setWorker : (world.setWorker runId worker).workers runId = worker :=
  Function.update_self ..

@[simp] theorem runs_setWorker : (world.setWorker runId worker).runs = world.runs := rfl

@[simp] theorem openPollUnits_setWorker (other : String) :
    (world.setWorker runId worker).openPollUnits other = world.openPollUnits other := rfl

@[simp] theorem tracedUnits_setWorker (other : String) :
    (world.setWorker runId worker).tracedUnits other = world.tracedUnits other := rfl

end Updates

/-- A touched run whose account is kept, and known to its worker, keeps everything. -/
theorem Kept.of_touched (h : world.Kept) (htouched : Touched runId world stored)
    (haccount : stored.AccountKept runId)
    (hworker : ∀ worker ∈ stored.workers runId, stored.WorkerKnows runId worker) : stored.Kept := by
  have hother : ∀ other, other ≠ runId → stored.AccountKept other := by
    intro other hne
    have hruns := htouched.runs other hne
    have hworkers := htouched.workers other hne
    have htraces := htouched.traces other hne
    have hopen : stored.openPollUnits other = world.openPollUnits other := by
      rw [openPollUnits, htraces, openPollUnits]
    have htraced : stored.tracedUnits other = world.tracedUnits other := by
      rw [tracedUnits, htraces, tracedUnits]
    cases h.account other with
    | unreserved hjob hunits hnone hrows hidle =>
      exact .unreserved (by rw [hruns, hjob]) (by rw [hruns, hunits]) (by rw [htraces, hnone])
        (htouched.tables.noneOf other hne hrows) (by rw [hworkers]; exact hidle)
    | reserved id row hjob hunits hnone hrow hstatus hrun hidle =>
      exact .reserved id row (by rw [hruns, hjob]) (by rw [hruns, hunits]) (by rw [htraces, hnone])
        (htouched.tables.onlyOf other hne id row hrow) hstatus (by rw [hruns, hrun])
        (by rw [hworkers]; exact hidle)
    | released id row hjob hunits hnone hrow hstatus hrun =>
      exact .released id row (by rw [hruns, hjob]) (by rw [hruns, hunits]) (by rw [htraces, hnone])
        (htouched.tables.onlyOf other hne id row hrow) hstatus (by rw [hruns, hrun])
    | committed id row hrow hstatus hbilled hsum hended hpersisted hidle =>
      exact .committed id row (htouched.tables.onlyOf other hne id row hrow) hstatus
        (by rw [hruns, hopen, hbilled]) (by rw [hruns, htraced, hsum])
        (by rw [hruns]; exact hended) (by rw [hruns, hopen]; exact hpersisted)
        (by rw [hworkers]; exact hidle)
  constructor
  · intro other
    by_cases hne : other = runId
    · exact hne ▸ haccount
    · exact hother other hne
  · intro other worker hmem
    by_cases hne : other = runId
    · subst hne
      exact hworker worker hmem
    · rw [htouched.workers other hne] at hmem
      obtain ⟨hrunning, hjob, hunits⟩ := h.worker other worker hmem
      rw [← htouched.runs other hne] at hrunning hjob hunits
      exact ⟨hrunning, hjob, hunits⟩

end TranscriptWorld

end LetletmeData
