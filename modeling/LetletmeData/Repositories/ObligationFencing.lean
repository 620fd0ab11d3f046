import Mathlib.Tactic.Tauto
import LetletmeData.Repositories.SchedulerObligations

/-!
# Generation fencing of scheduler obligations

A report belongs to the claim generation of its owner, of its own generation argument or
of its Bull job. Owners and generations fence late reports out; a Bull job id does not,
because the id of an abandoned generation stays on the row after the reclaim.
-/

namespace LetletmeData

open LetletmeData.Library

variable {configured : Option ℕ}

namespace ObligationState

/-- A lease on the row belongs to the owner that claimed the generation the row shows. -/
def LeaseMatchesGeneration (state : ObligationState) : Prop :=
  ∀ row ∈ state.row, ∀ owner ∈ row.leaseOwner,
    state.claimedGeneration owner = some row.generation

/-- Nothing is leased before the first reservation. -/
theorem LeaseMatchesGeneration.initial : LeaseMatchesGeneration initial := by
  simp [LeaseMatchesGeneration, ObligationState.initial]

/-- Recording a report that was read changes neither the row nor the claims. -/
theorem LeaseMatchesGeneration.withFound {state : ObligationState}
    (h : state.LeaseMatchesGeneration) (found : List BullJobId) :
    LeaseMatchesGeneration { state with found := found } := h

end ObligationState

/-- A write that grants no lease: it keeps the generation and keeps or drops the owner. -/
def KeepsLease (write : SchedulerObligation → SchedulerObligation) : Prop :=
  ∀ row, (write row).generation = row.generation ∧
    ∀ owner ∈ (write row).leaseOwner, row.leaseOwner = some owner

/-- Confirming an enqueue grants no lease. -/
theorem confirm_keepsLease (owner : ℕ) (bullJobId : Option BullJobId) (runId : Option ℕ) :
    KeepsLease (confirmSchedulerObligationEnqueued owner bullJobId runId) := by
  intro row
  unfold confirmSchedulerObligationEnqueued
  split <;> simp

/-- Renewing extends a lease and grants none. -/
theorem renew_keepsLease (now : ℕ) (generation : Option ℕ) (additionalLeaseMs : ℤ) :
    KeepsLease (renewSchedulerObligation configured now generation additionalLeaseMs) := by
  intro row
  simp only [renewSchedulerObligation]
  split <;> simp

/-- Completing releases the lease. -/
theorem complete_keepsLease (status : CompletionStatus) (generation : Option ℕ) :
    KeepsLease (completeSchedulerObligation status generation) := by
  intro row
  unfold completeSchedulerObligation
  split <;> simp [SchedulerObligation.closed]

/-- Failing releases the lease. -/
theorem fail_keepsLease (now : ℕ) (owner generation : Option ℕ) (retryDelayMs : Option ℤ) :
    KeepsLease (failSchedulerObligation now owner generation retryDelayMs) := by
  intro row
  unfold failSchedulerObligation
  split <;> simp [SchedulerObligation.closed]

/-- Closing an unrecoverable window leaves no lease. -/
theorem markIrrecoverable_keepsLease (status : Option ClosureStatus) :
    KeepsLease (markSchedulerObligationIrrecoverable status) := by
  intro row
  unfold markSchedulerObligationIrrecoverable
  split <;> simp [SchedulerObligation.closed]

/-- Completing by job id releases the lease. -/
theorem completeByBullJobId_keepsLease (bullJobId : BullJobId) :
    KeepsLease (completeSchedulerObligationByBullJobId bullJobId) := by
  intro row
  unfold completeSchedulerObligationByBullJobId
  split <;> simp [SchedulerObligation.closed]

namespace ObligationState.LeaseMatchesGeneration

variable {state : ObligationState}

/-- A write that grants no lease keeps the invariant. -/
theorem update (h : state.LeaseMatchesGeneration)
    {write : SchedulerObligation → SchedulerObligation} (hwrite : KeepsLease write) :
    (state.update write).LeaseMatchesGeneration := by
  intro row' hrow' owner howner
  obtain ⟨row, hrow, rfl⟩ := Option.map_eq_some_iff.mp hrow'
  obtain ⟨hgeneration, hlease⟩ := hwrite row
  rw [hgeneration]
  exact h row hrow owner (hlease owner howner)

/-- A reservation leaves an existing row alone, and inserts one without a lease. -/
theorem reserve (h : state.LeaseMatchesGeneration) (dueAt : ℕ) :
    LeaseMatchesGeneration
      { state with row := some (reserveSchedulerObligation dueAt state.row) } := by
  intro row hrow owner howner
  obtain rfl : reserveSchedulerObligation dueAt state.row = row := Option.some.inj hrow
  cases hold : state.row with
  | none => simp [hold, reserveSchedulerObligation] at howner
  | some old =>
    rw [hold] at howner
    exact h old hold owner howner

/-- A claim leases the row to a fresh owner under the generation it returns to that owner. -/
theorem claim (h : state.LeaseMatchesGeneration) (leaseMs : Option ℕ) (dbNow : ℕ) :
    (claimStep configured leaseMs dbNow state).LeaseMatchesGeneration := by
  unfold claimStep
  split
  · split
    · intro row hrow owner howner
      obtain rfl := Option.some.inj hrow
      obtain rfl : state.nextOwner = owner := Option.some.inj howner
      simp [claimedGeneration, claimSchedulerObligation]
    · exact h
  · exact h

/-- Every call keeps the invariant. -/
theorem step (h : state.LeaseMatchesGeneration) (call : ObligationCall) :
    (obligationStep configured state call).LeaseMatchesGeneration := by
  cases call with
  | reserve dueAt => exact h.reserve dueAt
  | claim leaseMs dbNow => exact h.claim leaseMs dbNow
  | confirm owner jobSuffix runId =>
    simp only [obligationStep]
    split
    · exact h.update (confirm_keepsLease _ _ _)
    · exact h
  | renew now generation additionalLeaseMs => exact h.update (renew_keepsLease _ _ _)
  | complete status generation => exact h.update (complete_keepsLease _ _)
  | fail now owner generation retryDelayMs => exact h.update (fail_keepsLease _ _ _ _)
  | markIrrecoverable status => exact h.update (markIrrecoverable_keepsLease _)
  | completeByBullJobId bullJobId => exact h.update (completeByBullJobId_keepsLease _)
  | failByBullJobIdRead bullJobId =>
    simp only [obligationStep]
    split
    · split
      · exact h.withFound _
      · exact h
    · exact h
  | failByBullJobIdWrite bullJobId now =>
    simp only [obligationStep]
    split
    · exact (h.update (fail_keepsLease _ _ _ _)).withFound _
    · exact h

end ObligationState.LeaseMatchesGeneration

/-- The claim generation a report belongs to, absent for calls that report for none. -/
def ObligationCall.reportGeneration (state : ObligationState) : ObligationCall → Option ℕ
  | .confirm owner _ _ => state.claimedGeneration owner
  | .renew _ generation _ => generation
  | .complete _ generation => generation
  | .fail _ owner generation _ => generation.or (owner.bind state.claimedGeneration)
  | .completeByBullJobId bullJobId => some bullJobId.generation
  | .failByBullJobIdWrite bullJobId _ => some bullJobId.generation
  | _ => none

/-- The columns a late report must not touch: status, lease, attempts and due time. -/
def SchedulerObligation.fencedColumns (row : SchedulerObligation) :
    SchedulerObligationStatus × Option ℕ × Option ℕ × ℕ × ℕ :=
  (row.status, row.leaseOwner, row.leaseExpiresAt, row.attempts, row.dueAt)

/-- A report of an older generation than the row's leaves the fenced columns as they are. -/
def FencedReport (configured : Option ℕ) (state : ObligationState) (call : ObligationCall) :
    Prop :=
  ∀ row ∈ state.row, ∀ generation ∈ call.reportGeneration state, generation < row.generation →
    (obligationStep configured state call).row.map SchedulerObligation.fencedColumns =
      some row.fencedColumns

instance (configured : Option ℕ) (state : ObligationState) (call : ObligationCall) :
    Decidable (FencedReport configured state call) :=
  inferInstanceAs (Decidable (∀ row ∈ state.row, ∀ generation ∈ call.reportGeneration state,
    generation < row.generation → _))

/-- A report by the Bull job of an older generation that reaches an in-flight row: either the
row still stores that job id, or the report found the row before it was claimed again. -/
def UnfencedJobReport (state : ObligationState) (call : ObligationCall) : Prop :=
  ∃ row ∈ state.row, row.InFlight ∧ match call with
    | .completeByBullJobId bullJobId =>
      row.bullJobId = some bullJobId ∧ bullJobId.generation < row.generation
    | .failByBullJobIdWrite bullJobId _ =>
      bullJobId ∈ state.found ∧ bullJobId.generation < row.generation
    | _ => False

section Fences

variable {row : SchedulerObligation}

/-- Confirming for another owner than the lease's changes nothing. -/
theorem confirm_of_other_owner {owner : ℕ} (h : row.leaseOwner ≠ some owner)
    (bullJobId : Option BullJobId) (runId : Option ℕ) :
    confirmSchedulerObligationEnqueued owner bullJobId runId row = row := by
  simp [confirmSchedulerObligationEnqueued, h]

/-- Renewing another generation than the row's changes nothing. -/
theorem renew_of_other_generation {generation : ℕ} (h : row.generation ≠ generation) (now : ℕ)
    (additionalLeaseMs : ℤ) :
    renewSchedulerObligation configured now (some generation) additionalLeaseMs row = row := by
  simp [renewSchedulerObligation, h]

/-- Completing another generation than the row's changes nothing. -/
theorem complete_of_other_generation {generation : ℕ} (h : row.generation ≠ generation)
    (status : CompletionStatus) :
    completeSchedulerObligation status (some generation) row = row := by
  simp [completeSchedulerObligation, h]

/-- Failing another generation than the row's changes nothing. -/
theorem fail_of_other_generation {generation : ℕ} (h : row.generation ≠ generation) (now : ℕ)
    (owner : Option ℕ) (retryDelayMs : Option ℤ) :
    failSchedulerObligation now owner (some generation) retryDelayMs row = row := by
  simp [failSchedulerObligation, h]

/-- Failing for another owner than the lease's changes nothing. -/
theorem fail_of_other_owner {owner : ℕ} (h : row.leaseOwner ≠ some owner) (now : ℕ)
    (generation : Option ℕ) (retryDelayMs : Option ℤ) :
    failSchedulerObligation now (some owner) generation retryDelayMs row = row := by
  simp [failSchedulerObligation, h]

/-- An in-flight obligation is neither completed nor failed. -/
theorem SchedulerObligation.InFlight.status_ne (h : row.InFlight) :
    row.status ≠ .succeeded ∧ row.status ≠ .failed := by
  rcases h with h | h <;> simp [h]

/-- Completing by job id touches exactly the in-flight row that stores the id. -/
theorem completeByBullJobId_fencedColumns (bullJobId : BullJobId) :
    (completeSchedulerObligationByBullJobId bullJobId row).fencedColumns = row.fencedColumns ↔
      ¬ (row.bullJobId = some bullJobId ∧ row.InFlight) := by
  unfold completeSchedulerObligationByBullJobId
  split
  next h =>
    have hstatus : SchedulerObligationStatus.succeeded ≠ row.status := h.2.status_ne.1.symm
    simp [SchedulerObligation.fencedColumns, SchedulerObligation.closed, hstatus, h]
  next h => simp [h]

/-- A failure without owner and generation touches every in-flight row. -/
theorem fail_unfenced_fencedColumns (now : ℕ) :
    (failSchedulerObligation now none none none row).fencedColumns = row.fencedColumns ↔
      ¬ row.InFlight := by
  by_cases h : row.InFlight
  · have hstatus : SchedulerObligationStatus.failed ≠ row.status := h.status_ne.2.symm
    simp [failSchedulerObligation, SchedulerObligation.fencedColumns, SchedulerObligation.closed,
      hstatus, h]
  · simp [failSchedulerObligation, h]

end Fences

/-- On an existing row, a report is fenced when being late makes its write harmless. -/
theorem fencedReport_iff {state : ObligationState} {row : SchedulerObligation}
    (hrow : state.row = some row) (call : ObligationCall) :
    FencedReport configured state call ↔
      ∀ generation ∈ call.reportGeneration state, generation < row.generation →
        (obligationStep configured state call).row.map SchedulerObligation.fencedColumns =
          some row.fencedColumns := by
  simp [FencedReport, hrow]

/-- A write that leaves the row as it is passes every fence. -/
theorem fencedColumns_update {state : ObligationState} {row : SchedulerObligation}
    (hrow : state.row = some row) (write : SchedulerObligation → SchedulerObligation) :
    (state.update write).row.map SchedulerObligation.fencedColumns =
      some (write row).fencedColumns := by
  simp [ObligationState.update, hrow]

/-- While leases match generations, the only unfenced late reports are those by job id. -/
theorem fencedReport_iff_not_unfencedJobReport {state : ObligationState}
    (h : state.LeaseMatchesGeneration) (call : ObligationCall) :
    FencedReport configured state call ↔ ¬ UnfencedJobReport state call := by
  cases hrow : state.row with
  | none => simp [FencedReport, UnfencedJobReport, hrow]
  | some row =>
    have hlate : ∀ owner generation, state.claimedGeneration owner = some generation →
        generation < row.generation → row.leaseOwner ≠ some owner := by
      intro owner generation hclaimed hlt howner
      have hcurrent := h row hrow owner howner
      rw [hclaimed] at hcurrent
      exact absurd (Option.some.inj hcurrent) (Nat.ne_of_lt hlt)
    rw [fencedReport_iff hrow]
    cases call with
    | reserve | claim | markIrrecoverable | failByBullJobIdRead =>
      simp [ObligationCall.reportGeneration, UnfencedJobReport]
    | confirm owner jobSuffix runId =>
      simp only [ObligationCall.reportGeneration, UnfencedJobReport, and_false, exists_false,
        not_false_eq_true, iff_true]
      intro generation hclaimed hlt
      simp only [obligationStep, Option.mem_def.mp hclaimed, fencedColumns_update hrow,
        confirm_of_other_owner (hlate owner generation hclaimed hlt)]
    | renew now generation additionalLeaseMs =>
      simp only [ObligationCall.reportGeneration, UnfencedJobReport, and_false, exists_false,
        not_false_eq_true, iff_true]
      rintro reported rfl hlt
      simp only [obligationStep, fencedColumns_update hrow,
        renew_of_other_generation (Nat.ne_of_gt hlt)]
    | complete status generation =>
      simp only [ObligationCall.reportGeneration, UnfencedJobReport, and_false, exists_false,
        not_false_eq_true, iff_true]
      rintro reported rfl hlt
      simp only [obligationStep, fencedColumns_update hrow,
        complete_of_other_generation (Nat.ne_of_gt hlt)]
    | fail now owner generation retryDelayMs =>
      simp only [ObligationCall.reportGeneration, UnfencedJobReport, and_false, exists_false,
        not_false_eq_true, iff_true]
      intro reported hreported hlt
      simp only [obligationStep, fencedColumns_update hrow]
      cases generation with
      | some generation =>
        obtain rfl : generation = reported := by simpa using hreported
        rw [fail_of_other_generation (Nat.ne_of_gt hlt)]
      | none =>
        obtain ⟨claimant, rfl, hclaimed⟩ := Option.bind_eq_some_iff.mp hreported
        rw [fail_of_other_owner (hlate claimant reported hclaimed hlt)]
    | completeByBullJobId bullJobId =>
      simp only [ObligationCall.reportGeneration, UnfencedJobReport, obligationStep,
        fencedColumns_update hrow, Option.some.injEq, completeByBullJobId_fencedColumns, hrow,
        Option.mem_def, forall_eq']
      simp only [exists_eq_left']
      tauto
    | failByBullJobIdWrite bullJobId now =>
      simp only [ObligationCall.reportGeneration, UnfencedJobReport, obligationStep, hrow,
        Option.mem_def, Option.some.injEq, forall_eq', exists_eq_left']
      by_cases hfound : bullJobId ∈ state.found
      · simp only [if_pos hfound, fencedColumns_update hrow, Option.some.injEq,
          fail_unfenced_fencedColumns]
        tauto
      · simp [hfound, hrow]

/-- A run of calls fences every late report exactly when none of its late reports comes by
the Bull job id of an older generation. -/
theorem everyStep_fencedReport_iff (configured : Option ℕ) (calls : List ObligationCall) :
    EveryStep (obligationStep configured) (FencedReport configured) .initial calls ↔
      EveryStep (obligationStep configured) (fun state call => ¬ UnfencedJobReport state call)
        .initial calls :=
  everyStep_congr (fun _ call h => h.step call)
    (fun _ call h => fencedReport_iff_not_unfencedJobReport h call) _ _
    ObligationState.LeaseMatchesGeneration.initial

/-- A reclaimed obligation is completed by the Bull job of its abandoned generation. -/
theorem reclaimed_obligation_completed_by_old_job :
    ¬ EveryStep (obligationStep none) (FencedReport none) .initial
      [.reserve 0, .claim none 0, .confirm 0 (some "") none, .claim none 900000,
        .completeByBullJobId ⟨0, ""⟩] := by
  decide

end LetletmeData
