import Mathlib.Data.Int.Notation
import LetletmeData.Library.JavaScript
import LetletmeData.Library.Runs

/-!
# One scheduler obligation

The durable row of one scheduled job, scope and period, with the calls that scheduler
owners and Bull workers make on it. A call is one SQL statement or one transaction and
therefore one step; `failByBullJobId` reads the row and writes in two separate steps.
Times are milliseconds of the database clock.
-/

namespace LetletmeData

open LetletmeData.Library

/-- The status column of an obligation. -/
inductive SchedulerObligationStatus where
  | pending
  | enqueued
  | running
  | succeeded
  | failed
  | skipped
  | irrecoverable
  deriving DecidableEq

/-- A Bull job id `scheduler-<obligation>-g<generation>`, with the text a queue appends. -/
structure BullJobId where
  generation : ℕ
  suffix : String
  deriving DecidableEq

/-- The columns of an obligation that some call reads or that a caller is returned. -/
structure SchedulerObligation where
  status : SchedulerObligationStatus
  dueAt : ℕ
  generation : ℕ
  attempts : ℕ
  bullJobId : Option BullJobId
  runId : Option ℕ
  leaseOwner : Option ℕ
  leaseExpiresAt : Option ℕ
  deriving DecidableEq

namespace SchedulerObligation

/-- The status guard `inArray(status, ['enqueued', 'running'])`. -/
def InFlight (row : SchedulerObligation) : Prop :=
  row.status = .enqueued ∨ row.status = .running

instance (row : SchedulerObligation) : Decidable row.InFlight :=
  inferInstanceAs (Decidable (_ ∨ _))

/-- The selection of a claim: due, and waiting or abandoned by an expired lease. -/
def Claimable (row : SchedulerObligation) (dbNow : ℕ) : Prop :=
  row.dueAt ≤ dbNow ∧
    ((row.status = .pending ∨ row.status = .failed) ∨
      (row.InFlight ∧ ∀ expiresAt ∈ row.leaseExpiresAt, expiresAt ≤ dbNow))

instance (row : SchedulerObligation) (dbNow : ℕ) : Decidable (row.Claimable dbNow) :=
  inferInstanceAs (Decidable (_ ∧ _))

/-- A failed or abandoned attempt moves to a fresh generation; a pending one keeps its own. -/
def nextGeneration (row : SchedulerObligation) : ℕ :=
  if row.status = .failed ∨ row.status = .enqueued ∨ row.status = .running then
    row.generation + 1
  else row.generation

end SchedulerObligation

/-- `DEFAULT_SCHEDULER_LEASE_MS`. -/
def defaultSchedulerLeaseMs : ℕ := 15 * 60000

/-- The lease of the environment, at least a minute long, or the default. -/
def resolveSchedulerLeaseMs (configured : Option ℕ) : ℕ :=
  match configured with
  | some leaseMs =>
    if 60000 ≤ leaseMs ∧ leaseMs ≤ maxSafeInteger then leaseMs else defaultSchedulerLeaseMs
  | none => defaultSchedulerLeaseMs

/-- Insert the row once; a later reservation of the same key finds the existing row. -/
def reserveSchedulerObligation (dueAt : ℕ) :
    Option SchedulerObligation → SchedulerObligation
  | some row => row
  | none =>
    { status := .pending, dueAt := dueAt, generation := 0, attempts := 0, bullJobId := none,
      runId := none, leaseOwner := none, leaseExpiresAt := none }

/-- What a claim writes to a selected row. The Bull job id of the previous generation stays. -/
def claimSchedulerObligation (leaseMs dbNow owner : ℕ) (row : SchedulerObligation) :
    SchedulerObligation :=
  { row with
    status := .enqueued
    generation := row.nextGeneration
    attempts := row.attempts + 1
    leaseOwner := some owner
    leaseExpiresAt := some (dbNow + leaseMs) }

/-- The lease length a claim uses, absent when the call throws before its transaction. -/
def claimLeaseMs (configured leaseMs : Option ℕ) : Option ℕ :=
  let requested := leaseMs.getD (resolveSchedulerLeaseMs configured)
  if 1 ≤ requested ∧ requested ≤ maxSafeInteger then some requested else none

/-- Confirm an enqueue for the current lease owner; an undefined argument keeps its column. -/
def confirmSchedulerObligationEnqueued (owner : ℕ) (bullJobId : Option BullJobId)
    (runId : Option ℕ) (row : SchedulerObligation) : SchedulerObligation :=
  if row.leaseOwner = some owner ∧ row.status = .enqueued then
    { row with
      status := .running
      bullJobId := bullJobId.or row.bullJobId
      runId := runId.or row.runId }
  else row

/-- Extend the lease of an in-flight obligation of the given generation, if one is given. -/
def renewSchedulerObligation (configured : Option ℕ) (now : ℕ) (generation : Option ℕ)
    (additionalLeaseMs : ℤ) (row : SchedulerObligation) : SchedulerObligation :=
  let leaseMs := resolveSchedulerLeaseMs configured + additionalLeaseMs.toNat
  if additionalLeaseMs.toNat ≤ maxSafeInteger ∧ 1 ≤ leaseMs ∧ leaseMs ≤ maxSafeInteger ∧
      (∀ g ∈ generation, row.generation = g) ∧ row.InFlight then
    { row with leaseExpiresAt := some (now + leaseMs) }
  else row

/-- The statuses a worker may complete an obligation with. -/
inductive CompletionStatus where
  | succeeded
  | skipped
  | irrecoverable
  deriving DecidableEq

/-- The completion status as a status column. -/
def CompletionStatus.status : CompletionStatus → SchedulerObligationStatus
  | succeeded => .succeeded
  | skipped => .skipped
  | irrecoverable => .irrecoverable

/-- The statuses a window may be closed with before anything was enqueued. -/
inductive ClosureStatus where
  | skipped
  | irrecoverable
  deriving DecidableEq

/-- The closure status as a status column. -/
def ClosureStatus.status : ClosureStatus → SchedulerObligationStatus
  | skipped => .skipped
  | irrecoverable => .irrecoverable

/-- Close an obligation and release its lease. -/
def SchedulerObligation.closed (status : SchedulerObligationStatus)
    (row : SchedulerObligation) : SchedulerObligation :=
  { row with status := status, leaseOwner := none, leaseExpiresAt := none }

/-- Complete an in-flight obligation of the given generation, if one is given. -/
def completeSchedulerObligation (status : CompletionStatus) (generation : Option ℕ)
    (row : SchedulerObligation) : SchedulerObligation :=
  if (∀ g ∈ generation, row.generation = g) ∧ row.InFlight then row.closed status.status else row

/-- Close an obligation that is not in flight; the default status is irrecoverable. -/
def markSchedulerObligationIrrecoverable (status : Option ClosureStatus)
    (row : SchedulerObligation) : SchedulerObligation :=
  if row.status = .pending ∨ row.status = .failed then
    row.closed (status.getD .irrecoverable).status
  else row

/-- Complete the in-flight obligation that stores the Bull job id; no generation is checked. -/
def completeSchedulerObligationByBullJobId (bullJobId : BullJobId) (row : SchedulerObligation) :
    SchedulerObligation :=
  if row.bullJobId = some bullJobId ∧ row.InFlight then row.closed .succeeded else row

/-- Fail an in-flight obligation of the given owner and generation, each only if given. -/
def failSchedulerObligation (now : ℕ) (owner generation : Option ℕ) (retryDelayMs : Option ℤ)
    (row : SchedulerObligation) : SchedulerObligation :=
  if (∀ o ∈ owner, row.leaseOwner = some o) ∧ (∀ g ∈ generation, row.generation = g) ∧
      row.InFlight then
    { row.closed .failed with dueAt := now + (retryDelayMs.getD 60000).toNat }
  else row

/-- The first statement of `failSchedulerObligationByBullJobId`: the row is found by job id. -/
def FoundByBullJobId (bullJobId : BullJobId) (row : SchedulerObligation) : Prop :=
  row.bullJobId = some bullJobId ∧ row.InFlight

instance (bullJobId : BullJobId) (row : SchedulerObligation) :
    Decidable (FoundByBullJobId bullJobId row) :=
  inferInstanceAs (Decidable (_ ∧ _))

/-- The row, and what its callers hold: the generations claims returned to their owners,
and the job ids whose failure report has read the row and not yet written. -/
structure ObligationState where
  row : Option SchedulerObligation
  nextOwner : ℕ
  claims : List (ℕ × ℕ)
  found : List BullJobId
  deriving DecidableEq

namespace ObligationState

/-- Before the first reservation. -/
def initial : ObligationState := ⟨none, 0, [], []⟩

/-- The generation that the owner's claim returned. -/
def claimedGeneration (state : ObligationState) (owner : ℕ) : Option ℕ :=
  state.claims.lookup owner

/-- Update the row, when there is one. -/
def update (state : ObligationState) (write : SchedulerObligation → SchedulerObligation) :
    ObligationState :=
  { state with row := state.row.map write }

end ObligationState

/-- The calls of schedulers and workers, with the times and options they carry. An owner
confirms with the Bull job its own generation enqueued, when the queue returned one. -/
inductive ObligationCall where
  | reserve (dueAt : ℕ)
  | claim (leaseMs : Option ℕ) (dbNow : ℕ)
  | confirm (owner : ℕ) (jobSuffix : Option String) (runId : Option ℕ)
  | renew (now : ℕ) (generation : Option ℕ) (additionalLeaseMs : ℤ)
  | complete (status : CompletionStatus) (generation : Option ℕ)
  | fail (now : ℕ) (owner generation : Option ℕ) (retryDelayMs : Option ℤ)
  | markIrrecoverable (status : Option ClosureStatus)
  | completeByBullJobId (bullJobId : BullJobId)
  | failByBullJobIdRead (bullJobId : BullJobId)
  | failByBullJobIdWrite (bullJobId : BullJobId) (now : ℕ)

/-- A claim takes a fresh owner, and returns the row when its selection includes it. -/
def claimStep (configured leaseMs : Option ℕ) (dbNow : ℕ) (state : ObligationState) :
    ObligationState :=
  match claimLeaseMs configured leaseMs, state.row with
  | some leaseMs, some row =>
    if row.Claimable dbNow then
      { state with
        row := some (claimSchedulerObligation leaseMs dbNow state.nextOwner row)
        nextOwner := state.nextOwner + 1
        claims := (state.nextOwner, row.nextGeneration) :: state.claims }
    else { state with nextOwner := state.nextOwner + 1 }
  | _, _ => state

/-- One call on the obligation. -/
def obligationStep (configured : Option ℕ) (state : ObligationState) :
    ObligationCall → ObligationState
  | .reserve dueAt => { state with row := some (reserveSchedulerObligation dueAt state.row) }
  | .claim leaseMs dbNow => claimStep configured leaseMs dbNow state
  | .confirm owner jobSuffix runId =>
    match state.claimedGeneration owner with
    | some generation =>
      state.update
        (confirmSchedulerObligationEnqueued owner (jobSuffix.map (BullJobId.mk generation)) runId)
    | none => state
  | .renew now generation additionalLeaseMs =>
    state.update (renewSchedulerObligation configured now generation additionalLeaseMs)
  | .complete status generation => state.update (completeSchedulerObligation status generation)
  | .fail now owner generation retryDelayMs =>
    state.update (failSchedulerObligation now owner generation retryDelayMs)
  | .markIrrecoverable status => state.update (markSchedulerObligationIrrecoverable status)
  | .completeByBullJobId bullJobId =>
    state.update (completeSchedulerObligationByBullJobId bullJobId)
  | .failByBullJobIdRead bullJobId =>
    match state.row with
    | some row =>
      if FoundByBullJobId bullJobId row then { state with found := bullJobId :: state.found }
      else state
    | none => state
  | .failByBullJobIdWrite bullJobId now =>
    -- the write names only the obligation: neither owner nor generation is passed on
    if bullJobId ∈ state.found then
      { state.update (failSchedulerObligation now none none none) with
        found := state.found.erase bullJobId }
    else state

end LetletmeData
