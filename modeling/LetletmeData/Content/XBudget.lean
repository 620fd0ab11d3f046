import Mathlib.Data.Rat.Floor
import LetletmeData.Content.AcquisitionPhase
import LetletmeData.Library.JavaScript
import LetletmeData.Library.Ledgers
import LetletmeData.Library.Runs
import LetletmeData.Library.Transactions

/-!
# X budgets

Every billable X call is reserved in the ledgers of its scopes before it is made, and committed or
released afterwards. A ledger belongs to one scope, unit kind and hour and counts the units of its
reservations by status. The functions run inside transactions: a call that throws, by itself or by
a constraint of the tables, leaves nothing behind. Amounts are exact.
-/

namespace LetletmeData

open LetletmeData.Library

/-- The text of a phase. -/
def AcquisitionPhase.text : AcquisitionPhase → String
  | normal => "NORMAL"
  | approaching => "APPROACHING"
  | final90 => "FINAL90"

/-- `XAcquisitionLane`. -/
inductive XAcquisitionLane where
  | official
  | club
  | reporter
  | creator
  | longform
  | semantic
  deriving DecidableEq

/-- The text of a lane. -/
def XAcquisitionLane.text : XAcquisitionLane → String
  | official => "OFFICIAL"
  | club => "CLUB"
  | reporter => "REPORTER"
  | creator => "CREATOR"
  | longform => "LONGFORM"
  | semantic => "SEMANTIC"

/-- `XBudgetLane`. -/
inductive XBudgetLane where
  | acquisition (lane : XAcquisitionLane)
  | identity
  deriving DecidableEq

/-- `XBudgetPolicy`. -/
structure XBudgetPolicy where
  globalRolling24hLimit : ℚ
  final90Rolling90mLimit : ℚ
  identityRolling24hLimit : ℚ
  laneCaps : AcquisitionPhase → XAcquisitionLane → ℚ
  laneWindowMinutes : AcquisitionPhase → ℤ

/-- The kinds of scopes a ledger can have. -/
inductive BudgetScopeKind where
  | global
  | lane
  | host
  | provider
  deriving DecidableEq

/-- The text of a kind. -/
def BudgetScopeKind.text : BudgetScopeKind → String
  | global => "GLOBAL"
  | lane => "LANE"
  | host => "HOST"
  | provider => "PROVIDER"

/-- `BudgetScope`. -/
structure BudgetScope where
  scopeKind : BudgetScopeKind
  scopeKey : String
  windowMinutes : ℤ
  limit : ℚ

/-- What identifies a ledger: its scope, its unit kind and its hour. -/
structure BudgetLedgerId where
  scopeKind : BudgetScopeKind
  scopeKey : String
  unitKind : String
  windowStart : ℤ
  windowEnd : ℤ
  deriving DecidableEq

/-- A row of `content.acquisition_budget_ledgers`. -/
structure BudgetLedger where
  maxUnits : ℚ
  reservedUnits : ℚ
  committedUnits : ℚ
  updatedAt : ℤ
  deriving DecidableEq

/-- The statuses of a reservation. -/
inductive BudgetReservationStatus where
  | reserved
  | committed
  | released
  deriving DecidableEq

/-- A row of `content.acquisition_budget_reservations`. -/
structure BudgetReservation where
  ledgerId : BudgetLedgerId
  runId : String
  units : ℚ
  status : BudgetReservationStatus
  createdAt : ℤ
  updatedAt : ℤ
  deriving DecidableEq

/-- Both tables. -/
structure XBudgetTables where
  ledgers : KeyedTable BudgetLedgerId BudgetLedger
  reservations : KeyedTable String BudgetReservation

/-- `XBudgetReservationResult`. -/
structure XBudgetReservationResult where
  reserved : Bool
  deferredScope : Option String
  remainingBeforeReservation : ℚ
  reservationIds : List String
  createdReservationIds : List String
  incrementedReservationIds : List String
  deriving DecidableEq

/-- `budgetScopes`. -/
def budgetScopes (phase : AcquisitionPhase) (lane : XBudgetLane) (policy : XBudgetPolicy) :
    List BudgetScope :=
  let shared : BudgetScope :=
    { scopeKind := .global, scopeKey := "GROK_BUILD_X", windowMinutes := 24 * 60
      limit := policy.globalRolling24hLimit }
  -- lane caps are phase-specific, the identity lane has a limit of its own
  let ofLane : BudgetScope :=
    match lane with
    | .identity =>
      { scopeKind := .lane, scopeKey := "IDENTITY", windowMinutes := 24 * 60
        limit := policy.identityRolling24hLimit }
    | .acquisition lane =>
      { scopeKind := .lane, scopeKey := phase.text ++ ":" ++ lane.text
        windowMinutes := policy.laneWindowMinutes phase, limit := policy.laneCaps phase lane }
  if phase = .final90 then
    [shared, ofLane,
      { scopeKind := .provider, scopeKey := "GROK_BUILD_X_FINAL90", windowMinutes := 90
        limit := policy.final90Rolling90mLimit }]
  else [shared, ofLane]

/-- The start of the hour, `hourBucket(dbNow).windowStart`. -/
def hourStart (dbNow : ℤ) : ℤ := dbNow - dbNow % 3600000

/-- The ledger of a scope in the hour of a reservation. -/
def BudgetScope.ledgerId (scope : BudgetScope) (dbNow : ℤ) : BudgetLedgerId where
  scopeKind := scope.scopeKind
  scopeKey := scope.scopeKey
  unitKind := "CALL"
  windowStart := hourStart dbNow
  windowEnd := hourStart dbNow + 60 * 60000

/-! ### Writes under the constraints of the tables -/

/-- `content_acquisition_budget_ledgers_units_check`. -/
def BudgetLedger.Checked (ledger : BudgetLedger) : Prop :=
  0 ≤ ledger.maxUnits ∧ 0 ≤ ledger.reservedUnits ∧ 0 ≤ ledger.committedUnits ∧
    ledger.reservedUnits + ledger.committedUnits ≤ ledger.maxUnits

instance (ledger : BudgetLedger) : Decidable ledger.Checked :=
  inferInstanceAs (Decidable (_ ∧ _))

/-- `content_acquisition_budget_reservations_units_check`. -/
def BudgetReservation.Checked (reservation : BudgetReservation) : Prop := 0 < reservation.units

instance (reservation : BudgetReservation) : Decidable reservation.Checked :=
  inferInstanceAs (Decidable (_ < _))

/-- `UPDATE ... WHERE ledger_id = ...`. -/
def updateLedger (id : BudgetLedgerId) (write : BudgetLedger → BudgetLedger)
    (tables : XBudgetTables) : Except String XBudgetTables := do
  let ledgers := tables.ledgers.updateWhere (fun key _ => key = id) write
  throwIf (∃ ledger ∈ ledgers.find id, ¬ ledger.Checked)
    "content_acquisition_budget_ledgers_units_check"
  return { tables with ledgers }

/-- `INSERT ... ON CONFLICT DO UPDATE` of a ledger. -/
def upsertLedger (id : BudgetLedgerId) (limit : ℚ) (dbNow : ℤ) (tables : XBudgetTables) :
    Except String XBudgetTables :=
  match tables.ledgers.find id with
  | some _ =>
    updateLedger id (fun ledger =>
      { ledger with
        maxUnits := max (max ledger.maxUnits (ledger.reservedUnits + ledger.committedUnits)) limit
        updatedAt := dbNow }) tables
  | none => do
    let ledger : BudgetLedger :=
      { maxUnits := limit, reservedUnits := 0, committedUnits := 0, updatedAt := dbNow }
    throwIf (¬ ledger.Checked) "content_acquisition_budget_ledgers_units_check"
    return { tables with ledgers := tables.ledgers.insertAbsent id ledger }

/-- `UPDATE ... WHERE reservation_id = ...`. -/
def updateReservation (id : String) (write : BudgetReservation → BudgetReservation)
    (tables : XBudgetTables) : Except String XBudgetTables := do
  let reservations := tables.reservations.updateWhere (fun key _ => key = id) write
  throwIf (∃ reservation ∈ reservations.find id, ¬ reservation.Checked)
    "content_acquisition_budget_reservations_units_check"
  return { tables with reservations }

/-- `INSERT` of a reservation; its ledger exists and its identifier is new. -/
def insertReservation (id : String) (reservation : BudgetReservation) (tables : XBudgetTables) :
    Except String XBudgetTables := do
  throwIf (tables.reservations.find id ≠ none) "acquisition_budget_reservations_pkey"
  throwIf (tables.ledgers.find reservation.ledgerId = none)
    "acquisition_budget_reservations_ledger_id_fkey"
  throwIf (¬ reservation.Checked) "content_acquisition_budget_reservations_units_check"
  return { tables with reservations := tables.reservations.insertAbsent id reservation }

/-- A reservation is rewritten, then its ledger. -/
def settleReservation (write : BudgetReservation → BudgetReservation)
    (adjust : BudgetLedger → BudgetLedger) (selected : String × BudgetReservation)
    (tables : XBudgetTables) : Except String XBudgetTables := do
  let written ← updateReservation selected.1 write tables
  updateLedger selected.2.ledgerId adjust written

/-! ### Reserving -/

/-- The input of `reserveXRunBudgets`, with the identifiers it draws for new reservations and the
place of the row that `LIMIT 1` returns. -/
structure XBudgetRequest where
  runId : String
  phase : AcquisitionPhase
  lane : XBudgetLane
  dbNow : ℤ
  policy : XBudgetPolicy
  units : ℤ
  separateReservation : Bool
  newIds : ℕ → String
  firstRow : ℕ

/-- `Number.isSafeInteger(value) && value >= 1`. -/
def isPositiveSafeInteger (value : ℤ) : Prop := 1 ≤ value ∧ value ≤ maxSafeInteger

instance (value : ℤ) : Decidable (isPositiveSafeInteger value) :=
  inferInstanceAs (Decidable (_ ∧ _))

/-- The units a reservation counts in the rolling window of a scope. -/
def windowUnits (scope : BudgetScope) (dbNow : ℤ) (reservation : BudgetReservation) : ℚ :=
  if reservation.ledgerId.scopeKind = scope.scopeKind ∧
      reservation.ledgerId.scopeKey = scope.scopeKey ∧ reservation.ledgerId.unitKind = "CALL" ∧
      (reservation.status = .reserved ∨ reservation.status = .committed) ∧
      dbNow - scope.windowMinutes * 60000 < reservation.createdAt then
    reservation.units
  else 0

/-- The usage of a scope in its rolling window. -/
def windowUsage (tables : XBudgetTables) (dbNow : ℤ) (scope : BudgetScope) : ℚ :=
  tables.reservations.total (windowUnits scope dbNow)

/-- The first scope the units do not fit in. -/
def firstExceeded (units : ℚ) :
    List (BudgetScope × ℚ) → Except String (Option (BudgetScope × ℚ))
  | [] => .ok none
  | (scope, used) :: rest => do
    throwIf (used < 0) "X budget usage is invalid"
    if scope.limit < used + units then return some (scope, used) else firstExceeded units rest

/-- What a reservation has written so far. -/
structure XBudgetReserving where
  tables : XBudgetTables
  reservationIds : List String
  createdReservationIds : List String
  incrementedReservationIds : List String

/-- The writes in one scope. -/
def reserveScope (request : XBudgetRequest) (reserving : XBudgetReserving)
    (item : (BudgetScope × ℚ) × ℕ) : Except String XBudgetReserving := do
  let ((scope, used), index) := item
  let newId := request.newIds index
  let ledgerId := scope.ledgerId request.dbNow
  let opened ← upsertLedger ledgerId scope.limit request.dbNow reserving.tables
  let counted ← updateLedger ledgerId (fun ledger =>
    { ledger with
      reservedUnits := ledger.reservedUnits + request.units, updatedAt := request.dbNow }) opened
  let existing :=
    if request.separateReservation then []
    else counted.reservations.selectWhere fun _ row =>
      row.runId = request.runId ∧ row.ledgerId = ledgerId ∧ row.status = .reserved
  match existing[request.firstRow % existing.length]? with
  | some selected =>
    let tables ← updateReservation selected.1 (fun row =>
      { row with units := row.units + request.units, updatedAt := request.dbNow }) counted
    throwIf (scope.limit < used + request.units) "X budget reservation exceeded its hard cap"
    return { reserving with
      tables
      reservationIds := reserving.reservationIds ++ [selected.1]
      incrementedReservationIds := reserving.incrementedReservationIds ++ [selected.1] }
  | none =>
    let tables ← insertReservation newId
      { ledgerId, runId := request.runId, units := request.units, status := .reserved
        createdAt := request.dbNow, updatedAt := request.dbNow } counted
    throwIf (scope.limit < used + request.units) "X budget reservation exceeded its hard cap"
    return { reserving with
      tables
      reservationIds := reserving.reservationIds ++ [newId]
      createdReservationIds := reserving.createdReservationIds ++ [newId] }

/-- `reserveXRunBudgets`. A refusal is decided before anything is written. -/
def reserveXRunBudgets (request : XBudgetRequest) (tables : XBudgetTables) :
    Except String (XBudgetTables × XBudgetReservationResult) := do
  throwIf (¬ isPositiveSafeInteger request.units)
    "X budget reservation units must be a positive integer"
  let usage := (budgetScopes request.phase request.lane request.policy).map fun scope =>
    (scope, windowUsage tables request.dbNow scope)
  match ← firstExceeded request.units usage with
  | some (scope, used) =>
    return (tables,
      { reserved := false, deferredScope := some (scope.scopeKind.text ++ ":" ++ scope.scopeKey)
        remainingBeforeReservation := max 0 (scope.limit - used), reservationIds := []
        createdReservationIds := [], incrementedReservationIds := [] })
  | none =>
    let reserving ← usage.zipIdx.foldlM (reserveScope request) ⟨tables, [], [], []⟩
    return (reserving.tables,
      { reserved := true, deferredScope := none
        remainingBeforeReservation :=
          ((usage.map fun item : BudgetScope × ℚ =>
            max 0 (item.1.limit - item.2 - request.units)).min?).getD 0
        reservationIds := reserving.reservationIds
        createdReservationIds := reserving.createdReservationIds
        incrementedReservationIds := reserving.incrementedReservationIds })

/-! ### Releasing and committing -/

/-- The reserved rows of a run that are selected. -/
def reservedOfRun (tables : XBudgetTables) (runId : String) (selected : String → Prop)
    [DecidablePred selected] : List (String × BudgetReservation) :=
  tables.reservations.selectWhere fun id row =>
    row.runId = runId ∧ selected id ∧ row.status = .reserved

/-- `Number.isSafeInteger(units) && units >= 1` of stored units. -/
def wholeUnits (units : ℚ) : Prop := units.den = 1 ∧ isPositiveSafeInteger units.num

instance (units : ℚ) : Decidable (wholeUnits units) := inferInstanceAs (Decidable (_ ∧ _))

/-- A loop over selected reservations: each must be valid, is rewritten and then counted. -/
def settleAll (valid : BudgetReservation → Prop) [DecidablePred valid] (message : String)
    (write : BudgetReservation → BudgetReservation)
    (adjust : BudgetReservation → BudgetLedger → BudgetLedger)
    (selected : List (String × BudgetReservation)) (tables : XBudgetTables) :
    Except String XBudgetTables :=
  selected.foldlM (fun tables row => do
    throwIf (¬ valid row.2) message
    settleReservation write (adjust row.2) row tables) tables

/-- One unit leaves a reservation; the last one takes the reservation to another status. -/
def takeOneUnit (target : BudgetReservationStatus) (dbNow : ℤ) (row : BudgetReservation) :
    BudgetReservation :=
  if row.units = 1 then { row with status := target, updatedAt := dbNow }
  else { row with units := row.units - 1, updatedAt := dbNow }

/-- `releaseOneXRunBudgetUnit`. -/
def releaseOneXRunBudgetUnit (runId : String) (dbNow : ℤ) (reservationIds : List String)
    (tables : XBudgetTables) : Except String (XBudgetTables × Bool) :=
  let ids := reservationIds.dedup
  if ids = [] then .ok (tables, false)
  else do
    let rows := reservedOfRun tables runId (· ∈ ids)
    throwIf (rows.length ≠ ids.length) "X probe budget reservation disappeared before release"
    let released ← settleAll (fun row => wholeUnits row.units) "X budget reservation is invalid"
      (takeOneUnit .released dbNow)
      (fun _ ledger =>
        { ledger with reservedUnits := ledger.reservedUnits - 1, updatedAt := dbNow })
      rows tables
    return (released, true)

/-- `commitOneXRunBudgetUnit`. -/
def commitOneXRunBudgetUnit (runId : String) (dbNow : ℤ) (reservationIds : List String)
    (tables : XBudgetTables) : Except String (XBudgetTables × Bool) :=
  let ids := reservationIds.dedup
  if ids = [] then .ok (tables, false)
  else do
    let rows := reservedOfRun tables runId (· ∈ ids)
    throwIf (rows.length ≠ ids.length) "X probe budget reservation disappeared before commit"
    let committed ← settleAll (fun row => wholeUnits row.units) "X budget reservation is invalid"
      (takeOneUnit .committed dbNow)
      (fun _ ledger =>
        { ledger with
          reservedUnits := ledger.reservedUnits - 1
          committedUnits := ledger.committedUnits + 1, updatedAt := dbNow })
      rows tables
    return (committed, true)

/-- `releaseXRunBudgetsExcept`. -/
def releaseXRunBudgetsExcept (runId : String) (dbNow : ℤ) (keepReservationIds : List String)
    (tables : XBudgetTables) : Except String (XBudgetTables × ℕ) := do
  let rows := reservedOfRun tables runId (· ∉ keepReservationIds.dedup)
  let released ← settleAll (fun row => wholeUnits row.units) "X budget reservation is invalid"
    (fun row => { row with status := .released, updatedAt := dbNow })
    (fun row ledger =>
      { ledger with reservedUnits := ledger.reservedUnits - row.units, updatedAt := dbNow })
    rows tables
  return (released, rows.length)

/-- The release of a unit of each reservation that a probe has incremented, if there are any. -/
def releaseIncremented (runId : String) (dbNow : ℤ) (incremented : List String)
    (tables : XBudgetTables) : Except String XBudgetTables :=
  if incremented = [] then .ok tables
  else do
    let (released, done) ← releaseOneXRunBudgetUnit runId dbNow incremented tables
    throwIf (done = false) "Original X execution budget disappeared after probe"
    return released

/-- `commitProbeAndReleaseXRunBudgets`. -/
def commitProbeAndReleaseXRunBudgets (runId : String) (dbNow : ℤ)
    (probeReservationIds probeIncrementedReservationIds : List String) (tables : XBudgetTables) :
    Except String (XBudgetTables × Bool) :=
  let probes := probeReservationIds.dedup
  let incremented := probeIncrementedReservationIds.dedup
  if probes = [] then .ok (tables, false)
  else do
    let (kept, _) ← releaseXRunBudgetsExcept runId dbNow (probes ++ incremented).dedup tables
    let released ← releaseIncremented runId dbNow incremented kept
    let (committed, done) ← commitOneXRunBudgetUnit runId dbNow probes released
    throwIf (done = false) "X probe budget reservation disappeared before commit"
    return (committed, true)

/-- `transitionRunBudgets`; the target is `COMMITTED` or `RELEASED`. -/
def transitionRunBudgets (runId : String) (committed : Bool) (dbNow : ℤ) (tables : XBudgetTables) :
    Except String (XBudgetTables × ℕ) := do
  let rows := reservedOfRun tables runId fun _ => True
  let target : BudgetReservationStatus := if committed then .committed else .released
  let moved ← settleAll (fun row => 0 < row.units) "Run budget reservation is invalid"
    (fun row => { row with status := target, updatedAt := dbNow })
    (fun row ledger =>
      { ledger with
        reservedUnits := ledger.reservedUnits - row.units
        committedUnits :=
          if committed then ledger.committedUnits + row.units else ledger.committedUnits
        updatedAt := dbNow })
    rows tables
  return (moved, rows.length)

/-- `reconcileReservedProviderBudget`. -/
def reconcileReservedProviderBudget (runId scopeKey unitKind : String) (actualUnits : ℚ)
    (dbNow : ℤ) (tables : XBudgetTables) : Except String (XBudgetTables × Bool) := do
  throwIf (actualUnits < 0) "Actual provider units must be a non-negative number"
  let rows := tables.reservations.selectWhere fun _ row =>
    row.runId = runId ∧ (row.status = .reserved ∨ row.status = .committed) ∧
      row.ledgerId.scopeKind = .provider ∧ row.ledgerId.scopeKey = scopeKey ∧
      row.ledgerId.unitKind = unitKind
  match rows with
  | [] => return (tables, false)
  | [(id, row)] =>
    throwIf (row.units ≤ 0) "Provider budget reservation is invalid"
    let delta := actualUnits - row.units
    let reconciled ← settleReservation
      (fun row => { row with units := actualUnits, updatedAt := dbNow })
      (fun ledger =>
        { ledger with
          reservedUnits :=
            if row.status = .reserved then ledger.reservedUnits + delta else ledger.reservedUnits
          committedUnits :=
            if row.status = .committed then ledger.committedUnits + delta
            else ledger.committedUnits
          maxUnits := max ledger.maxUnits (ledger.reservedUnits + ledger.committedUnits + delta)
          updatedAt := dbNow })
      (id, row) tables
    return (reconciled, true)
  | _ => .error "Provider run has multiple matching budget reservations"

/-! ### Calls -/

/-- The calls of the budget. -/
inductive XBudgetAction where
  | reserve (request : XBudgetRequest)
  | releaseOne (runId : String) (dbNow : ℤ) (reservationIds : List String)
  | commitOne (runId : String) (dbNow : ℤ) (reservationIds : List String)
  | releaseExcept (runId : String) (dbNow : ℤ) (keepReservationIds : List String)
  | commitProbeAndRelease (runId : String) (dbNow : ℤ)
      (probeReservationIds probeIncrementedReservationIds : List String)
  | transition (runId : String) (committed : Bool) (dbNow : ℤ)
  | reconcile (runId scopeKey unitKind : String) (actualUnits : ℚ) (dbNow : ℤ)

/-- The tables a call leaves when it does not throw. -/
def XBudgetAction.run (tables : XBudgetTables) : XBudgetAction → Except String XBudgetTables
  | .reserve request => Prod.fst <$> reserveXRunBudgets request tables
  | .releaseOne runId dbNow ids => Prod.fst <$> releaseOneXRunBudgetUnit runId dbNow ids tables
  | .commitOne runId dbNow ids => Prod.fst <$> commitOneXRunBudgetUnit runId dbNow ids tables
  | .releaseExcept runId dbNow keep =>
    Prod.fst <$> releaseXRunBudgetsExcept runId dbNow keep tables
  | .commitProbeAndRelease runId dbNow probes incremented =>
    Prod.fst <$> commitProbeAndReleaseXRunBudgets runId dbNow probes incremented tables
  | .transition runId committed dbNow =>
    Prod.fst <$> transitionRunBudgets runId committed dbNow tables
  | .reconcile runId scopeKey unitKind actualUnits dbNow =>
    Prod.fst <$> reconcileReservedProviderBudget runId scopeKey unitKind actualUnits dbNow tables

/-- A call inside a transaction. -/
def xBudgetStep (tables : XBudgetTables) (action : XBudgetAction) : XBudgetTables :=
  commit action.run tables

/-- No ledger and no reservation. -/
def XBudgetTables.initial : XBudgetTables := ⟨.empty, .empty⟩

end LetletmeData
