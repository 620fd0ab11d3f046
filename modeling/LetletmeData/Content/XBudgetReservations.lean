import Mathlib.Algebra.Order.Ring.Rat
import Mathlib.Tactic.Ring
import LetletmeData.Content.XBudgetBalance

/-!
# Accepted X reservations stay within their windows

A reservation is accepted when its units fit in the rolling window of every scope. Each scope has
a ledger of its own, so what is written for one scope does not count in another, and after an
accepted reservation every window is within its limit.
-/

namespace LetletmeData

open LetletmeData.Library

variable {tables written : XBudgetTables} {request : XBudgetRequest}

/-! ### The ledger of a scope -/

/-- Opening or renewing a ledger leaves the reservations. -/
theorem reservations_upsertLedger {id : BudgetLedgerId} {limit : ℚ} {dbNow : ℤ}
    (h : upsertLedger id limit dbNow tables = .ok written) :
    written.reservations = tables.reservations := by
  unfold upsertLedger at h
  split at h
  next => rw [(updateLedger_eq_ok h).1]
  next =>
    dsimp only at h
    rw [throwIf_bind_eq_ok] at h
    cases h.2
    rfl

/-- Opening or renewing a ledger keeps the books. -/
theorem XBudgetTables.Booked.upsertLedger (hbooked : tables.Booked) {id : BudgetLedgerId}
    {limit : ℚ} {dbNow : ℤ} (h : upsertLedger id limit dbNow tables = .ok written) :
    written.Booked := by
  have hconstrained := hbooked.constrained
  unfold LetletmeData.upsertLedger at h
  split at h
  next =>
    have hkept := hconstrained.updateLedger h
    rw [(updateLedger_eq_ok h).1] at hkept ⊢
    exact ⟨hkept, hbooked.reserved.adjust fun _ => rfl, hbooked.committed.adjust fun _ => rfl⟩
  next hnone =>
    dsimp only at h
    rw [throwIf_bind_eq_ok, not_not] at h
    obtain ⟨hchecked, hwritten⟩ := h
    cases hwritten
    have hunused : ∀ status, ∀ entry ∈ tables.reservations.entries,
        unitsIn status id entry.2 = 0 := by
      intro status entry hentry
      refine unitsIn_of_ne status id entry.2 fun heq => ?_
      exact hconstrained.references entry.1 entry.2 (KeyedTable.mem_entries_iff.mp hentry)
        (heq ▸ hnone)
    refine ⟨⟨fun other ledger hfind => ?_, hconstrained.reservations, fun other row hfind => ?_⟩,
      hbooked.reserved.openAccount rfl (hunused .reserved),
      hbooked.committed.openAccount rfl (hunused .committed)⟩
    · rw [KeyedTable.find_insertAbsent] at hfind
      cases hother : tables.ledgers.find other with
      | some old =>
        rw [hother, Option.some_or] at hfind
        exact hconstrained.ledgers other ledger (hother.trans hfind)
      | none =>
        rw [hother, Option.none_or] at hfind
        split at hfind
        next => exact Option.some.inj hfind ▸ hchecked
        next => cases hfind
    · have hthere := hconstrained.references other row hfind
      dsimp only
      rw [KeyedTable.find_insertAbsent]
      cases hledger : tables.ledgers.find row.ledgerId with
      | none => exact absurd hledger hthere
      | some old => simp

/-! ### One scope of a reservation -/

/-- The new reservation of a scope. -/
def newReservation (request : XBudgetRequest) (ledgerId : BudgetLedgerId) : BudgetReservation where
  ledgerId := ledgerId
  runId := request.runId
  units := request.units
  status := .reserved
  createdAt := request.dbNow
  updatedAt := request.dbNow

/-- The reservation of a scope that is incremented. -/
def incrementReservation (request : XBudgetRequest) (row : BudgetReservation) : BudgetReservation :=
  { row with units := row.units + request.units, updatedAt := request.dbNow }

/-- The ledger of a scope after its counter was raised. -/
def countReservation (request : XBudgetRequest) (ledger : BudgetLedger) : BudgetLedger :=
  { ledger with
    reservedUnits := ledger.reservedUnits + request.units, updatedAt := request.dbNow }

/-- In each scope the ledger is opened and counted, and a reservation of the ledger is incremented
or added. -/
theorem reserveScope_eq_ok {reserving after : XBudgetReserving}
    {item : (BudgetScope × ℚ) × ℕ} (h : reserveScope request reserving item = .ok after) :
    ∃ opened counted,
      upsertLedger (item.1.1.ledgerId request.dbNow) item.1.1.limit request.dbNow reserving.tables =
        .ok opened ∧
      updateLedger (item.1.1.ledgerId request.dbNow) (countReservation request) opened =
        .ok counted ∧
      ((∃ id row, counted.reservations.find id = some row ∧
          row.ledgerId = item.1.1.ledgerId request.dbNow ∧ row.status = .reserved ∧
          updateReservation id (incrementReservation request) counted = .ok after.tables) ∨
        ∃ id, insertReservation id
          (newReservation request (item.1.1.ledgerId request.dbNow)) counted = .ok after.tables) := by
  obtain ⟨opened, hopened, h⟩ := bind_eq_ok.mp h
  obtain ⟨counted, hcounted, h⟩ := bind_eq_ok.mp h
  refine ⟨opened, counted, hopened, hcounted, ?_⟩
  dsimp only at h
  split at h
  next selected hselected =>
    left
    obtain ⟨incremented, hincremented, h⟩ := bind_eq_ok.mp h
    rw [throwIf_bind_eq_ok] at h
    cases h.2
    have hmem := List.mem_of_getElem? hselected
    split at hmem
    next => exact absurd hmem List.not_mem_nil
    next =>
      have hrow := KeyedTable.mem_selectWhere.mp hmem
      exact ⟨selected.1, selected.2, hrow.1, hrow.2.2.1, hrow.2.2.2, hincremented⟩
  next =>
    right
    obtain ⟨inserted, hinserted, h⟩ := bind_eq_ok.mp h
    rw [throwIf_bind_eq_ok] at h
    cases h.2
    exact ⟨_, hinserted⟩

/-- A reservation is inserted under a new identifier, within its constraint and with its ledger. -/
theorem insertReservation_eq_ok {id : String} {row : BudgetReservation}
    (h : insertReservation id row tables = .ok written) :
    tables.reservations.find id = none ∧ tables.ledgers.find row.ledgerId ≠ none ∧ row.Checked ∧
      written = { tables with reservations := tables.reservations.insertAbsent id row } := by
  unfold insertReservation at h
  rw [throwIf_bind_eq_ok, throwIf_bind_eq_ok, throwIf_bind_eq_ok, not_not, not_not] at h
  obtain ⟨hnew, hledger, hchecked, hwritten⟩ := h
  cases hwritten
  exact ⟨hnew, hledger, hchecked, rfl⟩

/-- Inserting a reservation keeps the constraints. -/
theorem XBudgetTables.Constrained.insertReservation (hconstrained : tables.Constrained)
    {id : String} {row : BudgetReservation}
    (h : insertReservation id row tables = .ok written) : written.Constrained := by
  obtain ⟨hnew, hledger, hchecked, hwritten⟩ := insertReservation_eq_ok h
  rw [hwritten]
  have hfound : ∀ other found, (tables.reservations.insertAbsent id row).find other = some found →
      found = row ∨ tables.reservations.find other = some found := by
    intro other found hfind
    rw [KeyedTable.find_insertAbsent] at hfind
    cases hother : tables.reservations.find other with
    | some old =>
      rw [hother, Option.some_or] at hfind
      exact Or.inr hfind
    | none =>
      rw [hother, Option.none_or] at hfind
      split at hfind
      next => exact Or.inl (Option.some.inj hfind).symm
      next => cases hfind
  refine ⟨hconstrained.ledgers, fun other found hfind => ?_, fun other found hfind => ?_⟩
  · cases hfound other found hfind with
    | inl hself => exact hself ▸ hchecked
    | inr hold => exact hconstrained.reservations other found hold
  · cases hfound other found hfind with
    | inl hself => exact hself ▸ hledger
    | inr hold => exact hconstrained.references other found hold

/-- Reserving in one scope keeps the books. -/
theorem XBudgetTables.Booked.reserveScope {reserving after : XBudgetReserving}
    (hbooked : reserving.tables.Booked) {item : (BudgetScope × ℚ) × ℕ}
    (h : LetletmeData.reserveScope request reserving item = .ok after) : after.tables.Booked := by
  obtain ⟨opened, counted, hopened, hcounted, hreserve⟩ := reserveScope_eq_ok h
  have hopenedBooked := hbooked.upsertLedger hopened
  have hconstrained := hopenedBooked.constrained.updateLedger hcounted
  have hledgers := (updateLedger_eq_ok hcounted).1
  rcases hreserve with ⟨id, row, hrow, hledger, hstatus, hupdate⟩ | ⟨id, hinsert⟩
  · have hkept := hconstrained.updateReservation hrow rfl hupdate
    have htables := (updateReservation_eq_ok hupdate).1
    rw [hledgers] at htables hrow
    have hadjusted : after.tables.ledgers =
        opened.ledgers.updateWhere (fun key _ => key = row.ledgerId) (countReservation request) := by
      rw [htables, hledger]
    have hrewritten : after.tables.reservations = opened.reservations.updateWhere
        (fun key _ => key = id) (incrementReservation request) := by rw [htables]
    refine ⟨hkept, ?_, ?_⟩
    · unfold StatusBalanced
      rw [hadjusted, hrewritten]
      refine Balances.rewrite hopenedBooked.reserved (unitsIn_of_ne .reserved) hrow rfl
        fun ledger => ?_
      simp [unitsIn, incrementReservation, countReservation, hstatus]
    · unfold StatusBalanced
      rw [hadjusted, hrewritten]
      refine Balances.rewrite hopenedBooked.committed (unitsIn_of_ne .committed) hrow rfl
        fun ledger => ?_
      simp [unitsIn, incrementReservation, countReservation, hstatus]
  · have hkept := hconstrained.insertReservation hinsert
    obtain ⟨hnew, _, _, htables⟩ := insertReservation_eq_ok hinsert
    rw [hledgers] at htables hnew
    rw [htables] at hkept ⊢
    refine ⟨hkept, hopenedBooked.reserved.insert (newReservation request _) hnew fun ledger => ?_,
      hopenedBooked.committed.insert (newReservation request _) hnew fun ledger => ?_⟩
    · simp [unitsIn, newReservation, countReservation]
    · simp [unitsIn, newReservation, countReservation]

/-! ### Windows -/

/-- A reservation counts in scopes of the kind of its ledger only. -/
theorem windowUnits_of_ne {scope : BudgetScope} {dbNow : ℤ} {row : BudgetReservation}
    (h : row.ledgerId.scopeKind ≠ scope.scopeKind) : windowUnits scope dbNow row = 0 :=
  if_neg fun hall => h hall.1

/-- The units of a scope add at most as much to a window, and nothing to that of another kind. -/
theorem windowUsage_reserveScope {reserving after : XBudgetReserving}
    {item : (BudgetScope × ℚ) × ℕ} (hunits : 0 ≤ request.units)
    (h : reserveScope request reserving item = .ok after) (scope : BudgetScope) :
    windowUsage after.tables request.dbNow scope ≤
      windowUsage reserving.tables request.dbNow scope +
        if item.1.1.scopeKind = scope.scopeKind then (request.units : ℚ) else 0 := by
  have hnonneg : (0 : ℚ) ≤ request.units := Int.cast_nonneg hunits
  obtain ⟨opened, counted, hopened, hcounted, hreserve⟩ := reserveScope_eq_ok h
  have hsame : counted.reservations = reserving.tables.reservations := by
    rw [(updateLedger_eq_ok hcounted).1, ← reservations_upsertLedger hopened]
  rcases hreserve with ⟨id, row, hrow, hledger, hstatus, hupdate⟩ | ⟨id, hinsert⟩
  · have hkind : row.ledgerId.scopeKind = item.1.1.scopeKind := by rw [hledger]; rfl
    rw [windowUsage, (updateReservation_eq_ok hupdate).1, KeyedTable.total_updateWhere hrow, hsame,
      windowUsage]
    refine add_le_add le_rfl ?_
    by_cases hscope : item.1.1.scopeKind = scope.scopeKind
    · rw [if_pos hscope]
      unfold windowUnits incrementReservation
      dsimp only
      split
      next => simp
      next => simpa using hnonneg
    · have hne : row.ledgerId.scopeKind ≠ scope.scopeKind := hkind ▸ hscope
      have hold : windowUnits scope request.dbNow row = 0 := windowUnits_of_ne hne
      have hnew : windowUnits scope request.dbNow (incrementReservation request row) = 0 :=
        windowUnits_of_ne hne
      rw [if_neg hscope, hold, hnew, sub_zero]
  · obtain ⟨hnew, _, _, htables⟩ := insertReservation_eq_ok hinsert
    rw [windowUsage, htables, KeyedTable.total_insertAbsent hnew, hsame, windowUsage]
    refine add_le_add le_rfl ?_
    by_cases hscope : item.1.1.scopeKind = scope.scopeKind
    · rw [if_pos hscope]
      unfold windowUnits newReservation
      dsimp only
      split
      next => exact le_rfl
      next => exact hnonneg
    · rw [if_neg hscope, windowUnits_of_ne hscope]

/-- Reserving in several scopes keeps the books and adds to a window once for each of its kind. -/
theorem spec_of_foldlM_reserveScope (hunits : 0 ≤ request.units)
    (items : List ((BudgetScope × ℚ) × ℕ)) {reserving after : XBudgetReserving}
    (hbooked : reserving.tables.Booked)
    (h : items.foldlM (reserveScope request) reserving = .ok after) :
    after.tables.Booked ∧ ∀ scope, windowUsage after.tables request.dbNow scope ≤
      windowUsage reserving.tables request.dbNow scope +
        request.units * (items.map fun item => item.1.1.scopeKind).count scope.scopeKind := by
  induction items generalizing reserving with
  | nil =>
    cases h
    exact ⟨hbooked, fun scope => by simp⟩
  | cons item rest ih =>
    rw [List.foldlM_cons] at h
    obtain ⟨next, hfirst, hrest⟩ := bind_eq_ok.mp h
    obtain ⟨hafter, hwindow⟩ := ih (hbooked.reserveScope hfirst) hrest
    refine ⟨hafter, fun scope => ?_⟩
    have hstep := windowUsage_reserveScope hunits hfirst scope
    calc windowUsage after.tables request.dbNow scope
        ≤ windowUsage next.tables request.dbNow scope +
            request.units * (rest.map fun item => item.1.1.scopeKind).count scope.scopeKind :=
          hwindow scope
      _ ≤ windowUsage reserving.tables request.dbNow scope +
            (if item.1.1.scopeKind = scope.scopeKind then (request.units : ℚ) else 0) +
            request.units * (rest.map fun item => item.1.1.scopeKind).count scope.scopeKind :=
          add_le_add hstep le_rfl
      _ = windowUsage reserving.tables request.dbNow scope + request.units *
            ((item :: rest).map fun item => item.1.1.scopeKind).count scope.scopeKind := by
          rw [List.map_cons, List.count_cons]
          by_cases hkind : item.1.1.scopeKind = scope.scopeKind
          · simp [hkind]
            ring
          · simp [hkind]

/-- No two scopes of a reservation have the same kind. -/
theorem nodup_budgetScopes (phase : AcquisitionPhase) (lane : XBudgetLane) (policy : XBudgetPolicy) :
    ((budgetScopes phase lane policy).map (·.scopeKind)).Nodup := by
  unfold budgetScopes
  cases lane <;> cases phase <;> simp

/-- When no scope is exceeded, the units fit in each of them. -/
theorem le_of_firstExceeded {units : ℚ} {usage : List (BudgetScope × ℚ)}
    (h : firstExceeded units usage = .ok none) : ∀ item ∈ usage, item.2 + units ≤ item.1.limit := by
  induction usage with
  | nil => exact fun _ hmem => absurd hmem List.not_mem_nil
  | cons item rest ih =>
    unfold firstExceeded at h
    rw [throwIf_bind_eq_ok] at h
    obtain ⟨_, h⟩ := h
    split at h
    next => cases h
    next hfits => exact List.forall_mem_cons.mpr ⟨not_lt.mp hfits, ih h⟩

/-- A reservation keeps the books, and when it is accepted, every window is within its limit. -/
theorem XBudgetTables.Booked.reserve (hbooked : tables.Booked) {result : XBudgetReservationResult}
    (h : reserveXRunBudgets request tables = .ok (written, result)) :
    written.Booked ∧ (result.reserved = true →
      ∀ scope ∈ budgetScopes request.phase request.lane request.policy,
        windowUsage written request.dbNow scope ≤ scope.limit) := by
  unfold reserveXRunBudgets at h
  rw [throwIf_bind_eq_ok, not_not] at h
  obtain ⟨hunits, h⟩ := h
  obtain ⟨exceeded, hexceeded, h⟩ := bind_eq_ok.mp h
  cases exceeded with
  | some refused =>
    cases h
    exact ⟨hbooked, fun hreserved => absurd hreserved Bool.false_ne_true⟩
  | none =>
    obtain ⟨reserving, hreserving, h⟩ := bind_eq_ok.mp h
    cases h
    obtain ⟨hafter, hwindow⟩ := spec_of_foldlM_reserveScope (Int.le_of_lt hunits.1) _ hbooked
      hreserving
    refine ⟨hafter, fun _ scope hscope => ?_⟩
    have hfits := le_of_firstExceeded hexceeded (scope, windowUsage tables request.dbNow scope)
      (List.mem_map_of_mem hscope)
    have honce : (((((budgetScopes request.phase request.lane request.policy).map fun scope =>
        (scope, windowUsage tables request.dbNow scope)).zipIdx).map
          fun item => item.1.1.scopeKind).count scope.scopeKind : ℚ) ≤ 1 := by
      have hkinds : ((((budgetScopes request.phase request.lane request.policy).map fun scope =>
          (scope, windowUsage tables request.dbNow scope)).zipIdx).map
            fun item => item.1.1.scopeKind) =
          (budgetScopes request.phase request.lane request.policy).map (·.scopeKind) := by
        have hfirst := congrArg (List.map fun item : BudgetScope × ℚ => item.1.scopeKind)
          (List.zipIdx_map_fst 0
            ((budgetScopes request.phase request.lane request.policy).map fun scope =>
              (scope, windowUsage tables request.dbNow scope)))
        rw [List.map_map, List.map_map] at hfirst
        exact hfirst
      rw [hkinds]
      exact_mod_cast List.nodup_iff_count_le_one.mp (nodup_budgetScopes _ _ _) scope.scopeKind
    have hnonneg : (0 : ℚ) ≤ request.units := Int.cast_nonneg (Int.le_of_lt hunits.1)
    calc windowUsage reserving.tables request.dbNow scope
        ≤ windowUsage tables request.dbNow scope + request.units * _ := hwindow scope
      _ ≤ windowUsage tables request.dbNow scope + request.units * 1 :=
          add_le_add le_rfl (mul_le_mul_of_nonneg_left honce hnonneg)
      _ = windowUsage tables request.dbNow scope + request.units := by rw [mul_one]
      _ ≤ scope.limit := hfits

/-! ### Whole runs of calls -/

/-- The ledgers balance: each counter is the sum of the units of its reservations and is not
negative. -/
def XBudgetTables.Balanced (tables : XBudgetTables) : Prop :=
  ∀ id ledger, tables.ledgers.find id = some ledger →
    ledger.reservedUnits = tables.reservations.total (unitsIn .reserved id) ∧
      ledger.committedUnits = tables.reservations.total (unitsIn .committed id) ∧
      0 ≤ ledger.reservedUnits ∧ 0 ≤ ledger.committedUnits

/-- When a reservation is accepted, the reserved and committed units in the window of each of its
scopes are within the limit afterwards. -/
def ReservesWithinLimits (tables : XBudgetTables) : XBudgetAction → Prop
  | .reserve request =>
    ∀ written result, reserveXRunBudgets request tables = .ok (written, result) →
      result.reserved = true →
      ∀ scope ∈ budgetScopes request.phase request.lane request.policy,
        windowUsage written request.dbNow scope ≤ scope.limit
  | _ => True

/-- Kept books balance. -/
theorem XBudgetTables.Booked.balanced (hbooked : tables.Booked) : tables.Balanced := by
  intro id ledger hfind
  obtain ⟨_, hreserved, hcommitted, _⟩ := hbooked.constrained.ledgers id ledger hfind
  exact ⟨hbooked.reserved id ledger hfind, hbooked.committed id ledger hfind, hreserved, hcommitted⟩

/-- There is nothing to book at first. -/
theorem booked_initial : XBudgetTables.initial.Booked where
  constrained := ⟨fun _ _ h => (Option.some_ne_none _ h.symm).elim,
    fun _ _ h => (Option.some_ne_none _ h.symm).elim,
    fun _ _ h => (Option.some_ne_none _ h.symm).elim⟩
  reserved := fun _ _ h => (Option.some_ne_none _ h.symm).elim
  committed := fun _ _ h => (Option.some_ne_none _ h.symm).elim

/-- Each call that commits whole reservations only keeps the books. -/
theorem XBudgetTables.Booked.run (hbooked : tables.Booked) {action : XBudgetAction}
    (hcommits : CommitsWholeReservations tables action)
    (h : action.run tables = .ok written) : written.Booked := by
  cases action with
  | reserve request =>
    obtain ⟨⟨_, result⟩, hcall, rfl⟩ := map_eq_ok.mp h
    exact (hbooked.reserve hcall).1
  | releaseOne runId dbNow ids =>
    obtain ⟨⟨_, released⟩, hcall, rfl⟩ := map_eq_ok.mp h
    exact hbooked.releaseOne hcall
  | commitOne runId dbNow ids =>
    obtain ⟨⟨_, done⟩, hcall, rfl⟩ := map_eq_ok.mp h
    have hone := hcommits (selected_of_commitOne hcall)
    refine hbooked.commitOne (fun row hmem => ?_) hcall
    have hspec := mem_reservedOfRun.mp hmem
    exact hone row.1 (List.mem_dedup.mp hspec.2.2.1) row.2 hspec.1
  | releaseExcept runId dbNow keep =>
    obtain ⟨⟨_, count⟩, hcall, rfl⟩ := map_eq_ok.mp h
    exact hbooked.releaseExcept hcall
  | commitProbeAndRelease runId dbNow probes incremented =>
    obtain ⟨⟨_, done⟩, hcall, rfl⟩ := map_eq_ok.mp h
    exact hbooked.commitProbeAndRelease hcommits hcall
  | transition runId committed dbNow =>
    obtain ⟨⟨_, count⟩, hcall, rfl⟩ := map_eq_ok.mp h
    exact hbooked.transition hcall
  | reconcile runId scopeKey unitKind actualUnits dbNow =>
    obtain ⟨⟨_, done⟩, hcall, rfl⟩ := map_eq_ok.mp h
    exact hbooked.reconcile hcall

/-- The same for a call inside its transaction. -/
theorem booked_xBudgetStep (tables : XBudgetTables) (action : XBudgetAction)
    (hbooked : tables.Booked) (hcommits : CommitsWholeReservations tables action) :
    (xBudgetStep tables action).Booked :=
  commit_induction hbooked fun _ hwritten => hbooked.run hcommits hwritten

/-- With kept books an accepted reservation stays within its windows. -/
theorem reservesWithinLimits_of_booked (tables : XBudgetTables) (action : XBudgetAction)
    (hbooked : tables.Booked) : ReservesWithinLimits tables action := by
  cases action with
  | reserve request => exact fun written result hcall => (hbooked.reserve hcall).2
  | _ => trivial

/-- When every commit of single units is one of whole reservations, the ledgers balance after any
calls and no accepted reservation exceeds a window. -/
theorem xBudget_balanced_of_wholeCommits (actions : List XBudgetAction)
    (h : EveryStep xBudgetStep CommitsWholeReservations .initial actions) :
    (runSteps xBudgetStep .initial actions).Balanced ∧
      EveryStep xBudgetStep ReservesWithinLimits .initial actions :=
  ⟨(runSteps_invariant_of_guard booked_xBudgetStep booked_initial h).balanced,
    h.of_guard booked_xBudgetStep (fun tables action hbooked _ =>
      reservesWithinLimits_of_booked tables action hbooked) booked_initial⟩

/-- A policy for examples: every scope has room for ten calls. -/
def examplePolicy : XBudgetPolicy where
  globalRolling24hLimit := 10
  final90Rolling90mLimit := 10
  identityRolling24hLimit := 10
  laneCaps := fun _ _ => 10
  laneWindowMinutes := fun _ => 60

/-- Units for the identity lane, in the reservations `r0` and `r1`. -/
def exampleRequest (units : ℤ) : XBudgetRequest where
  runId := "run"
  phase := .normal
  lane := .identity
  dbNow := 3600000
  policy := examplePolicy
  units := units
  separateReservation := false
  newIds := fun index => if index = 0 then "r0" else "r1"
  firstRow := 0

/-- One unit is reserved, then committed. -/
theorem xBudget_balanced_single :
    (runSteps xBudgetStep .initial
        [.reserve (exampleRequest 1), .commitOne "run" 3600001 ["r0", "r1"]]).Balanced ∧
      EveryStep xBudgetStep ReservesWithinLimits .initial
        [.reserve (exampleRequest 1), .commitOne "run" 3600001 ["r0", "r1"]] :=
  xBudget_balanced_of_wholeCommits _ (by decide +kernel)

/-- Of two reserved units one is committed: the ledgers count a committed unit that no reservation
holds. -/
theorem commitOne_of_two_unbalances :
    ¬ (runSteps xBudgetStep .initial
      [.reserve (exampleRequest 2), .commitOne "run" 3600001 ["r0", "r1"]]).Balanced := by
  intro hbalanced
  have hledger : ((runSteps xBudgetStep .initial
      [.reserve (exampleRequest 2), .commitOne "run" 3600001 ["r0", "r1"]]).ledgers.find
        ⟨.global, "GROK_BUILD_X", "CALL", 3600000, 7200000⟩) =
      some { maxUnits := 10, reservedUnits := 1, committedUnits := 1, updatedAt := 3600001 } := by
    decide +kernel
  have htotal : (runSteps xBudgetStep .initial
      [.reserve (exampleRequest 2), .commitOne "run" 3600001 ["r0", "r1"]]).reservations.total
        (unitsIn .committed ⟨.global, "GROK_BUILD_X", "CALL", 3600000, 7200000⟩) = 0 := by
    decide +kernel
  have hcounter := (hbalanced _ _ hledger).2.1
  rw [htotal] at hcounter
  exact one_ne_zero hcounter

end LetletmeData
