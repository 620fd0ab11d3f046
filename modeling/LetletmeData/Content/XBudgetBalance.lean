import Mathlib.Data.List.Dedup
import Mathlib.Tactic.Ring
import LetletmeData.Content.XBudget

/-!
# The X budget ledgers balance

Every call rewrites reservations and moves the counters of their ledgers by as much, with one
exception: committing one unit of a reservation that holds several counts the unit as committed
but leaves no committed reservation behind.
-/

namespace LetletmeData

open LetletmeData.Library

variable {tables written : XBudgetTables}

/-- The units of a reservation that count for a status of a ledger. -/
def unitsIn (status : BudgetReservationStatus) (id : BudgetLedgerId) (row : BudgetReservation) : ℚ :=
  if row.ledgerId = id ∧ row.status = status then row.units else 0

/-- A counter of every ledger is the sum of the units of a status. -/
def StatusBalanced (status : BudgetReservationStatus) (counter : BudgetLedger → ℚ)
    (tables : XBudgetTables) : Prop :=
  Balances (unitsIn status) counter tables.ledgers tables.reservations

/-- The constraints of the tables. -/
structure XBudgetTables.Constrained (tables : XBudgetTables) : Prop where
  ledgers : ∀ id ledger, tables.ledgers.find id = some ledger → ledger.Checked
  reservations : ∀ id row, tables.reservations.find id = some row → row.Checked
  references : ∀ id row, tables.reservations.find id = some row →
    tables.ledgers.find row.ledgerId ≠ none

/-- A reservation has no units in other ledgers. -/
theorem unitsIn_of_ne (status : BudgetReservationStatus) (id : BudgetLedgerId)
    (row : BudgetReservation) (h : row.ledgerId ≠ id) : unitsIn status id row = 0 :=
  if_neg fun hboth => h hboth.1

/-! ### The writes -/

/-- A ledger is written when it stays within its constraint. -/
theorem updateLedger_eq_ok {id : BudgetLedgerId} {write : BudgetLedger → BudgetLedger}
    (h : updateLedger id write tables = .ok written) :
    written =
        { tables with ledgers := tables.ledgers.updateWhere (fun key _ => key = id) write } ∧
      ∀ ledger, tables.ledgers.find id = some ledger → (write ledger).Checked := by
  unfold updateLedger at h
  dsimp only at h
  rw [throwIf_bind_eq_ok] at h
  obtain ⟨hchecked, hwritten⟩ := h
  cases hwritten
  refine ⟨rfl, fun ledger hfind => ?_⟩
  rw [KeyedTable.find_updateWhere, hfind] at hchecked
  simpa using hchecked

/-- A reservation is written when it stays within its constraint. -/
theorem updateReservation_eq_ok {id : String} {write : BudgetReservation → BudgetReservation}
    (h : updateReservation id write tables = .ok written) :
    written =
        { tables with
          reservations := tables.reservations.updateWhere (fun key _ => key = id) write } ∧
      ∀ row, tables.reservations.find id = some row → (write row).Checked := by
  unfold updateReservation at h
  dsimp only at h
  rw [throwIf_bind_eq_ok] at h
  obtain ⟨hchecked, hwritten⟩ := h
  cases hwritten
  refine ⟨rfl, fun row hfind => ?_⟩
  rw [KeyedTable.find_updateWhere, hfind] at hchecked
  simpa using hchecked

/-- Writing a ledger within its constraint keeps the constraints. -/
theorem XBudgetTables.Constrained.updateLedger (hconstrained : tables.Constrained)
    {id : BudgetLedgerId} {write : BudgetLedger → BudgetLedger}
    (h : updateLedger id write tables = .ok written) : written.Constrained := by
  obtain ⟨hwritten, hchecked⟩ := updateLedger_eq_ok h
  rw [hwritten]
  refine ⟨fun other ledger hfind => ?_, hconstrained.reservations, fun other row hfind => ?_⟩
  · rw [KeyedTable.find_updateWhere] at hfind
    obtain ⟨old, hold, hnew⟩ := Option.map_eq_some_iff.mp hfind
    rw [← hnew]
    split
    next heq => exact hchecked old (heq ▸ hold)
    next => exact hconstrained.ledgers other old hold
  · rw [KeyedTable.find_updateWhere]
    simpa using hconstrained.references other row hfind

/-- Writing a reservation within its constraint and its ledger keeps the constraints. -/
theorem XBudgetTables.Constrained.updateReservation (hconstrained : tables.Constrained)
    {id : String} {row : BudgetReservation} (hrow : tables.reservations.find id = some row)
    {write : BudgetReservation → BudgetReservation} (hledger : (write row).ledgerId = row.ledgerId)
    (h : updateReservation id write tables = .ok written) : written.Constrained := by
  obtain ⟨hwritten, hchecked⟩ := updateReservation_eq_ok h
  have hfound : ∀ other new, written.reservations.find other = some new →
      (other = id ∧ new = write row) ∨ tables.reservations.find other = some new := by
    intro other new hfind
    rw [hwritten, KeyedTable.find_updateWhere] at hfind
    obtain ⟨old, hold, hnew⟩ := Option.map_eq_some_iff.mp hfind
    split at hnew
    next heq =>
      rw [heq, hrow] at hold
      exact Or.inl ⟨heq, by rw [← hnew, Option.some.inj hold]⟩
    next => exact Or.inr (hnew ▸ hold)
  refine ⟨?_, fun other new hfind => ?_, fun other new hfind => ?_⟩
  · rw [hwritten]
    exact hconstrained.ledgers
  · cases hfound other new hfind with
    | inl hself => exact hself.2 ▸ hchecked row hrow
    | inr hold => exact hconstrained.reservations other new hold
  · rw [hwritten]
    cases hfound other new hfind with
    | inl hself =>
      rw [hself.2, hledger]
      exact hconstrained.references id row hrow
    | inr hold => exact hconstrained.references other new hold

section Settling

variable {write : BudgetReservation → BudgetReservation} {adjust : BudgetLedger → BudgetLedger}
  {selected : String × BudgetReservation}

/-- Settling a reservation writes it and its ledger. -/
theorem settleReservation_eq_ok (h : settleReservation write adjust selected tables = .ok written) :
    written =
      { ledgers := tables.ledgers.updateWhere (fun key _ => key = selected.2.ledgerId) adjust
        reservations :=
          tables.reservations.updateWhere (fun key _ => key = selected.1) write } := by
  obtain ⟨rewritten, hreservation, hledger⟩ := bind_eq_ok.mp h
  have hwritten := (updateLedger_eq_ok hledger).1
  rw [(updateReservation_eq_ok hreservation).1] at hwritten
  exact hwritten

/-- Settling keeps the constraints. -/
theorem XBudgetTables.Constrained.settle (hconstrained : tables.Constrained)
    (hselected : tables.reservations.find selected.1 = some selected.2)
    (hledger : (write selected.2).ledgerId = selected.2.ledgerId)
    (h : settleReservation write adjust selected tables = .ok written) : written.Constrained := by
  obtain ⟨rewritten, hreservation, hupdate⟩ := bind_eq_ok.mp h
  exact (hconstrained.updateReservation hselected hledger hreservation).updateLedger hupdate

/-- Settling keeps a balance when the ledger moves by what the reservation moves. -/
theorem StatusBalanced.settle {status : BudgetReservationStatus} {counter : BudgetLedger → ℚ}
    (hbalanced : StatusBalanced status counter tables)
    (hselected : tables.reservations.find selected.1 = some selected.2)
    (hledger : (write selected.2).ledgerId = selected.2.ledgerId)
    (hadjust : ∀ ledger, counter (adjust ledger) = counter ledger +
      (unitsIn status selected.2.ledgerId (write selected.2) -
        unitsIn status selected.2.ledgerId selected.2))
    (h : settleReservation write adjust selected tables = .ok written) :
    StatusBalanced status counter written := by
  rw [settleReservation_eq_ok h]
  exact Balances.rewrite hbalanced (unitsIn_of_ne status) hselected hledger hadjust

/-- Adding a reservation keeps a balance when its ledger moves by what it counts. -/
theorem StatusBalanced.insert {status : BudgetReservationStatus} {counter : BudgetLedger → ℚ}
    (hbalanced : StatusBalanced status counter tables) {id : String} (row : BudgetReservation)
    (hnew : tables.reservations.find id = none)
    (hadjust : ∀ ledger, counter (adjust ledger) = counter ledger +
      unitsIn status row.ledgerId row) :
    StatusBalanced status counter
      { ledgers := tables.ledgers.updateWhere (fun key _ => key = row.ledgerId) adjust
        reservations := tables.reservations.insertAbsent id row } :=
  Balances.insert hbalanced (unitsIn_of_ne status) hnew hadjust

/-- Settling leaves the other reservations. -/
theorem find_settleReservation (h : settleReservation write adjust selected tables = .ok written)
    {other : String} (hother : other ≠ selected.1) :
    written.reservations.find other = tables.reservations.find other := by
  rw [settleReservation_eq_ok h]
  simp [KeyedTable.find_updateWhere, hother]

end Settling

/-- What every round of a loop over distinct selected reservations keeps, the loop keeps. -/
theorem settleAll_induction {kept : XBudgetTables → Prop} {valid : BudgetReservation → Prop}
    [DecidablePred valid] {message : String} {write : BudgetReservation → BudgetReservation}
    {adjust : BudgetReservation → BudgetLedger → BudgetLedger}
    {selected : List (String × BudgetReservation)} (hnodup : (selected.map Prod.fst).Nodup)
    (hselected : ∀ row ∈ selected, tables.reservations.find row.1 = some row.2)
    (hround : ∀ (before after : XBudgetTables) row, row ∈ selected → valid row.2 → kept before →
      before.reservations.find row.1 = some row.2 →
      settleReservation write (adjust row.2) row before = .ok after → kept after)
    (h : kept tables) (hloop : settleAll valid message write adjust selected tables = .ok written) :
    kept written := by
  induction selected generalizing tables with
  | nil =>
    cases hloop
    exact h
  | cons row rest ih =>
    obtain ⟨hfresh, hrest⟩ := List.nodup_cons.mp hnodup
    rw [settleAll, List.foldlM_cons] at hloop
    obtain ⟨after, hfirst, hloop⟩ := bind_eq_ok.mp hloop
    rw [throwIf_bind_eq_ok, not_not] at hfirst
    have hrow := hselected row List.mem_cons_self
    refine ih hrest (fun other hother => ?_)
      (fun before after other hother => hround before after other (List.mem_cons_of_mem _ hother))
      (hround tables after row List.mem_cons_self hfirst.1 h hrow hfirst.2) hloop
    have hne : other.1 ≠ row.1 := fun heq =>
      hfresh (heq ▸ List.mem_map_of_mem (f := Prod.fst) hother)
    rw [find_settleReservation hfirst.2 hne]
    exact hselected other (List.mem_cons_of_mem _ hother)

/-- A loop that goes through has found every selected reservation valid. -/
theorem valid_of_settleAll {valid : BudgetReservation → Prop} [DecidablePred valid]
    {message : String} {write : BudgetReservation → BudgetReservation}
    {adjust : BudgetReservation → BudgetLedger → BudgetLedger}
    {selected : List (String × BudgetReservation)}
    (hloop : settleAll valid message write adjust selected tables = .ok written) :
    ∀ row ∈ selected, valid row.2 := by
  induction selected generalizing tables with
  | nil => exact fun _ hmem => absurd hmem List.not_mem_nil
  | cons row rest ih =>
    rw [settleAll, List.foldlM_cons] at hloop
    obtain ⟨after, hfirst, hloop⟩ := bind_eq_ok.mp hloop
    rw [throwIf_bind_eq_ok, not_not] at hfirst
    exact List.forall_mem_cons.mpr ⟨hfirst.1, ih hloop⟩

/-! ### Calls that settle reserved rows -/

/-- The tables keep their constraints and both counters balance. -/
structure XBudgetTables.Booked (tables : XBudgetTables) : Prop where
  constrained : tables.Constrained
  reserved : StatusBalanced .reserved (·.reservedUnits) tables
  committed : StatusBalanced .committed (·.committedUnits) tables

/-- What a call selects to settle. -/
theorem mem_reservedOfRun {runId : String} {selected : String → Prop} [DecidablePred selected]
    {row : String × BudgetReservation} :
    row ∈ reservedOfRun tables runId selected ↔
      tables.reservations.find row.1 = some row.2 ∧ row.2.runId = runId ∧ selected row.1 ∧
        row.2.status = .reserved :=
  KeyedTable.mem_selectWhere

/-- A call selects no reservation twice. -/
theorem nodup_reservedOfRun (tables : XBudgetTables) (runId : String) (selected : String → Prop)
    [DecidablePred selected] : ((reservedOfRun tables runId selected).map Prod.fst).Nodup :=
  tables.reservations.distinct.sublist (List.filter_sublist.map Prod.fst)

/-- A loop over reserved rows keeps the books when it moves each ledger by the units that leave
`RESERVED` and by those that arrive at `COMMITTED`. -/
theorem XBudgetTables.Booked.settleAll (hbooked : tables.Booked)
    {valid : BudgetReservation → Prop} [DecidablePred valid] {message : String}
    {write : BudgetReservation → BudgetReservation}
    {adjust : BudgetReservation → BudgetLedger → BudgetLedger} {runId : String}
    {selected : String → Prop} [DecidablePred selected]
    (hledger : ∀ row, (write row).ledgerId = row.ledgerId)
    (hreserved : ∀ row ∈ reservedOfRun tables runId selected, ∀ ledger,
      (adjust row.2 ledger).reservedUnits = ledger.reservedUnits +
        (unitsIn .reserved row.2.ledgerId (write row.2) - row.2.units))
    (hcommitted : ∀ row ∈ reservedOfRun tables runId selected, ∀ ledger,
      (adjust row.2 ledger).committedUnits = ledger.committedUnits +
        unitsIn .committed row.2.ledgerId (write row.2))
    (h : LetletmeData.settleAll valid message write adjust (reservedOfRun tables runId selected)
      tables = .ok written) : written.Booked := by
  refine settleAll_induction (nodup_reservedOfRun _ _ _)
    (fun row hmem => (mem_reservedOfRun.mp hmem).1) ?_ hbooked h
  intro before after row hmem _ hkept hfind hsettle
  have hstatus : row.2.status = .reserved := (mem_reservedOfRun.mp hmem).2.2.2
  have hin : unitsIn .reserved row.2.ledgerId row.2 = row.2.units := by simp [unitsIn, hstatus]
  have hout : unitsIn .committed row.2.ledgerId row.2 = 0 := by simp [unitsIn, hstatus]
  refine ⟨hkept.constrained.settle hfind (hledger _) hsettle,
    hkept.reserved.settle hfind (hledger _) (fun ledger => ?_) hsettle,
    hkept.committed.settle hfind (hledger _) (fun ledger => ?_) hsettle⟩
  · rw [hin]
    exact hreserved row hmem ledger
  · rw [hout, sub_zero]
    exact hcommitted row hmem ledger

/-- The units a reservation keeps after one was taken. -/
theorem unitsIn_takeOneUnit {target : BudgetReservationStatus} (htarget : target ≠ .reserved)
    (dbNow : ℤ) {row : BudgetReservation} (hstatus : row.status = .reserved) :
    unitsIn .reserved row.ledgerId (takeOneUnit target dbNow row) = row.units - 1 := by
  unfold takeOneUnit
  by_cases hone : row.units = 1
  · simp [unitsIn, hone, htarget]
  · simp [unitsIn, hone, hstatus]

/-- Taking a unit leaves the ledger of a reservation. -/
theorem ledgerId_takeOneUnit (target : BudgetReservationStatus) (dbNow : ℤ)
    (row : BudgetReservation) : (takeOneUnit target dbNow row).ledgerId = row.ledgerId := by
  unfold takeOneUnit
  split <;> rfl

/-- Releasing one unit keeps the books. -/
theorem XBudgetTables.Booked.releaseOne (hbooked : tables.Booked) {runId : String} {dbNow : ℤ}
    {ids : List String} {released : Bool}
    (h : releaseOneXRunBudgetUnit runId dbNow ids tables = .ok (written, released)) :
    written.Booked := by
  unfold releaseOneXRunBudgetUnit at h
  dsimp only at h
  split at h
  next => cases h; exact hbooked
  rw [throwIf_bind_eq_ok] at h
  obtain ⟨settled, hloop, hwritten⟩ := bind_eq_ok.mp h.2
  cases hwritten
  refine hbooked.settleAll (ledgerId_takeOneUnit _ _) (fun row hmem ledger => ?_)
    (fun row hmem ledger => ?_) hloop
  · rw [unitsIn_takeOneUnit (by decide) dbNow (mem_reservedOfRun.mp hmem).2.2.2]
    change ledger.reservedUnits - 1 = _
    ring
  · have hnone : unitsIn .committed row.2.ledgerId (takeOneUnit .released dbNow row.2) = 0 := by
      have hstatus := (mem_reservedOfRun.mp hmem).2.2.2
      unfold takeOneUnit
      by_cases hone : row.2.units = 1 <;> simp [unitsIn, hone, hstatus]
    rw [hnone, add_zero]

/-- Committing one unit keeps the books when every target holds one unit. -/
theorem XBudgetTables.Booked.commitOne (hbooked : tables.Booked) {runId : String} {dbNow : ℤ}
    {ids : List String} {done : Bool}
    (hone : ∀ row ∈ reservedOfRun tables runId (· ∈ ids.dedup), row.2.units = 1)
    (h : commitOneXRunBudgetUnit runId dbNow ids tables = .ok (written, done)) :
    written.Booked := by
  unfold commitOneXRunBudgetUnit at h
  dsimp only at h
  split at h
  next => cases h; exact hbooked
  rw [throwIf_bind_eq_ok] at h
  obtain ⟨settled, hloop, hwritten⟩ := bind_eq_ok.mp h.2
  cases hwritten
  refine hbooked.settleAll (ledgerId_takeOneUnit _ _) (fun row hmem ledger => ?_)
    (fun row hmem ledger => ?_) hloop
  · rw [unitsIn_takeOneUnit (by decide) dbNow (mem_reservedOfRun.mp hmem).2.2.2]
    change ledger.reservedUnits - 1 = _
    ring
  · have hunit : unitsIn .committed row.2.ledgerId (takeOneUnit .committed dbNow row.2) = 1 := by
      simp [unitsIn, takeOneUnit, hone row hmem]
    rw [hunit]

/-- Releasing all but some keeps the books. -/
theorem XBudgetTables.Booked.releaseExcept (hbooked : tables.Booked) {runId : String} {dbNow : ℤ}
    {keep : List String} {count : ℕ}
    (h : releaseXRunBudgetsExcept runId dbNow keep tables = .ok (written, count)) :
    written.Booked := by
  obtain ⟨settled, hloop, hwritten⟩ := bind_eq_ok.mp h
  cases hwritten
  refine hbooked.settleAll (fun row => ?_) (fun row _ ledger => ?_) (fun row _ ledger => ?_) hloop
  · rfl
  · simp [unitsIn, sub_eq_add_neg]
  · simp [unitsIn]

/-- Moving all reserved rows of a run keeps the books. -/
theorem XBudgetTables.Booked.transition (hbooked : tables.Booked) {runId : String}
    {committed : Bool} {dbNow : ℤ} {count : ℕ}
    (h : transitionRunBudgets runId committed dbNow tables = .ok (written, count)) :
    written.Booked := by
  obtain ⟨settled, hloop, hwritten⟩ := bind_eq_ok.mp h
  cases hwritten
  refine hbooked.settleAll (fun row => ?_) (fun row _ ledger => ?_) (fun row _ ledger => ?_) hloop
  · rfl
  · cases committed <;> simp [unitsIn, sub_eq_add_neg]
  · cases committed <;> simp [unitsIn]

/-- Reconciling a provider reservation keeps the books. -/
theorem XBudgetTables.Booked.reconcile (hbooked : tables.Booked)
    {runId scopeKey unitKind : String} {actualUnits : ℚ} {dbNow : ℤ} {done : Bool}
    (h : reconcileReservedProviderBudget runId scopeKey unitKind actualUnits dbNow tables =
      .ok (written, done)) : written.Booked := by
  unfold reconcileReservedProviderBudget at h
  rw [throwIf_bind_eq_ok] at h
  replace h := h.2
  dsimp only at h
  split at h
  next => cases h; exact hbooked
  next id row hrows =>
    rw [throwIf_bind_eq_ok] at h
    obtain ⟨settled, hsettle, hwritten⟩ := bind_eq_ok.mp h.2
    cases hwritten
    have hmem : (id, row) ∈ tables.reservations.selectWhere _ := hrows ▸ List.mem_singleton_self _
    have hrow := KeyedTable.mem_selectWhere.mp hmem
    refine ⟨hbooked.constrained.settle hrow.1 rfl hsettle,
      hbooked.reserved.settle hrow.1 rfl (fun ledger => ?_) hsettle,
      hbooked.committed.settle hrow.1 rfl (fun ledger => ?_) hsettle⟩
    · by_cases hstatus : row.status = .reserved <;> simp [unitsIn, hstatus]
    · by_cases hstatus : row.status = .committed <;> simp [unitsIn, hstatus]
  next => cases h

/-! ### Committing probes -/

/-- What a loop leaves under each identifier. -/
theorem find_settleAll {valid : BudgetReservation → Prop} [DecidablePred valid] {message : String}
    {write : BudgetReservation → BudgetReservation}
    {adjust : BudgetReservation → BudgetLedger → BudgetLedger}
    {selected : List (String × BudgetReservation)} (hnodup : (selected.map Prod.fst).Nodup)
    (hloop : settleAll valid message write adjust selected tables = .ok written) (id : String) :
    written.reservations.find id = (tables.reservations.find id).map fun row =>
      if id ∈ selected.map Prod.fst then write row else row := by
  induction selected generalizing tables with
  | nil =>
    cases hloop
    simp
  | cons row rest ih =>
    obtain ⟨hfresh, hrest⟩ := List.nodup_cons.mp hnodup
    rw [settleAll, List.foldlM_cons] at hloop
    obtain ⟨after, hfirst, hloop⟩ := bind_eq_ok.mp hloop
    rw [throwIf_bind_eq_ok] at hfirst
    have hafter : after.reservations.find id = (tables.reservations.find id).map fun old =>
        if id = row.1 then write old else old := by
      rw [settleReservation_eq_ok hfirst.2]
      exact KeyedTable.find_updateWhere _ _ _
    rw [ih hrest hloop, hafter]
    by_cases hid : id = row.1
    · subst hid
      cases tables.reservations.find row.1 <;> simp [hfresh]
    · have hkeys : id ∈ (row :: rest).map Prod.fst ↔ id ∈ rest.map Prod.fst := by
        rw [List.map_cons, List.mem_cons, or_iff_right hid]
      cases tables.reservations.find id with
      | none => rfl
      | some old =>
        simp only [Option.map_some, if_neg hid]
        exact congrArg some (if_congr hkeys.symm rfl rfl)

/-- When as many rows are selected as identifiers are given, each identifier has its row. -/
theorem exists_row_of_length {runId : String} {ids : List String}
    (hlength : (reservedOfRun tables runId (· ∈ ids.dedup)).length = ids.dedup.length) :
    ∀ id ∈ ids, ∃ row, (id, row) ∈ reservedOfRun tables runId (· ∈ ids.dedup) := by
  intro id hid
  have hsubset : (reservedOfRun tables runId (· ∈ ids.dedup)).map Prod.fst ⊆ ids.dedup := by
    intro other hother
    obtain ⟨row, hrow, hkey⟩ := List.mem_map.mp hother
    exact hkey ▸ (mem_reservedOfRun.mp hrow).2.2.1
  have hperm := (List.subperm_of_subset (nodup_reservedOfRun tables runId _) hsubset).perm_of_length_le
    (by rw [List.length_map, hlength])
  obtain ⟨⟨_, row⟩, hrow, rfl⟩ := List.mem_map.mp (hperm.mem_iff.mpr (List.mem_dedup.mpr hid))
  exact ⟨row, hrow⟩

/-- The identifier is that of a reserved row of the run. -/
def ReservedRow (tables : XBudgetTables) (runId id : String) : Prop :=
  ∃ row ∈ tables.reservations.find id, row.runId = runId ∧ row.status = .reserved

instance (tables : XBudgetTables) (runId id : String) : Decidable (ReservedRow tables runId id) :=
  inferInstanceAs (Decidable (∃ row ∈ tables.reservations.find id, _))

/-- The unit of an identifier is one of whole units. -/
def WholeRow (tables : XBudgetTables) (id : String) : Prop :=
  ∀ row ∈ tables.reservations.find id, wholeUnits row.units

instance (tables : XBudgetTables) (id : String) : Decidable (WholeRow tables id) :=
  inferInstanceAs (Decidable (∀ row ∈ tables.reservations.find id, _))

/-- The calls that go through commit only reservations that hold the one unit committed: a probe
that is also released by one unit holds two, any other target holds one. -/
def CommitsWholeReservations (tables : XBudgetTables) : XBudgetAction → Prop
  | .commitOne runId _ ids =>
    (∀ id ∈ ids, ReservedRow tables runId id ∧ WholeRow tables id) →
      ∀ id ∈ ids, ∀ row ∈ tables.reservations.find id, row.units = 1
  | .commitProbeAndRelease runId _ probes incremented =>
    (∀ id ∈ probes ++ incremented, ReservedRow tables runId id ∧ WholeRow tables id) →
      (∀ entry ∈ tables.reservations.entries, entry.2.runId = runId → entry.2.status = .reserved →
        wholeUnits entry.2.units) →
      (∀ id ∈ probes, id ∈ incremented →
        ∀ row ∈ tables.reservations.find id, row.units ≠ 1) →
      ∀ id ∈ probes, ∀ row ∈ tables.reservations.find id,
        row.units = if id ∈ incremented then 2 else 1
  | _ => True

instance (tables : XBudgetTables) :
    ∀ action, Decidable (CommitsWholeReservations tables action)
  | .commitOne _ _ ids =>
    inferInstanceAs (Decidable ((∀ id ∈ ids, _) → ∀ id ∈ ids, ∀ row ∈ _, _))
  | .commitProbeAndRelease _ _ probes incremented =>
    inferInstanceAs (Decidable ((∀ id ∈ probes ++ incremented, _) → (∀ entry ∈ _, _) →
      (∀ id ∈ probes, id ∈ incremented → ∀ row ∈ _, _) → ∀ id ∈ probes, ∀ row ∈ _, _))
  | .reserve _ | .releaseOne _ _ _ | .releaseExcept _ _ _ | .transition _ _ _
  | .reconcile _ _ _ _ _ => inferInstanceAs (Decidable True)

/-- What a commit of single units selects when it goes through: every target, reserved and whole. -/
theorem selected_of_commitOne {runId : String} {dbNow : ℤ} {ids : List String} {done : Bool}
    (h : commitOneXRunBudgetUnit runId dbNow ids tables = .ok (written, done)) :
    ∀ id ∈ ids, ReservedRow tables runId id ∧ WholeRow tables id := by
  unfold commitOneXRunBudgetUnit at h
  dsimp only at h
  split at h
  next hempty =>
    intro id hid
    have hmem : id ∈ ids.dedup := List.mem_dedup.mpr hid
    rw [hempty] at hmem
    exact absurd hmem List.not_mem_nil
  rw [throwIf_bind_eq_ok, not_not] at h
  obtain ⟨hlength, h⟩ := h
  obtain ⟨settled, hloop, _⟩ := bind_eq_ok.mp h
  intro id hid
  obtain ⟨row, hrow⟩ := exists_row_of_length hlength id hid
  have hspec := mem_reservedOfRun.mp hrow
  refine ⟨⟨row, hspec.1, hspec.2.1, hspec.2.2.2⟩, fun other hother => ?_⟩
  rw [Option.some.inj (hspec.1.symm.trans hother).symm]
  exact valid_of_settleAll hloop _ hrow

/-- What a release of single units selects when it goes through. -/
theorem selected_of_releaseOne {runId : String} {dbNow : ℤ} {ids : List String} {done : Bool}
    (h : releaseOneXRunBudgetUnit runId dbNow ids tables = .ok (written, done)) :
    (∀ id ∈ ids, ReservedRow tables runId id ∧ WholeRow tables id) ∧
      ∀ id, written.reservations.find id = (tables.reservations.find id).map fun row =>
        if id ∈ ids then takeOneUnit .released dbNow row else row := by
  unfold releaseOneXRunBudgetUnit at h
  dsimp only at h
  split at h
  next hempty =>
    have hnone : ∀ id, id ∉ ids := fun id hid => by
      have hmem : id ∈ ids.dedup := List.mem_dedup.mpr hid
      rw [hempty] at hmem
      exact absurd hmem List.not_mem_nil
    cases h
    exact ⟨fun id hid => absurd hid (hnone id), fun id => by simp [hnone id]⟩
  rw [throwIf_bind_eq_ok, not_not] at h
  obtain ⟨hlength, h⟩ := h
  obtain ⟨settled, hloop, hwritten⟩ := bind_eq_ok.mp h
  cases hwritten
  constructor
  · intro id hid
    obtain ⟨row, hrow⟩ := exists_row_of_length hlength id hid
    have hspec := mem_reservedOfRun.mp hrow
    refine ⟨⟨row, hspec.1, hspec.2.1, hspec.2.2.2⟩, fun other hother => ?_⟩
    rw [Option.some.inj (hspec.1.symm.trans hother).symm]
    exact valid_of_settleAll hloop _ hrow
  · intro id
    rw [find_settleAll (nodup_reservedOfRun _ _ _) hloop id]
    have hkeys : id ∈ (reservedOfRun tables runId (· ∈ ids.dedup)).map Prod.fst ↔ id ∈ ids := by
      constructor
      · intro hmem
        obtain ⟨row, hrow, hkey⟩ := List.mem_map.mp hmem
        exact List.mem_dedup.mp (hkey ▸ (mem_reservedOfRun.mp hrow).2.2.1)
      · intro hid
        obtain ⟨row, hrow⟩ := exists_row_of_length hlength id hid
        exact List.mem_map_of_mem (f := Prod.fst) hrow
    simp only [hkeys]

/-- A release that goes through leaves what it keeps and has found the rest whole. -/
theorem kept_of_releaseExcept {runId : String} {dbNow : ℤ} {keep : List String} {count : ℕ}
    (h : releaseXRunBudgetsExcept runId dbNow keep tables = .ok (written, count)) :
    (∀ id ∈ keep, written.reservations.find id = tables.reservations.find id) ∧
      ∀ id row, id ∉ keep → tables.reservations.find id = some row → row.runId = runId →
        row.status = .reserved → wholeUnits row.units := by
  obtain ⟨settled, hloop, hwritten⟩ := bind_eq_ok.mp h
  cases hwritten
  constructor
  · intro id hid
    have hnot : id ∉ (reservedOfRun tables runId (· ∉ keep.dedup)).map Prod.fst := by
      intro hmem
      obtain ⟨row, hrow, hkey⟩ := List.mem_map.mp hmem
      exact (mem_reservedOfRun.mp hrow).2.2.1 (List.mem_dedup.mpr (hkey ▸ hid))
    rw [find_settleAll (nodup_reservedOfRun _ _ _) hloop id]
    cases tables.reservations.find id with
    | none => rfl
    | some row => simp only [Option.map_some, if_neg hnot]
  · intro id row hid hfind hrun hstatus
    have hmem : (id, row) ∈ reservedOfRun tables runId (· ∉ keep.dedup) :=
      mem_reservedOfRun.mpr ⟨hfind, hrun, fun hkept => hid (List.mem_dedup.mp hkept), hstatus⟩
    exact valid_of_settleAll hloop _ hmem

/-- The release of incremented reservations between the two keeps the books and takes one unit
from each of them. -/
theorem spec_of_releaseIncremented {runId : String} {dbNow : ℤ} {incremented : List String}
    (h : releaseIncremented runId dbNow incremented.dedup tables = .ok written) :
    (tables.Booked → written.Booked) ∧
      (∀ id ∈ incremented, ReservedRow tables runId id ∧ WholeRow tables id) ∧
      ∀ id, written.reservations.find id = (tables.reservations.find id).map fun row =>
        if id ∈ incremented then takeOneUnit .released dbNow row else row := by
  unfold releaseIncremented at h
  split at h
  next hempty =>
    have hnone : ∀ id, id ∉ incremented := fun id hid => by
      have hmem : id ∈ incremented.dedup := List.mem_dedup.mpr hid
      rw [hempty] at hmem
      exact absurd hmem List.not_mem_nil
    cases h
    exact ⟨id, fun id hid => absurd hid (hnone id), fun id => by simp [hnone id]⟩
  next =>
    obtain ⟨⟨released, done⟩, hone, h⟩ := bind_eq_ok.mp h
    dsimp only at h
    rw [throwIf_bind_eq_ok] at h
    cases h.2
    obtain ⟨hselected, hfind⟩ := selected_of_releaseOne hone
    refine ⟨fun hbooked => hbooked.releaseOne hone,
      fun id hid => hselected id (List.mem_dedup.mpr hid), fun id => ?_⟩
    rw [hfind id]
    cases tables.reservations.find id with
    | none => rfl
    | some row => exact congrArg some (if_congr List.mem_dedup rfl rfl)

/-- Committing a probe and releasing the rest keeps the books when the probes hold the one unit
that is committed. -/
theorem XBudgetTables.Booked.commitProbeAndRelease (hbooked : tables.Booked) {runId : String}
    {dbNow : ℤ} {probes incremented : List String} {done : Bool}
    (hcommits : CommitsWholeReservations tables
      (.commitProbeAndRelease runId dbNow probes incremented))
    (h : commitProbeAndReleaseXRunBudgets runId dbNow probes incremented tables =
      .ok (written, done)) : written.Booked := by
  unfold commitProbeAndReleaseXRunBudgets at h
  dsimp only at h
  split at h
  next => cases h; exact hbooked
  obtain ⟨⟨kept, count⟩, hexcept, h⟩ := bind_eq_ok.mp h
  obtain ⟨released, hrelease, h⟩ := bind_eq_ok.mp h
  obtain ⟨⟨committed, flag⟩, hcommit, h⟩ := bind_eq_ok.mp h
  dsimp only at h
  rw [throwIf_bind_eq_ok] at h
  cases h.2
  obtain ⟨hkept, hrest⟩ := kept_of_releaseExcept hexcept
  obtain ⟨hreleaseBooked, hincremented, hreleased⟩ := spec_of_releaseIncremented hrelease
  have hprobes := selected_of_commitOne hcommit
  have hsame : ∀ id ∈ probes ++ incremented,
      kept.reservations.find id = tables.reservations.find id := by
    intro id hid
    refine hkept id (List.mem_dedup.mpr ?_)
    cases List.mem_append.mp hid with
    | inl hprobe => exact List.mem_append_left _ (List.mem_dedup.mpr hprobe)
    | inr hone => exact List.mem_append_right _ (List.mem_dedup.mpr hone)
  have hofIncremented : ∀ id ∈ incremented, ReservedRow tables runId id ∧ WholeRow tables id := by
    intro id hid
    have hboth := hincremented id hid
    unfold ReservedRow WholeRow at hboth ⊢
    rwa [hsame id (List.mem_append_right _ hid)] at hboth
  -- a probe is found in the end as the release of single units has left it
  have hend : ∀ id ∈ probes, released.reservations.find id =
      (tables.reservations.find id).map fun row =>
        if id ∈ incremented then takeOneUnit .released dbNow row else row := by
    intro id hid
    rw [hreleased id, hsame id (List.mem_append_left _ hid)]
  have hofProbes : ∀ id ∈ probes, ReservedRow tables runId id ∧ WholeRow tables id := by
    intro id hid
    by_cases hone : id ∈ incremented
    · exact hofIncremented id hone
    · have hboth := hprobes id (List.mem_dedup.mpr hid)
      have hfind : released.reservations.find id = tables.reservations.find id := by
        rw [hend id hid]
        simp [hone]
      unfold ReservedRow WholeRow at hboth ⊢
      rwa [hfind] at hboth
  have hguard : ∀ id ∈ probes ++ incremented, ReservedRow tables runId id ∧ WholeRow tables id := by
    intro id hid
    exact (List.mem_append.mp hid).elim (hofProbes id) (hofIncremented id)
  have hwhole : ∀ entry ∈ tables.reservations.entries, entry.2.runId = runId →
      entry.2.status = .reserved → wholeUnits entry.2.units := by
    intro entry hentry hrun hstatus
    have hfind := KeyedTable.mem_entries_iff.mp hentry
    by_cases hmem : entry.1 ∈ probes ++ incremented
    · exact (hguard entry.1 hmem).2 entry.2 hfind
    · refine hrest entry.1 entry.2 (fun hkeep => hmem ?_) hfind hrun hstatus
      simpa using hkeep
  have hmany : ∀ id ∈ probes, id ∈ incremented → ∀ row ∈ tables.reservations.find id,
      row.units ≠ 1 := by
    intro id hid hone row hrow hunits
    obtain ⟨last, hlast, _, hstatus⟩ := (hprobes id (List.mem_dedup.mpr hid)).1
    rw [Option.mem_def, hend id hid, Option.mem_def.mp hrow, Option.map_some, if_pos hone] at hlast
    rw [← Option.some.inj hlast, takeOneUnit, if_pos hunits] at hstatus
    cases hstatus
  have hunits := hcommits hguard hwhole hmany
  refine (hreleaseBooked (hbooked.releaseExcept hexcept)).commitOne (fun entry hentry => ?_) hcommit
  have hspec := mem_reservedOfRun.mp hentry
  have hid : entry.1 ∈ probes := by simpa using hspec.2.2.1
  obtain ⟨⟨row, hrow, _⟩, _⟩ := hofProbes entry.1 hid
  have hlast := hspec.1
  rw [hend entry.1 hid, Option.mem_def.mp hrow, Option.map_some] at hlast
  rw [← Option.some.inj hlast]
  by_cases hone : entry.1 ∈ incremented
  · have htwo : row.units = 2 := by rw [hunits entry.1 hid row hrow, if_pos hone]
    rw [if_pos hone, takeOneUnit, htwo, if_neg (by norm_num)]
    norm_num
  · rw [if_neg hone, hunits entry.1 hid row hrow, if_neg hone]

end LetletmeData
