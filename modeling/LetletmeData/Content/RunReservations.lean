import LetletmeData.Content.MediaBudgetWindows

/-!
# The reservation of a run

Committing, releasing and reconciling rewrite reservations row by row, and reserving adds one row.
A run that reserves once has no reservation before and this one afterwards, whatever other runs
do.
-/

namespace LetletmeData

open LetletmeData.Library

variable {tables written : XBudgetTables} {runId : String}

/-- No reservation belongs to a run. -/
def XBudgetTables.NoneOf (tables : XBudgetTables) (runId : String) : Prop :=
  ∀ id row, tables.reservations.find id = some row → row.runId ≠ runId

/-- A run has one reservation, and it is one of credits. -/
structure XBudgetTables.OnlyOf (tables : XBudgetTables) (runId id : String)
    (row : BudgetReservation) : Prop where
  found : tables.reservations.find id = some row
  ofRun : row.runId = runId
  ofProvider : row.OfProvider .supadata
  only : ∀ other found, tables.reservations.find other = some found → found.runId = runId →
    other = id

/-- Every reservation is rewritten by itself. -/
def RowsRewritten (write : BudgetReservation → BudgetReservation)
    (tables written : XBudgetTables) : Prop :=
  ∀ id, written.reservations.find id = (tables.reservations.find id).map write

/-- A rewriting that keeps the runs adds no reservation to a run. -/
theorem XBudgetTables.NoneOf.rewrite (h : tables.NoneOf runId)
    {write : BudgetReservation → BudgetReservation}
    (hrewritten : RowsRewritten write tables written)
    (hrun : ∀ row, (write row).runId = row.runId) : written.NoneOf runId := by
  intro id row hfind
  rw [hrewritten id] at hfind
  obtain ⟨old, hold, rfl⟩ := Option.map_eq_some_iff.mp hfind
  rw [hrun]
  exact h id old hold

/-- A rewriting that keeps runs and ledgers rewrites the reservation of a run. -/
theorem XBudgetTables.OnlyOf.rewrite {id : String} {row : BudgetReservation}
    (h : tables.OnlyOf runId id row) {write : BudgetReservation → BudgetReservation}
    (hrewritten : RowsRewritten write tables written)
    (hrun : ∀ row, (write row).runId = row.runId)
    (hledger : ∀ row, (write row).ledgerId = row.ledgerId) :
    written.OnlyOf runId id (write row) where
  found := by rw [hrewritten id, h.found, Option.map_some]
  ofRun := (hrun row).trans h.ofRun
  ofProvider := by
    simp only [BudgetReservation.OfProvider, hledger]
    exact h.ofProvider
  only := by
    intro other found hfind hof
    rw [hrewritten other] at hfind
    obtain ⟨old, hold, rfl⟩ := Option.map_eq_some_iff.mp hfind
    exact h.only other old hold ((hrun old).symm.trans hof)

/-! ### The calls -/

/-- What committing or releasing the reservations of a run writes to a row. -/
def transitionRow (runId : String) (committed : Bool) (dbNow : ℤ) (row : BudgetReservation) :
    BudgetReservation :=
  if row.runId = runId ∧ row.status = .reserved then
    { row with status := if committed then .committed else .released, updatedAt := dbNow }
  else row

/-- What a reconciliation writes to a row. -/
def reconcileRow (runId : String) (provider : MediaProvider) (actualUnits : ℚ) (dbNow : ℤ)
    (row : BudgetReservation) : BudgetReservation :=
  if row.runId = runId ∧ row.Active ∧ row.OfProvider provider then
    { row with units := actualUnits, updatedAt := dbNow }
  else row

theorem transitionRow_runId (runId : String) (committed : Bool) (dbNow : ℤ)
    (row : BudgetReservation) : (transitionRow runId committed dbNow row).runId = row.runId := by
  unfold transitionRow
  split <;> rfl

theorem transitionRow_ledgerId (runId : String) (committed : Bool) (dbNow : ℤ)
    (row : BudgetReservation) :
    (transitionRow runId committed dbNow row).ledgerId = row.ledgerId := by
  unfold transitionRow
  split <;> rfl

theorem reconcileRow_runId (runId : String) (provider : MediaProvider) (actualUnits : ℚ)
    (dbNow : ℤ) (row : BudgetReservation) :
    (reconcileRow runId provider actualUnits dbNow row).runId = row.runId := by
  unfold reconcileRow
  split <;> rfl

theorem reconcileRow_ledgerId (runId : String) (provider : MediaProvider) (actualUnits : ℚ)
    (dbNow : ℤ) (row : BudgetReservation) :
    (reconcileRow runId provider actualUnits dbNow row).ledgerId = row.ledgerId := by
  unfold reconcileRow
  split <;> rfl

/-- Committing and releasing rewrite the reserved rows of the run. -/
theorem rowsRewritten_transition {committed : Bool} {dbNow : ℤ} {count : ℕ}
    (hcall : transitionRunBudgets runId committed dbNow tables = .ok (written, count)) :
    RowsRewritten (transitionRow runId committed dbNow) tables written := by
  obtain ⟨settled, hloop, hwritten⟩ := bind_eq_ok.mp hcall
  cases hwritten
  intro id
  rw [find_settleAll (nodup_reservedOfRun tables runId _) hloop id]
  cases hfind : tables.reservations.find id with
  | none => rfl
  | some row =>
    have hselected : id ∈ (reservedOfRun tables runId fun _ => True).map Prod.fst ↔
        row.runId = runId ∧ row.status = .reserved := by
      constructor
      · intro hmem
        obtain ⟨entry, hentry, rfl⟩ := List.mem_map.mp hmem
        obtain ⟨hfound, hrun, _, hstatus⟩ := mem_reservedOfRun.mp hentry
        obtain rfl := Option.some.inj (hfind.symm.trans hfound)
        exact ⟨hrun, hstatus⟩
      · intro hboth
        exact List.mem_map.mpr
          ⟨(id, row), mem_reservedOfRun.mpr ⟨hfind, hboth.1, trivial, hboth.2⟩, rfl⟩
    simp only [Option.map_some, transitionRow]
    exact congrArg some (if_congr hselected rfl rfl)

/-- Without a reserved row of the run there is nothing to commit or release. -/
theorem transition_of_no_reserved (hnone : ∀ id row, tables.reservations.find id = some row →
    row.runId = runId → row.status ≠ .reserved) (committed : Bool) (dbNow : ℤ) :
    transitionRunBudgets runId committed dbNow tables = .ok (tables, 0) := by
  have hempty : (reservedOfRun tables runId fun _ => True) = [] := by
    refine List.eq_nil_iff_forall_not_mem.mpr fun entry hentry => ?_
    obtain ⟨hfound, hrun, _, hstatus⟩ := mem_reservedOfRun.mp hentry
    exact hnone entry.1 entry.2 hfound hrun hstatus
  unfold transitionRunBudgets
  dsimp only
  rw [hempty]
  rfl

/-- A reconciliation rewrites the one active row of the run with the provider, or finds none. -/
theorem rowsRewritten_reconcile {provider : MediaProvider} {actualUnits : ℚ} {dbNow : ℤ}
    {done : Bool}
    (hcall : reconcileReservedProviderBudget runId provider.scopeKey provider.unitKind actualUnits
      dbNow tables = .ok (written, done)) :
    RowsRewritten (reconcileRow runId provider actualUnits dbNow) tables written ∧
      (done = false → ∀ id row, tables.reservations.find id = some row → row.runId = runId →
        row.OfProvider provider → ¬ row.Active) := by
  unfold reconcileReservedProviderBudget at hcall
  rw [throwIf_bind_eq_ok] at hcall
  replace hcall := hcall.2
  dsimp only at hcall
  split at hcall
  next hrows =>
    cases hcall
    have hnone : ∀ id row, tables.reservations.find id = some row → row.runId = runId →
        row.OfProvider provider → ¬ row.Active := by
      intro id row hfind hrun hof hactive
      refine List.not_mem_nil (a := (id, row)) ?_
      rw [← hrows]
      exact KeyedTable.mem_selectWhere.mpr ⟨hfind, hrun, hactive, hof⟩
    refine ⟨fun id => ?_, fun _ => hnone⟩
    cases hfind : tables.reservations.find id with
    | none => rfl
    | some row =>
      rw [Option.map_some, reconcileRow, if_neg fun hall =>
        hnone id row hfind hall.1 hall.2.2 hall.2.1]
  next only row hrows =>
    rw [throwIf_bind_eq_ok] at hcall
    obtain ⟨settled, hsettle, hwritten⟩ := bind_eq_ok.mp hcall.2
    cases hwritten
    refine ⟨fun id => ?_, fun hdone => absurd hdone.symm Bool.false_ne_true⟩
    rw [settleReservation_eq_ok hsettle]
    dsimp only
    rw [KeyedTable.find_updateWhere]
    cases hfind : tables.reservations.find id with
    | none => rfl
    | some found =>
      have hselected : id = only ↔
          found.runId = runId ∧ found.Active ∧ found.OfProvider provider := by
        constructor
        · rintro rfl
          have hmem : (id, row) ∈ tables.reservations.selectWhere _ :=
            hrows ▸ List.mem_singleton_self _
          obtain ⟨hrow, hall⟩ := KeyedTable.mem_selectWhere.mp hmem
          obtain rfl := Option.some.inj (hfind.symm.trans hrow)
          exact hall
        · intro hall
          have hmem : (id, found) ∈ [(only, row)] := by
            rw [← hrows]
            exact KeyedTable.mem_selectWhere.mpr ⟨hfind, hall⟩
          exact congrArg Prod.fst (List.mem_singleton.mp hmem)
      simp only [Option.map_some, reconcileRow]
      exact congrArg some (if_congr hselected rfl rfl)
  next => cases hcall

/-- A run without a reservation that reserves credits has this one afterwards; the reservations
of other runs stay. -/
theorem reserveCredits_rows {request : MediaBudgetRequest} {expectedCredits dailyCreditLimit : ℤ}
    {result : MediaBudgetReservationResult} (hnone : tables.NoneOf request.runId)
    (hcall : reserveSupadataCreditBudget request expectedCredits dailyCreditLimit tables =
      .ok (written, result)) :
    (result.reserved = false ∧ written = tables) ∨
      result.reserved = true ∧ tables.reservations.find request.newId = none ∧
        written.reservations = tables.reservations.insertAbsent request.newId
          (mediaReservation .supadata request expectedCredits) := by
  unfold reserveSupadataCreditBudget at hcall
  rw [throwIf_bind_eq_ok, throwIf_bind_eq_ok] at hcall
  rcases reserveMediaBudget_eq_ok hcall.2.2 with
    ⟨rfl, hrecognised⟩ | ⟨_, hreserved, _, opened, counted, hopened, hcounted, hinsert⟩
  · refine Or.inl ⟨?_, rfl⟩
    by_contra hreserved
    obtain ⟨existing, hexisting, _⟩ := hrecognised (Bool.eq_true_of_not_eq_false hreserved)
    have hmem : existing ∈ providerReservations written .supadata request.runId :=
      List.mem_of_getElem? hexisting
    have hrow := KeyedTable.mem_selectWhere.mp hmem
    exact hnone existing.1 existing.2 hrow.1 hrow.2.1
  · obtain ⟨hnew, _, _, htables⟩ := insertReservation_eq_ok hinsert
    have hsame : counted.reservations = tables.reservations := by
      rw [(updateLedger_eq_ok hcounted).1, ← reservations_upsertLedger hopened]
    rw [hsame] at htables hnew
    exact Or.inr ⟨hreserved, hnew, by rw [htables]⟩

section Inserted

variable {id : String} {row : BudgetReservation} (hnew : tables.reservations.find id = none)
  (hinserted : written.reservations = tables.reservations.insertAbsent id row)

include hinserted

/-- A row after the insertion is the new one or was there. -/
theorem find_inserted {other : String} {found : BudgetReservation}
    (hfind : written.reservations.find other = some found) :
    (other = id ∧ found = row) ∨ tables.reservations.find other = some found := by
  rw [hinserted, KeyedTable.find_insertAbsent, Option.or_eq_some_iff] at hfind
  rcases hfind with hold | ⟨_, hfound⟩
  · exact Or.inr hold
  · split at hfound
    next hid => exact Or.inl ⟨hid, (Option.some.inj hfound).symm⟩
    next => cases hfound

include hnew in
/-- The run of the new reservation has only this one, when it had none. -/
theorem XBudgetTables.NoneOf.inserted (h : tables.NoneOf row.runId)
    (hof : row.OfProvider .supadata) : written.OnlyOf row.runId id row where
  found := by rw [hinserted, KeyedTable.find_insertAbsent_self hnew]
  ofRun := rfl
  ofProvider := hof
  only := by
    intro other found hfind hrun
    rcases find_inserted hinserted hfind with ⟨hid, _⟩ | hold
    · exact hid
    · exact absurd hrun (h other found hold)

/-- Another run still has no reservation. -/
theorem XBudgetTables.NoneOf.of_inserted (h : tables.NoneOf runId) (hne : row.runId ≠ runId) :
    written.NoneOf runId := by
  intro other found hfind
  rcases find_inserted hinserted hfind with ⟨_, rfl⟩ | hold
  · exact hne
  · exact h other found hold

/-- Another run keeps its reservation. -/
theorem XBudgetTables.OnlyOf.of_inserted {own : String} {found : BudgetReservation}
    (h : tables.OnlyOf runId own found) (hne : row.runId ≠ runId) :
    written.OnlyOf runId own found where
  found := by
    rw [hinserted, KeyedTable.find_insertAbsent, h.found, Option.some_or]
  ofRun := h.ofRun
  ofProvider := h.ofProvider
  only := by
    intro other row hfind hrun
    rcases find_inserted hinserted hfind with ⟨_, rfl⟩ | hold
    · exact absurd hrun hne
    · exact h.only other row hold hrun

end Inserted

/-! ### Committed credits -/

/-- The units a reservation counts among the committed credits of a run. -/
def committedCreditsIn (runId : String) (row : BudgetReservation) : ℚ :=
  if row.runId = runId ∧ row.OfProvider .supadata ∧ row.status = .committed then row.units else 0

/-- The units of the committed credit reservations of a run. -/
def XBudgetTables.committedCredits (tables : XBudgetTables) (runId : String) : ℚ :=
  tables.reservations.total (committedCreditsIn runId)

/-- Without a reservation nothing is committed. -/
theorem XBudgetTables.NoneOf.committedCredits_eq (h : tables.NoneOf runId) :
    tables.committedCredits runId = 0 := by
  refine List.sum_eq_zero fun units hunits => ?_
  obtain ⟨entry, hentry, rfl⟩ := List.mem_map.mp hunits
  exact if_neg fun hall => h entry.1 entry.2 (KeyedTable.mem_entries_iff.mp hentry) hall.1

/-- The only reservation of a run counts with all its units once it is committed. -/
theorem XBudgetTables.OnlyOf.committedCredits_eq {id : String} {row : BudgetReservation}
    (h : tables.OnlyOf runId id row) :
    tables.committedCredits runId = if row.status = .committed then row.units else 0 := by
  have hothers : (tables.reservations.deleteWhere fun other _ => other = id).total
      (committedCreditsIn runId) = 0 := by
    refine List.sum_eq_zero fun units hunits => ?_
    obtain ⟨entry, hentry, rfl⟩ := List.mem_map.mp hunits
    have hfind := KeyedTable.mem_entries_iff.mp hentry
    have hkept := KeyedTable.find_of_find_deleteWhere hfind
    exact if_neg fun hall => hkept.2 (h.only entry.1 entry.2 hkept.1 hall.1)
  rw [XBudgetTables.committedCredits, KeyedTable.total_eq_add h.found, hothers, add_zero,
    committedCreditsIn]
  exact if_congr (by simp [h.ofRun, h.ofProvider]) rfl rfl

end LetletmeData
