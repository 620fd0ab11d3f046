import Mathlib.Algebra.Order.BigOperators.Group.List
import Mathlib.Tactic.Linarith
import LetletmeData.Content.MediaBudget
import LetletmeData.Content.XBudgetReservations

/-!
# Media budgets are spent once

What a reservation adds to a window of 24 hours was checked against everything in the window, also
when transactions began in another order than they took the lock. A run is charged twice when one
of its reservations was released: the row that is read may be that one, while another is active.
-/

namespace LetletmeData

open LetletmeData.Library

variable {limits : MediaBudgetLimits} {tables written : XBudgetTables}

/-- The units a reservation counts among the active ones of the 24 hours after a start. -/
def activeUnitsIn (provider : MediaProvider) (start : ℤ) (row : BudgetReservation) : ℚ :=
  if row.OfProvider provider ∧ row.Active ∧ start < row.createdAt ∧
      row.createdAt ≤ start + 24 * 60 * 60000 then
    row.units
  else 0

/-- No window of 24 hours exceeds the limit of a provider, and no run holds two active
reservations with one provider. -/
structure MediaSpent (limits : MediaBudgetLimits) (tables : XBudgetTables) : Prop where
  withinLimit : ∀ provider start,
    tables.reservations.total (activeUnitsIn provider start) ≤ limits.units provider
  chargedOnce : ∀ provider id row otherId other,
    tables.reservations.find id = some row → tables.reservations.find otherId = some other →
      row.OfProvider provider → other.OfProvider provider → row.Active → other.Active →
      row.runId = other.runId → id = otherId

/-- Nothing is overspent or charged twice, and the ledgers balance. -/
structure MediaBudgetKept (limits : MediaBudgetLimits) (tables : XBudgetTables) : Prop where
  spent : MediaSpent limits tables
  balanced : tables.Balanced

/-! ### Settling -/

/-- A reservation that is rewritten within its units, and only leaves the active ones, overspends
nothing. -/
theorem MediaSpent.settle (h : MediaSpent limits tables)
    {write : BudgetReservation → BudgetReservation} {adjust : BudgetLedger → BudgetLedger}
    {selected : String × BudgetReservation}
    (hselected : tables.reservations.find selected.1 = some selected.2)
    (hsettle : settleReservation write adjust selected tables = .ok written)
    (hledger : (write selected.2).ledgerId = selected.2.ledgerId)
    (hrun : (write selected.2).runId = selected.2.runId)
    (hcreated : (write selected.2).createdAt = selected.2.createdAt)
    (hactive : (write selected.2).Active → selected.2.Active)
    (hpositive : 0 < selected.2.units) (hunits : (write selected.2).units ≤ selected.2.units) :
    MediaSpent limits written := by
  rw [settleReservation_eq_ok hsettle]
  have hprovider : ∀ provider, (write selected.2).OfProvider provider ↔
      selected.2.OfProvider provider := by
    intro provider
    simp only [BudgetReservation.OfProvider, hledger]
  have hfound : ∀ id row, (tables.reservations.updateWhere (fun key _ => key = selected.1)
      write).find id = some row → ∃ old, tables.reservations.find id = some old ∧
        row.runId = old.runId ∧ (row.Active → old.Active) ∧
        ∀ provider, row.OfProvider provider ↔ old.OfProvider provider := by
    intro id row hfind
    rw [KeyedTable.find_updateWhere] at hfind
    obtain ⟨old, hold, hrow⟩ := Option.map_eq_some_iff.mp hfind
    refine ⟨old, hold, ?_⟩
    by_cases hid : id = selected.1
    · obtain rfl : selected.2 = old := Option.some.inj (hselected.symm.trans (hid ▸ hold))
      rw [if_pos hid] at hrow
      rw [← hrow]
      exact ⟨hrun, hactive, hprovider⟩
    · rw [if_neg hid] at hrow
      rw [← hrow]
      exact ⟨rfl, fun hrowActive => hrowActive, fun _ => Iff.rfl⟩
  constructor
  · intro provider start
    rw [KeyedTable.total_updateWhere hselected]
    have hless : activeUnitsIn provider start (write selected.2) ≤
        activeUnitsIn provider start selected.2 := by
      unfold activeUnitsIn
      simp only [hprovider, hcreated]
      by_cases hcounted : selected.2.OfProvider provider ∧ selected.2.Active ∧
          start < selected.2.createdAt ∧ selected.2.createdAt ≤ start + 24 * 60 * 60000
      · rw [if_pos hcounted]
        split
        next => exact hunits
        next => exact hpositive.le
      · rw [if_neg hcounted, if_neg fun hafter =>
          hcounted ⟨hafter.1, hactive hafter.2.1, hafter.2.2⟩]
    linarith [h.withinLimit provider start]
  · intro provider id row otherId other hrow hother hof hotherOf hrowActive hotherActive hsame
    obtain ⟨old, hold, holdRun, holdActive, holdOf⟩ := hfound id row hrow
    obtain ⟨last, hlast, hlastRun, hlastActive, hlastOf⟩ := hfound otherId other hother
    refine h.chargedOnce provider id old otherId last hold hlast ((holdOf provider).mp hof)
      ((hlastOf provider).mp hotherOf) (holdActive hrowActive) (hlastActive hotherActive) ?_
    rw [← holdRun, ← hlastRun, hsame]

/-- Committing or releasing the reservations of a run overspends nothing. -/
theorem MediaSpent.transition (h : MediaSpent limits tables) {runId : String} {committed : Bool}
    {dbNow : ℤ} {count : ℕ}
    (hcall : transitionRunBudgets runId committed dbNow tables = .ok (written, count)) :
    MediaSpent limits written := by
  obtain ⟨settled, hloop, hwritten⟩ := bind_eq_ok.mp hcall
  cases hwritten
  refine settleAll_induction (nodup_reservedOfRun tables runId _)
    (fun row hrow => (mem_reservedOfRun.mp hrow).1)
    (fun before after row hmem hvalid hkept hrow hsettle => ?_) h hloop
  have hreserved : row.2.Active := Or.inl (mem_reservedOfRun.mp hmem).2.2.2
  exact hkept.settle hrow hsettle rfl rfl rfl (fun _ => hreserved) hvalid le_rfl

/-- A reconciliation within the reserved units overspends nothing. -/
theorem MediaSpent.reconcile (h : MediaSpent limits tables) {runId : String}
    {provider : MediaProvider} {actualUnits : ℚ} {dbNow : ℤ} {done : Bool}
    (hwithin : ∀ row ∈ providerReservations tables provider runId, row.2.Active →
      actualUnits ≤ row.2.units)
    (hcall : reconcileReservedProviderBudget runId provider.scopeKey provider.unitKind actualUnits
      dbNow tables = .ok (written, done)) : MediaSpent limits written := by
  unfold reconcileReservedProviderBudget at hcall
  rw [throwIf_bind_eq_ok] at hcall
  replace hcall := hcall.2
  dsimp only at hcall
  split at hcall
  next =>
    cases hcall
    exact h
  next id row hrows =>
    rw [throwIf_bind_eq_ok, not_le] at hcall
    obtain ⟨hpositive, hcall⟩ := hcall
    obtain ⟨settled, hsettle, hwritten⟩ := bind_eq_ok.mp hcall
    cases hwritten
    have hmem : (id, row) ∈ tables.reservations.selectWhere _ := hrows ▸ List.mem_singleton_self _
    obtain ⟨hrow, hrun, hactive, hof⟩ := KeyedTable.mem_selectWhere.mp hmem
    have hunits : actualUnits ≤ row.units :=
      hwithin (id, row) (KeyedTable.mem_selectWhere.mpr ⟨hrow, hrun, hof⟩) hactive
    exact h.settle hrow hsettle rfl rfl rfl (fun _ => hactive) hpositive hunits
  next => cases hcall

/-! ### Reserving -/

/-- The reservation that is inserted. -/
def mediaReservation (provider : MediaProvider) (request : MediaBudgetRequest) (units : ℚ) :
    BudgetReservation where
  ledgerId := provider.ledgerId request.dbNow
  runId := request.runId
  units := units
  status := .reserved
  createdAt := request.dbNow
  updatedAt := request.dbNow

/-- The ledger after its counter was raised. -/
def countMediaUnits (request : MediaBudgetRequest) (units : ℚ) (ledger : BudgetLedger) :
    BudgetLedger :=
  { ledger with reservedUnits := ledger.reservedUnits + units, updatedAt := request.dbNow }

/-- The units that are active in the 24 hours before a request. -/
def mediaUsage (tables : XBudgetTables) (provider : MediaProvider) (request : MediaBudgetRequest) :
    ℚ :=
  tables.reservations.total (activeUnitsAfter provider (request.dbNow - 24 * 60 * 60000))

/-- A call writes nothing when it is refused or has found an active row, and otherwise inserts a
reservation that fits. -/
theorem reserveMediaBudget_eq_ok {provider : MediaProvider} {request : MediaBudgetRequest}
    {units maximumUnits : ℚ} {result : MediaBudgetReservationResult}
    (hcall : reserveMediaBudget provider request units maximumUnits tables =
      .ok (written, result)) :
    (written = tables ∧ (result.reserved = true →
        ∃ existing ∈ firstReservation tables provider request, existing.2.Active)) ∨
      (¬ ∃ existing ∈ firstReservation tables provider request, existing.2.Active) ∧
        result.reserved = true ∧ mediaUsage tables provider request + units ≤ maximumUnits ∧
        ∃ opened counted,
          upsertLedger (provider.ledgerId request.dbNow) maximumUnits request.dbNow tables =
            .ok opened ∧
          updateLedger (provider.ledgerId request.dbNow) (countMediaUnits request units) opened =
            .ok counted ∧
          insertReservation request.newId (mediaReservation provider request units) counted =
            .ok written := by
  unfold reserveMediaBudget at hcall
  split at hcall
  next hrecognised =>
    cases hcall
    exact Or.inl ⟨rfl, fun _ => hrecognised⟩
  next hunrecognised =>
    dsimp only at hcall
    rw [throwIf_bind_eq_ok] at hcall
    replace hcall := hcall.2
    split at hcall
    next =>
      cases hcall
      exact Or.inl ⟨rfl, fun hreserved => absurd hreserved Bool.false_ne_true⟩
    next hfits =>
      obtain ⟨opened, hopened, hcall⟩ := bind_eq_ok.mp hcall
      obtain ⟨counted, hcounted, hcall⟩ := bind_eq_ok.mp hcall
      obtain ⟨reserved, hreserved, hcall⟩ := bind_eq_ok.mp hcall
      cases hcall
      exact Or.inr ⟨hunrecognised, rfl, not_lt.mp hfits, opened, counted, hopened, hcounted, hreserved⟩

/-- A reservation keeps the books. -/
theorem XBudgetTables.Booked.reserveMedia (hbooked : tables.Booked) {provider : MediaProvider}
    {request : MediaBudgetRequest} {units maximumUnits : ℚ} {result : MediaBudgetReservationResult}
    (hcall : reserveMediaBudget provider request units maximumUnits tables =
      .ok (written, result)) : written.Booked := by
  rcases reserveMediaBudget_eq_ok hcall with
    ⟨rfl, _⟩ | ⟨_, _, _, opened, counted, hopened, hcounted, hinsert⟩
  · exact hbooked
  have hopenedBooked := hbooked.upsertLedger hopened
  have hconstrained := hopenedBooked.constrained.updateLedger hcounted
  have hkept := hconstrained.insertReservation hinsert
  obtain ⟨hnew, _, _, htables⟩ := insertReservation_eq_ok hinsert
  rw [(updateLedger_eq_ok hcounted).1] at htables hnew
  rw [htables] at hkept ⊢
  refine ⟨hkept,
    hopenedBooked.reserved.insert (mediaReservation provider request units) hnew fun ledger => ?_,
    hopenedBooked.committed.insert (mediaReservation provider request units) hnew fun ledger => ?_⟩
  · simp [unitsIn, mediaReservation, countMediaUnits]
  · simp [unitsIn, mediaReservation, countMediaUnits]

/-- A run that holds an active reservation is recognised by the row that is read, or its units do
not fit. -/
def RepeatRecognised (tables : XBudgetTables) (provider : MediaProvider)
    (request : MediaBudgetRequest) (units maximumUnits : ℚ) : Prop :=
  (∃ existing ∈ providerReservations tables provider request.runId, existing.2.Active) →
    (∃ existing ∈ firstReservation tables provider request, existing.2.Active) ∨
      maximumUnits < mediaUsage tables provider request + units

instance (tables : XBudgetTables) (provider : MediaProvider) (request : MediaBudgetRequest)
    (units maximumUnits : ℚ) :
    Decidable (RepeatRecognised tables provider request units maximumUnits) :=
  inferInstanceAs (Decidable (_ → _))

/-- What is counted in a window around a request was counted for the request. -/
theorem activeUnitsIn_le_activeUnitsAfter {provider : MediaProvider} {start dbNow : ℤ}
    (hwindow : dbNow ≤ start + 24 * 60 * 60000) {row : BudgetReservation} (hpositive : 0 ≤ row.units) :
    activeUnitsIn provider start row ≤
      activeUnitsAfter provider (dbNow - 24 * 60 * 60000) row := by
  unfold activeUnitsIn activeUnitsAfter
  split
  next hin =>
    rw [if_pos ⟨hin.1, hin.2.1, by omega⟩]
  next =>
    split
    next => exact hpositive
    next => exact le_rfl

/-- A window around a request has no more units than were counted for the request. -/
theorem total_activeUnitsIn_le (hconstrained : tables.Constrained) {provider : MediaProvider}
    {request : MediaBudgetRequest} {start : ℤ}
    (hwindow : request.dbNow ≤ start + 24 * 60 * 60000) :
    tables.reservations.total (activeUnitsIn provider start) ≤
      mediaUsage tables provider request := by
  refine List.sum_le_sum fun entry hentry => activeUnitsIn_le_activeUnitsAfter hwindow ?_
  have hchecked : 0 < entry.2.units :=
    hconstrained.reservations entry.1 entry.2 (KeyedTable.mem_entries_iff.mp hentry)
  exact hchecked.le

/-- The new reservation is of its provider only. -/
theorem mediaReservation_ofProvider {provider other : MediaProvider} {request : MediaBudgetRequest}
    {units : ℚ} : (mediaReservation provider request units).OfProvider other ↔ other = provider := by
  cases provider <;> cases other <;>
    simp [BudgetReservation.OfProvider, mediaReservation, MediaProvider.ledgerId,
      MediaProvider.scopeKey]

/-- A reservation of a run that is recognised overspends nothing. -/
theorem MediaSpent.reserve (h : MediaSpent limits tables) (hconstrained : tables.Constrained)
    {provider : MediaProvider} {request : MediaBudgetRequest} {units : ℚ}
    {result : MediaBudgetReservationResult}
    (hrecognised : RepeatRecognised tables provider request units (limits.units provider))
    (hcall : reserveMediaBudget provider request units (limits.units provider) tables =
      .ok (written, result)) : MediaSpent limits written := by
  rcases reserveMediaBudget_eq_ok hcall with
    ⟨rfl, _⟩ | ⟨hunrecognised, _, hfits, opened, counted, hopened, hcounted, hinsert⟩
  · exact h
  obtain ⟨hnew, _, _, htables⟩ := insertReservation_eq_ok hinsert
  have hsame : counted.reservations = tables.reservations := by
    rw [(updateLedger_eq_ok hcounted).1, ← reservations_upsertLedger hopened]
  rw [hsame] at htables hnew
  have hnone : ∀ id row, tables.reservations.find id = some row → row.runId = request.runId →
      row.OfProvider provider → ¬ row.Active := by
    intro id row hrow hrun hof hactive
    have hexists : ∃ existing ∈ providerReservations tables provider request.runId,
        existing.2.Active :=
      ⟨(id, row), KeyedTable.mem_selectWhere.mpr ⟨hrow, hrun, hof⟩, hactive⟩
    rcases hrecognised hexists with hfirst | hexceeds
    · exact hunrecognised hfirst
    · exact not_lt.mpr hfits hexceeds
  constructor
  · intro other start
    rw [htables, KeyedTable.total_insertAbsent hnew]
    by_cases hcounts : other = provider ∧ start < request.dbNow ∧
        request.dbNow ≤ start + 24 * 60 * 60000
    · obtain rfl := hcounts.1
      have hcounted : tables.reservations.total (activeUnitsIn other start) ≤
          mediaUsage tables other request := total_activeUnitsIn_le hconstrained hcounts.2.2
      have hunits : activeUnitsIn other start (mediaReservation other request units) = units :=
        if_pos ⟨mediaReservation_ofProvider.mpr rfl, Or.inl rfl, hcounts.2⟩
      linarith
    · have hunits : activeUnitsIn other start (mediaReservation provider request units) = 0 := by
        refine if_neg fun hin => hcounts ?_
        exact ⟨mediaReservation_ofProvider.mp hin.1, hin.2.2⟩
      rw [hunits, add_zero]
      exact h.withinLimit other start
  · -- a row is the new one, whose run had no active reservation before, or an old one
    have hfound : ∀ id row, written.reservations.find id = some row →
        (id = request.newId ∧ row = mediaReservation provider request units) ∨
          tables.reservations.find id = some row := by
      intro id row hfind
      rw [htables, KeyedTable.find_insertAbsent, Option.or_eq_some_iff] at hfind
      rcases hfind with hold | ⟨_, hinserted⟩
      · exact Or.inr hold
      · split at hinserted
        next hid => exact Or.inl ⟨hid, (Option.some.inj hinserted).symm⟩
        next => cases hinserted
    intro other id row otherId found hrow hfind hof hotherOf hactive hotherActive hsame
    rcases hfound id row hrow with ⟨hid, hrowNew⟩ | hold
    · rcases hfound otherId found hfind with ⟨hotherId, _⟩ | hlast
      · exact hid.trans hotherId.symm
      · rw [hrowNew] at hof hsame
        obtain rfl := mediaReservation_ofProvider.mp hof
        exact absurd hotherActive (hnone otherId found hlast hsame.symm hotherOf)
    · rcases hfound otherId found hfind with ⟨_, hfoundNew⟩ | hlast
      · rw [hfoundNew] at hotherOf hsame
        obtain rfl := mediaReservation_ofProvider.mp hotherOf
        exact absurd hactive (hnone id row hold hsame hof)
      · exact h.chargedOnce other id row otherId found hold hlast hof hotherOf hactive
          hotherActive hsame

/-! ### Whole runs of calls -/

/-- Valid reservations of runs that hold an active one are recognised, or refused. -/
def RecognisesRuns (limits : MediaBudgetLimits) (tables : XBudgetTables) :
    MediaBudgetAction → Prop
  | .reserveHermes request audioSeconds =>
    0 < audioSeconds →
      RepeatRecognised tables .hermes request ⌈audioSeconds⌉ (limits.units .hermes)
  | .reserveSupadata request expectedCredits =>
    isPositiveSafeInteger expectedCredits →
      RepeatRecognised tables .supadata request expectedCredits (limits.units .supadata)
  | _ => True

/-- Reconciliations stay within what the run has reserved. -/
def ReconcilesWithin (tables : XBudgetTables) : MediaBudgetAction → Prop
  | .reconcile runId provider actualUnits _ =>
    ∀ row ∈ providerReservations tables provider runId, row.2.Active → actualUnits ≤ row.2.units
  | _ => True

instance (limits : MediaBudgetLimits) (tables : XBudgetTables) :
    ∀ action, Decidable (RecognisesRuns limits tables action)
  | .reserveHermes _ audioSeconds =>
    inferInstanceAs (Decidable (0 < audioSeconds → RepeatRecognised _ _ _ _ _))
  | .reserveSupadata _ expectedCredits =>
    inferInstanceAs (Decidable (isPositiveSafeInteger expectedCredits → RepeatRecognised _ _ _ _ _))
  | .transition _ _ _ | .reconcile _ _ _ _ => inferInstanceAs (Decidable True)

instance (tables : XBudgetTables) : ∀ action, Decidable (ReconcilesWithin tables action)
  | .reconcile _ _ _ _ => inferInstanceAs (Decidable (∀ row ∈ providerReservations _ _ _, _ → _))
  | .reserveHermes _ _ | .reserveSupadata _ _ | .transition _ _ _ => inferInstanceAs (Decidable True)

/-- What every call keeps: the books, and that nothing is overspent or charged twice. -/
structure MediaBooked (limits : MediaBudgetLimits) (tables : XBudgetTables) : Prop where
  booked : tables.Booked
  spent : MediaSpent limits tables

/-- Each call whose run is recognised keeps the budgets. -/
theorem MediaBooked.run (h : MediaBooked limits tables) {action : MediaBudgetAction}
    (hwithin : ReconcilesWithin tables action) (hrecognised : RecognisesRuns limits tables action)
    (hrun : action.run limits tables = .ok written) : MediaBooked limits written := by
  cases action with
  | reserveHermes request audioSeconds =>
    obtain ⟨⟨_, result⟩, hcall, rfl⟩ := map_eq_ok.mp hrun
    unfold reserveHermesAudioBudget at hcall
    rw [throwIf_bind_eq_ok, throwIf_bind_eq_ok, not_le] at hcall
    obtain ⟨hvalid, _, hcall⟩ := hcall
    exact ⟨h.booked.reserveMedia hcall,
      h.spent.reserve h.booked.constrained (hrecognised hvalid) hcall⟩
  | reserveSupadata request expectedCredits =>
    obtain ⟨⟨_, result⟩, hcall, rfl⟩ := map_eq_ok.mp hrun
    unfold reserveSupadataCreditBudget at hcall
    rw [throwIf_bind_eq_ok, throwIf_bind_eq_ok, not_not] at hcall
    obtain ⟨hvalid, _, hcall⟩ := hcall
    exact ⟨h.booked.reserveMedia hcall,
      h.spent.reserve h.booked.constrained (hrecognised hvalid) hcall⟩
  | transition runId committed dbNow =>
    obtain ⟨⟨_, count⟩, hcall, rfl⟩ := map_eq_ok.mp hrun
    exact ⟨h.booked.transition hcall, h.spent.transition hcall⟩
  | reconcile runId provider actualUnits dbNow =>
    obtain ⟨⟨_, done⟩, hcall, rfl⟩ := map_eq_ok.mp hrun
    exact ⟨h.booked.reconcile hcall, h.spent.reconcile hwithin hcall⟩

/-- The same for a call inside its transaction. -/
theorem mediaBooked_mediaBudgetStep (tables : XBudgetTables) (action : MediaBudgetAction)
    (h : MediaBooked limits tables)
    (hguard : ReconcilesWithin tables action ∧ RecognisesRuns limits tables action) :
    MediaBooked limits (mediaBudgetStep limits tables action) :=
  commit_induction h fun _ hwritten => h.run hguard.1 hguard.2 hwritten

/-- Before the first call nothing is spent. -/
theorem mediaBooked_initial (limits : MediaBudgetLimits) : MediaBooked limits .initial where
  booked := booked_initial
  spent :=
    { withinLimit := by
        intro provider start
        have hminutes : (0 : ℚ) ≤ limits.dailyAudioMinutes :=
          Int.cast_nonneg (Int.le_of_lt limits.audioMinutes_valid.1)
        have hcredits : (0 : ℚ) ≤ limits.dailyCreditLimit :=
          Int.cast_nonneg (Int.le_of_lt limits.creditLimit_valid.1)
        cases provider with
        | hermes => exact mul_nonneg hminutes (by norm_num)
        | supadata => exact hcredits
      chargedOnce := fun _ _ _ _ _ h => (Option.some_ne_none _ h.symm).elim }

/-- While the calls of runs with an active reservation find an active row, or do not fit, and
reconciliations stay within the reserved units, the budgets are kept in every state. -/
theorem mediaBudgets_kept (limits : MediaBudgetLimits) (actions : List MediaBudgetAction)
    (hwithin : EveryStep (mediaBudgetStep limits) ReconcilesWithin .initial actions)
    (hrecognised : EveryStep (mediaBudgetStep limits) (RecognisesRuns limits) .initial actions)
    (before : List MediaBudgetAction) (hbefore : before <+: actions) :
    MediaBudgetKept limits (runSteps (mediaBudgetStep limits) .initial before) := by
  have hguard := everyStep_and.mpr ⟨hwithin, hrecognised⟩
  obtain ⟨rest, rfl⟩ := hbefore
  have hkept := runSteps_invariant_of_guard mediaBooked_mediaBudgetStep
    (mediaBooked_initial limits) ((everyStep_append _ before rest).mp hguard).1
  exact ⟨hkept.spent, hkept.booked.balanced⟩

/-- Limits for examples. -/
def exampleLimits : MediaBudgetLimits where
  dailyAudioMinutes := 10
  dailyCreditLimit := 10
  audioMinutes_valid := by decide
  creditLimit_valid := by decide

/-- A call of the run `run` under a new identifier; the query returns its first row. -/
def exampleCall (dbNow : ℤ) (newId : String) : MediaBudgetRequest where
  runId := "run"
  dbNow := dbNow
  newId := newId
  firstRow := 0

/-- Three credits are reserved and committed, and the run is recognised when it reserves again. -/
theorem mediaBudgets_kept_recognised :
    MediaBudgetKept exampleLimits (runSteps (mediaBudgetStep exampleLimits) .initial
      [.reserveSupadata (exampleCall 3600000 "r0") 3, .transition "run" true 3600001,
        .reserveSupadata (exampleCall 3600002 "r1") 3]) :=
  mediaBudgets_kept exampleLimits _ (by decide +kernel) (by decide +kernel) _ (List.prefix_refl _)

/-- Three credits are reserved and released, and reserved twice again. -/
def releasedCalls : List MediaBudgetAction :=
  [.reserveSupadata (exampleCall 3600000 "r0") 3, .transition "run" false 3600001,
    .reserveSupadata (exampleCall 3600002 "r1") 3, .reserveSupadata (exampleCall 3600003 "r2") 3]

/-- The query of the last call returns the released row, and the run holds two active
reservations. -/
theorem releasedRun_chargedTwice :
    EveryStep (mediaBudgetStep exampleLimits) ReconcilesWithin .initial releasedCalls ∧
      ¬ MediaBudgetKept exampleLimits
        (runSteps (mediaBudgetStep exampleLimits) .initial releasedCalls) := by
  refine ⟨by decide +kernel, fun hkept => ?_⟩
  have hfirst : (runSteps (mediaBudgetStep exampleLimits) .initial
      releasedCalls).reservations.find "r1" =
      some (mediaReservation .supadata (exampleCall 3600002 "r1") 3) := by decide +kernel
  have hsecond : (runSteps (mediaBudgetStep exampleLimits) .initial
      releasedCalls).reservations.find "r2" =
      some (mediaReservation .supadata (exampleCall 3600003 "r2") 3) := by decide +kernel
  have hsame := hkept.spent.chargedOnce .supadata "r1" _ "r2" _ hfirst hsecond
    (by decide) (by decide) (by decide) (by decide) rfl
  exact absurd hsame (by decide)

end LetletmeData
