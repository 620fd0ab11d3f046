import LetletmeData.Content.XBudget

/-!
# Media budgets

Transcripts are paid for in seconds of audio (Hermes) or in credits (Supadata). Both providers
have a rolling limit of 24 hours and keep their reservations in the tables of the X budgets. A run
that reserves again is recognised by one of its earlier reservations, whichever row the query
returns first.
-/

namespace LetletmeData

open LetletmeData.Library

/-- The providers with a media budget. -/
inductive MediaProvider where
  | hermes
  | supadata
  deriving DecidableEq

namespace MediaProvider

/-- The name in the messages. -/
def name : MediaProvider → String
  | hermes => "Hermes"
  | supadata => "Supadata"

/-- The scope key of the ledgers. -/
def scopeKey : MediaProvider → String
  | hermes => "HERMES_TRANSCRIPT"
  | supadata => "SUPADATA_TRANSCRIPT"

/-- The unit kind of the ledgers. -/
def unitKind : MediaProvider → String
  | hermes => "AUDIO_SECOND"
  | supadata => "CREDIT"

/-- The ledger of a provider in the hour of a reservation. -/
def ledgerId (provider : MediaProvider) (dbNow : ℤ) : BudgetLedgerId where
  scopeKind := .provider
  scopeKey := provider.scopeKey
  unitKind := provider.unitKind
  windowStart := hourStart dbNow
  windowEnd := hourStart dbNow + 60 * 60000

end MediaProvider

/-- The ledger of a reservation belongs to a provider. -/
def BudgetReservation.OfProvider (row : BudgetReservation) (provider : MediaProvider) : Prop :=
  row.ledgerId.scopeKind = .provider ∧ row.ledgerId.scopeKey = provider.scopeKey ∧
    row.ledgerId.unitKind = provider.unitKind

/-- `['RESERVED', 'COMMITTED'].includes(status)`. -/
def BudgetReservation.Active (row : BudgetReservation) : Prop :=
  row.status = .reserved ∨ row.status = .committed

instance (row : BudgetReservation) (provider : MediaProvider) :
    Decidable (row.OfProvider provider) :=
  inferInstanceAs (Decidable (_ ∧ _))

instance (row : BudgetReservation) : Decidable row.Active :=
  inferInstanceAs (Decidable (_ ∨ _))

/-- What a reservation is made with besides its amount: the time of its transaction, the
identifier it draws, and the place of the row that `LIMIT 1` returns. -/
structure MediaBudgetRequest where
  runId : String
  dbNow : ℤ
  newId : String
  firstRow : ℕ

/-- `MediaBudgetReservationResult` and `ProviderCreditReservationResult`. -/
structure MediaBudgetReservationResult where
  reserved : Bool
  remainingBeforeReservation : ℚ
  deriving DecidableEq

/-- The reservations of a run with a provider. -/
def providerReservations (tables : XBudgetTables) (provider : MediaProvider) (runId : String) :
    List (String × BudgetReservation) :=
  tables.reservations.selectWhere fun _ row => row.runId = runId ∧ row.OfProvider provider

/-- The row of the query for an earlier reservation. -/
def firstReservation (tables : XBudgetTables) (provider : MediaProvider)
    (request : MediaBudgetRequest) : Option (String × BudgetReservation) :=
  let existing := providerReservations tables provider request.runId
  existing[request.firstRow % existing.length]?

/-- The units a reservation counts among the active ones that were created after a time. -/
def activeUnitsAfter (provider : MediaProvider) (since : ℤ) (row : BudgetReservation) : ℚ :=
  if row.OfProvider provider ∧ row.Active ∧ since < row.createdAt then row.units else 0

/-- The transaction of `reserveHermesAudioBudget` and of `reserveSupadataCreditBudget`, under the
advisory lock of the provider. -/
def reserveMediaBudget (provider : MediaProvider) (request : MediaBudgetRequest)
    (units maximumUnits : ℚ) (tables : XBudgetTables) :
    Except String (XBudgetTables × MediaBudgetReservationResult) :=
  if ∃ existing ∈ firstReservation tables provider request, existing.2.Active then
    .ok (tables, { reserved := true, remainingBeforeReservation := 0 })
  else do
    let used := tables.reservations.total
      (activeUnitsAfter provider (request.dbNow - 24 * 60 * 60000))
    throwIf (used < 0) (provider.name ++ " budget usage is invalid")
    let remaining := max 0 (maximumUnits - used)
    if maximumUnits < used + units then
      return (tables, { reserved := false, remainingBeforeReservation := remaining })
    else do
      let ledgerId := provider.ledgerId request.dbNow
      let opened ← upsertLedger ledgerId maximumUnits request.dbNow tables
      let counted ← updateLedger ledgerId (fun ledger =>
        { ledger with
          reservedUnits := ledger.reservedUnits + units, updatedAt := request.dbNow }) opened
      let reserved ← insertReservation request.newId
        { ledgerId, runId := request.runId, units, status := .reserved
          createdAt := request.dbNow, updatedAt := request.dbNow } counted
      return (reserved,
        { reserved := true, remainingBeforeReservation := max 0 (remaining - units) })

/-- `reserveHermesAudioBudget`. -/
def reserveHermesAudioBudget (request : MediaBudgetRequest) (audioSeconds : ℚ)
    (dailyAudioMinutes : ℤ) (tables : XBudgetTables) :
    Except String (XBudgetTables × MediaBudgetReservationResult) := do
  throwIf (audioSeconds ≤ 0) "Hermes audio budget requires positive duration seconds"
  throwIf (¬ isPositiveSafeInteger dailyAudioMinutes)
    "Hermes daily audio-minute limit must be a positive integer"
  reserveMediaBudget .hermes request ⌈audioSeconds⌉ (dailyAudioMinutes * 60) tables

/-- `reserveSupadataCreditBudget`. -/
def reserveSupadataCreditBudget (request : MediaBudgetRequest) (expectedCredits : ℤ)
    (dailyCreditLimit : ℤ) (tables : XBudgetTables) :
    Except String (XBudgetTables × MediaBudgetReservationResult) := do
  throwIf (¬ isPositiveSafeInteger expectedCredits)
    "Supadata budget requires positive integer expected credits"
  throwIf (¬ isPositiveSafeInteger dailyCreditLimit)
    "Supadata daily credit limit must be a positive integer"
  reserveMediaBudget .supadata request expectedCredits dailyCreditLimit tables

/-! ### Calls -/

/-- The daily limits. A reservation under another limit throws. -/
structure MediaBudgetLimits where
  dailyAudioMinutes : ℤ
  dailyCreditLimit : ℤ
  audioMinutes_valid : isPositiveSafeInteger dailyAudioMinutes
  creditLimit_valid : isPositiveSafeInteger dailyCreditLimit

/-- The limit of a provider in its own units. -/
def MediaBudgetLimits.units (limits : MediaBudgetLimits) : MediaProvider → ℚ
  | .hermes => limits.dailyAudioMinutes * 60
  | .supadata => limits.dailyCreditLimit

/-- The calls of the media budgets. -/
inductive MediaBudgetAction where
  | reserveHermes (request : MediaBudgetRequest) (audioSeconds : ℚ)
  | reserveSupadata (request : MediaBudgetRequest) (expectedCredits : ℤ)
  | transition (runId : String) (committed : Bool) (dbNow : ℤ)
  | reconcile (runId : String) (provider : MediaProvider) (actualUnits : ℚ) (dbNow : ℤ)

/-- The tables a call leaves when it does not throw. -/
def MediaBudgetAction.run (limits : MediaBudgetLimits) (tables : XBudgetTables) :
    MediaBudgetAction → Except String XBudgetTables
  | .reserveHermes request audioSeconds =>
    Prod.fst <$> reserveHermesAudioBudget request audioSeconds limits.dailyAudioMinutes tables
  | .reserveSupadata request expectedCredits =>
    Prod.fst <$> reserveSupadataCreditBudget request expectedCredits limits.dailyCreditLimit tables
  | .transition runId committed dbNow =>
    Prod.fst <$> transitionRunBudgets runId committed dbNow tables
  | .reconcile runId provider actualUnits dbNow =>
    Prod.fst <$> reconcileReservedProviderBudget runId provider.scopeKey provider.unitKind
      actualUnits dbNow tables

/-- A call inside its transaction. -/
def mediaBudgetStep (limits : MediaBudgetLimits) (tables : XBudgetTables)
    (action : MediaBudgetAction) : XBudgetTables :=
  commit (action.run limits) tables

end LetletmeData
