import Mathlib.Algebra.Order.Ring.Rat
import Mathlib.Data.List.Induction
import Mathlib.Tactic.Linarith
import LetletmeData.Services.EntryInfo

/-!
# The snapshot checkpoint of an entry

The checkpoint of an entry is the greatest target of its calls. A call validates that its history
covers the events up to the target, and stores the items that have transfers and their cost; it
leaves the others to the fallback. An event up to the checkpoint therefore has a row, or every call
that covered it left it to the fallback.
-/

namespace LetletmeData

open LetletmeData.Library

variable {call : SyncEntryInfoCall} {tables after : EntryTables}

/-! ### One call -/

/-- The first events of a snapshot up to the target. -/
theorem mem_requiredEvents {startedEvent : Option ℚ} {targetEventId : ℚ} (offset : ℕ)
    (hle : max 1 (startedEvent.getD 1) + offset ≤ targetEventId) (htarget : targetEventId ≤ 38) :
    max 1 (startedEvent.getD 1) + offset ∈ requiredEvents startedEvent targetEventId := by
  have hone : (1 : ℚ) ≤ max 1 (startedEvent.getD 1) := le_max_left _ _
  have hoffset : (offset : ℚ) < 38 := by linarith
  refine List.mem_filter.mpr ⟨List.mem_map.mpr ⟨offset, ?_, rfl⟩, by simpa using hle⟩
  exact List.mem_range.mpr (by exact_mod_cast hoffset)

/-- A history that is validated covers every event up to the target. -/
theorem covered_of_validate {startedEvent : Option ℚ} {targetEventId : ℚ}
    {history : List HistoryCurrentItem} {passed : Unit}
    (h : validateEntryHistoryCoverage startedEvent targetEventId history = .ok passed) :
    (IsInteger targetEventId ∧ 0 ≤ targetEventId) ∧
      ∀ event : ℤ, max 1 (startedEvent.getD 1) ≤ event → (event : ℚ) ≤ targetEventId →
        ∃ item ∈ history, item.event = event := by
  unfold validateEntryHistoryCoverage at h
  obtain ⟨htarget, h⟩ := throwIf_bind_eq_ok.mp h
  obtain ⟨hevents, h⟩ := throwIf_bind_eq_ok.mp h
  have hnone := throwIf_eq_ok.mp h
  push Not at htarget hevents
  have hcovered : ∀ event ∈ requiredEvents startedEvent targetEventId,
      event ∈ history.map (·.event) := by
    intro event hevent
    by_contra hmissing
    exact hnone (List.countP_pos_iff.mpr ⟨event, hevent, by simpa using hmissing⟩)
  refine ⟨⟨htarget.1, htarget.2.1⟩, fun event hfirst hle => ?_⟩
  -- the first event is one of the history, so that the events count up from it in integers
  have hfirstMem := hcovered (max 1 (startedEvent.getD 1) + (0 : ℕ)) (mem_requiredEvents 0
    (by simpa using hfirst.trans hle) htarget.2.2)
  have hinteger := (hevents.1 _ hfirstMem).1
  rw [Nat.cast_zero, add_zero] at hinteger
  have hfirstEq := hinteger.num_eq
  rw [← hfirstEq] at hfirst
  have hnonneg : 0 ≤ event - (max 1 (startedEvent.getD 1)).num := by
    have : (max 1 (startedEvent.getD 1)).num ≤ event := by exact_mod_cast hfirst
    omega
  obtain ⟨offset, hoffset⟩ := Int.eq_ofNat_of_zero_le hnonneg
  have heq : max 1 (startedEvent.getD 1) + (offset : ℚ) = event := by
    rw [← hfirstEq]
    have : (max 1 (startedEvent.getD 1)).num + (offset : ℤ) = event := by omega
    exact_mod_cast this
  have hmem := hcovered _ (mem_requiredEvents offset (heq.trans_le hle) htarget.2.2)
  rw [heq] at hmem
  obtain ⟨item, hitem, hevent⟩ := List.mem_map.mp hmem
  exact ⟨item, hitem, hevent⟩

/-- What a call that returns has done. -/
structure EntrySynced (call : SyncEntryInfoCall) (before after : EntryTables) : Prop where
  target : IsInteger call.snapshotTarget
  covered : ∀ event : ℤ, max 1 (call.summary.startedEvent.getD 1) ≤ event →
    (event : ℚ) ≤ call.snapshotTarget → ∃ item ∈ call.history, item.event = event
  results : CoreUpserted call.entryId
    (buildCoreHistoryUpsertPlan
      (call.history.filter fun item => item.event ≤ call.snapshotTarget)).rows
    before.results after.results
  checkpoint : after.checkpoint call.entryId =
    some (max ((before.checkpoint call.entryId).getD 0) call.snapshotTarget.num)
  others : ∀ other, other ≠ call.entryId → after.checkpoint other = before.checkpoint other

/-- The target of a call is reached as an integer. -/
theorem checkpoint_upsertFromSummary {entries written : EntryInfoTable}
    {summary : RawFPLEntrySummary} {lastEventId : Option ℚ} {target : ℚ} (htarget : 0 ≤ target)
    (h : upsertFromSummary entries summary lastEventId (some target) = .ok written) (key : ℤ) :
    (written.find key).bind (·.snapshotSyncedThroughEventId) =
      if key = summary.id.num then
        some (max (((entries.find key).bind (·.snapshotSyncedThroughEventId)).getD 0) target.num)
      else (entries.find key).bind (·.snapshotSyncedThroughEventId) := by
  unfold upsertFromSummary at h
  dsimp only at h
  split at h
  next =>
    obtain rfl := Except.ok.inj h
    rw [KeyedTable.find_insertOrUpdate]
    by_cases hkey : key = summary.id.num
    · subst hkey
      cases hold : entries.find summary.id.num with
      | none =>
        have hnonneg : 0 ≤ target.num := Rat.num_nonneg.mpr htarget
        simp [summaryRow, EntryInfoRow.stored, hnonneg]
      | some old => simp [summaryConflictSet, summaryRow, EntryInfoRow.stored]
    · simp [hkey]
  next => simp at h

/-- A call that returns covers its target, stores what is not left to the fallback and moves the
checkpoint. -/
theorem entrySynced_of_ok (h : syncEntryInfo call tables = .ok after) :
    EntrySynced call tables after := by
  unfold syncEntryInfo at h
  obtain ⟨hid, h⟩ := throwIf_bind_eq_ok.mp h
  obtain ⟨passed, hvalidate, h⟩ := bind_eq_ok.mp h
  obtain ⟨htarget, hcovered⟩ := covered_of_validate (mapError_eq_ok.mp hvalidate)
  have hwritten := mapError_eq_ok.mp h
  unfold writeEntrySnapshot at hwritten
  obtain ⟨_, -, hwritten⟩ := bind_eq_ok.mp hwritten
  obtain ⟨entries, hentries, hwritten⟩ := bind_eq_ok.mp hwritten
  obtain ⟨_, -, hwritten⟩ := bind_eq_ok.mp hwritten
  obtain ⟨_, -, hwritten⟩ := bind_eq_ok.mp hwritten
  obtain ⟨results, hresults, hwritten⟩ := bind_eq_ok.mp hwritten
  obtain rfl := Except.ok.inj hwritten
  have hcheckpoint := checkpoint_upsertFromSummary htarget.2 hentries
  have hentry : call.summary.id.num = call.entryId := by
    rw [not_not.mp hid]
    exact Rat.num_intCast _
  rw [hentry] at hcheckpoint
  constructor
  · exact htarget.1
  · exact hcovered
  · exact coreUpserted_of_upsertCoreFromHistory hresults
  · exact (hcheckpoint call.entryId).trans (if_pos rfl)
  · intro other hother
    exact (hcheckpoint other).trans (if_neg hother)

/-- The call leaves the event to the fallback: its item has no transfers or no cost. -/
def SyncEntryInfoCall.LeavesToFallback (call : SyncEntryInfoCall) (event : ℤ) : Prop :=
  ∃ item ∈ call.history, item.event = event ∧
    (item.eventTransfers = none ∨ item.eventTransfersCost = none)

/-- A row of the entry for the event is stored. -/
def EntryTables.HasResult (tables : EntryTables) (entryId event : ℤ) : Prop :=
  ∃ row, tables.results.find (entryId, event) = some row

/-- Rows stay. -/
theorem EntrySynced.hasResult (h : EntrySynced call tables after) {entryId event : ℤ}
    (hresult : tables.HasResult entryId event) : after.HasResult entryId event := by
  obtain ⟨row, hrow⟩ := hresult
  by_cases hkey : entryId = call.entryId ∧ event ∈ (buildCoreHistoryUpsertPlan
      (call.history.filter fun item => item.event ≤ call.snapshotTarget)).rows.map Prod.fst
  · obtain ⟨rfl, hevent⟩ := hkey
    obtain ⟨_, written, _, _, hwritten, _⟩ := h.results.written event hevent
    exact ⟨written, hwritten⟩
  · exact ⟨row, (h.results.kept (entryId, event) hkey).trans hrow⟩

/-- An event up to the target is stored or left to the fallback. -/
theorem EntrySynced.stored_or_left (h : EntrySynced call tables after) {event : ℤ}
    (hfirst : max 1 (call.summary.startedEvent.getD 1) ≤ event)
    (hle : (event : ℚ) ≤ call.snapshotTarget) :
    after.HasResult call.entryId event ∨ call.LeavesToFallback event := by
  obtain ⟨item, hitem, hevent⟩ := h.covered event hfirst hle
  by_cases hleft : item.eventTransfers = none ∨ item.eventTransfersCost = none
  · exact Or.inr ⟨item, hitem, hevent, hleft⟩
  · left
    rw [not_or, ← ne_eq, ← ne_eq, Option.ne_none_iff_isSome, Option.ne_none_iff_isSome] at hleft
    have hinteger : IsInteger item.event := by
      rw [hevent]
      exact Rat.den_intCast event
    have hcore : item.coreRow.isSome := HistoryCurrentItem.coreRow_isSome.mpr ⟨hinteger, hleft⟩
    obtain ⟨⟨event', values⟩, hrow⟩ := Option.isSome_iff_exists.mp hcore
    obtain rfl : event' = event := by
      rw [(HistoryCurrentItem.coreRow_eq_some hrow).2.1, hevent]
      exact Rat.num_intCast event
    have hmem : event' ∈ (buildCoreHistoryUpsertPlan
        (call.history.filter fun item => item.event ≤ call.snapshotTarget)).rows.map Prod.fst := by
      refine List.mem_map.mpr ⟨(event', values), List.mem_filterMap.mpr ⟨item, ?_, hrow⟩, rfl⟩
      exact List.mem_filter.mpr ⟨hitem, by simpa [hevent] using hle⟩
    obtain ⟨_, written, _, _, hwritten, _⟩ := h.results.written event' hmem
    exact ⟨written, hwritten⟩

/-! ### Runs of calls -/

namespace EntryTables

/-- The checkpoint of no entry decreases. -/
def CheckpointKept (tables : EntryTables) (call : SyncEntryInfoCall) : Prop :=
  ∀ entryId, ∀ through ∈ tables.checkpoint entryId,
    ∃ later ∈ (tables.step call).checkpoint entryId, through ≤ later

/-- A call that throws changes nothing. -/
def UnchangedIfThrown (tables : EntryTables) (call : SyncEntryInfoCall) : Prop :=
  (∃ error, syncEntryInfo call tables = .error error) → tables.step call = tables

/-- A call that returns and covers an event of the entry leaves it to the fallback. -/
def LeftToFallback (entryId event : ℤ) (tables : EntryTables) (call : SyncEntryInfoCall) : Prop :=
  (∃ after, syncEntryInfo call tables = .ok after) → call.entryId = entryId →
    (event : ℚ) ≤ call.snapshotTarget → call.LeavesToFallback event

/-- A step is a call that returned, or changes nothing. -/
theorem step_cases (tables : EntryTables) (call : SyncEntryInfoCall) :
    (∃ error, syncEntryInfo call tables = .error error ∧ tables.step call = tables) ∨
      (syncEntryInfo call tables = .ok (tables.step call) ∧
        EntrySynced call tables (tables.step call)) := by
  cases h : syncEntryInfo call tables with
  | error error => exact Or.inl ⟨error, rfl, commit_of_error h⟩
  | ok after =>
    have hstep : tables.step call = after := commit_of_ok h
    rw [hstep]
    exact Or.inr ⟨rfl, entrySynced_of_ok h⟩

/-- Checkpoints are maxima. -/
theorem checkpointKept (tables : EntryTables) (call : SyncEntryInfoCall) :
    CheckpointKept tables call := by
  intro entryId through hthrough
  rcases step_cases tables call with hthrown | hreturned
  · obtain ⟨_, _, hsame⟩ := hthrown
    rw [hsame]
    exact ⟨through, hthrough, le_rfl⟩
  · by_cases hentry : entryId = call.entryId
    · subst hentry
      refine ⟨_, hreturned.2.checkpoint, ?_⟩
      rw [Option.mem_def.mp hthrough]
      exact le_max_left _ _
    · rw [hreturned.2.others entryId hentry]
      exact ⟨through, hthrough, le_rfl⟩

variable {initial : EntryTables} {entryId : ℤ} {startedEvent : Option ℚ}

/-- Every event from the first one on is stored, or every call that covered it left it to the
fallback. -/
theorem hasResult_or_left {calls : List SyncEntryInfoCall}
    (hfixed : ∀ call ∈ calls, call.entryId = entryId → call.summary.startedEvent = startedEvent)
    {event : ℤ} (hfirst : max 1 (startedEvent.getD 1) ≤ event) :
    (runSteps step initial calls).HasResult entryId event ∨
      EveryStep step (LeftToFallback entryId event) initial calls := by
  induction calls using List.reverseRecOn with
  | nil => exact Or.inr trivial
  | append_singleton calls call ih =>
    rw [runSteps_append, everyStep_append]
    set tables := runSteps step initial calls
    change (tables.step call).HasResult entryId event ∨ _
    rcases ih fun other hother => hfixed other (List.mem_append_left _ hother) with hresult | hleft
    · left
      rcases step_cases tables call with hthrown | hreturned
      · obtain ⟨_, _, hsame⟩ := hthrown
        rw [hsame]
        exact hresult
      · exact hreturned.2.hasResult hresult
    · rcases step_cases tables call with hthrown | hreturned
      · obtain ⟨_, herror, _⟩ := hthrown
        refine Or.inr ⟨hleft, ?_, trivial⟩
        rintro ⟨_, hok⟩
        exact absurd (hok.symm.trans herror) (by simp)
      · by_cases hcovers : call.entryId = entryId ∧ (event : ℚ) ≤ call.snapshotTarget
        · obtain ⟨rfl, hle⟩ := hcovers
          rw [← hfixed call (by simp) rfl] at hfirst
          rcases hreturned.2.stored_or_left hfirst hle with hstored | hleaves
          · exact Or.inl hstored
          · exact Or.inr ⟨hleft, fun _ _ _ => hleaves, trivial⟩
        · exact Or.inr ⟨hleft, fun _ hentry hle => absurd ⟨hentry, hle⟩ hcovers, trivial⟩

/-- A call covered every event up to the checkpoint, so that it is stored or was left to the
fallback by that call. -/
theorem hasResult_or_exists_left {calls : List SyncEntryInfoCall}
    (hnew : initial.checkpoint entryId = none)
    (hfixed : ∀ call ∈ calls, call.entryId = entryId → call.summary.startedEvent = startedEvent)
    {event : ℤ} (hfirst : max 1 (startedEvent.getD 1) ≤ event) {through : ℤ}
    (hthrough : through ∈ (runSteps step initial calls).checkpoint entryId)
    (hle : event ≤ through) :
    (runSteps step initial calls).HasResult entryId event ∨
      ∃ call ∈ calls, call.entryId = entryId ∧ (event : ℚ) ≤ call.snapshotTarget ∧
        call.LeavesToFallback event := by
  induction calls using List.reverseRecOn generalizing through with
  | nil => exact absurd hthrough (by simp [hnew])
  | append_singleton calls call ih =>
    have hearlier := @ih fun other hother => hfixed other (List.mem_append_left _ hother)
    rw [runSteps_append] at hthrough ⊢
    set tables := runSteps step initial calls
    change (tables.step call).HasResult entryId event ∨ _
    change through ∈ (tables.step call).checkpoint entryId at hthrough
    -- what was stored or left before the last call still is
    have hkept : (∃ before, before ∈ tables.checkpoint entryId ∧ event ≤ before) →
        (tables.HasResult entryId event → (tables.step call).HasResult entryId event) →
        (tables.step call).HasResult entryId event ∨ ∃ other ∈ calls ++ [call],
          other.entryId = entryId ∧ (event : ℚ) ≤ other.snapshotTarget ∧
            other.LeavesToFallback event := by
      rintro ⟨before, hbefore, hbound⟩ hresult
      rcases hearlier hbefore hbound with hstored | hleft
      · exact Or.inl (hresult hstored)
      · obtain ⟨other, hother, hleaves⟩ := hleft
        exact Or.inr ⟨other, List.mem_append_left _ hother, hleaves⟩
    rcases step_cases tables call with hthrown | hreturned
    · obtain ⟨_, _, hsame⟩ := hthrown
      rw [hsame] at hthrough
      refine hkept ⟨through, hthrough, hle⟩ fun hstored => ?_
      rw [hsame]
      exact hstored
    · have hsynced := hreturned.2
      by_cases hentry : entryId = call.entryId
      · subst hentry
        rw [hsynced.checkpoint] at hthrough
        obtain rfl := Option.some.inj (Option.mem_def.mp hthrough)
        by_cases htarget : event ≤ call.snapshotTarget.num
        · have hcovers : (event : ℚ) ≤ call.snapshotTarget := by
            rw [← hsynced.target.num_eq]
            exact_mod_cast htarget
          rw [← hfixed call (by simp) rfl] at hfirst
          rcases hsynced.stored_or_left hfirst hcovers with hstored | hleaves
          · exact Or.inl hstored
          · exact Or.inr ⟨call, by simp, rfl, hcovers, hleaves⟩
        · have hold : event ≤ (tables.checkpoint call.entryId).getD 0 :=
            (le_max_iff.mp hle).resolve_right htarget
          refine hkept ?_ hsynced.hasResult
          cases hbefore : tables.checkpoint call.entryId with
          | none =>
            have hone : (1 : ℚ) ≤ event := (le_max_left _ _).trans hfirst
            rw [hbefore, Option.getD_none] at hold
            have hzero : (event : ℚ) ≤ 0 := by exact_mod_cast hold
            linarith
          | some before =>
            rw [hbefore, Option.getD_some] at hold
            exact ⟨before, rfl, hold⟩
      · rw [hsynced.others entryId hentry] at hthrough
        exact hkept ⟨through, hthrough, hle⟩ hsynced.hasResult

/-- Before the first call for any entry. -/
def unsynced (results : EntryResultTable) : EntryTables := { entries := .empty, results := results }

/-- A call for entry 7, which has started with event 1. -/
def firstEventCall (cost : Option ℚ) : SyncEntryInfoCall where
  entryId := 7
  targetEventId := some 1
  summary :=
    { id := 7, name := "Team", playerFirstName := "First", playerLastName := "Last"
      playerRegionName := none, startedEvent := some 1, summaryOverallPoints := none
      summaryOverallRank := none, bank := none, value := none, lastDeadlineTotalTransfers := none
      lastDeadlineBank := none, lastDeadlineValue := none }
  history :=
    [{ event := 1, points := 50, totalPoints := 50, rank := none, overallRank := none, bank := none
       value := none, eventTransfers := some 0, eventTransfersCost := cost
       pointsOnBench := none }]
  currentEventId := some 2
  latestFinalizedEventId := some 1
  known := fun _ _ => true
  fault := fun _ => none

end EntryTables

end LetletmeData
