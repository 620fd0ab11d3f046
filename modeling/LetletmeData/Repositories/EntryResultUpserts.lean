import LetletmeData.Repositories.EntryResultRows

/-!
# What the writers of event results leave behind

A history writes the scores of its items and keeps when a row was last written from picks. A
baseline only fills a gap. Picks replace a whole row, unless it is from later picks.
-/

namespace LetletmeData

open LetletmeData.Library

/-- The score columns of a stored row. -/
structure ScoreFields where
  eventPoints : ℤ
  eventTransfers : ℤ
  eventTransfersCost : ℤ
  eventNetPoints : ℤ
  overallPoints : ℤ
  deriving DecidableEq

/-- The scores of a row. -/
def EntryResultRow.scores (row : EntryResultRow ℤ) : ScoreFields where
  eventPoints := row.eventPoints
  eventTransfers := row.eventTransfers
  eventTransfersCost := row.eventTransfersCost
  eventNetPoints := row.eventNetPoints
  overallPoints := row.overallPoints

variable {known : KnownReferences} {before after : EntryResultTable}

/-! ### One row -/

/-- What an insertion does when no constraint refuses it. -/
theorem insertResult_eq_ok
    {onConflict : EntryResultRow ℤ → EntryResultRow ℤ → EntryResultRow ℤ} {key : ℤ × ℤ}
    {values : EntryResultRow ℚ} (h : insertResult known onConflict before key values = .ok after) :
    values.Storable key ∧ ∀ other, after.find other =
      if other = key then
        some ((before.find key).elim values.stored fun old => onConflict old values.stored)
      else before.find other := by
  unfold insertResult at h
  split at h
  next hstorable =>
    obtain rfl := Except.ok.inj h
    exact ⟨hstorable.1, fun other => KeyedTable.find_insertOrUpdate _ other⟩
  next => simp at h

/-- The scores that are stored are the numbers that were sent. -/
theorem EntryResultRow.Storable.scores {key : ℤ × ℤ} {row : EntryResultRow ℚ}
    (h : row.Storable key) :
    (row.stored.scores.eventPoints : ℚ) = row.eventPoints ∧
      (row.stored.scores.eventTransfers : ℚ) = row.eventTransfers ∧
      (row.stored.scores.eventTransfersCost : ℚ) = row.eventTransfersCost ∧
      (row.stored.scores.eventNetPoints : ℚ) = row.eventNetPoints ∧
      (row.stored.scores.overallPoints : ℚ) = row.overallPoints := by
  have hinteger : ∀ number ∈ row.numbers, ((number.num : ℤ) : ℚ) = number :=
    fun number hnumber => (h.2.1 number hnumber).1.num_eq
  refine ⟨hinteger _ ?_, hinteger _ ?_, hinteger _ ?_, hinteger _ ?_, hinteger _ ?_⟩ <;>
    simp [EntryResultRow.numbers]

/-! ### From the history of an entry -/

/-- The columns of an item that has both transfers and their cost. -/
theorem HistoryCurrentItem.coreRow_eq_some {item : HistoryCurrentItem} {event : ℤ}
    {values : EntryResultRow ℚ} (h : item.coreRow = some (event, values)) :
    IsInteger item.event ∧ event = item.event.num ∧
      item.eventTransfers = some values.eventTransfers ∧
      item.eventTransfersCost = some values.eventTransfersCost ∧
      values.eventPoints = item.points ∧ values.overallPoints = item.totalPoints ∧
      values.eventNetPoints = values.eventPoints - values.eventTransfersCost ∧
      values.richSyncedAt = none := by
  unfold HistoryCurrentItem.coreRow at h
  cases htransfers : item.eventTransfers with
  | none => simp [htransfers] at h
  | some transfers =>
    cases hcost : item.eventTransfersCost with
    | none => simp [htransfers, hcost] at h
    | some cost =>
      by_cases hinteger : IsInteger item.event
      · simp only [htransfers, hcost, Option.bind_eq_bind, Option.bind_some, hinteger, guard_true,
          Option.pure_def, Option.some.injEq, Prod.mk.injEq] at h
        obtain ⟨rfl, rfl⟩ := h
        simp [hinteger]
      · simp [htransfers, hcost, hinteger] at h

/-- An item without transfers or their cost is left to the fallback, every other is written. -/
theorem HistoryCurrentItem.coreRow_isSome {item : HistoryCurrentItem} :
    item.coreRow.isSome = true ↔ IsInteger item.event ∧ item.eventTransfers.isSome = true ∧
      item.eventTransfersCost.isSome = true := by
  unfold HistoryCurrentItem.coreRow
  cases item.eventTransfers <;> cases item.eventTransfersCost <;>
    by_cases hinteger : IsInteger item.event <;> simp [hinteger]

/-- The first batches are the first rows. -/
theorem flatten_batches (rows : List (ℤ × EntryResultRow ℚ)) (batches : ℕ) :
    ((List.range batches).map fun batch =>
      (rows.drop (batch * coreHistoryBatchSize)).take coreHistoryBatchSize).flatten =
      rows.take (batches * coreHistoryBatchSize) := by
  induction batches with
  | zero => simp
  | succ batches ih =>
    rw [List.range_succ, List.map_append, List.flatten_append, ih, Nat.succ_mul, List.take_add]
    simp

/-- The batches together are the rows. -/
theorem flatten_chunkCoreHistoryRows (rows : List (ℤ × EntryResultRow ℚ)) :
    (chunkCoreHistoryRows rows).flatten = rows := by
  rw [chunkCoreHistoryRows, flatten_batches]
  refine List.take_of_length_le ?_
  have hsize : 0 < coreHistoryBatchSize := by decide
  have hbound := Nat.div_add_mod (rows.length + (coreHistoryBatchSize - 1)) coreHistoryBatchSize
  have hrest := Nat.mod_lt (rows.length + (coreHistoryBatchSize - 1)) hsize
  rw [Nat.mul_comm] at hbound
  omega

/-- What upserting rows of an entry leaves behind: the scores of a row that was sent, with the time
of the picks as it was. -/
structure CoreUpserted (entryId : ℤ) (rows : List (ℤ × EntryResultRow ℚ))
    (before after : EntryResultTable) : Prop where
  kept : ∀ key, ¬ (key.1 = entryId ∧ key.2 ∈ rows.map Prod.fst) → after.find key = before.find key
  written : ∀ event ∈ rows.map Prod.fst, ∃ values row, (event, values) ∈ rows ∧
    values.Storable (entryId, event) ∧ after.find (entryId, event) = some row ∧
    row.scores = values.stored.scores ∧
    row.richSyncedAt = (before.find (entryId, event)).bind (·.richSyncedAt)

/-- Without rows nothing is written. -/
theorem CoreUpserted.refl (entryId : ℤ) (table : EntryResultTable) :
    CoreUpserted entryId [] table table :=
  ⟨fun _ _ => rfl, by simp⟩

/-- One row. -/
theorem CoreUpserted.insertResult {entryId : ℤ} {row : ℤ × EntryResultRow ℚ}
    (hcore : row.2.richSyncedAt = none)
    (h : insertResult known coreHistoryConflictSet before (entryId, row.1) row.2 = .ok after) :
    CoreUpserted entryId [row] before after := by
  obtain ⟨hstorable, hfind⟩ := insertResult_eq_ok h
  constructor
  · intro key hkey
    rw [hfind, if_neg]
    rintro rfl
    exact hkey ⟨rfl, by simp⟩
  · intro event hevent
    obtain rfl : event = row.1 := by simpa using hevent
    have hself := hfind (entryId, row.1)
    rw [if_pos rfl] at hself
    refine ⟨row.2, _, List.mem_singleton_self _, hstorable, hself, ?_, ?_⟩
    · cases before.find (entryId, row.1) <;> rfl
    · cases before.find (entryId, row.1) with
      | none => exact hcore
      | some old => rfl

/-- Rows after rows. -/
theorem CoreUpserted.append {entryId : ℤ} {first second : List (ℤ × EntryResultRow ℚ)}
    {middle : EntryResultTable} (hfirst : CoreUpserted entryId first before middle)
    (hsecond : CoreUpserted entryId second middle after) :
    CoreUpserted entryId (first ++ second) before after := by
  -- the time of the picks is what it was before the first rows, whether they touch the event or not
  have hrich : ∀ event, (middle.find (entryId, event)).bind (·.richSyncedAt) =
      (before.find (entryId, event)).bind (·.richSyncedAt) := by
    intro event
    by_cases hevent : event ∈ first.map Prod.fst
    · obtain ⟨_, row, _, _, hrow, _, hkept⟩ := hfirst.written event hevent
      rw [hrow]
      exact hkept
    · rw [hfirst.kept _ fun hkey => hevent hkey.2]
  constructor
  · intro key hkey
    rw [List.map_append, List.mem_append] at hkey
    rw [hsecond.kept key fun h => hkey ⟨h.1, Or.inr h.2⟩,
      hfirst.kept key fun h => hkey ⟨h.1, Or.inl h.2⟩]
  · intro event hevent
    by_cases hlater : event ∈ second.map Prod.fst
    · obtain ⟨values, row, hvalues, hstorable, hrow, hscores, hkept⟩ :=
        hsecond.written event hlater
      exact ⟨values, row, List.mem_append_right _ hvalues, hstorable, hrow, hscores,
        hkept.trans (hrich event)⟩
    · rw [List.map_append, List.mem_append] at hevent
      obtain ⟨values, row, hvalues, hstorable, hrow, hscores, hkept⟩ :=
        hfirst.written event (hevent.resolve_right hlater)
      refine ⟨values, row, List.mem_append_left _ hvalues, hstorable, ?_, hscores, hkept⟩
      rw [hsecond.kept _ fun hkey => hlater hkey.2]
      exact hrow

/-- One batch. -/
theorem CoreUpserted.insertCoreBatch {entryId : ℤ} {batch : List (ℤ × EntryResultRow ℚ)}
    (hcore : ∀ row ∈ batch, row.2.richSyncedAt = none)
    (h : insertCoreBatch known entryId before batch = .ok after) :
    CoreUpserted entryId batch before after := by
  unfold LetletmeData.insertCoreBatch at h
  split at h
  next =>
    refine foldlM_induction (fun rows first last =>
      (∀ row ∈ rows, row.2.richSyncedAt = none) → CoreUpserted entryId rows first last)
      (fun table _ => CoreUpserted.refl entryId table) ?_ h hcore
    intro first next last row rest hrow hrest hrows
    exact (CoreUpserted.insertResult (hrows row List.mem_cons_self) hrow).append
      (hrest fun other hother => hrows other (List.mem_cons_of_mem row hother))
  next => simp at h

/-- The rows of a plan are not from picks. -/
theorem richSyncedAt_of_mem_plan {history : List HistoryCurrentItem} :
    ∀ row ∈ (buildCoreHistoryUpsertPlan history).rows, row.2.richSyncedAt = none := by
  intro row hrow
  obtain ⟨item, _, hitem⟩ := List.mem_filterMap.mp hrow
  exact (HistoryCurrentItem.coreRow_eq_some hitem).2.2.2.2.2.2.2

/-- A whole history. -/
theorem coreUpserted_of_upsertCoreFromHistory {entryId : ℤ} {history : List HistoryCurrentItem}
    (h : upsertCoreFromHistory known before entryId history = .ok after) :
    CoreUpserted entryId (buildCoreHistoryUpsertPlan history).rows before after := by
  rw [upsertCoreFromHistory, asDatabaseError_eq_ok] at h
  have hrows := flatten_chunkCoreHistoryRows (buildCoreHistoryUpsertPlan history).rows
  rw [← hrows]
  have hcore : ∀ row ∈ (chunkCoreHistoryRows (buildCoreHistoryUpsertPlan history).rows).flatten,
      row.2.richSyncedAt = none := by
    rw [hrows]
    exact richSyncedAt_of_mem_plan
  refine foldlM_induction (fun batches first last =>
    (∀ row ∈ batches.flatten, row.2.richSyncedAt = none) →
      CoreUpserted entryId batches.flatten first last)
    (fun table _ => CoreUpserted.refl entryId table) ?_ h hcore
  intro first next last batch rest hbatch hrest hall
  rw [List.flatten_cons] at hall ⊢
  exact (CoreUpserted.insertCoreBatch (fun row hrow => hall row (List.mem_append_left _ hrow))
    hbatch).append (hrest fun row hrow => hall row (List.mem_append_right _ hrow))

/-! ### Baselines -/

/-- What seeding leaves behind: every row that was there, and baselines under other keys. -/
structure BaselinesSeeded (before after : EntryResultTable) : Prop where
  kept : ∀ key row, before.find key = some row → after.find key = some row
  added : ∀ key row, after.find key = some row →
    before.find key = some row ∨ row = preEntryBaseline.stored

/-- A seed adds baselines. -/
theorem baselinesSeeded_of_seedPreEntryBaselines {units : List PreEntryBaselineUnit}
    (h : seedPreEntryBaselines known before units = .ok after) :
    BaselinesSeeded before after := by
  rw [seedPreEntryBaselines, asDatabaseError_eq_ok] at h
  refine foldlM_induction (fun _ first last => BaselinesSeeded first last)
    (fun table => ⟨fun _ _ hrow => hrow, fun _ _ hrow => Or.inl hrow⟩) ?_ h
  intro first next last unit rest hunit hrest
  obtain ⟨_, hfind⟩ := insertResult_eq_ok hunit
  constructor
  · intro key row hrow
    refine hrest.kept key row ?_
    rw [hfind]
    split
    next hkey =>
      rw [← hkey, hrow]
      rfl
    next => exact hrow
  · intro key row hrow
    rcases hrest.added key row hrow with hnext | hbaseline
    · rw [hfind] at hnext
      split at hnext
      next hkey =>
        rw [← hkey] at hnext
        cases hold : first.find key with
        | none =>
          rw [hold] at hnext
          exact Or.inr (Option.some.inj hnext).symm
        | some old =>
          rw [hold] at hnext
          exact Or.inl hnext
      next => exact Or.inl hnext
    · exact Or.inr hbaseline

/-! ### From picks and live points -/

/-- The write from picks changes the row: there is none, or one from earlier picks. -/
def RichWrites (table : EntryResultTable) (key : ℤ × ℤ) (richSyncedAt : Timestamp) : Prop :=
  ∀ old ∈ table.find key, RichUpdates old richSyncedAt

instance (table : EntryResultTable) (key : ℤ × ℤ) (richSyncedAt : Timestamp) :
    Decidable (RichWrites table key richSyncedAt) :=
  inferInstanceAs (Decidable (∀ old ∈ table.find key, _))

/-- What a write from picks leaves behind. -/
theorem upsertFromPicksAndLive_eq_ok {entryId eventId : ℤ} {picks : PicksResponse}
    {live : EventPointsPayload} {richSyncedAt : Timestamp}
    (h : upsertFromPicksAndLive known before entryId eventId picks live richSyncedAt = .ok after) :
    IsEntryPicksPayloadForEvent picks eventId ∧
      (richRow picks live richSyncedAt).Storable (entryId, eventId) ∧
      ∀ key, after.find key =
        if key = (entryId, eventId) ∧ RichWrites before (entryId, eventId) richSyncedAt then
          some (richRow picks live richSyncedAt).stored
        else before.find key := by
  unfold upsertFromPicksAndLive at h
  obtain ⟨hevent, h⟩ := throwIf_bind_eq_ok.mp h
  obtain ⟨-, h⟩ := throwIf_bind_eq_ok.mp h
  obtain ⟨-, h⟩ := throwIf_bind_eq_ok.mp h
  obtain ⟨-, h⟩ := throwIf_bind_eq_ok.mp h
  obtain ⟨hstorable, hfind⟩ := insertResult_eq_ok (asDatabaseError_eq_ok.mp h)
  refine ⟨not_not.mp hevent, hstorable, fun key => ?_⟩
  rw [hfind]
  by_cases hkey : key = (entryId, eventId)
  · subst hkey
    cases hold : before.find (entryId, eventId) with
    | none => simp [RichWrites, hold]
    | some old =>
      by_cases hupdates : RichUpdates old richSyncedAt <;> simp [RichWrites, hold, hupdates]
  · simp [hkey]

end LetletmeData
