import LetletmeData.Repositories.EntryEventTransfers

/-!
# A transfer history follows its newest source

A call is accepted only with a source time later than the stored one, and stores it, so accepted
times increase. An accepted call leaves exactly the transfers it was given. What was computed for
a transfer before is kept, unless the call itself brings a value.
-/

namespace LetletmeData

open LetletmeData.Library

variable {Data : Type} {parseDate : String → Option ℤ}

/-- An accepted call: the source is newer than the stored one, and the rows of its history take
the place of those of the entry. -/
structure ReplacesHistory (parseDate : String → Option ℤ) (database : TransferDatabase Data)
    (call : ReplaceForEvent Data) (after : TransferDatabase Data) (sourceCheckedAt : ℤ)
    (stored : TransferCheckpoint) (rows : List EntryEventTransfer) : Prop where
  source : call.sourceTime parseDate = some sourceCheckedAt
  found : database.entries.find call.entry = some stored
  newer : ∀ winner ∈ stored.transfersSourceCheckedAt, winner < sourceCheckedAt
  built : buildTransferReplacementRows parseDate call (database.transfers.ofEntry call.entry) =
    .ok rows
  entries : after.entries = database.entries.updateWhere (fun key _ => key = call.entry)
    (call.checkpointed sourceCheckedAt)
  transfers : after.transfers.rows =
    (database.transfers.deleteEntry call.entry).rows ++ rows

/-- What the insertion of rows leaves. -/
theorem insertTransfers_eq_ok {known : EntryEventTransfer → Bool}
    {table after : EntryEventTransfers} {rows : List EntryEventTransfer}
    (h : insertTransfers known table rows = .ok after) : after.rows = table.rows ++ rows := by
  unfold insertTransfers at h
  rw [throwIf_bind_eq_ok] at h
  obtain ⟨-, h⟩ := h
  split at h
  · rw [← Except.ok.inj h]
  · cases h

/-- A call that returns was refused as stale and changed nothing, or replaced the history. -/
theorem replaceForEvent_eq_ok {database after : TransferDatabase Data}
    {call : ReplaceForEvent Data} {accepted : Bool}
    (h : replaceForEvent parseDate database call = .ok (after, accepted)) :
    (accepted = false ∧ after = database) ∨
      (accepted = true ∧ ∃ sourceCheckedAt stored rows,
        ReplacesHistory parseDate database call after sourceCheckedAt stored rows) := by
  unfold replaceForEvent at h
  rw [throwIf_bind_eq_ok] at h
  obtain ⟨-, h⟩ := h
  rw [orThrow_bind_eq_ok] at h
  obtain ⟨sourceCheckedAt, hsource, h⟩ := h
  rw [orThrow_bind_eq_ok] at h
  obtain ⟨stored, hfound, h⟩ := h
  split at h
  · left
    have heq := Prod.mk.inj (Except.ok.inj h)
    exact ⟨heq.2.symm, heq.1.symm⟩
  · rename_i hnewer
    right
    obtain ⟨data, hdata, h⟩ := bind_eq_ok.mp h
    obtain ⟨rows, hrows, h⟩ := bind_eq_ok.mp h
    obtain ⟨transfers, htransfers, h⟩ := bind_eq_ok.mp h
    rw [throwIf_bind_eq_ok] at h
    obtain ⟨-, h⟩ := h
    obtain ⟨-, -, h⟩ := bind_eq_ok.mp h
    have heq := Prod.mk.inj (Except.ok.inj h)
    refine ⟨heq.2.symm, sourceCheckedAt, stored, rows, ?_⟩
    rw [← heq.1]
    exact
      { source := hsource
        found := hfound
        newer := fun winner hwinner => not_le.mp fun hle => hnewer ⟨winner, hwinner, hle⟩
        built := hrows
        entries := rfl
        transfers := insertTransfers_eq_ok htransfers }

/-- A call that is not accepted changes nothing. -/
theorem replaceForEventStep_of_not_accepted {database : TransferDatabase Data}
    {call : ReplaceForEvent Data} (h : call.accepted parseDate database = false) :
    replaceForEventStep parseDate database call = database := by
  unfold replaceForEventStep
  split
  · rename_i after accepted hok
    simp only [ReplaceForEvent.accepted, hok] at h
    rw [h] at hok
    cases replaceForEvent_eq_ok hok with
    | inl hstale => exact hstale.2
    | inr hreplaced => exact absurd hreplaced.1 (by decide)
  · rfl

/-- A call that is accepted replaces the history. -/
theorem replaceForEventStep_of_accepted {database : TransferDatabase Data}
    {call : ReplaceForEvent Data} (h : call.accepted parseDate database = true) :
    ∃ sourceCheckedAt stored rows, ReplacesHistory parseDate database call
      (replaceForEventStep parseDate database call) sourceCheckedAt stored rows := by
  unfold replaceForEventStep
  split
  · rename_i after accepted hok
    simp only [ReplaceForEvent.accepted, hok] at h
    rw [h] at hok
    cases replaceForEvent_eq_ok hok with
    | inl hstale => exact absurd hstale.1 (by decide)
    | inr hreplaced => exact hreplaced.2
  · rename_i error herror
    simp [ReplaceForEvent.accepted, herror] at h

/-- What a source reports of a transfer: its signature and the two prices. -/
def RawFPLEntryTransfer.facts (parseDate : String → Option ℤ) (transfer : RawFPLEntryTransfer) :
    Option (TransferSignature × Option ℤ × Option ℤ) :=
  (parseDate transfer.time).map fun transferTime =>
    (transfer.signatureAt transferTime, some transfer.elementInCost, some transfer.elementOutCost)

/-- What is stored of it. -/
def EntryEventTransfer.facts (row : EntryEventTransfer) :
    TransferSignature × Option ℤ × Option ℤ :=
  (row.signature, row.elementInCost, row.elementOutCost)

/-- The computed values of a transfer: those that were recorded stay, unless the call brings a
value for the reported transfer. -/
structure ComputedKept (call : ReplaceForEvent Data) (transfer : RawFPLEntryTransfer)
    (before after : EntryEventTransfer) : Prop where
  inPoints : ∀ points ∈ before.elementInPoints,
    after.elementInPoints = some ((call.inPoints transfer).getD points)
  outPoints : ∀ points ∈ before.elementOutPoints,
    after.elementOutPoints = some ((call.outPoints transfer).getD points)
  played : ∀ played ∈ before.elementInPlayed,
    after.elementInPlayed = some ((call.played transfer).getD played)

section Rows

variable {call : ReplaceForEvent Data} {existing rows : List EntryEventTransfer}
  {transfer : RawFPLEntryTransfer} {row : EntryEventTransfer}

/-- A row has the facts of its transfer and belongs to the entry of the call. -/
theorem transferReplacementRow_eq_ok
    (h : transferReplacementRow parseDate call existing transfer = .ok row) :
    transfer.facts parseDate = some row.facts ∧ row.entry = call.entry := by
  unfold transferReplacementRow at h
  rw [orThrow_bind_eq_ok] at h
  obtain ⟨transferTime, htime, h⟩ := h
  rw [← Except.ok.inj h]
  exact ⟨by simp only [RawFPLEntryTransfer.facts, htime]; rfl, rfl⟩

/-- The history of an entry holds one row of a signature, which is the one that is found. -/
theorem find?_signature (hunique : (existing.map (·.signature)).Nodup)
    {before : EntryEventTransfer} (hbefore : before ∈ existing) :
    existing.reverse.find? (fun row => row.signature = before.signature) = some before := by
  cases hfind : existing.reverse.find? fun row => row.signature = before.signature with
  | none =>
    have hnone := List.find?_eq_none.mp hfind before (List.mem_reverse.mpr hbefore)
    simp at hnone
  | some found =>
    have hmem := List.mem_reverse.mp (List.mem_of_find?_eq_some hfind)
    have hsignature := List.find?_some hfind
    rw [List.inj_on_of_nodup_map hunique hmem hbefore (by simpa using hsignature)]

/-- A recorded value gives way only to one that is brought. -/
theorem or_bind_or_eq {Value : Type} {brought default : Option Value} {value : Value} :
    (brought.or (some value)).or default = some (brought.getD value) := by
  cases brought <;> rfl

/-- A row keeps what was computed for the existing one with its signature. -/
theorem transferReplacementRow_kept (hunique : (existing.map (·.signature)).Nodup)
    (h : transferReplacementRow parseDate call existing transfer = .ok row)
    {before : EntryEventTransfer} (hbefore : before ∈ existing)
    (hsignature : row.signature = before.signature) :
    ComputedKept call transfer before row := by
  unfold transferReplacementRow at h
  rw [orThrow_bind_eq_ok] at h
  obtain ⟨transferTime, htime, h⟩ := h
  obtain rfl := Except.ok.inj h
  have hfind := find?_signature hunique hbefore
  have hat : transfer.signatureAt transferTime = before.signature := hsignature
  constructor
  · intro points hpoints
    simp only [hat, hfind, Option.bind_some, Option.mem_def.mp hpoints, or_bind_or_eq]
  · intro points hpoints
    simp only [hat, hfind, Option.bind_some, Option.mem_def.mp hpoints, or_bind_or_eq]
  · intro played hplayed
    simp only [hat, hfind, Option.bind_some, Option.mem_def.mp hplayed]
    cases call.played transfer <;> rfl

/-- Row by row the facts are those reported. -/
theorem map_facts_eq {transfers : List RawFPLEntryTransfer}
    (h : List.Forall₂ (fun transfer row =>
      transferReplacementRow parseDate call existing transfer = .ok row) transfers rows) :
    transfers.map (RawFPLEntryTransfer.facts parseDate) = rows.map fun row => some row.facts := by
  induction h with
  | nil => rfl
  | cons hrow hrest ih =>
    simp only [List.map_cons, (transferReplacementRow_eq_ok hrow).1, ih]

/-- The rows of a history: each is the row of a transfer, and their facts are those reported. -/
theorem buildTransferReplacementRows_eq_ok
    (h : buildTransferReplacementRows parseDate call existing = .ok rows) :
    (∀ row ∈ rows, ∃ transfer ∈ call.transfers,
        transferReplacementRow parseDate call existing transfer = .ok row) ∧
      (rows.map fun row => some row.facts).Perm
        (call.transfers.map (RawFPLEntryTransfer.facts parseDate)) := by
  unfold buildTransferReplacementRows at h
  obtain ⟨built, hbuilt, h⟩ := bind_eq_ok.mp h
  obtain rfl := Except.ok.inj h
  have hrows := mapM_eq_ok.mp hbuilt
  constructor
  · intro row hrow
    exact exists_of_mem_of_forall₂ hrows ((List.mem_insertionSort _).mp hrow)
  · rw [map_facts_eq hrows]
    exact (List.perm_insertionSort _ built).map _

end Rows

section Replaced

variable {database after : TransferDatabase Data} {call : ReplaceForEvent Data}
  {sourceCheckedAt : ℤ} {stored : TransferCheckpoint} {rows : List EntryEventTransfer}

/-- All rows belong to the entry of the call. -/
theorem ReplacesHistory.entry_eq
    (h : ReplacesHistory parseDate database call after sourceCheckedAt stored rows) :
    ∀ row ∈ rows, row.entry = call.entry := by
  intro row hrow
  obtain ⟨transfer, -, htransfer⟩ := (buildTransferReplacementRows_eq_ok h.built).1 row hrow
  exact (transferReplacementRow_eq_ok htransfer).2

/-- The history of the entry is the one that was built. -/
theorem ReplacesHistory.ofEntry
    (h : ReplacesHistory parseDate database call after sourceCheckedAt stored rows) :
    after.transfers.ofEntry call.entry = rows := by
  have hkept : (database.transfers.deleteEntry call.entry).rows.filter
      (fun row => row.entry = call.entry) = [] := by
    simp [EntryEventTransfers.deleteEntry, List.filter_filter]
  have hrows : rows.filter (fun row => row.entry = call.entry) = rows :=
    List.filter_eq_self.mpr fun row hrow => by simpa using h.entry_eq row hrow
  rw [EntryEventTransfers.ofEntry, h.transfers, List.filter_append, hkept, hrows, List.nil_append]

/-- The histories of other entries are as before. -/
theorem ReplacesHistory.ofEntry_of_ne
    (h : ReplacesHistory parseDate database call after sourceCheckedAt stored rows)
    {entry : ℤ × ℤ} (hne : entry ≠ call.entry) :
    after.transfers.ofEntry entry = database.transfers.ofEntry entry := by
  have hrows : rows.filter (fun row => row.entry = entry) = [] := by
    rw [List.filter_eq_nil_iff]
    intro row hrow
    simpa [h.entry_eq row hrow] using hne.symm
  have hkept : (database.transfers.deleteEntry call.entry).rows.filter
      (fun row => row.entry = entry) = database.transfers.ofEntry entry := by
    unfold EntryEventTransfers.deleteEntry EntryEventTransfers.ofEntry
    rw [List.filter_filter]
    apply List.filter_congr
    intro row _
    by_cases hentry : row.entry = entry
    · simp [hentry, hne]
    · simp [hentry]
  rw [EntryEventTransfers.ofEntry, h.transfers, List.filter_append, hrows, hkept,
    List.append_nil]

/-- Within an entry the signature is unique. -/
theorem EntryEventTransfers.nodup_signature (table : EntryEventTransfers) (entry : ℤ × ℤ) :
    ((table.ofEntry entry).map (·.signature)).Nodup := by
  have hkeys := table.businessUnique.sublist
    ((List.filter_sublist (p := fun row => decide (row.entry = entry)) (l := table.rows)).map
      fun row => (row.entry, row.signature))
  refine List.Nodup.of_map (fun signature => (entry, signature)) ?_
  rw [List.map_map]
  convert hkeys using 1
  apply List.map_congr_left
  intro row hrow
  have hentry : row.entry = entry := by simpa using (List.mem_filter.mp hrow).2
  simp [hentry]

end Replaced

/-- What an accepted call does to the histories. -/
structure FollowsSource (parseDate : String → Option ℤ) (before : TransferDatabase Data)
    (call : ReplaceForEvent Data) (after : TransferDatabase Data) : Prop where
  exactly : ((after.transfers.ofEntry call.entry).map fun row => some row.facts).Perm
    (call.transfers.map (RawFPLEntryTransfer.facts parseDate))
  kept : ∀ old ∈ before.transfers.ofEntry call.entry, ∀ new ∈ after.transfers.ofEntry call.entry,
    new.signature = old.signature → ∃ transfer ∈ call.transfers,
      transfer.facts parseDate = some new.facts ∧ ComputedKept call transfer old new
  others : ∀ entry, entry ≠ call.entry →
    after.transfers.ofEntry entry = before.transfers.ofEntry entry

/-- Replacing a history follows the source. -/
theorem ReplacesHistory.followsSource {database after : TransferDatabase Data}
    {call : ReplaceForEvent Data} {sourceCheckedAt : ℤ} {stored : TransferCheckpoint}
    {rows : List EntryEventTransfer}
    (h : ReplacesHistory parseDate database call after sourceCheckedAt stored rows) :
    FollowsSource parseDate database call after := by
  have hbuilt := buildTransferReplacementRows_eq_ok h.built
  refine ⟨?_, ?_, fun entry hne => h.ofEntry_of_ne hne⟩
  · rw [h.ofEntry]
    exact hbuilt.2
  · intro old hold new hnew hsignature
    rw [h.ofEntry] at hnew
    obtain ⟨transfer, htransfer, hrow⟩ := hbuilt.1 new hnew
    exact ⟨transfer, htransfer, (transferReplacementRow_eq_ok hrow).1,
      transferReplacementRow_kept (database.transfers.nodup_signature _) hrow hold hsignature⟩

/-- The event through which an entry is synced does not decrease. -/
def SyncedThroughKept (before after : TransferDatabase Data) : Prop :=
  ∀ entry stored, before.entries.find entry = some stored →
    ∃ stored', after.entries.find entry = some stored' ∧
      ∀ event ∈ stored.transfersSyncedThroughEventId,
        ∃ event' ∈ stored'.transfersSyncedThroughEventId, event ≤ event'

/-- Moving a checkpoint by a maximum does not decrease it. -/
theorem ReplacesHistory.syncedThroughKept {database after : TransferDatabase Data}
    {call : ReplaceForEvent Data} {sourceCheckedAt : ℤ} {stored : TransferCheckpoint}
    {rows : List EntryEventTransfer}
    (h : ReplacesHistory parseDate database call after sourceCheckedAt stored rows) :
    SyncedThroughKept database after := by
  intro entry row hrow
  rw [h.entries, KeyedTable.find_updateWhere, hrow]
  refine ⟨_, rfl, ?_⟩
  intro event hevent
  split
  · refine ⟨_, rfl, ?_⟩
    rw [Option.mem_def.mp hevent]
    exact le_max_left _ _
  · exact ⟨event, hevent, le_rfl⟩

/-- The source time that is stored for an entry. -/
def TransferDatabase.sourceCheckedAt (database : TransferDatabase Data) (entry : ℤ × ℤ) :
    Option ℤ :=
  (database.entries.find entry).bind (·.transfersSourceCheckedAt)

/-- The source times of the calls for an entry that are accepted in a run. -/
def acceptedTimes (parseDate : String → Option ℤ) (entry : ℤ × ℤ) :
    TransferDatabase Data → List (ReplaceForEvent Data) → List ℤ
  | _, [] => []
  | database, call :: rest =>
    (if call.entry = entry ∧ call.accepted parseDate database then
        (call.sourceTime parseDate).toList else []) ++
      acceptedTimes parseDate entry (replaceForEventStep parseDate database call) rest

/-- A call keeps the source times of other entries, and raises that of its own if it is accepted. -/
theorem ReplacesHistory.sourceCheckedAt_eq {database after : TransferDatabase Data}
    {call : ReplaceForEvent Data} {sourceCheckedAt : ℤ} {stored : TransferCheckpoint}
    {rows : List EntryEventTransfer}
    (h : ReplacesHistory parseDate database call after sourceCheckedAt stored rows)
    (entry : ℤ × ℤ) :
    after.sourceCheckedAt entry =
      if entry = call.entry then some sourceCheckedAt else database.sourceCheckedAt entry := by
  unfold TransferDatabase.sourceCheckedAt
  rw [h.entries, KeyedTable.find_updateWhere]
  split
  · rename_i heq
    rw [heq, h.found]
    simp [ReplaceForEvent.checkpointed]
  · rename_i hne
    cases database.entries.find entry with
    | none => rfl
    | some row => simp

/-- The source times accepted in a run increase, from the one that is stored. -/
theorem acceptedTimes_increase (entry : ℤ × ℤ) (database : TransferDatabase Data)
    (calls : List (ReplaceForEvent Data)) :
    (∀ time ∈ acceptedTimes parseDate entry database calls,
        ∀ winner ∈ database.sourceCheckedAt entry, winner < time) ∧
      (acceptedTimes parseDate entry database calls).Pairwise (· < ·) := by
  induction calls generalizing database with
  | nil => simp [acceptedTimes]
  | cons call rest ih =>
    have hrest := ih (replaceForEventStep parseDate database call)
    unfold acceptedTimes
    cases haccepted : call.accepted parseDate database with
    | false =>
      rw [replaceForEventStep_of_not_accepted haccepted] at hrest ⊢
      simpa using hrest
    | true =>
      obtain ⟨sourceCheckedAt, stored, rows, hreplaced⟩ :=
        replaceForEventStep_of_accepted haccepted
      rw [hreplaced.sourceCheckedAt_eq entry] at hrest
      by_cases hentry : call.entry = entry
      · have hstored : ∀ winner ∈ database.sourceCheckedAt entry, winner < sourceCheckedAt := by
          rw [← hentry, TransferDatabase.sourceCheckedAt, hreplaced.found]
          exact hreplaced.newer
        have hlater := hrest.1
        rw [if_pos hentry.symm] at hlater
        have hafter : ∀ time ∈ acceptedTimes parseDate entry
            (replaceForEventStep parseDate database call) rest, sourceCheckedAt < time :=
          fun time htime => hlater time htime sourceCheckedAt rfl
        rw [if_pos ⟨hentry, rfl⟩, hreplaced.source]
        constructor
        · intro time htime winner hwinner
          cases List.mem_cons.mp htime with
          | inl heq => exact heq ▸ hstored winner hwinner
          | inr hmem => exact (hstored winner hwinner).trans (hafter time hmem)
        · exact List.pairwise_cons.mpr ⟨hafter, hrest.2⟩
      · rw [if_neg fun hne => hentry hne.symm] at hrest
        rw [if_neg fun hand => hentry hand.1]
        exact hrest

/-- In every run of calls, accepted source times increase for every entry, an accepted call leaves
exactly its transfers and keeps what was computed for them unless it brings a value, a call that
is not accepted changes nothing, and no entry goes back in the event it is synced through. -/
theorem transferHistory_followsSource (parseDate : String → Option ℤ)
    (database : TransferDatabase Data) (calls : List (ReplaceForEvent Data)) :
    (∀ entry, (acceptedTimes parseDate entry database calls).Pairwise (· < ·)) ∧
      EveryStep (replaceForEventStep parseDate) (fun before call =>
        (call.accepted parseDate before = true →
            FollowsSource parseDate before call (replaceForEventStep parseDate before call)) ∧
          (call.accepted parseDate before = false →
            replaceForEventStep parseDate before call = before) ∧
          SyncedThroughKept before (replaceForEventStep parseDate before call))
        database calls := by
  refine ⟨fun entry => (acceptedTimes_increase entry database calls).2, ?_⟩
  apply everyStep_of_forall
  intro before call
  refine ⟨?_, replaceForEventStep_of_not_accepted, ?_⟩
  · intro haccepted
    obtain ⟨sourceCheckedAt, stored, rows, hreplaced⟩ := replaceForEventStep_of_accepted haccepted
    exact hreplaced.followsSource
  · cases haccepted : call.accepted parseDate before with
    | false =>
      rw [replaceForEventStep_of_not_accepted haccepted]
      exact fun entry stored hstored => ⟨stored, hstored, fun event hevent =>
        ⟨event, hevent, le_rfl⟩⟩
    | true =>
      obtain ⟨sourceCheckedAt, stored, rows, hreplaced⟩ :=
        replaceForEventStep_of_accepted haccepted
      exact hreplaced.syncedThroughKept

/-- A history with one transfer whose player came in, played and scored. -/
def playedHistory : TransferDatabase Unit where
  entries := ⟨[((1, 7), ⟨some 4, some 1000⟩)], by decide⟩
  transfers := ⟨[⟨1, 7, 5, some 100, some 55, some 8, some true, some 200, some 60, some 2, 500⟩],
    by decide⟩
  known := fun _ => true
  data := ()

/-- A synchronization before the deadline of the same event, with the same transfer. -/
def preDeadlineCall : ReplaceForEvent Unit where
  seasonId := 1
  entryId := 7
  eventId := 5
  transfers := [⟨100, 55, none, 200, 60, none, 5, "2025-08-16T10:00:00Z"⟩]
  pointsByElement := none
  elementInPlayed := some false
  defaultPoints := some 0
  checkpointThroughEventId := some 4
  sourceCheckedAt := some (.date (some 2000))
  persistEventData := none
  fault := none

/-- A recorded flag gives way to the one that the call brings for its event. -/
theorem replaceForEvent_overrides_played :
    playedHistory.transfers.rows =
        [⟨1, 7, 5, some 100, some 55, some 8, some true, some 200, some 60, some 2, 500⟩] ∧
      preDeadlineCall.accepted (fun _ => some 500) playedHistory = true ∧
      (replaceForEventStep (fun _ => some 500) playedHistory preDeadlineCall).transfers.rows =
        [⟨1, 7, 5, some 100, some 55, some 8, some false, some 200, some 60, some 2, 500⟩] := by
  decide +kernel

end LetletmeData
