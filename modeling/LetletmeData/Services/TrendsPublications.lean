import LetletmeData.Services.TrendsFingerprint

/-!
# The active publication and the current source

A call that adds a publication activates it, so the active rows are those of the call's snapshot. A
call that reuses one activates nothing: the active rows are those of its snapshot when the reused
publication is the active one and nothing has escaped the checksum since it was computed.
-/

namespace LetletmeData

open LetletmeData.Library

/-! ### Writes of the source -/

section Source

variable {earlier source later : TrendsSource} {writtenAt : ℕ}

/-- Nothing has happened. -/
theorem TrendsSource.Precedes.refl (source : TrendsSource) : source.Precedes source :=
  ⟨Nat.le_refl _, fun _ _ hentry _ => hentry, UnwrittenSince.refl _ _, UnwrittenSince.refl _ _⟩

/-- A change with a later stamp leaves what is said of older rows. -/
theorem TrendsSource.Precedes.change (h : earlier.Precedes source)
    (hlate : earlier.clock < writtenAt) (change : SourceChange) :
    earlier.Precedes (source.change writtenAt change) := by
  cases change with
  | enterRoster => exact ⟨h.clock, h.entries, h.picks, h.transfers⟩
  | leaveRoster => exact ⟨h.clock, h.entries, h.picks, h.transfers⟩
  | saveEntry seasonId entryId =>
    refine ⟨h.clock, ?_, h.picks, h.transfers⟩
    intro key entry hentry hold
    rw [TrendsSource.change, KeyedTable.find_upsert] at hentry
    split at hentry
    · cases hentry
      exact absurd hold (Nat.not_le.mpr hlate)
    · exact h.entries key entry hentry hold
  | savePick pick =>
    refine ⟨h.clock, h.entries, ?_, h.transfers⟩
    apply (h.picks.sublist List.filter_sublist).append
    intro row hrow
    rw [List.mem_singleton.mp hrow]
    exact hlate
  | deletePick =>
    exact ⟨h.clock, h.entries, h.picks.sublist List.filter_sublist, h.transfers⟩
  | saveTransfer transfer =>
    refine ⟨h.clock, h.entries, h.picks, ?_⟩
    apply (h.transfers.sublist List.filter_sublist).append
    intro row hrow
    rw [List.mem_singleton.mp hrow]
    exact hlate
  | deleteTransfer =>
    exact ⟨h.clock, h.entries, h.picks, h.transfers.sublist List.filter_sublist⟩

/-- So does a transaction. -/
theorem TrendsSource.Precedes.write (h : earlier.Precedes source) (changes : List SourceChange) :
    earlier.Precedes (source.write writtenAt changes) := by
  unfold TrendsSource.write
  split
  · next hwritten =>
    have hlate : earlier.clock < writtenAt := Nat.lt_of_le_of_lt h.clock hwritten.1
    have hchanges : earlier.Precedes (changes.foldl (TrendsSource.change writtenAt) source) := by
      clear hwritten
      induction changes generalizing source with
      | nil => exact h
      | cons change rest ih => exact ih (h.change hlate change)
    exact ⟨Nat.le_of_lt hlate, hchanges.entries, hchanges.picks, hchanges.transfers⟩
  · exact h

/-- A change stamps what it saves with the time of the transaction. -/
theorem TrendsSource.Bounded.change
    (h : ({ source with clock := writtenAt } : TrendsSource).Bounded)
    (hyear : isoYear (writtenAt / 1000) < 10000) (change : SourceChange) :
    ({ source.change writtenAt change with clock := writtenAt } : TrendsSource).Bounded := by
  have hnew : ∀ source : TrendsSource,
      ({ source with clock := writtenAt } : TrendsSource).Stamped writtenAt :=
    fun _ => ⟨Nat.le_refl _, hyear⟩
  cases change with
  | enterRoster => exact ⟨h.entries, h.picks, h.transfers⟩
  | leaveRoster => exact ⟨h.entries, h.picks, h.transfers⟩
  | saveEntry seasonId entryId =>
    refine ⟨?_, h.picks, h.transfers⟩
    intro key entry hentry
    rw [TrendsSource.change, KeyedTable.find_upsert] at hentry
    split at hentry
    · cases hentry
      exact hnew source
    · exact h.entries key entry hentry
  | savePick pick =>
    refine ⟨h.entries, ?_, h.transfers⟩
    intro row hrow
    rcases List.mem_append.mp hrow with hold | hsaved
    · exact h.picks row (List.mem_of_mem_filter hold)
    · rw [List.mem_singleton.mp hsaved]
      exact hnew source
  | deletePick =>
    exact ⟨h.entries, fun row hrow => h.picks row (List.mem_of_mem_filter hrow), h.transfers⟩
  | saveTransfer transfer =>
    refine ⟨h.entries, h.picks, ?_⟩
    intro row hrow
    rcases List.mem_append.mp hrow with hold | hsaved
    · exact h.transfers row (List.mem_of_mem_filter hold)
    · rw [List.mem_singleton.mp hsaved]
      exact hnew source
  | deleteTransfer =>
    exact ⟨h.entries, h.picks, fun row hrow => h.transfers row (List.mem_of_mem_filter hrow)⟩

/-- So does a transaction. -/
theorem TrendsSource.Bounded.write (h : source.Bounded) (changes : List SourceChange) :
    (source.write writtenAt changes).Bounded := by
  unfold TrendsSource.write
  split
  · next hwritten =>
    have hlater : ({ source with clock := writtenAt } : TrendsSource).Bounded := by
      have hstamp : ∀ stamp, source.Stamped stamp →
          ({ source with clock := writtenAt } : TrendsSource).Stamped stamp :=
        fun stamp hold => ⟨Nat.le_trans hold.1 (Nat.le_of_lt hwritten.1), hold.2⟩
      exact ⟨fun key entry hentry => hstamp _ (h.entries key entry hentry),
        fun pick hpick => hstamp _ (h.picks pick hpick),
        fun transfer htransfer => hstamp _ (h.transfers transfer htransfer)⟩
    clear h
    induction changes generalizing source with
    | nil => exact hlater
    | cons change rest ih =>
      have hclock : (source.change writtenAt change).clock = source.clock := by
        cases change <;> rfl
      refine ih ?_ (hlater.change hwritten.2 change)
      rw [hclock]
      exact hwritten
  · exact h

end Source

/-! ### What a transaction writes -/

/-- At most one publication of a scope is active. -/
def TrendsTables.OneActive (tables : TrendsTables) : Prop :=
  ∀ id row id' row', tables.publications.find id = some row →
    tables.publications.find id' = some row' → row.scope = row'.scope →
      row.isActive → row'.isActive → id = id'

/-- No revision of a scope is used twice. -/
def TrendsTables.RevisionsDistinct (tables : TrendsTables) : Prop :=
  ∀ id row id' row', tables.publications.find id = some row →
    tables.publications.find id' = some row' → row.scope = row'.scope →
      row.revision = row'.revision → id = id'

/-- The active publication of a scope has these rows. -/
def TrendsTables.ActiveRows (tables : TrendsTables) (scope : TrendsScope)
    (trendRows : List TrendRow) : Prop :=
  ∃ id row, tables.publications.find id = some row ∧ row.scope = scope ∧ row.isActive ∧
    tables.rows.find id = some trendRows

instance (tables : TrendsTables) (scope : TrendsScope) (trendRows : List TrendRow) :
    Decidable (tables.ActiveRows scope trendRows) :=
  decidable_of_iff (∃ entry ∈ tables.publications.entries, entry.2.scope = scope ∧
      entry.2.isActive ∧ tables.rows.find entry.1 = some trendRows) (by
    constructor
    · rintro ⟨entry, hentry, h⟩
      exact ⟨entry.1, entry.2, KeyedTable.mem_entries_iff.mp hentry, h⟩
    · rintro ⟨id, row, hrow, h⟩
      exact ⟨(id, row), KeyedTable.mem_entries_iff.mpr hrow, h⟩)

/-- A publication stays but for being active, which it may cease to be. -/
def StaysOrRetires (before after : Option TrendsPublication) : Prop :=
  after = before ∨ after = before.map fun row => { row with isActive := false }

/-- What is left of a publication was there. -/
theorem StaysOrRetires.before {before after : Option TrendsPublication}
    (h : StaysOrRetires before after) {row : TrendsPublication} (hrow : after = some row) :
    ∃ old, before = some old ∧ row.scope = old.scope ∧ row.revision = old.revision ∧
      row.sourceChecksum = old.sourceChecksum ∧ (row.isActive → old.isActive) := by
  rcases h with hsame | hretired
  · exact ⟨row, hsame ▸ hrow, rfl, rfl, rfl, id⟩
  · rw [hretired, Option.map_eq_some_iff] at hrow
    obtain ⟨old, hold, rfl⟩ := hrow
    exact ⟨old, hold, rfl, rfl, rfl, fun hactive => absurd hactive (by simp)⟩

/-- A publication is left. -/
theorem StaysOrRetires.after {before after : Option TrendsPublication}
    (h : StaysOrRetires before after) {old : TrendsPublication} (hold : before = some old) :
    ∃ row, after = some row ∧ row.scope = old.scope ∧
      row.sourceChecksum = old.sourceChecksum := by
  rcases h with hsame | hretired
  · exact ⟨old, hsame.trans hold, rfl, rfl⟩
  · rw [hold] at hretired
    exact ⟨_, hretired, rfl, rfl⟩

section Publishing

variable {host : TrendsHost} {scope : TrendsScope} {now : ℕ} {snapshot : TrendsSnapshot}
  {stored tables : TrendsTables} {result : TournamentTrendScopePublication} {checksum : String}

/-- The switch activates the publication and nothing else in its scope. -/
theorem switchActive_eq_ok {publicationId : ℕ} {publications after : RowsSeen ℕ TrendsPublication}
    {row : TrendsPublication} (hseen : publications.seen.find publicationId ≠ none)
    (hstored : publications.stored.find publicationId = some row)
    (h : switchActive scope publicationId publications = .ok after) :
    after.stored.find publicationId = some { row with isActive := true } ∧
      (∀ other, other ≠ publicationId →
        StaysOrRetires (publications.stored.find other) (after.stored.find other)) ∧
      ∀ other row, after.stored.find other = some row → row.scope = scope → row.isActive →
        other = publicationId := by
  unfold switchActive at h
  obtain ⟨deactivated, hoff, h⟩ := bind_eq_ok.mp h
  obtain ⟨hnone, hon⟩ := throwIf_bind_eq_ok.mp h
  obtain ⟨-, hoffSeen, hoffStored⟩ := RowsSeen.updateWhere_eq_ok (mapError_eq_ok.mp hoff)
  obtain ⟨-, -, honStored⟩ := RowsSeen.updateWhere_eq_ok (mapError_eq_ok.mp hon)
  have hself : deactivated.Sees (fun other _ => other = publicationId) publicationId := by
    obtain ⟨seen, hseen⟩ := Option.ne_none_iff_exists'.mp hseen
    obtain ⟨left, hleft⟩ : ∃ left, deactivated.seen.find publicationId = some left := by
      rw [hoffSeen, KeyedTable.find_updateWhere, hseen]
      exact ⟨_, rfl⟩
    exact ⟨left, hleft, rfl⟩
  have hothers : ∀ other, other ≠ publicationId →
      after.stored.find other = deactivated.stored.find other := by
    intro other hother
    rw [honStored, KeyedTable.find_updateWhere]
    have hnot : ¬ deactivated.Sees (fun other _ => other = publicationId) other :=
      fun ⟨_, _, heq⟩ => hother heq
    simp [hnot]
  refine ⟨?_, ?_, ?_⟩
  · rw [honStored, KeyedTable.find_updateWhere, hoffStored, KeyedTable.find_updateWhere, hstored]
    simp only [Option.map_some, hself, if_true]
    split <;> rfl
  · intro other hother
    rw [hothers other hother, hoffStored, KeyedTable.find_updateWhere]
    by_cases hsees : publications.Sees (fun _ row => row.scope = scope ∧ row.isActive) other
    · right
      simp only [hsees, if_true]
    · left
      simp [hsees]
  · intro other row hrow hscope hactive
    by_contra hother
    rw [hothers other hother] at hrow
    exact hnone ⟨(other, row), KeyedTable.mem_entries_iff.mpr hrow, hother, hscope, hactive⟩

/-- What a transaction that adds a publication leaves behind. -/
structure PublicationAdded (host : TrendsHost) (scope : TrendsScope) (now : ℕ)
    (snapshot : TrendsSnapshot) (checksum : String) (stored : TrendsTables)
    (result : TournamentTrendScopePublication) (tables : TrendsTables) : Prop where
  publicationId : result.publicationId = stored.nextPublicationId
  ownership : result.ownershipState =
    capabilityState (snapshot.source.audit scope).picksReady
  nextId : tables.nextPublicationId = stored.nextPublicationId + 1
  free : ¬ stored.RevisionTaken scope (snapshot.tables.nextRevision scope)
  added : tables.publications.find stored.nextPublicationId =
    some { newPublication scope now snapshot (snapshot.source.audit scope) checksum with
      isActive := decide (snapshot.source.audit scope).picksReady }
  others : ∀ other, other ≠ stored.nextPublicationId →
    StaysOrRetires (stored.publications.find other) (tables.publications.find other)
  onlyActive : (snapshot.source.audit scope).picksReady → ∀ other row,
    tables.publications.find other = some row → row.scope = scope → row.isActive →
      other = stored.nextPublicationId
  rows : (snapshot.source.audit scope).picksReady → stored.rows.find stored.nextPublicationId = none →
    tables.rows.find stored.nextPublicationId = some (snapshot.source.trendRows host scope)
  otherRows : ∀ other, other ≠ stored.nextPublicationId →
    tables.rows.find other = stored.rows.find other

/-- A transaction that adds a publication goes through when its revision is free. -/
theorem addPublication_eq_ok (hfresh : stored.publications.find stored.nextPublicationId = none)
    (h : addPublication host scope now snapshot stored checksum = .ok (result, tables)) :
    PublicationAdded host scope now snapshot checksum stored result tables := by
  unfold addPublication at h
  obtain ⟨hfree, h⟩ := throwIf_bind_eq_ok.mp h
  have hinsert : ∀ other, other ≠ stored.nextPublicationId → ∀ row,
      (stored.publications.insertAbsent stored.nextPublicationId row).find other =
        stored.publications.find other := by
    intro other hother row
    simp [KeyedTable.find_insertAbsent, hother]
  by_cases hready : (snapshot.source.audit scope).picksReady
  · rw [if_pos hready] at h
    obtain ⟨switched, hswitch, h⟩ := bind_eq_ok.mp h
    cases h
    have hseen : (RowsSeen.insert stored.nextPublicationId
        (newPublication scope now snapshot (snapshot.source.audit scope) checksum)
        ⟨snapshot.tables.publications, stored.publications⟩).seen.find
          stored.nextPublicationId ≠ none := by
      simp [RowsSeen.insert, KeyedTable.find_upsert]
    obtain ⟨hadded, hothers, honly⟩ := switchActive_eq_ok hseen
      (KeyedTable.find_insertAbsent_self hfresh) hswitch
    simp only [RowsSeen.insert] at hothers
    exact
      { publicationId := rfl
        ownership := rfl
        nextId := rfl
        free := hfree
        added := by simpa [hready] using hadded
        others := by
          intro other hother
          have hstays := hothers other hother
          rwa [hinsert other hother] at hstays
        onlyActive := fun _ => honly
        rows := fun _ hnone => KeyedTable.find_insertAbsent_self hnone
        otherRows := by
          intro other hother
          simp [KeyedTable.find_insertAbsent, hother] }
  · rw [if_neg hready] at h
    cases h
    exact
      { publicationId := rfl
        ownership := rfl
        nextId := rfl
        free := hfree
        added := by
          simp only [RowsSeen.insert, KeyedTable.find_insertAbsent_self hfresh]
          simp [hready, newPublication]
        others := fun other hother => Or.inl (hinsert other hother _)
        onlyActive := fun h => absurd h hready
        rows := fun h => absurd h hready
        otherRows := fun _ _ => rfl }

/-- A publication that can be reused is one of the scope with the checksum. -/
theorem existing_eq_some {entry : ℕ × TrendsPublication}
    (h : stored.existing scope checksum = some entry) :
    stored.publications.find entry.1 = some entry.2 ∧ entry.2.scope = scope ∧
      entry.2.sourceChecksum = checksum := by
  have hfirst := (Option.filter_eq_some_iff.mp h).1
  exact KeyedTable.mem_selectSorted.mp (List.mem_of_head? hfirst)

end Publishing

/-! ### Runs -/

/-- What a world knows of a snapshot: its source is an earlier one, and the publications it holds
are still there and were computed from sources before it. -/
structure TrendsWorld.Sees (world : TrendsWorld) (snapshot : TrendsSnapshot) : Prop where
  bounded : snapshot.source.Bounded
  precedes : snapshot.source.Precedes world.source
  publications : ∀ id row, snapshot.tables.publications.find id = some row →
    ∃ current source, world.tables.publications.find id = some current ∧
      current.scope = row.scope ∧ current.sourceChecksum = row.sourceChecksum ∧
        world.sources.find id = some source ∧ source.Precedes snapshot.source

/-- A publication has the checksum and, when the picks were ready, the rows of the source that it
was computed from. -/
structure TrendsWorld.ComputedFrom (host : TrendsHost) (world : TrendsWorld) (id : ℕ)
    (row : TrendsPublication) (source : TrendsSource) : Prop where
  noted : world.sources.find id = some source
  checksum : row.sourceChecksum = host.sha256 (source.checksumText host row.scope)
  rows : (source.audit row.scope).picksReady →
    world.tables.rows.find id = some (source.trendRows host row.scope)
  bounded : source.Bounded
  precedes : source.Precedes world.source

/-- The invariant of the runs. -/
structure TrendsWorld.Sound (host : TrendsHost) (world : TrendsWorld) : Prop where
  bounded : world.source.Bounded
  oneActive : world.tables.OneActive
  revisions : world.tables.RevisionsDistinct
  fresh : ∀ id, world.tables.nextPublicationId ≤ id →
    world.tables.publications.find id = none ∧ world.tables.rows.find id = none ∧
      world.sources.find id = none
  recorded : ∀ id row, world.tables.publications.find id = some row →
    ∃ source, world.ComputedFrom host id row source
  seen : ∀ callId attempt, world.attempt callId = some attempt → world.Sees attempt.2

section Runs

variable {host : TrendsHost} {world world' : TrendsWorld} {scope : TrendsScope} {now : ℕ}
  {snapshot : TrendsSnapshot} {tables : TrendsTables} {result : TournamentTrendScopePublication}

/-- Nothing has been published. -/
theorem TrendsWorld.Sound.initial : TrendsWorld.Sound host .initial where
  bounded :=
    ⟨(by intro _ _ h; cases h), (by intro _ h; cases h), (by intro _ h; cases h)⟩
  oneActive := fun _ _ _ _ h => by cases h
  revisions := fun _ _ _ _ h => by cases h
  fresh := fun _ _ => ⟨rfl, rfl, rfl⟩
  recorded := fun _ _ h => by cases h
  seen := fun _ _ h => by cases h

/-- Calls may end, and wait for their next attempt. -/
theorem TrendsWorld.Sound.calls (h : world.Sound host) {calls : ℕ → Option TrendsCall}
    (hcalls : ∀ callId attempt, ({ world with calls } : TrendsWorld).attempt callId = some attempt →
      world.attempt callId = some attempt) : ({ world with calls } : TrendsWorld).Sound host where
  bounded := h.bounded
  oneActive := h.oneActive
  revisions := h.revisions
  fresh := h.fresh
  recorded := by
    intro id row hrow
    obtain ⟨source, hsource⟩ := h.recorded id row hrow
    exact ⟨source, hsource.noted, hsource.checksum, hsource.rows, hsource.bounded,
      hsource.precedes⟩
  seen := by
    intro callId attempt hattempt
    have hsees := h.seen callId attempt (hcalls callId attempt hattempt)
    exact ⟨hsees.bounded, hsees.precedes, hsees.publications⟩

/-- A call without a snapshot is not about to finish. -/
theorem attempt_of_update {callId other : ℕ} {call : Option TrendsCall}
    (hcall : ∀ current, call = some current → current.snapshot = none)
    {attempt : TrendsScope × TrendsSnapshot}
    (h : ({ world with calls := Function.update world.calls callId call } : TrendsWorld).attempt
      other = some attempt) : other ≠ callId ∧ world.attempt other = some attempt := by
  unfold TrendsWorld.attempt at h ⊢
  by_cases hother : other = callId
  · subst hother
    simp only [Function.update_self] at h
    cases call with
    | none => cases h
    | some current => simp [hcall current rfl] at h
  · exact ⟨hother, by simpa [Function.update_of_ne hother] using h⟩

/-- The source is written. -/
theorem TrendsWorld.Sound.write (h : world.Sound host) (writtenAt : ℕ)
    (changes : List SourceChange) :
    ({ world with source := world.source.write writtenAt changes } : TrendsWorld).Sound host where
  bounded := h.bounded.write changes
  oneActive := h.oneActive
  revisions := h.revisions
  fresh := h.fresh
  recorded := by
    intro id row hrow
    obtain ⟨source, hsource⟩ := h.recorded id row hrow
    exact ⟨source, hsource.noted, hsource.checksum, hsource.rows, hsource.bounded,
      hsource.precedes.write changes⟩
  seen := by
    intro callId attempt hattempt
    have hsees := h.seen callId attempt hattempt
    exact ⟨hsees.bounded, hsees.precedes.write changes, hsees.publications⟩

/-- A transaction begins and sees the database as it is. -/
theorem TrendsWorld.Sound.begins (h : world.Sound host) (callId : ℕ) :
    (trendsStep host world (.begin callId)).Sound host where
  bounded := h.bounded
  oneActive := h.oneActive
  revisions := h.revisions
  fresh := h.fresh
  recorded := by
    intro id row hrow
    obtain ⟨source, hsource⟩ := h.recorded id row hrow
    exact ⟨source, hsource.noted, hsource.checksum, hsource.rows, hsource.bounded,
      hsource.precedes⟩
  seen := by
    have hself : world.Sees ⟨world.source, world.tables⟩ := by
      refine ⟨h.bounded, .refl _, ?_⟩
      intro id row hrow
      obtain ⟨source, hsource⟩ := h.recorded id row hrow
      exact ⟨row, source, hrow, rfl, rfl, hsource.noted, hsource.precedes⟩
    have hold : ∀ other attempt, world.attempt other = some attempt → world.Sees attempt.2 :=
      h.seen
    intro other attempt hattempt
    have hsees : world.Sees attempt.2 := by
      unfold TrendsWorld.attempt at hattempt hold
      simp only [trendsStep] at hattempt
      by_cases hother : other = callId
      · subst hother
        rw [Function.update_self] at hattempt
        cases hcall : world.calls other with
        | none => simp [hcall] at hattempt
        | some call =>
          cases hsnapshot : call.snapshot with
          | none =>
            simp only [hcall, Option.map_some, Option.bind_some, hsnapshot, Option.getD_none,
              Option.some.injEq] at hattempt
            rw [← hattempt]
            exact hself
          | some snapshot =>
            apply hold other
            simpa [hcall, hsnapshot] using hattempt
      · rw [Function.update_of_ne hother] at hattempt
        exact hold other attempt hattempt
    exact ⟨hsees.bounded, hsees.precedes, hsees.publications⟩

/-- A publication is added. -/
theorem TrendsWorld.Sound.added (h : world.Sound host) (hsees : world.Sees snapshot)
    (hadded : PublicationAdded host scope now snapshot
      (host.sha256 (snapshot.source.checksumText host scope)) world.tables result tables) :
    ({ world with
      tables
      sources := world.sources.insertAbsent world.tables.nextPublicationId snapshot.source } :
        TrendsWorld).Sound host := by
  obtain ⟨hnoRow, hnoRows, hnoSource⟩ := h.fresh _ (Nat.le_refl world.tables.nextPublicationId)
  exact
    { bounded := h.bounded
      oneActive := by
        intro id row id' row' hrow hrow' hscope hactive hactive'
        -- the new publication is the only active one of its scope, the others were active before
        have hready : ∀ row, tables.publications.find world.tables.nextPublicationId = some row →
            row.isActive → row.scope = scope ∧ (snapshot.source.audit scope).picksReady := by
          intro row hrow hactive
          rw [hadded.added] at hrow
          cases hrow
          exact ⟨rfl, of_decide_eq_true hactive⟩
        by_cases hid : id = world.tables.nextPublicationId
        · subst hid
          obtain ⟨hnew, hpicks⟩ := hready row hrow hactive
          exact (hadded.onlyActive hpicks id' row' hrow' (hscope ▸ hnew) hactive').symm
        · by_cases hid' : id' = world.tables.nextPublicationId
          · subst hid'
            obtain ⟨hnew, hpicks⟩ := hready row' hrow' hactive'
            exact hadded.onlyActive hpicks id row hrow (hscope.trans hnew) hactive
          · obtain ⟨old, hold, hsame, -, -, hwas⟩ := (hadded.others id hid).before hrow
            obtain ⟨old', hold', hsame', -, -, hwas'⟩ := (hadded.others id' hid').before hrow'
            apply h.oneActive id old id' old' hold hold' _ (hwas hactive) (hwas' hactive')
            rw [← hsame, ← hsame', hscope]
      revisions := by
        intro id row id' row' hrow hrow' hscope hrevision
        have hnot : ∀ id row row', id ≠ world.tables.nextPublicationId →
            tables.publications.find id = some row →
            tables.publications.find world.tables.nextPublicationId = some row' →
            row.scope = row'.scope → row.revision ≠ row'.revision := by
          intro id row row' hid hrow hrow' hscope hrevision
          obtain ⟨old, hold, hsame, hsameRevision, -⟩ := (hadded.others id hid).before hrow
          rw [hadded.added] at hrow'
          cases hrow'
          exact hadded.free ⟨(id, old), KeyedTable.mem_entries_iff.mpr hold,
            hsame.symm.trans hscope, hsameRevision.symm.trans hrevision⟩
        by_cases hid : id = world.tables.nextPublicationId
        · subst hid
          by_contra hid'
          exact hnot id' row' row (Ne.symm hid') hrow' hrow hscope.symm hrevision.symm
        · by_cases hid' : id' = world.tables.nextPublicationId
          · subst hid'
            exact absurd hrevision (hnot id row row' hid hrow hrow' hscope)
          · obtain ⟨old, hold, hsame, hsameRevision, -⟩ := (hadded.others id hid).before hrow
            obtain ⟨old', hold', hsame', hsameRevision', -⟩ :=
              (hadded.others id' hid').before hrow'
            apply h.revisions id old id' old' hold hold'
            · rw [← hsame, ← hsame', hscope]
            · rw [← hsameRevision, ← hsameRevision', hrevision]
      fresh := by
        intro id hid
        rw [hadded.nextId] at hid
        have hne : id ≠ world.tables.nextPublicationId := by omega
        obtain ⟨hrow, hrows, hsource⟩ := h.fresh id (by omega)
        refine ⟨?_, (hadded.otherRows id hne).trans hrows, ?_⟩
        · by_contra hsome
          obtain ⟨row, hrow'⟩ := Option.ne_none_iff_exists'.mp hsome
          obtain ⟨old, hold, -⟩ := (hadded.others id hne).before hrow'
          exact absurd (hrow.symm.trans hold) (Option.some_ne_none old).symm
        · simp [KeyedTable.find_insertAbsent, hsource, hne]
      recorded := by
        intro id row hrow
        by_cases hid : id = world.tables.nextPublicationId
        · subst hid
          rw [hadded.added] at hrow
          cases hrow
          exact ⟨snapshot.source, KeyedTable.find_insertAbsent_self hnoSource, rfl,
            fun hready => hadded.rows hready hnoRows, hsees.bounded, hsees.precedes⟩
        · obtain ⟨old, hold, hscope, -, hchecksum, -⟩ := (hadded.others id hid).before hrow
          obtain ⟨source, hsource⟩ := h.recorded id old hold
          refine ⟨source, KeyedTable.find_insertAbsent_of_find hsource.noted, ?_, ?_,
            hsource.bounded, hsource.precedes⟩
          · rw [hchecksum, hscope]
            exact hsource.checksum
          · intro hready
            rw [hscope] at hready ⊢
            exact (hadded.otherRows id hid).trans (hsource.rows hready)
      seen := by
        intro callId attempt hattempt
        have hold := h.seen callId attempt hattempt
        refine ⟨hold.bounded, hold.precedes, ?_⟩
        intro id row hrow
        obtain ⟨current, source, hcurrent, hscope, hchecksum, hnoted, hprecedes⟩ :=
          hold.publications id row hrow
        have hid : id ≠ world.tables.nextPublicationId := by
          intro heq
          rw [heq, hnoRow] at hcurrent
          cases hcurrent
        obtain ⟨left, hleft, hscope', hchecksum'⟩ := (hadded.others id hid).after hcurrent
        exact ⟨left, source, hleft, hscope'.trans hscope, hchecksum'.trans hchecksum,
          KeyedTable.find_insertAbsent_of_find hnoted, hprecedes⟩ }

/-- An attempt ends. -/
theorem TrendsWorld.Sound.finish (h : world.Sound host) (callId now : ℕ) :
    (world.finish host callId now).Sound host := by
  unfold TrendsWorld.finish
  cases hattempt : world.attempt callId with
  | none => exact h
  | some attempt =>
    obtain ⟨scope, snapshot⟩ := attempt
    have hsees := h.seen callId _ hattempt
    dsimp only
    cases hpublish : publishOnce host scope now snapshot world.tables with
    | error error =>
      apply h.calls
      intro other attempt hother
      apply (attempt_of_update _ hother).2
      intro current hcurrent
      obtain ⟨call, -, hcall⟩ := Option.bind_eq_some_iff.mp hcurrent
      unfold TrendsCall.afterError at hcall
      split at hcall
      · cases hcall
      · cases hcall
        rfl
    | ok published =>
      obtain ⟨result, tables⟩ := published
      dsimp only
      have hending : ∀ other attempt, ({ world with
          calls := Function.update world.calls callId none } : TrendsWorld).attempt other =
            some attempt → world.attempt other = some attempt :=
        fun other attempt hother => (attempt_of_update (fun _ hnone => by cases hnone) hother).2
      unfold publishOnce at hpublish
      cases hexisting : snapshot.tables.existing scope
          (host.sha256 (snapshot.source.checksumText host scope)) with
      | some entry =>
        simp only [hexisting] at hpublish
        cases hpublish
        obtain ⟨-, source, -, -, -, hnoted, -⟩ :=
          hsees.publications _ _ (existing_eq_some hexisting).1
        rw [KeyedTable.insertAbsent_of_find (by rw [hnoted]; exact Option.some_ne_none source)]
        exact h.calls hending
      | none =>
        simp only [hexisting] at hpublish
        have hadded := addPublication_eq_ok (h.fresh _ (Nat.le_refl _)).1 hpublish
        rw [hadded.publicationId]
        exact (h.added hsees hadded).calls hending

/-- Every step keeps the invariant. -/
theorem TrendsWorld.Sound.step (h : world.Sound host) (action : TrendsStep) :
    (trendsStep host world action).Sound host := by
  cases action with
  | write writtenAt changes => exact h.write writtenAt changes
  | call callId scope =>
    simp only [trendsStep]
    split
    · apply h.calls
      intro other attempt hother
      exact (attempt_of_update (fun _ hcall => by cases hcall; rfl) hother).2
    · exact h
  | begin callId => exact h.begins callId
  | finish callId now => exact h.finish callId now
  | fail callId =>
    apply h.calls
    intro other attempt hother
    exact (attempt_of_update (fun _ hnone => by cases hnone) hother).2

end Runs

/-! ### What a call reports -/

section Reports

variable (host : TrendsHost) (world : TrendsWorld)

/-- A call that returns with its ownership ready finds the rows of its snapshot active. -/
def TrendsWorld.ReadyReflects : TrendsStep → Prop :=
  world.AtFinish fun now scope snapshot => ∀ result tables,
    publishOnce host scope now snapshot world.tables = .ok (result, tables) →
      result.ownershipState = .ready →
        tables.ActiveRows scope (snapshot.source.trendRows host scope)

instance (now : ℕ) (scope : TrendsScope) (snapshot : TrendsSnapshot) :
    Decidable (∀ result tables,
      publishOnce host scope now snapshot world.tables = .ok (result, tables) →
        result.ownershipState = .ready →
          tables.ActiveRows scope (snapshot.source.trendRows host scope)) :=
  match publishOnce host scope now snapshot world.tables with
  | .ok (result, tables) =>
    decidable_of_iff (result.ownershipState = .ready →
        tables.ActiveRows scope (snapshot.source.trendRows host scope)) (by
      constructor
      · intro h _ _ heq
        cases heq
        exact h
      · intro h
        exact h result tables rfl)
  | .error _ => .isTrue fun _ _ h => by cases h

instance (step : TrendsStep) : Decidable (world.ReadyReflects host step) :=
  inferInstanceAs (Decidable (world.AtFinish _ step))

/-- A publication that was computed from a source is the active one, no entry has lost its only
transfers since, and no row of the roster was written since in the millisecond of its watermark. -/
def TrendsWorld.StillCurrent (scope : TrendsScope) (snapshot : TrendsSnapshot) (id : ℕ)
    (source : TrendsSource) : Prop :=
  (∃ row ∈ world.tables.publications.find id, row.isActive) ∧
    ¬ source.TransfersLost snapshot.source scope ∧ ¬ source.WrittenUnnoticed snapshot.source scope

instance (scope : TrendsScope) (snapshot : TrendsSnapshot) (id : ℕ) (source : TrendsSource) :
    Decidable (world.StillCurrent scope snapshot id source) :=
  inferInstanceAs (Decidable (_ ∧ _ ∧ _))

/-- When the picks are ready, every publication of the scope whose source has the checksum text of
the call is still current. -/
def TrendsWorld.ReusesCurrent : TrendsStep → Prop :=
  world.AtFinish fun _ scope snapshot => (snapshot.source.audit scope).picksReady →
    ∀ entry ∈ snapshot.tables.publications.entries, entry.2.scope = scope →
      ∀ source ∈ world.sources.find entry.1,
        source.checksumText host scope = snapshot.source.checksumText host scope →
          world.StillCurrent scope snapshot entry.1 source

instance (step : TrendsStep) : Decidable (world.ReusesCurrent host step) :=
  inferInstanceAs (Decidable (world.AtFinish _ step))

/-- The texts of the call and those of the publications that it sees have different digests when
they are different. -/
def TrendsWorld.DigestsDiffer : TrendsStep → Prop :=
  world.AtFinish fun _ scope snapshot =>
    ∀ entry ∈ snapshot.tables.publications.entries, entry.2.scope = scope →
      ∀ source ∈ world.sources.find entry.1,
        (host.sha256 (source.checksumText host scope) =
            host.sha256 (snapshot.source.checksumText host scope) →
          source.checksumText host scope = snapshot.source.checksumText host scope) ∧
        (host.md5 (source.rosterText scope) = host.md5 (snapshot.source.rosterText scope) →
          source.rosterText scope = snapshot.source.rosterText scope)

instance (step : TrendsStep) : Decidable (world.DigestsDiffer host step) :=
  inferInstanceAs (Decidable (world.AtFinish _ step))

variable {host world}

/-- A call whose reuses are current reports what is active. -/
theorem TrendsWorld.Sound.readyReflects (hmd5 : ∀ text, (host.md5 text).length = 32)
    (h : world.Sound host) {step : TrendsStep} (hdigests : world.DigestsDiffer host step)
    (hcurrent : world.ReusesCurrent host step) : world.ReadyReflects host step := by
  cases step with
  | finish callId now =>
    intro attempt hattempt result tables hpublish hownership
    obtain ⟨scope, snapshot⟩ := attempt
    have hsees := h.seen callId _ hattempt
    unfold publishOnce at hpublish
    cases hexisting : snapshot.tables.existing scope
        (host.sha256 (snapshot.source.checksumText host scope)) with
    | none =>
      simp only [hexisting] at hpublish
      obtain ⟨hnoRow, hnoRows, -⟩ := h.fresh _ (Nat.le_refl world.tables.nextPublicationId)
      have hadded := addPublication_eq_ok hnoRow hpublish
      have hready : (snapshot.source.audit scope).picksReady := by
        by_contra hnot
        rw [hadded.ownership, capabilityState, if_neg hnot] at hownership
        cases hownership
      exact ⟨_, _, hadded.added, rfl, decide_eq_true hready, hadded.rows hready hnoRows⟩
    | some entry =>
      simp only [hexisting] at hpublish
      cases hpublish
      have hready : (snapshot.source.audit scope).picksReady := by
        by_contra hnot
        simp only [capabilityState, if_neg hnot] at hownership
        cases hownership
      obtain ⟨hrow, hscope, hchecksum⟩ := existing_eq_some hexisting
      obtain ⟨row, source, hstored, hsame, hsameChecksum, hnoted, hprecedes⟩ :=
        hsees.publications _ _ hrow
      obtain ⟨source', hcomputed⟩ := h.recorded _ _ hstored
      have hsource : source' = source := Option.some.inj (hcomputed.noted.symm.trans hnoted)
      subst hsource
      have hmem := KeyedTable.mem_entries_iff.mpr hrow
      have hdigest := hdigests (scope, snapshot) hattempt entry hmem hscope source' hnoted
      have hrowScope : row.scope = scope := hsame.trans hscope
      -- the digest on file is that of the source the publication was computed from
      have hsha : host.sha256 (source'.checksumText host scope) =
          host.sha256 (snapshot.source.checksumText host scope) := by
        rw [← hrowScope, ← hcomputed.checksum, hsameChecksum, hchecksum, hrowScope]
      have htext := hdigest.1 hsha
      obtain ⟨⟨active, hactive, hisActive⟩, hkept, hnone⟩ :=
        hcurrent (scope, snapshot) hattempt hready entry hmem hscope source' hnoted htext
      have hindistinct := indistinct_of_checksumText hmd5 hdigest.2 hcomputed.bounded
        hsees.bounded hprecedes htext hnone
      have hactiveRow : active = row := Option.some.inj (hactive.symm.trans hstored)
      subst hactiveRow
      refine ⟨entry.1, active, hstored, hrowScope, hisActive, ?_⟩
      rw [← hindistinct.trendRows_eq hready hkept, ← hrowScope]
      apply hcomputed.rows
      rw [hrowScope, hindistinct.audit]
      exact hready
  | write => trivial
  | call => trivial
  | begin => trivial
  | fail => trivial

end Reports

/-- In every run at most one publication of a scope is active and no revision of it is used twice.
When every call that reuses a publication reuses the active one, and neither a lost transfer nor a
write within the millisecond of the watermark has escaped the checksum, every call that returns
with its ownership ready finds the rows of its snapshot active. -/
theorem trendsPublications_reflectSource (host : TrendsHost)
    (hmd5 : ∀ text, (host.md5 text).length = 32) (steps : List TrendsStep)
    (hdigests : EveryStep (trendsStep host) (TrendsWorld.DigestsDiffer host) .initial steps) :
    (runSteps (trendsStep host) .initial steps).tables.OneActive ∧
      (runSteps (trendsStep host) .initial steps).tables.RevisionsDistinct ∧
        (EveryStep (trendsStep host) (TrendsWorld.ReusesCurrent host) .initial steps →
          EveryStep (trendsStep host) (TrendsWorld.ReadyReflects host) .initial steps) := by
  have hstep : ∀ world action, TrendsWorld.Sound host world →
      TrendsWorld.Sound host (trendsStep host world action) :=
    fun _ action h => h.step action
  have hsound : TrendsWorld.Sound host (runSteps (trendsStep host) .initial steps) :=
    runSteps_invariant hstep _ _ .initial
  refine ⟨hsound.oneActive, hsound.revisions, ?_⟩
  intro hcurrent
  exact EveryStep.of_guard (fun world action h _ => hstep world action h)
    (fun world action h hguard => h.readyReflects hmd5 hguard.1 hguard.2) .initial
    (everyStep_and.mpr ⟨hdigests, hcurrent⟩)

/-! ### An entry that leaves and returns -/

/-- Fifteen picks of an entry. -/
def fifteenPicks (entryId : ℕ) : List SourceChange :=
  (List.range 15).map fun place =>
    .savePick ⟨1, entryId, 1, place + 1, place + 1, 1, place = 0, place = 1, 0⟩

/-- The scope of the example. -/
def returnScope : TrendsScope := ⟨1, 7, 1⟩

/-- The digests of the texts that are digested below. -/
def returnHost : TrendsHost where
  player := fun _ _ => some ⟨none, none, "P", 1, 1⟩
  teamShortName := fun _ _ => some "ABC"
  md5 := fun text =>
    if text = "1,1,1,1,1,1,1,1,1,1,1,1,1,1,1,2,2,2,2,2,2,2,2,2,2,2,2,2,2,2" then
      "a0f83d10777895b168f5fbb77c469137"
    else if text = "1,1,1,1,1,1,1,1,1,1,1,1,1,1,1" then "2f852bf2420345dc7bed25533e81a426"
    else "62679d3e6c5d697bc8f5a3abcd948b05"
  sha256 := fun text =>
    if text = "1:7:1:2:2:0:2026-05-28T20:26:40.000Z:a0f83d10777895b168f5fbb77c469137:" ++
        "62679d3e6c5d697bc8f5a3abcd948b05" then
      "483faf779559a42d39650ff647ad519fd14d74e0c1cf7d648ace3692548c3ca1"
    else "67c05872ea6b5b3bb3e7a1e8cdde34bb9113457751907ce4ac83e862e4b6e937"

/-- Its roster digests have the length of digests. -/
theorem returnHost_length_md5 (text : String) : (returnHost.md5 text).length = 32 := by
  unfold returnHost
  dsimp only
  split
  · decide
  · split <;> decide

/-- Two entries are prepared, published, and published again. -/
def twoEntriesPublished : List TrendsStep :=
  [.write 1780000000000000 ([.enterRoster 1 7 1, .enterRoster 1 7 2,
      .saveEntry 1 1 none none, .saveEntry 1 2 none none] ++ fifteenPicks 1 ++ fifteenPicks 2),
    .call 0 returnScope, .begin 0, .finish 0 1780000001000]

/-- The second call reuses the active publication. -/
theorem trendsPublications_reflectSource_repeated :
    EveryStep (trendsStep returnHost) (TrendsWorld.ReadyReflects returnHost) .initial
      (twoEntriesPublished ++ [.call 1 returnScope, .begin 1, .finish 1 1780000002000]) :=
  (trendsPublications_reflectSource returnHost returnHost_length_md5
    (twoEntriesPublished ++ [.call 1 returnScope, .begin 1, .finish 1 1780000002000])
    (by decide +kernel)).2.2 (by decide +kernel)

/-- One of two entries leaves the roster and returns. The publication of both is found and reused,
while the publication of one entry stays active. -/
theorem returnedEntry_staysUnpublished :
    ¬ ∀ (host : TrendsHost), (∀ text, (host.md5 text).length = 32) → ∀ steps : List TrendsStep,
      EveryStep (trendsStep host) (TrendsWorld.DigestsDiffer host) .initial steps →
        EveryStep (trendsStep host) (TrendsWorld.ReadyReflects host) .initial steps := by
  intro h
  have hreflects := h returnHost returnHost_length_md5
    (twoEntriesPublished ++
      [.write 1780000002000000 [.leaveRoster 7 2], .call 1 returnScope, .begin 1,
        .finish 1 1780000003000, .write 1780000004000000 [.enterRoster 1 7 2],
        .call 2 returnScope, .begin 2, .finish 2 1780000005000])
    (by decide +kernel)
  exact absurd hreflects (by decide +kernel)

end LetletmeData
