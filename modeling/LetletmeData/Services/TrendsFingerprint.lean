import LetletmeData.Services.TrendsRuns

/-!
# What the checksum says of the source

A source that was read later with the same checksum text has the same roster with as many joined
rows for every member, and the same watermark. When no write since falls in the millisecond of the
watermark, the rows of the roster that are there now were there before. The picks are then the same
because they are complete, and the transfers because the joined rows count them, unless an entry has
lost its only one.
-/

namespace LetletmeData

open LetletmeData.Library

/-- A stamp of a write until then. -/
def TrendsSource.Stamped (source : TrendsSource) (stamp : ℕ) : Prop :=
  stamp ≤ source.clock ∧ isoYear (stamp / 1000) < 10000

/-- All rows have been stamped by writes. -/
structure TrendsSource.Bounded (source : TrendsSource) : Prop where
  entries : ∀ key entry, source.entries.find key = some entry → source.Stamped entry.updatedAt
  picks : ∀ pick ∈ source.picks, source.Stamped pick.sourceUpdatedAt
  transfers : ∀ transfer ∈ source.transfers, source.Stamped transfer.updatedAt

/-- Rows of the later source that have not been written since the earlier one was read were there
already. -/
structure TrendsSource.Precedes (earlier later : TrendsSource) : Prop where
  clock : earlier.clock ≤ later.clock
  entries : ∀ key entry, later.entries.find key = some entry → entry.updatedAt ≤ earlier.clock →
    earlier.entries.find key = some entry
  picks : UnwrittenSince (·.sourceUpdatedAt) earlier.clock earlier.picks later.picks
  transfers : UnwrittenSince (·.updatedAt) earlier.clock earlier.transfers later.transfers

/-! ### The rows of the join -/

section Join

variable {source : TrendsSource} {scope : TrendsScope} {entryId : ℕ}

/-- No row of nulls is missing. -/
theorem leftJoin_length_pos {Row : Type} (rows : List Row) : 0 < (leftJoin rows).length := by
  cases rows <;> simp [leftJoin]

/-- A join counts its rows, and a row of nulls where there is none. -/
theorem leftJoin_length {Row : Type} (rows : List Row) :
    (leftJoin rows).length = max 1 rows.length := by
  cases rows with
  | nil => rfl
  | cons row rest => simp [leftJoin]

/-- The rows are joined. -/
theorem mem_leftJoin {Row : Type} {rows : List Row} {row : Row} (h : row ∈ rows) :
    some row ∈ leftJoin rows := by
  cases rows with
  | nil => exact absurd h List.not_mem_nil
  | cons first rest => simpa [leftJoin] using h

/-- A member stands once on the roster. -/
theorem nodup_members : (source.members scope).Nodup := by
  apply List.Nodup.map_on
  · intro row hrow other hother heq
    obtain ⟨key, seasonId⟩ := row
    obtain ⟨key', seasonId'⟩ := other
    obtain ⟨-, htournament, hseason⟩ := KeyedTable.mem_selectWhere.mp hrow
    obtain ⟨-, htournament', hseason'⟩ := KeyedTable.mem_selectWhere.mp hother
    have hkey : key = key' := Prod.ext (htournament.trans htournament'.symm) heq
    rw [hkey, hseason, hseason']
  · exact (KeyedTable.nodup_entries _).filter _

/-- The number of joined rows of an entry. -/
def TrendsSource.joinedRows (source : TrendsSource) (scope : TrendsScope) (entryId : ℕ) : ℕ :=
  match source.entry scope entryId with
  | none => 0
  | some _ => (leftJoin (source.picksOf scope entryId)).length *
      (leftJoin (source.transfersOf scope entryId)).length

/-- A list of equal lists. -/
theorem flatMap_replicate {α β : Type} (rows : List α) (count : ℕ) (value : β) :
    (rows.flatMap fun _ => List.replicate count value) =
      List.replicate (rows.length * count) value := by
  apply List.eq_replicate_iff.mpr
  constructor
  · simp [List.length_flatMap]
  · intro other hother
    obtain ⟨-, -, hother⟩ := List.mem_flatMap.mp hother
    exact List.eq_of_mem_replicate hother

/-- Each member stands in the join as often as it has rows. -/
theorem map_entryId_joined : (source.joined scope).map (·.entryId) =
    (source.members scope).flatMap fun entryId =>
      List.replicate (source.joinedRows scope entryId) entryId := by
  unfold TrendsSource.joined
  rw [List.map_flatMap]
  congr 1
  funext entryId
  unfold TrendsSource.joinedRows
  cases source.entry scope entryId with
  | none => rfl
  | some entry =>
    simp only [List.map_flatMap, List.map_map]
    rw [← flatMap_replicate]
    congr 1
    funext pick
    apply List.eq_replicate_iff.mpr
    simp

/-- Copies of distinct values. -/
theorem count_flatMap_replicate {values : List ℕ} (hvalues : values.Nodup) (copies : ℕ → ℕ)
    (value : ℕ) : (values.flatMap fun value => List.replicate (copies value) value).count value =
      if value ∈ values then copies value else 0 := by
  induction values with
  | nil => rfl
  | cons first rest ih =>
    obtain ⟨hfirst, hrest⟩ := List.nodup_cons.mp hvalues
    rw [List.flatMap_cons, List.count_append, ih hrest, List.count_replicate]
    by_cases heq : first = value
    · subst heq
      simp [hfirst]
    · have hne : value ≠ first := Ne.symm heq
      simp [heq, hne]

/-- How often an entry stands in the join. -/
theorem count_joined : ((source.joined scope).map (·.entryId)).count entryId =
    if entryId ∈ source.members scope then source.joinedRows scope entryId else 0 := by
  rw [map_entryId_joined, count_flatMap_replicate nodup_members]

/-- Only rows are joined. -/
theorem of_some_mem_leftJoin {Row : Type} {rows : List Row} {row : Row}
    (h : some row ∈ leftJoin rows) : row ∈ rows := by
  cases rows with
  | nil => simp [leftJoin] at h
  | cons first rest => simpa [leftJoin] using h

/-- A joined row brings together rows of an entry. -/
theorem mem_joined {row : JoinedRow} : row ∈ source.joined scope ↔
    row.entryId ∈ source.members scope ∧ source.entry scope row.entryId = some row.entry ∧
      row.pick ∈ leftJoin (source.picksOf scope row.entryId) ∧
        row.transfer ∈ leftJoin (source.transfersOf scope row.entryId) := by
  unfold TrendsSource.joined
  rw [List.mem_flatMap]
  constructor
  · rintro ⟨entryId, hmember, hrow⟩
    cases hentry : source.entry scope entryId with
    | none => simp [hentry] at hrow
    | some entry =>
      simp only [hentry, List.mem_flatMap, List.mem_map] at hrow
      obtain ⟨pick, hpick, transfer, htransfer, rfl⟩ := hrow
      exact ⟨hmember, hentry, hpick, htransfer⟩
  · rintro ⟨hmember, hentry, hpick, htransfer⟩
    refine ⟨row.entryId, hmember, ?_⟩
    simp only [hentry, List.mem_flatMap, List.mem_map]
    exact ⟨row.pick, hpick, row.transfer, htransfer, rfl⟩

/-- The stamps that the watermark is taken from. -/
def TrendsSource.stamps (source : TrendsSource) (scope : TrendsScope) : List ℕ :=
  (source.joined scope).flatMap JoinedRow.stamps

/-- They are stamps of writes. -/
theorem TrendsSource.Bounded.stamped (h : source.Bounded) {stamp : ℕ}
    (hstamp : stamp ∈ source.stamps scope) : source.Stamped stamp := by
  obtain ⟨row, hrow, hstamp⟩ := List.mem_flatMap.mp hstamp
  obtain ⟨-, hentry, hpick, htransfer⟩ := mem_joined.mp hrow
  rcases List.mem_cons.mp hstamp with rfl | hstamp
  · exact h.entries _ _ hentry
  · rcases List.mem_append.mp hstamp with hstamp | hstamp
    · obtain ⟨pick, hsome, rfl⟩ := List.mem_map.mp hstamp
      rw [Option.mem_toList.mp hsome] at hpick
      exact h.picks _ (List.mem_of_mem_filter (of_some_mem_leftJoin hpick))
    · obtain ⟨transfer, hsome, rfl⟩ := List.mem_map.mp hstamp
      rw [Option.mem_toList.mp hsome] at htransfer
      exact h.transfers _ (List.mem_of_mem_filter (of_some_mem_leftJoin htransfer))

/-- No stamp is later than the watermark's millisecond. -/
theorem le_sourceWatermark {stamp : ℕ} (h : stamp ∈ source.stamps scope) :
    stamp / 1000 ≤ source.sourceWatermark scope :=
  Nat.div_le_div_right (List.le_max?_getD_of_mem h)

/-- The watermark is a stamp, or the epoch. -/
theorem sourceWatermark_cases (source : TrendsSource) (scope : TrendsScope) :
    source.sourceWatermark scope = 0 ∨
    ∃ stamp ∈ source.stamps scope, source.sourceWatermark scope = stamp / 1000 := by
  unfold TrendsSource.sourceWatermark
  cases hmax : ((source.joined scope).flatMap JoinedRow.stamps).max? with
  | none => exact Or.inl rfl
  | some stamp => exact Or.inr ⟨stamp, List.max?_mem hmax, rfl⟩

/-- The watermark is not later than the reading. -/
theorem TrendsSource.Bounded.sourceWatermark_le (h : source.Bounded) (scope : TrendsScope) :
    source.sourceWatermark scope ≤ source.clock / 1000 := by
  rcases sourceWatermark_cases source scope with hzero | ⟨stamp, hmem, heq⟩
  · rw [hzero]
    exact Nat.zero_le _
  · rw [heq]
    exact Nat.div_le_div_right (h.stamped hmem).1

/-- The watermark has a year of four digits. -/
theorem TrendsSource.Bounded.isoYear_sourceWatermark (h : source.Bounded) (scope : TrendsScope) :
    isoYear (source.sourceWatermark scope) < 10000 := by
  rcases sourceWatermark_cases source scope with hzero | ⟨stamp, hmem, heq⟩
  · rw [hzero]
    decide
  · rw [heq]
    exact (h.stamped hmem).2

variable {entry : TrendsEntry}

/-- The entries, picks and transfers of the members give stamps. -/
theorem stamp_entry (hmember : entryId ∈ source.members scope)
    (hentry : source.entry scope entryId = some entry) :
    entry.updatedAt ∈ source.stamps scope := by
  obtain ⟨pick, hpick⟩ := List.exists_mem_of_length_pos
    (leftJoin_length_pos (source.picksOf scope entryId))
  obtain ⟨transfer, htransfer⟩ := List.exists_mem_of_length_pos
    (leftJoin_length_pos (source.transfersOf scope entryId))
  exact List.mem_flatMap.mpr ⟨⟨entryId, entry, pick, transfer⟩,
    mem_joined.mpr ⟨hmember, hentry, hpick, htransfer⟩, List.mem_cons_self⟩

/-- See `stamp_entry`. -/
theorem stamp_pick (hmember : entryId ∈ source.members scope)
    (hentry : source.entry scope entryId = some entry) {pick : TrendsPick}
    (hpick : pick ∈ source.picksOf scope entryId) :
    pick.sourceUpdatedAt ∈ source.stamps scope := by
  obtain ⟨transfer, htransfer⟩ := List.exists_mem_of_length_pos
    (leftJoin_length_pos (source.transfersOf scope entryId))
  refine List.mem_flatMap.mpr ⟨⟨entryId, entry, some pick, transfer⟩,
    mem_joined.mpr ⟨hmember, hentry, mem_leftJoin hpick, htransfer⟩, ?_⟩
  simp [JoinedRow.stamps]

/-- See `stamp_entry`. -/
theorem stamp_transfer (hmember : entryId ∈ source.members scope)
    (hentry : source.entry scope entryId = some entry) {transfer : TrendsTransfer}
    (htransfer : transfer ∈ source.transfersOf scope entryId) :
    transfer.updatedAt ∈ source.stamps scope := by
  obtain ⟨pick, hpick⟩ := List.exists_mem_of_length_pos
    (leftJoin_length_pos (source.picksOf scope entryId))
  refine List.mem_flatMap.mpr ⟨⟨entryId, entry, pick, some transfer⟩,
    mem_joined.mpr ⟨hmember, hentry, hpick, mem_leftJoin htransfer⟩, ?_⟩
  simp [JoinedRow.stamps]

end Join

/-! ### The text -/

section Text

variable {host : TrendsHost} {earlier later : TrendsSource} {scope : TrendsScope}

/-- Sources with the same checksum text have the same counts, the same watermark and the same
roster digest. -/
theorem eq_of_checksumText (hmd5 : ∀ text, (host.md5 text).length = 32)
    (hearlier : earlier.Bounded) (hlater : later.Bounded)
    (h : earlier.checksumText host scope = later.checksumText host scope) :
    earlier.audit scope = later.audit scope ∧
      earlier.sourceWatermark scope = later.sourceWatermark scope ∧
        host.md5 (earlier.rosterText scope) = host.md5 (later.rosterText scope) := by
  have hlist := congrArg String.toList h
  have hcolon : (toString ":").toList = [':'] := rfl
  simp only [TrendsSource.checksumText, String.toList_append, List.append_assoc, hcolon,
    List.cons_append, List.nil_append, List.append_cancel_left_eq, List.cons.injEq,
    true_and] at hlist
  obtain ⟨hexpected, hlist⟩ := repr_append_injective rfl hlist
  obtain ⟨hcomplete, hlist⟩ := repr_append_injective rfl hlist
  obtain ⟨hsynced, hlist⟩ := repr_append_injective rfl hlist
  obtain ⟨htime, hlist⟩ := List.append_inj hlist
    ((length_toISOString _).trans (length_toISOString _).symm)
  obtain ⟨hroster, -⟩ := List.append_inj (List.cons.inj hlist).2
    (show (host.md5 _).toList.length = (host.md5 _).toList.length by
      rw [String.length_toList, String.length_toList, hmd5, hmd5])
  have htimes := toISOString_injective (hearlier.isoYear_sourceWatermark scope)
    (hlater.isoYear_sourceWatermark scope) (String.toList_inj.mp htime)
  exact ⟨ScopeAudit.ext hexpected hcomplete hsynced, htimes, String.toList_inj.mp hroster⟩

/-- The roster text tells how often each entry stands in the join. -/
theorem count_joined_of_rosterText (h : earlier.rosterText scope = later.rosterText scope)
    (entryId : ℕ) : ((earlier.joined scope).map (·.entryId)).count entryId =
      ((later.joined scope).map (·.entryId)).count entryId := by
  have htexts : ∀ ids : List ℕ, ∀ text ∈ ids.map fun entryId => entryId.repr.toList,
      text ≠ [] ∧ ',' ∉ text := by
    intro ids text htext
    obtain ⟨id, -, rfl⟩ := List.mem_map.mp htext
    rw [Nat.toList_repr]
    exact ⟨Nat.toDigits_ne_nil, not_mem_toDigits rfl id⟩
  have hrepr : Function.Injective fun entryId : ℕ => entryId.repr.toList := by
    intro left right heq
    simp only [Nat.toList_repr] at heq
    exact toDigits_ten_injective heq
  have hjoined := commaJoined_injective (htexts _) (htexts _) (String.ofList_injective h)
  have hsorted := List.map_injective_iff.mpr hrepr hjoined
  rw [← (List.perm_insertionSort (· ≤ ·) _).count_eq entryId, hsorted,
    (List.perm_insertionSort (· ≤ ·) _).count_eq entryId]

end Text

/-! ### The aggregates -/

section Aggregates

/-- An eligible entry had transfers and has none left. -/
def TrendsSource.TransfersLost (earlier later : TrendsSource) (scope : TrendsScope) : Prop :=
  ∃ entryId ∈ later.eligible scope,
    later.transfersOf scope entryId = [] ∧ earlier.transfersOf scope entryId ≠ []

instance (earlier later : TrendsSource) (scope : TrendsScope) :
    Decidable (earlier.TransfersLost later scope) :=
  inferInstanceAs (Decidable (∃ entryId ∈ later.eligible scope, _))

/-- A row of the roster was written after the earlier reading, in the millisecond of its
watermark. -/
def TrendsSource.WrittenUnnoticed (earlier later : TrendsSource) (scope : TrendsScope) : Prop :=
  ∃ stamp ∈ later.stamps scope,
    earlier.clock < stamp ∧ stamp / 1000 = earlier.sourceWatermark scope

instance (earlier later : TrendsSource) (scope : TrendsScope) :
    Decidable (earlier.WrittenUnnoticed later scope) :=
  inferInstanceAs (Decidable (∃ stamp ∈ later.stamps scope, _))

variable {host : TrendsHost} {source earlier later : TrendsSource} {scope : TrendsScope}
  {entryId : ℕ} {entry : TrendsEntry}

/-- When the watermark is the same, only a write in its millisecond is later than the reading. -/
theorem stamps_le_clock (hearlier : earlier.Bounded)
    (hwatermark : earlier.sourceWatermark scope = later.sourceWatermark scope)
    (hnone : ¬ earlier.WrittenUnnoticed later scope) :
    ∀ stamp ∈ later.stamps scope, stamp ≤ earlier.clock := by
  intro stamp hstamp
  by_contra hlate
  have hupper := le_sourceWatermark hstamp
  have hlower : earlier.clock / 1000 ≤ stamp / 1000 := Nat.div_le_div_right (by omega)
  have hclock := hearlier.sourceWatermark_le scope
  exact hnone ⟨stamp, hstamp, by omega, by omega⟩

/-- An earlier and a later source that their counts, their watermark and their roster text do not
tell apart. -/
structure TrendsSource.Indistinct (earlier later : TrendsSource) (scope : TrendsScope) : Prop where
  precedes : earlier.Precedes later
  audit : earlier.audit scope = later.audit scope
  joined : ∀ entryId, ((earlier.joined scope).map (·.entryId)).count entryId =
    ((later.joined scope).map (·.entryId)).count entryId
  unwritten : ∀ stamp ∈ later.stamps scope, stamp ≤ earlier.clock

/-- The members that have an entry are those of the join. -/
theorem count_joined_pos : 0 < ((source.joined scope).map (·.entryId)).count entryId ↔
    entryId ∈ source.members scope ∧ ∃ entry, source.entry scope entryId = some entry := by
  rw [count_joined]
  unfold TrendsSource.joinedRows
  by_cases hmember : entryId ∈ source.members scope
  · cases hentry : source.entry scope entryId with
    | none => simp
    | some entry => simp [hmember, leftJoin_length_pos]
  · simp [hmember]

/-- An eligible member has an entry that has started. -/
theorem mem_eligible : entryId ∈ source.eligible scope ↔ entryId ∈ source.members scope ∧
    ∃ entry, source.entry scope entryId = some entry ∧ entry.Started scope.eventId := by
  simp [TrendsSource.eligible, TrendsSource.Eligible]

namespace TrendsSource.Indistinct

variable (h : earlier.Indistinct later scope)
include h

/-- The members that have an entry are the same, and so are their entries. -/
theorem entry_iff : entryId ∈ earlier.members scope ∧ earlier.entry scope entryId = some entry ↔
    entryId ∈ later.members scope ∧ later.entry scope entryId = some entry := by
  have hstands : entryId ∈ later.members scope → ∀ entry,
      later.entry scope entryId = some entry → earlier.entry scope entryId = some entry := by
    intro hmember entry hentry
    exact h.precedes.entries _ _ hentry (h.unwritten _ (stamp_entry hmember hentry))
  constructor
  · rintro ⟨hmember, hentry⟩
    have hpos := count_joined_pos.mpr ⟨hmember, entry, hentry⟩
    rw [h.joined, count_joined_pos] at hpos
    obtain ⟨hmember', entry', hentry'⟩ := hpos
    have hsame := hstands hmember' entry' hentry'
    rw [hentry] at hsame
    exact ⟨hmember', hentry'.trans hsame.symm⟩
  · rintro ⟨hmember, hentry⟩
    have hpos := count_joined_pos.mpr ⟨hmember, entry, hentry⟩
    rw [← h.joined, count_joined_pos] at hpos
    exact ⟨hpos.1, hstands hmember entry hentry⟩

/-- The eligible entries are the same. -/
theorem mem_eligible_iff : entryId ∈ earlier.eligible scope ↔ entryId ∈ later.eligible scope := by
  rw [mem_eligible, mem_eligible]
  constructor
  · rintro ⟨hmember, entry, hentry, hstarted⟩
    obtain ⟨hmember', hentry'⟩ := h.entry_iff.mp ⟨hmember, hentry⟩
    exact ⟨hmember', entry, hentry', hstarted⟩
  · rintro ⟨hmember, entry, hentry, hstarted⟩
    obtain ⟨hmember', hentry'⟩ := h.entry_iff.mpr ⟨hmember, hentry⟩
    exact ⟨hmember', entry, hentry', hstarted⟩

/-- The eligible entries keep their rows in the join. -/
theorem joinedRows_eq (heligible : entryId ∈ later.eligible scope) :
    (leftJoin (earlier.picksOf scope entryId)).length *
        (leftJoin (earlier.transfersOf scope entryId)).length =
      (leftJoin (later.picksOf scope entryId)).length *
        (leftJoin (later.transfersOf scope entryId)).length := by
  obtain ⟨hmember, entry, hentry, -⟩ := mem_eligible.mp heligible
  obtain ⟨hmember', hentry'⟩ := h.entry_iff.mpr ⟨hmember, hentry⟩
  have hcount := h.joined entryId
  rw [count_joined, count_joined, if_pos hmember, if_pos hmember'] at hcount
  simpa only [TrendsSource.joinedRows, hentry, hentry'] using hcount

/-- The picks that are counted have stood since. -/
theorem picksIn_sublist : (later.picksIn scope (later.eligible scope)).Sublist
    (earlier.picksIn scope (later.eligible scope)) := by
  apply h.precedes.picks.filter
  intro pick hpick hselected
  obtain ⟨hseason, hevent, heligible⟩ := of_decide_eq_true hselected
  obtain ⟨hmember, entry, hentry, -⟩ := mem_eligible.mp heligible
  apply h.unwritten
  apply stamp_pick hmember hentry
  simp [TrendsSource.picksOf, hpick, hseason, hevent]

/-- The transfers that are counted have stood since. -/
theorem transfersIn_sublist : (later.transfersIn scope (later.eligible scope)).Sublist
    (earlier.transfersIn scope (later.eligible scope)) := by
  apply h.precedes.transfers.filter
  intro transfer htransfer hselected
  obtain ⟨hseason, hevent, heligible⟩ := of_decide_eq_true hselected
  obtain ⟨hmember, entry, hentry, -⟩ := mem_eligible.mp heligible
  apply h.unwritten
  apply stamp_transfer hmember hentry
  simp [TrendsSource.transfersOf, htransfer, hseason, hevent]

end TrendsSource.Indistinct

/-- The picks of some entries are the picks of each. -/
theorem countP_picksIn (source : TrendsSource) (scope : TrendsScope) (entryIds : List ℕ)
    (entryId : ℕ) : (source.picksIn scope entryIds).countP (·.entryId = entryId) =
      if entryId ∈ entryIds then (source.picksOf scope entryId).length else 0 := by
  unfold TrendsSource.picksIn TrendsSource.picksOf
  rw [List.countP_filter, ← List.countP_eq_length_filter]
  split
  · next hmem =>
    apply List.countP_congr
    intro pick _
    by_cases hpick : pick.entryId = entryId <;> simp [hpick, hmem]
  · next hnot =>
    apply List.countP_eq_zero.mpr
    intro pick _ hpick
    simp only [Bool.and_eq_true, decide_eq_true_eq] at hpick
    exact hnot (hpick.1 ▸ hpick.2.2.2)

/-- The transfers of some entries are the transfers of each. -/
theorem countP_transfersIn (source : TrendsSource) (scope : TrendsScope) (entryIds : List ℕ)
    (entryId : ℕ) : (source.transfersIn scope entryIds).countP (·.entryId = entryId) =
      if entryId ∈ entryIds then (source.transfersOf scope entryId).length else 0 := by
  unfold TrendsSource.transfersIn TrendsSource.transfersOf
  rw [List.countP_filter, ← List.countP_eq_length_filter]
  split
  · next hmem =>
    apply List.countP_congr
    intro transfer _
    by_cases htransfer : transfer.entryId = entryId <;> simp [htransfer, hmem]
  · next hnot =>
    apply List.countP_eq_zero.mpr
    intro transfer _ htransfer
    simp only [Bool.and_eq_true, decide_eq_true_eq] at htransfer
    exact hnot (htransfer.1 ▸ htransfer.2.2.2)

/-- When the picks are ready, every eligible entry has fifteen. -/
theorem length_picksOf (hready : (source.audit scope).picksReady)
    (heligible : entryId ∈ source.eligible scope) :
    (source.picksOf scope entryId).length = 15 := by
  have hall := List.countP_eq_length.mp hready.2 entryId heligible
  exact (of_decide_eq_true hall).1

namespace TrendsSource.Indistinct

variable (h : earlier.Indistinct later scope)
include h

/-- The picks that are counted are the same. -/
theorem picksIn_eq (hready : (later.audit scope).picksReady) :
    later.picksIn scope (later.eligible scope) = earlier.picksIn scope (later.eligible scope) := by
  have hready' : (earlier.audit scope).picksReady := by rwa [h.audit]
  apply sublist_eq_of_countP (·.entryId) h.picksIn_sublist
  intro entryId
  rw [countP_picksIn, countP_picksIn]
  split
  · next heligible =>
    rw [length_picksOf hready heligible,
      length_picksOf hready' (h.mem_eligible_iff.mpr heligible)]
  · rfl

/-- The transfers that are counted are the same, when no entry has lost all of its own. -/
theorem transfersIn_eq (hready : (later.audit scope).picksReady)
    (hkept : ¬ earlier.TransfersLost later scope) :
    later.transfersIn scope (later.eligible scope) =
      earlier.transfersIn scope (later.eligible scope) := by
  have hready' : (earlier.audit scope).picksReady := by rwa [h.audit]
  have hfewer := fun entryId =>
    h.transfersIn_sublist.countP_le (p := fun transfer => transfer.entryId = entryId)
  apply sublist_eq_of_countP (·.entryId) h.transfersIn_sublist
  intro entryId
  have hle := hfewer entryId
  rw [countP_transfersIn, countP_transfersIn] at hle ⊢
  split
  · next heligible =>
    -- fifteen picks on either side, so the rows of the join count the transfers
    have hrows := h.joinedRows_eq heligible
    rw [leftJoin_length, leftJoin_length, leftJoin_length, leftJoin_length,
      length_picksOf hready heligible,
      length_picksOf hready' (h.mem_eligible_iff.mpr heligible)] at hrows
    have hcounts := Nat.eq_of_mul_eq_mul_left (by decide) hrows
    have hnone : (later.transfersOf scope entryId).length = 0 →
        (earlier.transfersOf scope entryId).length = 0 := by
      intro hzero
      by_contra hsome
      apply hkept
      exact ⟨entryId, heligible, List.eq_nil_of_length_eq_zero hzero,
        fun hnil => hsome (by rw [hnil]; rfl)⟩
    rw [if_pos heligible, if_pos heligible] at hle
    omega
  · rfl

/-- The aggregates are the same. -/
theorem trendRows_eq (hready : (later.audit scope).picksReady)
    (hkept : ¬ earlier.TransfersLost later scope) :
    earlier.trendRows host scope = later.trendRows host scope := by
  have hpicks : earlier.picksIn scope (earlier.eligible scope) =
      earlier.picksIn scope (later.eligible scope) := by
    apply List.filter_congr
    intro pick _
    simp only [h.mem_eligible_iff]
  have htransfers : earlier.transfersIn scope (earlier.eligible scope) =
      earlier.transfersIn scope (later.eligible scope) := by
    apply List.filter_congr
    intro transfer _
    simp only [h.mem_eligible_iff]
  unfold TrendsSource.trendRows
  simp only [hpicks, htransfers, h.picksIn_eq hready, h.transfersIn_eq hready hkept, h.audit]

end TrendsSource.Indistinct

/-- Sources with the same checksum text are not told apart, unless a row was written in the
millisecond of the watermark. -/
theorem indistinct_of_checksumText (hmd5 : ∀ text, (host.md5 text).length = 32)
    (hdigests : host.md5 (earlier.rosterText scope) = host.md5 (later.rosterText scope) →
      earlier.rosterText scope = later.rosterText scope)
    (hearlier : earlier.Bounded) (hlater : later.Bounded) (hprecedes : earlier.Precedes later)
    (htext : earlier.checksumText host scope = later.checksumText host scope)
    (hnone : ¬ earlier.WrittenUnnoticed later scope) : earlier.Indistinct later scope := by
  obtain ⟨haudit, hwatermark, hroster⟩ := eq_of_checksumText hmd5 hearlier hlater htext
  exact ⟨hprecedes, haudit, count_joined_of_rosterText (hdigests hroster),
    stamps_le_clock hearlier hwatermark hnone⟩

end Aggregates

end LetletmeData
