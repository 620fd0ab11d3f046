import LetletmeData.Library.CalendarDates
import LetletmeData.Library.RoundRobins
import LetletmeData.Library.Transactions
import Mathlib.GroupTheory.GroupAction.Ring

/-!
# Selection of matches to synchronise

A run synchronises the completed matches that it must: those that are not synchronised, that are
required or that are recent. A reconciling run adds a window of the older ones, which moves on by its
size from day to day.
-/

namespace LetletmeData.MatchSelection

open LetletmeData.Library

/-- `UnderstatSyncMode`. -/
inductive UnderstatSyncMode where
  | incremental
  | full
  | reconcile
  deriving DecidableEq

/-- `UnderstatMatch`, as far as matches are selected by it. -/
structure UnderstatMatch where
  id : ℤ
  kickoffAt : DateValue
  isResult : Bool
  deriving DecidableEq

/-- The input of `selectPlayerMatchIds`, with its `matches` and the time that it runs at. -/
structure PlayerMatchInput where
  mode : UnderstatSyncMode
  matchRows : List UnderstatMatch
  syncedMatchIds : List ℤ
  explicitMatchIds : Option (List ℤ)
  requiredMatchIds : Option (List ℤ)
  now : DateValue
  reconcileLimit : Option ℤ

/-- What a selection throws. -/
inductive SelectionError where
  | unknownIds (message : String)
  | undefinedMatch
  deriving DecidableEq

/-! ### The selection -/

/-- The members of a set in ascending order. -/
def sortedSet (values : List ℤ) : List ℤ := values.dedup.insertionSort (· ≤ ·)

/-- `validateExplicitIds`. -/
def validateExplicitIds (values : Option (List ℤ)) (knownIds : List ℤ) (resource : String) :
    Except SelectionError (Option (List ℤ)) :=
  match values with
  | none => .ok none
  | some values =>
    let unique := sortedSet values
    let unknown := unique.filter (· ∉ knownIds)
    if unknown ≠ [] then
      .error (.unknownIds ("Unknown Understat " ++ resource ++ " IDs: " ++
        ", ".intercalate (unknown.map toString)))
    else .ok (some unique)

/-- `Date.UTC` of the date that a time falls on, in days: years before 100 count from 1900. -/
def utcDay (now : DateValue) : ℤ :=
  let (year, month, day) := calendarFields now.day
  calendarDay (if 0 ≤ year ∧ year ≤ 99 then 1900 + year else year) month day

/-- An element of an array, which is undefined outside of it. -/
def element (values : List UnderstatMatch) (index : ℤ) : Option UnderstatMatch :=
  if index < 0 then none else values[index.toNat]?

/-- The matches of the window of a day. -/
def reconcileWindow (older : List UnderstatMatch) (limit utcDay : ℤ) :
    Except SelectionError (List ℤ) :=
  let start := (utcDay * limit).tmod older.length
  (List.range limit.toNat).mapM fun (index : ℕ) =>
    match element older ((start + (index : ℤ)).tmod older.length) with
    | some found => .ok found.id
    | none => .error .undefinedMatch

namespace PlayerMatchInput

/-- `completed`. -/
def completed (input : PlayerMatchInput) : List UnderstatMatch :=
  input.matchRows.filter fun entry => entry.isResult

/-- `knownIds`. -/
def knownIds (input : PlayerMatchInput) : List ℤ := input.completed.map (·.id)

/-- `correctionCutoff`. -/
def correctionCutoff (input : PlayerMatchInput) : ℤ := input.now.time - 72 * 60 * 60 * 1000

/-- `required`, before a window is added. -/
def required (input : PlayerMatchInput) : List ℤ :=
  ((input.requiredMatchIds.getD []).filter fun matchId => matchId ∈ input.knownIds) ++
    (input.completed.filter fun entry =>
      entry.id ∉ input.syncedMatchIds ∨ input.correctionCutoff ≤ entry.kickoffAt.time).map (·.id)

/-- `older`. -/
def older (input : PlayerMatchInput) : List UnderstatMatch :=
  (input.completed.filter fun entry =>
    entry.kickoffAt.time < input.correctionCutoff).insertionSort fun left right =>
      left.kickoffAt.time ≤ right.kickoffAt.time

/-- The number of older matches in a window. -/
def windowSize (input : PlayerMatchInput) : ℤ :=
  min (input.reconcileLimit.getD 10) input.older.length

/-- `selectPlayerMatchIds`. -/
def selectPlayerMatchIds (input : PlayerMatchInput) : Except SelectionError (List ℤ) := do
  match ← validateExplicitIds input.explicitMatchIds input.knownIds "completed match" with
  | some explicit =>
    return sortedSet
      (explicit ++ (input.requiredMatchIds.getD []).filter fun matchId => matchId ∈ input.knownIds)
  | none =>
    if input.mode = .full then return input.knownIds.insertionSort (· ≤ ·)
    else if input.mode = .reconcile ∧ 0 < input.windowSize then
      let window ← reconcileWindow input.older input.windowSize (utcDay input.now)
      return sortedSet (input.required ++ window)
    else return sortedSet input.required

/-- What a selection lists: matches that are known, each once, and all that the run must take. -/
structure Selected (input : PlayerMatchInput) (selection : List ℤ) : Prop where
  known : ∀ matchId ∈ selection, matchId ∈ input.knownIds
  nodup : selection.Nodup
  unsynced : ∀ entry ∈ input.matchRows, entry.isResult = true →
    entry.id ∉ input.syncedMatchIds → entry.id ∈ selection
  recent : ∀ entry ∈ input.matchRows, entry.isResult = true →
    input.correctionCutoff ≤ entry.kickoffAt.time → entry.id ∈ selection
  required : ∀ matchId ∈ input.requiredMatchIds.getD [], matchId ∈ input.knownIds →
    matchId ∈ selection

end PlayerMatchInput

/-! ### Days -/

/-- From 1970 on the date of a time is that of its day. -/
theorem utcDay_eq_day {now : DateValue} (h : 0 ≤ now.day) : utcDay now = now.day := by
  have hyear : ¬ ((calendarFields now.day).1 ≤ 99) := by
    unfold calendarFields
    dsimp only
    have hcycle : 4 ≤ (now.day + epochDay) / cycleLength := by
      rw [Int.le_ediv_iff_mul_le (by decide), cycleLength, epochDay]
      omega
    omega
  unfold utcDay
  dsimp only
  rw [if_neg fun hearly => hyear hearly.2, calendarDay_calendarFields]

/-! ### Windows -/

section Windows

variable {older : List UnderstatMatch} {limit : ℕ}

/-- An element inside of an array. -/
theorem element_of_lt {position : ℕ} (h : position < older.length) :
    element older position = some (older.get ⟨position, h⟩) := by
  unfold element
  rw [if_neg (by omega), Int.toNat_natCast, List.getElem?_eq_getElem h]
  rfl

/-- From 1970 on a window lists the matches at its positions. -/
theorem reconcileWindow_eq (hlength : 0 < older.length) (day : ℕ) :
    reconcileWindow older limit day = .ok ((List.range limit).map fun index =>
      (older.get ⟨(day * limit + index) % older.length, Nat.mod_lt _ hlength⟩).id) := by
  unfold reconcileWindow
  dsimp only
  rw [Int.toNat_natCast]
  refine mapM_eq_ok_map fun index _ => ?_
  have hposition : (((day : ℤ) * limit).tmod older.length + index).tmod older.length =
      (((day * limit + index) % older.length : ℕ) : ℤ) := by
    rw [← Nat.cast_mul, ← Int.ofNat_tmod, ← Nat.cast_add, ← Int.ofNat_tmod, Nat.mod_add_mod]
  rw [hposition, element_of_lt (Nat.mod_lt _ hlength)]

end Windows

/-! ### Selections -/

/-- A sorted set has the members of the set. -/
@[simp] theorem mem_sortedSet {values : List ℤ} {value : ℤ} :
    value ∈ sortedSet values ↔ value ∈ values := by
  rw [sortedSet, List.mem_insertionSort, List.mem_dedup]

/-- A sorted set lists no member twice. -/
theorem nodup_sortedSet (values : List ℤ) : (sortedSet values).Nodup :=
  (List.perm_insertionSort _ _).nodup_iff.mpr (List.nodup_dedup values)

namespace PlayerMatchInput

variable {input : PlayerMatchInput}

/-- What must be taken is known. -/
theorem required_known : ∀ matchId ∈ input.required, matchId ∈ input.knownIds := by
  intro matchId hrequired
  obtain hgiven | htaken := List.mem_append.mp hrequired
  · exact of_decide_eq_true (List.mem_filter.mp hgiven).2
  · obtain ⟨entry, hentry, rfl⟩ := List.mem_map.mp htaken
    exact List.mem_map_of_mem (List.mem_filter.mp hentry).1

/-- Older matches are known. -/
theorem older_known {entry : UnderstatMatch} (h : entry ∈ input.older) :
    entry.id ∈ input.knownIds :=
  List.mem_map_of_mem (List.mem_filter.mp ((List.mem_insertionSort _).mp h)).1

/-- What must be taken, with a window of known matches, is a selection. -/
theorem selected_sortedSet {window : List ℤ}
    (hwindow : ∀ matchId ∈ window, matchId ∈ input.knownIds) :
    input.Selected (sortedSet (input.required ++ window)) := by
  have hadded : ∀ matchId ∈ input.required, matchId ∈ sortedSet (input.required ++ window) :=
    fun matchId hmatch => mem_sortedSet.mpr (List.mem_append_left _ hmatch)
  have htaken : ∀ entry ∈ input.matchRows, entry.isResult = true →
      (entry.id ∉ input.syncedMatchIds ∨ input.correctionCutoff ≤ entry.kickoffAt.time) →
      entry.id ∈ input.required := by
    intro entry hentry hresult hmust
    refine List.mem_append_right _ (List.mem_map_of_mem (List.mem_filter.mpr ⟨?_, ?_⟩))
    · exact List.mem_filter.mpr ⟨hentry, hresult⟩
    · exact decide_eq_true hmust
  refine ⟨fun matchId hmatch => ?_, nodup_sortedSet _, ?_, ?_, ?_⟩
  · obtain hrequired | hwindowed := List.mem_append.mp (mem_sortedSet.mp hmatch)
    · exact required_known matchId hrequired
    · exact hwindow matchId hwindowed
  · exact fun entry hentry hresult hunsynced =>
      hadded _ (htaken entry hentry hresult (.inl hunsynced))
  · exact fun entry hentry hresult hrecent =>
      hadded _ (htaken entry hentry hresult (.inr hrecent))
  · exact fun matchId hrequired hknown =>
      hadded _ (List.mem_append_left _ (List.mem_filter.mpr ⟨hrequired, decide_eq_true hknown⟩))

/-- From 1970 on a reconciling run without explicit matches selects what it must and the matches at
the positions of its window. -/
theorem selectPlayerMatchIds_reconcile (hmode : input.mode = .reconcile)
    (hexplicit : input.explicitMatchIds = none) {limit day : ℕ}
    (hlimit : input.reconcileLimit.getD 10 = limit) (hday : input.now.day = day) :
    ∃ selection, input.selectPlayerMatchIds = .ok selection ∧ input.Selected selection ∧
      ∀ index < min limit input.older.length,
        ∀ entry, input.older[(day * min limit input.older.length + index) % input.older.length]? =
          some entry → entry.id ∈ selection := by
  have hutc : utcDay input.now = day := (utcDay_eq_day (by omega)).trans hday
  have hsize : input.windowSize = (min limit input.older.length : ℕ) := by
    rw [windowSize, hlimit, Nat.cast_min]
  have hselect : input.selectPlayerMatchIds =
      if 0 < input.windowSize then
        (reconcileWindow input.older input.windowSize (utcDay input.now)).map fun window =>
          sortedSet (input.required ++ window)
      else .ok (sortedSet input.required) := by
    unfold selectPlayerMatchIds
    rw [hexplicit, hmode]
    simp only [validateExplicitIds, bind, Except.bind, pure, Except.pure, true_and, reduceCtorEq,
      if_false]
    rfl
  rw [hselect, hutc, hsize]
  split
  next hpos =>
    have hlength : 0 < input.older.length := by
      have := Nat.cast_pos.mp hpos
      omega
    rw [reconcileWindow_eq hlength]
    refine ⟨_, rfl, selected_sortedSet ?_, ?_⟩
    · intro matchId hmatch
      obtain ⟨index, _, rfl⟩ := List.mem_map.mp hmatch
      exact older_known (List.get_mem _ _)
    · intro index hindex entry hentry
      obtain ⟨hposition, rfl⟩ := List.getElem?_eq_some_iff.mp hentry
      exact mem_sortedSet.mpr (List.mem_append_right _
        (List.mem_map_of_mem (List.mem_range.mpr hindex)))
  next hnone =>
    refine ⟨_, rfl, ?_, fun index hindex => absurd ?_ hnone⟩
    · have hselected := @selected_sortedSet input [] fun _ h => nomatch h
      rwa [List.append_nil] at hselected
    · exact Nat.cast_pos.mpr (Nat.zero_lt_of_lt hindex)

end PlayerMatchInput

/-! ### Reconciliation -/

/-- A reconciling run on a day, with given older matches and a given limit. -/
structure ReconcilesOn (older : List UnderstatMatch) (limit day : ℕ) (input : PlayerMatchInput) :
    Prop where
  mode : input.mode = .reconcile
  implicit : input.explicitMatchIds = none
  limit : input.reconcileLimit.getD 10 = limit
  day : input.now.day = day
  older : input.older = older

/-- A limit above the number of matches needs no fewer days than that number. -/
theorem ceilDiv_min_le {count limit : ℕ} (hlimit : 1 ≤ limit) (hcount : 0 < count) :
    count ⌈/⌉ min limit count ≤ count ⌈/⌉ limit := by
  have hreach : count ≤ limit * (count ⌈/⌉ limit) :=
    (ceilDiv_le_iff_le_mul hlimit).mp le_rfl
  have hdays : 1 ≤ count ⌈/⌉ limit := by
    by_contra hnone
    rw [Nat.lt_one_iff.mp (not_le.mp hnone), Nat.mul_zero] at hreach
    omega
  refine (ceilDiv_le_iff_le_mul (lt_min hlimit hcount)).mpr ?_
  generalize count ⌈/⌉ limit = days at hreach hdays
  obtain hmin | hmin := min_choice limit count
  · rw [hmin]
    exact hreach
  · rw [hmin]
    exact Nat.le_mul_of_pos_right count hdays

/-- From 1970 on, reconciling runs without explicit matches select on every day all that they must
and nothing else than known matches, and on as many consecutive days as the limit goes into the
older matches they select every one of these. -/
theorem selectPlayerMatchIds_covers {older : List UnderstatMatch} {limit day : ℕ}
    (hlimit : 1 ≤ limit) {inputs : ℕ → PlayerMatchInput}
    (h : ∀ turn < older.length ⌈/⌉ limit, ReconcilesOn older limit (day + turn) (inputs turn)) :
    ∃ selections : ℕ → List ℤ,
      (∀ turn < older.length ⌈/⌉ limit,
        (inputs turn).selectPlayerMatchIds = .ok (selections turn) ∧
          (inputs turn).Selected (selections turn)) ∧
      ∀ entry ∈ older, ∃ turn < older.length ⌈/⌉ limit, entry.id ∈ selections turn := by
  have hselect : ∀ turn < older.length ⌈/⌉ limit, ∃ selection,
      (inputs turn).selectPlayerMatchIds = .ok selection ∧ (inputs turn).Selected selection ∧
        ∀ index < min limit older.length,
          ∀ entry, older[((day + turn) * min limit older.length + index) % older.length]? =
            some entry → entry.id ∈ selection := by
    intro turn hturn
    have hrun := h turn hturn
    have hselection := PlayerMatchInput.selectPlayerMatchIds_reconcile hrun.mode hrun.implicit
      hrun.limit hrun.day
    rwa [hrun.older] at hselection
  choose! selections hselections using hselect
  refine ⟨selections, fun turn hturn =>
    ⟨(hselections turn hturn).1, (hselections turn hturn).2.1⟩, fun entry hentry => ?_⟩
  obtain ⟨position, hposition, rfl⟩ := List.mem_iff_getElem.mp hentry
  have hcount : 0 < older.length := Nat.zero_lt_of_lt hposition
  obtain ⟨turn, hturn, index, hindex, hreached⟩ :=
    exists_turn (lt_min hlimit hcount) day hposition
  have hday := hturn.trans_le (ceilDiv_min_le hlimit hcount)
  refine ⟨turn, hday, (hselections turn hday).2.2 index hindex _ ?_⟩
  rw [hreached, List.getElem?_eq_getElem hposition]

/-! ### Runs -/

/-- Two matches of the first days of 1969, completed. -/
def oldMatches : List UnderstatMatch :=
  [⟨1, ⟨-31536000000, by decide⟩, true⟩, ⟨2, ⟨-31449600000, by decide⟩, true⟩]

/-- A reconciling run of one match a day, at a time. -/
def reconcilingRun (now : DateValue) (explicitMatchIds : Option (List ℤ)) : PlayerMatchInput where
  mode := .reconcile
  matchRows := oldMatches
  syncedMatchIds := [1]
  explicitMatchIds := explicitMatchIds
  requiredMatchIds := none
  now := now
  reconcileLimit := some 1

/-- The runs of the first two days of 1970. -/
def firstRuns (turn : ℕ) : PlayerMatchInput :=
  reconcilingRun (if turn = 0 then ⟨0, by decide⟩ else ⟨86400000, by decide⟩) none

/-- The first two days of 1970 reach both matches. -/
theorem selectPlayerMatchIds_covers_oldMatches :
    (∀ turn < oldMatches.length ⌈/⌉ 1, ReconcilesOn oldMatches 1 (0 + turn) (firstRuns turn)) ∧
      ∃ selections : ℕ → List ℤ,
        ∀ entry ∈ oldMatches, ∃ turn < oldMatches.length ⌈/⌉ 1, entry.id ∈ selections turn := by
  have hruns : ∀ turn < oldMatches.length ⌈/⌉ 1,
      ReconcilesOn oldMatches 1 (0 + turn) (firstRuns turn) := by
    intro turn hturn
    change turn < 2 at hturn
    obtain rfl | rfl : turn = 0 ∨ turn = 1 := by omega
    · exact ⟨rfl, rfl, rfl, rfl, rfl⟩
    · exact ⟨rfl, rfl, rfl, rfl, rfl⟩
  obtain ⟨selections, _, hcover⟩ := selectPlayerMatchIds_covers (le_refl 1) hruns
  exact ⟨hruns, selections, hcover⟩

/-- A run with explicit matches leaves out a match that is not synchronised, and a run on the last
day of 1969 finds no match at a position below the first. -/
theorem reconciliation_misses_matches :
    ((reconcilingRun ⟨0, by decide⟩ (some [1])).selectPlayerMatchIds = .ok [1] ∧
      ¬ (reconcilingRun ⟨0, by decide⟩ (some [1])).Selected [1]) ∧
    (reconcilingRun ⟨-1, by decide⟩ none).selectPlayerMatchIds = .error .undefinedMatch := by
  refine ⟨⟨by decide, fun hselected => ?_⟩, by decide +kernel⟩
  have hmatch := hselected.unsynced ⟨2, ⟨-31449600000, by decide⟩, true⟩ (by decide) rfl (by decide)
  exact absurd hmatch (by decide)

end LetletmeData.MatchSelection
