import LetletmeData.Services.TournamentBattleRace

/-!
# Counters of a battle race

Every scored pairing credits both of its sides, with a win and a loss or with two draws. The
counters of an entry count its sides, and over a group the wins balance the losses.
-/

namespace LetletmeData

open LetletmeData.Library

/-- The points a side can be awarded. -/
def IsMatchPoints (points : ℤ) : Prop := points = 3 ∨ points = 1 ∨ points = 0

/-- The two sides of a match win and lose it, or both draw. -/
theorem matchPoints_cases (homeNet awayNet : ℤ) :
    (matchPoints homeNet awayNet = 3 ∧ matchPoints awayNet homeNet = 0) ∨
      (matchPoints homeNet awayNet = 1 ∧ matchPoints awayNet homeNet = 1) ∨
      (matchPoints homeNet awayNet = 0 ∧ matchPoints awayNet homeNet = 3) := by
  unfold matchPoints
  rcases lt_trichotomy homeNet awayNet with hlt | rfl | hlt
  · right
    right
    rw [if_neg hlt.not_gt, if_pos hlt, if_pos hlt]
    exact ⟨rfl, rfl⟩
  · right
    left
    simp
  · left
    rw [if_pos hlt, if_neg hlt.not_gt, if_pos hlt]
    exact ⟨rfl, rfl⟩

/-- Counting awarded sides counts wins, draws and losses and sums their points. -/
theorem foldl_add_eq (sides : List (ℕ × ℤ)) (hpoints : ∀ side ∈ sides, IsMatchPoints side.2)
    (counter : Counter) :
    sides.foldl (fun counter side => counter.add side.2) counter =
      ⟨counter.points + (3 * (sides.countP fun side => side.2 = 3 : ℕ) +
          (sides.countP fun side => side.2 = 1 : ℕ)),
        counter.won + sides.countP fun side => side.2 = 3,
        counter.drawn + sides.countP fun side => side.2 = 1,
        counter.lost + sides.countP fun side => side.2 = 0⟩ := by
  induction sides generalizing counter with
  | nil => simp
  | cons side rest ih =>
    rw [List.foldl_cons, ih fun other hother => hpoints other (List.mem_cons_of_mem side hother)]
    rcases hpoints side List.mem_cons_self with hwin | hdraw | hloss
    · simp [Counter.add, hwin]
      omega
    · simp [Counter.add, hdraw]
      omega
    · simp [Counter.add, hloss]
      omega

/-- Every side wins, draws or loses. -/
theorem countP_results (sides : List (ℕ × ℤ)) (hpoints : ∀ side ∈ sides, IsMatchPoints side.2) :
    (sides.countP fun side => side.2 = 3) + (sides.countP fun side => side.2 = 1) +
      (sides.countP fun side => side.2 = 0) = sides.length := by
  induction sides with
  | nil => rfl
  | cons side rest ih =>
    have hrest := ih fun other hother => hpoints other (List.mem_cons_of_mem side hother)
    rcases hpoints side List.mem_cons_self with hwin | hdraw | hloss
    · simp [hwin]
      omega
    · simp [hdraw]
      omega
    · simp [hloss]
      omega

/-- The pairings whose sides are counted. -/
theorem isScored_of_mem_sides {row : BattleGroupResult} {side : ℕ × ℤ} (h : side ∈ row.sides) :
    row.isScored = true := by
  unfold BattleGroupResult.sides at h
  split at h
  next hhome haway _ _ => simp [BattleGroupResult.isScored, hhome, haway]
  next => exact absurd h (by simp)

section Sides

variable {history : List BattleGroupResult} {groupId : ℕ}

/-- The points of an entry are three for every win and one for every draw. -/
theorem counterOf_points (hpoints : ∀ side ∈ groupSides history groupId, IsMatchPoints side.2)
    (entryId : ℕ) :
    (counterOf history groupId entryId).points =
      3 * (counterOf history groupId entryId).won + (counterOf history groupId entryId).drawn := by
  rw [counterOf, foldl_add_eq _ fun side hside => hpoints side (List.mem_of_mem_filter hside)]
  simp [newCounter]

/-- An entry has won, drawn or lost each of its counted sides. -/
theorem counterOf_matches (hpoints : ∀ side ∈ groupSides history groupId, IsMatchPoints side.2)
    (entryId : ℕ) :
    (counterOf history groupId entryId).won + (counterOf history groupId entryId).drawn +
        (counterOf history groupId entryId).lost =
      (groupSides history groupId).countP fun side => side.1 = entryId := by
  have hsides : ∀ side ∈ (groupSides history groupId).filter (fun side => side.1 = entryId),
      IsMatchPoints side.2 := fun side hside => hpoints side (List.mem_of_mem_filter hside)
  have hcount := countP_results _ hsides
  rw [← List.countP_eq_length_filter] at hcount
  rw [counterOf, foldl_add_eq _ hsides, ← hcount]
  simp [newCounter]

/-- The wins of an entry are its counted sides with three points. -/
theorem counterOf_won (hpoints : ∀ side ∈ groupSides history groupId, IsMatchPoints side.2)
    (entryId : ℕ) :
    (counterOf history groupId entryId).won =
      (groupSides history groupId).countP fun side => side.1 = entryId && side.2 = 3 := by
  rw [counterOf, foldl_add_eq _ fun side hside => hpoints side (List.mem_of_mem_filter hside)]
  simp [newCounter, List.countP_filter, Bool.and_comm]

/-- The losses of an entry are its counted sides without points. -/
theorem counterOf_lost (hpoints : ∀ side ∈ groupSides history groupId, IsMatchPoints side.2)
    (entryId : ℕ) :
    (counterOf history groupId entryId).lost =
      (groupSides history groupId).countP fun side => side.1 = entryId && side.2 = 0 := by
  rw [counterOf, foldl_add_eq _ fun side hside => hpoints side (List.mem_of_mem_filter hside)]
  simp [newCounter, List.countP_filter, Bool.and_comm]

end Sides

/-- A pairing between two entries whose points, if it is scored, are those of one match. -/
structure FairPairing (row : BattleGroupResult) : Prop where
  distinct : row.homeEntryId ≠ row.awayEntryId
  present : row.isScored = true → row.homeEntryId.isSome ∧ row.awayEntryId.isSome
  points : row.isScored = true → ∃ homeNet awayNet,
    row.homeMatchPoints = some (matchPoints homeNet awayNet) ∧
      row.awayMatchPoints = some (matchPoints awayNet homeNet)

/-- Whether an entry plays in a pairing. -/
def BattleGroupResult.involves (row : BattleGroupResult) (entryId : ℕ) : Bool :=
  row.homeEntryId = some entryId || row.awayEntryId = some entryId

/-- A pairing that is not scored has no counted sides. -/
theorem sides_of_not_isScored {row : BattleGroupResult} (h : row.isScored = false) :
    row.sides = [] := by
  rw [List.eq_nil_iff_forall_not_mem]
  intro side hside
  exact absurd (isScored_of_mem_sides hside) (by simp [h])

namespace FairPairing

variable {row : BattleGroupResult}

/-- The counted sides of a scored pairing. -/
theorem sides_eq (h : FairPairing row) (hscored : row.isScored = true) :
    ∃ home away homeNet awayNet, row.homeEntryId = some home ∧ row.awayEntryId = some away ∧
      home ≠ away ∧
      row.sides = [(home, matchPoints homeNet awayNet), (away, matchPoints awayNet homeNet)] := by
  obtain ⟨hhome, haway⟩ := h.present hscored
  obtain ⟨home, hhome⟩ := Option.isSome_iff_exists.mp hhome
  obtain ⟨away, haway⟩ := Option.isSome_iff_exists.mp haway
  obtain ⟨homeNet, awayNet, hhomePoints, hawayPoints⟩ := h.points hscored
  have hdistinct := h.distinct
  rw [hhome, haway, ne_eq, Option.some.injEq] at hdistinct
  refine ⟨home, away, homeNet, awayNet, hhome, haway, hdistinct, ?_⟩
  simp only [BattleGroupResult.sides, hhome, haway, hhomePoints, hawayPoints]

/-- The sides of a fair pairing are awarded match points. -/
theorem isMatchPoints (h : FairPairing row) {side : ℕ × ℤ} (hside : side ∈ row.sides) :
    IsMatchPoints side.2 := by
  obtain ⟨home, away, homeNet, awayNet, -, -, -, hsides⟩ :=
    h.sides_eq (isScored_of_mem_sides hside)
  have hcases := matchPoints_cases homeNet awayNet
  rw [hsides] at hside
  simp only [List.mem_cons, List.not_mem_nil, or_false] at hside
  unfold IsMatchPoints
  rcases hside with rfl | rfl
  · omega
  · omega

/-- A fair pairing counts one side for each of its entries, once it is scored. -/
theorem countP_sides (h : FairPairing row) (entryId : ℕ) :
    (row.sides.countP fun side => side.1 = entryId) =
      if (row.isScored && row.involves entryId) = true then 1 else 0 := by
  by_cases hscored : row.isScored = true
  · obtain ⟨home, away, homeNet, awayNet, hhome, haway, hdistinct, hsides⟩ := h.sides_eq hscored
    simp only [hsides, List.countP_cons, List.countP_nil, hscored, BattleGroupResult.involves,
      hhome, haway, Option.some.injEq, Bool.true_and, Bool.or_eq_true, decide_eq_true_eq]
    by_cases hhomeEntry : home = entryId
    · have hother : away ≠ entryId := fun heq => hdistinct (hhomeEntry.trans heq.symm)
      simp [hhomeEntry, hother]
    · simp [hhomeEntry]
  · rw [Bool.not_eq_true] at hscored
    simp [sides_of_not_isScored hscored, hscored]

/-- The wins and the losses of a fair pairing balance. -/
theorem countP_balance (h : FairPairing row) :
    (row.sides.countP fun side => side.2 = 3) = row.sides.countP fun side => side.2 = 0 := by
  by_cases hscored : row.isScored = true
  · obtain ⟨home, away, homeNet, awayNet, -, -, -, hsides⟩ := h.sides_eq hscored
    rw [hsides]
    rcases matchPoints_cases homeNet awayNet with ⟨hhome, haway⟩ | ⟨hhome, haway⟩ | ⟨hhome, haway⟩
    · simp [hhome, haway]
    · simp [hhome, haway]
    · simp [hhome, haway]
  · rw [Bool.not_eq_true] at hscored
    rw [sides_of_not_isScored hscored]
    rfl

end FairPairing

section History

variable {history : List BattleGroupResult} (hfair : ∀ row ∈ history, FairPairing row)
  (groupId : ℕ)

include hfair

/-- The counted sides of fair pairings are awarded match points. -/
theorem groupSides_isMatchPoints : ∀ side ∈ groupSides history groupId, IsMatchPoints side.2 := by
  intro side hside
  obtain ⟨row, hrow, hmem⟩ := List.mem_flatMap.mp hside
  exact (hfair row (List.mem_of_mem_filter hrow)).isMatchPoints hmem

/-- The counted sides of an entry are its scored pairings. -/
theorem countP_groupSides (entryId : ℕ) :
    ((groupSides history groupId).countP fun side => side.1 = entryId) =
      history.countP fun row => row.groupId = groupId && row.isScored && row.involves entryId := by
  rw [groupSides]
  induction history with
  | nil => rfl
  | cons row rest ih =>
    have hrest := ih fun other hother => hfair other (List.mem_cons_of_mem row hother)
    have hown := (hfair row List.mem_cons_self).countP_sides entryId
    by_cases hgroup : row.groupId = groupId
    · rw [List.filter_cons_of_pos (by simpa using hgroup), List.flatMap_cons, List.countP_append,
        hrest, hown, List.countP_cons]
      simp only [hgroup, decide_true, Bool.true_and]
      exact Nat.add_comm _ _
    · rw [List.filter_cons_of_neg (by simpa using hgroup), hrest, List.countP_cons]
      simp [hgroup]

/-- Over a group, as many sides win as lose. -/
theorem countP_groupSides_balance :
    ((groupSides history groupId).countP fun side => side.2 = 3) =
      (groupSides history groupId).countP fun side => side.2 = 0 := by
  have hsides : ∀ rows : List BattleGroupResult, (∀ row ∈ rows, FairPairing row) →
      ((rows.flatMap BattleGroupResult.sides).countP fun side => side.2 = 3) =
        (rows.flatMap BattleGroupResult.sides).countP fun side => side.2 = 0 := by
    intro rows hrows
    rw [List.countP_flatMap, List.countP_flatMap]
    refine congrArg List.sum (List.map_congr_left fun row hrow => ?_)
    exact (hrows row hrow).countP_balance
  exact hsides _ fun row hrow => hfair row (List.mem_of_mem_filter hrow)

/-- Over all entries of a group, the wins balance the losses. -/
theorem sum_won_eq_sum_lost {entryIds : List ℕ} (hdistinct : entryIds.Nodup)
    (hentries : ∀ side ∈ groupSides history groupId, side.1 ∈ entryIds) :
    (entryIds.map fun entryId => (counterOf history groupId entryId).won).sum =
      (entryIds.map fun entryId => (counterOf history groupId entryId).lost).sum := by
  have hpoints := groupSides_isMatchPoints hfair groupId
  simp only [counterOf_won hpoints, counterOf_lost hpoints]
  rw [sum_countP_key Prod.fst hdistinct _ hentries, sum_countP_key Prod.fst hdistinct _ hentries]
  exact countP_groupSides_balance hfair groupId

end History

end LetletmeData
