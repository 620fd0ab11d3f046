import Mathlib.Algebra.Order.BigOperators.Group.List
import Mathlib.Algebra.Order.Monoid.Prod
import Mathlib.Algebra.Order.Ring.Int
import Mathlib.Logic.Equiv.Basic
import LetletmeData.Services.TournamentKnockoutResults

/-!
# Round winners

Scores are compared in a lexicographic order of an ordered group, so totals compare as their legs
do when these all compare alike. The shortcuts for a single leg and for a sweep of all legs
therefore decide as the totals decide.
-/

namespace LetletmeData

/-- What a score is worth: net points, then goals scored, then goals not conceded. -/
def SideScore.value (score : SideScore) : ℤ ×ₗ (ℤ ×ₗ ℤ) :=
  toLex (score.netPoints, toLex (score.goalsScored, -score.goalsConceded))

/-- Scores compare field by field. -/
theorem value_lt_iff {left right : SideScore} : left.value < right.value ↔
    left.netPoints < right.netPoints ∨ left.netPoints = right.netPoints ∧
      (left.goalsScored < right.goalsScored ∨ left.goalsScored = right.goalsScored ∧
        right.goalsConceded < left.goalsConceded) := by
  simp only [SideScore.value, Prod.Lex.toLex_lt_toLex, neg_lt_neg_iff]

/-- The value of a sum is the sum of the values. -/
theorem value_add (left right : SideScore) : (left.add right).value = left.value + right.value := by
  simp only [SideScore.value, SideScore.add, neg_add]
  rfl

/-- Equal values are equal scores. -/
theorem value_injective : Function.Injective SideScore.value := by
  intro left right h
  simp only [SideScore.value, EmbeddingLike.apply_eq_iff_eq, Prod.mk.injEq, neg_inj] at h
  cases left
  cases right
  simpa using h

variable {left right : ℕ} {leftScore rightScore : SideScore}

/-- Of two entries the one with the better score wins, and the lower id when they are level. -/
theorem resolveMatchWinner_eq (left right : ℕ) (leftScore rightScore : SideScore) :
    resolveMatchWinner (some left) (some right) leftScore rightScore =
      if rightScore.value < leftScore.value ∨ ¬ leftScore.value < rightScore.value ∧ left ≤ right
      then some left else some right := by
  simp only [resolveMatchWinner, value_lt_iff]
  split_ifs <;> first | rfl | omega

/-- It does not matter which of the two is at home. -/
theorem resolveMatchWinner_comm (home away : Option ℕ) (homeScore awayScore : SideScore) :
    resolveMatchWinner home away homeScore awayScore =
      resolveMatchWinner away home awayScore homeScore := by
  cases home with
  | none => cases away <;> rfl
  | some left =>
    cases away with
    | none => rfl
    | some right =>
      rw [resolveMatchWinner_eq, resolveMatchWinner_eq]
      rcases lt_trichotomy homeScore.value awayScore.value with h | h | h
      · simp [h, h.not_gt]
      · rcases lt_trichotomy left right with hid | hid | hid
        · simp [h, hid.le, hid.not_ge]
        · simp [h, hid]
        · simp [h, hid.le, hid.not_ge]
      · simp [h, h.not_gt]

/-! ### Legs -/

/-- A leg of a match: it has the entries of the match, either of them at home, and the winner that
its scores give. -/
def ScoredLeg (home away : Option ℕ) (leg : KnockoutResult) : Prop :=
  (leg.homeEntryId = home ∧ leg.awayEntryId = away ∨
      leg.homeEntryId = away ∧ leg.awayEntryId = home) ∧
    leg.matchWinner =
      resolveMatchWinner leg.homeEntryId leg.awayEntryId leg.homeScore leg.awayScore

/-- The score of an entry in a leg that it plays. -/
def KnockoutResult.scoreOf (leg : KnockoutResult) (entryId : Option ℕ) : SideScore :=
  if leg.homeEntryId = entryId then leg.homeScore else leg.awayScore

/-- The winner of the totals. -/
def aggregateWinner (legs : List KnockoutResult) (home away : Option ℕ) : Option ℕ :=
  resolveMatchWinner home away (sideTotals legs home) (sideTotals legs away)

section Legs

variable {home away : Option ℕ} {leg : KnockoutResult} {legs : List KnockoutResult}

/-- A leg is a leg of the match whichever entry is named first. -/
theorem ScoredLeg.comm (h : ScoredLeg home away leg) : ScoredLeg away home leg :=
  ⟨h.1.symm, h.2⟩

/-- The winner of a leg is the winner of the scores of its entries. -/
theorem ScoredLeg.matchWinner_eq (h : ScoredLeg home away leg) (hdistinct : home ≠ away) :
    leg.matchWinner = resolveMatchWinner home away (leg.scoreOf home) (leg.scoreOf away) := by
  obtain ⟨⟨hhome, haway⟩ | ⟨hhome, haway⟩, hwinner⟩ := h
  · rw [hwinner, KnockoutResult.scoreOf, KnockoutResult.scoreOf, hhome, haway, if_pos rfl,
      if_neg hdistinct]
  · rw [hwinner, KnockoutResult.scoreOf, KnockoutResult.scoreOf, hhome, haway, if_pos rfl,
      if_neg hdistinct.symm, resolveMatchWinner_comm]

/-- Totals are worth what the legs are worth together. -/
theorem value_sideTotals (hdistinct : home ≠ away) (hlegs : ∀ leg ∈ legs, ScoredLeg home away leg) :
    (sideTotals legs home).value = (legs.map fun leg => (leg.scoreOf home).value).sum := by
  have hfold : ∀ acc : SideScore, (legs.foldl (fun acc result =>
      let acc := if result.homeEntryId = home then acc.add result.homeScore else acc
      if result.awayEntryId = home then acc.add result.awayScore else acc) acc).value =
        acc.value + (legs.map fun leg => (leg.scoreOf home).value).sum := by
    induction legs with
    | nil => exact fun acc => (add_zero _).symm
    | cons leg rest ih =>
      intro acc
      obtain ⟨hleg, hrest⟩ := List.forall_mem_cons.mp hlegs
      rw [List.foldl_cons, ih hrest, List.map_cons, List.sum_cons, ← add_assoc]
      congr 1
      obtain ⟨⟨hhome, haway⟩ | ⟨hhome, haway⟩, -⟩ := hleg
      · simp [hhome, haway, hdistinct.symm, KnockoutResult.scoreOf, value_add]
      · simp [hhome, haway, hdistinct.symm, KnockoutResult.scoreOf, value_add]
  have hzero : (⟨0, 0, 0⟩ : SideScore).value = 0 := rfl
  rw [sideTotals, hfold, hzero, zero_add]

/-- An entry that wins every leg wins the totals. -/
theorem aggregateWinner_of_sweep {entryId : ℕ} {other : Option ℕ} (hdistinct : some entryId ≠ other)
    (hlegs : ∀ leg ∈ legs, ScoredLeg (some entryId) other leg) (hnonempty : legs ≠ [])
    (hsweep : ∀ leg ∈ legs, leg.matchWinner = some entryId) :
    aggregateWinner legs (some entryId) other = some entryId := by
  unfold aggregateWinner
  cases other with
  | none => rfl
  | some other =>
    have hid : entryId ≠ other := fun heq => hdistinct (congrArg some heq)
    have hwins : ∀ leg ∈ legs,
        (leg.scoreOf (some other)).value < (leg.scoreOf (some entryId)).value ∨
          ¬ (leg.scoreOf (some entryId)).value < (leg.scoreOf (some other)).value ∧
            entryId ≤ other := by
      intro leg hleg
      have hwinner := (hlegs leg hleg).matchWinner_eq hdistinct
      rw [hsweep leg hleg, resolveMatchWinner_eq] at hwinner
      by_contra hnot
      rw [if_neg hnot] at hwinner
      exact hid (Option.some.inj hwinner)
    rw [resolveMatchWinner_eq, value_sideTotals hdistinct hlegs,
      value_sideTotals hdistinct.symm fun leg hleg => (hlegs leg hleg).comm]
    apply if_pos
    by_cases hlower : entryId ≤ other
    · -- no leg is lost, so the totals are not
      have hsum : (legs.map fun leg => (leg.scoreOf (some other)).value).sum ≤
          (legs.map fun leg => (leg.scoreOf (some entryId)).value).sum := by
        apply List.sum_le_sum
        intro leg hleg
        rcases hwins leg hleg with hlt | hnot
        · exact hlt.le
        · exact not_lt.mp hnot.1
      exact Or.inr ⟨not_lt.mpr hsum, hlower⟩
    · -- the higher id wins no level leg
      left
      apply List.sum_lt_sum_of_ne_nil hnonempty
      intro leg hleg
      rcases hwins leg hleg with hlt | hnot
      · exact hlt
      · exact absurd hnot.2 hlower

/-- The winner of a leg is one of its entries, and somebody wins unless both slots are empty. -/
theorem ScoredLeg.matchWinner_cases (h : ScoredLeg home away leg) (hdistinct : home ≠ away) :
    ∃ winner, leg.matchWinner = some winner ∧ (home = some winner ∨ away = some winner) := by
  rw [h.matchWinner_eq hdistinct]
  cases home with
  | none =>
    cases away with
    | none => exact absurd rfl hdistinct
    | some right => exact ⟨right, rfl, Or.inr rfl⟩
  | some left =>
    cases away with
    | none => exact ⟨left, rfl, Or.inl rfl⟩
    | some right =>
      rw [resolveMatchWinner_eq]
      split
      · exact ⟨left, rfl, Or.inl rfl⟩
      · exact ⟨right, rfl, Or.inr rfl⟩

/-- The shortcut for the winner of all legs agrees with the totals. -/
theorem aggregateWinner_of_winners (hdistinct : home ≠ away)
    (hlegs : ∀ leg ∈ legs, ScoredLeg home away leg) (hnonempty : legs ≠ []) {winner : ℕ}
    (hsweep : ∀ leg ∈ legs, leg.matchWinner = some winner) :
    aggregateWinner legs home away = some winner := by
  obtain ⟨leg, hleg⟩ := List.exists_mem_of_ne_nil legs hnonempty
  obtain ⟨winner', hwinner, hside⟩ := (hlegs leg hleg).matchWinner_cases hdistinct
  obtain rfl : winner = winner' := Option.some.inj ((hsweep leg hleg).symm.trans hwinner)
  rcases hside with rfl | rfl
  · exact aggregateWinner_of_sweep hdistinct hlegs hnonempty hsweep
  · rw [aggregateWinner, resolveMatchWinner_comm]
    exact aggregateWinner_of_sweep hdistinct.symm (fun leg hleg => (hlegs leg hleg).comm)
      hnonempty hsweep

/-- The winner of a round is the winner of the totals. -/
theorem resolveRoundWinner_eq_aggregateWinner (hdistinct : home ≠ away)
    (hlegs : ∀ leg ∈ legs, ScoredLeg home away leg) (hnonempty : legs ≠ []) :
    resolveRoundWinner legs home away = aggregateWinner legs home away := by
  cases legs with
  | nil => exact absurd rfl hnonempty
  | cons first rest =>
    cases rest with
    | nil =>
      obtain ⟨winner, hwinner, -⟩ :=
        (hlegs first List.mem_cons_self).matchWinner_cases hdistinct
      rw [aggregateWinner_of_winners hdistinct hlegs hnonempty
        (List.forall_mem_singleton.mpr hwinner)]
      exact hwinner
    | cons second rest =>
      simp only [resolveRoundWinner]
      split
      · next winner hone =>
        have hsweep : ∀ leg ∈ first :: second :: rest, leg.matchWinner = some winner := by
          intro leg hleg
          obtain ⟨winner', hwinner, -⟩ := (hlegs leg hleg).matchWinner_cases hdistinct
          have hmem : winner' ∈ ((first :: second :: rest).filterMap
              KnockoutResult.matchWinner).eraseDups :=
            List.mem_eraseDups.mpr (List.mem_filterMap.mpr ⟨leg, hleg, hwinner⟩)
          rw [hone, List.mem_singleton] at hmem
          rw [hwinner, hmem]
        exact (aggregateWinner_of_winners hdistinct hlegs hnonempty hsweep).symm
      · rfl

/-! ### Exchanged entries -/

/-- A leg with its sides exchanged, each entry with its own score. -/
def KnockoutResult.exchanged (leg : KnockoutResult) : KnockoutResult :=
  { leg with
    homeEntryId := leg.awayEntryId
    homeNetPoints := leg.awayNetPoints
    homeGoalsScored := leg.awayGoalsScored
    homeGoalsConceded := leg.awayGoalsConceded
    awayEntryId := leg.homeEntryId
    awayNetPoints := leg.homeNetPoints
    awayGoalsScored := leg.homeGoalsScored
    awayGoalsConceded := leg.homeGoalsConceded
    matchWinner :=
      resolveMatchWinner leg.awayEntryId leg.homeEntryId leg.awayScore leg.homeScore }

/-- A leg whose entries are exchanged for others, the scores staying where they are. -/
def KnockoutResult.renamed (rename : ℕ → ℕ) (leg : KnockoutResult) : KnockoutResult :=
  { leg with
    homeEntryId := leg.homeEntryId.map rename
    awayEntryId := leg.awayEntryId.map rename
    matchWinner :=
      resolveMatchWinner (leg.homeEntryId.map rename) (leg.awayEntryId.map rename) leg.homeScore
        leg.awayScore }

/-- Legs in which entries score the same have the same totals. -/
theorem sideTotals_map {change : KnockoutResult → KnockoutResult} {home' away' : Option ℕ}
    (hdistinct : home ≠ away) (hdistinct' : home' ≠ away')
    (hlegs : ∀ leg ∈ legs, ScoredLeg home away leg)
    (hlegs' : ∀ leg ∈ legs, ScoredLeg home' away' (change leg))
    (hscores : ∀ leg ∈ legs, (change leg).scoreOf home' = leg.scoreOf home) :
    sideTotals (legs.map change) home' = sideTotals legs home := by
  apply value_injective
  have hchanged : ∀ leg ∈ legs.map change, ScoredLeg home' away' leg := by
    intro leg hleg
    obtain ⟨old, hold, rfl⟩ := List.mem_map.mp hleg
    exact hlegs' old hold
  rw [value_sideTotals hdistinct' hchanged, value_sideTotals hdistinct hlegs, List.map_map]
  congr 1
  apply List.map_congr_left
  intro leg hleg
  rw [Function.comp_apply, hscores leg hleg]

/-- Exchanging the sides of a match and of its legs does not change who wins. -/
theorem resolveRoundWinner_exchanged (hdistinct : home ≠ away)
    (hlegs : ∀ leg ∈ legs, ScoredLeg home away leg) :
    resolveRoundWinner (legs.map KnockoutResult.exchanged) away home =
      resolveRoundWinner legs home away := by
  by_cases hempty : legs = []
  · rw [hempty]
    rfl
  have hexchanged : ∀ leg ∈ legs, ScoredLeg away home leg.exchanged := by
    intro leg hleg
    obtain ⟨⟨hhome, haway⟩ | ⟨hhome, haway⟩, -⟩ := hlegs leg hleg
    · exact ⟨Or.inl ⟨haway, hhome⟩, rfl⟩
    · exact ⟨Or.inr ⟨haway, hhome⟩, rfl⟩
  have hhomeScores : ∀ leg ∈ legs, leg.exchanged.scoreOf home = leg.scoreOf home := by
    intro leg hleg
    obtain ⟨⟨hhome, haway⟩ | ⟨hhome, haway⟩, -⟩ := hlegs leg hleg <;>
      simp [KnockoutResult.scoreOf, KnockoutResult.exchanged, hhome, haway, hdistinct,
        hdistinct.symm, KnockoutResult.homeScore, KnockoutResult.awayScore]
  have hawayScores : ∀ leg ∈ legs, leg.exchanged.scoreOf away = leg.scoreOf away := by
    intro leg hleg
    obtain ⟨⟨hhome, haway⟩ | ⟨hhome, haway⟩, -⟩ := hlegs leg hleg <;>
      simp [KnockoutResult.scoreOf, KnockoutResult.exchanged, hhome, haway, hdistinct,
        hdistinct.symm, KnockoutResult.homeScore, KnockoutResult.awayScore]
  have hchanged : ∀ leg ∈ legs.map KnockoutResult.exchanged, ScoredLeg away home leg := by
    intro leg hleg
    obtain ⟨old, hold, rfl⟩ := List.mem_map.mp hleg
    exact hexchanged old hold
  rw [resolveRoundWinner_eq_aggregateWinner hdistinct hlegs hempty,
    resolveRoundWinner_eq_aggregateWinner hdistinct.symm hchanged (by simpa using hempty),
    aggregateWinner, aggregateWinner, resolveMatchWinner_comm,
    sideTotals_map hdistinct hdistinct hlegs (fun leg hleg => (hexchanged leg hleg).comm)
      hhomeScores,
    sideTotals_map hdistinct.symm hdistinct.symm (fun leg hleg => (hlegs leg hleg).comm) hexchanged
      hawayScores]

/-- Exchanging the entries under their scores exchanges the winner, unless the totals are level. -/
theorem resolveRoundWinner_renamed {left right : ℕ} (hdistinct : left ≠ right)
    (hlegs : ∀ leg ∈ legs, ScoredLeg (some left) (some right) leg)
    (huneven : sideTotals legs (some left) ≠ sideTotals legs (some right)) :
    resolveRoundWinner (legs.map (KnockoutResult.renamed (Equiv.swap left right))) (some right)
        (some left) =
      (resolveRoundWinner legs (some left) (some right)).map (Equiv.swap left right) := by
  have hsides : (some left : Option ℕ) ≠ some right := fun heq => hdistinct (Option.some.inj heq)
  have hempty : legs ≠ [] := by
    rintro rfl
    exact huneven rfl
  have hrenamed : ∀ leg ∈ legs,
      ScoredLeg (some right) (some left) (leg.renamed (Equiv.swap left right)) := by
    intro leg hleg
    obtain ⟨⟨hhome, haway⟩ | ⟨hhome, haway⟩, -⟩ := hlegs leg hleg
    · exact ⟨Or.inl ⟨by simp [KnockoutResult.renamed, hhome],
        by simp [KnockoutResult.renamed, haway]⟩, rfl⟩
    · exact ⟨Or.inr ⟨by simp [KnockoutResult.renamed, hhome],
        by simp [KnockoutResult.renamed, haway]⟩, rfl⟩
  have hleft : ∀ leg ∈ legs,
      (leg.renamed (Equiv.swap left right)).scoreOf (some right) = leg.scoreOf (some left) := by
    intro leg hleg
    obtain ⟨⟨hhome, haway⟩ | ⟨hhome, haway⟩, -⟩ := hlegs leg hleg <;>
      simp [KnockoutResult.scoreOf, KnockoutResult.renamed, hhome, hdistinct, hdistinct.symm,
        KnockoutResult.homeScore, KnockoutResult.awayScore]
  have hright : ∀ leg ∈ legs,
      (leg.renamed (Equiv.swap left right)).scoreOf (some left) = leg.scoreOf (some right) := by
    intro leg hleg
    obtain ⟨⟨hhome, haway⟩ | ⟨hhome, haway⟩, -⟩ := hlegs leg hleg <;>
      simp [KnockoutResult.scoreOf, KnockoutResult.renamed, hhome, hdistinct, hdistinct.symm,
        KnockoutResult.homeScore, KnockoutResult.awayScore]
  have hchanged : ∀ leg ∈ legs.map (KnockoutResult.renamed (Equiv.swap left right)),
      ScoredLeg (some right) (some left) leg := by
    intro leg hleg
    obtain ⟨old, hold, rfl⟩ := List.mem_map.mp hleg
    exact hrenamed old hold
  have hvalues : (sideTotals legs (some left)).value ≠ (sideTotals legs (some right)).value :=
    fun heq => huneven (value_injective heq)
  rw [resolveRoundWinner_eq_aggregateWinner hsides hlegs hempty,
    resolveRoundWinner_eq_aggregateWinner hsides.symm hchanged (by simpa using hempty),
    aggregateWinner, aggregateWinner,
    sideTotals_map hsides hsides.symm hlegs hrenamed hleft,
    sideTotals_map hsides.symm hsides (fun leg hleg => (hlegs leg hleg).comm)
      (fun leg hleg => (hrenamed leg hleg).comm) hright,
    resolveMatchWinner_eq, resolveMatchWinner_eq]
  rcases lt_or_gt_of_ne hvalues with hlt | hgt
  · simp [hlt, hlt.not_gt]
  · simp [hgt]

/-! ### Win counts -/

/-- The half wins of an entry in a leg. -/
def KnockoutResult.halfWins (leg : KnockoutResult) (entryId : ℕ) : ℕ :=
  let homeNet := leg.homeNetPoints.getD 0
  let awayNet := leg.awayNetPoints.getD 0
  if leg.homeEntryId = some entryId ∧ leg.awayEntryId = none then 2
  else if leg.awayEntryId = some entryId ∧ leg.homeEntryId = none then 2
  else if leg.homeEntryId = some entryId ∧ homeNet > awayNet then 2
  else if leg.awayEntryId = some entryId ∧ awayNet > homeNet then 2
  else if homeNet = awayNet ∧
      (leg.homeEntryId = some entryId ∨ leg.awayEntryId = some entryId) then 1
  else 0

/-- Wins are counted leg by leg. -/
theorem calcEntryWinningNum_eq (legs : List KnockoutResult) (entryId : ℕ) :
    calcEntryWinningNum legs (some entryId) = (legs.map fun leg => leg.halfWins entryId).sum := by
  have hstep : calcEntryWinningNum legs (some entryId) =
      legs.foldl (fun winningNum leg => winningNum + leg.halfWins entryId) 0 := by
    unfold calcEntryWinningNum
    dsimp only
    congr 1
    funext winningNum leg
    unfold KnockoutResult.halfWins
    dsimp only
    split_ifs <;> rfl
  have hsum : ∀ winningNum : ℕ,
      legs.foldl (fun winningNum leg => winningNum + leg.halfWins entryId) winningNum =
        winningNum + (legs.map fun leg => leg.halfWins entryId).sum := by
    clear hstep
    induction legs with
    | nil => exact fun _ => rfl
    | cons leg rest ih =>
      intro winningNum
      rw [List.foldl_cons, ih, List.map_cons, List.sum_cons, Nat.add_assoc]
  rw [hstep, hsum, Nat.zero_add]

/-- Two entries share the win of a leg. -/
theorem ScoredLeg.halfWins_add {left right : ℕ} (h : ScoredLeg (some left) (some right) leg)
    (hdistinct : left ≠ right) : leg.halfWins left + leg.halfWins right = 2 := by
  obtain ⟨⟨hhome, haway⟩ | ⟨hhome, haway⟩, -⟩ := h
  all_goals
    simp only [KnockoutResult.halfWins, hhome, haway, Option.some.injEq, hdistinct,
      hdistinct.symm, reduceCtorEq, and_false, false_and, if_false, true_and, or_false, false_or,
      and_true]
    split_ifs <;> omega

/-- A lone entry wins every leg. -/
theorem ScoredLeg.halfWins_alone {entryId : ℕ} (h : ScoredLeg (some entryId) none leg) :
    leg.halfWins entryId = 2 := by
  obtain ⟨⟨hhome, haway⟩ | ⟨hhome, haway⟩, -⟩ := h <;>
    simp [KnockoutResult.halfWins, hhome, haway]

/-- The win counts of the two sides add up to the number of legs, counted in halves. -/
theorem calcEntryWinningNum_add (hdistinct : home ≠ away)
    (hlegs : ∀ leg ∈ legs, ScoredLeg home away leg) :
    calcEntryWinningNum legs home + calcEntryWinningNum legs away = 2 * legs.length := by
  have halone : ∀ entryId, (∀ leg ∈ legs, ScoredLeg (some entryId) none leg) →
      calcEntryWinningNum legs (some entryId) = 2 * legs.length := by
    intro entryId hlegs
    have hall : (legs.map fun leg => leg.halfWins entryId) = legs.map fun _ => 2 :=
      List.map_congr_left fun leg hleg => (hlegs leg hleg).halfWins_alone
    rw [calcEntryWinningNum_eq, hall, List.map_const', List.sum_replicate_nat, Nat.mul_comm]
  cases home with
  | none =>
    cases away with
    | none => exact absurd rfl hdistinct
    | some right =>
      rw [halone right fun leg hleg => (hlegs leg hleg).comm]
      exact Nat.zero_add _
  | some left =>
    cases away with
    | none =>
      rw [halone left hlegs]
      rfl
    | some right =>
      have hid : left ≠ right := fun heq => hdistinct (congrArg some heq)
      rw [calcEntryWinningNum_eq, calcEntryWinningNum_eq]
      clear halone
      induction legs with
      | nil => rfl
      | cons leg rest ih =>
        obtain ⟨hleg, hrest⟩ := List.forall_mem_cons.mp hlegs
        have hshare := hleg.halfWins_add hid
        have hothers := ih hrest
        simp only [List.map_cons, List.sum_cons, List.length_cons]
        omega

end Legs

/-- For the scored legs of a match of two distinct sides: the winner of the round is the winner of
the totals, exchanging the sides of the match and of its legs does not change who wins, exchanging
the entries under their scores exchanges the winner unless the totals are level, and the win counts
add up to the number of legs, counted in halves. -/
theorem roundWinners_agree {home away : Option ℕ} (hdistinct : home ≠ away)
    {legs : List KnockoutResult} (hlegs : ∀ leg ∈ legs, ScoredLeg home away leg) :
    (legs ≠ [] → resolveRoundWinner legs home away = aggregateWinner legs home away) ∧
      resolveRoundWinner (legs.map KnockoutResult.exchanged) away home =
        resolveRoundWinner legs home away ∧
      (∀ left right, home = some left → away = some right →
        sideTotals legs home ≠ sideTotals legs away →
          resolveRoundWinner (legs.map (KnockoutResult.renamed (Equiv.swap left right))) away home =
            (resolveRoundWinner legs home away).map (Equiv.swap left right)) ∧
      calcEntryWinningNum legs home + calcEntryWinningNum legs away = 2 * legs.length := by
  refine ⟨resolveRoundWinner_eq_aggregateWinner hdistinct hlegs,
    resolveRoundWinner_exchanged hdistinct hlegs, ?_, calcEntryWinningNum_add hdistinct hlegs⟩
  rintro left right rfl rfl huneven
  exact resolveRoundWinner_renamed (fun heq => hdistinct (congrArg some heq)) hlegs huneven

/-- Two legs of entries 7 and 8: the first at home for 7, who wins on goals, the second at home for
8, who wins on points. -/
def sharedLegs : List KnockoutResult :=
  [{ tournamentId := 1, eventId := 1, matchId := 1, playAgainstId := 1,
     homeEntryId := some 7, awayEntryId := some 8,
     homeNetPoints := some 50, homeGoalsScored := some 4, homeGoalsConceded := some 1,
     awayNetPoints := some 50, awayGoalsScored := some 3, awayGoalsConceded := some 1,
     matchWinner := some 7 },
   { tournamentId := 1, eventId := 2, matchId := 1, playAgainstId := 2,
     homeEntryId := some 8, awayEntryId := some 7,
     homeNetPoints := some 60, homeGoalsScored := some 2, homeGoalsConceded := some 1,
     awayNetPoints := some 40, awayGoalsScored := some 5, awayGoalsConceded := some 0,
     matchWinner := some 8 }]

/-- The totals of the shared legs decide for entry 8. -/
theorem roundWinners_agree_shared :
    (sharedLegs ≠ [] → resolveRoundWinner sharedLegs (some 7) (some 8) =
        aggregateWinner sharedLegs (some 7) (some 8)) ∧
      resolveRoundWinner (sharedLegs.map KnockoutResult.exchanged) (some 8) (some 7) =
        resolveRoundWinner sharedLegs (some 7) (some 8) ∧
      (∀ left right, some 7 = some left → some 8 = some right →
        sideTotals sharedLegs (some 7) ≠ sideTotals sharedLegs (some 8) →
          resolveRoundWinner (sharedLegs.map (KnockoutResult.renamed (Equiv.swap left right)))
              (some 8) (some 7) =
            (resolveRoundWinner sharedLegs (some 7) (some 8)).map (Equiv.swap left right)) ∧
      calcEntryWinningNum sharedLegs (some 7) + calcEntryWinningNum sharedLegs (some 8) =
        2 * sharedLegs.length :=
  roundWinners_agree (by decide) (by unfold ScoredLeg; decide)

end LetletmeData
