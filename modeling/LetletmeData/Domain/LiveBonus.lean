import Mathlib.Algebra.Order.Ring.Int
import Mathlib.Data.List.Sort
import Mathlib.Data.List.TakeWhile
import Mathlib.Algebra.BigOperators.Group.List.Basic
import LetletmeData.Domain.CoreSnapshot
import LetletmeData.Library.KeyedTables
import LetletmeData.Library.Transactions

/-!
# Live bonus points

The players of a fixture are ranked by their positive BPS. The best tier gets three points, and a
later one what is left of three after as many players as are ahead of it. Once a fixture has
official bonus rows these count instead.
-/

namespace LetletmeData

open LetletmeData.Library

/-- `BonusCandidate`. -/
structure BonusCandidate (Value : Type*) where
  elementId : ℕ
  teamId : ℕ
  value : Value
  deriving DecidableEq

/-- `statCandidates`. -/
def statCandidates (stat : Option FixtureStat) (fixture : Fixture) : List (BonusCandidate ℤ) :=
  match stat with
  | none => []
  | some stat =>
    stat.h.map (fun item => ⟨item.element, fixture.teamH, item.value⟩) ++
      stat.a.map (fun item => ⟨item.element, fixture.teamA, item.value⟩)

section Tiers

variable {Value : Type*} [LinearOrder Value] [Zero Value]

/-- The loop of `awardTier` over the candidates from an index on. -/
def awardWhile (tierValue : Value) (bonus : ℕ) :
    List (BonusCandidate Value) → ℕ → KeyedTable ℕ ℕ → KeyedTable ℕ ℕ × ℕ
  | [], index, bonusByElement => (bonusByElement, index)
  | candidate :: rest, index, bonusByElement =>
    if candidate.value = tierValue then
      awardWhile tierValue bonus rest (index + 1)
        (bonusByElement.upsert candidate.elementId bonus)
    else (bonusByElement, index)

/-- `awardTier`: the awards, and the index behind the tier. It is called inside the list only. -/
def awardTier (ranked : List (BonusCandidate Value)) (bonus fromIndex : ℕ)
    (bonusByElement : KeyedTable ℕ ℕ) : KeyedTable ℕ ℕ × ℕ :=
  match ranked[fromIndex]? with
  | some first => awardWhile first.value bonus (ranked.drop fromIndex) fromIndex bonusByElement
  | none => (bonusByElement, fromIndex)

/-- The candidates with positive values, best first. -/
def rankedCandidates (candidates : List (BonusCandidate Value)) : List (BonusCandidate Value) :=
  (candidates.filter fun candidate => 0 < candidate.value).insertionSort
    fun left right => right.value ≤ left.value

/-- `calculateFixtureBonus`. -/
def calculateFixtureBonus (candidates : List (BonusCandidate Value)) : KeyedTable ℕ ℕ :=
  let ranked := rankedCandidates candidates
  if ranked.length = 0 then .empty
  else
    let (bonusByElement, index) := awardTier ranked 3 0 .empty
    if 3 ≤ index ∨ ranked.length ≤ index then bonusByElement
    else if index = 1 then
      let (bonusByElement, index) := awardTier ranked 2 index bonusByElement
      if 3 ≤ index ∨ ranked.length ≤ index then bonusByElement
      else (awardTier ranked 1 index bonusByElement).1
    else (awardTier ranked 1 index bonusByElement).1

end Tiers

/-- The bonus of elements by team. -/
abbrev BonusByTeam := KeyedTable ℕ (KeyedTable ℕ ℤ)

/-- `addBonus`. Element ids are natural numbers, so zero alone is refused. -/
def addBonus (byTeam : BonusByTeam) (candidate : BonusCandidate ℤ) : BonusByTeam :=
  if candidate.elementId = 0 ∨ candidate.value ≤ 0 then byTeam
  else
    let team := (byTeam.find candidate.teamId).getD .empty
    byTeam.upsert candidate.teamId
      (team.upsert candidate.elementId
        ((team.find candidate.elementId).getD 0 + candidate.value))

/-- `new Map` of the teams of candidates: of several the last one counts. -/
def teamByElement (candidates : List (BonusCandidate ℤ)) : KeyedTable ℕ ℕ :=
  candidates.foldl (fun teams candidate => teams.upsert candidate.elementId candidate.teamId)
    .empty

/-- The official bonus rows of a fixture. -/
def officialBonus (fixture : Fixture) : List (BonusCandidate ℤ) :=
  (statCandidates (fixture.stats.find? fun stat => stat.identifier = "bonus") fixture).filter
    fun candidate => 0 < candidate.value

/-- The BPS rows of a fixture. -/
def bpsCandidates (fixture : Fixture) : List (BonusCandidate ℤ) :=
  statCandidates (fixture.stats.find? fun stat => stat.identifier = "bps") fixture

/-- What one fixture adds, in the order in which it is added. -/
def fixtureAwards (fixture : Fixture) : List (BonusCandidate ℤ) :=
  if fixture.started ≠ some true ∧ fixture.finished = false ∧
      fixture.finishedProvisional = false then []
  else if officialBonus fixture ≠ [] then officialBonus fixture
  else if fixture.finished = true ∨ fixture.finishedProvisional = true then []
  else
    (calculateFixtureBonus (bpsCandidates fixture)).entries.filterMap fun award =>
      ((teamByElement (bpsCandidates fixture)).find award.1).map fun teamId =>
        ⟨award.1, teamId, award.2⟩

/-- `computeFixtureSummedBonusByTeam`. -/
def computeFixtureSummedBonusByTeam (fixtures : List Fixture) : BonusByTeam :=
  fixtures.foldl (fun byTeam fixture => (fixtureAwards fixture).foldl addBonus byTeam) .empty

/-! ### Tiers -/

section Tiers

variable {Value : Type*} [LinearOrder Value]

/-- The number of candidates ahead of a value. -/
def aheadOf (candidates : List (BonusCandidate Value)) (value : Value) : ℕ :=
  candidates.countP fun other => value < other.value

/-- The loop awards the candidates at the front that have the value of the tier. -/
theorem awardWhile_eq (tierValue : Value) (bonus : ℕ) (candidates : List (BonusCandidate Value))
    (index : ℕ) (bonusByElement : KeyedTable ℕ ℕ) :
    awardWhile tierValue bonus candidates index bonusByElement =
      let tier := candidates.takeWhile fun candidate => candidate.value = tierValue
      (tier.foldl (fun table candidate => table.upsert candidate.elementId bonus) bonusByElement,
        index + tier.length) := by
  induction candidates generalizing index bonusByElement with
  | nil => rfl
  | cons candidate rest ih =>
    by_cases hvalue : candidate.value = tierValue
    · simp only [awardWhile, hvalue, if_true, ih, List.takeWhile_cons_of_pos, decide_true,
        List.foldl_cons, List.length_cons]
      rw [Nat.add_right_comm, Nat.add_assoc]
    · simp [awardWhile, hvalue]

omit [LinearOrder Value] in
/-- What awards to several elements leave under an element. -/
theorem find_foldl_award (tier : List (BonusCandidate Value)) (bonus : ℕ)
    (bonusByElement : KeyedTable ℕ ℕ) (elementId : ℕ) :
    (tier.foldl (fun table candidate => table.upsert candidate.elementId bonus)
        bonusByElement).find elementId =
      if elementId ∈ tier.map (·.elementId) then some bonus
      else bonusByElement.find elementId := by
  induction tier generalizing bonusByElement with
  | nil => simp
  | cons candidate tier ih =>
    rw [List.foldl_cons, ih, KeyedTable.find_upsert]
    by_cases hhead : elementId = candidate.elementId
    · simp [hhead]
    · simp [hhead]

/-- What a tier at the front of the rest of a sorted list leaves: its candidates have all those
before them ahead, and those behind the tier are worse than all before them. -/
structure IsTier (before tier behind : List (BonusCandidate Value)) : Prop where
  nonempty : tier ≠ []
  ahead : ∀ candidate ∈ tier, aheadOf (before ++ tier ++ behind) candidate.value = before.length
  worse : ∀ left ∈ before ++ tier, ∀ right ∈ behind, right.value < left.value

/-- Candidates behind a tier have all candidates up to it ahead. -/
theorem IsTier.length_le {before tier behind : List (BonusCandidate Value)}
    (h : IsTier before tier behind) {candidate : BonusCandidate Value}
    (hcandidate : candidate ∈ behind) :
    (before ++ tier).length ≤ aheadOf (before ++ tier ++ behind) candidate.value := by
  have hall : aheadOf (before ++ tier) candidate.value = (before ++ tier).length := by
    rw [aheadOf, List.countP_eq_length]
    intro other hother
    exact decide_eq_true (h.worse other hother candidate hcandidate)
  unfold aheadOf at hall ⊢
  rw [List.countP_append, hall]
  exact Nat.le_add_right _ _

/-- `awardTier` awards one tier of a sorted list. -/
theorem awardTier_spec {before rest : List (BonusCandidate Value)}
    (hsorted : rest.Pairwise fun left right => right.value ≤ left.value) (hrest : rest ≠ [])
    (hworse : ∀ left ∈ before, ∀ right ∈ rest, right.value < left.value) (bonus : ℕ)
    (bonusByElement : KeyedTable ℕ ℕ) :
    ∃ tier behind, rest = tier ++ behind ∧ IsTier before tier behind ∧
      awardTier (before ++ rest) bonus before.length bonusByElement =
        (tier.foldl (fun table candidate => table.upsert candidate.elementId bonus) bonusByElement,
          (before ++ tier).length) := by
  obtain ⟨first, others, rfl⟩ := List.exists_cons_of_ne_nil hrest
  let inTier := fun candidate : BonusCandidate Value => decide (candidate.value = first.value)
  have hbest : ∀ candidate ∈ first :: others, candidate.value ≤ first.value := by
    intro candidate hcandidate
    rcases List.mem_cons.mp hcandidate with rfl | hmem
    · exact le_rfl
    · exact (List.pairwise_cons.mp hsorted).1 candidate hmem
  have hsplit := (List.takeWhile_append_dropWhile (p := inTier) (l := first :: others)).symm
  have htier : ∀ candidate ∈ (first :: others).takeWhile inTier, candidate.value = first.value :=
    fun candidate hcandidate =>
      of_decide_eq_true (show inTier candidate = true from List.mem_takeWhile_imp hcandidate)
  -- behind the tier a value has been smaller once, so all later ones are
  have hbehind : ∀ candidate ∈ (first :: others).dropWhile inTier,
      candidate.value < first.value := by
    intro candidate hcandidate
    cases hdrop : (first :: others).dropWhile inTier with
    | nil => exact absurd (hdrop ▸ hcandidate) List.not_mem_nil
    | cons second later =>
      have hsecond : second.value < first.value := by
        have hmem : second ∈ first :: others :=
          (List.dropWhile_suffix inTier).subset (hdrop ▸ List.mem_cons_self)
        refine lt_of_le_of_ne (hbest second hmem) fun heq => ?_
        have hhead := List.head_dropWhile_not inTier (hdrop ▸ List.cons_ne_nil second later :
          (first :: others).dropWhile inTier ≠ [])
        simp [hdrop, inTier, heq] at hhead
      have hlater := hsorted.sublist (List.dropWhile_suffix inTier).sublist
      rw [hdrop] at hlater hcandidate
      rcases List.mem_cons.mp hcandidate with rfl | hmem
      · exact hsecond
      · exact ((List.pairwise_cons.mp hlater).1 candidate hmem).trans_lt hsecond
  refine ⟨_, _, hsplit, ⟨?_, ?_, ?_⟩, ?_⟩
  · simp [inTier]
  · intro candidate hcandidate
    have hbefore : aheadOf before candidate.value = before.length := by
      rw [aheadOf, List.countP_eq_length]
      intro other hother
      rw [htier candidate hcandidate]
      exact decide_eq_true (hworse other hother first List.mem_cons_self)
    have hnone : aheadOf (first :: others) candidate.value = 0 := by
      rw [aheadOf, List.countP_eq_zero]
      intro other hother
      rw [htier candidate hcandidate]
      exact Bool.eq_false_iff.mp (decide_eq_false (not_lt.mpr (hbest other hother)))
    rw [List.append_assoc, ← hsplit]
    unfold aheadOf at hbefore hnone ⊢
    rw [List.countP_append, hbefore, hnone, Nat.add_zero]
  · intro left hleft right hright
    rcases List.mem_append.mp hleft with hmem | hmem
    · exact hworse left hmem right ((List.dropWhile_suffix inTier).subset hright)
    · rw [htier left hmem]
      exact hbehind right hright
  · have hget : (before ++ first :: others)[before.length]? = some first := by simp
    rw [awardTier, hget]
    dsimp only
    rw [List.drop_left, awardWhile_eq, List.length_append]

/-- What is left of three points behind as many players as are ahead. -/
def bonusBehind (ahead : ℕ) : Option ℕ := if ahead < 3 then some (3 - ahead) else none

/-- The candidates of a sorted list up to some place have their awards, and nobody else has. -/
structure AwardedUpTo (done behind : List (BonusCandidate Value))
    (bonusByElement : KeyedTable ℕ ℕ) : Prop where
  awarded : ∀ candidate ∈ done, bonusByElement.find candidate.elementId =
    bonusBehind (aheadOf (done ++ behind) candidate.value)
  others : ∀ elementId, elementId ∉ done.map (·.elementId) → bonusByElement.find elementId = none

/-- Awarding the next tier what is left behind those before it. -/
theorem AwardedUpTo.tier {before tier behind : List (BonusCandidate Value)}
    {bonusByElement : KeyedTable ℕ ℕ} (h : AwardedUpTo before (tier ++ behind) bonusByElement)
    (htier : IsTier before tier behind)
    (hdistinct : ((before ++ tier ++ behind).map (·.elementId)).Nodup)
    (hbefore : before.length < 3) :
    AwardedUpTo (before ++ tier) behind
      (tier.foldl (fun table candidate => table.upsert candidate.elementId (3 - before.length))
        bonusByElement) where
  awarded := by
    intro candidate hcandidate
    rw [find_foldl_award]
    by_cases hmem : candidate.elementId ∈ tier.map (·.elementId)
    · obtain ⟨other, hother, heq⟩ := List.mem_map.mp hmem
      have hsame : other = candidate := List.inj_on_of_nodup_map hdistinct
        (List.mem_append_left _ (List.mem_append_right _ hother))
        (List.mem_append_left _ hcandidate) heq
      rw [if_pos hmem, ← hsame, htier.ahead other hother, bonusBehind, if_pos hbefore]
    · rw [if_neg hmem]
      rcases List.mem_append.mp hcandidate with hdone | htier
      · rw [List.append_assoc]
        exact h.awarded candidate hdone
      · exact absurd (List.mem_map_of_mem (f := fun candidate => candidate.elementId) htier) hmem
  others := by
    intro elementId hnot
    rw [List.map_append, List.mem_append, not_or] at hnot
    rw [find_foldl_award, if_neg hnot.2]
    exact h.others elementId hnot.1

/-- Nobody behind three others gets anything. -/
theorem AwardedUpTo.finish {done behind : List (BonusCandidate Value)}
    {bonusByElement : KeyedTable ℕ ℕ} (h : AwardedUpTo done behind bonusByElement)
    (hdistinct : ((done ++ behind).map (·.elementId)).Nodup)
    (hahead : ∀ candidate ∈ behind, 3 ≤ aheadOf (done ++ behind) candidate.value) :
    AwardedUpTo (done ++ behind) [] bonusByElement where
  awarded := by
    intro candidate hcandidate
    rw [List.append_nil]
    rcases List.mem_append.mp hcandidate with hdone | hbehind
    · exact h.awarded candidate hdone
    · rw [bonusBehind, if_neg (not_lt.mpr (hahead candidate hbehind))]
      refine h.others _ fun hmem => ?_
      rw [List.map_append] at hdistinct
      exact (List.nodup_append.mp hdistinct).2.2 _ hmem _
        (List.mem_map_of_mem (f := fun candidate => candidate.elementId) hbehind) rfl
  others := by
    intro elementId hnot
    rw [List.map_append, List.mem_append, not_or] at hnot
    exact h.others elementId hnot.1

/-- The whole tiers of a ranking up to some place have their awards. -/
structure TiersDone (ranked done behind : List (BonusCandidate Value))
    (bonusByElement : KeyedTable ℕ ℕ) : Prop where
  split : ranked = done ++ behind
  worse : ∀ left ∈ done, ∀ right ∈ behind, right.value < left.value
  ahead : ∀ candidate ∈ behind, done.length ≤ aheadOf ranked candidate.value
  awarded : AwardedUpTo done behind bonusByElement

/-- Awarding one more tier what is left of three behind those ahead of it. -/
theorem TiersDone.tier {ranked done behind : List (BonusCandidate Value)}
    {bonusByElement : KeyedTable ℕ ℕ} (h : TiersDone ranked done behind bonusByElement)
    (hsorted : ranked.Pairwise fun left right => right.value ≤ left.value)
    (hdistinct : (ranked.map (·.elementId)).Nodup) (hdone : done.length < 3)
    (hbehind : done.length < ranked.length) :
    ∃ more rest,
      TiersDone ranked more rest
        (awardTier ranked (3 - done.length) done.length bonusByElement).1 ∧
      (awardTier ranked (3 - done.length) done.length bonusByElement).2 = more.length ∧
      done.length < more.length := by
  have hsplit := h.split
  subst hsplit
  have hne : behind ≠ [] := by
    rintro rfl
    simp at hbehind
  obtain ⟨tier, rest, rfl, htier, heq⟩ := awardTier_spec
    (hsorted.sublist (List.sublist_append_right done behind)) hne h.worse (3 - done.length)
    bonusByElement
  rw [heq]
  refine ⟨done ++ tier, rest, ⟨(List.append_assoc _ _ _).symm, htier.worse, ?_, ?_⟩, rfl, ?_⟩
  · intro candidate hcandidate
    rw [← List.append_assoc]
    exact htier.length_le hcandidate
  · exact h.awarded.tier htier (by rwa [List.append_assoc]) hdone
  · rw [List.length_append]
    exact Nat.lt_add_of_pos_right (List.length_pos_iff.mpr htier.nonempty)

/-- Behind three players, and at the end of the ranking, the awards are complete. -/
theorem TiersDone.finish {ranked done behind : List (BonusCandidate Value)}
    {bonusByElement : KeyedTable ℕ ℕ} (h : TiersDone ranked done behind bonusByElement)
    (hdistinct : (ranked.map (·.elementId)).Nodup)
    (hlast : 3 ≤ done.length ∨ ranked.length ≤ done.length) :
    AwardedUpTo ranked [] bonusByElement := by
  have hsplit := h.split
  subst hsplit
  refine h.awarded.finish hdistinct fun candidate hcandidate => ?_
  rcases hlast with hthree | hend
  · exact hthree.trans (h.ahead candidate hcandidate)
  · rw [List.length_append] at hend
    have := List.length_pos_of_mem hcandidate
    omega

end Tiers

section Bonus

variable {Value : Type*} [LinearOrder Value] [Zero Value]

/-- The ranked candidates are those with positive values. -/
theorem rankedCandidates_perm (candidates : List (BonusCandidate Value)) :
    (rankedCandidates candidates).Perm (candidates.filter fun candidate => 0 < candidate.value) :=
  List.perm_insertionSort _ _

/-- Ahead of a positive value there are ranked candidates only. -/
theorem aheadOf_rankedCandidates (candidates : List (BonusCandidate Value)) {value : Value}
    (hvalue : 0 < value) :
    aheadOf (rankedCandidates candidates) value = aheadOf candidates value := by
  rw [aheadOf, (rankedCandidates_perm candidates).countP_eq, List.countP_filter]
  refine List.countP_congr fun other _ => ?_
  simp only [Bool.and_eq_true, decide_eq_true_eq]
  exact ⟨fun h => h.1, fun h => ⟨h, hvalue.trans h⟩⟩

/-- The ranked candidates have their awards, and nobody else has. -/
theorem awardedUpTo_calculateFixtureBonus {candidates : List (BonusCandidate Value)}
    (hdistinct : (candidates.map (·.elementId)).Nodup) :
    AwardedUpTo (rankedCandidates candidates) [] (calculateFixtureBonus candidates) := by
  have hnodup : ((rankedCandidates candidates).map (·.elementId)).Nodup :=
    ((rankedCandidates_perm candidates).map _).nodup_iff.mpr
      (hdistinct.sublist (List.filter_sublist.map _))
  have hsorted : (rankedCandidates candidates).Pairwise
      fun left right => right.value ≤ left.value :=
    List.pairwise_insertionSort
      (fun left right : BonusCandidate Value => right.value ≤ left.value) _
  unfold calculateFixtureBonus
  generalize rankedCandidates candidates = ranked at hnodup hsorted ⊢
  dsimp only
  have hnobody : TiersDone ranked [] ranked .empty :=
    ⟨rfl, by simp, fun _ _ => Nat.zero_le _,
      fun _ h => absurd h List.not_mem_nil, fun _ _ => rfl⟩
  split
  next hempty => exact hnobody.finish hnodup (Or.inr hempty.le)
  next hne =>
    obtain ⟨first, rest, hfirst, hindex, hpos⟩ :=
      hnobody.tier hsorted hnodup (by simp) (Nat.pos_of_ne_zero hne)
    rw [List.length_nil] at hfirst hindex hpos
    simp only [Nat.sub_zero] at hfirst hindex
    rw [hindex]
    split
    next hlast => exact hfirst.finish hnodup hlast
    next hmore =>
      rw [not_or, not_le, not_le] at hmore
      split
      next hone =>
        obtain ⟨second, rest, hsecond, hindex, hless⟩ :=
          hfirst.tier hsorted hnodup hmore.1 hmore.2
        rw [hone] at hsecond hindex hless ⊢
        rw [hindex]
        split
        next hlast => exact hsecond.finish hnodup hlast
        next hthird =>
          rw [not_or, not_le, not_le] at hthird
          have htwo : second.length = 2 := by omega
          obtain ⟨third, rest, hthird, -, hless⟩ :=
            hsecond.tier hsorted hnodup hthird.1 hthird.2
          rw [htwo] at hthird hless ⊢
          exact hthird.finish hnodup (Or.inl hless)
      next hnot =>
        have htwo : first.length = 2 := by omega
        obtain ⟨second, rest, hsecond, -, hless⟩ :=
          hfirst.tier hsorted hnodup hmore.1 hmore.2
        rw [htwo] at hsecond hless ⊢
        exact hsecond.finish hnodup (Or.inl hless)

/-- Every candidate with a positive value is awarded what is left of three behind those ahead of
it, and nobody else is awarded anything. -/
theorem find_calculateFixtureBonus {candidates : List (BonusCandidate Value)}
    (hdistinct : (candidates.map (·.elementId)).Nodup) {elementId bonus : ℕ} :
    (calculateFixtureBonus candidates).find elementId = some bonus ↔
      ∃ candidate ∈ candidates, candidate.elementId = elementId ∧ 0 < candidate.value ∧
        bonusBehind (aheadOf candidates candidate.value) = some bonus := by
  have h := awardedUpTo_calculateFixtureBonus hdistinct
  have hmem : ∀ candidate, candidate ∈ rankedCandidates candidates ↔
      candidate ∈ candidates ∧ 0 < candidate.value := fun candidate => by
    rw [(rankedCandidates_perm candidates).mem_iff, List.mem_filter, decide_eq_true_eq]
  have hawarded : ∀ candidate ∈ candidates, 0 < candidate.value →
      (calculateFixtureBonus candidates).find candidate.elementId =
        bonusBehind (aheadOf candidates candidate.value) := by
    intro candidate hcandidate hvalue
    rw [h.awarded candidate ((hmem candidate).mpr ⟨hcandidate, hvalue⟩), List.append_nil,
      aheadOf_rankedCandidates candidates hvalue]
  constructor
  · intro hfind
    have hranked : elementId ∈ (rankedCandidates candidates).map (·.elementId) := by
      by_contra hnot
      rw [h.others elementId hnot] at hfind
      exact Option.some_ne_none bonus hfind.symm
    obtain ⟨candidate, hcandidate, rfl⟩ := List.mem_map.mp hranked
    obtain ⟨hcandidate, hvalue⟩ := (hmem candidate).mp hcandidate
    exact ⟨candidate, hcandidate, rfl, hvalue,
      by rw [← hawarded candidate hcandidate hvalue, hfind]⟩
  · rintro ⟨candidate, hcandidate, rfl, hvalue, hbonus⟩
    rw [hawarded candidate hcandidate hvalue, hbonus]

end Bonus

/-! ### Sums over fixtures -/

/-- The bonus of an element in a team. -/
def bonusIn (byTeam : BonusByTeam) (teamId elementId : ℕ) : Option ℤ :=
  (byTeam.find teamId).bind fun team => team.find elementId

/-- What the candidates of an element in a team add up to. -/
def summed (candidates : List (BonusCandidate ℤ)) (teamId elementId : ℕ) : ℤ :=
  (candidates.map fun candidate =>
    if candidate.teamId = teamId ∧ candidate.elementId = elementId then candidate.value else 0).sum

/-- A table holds the positive totals, and no team without one. -/
structure AddsUp (byTeam : BonusByTeam) (total : ℕ → ℕ → ℤ) : Prop where
  nonneg : ∀ teamId elementId, 0 ≤ total teamId elementId
  bonus : ∀ teamId elementId, bonusIn byTeam teamId elementId =
    if elementId ≠ 0 ∧ 0 < total teamId elementId then some (total teamId elementId) else none
  teams : ∀ teamId, byTeam.find teamId ≠ none → ∃ elementId, bonusIn byTeam teamId elementId ≠ none

/-- The empty table holds no totals. -/
theorem addsUp_empty : AddsUp .empty fun _ _ => 0 where
  nonneg _ _ := le_rfl
  bonus _ _ := by simp [bonusIn]
  teams _ h := absurd rfl h

/-- One award is added to its total. -/
theorem AddsUp.addBonus {byTeam : BonusByTeam} {total : ℕ → ℕ → ℤ} (h : AddsUp byTeam total)
    {candidate : BonusCandidate ℤ} (hvalue : 0 < candidate.value) :
    AddsUp (addBonus byTeam candidate) fun teamId elementId => total teamId elementId +
      if candidate.teamId = teamId ∧ candidate.elementId = elementId then candidate.value
      else 0 := by
  have hnonneg : ∀ teamId elementId, 0 ≤ total teamId elementId +
      if candidate.teamId = teamId ∧ candidate.elementId = elementId then candidate.value
      else 0 := by
    intro teamId elementId
    have := h.nonneg teamId elementId
    split <;> omega
  by_cases hzero : candidate.elementId = 0
  · rw [LetletmeData.addBonus, if_pos (Or.inl hzero)]
    refine ⟨hnonneg, fun teamId elementId => ?_, h.teams⟩
    rw [h.bonus]
    by_cases helement : elementId = 0
    · simp [helement]
    · have hne : ¬ (candidate.teamId = teamId ∧ candidate.elementId = elementId) := fun heq =>
        helement (heq.2.symm.trans hzero)
      simp only [hne, if_false, add_zero]
  · rw [LetletmeData.addBonus, if_neg (not_or.mpr ⟨hzero, not_le.mpr hvalue⟩)]
    dsimp only
    have hbefore : (((byTeam.find candidate.teamId).getD .empty).find candidate.elementId).getD 0 =
        total candidate.teamId candidate.elementId := by
      have hbonus := h.bonus candidate.teamId candidate.elementId
      have hsome := h.nonneg candidate.teamId candidate.elementId
      have hfind : ((byTeam.find candidate.teamId).getD .empty).find candidate.elementId =
          bonusIn byTeam candidate.teamId candidate.elementId := by
        unfold bonusIn
        cases byTeam.find candidate.teamId <;> rfl
      rw [hfind, hbonus]
      split
      next => rfl
      next hnot =>
        have := not_and.mp hnot hzero
        simp only [Option.getD_none]
        omega
    have hbonus : ∀ teamId elementId,
        bonusIn (byTeam.upsert candidate.teamId
          (((byTeam.find candidate.teamId).getD .empty).upsert candidate.elementId
            ((((byTeam.find candidate.teamId).getD .empty).find candidate.elementId).getD 0 +
              candidate.value))) teamId elementId =
          if candidate.teamId = teamId ∧ candidate.elementId = elementId then
            some (total teamId elementId + candidate.value)
          else bonusIn byTeam teamId elementId := by
      intro teamId elementId
      rw [hbefore, bonusIn, KeyedTable.find_upsert]
      by_cases hteam : teamId = candidate.teamId
      · subst hteam
        rw [if_pos rfl, Option.bind_some, KeyedTable.find_upsert]
        by_cases helement : elementId = candidate.elementId
        · simp [helement]
        · rw [if_neg helement, if_neg fun heq => helement heq.2.symm, bonusIn]
          cases byTeam.find candidate.teamId <;> rfl
      · rw [if_neg hteam, if_neg fun heq => hteam heq.1.symm, bonusIn]
    refine ⟨hnonneg, fun teamId elementId => ?_, fun teamId hteam => ?_⟩
    · rw [hbonus]
      by_cases hsame : candidate.teamId = teamId ∧ candidate.elementId = elementId
      · have := h.nonneg teamId elementId
        have hne : elementId ≠ 0 := fun heq => hzero (hsame.2.trans heq)
        simp only [hsame, and_self, if_true]
        rw [if_pos ⟨hne, by omega⟩]
      · simp only [hsame, if_false, add_zero]
        exact h.bonus teamId elementId
    · by_cases hsame : candidate.teamId = teamId
      · refine ⟨candidate.elementId, ?_⟩
        rw [hbonus, if_pos ⟨hsame, rfl⟩]
        exact Option.some_ne_none _
      · rw [KeyedTable.find_upsert, if_neg (Ne.symm hsame)] at hteam
        obtain ⟨elementId, helement⟩ := h.teams teamId hteam
        exact ⟨elementId, by rwa [hbonus, if_neg fun heq => hsame heq.1]⟩

/-- Several awards are added to their totals. -/
theorem AddsUp.addAll {byTeam : BonusByTeam} {total : ℕ → ℕ → ℤ} (h : AddsUp byTeam total)
    {awards : List (BonusCandidate ℤ)} (hvalue : ∀ award ∈ awards, 0 < award.value) :
    AddsUp (awards.foldl LetletmeData.addBonus byTeam) fun teamId elementId =>
      total teamId elementId + summed awards teamId elementId := by
  induction awards generalizing byTeam total with
  | nil => simpa [summed] using h
  | cons award awards ih =>
    have hstep := ih (h.addBonus (hvalue award List.mem_cons_self))
      fun award haward => hvalue award (List.mem_cons_of_mem _ haward)
    simpa only [summed, List.foldl_cons, List.map_cons, List.sum_cons, add_assoc] using hstep

/-- The bonus points of an element in a team by the rule: what is left of three behind as many
candidates as are ahead of a positive value. -/
def ruleBonus (candidates : List (BonusCandidate ℤ)) (teamId elementId : ℕ) : ℤ :=
  (candidates.map fun candidate =>
    if candidate.teamId = teamId ∧ candidate.elementId = elementId ∧ 0 < candidate.value then
      ((3 - aheadOf candidates candidate.value : ℕ) : ℤ)
    else 0).sum

/-- What a fixture contributes to the bonus of an element in a team: official rows once it has
some, otherwise the rule while it is played. -/
def fixtureBonus (fixture : Fixture) (teamId elementId : ℕ) : ℤ :=
  if officialBonus fixture ≠ [] ∧
      (fixture.started = some true ∨ fixture.finished = true ∨ fixture.finishedProvisional = true)
  then summed (officialBonus fixture) teamId elementId
  else if fixture.started = some true ∧ fixture.finished = false ∧
      fixture.finishedProvisional = false
  then ruleBonus (bpsCandidates fixture) teamId elementId
  else 0

/-- The awards by the rule with the teams of their players. -/
def ruleAwards (candidates : List (BonusCandidate ℤ)) : List (BonusCandidate ℤ) :=
  (calculateFixtureBonus candidates).entries.filterMap fun award =>
    ((teamByElement candidates).find award.1).map fun teamId => ⟨award.1, teamId, award.2⟩

/-- Of distinct candidates each is listed under its team. -/
theorem find_teamByElement {candidates : List (BonusCandidate ℤ)}
    (hdistinct : (candidates.map (·.elementId)).Nodup) {elementId teamId : ℕ} :
    (teamByElement candidates).find elementId = some teamId ↔
      ∃ candidate ∈ candidates, candidate.elementId = elementId ∧ candidate.teamId = teamId := by
  have hfold : ∀ (list : List (BonusCandidate ℤ)) (teams : KeyedTable ℕ ℕ),
      (list.map (·.elementId)).Nodup →
      ((list.foldl (fun teams candidate => teams.upsert candidate.elementId candidate.teamId)
        teams).find elementId = some teamId ↔
        (∃ candidate ∈ list, candidate.elementId = elementId ∧ candidate.teamId = teamId) ∨
          elementId ∉ list.map (·.elementId) ∧ teams.find elementId = some teamId) := by
    intro list
    induction list with
    | nil => simp
    | cons candidate list ih =>
      intro teams hnodup
      rw [List.map_cons, List.nodup_cons] at hnodup
      rw [List.foldl_cons, ih _ hnodup.2, KeyedTable.find_upsert]
      by_cases hhead : elementId = candidate.elementId
      · subst hhead
        have hnone : ∀ other ∈ list, other.elementId ≠ candidate.elementId :=
          fun other hother heq => hnodup.1 (heq ▸ List.mem_map_of_mem (f := fun candidate => candidate.elementId) hother)
        simp only [if_pos, Option.some.injEq, hnodup.1, not_false_eq_true, true_and,
          List.mem_cons, exists_eq_or_imp, List.map_cons, not_true_eq_false, false_and,
          or_false]
        constructor
        · rintro (⟨other, hother, heq, -⟩ | heq)
          · exact absurd heq (hnone other hother)
          · exact Or.inl heq
        · rintro (heq | ⟨other, hother, heq, -⟩)
          · exact Or.inr heq
          · exact absurd heq (hnone other hother)
      · simp [hhead, Ne.symm hhead]
  simpa [teamByElement] using hfold candidates .empty hdistinct

/-- The awards by the rule are those of the positive candidates with fewer than three ahead. -/
theorem ruleAwards_perm {candidates : List (BonusCandidate ℤ)}
    (hdistinct : (candidates.map (·.elementId)).Nodup) :
    (ruleAwards candidates).Perm
      ((candidates.filter fun candidate =>
          0 < candidate.value ∧ aheadOf candidates candidate.value < 3).map fun candidate =>
        ⟨candidate.elementId, candidate.teamId,
          ((3 - aheadOf candidates candidate.value : ℕ) : ℤ)⟩) := by
  refine (List.perm_ext_iff_of_nodup ?_ ?_).mpr fun award => ?_
  · refine (KeyedTable.nodup_entries _).filterMap ?_
    rintro ⟨left, value⟩ ⟨right, other⟩ award hleft hright
    simp only [Option.mem_def, Option.map_eq_some_iff] at hleft hright
    obtain ⟨team, -, rfl⟩ := hleft
    obtain ⟨team, -, heq⟩ := hright
    simp only [BonusCandidate.mk.injEq, Nat.cast_inj] at heq
    rw [heq.1, heq.2.2]
  · refine List.Nodup.of_map (fun candidate => candidate.elementId) ?_
    rw [List.map_map]
    exact hdistinct.sublist (List.filter_sublist.map _)
  · simp only [ruleAwards, List.mem_filterMap, Option.map_eq_some_iff, Prod.exists,
      KeyedTable.mem_entries_iff, find_calculateFixtureBonus hdistinct,
      find_teamByElement hdistinct, List.mem_map, List.mem_filter, decide_eq_true_eq]
    constructor
    · rintro ⟨elementId, bonus, ⟨candidate, hcandidate, rfl, hvalue, hbonus⟩, teamId,
        ⟨other, hother, heq, rfl⟩, rfl⟩
      have hsame := List.inj_on_of_nodup_map hdistinct hother hcandidate heq
      subst hsame
      unfold bonusBehind at hbonus
      split at hbonus
      next hahead =>
        exact ⟨other, ⟨hcandidate, hvalue, hahead⟩, by rw [← Option.some.inj hbonus]⟩
      next => exact absurd hbonus.symm (Option.some_ne_none _)
    · rintro ⟨candidate, ⟨hcandidate, hvalue, hahead⟩, rfl⟩
      exact ⟨candidate.elementId, _, ⟨candidate, hcandidate, rfl, hvalue, if_pos hahead⟩,
        candidate.teamId, ⟨candidate, hcandidate, rfl, rfl⟩, rfl⟩

/-- The awards by the rule add up to the bonus by the rule. -/
theorem summed_ruleAwards {candidates : List (BonusCandidate ℤ)}
    (hdistinct : (candidates.map (·.elementId)).Nodup) (teamId elementId : ℕ) :
    summed (ruleAwards candidates) teamId elementId = ruleBonus candidates teamId elementId := by
  rw [summed, ((ruleAwards_perm hdistinct).map _).sum_eq, ruleBonus]
  generalize aheadOf candidates = ahead
  clear hdistinct
  induction candidates with
  | nil => rfl
  | cons candidate rest ih =>
    rw [List.map_cons, List.sum_cons, List.filter_cons, ← ih]
    by_cases hvalue : 0 < candidate.value
    · by_cases hahead : ahead candidate.value < 3
      · simp [hvalue, hahead]
      · have hnone : 3 - ahead candidate.value = 0 := by omega
        simp [hvalue, hahead, hnone]
    · simp [hvalue]

/-- The awards by the rule are positive. -/
theorem ruleAwards_pos {candidates : List (BonusCandidate ℤ)}
    (hdistinct : (candidates.map (·.elementId)).Nodup) :
    ∀ award ∈ ruleAwards candidates, 0 < award.value := by
  intro award haward
  obtain ⟨candidate, hcandidate, rfl⟩ :=
    List.mem_map.mp ((ruleAwards_perm hdistinct).mem_iff.mp haward)
  have hahead := (of_decide_eq_true (List.mem_filter.mp hcandidate).2).2
  simp only
  omega

/-- What a fixture adds are positive awards that sum up to its contribution. -/
theorem summed_fixtureAwards {fixture : Fixture}
    (hdistinct : ((bpsCandidates fixture).map (·.elementId)).Nodup) :
    (∀ award ∈ fixtureAwards fixture, 0 < award.value) ∧
      ∀ teamId elementId,
        summed (fixtureAwards fixture) teamId elementId =
          fixtureBonus fixture teamId elementId := by
  unfold fixtureAwards fixtureBonus
  split
  next hwaiting => simp [hwaiting, summed]
  next hplayed =>
    have hbegun : fixture.started = some true ∨ fixture.finished = true ∨
        fixture.finishedProvisional = true := by
      simpa [or_iff_not_imp_left] using hplayed
    split
    next hofficial =>
      simp only [hofficial, hbegun, ne_eq, not_false_eq_true, and_self, if_true, implies_true,
        and_true]
      exact fun award haward => of_decide_eq_true (List.mem_filter.mp haward).2
    next hnone =>
      rw [ne_eq, not_not] at hnone
      split
      next hfinished =>
        have : ¬ (fixture.finished = false ∧ fixture.finishedProvisional = false) := by
          rcases hfinished with h | h <;> simp [h]
        simp [hnone, this, summed]
      next hlive =>
        rw [not_or, Bool.not_eq_true, Bool.not_eq_true] at hlive
        have hstarted : fixture.started = some true := by simpa [hlive] using hbegun
        simp only [hnone, hstarted, hlive, ne_eq, not_true_eq_false, false_and, if_false, and_self,
          if_true]
        exact ⟨ruleAwards_pos hdistinct, summed_ruleAwards hdistinct⟩

/-- The bonus of an element in a team over all fixtures. -/
def totalBonus (fixtures : List Fixture) (teamId elementId : ℕ) : ℤ :=
  (fixtures.map fun fixture => fixtureBonus fixture teamId elementId).sum

/-- The table of all fixtures holds the totals over them. -/
theorem addsUp_computeFixtureSummedBonusByTeam {fixtures : List Fixture}
    (hdistinct : ∀ fixture ∈ fixtures, ((bpsCandidates fixture).map (·.elementId)).Nodup) :
    AddsUp (computeFixtureSummedBonusByTeam fixtures) (totalBonus fixtures) := by
  have hfold : ∀ (byTeam : BonusByTeam) (total : ℕ → ℕ → ℤ), AddsUp byTeam total →
      AddsUp (fixtures.foldl
        (fun byTeam fixture => (fixtureAwards fixture).foldl LetletmeData.addBonus byTeam) byTeam)
        fun teamId elementId => total teamId elementId + totalBonus fixtures teamId elementId := by
    induction fixtures with
    | nil =>
      intro byTeam total h
      simpa [totalBonus] using h
    | cons fixture fixtures ih =>
      intro byTeam total h
      obtain ⟨hpos, hsum⟩ := summed_fixtureAwards (hdistinct fixture List.mem_cons_self)
      have hstep := ih (fun other hother => hdistinct other (List.mem_cons_of_mem _ hother)) _ _
        (h.addAll hpos)
      simpa only [totalBonus, hsum, List.foldl_cons, List.map_cons, List.sum_cons, add_assoc]
        using hstep
  simpa only [zero_add, computeFixtureSummedBonusByTeam] using hfold _ _ addsUp_empty

/-! ### Any order of players and fixtures -/

/-- The same rows of a statistic in any order. -/
structure SameStat (left right : FixtureStat) : Prop where
  identifier : left.identifier = right.identifier
  h : left.h.Perm right.h
  a : left.a.Perm right.a

/-- The same fixture, with the players of its statistics in any order. -/
structure SameFixture (left right : Fixture) : Prop where
  started : left.started = right.started
  finished : left.finished = right.finished
  finishedProvisional : left.finishedProvisional = right.finishedProvisional
  teamH : left.teamH = right.teamH
  teamA : left.teamA = right.teamA
  stats : List.Forall₂ SameStat left.stats right.stats

/-- The same fixtures in any order, with their players in any order. -/
def Rearranged (fixtures rearranged : List Fixture) : Prop :=
  ∃ reordered, fixtures.Perm reordered ∧ List.Forall₂ SameFixture reordered rearranged

/-- The same fixtures have the same candidates. -/
theorem SameFixture.statCandidates_perm {left right : Fixture} (h : SameFixture left right)
    (identifier : String) :
    (statCandidates (left.stats.find? fun stat => stat.identifier = identifier) left).Perm
      (statCandidates (right.stats.find? fun stat => stat.identifier = identifier) right) := by
  have hstats := h.stats
  generalize left.stats = leftStats, right.stats = rightStats at hstats
  induction hstats with
  | nil => exact List.Perm.refl _
  | @cons stat other stats others hstat hrest ih =>
    rw [List.find?_cons, List.find?_cons, hstat.identifier]
    cases decide (other.identifier = identifier) with
    | false => exact ih
    | true =>
      unfold statCandidates
      rw [h.teamH, h.teamA]
      exact (hstat.h.map _).append (hstat.a.map _)

/-- The number of candidates ahead does not depend on their order. -/
theorem aheadOf_perm {Value : Type*} [LinearOrder Value] {left right : List (BonusCandidate Value)}
    (h : left.Perm right) : aheadOf left = aheadOf right :=
  funext fun _ => h.countP_eq _

/-- The same fixtures contribute the same bonus. -/
theorem SameFixture.fixtureBonus_eq {left right : Fixture} (h : SameFixture left right) :
    fixtureBonus left = fixtureBonus right := by
  have hofficial : (officialBonus left).Perm (officialBonus right) :=
    (h.statCandidates_perm "bonus").filter _
  have hbps : (bpsCandidates left).Perm (bpsCandidates right) := h.statCandidates_perm "bps"
  have hempty : officialBonus left ≠ [] ↔ officialBonus right ≠ [] := by
    rw [ne_eq, ne_eq, ← List.length_eq_zero_iff, ← List.length_eq_zero_iff, hofficial.length_eq]
  funext teamId elementId
  unfold fixtureBonus ruleBonus summed
  simp only [hempty, h.started, h.finished, h.finishedProvisional, aheadOf_perm hbps,
    (hofficial.map _).sum_eq, (hbps.map _).sum_eq]

/-- Rearranged fixtures have the same totals. -/
theorem Rearranged.totalBonus_eq {fixtures rearranged : List Fixture}
    (h : Rearranged fixtures rearranged) : totalBonus fixtures = totalBonus rearranged := by
  obtain ⟨reordered, hperm, hsame⟩ := h
  funext teamId elementId
  rw [totalBonus, (hperm.map _).sum_eq, totalBonus]
  congr 1
  clear hperm
  induction hsame with
  | nil => rfl
  | cons hfixture _ ih => rw [List.map_cons, List.map_cons, hfixture.fixtureBonus_eq, ih]

/-- Rearranged fixtures still have distinct players each. -/
theorem Rearranged.distinct {fixtures rearranged : List Fixture}
    (h : Rearranged fixtures rearranged)
    (hdistinct : ∀ fixture ∈ fixtures, ((bpsCandidates fixture).map (·.elementId)).Nodup) :
    ∀ fixture ∈ rearranged, ((bpsCandidates fixture).map (·.elementId)).Nodup := by
  obtain ⟨reordered, hperm, hsame⟩ := h
  intro fixture hfixture
  obtain ⟨other, hother, hrel⟩ := exists_of_mem_of_forall₂ hsame hfixture
  exact ((hrel.statCandidates_perm "bps").map _).nodup_iff.mp
    (hdistinct other (hperm.mem_iff.mpr hother))

/-- Distinct candidates with positive values get what is left of three behind those ahead of them
and nobody else gets anything, in whatever order they come. Over fixtures, official rows count
once there are some and the rule counts while a fixture is played, whatever the order of fixtures
and of their players. -/
theorem computeFixtureSummedBonusByTeam_rule {Value : Type*} [LinearOrder Value] [Zero Value] :
    (∀ candidates : List (BonusCandidate Value), (candidates.map (·.elementId)).Nodup →
      (∀ candidate ∈ candidates, 0 < candidate.value →
        ((calculateFixtureBonus candidates).find candidate.elementId).getD 0 =
          3 - aheadOf candidates candidate.value) ∧
      (∀ elementId, (∀ candidate ∈ candidates, candidate.elementId = elementId →
          ¬ 0 < candidate.value ∨ 3 ≤ aheadOf candidates candidate.value) →
        (calculateFixtureBonus candidates).find elementId = none) ∧
      ∀ reordered, candidates.Perm reordered → ∀ elementId,
        (calculateFixtureBonus reordered).find elementId =
          (calculateFixtureBonus candidates).find elementId) ∧
    ∀ fixtures : List Fixture,
      (∀ fixture ∈ fixtures, ((bpsCandidates fixture).map (·.elementId)).Nodup) →
      (∀ teamId elementId, bonusIn (computeFixtureSummedBonusByTeam fixtures) teamId elementId =
        if elementId ≠ 0 ∧ 0 < totalBonus fixtures teamId elementId then
          some (totalBonus fixtures teamId elementId)
        else none) ∧
      ∀ rearranged, Rearranged fixtures rearranged →
        (∀ teamId elementId, bonusIn (computeFixtureSummedBonusByTeam rearranged) teamId elementId =
          bonusIn (computeFixtureSummedBonusByTeam fixtures) teamId elementId) ∧
        ∀ teamId, (computeFixtureSummedBonusByTeam rearranged).find teamId = none ↔
          (computeFixtureSummedBonusByTeam fixtures).find teamId = none := by
  refine ⟨fun candidates hdistinct => ⟨?_, ?_, ?_⟩, fun fixtures hdistinct => ⟨?_, ?_⟩⟩
  · intro candidate hcandidate hvalue
    by_cases hahead : aheadOf candidates candidate.value < 3
    · rw [(find_calculateFixtureBonus hdistinct).mpr
        ⟨candidate, hcandidate, rfl, hvalue, if_pos hahead⟩, Option.getD_some]
    · have hnone : (calculateFixtureBonus candidates).find candidate.elementId = none := by
        refine Option.eq_none_iff_forall_ne_some.mpr fun bonus hbonus => ?_
        obtain ⟨other, hother, heq, -, hsome⟩ := (find_calculateFixtureBonus hdistinct).mp hbonus
        rw [List.inj_on_of_nodup_map hdistinct hother hcandidate heq, bonusBehind,
          if_neg hahead] at hsome
        exact Option.some_ne_none bonus hsome.symm
      rw [hnone, Option.getD_none]
      omega
  · intro elementId hnobody
    refine Option.eq_none_iff_forall_ne_some.mpr fun bonus hbonus => ?_
    obtain ⟨candidate, hcandidate, heq, hvalue, hsome⟩ :=
      (find_calculateFixtureBonus hdistinct).mp hbonus
    rcases hnobody candidate hcandidate heq with hnot | hahead
    · exact hnot hvalue
    · rw [bonusBehind, if_neg (not_lt.mpr hahead)] at hsome
      exact Option.some_ne_none bonus hsome.symm
  · intro reordered hperm elementId
    refine Option.ext fun bonus => ?_
    rw [find_calculateFixtureBonus hdistinct,
      find_calculateFixtureBonus ((hperm.map _).nodup_iff.mp hdistinct), aheadOf_perm hperm]
    simp only [hperm.mem_iff]
  · exact (addsUp_computeFixtureSummedBonusByTeam hdistinct).bonus
  · intro rearranged hrearranged
    have hleft := addsUp_computeFixtureSummedBonusByTeam hdistinct
    have hright := addsUp_computeFixtureSummedBonusByTeam (hrearranged.distinct hdistinct)
    rw [← hrearranged.totalBonus_eq] at hright
    have hbonus : ∀ teamId elementId,
        bonusIn (computeFixtureSummedBonusByTeam rearranged) teamId elementId =
          bonusIn (computeFixtureSummedBonusByTeam fixtures) teamId elementId :=
      fun teamId elementId =>
        (hright.bonus teamId elementId).trans (hleft.bonus teamId elementId).symm
    refine ⟨hbonus, fun teamId => not_iff_not.mp ⟨fun hteam => ?_, fun hteam => ?_⟩⟩
    · obtain ⟨elementId, helement⟩ := hright.teams teamId hteam
      rw [hbonus, bonusIn] at helement
      intro hnone
      exact helement (by rw [hnone, Option.bind_none])
    · obtain ⟨elementId, helement⟩ := hleft.teams teamId hteam
      rw [← hbonus, bonusIn] at helement
      intro hnone
      exact helement (by rw [hnone, Option.bind_none])

/-- A fixture of the teams 1 and 2 in play, with its statistics. -/
def playedFixture (stats : List FixtureStat) : Fixture where
  id := 7
  code := 70
  event := some 3
  finished := false
  finishedProvisional := false
  kickoffTime := some 0
  minutes := 60
  provisionalStartTime := false
  started := some true
  teamA := 2
  teamAScore := some 1
  teamH := 1
  teamHScore := some 1
  stats := stats
  teamHDifficulty := none
  teamADifficulty := none
  pulseId := 700
  createdAt := none
  updatedAt := none

/-- Two players share the best BPS, and the third gets one point. -/
def sharedBest : List FixtureStat := [⟨"bps", [⟨30, 20⟩, ⟨-2, 21⟩], [⟨30, 10⟩, ⟨12, 11⟩]⟩]

/-- The rule where two share the first place, over two fixtures of one round. -/
theorem computeFixtureSummedBonusByTeam_rule_shared :
    ((calculateFixtureBonus (bpsCandidates (playedFixture sharedBest))).find 11).getD 0 = 1 ∧
      bonusIn (computeFixtureSummedBonusByTeam
        [playedFixture sharedBest, playedFixture sharedBest]) 2 20 = some 6 := by
  have hdistinct : ((bpsCandidates (playedFixture sharedBest)).map (·.elementId)).Nodup := by decide
  obtain ⟨hone, hall⟩ := @computeFixtureSummedBonusByTeam_rule ℤ _ _
  refine ⟨?_, ?_⟩
  · exact (hone _ hdistinct).1 ⟨11, 1, 12⟩ (by decide) (by decide)
  · refine ((hall [playedFixture sharedBest, playedFixture sharedBest] fun fixture hfixture => ?_).1
      2 20).trans (by decide)
    rcases List.mem_cons.mp hfixture with rfl | hmem
    · exact hdistinct
    · rw [List.mem_singleton.mp hmem]
      exact hdistinct

/-- Official rows that differ from the rule over the BPS of the fixture. -/
def officialRows : List FixtureStat :=
  [⟨"bonus", [], [⟨3, 10⟩]⟩, ⟨"bps", [⟨50, 20⟩], [⟨1, 10⟩]⟩]

/-- Official rows count, whatever the rule says of the BPS. -/
theorem officialRows_overrule_bps :
    ¬ ∀ fixtures : List Fixture,
      (∀ fixture ∈ fixtures, ((bpsCandidates fixture).map (·.elementId)).Nodup) →
      ∀ teamId elementId,
        (bonusIn (computeFixtureSummedBonusByTeam fixtures) teamId elementId).getD 0 =
        (fixtures.map fun fixture => ruleBonus (bpsCandidates fixture) teamId elementId).sum := by
  intro h
  have hone := h [playedFixture officialRows] (by decide) 1 10
  exact absurd hone (by decide)

end LetletmeData
