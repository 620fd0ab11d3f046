import LetletmeData.Domain.Seeding
import LetletmeData.Domain.TournamentPlan
import LetletmeData.Library.Brackets

/-!
# Planned brackets

The rounds, matches and legs of a planned bracket, and how its matches are linked.
-/

namespace LetletmeData

open LetletmeData.Library

/-! ## The shape of a planned bracket

The planner computes the rounds and the events of the knockout from the number of
entrants, and the builder computes the matches and legs again from the plan. The match
numbers are those of halving rounds, which gives every later match its two feeders.
-/

/-- The knockout columns of a configuration that the planner accepted. -/
structure PlannedKnockout (tournament : TournamentConfig) (entrants legs start : ℕ) : Prop where
  knockoutTeamNum : tournament.knockoutTeamNum = some entrants
  two_le_entrants : 2 ≤ entrants
  knockoutEventNum : tournament.knockoutEventNum = some (Nat.clog 2 entrants)
  knockoutPlayAgainstNum : tournament.knockoutPlayAgainstNum = some legs
  one_le_legs : 1 ≤ legs
  knockoutStartedEventId : tournament.knockoutStartedEventId = some start
  one_le_start : 1 ≤ start

/-- The start ids the builder accumulates are those of the halving rounds. -/
theorem roundStartIds_eq (rounds count : ℕ) (hcount : count ≤ rounds) :
    roundStartIds (2 ^ rounds) count =
      ((List.range' 1 count).map (roundStart rounds), roundStart rounds (count + 1)) := by
  induction count with
  | zero => simp [roundStartIds]
  | succ count ih =>
    have hprevious := ih (by omega)
    rw [roundStartIds] at hprevious ⊢
    rw [List.range'_concat, List.foldl_append, hprevious, List.map_append, one_mul,
      Nat.add_comm 1 count]
    simp only [List.foldl_cons, List.foldl_nil, List.map_cons, List.map_nil,
      Nat.pow_div hcount (by omega : 0 < 2), roundStart_succ (by omega : 1 ≤ count + 1) hcount]

/-- The start id of a round, as the builder looks it up. -/
theorem roundStartIds_getD {rounds count round : ℕ} (hcount : count ≤ rounds)
    (hround : round < count) :
    (roundStartIds (2 ^ rounds) count).1.getD round 0 = roundStart rounds (round + 1) := by
  rw [roundStartIds_eq rounds count hcount, List.getD_eq_getElem?_getD, List.getElem?_map,
    List.getElem?_range' (by omega)]
  simp [Nat.add_comm]

namespace PlannedKnockout

variable {tournament : TournamentConfig} {entrants legs start : ℕ}

/-- The rounds of a planned bracket. -/
theorem rounds_pos (plan : PlannedKnockout tournament entrants legs start) :
    1 ≤ Nat.clog 2 entrants :=
  Nat.clog_pos (by omega) plan.two_le_entrants

/-- The bracket has a slot for every entrant. -/
theorem nextPowerOfTwo_eq (plan : PlannedKnockout tournament entrants legs start) :
    nextPowerOfTwo entrants = 2 ^ Nat.clog 2 entrants := by
  rw [nextPowerOfTwo, if_neg (by have := plan.two_le_entrants; omega)]

end PlannedKnockout

/-- The match at an index of a round, with the number of its halving rounds. -/
def bracketMatch (tournament : TournamentConfig) (seededRoundOne : Option (List SeedPair))
    (rounds round index : ℕ) : KnockoutMatchRow :=
  { tournamentId := tournament.id
    round := round
    startedEventId := knockoutRoundStart tournament round
    endedEventId :=
      knockoutRoundStart tournament round + tournament.knockoutPlayAgainstNum.getD 1 - 1
    matchId := roundStart rounds round + index
    nextMatchId := if round < rounds then some (roundStart rounds (round + 1) + index / 2) else none
    homeEntryId := (knockoutSeed seededRoundOne round index).bind SeedPair.homeEntryId
    awayEntryId := (knockoutSeed seededRoundOne round index).bind SeedPair.awayEntryId }

/-- The legs of a match: one event each, with the slots exchanged in every second leg. -/
def matchLegs (legs : ℕ) (row : KnockoutMatchRow) : List KnockoutResultRow :=
  (List.range legs).map fun leg =>
    { tournamentId := row.tournamentId
      eventId := row.startedEventId + leg
      matchId := row.matchId
      playAgainstId := leg + 1
      homeEntryId := if leg % 2 = 1 then row.awayEntryId else row.homeEntryId
      awayEntryId := if leg % 2 = 1 then row.homeEntryId else row.awayEntryId }

section Rows

variable {tournament : TournamentConfig} {entrants legs start : ℕ}
  (seededRoundOne : Option (List SeedPair))

/-- The builder's match rows are the matches of the halving rounds. -/
theorem knockoutMatchRow_eq (plan : PlannedKnockout tournament entrants legs start)
    {round index : ℕ} (hpos : 1 ≤ round) (hround : round ≤ Nat.clog 2 entrants) :
    knockoutMatchRow tournament seededRoundOne
        (roundStartIds (2 ^ Nat.clog 2 entrants) (Nat.clog 2 entrants)).1 round index =
      bracketMatch tournament seededRoundOne (Nat.clog 2 entrants) round index := by
  have hstart := roundStartIds_getD (le_refl (Nat.clog 2 entrants))
    (show round - 1 < Nat.clog 2 entrants by omega)
  rw [Nat.sub_add_cancel hpos] at hstart
  simp only [knockoutMatchRow, bracketMatch, hstart, plan.knockoutEventNum, Option.getD_some]
  congr 1
  split
  next hnext => rw [roundStartIds_getD (le_refl _) hnext]
  next => rfl

/-- The builder's result rows are the legs of the matches. -/
theorem knockoutResultRow_eq {round index : ℕ} (hpos : 1 ≤ round)
    (hround : round ≤ Nat.clog 2 entrants) :
    ((List.range legs).map fun leg => knockoutResultRow tournament seededRoundOne
        (roundStartIds (2 ^ Nat.clog 2 entrants) (Nat.clog 2 entrants)).1 round index leg) =
      matchLegs legs
        (bracketMatch tournament seededRoundOne (Nat.clog 2 entrants) round index) := by
  have hstart := roundStartIds_getD (le_refl (Nat.clog 2 entrants))
    (show round - 1 < Nat.clog 2 entrants by omega)
  rw [Nat.sub_add_cancel hpos] at hstart
  refine List.map_congr_left fun leg _ => ?_
  simp only [knockoutResultRow, bracketMatch, hstart]
  cases knockoutSeed seededRoundOne round index with
  | none => simp
  | some pair => by_cases hswap : leg % 2 = 1 <;> simp [hswap, SeedPair.swap]

/-- The bracket of a planned knockout. -/
theorem buildKnockoutRows_eq (plan : PlannedKnockout tournament entrants legs start) :
    (buildKnockoutRows tournament seededRoundOne).matchRows =
      (List.range' 1 (Nat.clog 2 entrants)).flatMap fun round =>
        (List.range (2 ^ (Nat.clog 2 entrants - round))).map fun index =>
          bracketMatch tournament seededRoundOne (Nat.clog 2 entrants) round index := by
  have htwo := plan.two_le_entrants
  have hrounds := plan.rounds_pos
  have hstart := plan.one_le_start
  rw [buildKnockoutRows]
  simp only [plan.knockoutTeamNum, plan.knockoutEventNum, plan.knockoutStartedEventId,
    Option.getD_some, plan.nextPowerOfTwo_eq]
  rw [if_neg (by omega)]
  refine List.flatMap_congr fun round hround => ?_
  rw [List.mem_range'_1] at hround
  rw [Nat.pow_div (by omega) (by omega)]
  exact List.map_congr_left fun index _ =>
    knockoutMatchRow_eq seededRoundOne plan hround.1 (by omega)

/-- Every match of a planned knockout has exactly its legs. -/
theorem buildKnockoutRows_resultRows (plan : PlannedKnockout tournament entrants legs start) :
    (buildKnockoutRows tournament seededRoundOne).resultRows =
      (buildKnockoutRows tournament seededRoundOne).matchRows.flatMap (matchLegs legs) := by
  rw [buildKnockoutRows_eq seededRoundOne plan, List.flatMap_assoc]
  have htwo := plan.two_le_entrants
  have hrounds := plan.rounds_pos
  have hstart := plan.one_le_start
  rw [buildKnockoutRows]
  simp only [plan.knockoutTeamNum, plan.knockoutEventNum, plan.knockoutStartedEventId,
    plan.knockoutPlayAgainstNum, Option.getD_some, plan.nextPowerOfTwo_eq]
  rw [if_neg (by omega)]
  refine List.flatMap_congr fun round hround => ?_
  rw [List.mem_range'_1] at hround
  rw [Nat.pow_div (by omega) (by omega), List.flatMap_map]
  exact List.flatMap_congr fun index _ =>
    knockoutResultRow_eq seededRoundOne hround.1 (by omega)

/-- The matches of a planned knockout are indexed by round and place. -/
theorem mem_matchRows (plan : PlannedKnockout tournament entrants legs start)
    {row : KnockoutMatchRow} :
    row ∈ (buildKnockoutRows tournament seededRoundOne).matchRows ↔
      ∃ round index, (1 ≤ round ∧ round ≤ Nat.clog 2 entrants) ∧
        index < 2 ^ (Nat.clog 2 entrants - round) ∧
        row = bracketMatch tournament seededRoundOne (Nat.clog 2 entrants) round index := by
  rw [buildKnockoutRows_eq seededRoundOne plan]
  simp only [List.mem_flatMap, List.mem_range'_1, List.mem_map, List.mem_range]
  constructor
  · rintro ⟨round, hround, index, hindex, rfl⟩
    exact ⟨round, index, by omega, hindex, rfl⟩
  · rintro ⟨round, index, hround, hindex, rfl⟩
    exact ⟨round, by omega, index, hindex, rfl⟩

/-- The first round of a planned knockout pairs up the slots. -/
theorem filter_roundOne (plan : PlannedKnockout tournament entrants legs start) :
    ((buildKnockoutRows tournament seededRoundOne).matchRows.filter fun row => row.round = 1) =
      (List.range (nextPowerOfTwo entrants / 2)).map fun index =>
        bracketMatch tournament seededRoundOne (Nat.clog 2 entrants) 1 index := by
  rw [buildKnockoutRows_eq seededRoundOne plan, plan.nextPowerOfTwo_eq]
  obtain ⟨rounds, hrounds⟩ := Nat.exists_eq_add_of_le' plan.rounds_pos
  rw [hrounds, List.range'_succ, List.flatMap_cons, List.filter_append, pow_succ',
    Nat.mul_div_cancel_left _ (by omega), Nat.add_sub_cancel]
  have hfirst : ∀ rows : List ℕ, (rows.map fun index =>
      bracketMatch tournament seededRoundOne (rounds + 1) 1 index).filter
        (fun row => row.round = 1) = rows.map fun index =>
          bracketMatch tournament seededRoundOne (rounds + 1) 1 index := by
    intro rows
    rw [List.filter_eq_self]
    intro row hrow
    obtain ⟨index, -, rfl⟩ := List.mem_map.mp hrow
    simp [bracketMatch]
  have hlater : ∀ row ∈ (List.range' (1 + 1) rounds).flatMap fun round =>
      (List.range (2 ^ (rounds + 1 - round))).map fun index =>
        bracketMatch tournament seededRoundOne (rounds + 1) round index, ¬ row.round = 1 := by
    intro row hrow
    obtain ⟨round, hround, hmem⟩ := List.mem_flatMap.mp hrow
    obtain ⟨index, -, rfl⟩ := List.mem_map.mp hmem
    rw [List.mem_range'_1] at hround
    change ¬ round = 1
    omega
  rw [hfirst, List.filter_eq_nil_iff.mpr (by simpa using hlater), List.append_nil]

/-- The match ids of a planned knockout run from one to the number of matches. -/
theorem map_matchId (plan : PlannedKnockout tournament entrants legs start) :
    (buildKnockoutRows tournament seededRoundOne).matchRows.map KnockoutMatchRow.matchId =
      List.range' 1 (nextPowerOfTwo entrants - 1) := by
  rw [buildKnockoutRows_eq seededRoundOne plan, List.map_flatMap, plan.nextPowerOfTwo_eq,
    ← roundStart_end, ← flatMap_roundStart _ (le_refl _)]
  refine List.flatMap_congr fun round _ => ?_
  rw [List.map_map, List.range'_eq_map_range]
  rfl

/-- A match is determined by its id. -/
theorem eq_of_matchId_eq (plan : PlannedKnockout tournament entrants legs start)
    {left right : KnockoutMatchRow}
    (hleft : left ∈ (buildKnockoutRows tournament seededRoundOne).matchRows)
    (hright : right ∈ (buildKnockoutRows tournament seededRoundOne).matchRows)
    (heq : left.matchId = right.matchId) : left = right := by
  have hnodup : ((buildKnockoutRows tournament seededRoundOne).matchRows.map
      KnockoutMatchRow.matchId).Nodup := by
    rw [map_matchId seededRoundOne plan]
    exact List.nodup_range'
  exact List.inj_on_of_nodup_map hnodup hleft hright heq

/-- The matches fed into a match are the two at its doubled index in the preceding round. -/
theorem bracketMatch_feeds_iff {rounds round index later place : ℕ}
    (hround : 1 ≤ round ∧ round ≤ rounds) (hlater : 1 ≤ later ∧ later ≤ rounds)
    (hindex : index < 2 ^ (rounds - round)) (hplace : place < 2 ^ (rounds - later)) :
    (bracketMatch tournament seededRoundOne rounds round index).nextMatchId =
        some (bracketMatch tournament seededRoundOne rounds later place).matchId ↔
      round + 1 = later ∧ (index = 2 * place ∨ index = 2 * place + 1) := by
  simp only [bracketMatch]
  split
  next hnext =>
    have hhalf : index / 2 < 2 ^ (rounds - (round + 1)) := by
      have hpow : 2 ^ (rounds - round) = 2 * 2 ^ (rounds - (round + 1)) := by
        rw [show rounds - round = rounds - (round + 1) + 1 by omega, pow_succ']
      omega
    rw [Option.some.injEq]
    constructor
    · intro heq
      obtain ⟨rfl, rfl⟩ := roundStart_add_injective (by omega) hlater hhalf hplace heq
      omega
    · rintro ⟨rfl, hplaces⟩
      rw [show index / 2 = place by omega]
  next hlast =>
    simp only [reduceCtorEq, false_iff]
    omega

end Rows

/-- What a bracket of `entrants` over the events from `start` to `finish` must look like,
with `legs` events per round. -/
structure WellFormedBracket (entrants legs start finish : ℕ) (rows : KnockoutRows) : Prop where
  match_count : rows.matchRows.length = nextPowerOfTwo entrants - 1
  matchIds_distinct : (rows.matchRows.map KnockoutMatchRow.matchId).Nodup
  one_final : ∃ final ∈ rows.matchRows, ∀ row ∈ rows.matchRows,
    row.nextMatchId = none ↔ row = final
  two_feeders : ∀ row ∈ rows.matchRows, row.round ≠ 1 →
    ∃ left ∈ rows.matchRows, ∃ right ∈ rows.matchRows,
      left.round + 1 = row.round ∧ right.round + 1 = row.round ∧
      left.matchId % 2 ≠ right.matchId % 2 ∧
      ∀ feeder ∈ rows.matchRows,
        feeder.nextMatchId = some row.matchId ↔ feeder = left ∨ feeder = right
  window_length : ∀ row ∈ rows.matchRows, row.endedEventId + 1 = row.startedEventId + legs
  windows_contiguous : ∀ earlier ∈ rows.matchRows, ∀ later ∈ rows.matchRows,
    later.round = earlier.round + 1 → later.startedEventId = earlier.endedEventId + 1
  windows_disjoint : ∀ earlier ∈ rows.matchRows, ∀ later ∈ rows.matchRows,
    earlier.round < later.round → earlier.endedEventId < later.startedEventId
  round_window : ∀ left ∈ rows.matchRows, ∀ right ∈ rows.matchRows, left.round = right.round →
    left.startedEventId = right.startedEventId ∧ left.endedEventId = right.endedEventId
  windows_cover : ∀ eventId, (start ≤ eventId ∧ eventId ≤ finish) ↔
    ∃ row ∈ rows.matchRows, row.startedEventId ≤ eventId ∧ eventId ≤ row.endedEventId
  result_rows : rows.resultRows = rows.matchRows.flatMap (matchLegs legs)

section WellFormed

variable {tournament : TournamentConfig} {entrants legs start : ℕ}
  (seededRoundOne : Option (List SeedPair))

/-- The window of a planned round. -/
theorem bracketMatch_window (plan : PlannedKnockout tournament entrants legs start)
    (rounds round index : ℕ) :
    (bracketMatch tournament seededRoundOne rounds round index).startedEventId =
        start + (round - 1) * legs ∧
      (bracketMatch tournament seededRoundOne rounds round index).endedEventId + 1 =
        start + (round - 1) * legs + legs := by
  have hlegs := plan.one_le_legs
  simp only [bracketMatch, knockoutRoundStart, plan.knockoutStartedEventId,
    plan.knockoutPlayAgainstNum, Option.getD_some, true_and]
  exact Nat.sub_add_cancel (hlegs.trans (Nat.le_add_left legs _))

/-- The events of a planned knockout fall into the windows of its rounds. -/
theorem windows_cover_iff (plan : PlannedKnockout tournament entrants legs start) (eventId : ℕ) :
    (start ≤ eventId ∧ eventId + 1 ≤ start + Nat.clog 2 entrants * legs) ↔
      ∃ row ∈ (buildKnockoutRows tournament seededRoundOne).matchRows,
        row.startedEventId ≤ eventId ∧ eventId ≤ row.endedEventId := by
  have hlegs := plan.one_le_legs
  constructor
  · rintro ⟨hstart, hfinish⟩
    obtain ⟨offset, rfl⟩ := Nat.exists_eq_add_of_le hstart
    have hdiv := Nat.div_add_mod offset legs
    have hmod := Nat.mod_lt offset (by omega : 0 < legs)
    have hround : offset / legs < Nat.clog 2 entrants :=
      Nat.div_lt_of_lt_mul (by rw [Nat.mul_comm]; omega)
    have hwindow := bracketMatch_window seededRoundOne plan (Nat.clog 2 entrants)
      (offset / legs + 1) 0
    rw [Nat.add_sub_cancel, Nat.mul_comm] at hwindow
    exact ⟨_, (mem_matchRows seededRoundOne plan).mpr
      ⟨offset / legs + 1, 0, ⟨Nat.le_add_left 1 _, hround⟩, Nat.two_pow_pos _, rfl⟩,
      by omega, by omega⟩
  · rintro ⟨row, hrow, hfrom, hto⟩
    obtain ⟨round, index, hround, hindex, rfl⟩ := (mem_matchRows seededRoundOne plan).mp hrow
    have hwindow := bracketMatch_window seededRoundOne plan (Nat.clog 2 entrants) round index
    have hlast : (round - 1) * legs + legs ≤ Nat.clog 2 entrants * legs := by
      rw [← Nat.succ_mul]
      exact Nat.mul_le_mul_right legs (by omega)
    omega

/-- Windows follow the rounds. -/
theorem windows_ordered (plan : PlannedKnockout tournament entrants legs start)
    (rounds earlier later index place : ℕ) (hpos : 1 ≤ earlier) (hlt : earlier < later) :
    (bracketMatch tournament seededRoundOne rounds earlier index).endedEventId <
      (bracketMatch tournament seededRoundOne rounds later place).startedEventId := by
  have hearlier := bracketMatch_window seededRoundOne plan rounds earlier index
  have hlater := bracketMatch_window seededRoundOne plan rounds later place
  have hgap : (earlier - 1) * legs + legs ≤ (later - 1) * legs := by
    rw [← Nat.succ_mul]
    exact Nat.mul_le_mul_right legs (by omega)
  omega

/-- The bracket of a planned knockout is well formed. -/
theorem buildKnockoutRows_wellFormedBracket
    (plan : PlannedKnockout tournament entrants legs start) {finish : ℕ}
    (hfinish : finish + 1 = start + Nat.clog 2 entrants * legs) :
    WellFormedBracket entrants legs start finish
      (buildKnockoutRows tournament seededRoundOne) := by
  have hrounds := plan.rounds_pos
  have hmem := @mem_matchRows tournament entrants legs start seededRoundOne plan
  refine { match_count := ?_, matchIds_distinct := ?_, one_final := ?_, two_feeders := ?_,
           window_length := ?_, windows_contiguous := ?_, windows_disjoint := ?_,
           round_window := ?_, windows_cover := ?_,
           result_rows := buildKnockoutRows_resultRows seededRoundOne plan }
  · rw [← List.length_map, map_matchId seededRoundOne plan, List.length_range']
  · rw [map_matchId seededRoundOne plan]
    exact List.nodup_range'
  · refine ⟨_, hmem.mpr ⟨Nat.clog 2 entrants, 0, by omega, by simp, rfl⟩, ?_⟩
    intro row hrow
    obtain ⟨round, index, hround, hindex, rfl⟩ := hmem.mp hrow
    constructor
    · intro hnone
      have hlast : round = Nat.clog 2 entrants := by
        by_contra hearlier
        simp [bracketMatch, show round < Nat.clog 2 entrants by omega] at hnone
      subst hlast
      simp only [Nat.sub_self, pow_zero, Nat.lt_one_iff] at hindex
      rw [hindex]
    · intro heq
      rw [heq]
      simp [bracketMatch]
  · intro row hrow hlater
    obtain ⟨later, place, hround, hplace, rfl⟩ := hmem.mp hrow
    have hprevious : 1 ≤ later - 1 ∧ later - 1 ≤ Nat.clog 2 entrants := by
      have : later ≠ 1 := hlater
      omega
    have hdouble : 2 ^ (Nat.clog 2 entrants - (later - 1)) =
        2 * 2 ^ (Nat.clog 2 entrants - later) := by
      rw [show Nat.clog 2 entrants - (later - 1) = Nat.clog 2 entrants - later + 1 by omega,
        pow_succ']
    refine ⟨_, hmem.mpr ⟨later - 1, 2 * place, hprevious, by omega, rfl⟩,
      _, hmem.mpr ⟨later - 1, 2 * place + 1, hprevious, by omega, rfl⟩, ?_, ?_, ?_, ?_⟩
    · exact Nat.sub_add_cancel hround.1
    · exact Nat.sub_add_cancel hround.1
    · simp only [bracketMatch]
      omega
    · intro feeder hfeeder
      obtain ⟨round, index, hfrom, hindex, rfl⟩ := hmem.mp hfeeder
      rw [bracketMatch_feeds_iff seededRoundOne hfrom hround hindex hplace]
      constructor
      · rintro ⟨rfl, rfl | rfl⟩
        · exact Or.inl rfl
        · exact Or.inr rfl
      · have hinjective := @roundStart_add_injective (Nat.clog 2 entrants) round (later - 1)
        rintro (heq | heq)
        · have hids := congrArg KnockoutMatchRow.matchId heq
          have hplaces := hinjective hfrom hprevious hindex (by omega) hids
          omega
        · have hids := congrArg KnockoutMatchRow.matchId heq
          have hplaces := hinjective hfrom hprevious hindex (by omega) hids
          omega
  · intro row hrow
    obtain ⟨round, index, hround, hindex, rfl⟩ := hmem.mp hrow
    have := bracketMatch_window seededRoundOne plan (Nat.clog 2 entrants) round index
    omega
  · intro earlier hearlier later hlater hnext
    obtain ⟨round, index, hround, hindex, rfl⟩ := hmem.mp hearlier
    obtain ⟨next, place, hbound, hplace, rfl⟩ := hmem.mp hlater
    obtain rfl : next = round + 1 := hnext
    have hwindow := bracketMatch_window seededRoundOne plan (Nat.clog 2 entrants) round index
    have hfollows := bracketMatch_window seededRoundOne plan (Nat.clog 2 entrants) (round + 1) place
    have hstep : (round + 1 - 1) * legs = (round - 1) * legs + legs := by
      rw [← Nat.succ_mul]
      congr 1
      omega
    omega
  · intro earlier hearlier later hlater hlt
    obtain ⟨round, index, hround, hindex, rfl⟩ := hmem.mp hearlier
    obtain ⟨next, place, hbound, hplace, rfl⟩ := hmem.mp hlater
    exact windows_ordered seededRoundOne plan _ round next index place hround.1 hlt
  · intro left hleft right hright hsame
    obtain ⟨round, index, hround, hindex, rfl⟩ := hmem.mp hleft
    obtain ⟨other, place, hbound, hplace, rfl⟩ := hmem.mp hright
    obtain rfl : round = other := hsame
    exact ⟨rfl, rfl⟩
  · intro eventId
    rw [← windows_cover_iff seededRoundOne plan eventId]
    omega

end WellFormed

/-- A gameweek lies in the season. -/
theorem parseGameweek_bounds {value : String} {eventId : ℕ}
    (h : parseGameweek value = some eventId) : 1 ≤ eventId ∧ eventId ≤ 38 := by
  unfold parseGameweek at h
  split at h
  · split at h
    · simp only [Option.ite_none_right_eq_some, Option.some.injEq] at h
      obtain ⟨hbounds, rfl⟩ := h
      exact hbounds
    · exact absurd h (by simp)
  · exact absurd h (by simp)

/-- Every knockout format plays at least one leg. -/
theorem KnockoutFormat.playAgainstNum_pos (knockoutFormat : KnockoutFormat)
    (h : knockoutFormat ≠ .none) :
    ∃ legs, knockoutFormat.playAgainstNum = some legs ∧ 1 ≤ legs := by
  cases knockoutFormat with
  | none => exact absurd rfl h
  | single => exact ⟨1, rfl, le_refl 1⟩
  | double => exact ⟨2, rfl, by omega⟩

/-- A knockout plays the legs of each of its rounds. -/
theorem KnockoutFormat.knockoutRounds_eq {knockoutFormat : KnockoutFormat} (eventNum : ℕ)
    {legs : ℕ} (h : knockoutFormat.playAgainstNum = some legs) :
    knockoutFormat.knockoutRounds (some eventNum) = some (eventNum * legs) := by
  cases knockoutFormat with
  | none => exact absurd h (by simp [KnockoutFormat.playAgainstNum])
  | single =>
    obtain rfl : 1 = legs := Option.some.inj h
    simp [KnockoutFormat.knockoutRounds]
  | double =>
    obtain rfl : 2 = legs := Option.some.inj h
    rfl

/-- An accepted plan without a checked error satisfies the guard it passed. -/
theorem ok_of_guard {α : Type} {guard : Prop} [Decidable guard] {error : ValidationError}
    {next : Except ValidationError α} {result : α}
    (h : (if guard then .error error else next) = .ok result) : ¬ guard ∧ next = .ok result := by
  split at h
  · exact absurd h (by simp)
  · next hguard => exact ⟨hguard, h⟩

section Accepted

variable {payload : TournamentCreateInput} {selectedParticipants : List TournamentParticipant}
  {leagueId : ℕ} {leagueType : LeagueType} {sourceLeagueName : Option String}
  {sourceConfig : Option SourceConfig} {plan : TournamentStructurePlan}

/-- The knockout of an accepted official head-to-head plan. -/
theorem planOfficialH2H_plannedKnockout {groupStartedEventId : ℕ} (hstart : 1 ≤ groupStartedEventId)
    (haccepted : planOfficialH2H payload selectedParticipants leagueId leagueType sourceLeagueName
      sourceConfig groupStartedEventId = .ok plan)
    (hknockout : plan.knockoutMode ≠ .noKnockout) (id : ℕ) :
    ∃ entrants legs start finish, PlannedKnockout (plan.config id) entrants legs start ∧
      plan.knockoutEndedEventId = some finish ∧
      finish + 1 = start + Nat.clog 2 entrants * legs ∧ finish ≤ 38 := by
  simp only [planOfficialH2H] at haccepted
  obtain ⟨hwindow, hplan⟩ := ok_of_guard haccepted
  obtain rfl := Except.ok.inj hplan
  generalize hrounds : ((sourceConfig.bind SourceConfig.knockoutRounds).getD 0).toNat = rounds at *
  have hpositive : 0 < rounds := by
    by_contra hzero
    simp [hzero] at hknockout
  have hofficialStart : 1 ≤ (sourceConfig.bind SourceConfig.startEventId).getD
      groupStartedEventId := by
    cases sourceConfig with
    | none => exact hstart
    | some config =>
      cases hconfig : config.startEventId with
      | none => simpa [hconfig] using hstart
      | some eventId => simpa [hconfig] using config.startEventId_positive eventId hconfig
  refine ⟨2 ^ rounds, 1, 38 - rounds + 1, 38, ?_, by simp [hpositive], ?_, le_refl _⟩
  · exact
      { knockoutTeamNum := by simp [TournamentStructurePlan.config, hpositive]
        two_le_entrants := by
          calc 2 = 2 ^ 1 := rfl
            _ ≤ 2 ^ rounds := Nat.pow_le_pow_right (by omega) hpositive
        knockoutEventNum := by
          simp [TournamentStructurePlan.config, hpositive, Nat.clog_pow]
        knockoutPlayAgainstNum := by simp [TournamentStructurePlan.config, hpositive]
        one_le_legs := le_refl 1
        knockoutStartedEventId := by simp [TournamentStructurePlan.config, hpositive]
        one_le_start := Nat.le_add_left 1 _ }
  · rw [Nat.clog_pow 2 rounds (by omega)]
    omega

/-- The knockout of an accepted plan of phases. -/
theorem planPhases_plannedKnockout {groupStartedEventId groupEndedEventId : ℕ}
    (hstart : 1 ≤ groupStartedEventId)
    (haccepted : planPhases payload selectedParticipants leagueId leagueType sourceLeagueName
      groupStartedEventId groupEndedEventId = .ok plan)
    (hknockout : plan.knockoutMode ≠ .noKnockout) (id : ℕ) :
    ∃ entrants legs start finish, PlannedKnockout (plan.config id) entrants legs start ∧
      plan.knockoutEndedEventId = some finish ∧
      finish + 1 = start + Nat.clog 2 entrants * legs ∧ finish ≤ 38 := by
  simp only [planPhases] at haccepted
  obtain ⟨hqualifiers, hnext⟩ := ok_of_guard haccepted
  obtain ⟨htotal, hnext⟩ := ok_of_guard hnext
  obtain ⟨hteams, hnext⟩ := ok_of_guard hnext
  obtain ⟨hevents, hplan⟩ := ok_of_guard hnext
  obtain rfl := Except.ok.inj hplan
  obtain ⟨entrants, hentrants⟩ : ∃ entrants, (if payload.groupFormat = .points then
      some ((toOptionalPositiveInteger payload.groupNum).getD 1 *
        (toOptionalPositiveInteger payload.qualifiersPerGroup).getD 0)
      else some selectedParticipants.length) = some entrants := by
    split <;> exact ⟨_, rfl⟩
  obtain ⟨start, hfrom, hpositive⟩ : ∃ start, (if payload.groupFormat = .none then
      some groupStartedEventId else some (groupEndedEventId + 1)) = some start ∧ 1 ≤ start := by
    split
    · exact ⟨_, rfl, hstart⟩
    · exact ⟨_, rfl, Nat.le_add_left 1 _⟩
  have hformat : payload.knockoutFormat ≠ .none := by
    intro hnone
    exact hknockout (by simp [hnone, KnockoutFormat.knockoutMode])
  obtain ⟨legs, hlegs, hlegsPos⟩ := payload.knockoutFormat.playAgainstNum_pos hformat
  simp only [hformat, hentrants, hfrom, ne_eq, not_false_eq_true, true_and, if_false,
    Option.getD_some, Option.bind_some, not_or, Nat.not_lt] at hteams hevents
  have htwo : 2 ≤ entrants := hteams.1
  have hrounds := KnockoutFormat.knockoutRounds_eq (Nat.clog 2 entrants) hlegs
  have hpositiveRounds : 1 ≤ Nat.clog 2 entrants * legs :=
    Nat.mul_pos (Nat.clog_pos (by omega) htwo) hlegsPos
  simp only [htwo, if_true, hrounds, KnockoutFormat.knockoutEndedEventId, hformat, false_or,
    Option.getD_some] at hevents
  rw [if_neg (by omega)] at hevents
  refine ⟨entrants, legs, start, start + (Nat.clog 2 entrants * legs - 1), ?_, ?_, by omega,
    by simpa using hevents.2⟩
  · exact
      { knockoutTeamNum := by simp [TournamentStructurePlan.config, hformat, hentrants]
        two_le_entrants := htwo
        knockoutEventNum := by simp [TournamentStructurePlan.config, hformat, hentrants, htwo]
        knockoutPlayAgainstNum := hlegs
        one_le_legs := hlegsPos
        knockoutStartedEventId := by simp [TournamentStructurePlan.config, hformat, hfrom]
        one_le_start := hpositive }
  · simp only [hformat, hentrants, hfrom, if_false, Option.bind_some, htwo, if_true, hrounds,
      KnockoutFormat.knockoutEndedEventId, false_or, Option.getD_some]
    rw [if_neg (by omega)]

/-- The knockout of every accepted plan ends with the season at the latest, after one event
per leg of each round. -/
theorem planTournamentStructure_plannedKnockout
    (haccepted : planTournamentStructure payload selectedParticipants leagueId leagueType
      sourceLeagueName sourceConfig = .ok plan)
    (hknockout : plan.knockoutMode ≠ .noKnockout) (id : ℕ) :
    ∃ entrants legs start finish, PlannedKnockout (plan.config id) entrants legs start ∧
      plan.knockoutEndedEventId = some finish ∧
      finish + 1 = start + Nat.clog 2 entrants * legs ∧ finish ≤ 38 := by
  rw [planTournamentStructure] at haccepted
  obtain ⟨-, haccepted⟩ := ok_of_guard haccepted
  obtain ⟨-, haccepted⟩ := ok_of_guard haccepted
  split at haccepted
  next groupStartedEventId groupEndedEventId hstart hend =>
    obtain ⟨-, haccepted⟩ := ok_of_guard haccepted
    have hpositive := (parseGameweek_bounds hstart).1
    split at haccepted
    · exact planOfficialH2H_plannedKnockout hpositive haccepted hknockout id
    · exact planPhases_plannedKnockout hpositive haccepted hknockout id
  next => exact absurd haccepted (by simp)

/-- Every accepted plan with a knockout phase yields a well-formed bracket over exactly its
planned events. -/
theorem planTournamentStructure_wellFormedBracket
    (haccepted : planTournamentStructure payload selectedParticipants leagueId leagueType
      sourceLeagueName sourceConfig = .ok plan)
    (hknockout : plan.knockoutMode ≠ .noKnockout) (id : ℕ)
    (seededRoundOne : Option (List SeedPair)) :
    ∃ entrants legs start finish,
      plan.knockoutTeamNum = some entrants ∧ plan.knockoutPlayAgainstNum = some legs ∧
      plan.knockoutStartedEventId = some start ∧ plan.knockoutEndedEventId = some finish ∧
      finish ≤ 38 ∧
      WellFormedBracket entrants legs start finish
        (buildKnockoutRows (plan.config id) seededRoundOne) := by
  obtain ⟨entrants, legs, start, finish, hplanned, hended, hfinish, hseason⟩ :=
    planTournamentStructure_plannedKnockout haccepted hknockout id
  exact ⟨entrants, legs, start, finish, hplanned.knockoutTeamNum, hplanned.knockoutPlayAgainstNum,
    hplanned.knockoutStartedEventId, hended, hseason,
    buildKnockoutRows_wellFormedBracket seededRoundOne hplanned hfinish⟩

end Accepted

/-- A request for a two-legged cup of three entries from gameweek 10. -/
def cupRequest : TournamentCreateInput :=
  { tournamentName := "Cup"
    adminId := "7"
    creator := "admin"
    platformAdmin := none
    participantSource := .custom
    groupFormat := .none
    startGameweek := "GW10"
    endGameweek := "GW12"
    groupNum := none
    qualifiersPerGroup := none
    knockoutFormat := .double
    adminId_digits := by decide
    groupNum_valid := by simp
    qualifiersPerGroup_valid := by simp }

/-- The entries of the cup. -/
def cupParticipants : List TournamentParticipant :=
  [⟨"7", "A", "a", 1, 0⟩, ⟨"8", "B", "b", 2, 0⟩, ⟨"9", "C", "c", 3, 0⟩]

/-- The cup is accepted and its four-slot bracket is well formed. -/
theorem cupRequest_wellFormedBracket :
    ∃ plan, planTournamentStructure cupRequest cupParticipants 1 .classic none none = .ok plan ∧
      ∃ entrants legs start finish,
        plan.knockoutTeamNum = some entrants ∧ plan.knockoutPlayAgainstNum = some legs ∧
        plan.knockoutStartedEventId = some start ∧ plan.knockoutEndedEventId = some finish ∧
        finish ≤ 38 ∧
        WellFormedBracket entrants legs start finish (buildKnockoutRows (plan.config 1) none) :=
  ⟨_, rfl, @planTournamentStructure_wellFormedBracket cupRequest cupParticipants 1 .classic none
    none _ rfl (by decide) 1 none⟩

/-! ## The links of a bracket

What scoring a bracket relies on: winners move up by one round, an odd and an even match feed
each match after the first round, all matches of a round end with the same event, and every
match plays a leg in every event of its round.
-/

/-- A well-formed bracket whose winners move up by one round. -/
structure LinkedBracket (entrants legs start finish : ℕ) (rows : KnockoutRows) : Prop
    extends WellFormedBracket entrants legs start finish rows where
  one_le_legs : 1 ≤ legs
  one_le_round : ∀ row ∈ rows.matchRows, 1 ≤ row.round
  next_round : ∀ row ∈ rows.matchRows, ∀ next ∈ rows.matchRows,
    row.nextMatchId = some next.matchId → next.round = row.round + 1

/-- The bracket of a planned knockout is linked. -/
theorem buildKnockoutRows_linkedBracket {tournament : TournamentConfig} {entrants legs start : ℕ}
    (seededRoundOne : Option (List SeedPair))
    (plan : PlannedKnockout tournament entrants legs start) :
    LinkedBracket entrants legs start (start + Nat.clog 2 entrants * legs - 1)
      (buildKnockoutRows tournament seededRoundOne) where
  toWellFormedBracket := buildKnockoutRows_wellFormedBracket seededRoundOne plan
    (Nat.sub_add_cancel (plan.one_le_start.trans (Nat.le_add_right start _)))
  one_le_legs := plan.one_le_legs
  one_le_round := by
    intro row hrow
    obtain ⟨round, index, hround, -, rfl⟩ := (mem_matchRows seededRoundOne plan).mp hrow
    exact hround.1
  next_round := by
    intro row hrow next hnext hfeeds
    obtain ⟨round, index, hround, hindex, rfl⟩ := (mem_matchRows seededRoundOne plan).mp hrow
    obtain ⟨later, place, hlater, hplace, rfl⟩ := (mem_matchRows seededRoundOne plan).mp hnext
    exact ((bracketMatch_feeds_iff seededRoundOne hround hlater hindex hplace).mp hfeeds).1.symm

/-- A leg belongs to the match it was built for. -/
theorem mem_matchLegs {legs : ℕ} {row : KnockoutMatchRow} {leg : KnockoutResultRow} :
    leg ∈ matchLegs legs row ↔ ∃ place < legs,
      { tournamentId := row.tournamentId
        eventId := row.startedEventId + place
        matchId := row.matchId
        playAgainstId := place + 1
        homeEntryId := if place % 2 = 1 then row.awayEntryId else row.homeEntryId
        awayEntryId := if place % 2 = 1 then row.homeEntryId else row.awayEntryId } = leg := by
  simp [matchLegs]

namespace LinkedBracket

variable {entrants legs start finish : ℕ} {rows : KnockoutRows}

/-- The match of a leg. -/
theorem match_of_leg (linked : LinkedBracket entrants legs start finish rows)
    {leg : KnockoutResultRow} (h : leg ∈ rows.resultRows) :
    ∃ row ∈ rows.matchRows, leg ∈ matchLegs legs row := by
  rwa [linked.result_rows, List.mem_flatMap] at h

/-- A match after the first round is fed by an odd and by an even match. -/
theorem feeders (linked : LinkedBracket entrants legs start finish rows) {next : KnockoutMatchRow}
    (hnext : next ∈ rows.matchRows) (hround : next.round ≠ 1) :
    ∃ home ∈ rows.matchRows, ∃ away ∈ rows.matchRows,
      home.matchId % 2 = 1 ∧ away.matchId % 2 = 0 ∧
      ∀ feeder ∈ rows.matchRows,
        feeder.nextMatchId = some next.matchId ↔ feeder = home ∨ feeder = away := by
  obtain ⟨left, hleft, right, hright, -, -, hparity, hfeeds⟩ :=
    linked.two_feeders next hnext hround
  rcases Nat.mod_two_eq_zero_or_one left.matchId with heven | hodd
  · refine ⟨right, hright, left, hleft, by omega, heven, fun feeder hfeeder => ?_⟩
    rw [hfeeds feeder hfeeder, or_comm]
  · exact ⟨left, hleft, right, hright, hodd, by omega, hfeeds⟩

/-- Matches end with the same event exactly when they are of the same round. -/
theorem endedEventId_eq_iff (linked : LinkedBracket entrants legs start finish rows)
    {left right : KnockoutMatchRow} (hleft : left ∈ rows.matchRows)
    (hright : right ∈ rows.matchRows) :
    left.endedEventId = right.endedEventId ↔ left.round = right.round := by
  have hlegs := linked.one_le_legs
  constructor
  · intro hended
    rcases Nat.lt_trichotomy left.round right.round with hlt | heq | hlt
    · have hwindow := linked.windows_disjoint left hleft right hright hlt
      have hlength := linked.window_length right hright
      omega
    · exact heq
    · have hwindow := linked.windows_disjoint right hright left hleft hlt
      have hlength := linked.window_length left hleft
      omega
  · exact fun hround => (linked.round_window left hleft right hright hround).2

/-- A match plays a leg in the event it ends with. -/
theorem last_leg (linked : LinkedBracket entrants legs start finish rows) {row : KnockoutMatchRow}
    (hrow : row ∈ rows.matchRows) :
    ∃ leg ∈ rows.resultRows, leg.matchId = row.matchId ∧ leg.eventId = row.endedEventId := by
  have hlegs := linked.one_le_legs
  have hwindow := linked.window_length row hrow
  rw [linked.result_rows]
  refine ⟨_, List.mem_flatMap.mpr ⟨row, hrow, mem_matchLegs.mpr ⟨legs - 1, by omega, rfl⟩⟩,
    rfl, ?_⟩
  change row.startedEventId + (legs - 1) = row.endedEventId
  omega

/-- All matches of a round play a leg in the same events. -/
theorem leg_of_round (linked : LinkedBracket entrants legs start finish rows)
    {row other : KnockoutMatchRow} (hrow : row ∈ rows.matchRows) (hother : other ∈ rows.matchRows)
    (hround : row.round = other.round) {leg : KnockoutResultRow} (hleg : leg ∈ matchLegs legs row) :
    ∃ played ∈ rows.resultRows, played.matchId = other.matchId ∧ played.eventId = leg.eventId := by
  obtain ⟨place, hplace, rfl⟩ := mem_matchLegs.mp hleg
  rw [linked.result_rows]
  refine ⟨_, List.mem_flatMap.mpr ⟨other, hother, mem_matchLegs.mpr ⟨place, hplace, rfl⟩⟩,
    rfl, ?_⟩
  change other.startedEventId + place = row.startedEventId + place
  rw [(linked.round_window row hrow other hother hround).1]

/-- No two legs share their match and number. -/
theorem legs_distinct (linked : LinkedBracket entrants legs start finish rows) :
    (rows.resultRows.map fun leg => (leg.matchId, leg.playAgainstId)).Nodup := by
  rw [linked.result_rows, List.map_flatMap, List.nodup_flatMap]
  constructor
  · intro row _
    rw [matchLegs, List.map_map]
    refine List.nodup_range.map fun left right heq => ?_
    exact Nat.succ.inj (Prod.mk.inj heq).2
  · have hids := linked.matchIds_distinct
    rw [List.Nodup, List.pairwise_map] at hids
    refine hids.imp fun {left right} hne => ?_
    simp only [Function.onFun, List.disjoint_left, List.mem_map]
    rintro key ⟨leg, hleg, rfl⟩ ⟨other, hother, heq⟩
    obtain ⟨place, -, rfl⟩ := mem_matchLegs.mp hleg
    obtain ⟨place', -, rfl⟩ := mem_matchLegs.mp hother
    exact hne (Prod.mk.inj heq).1.symm

end LinkedBracket

end LetletmeData
