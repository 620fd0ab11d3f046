import LetletmeData.Library.Brackets
import LetletmeData.Domain.BracketShape
import LetletmeData.Services.TournamentKnockoutResults

/-!
# The stored bracket

A stored bracket keeps the matches and legs it was built with. Its legs carry the entries of
their matches, and the slots of a later match carry the winners of the two matches that feed
it, so the winners of a bracket determine who plays.
-/

namespace LetletmeData

open LetletmeData.Library

/-- The row a stored match was built as, apart from its entries. -/
def Knockout.fixture (row : Knockout) : KnockoutMatchRow :=
  { row.toKnockoutMatchRow with homeEntryId := none, awayEntryId := none }

/-- The row a stored leg was built as, apart from its entries. -/
def KnockoutResult.fixture (row : KnockoutResult) : KnockoutResultRow :=
  { row.toKnockoutResultRow with homeEntryId := none, awayEntryId := none }

/-- Matches built as the same row share its columns. -/
theorem Knockout.columns_of_fixture {left right : Knockout} (h : left.fixture = right.fixture) :
    left.matchId = right.matchId ∧ left.round = right.round ∧
      left.nextMatchId = right.nextMatchId ∧ left.endedEventId = right.endedEventId := by
  have hid := congrArg KnockoutMatchRow.matchId h
  have hround := congrArg KnockoutMatchRow.round h
  have hnext := congrArg KnockoutMatchRow.nextMatchId h
  have hended := congrArg KnockoutMatchRow.endedEventId h
  exact ⟨hid, hround, hnext, hended⟩

/-- Legs built as the same row share its columns. -/
theorem KnockoutResult.columns_of_fixture {left right : KnockoutResult}
    (h : left.fixture = right.fixture) :
    left.matchId = right.matchId ∧ left.playAgainstId = right.playAgainstId := by
  have hid := congrArg KnockoutResultRow.matchId h
  have hnumber := congrArg KnockoutResultRow.playAgainstId h
  exact ⟨hid, hnumber⟩

/-- An entry holds one of the two slots of a match. -/
def Knockout.Holds (row : Knockout) (entryId : ℕ) : Prop :=
  row.homeEntryId = some entryId ∨ row.awayEntryId = some entryId

/-- The slot of a match that the winner of an odd or an even match fills. -/
def Knockout.slotFedBy (next feeder : Knockout) : Option ℕ :=
  if feeder.matchId % 2 = 1 then next.homeEntryId else next.awayEntryId

/-- A leg carries the entries of its match; every second leg swaps them. -/
structure KnockoutResult.Follows (result : KnockoutResult) (knockout : Knockout) : Prop where
  home : result.homeEntryId =
    if result.playAgainstId % 2 = 0 then knockout.awayEntryId else knockout.homeEntryId
  away : result.awayEntryId =
    if result.playAgainstId % 2 = 0 then knockout.homeEntryId else knockout.awayEntryId

/-- A leg has no entry exactly when its match has none. -/
theorem KnockoutResult.Follows.empty_iff {result : KnockoutResult} {knockout : Knockout}
    (h : result.Follows knockout) :
    (result.homeEntryId = none ∧ result.awayEntryId = none) ↔
      knockout.homeEntryId = none ∧ knockout.awayEntryId = none := by
  rw [h.home, h.away]
  split
  · exact and_comm
  · exact Iff.rfl

/-- The entries of a leg hold the slots of its match. -/
theorem KnockoutResult.Follows.holds {result : KnockoutResult} {knockout : Knockout}
    (h : result.Follows knockout) {entryId : ℕ}
    (hentry : result.homeEntryId = some entryId ∨ result.awayEntryId = some entryId) :
    knockout.Holds entryId := by
  rw [h.home, h.away] at hentry
  split at hentry
  · exact hentry.symm
  · exact hentry

/-- A stored bracket over the rows of a built one. -/
structure KnockoutState.Linked (rows : KnockoutRows) (state : KnockoutState) : Prop where
  fixtures : state.knockouts.map Knockout.fixture = rows.matchRows
  resultFixtures : state.results.map KnockoutResult.fixture = rows.resultRows
  legs_follow : ∀ knockout ∈ state.knockouts, ∀ result ∈ state.results,
    result.matchId = knockout.matchId → result.Follows knockout
  slots_follow : ∀ feeder ∈ state.knockouts, ∀ next ∈ state.knockouts,
    feeder.nextMatchId = some next.matchId → next.slotFedBy feeder = feeder.roundWinner
  undecided : alreadySeeded (findRoundOne state) = false →
    ∀ knockout ∈ state.knockouts, knockout.roundWinner = none

/-- The first round is seeded when each of its matches has an entry. -/
theorem alreadySeeded_iff {state : KnockoutState} :
    alreadySeeded (findRoundOne state) = true ↔
      ∀ knockout ∈ state.knockouts, knockout.round = 1 →
        ¬ (knockout.homeEntryId = none ∧ knockout.awayEntryId = none) := by
  simp only [alreadySeeded, findRoundOne, List.all_eq_true, List.mem_insertionSort,
    List.mem_filter, decide_eq_true_eq, and_imp, Bool.or_eq_true, Option.isSome_iff_ne_none,
    not_and_or]

namespace KnockoutState.Linked

variable {entrants legs start finish : ℕ} {rows : KnockoutRows} {state : KnockoutState}

/-- A stored match was built. -/
theorem mem_matchRows (h : state.Linked rows) {knockout : Knockout}
    (hknockout : knockout ∈ state.knockouts) : knockout.fixture ∈ rows.matchRows := by
  rw [← h.fixtures]
  exact List.mem_map_of_mem hknockout

/-- A built match is stored. -/
theorem exists_knockout (h : state.Linked rows) {row : KnockoutMatchRow}
    (hrow : row ∈ rows.matchRows) : ∃ knockout ∈ state.knockouts, knockout.fixture = row := by
  rwa [← h.fixtures, List.mem_map] at hrow

/-- A stored leg was built. -/
theorem mem_resultRows (h : state.Linked rows) {result : KnockoutResult}
    (hresult : result ∈ state.results) : result.fixture ∈ rows.resultRows := by
  rw [← h.resultFixtures]
  exact List.mem_map_of_mem hresult

/-- A built leg is stored. -/
theorem exists_result (h : state.Linked rows) {leg : KnockoutResultRow}
    (hleg : leg ∈ rows.resultRows) : ∃ result ∈ state.results, result.fixture = leg := by
  rwa [← h.resultFixtures, List.mem_map] at hleg

section Built

variable (linked : LinkedBracket entrants legs start finish rows)
include linked

/-- The ids of the stored matches are distinct. -/
theorem matchIds_distinct (h : state.Linked rows) :
    (state.knockouts.map fun knockout => knockout.matchId).Nodup := by
  have hids := linked.matchIds_distinct
  rw [← h.fixtures, List.map_map] at hids
  exact hids

/-- A stored match is found by its id. -/
theorem eq_of_matchId (h : state.Linked rows) {left right : Knockout}
    (hleft : left ∈ state.knockouts) (hright : right ∈ state.knockouts)
    (heq : left.matchId = right.matchId) : left = right :=
  List.inj_on_of_nodup_map (h.matchIds_distinct linked) hleft hright heq

/-- The keys of the stored matches are distinct. -/
theorem keys_distinct (h : state.Linked rows) : (state.knockouts.map Knockout.key).Nodup := by
  refine List.Nodup.of_map Prod.snd ?_
  rw [List.map_map]
  exact h.matchIds_distinct linked

/-- The keys of the stored legs are distinct. -/
theorem resultKeys_distinct (h : state.Linked rows) :
    (state.results.map KnockoutResult.key).Nodup := by
  have hlegs := linked.legs_distinct
  rw [← h.resultFixtures, List.map_map] at hlegs
  refine List.Nodup.of_map (fun key => (key.2.2.1, key.2.2.2)) ?_
  rw [List.map_map]
  exact hlegs

/-- The legs of a match are numbered from one. -/
theorem playAgainstId_eq (h : state.Linked rows) {result : KnockoutResult}
    (hresult : result ∈ state.results) : ∃ place < legs, result.playAgainstId = place + 1 := by
  obtain ⟨row, -, hleg⟩ := linked.match_of_leg (h.mem_resultRows hresult)
  obtain ⟨place, hplace, heq⟩ := mem_matchLegs.mp hleg
  exact ⟨place, hplace, (congrArg KnockoutResultRow.playAgainstId heq).symm⟩

/-- A match that another feeds is of the next round. -/
theorem next_round (h : state.Linked rows) {feeder next : Knockout}
    (hfeeder : feeder ∈ state.knockouts) (hnext : next ∈ state.knockouts)
    (hfeeds : feeder.nextMatchId = some next.matchId) : next.round = feeder.round + 1 :=
  linked.next_round feeder.fixture (h.mem_matchRows hfeeder) next.fixture (h.mem_matchRows hnext)
    hfeeds

/-- No match feeds one of the first round. -/
theorem next_round_ne_one (h : state.Linked rows) {feeder next : Knockout}
    (hfeeder : feeder ∈ state.knockouts) (hnext : next ∈ state.knockouts)
    (hfeeds : feeder.nextMatchId = some next.matchId) : next.round ≠ 1 := by
  have hround := h.next_round linked hfeeder hnext hfeeds
  have hone := linked.one_le_round _ (h.mem_matchRows hfeeder)
  change 1 ≤ feeder.round at hone
  omega

/-- The two matches that feed a stored match after the first round. -/
theorem feeders (h : state.Linked rows) {next : Knockout} (hnext : next ∈ state.knockouts)
    (hround : next.round ≠ 1) :
    ∃ home ∈ state.knockouts, ∃ away ∈ state.knockouts,
      home.matchId % 2 = 1 ∧ away.matchId % 2 = 0 ∧
      ∀ feeder ∈ state.knockouts,
        feeder.nextMatchId = some next.matchId ↔ feeder = home ∨ feeder = away := by
  obtain ⟨homeRow, hhomeRow, awayRow, hawayRow, hodd, heven, hfeeds⟩ :=
    linked.feeders (h.mem_matchRows hnext) hround
  obtain ⟨home, hhome, rfl⟩ := h.exists_knockout hhomeRow
  obtain ⟨away, haway, rfl⟩ := h.exists_knockout hawayRow
  refine ⟨home, hhome, away, haway, hodd, heven, fun feeder hfeeder => ?_⟩
  have hrow := hfeeds feeder.fixture (h.mem_matchRows hfeeder)
  refine hrow.trans (or_congr ?_ ?_)
  · exact ⟨fun heq => h.eq_of_matchId linked hfeeder hhome (congrArg (·.matchId) heq),
      congrArg Knockout.fixture⟩
  · exact ⟨fun heq => h.eq_of_matchId linked hfeeder haway (congrArg (·.matchId) heq),
      congrArg Knockout.fixture⟩

/-- The entries of a match after the first round are the winners of the matches that feed it. -/
theorem holds_iff (h : state.Linked rows) {next : Knockout} (hnext : next ∈ state.knockouts)
    (hround : next.round ≠ 1) (entryId : ℕ) :
    next.Holds entryId ↔ ∃ feeder ∈ state.knockouts,
      feeder.nextMatchId = some next.matchId ∧ feeder.roundWinner = some entryId := by
  obtain ⟨home, hhome, away, haway, hodd, heven, hfeeds⟩ := h.feeders linked hnext hround
  have hhomeFeeds := (hfeeds home hhome).mpr (.inl rfl)
  have hawayFeeds := (hfeeds away haway).mpr (.inr rfl)
  have hhomeSlot := h.slots_follow home hhome next hnext hhomeFeeds
  have hawaySlot := h.slots_follow away haway next hnext hawayFeeds
  rw [Knockout.slotFedBy, if_pos hodd] at hhomeSlot
  rw [Knockout.slotFedBy, if_neg (by omega)] at hawaySlot
  rw [Knockout.Holds, hhomeSlot, hawaySlot]
  constructor
  · rintro (hwinner | hwinner)
    · exact ⟨home, hhome, hhomeFeeds, hwinner⟩
    · exact ⟨away, haway, hawayFeeds, hwinner⟩
  · rintro ⟨feeder, hfeeder, hfeederFeeds, hwinner⟩
    rcases (hfeeds feeder hfeeder).mp hfeederFeeds with rfl | rfl
    · exact .inl hwinner
    · exact .inr hwinner

end Built

end KnockoutState.Linked

/-! ## Seeding -/

section Seeding

variable {tournament : TournamentConfig} {entrants legs start : ℕ}

/-- Without its entries, a bracket is the one built without seeds. -/
theorem fixture_bracketMatch (seededRoundOne : Option (List SeedPair)) (rounds round index : ℕ) :
    (Knockout.ofRow (bracketMatch tournament seededRoundOne rounds round index)).fixture =
      bracketMatch tournament none rounds round index := by
  simp [Knockout.fixture, Knockout.ofRow, bracketMatch, knockoutSeed]

/-- A fresh bracket is linked and has no winner. -/
theorem storedBracket_linked (seededRoundOne : Option (List SeedPair))
    (plan : PlannedKnockout tournament entrants legs start) :
    (storedBracket (buildKnockoutRows tournament seededRoundOne)).Linked
        (buildKnockoutRows tournament none) ∧
      ∀ knockout ∈ (storedBracket (buildKnockoutRows tournament seededRoundOne)).knockouts,
        knockout.roundWinner = none := by
  have hmatches : (buildKnockoutRows tournament seededRoundOne).matchRows.map
      (Knockout.fixture ∘ Knockout.ofRow) = (buildKnockoutRows tournament none).matchRows := by
    rw [buildKnockoutRows_eq seededRoundOne plan, buildKnockoutRows_eq none plan, List.map_flatMap]
    refine List.flatMap_congr fun round _ => ?_
    rw [List.map_map]
    exact List.map_congr_left fun index _ => fixture_bracketMatch seededRoundOne _ round index
  have hwinners : ∀ knockout ∈
      (storedBracket (buildKnockoutRows tournament seededRoundOne)).knockouts,
      knockout.roundWinner = none := by
    intro knockout hknockout
    obtain ⟨row, -, rfl⟩ := List.mem_map.mp hknockout
    rfl
  refine ⟨{ fixtures := ?_, resultFixtures := ?_, legs_follow := ?_, slots_follow := ?_,
            undecided := fun _ => hwinners }, hwinners⟩
  · rw [storedBracket, List.map_map, hmatches]
  · rw [storedBracket, List.map_map, buildKnockoutRows_resultRows seededRoundOne plan,
      buildKnockoutRows_resultRows none plan, ← hmatches, List.map_flatMap, List.flatMap_map]
    refine List.flatMap_congr fun row _ => ?_
    rw [matchLegs, matchLegs, List.map_map]
    refine List.map_congr_left fun place _ => ?_
    simp [KnockoutResult.fixture, KnockoutResult.ofRow, Knockout.fixture, Knockout.ofRow]
  · intro knockout hknockout result hresult hmatch
    obtain ⟨row, hrow, rfl⟩ := List.mem_map.mp hknockout
    obtain ⟨leg, hleg, rfl⟩ := List.mem_map.mp hresult
    rw [buildKnockoutRows_resultRows seededRoundOne plan] at hleg
    obtain ⟨other, hother, hleg⟩ := List.mem_flatMap.mp hleg
    obtain ⟨place, -, rfl⟩ := mem_matchLegs.mp hleg
    obtain rfl : other = row := eq_of_matchId_eq seededRoundOne plan hother hrow hmatch
    have hparity : place % 2 = 1 ↔ (place + 1) % 2 = 0 := by omega
    exact ⟨by simp [KnockoutResult.ofRow, Knockout.ofRow, hparity],
      by simp [KnockoutResult.ofRow, Knockout.ofRow, hparity]⟩
  · intro feeder hfeeder next hnext hfeeds
    obtain ⟨row, hrow, rfl⟩ := List.mem_map.mp hfeeder
    obtain ⟨later, hlater, rfl⟩ := List.mem_map.mp hnext
    have hlinked := buildKnockoutRows_linkedBracket seededRoundOne plan
    have hround := hlinked.next_round row hrow later hlater hfeeds
    have hone := hlinked.one_le_round row hrow
    obtain ⟨round, index, -, -, rfl⟩ := (mem_matchRows seededRoundOne plan).mp hlater
    have hne : round ≠ 1 := by
      change round = row.round + 1 at hround
      omega
    simp [Knockout.slotFedBy, Knockout.ofRow, bracketMatch, knockoutSeed, hne]

/-- The legs of a seeded match take its pair, every second one swapped. -/
theorem lookup_legUpdates (updates : List (ℕ × SeedPair)) (matchId : ℕ) {place : ℕ}
    (hplace : place < legs) :
    (updates.flatMap fun (matchId, pair) => (List.range legs).map fun leg =>
        ((matchId, leg + 1), if leg % 2 = 1 then pair.swap else pair)).lookup (matchId, place + 1) =
      (updates.lookup matchId).map fun pair => if place % 2 = 1 then pair.swap else pair := by
  induction updates with
  | nil => rfl
  | cons update rest ih =>
    obtain ⟨updated, pair⟩ := update
    rw [List.flatMap_cons, List.lookup_append, ih, List.lookup_cons]
    by_cases heq : matchId = updated
    · subst heq
      have hown : ((List.range legs).map fun leg =>
          ((matchId, leg + 1), if leg % 2 = 1 then pair.swap else pair)).lookup
            (matchId, place + 1) = some (if place % 2 = 1 then pair.swap else pair) := by
        have hgraph := List.lookup_graph
          (fun key : ℕ × ℕ => if (key.2 - 1) % 2 = 1 then pair.swap else pair)
          (List.mem_map_of_mem (f := fun leg => (matchId, leg + 1)) (List.mem_range.mpr hplace))
        rwa [List.map_map] at hgraph
      simp [hown]
    · have hother : ((List.range legs).map fun leg =>
          ((updated, leg + 1), if leg % 2 = 1 then pair.swap else pair)).lookup
            (matchId, place + 1) = none := by
        simp [List.lookup_eq_none_iff, heq]
      rw [hother, Option.none_or, beq_false_of_ne heq]

/-- Only matches of the first round are seeded. -/
theorem lookup_roundOneUpdates {pairs : List SeedPair} {state : KnockoutState} {matchId : ℕ}
    (h : ∀ knockout ∈ state.knockouts, knockout.matchId = matchId → knockout.round ≠ 1) :
    (roundOneUpdates pairs (findRoundOne state)).lookup matchId = none := by
  rw [List.lookup_eq_none_iff]
  intro update hupdate
  obtain ⟨⟨row, index⟩, hrow, hsome⟩ := List.mem_filterMap.mp hupdate
  obtain ⟨pair, -, rfl⟩ := Option.map_eq_some_iff.mp hsome
  have hfound : row ∈ findRoundOne state :=
    List.mem_of_getElem? (List.mem_zipIdx_iff_getElem?.mp hrow)
  rw [findRoundOne, List.mem_insertionSort, List.mem_filter] at hfound
  rw [bne_iff_ne]
  exact fun heq => h row hfound.1 heq.symm (of_decide_eq_true hfound.2)

/-- Seeding the first round of a bracket without winners keeps it linked. -/
theorem KnockoutState.Linked.seeded {finish : ℕ} {rows : KnockoutRows} {state : KnockoutState}
    (linked : LinkedBracket entrants legs start finish rows) (h : state.Linked rows)
    (hwinners : ∀ knockout ∈ state.knockouts, knockout.roundWinner = none)
    (pairs : List SeedPair) :
    (seedRoundOne pairs legs state).Linked rows ∧
      ∀ knockout ∈ (seedRoundOne pairs legs state).knockouts,
        knockout.roundWinner = none := by
  have hwinners' : ∀ knockout ∈ (seedRoundOne pairs legs state).knockouts,
      knockout.roundWinner = none := by
    intro knockout hknockout
    obtain ⟨old, hold, rfl⟩ := List.mem_map.mp hknockout
    have hnone := hwinners old hold
    split
    · exact hnone
    · exact hnone
  refine ⟨{ fixtures := ?_, resultFixtures := ?_, legs_follow := ?_, slots_follow := ?_,
            undecided := fun _ => hwinners' }, hwinners'⟩
  · rw [← h.fixtures, seedRoundOne, seedRoundOneBulk, List.map_map]
    refine List.map_congr_left fun knockout _ => ?_
    rw [Function.comp_apply]
    split
    · rfl
    · rfl
  · rw [← h.resultFixtures, seedRoundOne, seedRoundOneResultsBulk, List.map_map]
    refine List.map_congr_left fun result _ => ?_
    rw [Function.comp_apply]
    split
    · rfl
    · rfl
  · intro knockout hknockout result hresult hmatch
    obtain ⟨old, hold, rfl⟩ := List.mem_map.mp hknockout
    obtain ⟨leg, hleg, rfl⟩ := List.mem_map.mp hresult
    have hids : leg.matchId = old.matchId := by
      split at hmatch <;> split at hmatch <;> exact hmatch
    obtain ⟨place, hplace, hnumber⟩ := h.playAgainstId_eq linked hleg
    have hfollows := h.legs_follow old hold leg hleg hids
    have hparity : place % 2 = 1 ↔ (place + 1) % 2 = 0 := by omega
    rw [hnumber, hids, lookup_legUpdates _ _ hplace]
    cases hlookup : (roundOneUpdates pairs (findRoundOne state)).lookup old.matchId with
    | none => exact hfollows
    | some pair =>
      by_cases hswap : place % 2 = 1
      · exact ⟨by simp [hswap, hparity.mp hswap, SeedPair.swap],
          by simp [hswap, hparity.mp hswap, SeedPair.swap]⟩
      · exact ⟨by simp [hswap, mt hparity.mpr hswap], by simp [hswap, mt hparity.mpr hswap]⟩
  · intro feeder hfeeder next hnext hfeeds
    rw [hwinners' feeder hfeeder]
    obtain ⟨old, hold, rfl⟩ := List.mem_map.mp hfeeder
    obtain ⟨later, hlater, rfl⟩ := List.mem_map.mp hnext
    have holdFeeds : old.nextMatchId = some later.matchId := by
      split at hfeeds <;> split at hfeeds <;> exact hfeeds
    have hround := h.next_round_ne_one linked hold hlater holdFeeds
    have hlookup : (roundOneUpdates pairs (findRoundOne state)).lookup later.matchId = none :=
      lookup_roundOneUpdates fun knockout hknockout heq =>
        h.eq_of_matchId linked hknockout hlater heq ▸ hround
    have hslot := h.slots_follow old hold later hlater holdFeeds
    rw [hwinners old hold] at hslot
    simp only [hlookup]
    split
    · exact hslot
    · exact hslot

/-- What the seeder does to a stored bracket: nothing once its first round is seeded. -/
theorem ensureKnockoutRoundOneSeeded_eq_or (plan : PlannedKnockout tournament entrants legs start)
    (entrySeeds : List EntrySeed) (groups : List GroupRow) (state : KnockoutState) :
    ensureKnockoutRoundOneSeeded tournament entrySeeds groups state = state ∨
      alreadySeeded (findRoundOne state) = false ∧ ∃ pairs,
        ensureKnockoutRoundOneSeeded tournament entrySeeds groups state =
          seedRoundOne pairs legs state := by
  simp only [ensureKnockoutRoundOneSeeded, plan.knockoutTeamNum, plan.knockoutPlayAgainstNum]
  split
  · exact .inl rfl
  next hguard =>
    have hunseeded : alreadySeeded (findRoundOne state) = false := by
      simp only [not_or] at hguard
      exact eq_false_of_ne_true hguard.2.2.2.2
    split
    · exact .inr ⟨hunseeded, _, rfl⟩
    · exact .inl rfl

/-- The seeder keeps a bracket linked, and changes nothing where a winner is known. -/
theorem KnockoutState.Linked.ensured {finish : ℕ} {rows : KnockoutRows}
    {state : KnockoutState} (linked : LinkedBracket entrants legs start finish rows)
    (plan : PlannedKnockout tournament entrants legs start) (h : state.Linked rows)
    (entrySeeds : List EntrySeed) (groups : List GroupRow) :
    (ensureKnockoutRoundOneSeeded tournament entrySeeds groups state).Linked rows ∧
      (ensureKnockoutRoundOneSeeded tournament entrySeeds groups state = state ∨
        ∀ knockout ∈ (ensureKnockoutRoundOneSeeded tournament entrySeeds groups state).knockouts,
          knockout.roundWinner = none) := by
  rcases ensureKnockoutRoundOneSeeded_eq_or plan entrySeeds groups state with
    hsame | ⟨hunseeded, pairs, hseeded⟩
  · rw [hsame]
    exact ⟨h, .inl rfl⟩
  · rw [hseeded]
    have hlinked := h.seeded linked (h.undecided hunseeded) pairs
    exact ⟨hlinked.1, .inr hlinked.2⟩

end Seeding

end LetletmeData
