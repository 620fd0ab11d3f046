import LetletmeData.Library.Runs
import LetletmeData.Services.KnockoutRounds

/-!
# Coherence of a scored bracket

Every synchronisation keeps the slots of each later match equal to the winners of the matches
that feed it. The winner of a later match is decided among its entries, but a correction of an
earlier round changes these entries and leaves that winner: it stays one of them exactly when
the corrected scores leave it the winner of the match it came from.
-/

namespace LetletmeData

open LetletmeData.Library

section Round

variable {entrants legs start finish : ℕ} {rows : KnockoutRows} {state : KnockoutState}
  {eventId : ℕ} (eventResults : List EntryEventResult) (liveMap : List EventLiveGoals)
  (linked : LinkedBracket entrants legs start finish rows)
include linked

/-- The stored leg of a match in the event it ends with. -/
theorem KnockoutState.Linked.last_result (h : state.Linked rows) {knockout : Knockout}
    (hknockout : knockout ∈ state.knockouts) :
    ∃ result ∈ state.results, result.matchId = knockout.matchId ∧
      result.eventId = knockout.endedEventId := by
  obtain ⟨leg, hleg, hmatch, hevent⟩ := linked.last_leg (h.mem_matchRows hknockout)
  obtain ⟨result, hresult, rfl⟩ := h.exists_result hleg
  exact ⟨result, hresult, hmatch, hevent⟩

/-- A match that ends with the event is won by one of its entries. -/
theorem roundWinnerFrom_holds (h : state.Linked rows)
    (hfilled : ∀ result ∈ state.results, result.eventId = eventId →
      ¬ (result.homeEntryId = none ∧ result.awayEntryId = none))
    {knockout : Knockout} (hknockout : knockout ∈ state.knockouts)
    (hended : knockout.endedEventId = eventId) :
    ∃ winner, roundWinnerFrom (state.results.map (scoredLeg eventId eventResults liveMap))
        knockout = some winner ∧ knockout.Holds winner := by
  obtain ⟨result, hresult, hmatch, hevent⟩ := h.last_result linked hknockout
  rw [hended] at hevent
  have hfollows := h.legs_follow knockout hknockout result hresult hmatch
  have hscored : scoredLeg eventId eventResults liveMap result =
      scoreResult eventResults liveMap result := if_pos hevent
  obtain ⟨legWinner, hwinner, hentry⟩ := resolveMatchWinner_holds
    (hfilled result hresult hevent) (slotScore eventResults liveMap result.homeEntryId)
    (slotScore eventResults liveMap result.awayEntryId)
  have hlisted : scoreResult eventResults liveMap result ∈
      (state.results.map (scoredLeg eventId eventResults liveMap)).filter fun leg =>
        leg.matchId = knockout.matchId := by
    refine List.mem_filter.mpr ⟨?_, decide_eq_true hmatch⟩
    rw [← hscored]
    exact List.mem_map_of_mem hresult
  exact resolveRoundWinner_holds hlisted hwinner (hfollows.holds hentry)

/-- The legs read for a match that ends with the event are all of its legs. -/
theorem roundWinnerFrom_selected (h : state.Linked rows) {knockout : Knockout}
    (hknockout : knockout ∈ state.knockouts) (hended : knockout.endedEventId = eventId) :
    roundWinnerFrom (eventLegs eventId eventResults liveMap state.results) knockout =
      roundWinnerFrom (state.results.map (scoredLeg eventId eventResults liveMap)) knockout := by
  obtain ⟨result, hresult, hmatch, hevent⟩ := h.last_result linked hknockout
  rw [roundWinnerFrom, eventLegs, findByTournamentAndMatchIds, List.filter_filter, roundWinnerFrom]
  congr 1
  refine List.filter_congr fun leg _ => ?_
  by_cases hown : leg.matchId = knockout.matchId
  · have hlisted : leg.matchId ∈ ((findByTournamentAndEvent eventId state.results).map
        (scoreResult eventResults liveMap)).map fun result => result.matchId := by
      rw [hown, ← hmatch]
      refine List.mem_map.mpr ⟨_, List.mem_map_of_mem (a := result) ?_, rfl⟩
      rw [findByTournamentAndEvent, List.mem_insertionSort]
      exact List.mem_filter.mpr ⟨hresult, decide_eq_true (hevent.trans hended)⟩
    rw [List.contains_iff_mem.mpr hlisted, Bool.and_true]
  · simp [hown]

/-- An event is scored only after the first round is seeded. -/
theorem KnockoutState.Linked.seeded_of_scored (h : state.Linked rows)
    (hplayed : ∃ result ∈ state.results, result.eventId = eventId)
    (hfilled : ∀ result ∈ state.results, result.eventId = eventId →
      ¬ (result.homeEntryId = none ∧ result.awayEntryId = none)) :
    alreadySeeded (findRoundOne state) = true := by
  by_contra hunseeded
  rw [Bool.not_eq_true] at hunseeded
  have hundecided := h.undecided hunseeded
  obtain ⟨result, hresult, hevent⟩ := hplayed
  obtain ⟨row, hrow, hleg⟩ := linked.match_of_leg (h.mem_resultRows hresult)
  obtain ⟨knockout, hknockout, rfl⟩ := h.exists_knockout hrow
  have hmatch : result.matchId = knockout.matchId := by
    obtain ⟨place, -, heq⟩ := mem_matchLegs.mp hleg
    exact (congrArg KnockoutResultRow.matchId heq).symm
  by_cases hround : knockout.round = 1
  · have hsomeEmpty : ¬ ∀ other ∈ state.knockouts, other.round = 1 →
        ¬ (other.homeEntryId = none ∧ other.awayEntryId = none) := by
      rw [← alreadySeeded_iff, hunseeded]
      exact Bool.false_ne_true
    push Not at hsomeEmpty
    obtain ⟨other, hother, hotherRound, hempty⟩ := hsomeEmpty
    obtain ⟨played, hplayed, hplayedMatch, hplayedEvent⟩ := linked.leg_of_round hrow
      (h.mem_matchRows hother) (hround.trans hotherRound.symm) hleg
    obtain ⟨otherResult, hotherResult, rfl⟩ := h.exists_result hplayed
    have hfollows := h.legs_follow other hother otherResult hotherResult hplayedMatch
    exact hfilled otherResult hotherResult (hplayedEvent.trans hevent)
      (hfollows.empty_iff.mpr hempty)
  · have hnobody : ∀ entryId, ¬ knockout.Holds entryId := by
      intro entryId hholds
      obtain ⟨feeder, hfeeder, -, hwinner⟩ :=
        (h.holds_iff linked hknockout hround entryId).mp hholds
      rw [hundecided feeder hfeeder] at hwinner
      cases hwinner
    have hempty : knockout.homeEntryId = none ∧ knockout.awayEntryId = none :=
      ⟨Option.eq_none_iff_forall_ne_some.mpr fun entryId hhome => hnobody entryId (.inl hhome),
        Option.eq_none_iff_forall_ne_some.mpr fun entryId haway => hnobody entryId (.inr haway)⟩
    exact hfilled result hresult hevent
      ((h.legs_follow knockout hknockout result hresult hmatch).empty_iff.mpr hempty)

/-- The winners that enter a match: those of the odd and of the even match that feed it, both
of which end with the event. -/
theorem find_roundSummaries (storeWins : ℕ → Option ℤ) (h : state.Linked rows)
    (hfilled : ∀ result ∈ state.results, result.eventId = eventId →
      ¬ (result.homeEntryId = none ∧ result.awayEntryId = none))
    {feeder next : Knockout} (hfeeder : feeder ∈ state.knockouts) (hnext : next ∈ state.knockouts)
    (hended : feeder.endedEventId = eventId) (hfeeds : feeder.nextMatchId = some next.matchId) :
    ∃ round homeWinner awayWinner,
      (roundSummaries storeWins eventId (eventLegs eventId eventResults liveMap state.results)
        state.knockouts).find next.matchId = some ⟨round, some homeWinner, some awayWinner⟩ ∧
      ∀ other ∈ state.knockouts, other.nextMatchId = some next.matchId →
        other.endedEventId = eventId ∧
        roundWinnerFrom (eventLegs eventId eventResults liveMap state.results) other =
          if other.matchId % 2 = 1 then some homeWinner else some awayWinner := by
  have hnextRound := h.next_round linked hfeeder hnext hfeeds
  obtain ⟨home, hhome, away, haway, hodd, heven, hfeeders⟩ :=
    h.feeders linked hnext (h.next_round_ne_one linked hfeeder hnext hfeeds)
  have hsameEvent : ∀ other ∈ state.knockouts, other.nextMatchId = some next.matchId →
      other.endedEventId = eventId := by
    intro other hother hotherFeeds
    have hround := h.next_round linked hother hnext hotherFeeds
    refine Eq.trans ?_ hended
    exact (linked.endedEventId_eq_iff (h.mem_matchRows hother) (h.mem_matchRows hfeeder)).mpr
      (show other.round = feeder.round by omega)
  have hhomeFeeds := (hfeeders home hhome).mpr (.inl rfl)
  have hawayFeeds := (hfeeders away haway).mpr (.inr rfl)
  have hwins : ∀ other ∈ state.knockouts, other.endedEventId = eventId → ∃ winner,
      roundWinnerFrom (eventLegs eventId eventResults liveMap state.results) other =
        some winner := by
    intro other hother hotherEnded
    obtain ⟨winner, hwinner, -⟩ := roundWinnerFrom_holds eventResults liveMap
      linked h hfilled hother hotherEnded
    exact ⟨winner, (roundWinnerFrom_selected eventResults liveMap linked h hother hotherEnded).trans hwinner⟩
  obtain ⟨homeWinner, hhomeWinner⟩ := hwins home hhome (hsameEvent home hhome hhomeFeeds)
  obtain ⟨awayWinner, hawayWinner⟩ := hwins away haway (hsameEvent away haway hawayFeeds)
  have hslot : ∀ (odd : Bool) (side : Knockout) (winner : ℕ), side ∈ state.knockouts →
      side.nextMatchId = some next.matchId → decide (side.matchId % 2 = 1) = odd →
      (∀ other ∈ state.knockouts, other.nextMatchId = some next.matchId →
        decide (other.matchId % 2 = 1) = odd → other = side) →
      roundWinnerFrom (eventLegs eventId eventResults liveMap state.results) side = some winner →
      ((roundSummaries storeWins eventId (eventLegs eventId eventResults liveMap state.results)
        state.knockouts).find next.matchId).bind (KnockoutRoundSummary.slot odd) =
          some winner := by
    intro odd side winner hside hsideFeeds hparity honly hwinner
    have hlisted : ∀ decided, decided ∈ findByTournamentAndEndedEvent eventId state.knockouts ↔
        decided ∈ state.knockouts ∧ decided.endedEventId = eventId := fun decided => by
      rw [findByTournamentAndEndedEvent, selectKnockouts, List.mem_insertionSort, List.mem_filter,
        decide_eq_true_eq]
    refine slot_foldl_recordRoundWinner KeyedTable.empty ?_ (.inl ?_)
    · intro updated hupdated hupdatedFeeds hupdatedParity
      obtain ⟨decided, hdecided, rfl⟩ := List.mem_map.mp hupdated
      obtain rfl := honly decided ((hlisted decided).mp hdecided).1 hupdatedFeeds hupdatedParity
      exact hwinner
    · exact ⟨_, List.mem_map_of_mem ((hlisted side).mpr
        ⟨hside, hsameEvent side hside hsideFeeds⟩), hsideFeeds, hparity⟩
  have hhomeSlot := hslot true home homeWinner hhome hhomeFeeds (decide_eq_true hodd)
    (fun other hother hotherFeeds hparity =>
      ((hfeeders other hother).mp hotherFeeds).resolve_right fun heq => by
        rw [heq] at hparity
        simp [heven] at hparity) hhomeWinner
  have hawaySlot := hslot false away awayWinner haway hawayFeeds (by simp [heven])
    (fun other hother hotherFeeds hparity =>
      ((hfeeders other hother).mp hotherFeeds).resolve_left fun heq => by
        rw [heq] at hparity
        simp [hodd] at hparity) hawayWinner
  obtain ⟨⟨round, homeEntry, awayEntry⟩, hfind, hhomeEntry⟩ := Option.bind_eq_some_iff.mp hhomeSlot
  rw [hfind] at hawaySlot
  obtain rfl : homeEntry = some homeWinner := hhomeEntry
  obtain rfl : awayEntry = some awayWinner := hawaySlot
  refine ⟨round, homeWinner, awayWinner, hfind, fun other hother hotherFeeds =>
    ⟨hsameEvent other hother hotherFeeds, ?_⟩⟩
  rcases (hfeeders other hother).mp hotherFeeds with rfl | rfl
  · rw [if_pos hodd, hhomeWinner]
  · rw [if_neg (by omega), hawayWinner]

end Round

section Stored

variable {entrants legs start finish : ℕ} {rows : KnockoutRows} {state : KnockoutState}
  (storeWins : ℕ → Option ℤ) (eventId : ℕ) (eventResults : List EntryEventResult)
  (liveMap : List EventLiveGoals)

/-- A stored match stays in its place. -/
@[simp] theorem storedKnockout_fixture (state : KnockoutState) (knockout : Knockout) :
    (storedKnockout storeWins eventId eventResults liveMap state knockout).fixture =
      knockout.fixture := by
  simp [storedKnockout]

/-- A stored leg stays in its place. -/
@[simp] theorem storedResult_fixture (state : KnockoutState) (result : KnockoutResult) :
    (storedResult storeWins eventId eventResults liveMap state result).fixture =
      result.fixture := by
  simp [storedResult]

/-- A stored match is decided exactly when it ends with the event. -/
theorem storedKnockout_roundWinner (knockout : Knockout) :
    (storedKnockout storeWins eventId eventResults liveMap state knockout).roundWinner =
      if knockout.endedEventId = eventId then
        roundWinnerFrom (eventLegs eventId eventResults liveMap state.results) knockout
      else knockout.roundWinner := by
  rw [storedKnockout, advanceKnockout_roundWinner, decidedKnockout]
  split <;> rfl

/-- A decided match keeps its id. -/
@[simp] theorem decidedKnockout_matchId (allMatchResults : List KnockoutResult)
    (knockout : Knockout) :
    (decidedKnockout storeWins eventId allMatchResults knockout).matchId = knockout.matchId :=
  (Knockout.columns_of_fixture
    (decidedKnockout_fixture storeWins eventId allMatchResults knockout)).1

/-- No match that ends with the event feeds this one. -/
def Unfed (eventId : ℕ) (state : KnockoutState) (matchId : ℕ) : Prop :=
  ∀ feeder ∈ state.knockouts, feeder.endedEventId = eventId → feeder.nextMatchId ≠ some matchId

variable {eventId}

/-- Nothing is recorded for a match that the event does not feed. -/
theorem Unfed.find_roundSummaries {matchId : ℕ} (h : Unfed eventId state matchId)
    (allMatchResults : List KnockoutResult) :
    (roundSummaries storeWins eventId allMatchResults state.knockouts).find matchId = none := by
  refine find_foldl_recordRoundWinner KeyedTable.empty fun updated hupdated => ?_
  obtain ⟨feeder, hfeeder, rfl⟩ := List.mem_map.mp hupdated
  rw [findByTournamentAndEndedEvent, selectKnockouts, List.mem_insertionSort,
    List.mem_filter] at hfeeder
  exact h feeder hfeeder.1 (of_decide_eq_true hfeeder.2)

/-- A match that the event does not feed keeps its slots. -/
theorem Unfed.storedKnockout_slots {knockout : Knockout}
    (h : Unfed eventId state knockout.matchId) :
    (storedKnockout storeWins eventId eventResults liveMap state knockout).homeEntryId =
        knockout.homeEntryId ∧
      (storedKnockout storeWins eventId eventResults liveMap state knockout).awayEntryId =
        knockout.awayEntryId := by
  rw [storedKnockout, advanceKnockout_of_find]
  · exact decidedKnockout_slots _ _ _ knockout
  · rw [decidedKnockout_matchId]
    exact h.find_roundSummaries _ _

/-- A leg of a match that the event does not feed keeps its entries. -/
theorem Unfed.storedResult_entries {result : KnockoutResult}
    (h : Unfed eventId state result.matchId) :
    (storedResult storeWins eventId eventResults liveMap state result).homeEntryId =
        result.homeEntryId ∧
      (storedResult storeWins eventId eventResults liveMap state result).awayEntryId =
        result.awayEntryId := by
  rw [storedResult, advanceKnockoutResult_of_find]
  · exact ⟨scoredLeg_homeEntryId _ _ _ result, scoredLeg_awayEntryId _ _ _ result⟩
  · rw [scoredLeg_matchId]
    exact h.find_roundSummaries _ _

variable (linked : LinkedBracket entrants legs start finish rows)
include linked

/-- Either all matches that feed a later match end with the event, or none of them does. -/
theorem KnockoutState.Linked.unfed_of_feeder (h : state.Linked rows) {feeder next : Knockout}
    (hfeeder : feeder ∈ state.knockouts) (hnext : next ∈ state.knockouts)
    (hfeeds : feeder.nextMatchId = some next.matchId) (hended : feeder.endedEventId ≠ eventId) :
    Unfed eventId state next.matchId := by
  intro other hother hotherEnded hotherFeeds
  have hround := h.next_round linked hfeeder hnext hfeeds
  have hotherRound := h.next_round linked hother hnext hotherFeeds
  refine hended (Eq.trans ?_ hotherEnded)
  exact (linked.endedEventId_eq_iff (h.mem_matchRows hfeeder) (h.mem_matchRows hother)).mpr
    (show feeder.round = other.round by omega)

/-- A match of the first round is fed by none. -/
theorem KnockoutState.Linked.unfed_of_round (h : state.Linked rows) {knockout : Knockout}
    (hknockout : knockout ∈ state.knockouts) (hround : knockout.round = 1) :
    Unfed eventId state knockout.matchId := fun _ hfeeder _ hfeeds =>
  h.next_round_ne_one linked hfeeder hknockout hfeeds hround

/-- A synchronisation that goes through keeps the bracket linked. -/
theorem KnockoutState.Linked.stored (h : state.Linked rows)
    (hplayed : ∃ result ∈ state.results, result.eventId = eventId)
    (hfilled : ∀ result ∈ state.results, result.eventId = eventId →
      ¬ (result.homeEntryId = none ∧ result.awayEntryId = none)) :
    (storedRound storeWins eventId eventResults liveMap state).Linked rows where
  fixtures := by
    rw [← h.fixtures, storedRound, List.map_map]
    exact List.map_congr_left fun knockout _ => storedKnockout_fixture _ _ _ _ state knockout
  resultFixtures := by
    rw [← h.resultFixtures, storedRound, List.map_map]
    exact List.map_congr_left fun result _ => storedResult_fixture _ _ _ _ state result
  legs_follow := by
    intro stored hstored storedLeg hstoredLeg hmatch
    obtain ⟨knockout, hknockout, rfl⟩ := List.mem_map.mp hstored
    obtain ⟨result, hresult, rfl⟩ := List.mem_map.mp hstoredLeg
    obtain ⟨hid, -⟩ := Knockout.columns_of_fixture
      (storedKnockout_fixture storeWins eventId eventResults liveMap state knockout)
    obtain ⟨hlegId, hnumber⟩ := KnockoutResult.columns_of_fixture
      (storedResult_fixture storeWins eventId eventResults liveMap state result)
    have hown : result.matchId = knockout.matchId := hlegId.symm.trans (hmatch.trans hid)
    by_cases hunfed : Unfed eventId state knockout.matchId
    · obtain ⟨hhome, haway⟩ := hunfed.storedKnockout_slots storeWins eventResults
        liveMap
      have hunfedLeg : Unfed eventId state result.matchId := hown ▸ hunfed
      obtain ⟨hlegHome, hlegAway⟩ := hunfedLeg.storedResult_entries storeWins
        eventResults liveMap
      have hfollows := h.legs_follow knockout hknockout result hresult hown
      exact ⟨by rw [hlegHome, hnumber, hhome, haway, hfollows.home],
        by rw [hlegAway, hnumber, hhome, haway, hfollows.away]⟩
    · unfold Unfed at hunfed
      push Not at hunfed
      obtain ⟨feeder, hfeeder, hended, hfeeds⟩ := hunfed
      obtain ⟨round, homeWinner, awayWinner, hfind, -⟩ := find_roundSummaries
        eventResults liveMap linked storeWins h hfilled hfeeder
        hknockout hended hfeeds
      have hadvanced : storedKnockout storeWins eventId eventResults liveMap state knockout = _ :=
        advanceKnockout_of_winners _ (by rw [decidedKnockout_matchId]; exact hfind)
      have hadvancedLeg : storedResult storeWins eventId eventResults liveMap state result = _ :=
        advanceKnockoutResult_of_winners _ (by rw [scoredLeg_matchId, hown]; exact hfind)
      rw [hadvanced, hadvancedLeg]
      by_cases hswap : result.playAgainstId % 2 = 0
      · exact ⟨by simp [hswap], by simp [hswap]⟩
      · exact ⟨by simp [hswap], by simp [hswap]⟩
  slots_follow := by
    intro storedFeeder hstoredFeeder storedNext hstoredNext hstoredFeeds
    obtain ⟨feeder, hfeeder, rfl⟩ := List.mem_map.mp hstoredFeeder
    obtain ⟨next, hnext, rfl⟩ := List.mem_map.mp hstoredNext
    obtain ⟨hfeederId, -, hlink, -⟩ := Knockout.columns_of_fixture
      (storedKnockout_fixture storeWins eventId eventResults liveMap state feeder)
    obtain ⟨hid, -⟩ := Knockout.columns_of_fixture
      (storedKnockout_fixture storeWins eventId eventResults liveMap state next)
    have hfeeds : feeder.nextMatchId = some next.matchId :=
      hlink.symm.trans (hstoredFeeds.trans (congrArg some hid))
    rw [storedKnockout_roundWinner, Knockout.slotFedBy, hfeederId]
    by_cases hended : feeder.endedEventId = eventId
    · obtain ⟨round, homeWinner, awayWinner, hfind, hwins⟩ := find_roundSummaries
        eventResults liveMap linked storeWins h hfilled hfeeder
        hnext hended hfeeds
      have hadvanced : storedKnockout storeWins eventId eventResults liveMap state next = _ :=
        advanceKnockout_of_winners _ (by rw [decidedKnockout_matchId]; exact hfind)
      rw [if_pos hended, (hwins feeder hfeeder hfeeds).2, hadvanced]
    · have hunfed := h.unfed_of_feeder linked hfeeder hnext hfeeds hended
      obtain ⟨hhome, haway⟩ := hunfed.storedKnockout_slots storeWins eventResults
        liveMap
      rw [if_neg hended, hhome, haway]
      exact h.slots_follow feeder hfeeder next hnext hfeeds
  undecided := by
    intro hunseeded
    have hseeded := alreadySeeded_iff.mp (h.seeded_of_scored linked hplayed hfilled)
    have hstillSeeded : alreadySeeded (findRoundOne
        (storedRound storeWins eventId eventResults liveMap state)) = true := by
      rw [alreadySeeded_iff]
      intro stored hstored hround
      obtain ⟨knockout, hknockout, rfl⟩ := List.mem_map.mp hstored
      obtain ⟨-, hplace, -⟩ := Knockout.columns_of_fixture
        (storedKnockout_fixture storeWins eventId eventResults liveMap state knockout)
      have hfirst : knockout.round = 1 := hplace.symm.trans hround
      have hunfed : Unfed eventId state knockout.matchId :=
        h.unfed_of_round linked hknockout hfirst
      obtain ⟨hhome, haway⟩ := hunfed.storedKnockout_slots storeWins eventResults
        liveMap
      rw [hhome, haway]
      exact hseeded knockout hknockout hfirst
    rw [hstillSeeded] at hunseeded
    cases hunseeded

end Stored

/-! ## The winners of a bracket -/

/-- The winner of the match with an id. -/
def KnockoutState.winner (state : KnockoutState) (matchId : ℕ) : Option ℕ :=
  (state.knockouts.find? fun knockout => knockout.matchId = matchId).bind Knockout.roundWinner

/-- One match feeds another. -/
def KnockoutRows.Feeds (rows : KnockoutRows) (feeder game : ℕ) : Prop :=
  ∃ row ∈ rows.matchRows, row.matchId = feeder ∧ row.nextMatchId = some game

/-- An entry is seeded into a match of the first round. -/
def KnockoutState.Seeds (state : KnockoutState) (game entryId : ℕ) : Prop :=
  ∃ knockout ∈ state.knockouts, knockout.matchId = game ∧ knockout.round = 1 ∧
    knockout.Holds entryId

/-- The winner of each match is one of its entries, and a slot that is set in a later match
holds the winner of the match that feeds it. -/
structure KnockoutState.Coherent (state : KnockoutState) : Prop where
  winner_plays : ∀ knockout ∈ state.knockouts, ∀ winner ∈ knockout.roundWinner,
    knockout.Holds winner
  slots_advance : ∀ feeder ∈ state.knockouts, ∀ next ∈ state.knockouts,
    feeder.nextMatchId = some next.matchId → ∀ entryId ∈ next.slotFedBy feeder,
      feeder.roundWinner = some entryId

section Winners

variable {entrants legs start finish : ℕ} {rows : KnockoutRows} {state : KnockoutState}
  (linked : LinkedBracket entrants legs start finish rows)

/-- A match without a stored row has no winner. -/
theorem KnockoutState.winner_eq_none {matchId : ℕ}
    (h : ∀ knockout ∈ state.knockouts, knockout.matchId ≠ matchId) :
    state.winner matchId = none := by
  have hnone : (state.knockouts.find? fun knockout => knockout.matchId = matchId) = none := by
    rw [List.find?_eq_none]
    simpa using h
  rw [KnockoutState.winner, hnone]
  rfl

include linked

/-- The winner of a stored match. -/
theorem KnockoutState.Linked.winner_eq (h : state.Linked rows) {knockout : Knockout}
    (hknockout : knockout ∈ state.knockouts) :
    state.winner knockout.matchId = knockout.roundWinner := by
  rw [KnockoutState.winner]
  cases hfind : state.knockouts.find? fun other => other.matchId = knockout.matchId with
  | none => exact absurd (decide_eq_true rfl) (List.find?_eq_none.mp hfind knockout hknockout)
  | some other =>
    have hsame := List.find?_some hfind
    rw [h.eq_of_matchId linked (List.mem_of_find?_eq_some hfind) hknockout
      (of_decide_eq_true hsame)]
    rfl

/-- Those who play a match are the entries in its slots. -/
theorem KnockoutState.Linked.plays_iff (h : state.Linked rows) {knockout : Knockout}
    (hknockout : knockout ∈ state.knockouts) (entryId : ℕ) :
    Elimination.Plays rows.Feeds state.Seeds state.winner knockout.matchId entryId ↔
      knockout.Holds entryId := by
  constructor
  · rintro (⟨seeded, hseeded, hid, -, hholds⟩ | ⟨feederId, ⟨row, hrow, rfl, hfeeds⟩, hwinner⟩)
    · rwa [h.eq_of_matchId linked hseeded hknockout hid] at hholds
    · obtain ⟨feeder, hfeeder, rfl⟩ := h.exists_knockout hrow
      have hwinner' := (h.winner_eq linked hfeeder).symm.trans hwinner
      exact (h.holds_iff linked hknockout
        (h.next_round_ne_one linked hfeeder hknockout hfeeds) entryId).mpr
          ⟨feeder, hfeeder, hfeeds, hwinner'⟩
  · intro hholds
    by_cases hround : knockout.round = 1
    · exact .inl ⟨knockout, hknockout, rfl, hround, hholds⟩
    · obtain ⟨feeder, hfeeder, hfeeds, hwinner⟩ :=
        (h.holds_iff linked hknockout hround entryId).mp hholds
      exact .inr ⟨feeder.matchId, ⟨feeder.fixture, h.mem_matchRows hfeeder, rfl, hfeeds⟩,
        (h.winner_eq linked hfeeder).trans hwinner⟩

/-- A linked bracket is coherent exactly when its winners play the matches they won. -/
theorem KnockoutState.Linked.coherent_iff (h : state.Linked rows) :
    state.Coherent ↔ Elimination.WinnersPlay rows.Feeds state.Seeds state.winner := by
  constructor
  · intro hcoherent game entryId hwinner
    by_cases hstored : ∃ knockout ∈ state.knockouts, knockout.matchId = game
    · obtain ⟨knockout, hknockout, rfl⟩ := hstored
      rw [h.winner_eq linked hknockout] at hwinner
      exact (h.plays_iff linked hknockout entryId).mpr
        (hcoherent.winner_plays knockout hknockout entryId hwinner)
    · push Not at hstored
      rw [KnockoutState.winner_eq_none hstored] at hwinner
      cases hwinner
  · intro hplay
    constructor
    · intro knockout hknockout winner hwinner
      rw [← h.winner_eq linked hknockout] at hwinner
      exact (h.plays_iff linked hknockout winner).mp (hplay _ winner hwinner)
    · intro feeder hfeeder next hnext hfeeds entryId hentry
      exact (h.slots_follow feeder hfeeder next hnext hfeeds).symm.trans hentry

variable (storeWins : ℕ → Option ℤ) (eventId : ℕ) (eventResults : List EntryEventResult)
  (liveMap : List EventLiveGoals)

/-- Storing a round decides exactly the matches that end with the event, among their
entries. -/
theorem KnockoutState.Linked.roundDecided (h : state.Linked rows)
    (hplayed : ∃ result ∈ state.results, result.eventId = eventId)
    (hfilled : ∀ result ∈ state.results, result.eventId = eventId →
      ¬ (result.homeEntryId = none ∧ result.awayEntryId = none)) :
    Elimination.RoundDecided rows.Feeds state.Seeds
      (fun game => ∃ knockout ∈ state.knockouts, knockout.matchId = game ∧
        knockout.endedEventId = eventId)
      state.winner (storedRound storeWins eventId eventResults liveMap state).winner := by
  have hstored := h.stored storeWins eventResults liveMap linked hplayed hfilled
  have hwinner : ∀ knockout ∈ state.knockouts,
      (storedRound storeWins eventId eventResults liveMap state).winner knockout.matchId =
        if knockout.endedEventId = eventId then
          roundWinnerFrom (eventLegs eventId eventResults liveMap state.results) knockout
        else knockout.roundWinner := by
    intro knockout hknockout
    obtain ⟨hid, -⟩ := Knockout.columns_of_fixture
      (storedKnockout_fixture storeWins eventId eventResults liveMap state knockout)
    rw [← hid, hstored.winner_eq linked (List.mem_map_of_mem hknockout),
      storedKnockout_roundWinner]
  constructor
  · intro game hother
    by_cases hgame : ∃ knockout ∈ state.knockouts, knockout.matchId = game
    · obtain ⟨knockout, hknockout, rfl⟩ := hgame
      rw [hwinner knockout hknockout, h.winner_eq linked hknockout,
        if_neg fun hended => hother ⟨knockout, hknockout, rfl, hended⟩]
    · push Not at hgame
      rw [KnockoutState.winner_eq_none hgame, KnockoutState.winner_eq_none]
      intro stored hmem
      obtain ⟨knockout, hknockout, rfl⟩ := List.mem_map.mp hmem
      obtain ⟨hid, -⟩ := Knockout.columns_of_fixture
        (storedKnockout_fixture storeWins eventId eventResults liveMap state knockout)
      rw [hid]
      exact hgame knockout hknockout
  · rintro game ⟨knockout, hknockout, rfl, hended⟩ entryId hentry
    obtain ⟨winner, hwon, hholds⟩ := roundWinnerFrom_holds eventResults liveMap linked h hfilled
      hknockout hended
    rw [hwinner knockout hknockout, if_pos hended,
      roundWinnerFrom_selected eventResults liveMap linked h hknockout hended, hwon] at hentry
    rw [h.plays_iff linked hknockout]
    exact Option.some.inj hentry ▸ hholds
  · rintro feederId game ⟨row, hrow, rfl, hfeeds⟩ ⟨feeder, hfeeder, hfeederId, hended⟩
    rintro ⟨next, hnext, rfl, hnextEnded⟩
    obtain ⟨built, hbuilt, rfl⟩ := h.exists_knockout hrow
    obtain rfl := h.eq_of_matchId linked hfeeder hbuilt hfeederId
    have hround := h.next_round linked hfeeder hnext hfeeds
    have hsame := (linked.endedEventId_eq_iff (h.mem_matchRows hfeeder)
      (h.mem_matchRows hnext)).mp (hended.trans hnextEnded.symm)
    change feeder.round = next.round at hsame
    omega

/-- Storing a round keeps the seeds. -/
theorem KnockoutState.Linked.seeds_stored (h : state.Linked rows) :
    (storedRound storeWins eventId eventResults liveMap state).Seeds = state.Seeds := by
  funext game entryId
  refine propext ⟨?_, ?_⟩
  · rintro ⟨stored, hmem, rfl, hround, hholds⟩
    obtain ⟨knockout, hknockout, rfl⟩ := List.mem_map.mp hmem
    obtain ⟨hid, hplace, -⟩ := Knockout.columns_of_fixture
      (storedKnockout_fixture storeWins eventId eventResults liveMap state knockout)
    have hfirst : knockout.round = 1 := hplace.symm.trans hround
    have hunfed : Unfed eventId state knockout.matchId := h.unfed_of_round linked hknockout hfirst
    obtain ⟨hhome, haway⟩ := hunfed.storedKnockout_slots storeWins eventResults liveMap
    rw [Knockout.Holds, hhome, haway] at hholds
    exact ⟨knockout, hknockout, hid.symm, hfirst, hholds⟩
  · rintro ⟨knockout, hknockout, rfl, hround, hholds⟩
    obtain ⟨hid, hplace, -⟩ := Knockout.columns_of_fixture
      (storedKnockout_fixture storeWins eventId eventResults liveMap state knockout)
    have hunfed : Unfed eventId state knockout.matchId := h.unfed_of_round linked hknockout hround
    obtain ⟨hhome, haway⟩ := hunfed.storedKnockout_slots storeWins eventResults liveMap
    refine ⟨_, List.mem_map_of_mem hknockout, hid, hplace.trans hround, ?_⟩
    rw [Knockout.Holds, hhome, haway]
    exact hholds

/-- After a round is stored the bracket is coherent exactly when every match it feeds that was
decided before is still won by the winner of a match that feeds it. -/
theorem KnockoutState.Linked.coherent_stored_iff (h : state.Linked rows)
    (hcoherent : state.Coherent)
    (hplayed : ∃ result ∈ state.results, result.eventId = eventId)
    (hfilled : ∀ result ∈ state.results, result.eventId = eventId →
      ¬ (result.homeEntryId = none ∧ result.awayEntryId = none)) :
    (storedRound storeWins eventId eventResults liveMap state).Coherent ↔
      ∀ feeder ∈ state.knockouts, ∀ next ∈ state.knockouts,
        feeder.nextMatchId = some next.matchId → feeder.endedEventId = eventId →
        ∀ winner ∈ next.roundWinner, ∃ other ∈ state.knockouts,
          other.nextMatchId = some next.matchId ∧
          roundWinnerFrom (state.results.map (scoredLeg eventId eventResults liveMap)) other =
            some winner := by
  have hstored := h.stored storeWins eventResults liveMap linked hplayed hfilled
  have hdecided := h.roundDecided linked storeWins eventId eventResults liveMap hplayed hfilled
  have hplays : ∀ feeder ∈ state.knockouts, ∀ next ∈ state.knockouts,
      feeder.nextMatchId = some next.matchId → feeder.endedEventId = eventId → ∀ winner,
      Elimination.Plays rows.Feeds state.Seeds
          (storedRound storeWins eventId eventResults liveMap state).winner next.matchId winner ↔
        ∃ other ∈ state.knockouts, other.nextMatchId = some next.matchId ∧
          roundWinnerFrom (state.results.map (scoredLeg eventId eventResults liveMap)) other =
            some winner := by
    intro feeder hfeeder next hnext hfeeds hended winner
    obtain ⟨hid, hplace, -⟩ := Knockout.columns_of_fixture
      (storedKnockout_fixture storeWins eventId eventResults liveMap state next)
    have hround := h.next_round_ne_one linked hfeeder hnext hfeeds
    have hiff := (hstored.plays_iff linked (List.mem_map_of_mem hnext) winner).trans
      (hstored.holds_iff linked (List.mem_map_of_mem hnext) (by rwa [hplace]) winner)
    rw [hid, h.seeds_stored linked] at hiff
    refine hiff.trans ?_
    have hwins : ∀ other ∈ state.knockouts, other.nextMatchId = some next.matchId →
        (storedKnockout storeWins eventId eventResults liveMap state other).roundWinner =
          roundWinnerFrom (state.results.map (scoredLeg eventId eventResults liveMap)) other := by
      intro other hother hotherFeeds
      obtain ⟨_, _, _, -, hevents⟩ := find_roundSummaries eventResults liveMap linked storeWins h
        hfilled hfeeder hnext hended hfeeds
      have hotherEnded := (hevents other hother hotherFeeds).1
      rw [storedKnockout_roundWinner, if_pos hotherEnded,
        roundWinnerFrom_selected eventResults liveMap linked h hother hotherEnded]
    constructor
    · rintro ⟨stored, hmem, hfeedsStored, hwinner⟩
      obtain ⟨other, hother, rfl⟩ := List.mem_map.mp hmem
      obtain ⟨-, -, hlink, -⟩ := Knockout.columns_of_fixture
        (storedKnockout_fixture storeWins eventId eventResults liveMap state other)
      have hotherFeeds : other.nextMatchId = some next.matchId := hlink.symm.trans hfeedsStored
      exact ⟨other, hother, hotherFeeds, (hwins other hother hotherFeeds).symm.trans hwinner⟩
    · rintro ⟨other, hother, hotherFeeds, hwinner⟩
      obtain ⟨-, -, hlink, -⟩ := Knockout.columns_of_fixture
        (storedKnockout_fixture storeWins eventId eventResults liveMap state other)
      exact ⟨_, List.mem_map_of_mem hother, hlink.trans hotherFeeds,
        (hwins other hother hotherFeeds).trans hwinner⟩
  rw [hstored.coherent_iff linked, h.seeds_stored linked, hdecided.winnersPlay_iff
    ((h.coherent_iff linked).mp hcoherent)]
  constructor
  · intro hkept feeder hfeeder next hnext hfeeds hended winner hwinner
    rw [← h.winner_eq linked hnext] at hwinner
    exact (hplays feeder hfeeder next hnext hfeeds hended winner).mp
      (hkept feeder.matchId next.matchId ⟨feeder.fixture, h.mem_matchRows hfeeder, rfl, hfeeds⟩
        ⟨feeder, hfeeder, rfl, hended⟩ winner hwinner)
  · rintro hkept feederId game ⟨row, hrow, rfl, hfeeds⟩ ⟨feeder, hfeeder, hfeederId, hended⟩ winner
      hwinner
    obtain ⟨built, hbuilt, rfl⟩ := h.exists_knockout hrow
    obtain rfl := h.eq_of_matchId linked hfeeder hbuilt hfeederId
    by_cases hgame : ∃ next ∈ state.knockouts, next.matchId = game
    · obtain ⟨next, hnext, rfl⟩ := hgame
      rw [h.winner_eq linked hnext] at hwinner
      exact (hplays feeder hfeeder next hnext hfeeds hended winner).mpr
        (hkept feeder hfeeder next hnext hfeeds hended winner hwinner)
    · push Not at hgame
      rw [KnockoutState.winner_eq_none hgame] at hwinner
      cases hwinner

end Winners

end LetletmeData
