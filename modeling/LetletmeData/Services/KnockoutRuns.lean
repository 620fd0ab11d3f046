import LetletmeData.Library.Runs
import LetletmeData.Services.BracketCoherence

/-!
# Repeated synchronisations of a knockout

A knockout is synchronised for its events in any order, any number of times, and with scores
that may have been corrected in between. The bracket stays coherent all along exactly when no
correction of a round takes a match of the next round, already decided, from its winner.
-/

namespace LetletmeData

open LetletmeData.Library

/-- The bracket after a synchronisation. -/
def knockoutSyncStep (storeWins : ℕ → Option ℤ) (tournament : TournamentConfig)
    (state : KnockoutState) (input : KnockoutSyncInput) : KnockoutState :=
  (syncKnockoutForTournament storeWins tournament input state).2

/-- A synchronisation scores legs and is not refused. -/
structure StoresResults (storeWins : ℕ → Option ℤ) (tournament : TournamentConfig)
    (seeded : KnockoutState) (input : KnockoutSyncInput)
    (updatedResults : List KnockoutResult) : Prop where
  window : ¬ (tournament.knockoutStartedEventId.getD 0 = 0 ∨
    tournament.knockoutEndedEventId.getD 0 = 0)
  scored : scoreKnockoutResults tournament input seeded = .ok (some updatedResults)
  stored : ∃ state count,
    storeKnockoutSync storeWins input.eventId updatedResults seeded = .ok (state, count)

/-- The winner of every match that was decided before, and whose round the event feeds, wins
a match that feeds it by the scores that are stored now. -/
def KeepsLaterWinners (storeWins : ℕ → Option ℤ) (tournament : TournamentConfig)
    (state : KnockoutState) (input : KnockoutSyncInput) : Prop :=
  let seeded := ensureKnockoutRoundOneSeeded tournament input.entrySeeds input.groups state
  ∀ updatedResults, StoresResults storeWins tournament seeded input updatedResults →
    ∀ feeder ∈ seeded.knockouts, ∀ next ∈ seeded.knockouts,
      feeder.nextMatchId = some next.matchId → feeder.endedEventId = input.eventId →
      ∀ winner ∈ next.roundWinner, ∃ other ∈ seeded.knockouts,
        other.nextMatchId = some next.matchId ∧
        roundWinnerFrom (upsertKnockoutResults seeded.results updatedResults) other = some winner

/-- A synchronisation either leaves the seeded bracket as it is, or stores a round. -/
theorem knockoutSyncStep_cases (storeWins : ℕ → Option ℤ) (tournament : TournamentConfig)
    (state : KnockoutState) (input : KnockoutSyncInput) :
    let seeded := ensureKnockoutRoundOneSeeded tournament input.entrySeeds input.groups state
    ((∀ updatedResults, ¬ StoresResults storeWins tournament seeded input updatedResults) ∧
        (knockoutSyncStep storeWins tournament state input = state ∨
          knockoutSyncStep storeWins tournament state input = seeded)) ∨
      ∃ updatedResults, StoresResults storeWins tournament seeded input updatedResults ∧
        ∃ count, storeKnockoutSync storeWins input.eventId updatedResults seeded =
          .ok (knockoutSyncStep storeWins tournament state input, count) := by
  intro seeded
  unfold knockoutSyncStep syncKnockoutForTournament
  split
  next hwindow => exact .inl ⟨fun _ hstores => hstores.window hwindow, .inl rfl⟩
  next hwindow =>
    dsimp only
    split
    next message hscore =>
      refine .inl ⟨fun _ hstores => ?_, .inr rfl⟩
      have hscored := hstores.scored
      rw [hscore] at hscored
      cases hscored
    next hscore =>
      refine .inl ⟨fun _ hstores => ?_, .inr rfl⟩
      have hscored := hstores.scored
      rw [hscore] at hscored
      cases hscored
    next updatedResults hscore =>
      split
      next message hstore =>
        refine .inl ⟨fun other hstores => ?_, .inr rfl⟩
        have hsame : other = updatedResults :=
          Option.some.inj (Except.ok.inj (hstores.scored.symm.trans hscore))
        obtain ⟨stored, count, hstored⟩ := hstores.stored
        rw [hsame, hstore] at hstored
        cases hstored
      next stored count hstore =>
        exact .inr ⟨updatedResults, ⟨hwindow, hscore, stored, count, hstore⟩, count, hstore⟩

section Runs

variable {tournament : TournamentConfig} {entrants legs start finish : ℕ} {rows : KnockoutRows}
  {state : KnockoutState} (storeWins : ℕ → Option ℤ)
  (linked : LinkedBracket entrants legs start finish rows)
include linked

/-- What a synchronisation that stores a round leaves. -/
theorem KnockoutState.Linked.step_eq (h : state.Linked rows) {input : KnockoutSyncInput}
    {updatedResults : List KnockoutResult} {count : ℕ}
    (hstores : StoresResults storeWins tournament state input updatedResults)
    {stored : KnockoutState}
    (hstore : storeKnockoutSync storeWins input.eventId updatedResults state =
      .ok (stored, count)) :
    ∃ eventResults liveMap,
      upsertKnockoutResults state.results updatedResults =
        state.results.map (scoredLeg input.eventId eventResults liveMap) ∧
      stored = storedRound storeWins input.eventId eventResults liveMap state ∧
      (∃ result ∈ state.results, result.eventId = input.eventId) ∧
      ∀ result ∈ state.results, result.eventId = input.eventId →
        ¬ (result.homeEntryId = none ∧ result.awayEntryId = none) := by
  obtain ⟨⟨eventResults, liveMap, rfl⟩, hfound, hfilled⟩ :=
    scoreKnockoutResults_eq_some hstores.scored
  obtain ⟨result, hresult⟩ := List.exists_mem_of_ne_nil _ hfound
  rw [findByTournamentAndEvent, List.mem_insertionSort, List.mem_filter,
    decide_eq_true_eq] at hresult
  exact ⟨eventResults, liveMap, upsertKnockoutResults_scored (h.resultKeys_distinct linked) _ _ _,
    storeKnockoutSync_eq linked h hstore, ⟨result, hresult⟩, hfilled⟩

variable (plan : PlannedKnockout tournament entrants legs start)
include plan

/-- The seeder keeps a bracket coherent. -/
theorem KnockoutState.Linked.coherent_ensured (h : state.Linked rows) (hcoherent : state.Coherent)
    (entrySeeds : List EntrySeed) (groups : List GroupRow) :
    (ensureKnockoutRoundOneSeeded tournament entrySeeds groups state).Coherent := by
  obtain ⟨hlinked, hsame | hundecided⟩ := h.ensured linked plan entrySeeds groups
  · rw [hsame]
    exact hcoherent
  · constructor
    · intro knockout hknockout winner hwinner
      rw [hundecided knockout hknockout] at hwinner
      cases hwinner
    · intro feeder hfeeder next hnext hfeeds entryId hentry
      exact (hlinked.slots_follow feeder hfeeder next hnext hfeeds).symm.trans hentry

/-- A synchronisation keeps the bracket linked. -/
theorem KnockoutState.Linked.step (h : state.Linked rows) (input : KnockoutSyncInput) :
    (knockoutSyncStep storeWins tournament state input).Linked rows := by
  have hensured := (h.ensured linked plan input.entrySeeds input.groups).1
  rcases knockoutSyncStep_cases storeWins tournament state input with
    ⟨-, hsame | hsame⟩ | ⟨updatedResults, hstores, count, hstore⟩
  · rw [hsame]
    exact h
  · rw [hsame]
    exact hensured
  · obtain ⟨eventResults, liveMap, -, heq, hplayed, hfilled⟩ :=
      hensured.step_eq storeWins linked hstores hstore
    rw [heq]
    exact hensured.stored storeWins eventResults liveMap linked hplayed hfilled

/-- A synchronisation keeps the bracket coherent exactly when it keeps the later winners. -/
theorem KnockoutState.Linked.coherent_step_iff (h : state.Linked rows)
    (hcoherent : state.Coherent) (input : KnockoutSyncInput) :
    (knockoutSyncStep storeWins tournament state input).Coherent ↔
      KeepsLaterWinners storeWins tournament state input := by
  have hensured := (h.ensured linked plan input.entrySeeds input.groups).1
  have hcoherentSeeded := h.coherent_ensured linked plan hcoherent input.entrySeeds input.groups
  rcases knockoutSyncStep_cases storeWins tournament state input with
    ⟨hrefused, hsame | hsame⟩ | ⟨updatedResults, hstores, count, hstore⟩
  · rw [hsame]
    exact iff_of_true hcoherent fun _ hstores => absurd hstores (hrefused _)
  · rw [hsame]
    exact iff_of_true hcoherentSeeded fun _ hstores => absurd hstores (hrefused _)
  · obtain ⟨eventResults, liveMap, hresults, heq, hplayed, hfilled⟩ :=
      hensured.step_eq storeWins linked hstores hstore
    rw [heq, hensured.coherent_stored_iff linked storeWins input.eventId eventResults liveMap
      hcoherentSeeded hplayed hfilled, ← hresults]
    constructor
    · intro hkept other hother
      have hscored : updatedResults = other :=
        Option.some.inj (Except.ok.inj (hstores.scored.symm.trans hother.scored))
      exact hscored ▸ hkept
    · exact fun hkept => hkept updatedResults hstores

end Runs

section Seeded

variable {tournament : TournamentConfig} {entrants legs start : ℕ}

/-- A bracket that was built and seeded is linked and coherent. -/
theorem seedRoundOne_linked (plan : PlannedKnockout tournament entrants legs start)
    (seededRoundOne : Option (List SeedPair)) (pairs : List SeedPair) :
    (seedRoundOne pairs legs
        (storedBracket (buildKnockoutRows tournament seededRoundOne))).Linked
        (buildKnockoutRows tournament none) ∧
      (seedRoundOne pairs legs
        (storedBracket (buildKnockoutRows tournament seededRoundOne))).Coherent := by
  have linked := buildKnockoutRows_linkedBracket none plan
  obtain ⟨hstored, hundecided⟩ := storedBracket_linked seededRoundOne plan
  obtain ⟨hlinked, hwinners⟩ := hstored.seeded linked hundecided pairs
  refine ⟨hlinked, ?_, ?_⟩
  · intro knockout hknockout winner hwinner
    rw [hwinners knockout hknockout] at hwinner
    cases hwinner
  · intro feeder hfeeder next hnext hfeeds entryId hentry
    exact (hlinked.slots_follow feeder hfeeder next hnext hfeeds).symm.trans hentry

/-- From a bracket that was built and seeded, every order and repetition of synchronisations
with any scores keeps the bracket coherent all along exactly when each of them keeps the later
winners. -/
theorem knockoutSyncs_coherent_iff (storeWins : ℕ → Option ℤ)
    (plan : PlannedKnockout tournament entrants legs start)
    (seededRoundOne : Option (List SeedPair)) (pairs : List SeedPair)
    (syncs : List KnockoutSyncInput) :
    (∀ before, before <+: syncs →
        (runSteps (knockoutSyncStep storeWins tournament)
          (seedRoundOne pairs legs (storedBracket (buildKnockoutRows tournament seededRoundOne)))
          before).Coherent) ↔
      EveryStep (knockoutSyncStep storeWins tournament) (KeepsLaterWinners storeWins tournament)
        (seedRoundOne pairs legs (storedBracket (buildKnockoutRows tournament seededRoundOne)))
        syncs := by
  have linked := buildKnockoutRows_linkedBracket none plan
  have hseeded := seedRoundOne_linked plan seededRoundOne pairs
  have hlinked : ∀ state input, state.Linked (buildKnockoutRows tournament none) →
      (knockoutSyncStep storeWins tournament state input).Linked
        (buildKnockoutRows tournament none) :=
    fun state input h => h.step storeWins linked plan input
  have hstep : ∀ state input,
      state.Linked (buildKnockoutRows tournament none) ∧ state.Coherent →
      ((knockoutSyncStep storeWins tournament state input).Linked
          (buildKnockoutRows tournament none) ∧
        (knockoutSyncStep storeWins tournament state input).Coherent ↔
        KeepsLaterWinners storeWins tournament state input) := by
    intro state input h
    rw [← h.1.coherent_step_iff storeWins linked plan h.2 input]
    exact and_iff_right (hlinked state input h.1)
  rw [← forall_prefix_iff_everyStep hstep _ _ hseeded]
  refine forall_congr' fun before => imp_congr_right fun _ => ?_
  exact (and_iff_right (runSteps_invariant hlinked _ before hseeded.1)).symm

end Seeded

/-- A cup of four entries over two events. -/
def fourEntryCup : TournamentConfig :=
  { id := 1
    totalTeamNum := 4
    groupMode := .noGroup
    groupNum := none
    groupStartedEventId := none
    groupEndedEventId := none
    groupQualifyNum := none
    knockoutMode := .singleElimination
    knockoutTeamNum := some 4
    knockoutEventNum := some 2
    knockoutStartedEventId := some 1
    knockoutEndedEventId := some 2
    knockoutPlayAgainstNum := some 1 }

/-- The cup is planned. -/
theorem fourEntryCup_planned : PlannedKnockout fourEntryCup 4 1 1 where
  knockoutTeamNum := rfl
  two_le_entrants := by decide
  knockoutEventNum := by rw [show (4 : ℕ) = 2 ^ 2 from rfl, Nat.clog_pow 2 2 (by decide)]; rfl
  knockoutPlayAgainstNum := rfl
  one_le_legs := le_refl 1
  knockoutStartedEventId := rfl
  one_le_start := le_refl 1

/-- A synchronisation of the cup with the net points of its four entries. -/
def cupSync (eventId : ℕ) (netPoints : List ℤ) : KnockoutSyncInput :=
  { eventId := eventId
    entrySeeds := []
    groups := []
    entryIds := [1, 2, 3, 4]
    entryEventResults := netPoints.zipIdx.map fun (points, index) =>
      { entryId := index + 1
        eventId := eventId
        eventPoints := points
        eventTransfersCost := 0
        eventNetPoints := points
        eventRank := none
        overallRank := index + 1
        eventChip := none
        eventPicks := [⟨1, 1⟩] }
    eventLives := [⟨1, some 0, some 0⟩] }

/-- An integer column takes whole numbers of wins. -/
def wholeWins (halves : ℕ) : Option ℤ := if halves % 2 = 0 then some (halves / 2 : ℕ) else none

/-- Entry one wins its semi-final and the final; then its semi-final is corrected to a defeat. -/
def correctedCup : List KnockoutSyncInput :=
  [cupSync 1 [60, 50, 40, 30], cupSync 2 [60, 50, 40, 30], cupSync 1 [20, 50, 40, 30]]

/-- The cup after the given synchronisations. -/
def cupAfter (syncs : List KnockoutSyncInput) : KnockoutState :=
  runSteps (knockoutSyncStep wholeWins fourEntryCup)
    (seedRoundOne [⟨some 1, some 4⟩, ⟨some 2, some 3⟩] 1
      (storedBracket (buildKnockoutRows fourEntryCup none))) syncs

/-- After the correction entry four plays the final in place of entry one, which is still its
winner. -/
theorem corrected_semifinal_leaves_winner : ¬ (cupAfter correctedCup).Coherent := by
  have hfinal : ∃ final ∈ (cupAfter correctedCup).knockouts,
      final.homeEntryId = some 4 ∧ final.awayEntryId = some 2 ∧ final.roundWinner = some 1 := by
    decide +kernel
  obtain ⟨final, hmem, hhome, haway, hwinner⟩ := hfinal
  intro hcoherent
  have hholds := hcoherent.winner_plays final hmem 1 hwinner
  simp [Knockout.Holds, hhome, haway] at hholds

/-- The cup is coherent all along the correction exactly when every synchronisation keeps the
later winners. -/
theorem correctedCup_coherent_iff :
    (∀ before, before <+: correctedCup → (cupAfter before).Coherent) ↔
      EveryStep (knockoutSyncStep wholeWins fourEntryCup)
        (KeepsLaterWinners wholeWins fourEntryCup) (cupAfter []) correctedCup :=
  knockoutSyncs_coherent_iff wholeWins fourEntryCup_planned none
    [⟨some 1, some 4⟩, ⟨some 2, some 3⟩] correctedCup

end LetletmeData
