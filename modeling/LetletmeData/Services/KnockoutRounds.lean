import LetletmeData.Services.KnockoutBracket

/-!
# Deciding a round

What one synchronisation does to a linked bracket: it scores the legs of its event, decides
the matches that end there among their own entries, and puts their winners into the two slots
of each match they feed.
-/

namespace LetletmeData

open LetletmeData.Library

/-! ## Winners -/

/-- A match with an entry is won by one of its entries. -/
theorem resolveMatchWinner_holds {homeEntryId awayEntryId : Option ℕ}
    (h : ¬ (homeEntryId = none ∧ awayEntryId = none)) (home away : SideScore) :
    ∃ winner, resolveMatchWinner homeEntryId awayEntryId home away = some winner ∧
      (homeEntryId = some winner ∨ awayEntryId = some winner) := by
  cases homeEntryId with
  | none =>
    obtain ⟨entryId, hentry⟩ := Option.ne_none_iff_exists'.mp fun hnone => h ⟨rfl, hnone⟩
    exact ⟨entryId, hentry, .inr hentry⟩
  | some homeEntry =>
    cases awayEntryId with
    | none => exact ⟨homeEntry, rfl, .inl rfl⟩
    | some awayEntry =>
      have hone : ∃ winner, (winner = homeEntry ∨ winner = awayEntry) ∧
          resolveMatchWinner (some homeEntry) (some awayEntry) home away = some winner := by
        unfold resolveMatchWinner
        dsimp only
        split_ifs <;> first | exact ⟨homeEntry, .inl rfl, rfl⟩ | exact ⟨awayEntry, .inr rfl, rfl⟩
      obtain ⟨winner, hwinner, hresolve⟩ := hone
      refine ⟨winner, hresolve, ?_⟩
      rcases hwinner with rfl | rfl
      · exact .inl rfl
      · exact .inr rfl

/-- A match with a leg that one of its entries won is won by one of its entries, whatever its
other legs say. -/
theorem resolveRoundWinner_holds {results : List KnockoutResult} {leg : KnockoutResult}
    (hleg : leg ∈ results) {homeEntryId awayEntryId : Option ℕ} {legWinner : ℕ}
    (hwinner : leg.matchWinner = some legWinner)
    (hholds : homeEntryId = some legWinner ∨ awayEntryId = some legWinner) :
    ∃ winner, resolveRoundWinner results homeEntryId awayEntryId = some winner ∧
      (homeEntryId = some winner ∨ awayEntryId = some winner) := by
  have hnonempty : ¬ (homeEntryId = none ∧ awayEntryId = none) := by
    rintro ⟨hhome, haway⟩
    simp [hhome, haway] at hholds
  match results, hleg with
  | [only], hleg =>
    obtain rfl := List.mem_singleton.mp hleg
    exact ⟨legWinner, hwinner, hholds⟩
  | first :: second :: rest, hleg =>
    have hlisted : legWinner ∈
        ((first :: second :: rest).filterMap KnockoutResult.matchWinner).eraseDups :=
      List.mem_eraseDups.mpr (List.mem_filterMap.mpr ⟨leg, hleg, hwinner⟩)
    unfold resolveRoundWinner
    dsimp only
    split
    next winner hone =>
      rw [hone, List.mem_singleton] at hlisted
      exact ⟨winner, rfl, hlisted ▸ hholds⟩
    next => exact resolveMatchWinner_holds hnonempty _ _

/-! ## Scored legs -/

/-- A leg of the event takes its scores, the others stay. -/
def scoredLeg (eventId : ℕ) (eventResults : List EntryEventResult)
    (liveMap : List EventLiveGoals) (result : KnockoutResult) : KnockoutResult :=
  if result.eventId = eventId then scoreResult eventResults liveMap result else result

section Score

variable (eventId : ℕ) (eventResults : List EntryEventResult) (liveMap : List EventLiveGoals)
  (result : KnockoutResult)

/-- Scoring keeps a leg in its place. -/
@[simp] theorem scoredLeg_fixture :
    (scoredLeg eventId eventResults liveMap result).fixture = result.fixture := by
  unfold scoredLeg
  split <;> rfl

/-- Scoring keeps the key of a leg. -/
theorem scoredLeg_key :
    (scoredLeg eventId eventResults liveMap result).key = result.key := by
  unfold scoredLeg
  split <;> rfl

/-- Scoring keeps the match of a leg. -/
@[simp] theorem scoredLeg_matchId :
    (scoredLeg eventId eventResults liveMap result).matchId = result.matchId := by
  unfold scoredLeg
  split <;> rfl

/-- Scoring keeps the number of a leg. -/
@[simp] theorem scoredLeg_playAgainstId :
    (scoredLeg eventId eventResults liveMap result).playAgainstId = result.playAgainstId := by
  unfold scoredLeg
  split <;> rfl

/-- Scoring keeps the home entry of a leg. -/
@[simp] theorem scoredLeg_homeEntryId :
    (scoredLeg eventId eventResults liveMap result).homeEntryId = result.homeEntryId := by
  unfold scoredLeg
  split <;> rfl

/-- Scoring keeps the away entry of a leg. -/
@[simp] theorem scoredLeg_awayEntryId :
    (scoredLeg eventId eventResults liveMap result).awayEntryId = result.awayEntryId := by
  unfold scoredLeg
  split <;> rfl

end Score

/-- What the synchronisation scores: the legs of its event, each of which has an entry. -/
theorem scoreKnockoutResults_eq_some {tournament : TournamentConfig} {input : KnockoutSyncInput}
    {state : KnockoutState} {updatedResults : List KnockoutResult}
    (h : scoreKnockoutResults tournament input state = .ok (some updatedResults)) :
    (∃ eventResults liveMap, updatedResults =
        (findByTournamentAndEvent input.eventId state.results).map
          (scoreResult eventResults liveMap)) ∧
      findByTournamentAndEvent input.eventId state.results ≠ [] ∧
      ∀ result ∈ state.results, result.eventId = input.eventId →
        ¬ (result.homeEntryId = none ∧ result.awayEntryId = none) := by
  unfold scoreKnockoutResults at h
  dsimp only at h
  split at h
  · cases h
  next hfound =>
    split at h
    · cases h
    next hseeded =>
      split at h
      · cases h
      · split at h
        · cases h
        next liveMap _ =>
          refine ⟨⟨_, liveMap, (Option.some.inj (Except.ok.inj h)).symm⟩,
            fun hempty => hfound (.inr hempty), fun result hresult hevent hempty => ?_⟩
          refine hseeded ⟨result, ?_, hempty⟩
          rw [findByTournamentAndEvent, List.mem_insertionSort]
          exact List.mem_filter.mpr ⟨hresult, decide_eq_true hevent⟩

/-- Storing the scored legs rewrites them in place. -/
theorem upsertKnockoutResults_scored {results : List KnockoutResult}
    (hdistinct : (results.map KnockoutResult.key).Nodup) (eventId : ℕ)
    (eventResults : List EntryEventResult) (liveMap : List EventLiveGoals) :
    upsertKnockoutResults results
        ((findByTournamentAndEvent eventId results).map (scoreResult eventResults liveMap)) =
      results.map (scoredLeg eventId eventResults liveMap) := by
  have hkey : ∀ result, (scoreResult eventResults liveMap result).key = result.key :=
    fun _ => rfl
  have hpicked : (findByTournamentAndEvent eventId results).Perm
      (results.filter fun row => row.eventId = eventId) := List.perm_insertionSort _ _
  rw [upsertKnockoutResults, upsertBatch_map_of_perm (fun _ _ hsame => hsame.symm) hkey hpicked
    hdistinct]
  simp only [decide_eq_true_eq]
  rfl

/-! ## The next round -/

/-- The slot that an odd or an even match fills. -/
def KnockoutRoundSummary.slot (odd : Bool) (summary : KnockoutRoundSummary) : Option ℕ :=
  if odd then summary.nextHomeEntryId else summary.nextAwayEntryId

/-- A match is recorded in its own slot of the match it feeds. -/
theorem slot_recordRoundWinner (nextRoundMap : KeyedTable ℕ KnockoutRoundSummary)
    (knockout : Knockout) (matchId : ℕ) (odd : Bool) :
    ((recordRoundWinner nextRoundMap knockout).find matchId).bind (KnockoutRoundSummary.slot odd) =
      if knockout.nextMatchId = some matchId ∧ knockout.roundWinner ≠ none ∧
          decide (knockout.matchId % 2 = 1) = odd then knockout.roundWinner
      else (nextRoundMap.find matchId).bind (KnockoutRoundSummary.slot odd) := by
  unfold recordRoundWinner
  split
  next nextMatchId winner hnext hwinner =>
    rw [KeyedTable.find_upsert, hnext, hwinner]
    by_cases heq : matchId = nextMatchId
    · subst heq
      cases odd <;> cases nextRoundMap.find matchId <;>
        by_cases hodd : knockout.matchId % 2 = 1 <;> simp [KnockoutRoundSummary.slot, hodd]
    · simp [heq, Ne.symm heq]
  next hnone =>
    rw [if_neg]
    rintro ⟨hnext, hwinner, -⟩
    obtain ⟨winner, hwinner⟩ := Option.ne_none_iff_exists'.mp hwinner
    exact hnone _ _ hnext hwinner

/-- A match of the next round is known when some match recorded a winner for it. -/
theorem find_recordRoundWinner (nextRoundMap : KeyedTable ℕ KnockoutRoundSummary)
    {knockout : Knockout} {matchId : ℕ} (h : knockout.nextMatchId ≠ some matchId) :
    (recordRoundWinner nextRoundMap knockout).find matchId = nextRoundMap.find matchId := by
  unfold recordRoundWinner
  split
  next nextMatchId winner hnext _ =>
    rw [KeyedTable.find_upsert, if_neg]
    rintro rfl
    exact h hnext
  next => rfl

/-- Every recorded winner names the round after its own. -/
theorem nextRound_recordRoundWinner {nextRoundMap : KeyedTable ℕ KnockoutRoundSummary}
    {knockout : Knockout} {round : ℕ} (hround : knockout.round = round)
    (h : ∀ matchId summary, nextRoundMap.find matchId = some summary →
      summary.nextRound = round + 1) (matchId : ℕ) (summary : KnockoutRoundSummary)
    (hfind : (recordRoundWinner nextRoundMap knockout).find matchId = some summary) :
    summary.nextRound = round + 1 := by
  unfold recordRoundWinner at hfind
  split at hfind
  next nextMatchId winner hnext _ =>
    rw [KeyedTable.find_upsert] at hfind
    split at hfind
    · rw [← Option.some.inj hfind]
      have hexisting : ((nextRoundMap.find nextMatchId).getD
          ⟨knockout.round + 1, none, none⟩).nextRound = round + 1 := by
        cases hold : nextRoundMap.find nextMatchId with
        | none => simp [hround]
        | some old => exact h _ _ hold
      split
      · exact hexisting
      · exact hexisting
    · exact h _ _ hfind
  next => exact h _ _ hfind

section NextRound

variable {updatedKnockouts : List Knockout} (nextRoundMap : KeyedTable ℕ KnockoutRoundSummary)

/-- The slot of the next match is filled by the winner of the match that feeds it. -/
theorem slot_foldl_recordRoundWinner {matchId winner : ℕ} {odd : Bool}
    (hwinner : ∀ knockout ∈ updatedKnockouts, knockout.nextMatchId = some matchId →
      decide (knockout.matchId % 2 = 1) = odd → knockout.roundWinner = some winner)
    (hfed : (∃ knockout ∈ updatedKnockouts, knockout.nextMatchId = some matchId ∧
        decide (knockout.matchId % 2 = 1) = odd) ∨
      (nextRoundMap.find matchId).bind (KnockoutRoundSummary.slot odd) = some winner) :
    ((updatedKnockouts.foldl recordRoundWinner nextRoundMap).find matchId).bind
      (KnockoutRoundSummary.slot odd) = some winner := by
  induction updatedKnockouts generalizing nextRoundMap with
  | nil => simpa using hfed
  | cons knockout rest ih =>
    have hrest : ∀ other ∈ rest, other.nextMatchId = some matchId →
        decide (other.matchId % 2 = 1) = odd → other.roundWinner = some winner :=
      fun other hother => hwinner other (List.mem_cons_of_mem _ hother)
    rw [List.foldl_cons]
    refine ih _ hrest ?_
    rw [slot_recordRoundWinner]
    by_cases hown : knockout.nextMatchId = some matchId ∧ decide (knockout.matchId % 2 = 1) = odd
    · have hvalue := hwinner knockout List.mem_cons_self hown.1 hown.2
      right
      rw [if_pos ⟨hown.1, by simp [hvalue], hown.2⟩, hvalue]
    · rw [if_neg fun h => hown ⟨h.1, h.2.2⟩]
      refine hfed.imp_left ?_
      rintro ⟨other, hother, hother'⟩
      rcases List.mem_cons.mp hother with rfl | hrestMem
      · exact absurd hother' hown
      · exact ⟨other, hrestMem, hother'⟩

/-- Nothing is recorded for a match that no decided match feeds. -/
theorem find_foldl_recordRoundWinner {matchId : ℕ}
    (h : ∀ knockout ∈ updatedKnockouts, knockout.nextMatchId ≠ some matchId) :
    (updatedKnockouts.foldl recordRoundWinner nextRoundMap).find matchId =
      nextRoundMap.find matchId := by
  induction updatedKnockouts generalizing nextRoundMap with
  | nil => rfl
  | cons knockout rest ih =>
    rw [List.foldl_cons, ih _ fun other hother => h other (List.mem_cons_of_mem _ hother),
      find_recordRoundWinner _ (h knockout List.mem_cons_self)]

/-- Matches of one round are recorded for the round after it. -/
theorem nextRound_foldl_recordRoundWinner {round : ℕ}
    (hround : ∀ knockout ∈ updatedKnockouts, knockout.round = round)
    (h : ∀ matchId summary, nextRoundMap.find matchId = some summary →
      summary.nextRound = round + 1) (matchId : ℕ) (summary : KnockoutRoundSummary)
    (hfind : (updatedKnockouts.foldl recordRoundWinner nextRoundMap).find matchId =
      some summary) : summary.nextRound = round + 1 := by
  induction updatedKnockouts generalizing nextRoundMap with
  | nil => exact h matchId summary hfind
  | cons knockout rest ih =>
    exact ih _ (fun other hother => hround other (List.mem_cons_of_mem _ hother))
      (nextRound_recordRoundWinner (hround knockout List.mem_cons_self) h) hfind

end NextRound

/-! ## The stored round -/

/-- The winner of a match by the stored legs. -/
def roundWinnerFrom (results : List KnockoutResult) (knockout : Knockout) : Option ℕ :=
  resolveRoundWinner (results.filter fun result => result.matchId = knockout.matchId)
    knockout.homeEntryId knockout.awayEntryId

/-- An upserted match keeps its key. -/
theorem Knockout.key_merge (old row : Knockout) (hsame : old.key = row.key) :
    (old.merge row).key = old.key := hsame.symm

/-- A match that ends with the event is decided, the others stay. -/
def decidedKnockout (storeWins : ℕ → Option ℤ) (eventId : ℕ) (allMatchResults : List KnockoutResult)
    (knockout : Knockout) : Knockout :=
  if knockout.endedEventId = eventId then decideKnockout storeWins allMatchResults knockout
  else knockout

/-- Deciding a match keeps its place. -/
@[simp] theorem decidedKnockout_fixture (storeWins : ℕ → Option ℤ) (eventId : ℕ)
    (allMatchResults : List KnockoutResult) (knockout : Knockout) :
    (decidedKnockout storeWins eventId allMatchResults knockout).fixture = knockout.fixture := by
  unfold decidedKnockout
  split <;> rfl

/-- Deciding a match keeps its key. -/
theorem decidedKnockout_key (storeWins : ℕ → Option ℤ) (eventId : ℕ)
    (allMatchResults : List KnockoutResult) (knockout : Knockout) :
    (decidedKnockout storeWins eventId allMatchResults knockout).key = knockout.key := by
  unfold decidedKnockout
  split <;> rfl

/-- Deciding a match keeps its slots. -/
theorem decidedKnockout_slots (storeWins : ℕ → Option ℤ) (eventId : ℕ)
    (allMatchResults : List KnockoutResult) (knockout : Knockout) :
    (decidedKnockout storeWins eventId allMatchResults knockout).homeEntryId =
        knockout.homeEntryId ∧
      (decidedKnockout storeWins eventId allMatchResults knockout).awayEntryId =
        knockout.awayEntryId := by
  unfold decidedKnockout
  split <;> exact ⟨rfl, rfl⟩

/-- Storing the decided matches rewrites them in place. -/
theorem upsertKnockouts_decided {knockouts : List Knockout}
    (hdistinct : (knockouts.map Knockout.key).Nodup) (storeWins : ℕ → Option ℤ) (eventId : ℕ)
    (allMatchResults : List KnockoutResult) :
    upsertKnockouts knockouts ((findByTournamentAndEndedEvent eventId knockouts).map
        (decideKnockout storeWins allMatchResults)) =
      knockouts.map (decidedKnockout storeWins eventId allMatchResults) := by
  have hkey : ∀ knockout, (decideKnockout storeWins allMatchResults knockout).key = knockout.key :=
    fun _ => rfl
  have hpicked : (findByTournamentAndEndedEvent eventId knockouts).Perm
      (knockouts.filter fun row => row.endedEventId = eventId) := List.perm_insertionSort _ _
  rw [upsertKnockouts, upsertBatch_map_of_perm Knockout.key_merge hkey hpicked hdistinct]
  simp only [decide_eq_true_eq]
  rfl

section Advance

variable (nextRoundMap : KeyedTable ℕ KnockoutRoundSummary)

/-- Winners enter a match without moving it. -/
@[simp] theorem advanceKnockout_fixture (knockout : Knockout) :
    (advanceKnockout nextRoundMap knockout).fixture = knockout.fixture := by
  unfold advanceKnockout
  split <;> rfl

/-- Winners enter a match without deciding it. -/
@[simp] theorem advanceKnockout_roundWinner (knockout : Knockout) :
    (advanceKnockout nextRoundMap knockout).roundWinner = knockout.roundWinner := by
  unfold advanceKnockout
  split <;> rfl

/-- Winners enter a leg without moving it. -/
@[simp] theorem advanceKnockoutResult_fixture (result : KnockoutResult) :
    (advanceKnockoutResult nextRoundMap result).fixture = result.fixture := by
  unfold advanceKnockoutResult
  split <;> rfl

/-- A match without a recorded winner stays. -/
theorem advanceKnockout_of_find {knockout : Knockout}
    (h : nextRoundMap.find knockout.matchId = none) :
    advanceKnockout nextRoundMap knockout = knockout := by
  rw [advanceKnockout, h]

/-- A leg of a match without a recorded winner stays. -/
theorem advanceKnockoutResult_of_find {result : KnockoutResult}
    (h : nextRoundMap.find result.matchId = none) :
    advanceKnockoutResult nextRoundMap result = result := by
  rw [advanceKnockoutResult, h]

/-- A match that two winners enter is between them. -/
theorem advanceKnockout_of_winners {knockout : Knockout} {round homeWinner awayWinner : ℕ}
    (h : nextRoundMap.find knockout.matchId =
      some ⟨round, some homeWinner, some awayWinner⟩) :
    advanceKnockout nextRoundMap knockout =
      { knockout with homeEntryId := some homeWinner, awayEntryId := some awayWinner } := by
  rw [advanceKnockout, h]
  rfl

/-- A leg of a match that two winners enter is between them. -/
theorem advanceKnockoutResult_of_winners {result : KnockoutResult}
    {round homeWinner awayWinner : ℕ}
    (h : nextRoundMap.find result.matchId = some ⟨round, some homeWinner, some awayWinner⟩) :
    advanceKnockoutResult nextRoundMap result =
      { result with
        homeEntryId := some (if result.playAgainstId % 2 = 0 then awayWinner else homeWinner)
        awayEntryId := some (if result.playAgainstId % 2 = 0 then homeWinner else awayWinner) } := by
  rw [advanceKnockoutResult, h]

/-- Storing the matches of a round that winners enter rewrites them in place. -/
theorem upsertKnockouts_advanced {knockouts : List Knockout}
    (hdistinct : (knockouts.map Knockout.key).Nodup) (round : ℕ)
    (hround : ∀ knockout ∈ knockouts, knockout.round ≠ round →
      nextRoundMap.find knockout.matchId = none) :
    upsertKnockouts knockouts ((findByTournamentAndRound round knockouts).map
        (advanceKnockout nextRoundMap)) =
      knockouts.map (advanceKnockout nextRoundMap) := by
  have hkey : ∀ knockout, (advanceKnockout nextRoundMap knockout).key = knockout.key := by
    intro knockout
    unfold advanceKnockout
    split <;> rfl
  have hpicked : (findByTournamentAndRound round knockouts).Perm
      (knockouts.filter fun row => row.round = round) := List.perm_insertionSort _ _
  rw [upsertKnockouts, upsertBatch_map_of_perm Knockout.key_merge hkey hpicked hdistinct]
  refine List.map_congr_left fun knockout hknockout => ?_
  split
  next =>
    unfold advanceKnockout
    split <;> rfl
  next hother =>
    rw [advanceKnockout_of_find _ (hround knockout hknockout (by simpa using hother))]

/-- Storing the legs of the matches that winners enter rewrites them in place. -/
theorem upsertKnockoutResults_advanced {results : List KnockoutResult}
    (hdistinct : (results.map KnockoutResult.key).Nodup) :
    upsertKnockoutResults results
        ((findByTournamentAndMatchIds (nextRoundMap.entries.map Prod.fst) results).map
          (advanceKnockoutResult nextRoundMap)) =
      results.map (advanceKnockoutResult nextRoundMap) := by
  have hkey : ∀ result, (advanceKnockoutResult nextRoundMap result).key = result.key := by
    intro result
    unfold advanceKnockoutResult
    split <;> rfl
  have hpicked : (findByTournamentAndMatchIds (nextRoundMap.entries.map Prod.fst) results).Perm
      (results.filter fun row => (nextRoundMap.entries.map Prod.fst).contains row.matchId) :=
    List.Perm.refl _
  rw [upsertKnockoutResults, upsertBatch_map_of_perm (fun _ _ hsame => hsame.symm) hkey hpicked
    hdistinct]
  refine List.map_congr_left fun result _ => ?_
  split
  next => rfl
  next hother =>
    rw [List.contains_iff_mem, ← KeyedTable.find_eq_none_iff] at hother
    rw [advanceKnockoutResult_of_find _ hother]

end Advance

/-- What the matches that end with the event bring into the next round. -/
def roundSummaries (storeWins : ℕ → Option ℤ) (eventId : ℕ) (allMatchResults : List KnockoutResult)
    (knockouts : List Knockout) : KeyedTable ℕ KnockoutRoundSummary :=
  nextRoundMapOf ((findByTournamentAndEndedEvent eventId knockouts).map
    (decideKnockout storeWins allMatchResults))

/-- The legs that are read for the matches played in the event, after it was scored. -/
def eventLegs (eventId : ℕ) (eventResults : List EntryEventResult) (liveMap : List EventLiveGoals)
    (results : List KnockoutResult) : List KnockoutResult :=
  findByTournamentAndMatchIds
    (((findByTournamentAndEvent eventId results).map
      (scoreResult eventResults liveMap)).map fun result => result.matchId)
    (results.map (scoredLeg eventId eventResults liveMap))

/-- What a synchronisation that goes through leaves of a stored match. -/
def storedKnockout (storeWins : ℕ → Option ℤ) (eventId : ℕ) (eventResults : List EntryEventResult)
    (liveMap : List EventLiveGoals) (state : KnockoutState) (knockout : Knockout) : Knockout :=
  let allMatchResults := eventLegs eventId eventResults liveMap state.results
  advanceKnockout (roundSummaries storeWins eventId allMatchResults state.knockouts)
    (decidedKnockout storeWins eventId allMatchResults knockout)

/-- What a synchronisation that goes through leaves of a stored leg. -/
def storedResult (storeWins : ℕ → Option ℤ) (eventId : ℕ) (eventResults : List EntryEventResult)
    (liveMap : List EventLiveGoals) (state : KnockoutState) (result : KnockoutResult) :
    KnockoutResult :=
  let allMatchResults := eventLegs eventId eventResults liveMap state.results
  advanceKnockoutResult (roundSummaries storeWins eventId allMatchResults state.knockouts)
    (scoredLeg eventId eventResults liveMap result)

/-- The bracket after a synchronisation that goes through. -/
def storedRound (storeWins : ℕ → Option ℤ) (eventId : ℕ) (eventResults : List EntryEventResult)
    (liveMap : List EventLiveGoals) (state : KnockoutState) : KnockoutState :=
  { knockouts :=
      state.knockouts.map (storedKnockout storeWins eventId eventResults liveMap state)
    results := state.results.map (storedResult storeWins eventId eventResults liveMap state) }

section Stored

variable {entrants legs start finish : ℕ} {rows : KnockoutRows} {state : KnockoutState}
  {eventId : ℕ} {storeWins : ℕ → Option ℤ} {eventResults : List EntryEventResult}
  {liveMap : List EventLiveGoals} {allMatchResults : List KnockoutResult}

/-- A match is recorded for the next round only where a decided match feeds it. -/
theorem exists_feeder_of_find {knockout : Knockout} {summary : KnockoutRoundSummary}
    (hfind : (roundSummaries storeWins eventId allMatchResults state.knockouts).find
      knockout.matchId = some summary) :
    ∃ feeder ∈ state.knockouts, feeder.endedEventId = eventId ∧
      feeder.nextMatchId = some knockout.matchId := by
  by_contra hnone
  rw [roundSummaries, nextRoundMapOf, find_foldl_recordRoundWinner] at hfind
  · cases hfind
  · intro updated hupdated hnext
    obtain ⟨feeder, hfeeder, rfl⟩ := List.mem_map.mp hupdated
    rw [findByTournamentAndEndedEvent, selectKnockouts, List.mem_insertionSort,
      List.mem_filter] at hfeeder
    exact hnone ⟨feeder, hfeeder.1, of_decide_eq_true hfeeder.2, hnext⟩

variable (linked : LinkedBracket entrants legs start finish rows)
include linked

/-- The summaries name the round of the matches they are recorded for. -/
theorem nextRound_eq (h : state.Linked rows) {knockout : Knockout}
    (hknockout : knockout ∈ state.knockouts) {summary other : KnockoutRoundSummary} {matchId : ℕ}
    (hfind : (roundSummaries storeWins eventId allMatchResults state.knockouts).find
      knockout.matchId = some summary)
    (hother : (roundSummaries storeWins eventId allMatchResults state.knockouts).find matchId =
      some other) :
    knockout.round = other.nextRound := by
  obtain ⟨feeder, hfeeder, hended, hfeeds⟩ := exists_feeder_of_find hfind
  rw [h.next_round linked hfeeder hknockout hfeeds]
  refine (nextRound_foldl_recordRoundWinner KeyedTable.empty (fun updated hupdated => ?_)
    (fun _ _ hempty => by cases hempty) matchId other hother).symm
  obtain ⟨decided, hdecided, rfl⟩ := List.mem_map.mp hupdated
  rw [findByTournamentAndEndedEvent, selectKnockouts, List.mem_insertionSort,
    List.mem_filter] at hdecided
  exact (linked.endedEventId_eq_iff (h.mem_matchRows hdecided.1) (h.mem_matchRows hfeeder)).mp
    ((of_decide_eq_true hdecided.2).trans hended.symm)

/-- A synchronisation that goes through rewrites each stored row in place. -/
theorem storeKnockoutSync_eq (h : state.Linked rows) {stored : KnockoutState} {count : ℕ}
    (hstore : storeKnockoutSync storeWins eventId
      ((findByTournamentAndEvent eventId state.results).map (scoreResult eventResults liveMap))
      state = .ok (stored, count)) :
    stored = storedRound storeWins eventId eventResults liveMap state := by
  unfold storedRound storedKnockout storedResult
  dsimp only
  generalize hlegs : eventLegs eventId eventResults liveMap state.results = allMatchResults
  generalize hsummaries :
    roundSummaries storeWins eventId allMatchResults state.knockouts = nextRoundMap
  have hdecidedKeys : ((state.knockouts.map
      (decidedKnockout storeWins eventId allMatchResults)).map Knockout.key).Nodup := by
    have hsame : (Knockout.key ∘ decidedKnockout storeWins eventId allMatchResults) =
        Knockout.key := funext (decidedKnockout_key storeWins eventId allMatchResults)
    rw [List.map_map, hsame]
    exact h.keys_distinct linked
  have hscoredKeys : ((state.results.map (scoredLeg eventId eventResults liveMap)).map
      KnockoutResult.key).Nodup := by
    have hsame : (KnockoutResult.key ∘ scoredLeg eventId eventResults liveMap) =
        KnockoutResult.key := funext (scoredLeg_key eventId eventResults liveMap)
    rw [List.map_map, hsame]
    exact h.resultKeys_distinct linked
  rw [eventLegs] at hlegs
  have hnextRound := hsummaries
  rw [roundSummaries] at hnextRound
  simp only [storeKnockoutSync, upsertKnockoutResults_scored (h.resultKeys_distinct linked), hlegs,
    upsertKnockouts_decided (h.keys_distinct linked), hnextRound] at hstore
  split at hstore
  · cases hstore
  split at hstore
  · cases hstore
  split at hstore
  next hempty =>
    have hnone : ∀ matchId, nextRoundMap.find matchId = none := fun matchId =>
      congrArg (List.lookup matchId) hempty
    rw [← (Prod.mk.inj (Except.ok.inj hstore)).1]
    simp only [advanceKnockout_of_find _ (hnone _), advanceKnockoutResult_of_find _ (hnone _)]
  next matchId first rest hentries =>
    split at hstore
    · cases hstore
    have hfirst : nextRoundMap.find matchId = some first := by
      rw [← KeyedTable.mem_entries_iff, hentries]
      exact List.mem_cons_self
    have hround : ∀ knockout ∈ state.knockouts.map
        (decidedKnockout storeWins eventId allMatchResults), knockout.round ≠ first.nextRound →
          nextRoundMap.find knockout.matchId = none := by
      intro decided hdecided hne
      obtain ⟨knockout, hknockout, rfl⟩ := List.mem_map.mp hdecided
      have hfixture := decidedKnockout_fixture storeWins eventId allMatchResults knockout
      have hid := congrArg KnockoutMatchRow.matchId hfixture
      have hplace := congrArg KnockoutMatchRow.round hfixture
      rw [Option.eq_none_iff_forall_ne_some]
      intro summary hfind
      rw [← hsummaries] at hfind hfirst
      have hown : (roundSummaries storeWins eventId allMatchResults state.knockouts).find
          knockout.matchId = some summary := (congrArg _ hid.symm).trans hfind
      exact hne (hplace.trans (nextRound_eq linked h hknockout hown hfirst))
    rw [← (Prod.mk.inj (Except.ok.inj hstore)).1, upsertKnockouts_advanced _ hdecidedKeys _ hround,
      upsertKnockoutResults_advanced _ hscoredKeys, List.map_map, List.map_map]
    rfl

end Stored

end LetletmeData
