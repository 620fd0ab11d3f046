import Mathlib.Algebra.Order.Floor.Ring
import Mathlib.Data.Rat.Floor
import LetletmeData.Domain.BracketShape
import LetletmeData.Library.KeyedTables
import LetletmeData.Services.TournamentOfficialH2H

/-!
# Official knockout matches in the local bracket

The local number of a knockout match is computed from its round and from the number of earlier
matches of the round. These are the numbers that the bracket builder assigns, so every match
takes one row of the bracket. Which row its winner plays in next depends on the order in which
the league lists the matches.
-/

namespace LetletmeData

open LetletmeData.Library

/-- The tournament runs the knockout of a plan. -/
structure RunsPlan (tournament : OfficialH2HTournament) (plan : TournamentStructurePlan) :
    Prop where
  knockoutTeamNum : tournament.knockoutTeamNum = plan.knockoutTeamNum
  knockoutEventNum : tournament.knockoutEventNum = plan.knockoutEventNum

/-- The knockout matches of a response. -/
def knockoutMatches (sourceMatches : List OfficialH2HMatch) : List OfficialH2HMatch :=
  sourceMatches.filter fun m => isOfficialKnockoutMatch m

/-- The round of each knockout match and the number of earlier matches of that round. -/
def knockoutPlaces (tournament : OfficialH2HTournament) (knockout : List OfficialH2HMatch) :
    List (ℤ × ℕ) :=
  numberedBy [] (knockout.map (resolveKnockoutRound tournament))

/-- The number that the bracket of the given rounds has at a place. -/
def localMatchId (rounds : ℕ) (place : ℤ × ℕ) : ℚ :=
  ((roundStart rounds place.1.toNat + place.2 : ℕ) : ℚ)

/-- The place is one of the bracket. -/
structure InBracket (rounds : ℕ) (place : ℤ × ℕ) : Prop where
  pos : 1 ≤ place.1
  le : place.1 ≤ rounds
  lt : place.2 < 2 ^ (rounds - place.1.toNat)

/-- A bracket row has the event, the sides, the points and the winner of a match. -/
structure ShowsMatch (row : OfficialBracketRow) (m : OfficialH2HMatch) : Prop where
  startedEventId : row.startedEventId = m.event
  endedEventId : row.endedEventId = m.event
  homeEntryId : row.homeEntryId = m.entry1
  homeNetPoints : row.homeNetPoints = m.points1
  awayEntryId : row.awayEntryId = m.entry2
  awayNetPoints : row.awayNetPoints = m.points2
  roundWinner : row.roundWinner = m.winner

/-- The knockout of the given rounds, on as many teams as it needs. -/
structure FullBracket (tournament : OfficialH2HTournament) (rounds : ℕ) : Prop where
  pos : 1 ≤ rounds
  knockoutTeamNum : tournament.knockoutTeamNum = some (2 ^ rounds)
  knockoutEventNum : tournament.knockoutEventNum = some rounds

/-- One bracket row has a local number; it is a row of the round of a match, which it shows. -/
structure TakesRow (tournament : OfficialH2HTournament) (rows : List (ℚ × OfficialBracketRow))
    (m : OfficialH2HMatch) (number : ℚ) (row : ℚ × OfficialBracketRow) : Prop where
  mem : row ∈ rows
  numbered : row.1 = number
  round : row.2.round = resolveKnockoutRound tournament m
  shows : ShowsMatch row.2 m
  only : ∀ other ∈ rows, other.1 = number → other = row

/-- Number, round and link of a bracket row. -/
def officialLink (row : ℚ × OfficialBracketRow) : ℚ × ℤ × Option ℚ :=
  (row.1, row.2.round, row.2.nextMatchId)

/-- Number, round and link of a local match. -/
def localLink (row : KnockoutMatchRow) : ℚ × ℤ × Option ℚ :=
  (row.matchId, row.round, row.nextMatchId.map fun matchId : ℕ => (matchId : ℚ))

/-- The knockout matches of a response take the rows of a local bracket: one row each, under the
number of their place, and a row leads to the row of a match of the next round exactly when that
match is listed at half the place. -/
structure MappedOntoBracket (tournament : OfficialH2HTournament) (bracket : KnockoutRows)
    (knockout : List OfficialH2HMatch) (publication : OfficialH2HPublication) : Prop where
  rows : List.Forall₂ (fun m result => result.1 = m.id ∧
    ∃ row, TakesRow tournament publication.bracketRows m result.2.matchId row)
    knockout publication.knockoutRows
  distinct : (publication.knockoutRows.map fun result =>
    (result.2.matchId, result.2.playAgainstId)).Nodup
  links : knockout ≠ [] →
    publication.bracketRows.map officialLink = bracket.matchRows.map localLink
  numbers : publication.knockoutRows.map (·.2.matchId) =
    (knockoutPlaces tournament knockout).map (localMatchId (tournament.knockoutEventNum.getD 0))
  next : ∀ place ∈ knockoutPlaces tournament knockout,
    ∀ later ∈ knockoutPlaces tournament knockout, later.1 = place.1 + 1 →
      ∀ row ∈ publication.bracketRows,
        row.1 = localMatchId (tournament.knockoutEventNum.getD 0) place →
          (row.2.nextMatchId = some (localMatchId (tournament.knockoutEventNum.getD 0) later) ↔
            later.2 = place.2 / 2)

/-! ### Numbers -/

section Numbers

variable {tournament : OfficialH2HTournament} {rounds : ℕ}

/-- Halving a full bracket leaves whole numbers of matches. -/
theorem matchesOfRound_eq {round : ℤ} (hpos : 0 ≤ round) (hround : round ≤ rounds) :
    matchesOfRound (2 ^ rounds) round = ((2 ^ (rounds - round.toNat) : ℕ) : ℚ) := by
  obtain ⟨index, rfl⟩ := Int.eq_ofNat_of_zero_le hpos
  have hindex : index ≤ rounds := by exact_mod_cast hround
  rw [matchesOfRound, Int.toNat_natCast]
  push_cast
  rw [div_eq_iff (by positivity), ← pow_add, Nat.sub_add_cancel hindex]

/-- The formula for the first number of a round. -/
theorem roundStart_formula {round : ℤ} (hpos : 1 ≤ round) (hround : round ≤ rounds) :
    ((2 ^ rounds : ℕ) : ℚ) - matchesOfRound (2 ^ rounds) (round - 1) + 1 =
      ((roundStart rounds round.toNat : ℕ) : ℚ) := by
  have hle : 2 ^ (rounds + 1 - round.toNat) ≤ 2 ^ rounds :=
    Nat.pow_le_pow_right (by omega) (by omega)
  rw [matchesOfRound_eq (by omega) (by omega), roundStart,
    show rounds - (round - 1).toNat = rounds + 1 - round.toNat by omega]
  push_cast [hle]
  ring

/-- The rounds of a full bracket are the only ones that a match is resolved to. -/
theorem resolveKnockoutRound_bounds (full : FullBracket tournament rounds)
    (m : OfficialH2HMatch) :
    1 ≤ resolveKnockoutRound tournament m ∧ resolveKnockoutRound tournament m ≤ rounds := by
  have hpos := full.pos
  have hbounds : ∀ {named : Prop} [Decidable named] {left right : ℤ},
      1 ≤ left ∧ left ≤ rounds → 1 ≤ right ∧ right ≤ rounds →
        1 ≤ (if named then left else right) ∧ (if named then left else right) ≤ rounds := by
    intro named _ left right hleft hright
    split
    · exact hleft
    · exact hright
  unfold resolveKnockoutRound
  rw [full.knockoutEventNum]
  exact hbounds (by simp; omega) (hbounds (by simp; omega) (hbounds (by simp; omega)
    (by simp; omega)))

/-- A local number determines its place. -/
theorem localMatchId_injective {left right : ℤ × ℕ} (hleft : InBracket rounds left)
    (hright : InBracket rounds right) (h : localMatchId rounds left = localMatchId rounds right) :
    left = right := by
  have hids : roundStart rounds left.1.toNat + left.2 = roundStart rounds right.1.toNat + right.2 :=
    Nat.cast_injective h
  have hpos := hleft.pos
  have hle := hleft.le
  have hpos' := hright.pos
  have hle' := hright.le
  obtain ⟨hround, hindex⟩ := roundStart_add_injective (by omega) (by omega) hleft.lt hright.lt hids
  exact Prod.ext (by omega) hindex

/-- What an accepted list of knockout matches is placed at. -/
theorem placeKnockoutMatches_spec (full : FullBracket tournament rounds) {before : List ℤ}
    {knockout : List OfficialH2HMatch} {placed : List (ℚ × OfficialH2HMatch)}
    (h : placeKnockoutMatches tournament before knockout = .ok placed) :
    placed.map Prod.snd = knockout ∧
      placed.map Prod.fst =
        (numberedBy before (knockout.map (resolveKnockoutRound tournament))).map
          (localMatchId rounds) ∧
      ∀ place ∈ numberedBy before (knockout.map (resolveKnockoutRound tournament)),
        InBracket rounds place := by
  induction knockout generalizing before placed with
  | nil =>
    cases h
    exact ⟨rfl, rfl, fun place hplace => nomatch hplace⟩
  | cons m rest ih =>
    obtain ⟨hpos, hle⟩ := resolveKnockoutRound_bounds full m
    rw [placeKnockoutMatches] at h
    obtain ⟨hfits, h⟩ := throwIf_bind_eq_ok.mp h
    obtain ⟨others, hothers, h⟩ := bind_eq_ok.mp h
    cases h
    obtain ⟨hmatches, hids, hplaces⟩ := ih hothers
    simp only [full.knockoutTeamNum, Option.getD_some] at hfits ⊢
    rw [if_pos (by positivity), matchesOfRound_eq (by omega) hle, not_or, not_or, not_le] at hfits
    refine ⟨by rw [List.map_cons, hmatches], ?_, ?_⟩
    · rw [List.map_cons, List.map_cons, numberedBy, List.map_cons, hids]
      congr 1
      rw [localMatchId, Nat.cast_add, roundStart_formula hpos hle]
    · rw [List.map_cons, numberedBy, List.forall_mem_cons]
      exact ⟨⟨hpos, hle, by exact_mod_cast hfits.2.2⟩, hplaces⟩

end Numbers

/-! ### Rows -/

section Rows

variable {tournament : OfficialH2HTournament} {rounds : ℕ} {placed : List (ℚ × OfficialH2HMatch)}

/-- The row of a place. -/
def placeRow (tournament : OfficialH2HTournament) (placed : List (ℚ × OfficialH2HMatch))
    (rounds round index : ℕ) : ℚ × OfficialBracketRow :=
  officialBracketRow tournament placed round (localMatchId rounds (round, index))
    (if round < rounds then some (localMatchId rounds (round + 1, index / 2)) else none)

/-- The loop over the rounds makes a row for each place of the bracket. -/
theorem bracketRowsFrom_eq (full : FullBracket tournament rounds)
    (placed : List (ℚ × OfficialH2HMatch)) {count round : ℕ}
    (hcount : round + count = rounds + 1) (hpos : 1 ≤ round) :
    bracketRowsFrom tournament placed count round (roundStart rounds round : ℕ) =
      (List.range' round count).flatMap fun later =>
        (List.range (2 ^ (rounds - later))).map (placeRow tournament placed rounds later) := by
  induction count generalizing round with
  | zero => rfl
  | succ count ih =>
    have hmatches : matchesOfRound (tournament.knockoutTeamNum.getD 0) round =
        ((2 ^ (rounds - round) : ℕ) : ℚ) := by
      rw [full.knockoutTeamNum, Option.getD_some, matchesOfRound_eq (by omega) (by omega),
        Int.toNat_natCast]
    have hnext : ((roundStart rounds round : ℕ) : ℚ) + ((2 ^ (rounds - round) : ℕ) : ℚ) =
        ((roundStart rounds (round + 1) : ℕ) : ℚ) := by
      rw [roundStart_succ hpos (by omega), Nat.cast_add]
    rw [bracketRowsFrom, List.range'_succ, List.flatMap_cons]
    simp only [hmatches, hnext]
    rw [ih (by omega) (by omega), Int.ceil_natCast, Int.toNat_natCast]
    congr 1
    refine List.map_congr_left fun index _ => ?_
    have hlocal : ((roundStart rounds round : ℕ) : ℚ) + (index : ℚ) =
        localMatchId rounds (round, index) := by
      rw [localMatchId, Nat.cast_add, Int.toNat_natCast]
    have hnextLocal : ((roundStart rounds (round + 1) : ℕ) : ℚ) + ((index / 2 : ℕ) : ℚ) =
        localMatchId rounds (round + 1, index / 2) := by
      rw [localMatchId, Nat.cast_add]
      norm_cast
    rw [placeRow, hlocal, hnextLocal]
    congr 1
    by_cases hlast : count = 0
    · rw [if_pos hlast, if_neg (by omega)]
    · rw [if_neg hlast, if_pos (by omega)]

/-- The rows of a full bracket. -/
theorem mem_bracketRows (full : FullBracket tournament rounds) {row : ℚ × OfficialBracketRow} :
    row ∈ bracketRowsFrom tournament placed rounds 1 1 ↔
      ∃ round index, (1 ≤ round ∧ round ≤ rounds) ∧ index < 2 ^ (rounds - round) ∧
        row = placeRow tournament placed rounds round index := by
  have hrows := bracketRowsFrom_eq full placed (Nat.add_comm 1 rounds) (le_refl 1)
  rw [roundStart_one, Nat.cast_one] at hrows
  rw [hrows]
  simp only [List.mem_flatMap, List.mem_range'_1, List.mem_map, List.mem_range]
  constructor
  · rintro ⟨round, hround, index, hindex, rfl⟩
    exact ⟨round, index, by omega, hindex, rfl⟩
  · rintro ⟨round, index, hround, hindex, rfl⟩
    exact ⟨round, by omega, index, hindex, rfl⟩

/-- The place of a row in the bracket. -/
theorem inBracket_of_bounds {round index : ℕ} (hround : 1 ≤ round ∧ round ≤ rounds)
    (hindex : index < 2 ^ (rounds - round)) : InBracket rounds ((round : ℤ), index) where
  pos := Int.ofNat_le.mpr hround.1
  le := Int.ofNat_le.mpr hround.2
  lt := by simpa using hindex

/-- A bracket has one row for a number. -/
theorem bracketRow_unique (full : FullBracket tournament rounds) {place : ℤ × ℕ}
    (hplace : InBracket rounds place) {row : ℚ × OfficialBracketRow}
    (hrow : row ∈ bracketRowsFrom tournament placed rounds 1 1)
    (hnumber : row.1 = localMatchId rounds place) :
    row = placeRow tournament placed rounds place.1.toNat place.2 := by
  obtain ⟨round, index, hround, hindex, rfl⟩ := (mem_bracketRows full).mp hrow
  have hsame := localMatchId_injective (inBracket_of_bounds hround hindex) hplace hnumber
  rw [← hsame, Int.toNat_natCast]

/-- A place of the bracket has a row. -/
theorem placeRow_mem (full : FullBracket tournament rounds) {place : ℤ × ℕ}
    (hplace : InBracket rounds place) :
    placeRow tournament placed rounds place.1.toNat place.2 ∈
      bracketRowsFrom tournament placed rounds 1 1 := by
  have hpos := hplace.pos
  have hle := hplace.le
  exact (mem_bracketRows full).mpr ⟨_, _, by omega, hplace.lt, rfl⟩

/-- The number of a row. -/
theorem placeRow_number {place : ℤ × ℕ} (hplace : InBracket rounds place) :
    (placeRow tournament placed rounds place.1.toNat place.2).1 = localMatchId rounds place := by
  have hround := Int.toNat_of_nonneg (show 0 ≤ place.1 by have := hplace.pos; omega)
  change localMatchId rounds ((place.1.toNat : ℤ), place.2) = _
  rw [hround]

/-- A match that stands at a place is shown by its row. -/
theorem placeRow_shows (hdistinct : (placed.map Prod.fst).Nodup) {place : ℤ × ℕ}
    (hplace : InBracket rounds place) {m : OfficialH2HMatch}
    (hm : (localMatchId rounds place, m) ∈ placed) :
    ShowsMatch (placeRow tournament placed rounds place.1.toNat place.2).2 m := by
  have hround := Int.toNat_of_nonneg (show 0 ≤ place.1 by have := hplace.pos; omega)
  have hsource : placed.reverse.lookup (localMatchId rounds ((place.1.toNat : ℤ), place.2)) =
      some m := by
    rw [hround]
    refine (KeyedTable.mem_iff_lookup ?_).mp (List.mem_reverse.mpr hm)
    rw [List.map_reverse]
    exact List.nodup_reverse.mpr hdistinct
  simp only [placeRow, officialBracketRow, hsource]
  exact ⟨rfl, rfl, rfl, rfl, rfl, rfl, rfl⟩

/-- The rows of a planned bracket have the numbers and links that the builder assigns. -/
theorem bracketRows_links (full : FullBracket tournament rounds) {config : TournamentConfig}
    {start : ℕ} (planned : PlannedKnockout config (2 ^ rounds) 1 start)
    (seededRoundOne : Option (List SeedPair)) :
    (bracketRowsFrom tournament placed rounds 1 1).map officialLink =
      (buildKnockoutRows config seededRoundOne).matchRows.map localLink := by
  have hrows := bracketRowsFrom_eq full placed (Nat.add_comm 1 rounds) (le_refl 1)
  rw [roundStart_one, Nat.cast_one] at hrows
  rw [hrows, buildKnockoutRows_eq seededRoundOne planned, Nat.clog_pow 2 rounds (by omega),
    List.map_flatMap, List.map_flatMap]
  refine List.flatMap_congr fun round _ => ?_
  rw [List.map_map, List.map_map]
  refine List.map_congr_left fun index _ => ?_
  simp only [Function.comp_apply, officialLink, localLink, placeRow, officialBracketRow,
    bracketMatch, localMatchId, Int.toNat_natCast]
  congr 2
  split
  next => rw [Option.map_some, show ((round : ℤ) + 1).toNat = round + 1 by omega]
  next => rfl

end Rows

/-! ### Accepted responses -/

section Accepted

variable {payload : TournamentCreateInput} {selectedParticipants : List TournamentParticipant}
  {leagueId : ℕ} {sourceLeagueName : Option String} {sourceConfig : Option SourceConfig}
  {plan : TournamentStructurePlan} {tournament : OfficialH2HTournament} {sha256 : String → String}
  {call : OfficialH2HCall} {publication : OfficialH2HPublication}

/-- An accepted plan of an official league has no knockout or a full bracket. -/
theorem fullBracket_of_plan (hofficial : payload.participantSource = .official)
    (hplan : planTournamentStructure payload selectedParticipants leagueId .h2h sourceLeagueName
      sourceConfig = .ok plan) (hruns : RunsPlan tournament plan) (id : ℕ) :
    tournament.knockoutEventNum = none ∨ ∃ rounds start, FullBracket tournament rounds ∧
      PlannedKnockout (plan.config id) (2 ^ rounds) 1 start := by
  rw [planTournamentStructure] at hplan
  obtain ⟨-, hplan⟩ := ok_of_guard hplan
  obtain ⟨-, hplan⟩ := ok_of_guard hplan
  split at hplan
  next =>
    obtain ⟨-, hplan⟩ := ok_of_guard hplan
    rw [if_pos ⟨hofficial, rfl⟩] at hplan
    simp only [planOfficialH2H] at hplan
    obtain ⟨-, hplan⟩ := ok_of_guard hplan
    obtain rfl := Except.ok.inj hplan
    generalize ((sourceConfig.bind SourceConfig.knockoutRounds).getD 0).toNat = rounds at *
    rcases Nat.eq_zero_or_pos rounds with hzero | hpositive
    · left
      rw [hruns.knockoutEventNum]
      simp [hzero]
    · right
      refine ⟨rounds, 38 - rounds + 1, ⟨hpositive, ?_, ?_⟩, ?_⟩
      · rw [hruns.knockoutTeamNum]
        simp [hpositive]
      · rw [hruns.knockoutEventNum]
        simp [hpositive]
      · exact
          { knockoutTeamNum := by simp [TournamentStructurePlan.config, hpositive]
            two_le_entrants := by
              calc 2 = 2 ^ 1 := rfl
                _ ≤ 2 ^ rounds := Nat.pow_le_pow_right (by omega) hpositive
            knockoutEventNum := by
              simp [TournamentStructurePlan.config, hpositive, Nat.clog_pow]
            knockoutPlayAgainstNum := by simp [TournamentStructurePlan.config, hpositive]
            one_le_legs := le_refl 1
            knockoutStartedEventId := by simp [TournamentStructurePlan.config, hpositive]
            one_le_start := Nat.le_add_left 1 _ }
  next => exact absurd hplan (by simp)

/-- What a build that returns has placed and made of it. -/
theorem buildOfficialH2HPublication_spec
    (h : buildOfficialH2HPublication sha256 call = .ok publication) :
    ∃ placed, placeKnockoutMatches call.tournament [] (knockoutMatches call.sourceMatches) =
        .ok placed ∧
      publication.knockoutRows =
        placed.map (fun item => officialKnockoutRow call.checkedAt item.1 item.2) ∧
      publication.bracketRows =
        if knockoutMatches call.sourceMatches ≠ [] ∧
            0 < call.tournament.knockoutEventNum.getD 0 ∧
            1 < call.tournament.knockoutTeamNum.getD 0 then
          bracketRowsFrom call.tournament placed (call.tournament.knockoutEventNum.getD 0) 1 1
        else [] := by
  obtain ⟨_, _, h⟩ := bind_eq_ok.mp h
  obtain ⟨placed, hplaced, h⟩ := bind_eq_ok.mp h
  obtain rfl := Except.ok.inj h
  exact ⟨placed, hplaced, rfl, rfl⟩

/-- A mirror without a knockout accepts no knockout match. -/
theorem knockout_eq_nil {knockout : List OfficialH2HMatch} {placed : List (ℚ × OfficialH2HMatch)}
    (hnone : tournament.knockoutEventNum = none)
    (h : placeKnockoutMatches tournament [] knockout = .ok placed) : knockout = [] := by
  cases knockout with
  | nil => rfl
  | cons m rest =>
    rw [placeKnockoutMatches] at h
    exact absurd (.inl (by simp [hnone])) (throwIf_bind_eq_ok.mp h).1

section Full

variable {rounds : ℕ} {knockout : List OfficialH2HMatch} {placed : List (ℚ × OfficialH2HMatch)}

/-- The place a match was put at. -/
theorem exists_place (full : FullBracket tournament rounds)
    (hplaced : placeKnockoutMatches tournament [] knockout = .ok placed)
    {item : ℚ × OfficialH2HMatch} (hitem : item ∈ placed) :
    ∃ place, InBracket rounds place ∧ item.1 = localMatchId rounds place ∧
      place.1 = resolveKnockoutRound tournament item.2 := by
  obtain ⟨hmatches, hids, hplaces⟩ := placeKnockoutMatches_spec full hplaced
  obtain ⟨i, hi⟩ := List.getElem?_of_mem hitem
  have hid := congrArg (fun numbers => numbers[i]?) hids
  have hm := congrArg (fun others => others[i]?) hmatches
  simp only [List.getElem?_map, hi, Option.map_some] at hid hm
  obtain ⟨place, hplace, hnumber⟩ := Option.map_eq_some_iff.mp hid.symm
  have hround := congrArg (fun keys => keys[i]?)
    (map_fst_numberedBy [] (knockout.map (resolveKnockoutRound tournament)))
  simp only [List.getElem?_map, hplace, ← hm, Option.map_some] at hround
  exact ⟨place, hplaces place (List.mem_of_getElem? hplace), hnumber.symm,
    Option.some.inj hround⟩

/-- No two matches have one number. -/
theorem placed_nodup (full : FullBracket tournament rounds)
    (hplaced : placeKnockoutMatches tournament [] knockout = .ok placed) :
    (placed.map Prod.fst).Nodup := by
  obtain ⟨-, hids, hplaces⟩ := placeKnockoutMatches_spec full hplaced
  rw [hids]
  exact List.Nodup.map_on (fun left hleft right hright h =>
    localMatchId_injective (hplaces left hleft) (hplaces right hright) h) (nodup_numberedBy _ _)

/-- A placed match takes the row of its place. -/
theorem takesRow_of_placed (full : FullBracket tournament rounds)
    (hplaced : placeKnockoutMatches tournament [] knockout = .ok placed)
    {item : ℚ × OfficialH2HMatch} (hitem : item ∈ placed) :
    ∃ row, TakesRow tournament (bracketRowsFrom tournament placed rounds 1 1) item.2 item.1 row := by
  obtain ⟨place, hbracket, hnumber, hround⟩ := exists_place full hplaced hitem
  have hpos := hbracket.pos
  have hmem : (localMatchId rounds place, item.2) ∈ placed := hnumber ▸ hitem
  refine ⟨_, placeRow_mem full hbracket, ?_, ?_,
    placeRow_shows (placed_nodup full hplaced) hbracket hmem, ?_⟩
  · rw [placeRow_number hbracket, hnumber]
  · rw [← hround]
    exact Int.toNat_of_nonneg (by omega)
  · intro other hother hsame
    exact bracketRow_unique full hbracket hother (hsame.trans hnumber)

/-- A row leads to the place at half its index in the next round. -/
theorem nextMatchId_iff (full : FullBracket tournament rounds) {place later : ℤ × ℕ}
    (hplace : InBracket rounds place) (hlater : InBracket rounds later)
    (hround : later.1 = place.1 + 1) {row : ℚ × OfficialBracketRow}
    (hrow : row ∈ bracketRowsFrom tournament placed rounds 1 1)
    (hnumber : row.1 = localMatchId rounds place) :
    row.2.nextMatchId = some (localMatchId rounds later) ↔ later.2 = place.2 / 2 := by
  have hpos := hplace.pos
  have hle := hlater.le
  have hindex := hplace.lt
  have hhalf : InBracket rounds (((place.1.toNat : ℤ) + 1), place.2 / 2) := by
    refine ⟨by simp, by simp; omega, ?_⟩
    have hpow : 2 ^ (rounds - place.1.toNat) = 2 * 2 ^ (rounds - (place.1.toNat + 1)) := by
      rw [show rounds - place.1.toNat = rounds - (place.1.toNat + 1) + 1 by omega, pow_succ']
    have hsame : ((place.1.toNat : ℤ) + 1).toNat = place.1.toNat + 1 := by omega
    rw [hsame]
    change place.2 / 2 < _
    omega
  rw [bracketRow_unique full hplace hrow hnumber]
  simp only [placeRow, officialBracketRow]
  rw [if_pos (by omega), Option.some.injEq]
  constructor
  · intro hsame
    exact (congrArg Prod.snd (localMatchId_injective hhalf hlater hsame)).symm
  · intro hsecond
    congr 1
    exact Prod.ext (by simp; omega) hsecond.symm

end Full

end Accepted

/-- The id of the administrator is a number. -/
theorem leagueAdmin_digits : "1".toList ≠ [] ∧ "1".toList.all Char.isDigit :=
  ⟨List.cons_ne_nil _ _, rfl⟩

/-- A field that is not given is valid. -/
theorem isOptionalPositiveIntegerText_none :
    ∀ text ∈ (none : Option String), isOptionalPositiveIntegerText text :=
  fun _ h => absurd h (Option.not_mem_none _)

/-- A request to mirror a league of eight. -/
def leagueRequest : TournamentCreateInput where
  tournamentName := "League"
  adminId := "1"
  creator := "admin"
  platformAdmin := none
  participantSource := .official
  groupFormat := .none
  startGameweek := "GW35"
  endGameweek := "GW35"
  groupNum := none
  qualifiersPerGroup := none
  knockoutFormat := .none
  adminId_digits := leagueAdmin_digits
  groupNum_valid := isOptionalPositiveIntegerText_none
  qualifiersPerGroup_valid := isOptionalPositiveIntegerText_none

/-- The members of the league. -/
def leagueParticipants : List TournamentParticipant :=
  ["1", "2", "3", "4", "5", "6", "7", "8"].map fun id => ⟨id, "Team", "Manager", 1, 0⟩

/-- One regular event and three knockout rounds. -/
def leagueConfig : SourceConfig where
  startEventId := some 35
  knockoutRounds := some 3
  startEventId_positive := fun _ h => Option.some.inj h ▸ by decide

/-- A match of the league between two entries. -/
def leagueMatch (id event home away : ℕ) (winner : Option ℕ) (knockoutName : Option String) :
    OfficialH2HMatch where
  id := id
  event := event
  entry1 := some home
  points1 := none
  win1 := none
  draw1 := none
  loss1 := none
  total1 := none
  entry2 := some away
  points2 := none
  win2 := none
  draw2 := none
  loss2 := none
  total2 := none
  winner := winner
  isKnockout := some knockoutName.isSome
  isBye := some false
  knockoutName := knockoutName
  tiebreak := none
  sourceOrder := id

/-- The winners of the third and the fourth quarter-final are listed first among the
semi-finals. -/
def leagueCall : OfficialH2HCall where
  season := 1
  tournament :=
    { id := 7
      groupStartedEventId := some 35
      groupEndedEventId := some 35
      knockoutTeamNum := some 8
      knockoutEventNum := some 3
      knockoutStartedEventId := some 36 }
  entryIds := [1, 2, 3, 4, 5, 6, 7, 8]
  sourceMatches :=
    [leagueMatch 1 35 1 2 none none, leagueMatch 2 35 3 4 none none,
      leagueMatch 3 35 5 6 none none, leagueMatch 4 35 7 8 none none,
      leagueMatch 5 36 1 2 (some 1) (some "Quarter-finals"),
      leagueMatch 6 36 3 4 (some 3) (some "Quarter-finals"),
      leagueMatch 7 36 5 6 (some 5) (some "Quarter-finals"),
      leagueMatch 8 36 7 8 (some 7) (some "Quarter-finals"),
      leagueMatch 9 37 5 7 none (some "Semi-finals"),
      leagueMatch 10 37 1 3 none (some "Semi-finals")]
  standings := []
  currentGroups := []
  totalsByEntry := []
  checkedAt := 0
  refused := fun _ => none

/-- The plan of the league is accepted. -/
theorem exists_leaguePlan : ∃ plan,
    planTournamentStructure leagueRequest leagueParticipants 1 .h2h none (some leagueConfig) =
      .ok plan ∧ RunsPlan leagueCall.tournament plan :=
  ⟨_, rfl, rfl, rfl⟩

/-- The response of the league is accepted. -/
theorem exists_leaguePublication :
    ∃ publication, buildOfficialH2HPublication (fun _ => "") leagueCall = .ok publication := by
  have hbuilt : (buildOfficialH2HPublication (fun _ => "") leagueCall).toOption.isSome := by
    decide +kernel
  cases h : buildOfficialH2HPublication (fun _ => "") leagueCall with
  | error error => rw [h] at hbuilt; cases hbuilt
  | ok publication => exact ⟨publication, rfl⟩

end LetletmeData
