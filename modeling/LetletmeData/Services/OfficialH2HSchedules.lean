import LetletmeData.Library.Assignments
import LetletmeData.Services.TournamentOfficialH2H

/-!
# What the schedule validation accepts

The validation counts matches, entries and average sides for each event of the group window. A
response passes exactly when it is empty, or the sides of its matches are sound and the regular
matches of every event are a perfect matching of the roster.
-/

namespace LetletmeData

open LetletmeData.Library

/-- The sides of a match. -/
def OfficialH2HMatch.pair (m : OfficialH2HMatch) : Option ℕ × Option ℕ := (m.entry1, m.entry2)

/-- The regular matches of an event. -/
def eventMatches (sourceMatches : List OfficialH2HMatch) (eventId : ℕ) : List OfficialH2HMatch :=
  (regularMatches sourceMatches).filter fun m => m.event = eventId

/-- The sides of a match are entries of the roster that play each other, and its winner is one of
them; only a knockout match may wait for both. -/
structure SoundSides (entryIds : List ℕ) (m : OfficialH2HMatch) : Prop where
  real : ¬ isOfficialKnockoutMatch m → m.entry1 ≠ none ∨ m.entry2 ≠ none
  distinct : m.entry1 = m.entry2 → m.entry1 = none
  roster : ∀ entryId, m.entry1 = some entryId ∨ m.entry2 = some entryId ∨
    m.winner = some entryId → entryId ∈ entryIds
  winner : m.winner = none ∨ m.winner = m.entry1 ∨ m.winner = m.entry2

/-- A published schedule: sound sides, and regular matches in the events of the window only, each
of which they match perfectly. -/
structure PublishedSchedule (entryIds : List ℕ) (startEventId endEventId : ℕ)
    (sourceMatches : List OfficialH2HMatch) : Prop where
  sides : ∀ m ∈ sourceMatches, SoundSides entryIds m
  regular : regularMatches sourceMatches ≠ []
  window : ∀ m ∈ regularMatches sourceMatches, startEventId ≤ m.event ∧ m.event ≤ endEventId
  matched : ∀ eventId, startEventId ≤ eventId → eventId ≤ endEventId →
    IsPerfectMatching entryIds ((eventMatches sourceMatches eventId).map (·.pair))

/-! ### The checks -/

variable {entryIds : List ℕ} {sourceMatches : List OfficialH2HMatch}

/-- What `assertMatchSides` checks. -/
theorem assertMatchSides_eq_ok {m : OfficialH2HMatch} :
    assertMatchSides entryIds m = .ok () ↔ SoundSides entryIds m := by
  have hroster : ([m.entry1, m.entry2, m.winner].filterMap id).find? (· ∉ entryIds) = none ↔
      ∀ entryId, m.entry1 = some entryId ∨ m.entry2 = some entryId ∨ m.winner = some entryId →
        entryId ∈ entryIds := by
    simp only [List.find?_eq_none, decide_eq_true_eq, not_not, List.mem_filterMap, id_eq,
      exists_eq_right, List.mem_cons, List.not_mem_nil, or_false]
    simp only [eq_comm]
  unfold assertMatchSides
  rw [throwIf_bind_eq_ok, throwIf_bind_eq_ok]
  dsimp only
  cases hfound : ([m.entry1, m.entry2, m.winner].filterMap id).find? (· ∉ entryIds) with
  | some entryId =>
    refine iff_of_false (fun h => nomatch h.2.2) fun hsound => ?_
    rw [hroster.mpr hsound.roster] at hfound
    cases hfound
  | none =>
    have hmembers := hroster.mp hfound
    change _ ∧ _ ∧ throwIf _ _ = _ ↔ _
    rw [throwIf_eq_ok]
    constructor
    · rintro ⟨hreal, hdistinct, hwinner⟩
      refine ⟨by tauto, fun hsame => ?_, hmembers, by tauto⟩
      by_contra hside
      exact hdistinct ⟨hside, fun hnone => hside (hsame.trans hnone), hsame⟩
    · rintro ⟨hreal, hdistinct, -, hwinner⟩
      exact ⟨by tauto, by tauto, by tauto⟩

/-- No entry is found twice exactly when none occurs twice. -/
theorem firstRepeatedEntry_eq_none (seen entries : List ℕ) :
    firstRepeatedEntry seen entries = none ↔ entries.Nodup ∧ ∀ entry ∈ entries, entry ∉ seen := by
  induction entries generalizing seen with
  | nil => simp [firstRepeatedEntry]
  | cons entry rest ih =>
    by_cases hseen : entry ∈ seen
    · simp [firstRepeatedEntry, hseen]
    · rw [firstRepeatedEntry, if_neg hseen, ih, List.nodup_cons, List.forall_mem_cons]
      simp only [List.mem_cons, not_or]
      constructor
      · rintro ⟨hrest, hfresh⟩
        exact ⟨⟨fun hmem => (hfresh entry hmem).1 rfl, hrest⟩, hseen,
          fun other hother => (hfresh other hother).2⟩
      · rintro ⟨⟨hentry, hrest⟩, _, hfresh⟩
        exact ⟨hrest, fun other hother =>
          ⟨fun heq => hentry (heq ▸ hother), hfresh other hother⟩⟩

/-- What is checked for one event, of matches with sound sides. -/
theorem assertEventCoverage_eq_ok (hsides : ∀ m ∈ sourceMatches, SoundSides entryIds m)
    {eventId : ℕ} :
    assertEventCoverage entryIds (regularMatches sourceMatches) eventId = .ok () ↔
      IsPerfectMatching entryIds ((eventMatches sourceMatches eventId).map (·.pair)) := by
  have hmem : ∀ m ∈ eventMatches sourceMatches eventId,
      SoundSides entryIds m ∧ ¬ isOfficialKnockoutMatch m := by
    intro m hm
    have hregular := List.mem_filter.mp (List.mem_filter.mp hm).1
    exact ⟨hsides m hregular.1, of_decide_eq_true hregular.2⟩
  have hdistinct : ∀ pair ∈ (eventMatches sourceMatches eventId).map (·.pair),
      pair.1 ≠ pair.2 := by
    intro pair hpair hsame
    obtain ⟨m, hm, rfl⟩ := List.mem_map.mp hpair
    obtain ⟨hsound, hregular⟩ := hmem m hm
    have hnone : m.entry1 = none := hsound.distinct hsame
    have hboth : m.entry2 = none := hsame.symm.trans hnone
    exact (hsound.real hregular).elim (· hnone) (· hboth)
  have hroster : ∀ member ∈ membersOf ((eventMatches sourceMatches eventId).map (·.pair)),
      member ∈ entryIds := by
    intro member hmember
    obtain ⟨pair, hpair, hside⟩ := List.mem_flatMap.mp (mem_membersOf.mp hmember)
    obtain ⟨m, hm, rfl⟩ := List.mem_map.mp hpair
    rcases List.mem_pair.mp hside with hside | hside
    · exact (hmem m hm).1.roster member (.inl hside.symm)
    · exact (hmem m hm).1.roster member (.inr (.inl hside.symm))
  have hpairs : sidesOf ((eventMatches sourceMatches eventId).map (·.pair)) =
      (eventMatches sourceMatches eventId).flatMap fun m => [m.entry1, m.entry2] := by
    rw [sidesOf, List.flatMap_map]
    rfl
  rw [isPerfectMatching_iff hdistinct hroster, membersOf, hpairs, List.length_map]
  have hrepeated := firstRepeatedEntry_eq_none []
    (((eventMatches sourceMatches eventId).flatMap fun m => [m.entry1, m.entry2]).filterMap id)
  simp only [List.not_mem_nil, not_false_eq_true, implies_true, and_true] at hrepeated
  unfold assertEventCoverage eventMatches
  rw [throwIf_bind_eq_ok, not_not]
  refine and_congr_right fun _ => ?_
  unfold eventMatches at hrepeated
  dsimp only
  rw [← hrepeated]
  split
  next entryId hfound =>
    refine iff_of_false (fun h => by cases h) fun h => ?_
    rw [h.1] at hfound
    cases hfound
  next hnone =>
    change throwIf _ _ = _ ↔ _
    rw [throwIf_eq_ok, not_or, not_not, not_not, hnone]
    simp only [true_and]

/-- Nothing outside the window is found exactly when every match is inside. -/
theorem findOutside_eq_none {regular : List OfficialH2HMatch} {startEventId endEventId : ℕ} :
    (regular.find? fun m => m.event < startEventId ∨ endEventId < m.event) = none ↔
      ∀ m ∈ regular, startEventId ≤ m.event ∧ m.event ≤ endEventId := by
  simp [List.find?_eq_none]

/-- Validation accepts exactly the empty response and the published schedules. -/
theorem validateOfficialH2HSchedule_eq_ok (tournament : OfficialH2HTournament) (entryIds : List ℕ)
    (sourceMatches : List OfficialH2HMatch) :
    validateOfficialH2HSchedule tournament entryIds sourceMatches = .ok () ↔
      sourceMatches = [] ∨ ∃ startEventId ∈ tournament.groupStartedEventId,
        ∃ endEventId ∈ tournament.groupEndedEventId,
          PublishedSchedule entryIds startEventId endEventId sourceMatches := by
  unfold validateOfficialH2HSchedule
  by_cases hempty : sourceMatches = []
  · simp [hempty]
  rw [if_neg hempty]
  simp only [hempty, false_or]
  constructor
  · intro h
    obtain ⟨_, hsides, h⟩ := bind_eq_ok.mp h
    have hsound := fun m hm => assertMatchSides_eq_ok.mp (forM_eq_ok.mp hsides m hm)
    cases hstart : tournament.groupStartedEventId with
    | none => rw [hstart] at h; cases h
    | some startEventId =>
      cases hend : tournament.groupEndedEventId with
      | none => rw [hstart, hend] at h; cases h
      | some endEventId =>
        rw [hstart, hend] at h
        obtain ⟨hregular, h⟩ := throwIf_bind_eq_ok.mp h
        split at h
        next => cases h
        next hwindow =>
          refine ⟨startEventId, rfl, endEventId, rfl, hsound, hregular,
            findOutside_eq_none.mp hwindow, fun eventId hfirst hlast => ?_⟩
          refine (assertEventCoverage_eq_ok hsound).mp (forM_eq_ok.mp h eventId ?_)
          rw [List.mem_range'_1]
          omega
  · rintro ⟨startEventId, hstart, endEventId, hend, hpublished⟩
    refine bind_eq_ok.mpr ⟨(), forM_eq_ok.mpr fun m hm =>
      assertMatchSides_eq_ok.mpr (hpublished.sides m hm), ?_⟩
    rw [Option.mem_def.mp hstart, Option.mem_def.mp hend]
    refine throwIf_bind_eq_ok.mpr ⟨hpublished.regular, ?_⟩
    rw [findOutside_eq_none.mpr hpublished.window]
    refine forM_eq_ok.mpr fun eventId heventId => ?_
    rw [List.mem_range'_1] at heventId
    exact (assertEventCoverage_eq_ok hpublished.sides).mpr
      (hpublished.matched eventId heventId.1 (by omega))

/-- A regular match of entries 1 and 2 that is not played yet. -/
def scheduledMatch (id event : ℕ) : OfficialH2HMatch where
  id := id
  event := event
  entry1 := some 1
  points1 := none
  win1 := none
  draw1 := none
  loss1 := none
  total1 := none
  entry2 := some 2
  points2 := none
  win2 := none
  draw2 := none
  loss2 := none
  total2 := none
  winner := none
  isKnockout := some false
  isBye := some false
  knockoutName := none
  tiebreak := none
  sourceOrder := 0

/-- A mirror of two entries whose regular schedule is events 1 and 2. -/
def twoEventMirror : OfficialH2HTournament where
  id := 7
  groupStartedEventId := some 1
  groupEndedEventId := some 2
  knockoutTeamNum := none
  knockoutEventNum := none
  knockoutStartedEventId := none

/-- Neither two matches with one id nor a response without matches are refused. -/
theorem repeatedId_accepted :
    (validateOfficialH2HSchedule twoEventMirror [1, 2] [scheduledMatch 5 1, scheduledMatch 5 2] =
        .ok () ∧
      ¬ ([scheduledMatch 5 1, scheduledMatch 5 2].map (·.id)).Nodup) ∧
    (validateOfficialH2HSchedule twoEventMirror [1, 2] [] = .ok () ∧
      ¬ IsPerfectMatching [1, 2] ((eventMatches [] 1).map (·.pair))) :=
  ⟨⟨by decide +kernel, by decide⟩, by decide, fun h => absurd (h.once 1 (by decide)) (by decide)⟩

end LetletmeData
