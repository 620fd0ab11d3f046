import Mathlib
import LetletmeData.Domain.CoreSnapshot
import LetletmeData.Domain.TournamentPlan
import LetletmeData.Library.KeyedTables
import LetletmeData.Library.RoundRobins
import LetletmeData.Library.Texts
import LetletmeData.Library.Transactions
import LetletmeData.Library.JavaScript

/-!
# Fixture coverage

A snapshot of a season is published with all its fixtures only: every pair of its twenty teams
plays once at either team's home. The check counts fixtures, appearances and pairings.
-/

namespace LetletmeData

open LetletmeData.Library

/-- `CORE_SNAPSHOT_EXPECTED_EVENTS`. -/
def coreSnapshotExpectedEvents : ℕ := 38

/-- `CORE_SNAPSHOT_EXPECTED_TEAMS`. -/
def coreSnapshotExpectedTeams : ℕ := 20

/-- `CORE_SNAPSHOT_EXPECTED_FIXTURES`. -/
def coreSnapshotExpectedFixtures : ℕ := 380

/-- A `ValidationError` with the numbers it names. -/
structure SnapshotRejection extends ValidationError where
  details : Option (List (String × ℕ))
  deriving DecidableEq

/-- The error that `reject` throws. -/
def snapshotRejection (reason : String) (details : Option (List (String × ℕ))) :
    SnapshotRejection where
  message := "Core snapshot rejected: " ++ reason
  code := "CORE_SNAPSHOT_INCOMPLETE"
  details := details

/-- `requireExactCount`. -/
def requireExactCount (label : String) (actual expected : ℕ) : Except SnapshotRejection Unit :=
  throwIf (actual ≠ expected)
    (snapshotRejection (label ++ " count") (some [("actual", actual), ("expected", expected)]))

/-- `requireUniqueIds`. -/
def requireUniqueIds (label : String) (ids : List ℕ) : Except SnapshotRejection Unit :=
  throwIf (setSize ids ≠ ids.length)
    (snapshotRejection (label ++ " identifiers are not unique")
      (some [("actual", ids.length), ("unique", setSize ids)]))

/-- `requireCompleteEventRange`. -/
def requireCompleteEventRange (events : List Event) : Except SnapshotRejection Unit :=
  (List.range' 1 coreSnapshotExpectedEvents).forM fun eventId =>
    throwIf (eventId ∉ events.map (·.id)) (snapshotRejection "event range is incomplete" none)

/-- The checks of `prepareCoreSnapshot` on the events of a season. -/
def requireEvents (events : List Event) : Except SnapshotRejection Unit := do
  requireExactCount "events" events.length coreSnapshotExpectedEvents
  requireUniqueIds "event" (events.map (·.id))
  requireCompleteEventRange events

/-- A `Set` of ids, in the order in which they were added. -/
structure IdSet where
  ids : List ℕ
  distinct : ids.Nodup

/-- The games of a pairing at the home of its lower and of its upper team. -/
structure PairingCounts where
  lowerHome : ℕ
  upperHome : ℕ
  deriving DecidableEq

/-- What the loop of `requireFixtureCoverage` counts. -/
structure FixtureCounts where
  appearances : KeyedTable ℕ ℕ
  pairings : KeyedTable String PairingCounts

/-- The key of a pairing. -/
def pairingKey (pair : ℕ × ℕ) : String := pair.1.repr ++ ":" ++ pair.2.repr

/-- Before the loop every team has appeared in no fixture. -/
def noFixtures (teamIds : IdSet) : FixtureCounts where
  appearances := ⟨teamIds.ids.map fun teamId => (teamId, 0), by
    simpa [Function.comp_def] using teamIds.distinct⟩
  pairings := .empty

/-- One more appearance of a team. -/
def appear (appearances : KeyedTable ℕ ℕ) (teamId : ℕ) : KeyedTable ℕ ℕ :=
  appearances.upsert teamId ((appearances.find teamId).getD 0 + 1)

/-- The body of the loop of `requireFixtureCoverage`. -/
def coverFixture (teamIds : IdSet) (counts : FixtureCounts) (fixture : Fixture) :
    Except SnapshotRejection FixtureCounts := do
  throwIf (fixture.teamH ∉ teamIds.ids ∨ fixture.teamA ∉ teamIds.ids)
    (snapshotRejection "fixture references an unknown team" none)
  throwIf (fixture.teamH = fixture.teamA)
    (snapshotRejection "fixture has the same home and away team" none)
  throwIf (∃ event ∈ fixture.event, event < 1 ∨ coreSnapshotExpectedEvents < event)
    (snapshotRejection "fixture event is outside 1-38" none)
  let lower := min fixture.teamH fixture.teamA
  let upper := max fixture.teamH fixture.teamA
  let pairing := (counts.pairings.find (pairingKey (lower, upper))).getD ⟨0, 0⟩
  return {
    appearances := appear (appear counts.appearances fixture.teamH) fixture.teamA
    pairings := counts.pairings.upsert (pairingKey (lower, upper))
      (if fixture.teamH = lower then { pairing with lowerHome := pairing.lowerHome + 1 }
      else { pairing with upperHome := pairing.upperHome + 1 }) }

/-- `requireFixtureCoverage`. -/
def requireFixtureCoverage (fixtures : List Fixture) (teamIds : IdSet) :
    Except SnapshotRejection Unit := do
  requireExactCount "fixtures" fixtures.length coreSnapshotExpectedFixtures
  requireUniqueIds "fixture" (fixtures.map (·.id))
  let counts ← fixtures.foldlM (coverFixture teamIds) (noFixtures teamIds)
  counts.appearances.entries.forM fun entry =>
    throwIf (entry.2 ≠ coreSnapshotExpectedEvents)
      (snapshotRejection "team fixture coverage is incomplete"
        (some [("actual", entry.2), ("expected", coreSnapshotExpectedEvents)]))
  let expectedPairings := teamIds.ids.length * (teamIds.ids.length - 1) / 2
  throwIf (counts.pairings.entries.length ≠ expectedPairings)
    (snapshotRejection "fixture opponent pair coverage is incomplete"
      (some [("actual", counts.pairings.entries.length), ("expected", expectedPairings)]))
  counts.pairings.entries.forM fun entry =>
    throwIf (entry.2.lowerHome ≠ 1 ∨ entry.2.upperHome ≠ 1)
      (snapshotRejection "fixture home-and-away pairing is invalid" none)

/-! ### What the loop counts -/

/-- The teams of a fixture, home team first. -/
def game (fixture : Fixture) : ℕ × ℕ := (fixture.teamH, fixture.teamA)

/-- Two different known teams and an event of the season, if any. -/
structure ValidFixture (teamIds : IdSet) (fixture : Fixture) : Prop where
  home : fixture.teamH ∈ teamIds.ids
  away : fixture.teamA ∈ teamIds.ids
  different : fixture.teamH ≠ fixture.teamA
  event : ∀ event, fixture.event = some event → 1 ≤ event ∧ event ≤ 38

/-- How often a team plays. -/
def appearancesOf (games : List (ℕ × ℕ)) (teamId : ℕ) : ℕ :=
  games.countP (fun game => game.1 = teamId) + games.countP fun game => game.2 = teamId

/-- The counts after some games. -/
structure CountsOf (teamIds : IdSet) (games : List (ℕ × ℕ)) (counts : FixtureCounts) : Prop where
  appearances : ∀ teamId, counts.appearances.find teamId =
    if teamId ∈ teamIds.ids then some (appearancesOf games teamId) else none
  pairings : ∀ pair, counts.pairings.find (pairingKey pair) =
    if pair ∈ games.map pairing then some ⟨games.count pair, games.count pair.swap⟩ else none
  keys : ∀ key, counts.pairings.find key ≠ none → ∃ pair ∈ games.map pairing, key = pairingKey pair

/-- Different pairings have different keys. -/
theorem pairingKey_injective : Function.Injective pairingKey := by
  intro left right h
  have htexts := congrArg String.toList h
  simp only [pairingKey, String.toList_append, List.append_assoc] at htexts
  obtain ⟨hlower, hupper⟩ := repr_append_injective (by decide) htexts
  exact Prod.ext hlower (Nat.repr_injective (String.toList_inj.mp hupper))

/-- A fixture passes the checks of the loop exactly when it is valid. -/
theorem coverFixture_eq_ok {teamIds : IdSet} {counts next : FixtureCounts} {fixture : Fixture} :
    coverFixture teamIds counts fixture = .ok next ↔
      ValidFixture teamIds fixture ∧
        next.appearances = appear (appear counts.appearances fixture.teamH) fixture.teamA ∧
        next.pairings = counts.pairings.upsert (pairingKey (pairing (game fixture)))
          (let present := (counts.pairings.find (pairingKey (pairing (game fixture)))).getD ⟨0, 0⟩
          if fixture.teamH = (pairing (game fixture)).1 then
            { present with lowerHome := present.lowerHome + 1 }
          else { present with upperHome := present.upperHome + 1 }) := by
  unfold coverFixture
  simp only [throwIf_bind_eq_ok, pure, Except.pure, Except.ok.injEq]
  obtain ⟨appearances, pairings⟩ := next
  simp only [FixtureCounts.mk.injEq]
  constructor
  · rintro ⟨hteams, hdifferent, hevent, rfl, rfl⟩
    rw [not_or, not_not, not_not] at hteams
    refine ⟨⟨hteams.1, hteams.2, hdifferent, fun event hsome => ?_⟩, rfl, rfl⟩
    have := mt (fun h => ⟨event, hsome, h⟩) hevent
    unfold coreSnapshotExpectedEvents at this
    omega
  · rintro ⟨h, rfl, rfl⟩
    refine ⟨by simp [h.home, h.away], h.different, ?_, rfl, rfl⟩
    rintro ⟨event, hsome, hrange⟩
    have := h.event event hsome
    unfold coreSnapshotExpectedEvents at hrange
    omega

/-- A known team appears once more. -/
theorem find_appear {appearances : KeyedTable ℕ ℕ} {ids : List ℕ} {count : ℕ → ℕ} {teamId : ℕ}
    (hteam : teamId ∈ ids)
    (h : ∀ other, appearances.find other = if other ∈ ids then some (count other) else none)
    (other : ℕ) : (appear appearances teamId).find other =
      if other ∈ ids then some (count other + if teamId = other then 1 else 0) else none := by
  rw [appear, KeyedTable.find_upsert, h, if_pos hteam, Option.getD_some]
  by_cases hother : other = teamId
  · subst hother
    simp [hteam]
  · rw [if_neg hother, h, if_neg (Ne.symm hother), Nat.add_zero]

/-- A pairing without games has no counts. -/
theorem count_eq_zero_of_pairing {games : List (ℕ × ℕ)} {pair : ℕ × ℕ}
    (hnone : pairing pair ∉ games.map pairing) :
    games.count pair = 0 ∧ games.count pair.swap = 0 := by
  have hzero : ∀ other, pairing other = pairing pair → games.count other = 0 := fun other heq =>
    List.count_eq_zero_of_not_mem fun hmem => hnone (heq ▸ List.mem_map_of_mem hmem)
  exact ⟨hzero pair rfl, hzero pair.swap (pairing_swap pair)⟩

/-- Before the loop nothing has been counted. -/
theorem countsOf_noFixtures (teamIds : IdSet) : CountsOf teamIds [] (noFixtures teamIds) where
  appearances := by
    intro teamId
    refine Option.ext fun count => ?_
    rw [← KeyedTable.mem_entries_iff]
    simp only [noFixtures, List.mem_map, Prod.mk.injEq, appearancesOf, List.countP_nil]
    split
    next hmem => simp [hmem]
    next hnot => simp [hnot]
  pairings _ := rfl
  keys _ h := absurd rfl h

/-- A valid fixture is counted. -/
theorem CountsOf.cover {teamIds : IdSet} {games : List (ℕ × ℕ)} {counts next : FixtureCounts}
    (h : CountsOf teamIds games counts) {fixture : Fixture}
    (hnext : coverFixture teamIds counts fixture = .ok next) :
    CountsOf teamIds (games ++ [game fixture]) next := by
  obtain ⟨hvalid, happearances, hpairings⟩ := coverFixture_eq_ok.mp hnext
  refine ⟨fun teamId => ?_, fun pair => ?_, fun key hkey => ?_⟩
  · rw [happearances, find_appear hvalid.away (find_appear hvalid.home h.appearances)]
    simp only [appearancesOf, List.countP_append, List.countP_singleton, game, decide_eq_true_eq]
    congr 2
    omega
  · rw [hpairings, KeyedTable.find_upsert]
    by_cases hsame : pair = pairing (game fixture)
    · have hpresent : ((counts.pairings.find (pairingKey (pairing (game fixture)))).getD ⟨0, 0⟩) =
          ⟨games.count pair, games.count pair.swap⟩ := by
        rw [h.pairings, ← hsame]
        split
        next => rfl
        next hnone =>
          rw [hsame, ← pairing_pairing, ← hsame] at hnone
          rw [(count_eq_zero_of_pairing hnone).1, (count_eq_zero_of_pairing hnone).2]
          rfl
      have hhome : (game fixture = pair) = (fixture.teamH = pair.1) := by
        rw [hsame]
        exact propext (eq_pairing_iff (game fixture))
      have haway : (game fixture = pair.swap) = (fixture.teamH ≠ pair.1) := by
        rw [hsame]
        exact propext (eq_swap_iff hvalid.different)
      have hmem : pair ∈ (games ++ [game fixture]).map pairing := by simp [hsame]
      rw [if_pos (congrArg pairingKey hsame), hpresent, ← hsame, if_pos hmem]
      simp only [List.count_append, List.count_singleton, beq_iff_eq, hhome, haway]
      by_cases hlower : fixture.teamH = pair.1
      · simp [hlower]
      · simp [hlower]
    · have hkey : pairingKey pair ≠ pairingKey (pairing (game fixture)) :=
        fun heq => hsame (pairingKey_injective heq)
      have hmem : pair ∈ (games ++ [game fixture]).map pairing ↔ pair ∈ games.map pairing := by
        simp [hsame]
      rw [if_neg hkey, h.pairings]
      simp only [hmem]
      by_cases hplayed : pair ∈ games.map pairing
      · obtain ⟨other, -, hother⟩ := List.mem_map.mp hplayed
        have hpair : pairing pair = pair := by rw [← hother, pairing_pairing]
        have hhome : game fixture ≠ pair := fun heq => hsame (by rw [heq, hpair])
        have haway : game fixture ≠ pair.swap := fun heq => hsame (by rw [heq, pairing_swap, hpair])
        simp [hhome, haway]
      · rw [if_neg hplayed, if_neg hplayed]
  · rw [hpairings, KeyedTable.find_upsert] at hkey
    by_cases hnew : key = pairingKey (pairing (game fixture))
    · exact ⟨pairing (game fixture), by simp, hnew⟩
    · rw [if_neg hnew] at hkey
      obtain ⟨pair, hpair, heq⟩ := h.keys key hkey
      exact ⟨pair, by simp only [List.map_append]; exact List.mem_append_left _ hpair, heq⟩

/-- The loop counts valid fixtures, and throws at any other. -/
theorem coverFixtures_eq_ok {teamIds : IdSet} {fixtures : List Fixture} :
    (∀ last, fixtures.foldlM (coverFixture teamIds) (noFixtures teamIds) = .ok last →
        CountsOf teamIds (fixtures.map game) last) ∧
      ((∃ last, fixtures.foldlM (coverFixture teamIds) (noFixtures teamIds) = .ok last) ↔
        ∀ fixture ∈ fixtures, ValidFixture teamIds fixture) := by
  have hrun : ∀ (games : List (ℕ × ℕ)) (counts : FixtureCounts), CountsOf teamIds games counts →
      (∀ last, fixtures.foldlM (coverFixture teamIds) counts = .ok last →
        CountsOf teamIds (games ++ fixtures.map game) last) ∧
      ((∃ last, fixtures.foldlM (coverFixture teamIds) counts = .ok last) ↔
        ∀ fixture ∈ fixtures, ValidFixture teamIds fixture) := by
    induction fixtures with
    | nil =>
      intro games counts h
      simpa [pure, Except.pure] using h
    | cons fixture fixtures ih =>
      intro games counts h
      rw [List.foldlM_cons]
      refine ⟨fun last hlast => ?_, ?_⟩
      · obtain ⟨next, hnext, hrest⟩ := bind_eq_ok.mp hlast
        have hcounts := (ih _ next (h.cover hnext)).1 last hrest
        rwa [List.append_assoc] at hcounts
      · rw [List.forall_mem_cons]
        constructor
        · rintro ⟨last, hlast⟩
          obtain ⟨next, hnext, hrest⟩ := bind_eq_ok.mp hlast
          exact ⟨(coverFixture_eq_ok.mp hnext).1, (ih _ next (h.cover hnext)).2.mp ⟨last, hrest⟩⟩
        · rintro ⟨hvalid, hothers⟩
          obtain ⟨next, hnext⟩ : ∃ next, coverFixture teamIds counts fixture = .ok next :=
            ⟨⟨_, _⟩, coverFixture_eq_ok.mpr ⟨hvalid, rfl, rfl⟩⟩
          obtain ⟨last, hrest⟩ := (ih _ _ (h.cover hnext)).2.mpr hothers
          exact ⟨last, bind_eq_ok.mpr ⟨_, hnext, hrest⟩⟩
  exact hrun [] _ (countsOf_noFixtures teamIds)

/-- There are as many counters as pairings that played. -/
theorem CountsOf.length_pairings {teamIds : IdSet} {games : List (ℕ × ℕ)} {counts : FixtureCounts}
    (h : CountsOf teamIds games counts) :
    counts.pairings.entries.length = (games.map pairing).toFinset.card := by
  rw [← Finset.card_image_of_injective _ pairingKey_injective,
    ← List.toFinset_card_of_nodup counts.pairings.distinct |>.trans (List.length_map Prod.fst)]
  congr 1
  ext key
  rw [List.mem_toFinset, ← not_iff_not, ← KeyedTable.find_eq_none_iff, Finset.mem_image]
  constructor
  · rintro hnone ⟨pair, hpair, rfl⟩
    rw [h.pairings, if_pos (List.mem_toFinset.mp hpair)] at hnone
    exact Option.some_ne_none _ hnone
  · intro hnot
    by_contra hkey
    obtain ⟨pair, hpair, rfl⟩ := h.keys key hkey
    exact hnot ⟨pair, List.mem_toFinset.mpr hpair, rfl⟩

/-- The counters are right exactly when every pairing that played did so at either home once. -/
theorem CountsOf.once_iff {teamIds : IdSet} {games : List (ℕ × ℕ)} {counts : FixtureCounts}
    (h : CountsOf teamIds games counts) :
    (∀ entry ∈ counts.pairings.entries, entry.2.lowerHome = 1 ∧ entry.2.upperHome = 1) ↔
      ∀ game ∈ games, games.count (pairing game) = 1 ∧ games.count (pairing game).swap = 1 := by
  constructor
  · intro hall game hgame
    have hmem : pairing game ∈ games.map pairing := List.mem_map_of_mem hgame
    have hfind := h.pairings (pairing game)
    rw [if_pos hmem] at hfind
    exact hall _ (KeyedTable.mem_entries_iff.mpr hfind)
  · rintro hall ⟨key, count⟩ hentry
    have hfind := KeyedTable.mem_entries_iff.mp hentry
    obtain ⟨pair, hpair, rfl⟩ := h.keys key (hfind ▸ Option.some_ne_none count)
    rw [h.pairings, if_pos hpair] at hfind
    obtain ⟨game, hgame, rfl⟩ := List.mem_map.mp hpair
    rw [← Option.some.inj hfind]
    exact hall game hgame

/-- The appearances are right exactly when every team plays 38 times. -/
theorem CountsOf.appearances_iff {teamIds : IdSet} {games : List (ℕ × ℕ)} {counts : FixtureCounts}
    (h : CountsOf teamIds games counts) :
    (∀ entry ∈ counts.appearances.entries, entry.2 = 38) ↔
      ∀ teamId ∈ teamIds.ids, appearancesOf games teamId = 38 := by
  constructor
  · intro hall teamId hteam
    have hfind := h.appearances teamId
    rw [if_pos hteam] at hfind
    exact hall _ (KeyedTable.mem_entries_iff.mpr hfind)
  · rintro hall ⟨teamId, count⟩ hentry
    have hfind := KeyedTable.mem_entries_iff.mp hentry
    rw [h.appearances] at hfind
    split at hfind
    next hteam =>
      rw [← Option.some.inj hfind]
      exact hall teamId hteam
    next => exact absurd hfind.symm (Option.some_ne_none _)

/-- The checks count 380 fixtures, 38 appearances of each team and every pairing at either home. -/
theorem requireFixtureCoverage_eq_ok {fixtures : List Fixture} {teamIds : IdSet} :
    requireFixtureCoverage fixtures teamIds = .ok () ↔
      fixtures.length = 380 ∧ (fixtures.map (·.id)).Nodup ∧
        (∀ fixture ∈ fixtures, ValidFixture teamIds fixture) ∧
        (∀ teamId ∈ teamIds.ids, appearancesOf (fixtures.map game) teamId = 38) ∧
        ((fixtures.map game).map pairing).toFinset.card =
          teamIds.ids.length * (teamIds.ids.length - 1) / 2 ∧
        ∀ played ∈ fixtures.map game, (fixtures.map game).count (pairing played) = 1 ∧
          (fixtures.map game).count (pairing played).swap = 1 := by
  obtain ⟨hcounts, hvalid⟩ := @coverFixtures_eq_ok teamIds fixtures
  unfold requireFixtureCoverage requireExactCount requireUniqueIds
  simp only [throwIf_bind_eq_ok, not_not, setSize_eq_length_iff]
  unfold coreSnapshotExpectedFixtures coreSnapshotExpectedEvents
  refine and_congr_right fun _ => and_congr_right fun _ => ?_
  rw [← hvalid, bind_eq_ok]
  constructor
  · rintro ⟨counts, hrun, hchecks⟩
    have h := hcounts counts hrun
    obtain ⟨_, happearances, hchecks⟩ := bind_eq_ok.mp hchecks
    rw [throwIf_bind_eq_ok, not_not] at hchecks
    obtain ⟨hpairings, honce⟩ := hchecks
    rw [forM_eq_ok] at happearances honce
    simp only [throwIf_eq_ok, not_not, not_or] at happearances honce
    exact ⟨⟨counts, hrun⟩, h.appearances_iff.mp happearances, h.length_pairings ▸ hpairings,
      h.once_iff.mp honce⟩
  · rintro ⟨⟨counts, hrun⟩, happearances, hpairings, honce⟩
    have h := hcounts counts hrun
    refine ⟨counts, hrun, bind_eq_ok.mpr ⟨(), ?_,
      throwIf_bind_eq_ok.mpr ⟨not_not.mpr (h.length_pairings ▸ hpairings), ?_⟩⟩⟩
    · rw [forM_eq_ok]
      simpa only [throwIf_eq_ok, not_not] using h.appearances_iff.mpr happearances
    · rw [forM_eq_ok]
      simpa only [throwIf_eq_ok, not_not, not_or] using h.once_iff.mpr honce

/-- The events that pass the checks are 38, with the ids from 1 to 38. -/
theorem requireEvents_eq_ok {events : List Event} :
    requireEvents events = .ok () ↔ events.length = 38 ∧
      ∀ eventId, (∃ event ∈ events, event.id = eventId) ↔ 1 ≤ eventId ∧ eventId ≤ 38 := by
  have hcard : events.length = 38 ↔ (events.map (·.id)).length = (Finset.Icc 1 38).card := by simp
  unfold requireEvents requireExactCount requireUniqueIds requireCompleteEventRange
  simp only [throwIf_bind_eq_ok, not_not, forM_eq_ok, throwIf_eq_ok]
  unfold coreSnapshotExpectedEvents
  refine and_congr_right fun hlength => ?_
  simp only [← List.mem_map, List.mem_range'_1]
  constructor
  · rintro ⟨-, hrange⟩ eventId
    have hsubset : Finset.Icc 1 38 ⊆ (events.map (·.id)).toFinset := by
      intro id hid
      rw [Finset.mem_Icc] at hid
      exact List.mem_toFinset.mpr (hrange id ⟨hid.1, by omega⟩)
    have hle := (List.toFinset_card_le _).trans (hcard.mp hlength).le
    rw [← List.mem_toFinset, ← Finset.eq_of_subset_of_card_le hsubset hle, Finset.mem_Icc]
  · intro hids
    refine ⟨?_, fun eventId hrange => (hids eventId).mpr ⟨hrange.1, by omega⟩⟩
    have hall : (events.map (·.id)).toFinset = Finset.Icc 1 38 := by
      ext eventId
      rw [List.mem_toFinset, hids, Finset.mem_Icc]
    rw [setSize, ← List.card_toFinset, hall]
    exact (hcard.mp hlength).symm

/-- The check accepts exactly the double round robins of twenty teams over 38 events. -/
theorem requireFixtureCoverage_ok_iff {fixtures : List Fixture} {teamIds : IdSet} :
    requireFixtureCoverage fixtures teamIds = .ok () ↔
      teamIds.ids.length = coreSnapshotExpectedTeams ∧ (fixtures.map (·.id)).Nodup ∧
        (∀ fixture ∈ fixtures, fixture.teamH ∈ teamIds.ids ∧ fixture.teamA ∈ teamIds.ids ∧
          fixture.teamH ≠ fixture.teamA) ∧
        (∀ home ∈ teamIds.ids, ∀ away ∈ teamIds.ids, home ≠ away →
          (fixtures.map game).count (home, away) = 1) ∧
        ∀ fixture ∈ fixtures, ∀ event, fixture.event = some event → 1 ≤ event ∧ event ≤ 38 := by
  have hcard : teamIds.ids.toFinset.card = teamIds.ids.length :=
    List.toFinset_card_of_nodup teamIds.distinct
  have hbetween : (∀ fixture ∈ fixtures, ValidFixture teamIds fixture) →
      ∀ played ∈ fixtures.map game, played ∈ teamIds.ids.toFinset.offDiag := by
    intro hvalid played hplayed
    obtain ⟨fixture, hfixture, rfl⟩ := List.mem_map.mp hplayed
    have h := hvalid fixture hfixture
    simpa [game] using ⟨h.home, h.away, h.different⟩
  rw [requireFixtureCoverage_eq_ok]
  constructor
  · rintro ⟨hlength, hids, hvalid, -, hpairings, honce⟩
    rw [← hcard] at hpairings
    have hround := (doubleRoundRobin_iff_pairings (hbetween hvalid)).mpr ⟨hpairings, honce⟩
    have hall := hround.length_eq
    rw [List.length_map, hlength, hcard] at hall
    refine ⟨?_, hids, fun fixture hfixture => ?_, fun home hhome away haway hne => ?_,
      fun fixture hfixture => (hvalid fixture hfixture).event⟩
    · -- 380 games are those of twenty teams
      unfold coreSnapshotExpectedTeams
      rcases lt_trichotomy teamIds.ids.length 20 with hless | heq | hmore
      · interval_cases teamIds.ids.length <;> omega
      · exact heq
      · have : teamIds.ids.length * 20 ≤ teamIds.ids.length * (teamIds.ids.length - 1) :=
          Nat.mul_le_mul_left _ (by omega)
        rw [Nat.mul_sub, Nat.mul_one] at this
        omega
    · have h := hvalid fixture hfixture
      exact ⟨h.home, h.away, h.different⟩
    · exact hround.once _ (by simpa using ⟨hhome, haway, hne⟩)
  · rintro ⟨hteams, hids, hknown, honce, hevent⟩
    have hvalid : ∀ fixture ∈ fixtures, ValidFixture teamIds fixture := fun fixture hfixture =>
      ⟨(hknown fixture hfixture).1, (hknown fixture hfixture).2.1, (hknown fixture hfixture).2.2,
        hevent fixture hfixture⟩
    have hround : DoubleRoundRobin teamIds.ids.toFinset (fixtures.map game) := by
      refine ⟨hbetween hvalid, fun played hplayed => ?_⟩
      obtain ⟨hhome, haway, hne⟩ := Finset.mem_offDiag.mp hplayed
      exact honce played.1 (List.mem_toFinset.mp hhome) played.2 (List.mem_toFinset.mp haway) hne
    unfold coreSnapshotExpectedTeams at hteams
    have hlength := hround.length_eq
    rw [List.length_map, hcard, hteams] at hlength
    obtain ⟨hpairings, htwice⟩ := (doubleRoundRobin_iff_pairings hround.between).mp hround
    refine ⟨hlength, hids, hvalid, fun teamId hteam => ?_, hcard ▸ hpairings, htwice⟩
    rw [appearancesOf, hround.home_eq (List.mem_toFinset.mpr hteam),
      hround.away_eq (List.mem_toFinset.mpr hteam), hcard, hteams]

/-- The check of the fixtures accepts the double round robins of twenty teams over the events from
1 to 38, and nothing else. The events of a snapshot are these. -/
theorem requireFixtureCoverage_iff (fixtures : List Fixture) (teamIds : IdSet) :
    (requireFixtureCoverage fixtures teamIds = .ok () ↔
      teamIds.ids.length = coreSnapshotExpectedTeams ∧ (fixtures.map (·.id)).Nodup ∧
        (∀ fixture ∈ fixtures, fixture.teamH ∈ teamIds.ids ∧ fixture.teamA ∈ teamIds.ids ∧
          fixture.teamH ≠ fixture.teamA) ∧
        (∀ home ∈ teamIds.ids, ∀ away ∈ teamIds.ids, home ≠ away →
          (fixtures.map game).count (home, away) = 1) ∧
        ∀ fixture ∈ fixtures, ∀ event, fixture.event = some event → 1 ≤ event ∧ event ≤ 38) ∧
      ∀ events, requireEvents events = .ok () ↔ events.length = coreSnapshotExpectedEvents ∧
        ∀ eventId, (∃ event ∈ events, event.id = eventId) ↔ 1 ≤ eventId ∧ eventId ≤ 38 :=
  ⟨requireFixtureCoverage_ok_iff, fun _ => requireEvents_eq_ok⟩

/-- A fixture of two teams that has no event yet. -/
def openFixture (id code : ℕ) (teams : ℕ × ℕ) : Fixture where
  id := id
  code := code
  event := none
  finished := false
  finishedProvisional := false
  kickoffTime := none
  minutes := 0
  provisionalStartTime := false
  started := some false
  teamA := teams.2
  teamAScore := none
  teamH := teams.1
  teamHScore := none
  stats := []
  teamHDifficulty := none
  teamADifficulty := none
  pulseId := id
  createdAt := none
  updatedAt := none

/-- The double round robin of twenty teams, with one code for all fixtures. -/
def sameCodeFixtures : List Fixture :=
  ((List.range 20 ×ˢ List.range 20).filter fun teams => teams.1 ≠ teams.2).map fun teams =>
    openFixture (20 * teams.1 + teams.2) 1 teams

/-- Codes are not compared. -/
theorem requireFixtureCoverage_sameCode :
    requireFixtureCoverage sameCodeFixtures ⟨List.range 20, List.nodup_range⟩ = .ok () := by
  have hdistinct : ((List.range 20 ×ˢ List.range 20).filter fun teams => teams.1 ≠ teams.2).Nodup :=
    (List.nodup_range.product List.nodup_range).filter _
  have hgames : sameCodeFixtures.map game =
      (List.range 20 ×ˢ List.range 20).filter fun teams => teams.1 ≠ teams.2 := by
    rw [sameCodeFixtures, List.map_map]
    exact List.map_id _
  have hteams : ∀ fixture ∈ sameCodeFixtures, ∃ teams : ℕ × ℕ,
      (teams.1 < 20 ∧ teams.2 < 20) ∧ teams.1 ≠ teams.2 ∧
        openFixture (20 * teams.1 + teams.2) 1 teams = fixture := by
    intro fixture hfixture
    simpa [sameCodeFixtures, and_assoc] using hfixture
  refine requireFixtureCoverage_ok_iff.mpr
    ⟨List.length_range, ?_, fun fixture hfixture => ?_, ?_, fun fixture hfixture event hevent => ?_⟩
  · rw [sameCodeFixtures, List.map_map]
    refine List.Nodup.map_on ?_ hdistinct
    rintro ⟨home, away⟩ hleft ⟨otherHome, otherAway⟩ hright heq
    have hleft : home < 20 ∧ away < 20 := by simpa using (List.mem_filter.mp hleft).1
    have hright : otherHome < 20 ∧ otherAway < 20 := by simpa using (List.mem_filter.mp hright).1
    have heq : 20 * home + away = 20 * otherHome + otherAway := heq
    exact Prod.ext (by omega) (by omega)
  · obtain ⟨teams, hrange, hne, rfl⟩ := hteams fixture hfixture
    simpa [openFixture] using ⟨hrange.1, hrange.2, hne⟩
  · intro home hhome away haway hne
    rw [hgames]
    refine List.count_eq_one_of_mem hdistinct ?_
    simpa using ⟨⟨List.mem_range.mp hhome, List.mem_range.mp haway⟩, hne⟩
  · obtain ⟨teams, -, -, rfl⟩ := hteams fixture hfixture
    exact absurd hevent (Option.some_ne_none event).symm

/-- A complete double round robin of two teams is not accepted, and one of twenty teams is in
spite of fixtures with the same code. -/
theorem round_robin_counterexamples :
    (¬ ∀ (fixtures : List Fixture) (teamIds : IdSet) (events : List ℕ),
      requireFixtureCoverage fixtures teamIds = .ok () ↔
        (fixtures.map (·.id)).Nodup ∧ (fixtures.map (·.code)).Nodup ∧
          (∀ fixture ∈ fixtures, fixture.teamH ∈ teamIds.ids ∧ fixture.teamA ∈ teamIds.ids ∧
            fixture.teamH ≠ fixture.teamA) ∧
          (∀ home ∈ teamIds.ids, ∀ away ∈ teamIds.ids, home ≠ away →
            (fixtures.map game).count (home, away) = 1) ∧
          ∀ fixture ∈ fixtures, ∀ event, fixture.event = some event → event ∈ events) ∧
      requireFixtureCoverage sameCodeFixtures ⟨List.range 20, List.nodup_range⟩ = .ok () ∧
      ¬ (sameCodeFixtures.map (·.code)).Nodup := by
  refine ⟨fun h => ?_, requireFixtureCoverage_sameCode, ?_⟩
  · have htwo := (h [openFixture 1 1 (1, 2), openFixture 2 2 (2, 1)] ⟨[1, 2], by decide⟩ []).mpr
      ⟨by decide, by decide, by decide, by decide, by simp [openFixture]⟩
    exact absurd (requireFixtureCoverage_eq_ok.mp htwo).1 (by decide)
  · intro hcodes
    have hsame := List.inj_on_of_nodup_map hcodes
      (List.mem_map.mpr ⟨(0, 1), by simp, rfl⟩ : openFixture 1 1 (0, 1) ∈ sameCodeFixtures)
      (List.mem_map.mpr ⟨(1, 0), by simp, rfl⟩ : openFixture 20 1 (1, 0) ∈ sameCodeFixtures) rfl
    exact absurd hsame (by decide)

end LetletmeData
