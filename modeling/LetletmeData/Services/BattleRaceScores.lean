import LetletmeData.Services.BattleRaceCounters

/-!
# Scores of a battle race

The tables of a local battle race, and the scores its pairings settle to. A pairing settles
with the results of its own event, whatever scores it had before.
-/

namespace LetletmeData

open LetletmeData.Library

/-- A pairing with the scores that the results of its event give it. -/
def BattleGroupResult.settled (results : List EntryEventResult) (entryIds : List ℕ)
    (row : BattleGroupResult) : BattleGroupResult :=
  (scoreBattleResult results entryIds row.eventId row).getD row

/-- A pairing between two entries of one group, drawn by this service. -/
structure LocalPairing (tournamentId : ℕ) (groupKeys : List (ℕ × ℕ × ℕ))
    (row : BattleGroupResult) : Prop where
  unofficial : row.officialMatchId = none
  opponents : ∃ home away, row.homeEntryId = some home ∧ row.awayEntryId = some away ∧
    home ≠ away ∧ (tournamentId, row.groupId, home) ∈ groupKeys ∧
    (tournamentId, row.groupId, away) ∈ groupKeys

/-- The tables of a local battle race: pairings between members of a group, each of them
without scores or with those of its results. -/
structure LocalBattleRace (tournament : TournamentConfig) (entryIds : List ℕ)
    (results : List EntryEventResult) (state : BattleRaceState) : Prop where
  groupKeys : (state.groups.map GroupRow.key).Nodup
  members : ∀ group ∈ state.groups, IsMemberRow tournament entryIds group
  battleKeys : (state.battleResults.map BattleGroupResult.key).Nodup
  pairings : ∀ row ∈ state.battleResults,
    LocalPairing tournament.id (state.groups.map GroupRow.key) row
  scores : ∀ row ∈ state.battleResults,
    row = row.cleared ∨ row = row.settled results entryIds

/-- Whether the tournament has pairings in an event and some of its entries have results. -/
def InPlay (results : List EntryEventResult) (entryIds : List ℕ) (state : BattleRaceState)
    (eventId : ℕ) : Prop :=
  (∃ row ∈ state.battleResults, row.eventId = eventId) ∧
    ∃ result ∈ results, result.eventId = eventId ∧ result.entryId ∈ entryIds

/-- Whether both entries of a pairing have results in its event. -/
def BattleGroupResult.HasResults (results : List EntryEventResult) (entryIds : List ℕ)
    (row : BattleGroupResult) : Prop :=
  ∃ home away, row.homeEntryId = some home ∧ row.awayEntryId = some away ∧
    (memberResult results entryIds row.eventId home).isSome ∧
    (memberResult results entryIds row.eventId away).isSome

/-- Pairings that differ only in their scores agree on every other column. -/
theorem eq_of_cleared_eq {Column : Type} {column : BattleGroupResult → Column}
    {left right : BattleGroupResult} (hcolumn : ∀ row, column row.cleared = column row)
    (h : left.cleared = right.cleared) : column left = column right := by
  rw [← hcolumn left, h, hcolumn right]

/-- Upserting a pairing over one that differs only in its scores leaves the new one. -/
theorem merge_eq_of_cleared_eq {left right : BattleGroupResult} (h : left.cleared = right.cleared) :
    left.merge right = right := by
  cases left
  cases right
  simp only [BattleGroupResult.cleared, BattleGroupResult.mk.injEq] at h
  simp [BattleGroupResult.merge, h]

section Scores

variable {results : List EntryEventResult} {entryIds : List ℕ} {row : BattleGroupResult}
  {tournamentId : ℕ} {groupKeys : List (ℕ × ℕ × ℕ)}

/-- The settled form of a local pairing. -/
theorem LocalPairing.settled_eq (h : LocalPairing tournamentId groupKeys row) :
    ∃ home away, row.homeEntryId = some home ∧ row.awayEntryId = some away ∧
      scoreBattleResult results entryIds row.eventId row = some (row.settled results entryIds) ∧
      row.settled results entryIds =
        row.scored (memberResult results entryIds row.eventId home)
          (memberResult results entryIds row.eventId away) := by
  obtain ⟨home, away, hhome, haway, -⟩ := h.opponents
  have hscore : scoreBattleResult results entryIds row.eventId row =
      some (row.scored (memberResult results entryIds row.eventId home)
        (memberResult results entryIds row.eventId away)) := by
    simp only [scoreBattleResult, h.unofficial, hhome, haway]
  refine ⟨home, away, hhome, haway, ?_, ?_⟩
  · rw [BattleGroupResult.settled, hscore, Option.getD_some]
  · rw [BattleGroupResult.settled, hscore, Option.getD_some]

/-- Scoring changes nothing but the scores. -/
@[simp] theorem cleared_scored (homeResult awayResult : Option EntryEventResult) :
    (row.scored homeResult awayResult).cleared = row.cleared := by
  cases homeResult <;> cases awayResult <;> rfl

/-- The old scores do not matter. -/
@[simp] theorem scored_cleared (homeResult awayResult : Option EntryEventResult) :
    row.cleared.scored homeResult awayResult = row.scored homeResult awayResult := by
  cases homeResult <;> cases awayResult <;> rfl

/-- A scored pairing keeps its key. -/
theorem scoreBattleResult_key {eventId : ℕ} {old : BattleGroupResult}
    (h : scoreBattleResult results entryIds eventId old = some row) : row.key = old.key := by
  unfold scoreBattleResult at h
  split at h
  · obtain rfl := Option.some.inj h
    exact eq_of_cleared_eq (fun _ => rfl) (cleared_scored _ _)
  · exact absurd h (by simp)

/-- Settling changes nothing but the scores. -/
@[simp] theorem cleared_settled : (row.settled results entryIds).cleared = row.cleared := by
  unfold BattleGroupResult.settled scoreBattleResult
  split
  · rw [Option.getD_some, cleared_scored]
  · rfl

/-- Settling keeps the event. -/
@[simp] theorem settled_eventId : (row.settled results entryIds).eventId = row.eventId :=
  eq_of_cleared_eq (fun _ => rfl) cleared_settled

/-- A pairing that differs only in its scores is local as well. -/
theorem LocalPairing.of_cleared_eq {other : BattleGroupResult} (heq : other.cleared = row.cleared)
    (h : LocalPairing tournamentId groupKeys row) : LocalPairing tournamentId groupKeys other := by
  obtain ⟨home, away, hhome, haway, hdistinct, hslots⟩ := h.opponents
  have hgroup : other.groupId = row.groupId := eq_of_cleared_eq (fun _ => rfl) heq
  have hofficial : other.officialMatchId = row.officialMatchId :=
    eq_of_cleared_eq (fun _ => rfl) heq
  have hhomeEntry : other.homeEntryId = row.homeEntryId := eq_of_cleared_eq (fun _ => rfl) heq
  have hawayEntry : other.awayEntryId = row.awayEntryId := eq_of_cleared_eq (fun _ => rfl) heq
  exact
    { unofficial := hofficial.trans h.unofficial
      opponents := ⟨home, away, hhomeEntry.trans hhome, hawayEntry.trans haway, hdistinct,
        hgroup.symm ▸ hslots⟩ }

/-- Pairings that differ only in their scores settle alike. -/
theorem LocalPairing.settled_congr {other : BattleGroupResult} (heq : other.cleared = row.cleared)
    (h : LocalPairing tournamentId groupKeys row) :
    other.settled results entryIds = row.settled results entryIds := by
  obtain ⟨home, away, hhome, haway, -, hrow⟩ := h.settled_eq
  obtain ⟨home', away', hhome', haway', -, hother⟩ := (h.of_cleared_eq heq).settled_eq
  have hhomeEntry : other.homeEntryId = row.homeEntryId := eq_of_cleared_eq (fun _ => rfl) heq
  have hawayEntry : other.awayEntryId = row.awayEntryId := eq_of_cleared_eq (fun _ => rfl) heq
  have hevent : other.eventId = row.eventId := eq_of_cleared_eq (fun _ => rfl) heq
  obtain rfl : home' = home := Option.some.inj ((hhome'.symm.trans hhomeEntry).trans hhome)
  obtain rfl : away' = away := Option.some.inj ((haway'.symm.trans hawayEntry).trans haway)
  rw [hrow, hother, hevent, ← @scored_cleared other, heq, scored_cleared]

/-- A settled pairing is scored exactly when both of its entries have results. -/
theorem LocalPairing.settled_isScored_iff (h : LocalPairing tournamentId groupKeys row) :
    (row.settled results entryIds).isScored = true ↔ row.HasResults results entryIds := by
  obtain ⟨home, away, hhome, haway, -, hrow⟩ := @LocalPairing.settled_eq results entryIds _ _ _ h
  have hresults : row.HasResults results entryIds ↔
      (memberResult results entryIds row.eventId home).isSome ∧
        (memberResult results entryIds row.eventId away).isSome := by
    simp [BattleGroupResult.HasResults, hhome, haway]
  rw [hrow, hresults]
  cases memberResult results entryIds row.eventId home <;>
    cases memberResult results entryIds row.eventId away <;>
      simp [BattleGroupResult.scored, BattleGroupResult.cleared, BattleGroupResult.isScored]

/-- A local pairing without scores or with those of its results is fair. -/
theorem LocalPairing.fairPairing (h : LocalPairing tournamentId groupKeys row)
    (hscores : row = row.cleared ∨ row = row.settled results entryIds) : FairPairing row := by
  obtain ⟨home, away, hhome, haway, hdistinct, -⟩ := h.opponents
  refine
    { distinct := by rw [hhome, haway]; simpa using hdistinct
      present := fun _ => by simp [hhome, haway]
      points := fun hscored => ?_ }
  rcases hscores with hcleared | hsettled
  · rw [hcleared] at hscored
    exact absurd hscored (by simp [BattleGroupResult.cleared, BattleGroupResult.isScored])
  · obtain ⟨home, away, -, -, -, hrow⟩ := @LocalPairing.settled_eq results entryIds _ _ _ h
    rw [hsettled, hrow] at hscored ⊢
    cases hhomeResult : memberResult results entryIds row.eventId home with
    | none => simp [hhomeResult, BattleGroupResult.scored, BattleGroupResult.cleared,
        BattleGroupResult.isScored] at hscored
    | some homeResult =>
      cases hawayResult : memberResult results entryIds row.eventId away with
      | none => simp [hhomeResult, hawayResult, BattleGroupResult.scored,
          BattleGroupResult.cleared, BattleGroupResult.isScored] at hscored
      | some awayResult => exact ⟨homeResult.eventNetPoints, awayResult.eventNetPoints, rfl, rfl⟩

/-- Without results in its event, a pairing settles without scores. -/
theorem LocalPairing.settled_eq_cleared (h : LocalPairing tournamentId groupKeys row)
    (hnone : findByEventAndEntryIds results row.eventId entryIds = []) :
    row.settled results entryIds = row.cleared := by
  obtain ⟨home, away, -, -, -, hrow⟩ := @LocalPairing.settled_eq results entryIds _ _ _ h
  rw [hrow]
  simp [memberResult, hnone, BattleGroupResult.scored]

end Scores

end LetletmeData
