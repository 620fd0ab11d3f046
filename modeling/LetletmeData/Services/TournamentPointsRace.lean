import Mathlib
import LetletmeData.Domain.Tournament
import LetletmeData.Library.JavaScript
import LetletmeData.Library.SharedRanks
import LetletmeData.Library.Tables
import LetletmeData.Library.Texts
import LetletmeData.Repositories.EntryEventResults

/-!
# Points races

The synchronisation of a points race, and the ranks it stores.
-/

namespace LetletmeData

open LetletmeData.Library

/-! ## Points-race results

One synchronisation of a points race for an event: the group rows take the totals up to the
event, the ranks within each group and the qualification, and the event's own results are
stored beside them.
-/

/-- What a group ranks an entry by. -/
structure RankedEntry where
  entryId : ℕ
  totalNetPoints : ℤ
  overallRank : Option ℕ
  deriving DecidableEq

/-- The text two entries share exactly when they are level. -/
def groupRankKey (totalNetPoints : ℤ) (overallRank : Option ℕ) : String :=
  totalNetPoints.repr ++ "-" ++ (overallRank.getD maxSafeInteger).repr

/-- The sort of a group: more points first, then the better overall rank. -/
def rankedEntryLe (left right : RankedEntry) : Bool :=
  if left.totalNetPoints ≠ right.totalNetPoints then right.totalNetPoints ≤ left.totalNetPoints
  else left.overallRank.getD maxSafeInteger ≤ right.overallRank.getD maxSafeInteger

/-- The ranks of a group by key: a later entry with the same key overwrites the place. -/
def rankGroups (groups : List RankedEntry) : List (String × ℕ) :=
  lastPlaces (fun entry => groupRankKey entry.totalNetPoints entry.overallRank)
    (groups.insertionSort fun left right => rankedEntryLe left right)

/-- The stored result of an entry in one event of a points race. -/
structure PointsGroupResult where
  tournamentId : ℕ
  groupId : ℕ
  eventId : ℕ
  entryId : ℕ
  eventGroupRank : ℕ
  eventPoints : ℤ
  eventCost : ℤ
  eventNetPoints : ℤ
  eventRank : Option ℕ
  deriving DecidableEq

/-- The tables a points race writes. -/
structure PointsRaceState where
  groups : List GroupRow
  results : List PointsGroupResult
  deriving DecidableEq

/-- What a synchronisation reports. -/
structure SyncCounts where
  updatedGroups : ℕ
  updatedResults : ℕ
  skipped : ℕ
  deriving DecidableEq

/-- The key of a group row. -/
def GroupRow.key (row : GroupRow) : ℕ × ℕ × ℕ := (row.tournamentId, row.groupId, row.entryId)

/-- The key of an event result. -/
def PointsGroupResult.key (row : PointsGroupResult) : ℕ × ℕ × ℕ :=
  (row.tournamentId, row.eventId, row.entryId)

/-- An upserted event result keeps the group of the stored one. -/
def PointsGroupResult.merge (old row : PointsGroupResult) : PointsGroupResult :=
  { row with groupId := old.groupId }

/-- What a group row of an entry is ranked by after an event. -/
def rankedEntry (group : GroupRow) : RankedEntry :=
  ⟨group.entryId, group.totalNetPoints, group.overallRank⟩

/-- A group row with the totals of its entry, before the ranks are known. -/
def pointsGroupUpdate (startEventId eventId : ℕ) (totals : EntryTotals)
    (eventResult : EntryEventResult) (group : GroupRow) : GroupRow :=
  { group with
    groupPoints := totals.totalNetPoints
    played := (eventId : ℤ) - startEventId + 1
    totalPoints := totals.totalPoints
    totalTransfersCost := totals.totalTransfersCost
    totalNetPoints := totals.totalNetPoints
    overallRank := some eventResult.overallRank }

/-- The ranks of the group of a row, among the rows that are updated together. -/
def rankLookup (updatedGroups : List GroupRow) (groupId : ℕ) : List (String × ℕ) :=
  rankGroups ((updatedGroups.filter fun group => group.groupId = groupId).map rankedEntry)

/-- The rank of an updated row, and its qualification where a group has a cut. -/
def applyGroupRank (groupQualifyNum : Option ℕ) (updatedGroups : List GroupRow)
    (group : GroupRow) : GroupRow :=
  let rank := ((rankLookup updatedGroups group.groupId).lookup
    (groupRankKey group.totalNetPoints group.overallRank)).getD 0
  { group with
    groupRank := some rank
    groupPoints := group.totalNetPoints
    qualified :=
      match groupQualifyNum with
      | some cut => if cut = 0 then group.qualified else if 0 < rank ∧ rank ≤ cut then 1 else 0
      | none => group.qualified }

/-- The event result that is stored for an updated row. -/
def pointsGroupResult (updatedGroups : List GroupRow) (existing : List PointsGroupResult)
    (eventId : ℕ) (eventResult : EntryEventResult) (group : GroupRow) : PointsGroupResult :=
  let existingPoints := existing.find? fun result =>
    result.tournamentId = group.tournamentId && result.eventId = eventId &&
      result.entryId = group.entryId
  { tournamentId := group.tournamentId
    groupId := group.groupId
    eventId := eventId
    entryId := group.entryId
    eventGroupRank :=
      (((rankLookup updatedGroups group.groupId).lookup
        (groupRankKey group.totalNetPoints group.overallRank)).or
          (existingPoints.map PointsGroupResult.eventGroupRank)).getD 0
    eventPoints := eventResult.eventPoints
    eventCost := eventResult.eventTransfersCost
    eventNetPoints := eventResult.eventPoints - eventResult.eventTransfersCost
    eventRank := eventResult.eventRank }

/-- The rows of the tournament's entries. -/
def IsMemberRow (tournament : TournamentConfig) (entryIds : List ℕ) (group : GroupRow) : Prop :=
  group.tournamentId = tournament.id ∧ group.entryId ∈ entryIds

instance (tournament : TournamentConfig) (entryIds : List ℕ) (group : GroupRow) :
    Decidable (IsMemberRow tournament entryIds group) :=
  inferInstanceAs (Decidable (_ ∧ _))

/-- The row of a member with its totals through an event, absent without a result there. -/
def memberTotals (tournament : TournamentConfig) (startEventId endEventId : ℕ)
    (entryIds : List ℕ) (results : List EntryEventResult) (eventId : ℕ) (group : GroupRow) :
    Option GroupRow :=
  if IsMemberRow tournament entryIds group then
    (eventResultOf results eventId group.entryId).map fun eventResult =>
      pointsGroupUpdate startEventId eventId
        (aggregateTotalsByEntry results startEventId (min eventId endEventId) group.entryId)
        eventResult group
  else none

/-- The member rows that are updated together. -/
def updatedGroupRows (tournament : TournamentConfig) (startEventId endEventId : ℕ)
    (entryIds : List ℕ) (results : List EntryEventResult) (eventId : ℕ)
    (groups : List GroupRow) : List GroupRow :=
  groups.filterMap (memberTotals tournament startEventId endEventId entryIds results eventId)

/-- Synchronise one points race for an event. -/
def syncTournamentPointsRaceResultsForTournament (tournament : TournamentConfig)
    (entryIds : List ℕ) (results : List EntryEventResult) (eventId : ℕ)
    (state : PointsRaceState) : PointsRaceState × SyncCounts :=
  match tournament.groupStartedEventId, tournament.groupEndedEventId with
  | some startEventId, some endEventId =>
    if startEventId = 0 ∨ endEventId = 0 ∨ entryIds = [] then (state, ⟨0, 0, 0⟩)
    else
      let tournamentGroups := state.groups.filter fun group =>
        IsMemberRow tournament entryIds group
      if findByEventAndEntryIds results eventId entryIds = [] ∨ tournamentGroups = [] then
        (state, ⟨0, 0, entryIds.length⟩)
      else
        let updatedGroups :=
          updatedGroupRows tournament startEventId endEventId entryIds results eventId state.groups
        let rankedGroups :=
          updatedGroups.map (applyGroupRank tournament.groupQualifyNum updatedGroups)
        let updatedResults := updatedGroups.filterMap fun group =>
          (eventResultOf results eventId group.entryId).map fun eventResult =>
            pointsGroupResult updatedGroups state.results eventId eventResult group
        ({ groups := upsertBatch GroupRow.key (fun _ row => row) state.groups rankedGroups
           results :=
             upsertBatch PointsGroupResult.key PointsGroupResult.merge state.results
               updatedResults },
          ⟨rankedGroups.length, updatedResults.length,
            tournamentGroups.length - updatedGroups.length⟩)
  | _, _ => (state, ⟨0, 0, 0⟩)

/-- The guard of the callers: only events of the group phase of a points race. -/
def inPointsRaceWindow (tournament : TournamentConfig) (eventId : ℕ) : Prop :=
  tournament.groupMode = .pointsRaces ∧
    ∃ startEventId ∈ tournament.groupStartedEventId, ∃ endEventId ∈ tournament.groupEndedEventId,
      startEventId ≠ 0 ∧ endEventId ≠ 0 ∧ startEventId ≤ eventId ∧ eventId ≤ endEventId

/-! ## Ranks of a points race

Entries of a group are ordered by their points and then by their overall rank. The key text
of the rank map is shared by exactly the entries that are level in both, so the map holds
for each entry the number of entries at least as good.
-/

/-- More points first, then the better overall rank. -/
def rankedScore (entry : RankedEntry) : ℤ ×ₗ ℕ :=
  toLex (-entry.totalNetPoints, entry.overallRank.getD maxSafeInteger)

/-- The comparison of the source orders entries by their score. -/
theorem rankedEntryLe_iff (left right : RankedEntry) :
    rankedEntryLe left right = true ↔ rankedScore left ≤ rankedScore right := by
  rw [rankedScore, rankedScore, Prod.Lex.toLex_le_toLex]
  unfold rankedEntryLe
  split
  next hne =>
    simp only [decide_eq_true_eq]
    omega
  next heq =>
    simp only [decide_eq_true_eq]
    omega

/-- Two keys are equal exactly when points and overall ranks are. -/
theorem groupRankKey_eq_iff (leftPoints rightPoints : ℤ) (leftRank rightRank : Option ℕ) :
    groupRankKey leftPoints leftRank = groupRankKey rightPoints rightRank ↔
      leftPoints = rightPoints ∧
        leftRank.getD maxSafeInteger = rightRank.getD maxSafeInteger := by
  constructor
  · intro h
    have htexts := congrArg String.toList h
    simp only [groupRankKey, String.toList_append, List.append_assoc] at htexts
    have hhyphen (value : ℕ) : '-' ∉ value.repr.toList := not_mem_repr (by decide) value
    obtain ⟨hpoints, hranks⟩ := append_cons_injective_last (hhyphen _) (hhyphen _) htexts
    exact ⟨Int.repr_injective (String.toList_inj.mp hpoints),
      Nat.repr_injective (String.toList_inj.mp hranks)⟩
  · rintro ⟨rfl, hrank⟩
    rw [groupRankKey, groupRankKey, hrank]

/-- Entries share a key exactly when they share a score. -/
theorem groupRankKey_eq_iff_score (left right : RankedEntry) :
    groupRankKey left.totalNetPoints left.overallRank =
        groupRankKey right.totalNetPoints right.overallRank ↔
      rankedScore left = rankedScore right := by
  rw [groupRankKey_eq_iff, rankedScore, rankedScore, toLex_inj, Prod.mk.injEq, neg_inj]

/-- The rank of an entry is the number of entries of its group that are at least as good. -/
theorem lookup_rankGroups {groups : List RankedEntry} {entry : RankedEntry}
    (hentry : entry ∈ groups) :
    (rankGroups groups).lookup (groupRankKey entry.totalNetPoints entry.overallRank) =
      some (atLeastAsGood rankedScore groups entry) := by
  have htotal : Std.Total fun left right : RankedEntry => rankedEntryLe left right = true :=
    ⟨fun left right => by
      rw [rankedEntryLe_iff, rankedEntryLe_iff]
      exact le_total _ _⟩
  have htrans : IsTrans RankedEntry fun left right => rankedEntryLe left right = true :=
    ⟨fun first second third => by
      rw [rankedEntryLe_iff, rankedEntryLe_iff, rankedEntryLe_iff]
      exact le_trans⟩
  have hsorted : (groups.insertionSort fun left right => rankedEntryLe left right).Pairwise
      fun left right => rankedScore left ≤ rankedScore right := by
    have hpairwise := List.pairwise_insertionSort
      (fun left right : RankedEntry => rankedEntryLe left right = true) groups
    exact hpairwise.imp fun {left right} h => (rankedEntryLe_iff left right).mp h
  have hperm := List.perm_insertionSort
    (fun left right : RankedEntry => rankedEntryLe left right = true) groups
  rw [rankGroups, ← atLeastAsGood_perm hperm]
  exact @lookup_lastPlaces _ _ _ _ rankedScore _ _
    (fun entry => groupRankKey entry.totalNetPoints entry.overallRank)
    groupRankKey_eq_iff_score hsorted _ (hperm.mem_iff.mpr hentry)

end LetletmeData
