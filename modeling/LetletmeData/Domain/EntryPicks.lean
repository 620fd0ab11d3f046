import LetletmeData.Library.JavaScript

/-!
# Picks of an entry

The picks of an entry in an event as FPL sends them, and the checks a payload must pass before a
result may be calculated from it.
-/

namespace LetletmeData

open LetletmeData.Library

/-- `PickItemSchema`. -/
structure PickItem where
  element : ℚ
  position : ℚ
  multiplier : ℚ
  isCaptain : Bool
  isViceCaptain : Bool
  deriving DecidableEq

/-- `PicksEntryHistorySchema`. -/
structure PicksEntryHistory where
  event : ℚ
  points : ℚ
  totalPoints : ℚ
  rank : Option ℚ
  overallRank : Option ℚ
  bank : ℚ
  value : ℚ
  eventTransfers : ℚ
  eventTransfersCost : ℚ
  pointsOnBench : ℚ
  deriving DecidableEq

/-- `AutomaticSubSchema`. -/
structure AutomaticSub where
  entry : ℕ
  elementIn : ℕ
  elementOut : ℕ
  event : ℕ
  deriving DecidableEq

/-- `PicksResponseSchema`. -/
structure PicksResponse where
  activeChip : Option String
  automaticSubs : List AutomaticSub
  entryHistory : PicksEntryHistory
  picks : List PickItem
  deriving DecidableEq

/-- The elements of a live payload with their total points. -/
abbrev EventPointsPayload := List (ℚ × ℚ)

/-- `isEntryPicksPayloadForEvent`. -/
def IsEntryPicksPayloadForEvent (picks : PicksResponse) (eventId : ℤ) : Prop :=
  picks.entryHistory.event = eventId

instance (picks : PicksResponse) (eventId : ℤ) :
    Decidable (IsEntryPicksPayloadForEvent picks eventId) :=
  inferInstanceAs (Decidable (_ = _))

/-- What is checked of each pick: only a captain or a vice-captain of the first eleven scores a
bonus, and the captain never scores exactly once. -/
def PickItem.Valid (pick : PickItem) : Prop :=
  (IsInteger pick.element ∧ 0 < pick.element) ∧
    (IsInteger pick.position ∧ 1 ≤ pick.position ∧ pick.position ≤ 15) ∧
    (IsInteger pick.multiplier ∧ 0 ≤ pick.multiplier ∧ pick.multiplier ≤ 3) ∧
    ¬ ((pick.isCaptain ∨ pick.isViceCaptain) ∧ 11 < pick.position) ∧
    ¬ (pick.isCaptain ∧ pick.multiplier = 1) ∧
    ¬ (1 < pick.multiplier ∧ ¬ pick.isCaptain ∧ ¬ pick.isViceCaptain)

instance PickItem.decidableValid (pick : PickItem) : Decidable pick.Valid :=
  inferInstanceAs (Decidable (_ ∧ _))

/-- `isCompleteEntryPicks`. -/
def IsCompleteEntryPicks (picks : List PickItem) : Prop :=
  picks.length = 15 ∧ (∀ pick ∈ picks, pick.Valid) ∧ (picks.map (·.element)).Nodup ∧
    (picks.map (·.position)).Nodup ∧ picks.countP (·.isCaptain) = 1 ∧
    picks.countP (·.isViceCaptain) = 1 ∧
    (∀ pick ∈ picks, ¬ (pick.isCaptain ∧ pick.isViceCaptain)) ∧
    picks.countP (fun pick => 1 < pick.multiplier) ≤ 1

instance (picks : List PickItem) : Decidable (IsCompleteEntryPicks picks) :=
  inferInstanceAs (Decidable (_ ∧ _))

/-- `resolveScoringCaptainPick`. -/
def resolveScoringCaptainPick (picks : List PickItem) : Option PickItem :=
  (picks.find? fun pick =>
    (pick.isCaptain || pick.isViceCaptain) && decide (IsInteger pick.multiplier) &&
      decide (1 < pick.multiplier)).or (picks.find? (·.isCaptain))

/-- `hasCompleteEntryPickLiveCoverage`. -/
def HasCompleteEntryPickLiveCoverage (picks : List PickItem) (liveElementIds : List ℚ) : Prop :=
  IsCompleteEntryPicks picks ∧ (∀ id ∈ liveElementIds, IsInteger id ∧ 0 < id) ∧
    liveElementIds.Nodup ∧ ∀ pick ∈ picks, pick.element ∈ liveElementIds

instance (picks : List PickItem) (liveElementIds : List ℚ) :
    Decidable (HasCompleteEntryPickLiveCoverage picks liveElementIds) :=
  inferInstanceAs (Decidable (_ ∧ _))

/-- What `validateAutomaticSubs` checks, with the elements seen so far. -/
def SubsValid (entryId eventId : ℤ) (selected : List ℚ) :
    List AutomaticSub → List ℕ → List ℕ → Prop
  | [], incoming, outgoing => ∀ element ∈ incoming, element ∉ outgoing
  | sub :: rest, incoming, outgoing =>
    (sub.entry = entryId ∧ sub.event = eventId ∧ sub.elementIn ≠ sub.elementOut ∧
      (sub.elementIn : ℚ) ∈ selected ∧ (sub.elementOut : ℚ) ∈ selected ∧
      sub.elementIn ∉ incoming ∧ sub.elementOut ∉ outgoing) ∧
      SubsValid entryId eventId selected rest (sub.elementIn :: incoming)
        (sub.elementOut :: outgoing)

/-- The check of substitutions can be run. -/
def decideSubsValid (entryId eventId : ℤ) (selected : List ℚ) :
    (subs : List AutomaticSub) → (incoming outgoing : List ℕ) →
      Decidable (SubsValid entryId eventId selected subs incoming outgoing)
  | [], incoming, outgoing =>
    inferInstanceAs (Decidable (∀ element ∈ incoming, element ∉ outgoing))
  | sub :: rest, incoming, outgoing =>
    have := decideSubsValid entryId eventId selected rest (sub.elementIn :: incoming)
      (sub.elementOut :: outgoing)
    inferInstanceAs (Decidable (_ ∧ _))

instance (entryId eventId : ℤ) (selected : List ℚ) (subs : List AutomaticSub)
    (incoming outgoing : List ℕ) :
    Decidable (SubsValid entryId eventId selected subs incoming outgoing) :=
  decideSubsValid entryId eventId selected subs incoming outgoing

/-- `new Map`, filled in the order of the payload. -/
def elementsPoints (live : EventPointsPayload) (element : ℚ) : Option ℚ :=
  live.reverse.lookup element

/-- `getAutoSubPoints`. -/
def getAutoSubPoints (autoSubs : List AutomaticSub) (live : EventPointsPayload) : ℚ :=
  (autoSubs.map fun sub => (elementsPoints live sub.elementIn).getD 0).sum

/-- `toNullableDbChip`. -/
def toNullableDbChip (chip : Option String) : Option String := chip.filter (· ≠ "")

end LetletmeData
