import Mathlib.Data.List.Dedup
import Mathlib.Data.List.Perm.Subperm
import Mathlib.Data.Set.Function

/-!
# Assignments

Rosters that are paired off, and entities that are assigned to each other out of their candidates.
-/

namespace LetletmeData.Library

/-! ## Perfect matchings

A round of pairs over a roster. A side of a pair may be left open; a perfect matching has every
member of the roster in exactly one pair and as few open sides as the parity of the roster
allows. Counting the pairs, the sides and the open sides decides it.
-/

section PerfectMatchings

variable {α : Type*} [DecidableEq α]

/-- A side stands in a pair. -/
def HasSide (side : Option α) (pair : Option α × Option α) : Prop :=
  pair.1 = side ∨ pair.2 = side

instance decidableHasSide (side : Option α) (pair : Option α × Option α) :
    Decidable (HasSide side pair) :=
  inferInstanceAs (Decidable (_ ∨ _))

/-- The sides of some pairs, in order. -/
def sidesOf (pairs : List (Option α × Option α)) : List (Option α) :=
  pairs.flatMap fun pair => [pair.1, pair.2]

/-- The members that stand in some pairs, in order. -/
def membersOf (pairs : List (Option α × Option α)) : List α := (sidesOf pairs).filterMap id

/-- Every member of the roster stands in exactly one pair, and a side is open in exactly one pair
if the roster is odd and in none if it is even. -/
structure IsPerfectMatching (roster : List α) (pairs : List (Option α × Option α)) : Prop where
  distinct : ∀ pair ∈ pairs, pair.1 ≠ pair.2
  members : ∀ member ∈ membersOf pairs, member ∈ roster
  once : ∀ member ∈ roster, (pairs.countP fun pair => HasSide (some member) pair) = 1
  openSides : (pairs.countP fun pair => HasSide none pair) = roster.dedup.length % 2

omit [DecidableEq α] in
/-- A member stands in a pair whose side it is. -/
theorem mem_membersOf {member : α} {pairs : List (Option α × Option α)} :
    member ∈ membersOf pairs ↔ some member ∈ sidesOf pairs := by
  simp [membersOf]

/-- A side counts once for each pair it stands in, if no pair repeats its side. -/
theorem count_sidesOf {pairs : List (Option α × Option α)}
    (hdistinct : ∀ pair ∈ pairs, pair.1 ≠ pair.2) (side : Option α) :
    (sidesOf pairs).count side = pairs.countP fun pair => HasSide side pair := by
  induction pairs with
  | nil => rfl
  | cons pair rest ih =>
    have hne := hdistinct pair List.mem_cons_self
    have hrest := ih fun other hother => hdistinct other (List.mem_cons_of_mem _ hother)
    have hsides : sidesOf (pair :: rest) = pair.1 :: pair.2 :: sidesOf rest := rfl
    rw [hsides, List.count_cons, List.count_cons, hrest, List.countP_cons]
    by_cases hfirst : pair.1 = side
    · have hsecond : pair.2 ≠ side := fun h => hne (hfirst.trans h.symm)
      simp [HasSide, hfirst, hsecond]
    · by_cases hsecond : pair.2 = side <;> simp [HasSide, hfirst, hsecond]

/-- A member counts as often as its side. -/
theorem count_membersOf (pairs : List (Option α × Option α)) (member : α) :
    (membersOf pairs).count member = (sidesOf pairs).count (some member) := by
  unfold membersOf
  induction sidesOf pairs with
  | nil => rfl
  | cons side rest ih =>
    cases side with
    | none => rw [List.filterMap_cons_none rfl, ih, List.count_cons_of_ne (by simp)]
    | some other =>
      have hcons : (some other :: rest).filterMap id = other :: rest.filterMap id := rfl
      rw [hcons, List.count_cons, List.count_cons, ih]
      simp

/-- Each side is a member or open. -/
theorem length_sidesOf (pairs : List (Option α × Option α)) :
    (sidesOf pairs).length = (membersOf pairs).length + (sidesOf pairs).count none := by
  unfold membersOf
  induction sidesOf pairs with
  | nil => rfl
  | cons side rest ih =>
    cases side with
    | none =>
      rw [List.filterMap_cons_none rfl, List.count_cons_self, List.length_cons, ih]
      omega
    | some other =>
      have hcons : (some other :: rest).filterMap id = other :: rest.filterMap id := rfl
      rw [hcons, List.count_cons_of_ne (by simp), List.length_cons, List.length_cons, ih]
      omega

omit [DecidableEq α] in
/-- Each pair has two sides. -/
theorem length_sidesOf_eq (pairs : List (Option α × Option α)) :
    (sidesOf pairs).length = 2 * pairs.length := by
  induction pairs with
  | nil => rfl
  | cons pair rest ih =>
    have hcons : sidesOf (pair :: rest) = pair.1 :: pair.2 :: sidesOf rest := rfl
    rw [hcons, List.length_cons, List.length_cons, ih, List.length_cons]
    omega

/-- In a perfect matching the members are the roster. -/
theorem IsPerfectMatching.perm {roster : List α} {pairs : List (Option α × Option α)}
    (h : IsPerfectMatching roster pairs) : (membersOf pairs).Perm roster.dedup := by
  rw [List.perm_iff_count]
  intro member
  rw [count_membersOf, count_sidesOf h.distinct]
  by_cases hmember : member ∈ roster
  · rw [h.once member hmember,
      List.count_eq_one_of_mem roster.nodup_dedup (List.mem_dedup.mpr hmember)]
  · rw [List.count_eq_zero_of_not_mem (fun hmem => hmember (List.mem_dedup.mp hmem)),
      ← count_sidesOf h.distinct]
    exact List.count_eq_zero_of_not_mem fun hmem =>
      hmember (h.members member (mem_membersOf.mpr hmem))

/-- Counting decides whether pairs with different sides of the roster are a perfect matching. -/
theorem isPerfectMatching_iff {roster : List α} {pairs : List (Option α × Option α)}
    (hdistinct : ∀ pair ∈ pairs, pair.1 ≠ pair.2)
    (hroster : ∀ member ∈ membersOf pairs, member ∈ roster) :
    IsPerfectMatching roster pairs ↔
      pairs.length = (roster.dedup.length + 1) / 2 ∧ (membersOf pairs).Nodup ∧
        (membersOf pairs).length = roster.dedup.length ∧
          (sidesOf pairs).count none = roster.dedup.length % 2 := by
  have hlength := (length_sidesOf pairs).symm.trans (length_sidesOf_eq pairs)
  constructor
  · intro h
    have hmembers := h.perm.length_eq
    have hopen := (count_sidesOf hdistinct none).trans h.openSides
    exact ⟨by omega, h.perm.nodup_iff.mpr roster.nodup_dedup, hmembers, hopen⟩
  · rintro ⟨-, hnodup, hmembers, hopen⟩
    have hperm : (membersOf pairs).Perm roster.dedup :=
      (List.subperm_of_subset hnodup fun member hmember =>
        List.mem_dedup.mpr (hroster member hmember)).perm_of_length_le (Nat.le_of_eq hmembers.symm)
    refine ⟨hdistinct, hroster, fun member hmember => ?_, ?_⟩
    · rw [← count_sidesOf hdistinct, ← count_membersOf]
      exact List.count_eq_one_of_mem hnodup (hperm.mem_iff.mpr (List.mem_dedup.mpr hmember))
    · rw [← count_sidesOf hdistinct, hopen]

end PerfectMatchings

/-! ## Forced assignments

Left entities are assigned right ones out of their candidates. A round assigns every left entity
that has one remaining candidate which no other open entity is left with alone. Such pairs belong
to every complete assignment, so rounds never commit to a pair that could have been avoided.
-/

section ForcedAssignments

variable {Left Right : Type*} (lefts : Set Left) (candidates : Left → Set Right)

/-- A complete assignment gives each left entity a candidate of its own. -/
structure IsCompleteAssignment (assignment : Left → Right) : Prop where
  injective : Set.InjOn assignment lefts
  candidate : ∀ left ∈ lefts, assignment left ∈ candidates left

/-- The candidates that are not assigned yet. -/
def remainingCandidates (assigned : Left → Option Right) (left : Left) : Set Right :=
  {right | right ∈ candidates left ∧ ∀ other, assigned other ≠ some right}

/-- An open entity is left with one candidate. -/
structure OnlyCandidate (assigned : Left → Option Right) (left : Left) (right : Right) :
    Prop where
  mem : left ∈ lefts
  unassigned : assigned left = none
  remaining : remainingCandidates candidates assigned left = {right}

/-- An open entity is left with one candidate, and no other one is left with it alone. -/
structure SoleCandidate (assigned : Left → Option Right) (left : Left) (right : Right) :
    Prop where
  only : OnlyCandidate lefts candidates assigned left right
  unique : ∀ other, OnlyCandidate lefts candidates assigned other right → other = left

/-- Assigned pairs are candidates, one to one, and every complete assignment has them. -/
structure IsForced (assigned : Left → Option Right) : Prop where
  injective : ∀ left other right, assigned left = some right → assigned other = some right →
    left = other
  candidate : ∀ left right, assigned left = some right → left ∈ lefts ∧ right ∈ candidates left
  forced : ∀ assignment, IsCompleteAssignment lefts candidates assignment →
    ∀ left right, assigned left = some right → assignment left = right

/-- No open entity is left with a candidate that no other one is left with alone. -/
def IsClosed (assigned : Left → Option Right) : Prop :=
  ∀ left right, OnlyCandidate lefts candidates assigned left right →
    ∃ other, other ≠ left ∧ OnlyCandidate lefts candidates assigned other right

variable {lefts candidates}

/-- Nothing is assigned before the first round. -/
theorem isForced_none : IsForced lefts candidates fun _ => none where
  injective _ _ _ h := nomatch h
  candidate _ _ h := nomatch h
  forced _ _ _ _ h := nomatch h

/-- An assigned candidate is no remaining one. -/
theorem OnlyCandidate.not_assigned {assigned : Left → Option Right} {left other : Left}
    {right : Right} (h : OnlyCandidate lefts candidates assigned left right) :
    assigned other ≠ some right := by
  have hmem : right ∈ remainingCandidates candidates assigned left := by
    rw [h.remaining]
    exact rfl
  exact hmem.2 other

/-- The only remaining candidate is the one a complete assignment gives. -/
theorem OnlyCandidate.assignment_eq {assigned : Left → Option Right} {left : Left} {right : Right}
    (h : OnlyCandidate lefts candidates assigned left right)
    (hforced : IsForced lefts candidates assigned) {assignment : Left → Right}
    (hcomplete : IsCompleteAssignment lefts candidates assignment) : assignment left = right := by
  have hmem : assignment left ∈ remainingCandidates candidates assigned left := by
    refine ⟨hcomplete.candidate left h.mem, fun other hother => ?_⟩
    have hsame := hforced.forced assignment hcomplete other _ hother
    have heq := hcomplete.injective (hforced.candidate other _ hother).1 h.mem hsame
    rw [heq, h.unassigned] at hother
    exact nomatch hother
  rw [h.remaining] at hmem
  exact hmem

/-- A round keeps assignments forced. -/
theorem IsForced.round {assigned next : Left → Option Right}
    (h : IsForced lefts candidates assigned)
    (hnext : ∀ left right, next left = some right ↔
      assigned left = some right ∨ SoleCandidate lefts candidates assigned left right) :
    IsForced lefts candidates next where
  injective := by
    intro left other right hleft hother
    rcases (hnext left right).mp hleft with hold | hnew
    · rcases (hnext other right).mp hother with hold' | hnew'
      · exact h.injective left other right hold hold'
      · exact absurd hold hnew'.only.not_assigned
    · rcases (hnext other right).mp hother with hold' | hnew'
      · exact absurd hold' hnew.only.not_assigned
      · exact (hnew.unique other hnew'.only).symm
  candidate := by
    intro left right hleft
    rcases (hnext left right).mp hleft with hold | hnew
    · exact h.candidate left right hold
    · have hmem : right ∈ remainingCandidates candidates assigned left := by
        rw [hnew.only.remaining]
        exact rfl
      exact ⟨hnew.only.mem, hmem.1⟩
  forced := by
    intro assignment hcomplete left right hleft
    rcases (hnext left right).mp hleft with hold | hnew
    · exact h.forced assignment hcomplete left right hold
    · exact hnew.only.assignment_eq h hcomplete

/-- Assignments are closed when a round has nothing to add. -/
theorem isClosed_of_no_sole {assigned : Left → Option Right}
    (h : ∀ left right, ¬ SoleCandidate lefts candidates assigned left right) :
    IsClosed lefts candidates assigned := by
  intro left right honly
  by_contra hnone
  refine h left right ⟨honly, fun other hother => ?_⟩
  by_contra hne
  exact hnone ⟨other, hne, hother⟩

end ForcedAssignments

end LetletmeData.Library
