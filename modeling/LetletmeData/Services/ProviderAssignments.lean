import LetletmeData.Library.Assignments
import LetletmeData.Library.KeyedTables

/-!
# Automatic provider assignments

Each round assigns the left entities with one candidate that no other entity is left with alone,
and takes what it assigned from the candidates of the others. Rounds go on while they assign
anything. Maps are kept in the order of insertion, sets likewise.
-/

namespace LetletmeData

open LetletmeData.Library

/-- A set of the language: its values in the order of insertion. -/
abbrev ValueSet (Value : Type*) := {values : List Value // values.Nodup}

/-- The values of a set that are not among the removed ones. -/
def ValueSet.without {Value : Type*} [DecidableEq Value] (values : ValueSet Value)
    (removed : List Value) : ValueSet Value :=
  ⟨values.1.filter (· ∉ removed), values.2.filter _⟩

/-- `Set.prototype.delete`. -/
def ValueSet.delete {Value : Type*} [DecidableEq Value] (values : ValueSet Value) (value : Value) :
    ValueSet Value :=
  ⟨values.1.filter (· ≠ value), values.2.filter _⟩

section Rounds

variable {Left Right : Type*} [LinearOrder Left] [DecidableEq Right]

/-- The variables of `resolveUniqueProviderAssignments`. -/
structure AssignmentRounds (Left Right : Type*) where
  remaining : KeyedTable Left (ValueSet Right)
  assignments : KeyedTable Left Right
  changed : Bool

/-- The value of a set of size one. -/
def onlyValue (values : ValueSet Right) : Option Right :=
  match values.1 with
  | [value] => some value
  | _ => none

/-- The entities with one candidate, in the order of their ids. -/
def singletons (remaining : KeyedTable Left (ValueSet Right)) : List (Left × Right) :=
  (remaining.entries.filterMap fun entry =>
    (onlyValue entry.2).map fun right => (entry.1, right)).insertionSort
      fun left right => left.1 ≤ right.1

/-- Assign a pair: its entity leaves the map, and its candidate leaves the sets. -/
def AssignmentRounds.assign (state : AssignmentRounds Left Right) (pair : Left × Right) :
    AssignmentRounds Left Right :=
  { assignments := state.assignments.upsert pair.1 pair.2
    remaining := (state.remaining.deleteWhere fun left _ => left = pair.1).updateWhere
      (fun _ _ => True) (·.delete pair.2)
    changed := true }

/-- One pass of the loop over the singletons. -/
def assignSingleton (counts : Right → ℕ) (state : AssignmentRounds Left Right)
    (pair : Left × Right) : AssignmentRounds Left Right :=
  if counts pair.2 ≠ 1 ∨ state.remaining.find pair.1 = none then state else state.assign pair

/-- One pass of the loop over the rounds. -/
def assignmentRound (state : AssignmentRounds Left Right) : AssignmentRounds Left Right :=
  let pairs := singletons state.remaining
  pairs.foldl (assignSingleton fun right => (pairs.map Prod.snd).count right)
    { state with changed := false }

/-- The pairs that a round assigns. -/
def assignedPairs (remaining : KeyedTable Left (ValueSet Right)) : List (Left × Right) :=
  let pairs := singletons remaining
  pairs.filter fun pair => (pairs.map Prod.snd).count pair.2 = 1

/-- A pair that is assigned leaves the map smaller. -/
theorem assignSingleton_cases (counts : Right → ℕ) (state : AssignmentRounds Left Right)
    (pair : Left × Right) :
    assignSingleton counts state pair = state ∨
      (assignSingleton counts state pair).remaining.entries.length <
        state.remaining.entries.length := by
  unfold assignSingleton
  split
  · exact Or.inl rfl
  next h =>
    right
    rw [not_or, not_not] at h
    obtain ⟨values, hvalues⟩ := Option.ne_none_iff_exists'.mp h.2
    have hlength := (KeyedTable.perm_deleteWhere_key hvalues).length_eq
    rw [List.length_cons] at hlength
    simp only [AssignmentRounds.assign, KeyedTable.updateWhere, List.length_map]
    omega

/-- A round that changes anything leaves the map smaller. -/
theorem length_assignmentRound_lt {state : AssignmentRounds Left Right}
    (h : (assignmentRound state).changed = true) :
    (assignmentRound state).remaining.entries.length < state.remaining.entries.length := by
  -- until a pair is assigned the state is the one that the round started with
  have hfold : ∀ (counts : Right → ℕ) (pairs : List (Left × Right))
      (start : AssignmentRounds Left Right),
      pairs.foldl (assignSingleton counts) start = start ∨
        (pairs.foldl (assignSingleton counts) start).remaining.entries.length <
          start.remaining.entries.length := by
    intro counts pairs
    induction pairs with
    | nil => exact fun _ => Or.inl rfl
    | cons pair pairs ih =>
      intro start
      rw [List.foldl_cons]
      rcases assignSingleton_cases counts start pair with hsame | hless
      · rw [hsame]
        exact ih start
      · rcases ih (assignSingleton counts start pair) with hrest | hrest
        · rw [hrest]
          exact Or.inr hless
        · exact Or.inr (hrest.trans hless)
  rcases hfold _ (singletons state.remaining) { state with changed := false } with hsame | hless
  · rw [assignmentRound, hsame] at h
    exact absurd h Bool.false_ne_true
  · exact hless

/-- The loop over the rounds. -/
def assignmentRounds (state : AssignmentRounds Left Right) : KeyedTable Left Right :=
  if (assignmentRound state).changed then assignmentRounds (assignmentRound state)
  else (assignmentRound state).assignments
termination_by state.remaining.entries.length
decreasing_by exact length_assignmentRound_lt ‹_›

/-- `resolveUniqueProviderAssignments`. -/
def resolveUniqueProviderAssignments (candidates : KeyedTable Left (ValueSet Right)) :
    KeyedTable Left Right :=
  assignmentRounds { remaining := candidates, assignments := .empty, changed := true }

/-! ### What a round does -/

section Spec

variable {remaining : KeyedTable Left (ValueSet Right)} {left : Left} {right : Right}

omit [DecidableEq Right] in
/-- A set has one value exactly when it is listed alone. -/
theorem onlyValue_eq_some {values : ValueSet Right} :
    onlyValue values = some right ↔ values.1 = [right] := by
  obtain ⟨values, hvalues⟩ := values
  match values with
  | [] => simp [onlyValue]
  | [value] => simp [onlyValue]
  | first :: second :: rest => simp [onlyValue]

omit [DecidableEq Right] in
/-- The singletons are the entities that are left with one candidate. -/
theorem mem_singletons :
    (left, right) ∈ singletons remaining ↔
      ∃ values, remaining.find left = some values ∧ values.1 = [right] := by
  simp only [singletons, List.mem_insertionSort, List.mem_filterMap, Option.map_eq_some_iff,
    Prod.mk.injEq, onlyValue_eq_some]
  constructor
  · rintro ⟨⟨other, values⟩, hentry, value, hvalue, rfl, rfl⟩
    exact ⟨values, KeyedTable.mem_entries_iff.mp hentry, hvalue⟩
  · rintro ⟨values, hfind, hvalues⟩
    exact ⟨(left, values), KeyedTable.mem_entries_iff.mpr hfind, right, hvalues, rfl, rfl⟩

omit [DecidableEq Right] in
/-- No entity is a singleton twice. -/
theorem nodup_singletons : ((singletons remaining).map Prod.fst).Nodup := by
  refine (((List.perm_insertionSort _ _).map Prod.fst).nodup_iff).mpr ?_
  refine remaining.distinct.sublist ?_
  generalize remaining.entries = entries
  induction entries with
  | nil => exact List.Sublist.slnil
  | cons entry rest ih =>
    rw [List.filterMap_cons]
    cases hvalue : onlyValue entry.2 with
    | none => exact ih.cons _
    | some value => exact ih.cons_cons _

/-- A candidate is counted once exactly when one singleton has it. -/
theorem count_singletons (h : (left, right) ∈ singletons remaining) :
    ((singletons remaining).map Prod.snd).count right = 1 ↔
      ∀ other, (other, right) ∈ singletons remaining → other = left := by
  have hnodup : ((singletons remaining).map Prod.fst).Nodup := nodup_singletons
  generalize singletons remaining = pairs at h hnodup ⊢
  obtain ⟨before, after, rfl⟩ := List.append_of_mem h
  have hfresh : ∀ pair ∈ before ++ after, pair.1 ≠ left := by
    intro pair hpair heq
    rw [List.map_append, List.map_cons] at hnodup
    refine (List.nodup_cons.mp (List.nodup_middle.mp hnodup)).1 ?_
    rw [← List.map_append, ← heq]
    exact List.mem_map.mpr ⟨pair, hpair, rfl⟩
  have hcount : ((before ++ (left, right) :: after).map Prod.snd).count right = 1 ↔
      right ∉ (before ++ after).map Prod.snd := by
    rw [← List.count_eq_zero, List.map_append, List.map_append, List.map_cons, List.count_append,
      List.count_append, List.count_cons_self]
    omega
  rw [hcount]
  constructor
  · intro hnot other hother
    rcases List.mem_append.mp hother with hmem | hmem
    · exact absurd (List.mem_map_of_mem (f := Prod.snd) (List.mem_append_left after hmem)) hnot
    · rcases List.mem_cons.mp hmem with heq | hmem
      · exact (Prod.mk.inj heq).1
      · exact absurd (List.mem_map_of_mem (f := Prod.snd) (List.mem_append_right before hmem)) hnot
  · intro hall hmem
    obtain ⟨⟨other, value⟩, hpair, rfl⟩ := List.mem_map.mp hmem
    refine hfresh _ hpair (hall other ?_)
    rcases List.mem_append.mp hpair with hpair | hpair
    · exact List.mem_append_left _ hpair
    · exact List.mem_append_right _ (List.mem_cons_of_mem _ hpair)

/-- A round assigns a singleton whose candidate no other singleton has. -/
theorem mem_assignedPairs :
    (left, right) ∈ assignedPairs remaining ↔ (left, right) ∈ singletons remaining ∧
      ∀ other, (other, right) ∈ singletons remaining → other = left := by
  rw [assignedPairs, List.mem_filter, decide_eq_true_eq]
  exact and_congr_right fun hmem => count_singletons hmem

/-- Removing one value and then others removes them all. -/
theorem ValueSet.delete_without (values : ValueSet Right) (value : Right) (removed : List Right) :
    (values.delete value).without removed = values.without (value :: removed) := by
  refine Subtype.ext ?_
  simp only [ValueSet.delete, ValueSet.without, List.filter_filter]
  refine List.filter_congr fun other _ => ?_
  simp only [List.mem_cons, not_or, Bool.decide_and, Bool.and_comm]

/-- What is left after a pair is assigned. -/
theorem AssignmentRounds.find_remaining_assign (state : AssignmentRounds Left Right)
    (pair : Left × Right) (left : Left) :
    (state.assign pair).remaining.find left =
      if left = pair.1 then none else (state.remaining.find left).map (·.delete pair.2) := by
  rw [assign, KeyedTable.find_updateWhere, KeyedTable.find_deleteWhere]
  by_cases hleft : left = pair.1
  · cases state.remaining.find left <;> simp [hleft]
  · cases state.remaining.find left <;> simp [hleft]

/-- What is assigned after some pairs are. -/
theorem find_assignments_foldl_assign {chosen : List (Left × Right)}
    (hnodup : (chosen.map Prod.fst).Nodup) (state : AssignmentRounds Left Right) (left : Left) :
    (chosen.foldl AssignmentRounds.assign state).assignments.find left =
      (chosen.lookup left).or (state.assignments.find left) := by
  induction chosen generalizing state with
  | nil => simp
  | cons pair chosen ih =>
    rw [List.map_cons] at hnodup
    obtain ⟨hfresh, hrest⟩ := List.nodup_cons.mp hnodup
    rw [List.foldl_cons, ih hrest, AssignmentRounds.assign, KeyedTable.find_upsert,
      List.lookup_cons]
    by_cases hleft : left = pair.1
    · have hnone : chosen.lookup left = none := by
        rw [List.lookup_eq_none_iff]
        rintro other hother
        rw [hleft]
        refine bne_iff_ne.mpr fun heq => hfresh ?_
        exact List.mem_map.mpr ⟨other, hother, heq.symm⟩
      simp [hleft, hleft ▸ hnone]
    · simp [hleft, beq_false_of_ne hleft]

/-- What is left after some pairs are assigned. -/
theorem find_remaining_foldl_assign (chosen : List (Left × Right))
    (state : AssignmentRounds Left Right) (left : Left) :
    (chosen.foldl AssignmentRounds.assign state).remaining.find left =
      if left ∈ chosen.map Prod.fst then none
      else (state.remaining.find left).map (·.without (chosen.map Prod.snd)) := by
  induction chosen generalizing state with
  | nil => cases hfind : state.remaining.find left <;> simp [ValueSet.without, hfind]
  | cons pair chosen ih =>
    rw [List.foldl_cons, ih, state.find_remaining_assign]
    by_cases hleft : left = pair.1
    · simp [hleft]
    · by_cases hmem : left ∈ chosen.map Prod.fst
      · have hcons : left ∈ (pair :: chosen).map Prod.fst := List.mem_cons_of_mem _ hmem
        rw [if_pos hmem, if_pos hcons]
      · rw [if_neg hmem, if_neg hleft, if_neg (by simpa [hleft] using hmem), Option.map_map]
        congr 1
        funext values
        exact values.delete_without pair.2 _

/-- Assigning any pair changes something. -/
theorem changed_foldl_assign {chosen : List (Left × Right)} (h : chosen ≠ [])
    (state : AssignmentRounds Left Right) :
    (chosen.foldl AssignmentRounds.assign state).changed = true := by
  induction chosen generalizing state with
  | nil => exact absurd rfl h
  | cons pair chosen ih =>
    rw [List.foldl_cons]
    cases chosen with
    | nil => rfl
    | cons second chosen => exact ih (List.cons_ne_nil _ _) _

/-- A loop over pairs of different entities that are present assigns those that are counted
once. -/
theorem foldl_assignSingleton (counts : Right → ℕ) {pairs : List (Left × Right)}
    (hnodup : (pairs.map Prod.fst).Nodup) (state : AssignmentRounds Left Right)
    (hpresent : ∀ pair ∈ pairs, state.remaining.find pair.1 ≠ none) :
    pairs.foldl (assignSingleton counts) state =
      (pairs.filter fun pair => counts pair.2 = 1).foldl AssignmentRounds.assign state := by
  induction pairs generalizing state with
  | nil => rfl
  | cons pair pairs ih =>
    rw [List.map_cons] at hnodup
    obtain ⟨hfresh, hrest⟩ := List.nodup_cons.mp hnodup
    have hpair := hpresent pair List.mem_cons_self
    have hothers := fun other hother => hpresent other (List.mem_cons_of_mem _ hother)
    by_cases hcount : counts pair.2 = 1
    · rw [List.filter_cons_of_pos (by simpa using hcount), List.foldl_cons, List.foldl_cons,
        assignSingleton, if_neg (by simp [hcount, hpair])]
      refine ih hrest _ fun other hother => ?_
      have hne : other.1 ≠ pair.1 := fun heq => hfresh (List.mem_map.mpr ⟨other, hother, heq⟩)
      rw [state.find_remaining_assign, if_neg hne]
      simpa using hothers other hother
    · rw [List.filter_cons_of_neg (by simpa using hcount), List.foldl_cons, assignSingleton,
        if_pos (Or.inl hcount)]
      exact ih hrest state hothers

/-- A round assigns the pairs that are to be assigned. -/
theorem assignmentRound_eq (state : AssignmentRounds Left Right) :
    assignmentRound state =
      (assignedPairs state.remaining).foldl AssignmentRounds.assign
        { state with changed := false } := by
  refine foldl_assignSingleton _ nodup_singletons _ fun pair hpair => ?_
  obtain ⟨values, hfind, -⟩ := mem_singletons.mp hpair
  exact hfind ▸ Option.some_ne_none values

end Spec

/-! ### What the rounds assign -/

section Forced

variable (candidates : KeyedTable Left (ValueSet Right))

/-- The entities of a map. -/
def mappedEntities : Set Left := {left | candidates.find left ≠ none}

/-- The candidates that a map gives to an entity. -/
def mappedCandidates (left : Left) : Set Right :=
  {right | ∃ values ∈ candidates.find left, right ∈ values.1}

/-- Two maps give the same entities the same candidates, in any order. -/
def SameCandidates (others : KeyedTable Left (ValueSet Right)) : Prop :=
  ∀ left, Option.Rel (fun values others : ValueSet Right => values.1.Perm others.1)
    (candidates.find left) (others.find left)

/-- The variables of the rounds agree with the map that they started from: every pair is forced,
and what is left of the map is what no pair has taken. -/
structure AssignmentRounds.Tracks (state : AssignmentRounds Left Right) : Prop where
  forced : IsForced (mappedEntities candidates) (mappedCandidates candidates)
    state.assignments.find
  present : ∀ left, state.remaining.find left ≠ none ↔
    left ∈ mappedEntities candidates ∧ state.assignments.find left = none
  values : ∀ left values, state.remaining.find left = some values → ∀ right,
    right ∈ values.1 ↔
      right ∈ remainingCandidates (mappedCandidates candidates) state.assignments.find left

variable {candidates} {state : AssignmentRounds Left Right}

omit [DecidableEq Right] in
/-- Before the first round nothing is assigned. -/
theorem tracks_start :
    AssignmentRounds.Tracks candidates
      { remaining := candidates, assignments := .empty, changed := true } where
  forced := isForced_none
  present := by simp [mappedEntities]
  values := by
    intro left values hfind right
    dsimp only at hfind
    simp [remainingCandidates, mappedCandidates, hfind]

omit [DecidableEq Right] in
/-- The singletons are the open entities that are left with one candidate. -/
theorem AssignmentRounds.Tracks.onlyCandidate_iff (h : state.Tracks candidates) {left : Left}
    {right : Right} :
    OnlyCandidate (mappedEntities candidates) (mappedCandidates candidates)
        state.assignments.find left right ↔ (left, right) ∈ singletons state.remaining := by
  rw [mem_singletons]
  constructor
  · rintro ⟨hmem, hnone, hone⟩
    obtain ⟨values, hfind⟩ := Option.ne_none_iff_exists'.mp ((h.present left).mpr ⟨hmem, hnone⟩)
    refine ⟨values, hfind, List.perm_singleton.mp ?_⟩
    refine (List.perm_ext_iff_of_nodup values.2 (List.nodup_singleton right)).mpr fun other => ?_
    rw [h.values left values hfind, hone, List.mem_singleton]
    rfl
  · rintro ⟨values, hfind, hvalues⟩
    have hpresent := (h.present left).mp (hfind ▸ Option.some_ne_none values)
    refine ⟨hpresent.1, hpresent.2, Set.ext fun other => ?_⟩
    rw [← h.values left values hfind, hvalues, List.mem_singleton]
    rfl

/-- A round assigns the open entities whose one candidate no other one is left with alone. -/
theorem AssignmentRounds.Tracks.soleCandidate_iff (h : state.Tracks candidates) {left : Left}
    {right : Right} :
    SoleCandidate (mappedEntities candidates) (mappedCandidates candidates)
        state.assignments.find left right ↔ (left, right) ∈ assignedPairs state.remaining := by
  rw [mem_assignedPairs]
  constructor
  · rintro ⟨honly, hunique⟩
    exact ⟨h.onlyCandidate_iff.mp honly, fun other hother =>
      hunique other (h.onlyCandidate_iff.mpr hother)⟩
  · rintro ⟨hmem, hunique⟩
    exact ⟨h.onlyCandidate_iff.mpr hmem, fun other hother =>
      hunique other (h.onlyCandidate_iff.mp hother)⟩

/-- No entity is assigned twice in a round. -/
theorem nodup_assignedPairs {remaining : KeyedTable Left (ValueSet Right)} :
    ((assignedPairs remaining).map Prod.fst).Nodup :=
  nodup_singletons.sublist (List.filter_sublist.map Prod.fst)

/-- A pair is assigned after a round exactly when it was before or the round assigns it. -/
theorem AssignmentRounds.Tracks.find_assignments (h : state.Tracks candidates) (left : Left)
    (right : Right) :
    (assignmentRound state).assignments.find left = some right ↔
      state.assignments.find left = some right ∨
        (left, right) ∈ assignedPairs state.remaining := by
  rw [assignmentRound_eq, find_assignments_foldl_assign nodup_assignedPairs,
    KeyedTable.mem_iff_lookup nodup_assignedPairs]
  cases hlookup : (assignedPairs state.remaining).lookup left with
  | none => simp
  | some value =>
    have hsole := h.soleCandidate_iff.mpr
      ((KeyedTable.mem_iff_lookup nodup_assignedPairs).mpr hlookup)
    simp [hsole.only.unassigned]

/-- A round keeps the agreement. -/
theorem AssignmentRounds.Tracks.round (h : state.Tracks candidates) :
    (assignmentRound state).Tracks candidates where
  forced := by
    refine h.forced.round fun left right => ?_
    rw [h.find_assignments, h.soleCandidate_iff]
  present := by
    intro left
    have hassigned := h.find_assignments left
    rw [Option.eq_none_iff_forall_ne_some]
    simp only [ne_eq, hassigned, not_or]
    rw [assignmentRound_eq, find_remaining_foldl_assign]
    by_cases hmem : left ∈ (assignedPairs state.remaining).map Prod.fst
    · obtain ⟨⟨other, right⟩, hpair, rfl⟩ := List.mem_map.mp hmem
      simp only [hmem, if_true, not_true_eq_false, false_iff, not_and, not_forall]
      intro _
      exact ⟨right, fun _ => not_not.mpr hpair⟩
    · have hnot : ∀ right, (left, right) ∉ assignedPairs state.remaining := fun right hpair =>
        hmem (List.mem_map.mpr ⟨_, hpair, rfl⟩)
      have hpresent := h.present left
      rw [Option.eq_none_iff_forall_ne_some] at hpresent
      simpa [hmem, hnot] using hpresent
  values := by
    intro left values hfind right
    rw [assignmentRound_eq, find_remaining_foldl_assign] at hfind
    split at hfind
    · cases hfind
    next hmem =>
      obtain ⟨old, hold, rfl⟩ := Option.map_eq_some_iff.mp hfind
      dsimp only at hold
      simp only [ValueSet.without, List.mem_filter, decide_eq_true_eq, h.values left old hold,
        remainingCandidates, Set.mem_ofPred_eq, ne_eq, h.find_assignments, not_or, forall_and,
        and_assoc]
      refine and_congr_right fun _ => and_congr_right fun _ => ?_
      rw [List.mem_map]
      constructor
      · intro hnot other hpair
        exact hnot ⟨(other, right), hpair, rfl⟩
      · rintro hnot ⟨⟨other, value⟩, hpair, rfl⟩
        exact hnot other hpair

/-- A round that changes nothing leaves closed assignments. -/
theorem AssignmentRounds.Tracks.closed (h : state.Tracks candidates)
    (hchanged : (assignmentRound state).changed ≠ true) :
    IsClosed (mappedEntities candidates) (mappedCandidates candidates)
      (assignmentRound state).assignments.find := by
  have hnone : assignedPairs state.remaining = [] := by
    by_contra hne
    rw [assignmentRound_eq] at hchanged
    exact hchanged (changed_foldl_assign hne _)
  have hassigned : (assignmentRound state).assignments = state.assignments := by
    rw [assignmentRound_eq, hnone]
    rfl
  rw [hassigned]
  refine isClosed_of_no_sole fun left right hsole => ?_
  rw [h.soleCandidate_iff, hnone] at hsole
  exact List.not_mem_nil hsole

/-- The rounds end with forced and closed assignments. -/
theorem AssignmentRounds.Tracks.rounds (h : state.Tracks candidates) :
    IsForced (mappedEntities candidates) (mappedCandidates candidates)
        (assignmentRounds state).find ∧
      IsClosed (mappedEntities candidates) (mappedCandidates candidates)
        (assignmentRounds state).find := by
  induction state using assignmentRounds.induct with
  | case1 state hchanged ih =>
    rw [assignmentRounds, if_pos hchanged]
    exact ih h.round
  | case2 state hchanged =>
    rw [assignmentRounds, if_neg hchanged]
    exact ⟨h.round.forced, h.closed hchanged⟩

/-- The assignments are forced and closed. -/
theorem resolveUniqueProviderAssignments_tracks
    (candidates : KeyedTable Left (ValueSet Right)) :
    IsForced (mappedEntities candidates) (mappedCandidates candidates)
        (resolveUniqueProviderAssignments candidates).find ∧
      IsClosed (mappedEntities candidates) (mappedCandidates candidates)
        (resolveUniqueProviderAssignments candidates).find :=
  tracks_start.rounds

end Forced

/-! ### Orders of the map and of the sets -/

section Orders

variable {candidates others : KeyedTable Left (ValueSet Right)}

omit [DecidableEq Right] in
/-- An entity is in neither map, or has the same candidates in both. -/
theorem SameCandidates.cases (h : SameCandidates candidates others) (left : Left) :
    (candidates.find left = none ∧ others.find left = none) ∨
      ∃ values other, candidates.find left = some values ∧ others.find left = some other ∧
        values.1.Perm other.1 := by
  have hleft := h left
  generalize candidates.find left = found at hleft ⊢
  generalize others.find left = other at hleft ⊢
  cases hleft with
  | none => exact Or.inl ⟨rfl, rfl⟩
  | some hperm => exact Or.inr ⟨_, _, rfl, rfl, hperm⟩

omit [DecidableEq Right] in
/-- Maps that give the same candidates have the same singletons, in the same order. -/
theorem SameCandidates.singletons_eq (h : SameCandidates candidates others) :
    singletons candidates = singletons others := by
  have hmem : ∀ pair, pair ∈ singletons candidates ↔ pair ∈ singletons others := by
    rintro ⟨left, right⟩
    rw [mem_singletons, mem_singletons]
    rcases h.cases left with ⟨hfind, hother⟩ | ⟨values, other, hfind, hother, hperm⟩
    · simp [hfind, hother]
    · simp only [hfind, hother, Option.some.injEq, exists_eq_left']
      constructor
      · intro hvalues
        exact List.perm_singleton.mp (hperm.symm.trans (hvalues ▸ List.Perm.refl _))
      · intro hvalues
        exact List.perm_singleton.mp (hperm.trans (hvalues ▸ List.Perm.refl _))
  have hsorted : ∀ table : KeyedTable Left (ValueSet Right),
      (singletons table).Pairwise fun left right => left.1 ≤ right.1 := fun table =>
    List.pairwise_insertionSort (fun left right : Left × Right => left.1 ≤ right.1) _
  refine List.Perm.eq_of_pairwise ?_ (hsorted candidates) (hsorted others)
    ((List.perm_ext_iff_of_nodup nodup_singletons.of_map nodup_singletons.of_map).mpr hmem)
  intro left right hleft hright hle hge
  exact List.inj_on_of_nodup_map nodup_singletons hleft ((hmem right).mpr hright)
    (le_antisymm hle hge)

/-- Assigning a pair keeps maps that give the same candidates. -/
theorem SameCandidates.assign {state later : AssignmentRounds Left Right}
    (h : SameCandidates state.remaining later.remaining) (pair : Left × Right) :
    SameCandidates (state.assign pair).remaining (later.assign pair).remaining := by
  intro left
  rw [state.find_remaining_assign, later.find_remaining_assign]
  split
  · exact Option.Rel.none
  · rcases h.cases left with ⟨hfind, hother⟩ | ⟨values, other, hfind, hother, hperm⟩
    · rw [hfind, hother]
      exact Option.Rel.none
    · rw [hfind, hother]
      exact Option.Rel.some (hperm.filter _)

/-- Two states have assigned the same pairs, and their maps give the same candidates. -/
structure AssignmentRounds.Alike (state later : AssignmentRounds Left Right) : Prop where
  assignments : state.assignments = later.assignments
  changed : state.changed = later.changed
  remaining : SameCandidates state.remaining later.remaining

/-- Assigning the same pairs keeps states alike. -/
theorem AssignmentRounds.Alike.foldl_assign {state later : AssignmentRounds Left Right}
    (h : state.Alike later) (pairs : List (Left × Right)) :
    (pairs.foldl AssignmentRounds.assign state).Alike
      (pairs.foldl AssignmentRounds.assign later) := by
  induction pairs generalizing state later with
  | nil => exact h
  | cons pair pairs ih =>
    refine ih ⟨?_, rfl, h.remaining.assign pair⟩
    rw [AssignmentRounds.assign, AssignmentRounds.assign, h.assignments]

/-- A round keeps states alike. -/
theorem AssignmentRounds.Alike.round {state later : AssignmentRounds Left Right}
    (h : state.Alike later) : (assignmentRound state).Alike (assignmentRound later) := by
  have hpairs : assignedPairs state.remaining = assignedPairs later.remaining := by
    rw [assignedPairs, assignedPairs, h.remaining.singletons_eq]
  have hstart : AssignmentRounds.Alike { state with changed := false }
      { later with changed := false } := ⟨h.assignments, rfl, h.remaining⟩
  rw [assignmentRound_eq, assignmentRound_eq, hpairs]
  exact hstart.foldl_assign _

/-- The rounds of states that are alike assign the same pairs. -/
theorem AssignmentRounds.Alike.rounds {state later : AssignmentRounds Left Right}
    (h : state.Alike later) : assignmentRounds state = assignmentRounds later := by
  induction state using assignmentRounds.induct generalizing later with
  | case1 state hchanged ih =>
    have hlater := h.round.changed.symm.trans hchanged
    rw [assignmentRounds, if_pos hchanged, ih h.round]
    conv_rhs => rw [assignmentRounds, if_pos hlater]
  | case2 state hchanged =>
    have hlater : (assignmentRound later).changed ≠ true := h.round.changed ▸ hchanged
    rw [assignmentRounds, if_neg hchanged, h.round.assignments]
    conv_rhs => rw [assignmentRounds, if_neg hlater]

end Orders

/-- The assignments are forced and closed, and depend on neither the order of the map nor that of
its sets. -/
theorem resolveUniqueProviderAssignments_forced (candidates : KeyedTable Left (ValueSet Right)) :
    IsForced (mappedEntities candidates) (mappedCandidates candidates)
        (resolveUniqueProviderAssignments candidates).find ∧
      IsClosed (mappedEntities candidates) (mappedCandidates candidates)
        (resolveUniqueProviderAssignments candidates).find ∧
      ∀ others, SameCandidates candidates others →
        resolveUniqueProviderAssignments others = resolveUniqueProviderAssignments candidates := by
  obtain ⟨hforced, hclosed⟩ := resolveUniqueProviderAssignments_tracks candidates
  refine ⟨hforced, hclosed, fun others hsame => ?_⟩
  have halike : AssignmentRounds.Alike
      { remaining := candidates, assignments := .empty, changed := true }
      { remaining := others, assignments := .empty, changed := true } := ⟨rfl, rfl, hsame⟩
  exact halike.rounds.symm

end Rounds

/-! ### Candidates seen together often enough -/

/-- The matches in which a player of one provider was seen as a player of the other one. -/
def observationsOf (observationsByPair : KeyedTable String (ValueSet ℕ))
    (playerCode playerId : ℕ) : ℕ :=
  ((observationsByPair.find (toString playerCode ++ ":" ++ toString playerId)).map
    (·.1.length)).getD 0

/-- `candidatesWithMinimumMatchObservations`; callers that name no minimum ask for two. -/
def candidatesWithMinimumMatchObservations (candidatesByPlayer : KeyedTable ℕ (ValueSet ℕ))
    (observationsByPair : KeyedTable String (ValueSet ℕ)) (minimumObservations : ℕ) :
    KeyedTable ℕ (ValueSet ℕ) :=
  ⟨candidatesByPlayer.entries.map fun entry =>
      (entry.1, ⟨entry.2.1.filter fun playerId =>
        minimumObservations ≤ observationsOf observationsByPair entry.1 playerId,
        entry.2.2.filter _⟩), by
    rw [List.map_map]
    exact candidatesByPlayer.distinct⟩

/-- Players are assigned to candidates that they were seen as often enough. -/
theorem observed_of_assigned {candidatesByPlayer : KeyedTable ℕ (ValueSet ℕ)}
    {observationsByPair : KeyedTable String (ValueSet ℕ)} {minimumObservations : ℕ}
    {playerCode playerId : ℕ}
    (h : (resolveUniqueProviderAssignments (candidatesWithMinimumMatchObservations
      candidatesByPlayer observationsByPair minimumObservations)).find playerCode =
        some playerId) :
    playerId ∈ mappedCandidates candidatesByPlayer playerCode ∧
      minimumObservations ≤ observationsOf observationsByPair playerCode playerId := by
  have hforced := (resolveUniqueProviderAssignments_tracks
    (candidatesWithMinimumMatchObservations candidatesByPlayer observationsByPair
      minimumObservations)).1
  obtain ⟨values, hfind, hmem⟩ := (hforced.candidate playerCode playerId h).2
  obtain ⟨⟨code, old⟩, hentry, heq⟩ := List.mem_map.mp (KeyedTable.mem_entries_iff.mpr hfind)
  obtain ⟨rfl, rfl⟩ := Prod.mk.inj heq
  obtain ⟨hold, hobserved⟩ := List.mem_filter.mp hmem
  exact ⟨⟨old, KeyedTable.mem_entries_iff.mp hentry, hold⟩, of_decide_eq_true hobserved⟩

/-- A player who was seen in two matches as another one. -/
theorem observed_of_assigned_twoMatches :
    let candidates : KeyedTable ℕ (ValueSet ℕ) := ⟨[(7, ⟨[3, 4], by decide⟩)], by decide⟩
    let observations : KeyedTable String (ValueSet ℕ) :=
      ⟨[("7:3", ⟨[1, 2], by decide⟩), ("7:4", ⟨[1], by decide⟩)], by decide⟩
    3 ∈ mappedCandidates candidates 7 ∧ 2 ≤ observationsOf observations 7 3 :=
  observed_of_assigned (by decide +kernel)

end LetletmeData
