import Mathlib.Data.List.Induction
import Mathlib.Data.Set.Finite.Lemmas

/-!
# Ranks shared by ties

Entries are sorted by a score, smaller scores first, and each key is mapped to the place of
the last entry that has it. Entries with equal scores then share the number of entries that
score at least as well. A cut of the ranks takes as many entries as it is deep exactly when
no tie lies across it.
-/

namespace LetletmeData.Library

variable {α κ β : Type*} [LinearOrder β] (score : α → β) (entries : List α)

/-- The number of entries that score at least as well. -/
def atLeastAsGood (entry : α) : ℕ := entries.countP fun other => score other ≤ score entry

/-- The number of entries that score better. -/
def strictlyBetter (entry : α) : ℕ := entries.countP fun other => score other < score entry

/-- Map each key to the place of the last entry that has it. -/
def lastPlaces (key : α → κ) (entries : List α) : List (κ × ℕ) :=
  entries.zipIdx.foldl (fun places (entry, index) => (key entry, index + 1) :: places) []

/-- The next entry takes the next place. -/
theorem lastPlaces_concat (key : α → κ) (entries : List α) (entry : α) :
    lastPlaces key (entries ++ [entry]) =
      (key entry, entries.length + 1) :: lastPlaces key entries := by
  simp [lastPlaces, List.zipIdx_append]

variable {score entries}

/-- Ranks do not depend on the order of the entries. -/
theorem atLeastAsGood_perm {others : List α} (h : entries.Perm others) (entry : α) :
    atLeastAsGood score entries entry = atLeastAsGood score others entry :=
  h.countP_eq _

/-- After sorting, the last place of a key is the number of entries at least as good. -/
theorem lookup_lastPlaces [DecidableEq κ] {key : α → κ}
    (hkey : ∀ left right, key left = key right ↔ score left = score right)
    (hsorted : entries.Pairwise fun left right => score left ≤ score right) {entry : α}
    (hentry : entry ∈ entries) :
    (lastPlaces key entries).lookup (key entry) = some (atLeastAsGood score entries entry) := by
  induction entries using List.reverseRecOn with
  | nil => exact absurd hentry List.not_mem_nil
  | append_singleton earlier last ih =>
    obtain ⟨hearlier, -, hbefore⟩ := List.pairwise_append.mp hsorted
    have hle : ∀ other ∈ earlier, score other ≤ score last :=
      fun other hother => hbefore other hother last (List.mem_singleton_self last)
    rw [lastPlaces_concat, atLeastAsGood, List.countP_append, List.countP_singleton]
    by_cases hsame : key entry = key last
    · have hscore := (hkey entry last).mp hsame
      have hall : earlier.countP (fun other => score other ≤ score last) = earlier.length := by
        rw [List.countP_eq_length]
        intro other hother
        simpa using hle other hother
      simp [hsame, hall, hscore]
    · have hmem : entry ∈ earlier := by
        rcases List.mem_append.mp hentry with hmem | hlast
        · exact hmem
        · exact absurd (congrArg key (List.mem_singleton.mp hlast)) hsame
      have hworse : ¬ score last ≤ score entry := fun hge =>
        hsame ((hkey entry last).mpr (le_antisymm (hle entry hmem) hge))
      have hother : (key entry == key last) = false := beq_false_of_ne hsame
      simp [List.lookup_cons, hother, hworse, ih hearlier hmem, atLeastAsGood]

/-- Among the entries with a property, some entry is the best. -/
theorem exists_best {property : α → Prop} (h : ∃ entry ∈ entries, property entry) :
    ∃ best ∈ entries, property best ∧
      ∀ other ∈ entries, property other → score best ≤ score other := by
  obtain ⟨best, ⟨hmem, hproperty⟩, hbest⟩ :=
    Set.exists_min_image {entry | entry ∈ entries ∧ property entry} score
      ((List.finite_toSet entries).subset fun entry hentry => hentry.1) h
  exact ⟨best, hmem, hproperty, fun other hother hholds => hbest other ⟨hother, hholds⟩⟩

/-- Among the entries with a property, some entry is the worst. -/
theorem exists_worst {property : α → Prop} (h : ∃ entry ∈ entries, property entry) :
    ∃ worst ∈ entries, property worst ∧
      ∀ other ∈ entries, property other → score other ≤ score worst := by
  obtain ⟨worst, ⟨hmem, hproperty⟩, hworst⟩ :=
    Set.exists_max_image {entry | entry ∈ entries ∧ property entry} score
      ((List.finite_toSet entries).subset fun entry hentry => hentry.1) h
  exact ⟨worst, hmem, hproperty, fun other hother hholds => hworst other ⟨hother, hholds⟩⟩

/-- A better score is never ranked behind a worse one. -/
theorem atLeastAsGood_mono {left right : α} (h : score left ≤ score right) :
    atLeastAsGood score entries left ≤ atLeastAsGood score entries right :=
  List.countP_mono_left fun _ _ hle => by
    simp only [decide_eq_true_eq] at hle ⊢
    exact hle.trans h

/-- A strictly better score is ranked strictly before a worse one. -/
theorem atLeastAsGood_lt {left right : α} (h : score left < score right) (hright : right ∈ entries) :
    atLeastAsGood score entries left < atLeastAsGood score entries right := by
  obtain ⟨before, after, rfl⟩ := List.append_of_mem hright
  have hbefore : atLeastAsGood score before left ≤ atLeastAsGood score before right :=
    atLeastAsGood_mono h.le
  have hafter : atLeastAsGood score after left ≤ atLeastAsGood score after right :=
    atLeastAsGood_mono h.le
  simp only [atLeastAsGood, List.countP_append, List.countP_cons, not_le.mpr h, le_refl,
    decide_false, decide_true, if_true, Bool.false_eq_true, if_false] at hbefore hafter ⊢
  omega

/-- The rank of an entry is counted on the scores alone. -/
theorem atLeastAsGood_eq_countP_map (entry : α) :
    atLeastAsGood score entries entry =
      (entries.map score).countP fun other => other ≤ score entry := by
  rw [List.countP_map]
  rfl

/-- Without ties the ranks are the places. -/
theorem map_atLeastAsGood_perm (h : (entries.map score).Nodup) :
    (entries.map (atLeastAsGood score entries)).Perm (List.range' 1 entries.length) := by
  have hnodup : (entries.map (atLeastAsGood score entries)).Nodup := by
    refine List.Nodup.map_on ?_ (List.Nodup.of_map _ h)
    intro left hleft right hright hrank
    rcases lt_trichotomy (score left) (score right) with hlt | heq | hgt
    · exact absurd hrank (atLeastAsGood_lt hlt hright).ne
    · exact List.inj_on_of_nodup_map h hleft hright heq
    · exact absurd hrank (atLeastAsGood_lt hgt hleft).ne'
  have hsubset : entries.map (atLeastAsGood score entries) ⊆ List.range' 1 entries.length := by
    intro rank hrank
    obtain ⟨entry, hentry, rfl⟩ := List.mem_map.mp hrank
    have hpositive : 0 < atLeastAsGood score entries entry :=
      List.countP_pos_iff.mpr ⟨entry, hentry, by simp⟩
    have hbound : atLeastAsGood score entries entry ≤ entries.length := List.countP_le_length
    rw [List.mem_range'_1]
    omega
  refine (hnodup.subperm hsubset).perm_of_length_le ?_
  rw [List.length_map, List.length_range']

/-- No more entries are ranked within a cut than it is deep. -/
theorem countP_rank_le (cut : ℕ) :
    entries.countP (fun entry => atLeastAsGood score entries entry ≤ cut) ≤ cut := by
  by_cases hsome : ∃ entry ∈ entries, atLeastAsGood score entries entry ≤ cut
  · obtain ⟨worst, -, hwithin, hworst⟩ := @exists_worst α β _ score entries _ hsome
    refine le_trans (List.countP_mono_left fun entry hentry hrank => ?_) hwithin
    simp only [decide_eq_true_eq] at hrank ⊢
    exact hworst entry hentry hrank
  · rw [List.countP_eq_zero.mpr]
    · exact Nat.zero_le cut
    · intro entry hentry hrank
      exact hsome ⟨entry, hentry, by simpa using hrank⟩

/-- Some tie lies across the cut: it starts within and ends beyond it. -/
def TieAcross (score : α → β) (entries : List α) (cut : ℕ) : Prop :=
  ∃ entry ∈ entries,
    strictlyBetter score entries entry < cut ∧ cut < atLeastAsGood score entries entry

/-- Within a cut that is not deeper than the field, exactly as many entries are ranked as it
is deep, unless a tie lies across it. -/
theorem countP_rank_le_eq_iff {cut : ℕ} (hcut : cut ≤ entries.length) :
    entries.countP (fun entry => atLeastAsGood score entries entry ≤ cut) = cut ↔
      ¬ TieAcross score entries cut := by
  constructor
  · rintro hcount ⟨entry, hentry, hbetter, hrank⟩
    have hfew : entries.countP (fun other => atLeastAsGood score entries other ≤ cut) ≤
        strictlyBetter score entries entry := by
      refine List.countP_mono_left fun other _ hother => ?_
      simp only [decide_eq_true_eq] at hother ⊢
      by_contra hnot
      have := @atLeastAsGood_mono α β _ score entries entry other (not_lt.mp hnot)
      omega
    omega
  · intro hnone
    by_contra hne
    have hlt : entries.countP (fun entry => atLeastAsGood score entries entry ≤ cut) < cut :=
      lt_of_le_of_ne (countP_rank_le cut) hne
    -- the best entry beyond the cut belongs to a tie across it
    have hbeyond : ∃ entry ∈ entries, cut < atLeastAsGood score entries entry := by
      by_contra hall
      have hevery : entries.countP (fun entry => atLeastAsGood score entries entry ≤ cut) =
          entries.length := by
        rw [List.countP_eq_length]
        intro entry hentry
        by_contra hrank
        exact hall ⟨entry, hentry, by simpa using hrank⟩
      omega
    obtain ⟨best, hmem, hrank, hbest⟩ := @exists_best α β _ score entries _ hbeyond
    refine hnone ⟨best, hmem, lt_of_le_of_lt (List.countP_mono_left fun other hother hlt' => ?_) hlt,
      hrank⟩
    simp only [decide_eq_true_eq] at hlt' ⊢
    by_contra hother'
    exact absurd (hbest other hother (not_le.mp hother')) (not_le.mpr hlt')

end LetletmeData.Library
