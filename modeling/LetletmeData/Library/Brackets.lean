import Mathlib.Algebra.Order.Ring.Nat
import Mathlib.Data.List.Nodup
import Mathlib.Data.List.Perm.Lattice
import Mathlib.Data.List.Range
import Mathlib.Order.Basic
import Mathlib.Tactic.Ring

/-!
# Brackets

How the matches of a bracket are numbered, who is drawn against whom, and what deciding matches
again changes.
-/

namespace LetletmeData.Library

/-! ## Numbering the matches of halving rounds

A bracket over `2 ^ rounds` slots has `2 ^ (rounds - round)` matches in each round. They
are numbered from one, round after round, and the match at an index of a round feeds the
match at half that index of the next round.
-/

section HalvingRounds

/-- The number of the first match of a round. -/
def roundStart (rounds round : ℕ) : ℕ := 2 ^ rounds - 2 ^ (rounds + 1 - round) + 1

variable {rounds round : ℕ}

/-- A round's matches follow those of all earlier rounds. -/
theorem roundStart_succ (hpos : 1 ≤ round) (hround : round ≤ rounds) :
    roundStart rounds (round + 1) = roundStart rounds round + 2 ^ (rounds - round) := by
  have hhalf : 2 ^ (rounds + 1 - round) = 2 * 2 ^ (rounds - round) := by
    rw [show rounds + 1 - round = rounds - round + 1 by omega, pow_succ']
  have hle : 2 ^ (rounds + 1 - round) ≤ 2 ^ rounds :=
    Nat.pow_le_pow_right (by omega) (by omega)
  simp only [roundStart, show rounds + 1 - (round + 1) = rounds - round by omega]
  omega

/-- The first round starts with match one. -/
@[simp] theorem roundStart_one (rounds : ℕ) : roundStart rounds 1 = 1 := by
  simp [roundStart]

/-- After the last round every number up to the bracket size is used. -/
theorem roundStart_end (rounds : ℕ) : roundStart rounds (rounds + 1) = 2 ^ rounds := by
  have := Nat.one_le_two_pow (n := rounds)
  simp only [roundStart, Nat.sub_self, pow_zero]
  omega

/-- The numbers of the first rounds, in order. -/
theorem flatMap_roundStart (count : ℕ) (hcount : count ≤ rounds) :
    ((List.range' 1 count).flatMap fun round =>
        List.range' (roundStart rounds round) (2 ^ (rounds - round))) =
      List.range' 1 (roundStart rounds (count + 1) - 1) := by
  induction count with
  | zero => simp
  | succ count ih =>
    have hstep := @roundStart_succ rounds (count + 1) (by omega) hcount
    have hstart : 1 ≤ roundStart rounds (count + 1) := Nat.le_add_left 1 _
    rw [List.range'_concat, List.flatMap_append, ih (by omega), hstep]
    simp only [List.flatMap_cons, List.flatMap_nil, List.append_nil, one_mul, Nat.add_comm 1 count]
    have hnumbers : roundStart rounds (count + 1) + 2 ^ (rounds - (count + 1)) - 1 =
        roundStart rounds (count + 1) - 1 + 2 ^ (rounds - (count + 1)) :=
      Nat.sub_add_comm hstart
    rw [hnumbers, ← List.range'_append_1, Nat.add_sub_cancel' hstart]

/-- A later round starts after every match of an earlier one. -/
theorem roundStart_mono {earlier later : ℕ} (hpos : 1 ≤ earlier) (hlt : earlier < later)
    (hlater : later ≤ rounds) :
    roundStart rounds earlier + 2 ^ (rounds - earlier) ≤ roundStart rounds later := by
  induction later, Nat.succ_le_of_lt hlt using Nat.le_induction with
  | base => rw [roundStart_succ hpos (by omega)]
  | succ later hle ih =>
    have hstep := @roundStart_succ rounds later (by omega) (by omega)
    exact (ih (by omega) (by omega)).trans (hstep ▸ Nat.le_add_right _ _)

/-- A match number determines its round and its index. -/
theorem roundStart_add_injective {r₁ r₂ i₁ i₂ : ℕ} (h₁ : 1 ≤ r₁ ∧ r₁ ≤ rounds)
    (h₂ : 1 ≤ r₂ ∧ r₂ ≤ rounds) (hi₁ : i₁ < 2 ^ (rounds - r₁)) (hi₂ : i₂ < 2 ^ (rounds - r₂))
    (heq : roundStart rounds r₁ + i₁ = roundStart rounds r₂ + i₂) : r₁ = r₂ ∧ i₁ = i₂ := by
  rcases Nat.lt_trichotomy r₁ r₂ with hlt | rfl | hlt
  · have := roundStart_mono h₁.1 hlt h₂.2
    omega
  · exact ⟨rfl, by omega⟩
  · have := roundStart_mono h₂.1 hlt h₁.2
    omega

/-! ### Numbering by arrival -/

/-- Keys in the order they arrive, each with the number of earlier ones that equal it. -/
def numberedBy {κ : Type*} [DecidableEq κ] : List κ → List κ → List (κ × ℕ)
  | _, [] => []
  | before, key :: rest => (key, before.count key) :: numberedBy (before ++ [key]) rest

section NumberedBy

variable {κ : Type*} [DecidableEq κ]

/-- The keys keep their order. -/
@[simp] theorem map_fst_numberedBy (before keys : List κ) :
    (numberedBy before keys).map Prod.fst = keys := by
  induction keys generalizing before with
  | nil => rfl
  | cons key rest ih => simp [numberedBy, ih]

/-- Numbers begin behind those of the keys that arrived before. -/
theorem count_le_of_mem_numberedBy {before keys : List κ} {place : κ × ℕ}
    (h : place ∈ numberedBy before keys) : before.count place.1 ≤ place.2 := by
  induction keys generalizing before with
  | nil => cases h
  | cons key rest ih =>
    rcases List.mem_cons.mp h with rfl | hrest
    · exact le_refl _
    · have hlater := ih hrest
      rw [List.count_append] at hlater
      omega

/-- No two keys are numbered alike. -/
theorem nodup_numberedBy (before keys : List κ) : (numberedBy before keys).Nodup := by
  induction keys generalizing before with
  | nil => exact List.nodup_nil
  | cons key rest ih =>
    refine List.nodup_cons.mpr ⟨fun hmem => ?_, ih _⟩
    have hlater := count_le_of_mem_numberedBy hmem
    simp at hlater

end NumberedBy

end HalvingRounds

/-! ## The reflected draw of a single-elimination bracket

Doubling a bracket puts next to each seed its reflection in the larger field, so that
adjacent seeds always sum to one more than the field. Successive adjacent pairing then
keeps the best `2 ^ k` seeds in different subtrees of equal size, and the better seeds of
each round are the draw of half the field.
-/

/-- The seeds of a field of `2 ^ k` in bracket order. -/
def reflectedOrder : ℕ → List ℕ
  | 0 => [1]
  | k + 1 => (reflectedOrder k).flatMap fun seed => [seed, 2 ^ (k + 1) + 1 - seed]

section Pairs

variable {α β : Type*}

/-- The first of each emitted pair stands at the even positions. -/
theorem getElem?_flatMap_pair_even (first second : α → β) (seeds : List α) (i : ℕ) :
    (seeds.flatMap fun seed => [first seed, second seed])[2 * i]? = seeds[i]?.map first := by
  induction seeds generalizing i with
  | nil => simp
  | cons seed rest ih =>
    cases i with
    | zero => rfl
    | succ i =>
      rw [show 2 * (i + 1) = 2 * i + 1 + 1 by ring]
      simpa using ih i

/-- The second of each emitted pair stands at the odd positions. -/
theorem getElem?_flatMap_pair_odd (first second : α → β) (seeds : List α) (i : ℕ) :
    (seeds.flatMap fun seed => [first seed, second seed])[2 * i + 1]? =
      seeds[i]?.map second := by
  induction seeds generalizing i with
  | nil => simp
  | cons seed rest ih =>
    cases i with
    | zero => rfl
    | succ i =>
      rw [show 2 * (i + 1) + 1 = 2 * i + 1 + 1 + 1 by ring]
      simpa using ih i

/-- One round: adjacent slots meet and the winner takes their place. -/
def playRound (winner : α → α → α) : List α → List α
  | first :: second :: rest => winner first second :: playRound winner rest
  | _ => []

/-- The slots that remain after the given number of rounds. -/
def afterRounds (winner : α → α → α) (slots : List α) : ℕ → List α
  | 0 => slots
  | round + 1 => playRound winner (afterRounds winner slots round)

/-- Playing a round of emitted pairs maps each pair to its winner. -/
theorem playRound_flatMap_pair (winner : β → β → β) (first second : α → β) (seeds : List α) :
    playRound winner (seeds.flatMap fun seed => [first seed, second seed]) =
      seeds.map fun seed => winner (first seed) (second seed) := by
  induction seeds with
  | nil => rfl
  | cons seed rest ih => simpa [playRound] using ih

/-- A round halves the slots. -/
theorem length_playRound (winner : α → α → α) (slots : List α) :
    (playRound winner slots).length = slots.length / 2 := by
  fun_induction playRound winner slots with
  | case1 first second rest ih =>
    simp only [List.length_cons, ih]
    omega
  | case2 slots hfew =>
    rcases slots with _ | ⟨first, _ | ⟨second, rest⟩⟩
    · simp
    · simp
    · exact absurd rfl (hfew first second rest)

/-- Every round halves the slots. -/
theorem length_afterRounds (winner : α → α → α) (slots : List α) (round : ℕ) :
    (afterRounds winner slots round).length = slots.length / 2 ^ round := by
  induction round with
  | zero => simp [afterRounds]
  | succ round ih => rw [afterRounds, length_playRound, ih, Nat.div_div_eq_div_mul, pow_succ]

end Pairs

/-- The draw holds exactly the seeds of its field. -/
theorem mem_reflectedOrder {k seed : ℕ} :
    seed ∈ reflectedOrder k ↔ 1 ≤ seed ∧ seed ≤ 2 ^ k := by
  induction k generalizing seed with
  | zero => simp [reflectedOrder]; omega
  | succ k ih =>
    have hpow : 2 ^ (k + 1) = 2 * 2 ^ k := pow_succ' 2 k
    simp only [reflectedOrder, List.mem_flatMap, List.mem_cons, List.not_mem_nil, or_false]
    constructor
    · rintro ⟨base, hbase, rfl | rfl⟩ <;> have := ih.mp hbase <;> omega
    · intro hseed
      by_cases hlow : seed ≤ 2 ^ k
      · exact ⟨seed, ih.mpr ⟨hseed.1, hlow⟩, Or.inl rfl⟩
      · exact ⟨2 ^ (k + 1) + 1 - seed, ih.mpr (by omega), Or.inr (by omega)⟩

/-- No seed is drawn twice. -/
theorem nodup_reflectedOrder (k : ℕ) : (reflectedOrder k).Nodup := by
  induction k with
  | zero => simp [reflectedOrder]
  | succ k ih =>
    have hpow : 2 ^ (k + 1) = 2 * 2 ^ k := pow_succ' 2 k
    rw [reflectedOrder, List.nodup_flatMap]
    refine ⟨?_, ?_⟩
    · intro seed hseed
      have hbounds := mem_reflectedOrder.mp hseed
      simp only [List.nodup_cons, List.mem_singleton, List.not_mem_nil, not_false_eq_true,
        List.nodup_nil, and_true]
      omega
    · refine ih.imp_of_mem fun {left right} hleft hright hne => ?_
      have hl := mem_reflectedOrder.mp hleft
      have hr := mem_reflectedOrder.mp hright
      simp only [Function.onFun, List.disjoint_cons_left, List.mem_cons, List.not_mem_nil,
        or_false, List.disjoint_nil_left, and_true]
      omega

/-- The draw is a reordering of the seeds from best to worst. -/
theorem reflectedOrder_perm (k : ℕ) : (reflectedOrder k).Perm (List.range' 1 (2 ^ k)) := by
  refine (List.perm_ext_iff_of_nodup (nodup_reflectedOrder k) List.nodup_range').mpr ?_
  intro seed
  rw [mem_reflectedOrder, List.mem_range'_1]
  omega

/-- A draw of `2 ^ k` seeds has as many slots. -/
@[simp] theorem length_reflectedOrder (k : ℕ) : (reflectedOrder k).length = 2 ^ k := by
  rw [(reflectedOrder_perm k).length_eq, List.length_range']

/-- A seed of the smaller field keeps its place at every doubling: its slot in the larger
draw lies in the subtree that grew from its slot in the smaller one. -/
theorem getElem?_reflectedOrder_div {k seed : ℕ} (hseed : seed ≤ 2 ^ k) (doublings i : ℕ)
    (hi : (reflectedOrder (k + doublings))[i]? = some seed) :
    (reflectedOrder k)[i / 2 ^ doublings]? = some seed := by
  induction doublings generalizing i with
  | zero => simpa using hi
  | succ doublings ih =>
    have hgrow : 2 ^ k ≤ 2 ^ (k + doublings) := Nat.pow_le_pow_right (by omega) (by omega)
    rw [← add_assoc, reflectedOrder] at hi
    rw [pow_succ', ← Nat.div_div_eq_div_mul]
    apply ih
    rcases Nat.even_or_odd' i with ⟨half, rfl | rfl⟩
    · rw [getElem?_flatMap_pair_even (fun s => s)] at hi
      simpa using hi
    · -- the reflected half of a doubling only holds seeds beyond the smaller field
      rw [getElem?_flatMap_pair_odd (fun s => s)] at hi
      obtain ⟨base, hbase, hreflect⟩ := Option.map_eq_some_iff.mp hi
      have hbounds := mem_reflectedOrder.mp (List.mem_of_getElem? hbase)
      rw [pow_succ'] at hreflect
      omega

/-- The best `2 ^ k` seeds lie in different subtrees of `2 ^ doublings` slots. -/
theorem reflectedOrder_separated {k : ℕ} (doublings : ℕ) {i j left right : ℕ}
    (hi : (reflectedOrder (k + doublings))[i]? = some left)
    (hj : (reflectedOrder (k + doublings))[j]? = some right)
    (hleft : left ≤ 2 ^ k) (hright : right ≤ 2 ^ k) (hne : left ≠ right) :
    i / 2 ^ doublings ≠ j / 2 ^ doublings := by
  intro hsame
  have hl := getElem?_reflectedOrder_div hleft doublings i hi
  have hr := getElem?_reflectedOrder_div hright doublings j hj
  rw [hsame, hr] at hl
  exact hne (Option.some.inj hl).symm

section Rounds

variable {α : Type*} (winner : α → α → α) (slot : ℕ → α) {k : ℕ}

/-- When the better seed wins every pair of the draw, the rounds walk back down the
doublings. -/
theorem afterRounds_reflectedOrder
    (hwinner : ∀ better worse, 1 ≤ better → better < worse → worse ≤ 2 ^ k →
      winner (slot better) (slot worse) = slot better)
    {round : ℕ} (hround : round ≤ k) :
    afterRounds winner ((reflectedOrder k).map slot) round =
      (reflectedOrder (k - round)).map slot := by
  induction round with
  | zero => rfl
  | succ round ih =>
    obtain ⟨rest, hrest⟩ : ∃ rest, k - round = rest + 1 := ⟨k - (round + 1), by omega⟩
    have hfield : 2 ^ (rest + 1) ≤ 2 ^ k := Nat.pow_le_pow_right (by omega) (by omega)
    rw [afterRounds, ih (by omega), hrest, show k - (round + 1) = rest by omega, reflectedOrder,
      List.map_flatMap]
    simp only [List.map_cons, List.map_nil]
    rw [playRound_flatMap_pair winner slot fun seed => slot (2 ^ (rest + 1) + 1 - seed)]
    refine List.map_congr_left fun seed hseed => ?_
    have hbounds := mem_reflectedOrder.mp hseed
    have hpow : 2 ^ (rest + 1) = 2 * 2 ^ rest := pow_succ' 2 rest
    exact hwinner seed _ hbounds.1 (by omega) (by omega)

end Rounds

/-- Adjacent seeds of a draw sum to one more than its field, so they are not both among
the best `2 ^ k` of a larger field. -/
theorem reflectedOrder_adjacent {k field i left right : ℕ} (hk : 2 ^ k < 2 ^ field)
    (hi : (reflectedOrder field)[2 * i]? = some left)
    (hj : (reflectedOrder field)[2 * i + 1]? = some right) :
    ¬ (left ≤ 2 ^ k ∧ right ≤ 2 ^ k) := by
  obtain _ | field := field
  · have := Nat.one_le_two_pow (n := k)
    omega
  · have hle : 2 ^ k ≤ 2 ^ field :=
      Nat.pow_le_pow_right (by omega) (by have := (Nat.pow_lt_pow_iff_right (by omega)).mp hk; omega)
    rw [reflectedOrder, getElem?_flatMap_pair_even (fun s => s)] at hi
    rw [reflectedOrder, getElem?_flatMap_pair_odd (fun s => s)] at hj
    obtain ⟨base, hbase, rfl⟩ := Option.map_eq_some_iff.mp hi
    rw [hbase] at hj
    obtain rfl : 2 ^ (field + 1) + 1 - base = right := by simpa using hj
    rw [pow_succ']
    omega

/-! ## Elimination brackets

A match is played by the entries seeded into it and by the winners of the matches that feed
it. Only winners are kept: who plays a match follows from them, so deciding a match again
changes who plays the match it feeds, whether or not that one was decided before.
-/

namespace Elimination

variable {Match Entry : Type*} (feeds : Match → Match → Prop) (seeded : Match → Entry → Prop)

/-- An entry plays a match when it is seeded there or won a match that feeds it. -/
def Plays (winner : Match → Option Entry) (game : Match) (entry : Entry) : Prop :=
  seeded game entry ∨ ∃ feeder, feeds feeder game ∧ winner feeder = some entry

/-- Every winner plays the match it won. -/
def WinnersPlay (winner : Match → Option Entry) : Prop :=
  ∀ game, ∀ entry ∈ winner game, Plays feeds seeded winner game entry

/-- The matches of a round, none of which feeds another, are decided among their players, and
no other match is. -/
structure RoundDecided (round : Match → Prop) (winner winner' : Match → Option Entry) : Prop where
  others : ∀ game, ¬ round game → winner' game = winner game
  winners_play : ∀ game, round game → ∀ entry ∈ winner' game, Plays feeds seeded winner game entry
  separate : ∀ feeder game, feeds feeder game → round feeder → ¬ round game

variable {feeds seeded} {round : Match → Prop} {winner winner' : Match → Option Entry}

/-- Who plays a match that the round does not feed stays. -/
theorem RoundDecided.plays_iff (h : RoundDecided feeds seeded round winner winner') {game : Match}
    (hfed : ∀ feeder, feeds feeder game → ¬ round feeder) (entry : Entry) :
    Plays feeds seeded winner' game entry ↔ Plays feeds seeded winner game entry := by
  refine or_congr Iff.rfl (exists_congr fun feeder => and_congr_right fun hfeeds => ?_)
  rw [h.others feeder (hfed feeder hfeeds)]

/-- After a round is decided the winners play their matches exactly when those of the matches
it feeds, which were decided before, are still among the players. -/
theorem RoundDecided.winnersPlay_iff (h : RoundDecided feeds seeded round winner winner')
    (hplay : WinnersPlay feeds seeded winner) :
    WinnersPlay feeds seeded winner' ↔
      ∀ feeder game, feeds feeder game → round feeder →
        ∀ entry ∈ winner game, Plays feeds seeded winner' game entry := by
  constructor
  · intro hplay' feeder game hfeeds hround entry hentry
    refine hplay' game entry ?_
    rwa [h.others game (h.separate feeder game hfeeds hround)]
  · intro hkept game entry hentry
    by_cases hfed : ∃ feeder, feeds feeder game ∧ round feeder
    · obtain ⟨feeder, hfeeds, hround⟩ := hfed
      rw [h.others game (h.separate feeder game hfeeds hround)] at hentry
      exact hkept feeder game hfeeds hround entry hentry
    · rw [h.plays_iff fun feeder hfeeds hround => hfed ⟨feeder, hfeeds, hround⟩]
      by_cases hround : round game
      · exact h.winners_play game hround entry hentry
      · rw [h.others game hround] at hentry
        exact hplay game entry hentry

end Elimination

end LetletmeData.Library
