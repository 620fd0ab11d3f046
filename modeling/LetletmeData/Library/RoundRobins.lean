import Mathlib.Algebra.Order.Floor.Div
import Mathlib.Data.Finset.Prod
import Mathlib.Data.Finset.Card
import Mathlib.Data.List.Count
import Mathlib.Data.Finset.Dedup
import Mathlib.Order.Lattice

/-!
# Round robins

A list of games, home team first, is a double round robin of teams if every ordered pair of
different teams plays exactly one. It is enough to count: as many pairings as there can be, each of
them played once at either team's home.

Positions of a circle are taken in turns of one size, each of which begins where the turn before it
has ended. As many turns as reach once around the circle take every position, wherever they begin.
-/

namespace LetletmeData.Library

variable {Team : Type*}

/-- Games between different teams of a set, where every ordered pair plays exactly once. -/
structure DoubleRoundRobin [DecidableEq Team] (teams : Finset Team) (games : List (Team × Team)) :
    Prop where
  between : ∀ game ∈ games, game ∈ teams.offDiag
  once : ∀ game ∈ teams.offDiag, games.count game = 1

section Counts

variable [DecidableEq Team] {teams : Finset Team} {games : List (Team × Team)}

/-- No game is listed twice. -/
theorem DoubleRoundRobin.nodup (h : DoubleRoundRobin teams games) : games.Nodup := by
  rw [List.nodup_iff_count_le_one]
  intro game
  by_cases hgame : game ∈ games
  · exact (h.once game (h.between game hgame)).le
  · rw [List.count_eq_zero_of_not_mem hgame]
    exact Nat.zero_le 1

/-- The games are the ordered pairs of different teams. -/
theorem DoubleRoundRobin.toFinset_eq (h : DoubleRoundRobin teams games) :
    games.toFinset = teams.offDiag := by
  ext game
  rw [List.mem_toFinset]
  refine ⟨h.between game, fun hgame => List.count_pos_iff.mp ?_⟩
  rw [h.once game hgame]
  exact Nat.one_pos

/-- Every team plays every other one twice. -/
theorem DoubleRoundRobin.length_eq (h : DoubleRoundRobin teams games) :
    games.length = teams.card * teams.card - teams.card := by
  rw [← List.toFinset_card_of_nodup h.nodup, h.toFinset_eq, Finset.offDiag_card]

/-- The number of listed games that satisfy a test is that of such pairs. -/
theorem DoubleRoundRobin.countP_eq (h : DoubleRoundRobin teams games)
    (test : Team × Team → Prop) [DecidablePred test] :
    games.countP (fun game => test game) = (teams.offDiag.filter test).card := by
  rw [← h.toFinset_eq, List.countP_eq_length_filter,
    ← List.toFinset_card_of_nodup (h.nodup.filter _)]
  congr 1
  ext game
  simp

/-- A team is at home against each other team once. -/
theorem DoubleRoundRobin.home_eq (h : DoubleRoundRobin teams games) {team : Team}
    (hteam : team ∈ teams) : games.countP (fun game => game.1 = team) = teams.card - 1 := by
  rw [h.countP_eq, ← Finset.card_erase_of_mem hteam]
  refine Finset.card_bij' (fun game _ => game.2) (fun other _ => (team, other)) ?_ ?_ ?_ ?_
  · intro game hgame
    obtain ⟨hmem, rfl⟩ := Finset.mem_filter.mp hgame
    obtain ⟨-, haway, hne⟩ := Finset.mem_offDiag.mp hmem
    exact Finset.mem_erase.mpr ⟨hne.symm, haway⟩
  · intro other hother
    obtain ⟨hne, hmem⟩ := Finset.mem_erase.mp hother
    exact Finset.mem_filter.mpr ⟨Finset.mem_offDiag.mpr ⟨hteam, hmem, hne.symm⟩, rfl⟩
  · intro game hgame
    exact Prod.ext (Finset.mem_filter.mp hgame).2.symm rfl
  · exact fun _ _ => rfl

/-- A team is away at each other team once. -/
theorem DoubleRoundRobin.away_eq (h : DoubleRoundRobin teams games) {team : Team}
    (hteam : team ∈ teams) : games.countP (fun game => game.2 = team) = teams.card - 1 := by
  rw [h.countP_eq, ← Finset.card_erase_of_mem hteam]
  refine Finset.card_bij' (fun game _ => game.1) (fun other _ => (other, team)) ?_ ?_ ?_ ?_
  · intro game hgame
    obtain ⟨hmem, rfl⟩ := Finset.mem_filter.mp hgame
    obtain ⟨hhome, -, hne⟩ := Finset.mem_offDiag.mp hmem
    exact Finset.mem_erase.mpr ⟨hne, hhome⟩
  · intro other hother
    obtain ⟨hne, hmem⟩ := Finset.mem_erase.mp hother
    exact Finset.mem_filter.mpr ⟨Finset.mem_offDiag.mpr ⟨hmem, hteam, hne⟩, rfl⟩
  · intro game hgame
    exact Prod.ext rfl (Finset.mem_filter.mp hgame).2.symm
  · exact fun _ _ => rfl

end Counts

section Pairings

variable [LinearOrder Team] {teams : Finset Team} {games : List (Team × Team)}

/-- The two teams of a game, the lower one first. -/
def pairing (game : Team × Team) : Team × Team := (min game.1 game.2, max game.1 game.2)

/-- A game is played at the lower or at the upper team's home. -/
theorem eq_pairing_or_swap (game : Team × Team) :
    game = pairing game ∨ game = (pairing game).swap := by
  rcases le_total game.1 game.2 with h | h
  · exact Or.inl (Prod.ext (min_eq_left h).symm (max_eq_right h).symm)
  · exact Or.inr (Prod.ext (max_eq_left h).symm (min_eq_right h).symm)

/-- The teams of a pairing make that pairing. -/
theorem pairing_pairing (game : Team × Team) : pairing (pairing game) = pairing game :=
  Prod.ext (min_eq_left min_le_max) (max_eq_right min_le_max)

/-- The return game belongs to the same pairing. -/
theorem pairing_swap (game : Team × Team) : pairing game.swap = pairing game :=
  Prod.ext (min_comm _ _) (max_comm _ _)

/-- A game is the one at the lower team's home when that team is at home. -/
theorem eq_pairing_iff (game : Team × Team) :
    game = pairing game ↔ game.1 = (pairing game).1 := by
  refine ⟨fun h => congrArg Prod.fst h, fun h => ?_⟩
  have hle : game.1 ≤ game.2 := min_eq_left_iff.mp h.symm
  exact Prod.ext h (max_eq_right hle).symm

/-- A game of different teams is the one at the upper team's home otherwise. -/
theorem eq_swap_iff {game : Team × Team} (hne : game.1 ≠ game.2) :
    game = (pairing game).swap ↔ game.1 ≠ (pairing game).1 := by
  constructor
  · intro h hhome
    have hle : game.1 ≤ game.2 := min_eq_left_iff.mp hhome.symm
    exact hne ((congrArg Prod.fst h).trans (max_eq_right hle))
  · exact fun h => (eq_pairing_or_swap game).resolve_left (mt (eq_pairing_iff game).mp h)

/-- The pairings of a set of teams, each with its lower team first. -/
def pairings (teams : Finset Team) : Finset (Team × Team) :=
  teams.offDiag.filter fun pair => pair.1 < pair.2

/-- There are half as many pairings as ordered pairs. -/
theorem card_pairings (teams : Finset Team) :
    (pairings teams).card = teams.card * (teams.card - 1) / 2 := by
  have hswap : (teams.offDiag.filter fun pair => ¬ pair.1 < pair.2).card =
      (pairings teams).card := by
    refine Finset.card_bij' (fun pair _ => pair.swap) (fun pair _ => pair.swap) ?_ ?_
      (fun _ _ => rfl) fun _ _ => rfl
    · intro pair hpair
      obtain ⟨hmem, hnot⟩ := Finset.mem_filter.mp hpair
      obtain ⟨hleft, hright, hne⟩ := Finset.mem_offDiag.mp hmem
      exact Finset.mem_filter.mpr ⟨Finset.mem_offDiag.mpr ⟨hright, hleft, hne.symm⟩,
        lt_of_le_of_ne (not_lt.mp hnot) hne.symm⟩
    · intro pair hpair
      obtain ⟨hmem, hlt⟩ := Finset.mem_filter.mp hpair
      obtain ⟨hleft, hright, hne⟩ := Finset.mem_offDiag.mp hmem
      exact Finset.mem_filter.mpr ⟨Finset.mem_offDiag.mpr ⟨hright, hleft, hne.symm⟩, hlt.asymm⟩
  have hall : (pairings teams).card + (pairings teams).card = teams.card * (teams.card - 1) := by
    have hsum := Finset.card_filter_add_card_filter_not (s := teams.offDiag)
      fun pair : Team × Team => pair.1 < pair.2
    rw [hswap, Finset.offDiag_card] at hsum
    rw [Nat.mul_sub, Nat.mul_one]
    exact hsum
  omega

/-- A game of different teams belongs to one of their pairings. -/
theorem pairing_mem_pairings {game : Team × Team} (hgame : game ∈ teams.offDiag) :
    pairing game ∈ pairings teams := by
  obtain ⟨hhome, haway, hne⟩ := Finset.mem_offDiag.mp hgame
  rcases lt_or_gt_of_ne hne with h | h
  · simp [pairings, pairing, min_eq_left h.le, max_eq_right h.le, hhome, haway, hne, h]
  · simp [pairings, pairing, min_eq_right h.le, max_eq_left h.le, hhome, haway, hne.symm, h]

/-- A pairing has the games of either home. -/
theorem swap_mem_offDiag {game : Team × Team} (hgame : game ∈ teams.offDiag) :
    pairing game ∈ teams.offDiag ∧ (pairing game).swap ∈ teams.offDiag := by
  have hpair := (Finset.mem_filter.mp (pairing_mem_pairings hgame)).1
  obtain ⟨hleft, hright, hne⟩ := Finset.mem_offDiag.mp hpair
  exact ⟨hpair, Finset.mem_offDiag.mpr ⟨hright, hleft, hne.symm⟩⟩

/-- Games of a set of teams are a double round robin exactly when there are as many pairings as
there can be and each of them is played once at either home. -/
theorem doubleRoundRobin_iff_pairings (hbetween : ∀ game ∈ games, game ∈ teams.offDiag) :
    DoubleRoundRobin teams games ↔
      (games.map pairing).toFinset.card = teams.card * (teams.card - 1) / 2 ∧
        ∀ game ∈ games, games.count (pairing game) = 1 ∧ games.count (pairing game).swap = 1 := by
  have hsubset : (games.map pairing).toFinset ⊆ pairings teams := by
    intro pair hpair
    obtain ⟨game, hgame, rfl⟩ := List.mem_map.mp (List.mem_toFinset.mp hpair)
    exact pairing_mem_pairings (hbetween game hgame)
  rw [← card_pairings]
  constructor
  · intro h
    refine ⟨congrArg Finset.card (hsubset.antisymm fun pair hpair => ?_), fun game hgame => ?_⟩
    · obtain ⟨hmem, hlt⟩ := Finset.mem_filter.mp hpair
      have hgame : pair ∈ games := List.mem_toFinset.mp (h.toFinset_eq ▸ hmem)
      have hpairing : pairing pair = pair := Prod.ext (min_eq_left hlt.le) (max_eq_right hlt.le)
      exact List.mem_toFinset.mpr (hpairing ▸ List.mem_map_of_mem hgame)
    · obtain ⟨hpair, hswap⟩ := swap_mem_offDiag (hbetween game hgame)
      exact ⟨h.once _ hpair, h.once _ hswap⟩
  · rintro ⟨hcard, honce⟩
    refine ⟨hbetween, fun game hgame => ?_⟩
    have hall := Finset.eq_of_subset_of_card_le hsubset hcard.ge
    have hplayed := pairing_mem_pairings hgame
    rw [← hall, List.mem_toFinset, List.mem_map] at hplayed
    obtain ⟨other, hother, heq⟩ := hplayed
    rcases eq_pairing_or_swap game with h | h
    · rw [h, ← heq]
      exact (honce other hother).1
    · rw [h, ← heq]
      exact (honce other hother).2

end Pairings

/-! ### Turns -/

/-- Consecutive turns around a circle take every position. -/
theorem exists_turn {count size : ℕ} (hsize : 0 < size) (first : ℕ) {position : ℕ}
    (h : position < count) :
    ∃ turn < count ⌈/⌉ size, ∃ index < size,
      ((first + turn) * size + index) % count = position := by
  have hcount : (0 : ℤ) < count := by omega
  -- how far the position is ahead of the first one that is taken
  let ahead := (((position : ℤ) - first * size) % count).toNat
  have hahead : (ahead : ℤ) = ((position : ℤ) - first * size) % count :=
    Int.toNat_of_nonneg (Int.emod_nonneg _ hcount.ne')
  have hlt : ahead < count := by
    have := Int.emod_lt_of_pos ((position : ℤ) - first * size) hcount
    omega
  refine ⟨ahead / size, ?_, ahead % size, Nat.mod_lt _ hsize, ?_⟩
  · exact Nat.div_lt_of_lt_mul (hlt.trans_le (le_smul_ceilDiv hsize))
  · have hreach : (first + ahead / size) * size + ahead % size = first * size + ahead := by
      rw [Nat.add_mul, Nat.add_assoc, Nat.div_add_mod']
    have hmod : ((first * size + ahead : ℕ) : ℤ) % count = position := by
      push_cast
      rw [hahead, Int.add_emod_emod, add_sub_cancel]
      exact Int.emod_eq_of_lt (Int.natCast_nonneg _) (by exact_mod_cast h)
    rw [hreach]
    exact_mod_cast hmod

end LetletmeData.Library
