import Mathlib.Data.List.Perm.Basic
import Mathlib.Data.List.ReduceOption
import Mathlib.Tactic.Positivity
import LetletmeData.Library.Brackets
import LetletmeData.Domain.Tournament

/-!
# Seeding a single-elimination draw

The pairs of `seedBracketEntries` read as the leaves of a bracket, in which adjacent leaves
meet first and the winners of adjacent matches meet next. The seed order is the reflected
draw of the padded field, and the fairness of the draw follows from it.
-/

namespace LetletmeData

open LetletmeData.Library

/-- A padded field of at least two is a positive power of two, less than twice the field. -/
theorem nextPowerOfTwo_bounds {teamCount : ℕ} (h : 2 ≤ teamCount) :
    ∃ halvings, nextPowerOfTwo teamCount = 2 ^ (halvings + 1) ∧
      2 ^ halvings < teamCount ∧ teamCount ≤ 2 ^ (halvings + 1) := by
  obtain ⟨halvings, hclog⟩ : ∃ halvings, Nat.clog 2 teamCount = halvings + 1 :=
    Nat.exists_eq_succ_of_ne_zero (Nat.clog_pos (by omega) (by omega)).ne'
  refine ⟨halvings, ?_, ?_, ?_⟩
  · rw [nextPowerOfTwo, if_neg (by omega), hclog]
  · exact Nat.pow_lt_of_lt_clog (by omega)
  · rw [← hclog]
    exact Nat.le_pow_clog (by omega) _

/-- With passes to spare, the doubling loop continues the reflected order to the bracket. -/
theorem buildBracketSeedOrderLoop_eq (doublings k passes : ℕ) (hpasses : doublings ≤ passes) :
    buildBracketSeedOrderLoop (2 ^ (k + 1 + doublings)) passes (2 ^ (k + 1))
      (reflectedOrder (k + 1)) = reflectedOrder (k + 1 + doublings) := by
  induction doublings generalizing k passes with
  | zero => cases passes <;> simp [buildBracketSeedOrderLoop]
  | succ doublings ih =>
    obtain ⟨passes, rfl⟩ : ∃ rest, passes = rest + 1 := ⟨passes - 1, by omega⟩
    have hlt : 2 ^ (k + 1) < 2 ^ (k + 1 + (doublings + 1)) :=
      Nat.pow_lt_pow_right (by omega) (by omega)
    have hstep := ih (k + 1) passes (by omega)
    rw [show k + 1 + 1 + doublings = k + 1 + (doublings + 1) by omega] at hstep
    rw [buildBracketSeedOrderLoop, if_pos hlt, ← pow_succ]
    exact hstep

/-- The seed order of a padded field is its reflected draw. -/
theorem buildBracketSeedOrder_eq (halvings : ℕ) :
    buildBracketSeedOrder (2 ^ (halvings + 1)) = reflectedOrder (halvings + 1) := by
  have hloop := buildBracketSeedOrderLoop_eq halvings 0 (2 ^ (halvings + 1))
    (Nat.lt_two_pow_self.le.trans (Nat.pow_le_pow_right (by omega) (by omega)))
  rw [Nat.add_comm halvings 1]
  rwa [show 0 + 1 + halvings = 1 + halvings by omega, Nat.add_comm halvings 1] at hloop

/-- The leaves of the bracket: both slots of each pair, in order. -/
def bracketSlots (pairs : List SeedPair) : List (Option ℕ) :=
  pairs.flatMap fun pair => [pair.homeEntryId, pair.awayEntryId]

/-- The entry of a seed of the whole field. -/
def seededEntry (entries : List ℕ) (seed : ℕ) : Option ℕ :=
  entryOfSeed entries entries.length seed

/-- Each pair joins a seed of the upper half with its reflection. -/
theorem seedBracketEntries_eq {entries : List ℕ} {halvings : ℕ}
    (hfield : nextPowerOfTwo entries.length = 2 ^ (halvings + 1)) (h : 2 ≤ entries.length) :
    seedBracketEntries entries entries.length =
      (reflectedOrder halvings).map fun seed =>
        ⟨seededEntry entries seed, seededEntry entries (2 ^ (halvings + 1) + 1 - seed)⟩ := by
  rw [seedBracketEntries, if_neg (by omega)]
  simp only [hfield, List.take_length, buildBracketSeedOrder_eq, reflectedOrder]
  apply List.ext_getElem?
  intro index
  simp only [List.getElem?_map, getElem?_flatMap_pair_even (fun seed => seed),
    getElem?_flatMap_pair_odd (fun seed => seed)]
  by_cases hindex : index < 2 ^ halvings
  · have hrange : (List.range (2 ^ (halvings + 1) / 2))[index]? = some index := by
      rw [List.getElem?_range (by omega)]
    obtain ⟨seed, hseed⟩ : ∃ seed, (reflectedOrder halvings)[index]? = some seed :=
      ⟨_, List.getElem?_eq_getElem (by simpa using hindex)⟩
    simp [hrange, hseed, seededEntry]
  · rw [List.getElem?_eq_none (by simp; omega), List.getElem?_eq_none (by simp; omega)]
    rfl

/-- The leaves of the bracket are the entries of the reflected draw. -/
theorem bracketSlots_eq {entries : List ℕ} {halvings : ℕ}
    (hfield : nextPowerOfTwo entries.length = 2 ^ (halvings + 1)) (h : 2 ≤ entries.length) :
    bracketSlots (seedBracketEntries entries entries.length) =
      (reflectedOrder (halvings + 1)).map (seededEntry entries) := by
  rw [seedBracketEntries_eq hfield h, bracketSlots, reflectedOrder, List.flatMap_map,
    List.map_flatMap]
  rfl

/-- A seed of at least one names the entry at its place in the ranking. -/
theorem seededEntry_eq (entries : List ℕ) {seed : ℕ} (h : 1 ≤ seed) :
    seededEntry entries seed = entries[seed - 1]? := by
  unfold seededEntry entryOfSeed
  split
  · rfl
  · rw [List.getElem?_eq_none (by omega)]

/-- Only seeds beyond the field are byes. -/
theorem seededEntry_eq_none (entries : List ℕ) {seed : ℕ} (h : 1 ≤ seed) :
    seededEntry entries seed = none ↔ entries.length < seed := by
  rw [seededEntry_eq entries h, List.getElem?_eq_none_iff]
  omega

/-- Among distinct entries, an entry is one of the best exactly when its seed is. -/
theorem mem_take_iff_seed_le {entries : List ℕ} (hdistinct : entries.Nodup) {seed entry : ℕ}
    (h : 1 ≤ seed) (hentry : seededEntry entries seed = some entry) (count : ℕ) :
    entry ∈ entries.take count ↔ seed ≤ count := by
  rw [seededEntry_eq entries h, List.getElem?_eq_some_iff] at hentry
  obtain ⟨hlt, rfl⟩ := hentry
  constructor
  · intro hmem
    obtain ⟨place, hplace, heq⟩ := List.mem_take_iff_getElem.mp hmem
    have := (hdistinct.getElem_inj_iff).mp heq
    omega
  · intro hle
    exact List.mem_take_iff_getElem.mpr ⟨seed - 1, by omega, rfl⟩

/-- The seeds of the padded field, best first, name the entries in their ranking. -/
theorem filterMap_seededEntry (entries : List ℕ) {bracketSize : ℕ}
    (h : entries.length ≤ bracketSize) :
    (List.range' 1 bracketSize).filterMap (seededEntry entries) = entries := by
  obtain ⟨byes, rfl⟩ := Nat.exists_eq_add_of_le h
  rw [← List.range'_append_1, List.filterMap_append]
  have hbyes : (List.range' (1 + entries.length) byes).filterMap (seededEntry entries) = [] := by
    rw [List.filterMap_eq_nil_iff]
    intro seed hseed
    rw [List.mem_range'_1] at hseed
    exact (seededEntry_eq_none entries (by omega)).mpr (by omega)
  have hfield : (List.range' 1 entries.length).map (seededEntry entries) = entries.map some := by
    apply List.ext_getElem
    · simp
    · intro place hleft hright
      have hplace : place < entries.length := by simpa using hright
      simp [seededEntry_eq, Nat.add_comm 1 place, hplace]
  calc (List.range' 1 entries.length).filterMap (seededEntry entries) ++ _
      = ((List.range' 1 entries.length).map (seededEntry entries)).filterMap id := by
        rw [hbyes, List.append_nil, List.filterMap_map, Function.id_comp]
    _ = entries := by
        rw [hfield, List.filterMap_map]
        exact List.filterMap_some

/-- The winner of two slots when the better seed always wins; a bye never does. -/
def betterSeed (entries : List ℕ) : Option ℕ → Option ℕ → Option ℕ
  | some left, some right =>
    if entries.idxOf left ≤ entries.idxOf right then some left else some right
  | some left, none => some left
  | none, right => right

/-- The better of two seeds wins. -/
theorem betterSeed_seededEntry {entries : List ℕ} (hdistinct : entries.Nodup)
    {better worse : ℕ} (hpos : 1 ≤ better) (hlt : better < worse) :
    betterSeed entries (seededEntry entries better) (seededEntry entries worse) =
      seededEntry entries better := by
  rw [seededEntry_eq entries hpos, seededEntry_eq entries (by omega)]
  by_cases hworse : worse - 1 < entries.length
  · have hbetter : better - 1 < entries.length := by omega
    rw [List.getElem?_eq_getElem hbetter, List.getElem?_eq_getElem hworse, betterSeed,
      hdistinct.idxOf_getElem, hdistinct.idxOf_getElem, if_pos (by omega)]
  · rw [List.getElem?_eq_none (by omega : entries.length ≤ worse - 1)]
    cases entries[better - 1]? <;> rfl

/-- The properties of a fair draw of ranked entries, best first: the leaves hold every entry
once; only the best seeds get a bye, and never at home; the best `2 ^ k` entries lie in
different subtrees of equal size; and while the better seed wins, no two of them meet as
long as more than `2 ^ k` slots are left. -/
structure FairDraw (entries : List ℕ) (pairs : List SeedPair) : Prop where
  pair_count : pairs.length = nextPowerOfTwo entries.length / 2
  every_entry_once : (bracketSlots pairs).reduceOption.Perm entries
  home_present : ∀ pair ∈ pairs, pair.homeEntryId ≠ none
  byes : ∀ entry, (∃ pair ∈ pairs, pair.homeEntryId = some entry ∧ pair.awayEntryId = none) ↔
    entry ∈ entries.take (nextPowerOfTwo entries.length - entries.length)
  separated : ∀ k, 2 ^ k ≤ nextPowerOfTwo entries.length → ∀ i j left right,
    (bracketSlots pairs)[i]? = some (some left) → (bracketSlots pairs)[j]? = some (some right) →
    left ∈ entries.take (2 ^ k) → right ∈ entries.take (2 ^ k) → left ≠ right →
    i / (nextPowerOfTwo entries.length / 2 ^ k) ≠ j / (nextPowerOfTwo entries.length / 2 ^ k)
  no_early_meeting : ∀ k round i left right,
    2 ^ k < (afterRounds (betterSeed entries) (bracketSlots pairs) round).length →
    (afterRounds (betterSeed entries) (bracketSlots pairs) round)[2 * i]? = some (some left) →
    (afterRounds (betterSeed entries) (bracketSlots pairs) round)[2 * i + 1]? =
      some (some right) →
    ¬ (left ∈ entries.take (2 ^ k) ∧ right ∈ entries.take (2 ^ k))

/-- A leaf of the draw holds the entry of its seed. -/
theorem getElem?_draw {entries : List ℕ} {field i entry : ℕ}
    (h : ((reflectedOrder field).map (seededEntry entries))[i]? = some (some entry)) :
    ∃ seed, (reflectedOrder field)[i]? = some seed ∧ 1 ≤ seed ∧
      seededEntry entries seed = some entry := by
  rw [List.getElem?_map] at h
  obtain ⟨seed, hseed, hentry⟩ := Option.map_eq_some_iff.mp h
  exact ⟨seed, hseed, (mem_reflectedOrder.mp (List.mem_of_getElem? hseed)).1, hentry⟩

section Fair

variable {entries : List ℕ}

/-- The draw makes one pair for every two slots. -/
theorem length_seedBracketEntries (hfield : 2 ≤ entries.length) :
    (seedBracketEntries entries entries.length).length = nextPowerOfTwo entries.length / 2 := by
  obtain ⟨halvings, hsize, -, -⟩ := nextPowerOfTwo_bounds hfield
  rw [seedBracketEntries_eq hsize hfield, List.length_map, length_reflectedOrder, hsize, pow_succ']
  omega

/-- Every pair has a home entry. -/
theorem seedBracketEntries_home_present (hfield : 2 ≤ entries.length) :
    ∀ pair ∈ seedBracketEntries entries entries.length, pair.homeEntryId ≠ none := by
  obtain ⟨halvings, hsize, hhalf, -⟩ := nextPowerOfTwo_bounds hfield
  rw [seedBracketEntries_eq hsize hfield]
  intro pair hpair hnone
  obtain ⟨seed, hseed, rfl⟩ := List.mem_map.mp hpair
  have hbounds := mem_reflectedOrder.mp hseed
  have := (seededEntry_eq_none entries hbounds.1).mp hnone
  omega

/-- The leaves hold every entry once. -/
theorem seedBracketEntries_every_entry_once (hfield : 2 ≤ entries.length) :
    (bracketSlots (seedBracketEntries entries entries.length)).reduceOption.Perm entries := by
  obtain ⟨halvings, hsize, -, hfull⟩ := nextPowerOfTwo_bounds hfield
  rw [bracketSlots_eq hsize hfield, List.reduceOption, List.filterMap_map, Function.id_comp]
  exact ((reflectedOrder_perm _).filterMap _).trans
    (List.Perm.of_eq (filterMap_seededEntry entries hfull))

/-- The byes go to the best seeds. -/
theorem seedBracketEntries_byes (hfield : 2 ≤ entries.length) (hdistinct : entries.Nodup)
    (entry : ℕ) :
    (∃ pair ∈ seedBracketEntries entries entries.length,
        pair.homeEntryId = some entry ∧ pair.awayEntryId = none) ↔
      entry ∈ entries.take (nextPowerOfTwo entries.length - entries.length) := by
  obtain ⟨halvings, hsize, hhalf, hfull⟩ := nextPowerOfTwo_bounds hfield
  have hpow : 2 ^ (halvings + 1) = 2 * 2 ^ halvings := pow_succ' 2 halvings
  rw [seedBracketEntries_eq hsize hfield, hsize]
  constructor
  · rintro ⟨pair, hpair, hhome, haway⟩
    obtain ⟨seed, hseed, rfl⟩ := List.mem_map.mp hpair
    have hbounds := mem_reflectedOrder.mp hseed
    have := (seededEntry_eq_none entries (by omega)).mp haway
    exact (mem_take_iff_seed_le hdistinct hbounds.1 hhome _).mpr (by omega)
  · intro hentry
    obtain ⟨place, hplace, rfl⟩ := List.mem_take_iff_getElem.mp hentry
    refine ⟨_, List.mem_map.mpr ⟨place + 1, mem_reflectedOrder.mpr (by omega), rfl⟩, ?_, ?_⟩
    · have hlt : place < entries.length := by omega
      rw [seededEntry_eq entries (by omega), Nat.add_sub_cancel, List.getElem?_eq_getElem hlt]
    · exact (seededEntry_eq_none entries (by omega)).mpr (by omega)

/-- The best `2 ^ k` entries lie in different subtrees of equal size. -/
theorem seedBracketEntries_separated (hfield : 2 ≤ entries.length) (hdistinct : entries.Nodup)
    {k : ℕ} (hk : 2 ^ k ≤ nextPowerOfTwo entries.length) {i j left right : ℕ}
    (hi : (bracketSlots (seedBracketEntries entries entries.length))[i]? = some (some left))
    (hj : (bracketSlots (seedBracketEntries entries entries.length))[j]? = some (some right))
    (hleft : left ∈ entries.take (2 ^ k)) (hright : right ∈ entries.take (2 ^ k))
    (hne : left ≠ right) :
    i / (nextPowerOfTwo entries.length / 2 ^ k) ≠
      j / (nextPowerOfTwo entries.length / 2 ^ k) := by
  obtain ⟨halvings, hsize, -, -⟩ := nextPowerOfTwo_bounds hfield
  rw [bracketSlots_eq hsize hfield] at hi hj
  rw [hsize] at hk ⊢
  have hle : k ≤ halvings + 1 := (Nat.pow_le_pow_iff_right (by omega)).mp hk
  obtain ⟨doublings, hdoublings⟩ := Nat.exists_eq_add_of_le hle
  obtain ⟨leftSeed, hleftAt, hleftPos, hleftEntry⟩ := getElem?_draw hi
  obtain ⟨rightSeed, hrightAt, hrightPos, hrightEntry⟩ := getElem?_draw hj
  rw [hdoublings] at hleftAt hrightAt ⊢
  rw [pow_add, Nat.mul_div_cancel_left _ (by positivity)]
  refine reflectedOrder_separated doublings hleftAt hrightAt
    ((mem_take_iff_seed_le hdistinct hleftPos hleftEntry _).mp hleft)
    ((mem_take_iff_seed_le hdistinct hrightPos hrightEntry _).mp hright) ?_
  rintro rfl
  rw [hleftEntry] at hrightEntry
  exact hne (Option.some.inj hrightEntry)

/-- While the better seed wins, a round with slots left is the draw of a smaller field. -/
theorem afterRounds_bracketSlots (hfield : 2 ≤ entries.length) (hdistinct : entries.Nodup)
    {round : ℕ}
    (hopen : 0 < (afterRounds (betterSeed entries)
      (bracketSlots (seedBracketEntries entries entries.length)) round).length) :
    ∃ field, afterRounds (betterSeed entries)
      (bracketSlots (seedBracketEntries entries entries.length)) round =
        (reflectedOrder field).map (seededEntry entries) := by
  obtain ⟨halvings, hsize, -, -⟩ := nextPowerOfTwo_bounds hfield
  rw [bracketSlots_eq hsize hfield] at hopen ⊢
  rw [length_afterRounds, List.length_map, length_reflectedOrder] at hopen
  have hround : round ≤ halvings + 1 := by
    by_contra hover
    have hempty : 2 ^ (halvings + 1) / 2 ^ round = 0 :=
      Nat.div_eq_of_lt (Nat.pow_lt_pow_right (by omega) (by omega))
    exact absurd (hempty ▸ hopen) (Nat.not_lt_zero _)
  exact ⟨_, afterRounds_reflectedOrder _ _ (fun better worse hpos hlt _ =>
    betterSeed_seededEntry hdistinct hpos hlt) hround⟩

/-- No two of the best `2 ^ k` entries meet while more slots are left. -/
theorem seedBracketEntries_no_early_meeting (hfield : 2 ≤ entries.length)
    (hdistinct : entries.Nodup) {k round i left right : ℕ}
    (hopen : 2 ^ k < (afterRounds (betterSeed entries)
      (bracketSlots (seedBracketEntries entries entries.length)) round).length)
    (hi : (afterRounds (betterSeed entries)
      (bracketSlots (seedBracketEntries entries entries.length)) round)[2 * i]? =
        some (some left))
    (hj : (afterRounds (betterSeed entries)
      (bracketSlots (seedBracketEntries entries entries.length)) round)[2 * i + 1]? =
        some (some right)) :
    ¬ (left ∈ entries.take (2 ^ k) ∧ right ∈ entries.take (2 ^ k)) := by
  obtain ⟨field, hslots⟩ := afterRounds_bracketSlots hfield hdistinct (Nat.zero_lt_of_lt hopen)
  rw [hslots] at hopen hi hj
  rw [List.length_map, length_reflectedOrder] at hopen
  obtain ⟨leftSeed, hleftAt, hleftPos, hleftEntry⟩ := getElem?_draw hi
  obtain ⟨rightSeed, hrightAt, hrightPos, hrightEntry⟩ := getElem?_draw hj
  rintro ⟨hleft, hright⟩
  exact reflectedOrder_adjacent hopen hleftAt hrightAt
    ⟨(mem_take_iff_seed_le hdistinct hleftPos hleftEntry _).mp hleft,
      (mem_take_iff_seed_le hdistinct hrightPos hrightEntry _).mp hright⟩

end Fair

/-- Seeding distinct ranked entries is a fair draw of any field of at least two. -/
theorem seedBracketEntries_fairDraw {entries : List ℕ} (hfield : 2 ≤ entries.length)
    (hdistinct : entries.Nodup) :
    FairDraw entries (seedBracketEntries entries entries.length) where
  pair_count := length_seedBracketEntries hfield
  every_entry_once := seedBracketEntries_every_entry_once hfield
  home_present := seedBracketEntries_home_present hfield
  byes := seedBracketEntries_byes hfield hdistinct
  separated := fun _ hk _ _ _ _ hi hj hleft hright hne =>
    seedBracketEntries_separated hfield hdistinct hk hi hj hleft hright hne
  no_early_meeting := fun _ _ _ _ _ hopen hi hj =>
    seedBracketEntries_no_early_meeting hfield hdistinct hopen hi hj

/-- Six entries are drawn into eight slots with byes for the best two. -/
theorem seedBracketEntries_fairDraw_six :
    FairDraw [11, 12, 13, 14, 15, 16] (seedBracketEntries [11, 12, 13, 14, 15, 16] 6) :=
  seedBracketEntries_fairDraw (by decide) (by decide)

end LetletmeData
