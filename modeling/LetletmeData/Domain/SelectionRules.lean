import LetletmeData.Domain.CoreSnapshot
import LetletmeData.Library.BoundedSums
import LetletmeData.Library.NumberTexts
import LetletmeData.Library.Transactions
import LetletmeData.Library.JavaScript

/-!
# Selection rules

The rules of a season are read from settings and positions of unknown types, where a number may
stand as a text. They are published only if they are complete and their totals agree with the
limits of the positions. The limits on those that play are added up without regard to how many
players of a position a squad has.
-/

namespace LetletmeData

open LetletmeData.Library

/-- A value of unknown type. A number is finite; the values that are neither a number nor a text
nor a record are not told apart. -/
inductive RawValue where
  | number (value : ℚ)
  | text (value : String)
  | record (fields : List (String × RawValue))
  | other

/-- The fields of a record. -/
abbrev RawRecord := List (String × RawValue)

/-- A chip of the bootstrap response. -/
structure RawChip where
  id : ℚ
  name : String
  number : ℚ
  startEvent : ℚ
  stopEvent : ℚ
  chipType : String

/-- The parts of `FPLBootstrapResponse` that selection rules are read from. -/
structure RawSelectionRules where
  gameSettings : RawValue
  elementTypes : List RawValue
  chips : List RawChip

/-- `asRecord`. -/
def RawValue.asRecord : RawValue → Option RawRecord
  | .record fields => some fields
  | _ => none

/-- `asFiniteNumber`. -/
def asFiniteNumber : Option RawValue → Option ℚ
  | some (.number value) => some value
  | some (.text value) => if trimText value = "" then none else numberOfText value
  | _ => none

/-- `asPositiveInteger`. -/
def asPositiveInteger (value : Option RawValue) : Option ℕ :=
  ((asFiniteNumber value).filter fun number => IsSafeInteger number ∧ 0 < number).map
    fun number => number.num.toNat

/-- A text, or another one where there is none. -/
def textOr (value : Option RawValue) (default : String) : String :=
  match value with
  | some (.text value) => value
  | _ => default

/-- A position of the rules, unless a part of it is missing or no player could be chosen. -/
def readPosition (position : RawRecord) : Option SelectionRulePosition := do
  let id ← asPositiveInteger (position.lookup "id")
  let squadSelect ← asPositiveInteger (position.lookup "squad_select")
  let minPlay ← asPositiveInteger (position.lookup "squad_min_play")
  let maxPlay ← asPositiveInteger (position.lookup "squad_max_play")
  if maxPlay < minPlay then none
  else
    let name := textOr (position.lookup "singular_name") ("Position " ++ id.repr)
    let shortName := textOr (position.lookup "singular_name_short") name
    some ⟨id, name, shortName, squadSelect, minPlay, maxPlay⟩

/-- A chip of the rules, unless its window is empty. -/
def readChip (chip : RawChip) : Option SelectionRuleChipWindow := do
  let id ← asPositiveInteger (some (.number chip.id))
  let number ← asPositiveInteger (some (.number chip.number))
  if chip.startEvent < 1 ∨ chip.stopEvent < chip.startEvent then none
  else some ⟨id, chip.name, number, chip.startEvent, chip.stopEvent, chip.chipType⟩

/-- The records among the element types. -/
def rawPositions (bootstrap : RawSelectionRules) : List RawRecord :=
  bootstrap.elementTypes.filterMap RawValue.asRecord

/-- A field of the game settings. -/
def gameSetting (bootstrap : RawSelectionRules) (name : String) : Option RawValue :=
  (RawValue.asRecord bootstrap.gameSettings).bind fun settings => settings.lookup name

/-- `normalizeSelectionRules`. The sums of safe integers that are compared with one are exact. -/
def normalizeSelectionRules (bootstrap : RawSelectionRules) : Option SelectionRules := do
  let positions := (rawPositions bootstrap).filterMap readPosition
  let chips := bootstrap.chips.filterMap readChip
  let squadSize ← asFiniteNumber (gameSetting bootstrap "squad_squadsize")
  let startingSize ← asFiniteNumber (gameSetting bootstrap "squad_squadplay")
  let budget ← asFiniteNumber (gameSetting bootstrap "squad_total_spend")
  let maxPlayersPerTeam ← asFiniteNumber (gameSetting bootstrap "squad_team_limit")
  let currencyMultiplier ← asFiniteNumber (gameSetting bootstrap "ui_currency_multiplier")
  if positions.length ≠ (rawPositions bootstrap).length ∨ positions.length = 0 ∨
      setSize (positions.map (·.id)) ≠ positions.length ∨
      chips.length ≠ bootstrap.chips.length ∨
      ¬ IsSafeInteger squadSize ∨ ¬ IsSafeInteger startingSize ∨ ¬ IsSafeInteger budget ∨
      ¬ IsSafeInteger maxPlayersPerTeam ∨ ¬ IsSafeInteger currencyMultiplier ∨
      squadSize ≤ 0 ∨ startingSize ≤ 0 ∨ squadSize < startingSize ∨ budget ≤ 0 ∨
      maxPlayersPerTeam ≤ 0 ∨ squadSize < maxPlayersPerTeam ∨ currencyMultiplier ≤ 0 ∨
      (((positions.map (·.squadSelect)).sum : ℕ) : ℚ) ≠ squadSize ∨
      startingSize < (((positions.map (·.minPlay)).sum : ℕ) : ℚ) ∨
      (((positions.map (·.maxPlay)).sum : ℕ) : ℚ) < startingSize ∨
      setSize (chips.map (·.id)) ≠ chips.length then none
  else
    some {
      squadSize := squadSize.num.toNat
      startingSize := startingSize.num.toNat
      budget := budget.num.toNat
      maxPlayersPerTeam := maxPlayersPerTeam.num.toNat
      currencyMultiplier := currencyMultiplier.num.toNat
      positions := positions
      chips := chips }

/-! ### Line-ups -/

/-- How many players of a position can play: no more than the squad has. -/
def lineUpBounds (position : SelectionRulePosition) : ℕ × ℕ :=
  (position.minPlay, min position.maxPlay position.squadSelect)

/-- A legal line-up exists, and the squad sizes add up to the squad. -/
def Satisfiable (rules : SelectionRules) : Prop :=
  (∃ numbers, Within (rules.positions.map lineUpBounds) numbers ∧
      numbers.sum = rules.startingSize) ∧
    (rules.positions.map (·.squadSelect)).sum = rules.squadSize

/-- A limit of a position of the input. -/
def positionLimit (position : RawRecord) (name : String) : ℕ :=
  (asPositiveInteger (position.lookup name)).getD 0

/-- Every position of the input has as many players in a squad as have to play, and together the
positions have enough players that may play. -/
def RoomForLineUp (bootstrap : RawSelectionRules) : Prop :=
  (∀ position ∈ rawPositions bootstrap,
      positionLimit position "squad_min_play" ≤ positionLimit position "squad_select") ∧
    ∀ startingSize ∈ asFiniteNumber (gameSetting bootstrap "squad_squadplay"),
      startingSize ≤ (((rawPositions bootstrap).map fun position =>
        min (positionLimit position "squad_max_play")
          (positionLimit position "squad_select")).sum : ℕ)

instance (bootstrap : RawSelectionRules) : Decidable (RoomForLineUp bootstrap) :=
  inferInstanceAs (Decidable (_ ∧ _))

/-- What a position that has been read says. -/
theorem readPosition_eq_some {position : RawRecord} {read : SelectionRulePosition}
    (h : readPosition position = some read) :
    asPositiveInteger (position.lookup "squad_select") = some read.squadSelect ∧
      asPositiveInteger (position.lookup "squad_min_play") = some read.minPlay ∧
      asPositiveInteger (position.lookup "squad_max_play") = some read.maxPlay ∧
      read.minPlay ≤ read.maxPlay := by
  unfold readPosition at h
  simp only [Option.bind_eq_bind, Option.bind_eq_some_iff] at h
  obtain ⟨id, -, squadSelect, hselect, minPlay, hmin, maxPlay, hmax, h⟩ := h
  split at h
  next => exact absurd h.symm (Option.some_ne_none _)
  next hle =>
    obtain rfl := Option.some.inj h
    exact ⟨hselect, hmin, hmax, not_lt.mp hle⟩

/-- Accepted rules are satisfiable exactly when the input leaves room for a line-up: the limits of
the squad on those that play are not checked. -/
theorem normalizeSelectionRules_satisfiable_iff (bootstrap : RawSelectionRules)
    (rules : SelectionRules) (h : normalizeSelectionRules bootstrap = some rules) :
    Satisfiable rules ↔ RoomForLineUp bootstrap := by
  unfold normalizeSelectionRules at h
  simp only [Option.bind_eq_bind, Option.bind_eq_some_iff] at h
  obtain ⟨squadSize, -, startingSize, hstarting, budget, -, maxPlayersPerTeam, -,
    currencyMultiplier, -, h⟩ := h
  split at h
  next => exact absurd h.symm (Option.some_ne_none _)
  next hchecks =>
    obtain rfl := Option.some.inj h
    simp only [not_or, not_not, not_lt, not_le] at hchecks
    obtain ⟨hlength, -, -, -, hsquadInteger, hstartingInteger, -, -, -, hsquadPos, hstartingPos,
      -, -, -, -, -, hsquad, hmin, hmax, -⟩ := hchecks
    have hread := forall₂_of_length_filterMap hlength
    generalize (rawPositions bootstrap).filterMap readPosition = positions at *
    have hsettled := toNat_num hstartingInteger hstartingPos
    have hminimum : (positions.map (·.minPlay)).sum ≤ startingSize.num.toNat := by
      rw [← hsettled] at hmin
      exact Nat.cast_le.mp hmin
    have htotal : (positions.map (·.squadSelect)).sum = squadSize.num.toNat := by
      rw [← toNat_num hsquadInteger hsquadPos] at hsquad
      exact Nat.cast_injective hsquad
    have hbounds : (∃ numbers, Within (positions.map lineUpBounds) numbers ∧
          numbers.sum = startingSize.num.toNat) ↔
        (∀ position ∈ positions, position.minPlay ≤ position.squadSelect) ∧
          startingSize.num.toNat ≤ (positions.map fun position =>
            min position.maxPlay position.squadSelect).sum := by
      rw [exists_within_iff, List.map_map, List.map_map, List.forall_mem_map]
      constructor
      · rintro ⟨hlow, -, hhigh⟩
        exact ⟨fun position hposition => (hlow position hposition).trans (min_le_right _ _), hhigh⟩
      · rintro ⟨hlow, hhigh⟩
        refine ⟨fun position hposition => ?_, hminimum, hhigh⟩
        obtain ⟨raw, -, hraw⟩ := exists_of_mem_of_forall₂ hread hposition
        exact le_min (readPosition_eq_some hraw).2.2.2 (hlow position hposition)
    rw [Satisfiable, and_iff_left htotal, hbounds, RoomForLineUp]
    have hlimits : ∀ raw position, readPosition raw = some position →
        positionLimit raw "squad_select" = position.squadSelect ∧
          positionLimit raw "squad_min_play" = position.minPlay ∧
          positionLimit raw "squad_max_play" = position.maxPlay := by
      intro raw position hof
      obtain ⟨hselect, hminPlay, hmaxPlay, -⟩ := readPosition_eq_some hof
      unfold positionLimit
      rw [hselect, hminPlay, hmaxPlay]
      exact ⟨rfl, rfl, rfl⟩
    refine and_congr ?_ ?_
    · constructor
      · intro hlow raw hraw
        obtain ⟨position, hposition, hof⟩ := exists_of_mem_of_forall₂ hread.flip hraw
        rw [(hlimits raw position hof).1, (hlimits raw position hof).2.1]
        exact hlow position hposition
      · intro hroom position hposition
        obtain ⟨raw, hraw, hof⟩ := exists_of_mem_of_forall₂ hread hposition
        rw [← (hlimits raw position hof).1, ← (hlimits raw position hof).2.1]
        exact hroom raw hraw
    · have hsum : (rawPositions bootstrap).map (fun position =>
          min (positionLimit position "squad_max_play") (positionLimit position "squad_select")) =
          positions.map fun position => min position.maxPlay position.squadSelect :=
        map_eq_of_forall₂ hread fun raw position hof => by
          rw [(hlimits raw position hof).1, (hlimits raw position hof).2.2]
      rw [hsum, hstarting]
      simp only [Option.mem_some_iff, forall_eq']
      rw [← hsettled, Nat.cast_le, Rat.num_natCast, Int.toNat_natCast]

/-- A position of an input, with its limits as numbers. -/
def positionValue (id squadSelect minPlay maxPlay : ℚ) : RawValue :=
  .record [("id", .number id), ("squad_select", .number squadSelect),
    ("squad_min_play", .number minPlay), ("squad_max_play", .number maxPlay)]

/-- Settings of a season where all numbers are texts or numbers as they come. -/
def settingsValue (squadSize startingSize : ℚ) : RawValue :=
  .record [("squad_squadsize", .number squadSize), ("squad_squadplay", .number startingSize),
    ("squad_total_spend", .text " 1000 "), ("squad_team_limit", .number 3),
    ("ui_currency_multiplier", .text "1e1")]

/-- The rules of the official game. -/
def officialRules : RawSelectionRules where
  gameSettings := settingsValue 15 11
  elementTypes := [positionValue 1 2 1 1, positionValue 2 5 3 5, positionValue 3 5 2 5,
    positionValue 4 3 1 3]
  chips := [⟨1, "wildcard", 1, 2, 19, "transfer"⟩]

/-- The rules of the official game are accepted, and a line-up exists. -/
theorem officialRules_satisfiable :
    ∃ rules, normalizeSelectionRules officialRules = some rules ∧ Satisfiable rules := by
  obtain ⟨rules, hrules⟩ := Option.isSome_iff_exists.mp
    (by decide +kernel : (normalizeSelectionRules officialRules).isSome = true)
  exact ⟨rules, hrules,
    (normalizeSelectionRules_satisfiable_iff _ _ hrules).mpr (by decide +kernel)⟩

/-- Five of a squad of five have to play, but only one of the first two may. -/
def crowdedRules : RawSelectionRules where
  gameSettings := settingsValue 5 5
  elementTypes := [positionValue 1 2 1 1, positionValue 2 3 1 10]
  chips := []

/-- Rules without any line-up are accepted. -/
theorem crowdedRules_accepted :
    ∃ rules, normalizeSelectionRules crowdedRules = some rules ∧ ¬ Satisfiable rules := by
  refine ⟨⟨5, 5, 1000, 3, 10, [⟨1, "Position 1", "Position 1", 2, 1, 1⟩,
    ⟨2, "Position 2", "Position 2", 3, 1, 10⟩], []⟩, by decide +kernel, ?_⟩
  rintro ⟨⟨numbers, hwithin, hsum⟩, -⟩
  have hbound := hwithin.sum_le.2.2
  rw [hsum] at hbound
  exact absurd hbound (by decide)

end LetletmeData
