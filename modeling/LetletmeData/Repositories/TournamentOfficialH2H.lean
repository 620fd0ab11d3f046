import Mathlib.Data.Rat.Floor
import LetletmeData.Cache.PublicationManifest
import LetletmeData.Library.KeyedTables
import LetletmeData.Library.Transactions

/-!
# The tables of official H2H mirrors

`publish` stores one official snapshot of a tournament in one transaction: under the locked row of
the tournament it compares the hash of the schedule with the locked one, then upserts the results
of matches by their official identifiers, the groups and the bracket, and keeps the hash.
-/

namespace LetletmeData

open LetletmeData.Library

/-- The columns of `competition.tournaments` that the mirror uses. -/
structure OfficialTournamentRow where
  seasonId : ℕ
  officialScheduleHash : Option String
  officialScheduleSyncedAt : Option ℕ
  officialScheduleLockedAt : Option ℕ

/-- What an official match is stored under: its tournament and its official identifier. -/
structure OfficialMatchKey where
  tournamentId : ℕ
  officialMatchId : ℕ
  deriving DecidableEq

/-- The columns of a regular match that a publication writes. -/
structure BattleResultValues where
  groupId : ℕ
  eventId : ℕ
  homeIndex : ℕ
  homeEntryId : Option ℕ
  homeNetPoints : Option ℤ
  homeRank : Option ℕ
  homeMatchPoints : Option ℤ
  awayIndex : ℕ
  awayEntryId : Option ℕ
  awayNetPoints : Option ℤ
  awayRank : Option ℕ
  awayMatchPoints : Option ℤ
  sourceOrder : ℕ
  homeIsAverage : Bool
  awayIsAverage : Bool
  isBye : Bool
  sourceCheckedAt : ℕ
  deriving DecidableEq

/-- The columns of a knockout match that a publication writes; the local identifier of a match is
the number that the code computes. -/
structure KnockoutResultValues where
  eventId : ℕ
  matchId : ℚ
  playAgainstId : ℕ
  homeEntryId : Option ℕ
  homeNetPoints : Option ℤ
  awayEntryId : Option ℕ
  awayNetPoints : Option ℤ
  matchWinner : Option ℕ
  sourceOrder : ℕ
  knockoutName : Option String
  tiebreak : Option String
  sourceCheckedAt : ℕ
  deriving DecidableEq

/-- A stored result of an official match. -/
structure OfficialResultRow (Values : Type) where
  seasonId : ℕ
  values : Values
  updatedAt : ℕ
  deriving DecidableEq

/-- What a group row is stored under. -/
structure OfficialGroupKey where
  tournamentId : ℕ
  groupId : ℕ
  entryId : ℕ
  deriving DecidableEq

/-- A row of `competition.tournament_groups`. -/
structure OfficialGroupRow where
  groupName : String
  groupIndex : ℕ
  startedEventId : Option ℕ
  endedEventId : Option ℕ
  groupPoints : ℕ
  groupRank : Option ℚ
  played : ℕ
  won : ℕ
  drawn : ℕ
  lost : ℕ
  totalPoints : ℤ
  totalTransfersCost : ℤ
  totalNetPoints : ℤ
  qualified : Option ℤ
  overallRank : Option ℤ
  deriving DecidableEq

/-- A row of `competition.tournament_knockouts` in the columns of an official mirror. -/
structure OfficialBracketRow where
  round : ℤ
  startedEventId : ℤ
  endedEventId : ℤ
  nextMatchId : Option ℚ
  homeEntryId : Option ℕ
  homeNetPoints : Option ℤ
  homeWins : ℕ
  awayEntryId : Option ℕ
  awayNetPoints : Option ℤ
  awayWins : ℕ
  roundWinner : Option ℕ
  deriving DecidableEq

/-- The tables a publication touches. -/
structure OfficialH2HTables where
  tournaments : KeyedTable ℕ OfficialTournamentRow
  battleResults : KeyedTable OfficialMatchKey (OfficialResultRow BattleResultValues)
  knockoutResults : KeyedTable OfficialMatchKey (OfficialResultRow KnockoutResultValues)
  groups : KeyedTable OfficialGroupKey OfficialGroupRow
  brackets : KeyedTable (ℕ × ℚ) OfficialBracketRow

/-- `OfficialH2HPublication`, each row with what identifies it. -/
structure OfficialH2HPublication where
  scheduleHash : String
  checkedAt : ℕ
  lockSchedule : Bool
  battleRows : List (ℕ × BattleResultValues)
  knockoutRows : List (ℕ × KnockoutResultValues)
  bracketRows : List (ℚ × OfficialBracketRow)
  groupRows : List (OfficialGroupKey × OfficialGroupRow)

/-- The writing statements of a publication. -/
inductive OfficialH2HStatement where
  | battleResults
  | knockoutResults
  | groups
  | brackets
  | tournament
  deriving DecidableEq

/-- Why a constraint of the tables refuses a statement, if one does. -/
abbrev RefusedStatements := OfficialH2HStatement → Option String

/-- A refused statement throws. -/
def checkStatement (refused : RefusedStatements) (statement : OfficialH2HStatement) :
    Except String Unit :=
  match refused statement with
  | some error => .error error
  | none => .ok ()

/-- One upserted result: a stored row takes the values of the excluded one and keeps its season. -/
def upsertOfficialResult {Values : Type} (season tournamentId checkedAt : ℕ)
    (table : KeyedTable OfficialMatchKey (OfficialResultRow Values)) (row : ℕ × Values) :
    KeyedTable OfficialMatchKey (OfficialResultRow Values) :=
  let key : OfficialMatchKey := ⟨tournamentId, row.1⟩
  table.upsert key ⟨((table.find key).map (·.seasonId)).getD season, row.2, checkedAt⟩

/-- `INSERT ... ON CONFLICT DO UPDATE` of the results of official matches. -/
def upsertOfficialResults {Values : Type} (season tournamentId checkedAt : ℕ)
    (rows : List (ℕ × Values))
    (table : KeyedTable OfficialMatchKey (OfficialResultRow Values)) :
    Except String (KeyedTable OfficialMatchKey (OfficialResultRow Values)) := do
  throwIf (¬ (rows.map Prod.fst).Nodup)
    "ON CONFLICT DO UPDATE command cannot affect row a second time"
  return rows.foldl (upsertOfficialResult season tournamentId checkedAt) table

/-- An imported knockout match has changed. -/
def KnockoutChanged (existing incoming : KnockoutResultValues) : Prop :=
  existing.eventId ≠ incoming.eventId ∨ existing.matchId ≠ incoming.matchId ∨
    existing.playAgainstId ≠ incoming.playAgainstId ∨
    existing.sourceOrder ≠ incoming.sourceOrder ∨
    (existing.homeEntryId ≠ none ∧ existing.homeEntryId ≠ incoming.homeEntryId) ∨
    (existing.awayEntryId ≠ none ∧ existing.awayEntryId ≠ incoming.awayEntryId) ∨
    (existing.knockoutName ≠ none ∧ existing.knockoutName ≠ incoming.knockoutName)

instance (existing incoming : KnockoutResultValues) :
    Decidable (KnockoutChanged existing incoming) :=
  inferInstanceAs (Decidable (_ ∨ _))

/-- A stored match of the tournament that the publication brings again has changed. -/
def SomeKnockoutChanged (season tournamentId : ℕ) (rows : List (ℕ × KnockoutResultValues))
    (table : KeyedTable OfficialMatchKey (OfficialResultRow KnockoutResultValues)) : Prop :=
  ∃ row ∈ rows, ∃ stored ∈ table.find ⟨tournamentId, row.1⟩,
    stored.seasonId = season ∧ KnockoutChanged stored.values row.2

instance (season tournamentId : ℕ) (rows : List (ℕ × KnockoutResultValues))
    (table : KeyedTable OfficialMatchKey (OfficialResultRow KnockoutResultValues)) :
    Decidable (SomeKnockoutChanged season tournamentId rows table) :=
  inferInstanceAs (Decidable (∃ row ∈ rows, ∃ stored ∈ table.find ⟨tournamentId, row.1⟩, _))

/-- The stored bracket rows that are rewritten keep their round, events and next match. -/
def upsertBrackets (tournamentId : ℕ) (rows : List (ℚ × OfficialBracketRow))
    (table : KeyedTable (ℕ × ℚ) OfficialBracketRow) : KeyedTable (ℕ × ℚ) OfficialBracketRow :=
  rows.foldl (fun table row =>
    let kept := (table.find (tournamentId, row.1)).getD row.2
    table.upsert (tournamentId, row.1)
      { row.2 with
        round := kept.round, startedEventId := kept.startedEventId
        endedEventId := kept.endedEventId, nextMatchId := kept.nextMatchId }) table

/-- `publish`. -/
def publishOfficialH2H (season tournamentId : ℕ) (publication : OfficialH2HPublication)
    (refused : RefusedStatements) (tables : OfficialH2HTables) :
    Except String OfficialH2HTables := do
  let current ← orThrow
    ((tables.tournaments.find tournamentId).filter fun row => row.seasonId = season)
    "Tournament no longer exists."
  throwIf (current.officialScheduleLockedAt ≠ none ∧
      ∃ hash ∈ current.officialScheduleHash, hash ≠ "" ∧ hash ≠ publication.scheduleHash)
    "Official H2H schedule changed after it was locked."
  let battleResults ← upsertOfficialResults season tournamentId publication.checkedAt
    publication.battleRows tables.battleResults
  checkStatement refused .battleResults
  -- the message names the first such match in the order in which the database returns them
  throwIf (SomeKnockoutChanged season tournamentId publication.knockoutRows
      tables.knockoutResults)
    "Official H2H knockout match changed after import."
  let knockoutResults ← upsertOfficialResults season tournamentId publication.checkedAt
    publication.knockoutRows tables.knockoutResults
  throwIf (∃ row ∈ publication.knockoutRows, row.2.matchId.den ≠ 1)
    "invalid input syntax for type integer"
  checkStatement refused .knockoutResults
  let groups := publication.groupRows.foldl (fun table row => table.upsert row.1 row.2)
    tables.groups
  checkStatement refused .groups
  let brackets := upsertBrackets tournamentId publication.bracketRows tables.brackets
  checkStatement refused .brackets
  checkStatement refused .tournament
  let lockedAt := current.officialScheduleLockedAt.or
    (if publication.lockSchedule then some publication.checkedAt else none)
  let tournaments := tables.tournaments.updateWhere
    (fun id row => id = tournamentId ∧ row.seasonId = season)
    fun row =>
      { row with
        officialScheduleHash := some publication.scheduleHash
        officialScheduleSyncedAt := some publication.checkedAt
        officialScheduleLockedAt := lockedAt }
  return { tournaments, battleResults, knockoutResults, groups, brackets }

/-! ### Upserted results -/

section Upserts

variable {Values : Type} {season tournamentId checkedAt : ℕ} {rows : List (ℕ × Values)}
  {table written : KeyedTable OfficialMatchKey (OfficialResultRow Values)}

/-- The rows are upserted one after the other. -/
theorem upsertOfficialResults_eq_ok :
    upsertOfficialResults season tournamentId checkedAt rows table = .ok written ↔
      (rows.map Prod.fst).Nodup ∧
        rows.foldl (upsertOfficialResult season tournamentId checkedAt) table = written := by
  unfold upsertOfficialResults
  rw [throwIf_bind_eq_ok, not_not]
  exact and_congr_right fun _ => ⟨Except.ok.inj, congrArg Except.ok⟩

/-- A key that no row has keeps what is stored. -/
theorem find_foldl_upsert_of_not_mem {key : OfficialMatchKey}
    (h : key.tournamentId ≠ tournamentId ∨ key.officialMatchId ∉ rows.map Prod.fst) :
    (rows.foldl (upsertOfficialResult season tournamentId checkedAt) table).find key =
      table.find key := by
  induction rows generalizing table with
  | nil => rfl
  | cons row rest ih =>
    have hrest : key.tournamentId ≠ tournamentId ∨ key.officialMatchId ∉ rest.map Prod.fst :=
      h.imp_right fun hnot hmem => hnot (List.mem_cons_of_mem _ hmem)
    have hne : key ≠ ⟨tournamentId, row.1⟩ := by
      intro hkey
      cases h with
      | inl hother => exact hother (congrArg OfficialMatchKey.tournamentId hkey)
      | inr hnot =>
        apply hnot
        rw [congrArg OfficialMatchKey.officialMatchId hkey]
        exact List.mem_cons_self
    rw [List.foldl_cons, ih hrest, upsertOfficialResult, KeyedTable.find_upsert, if_neg hne]

/-- A row is stored under its key. -/
theorem find_foldl_upsert_of_mem (hdistinct : (rows.map Prod.fst).Nodup) {row : ℕ × Values}
    (h : row ∈ rows) :
    ∃ seasonId,
      (rows.foldl (upsertOfficialResult season tournamentId checkedAt) table).find
        ⟨tournamentId, row.1⟩ = some ⟨seasonId, row.2, checkedAt⟩ := by
  induction rows generalizing table with
  | nil => exact absurd h List.not_mem_nil
  | cons first rest ih =>
    rw [List.map_cons, List.nodup_cons] at hdistinct
    rw [List.foldl_cons]
    cases List.mem_cons.mp h with
    | inl hfirst =>
      subst hfirst
      rw [find_foldl_upsert_of_not_mem (Or.inr hdistinct.1), upsertOfficialResult,
        KeyedTable.find_upsert, if_pos rfl]
      exact ⟨_, rfl⟩
    | inr hrest => exact ih hdistinct.2 hrest

/-- Upserted results stay or take the values of a row. -/
theorem find_foldl_upsert (hdistinct : (rows.map Prod.fst).Nodup) (officialMatchId : ℕ) :
    (rows.foldl (upsertOfficialResult season tournamentId checkedAt) table).find
        ⟨tournamentId, officialMatchId⟩ = table.find ⟨tournamentId, officialMatchId⟩ ∨
      ∃ values, (officialMatchId, values) ∈ rows ∧
        ∃ seasonId, (rows.foldl (upsertOfficialResult season tournamentId checkedAt) table).find
          ⟨tournamentId, officialMatchId⟩ = some ⟨seasonId, values, checkedAt⟩ := by
  by_cases hmem : officialMatchId ∈ rows.map Prod.fst
  · obtain ⟨row, hrow, hid⟩ := List.mem_map.mp hmem
    subst hid
    exact Or.inr ⟨row.2, hrow, find_foldl_upsert_of_mem hdistinct hrow⟩
  · exact Or.inl (find_foldl_upsert_of_not_mem (Or.inr hmem))

end Upserts

/-- What a publication that succeeds has checked and written under the row of its tournament. -/
structure OfficialH2HPublished (season tournamentId : ℕ) (publication : OfficialH2HPublication)
    (tables written : OfficialH2HTables) (current : OfficialTournamentRow) : Prop where
  stored : tables.tournaments.find tournamentId = some current
  seasonId : current.seasonId = season
  hash : current.officialScheduleLockedAt ≠ none → ∀ hash,
    current.officialScheduleHash = some hash → hash ≠ "" → hash = publication.scheduleHash
  battleDistinct : (publication.battleRows.map Prod.fst).Nodup
  knockoutDistinct : (publication.knockoutRows.map Prod.fst).Nodup
  battleResults : written.battleResults =
    publication.battleRows.foldl
      (upsertOfficialResult season tournamentId publication.checkedAt) tables.battleResults
  knockoutResults : written.knockoutResults =
    publication.knockoutRows.foldl
      (upsertOfficialResult season tournamentId publication.checkedAt) tables.knockoutResults
  tournaments : ∀ id, written.tournaments.find id =
    (tables.tournaments.find id).map fun row =>
      if id = tournamentId ∧ row.seasonId = season then
        { row with
          officialScheduleHash := some publication.scheduleHash
          officialScheduleSyncedAt := some publication.checkedAt
          officialScheduleLockedAt := current.officialScheduleLockedAt.or
            (if publication.lockSchedule then some publication.checkedAt else none) }
      else row

/-- A refused statement ends the transaction. -/
theorem checkStatement_bind_eq_ok {refused : RefusedStatements} {statement : OfficialH2HStatement}
    {Result : Type} {next : Unit → Except String Result} {result : Result} :
    (checkStatement refused statement >>= next) = .ok result ↔
      refused statement = none ∧ next () = .ok result := by
  unfold checkStatement
  cases refused statement <;> simp [bind, Except.bind]

/-- What a publication does when it succeeds. -/
theorem publishOfficialH2H_eq_ok {season tournamentId : ℕ} {publication : OfficialH2HPublication}
    {refused : RefusedStatements} {tables written : OfficialH2HTables}
    (h : publishOfficialH2H season tournamentId publication refused tables = .ok written) :
    ∃ current, OfficialH2HPublished season tournamentId publication tables written current := by
  unfold publishOfficialH2H at h
  obtain ⟨current, hcurrent, h⟩ := orThrow_bind_eq_ok.mp h
  obtain ⟨hhash, h⟩ := throwIf_bind_eq_ok.mp h
  obtain ⟨battle, hbattle, h⟩ := bind_eq_ok.mp h
  obtain ⟨-, h⟩ := checkStatement_bind_eq_ok.mp h
  obtain ⟨-, h⟩ := throwIf_bind_eq_ok.mp h
  obtain ⟨knockout, hknockout, h⟩ := bind_eq_ok.mp h
  obtain ⟨-, h⟩ := throwIf_bind_eq_ok.mp h
  obtain ⟨-, h⟩ := checkStatement_bind_eq_ok.mp h
  obtain ⟨-, h⟩ := checkStatement_bind_eq_ok.mp h
  obtain ⟨-, h⟩ := checkStatement_bind_eq_ok.mp h
  obtain ⟨-, hwritten⟩ := checkStatement_bind_eq_ok.mp h
  obtain ⟨hstored, hseason⟩ := Option.filter_eq_some_iff.mp hcurrent
  obtain ⟨hbattleDistinct, hbattleRows⟩ := upsertOfficialResults_eq_ok.mp hbattle
  obtain ⟨hknockoutDistinct, hknockoutRows⟩ := upsertOfficialResults_eq_ok.mp hknockout
  obtain rfl := Except.ok.inj hwritten
  exact ⟨current,
    { stored := hstored
      seasonId := of_decide_eq_true hseason
      hash := by
        intro hlocked hash hsome hne
        by_contra hother
        exact hhash ⟨hlocked, hash, hsome, hne, hother⟩
      battleDistinct := hbattleDistinct
      knockoutDistinct := hknockoutDistinct
      battleResults := hbattleRows.symm
      knockoutResults := hknockoutRows.symm
      tournaments := fun id => KeyedTable.find_updateWhere _ _ id }⟩

end LetletmeData
