import LetletmeData.Domain.CoreSnapshot
import LetletmeData.Library.JavaScript
import LetletmeData.Repositories.PublicationTables

/-!
# Staging and persisting a core snapshot

One transaction stages the payloads of the fetched snapshot for publication and then persists
the snapshot. Persistence lets newer stored prices and the stored fixtures of live events win
over the fetch, so what is published is what is persisted exactly when no winner differs from
the fetch.
-/

namespace LetletmeData

open LetletmeData.Library

/-- The stored columns of a team that identify it. -/
structure StoredTeam where
  code : ℕ
  pulseId : ℕ
  deriving DecidableEq

/-- The stored columns of a player that a core snapshot is reconciled with. -/
structure StoredPlayer where
  code : ℕ
  price : ℤ
  priceSourceCheckedAt : Option ℕ
  deriving DecidableEq

/-- A stored fixture; its teams may be unknown. -/
structure StoredFixture where
  code : ℕ
  event : Option ℕ
  finished : Bool
  finishedProvisional : Bool
  kickoffTime : Option ℕ
  minutes : ℕ
  provisionalStartTime : Bool
  started : Option Bool
  teamA : Option ℕ
  teamAScore : Option ℕ
  teamH : Option ℕ
  teamHScore : Option ℕ
  stats : List FixtureStat
  teamHDifficulty : Option ℕ
  teamADifficulty : Option ℕ
  pulseId : ℕ
  createdAt : Option ℕ
  updatedAt : Option ℕ

/-- The current seasons, and the rows of the season under their identifiers; of an event, the
time of its last live snapshot. -/
structure CoreTables where
  currentSeasons : List FplSeasonRef
  teams : KeyedTable ℕ StoredTeam
  players : KeyedTable ℕ StoredPlayer
  events : KeyedTable ℕ (Option ℕ)
  fixtures : KeyedTable ℕ StoredFixture

/-- `isFplSeasonCode`. -/
def isFplSeasonCode (value : String) : Prop :=
  isSeasonCode value = true ∧
    decimalValue (value.toList.drop 2) = (decimalValue (value.toList.take 2) + 1) % 100

instance (value : String) : Decidable (isFplSeasonCode value) :=
  inferInstanceAs (Decidable (_ ∧ _))

/-- `explicitSeasonRef`. -/
def explicitSeasonRef (seasonCode : String) : Except RepositoryError FplSeasonRef := do
  throwIf (¬ isFplSeasonCode seasonCode) (.plainError ("Invalid FPL season code: " ++ seasonCode))
  return { seasonId := 2000 + decimalValue (seasonCode.toList.take 2), seasonCode := seasonCode }

/-- The entry that a `Map` built from the values holds under a key. -/
def mapEntry {Value : Type} (values : List Value) (key : Value → ℕ) (wanted : ℕ) : Option Value :=
  values.reverse.find? fun value => key value = wanted

/-- A stored team contradicts the identities of the snapshot. -/
def TeamConflict (snapshot : CoreSnapshot) (teamId : ℕ) (stored : StoredTeam) : Prop :=
  (∃ candidate ∈ mapEntry snapshot.teams (·.id) teamId,
      candidate.code ≠ stored.code ∨ candidate.pulseId ≠ stored.pulseId) ∨
    ((mapEntry snapshot.teams (·.code) stored.code).map (·.id)).getD teamId ≠ teamId ∨
    ((mapEntry snapshot.teams (·.pulseId) stored.pulseId).map (·.id)).getD teamId ≠ teamId

instance (snapshot : CoreSnapshot) (teamId : ℕ) (stored : StoredTeam) :
    Decidable (TeamConflict snapshot teamId stored) :=
  inferInstanceAs (Decidable ((∃ candidate ∈ mapEntry snapshot.teams (·.id) teamId, _) ∨ _))

/-- A stored player contradicts the identities of the snapshot. -/
def PlayerConflict (snapshot : CoreSnapshot) (elementId : ℕ) (stored : StoredPlayer) : Prop :=
  (∃ candidate ∈ mapEntry snapshot.players (·.id) elementId, candidate.code ≠ stored.code) ∨
    ((mapEntry snapshot.players (·.code) stored.code).map (·.id)).getD elementId ≠ elementId

instance (snapshot : CoreSnapshot) (elementId : ℕ) (stored : StoredPlayer) :
    Decidable (PlayerConflict snapshot elementId stored) :=
  inferInstanceAs (Decidable ((∃ candidate ∈ mapEntry snapshot.players (·.id) elementId, _) ∨ _))

/-- `assertIdentityAlignment`. -/
def assertIdentityAlignment (tables : CoreTables) (snapshot : CoreSnapshot) :
    Except RepositoryError Unit :=
  throwIf ((∃ entry ∈ tables.teams.entries, TeamConflict snapshot entry.1 entry.2) ∨
      ∃ entry ∈ tables.players.entries, PlayerConflict snapshot entry.1 entry.2)
    (.databaseError "Core snapshot identities conflict with canonical rows"
      "CORE_SNAPSHOT_IDENTITY_CONFLICT")

/-- `mapDbFixtureToDomain`. -/
def mapDbFixtureToDomain (id : ℕ) (row : StoredFixture) : Except RepositoryError Fixture := do
  let missing : RepositoryError :=
    .databaseError ("Fixture " ++ toString id ++ " is missing a team") "FIXTURE_TEAM_MISSING"
  let teamA ← orThrow row.teamA missing
  let teamH ← orThrow row.teamH missing
  return {
    id := id, code := row.code, event := row.event, finished := row.finished
    finishedProvisional := row.finishedProvisional, kickoffTime := row.kickoffTime
    minutes := row.minutes, provisionalStartTime := row.provisionalStartTime
    started := row.started, teamA := teamA, teamAScore := row.teamAScore, teamH := teamH
    teamHScore := row.teamHScore, stats := row.stats, teamHDifficulty := row.teamHDifficulty
    teamADifficulty := row.teamADifficulty, pulseId := row.pulseId, createdAt := row.createdAt
    updatedAt := row.updatedAt }

/-- `findAll` of the fixture repository. -/
def findAllFixtures (tables : CoreTables) : Except RepositoryError (List Fixture) :=
  let rows := tables.fixtures.selectSorted (fun _ _ => True) fun left right => left.1 ≤ right.1
  match rows.mapM fun row => mapDbFixtureToDomain row.1 row.2 with
  | .ok fixtures => .ok fixtures
  | .error _ => .error (.databaseError "Failed to retrieve all fixtures" "FIND_ALL_ERROR")

/-- The stored price of a player whose source was checked at that time or later. -/
def newerPrice (tables : CoreTables) (sourceCheckedAt id : ℕ) : Option ℤ :=
  ((tables.players.find id).filter fun row =>
    ∃ checkedAt ∈ row.priceSourceCheckedAt, sourceCheckedAt ≤ checkedAt).map (·.price)

/-- The live snapshot of the event was checked at that time or later. -/
def LiveOwnedEvent (tables : CoreTables) (sourceCheckedAt eventId : ℕ) : Prop :=
  ∃ row ∈ tables.events.find eventId, ∃ checkedAt ∈ row, sourceCheckedAt ≤ checkedAt

instance (tables : CoreTables) (sourceCheckedAt eventId : ℕ) :
    Decidable (LiveOwnedEvent tables sourceCheckedAt eventId) :=
  inferInstanceAs (Decidable (∃ row ∈ tables.events.find eventId, _))

/-- The stored fixtures, read only when some event is live-owned. -/
def storedFixtures (tables : CoreTables) (sourceCheckedAt : ℕ) :
    Except RepositoryError (List Fixture) :=
  if ∃ entry ∈ tables.events.entries, LiveOwnedEvent tables sourceCheckedAt entry.1 then
    findAllFixtures tables
  else .ok []

/-- The event of the fetched or of the stored fixture is live-owned. -/
def LiveOwned (tables : CoreTables) (sourceCheckedAt : ℕ) (stored : Option Fixture)
    (fixture : Fixture) : Prop :=
  (∃ eventId ∈ fixture.event, LiveOwnedEvent tables sourceCheckedAt eventId) ∨
    ∃ kept ∈ stored, ∃ eventId ∈ kept.event, LiveOwnedEvent tables sourceCheckedAt eventId

instance (tables : CoreTables) (sourceCheckedAt : ℕ) (stored : Option Fixture)
    (fixture : Fixture) : Decidable (LiveOwned tables sourceCheckedAt stored fixture) :=
  inferInstanceAs (Decidable ((∃ eventId ∈ fixture.event, _) ∨ ∃ kept ∈ stored, _))

/-- A stored fixture that wins keeps all but the timestamps of the fetched one. -/
def winningFixture (stored fixture : Fixture) : Fixture :=
  { stored with createdAt := fixture.createdAt, updatedAt := fixture.updatedAt }

/-- The fixture to persist. -/
def reconcileFixture (tables : CoreTables) (sourceCheckedAt : ℕ) (stored : Option Fixture)
    (fixture : Fixture) : Except RepositoryError Fixture :=
  if LiveOwned tables sourceCheckedAt stored fixture then do
    let kept ← orThrow stored
      (.databaseError "A Live-owned fixture is missing from canonical storage"
        "CORE_SNAPSHOT_LIVE_FIXTURE_MISSING")
    return winningFixture kept fixture
  else .ok fixture

/-- The player to persist. -/
def reconcilePlayer (tables : CoreTables) (sourceCheckedAt : ℕ) (player : Player) : Player :=
  match newerPrice tables sourceCheckedAt player.id with
  | none => player
  | some price => { player with price := price }

/-- `reconcileDurableWinners`; without a check time the fetch wins throughout. -/
def reconcileDurableWinners (tables : CoreTables) (snapshot : CoreSnapshot) :
    Option ℕ → Except RepositoryError CoreSnapshot
  | none => .ok snapshot
  | some sourceCheckedAt => do
    let stored ← storedFixtures tables sourceCheckedAt
    let fixtures ← snapshot.fixtures.mapM fun fixture =>
      reconcileFixture tables sourceCheckedAt (mapEntry stored (·.id) fixture.id) fixture
    return { snapshot with
      players := snapshot.players.map (reconcilePlayer tables sourceCheckedAt)
      fixtures := fixtures }

/-- `persistCoreSnapshot`, up to the row writes: the snapshot it commits. -/
def persistCoreSnapshot (tables : CoreTables) (snapshot : CoreSnapshot)
    (sourceCheckedAt : Option ℕ) : Except RepositoryError CoreSnapshot := do
  let season ← explicitSeasonRef snapshot.season
  throwIf (tables.currentSeasons ≠ [season])
    (.databaseError
      ("Core snapshot " ++ season.seasonCode ++ " is not the sole current database season")
      "CORE_SNAPSHOT_CURRENT_SEASON_MISMATCH")
  assertIdentityAlignment tables snapshot
  reconcileDurableWinners tables snapshot sourceCheckedAt

/-- The transaction of `syncCoreSnapshot`: the payloads it stages and the snapshot it commits. -/
def coreSnapshotTransaction (dateParse : String → Option ℤ) (tables : CoreTables)
    (snapshot : CoreSnapshot) (sourceCheckedAt : ℕ) :
    Except RepositoryError (CorePayloads × CoreSnapshot) := do
  let payloads := corePayloads dateParse snapshot sourceCheckedAt
  let persisted ← persistCoreSnapshot tables snapshot (some sourceCheckedAt)
  return (payloads, persisted)

/-- The payloads `publishCoreSnapshotPublication` publishes: the prepared ones if it is given
any, otherwise those of the persisted snapshot. -/
def publishedPayloads (dateParse : String → Option ℤ) (persisted : CoreSnapshot)
    (sourceCheckedAt : ℕ) (prepared : Option CorePayloads) : CorePayloads :=
  prepared.getD (corePayloads dateParse persisted sourceCheckedAt)

/-- Whatever the transaction commits, the staged payloads are those of the persisted snapshot. -/
def PublishesPersisted (dateParse : String → Option ℤ) (tables : CoreTables)
    (snapshot : CoreSnapshot) (sourceCheckedAt : ℕ) : Prop :=
  ∀ staged persisted,
    coreSnapshotTransaction dateParse tables snapshot sourceCheckedAt = .ok (staged, persisted) →
      publishedPayloads dateParse persisted sourceCheckedAt (some staged) =
        publishedPayloads dateParse persisted sourceCheckedAt none

/-- Every durable winner agrees with the fetch: newer stored prices are the fetched ones, and
the stored fixtures of live events differ from the fetched ones in timestamps only. -/
def DurableWinnersAgree (tables : CoreTables) (snapshot : CoreSnapshot) (sourceCheckedAt : ℕ) :
    Prop :=
  (∀ player ∈ snapshot.players, ∀ price ∈ newerPrice tables sourceCheckedAt player.id,
      price = player.price) ∧
    ∀ stored, storedFixtures tables sourceCheckedAt = .ok stored →
      ∀ fixture ∈ snapshot.fixtures, ∀ kept ∈ mapEntry stored (·.id) fixture.id,
        LiveOwned tables sourceCheckedAt (some kept) fixture → winningFixture kept fixture = fixture

section Reconcile

variable {tables : CoreTables} {snapshot : CoreSnapshot} {sourceCheckedAt : ℕ}

/-- The stored price of a player leaves it alone exactly when it is the fetched one. -/
theorem reconcilePlayer_eq_self_iff {player : Player} :
    reconcilePlayer tables sourceCheckedAt player = player ↔
      ∀ price ∈ newerPrice tables sourceCheckedAt player.id, price = player.price := by
  unfold reconcilePlayer
  cases newerPrice tables sourceCheckedAt player.id with
  | none => simp
  | some price =>
    constructor
    · intro heq other hother
      obtain rfl : price = other := Option.some.inj hother
      exact congrArg (·.price) heq
    · intro hprice
      rw [hprice price rfl]

/-- A fixture that is persisted as it was fetched is not live-owned, or its winner is the same. -/
theorem reconcileFixture_eq_self_iff {stored : Option Fixture} {fixture persisted : Fixture}
    (h : reconcileFixture tables sourceCheckedAt stored fixture = .ok persisted) :
    persisted = fixture ↔
      ∀ kept ∈ stored, LiveOwned tables sourceCheckedAt (some kept) fixture →
        winningFixture kept fixture = fixture := by
  unfold reconcileFixture at h
  split at h
  next howned =>
    obtain ⟨kept, rfl, hkept⟩ := orThrow_bind_eq_ok.mp h
    obtain rfl : winningFixture kept fixture = persisted := Except.ok.inj hkept
    constructor
    · intro heq other hother _
      obtain rfl : kept = other := Option.some.inj hother
      exact heq
    · exact fun hall => hall kept rfl howned
  next hfree =>
    obtain rfl : fixture = persisted := Except.ok.inj h
    refine iff_of_true rfl ?_
    rintro kept hkept howned
    obtain rfl : stored = some kept := hkept
    exact absurd howned hfree

/-- A loop leaves its list alone exactly when every pass leaves its value alone. -/
theorem forall₂_eq_self_iff {Value : Type} {related : Value → Value → Prop} {unchanged : Value → Prop}
    {values results : List Value} (h : List.Forall₂ related values results)
    (hpass : ∀ value result, related value result → (result = value ↔ unchanged value)) :
    results = values ↔ ∀ value ∈ values, unchanged value := by
  induction h with
  | nil => simp
  | cons hhead _ ih => rw [List.cons.injEq, ih, hpass _ _ hhead, List.forall_mem_cons]

/-- The payloads of two snapshots that differ in players and fixtures alone. -/
theorem corePayloads_eq_iff {dateParse : String → Option ℤ} {players : List Player}
    {fixtures : List Fixture} :
    corePayloads dateParse snapshot sourceCheckedAt =
        corePayloads dateParse { snapshot with players := players, fixtures := fixtures }
          sourceCheckedAt ↔
      players = snapshot.players ∧ fixtures = snapshot.fixtures := by
  simp [corePayloads, eq_comm]

/-- What `persistCoreSnapshot` commits: the fetched snapshot with reconciled players and
fixtures. -/
theorem persistCoreSnapshot_eq_ok {persisted : CoreSnapshot}
    (h : persistCoreSnapshot tables snapshot (some sourceCheckedAt) = .ok persisted) :
    ∃ stored fixtures, storedFixtures tables sourceCheckedAt = .ok stored ∧
      List.Forall₂ (fun fixture result => reconcileFixture tables sourceCheckedAt
        (mapEntry stored (·.id) fixture.id) fixture = .ok result) snapshot.fixtures fixtures ∧
      persisted = { snapshot with
        players := snapshot.players.map (reconcilePlayer tables sourceCheckedAt)
        fixtures := fixtures } := by
  obtain ⟨season, -, hseason⟩ := bind_eq_ok.mp h
  obtain ⟨-, halign⟩ := throwIf_bind_eq_ok.mp hseason
  obtain ⟨_, -, hreconciled⟩ := bind_eq_ok.mp halign
  obtain ⟨stored, hstored, hfixtures⟩ := bind_eq_ok.mp hreconciled
  obtain ⟨fixtures, hloop, hpersisted⟩ := bind_eq_ok.mp hfixtures
  exact ⟨stored, fixtures, hstored, mapM_eq_ok.mp hloop, (Except.ok.inj hpersisted).symm⟩

/-- What a committed transaction has staged is what it persisted when every winner agrees. -/
theorem staged_eq_iff {dateParse : String → Option ℤ} {persisted : CoreSnapshot}
    (h : persistCoreSnapshot tables snapshot (some sourceCheckedAt) = .ok persisted) :
    corePayloads dateParse snapshot sourceCheckedAt =
        corePayloads dateParse persisted sourceCheckedAt ↔
      DurableWinnersAgree tables snapshot sourceCheckedAt := by
  obtain ⟨stored, fixtures, hstored, hfixtures, rfl⟩ := persistCoreSnapshot_eq_ok h
  rw [corePayloads_eq_iff]
  refine and_congr ?_ ?_
  · conv_lhs => rw [← List.map_id snapshot.players]
    simp only [List.map_map, List.map_inj_left, Function.comp_apply, id]
    exact forall₂_congr fun player _ => reconcilePlayer_eq_self_iff
  · rw [forall₂_eq_self_iff hfixtures fun fixture result => reconcileFixture_eq_self_iff]
    constructor
    · intro hall other hother
      obtain rfl : stored = other := Except.ok.inj (hstored.symm.trans hother)
      exact hall
    · exact fun hall => hall stored hstored

end Reconcile

section Examples

/-- A fetched season: 38 events, 20 teams of eleven players and all pairings of teams. -/
def fetchedSeason : CoreSnapshot :=
  { season := season2526.seasonCode
    events := (List.range 38).map fun n =>
      { id := n + 1, name := "Gameweek", deadlineTime := none, averageEntryScore := none
        finished := false, dataChecked := false, dataCheckedAt := none
        highestScoringEntry := none, deadlineTimeEpoch := none, deadlineTimeGameOffset := none
        highestScore := none, isPrevious := false, isCurrent := false, isNext := false
        cupLeagueCreate := false, h2hKoMatchesCreated := false, chipPlays := none
        mostSelected := none, mostTransferredIn := none, topElement := none
        topElementInfo := none, transfersMade := none, mostCaptained := none
        mostViceCaptained := none, createdAt := none, updatedAt := none }
    teams := (List.range 20).map fun n =>
      { id := n + 1, name := "Team", shortName := "TEA", code := n + 1, draw := 0, form := none
        loss := 0, played := 0, points := 0, position := n + 1, strength := none
        teamDivision := none, unavailable := false, win := 0, strengthOverallHome := 1000
        strengthOverallAway := 1000, strengthAttackHome := 1000, strengthAttackAway := 1000
        strengthDefenceHome := 1000, strengthDefenceAway := 1000, pulseId := n + 1
        createdAt := none, updatedAt := none }
    players := (List.range 220).map fun n =>
      { id := n + 1, code := n + 1, type := n % 4 + 1, teamId := n % 20 + 1, price := 55
        startPrice := 55, firstName := "First", secondName := "Second", webName := "Player" }
    phases := [{ id := 1, name := "Overall", startEvent := 1, stopEvent := 38,
                 highestScore := none }]
    fixtures := (List.range 20).flatMap fun home =>
      ((List.range 20).filter (· ≠ home)).map fun away =>
        { id := 20 * home + away + 1, code := 20 * home + away + 1, event := none
          finished := false, finishedProvisional := false, kickoffTime := none, minutes := 0
          provisionalStartTime := false, started := none, teamA := away + 1, teamAScore := none
          teamH := home + 1, teamHScore := none, stats := [], teamHDifficulty := none
          teamADifficulty := none, pulseId := 20 * home + away + 1, createdAt := none
          updatedAt := none }
    selectionRules := none }

/-- The market has stored another price of the first player since the fetch. -/
def marketTables : CoreTables :=
  { currentSeasons := [season2526]
    teams := .empty
    players := KeyedTable.empty.insertAbsent 1
      { code := 1, price := 56, priceSourceCheckedAt := some 2 }
    events := .empty
    fixtures := .empty }

end Examples

end LetletmeData
