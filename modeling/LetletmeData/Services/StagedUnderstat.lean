import LetletmeData.Services.UnderstatStaging

/-!
# What is staged is read

Each kind of staged data has a writer and a reader. A reader returns what was written with all its
dates, whatever the order in which the fields came back, if the id of a team or match is a positive
integer. It returns nothing that was staged under another kind or season, and nothing but the
content that was hashed.
-/

namespace LetletmeData.Understat

open LetletmeData.Library

/-! ### The five readers -/

/-- What is staged: a discovery, or the rows of a team or a match. -/
inductive StagedUnderstat where
  | teamLeague (discovery : UnderstatTeamDiscovery)
  | teamDetail (teamId : Decimal) (rows : List UnderstatTeamStatSplit)
  | playerLeague (discovery : UnderstatPlayerDiscovery)
  | playerTeamDetail (teamId : Decimal) (players : List UnderstatPlayer)
      (rows : List UnderstatPlayerTeamSeason)
  | playerMatchDetail (matchId : Decimal) (players : List UnderstatPlayer)
      (rows : List UnderstatPlayerMatchStat)

namespace StagedUnderstat

/-- The kind under which something is staged. -/
def kind : StagedUnderstat → StagingKind
  | teamLeague _ => .teamLeague
  | teamDetail _ _ => .teamDetail
  | playerLeague _ => .playerLeague
  | playerTeamDetail _ _ _ => .playerTeamDetail
  | playerMatchDetail _ _ _ => .playerMatchDetail

/-- What is staged, as an object. -/
def fields : StagedUnderstat → Fields
  | teamLeague discovery => discovery.fields
  | teamDetail teamId rows =>
    [("teamId", .number teamId), ("rows", rowObjects UnderstatTeamStatSplit.fields rows)]
  | playerLeague discovery => discovery.fields
  | playerTeamDetail teamId players rows =>
    [("teamId", .number teamId), ("players", rowObjects UnderstatPlayer.fields players),
      ("rows", rowObjects UnderstatPlayerTeamSeason.fields rows)]
  | playerMatchDetail matchId players rows =>
    [("matchId", .number matchId), ("players", rowObjects UnderstatPlayer.fields players),
      ("rows", rowObjects UnderstatPlayerMatchStat.fields rows)]

/-- The staged payload. -/
def stage (now : DateValue) (season : String) : StagedUnderstat → Fields
  | teamLeague discovery => stageUnderstatTeamLeague now season discovery
  | teamDetail teamId rows => stageUnderstatTeamDetail now season teamId rows
  | playerLeague discovery => stageUnderstatPlayerLeague now season discovery
  | playerTeamDetail teamId players rows =>
    stageUnderstatPlayerTeamDetail now season teamId players rows
  | playerMatchDetail matchId players rows =>
    stageUnderstatPlayerMatchDetail now season matchId players rows

/-- The rows are those of the season and of the team or match. -/
def HasRowsOf (season : String) : StagedUnderstat → Prop
  | teamLeague _ | playerLeague _ => True
  | teamDetail teamId rows => ∀ row ∈ rows, row.season = season ∧ row.teamId = teamId
  | playerTeamDetail teamId _ rows => ∀ row ∈ rows, row.season = season ∧ row.teamId = teamId
  | playerMatchDetail matchId _ rows => ∀ row ∈ rows, row.matchId = matchId

/-- The id of the team or match is a positive integer. -/
def HasPositiveId : StagedUnderstat → Prop
  | teamLeague _ | playerLeague _ => True
  | teamDetail id _ | playerTeamDetail id _ _ | playerMatchDetail id _ _ =>
    IsInteger id.value ∧ 0 < id.value

end StagedUnderstat

/-- The reader of a kind. -/
def readStaged (host : StagingHost) (payload : Option Fields) (sourceHash : Option String)
    (season : String) : StagingKind → Except String JsValue
  | .teamLeague => readStagedUnderstatTeamLeague host payload sourceHash season
  | .teamDetail => readStagedUnderstatTeamDetail host payload sourceHash season
  | .playerLeague => readStagedUnderstatPlayerLeague host payload sourceHash season
  | .playerTeamDetail => readStagedUnderstatPlayerTeamDetail host payload sourceHash season
  | .playerMatchDetail => readStagedUnderstatPlayerMatchDetail host payload sourceHash season

/-- Every reader begins with the envelope of its own kind. -/
theorem readStaged_eq_ok {host : StagingHost} {payload : Option Fields} {sourceHash : Option String}
    {season : String} {kind : StagingKind} {value : JsValue}
    (h : readStaged host payload sourceHash season kind = .ok value) :
    ∃ data, parseEnvelope host payload sourceHash kind season = .ok data := by
  cases kind <;>
    · obtain ⟨data, hdata, -⟩ := bind_eq_ok.mp h
      exact ⟨data, hdata⟩

/-- Rows of records have distinct names at every depth. -/
theorem distinctKeys_rowObjects {Row : Type} {fields : Row → Fields} {dates : List String}
    (hflat : ∀ row, FlatRecord dates (fields row)) (rows : List Row) :
    (rowObjects fields rows).DistinctKeys :=
  .array (List.forall_mem_map.mpr fun row _ => (hflat row).distinctKeys)

/-- The fields of a team discovery have distinct names at every depth. -/
theorem UnderstatTeamDiscovery.distinctKeys (discovery : UnderstatTeamDiscovery) :
    (JsValue.object discovery.fields).DistinctKeys := by
  refine .object (by simp [fields]) fun field hfield => ?_
  simp only [fields, List.mem_cons, List.not_mem_nil, or_false] at hfield
  rcases hfield with rfl | rfl | rfl | rfl | rfl
  · exact discovery.season.flat.distinctKeys
  · exact distinctKeys_rowObjects UnderstatTeam.flat _
  · exact distinctKeys_rowObjects UnderstatMatch.flat _
  · exact distinctKeys_rowObjects UnderstatTeamMatchStat.flat _
  · exact distinctKeys_rowObjects UnderstatTeamSeason.flat _

/-- The fields of a player discovery have distinct names at every depth. -/
theorem UnderstatPlayerDiscovery.distinctKeys (discovery : UnderstatPlayerDiscovery) :
    (JsValue.object discovery.fields).DistinctKeys := by
  refine .object (by simp [fields]) fun field hfield => ?_
  simp only [fields, List.mem_cons, List.not_mem_nil, or_false] at hfield
  rcases hfield with rfl | rfl | rfl | rfl | rfl
  · exact discovery.season.flat.distinctKeys
  · exact distinctKeys_rowObjects UnderstatTeam.flat _
  · exact distinctKeys_rowObjects UnderstatMatch.flat _
  · exact distinctKeys_rowObjects UnderstatPlayer.flat _
  · exact distinctKeys_rowObjects UnderstatPlayerSeason.flat _

/-- What is staged of the rows of a team has distinct names at every depth. -/
theorem distinctKeys_teamDetail (teamId : Decimal) (rows : List UnderstatTeamStatSplit) :
    (JsValue.object [("teamId", .number teamId),
      ("rows", rowObjects UnderstatTeamStatSplit.fields rows)]).DistinctKeys :=
  .object (by simp) (by
    simpa using ⟨.number _, distinctKeys_rowObjects UnderstatTeamStatSplit.flat rows⟩)

/-- What is staged of the players of a team has distinct names at every depth. -/
theorem distinctKeys_playerTeamDetail (teamId : Decimal) (players : List UnderstatPlayer)
    (rows : List UnderstatPlayerTeamSeason) :
    (JsValue.object [("teamId", .number teamId),
      ("players", rowObjects UnderstatPlayer.fields players),
      ("rows", rowObjects UnderstatPlayerTeamSeason.fields rows)]).DistinctKeys :=
  .object (by simp) (by
    simpa using ⟨.number _, distinctKeys_rowObjects UnderstatPlayer.flat players,
      distinctKeys_rowObjects UnderstatPlayerTeamSeason.flat rows⟩)

/-- What is staged of the players of a match has distinct names at every depth. -/
theorem distinctKeys_playerMatchDetail (matchId : Decimal) (players : List UnderstatPlayer)
    (rows : List UnderstatPlayerMatchStat) :
    (JsValue.object [("matchId", .number matchId),
      ("players", rowObjects UnderstatPlayer.fields players),
      ("rows", rowObjects UnderstatPlayerMatchStat.fields rows)]).DistinctKeys :=
  .object (by simp) (by
    simpa using ⟨.number _, distinctKeys_rowObjects UnderstatPlayer.flat players,
      distinctKeys_rowObjects UnderstatPlayerMatchStat.flat rows⟩)

section Readers

variable {host : StagingHost} {now : DateValue} {season : String} {payload : StoredRecord}

/-- A staged team discovery is read with all its dates. -/
theorem readStagedUnderstatTeamLeague_stage {discovery : UnderstatTeamDiscovery}
    (hsame : (JsValue.object (stageUnderstatTeamLeague now season discovery)).SameContent
      (.object payload.fields)) :
    ∃ result, readStagedUnderstatTeamLeague host (some payload.fields)
        (some (understatStagingHash host (stageUnderstatTeamLeague now season discovery))) season =
          .ok result ∧ (JsValue.object discovery.fields).SameContent result := by
  have hdata : (JsValue.object [("discovery", .object discovery.fields)]).DistinctKeys :=
    .object (by simp) (by simpa using discovery.distinctKeys)
  have hnames : (discovery.fields.map Prod.fst).Nodup := by simp [UnderstatTeamDiscovery.fields]
  obtain ⟨data, hparse, hdata⟩ := exists_parseEnvelope host hdata hsame
  obtain ⟨found, hfound, hreread⟩ :=
    hdata.exists_record "discovery" rfl hnames "team-league.data.discovery"
  obtain ⟨matchRows, hmatchRows, hmatchRereads⟩ := hreread.exists_rows "matches" rfl
    UnderstatMatch.flat "team-league.discovery.matches"
  obtain ⟨teamSeasons, hteamSeasons, hseasonRereads⟩ := hreread.exists_rows "teamSeasons" rfl
    UnderstatTeamSeason.flat "team-league.discovery.teamSeasons"
  obtain ⟨seasonRow, hseasonRow, hseason⟩ :=
    exists_hydrateSeason host hreread rfl "team-league.discovery.season"
  obtain ⟨teams, hteams, hteamRereads⟩ := hreread.exists_rows "teams" rfl UnderstatTeam.flat
    "team-league.discovery.teams"
  obtain ⟨hydratedMatches, hhydratedMatches, hmatches⟩ := exists_hydrateRows host
    UnderstatMatch.flat (by decide) hmatchRereads "team-league.matches"
  obtain ⟨stats, hstats, hstatRereads⟩ := hreread.exists_rows "teamMatchStats" rfl
    UnderstatTeamMatchStat.flat "team-league.discovery.teamMatchStats"
  obtain ⟨hydratedSeasons, hhydratedSeasons, hseasons⟩ := exists_hydrateRows host
    UnderstatTeamSeason.flat (by decide) hseasonRereads "team-league.teamSeasons"
  refine ⟨_, bind_eq_ok.mpr ⟨data, hparse, bind_eq_ok.mpr ⟨found, hfound, bind_eq_ok.mpr
    ⟨matchRows, hmatchRows, bind_eq_ok.mpr ⟨teamSeasons, hteamSeasons, bind_eq_ok.mpr
      ⟨seasonRow, hseasonRow, bind_eq_ok.mpr ⟨teams, hteams, bind_eq_ok.mpr
        ⟨hydratedMatches, hhydratedMatches, bind_eq_ok.mpr ⟨stats, hstats, bind_eq_ok.mpr
          ⟨hydratedSeasons, hhydratedSeasons, rfl⟩⟩⟩⟩⟩⟩⟩⟩⟩, ?_⟩
  exact JsValue.sameContent_spread hnames hreread.perm_names
    (.cons ⟨rfl, hseason⟩ (.cons ⟨rfl, sameContent_rows UnderstatTeam.flat hteamRereads⟩
      (.cons ⟨rfl, hmatches⟩
        (.cons ⟨rfl, sameContent_rows UnderstatTeamMatchStat.flat hstatRereads⟩
          (.cons ⟨rfl, hseasons⟩ .nil)))))

/-- A staged player discovery is read with all its dates. -/
theorem readStagedUnderstatPlayerLeague_stage {discovery : UnderstatPlayerDiscovery}
    (hsame : (JsValue.object (stageUnderstatPlayerLeague now season discovery)).SameContent
      (.object payload.fields)) :
    ∃ result, readStagedUnderstatPlayerLeague host (some payload.fields)
        (some (understatStagingHash host (stageUnderstatPlayerLeague now season discovery))) season =
          .ok result ∧ (JsValue.object discovery.fields).SameContent result := by
  have hdata : (JsValue.object [("discovery", .object discovery.fields)]).DistinctKeys :=
    .object (by simp) (by simpa using discovery.distinctKeys)
  have hnames : (discovery.fields.map Prod.fst).Nodup := by simp [UnderstatPlayerDiscovery.fields]
  obtain ⟨data, hparse, hdata⟩ := exists_parseEnvelope host hdata hsame
  obtain ⟨found, hfound, hreread⟩ :=
    hdata.exists_record "discovery" rfl hnames "player-league.data.discovery"
  obtain ⟨matchRows, hmatchRows, hmatchRereads⟩ := hreread.exists_rows "matches" rfl
    UnderstatMatch.flat "player-league.discovery.matches"
  obtain ⟨seasonRow, hseasonRow, hseason⟩ :=
    exists_hydrateSeason host hreread rfl "player-league.discovery.season"
  obtain ⟨teams, hteams, hteamRereads⟩ := hreread.exists_rows "teams" rfl UnderstatTeam.flat
    "player-league.discovery.teams"
  obtain ⟨hydratedMatches, hhydratedMatches, hmatches⟩ := exists_hydrateRows host
    UnderstatMatch.flat (by decide) hmatchRereads "player-league.matches"
  obtain ⟨players, hplayers, hplayerRereads⟩ := hreread.exists_rows "players" rfl
    UnderstatPlayer.flat "player-league.discovery.players"
  obtain ⟨seasons, hseasons, hseasonRereads⟩ := hreread.exists_rows "playerSeasons" rfl
    UnderstatPlayerSeason.flat "player-league.discovery.playerSeasons"
  refine ⟨_, bind_eq_ok.mpr ⟨data, hparse, bind_eq_ok.mpr ⟨found, hfound, bind_eq_ok.mpr
    ⟨matchRows, hmatchRows, bind_eq_ok.mpr ⟨seasonRow, hseasonRow, bind_eq_ok.mpr
      ⟨teams, hteams, bind_eq_ok.mpr ⟨hydratedMatches, hhydratedMatches, bind_eq_ok.mpr
        ⟨players, hplayers, bind_eq_ok.mpr ⟨seasons, hseasons, rfl⟩⟩⟩⟩⟩⟩⟩⟩, ?_⟩
  exact JsValue.sameContent_spread hnames hreread.perm_names
    (.cons ⟨rfl, hseason⟩ (.cons ⟨rfl, sameContent_rows UnderstatTeam.flat hteamRereads⟩
      (.cons ⟨rfl, hmatches⟩
        (.cons ⟨rfl, sameContent_rows UnderstatPlayer.flat hplayerRereads⟩
          (.cons ⟨rfl, sameContent_rows UnderstatPlayerSeason.flat hseasonRereads⟩ .nil)))))

/-- A positive integer comes back. -/
theorem Reread.requirePositiveInteger_eq {fields other : Fields} (h : Reread fields other)
    (name : String) {id : Decimal} (hid : fields.lookup name = some (.number id))
    (hpositive : IsInteger id.value ∧ 0 < id.value) (label : String) :
    requirePositiveInteger (other.lookup name) label = .ok id := by
  rw [h.lookup_eq name hid rfl, requirePositiveInteger, if_pos hpositive]

/-- The staged rows of a team are read as they were. -/
theorem readStagedUnderstatTeamDetail_stage {teamId : Decimal}
    {rows : List UnderstatTeamStatSplit}
    (hrows : ∀ row ∈ rows, row.season = season ∧ row.teamId = teamId)
    (hteamId : IsInteger teamId.value ∧ 0 < teamId.value)
    (hsame : (JsValue.object (stageUnderstatTeamDetail now season teamId rows)).SameContent
      (.object payload.fields)) :
    ∃ result, readStagedUnderstatTeamDetail host (some payload.fields)
        (some (understatStagingHash host (stageUnderstatTeamDetail now season teamId rows)))
          season = .ok result ∧
      (JsValue.object [("teamId", .number teamId),
        ("rows", rowObjects UnderstatTeamStatSplit.fields rows)]).SameContent result := by
  obtain ⟨data, hparse, hdata⟩ :=
    exists_parseEnvelope host (distinctKeys_teamDetail teamId rows) hsame
  have hid := hdata.requirePositiveInteger_eq "teamId" rfl hteamId "team-detail.teamId"
  obtain ⟨found, hfound, hrereads⟩ := hdata.exists_rows "rows" rfl UnderstatTeamStatSplit.flat
    "team-detail.rows"
  have hidentity : ¬ ∃ row ∈ found, isText (row.lookup "season") season = false ∨
      isNumber (row.lookup "teamId") teamId = false := by
    rintro ⟨other, hother, hmismatch⟩
    obtain ⟨row, hrow, hreread⟩ := exists_of_mem_of_forall₂ hrereads hother
    obtain ⟨rfl, rfl⟩ := hrows row hrow
    rw [hreread.lookup_eq "season" rfl rfl, hreread.lookup_eq "teamId" rfl rfl] at hmismatch
    simp [isText, isNumber] at hmismatch
  refine ⟨_, bind_eq_ok.mpr ⟨data, hparse, bind_eq_ok.mpr ⟨teamId, hid, bind_eq_ok.mpr
    ⟨found, hfound, throwIf_bind_eq_ok.mpr ⟨hidentity, rfl⟩⟩⟩⟩, ?_⟩
  exact JsValue.sameContent_of_forall₂ (by simp)
    (.cons ⟨rfl, .refl _⟩ (.cons ⟨rfl, sameContent_rows UnderstatTeamStatSplit.flat hrereads⟩ .nil))

/-- The staged rows of a team are refused if its id is no positive integer. -/
theorem readStagedUnderstatTeamDetail_refuses {teamId : Decimal}
    {rows : List UnderstatTeamStatSplit} (hteamId : ¬ (IsInteger teamId.value ∧ 0 < teamId.value))
    (hsame : (JsValue.object (stageUnderstatTeamDetail now season teamId rows)).SameContent
      (.object payload.fields)) :
    readStagedUnderstatTeamDetail host (some payload.fields)
        (some (understatStagingHash host (stageUnderstatTeamDetail now season teamId rows)))
          season = .error "team-detail.teamId must be a positive integer" := by
  obtain ⟨data, hparse, hdata⟩ :=
    exists_parseEnvelope host (distinctKeys_teamDetail teamId rows) hsame
  rw [readStagedUnderstatTeamDetail, stageUnderstatTeamDetail, hparse]
  change requirePositiveInteger (data.lookup "teamId") "team-detail.teamId" >>= _ = _
  rw [hdata.lookup_eq "teamId" rfl rfl, requirePositiveInteger, if_neg hteamId]
  rfl

/-- The staged players and rows of a team are read as they were. -/
theorem readStagedUnderstatPlayerTeamDetail_stage {teamId : Decimal}
    {players : List UnderstatPlayer} {rows : List UnderstatPlayerTeamSeason}
    (hrows : ∀ row ∈ rows, row.season = season ∧ row.teamId = teamId)
    (hteamId : IsInteger teamId.value ∧ 0 < teamId.value)
    (hsame : (JsValue.object (stageUnderstatPlayerTeamDetail now season teamId players
      rows)).SameContent (.object payload.fields)) :
    ∃ result, readStagedUnderstatPlayerTeamDetail host (some payload.fields)
        (some (understatStagingHash host
          (stageUnderstatPlayerTeamDetail now season teamId players rows))) season = .ok result ∧
      (JsValue.object [("teamId", .number teamId),
        ("players", rowObjects UnderstatPlayer.fields players),
        ("rows", rowObjects UnderstatPlayerTeamSeason.fields rows)]).SameContent result := by
  obtain ⟨data, hparse, hdata⟩ :=
    exists_parseEnvelope host (distinctKeys_playerTeamDetail teamId players rows) hsame
  have hid := hdata.requirePositiveInteger_eq "teamId" rfl hteamId "player-team-detail.teamId"
  obtain ⟨foundPlayers, hplayers, hplayerRereads⟩ := hdata.exists_rows "players" rfl
    UnderstatPlayer.flat "player-team-detail.players"
  obtain ⟨found, hfound, hrereads⟩ := hdata.exists_rows "rows" rfl UnderstatPlayerTeamSeason.flat
    "player-team-detail.rows"
  have hidentity : ¬ ∃ row ∈ found, isText (row.lookup "season") season = false ∨
      isNumber (row.lookup "teamId") teamId = false := by
    rintro ⟨other, hother, hmismatch⟩
    obtain ⟨row, hrow, hreread⟩ := exists_of_mem_of_forall₂ hrereads hother
    obtain ⟨rfl, rfl⟩ := hrows row hrow
    rw [hreread.lookup_eq "season" rfl rfl, hreread.lookup_eq "teamId" rfl rfl] at hmismatch
    simp [isText, isNumber] at hmismatch
  refine ⟨_, bind_eq_ok.mpr ⟨data, hparse, bind_eq_ok.mpr ⟨teamId, hid, bind_eq_ok.mpr
    ⟨foundPlayers, hplayers, bind_eq_ok.mpr
      ⟨found, hfound, throwIf_bind_eq_ok.mpr ⟨hidentity, rfl⟩⟩⟩⟩⟩, ?_⟩
  exact JsValue.sameContent_of_forall₂ (by simp)
    (.cons ⟨rfl, .refl _⟩ (.cons ⟨rfl, sameContent_rows UnderstatPlayer.flat hplayerRereads⟩
      (.cons ⟨rfl, sameContent_rows UnderstatPlayerTeamSeason.flat hrereads⟩ .nil)))

/-- The staged players and rows of a match are read as they were. -/
theorem readStagedUnderstatPlayerMatchDetail_stage {matchId : Decimal}
    {players : List UnderstatPlayer} {rows : List UnderstatPlayerMatchStat}
    (hrows : ∀ row ∈ rows, row.matchId = matchId)
    (hmatchId : IsInteger matchId.value ∧ 0 < matchId.value)
    (hsame : (JsValue.object (stageUnderstatPlayerMatchDetail now season matchId players
      rows)).SameContent (.object payload.fields)) :
    ∃ result, readStagedUnderstatPlayerMatchDetail host (some payload.fields)
        (some (understatStagingHash host
          (stageUnderstatPlayerMatchDetail now season matchId players rows))) season = .ok result ∧
      (JsValue.object [("matchId", .number matchId),
        ("players", rowObjects UnderstatPlayer.fields players),
        ("rows", rowObjects UnderstatPlayerMatchStat.fields rows)]).SameContent result := by
  obtain ⟨data, hparse, hdata⟩ :=
    exists_parseEnvelope host (distinctKeys_playerMatchDetail matchId players rows) hsame
  have hid := hdata.requirePositiveInteger_eq "matchId" rfl hmatchId "player-match-detail.matchId"
  obtain ⟨foundPlayers, hplayers, hplayerRereads⟩ := hdata.exists_rows "players" rfl
    UnderstatPlayer.flat "player-match-detail.players"
  obtain ⟨found, hfound, hrereads⟩ := hdata.exists_rows "rows" rfl UnderstatPlayerMatchStat.flat
    "player-match-detail.rows"
  have hidentity : ¬ ∃ row ∈ found, isNumber (row.lookup "matchId") matchId = false := by
    rintro ⟨other, hother, hmismatch⟩
    obtain ⟨row, hrow, hreread⟩ := exists_of_mem_of_forall₂ hrereads hother
    obtain rfl := hrows row hrow
    rw [hreread.lookup_eq "matchId" rfl rfl] at hmismatch
    simp [isNumber] at hmismatch
  refine ⟨_, bind_eq_ok.mpr ⟨data, hparse, bind_eq_ok.mpr ⟨matchId, hid, bind_eq_ok.mpr
    ⟨foundPlayers, hplayers, bind_eq_ok.mpr
      ⟨found, hfound, throwIf_bind_eq_ok.mpr ⟨hidentity, rfl⟩⟩⟩⟩⟩, ?_⟩
  exact JsValue.sameContent_of_forall₂ (by simp)
    (.cons ⟨rfl, .refl _⟩ (.cons ⟨rfl, sameContent_rows UnderstatPlayer.flat hplayerRereads⟩
      (.cons ⟨rfl, sameContent_rows UnderstatPlayerMatchStat.flat hrereads⟩ .nil)))

end Readers

/-! ### Staging and reading -/

/-- What is staged is an envelope of its kind and season. -/
theorem StagedUnderstat.exists_data (staged : StagedUnderstat) (now : DateValue) (season : String) :
    ∃ data, (JsValue.object data).DistinctKeys ∧
      staged.stage now season = createEnvelope now staged.kind season data := by
  cases staged with
  | teamLeague discovery =>
    exact ⟨_, .object (by simp) (by simpa using discovery.distinctKeys), rfl⟩
  | teamDetail teamId rows =>
    exact ⟨_, distinctKeys_teamDetail teamId rows, rfl⟩
  | playerLeague discovery =>
    exact ⟨_, .object (by simp) (by simpa using discovery.distinctKeys), rfl⟩
  | playerTeamDetail teamId players rows =>
    exact ⟨_, distinctKeys_playerTeamDetail teamId players rows, rfl⟩
  | playerMatchDetail matchId players rows =>
    exact ⟨_, distinctKeys_playerMatchDetail matchId players rows, rfl⟩

/-- Kinds are told apart by their texts. -/
theorem StagingKind.text_injective : Function.Injective StagingKind.text := by
  intro left right h
  cases left <;> cases right <;> first | rfl | exact absurd h (by decide)

/-- What has been staged is read again, whatever the order of its fields. -/
theorem readStaged_stage {host : StagingHost} {now : DateValue} {season : String}
    {staged : StagedUnderstat} {payload : StoredRecord} (hrows : staged.HasRowsOf season)
    (hid : staged.HasPositiveId)
    (hsame : (JsValue.object (staged.stage now season)).SameContent (.object payload.fields)) :
    ∃ result, readStaged host (some payload.fields)
        (some (understatStagingHash host (staged.stage now season))) season staged.kind =
          .ok result ∧ (JsValue.object staged.fields).SameContent result := by
  cases staged with
  | teamLeague discovery => exact readStagedUnderstatTeamLeague_stage hsame
  | teamDetail teamId rows => exact readStagedUnderstatTeamDetail_stage hrows hid hsame
  | playerLeague discovery => exact readStagedUnderstatPlayerLeague_stage hsame
  | playerTeamDetail teamId players rows =>
    exact readStagedUnderstatPlayerTeamDetail_stage hrows hid hsame
  | playerMatchDetail matchId players rows =>
    exact readStagedUnderstatPlayerMatchDetail_stage hrows hid hsame

/-- What is read has the hash, and has been staged under the kind and the season of the reader. -/
theorem eq_of_readStaged {host : StagingHost} {fields : Fields} {sourceHash : Option String}
    {season : String} {kind : StagingKind} {result : JsValue}
    (h : readStaged host (some fields) sourceHash season kind = .ok result) :
    sourceHash = some (contentHash host.sha256 (.object fields)) ∧
      fields.lookup "kind" = some (.string kind.text) ∧
      fields.lookup "season" = some (.string season) := by
  obtain ⟨data, hparse⟩ := readStaged_eq_ok h
  exact eq_of_parseEnvelope hparse

/-- A reader that returns nothing fails. -/
theorem exists_error_of_ne_ok {reading : Except String JsValue}
    (h : ∀ result, reading ≠ .ok result) : ∃ error, reading = .error error := by
  cases reading with
  | ok result => exact absurd rfl (h result)
  | error error => exact ⟨error, rfl⟩

/-- What is staged is read again with all its dates, if ids are positive integers; nothing is read
under another kind or season, and nothing but the content that was hashed. -/
theorem stagedUnderstat_survives (host : StagingHost)
    (hsha256 : ∀ left right : JsValue,
      host.sha256 (canonicalJson left) = host.sha256 (canonicalJson right) →
        canonicalJson left = canonicalJson right) :
    (∀ (now : DateValue) (season : String) (staged : StagedUnderstat) (payload : StoredRecord),
      staged.HasRowsOf season → staged.HasPositiveId →
      (JsValue.object (staged.stage now season)).SameContent (.object payload.fields) →
      ∃ result, readStaged host (some payload.fields)
          (some (understatStagingHash host (staged.stage now season))) season staged.kind =
            .ok result ∧ (JsValue.object staged.fields).SameContent result) ∧
    (∀ (now : DateValue) (season : String) (staged : StagedUnderstat) (payload : StoredRecord),
      (JsValue.object (staged.stage now season)).SameContent (.object payload.fields) →
      ∀ (sourceHash : Option String) (expectedSeason : String) (kind : StagingKind),
        staged.kind ≠ kind ∨ season ≠ expectedSeason →
        ∃ error, readStaged host (some payload.fields) sourceHash expectedSeason kind =
          .error error) ∧
    ∀ hashed payload : StoredRecord,
      ¬ (JsValue.object hashed.fields).SameContent (.object payload.fields) →
      ∀ (season : String) (kind : StagingKind), ∃ error,
        readStaged host (some payload.fields) (some (understatStagingHash host hashed.fields))
          season kind = .error error := by
  refine ⟨fun now season staged payload => readStaged_stage, ?_, ?_⟩
  · intro now season staged payload hsame sourceHash expectedSeason kind hother
    refine exists_error_of_ne_ok fun result hread => ?_
    obtain ⟨data, -, hstage⟩ := staged.exists_data now season
    rw [hstage] at hsame
    have hreread := reread_envelopeFields hsame
    obtain ⟨-, hkind, hseason⟩ := eq_of_readStaged hread
    rw [hreread.lookup_eq "kind" rfl rfl, Option.some.injEq, JsValue.string.injEq] at hkind
    rw [hreread.lookup_eq "season" rfl rfl, Option.some.injEq, JsValue.string.injEq] at hseason
    exact hother.elim (fun h => h (StagingKind.text_injective hkind)) fun h => h hseason
  · intro hashed payload hdiffers season kind
    refine exists_error_of_ne_ok fun result hread => hdiffers ?_
    have hhash := Option.some_injective _ (eq_of_readStaged hread).1
    exact (canonicalJson_eq_iff ⟨_, hashed.dateFree, hashed.distinctKeys⟩
      ⟨_, payload.dateFree, payload.distinctKeys⟩).mp (hsha256 _ _ hhash)

/-- What comes back of a staged payload whose fields were put into another order. -/
def StagedUnderstat.stored (staged : StagedUnderstat) (now : DateValue) (season : String)
    {fields : Fields} (h : (staged.stage now season).Perm fields) : StoredRecord where
  fields := fields
  dateFree := by
    obtain ⟨data, -, hstage⟩ := staged.exists_data now season
    have hfree := JsValue.dateFree_reparsed (.object (envelopeFields now staged.kind season data))
    obtain _ | _ | _ | _ | _ | hvalues := hfree
    rw [hstage] at h
    exact .object fun field hfield => hvalues field (h.mem_iff.mpr hfield)
  distinctKeys := by
    obtain ⟨data, hdata, hstage⟩ := staged.exists_data now season
    have hdistinct := (distinctKeys_envelopeFields now staged.kind season hdata).reparsed
    obtain _ | _ | _ | _ | _ | _ | ⟨hnames, hvalues⟩ := hdistinct
    rw [hstage] at h
    exact .object ((h.map Prod.fst).nodup_iff.mp hnames)
      fun field hfield => hvalues field (h.mem_iff.mpr hfield)

/-- What comes back in another order has the content that was staged. -/
theorem StagedUnderstat.sameContent_stored (staged : StagedUnderstat) (now : DateValue)
    (season : String) {fields : Fields} (h : (staged.stage now season).Perm fields) :
    (JsValue.object (staged.stage now season)).SameContent
      (.object (staged.stored now season h).fields) :=
  JsValue.sameContent_object.mpr
    ⟨h.length_eq, fun field hfield => ⟨field.2, h.mem_iff.mp hfield, .refl _⟩⟩

/-- The start of 1970. -/
def epochStart : DateValue := ⟨0, valid_zero⟩

/-- The shots of a team from open play. -/
def openPlayDetail (teamId : Decimal) : StagedUnderstat :=
  .teamDetail teamId [{
    season := "2526"
    teamId := teamId
    dimension := .situation
    splitKey := "OpenPlay"
    label := none
    timeMinutes := none
    shotsFor := ⟨false, 9, 0, by decide⟩
    goalsFor := ⟨false, 2, 0, by decide⟩
    xgFor := ⟨false, 125, -2, by decide⟩
    shotsAgainst := ⟨false, 4, 0, by decide⟩
    goalsAgainst := ⟨false, 0, 0, Decimal.zero_normal⟩
    xgAgainst := ⟨false, 5, -1, by decide⟩
    sourceHash := "c0ffee" }]

/-- The id of a team. -/
def arsenalId : Decimal := ⟨false, 13, 0, by decide⟩

/-- The id of another team. -/
def chelseaId : Decimal := ⟨false, 14, 0, by decide⟩

/-- A host with the digest of the staged shots of the first team. -/
def openPlayHost : StagingHost where
  sha256 := Equiv.swap
    (canonicalJson (.object ((openPlayDetail arsenalId).stage epochStart "2526")))
    "95ff3a18360f20ef76c6e8555c35f8e3bc676a58fa3682d5e816049fb99e570c"
  readDate _ := none
  displayText
    | some (.string text) => text
    | _ => "undefined"

/-- The hash with which the shots of the first team are staged. -/
def openPlayHash : Option String :=
  some (understatStagingHash openPlayHost ((openPlayDetail arsenalId).stage epochStart "2526"))

/-- The staged shots of a team, back with their fields reversed. -/
def openPlayStored (teamId : Decimal) : StoredRecord :=
  (openPlayDetail teamId).stored epochStart "2526" (List.reverse_perm _).symm

/-- Staged shots come back with their fields reversed. They are read under their own hash, and
neither for another season nor in place of those of another team. -/
theorem stagedUnderstat_survives_openPlay :
    openPlayHash = some "95ff3a18360f20ef76c6e8555c35f8e3bc676a58fa3682d5e816049fb99e570c" ∧
    (∃ result, readStaged openPlayHost (some (openPlayStored arsenalId).fields) openPlayHash "2526"
        .teamDetail = .ok result ∧
      (JsValue.object (openPlayDetail arsenalId).fields).SameContent result) ∧
    (∃ error, readStaged openPlayHost (some (openPlayStored arsenalId).fields) openPlayHash "2425"
      .teamDetail = .error error) ∧
    ∃ error, readStaged openPlayHost (some (openPlayStored chelseaId).fields) openPlayHash "2526"
      .teamDetail = .error error := by
  have hsurvives := stagedUnderstat_survives openPlayHost
    fun left right h => (Equiv.swap _ _).injective h
  have hpositive : (openPlayDetail arsenalId).HasPositiveId := by
    have hvalue : arsenalId.value = 13 := by norm_num [arsenalId, Decimal.value]
    change IsInteger arsenalId.value ∧ 0 < arsenalId.value
    rw [hvalue]
    decide
  have hsame := (openPlayDetail arsenalId).sameContent_stored epochStart "2526"
    (List.reverse_perm _).symm
  refine ⟨congrArg some (Equiv.swap_apply_left _ _), ?_, ?_, ?_⟩
  · exact hsurvives.1 _ _ _ _ (by simp [StagedUnderstat.HasRowsOf, openPlayDetail])
      hpositive hsame
  · exact hsurvives.2.1 _ _ _ _ hsame openPlayHash "2425" .teamDetail (.inr (by decide))
  · refine hsurvives.2.2 ((openPlayDetail arsenalId).stored epochStart "2526" (.refl _))
      (openPlayStored chelseaId) (fun h => ?_) "2526" .teamDetail
    have htext := (canonicalJson_eq_iff ⟨_, StoredRecord.dateFree _, StoredRecord.distinctKeys _⟩
      ⟨_, (openPlayStored chelseaId).dateFree, (openPlayStored chelseaId).distinctKeys⟩).mpr h
    exact absurd htext (by decide +kernel)

/-- The id 0. -/
def noTeamId : Decimal := ⟨false, 0, 0, Decimal.zero_normal⟩

/-- Staged shots of a team with the id 0 are refused. -/
theorem zero_teamId_refused :
    (openPlayDetail noTeamId).HasRowsOf "2526" ∧
      readStaged openPlayHost (some (openPlayStored noTeamId).fields)
        (some (understatStagingHash openPlayHost
          ((openPlayDetail noTeamId).stage epochStart "2526")))
        "2526" .teamDetail = .error "team-detail.teamId must be a positive integer" := by
  refine ⟨by simp [StagedUnderstat.HasRowsOf, openPlayDetail], ?_⟩
  have hzero : ¬ (IsInteger noTeamId.value ∧ 0 < noTeamId.value) := by
    simp [noTeamId, Decimal.value]
  exact readStagedUnderstatTeamDetail_refuses hzero
    ((openPlayDetail noTeamId).sameContent_stored epochStart "2526" (List.reverse_perm _).symm)

end LetletmeData.Understat
