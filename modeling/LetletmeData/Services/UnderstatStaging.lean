import LetletmeData.Domain.Understat
import LetletmeData.Library.ScriptObjects
import LetletmeData.Library.Transactions
import LetletmeData.Utils.ContentHash

/-!
# Staged Understat payloads

What a run has fetched is staged as an envelope with its kind, its season and the time, and read
again once the run is complete. The stored object may come back with its fields in another order;
its hash is compared first, and its dates are rebuilt of their texts field by field.
-/

namespace LetletmeData.Understat

open LetletmeData.Library

/-! ### Staging -/

/-- `StagingKind`. -/
inductive StagingKind where
  | teamLeague
  | teamDetail
  | playerLeague
  | playerTeamDetail
  | playerMatchDetail
  deriving DecidableEq

/-- The text of a kind. -/
def StagingKind.text : StagingKind → String
  | teamLeague => "team-league"
  | teamDetail => "team-detail"
  | playerLeague => "player-league"
  | playerTeamDetail => "player-team-detail"
  | playerMatchDetail => "player-match-detail"

/-- `StagingEnvelope`. -/
def envelopeFields (now : DateValue) (kind : StagingKind) (season : String) (data : Fields) :
    Fields :=
  [("kind", .string kind.text), ("season", .string season),
    ("capturedAt", .string now.toISOString), ("data", .object data)]

/-- `createEnvelope`, at the given time. -/
def createEnvelope (now : DateValue) (kind : StagingKind) (season : String) (data : Fields) :
    Fields :=
  JsValue.reparsedFields (envelopeFields now kind season data)

/-- `stageUnderstatTeamLeague`. -/
def stageUnderstatTeamLeague (now : DateValue) (season : String)
    (discovery : UnderstatTeamDiscovery) : Fields :=
  createEnvelope now .teamLeague season [("discovery", .object discovery.fields)]

/-- `stageUnderstatTeamDetail`. -/
def stageUnderstatTeamDetail (now : DateValue) (season : String) (teamId : Decimal)
    (rows : List UnderstatTeamStatSplit) : Fields :=
  createEnvelope now .teamDetail season
    [("teamId", .number teamId), ("rows", rowObjects UnderstatTeamStatSplit.fields rows)]

/-- `stageUnderstatPlayerLeague`. -/
def stageUnderstatPlayerLeague (now : DateValue) (season : String)
    (discovery : UnderstatPlayerDiscovery) : Fields :=
  createEnvelope now .playerLeague season [("discovery", .object discovery.fields)]

/-- `stageUnderstatPlayerTeamDetail`. -/
def stageUnderstatPlayerTeamDetail (now : DateValue) (season : String) (teamId : Decimal)
    (players : List UnderstatPlayer) (rows : List UnderstatPlayerTeamSeason) : Fields :=
  createEnvelope now .playerTeamDetail season
    [("teamId", .number teamId), ("players", rowObjects UnderstatPlayer.fields players),
      ("rows", rowObjects UnderstatPlayerTeamSeason.fields rows)]

/-- `stageUnderstatPlayerMatchDetail`. -/
def stageUnderstatPlayerMatchDetail (now : DateValue) (season : String) (matchId : Decimal)
    (players : List UnderstatPlayer) (rows : List UnderstatPlayerMatchStat) : Fields :=
  createEnvelope now .playerMatchDetail season
    [("matchId", .number matchId), ("players", rowObjects UnderstatPlayer.fields players),
      ("rows", rowObjects UnderstatPlayerMatchStat.fields rows)]

/-! ### Reading -/

/-- What the code takes from its host: the SHA-256 digest of a text in hexadecimal, what `new Date`
makes of a text that is none of a date, and the text that `String` makes of a value. -/
structure StagingHost where
  sha256 : String → String
  readDate : String → Option DateValue
  displayText : Option JsValue → String

/-- `understatStagingHash`. -/
def understatStagingHash (host : StagingHost) (payload : Fields) : String :=
  contentHash host.sha256 (.object payload)

/-- Whether a value is a given text. -/
def isText (value : Option JsValue) (text : String) : Bool :=
  match value with
  | some (.string other) => other = text
  | _ => false

/-- Whether a value is a given number. -/
def isNumber (value : Option JsValue) (number : Decimal) : Bool :=
  match value with
  | some (.number other) => other = number
  | _ => false

/-- Only the text itself is that text. -/
theorem isText_eq_true {value : Option JsValue} {text : String} :
    isText value text = true ↔ value = some (.string text) := by
  unfold isText
  split <;> simp_all

/-- `requireRecord`. Payloads have been read of texts, so that no date is taken for a record. -/
def requireRecord (value : Option JsValue) (label : String) : Except String Fields :=
  match value with
  | some (.object fields) => .ok fields
  | _ => .error (label ++ " must be an object")

/-- The fields of items that are all records. -/
def recordItems (items : List JsValue) : Option (List Fields) :=
  items.mapM fun
    | .object fields => some fields
    | _ => none

/-- `requireObjectArray`. -/
def requireObjectArray (value : Option JsValue) (label : String) : Except String (List Fields) :=
  match value with
  | some (.array items) => orThrow (recordItems items) (label ++ " must be an array of objects")
  | _ => .error (label ++ " must be an array of objects")

/-- `requirePositiveInteger`. -/
def requirePositiveInteger (value : Option JsValue) (label : String) : Except String Decimal :=
  match value with
  | some (.number number) =>
    if IsInteger number.value ∧ 0 < number.value then .ok number
    else .error (label ++ " must be a positive integer")
  | _ => .error (label ++ " must be a positive integer")

/-- `requireDate`. -/
def requireDate (host : StagingHost) (value : Option JsValue) (label : String) :
    Except String DateValue :=
  match value with
  | some (.string text) =>
    orThrow (parseDate host.readDate text) (label ++ " must be an ISO timestamp")
  | _ => .error (label ++ " must be an ISO timestamp")

/-- `STAGING_ENVELOPE_FIELDS`. -/
def stagingEnvelopeFields : List String := ["kind", "season", "capturedAt", "data"]

/-- `parseEnvelope`, of which only the fields of `data` are used. -/
def parseEnvelope (host : StagingHost) (payload : Option Fields) (sourceHash : Option String)
    (expectedKind : StagingKind) (expectedSeason : String) : Except String Fields := do
  let payload ← orThrow payload ("Missing staged Understat " ++ expectedKind.text ++ " payload")
  throwIf (sourceHash ≠ some (contentHash host.sha256 (.object payload)))
    ("Staged Understat " ++ expectedKind.text ++ " payload hash mismatch")
  throwIf (¬ (payload.map Prod.fst).Perm stagingEnvelopeFields)
    ("Unexpected Understat staging envelope fields for " ++ expectedKind.text)
  throwIf (isText (payload.lookup "kind") expectedKind.text = false ∨
      isText (payload.lookup "season") expectedSeason = false)
    ("Unexpected Understat staging envelope: kind=" ++ host.displayText (payload.lookup "kind") ++
      " season=" ++ host.displayText (payload.lookup "season"))
  let _ ← requireDate host (payload.lookup "capturedAt") (expectedKind.text ++ ".capturedAt")
  requireRecord (payload.lookup "data") (expectedKind.text ++ ".data")

/-- A row with the dates under some of its names rebuilt. -/
def hydrateDates (host : StagingHost) (names : List String) (row : Fields) (label : String) :
    Except String Fields := do
  let dates ← names.mapM fun name => do
    let date ← requireDate host (row.lookup name) (label ++ "." ++ name)
    return (name, JsValue.date date)
  return JsValue.spread row dates

/-- `hydrateSeason`. -/
def hydrateSeason (host : StagingHost) (value : Option JsValue) (label : String) :
    Except String Fields := do
  let row ← requireRecord value label
  hydrateDates host ["firstSeenAt", "lastSeenAt"] row label

/-- `hydrateMatch`. -/
def hydrateMatch (host : StagingHost) (value : Fields) (label : String) : Except String Fields :=
  hydrateDates host ["kickoffAt", "sourceCheckedAt", "lastSeenAt"] value label

/-- `hydrateTeamSeason`. -/
def hydrateTeamSeason (host : StagingHost) (value : Fields) (label : String) :
    Except String Fields :=
  hydrateDates host ["lastSyncedAt"] value label

/-- Rows that are hydrated one by one, each under its place. -/
def hydrateRows (hydrate : Fields → String → Except String Fields) (rows : List Fields)
    (label : String) : Except String (List Fields) :=
  rows.zipIdx.mapM fun (row, index) => hydrate row (label ++ "[" ++ toString index ++ "]")

/-- An array of records. -/
def recordArray (rows : List Fields) : JsValue := .array (rows.map .object)

/-- `readStagedUnderstatTeamLeague`. -/
def readStagedUnderstatTeamLeague (host : StagingHost) (payload : Option Fields)
    (sourceHash : Option String) (season : String) : Except String JsValue := do
  let data ← parseEnvelope host payload sourceHash .teamLeague season
  let discovery ← requireRecord (data.lookup "discovery") "team-league.data.discovery"
  let matchRows ← requireObjectArray (discovery.lookup "matches") "team-league.discovery.matches"
  let teamSeasons ←
    requireObjectArray (discovery.lookup "teamSeasons") "team-league.discovery.teamSeasons"
  let hydratedSeason ←
    hydrateSeason host (discovery.lookup "season") "team-league.discovery.season"
  let teams ← requireObjectArray (discovery.lookup "teams") "team-league.discovery.teams"
  let hydratedMatches ← hydrateRows (hydrateMatch host) matchRows "team-league.matches"
  let teamMatchStats ←
    requireObjectArray (discovery.lookup "teamMatchStats") "team-league.discovery.teamMatchStats"
  let hydratedTeamSeasons ←
    hydrateRows (hydrateTeamSeason host) teamSeasons "team-league.teamSeasons"
  return .object (JsValue.spread discovery
    [("season", .object hydratedSeason), ("teams", recordArray teams),
      ("matches", recordArray hydratedMatches), ("teamMatchStats", recordArray teamMatchStats),
      ("teamSeasons", recordArray hydratedTeamSeasons)])

/-- `readStagedUnderstatTeamDetail`. -/
def readStagedUnderstatTeamDetail (host : StagingHost) (payload : Option Fields)
    (sourceHash : Option String) (season : String) : Except String JsValue := do
  let data ← parseEnvelope host payload sourceHash .teamDetail season
  let teamId ← requirePositiveInteger (data.lookup "teamId") "team-detail.teamId"
  let rows ← requireObjectArray (data.lookup "rows") "team-detail.rows"
  throwIf (∃ row ∈ rows, isText (row.lookup "season") season = false ∨
      isNumber (row.lookup "teamId") teamId = false)
    ("Staged Understat team-detail identity mismatch for team " ++ teamId.text)
  return .object [("teamId", .number teamId), ("rows", recordArray rows)]

/-- `readStagedUnderstatPlayerLeague`. -/
def readStagedUnderstatPlayerLeague (host : StagingHost) (payload : Option Fields)
    (sourceHash : Option String) (season : String) : Except String JsValue := do
  let data ← parseEnvelope host payload sourceHash .playerLeague season
  let discovery ← requireRecord (data.lookup "discovery") "player-league.data.discovery"
  let matchRows ← requireObjectArray (discovery.lookup "matches") "player-league.discovery.matches"
  let hydratedSeason ←
    hydrateSeason host (discovery.lookup "season") "player-league.discovery.season"
  let teams ← requireObjectArray (discovery.lookup "teams") "player-league.discovery.teams"
  let hydratedMatches ← hydrateRows (hydrateMatch host) matchRows "player-league.matches"
  let players ← requireObjectArray (discovery.lookup "players") "player-league.discovery.players"
  let playerSeasons ←
    requireObjectArray (discovery.lookup "playerSeasons") "player-league.discovery.playerSeasons"
  return .object (JsValue.spread discovery
    [("season", .object hydratedSeason), ("teams", recordArray teams),
      ("matches", recordArray hydratedMatches), ("players", recordArray players),
      ("playerSeasons", recordArray playerSeasons)])

/-- `readStagedUnderstatPlayerTeamDetail`. -/
def readStagedUnderstatPlayerTeamDetail (host : StagingHost) (payload : Option Fields)
    (sourceHash : Option String) (season : String) : Except String JsValue := do
  let data ← parseEnvelope host payload sourceHash .playerTeamDetail season
  let teamId ← requirePositiveInteger (data.lookup "teamId") "player-team-detail.teamId"
  let players ← requireObjectArray (data.lookup "players") "player-team-detail.players"
  let rows ← requireObjectArray (data.lookup "rows") "player-team-detail.rows"
  throwIf (∃ row ∈ rows, isText (row.lookup "season") season = false ∨
      isNumber (row.lookup "teamId") teamId = false)
    ("Staged Understat player-team identity mismatch for team " ++ teamId.text)
  return .object [("teamId", .number teamId), ("players", recordArray players),
    ("rows", recordArray rows)]

/-- `readStagedUnderstatPlayerMatchDetail`. -/
def readStagedUnderstatPlayerMatchDetail (host : StagingHost) (payload : Option Fields)
    (sourceHash : Option String) (season : String) : Except String JsValue := do
  let data ← parseEnvelope host payload sourceHash .playerMatchDetail season
  let matchId ← requirePositiveInteger (data.lookup "matchId") "player-match-detail.matchId"
  let players ← requireObjectArray (data.lookup "players") "player-match-detail.players"
  let rows ← requireObjectArray (data.lookup "rows") "player-match-detail.rows"
  throwIf (∃ row ∈ rows, isNumber (row.lookup "matchId") matchId = false)
    ("Staged Understat player-match identity mismatch for match " ++ matchId.text)
  return .object [("matchId", .number matchId), ("players", recordArray players),
    ("rows", recordArray rows)]

/-! ### Fields of re-encoded objects -/

/-- The fields of a record have distinct names at every depth. -/
theorem FlatRecord.distinctKeys {dates : List String} {fields : Fields}
    (h : FlatRecord dates fields) : (JsValue.object fields).DistinctKeys := by
  refine .object h.names fun field hfield => ?_
  have hvalue := h.values field hfield
  split at hvalue
  · obtain ⟨date, hdate⟩ := hvalue
    rw [hdate]
    exact .date date
  · generalize field.2 = value at hvalue
    cases value with
    | null => exact .null
    | bool value => exact .bool value
    | number value => exact .number value
    | string value => exact .string value
    | _ => exact absurd hvalue Bool.false_ne_true

/-- Scalars are read as they were written. -/
theorem reparsed_of_isScalar {value : JsValue} (h : isScalar value = true) :
    value.reparsed = value := by
  cases value with
  | null => rfl
  | bool value => rfl
  | number value => rfl
  | string value => rfl
  | _ => exact absurd h Bool.false_ne_true

/-- Records without dates are read as they were written. -/
theorem FlatRecord.reparsedFields_eq {fields : Fields} (h : FlatRecord [] fields) :
    JsValue.reparsedFields fields = fields := by
  rw [JsValue.reparsedFields_eq]
  conv_rhs => rw [← List.map_id fields]
  refine List.map_congr_left fun field hfield => ?_
  have hvalue := h.values field hfield
  rw [if_neg List.not_mem_nil] at hvalue
  rw [reparsed_of_isScalar hvalue]
  rfl

/-- What has the content of a scalar is that scalar. -/
theorem eq_of_isScalar {value other : JsValue} (hscalar : isScalar value = true)
    (h : value.SameContent other) : other = value := by
  cases value <;> cases other <;> simp_all [JsValue.SameContent, isScalar]

/-- What comes back of an object: every field written and read again, in some order. -/
structure Reread (fields other : Fields) : Prop where
  names : (fields.map Prod.fst).Nodup
  content : (JsValue.object (JsValue.reparsedFields fields)).SameContent (.object other)
  distinctKeys : (JsValue.object other).DistinctKeys

namespace Reread

variable {fields other : Fields}

/-- The names come back. -/
theorem perm_names (h : Reread fields other) :
    (fields.map Prod.fst).Perm (other.map Prod.fst) := by
  have hcontent := h.content
  have hmap : (fields.map fun field => (field.1, field.2.reparsed)).map Prod.fst =
      fields.map Prod.fst := by rw [List.map_map]; rfl
  rw [JsValue.reparsedFields_eq] at hcontent
  rw [← hmap]
  exact hcontent.perm_names (by rw [hmap]; exact h.names)

/-- Under every name there is what was written there, read again. -/
theorem rel_lookup (h : Reread fields other) (name : String) :
    Option.Rel JsValue.SameContent ((fields.lookup name).map JsValue.reparsed)
      (other.lookup name) := by
  have hcontent := h.content
  rw [JsValue.reparsedFields_eq, JsValue.sameContent_object_iff
    (by rw [List.map_map]; exact h.names) (h.perm_names.nodup_iff.mp h.names)] at hcontent
  rw [← lookup_map (fun _ => JsValue.reparsed) fields name]
  exact hcontent name

/-- A property comes back under its name. -/
theorem exists_property (h : Reread fields other) (name : String) {value : JsValue}
    (hvalue : fields.lookup name = some value) :
    ∃ found, other.lookup name = some found ∧ value.reparsed.SameContent found ∧
      found.DistinctKeys := by
  obtain _ | _ | _ | _ | _ | _ | ⟨hnames, hvalues⟩ := h.distinctKeys
  have hrel := h.rel_lookup name
  rw [hvalue, Option.map_some] at hrel
  cases hfound : other.lookup name with
  | none => rw [hfound] at hrel; cases hrel
  | some found =>
    rw [hfound] at hrel
    cases hrel with
    | some hsame =>
      exact ⟨found, rfl, hsame, hvalues _ ((KeyedTable.mem_iff_lookup hnames).mpr hfound)⟩

/-- A scalar comes back as it was. -/
theorem lookup_eq (h : Reread fields other) (name : String) {value : JsValue}
    (hvalue : fields.lookup name = some value) (hscalar : isScalar value = true) :
    other.lookup name = some value := by
  obtain ⟨found, hfound, hsame, -⟩ := h.exists_property name hvalue
  rw [reparsed_of_isScalar hscalar] at hsame
  rw [hfound, eq_of_isScalar hscalar hsame]

/-- A date is rebuilt of its text. -/
theorem requireDate_eq (h : Reread fields other) (host : StagingHost) (name : String)
    {date : DateValue} (hdate : fields.lookup name = some (.date date)) (label : String) :
    requireDate host (other.lookup name) label = .ok date := by
  obtain ⟨found, hfound, hsame, -⟩ := h.exists_property name hdate
  rw [JsValue.reparsed] at hsame
  rw [hfound, eq_of_isScalar (isScalar_string _) hsame, requireDate, parseDate_toISOString]
  rfl

/-- A record comes back under its name. -/
theorem exists_record (h : Reread fields other) (name : String) {record : Fields}
    (hrecord : fields.lookup name = some (.object record))
    (hnames : (record.map Prod.fst).Nodup) (label : String) :
    ∃ found, requireRecord (other.lookup name) label = .ok found ∧ Reread record found := by
  obtain ⟨value, hvalue, hcontent, hdistinct⟩ := h.exists_property name hrecord
  rw [JsValue.reparsed] at hcontent
  obtain ⟨found, rfl⟩ := hcontent.exists_object
  exact ⟨found, by rw [hvalue]; rfl, hnames, hcontent, hdistinct⟩

end Reread

section Rows

variable {Row : Type} {rowFields : Row → Fields} {dates : List String} {rows : List Row}
  {found : List Fields}

/-- Records that come back are found in an array. -/
theorem exists_recordItems (hflat : ∀ row, FlatRecord dates (rowFields row)) {items : List JsValue}
    (hsame : List.Forall₂ (fun row item => (JsValue.object (rowFields row)).reparsed.SameContent
      item) rows items) (hdistinct : ∀ item ∈ items, item.DistinctKeys) :
    ∃ found, recordItems items = some found ∧
      List.Forall₂ (fun row other => Reread (rowFields row) other) rows found := by
  induction hsame with
  | nil => exact ⟨[], rfl, .nil⟩
  | @cons row item rows items hitem _ ih =>
    obtain ⟨hdistinctItem, hdistinctItems⟩ := List.forall_mem_cons.mp hdistinct
    rw [JsValue.reparsed] at hitem
    obtain ⟨other, rfl⟩ := hitem.exists_object
    obtain ⟨found, hrecords, hrows⟩ := ih hdistinctItems
    refine ⟨other :: found, ?_, .cons ⟨(hflat row).names, hitem, hdistinctItem⟩ hrows⟩
    rw [recordItems] at hrecords
    rw [recordItems, List.mapM_cons, hrecords]
    rfl

/-- Rows come back under their name. -/
theorem Reread.exists_rows {fields other : Fields} (h : Reread fields other) (name : String)
    (hrows : fields.lookup name = some (rowObjects rowFields rows))
    (hflat : ∀ row, FlatRecord dates (rowFields row)) (label : String) :
    ∃ found, requireObjectArray (other.lookup name) label = .ok found ∧
      List.Forall₂ (fun row other => Reread (rowFields row) other) rows found := by
  obtain ⟨value, hvalue, hsame, hdistinct⟩ := h.exists_property name hrows
  rw [rowObjects, JsValue.reparsed, JsValue.reparsedItems_eq, List.map_map] at hsame
  obtain ⟨items, rfl, hitems⟩ := hsame.exists_array
  obtain _ | _ | _ | _ | _ | hdistinctItems | _ := hdistinct
  rw [List.forall₂_map_left_iff] at hitems
  obtain ⟨found, hrecords, hfound⟩ := exists_recordItems hflat hitems hdistinctItems
  exact ⟨found, by rw [hvalue, requireObjectArray, hrecords]; rfl, hfound⟩

/-- Records of the same contents make arrays of the same content. -/
theorem sameContent_recordArray (h : List.Forall₂ (fun row other =>
      (JsValue.object (rowFields row)).SameContent (.object other)) rows found) :
    (rowObjects rowFields rows).SameContent (recordArray found) := by
  rw [rowObjects, recordArray, JsValue.sameContent_array, List.forall₂_map_left_iff,
    List.forall₂_map_right_iff]
  exact h

/-- Rows without dates come back as they were. -/
theorem sameContent_rows (hflat : ∀ row, FlatRecord [] (rowFields row))
    (h : List.Forall₂ (fun row other => Reread (rowFields row) other) rows found) :
    (rowObjects rowFields rows).SameContent (recordArray found) := by
  refine sameContent_recordArray (h.imp fun row other hrow => ?_)
  rw [← (hflat row).reparsedFields_eq]
  exact hrow.content

/-- Dates are rebuilt of the texts that came back for them, and everything else is as it was. -/
theorem exists_hydrateDates (host : StagingHost) {fields row : Fields} (h : Reread fields row)
    (hflat : FlatRecord dates fields) (hdates : dates.Nodup) (label : String) :
    ∃ result, hydrateDates host dates row label = .ok result ∧
      (JsValue.object fields).SameContent (.object result) := by
  let date (name : String) : JsValue := (fields.lookup name).getD .null
  have hdate : ∀ name ∈ dates, fields.lookup name = some (date name) ∧
      ∃ value, date name = .date value := by
    intro name hname
    obtain ⟨field, hfield, rfl⟩ := List.mem_map.mp (hflat.dated name hname)
    have hfound : fields.lookup field.1 = some field.2 :=
      (KeyedTable.mem_iff_lookup hflat.names).mp hfield
    have hvalue := hflat.values field hfield
    rw [if_pos hname] at hvalue
    simp only [date, hfound, Option.getD_some]
    exact ⟨trivial, hvalue⟩
  have hmapM : (dates.mapM fun name => do
      let date ← requireDate host (row.lookup name) (label ++ "." ++ name)
      return (name, JsValue.date date)) = .ok (dates.map fun name => (name, date name)) := by
    rw [mapM_eq_ok, List.forall₂_map_right_iff]
    refine List.forall₂_same.mpr fun name hname => ?_
    obtain ⟨hfound, value, hvalue⟩ := hdate name hname
    rw [hvalue] at hfound ⊢
    rw [h.requireDate_eq host name hfound]
    rfl
  have hoverrides : (dates.map fun name => (name, date name)).map Prod.fst = dates := by
    rw [List.map_map]
    exact List.map_id dates
  have hspread := JsValue.nodup_spread (h.perm_names.nodup_iff.mp h.names)
    (by rw [hoverrides]; exact hdates)
  refine ⟨_, bind_eq_ok.mpr ⟨_, hmapM, rfl⟩, ?_⟩
  rw [JsValue.sameContent_object_iff hflat.names hspread]
  intro name
  rw [JsValue.lookup_spread]
  by_cases hname : name ∈ dates
  · have hfound : (dates.map fun name => (name, date name)).lookup name = some (date name) := by
      rw [← KeyedTable.mem_iff_lookup (by rw [hoverrides]; exact hdates)]
      exact List.mem_map_of_mem hname
    rw [hfound, (hdate name hname).1]
    exact .some (.refl _)
  · have hnone : (dates.map fun name => (name, date name)).lookup name = none := by
      rw [lookup_eq_none, hoverrides]
      exact hname
    have hrel := h.rel_lookup name
    rw [hnone, Option.none_or]
    cases hvalue : fields.lookup name with
    | none => rw [hvalue] at hrel; exact hrel
    | some value =>
      have hscalar := hflat.values _ ((KeyedTable.mem_iff_lookup hflat.names).mpr hvalue)
      rw [if_neg hname] at hscalar
      rw [hvalue, Option.map_some, reparsed_of_isScalar hscalar] at hrel
      exact hrel

/-- Rows with dates are rebuilt. -/
theorem exists_hydrateRows (host : StagingHost) (hflat : ∀ row, FlatRecord dates (rowFields row))
    (hdates : dates.Nodup)
    (h : List.Forall₂ (fun row other => Reread (rowFields row) other) rows found) (label : String) :
    ∃ results, hydrateRows (hydrateDates host dates) found label = .ok results ∧
      (rowObjects rowFields rows).SameContent (recordArray results) := by
  suffices hfrom : ∀ first, ∃ results, ((found.zipIdx first).mapM fun (row, index) =>
      hydrateDates host dates row (label ++ "[" ++ toString index ++ "]")) = .ok results ∧
        List.Forall₂ (fun row other => (JsValue.object (rowFields row)).SameContent (.object other))
          rows results by
    obtain ⟨results, hresults, hrows⟩ := hfrom 0
    exact ⟨results, hresults, sameContent_recordArray hrows⟩
  induction h with
  | nil => exact fun first => ⟨[], rfl, .nil⟩
  | @cons row other rows found hrow _ ih =>
    intro first
    obtain ⟨result, hresult, hcontent⟩ := exists_hydrateDates host hrow (hflat row) hdates
      (label ++ "[" ++ toString first ++ "]")
    obtain ⟨results, hresults, hrows⟩ := ih (first + 1)
    refine ⟨result :: results, ?_, .cons hcontent hrows⟩
    rw [List.zipIdx_cons, List.mapM_cons]
    exact bind_eq_ok.mpr ⟨result, hresult, bind_eq_ok.mpr ⟨results, hresults, rfl⟩⟩

/-- The dates of a season are rebuilt. -/
theorem exists_hydrateSeason (host : StagingHost) {season : UnderstatSeason} {fields other : Fields}
    (h : Reread fields other) (hseason : fields.lookup "season" = some (.object season.fields))
    (label : String) :
    ∃ result, hydrateSeason host (other.lookup "season") label = .ok result ∧
      (JsValue.object season.fields).SameContent (.object result) := by
  obtain ⟨row, hrow, hreread⟩ := h.exists_record "season" hseason season.flat.names label
  obtain ⟨result, hresult, hcontent⟩ :=
    exists_hydrateDates host hreread season.flat (by decide) label
  exact ⟨result, bind_eq_ok.mpr ⟨row, hrow, hresult⟩, hcontent⟩

end Rows

/-! ### Envelopes -/

/-- The fields of a record that the database returns: no dates, and no two fields of one name. -/
structure StoredRecord where
  fields : Fields
  dateFree : (JsValue.object fields).DateFree
  distinctKeys : (JsValue.object fields).DistinctKeys

/-- An envelope has distinct names at every depth. -/
theorem distinctKeys_envelopeFields (now : DateValue) (kind : StagingKind) (season : String)
    {data : Fields} (hdata : (JsValue.object data).DistinctKeys) :
    (JsValue.object (envelopeFields now kind season data)).DistinctKeys := by
  refine .object (by simp [envelopeFields]) fun field hfield => ?_
  simp only [envelopeFields, List.mem_cons, List.not_mem_nil, or_false] at hfield
  rcases hfield with rfl | rfl | rfl | rfl
  · exact .string _
  · exact .string _
  · exact .string _
  · exact hdata

section Envelopes

variable {now : DateValue} {kind : StagingKind} {season : String} {data : Fields}
  {payload : StoredRecord}

/-- An envelope as the database returns it. -/
theorem reread_envelopeFields (hsame : (JsValue.object (createEnvelope now kind season
      data)).SameContent (.object payload.fields)) :
    Reread (envelopeFields now kind season data) payload.fields :=
  ⟨by simp [envelopeFields], hsame, payload.distinctKeys⟩

/-- The hash of a staged envelope is that of whatever the database returns of it. -/
theorem understatStagingHash_eq (host : StagingHost) (hdata : (JsValue.object data).DistinctKeys)
    (hsame : (JsValue.object (createEnvelope now kind season data)).SameContent
      (.object payload.fields)) :
    understatStagingHash host (createEnvelope now kind season data) =
      contentHash host.sha256 (.object payload.fields) := by
  have hdistinct := (distinctKeys_envelopeFields now kind season hdata).reparsed
  have hfree := JsValue.dateFree_reparsed (.object (envelopeFields now kind season data))
  rw [JsValue.reparsed] at hdistinct hfree
  have htext := (canonicalJson_eq_iff ⟨_, hfree, hdistinct⟩
    ⟨_, payload.dateFree, payload.distinctKeys⟩).mpr hsame
  exact congrArg host.sha256 htext

/-- An envelope that is read under its own kind, season and hash gives the data it was made of. -/
theorem exists_parseEnvelope (host : StagingHost) (hdata : (JsValue.object data).DistinctKeys)
    (hsame : (JsValue.object (createEnvelope now kind season data)).SameContent
      (.object payload.fields)) :
    ∃ found, parseEnvelope host (some payload.fields)
        (some (understatStagingHash host (createEnvelope now kind season data))) kind season =
          .ok found ∧ Reread data found := by
  have hreread := reread_envelopeFields hsame
  have hhash := understatStagingHash_eq host hdata hsame
  have hkind := hreread.lookup_eq "kind" rfl rfl
  have hseason := hreread.lookup_eq "season" rfl rfl
  have hcapturedAt := hreread.lookup_eq "capturedAt" rfl rfl
  obtain _ | _ | _ | _ | _ | _ | ⟨hdataNames, -⟩ := hdata
  obtain ⟨found, hfound, hcontent⟩ :=
    hreread.exists_record "data" rfl hdataNames (kind.text ++ ".data")
  have hnames : (payload.fields.map Prod.fst).Perm stagingEnvelopeFields :=
    hreread.perm_names.symm
  refine ⟨found, ?_, hcontent⟩
  rw [parseEnvelope, hhash]
  refine bind_eq_ok.mpr ⟨_, rfl, throwIf_bind_eq_ok.mpr ⟨by simp, throwIf_bind_eq_ok.mpr
    ⟨not_not.mpr hnames, throwIf_bind_eq_ok.mpr ⟨?_, bind_eq_ok.mpr ⟨now, ?_, hfound⟩⟩⟩⟩⟩
  · simp [hkind, hseason, isText]
  · rw [hcapturedAt, requireDate, parseDate_toISOString]
    rfl

/-- A payload that is accepted has the hash that it is read with, and the kind and the season. -/
theorem eq_of_parseEnvelope {host : StagingHost} {fields : Fields} {sourceHash : Option String}
    (h : parseEnvelope host (some fields) sourceHash kind season = .ok data) :
    sourceHash = some (contentHash host.sha256 (.object fields)) ∧
      fields.lookup "kind" = some (.string kind.text) ∧
      fields.lookup "season" = some (.string season) := by
  obtain ⟨payload, hpayload, h⟩ := orThrow_bind_eq_ok.mp h
  obtain ⟨hhash, h⟩ := throwIf_bind_eq_ok.mp h
  obtain ⟨-, h⟩ := throwIf_bind_eq_ok.mp h
  obtain ⟨htexts, -⟩ := throwIf_bind_eq_ok.mp h
  obtain rfl : fields = payload := Option.some_injective _ hpayload
  rw [not_or, Bool.not_eq_false, Bool.not_eq_false, isText_eq_true, isText_eq_true] at htexts
  exact ⟨not_not.mp hhash, htexts⟩

end Envelopes

end LetletmeData.Understat
