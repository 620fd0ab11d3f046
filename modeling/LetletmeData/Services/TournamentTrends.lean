import LetletmeData.Library.IsoTimestamps
import LetletmeData.Library.JsonTexts
import LetletmeData.Library.Transactions

/-!
# Publishing tournament trends

The trends of a tournament in an event are published by one transaction, which sees the database
as it stood at its first statement and takes the scope's advisory lock there. A publication whose
checksum is already on file is reused. Otherwise a revision is added, and when the picks of the
roster are complete its rows are computed and it becomes the active one.
-/

namespace LetletmeData

open LetletmeData.Library

/-- A tournament in an event of a season. -/
structure TrendsScope where
  seasonId : ℕ
  tournamentId : ℕ
  eventId : ℕ
  deriving DecidableEq

/-- What the trends read of a row of `competition.entries`. The stamp counts microseconds. -/
structure TrendsEntry where
  startedEvent : Option ℕ
  transfersSyncedThroughEventId : Option ℕ
  updatedAt : ℕ
  deriving DecidableEq

/-- What the trends read of a row of `competition.entry_event_picks`. -/
structure TrendsPick where
  seasonId : ℕ
  entryId : ℕ
  eventId : ℕ
  position : ℕ
  elementId : ℕ
  multiplier : ℕ
  isCaptain : Bool
  isViceCaptain : Bool
  sourceUpdatedAt : ℕ
  deriving DecidableEq

/-- What the trends read of a row of `competition.entry_event_transfers`. -/
structure TrendsTransfer where
  seasonId : ℕ
  transferId : ℕ
  entryId : ℕ
  eventId : ℕ
  elementInId : Option ℕ
  elementOutId : Option ℕ
  updatedAt : ℕ
  deriving DecidableEq

/-- The tables that the trends are computed from, and the stamp of the last write. The roster lists
the season of an entry under its tournament and itself. -/
structure TrendsSource where
  roster : KeyedTable (ℕ × ℕ) ℕ
  entries : KeyedTable (ℕ × ℕ) TrendsEntry
  picks : List TrendsPick
  transfers : List TrendsTransfer
  clock : ℕ

/-- A row of `fpl.players`. -/
structure TrendsPlayer where
  firstName : Option String
  secondName : Option String
  webName : String
  elementType : ℕ
  teamId : ℕ

/-- The players and team names of the seasons, and the digests of the database and of the
service. -/
structure TrendsHost where
  player : ℕ → ℕ → Option TrendsPlayer
  teamShortName : ℕ → ℕ → Option String
  md5 : String → String
  sha256 : String → String

/-- A row of `reporting.tournament_selection_stat_rows`. -/
structure TrendRow where
  elementId : ℕ
  selectedCount : ℕ
  effectiveSelectionCount : ℕ
  captainCount : ℕ
  viceCaptainCount : ℕ
  transferInCount : Option ℕ
  transferOutCount : Option ℕ
  playerName : String
  playerPosition : ℕ
  teamShortName : String
  deriving DecidableEq

section Source

variable (host : TrendsHost) (source : TrendsSource) (scope : TrendsScope)

/-- The roster of the scope's tournament. -/
def TrendsSource.members : List ℕ :=
  (source.roster.selectWhere fun key seasonId =>
    key.1 = scope.tournamentId ∧ seasonId = scope.seasonId).map fun row => row.1.2

/-- The entry of a member. -/
def TrendsSource.entry (entryId : ℕ) : Option TrendsEntry :=
  source.entries.find (scope.seasonId, entryId)

/-- The picks of an entry in the event. -/
def TrendsSource.picksOf (entryId : ℕ) : List TrendsPick :=
  source.picks.filter fun pick =>
    pick.seasonId = scope.seasonId ∧ pick.eventId = scope.eventId ∧ pick.entryId = entryId

/-- The transfers of an entry in the event. -/
def TrendsSource.transfersOf (entryId : ℕ) : List TrendsTransfer :=
  source.transfers.filter fun transfer =>
    transfer.seasonId = scope.seasonId ∧ transfer.eventId = scope.eventId ∧
      transfer.entryId = entryId

/-- `entry.started_event IS NULL OR entry.started_event <= eventId`. -/
def TrendsEntry.Started (entry : TrendsEntry) (eventId : ℕ) : Prop :=
  ∀ startedEvent ∈ entry.startedEvent, startedEvent ≤ eventId

instance (entry : TrendsEntry) (eventId : ℕ) : Decidable (entry.Started eventId) :=
  inferInstanceAs (Decidable (∀ startedEvent ∈ entry.startedEvent, startedEvent ≤ eventId))

/-- The member's entry exists and has started. -/
def TrendsSource.Eligible (entryId : ℕ) : Prop :=
  ∃ entry ∈ source.entry scope entryId, entry.Started scope.eventId

instance (entryId : ℕ) : Decidable (source.Eligible scope entryId) :=
  inferInstanceAs (Decidable (∃ entry ∈ source.entry scope entryId, entry.Started scope.eventId))

/-- The common table expression `eligible`. -/
def TrendsSource.eligible : List ℕ :=
  (source.members scope).filter fun entryId => source.Eligible scope entryId

/-- The lateral subquery `picks.complete`. -/
def completePicks (picks : List TrendsPick) : Prop :=
  picks.length = 15 ∧ (picks.map (·.position)).min? = some 1 ∧
    (picks.map (·.position)).max? = some 15 ∧ picks.countP (·.isCaptain) = 1 ∧
      picks.countP (·.isViceCaptain) = 1

instance (picks : List TrendsPick) : Decidable (completePicks picks) :=
  inferInstanceAs (Decidable (_ ∧ _ ∧ _ ∧ _ ∧ _))

/-- `entry.transfers_synced_through_event_id >= eventId`. -/
def TrendsSource.TransfersSynced (entryId : ℕ) : Prop :=
  ∃ entry ∈ source.entry scope entryId,
    ∃ syncedThrough ∈ entry.transfersSyncedThroughEventId, scope.eventId ≤ syncedThrough

instance (entryId : ℕ) : Decidable (source.TransfersSynced scope entryId) :=
  inferInstanceAs (Decidable (∃ entry ∈ source.entry scope entryId,
    ∃ syncedThrough ∈ entry.transfersSyncedThroughEventId, scope.eventId ≤ syncedThrough))

/-- The counts of `ScopeAudit`. -/
@[ext] structure ScopeAudit where
  expectedEntries : ℕ
  completePickEntries : ℕ
  transferCheckpointEntries : ℕ
  deriving DecidableEq

/-- The audit of a scope. -/
def TrendsSource.audit : ScopeAudit :=
  ⟨(source.eligible scope).length,
    (source.eligible scope).countP fun entryId => completePicks (source.picksOf scope entryId),
    (source.eligible scope).countP fun entryId => source.TransfersSynced scope entryId⟩

/-- An empty roster is a confirmed absence of a prepared competition, not a complete
observation. -/
def ScopeAudit.picksReady (audit : ScopeAudit) : Prop :=
  0 < audit.expectedEntries ∧ audit.completePickEntries = audit.expectedEntries

instance (audit : ScopeAudit) : Decidable audit.picksReady :=
  inferInstanceAs (Decidable (_ ∧ _))

/-- `transfersReady`. -/
def ScopeAudit.transfersReady (audit : ScopeAudit) : Prop :=
  0 < audit.expectedEntries ∧ audit.transferCheckpointEntries = audit.expectedEntries

instance (audit : ScopeAudit) : Decidable audit.transfersReady :=
  inferInstanceAs (Decidable (_ ∧ _))

/-- The picks of some entries in the event. -/
def TrendsSource.picksIn (entryIds : List ℕ) : List TrendsPick :=
  source.picks.filter fun pick =>
    pick.seasonId = scope.seasonId ∧ pick.eventId = scope.eventId ∧ pick.entryId ∈ entryIds

/-- The transfers of some entries in the event. -/
def TrendsSource.transfersIn (entryIds : List ℕ) : List TrendsTransfer :=
  source.transfers.filter fun transfer =>
    transfer.seasonId = scope.seasonId ∧ transfer.eventId = scope.eventId ∧
      transfer.entryId ∈ entryIds

/-- The elements of picks and transfers, in ascending order. -/
def elementIds (picks : List TrendsPick) (transfers : List TrendsTransfer) : List ℕ :=
  (picks.map (·.elementId) ++ transfers.filterMap (·.elementInId) ++
    transfers.filterMap (·.elementOutId)).dedup.insertionSort (· ≤ ·)

/-- What a `LEFT JOIN` finds: the matching rows, or a row of nulls. -/
def leftJoin {Row : Type} (rows : List Row) : List (Option Row) :=
  if rows.isEmpty then [none] else rows.map some

/-- A row of the join of roster, entries, picks and transfers. -/
structure JoinedRow where
  entryId : ℕ
  entry : TrendsEntry
  pick : Option TrendsPick
  transfer : Option TrendsTransfer

/-- The join that the watermark and the roster checksum are taken from. -/
def TrendsSource.joined : List JoinedRow :=
  (source.members scope).flatMap fun entryId =>
    match source.entry scope entryId with
    | none => []
    | some entry =>
      (leftJoin (source.picksOf scope entryId)).flatMap fun pick =>
        (leftJoin (source.transfersOf scope entryId)).map fun transfer =>
          ⟨entryId, entry, pick, transfer⟩

/-- The stamps of a joined row. -/
def JoinedRow.stamps (row : JoinedRow) : List ℕ :=
  row.entry.updatedAt ::
    (row.pick.toList.map (·.sourceUpdatedAt) ++ row.transfer.toList.map (·.updatedAt))

/-- `sourceWatermark`, which as a `Date` counts milliseconds. -/
def TrendsSource.sourceWatermark : ℕ :=
  (((source.joined scope).flatMap JoinedRow.stamps).max?.getD 0) / 1000

/-- The text of `roster_checksum`: a member stands in it once for each row of the join. -/
def TrendsSource.rosterText : String :=
  String.ofList (commaJoined ((((source.joined scope).map (·.entryId)).insertionSort
    (· ≤ ·)).map fun entryId => entryId.repr.toList))

/-- `COALESCE(NULLIF(concat_ws(' ', player.first_name, player.second_name), ''),
player.web_name)`. -/
def TrendsPlayer.playerName (player : TrendsPlayer) : String :=
  let fullName := " ".intercalate (player.firstName.toList ++ player.secondName.toList)
  if fullName = "" then player.webName else fullName

/-- The player of an element and the short name of its team. -/
def TrendsHost.metadata (seasonId elementId : ℕ) : Option (TrendsPlayer × String) := do
  let player ← host.player seasonId elementId
  let shortName ← host.teamShortName seasonId player.teamId
  return (player, shortName)

/-- The text of `player_metadata_checksum`. -/
def TrendsSource.playerMetadataText : String :=
  let members := source.members scope
  let elements := elementIds (source.picksIn scope members) (source.transfersIn scope members)
  String.ofList (commaJoined (elements.filterMap fun elementId =>
    (host.metadata scope.seasonId elementId).map fun (player, shortName) =>
      s!"{elementId}:{player.playerName}:{player.elementType}:{shortName}".toList))

/-- The text that the checksum of a publication digests. -/
def TrendsSource.checksumText : String :=
  let audit := source.audit scope
  s!"{scope.seasonId}:{scope.tournamentId}:{scope.eventId}:{audit.expectedEntries}:" ++
    s!"{audit.completePickEntries}:{audit.transferCheckpointEntries}:" ++
    s!"{toISOString (source.sourceWatermark scope)}:{host.md5 (source.rosterText scope)}:" ++
    host.md5 (source.playerMetadataText host scope)

/-- A row of the trends: what the picks and transfers say of an element. -/
def trendRow (picks : List TrendsPick) (transfers : List TrendsTransfer) (transfersReady : Bool)
    (elementId : ℕ) (player : TrendsPlayer) (shortName : String) : TrendRow :=
  let chosen := picks.filter fun pick => pick.elementId = elementId
  { elementId
    selectedCount := chosen.length
    effectiveSelectionCount := (chosen.map (·.multiplier)).sum
    captainCount := chosen.countP (·.isCaptain)
    viceCaptainCount := chosen.countP (·.isViceCaptain)
    transferInCount :=
      if transfersReady then some (transfers.countP (·.elementInId = some elementId)) else none
    transferOutCount :=
      if transfersReady then some (transfers.countP (·.elementOutId = some elementId)) else none
    playerName := player.playerName
    playerPosition := player.elementType
    teamShortName := shortName }

/-- The rows of picks and transfers, in the order of their elements. -/
def rowsOf (seasonId : ℕ) (picks : List TrendsPick) (transfers : List TrendsTransfer)
    (transfersReady : Bool) : List TrendRow :=
  (elementIds picks transfers).filterMap fun elementId =>
    (host.metadata seasonId elementId).map fun (player, shortName) =>
      trendRow picks transfers transfersReady elementId player shortName

/-- `trendRows`: the aggregates of the roster, picks and transfers. -/
def TrendsSource.trendRows : List TrendRow :=
  let eligible := source.eligible scope
  rowsOf host scope.seasonId (source.picksIn scope eligible) (source.transfersIn scope eligible)
    (decide (source.audit scope).transfersReady)

end Source

/-- `publication_state`. -/
inductive TrendsPublicationState where
  | collecting
  | ready
  | failed
  | unsupported
  deriving DecidableEq

/-- The capability states, of which this code writes two. -/
inductive TrendsCapabilityState where
  | ready
  | notReady
  | failed
  | unsupported
  deriving DecidableEq

/-- `? 'READY' : 'NOT_READY'`. -/
def capabilityState (ready : Prop) [Decidable ready] : TrendsCapabilityState :=
  if ready then .ready else .notReady

/-- A row of `reporting.tournament_selection_stat_publications` under its identifier. -/
structure TrendsPublication where
  scope : TrendsScope
  revision : ℕ
  publicationState : TrendsPublicationState
  isActive : Bool
  sourceWatermark : ℕ
  sourceChecksum : String
  audit : ScopeAudit
  ownershipState : TrendsCapabilityState
  captaincyState : TrendsCapabilityState
  viceCaptaincyState : TrendsCapabilityState
  transfersState : TrendsCapabilityState
  publishedAt : Option ℕ
  deriving DecidableEq

/-- The publications, their rows, and the next identifier. -/
structure TrendsTables where
  publications : KeyedTable ℕ TrendsPublication
  rows : KeyedTable ℕ (List TrendRow)
  nextPublicationId : ℕ

/-- What a transaction sees. -/
structure TrendsSnapshot where
  source : TrendsSource
  tables : TrendsTables

/-- The fields of a database error that are looked at. -/
structure PostgresError where
  code : String
  constraint : String
  deriving DecidableEq

/-- `SCOPE_REVISION_CONSTRAINT`. -/
def scopeRevisionConstraint : String := "tournament_selection_stat_publications_scope_revision_unique"

/-- The partial index that admits one active publication of a scope. -/
def activeScopeIndex : String := "tournament_selection_stat_publications_active_scope_idx"

/-- `isRetryableTournamentTrendPublicationConflict`. -/
def PostgresError.isRetryable (error : PostgresError) : Prop :=
  error.code = "40001" ∨ error.code = "23505" ∧ error.constraint = scopeRevisionConstraint

instance (error : PostgresError) : Decidable error.isRetryable :=
  inferInstanceAs (Decidable (_ ∨ _ ∧ _))

/-- The state in a `TournamentTrendScopePublication`. -/
inductive TrendsResultState where
  | ready
  | collecting
  | reused
  deriving DecidableEq

/-- `TournamentTrendScopePublication`. -/
structure TournamentTrendScopePublication where
  tournamentId : ℕ
  eventId : ℕ
  publicationId : ℕ
  revision : ℕ
  state : TrendsResultState
  ownershipState : TrendsCapabilityState
  transfersState : TrendsCapabilityState
  rows : ℕ
  deriving DecidableEq

section Publishing

variable (host : TrendsHost) (scope : TrendsScope) (now : ℕ) (snapshot : TrendsSnapshot)
  (stored : TrendsTables)

/-- The newest publication of the scope with a checksum, when it can be reused. -/
def TrendsTables.existing (tables : TrendsTables) (checksum : String) :
    Option (ℕ × TrendsPublication) :=
  (tables.publications.selectSorted
      (fun _ row => row.scope = scope ∧ row.sourceChecksum = checksum)
      fun left right => right.2.revision ≤ left.2.revision).head?.filter fun entry =>
    entry.2.publicationState = .ready ∨ entry.2.publicationState = .collecting

/-- `COALESCE(max(revision), 0) + 1`. -/
def TrendsTables.nextRevision (tables : TrendsTables) : ℕ :=
  ((tables.publications.selectWhere fun _ row => row.scope = scope).map
    (·.2.revision)).max?.getD 0 + 1

/-- The row of a new publication. -/
def newPublication (audit : ScopeAudit) (checksum : String) : TrendsPublication :=
  { scope
    revision := snapshot.tables.nextRevision scope
    publicationState := if audit.picksReady then .ready else .collecting
    isActive := false
    sourceWatermark := snapshot.source.sourceWatermark scope
    sourceChecksum := checksum
    audit
    ownershipState := capabilityState audit.picksReady
    captaincyState := capabilityState audit.picksReady
    viceCaptaincyState := capabilityState audit.picksReady
    transfersState := capabilityState audit.transfersReady
    publishedAt := if audit.picksReady then some now else none }

/-- A concurrent change of a row that the snapshot holds. -/
def serializationFailure : PostgresError := ⟨"40001", ""⟩

/-- Another publication of the scope is active. -/
def TrendsTables.OtherActive (publications : KeyedTable ℕ TrendsPublication)
    (publicationId : ℕ) : Prop :=
  ∃ entry ∈ publications.entries,
    entry.1 ≠ publicationId ∧ entry.2.scope = scope ∧ entry.2.isActive

instance (publications : KeyedTable ℕ TrendsPublication) (publicationId : ℕ) :
    Decidable (TrendsTables.OtherActive scope publications publicationId) :=
  inferInstanceAs (Decidable (∃ entry ∈ publications.entries, _))

/-- The active publication of the scope is switched. -/
def switchActive (publicationId : ℕ) (publications : RowsSeen ℕ TrendsPublication) :
    Except PostgresError (RowsSeen ℕ TrendsPublication) := do
  let deactivated ← (publications.updateWhere (fun _ row => row.scope = scope ∧ row.isActive)
    fun row => { row with isActive := false }).mapError fun _ => serializationFailure
  throwIf (TrendsTables.OtherActive scope deactivated.stored publicationId)
    ⟨"23505", activeScopeIndex⟩
  (deactivated.updateWhere (fun other _ => other = publicationId)
    fun row => { row with isActive := true }).mapError fun _ => serializationFailure

/-- A revision of the scope is taken. -/
def TrendsTables.RevisionTaken (revision : ℕ) : Prop :=
  ∃ entry ∈ stored.publications.entries, entry.2.scope = scope ∧ entry.2.revision = revision

instance (revision : ℕ) : Decidable (stored.RevisionTaken scope revision) :=
  inferInstanceAs (Decidable (∃ entry ∈ stored.publications.entries, _))

/-- A new publication is inserted and, when the picks are ready, filled and made the active one. -/
def addPublication (checksum : String) :
    Except PostgresError (TournamentTrendScopePublication × TrendsTables) := do
  let audit := snapshot.source.audit scope
  let publicationId := stored.nextPublicationId
  let row := newPublication scope now snapshot audit checksum
  throwIf (stored.RevisionTaken scope row.revision) ⟨"23505", scopeRevisionConstraint⟩
  let publications :=
    RowsSeen.insert publicationId row ⟨snapshot.tables.publications, stored.publications⟩
  if audit.picksReady then
    let trendRows := snapshot.source.trendRows host scope
    let switched ← switchActive scope publicationId publications
    return (⟨scope.tournamentId, scope.eventId, publicationId, row.revision, .ready,
        row.ownershipState, row.transfersState, trendRows.length⟩,
      ⟨switched.stored, stored.rows.insertAbsent publicationId trendRows, publicationId + 1⟩)
  else
    return (⟨scope.tournamentId, scope.eventId, publicationId, row.revision, .collecting,
        row.ownershipState, row.transfersState, 0⟩,
      ⟨publications.stored, stored.rows, publicationId + 1⟩)

/-- `publishOnce`: the transaction sees the snapshot and writes to what is stored. -/
def publishOnce : Except PostgresError (TournamentTrendScopePublication × TrendsTables) :=
  let audit := snapshot.source.audit scope
  let checksum := host.sha256 (snapshot.source.checksumText host scope)
  match snapshot.tables.existing scope checksum with
  | some (publicationId, row) =>
    .ok (⟨scope.tournamentId, scope.eventId, publicationId, row.revision, .reused,
      capabilityState audit.picksReady, capabilityState audit.transfersReady, 0⟩, stored)
  | none => addPublication host scope now snapshot stored checksum

end Publishing

end LetletmeData
