import Mathlib
import LetletmeData.Cache.PublicationManifest
import LetletmeData.Library.IsoTimestamps
import LetletmeData.Library.Transactions

/-!
# My FPL snapshot publications

A capture publishes one coherent snapshot of an event under an advisory lock of the event, or
finds that there is nothing to publish. Its transaction reads the tables as they stood when it
began to wait for the lock. A receipt of the publication is committed with it, and the dispatch
of receipts moves the pointer in Redis later. Times are in milliseconds; what a capture reads of
the tables that other jobs fill, and the payloads it derives from them, are parameters.
-/

namespace LetletmeData

open LetletmeData.Library

/-- `MyFplSnapshotKind`. -/
inductive MyFplSnapshotKind where
  | provisional
  | final
  deriving DecidableEq

/-- An event of a season: the scope of the advisory lock. -/
structure MyFplScope where
  seasonId : ℕ
  eventId : ℤ
  deriving DecidableEq

/-- The primary key of a publication. -/
structure MyFplRevision where
  scope : MyFplScope
  revision : ℕ
  deriving DecidableEq

/-- A row of `competition.my_fpl_snapshot_publications`. -/
structure MyFplSnapshotPublication where
  snapshotDate : String
  sourceCheckedAt : ℕ
  publishedAt : ℕ
  kind : MyFplSnapshotKind
  active : Bool
  expectedEntryCount : ℕ
  readyEntryCount : ℕ
  emptyEntryCount : ℕ
  expectedTournamentCount : ℕ
  readyTournamentCount : ℕ
  contentSha256 : String
  overrideActor : Option String
  overrideReason : Option String
  idempotencyKey : Option String
  updatedAt : ℕ
  deriving DecidableEq

/-- `MyFplSnapshotRedisManifest`. -/
structure MyFplSnapshotRedisManifest where
  dataset : String
  seasonCode : String
  eventId : ℤ
  revision : ℕ
  snapshotDate : String
  sourceCheckedAt : String
  publishedAt : String
  kind : MyFplSnapshotKind
  contentSha256 : String
  deriving DecidableEq

/-- The statuses of a receipt. -/
inductive MyFplOutboxStatus where
  | pending
  | processing
  | delivered
  | superseded
  | failed
  deriving DecidableEq

/-- A row of `competition.my_fpl_snapshot_publication_outbox`. -/
structure MyFplSnapshotReceipt where
  key : MyFplRevision
  manifest : MyFplSnapshotRedisManifest
  status : MyFplOutboxStatus
  availableAt : ℕ
  attempts : ℕ
  leaseOwner : Option String
  leaseExpiresAt : Option ℕ
  deliveredAt : Option ℕ
  lastError : Option String
  updatedAt : ℕ
  deriving DecidableEq

/-- Both tables. -/
structure MyFplTables where
  publications : KeyedTable MyFplRevision MyFplSnapshotPublication
  outbox : KeyedTable String MyFplSnapshotReceipt

/-! ### Capturing -/

/-- What a capture reads of `fpl.events`. -/
structure MyFplEventRow where
  finished : Bool
  dataChecked : Bool
  deadlineTime : Option ℕ

/-- What a capture has derived from complete source tables. -/
structure MyFplSnapshotContent where
  readyEntryCount : ℕ
  emptyEntryCount : ℕ
  tournamentCount : ℕ
  sourceCheckedAt : ℕ
  contentSha256 : String

/-- A call of `captureMyFplSnapshot` with what it reads: the row of its event, the content or the
reason why the source tables are incomplete, whether the child rows could be written and counted,
the text the driver gives for a date column, and the identifier drawn for the receipt. -/
structure MyFplSnapshotCall where
  season : FplSeasonRef
  eventId : ℤ
  kind : MyFplSnapshotKind
  snapshotDate : String
  now : ℕ
  actor : Option String
  reason : Option String
  idempotencyKey : Option String
  event : Option MyFplEventRow
  content : Except String MyFplSnapshotContent
  childRows : Except String Unit
  dateText : String → String
  outboxId : String

/-- The scope a call locks. -/
def MyFplSnapshotCall.scope (call : MyFplSnapshotCall) : MyFplScope :=
  ⟨call.season.seasonId, call.eventId⟩

/-- Actor, reason and key of an override, trimmed. -/
structure MyFplOverride where
  overrideActor : Option String
  overrideReason : Option String
  idempotencyKey : Option String
  deriving DecidableEq

/-- An override names all three. -/
def MyFplOverride.Complete (override : MyFplOverride) : Prop :=
  override.overrideActor ≠ none ∧ override.overrideReason ≠ none ∧ override.idempotencyKey ≠ none

instance (override : MyFplOverride) : Decidable override.Complete :=
  inferInstanceAs (Decidable (_ ∧ _))

/-- The checks of the options, made before the transaction begins. -/
def overrideMetadata (call : MyFplSnapshotCall) : Except String MyFplOverride := do
  let given := [call.actor, call.reason, call.idempotencyKey].filter (·.isSome)
  throwIf (given.length ≠ 0 ∧ (call.kind ≠ .final ∨ given.length ≠ 3))
    "My FPL final override requires actor, reason, and idempotencyKey"
  let override : MyFplOverride :=
    { overrideActor := trimmedOrNull call.actor
      overrideReason := trimmedOrNull call.reason
      idempotencyKey := trimmedOrNull call.idempotencyKey }
  throwIf (given.length ≠ 0 ∧
      (¬ override.Complete ∨ ∃ key ∈ override.idempotencyKey, 200 < utf16Length key))
    "My FPL final override metadata is invalid"
  return override

/-- The checks of the event. -/
def checkMyFplEvent (call : MyFplSnapshotCall) : Except String Unit := do
  let event ← orThrow call.event ("Event " ++ toString call.eventId ++ " does not exist")
  throwIf (call.kind = .final ∧ ¬ (event.finished = true ∧ event.dataChecked = true))
    ("Event " ++ toString call.eventId ++ " is not finalized by FPL")
  throwIf (∃ deadline ∈ event.deadlineTime, call.now < deadline)
    ("Event " ++ toString call.eventId ++ " deadline has not passed")

/-- `loadActivePublication`. -/
def loadActivePublication (scope : MyFplScope)
    (publications : KeyedTable MyFplRevision MyFplSnapshotPublication) :
    Option (MyFplRevision × MyFplSnapshotPublication) :=
  (publications.selectSorted (fun key row => key.scope = scope ∧ row.active = true)
    fun left right => right.1.revision ≤ left.1.revision).head?

/-- The active publication makes the capture a no-op. -/
def CaptureIsNoop (call : MyFplSnapshotCall) (override : MyFplOverride)
    (active : MyFplSnapshotPublication) : Prop :=
  (active.kind = .final ∧
      (¬ override.Complete ∨ active.idempotencyKey = override.idempotencyKey)) ∨
    (active.kind = .provisional ∧ call.dateText active.snapshotDate = call.snapshotDate ∧
      call.kind = .provisional)

instance (call : MyFplSnapshotCall) (override : MyFplOverride)
    (active : MyFplSnapshotPublication) : Decidable (CaptureIsNoop call override active) :=
  inferInstanceAs (Decidable (_ ∨ _))

/-- What a capture has decided before it writes. -/
inductive MyFplCaptureDecision where
  | noop (active : MyFplRevision × MyFplSnapshotPublication)
  | publish (content : MyFplSnapshotContent)

/-- The part of a capture that reads: the event, the active publication, then the sources. -/
def decideCapture (call : MyFplSnapshotCall) (override : MyFplOverride)
    (publications : KeyedTable MyFplRevision MyFplSnapshotPublication) :
    Except String MyFplCaptureDecision := do
  checkMyFplEvent call
  match (loadActivePublication call.scope publications).filter
      fun active => CaptureIsNoop call override active.2 with
  | some active => return .noop active
  | none => MyFplCaptureDecision.publish <$> call.content

/-- The row a capture inserts. -/
def newMyFplPublication (call : MyFplSnapshotCall) (override : MyFplOverride)
    (content : MyFplSnapshotContent) : MyFplSnapshotPublication where
  snapshotDate := call.snapshotDate
  sourceCheckedAt := content.sourceCheckedAt
  publishedAt := call.now
  kind := call.kind
  active := false
  expectedEntryCount := content.readyEntryCount + content.emptyEntryCount
  readyEntryCount := content.readyEntryCount
  emptyEntryCount := content.emptyEntryCount
  expectedTournamentCount := content.tournamentCount
  readyTournamentCount := content.tournamentCount
  contentSha256 := content.contentSha256
  overrideActor := override.overrideActor
  overrideReason := override.overrideReason
  idempotencyKey := override.idempotencyKey
  updatedAt := call.now

/-- The manifest of a publication. -/
def myFplManifest (seasonCode : String) (key : MyFplRevision)
    (publication : MyFplSnapshotPublication) : MyFplSnapshotRedisManifest where
  dataset := "fpl:my-fpl"
  seasonCode := seasonCode
  eventId := key.scope.eventId
  revision := key.revision
  snapshotDate := publication.snapshotDate
  sourceCheckedAt := toISOString publication.sourceCheckedAt
  publishedAt := toISOString publication.publishedAt
  kind := publication.kind
  contentSha256 := publication.contentSha256

/-- `INSERT` of a publication, under its primary key and
`my_fpl_snapshot_publications_idempotency_key`, which cover the stored rows. -/
def insertMyFplPublication (key : MyFplRevision) (row : MyFplSnapshotPublication)
    (rows : RowsSeen MyFplRevision MyFplSnapshotPublication) :
    Except String (RowsSeen MyFplRevision MyFplSnapshotPublication) := do
  throwIf (rows.stored.find key ≠ none) "my_fpl_snapshot_publications_pkey"
  throwIf (row.idempotencyKey ≠ none ∧ rows.stored.selectWhere (fun other old =>
      other.scope = key.scope ∧ old.idempotencyKey = row.idempotencyKey) ≠ [])
    "my_fpl_snapshot_publications_idempotency_key"
  return rows.insert key row

/-- The three statements that make a publication the active one of its scope. -/
def switchActivePublication (key : MyFplRevision) (now : ℕ)
    (rows : RowsSeen MyFplRevision MyFplSnapshotPublication) :
    Except String (RowsSeen MyFplRevision MyFplSnapshotPublication) := do
  let cleared ← rows.updateWhere (fun other row => other.scope = key.scope ∧ row.active = true)
    fun row => { row with active := false, updatedAt := now }
  let switched ← cleared.updateWhere (fun other _ => other = key)
    fun row => { row with active := true, updatedAt := now }
  throwIf (switched.stored.selectWhere (fun other row =>
      other.scope = key.scope ∧ row.active = true ∧ other ≠ key) ≠ [])
    "my_fpl_snapshot_publications_active_key"
  switched.deleteWhere fun other row =>
    other.scope = key.scope ∧ row.active = false ∧ row.publishedAt + 24 * 60 * 60000 < now

/-- The part of a capture that writes, under the revision it was given. `seen` is what its
transaction reads, `tables` is what is stored. -/
def publishCapture (call : MyFplSnapshotCall) (override : MyFplOverride)
    (content : MyFplSnapshotContent) (revision : ℕ)
    (seen : KeyedTable MyFplRevision MyFplSnapshotPublication) (tables : MyFplTables) :
    Except String MyFplTables := do
  let key : MyFplRevision := ⟨call.scope, revision⟩
  let row := newMyFplPublication call override content
  let inserted ← insertMyFplPublication key row ⟨seen, tables.publications⟩
  call.childRows
  let receipt : MyFplSnapshotReceipt :=
    { key, manifest := myFplManifest call.season.seasonCode key row, status := .pending
      availableAt := call.now, attempts := 0, leaseOwner := none, leaseExpiresAt := none
      deliveredAt := none, lastError := none, updatedAt := call.now }
  -- one receipt a publication: a second one is not inserted
  let outbox :=
    if tables.outbox.selectWhere (fun _ old => old.key = key) = [] then
      tables.outbox.insertAbsent call.outboxId receipt
    else tables.outbox
  let published ← switchActivePublication key call.now inserted
  return { publications := published.stored
           -- receipts go with their publications
           outbox := outbox.deleteWhere fun _ old => published.stored.find old.key = none }

/-- The tables and the revision the sequence gives next; a rollback does not take back a
revision. -/
structure MyFplDatabase where
  tables : MyFplTables
  nextRevision : ℕ

/-- `MyFplSnapshotCaptureResult`. -/
inductive MyFplSnapshotCaptureResult where
  | published (key : MyFplRevision)
  | noop (key : MyFplRevision) (publication : MyFplSnapshotPublication)
  deriving DecidableEq

/-- `captureMyFplSnapshot` when nobody else writes meanwhile. -/
def captureMyFplSnapshot (db : MyFplDatabase) (call : MyFplSnapshotCall) :
    MyFplDatabase × Except String MyFplSnapshotCaptureResult :=
  match overrideMetadata call with
  | .error error => (db, .error error)
  | .ok override =>
    match decideCapture call override db.tables.publications with
    | .error error => (db, .error error)
    | .ok (.noop active) => (db, .ok (.noop active.1 active.2))
    | .ok (.publish content) =>
      match publishCapture call override content db.nextRevision db.tables.publications
          db.tables with
      | .error error => ({ db with nextRevision := db.nextRevision + 1 }, .error error)
      | .ok tables =>
        (⟨tables, db.nextRevision + 1⟩, .ok (.published ⟨call.scope, db.nextRevision⟩))

/-- No publications yet; the sequence starts at one. -/
def MyFplDatabase.initial : MyFplDatabase := ⟨⟨.empty, .empty⟩, 1⟩

end LetletmeData
