import LetletmeData.Library.KeyedTables
import LetletmeData.Library.Runs
import LetletmeData.Content.WeekContract

/-!
# Persisting and staging Week publications

A publication is persisted in one transaction and staged afterwards, by two payload writes and a
script that moves the public pointer. The commands of a staging reach Redis one by one, at any
later time and, when a publish request is replayed, any number of times.
-/

namespace LetletmeData

open LetletmeData.Library

/-- The states of a row, of which this code writes `active` and `retired`. -/
inductive ContentPublicationStatus where
  | staging
  | active
  | retired
  | tombstone
  deriving DecidableEq

/-- The proof of a payload in `localeManifest`. -/
structure LocaleProof where
  bytes : ℕ
  sha256 : String
  deriving DecidableEq

/-- A row of `content.publications` under its identifier. -/
structure ContentPublication where
  scopeKey : String
  revision : ℤ
  schemaVersion : ℤ
  seasonCode : String
  targetEventId : Option ℤ
  eventName : Option String
  deadlineTime : Option String
  state : BriefingState
  status : ContentPublicationStatus
  servable : Bool
  sourceCheckedAt : String
  publishedAt : String
  validUntil : Option String
  retiredAt : Option ℤ
  english : LocaleProof
  chinese : LocaleProof
  deriving DecidableEq

/-- A row of `content.publication_payloads` under its publication and locale. -/
structure PublicationPayload where
  payload : WeekPublicationEnvelope
  payloadBytes : ℕ
  payloadSha256 : String
  deriving DecidableEq

/-- A row of `content.publication_outbox` under its idempotency key. -/
structure PublicationOutboxEntry where
  outboxId : String
  eventType : String
  publicationId : String
  scopeKey : String
  revision : ℤ
  locales : List WeekLocale
  deriving DecidableEq

/-- The tables a publication is written to. -/
structure WeekTables where
  mutationScopes : KeyedTable String ℤ
  publications : KeyedTable String ContentPublication
  payloads : KeyedTable (String × WeekLocale) PublicationPayload
  dependencies : KeyedTable (String × String × String) String
  outbox : KeyedTable String PublicationOutboxEntry

/-- `WeekPublicationResult`. -/
structure WeekPublicationResult where
  publicationId : String
  revision : ℤ
  state : BriefingState
  redisPublished : Bool
  outboxId : String
  deriving DecidableEq

/-- `WEEK_PUBLICATION_MUTATION_SCOPE`. -/
def weekPublicationMutationScope : String := "content-publication:week"

/-- A `uuid` column compares identifiers without regard to case. -/
def uuidKey (text : String) : String := String.ofList (text.toList.map Char.toLower)

/-- `COALESCE(MAX(revision), 0)` of the Week scope. -/
def latestWeekRevision (tables : WeekTables) : ℤ :=
  ((tables.publications.selectWhere fun _ row => row.scopeKey = "week").map (·.2.revision)).foldl
    max 0

/-- The row of a publication as it is inserted. -/
def publicationValues (english : WeekPublicationEnvelope) (englishProof chineseProof : LocaleProof) :
    ContentPublication where
  scopeKey := "week"
  revision := english.revision
  schemaVersion := weekPublicationSchemaVersion
  seasonCode := (english.event.map (·.seasonCode)).getD "2627"
  targetEventId := english.event.map (·.eventId)
  eventName := english.event.map (·.name)
  deadlineTime := english.event.map (·.deadlineTime)
  state := english.state
  status := .active
  servable := english.state ≠ .unavailable
  sourceCheckedAt := english.sourceCheckedAt
  publishedAt := english.publishedAt
  validUntil := english.validUntil
  retiredAt := none
  english := englishProof
  chinese := chineseProof

/-- The checks on the revision: a known publication must be the latest one and unchanged, a new
one must be later than all others. -/
def checkWeekRevision (tables : WeekTables) (english : WeekPublicationEnvelope)
    (englishHash chineseHash : String) : Except String Unit :=
  match tables.publications.find (uuidKey english.publicationId) with
  | some existing => do
    assertThat (existing.revision = english.revision) "Publication ID cannot change its revision"
    assertThat (english.revision = latestWeekRevision tables)
      "A retired Week revision cannot be reactivated"
    assertThat (existing.english.sha256 = englishHash ∧ existing.chinese.sha256 = chineseHash)
      "Published revision is immutable"
  | none =>
    assertThat (latestWeekRevision tables < english.revision)
      "Week publication revision must increase monotonically"

/-- The active rows of other publications are retired, the row of this one is written. -/
def writeWeekPublication (tables : WeekTables) (english : WeekPublicationEnvelope)
    (englishProof chineseProof : LocaleProof) (now : ℤ) : KeyedTable String ContentPublication :=
  let id := uuidKey english.publicationId
  let row := publicationValues english englishProof chineseProof
  let retired := tables.publications.updateWhere
    (fun key row => row.scopeKey = "week" ∧ row.status = .active ∧ key ≠ id)
    fun row => { row with status := .retired, servable := false, retiredAt := some now }
  match tables.publications.find id with
  | some _ =>
    retired.updateWhere (fun key _ => key = id) fun old =>
      { old with
        status := .active, servable := row.servable, state := row.state
        validUntil := row.validUntil, retiredAt := none }
  | none => retired.insertAbsent id row

/-- The dependencies of a publication: its scope and its event. -/
def weekDependencies (english : WeekPublicationEnvelope) : List (String × String × String × String) :=
  let id := uuidKey english.publicationId
  (id, "scope", "week", toString english.revision) ::
    (english.event.map fun event =>
      (id, "event", toString event.eventId, event.seasonCode)).toList

/-- `persistWeekPublication`, with the outbox identifier it draws and the current time. -/
def persistWeekPublication (host : WeekHost) (english chinese : WeekPublicationEnvelope)
    (outboxId : String) (now : ℤ) (tables : WeekTables) :
    Except String (WeekTables × WeekPublicationResult) := do
  assertWeekPublication host english
  assertWeekPublication host chinese
  validateWeekLocalePair host english chinese
  let englishSerialized ← serializeWeekPublication host english
  let chineseSerialized ← serializeWeekPublication host chinese
  let englishHash ← weekPublicationSha256 host english
  let chineseHash ← weekPublicationSha256 host chinese
  let englishProof : LocaleProof := ⟨englishSerialized.utf8ByteSize, englishHash⟩
  let chineseProof : LocaleProof := ⟨chineseSerialized.utf8ByteSize, chineseHash⟩
  checkWeekRevision tables english englishHash chineseHash
  let id := uuidKey english.publicationId
  let idempotencyKey :=
    "briefing:week:" ++ english.publicationId ++ ":" ++ toString english.revision
  let outbox := tables.outbox.insertAbsent idempotencyKey
    { outboxId, eventType := "briefing.publication.activated"
      publicationId := english.publicationId, scopeKey := "week", revision := english.revision
      locales := [.en, .zhCN] }
  let durableOutboxId := ((outbox.find idempotencyKey).map (·.outboxId)).getD outboxId
  let written : WeekTables :=
    { mutationScopes := tables.mutationScopes.upsert weekPublicationMutationScope now
      publications := writeWeekPublication tables english englishProof chineseProof now
      payloads :=
        (tables.payloads.upsert (id, .en) ⟨english, englishProof.bytes, englishHash⟩).upsert
          (id, .zhCN) ⟨chinese, chineseProof.bytes, chineseHash⟩
      dependencies := (weekDependencies english).foldl
        (fun table row => table.insertAbsent (row.1, row.2.1, row.2.2.1) row.2.2.2)
        tables.dependencies
      outbox }
  return (written, ⟨english.publicationId, english.revision, english.state, false, durableOutboxId⟩)

/-- What the pointer holds: the manifest a script has written. -/
structure WeekPointer where
  schemaVersion : ℤ
  publicationId : String
  revision : ℤ
  state : BriefingState
  locales : List WeekLocale
  englishHash : String
  chineseHash : String
  deriving DecidableEq

/-- The text under the pointer's key: a manifest, or one the script cannot decode. -/
inductive WeekPointerText where
  | manifest (manifest : WeekPointer)
  | undecodable
  deriving DecidableEq

/-- The keys of the Week briefing in Redis. -/
structure WeekCache where
  pointer : Option WeekPointerText
  payloads : KeyedTable String String

/-- The replies of the pointer script. -/
inductive WeekPointerReply where
  | invalidCurrent
  | stale
  | tombstoned
  | activated
  deriving DecidableEq

/-- `weekPayloadKey`. -/
def weekPayloadKey (revision : ℤ) (locale : WeekLocale) : Except String String := do
  assertThat (hasInteger revision ∧ 0 < revision) "Invalid Week revision"
  return "llm:content:briefing:week:" ++ toString revision ++ ":" ++ locale.text

/-- `ACTIVE_POINTER_CAS_SCRIPT`. -/
def activePointerCasScript (candidate : WeekPointer) (cache : WeekCache) :
    WeekCache × WeekPointerReply :=
  let settle (current : Option WeekPointer) : WeekCache × WeekPointerReply :=
    if candidate.state = .unavailable then
      if ∃ active ∈ current, candidate.revision < active.revision then (cache, .stale)
      else ({ cache with pointer := none }, .tombstoned)
    else if ∃ active ∈ current, candidate.revision < active.revision then (cache, .stale)
    else ({ cache with pointer := some (.manifest candidate) }, .activated)
  match cache.pointer with
  | some .undecodable => (cache, .invalidCurrent)
  | some (.manifest active) => settle (some active)
  | none => settle none

/-- `compareAndSetWeekPointer`. -/
def compareAndSetWeekPointer (candidate : WeekPointer) (cache : WeekCache) :
    WeekCache × Except String WeekPointerReply :=
  match activePointerCasScript candidate cache with
  | (cache, .invalidCurrent) => (cache, .error "Invalid active Week pointer")
  | (cache, reply) => (cache, .ok reply)

/-- A publication whose transaction has committed, with what its staging is handed. -/
structure WeekDelivery where
  english : WeekPublicationEnvelope
  chinese : WeekPublicationEnvelope
  persisted : WeekPublicationResult
  deriving DecidableEq

/-- The manifest a staging hands to the script. -/
def weekPointerCandidate (host : WeekHost) (delivery : WeekDelivery) : Except String WeekPointer := do
  let englishHash ← weekPublicationSha256 host delivery.english
  let chineseHash ← weekPublicationSha256 host delivery.chinese
  return {
    schemaVersion := weekPublicationSchemaVersion
    publicationId := delivery.english.publicationId
    revision := delivery.english.revision
    state := delivery.english.state
    locales := [.en, .zhCN]
    englishHash, chineseHash }

/-- One payload write of a staging. -/
def setWeekPayload (host : WeekHost) (delivery : WeekDelivery) (locale : WeekLocale)
    (cache : WeekCache) : Except String WeekCache := do
  let envelope := if locale = .en then delivery.english else delivery.chinese
  let serialized ← serializeWeekPublication host envelope
  let key ← weekPayloadKey delivery.english.revision locale
  return { cache with payloads := cache.payloads.upsert key serialized }

/-- The pointer step of a staging; the error of an undecodable pointer is caught by the caller. -/
def moveWeekPointer (host : WeekHost) (delivery : WeekDelivery) (cache : WeekCache) :
    Except String (WeekCache × WeekPointerReply) := do
  let candidate ← weekPointerCandidate host delivery
  return activePointerCasScript candidate cache

/-- `stageWeekPublication` when its three commands reach Redis one after another. -/
def stageWeekPublication (host : WeekHost) (delivery : WeekDelivery) (cache : WeekCache) :
    Except String (WeekCache × WeekPublicationResult) := do
  let withEnglish ← setWeekPayload host delivery .en cache
  let withPayloads ← setWeekPayload host delivery .zhCN withEnglish
  let candidate ← weekPointerCandidate host delivery
  match compareAndSetWeekPointer candidate withPayloads with
  | (moved, .ok reply) =>
    return (moved, { delivery.persisted with redisPublished := reply ≠ .stale })
  | (moved, .error _) => return (moved, { delivery.persisted with redisPublished := false })

/-- The tables, the cache, the publications whose transactions have committed, and the revisions
the script has activated and tombstoned so far. -/
structure WeekWorld where
  tables : WeekTables
  cache : WeekCache
  persisted : List WeekDelivery
  activated : List ℤ
  tombstoned : List ℤ

/-- Nothing is published. -/
def WeekWorld.initial : WeekWorld where
  tables := ⟨.empty, .empty, .empty, .empty, .empty⟩
  cache := ⟨none, .empty⟩
  persisted := []
  activated := []
  tombstoned := []

/-- A transaction, or one command of the staging of a persisted publication. -/
inductive WeekAction where
  | persist (english chinese : WeekPublicationEnvelope) (outboxId : String) (now : ℤ)
  | setPayload (delivery : WeekDelivery) (locale : WeekLocale)
  | movePointer (delivery : WeekDelivery)

/-- The script ran and replied. -/
def WeekWorld.record (world : WeekWorld) (delivery : WeekDelivery)
    (outcome : WeekCache × WeekPointerReply) : WeekWorld :=
  { world with
    cache := outcome.1
    activated := if outcome.2 = .activated then delivery.english.revision :: world.activated
      else world.activated
    tombstoned := if outcome.2 = .tombstoned then delivery.english.revision :: world.tombstoned
      else world.tombstoned }

/-- One step: what throws leaves the world as it is, and so does the staging of a publication
that is not persisted. -/
def weekStep (host : WeekHost) (world : WeekWorld) : WeekAction → WeekWorld
  | .persist english chinese outboxId now =>
    match persistWeekPublication host english chinese outboxId now world.tables with
    | .ok (tables, persisted) =>
      { world with tables, persisted := ⟨english, chinese, persisted⟩ :: world.persisted }
    | .error _ => world
  | .setPayload delivery locale =>
    if delivery ∈ world.persisted then
      match setWeekPayload host delivery locale world.cache with
      | .ok cache => { world with cache }
      | .error _ => world
    else world
  | .movePointer delivery =>
    if delivery ∈ world.persisted then
      match moveWeekPointer host delivery world.cache with
      | .ok outcome => world.record delivery outcome
      | .error _ => world
    else world

end LetletmeData
