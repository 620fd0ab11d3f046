import Mathlib.Algebra.Order.Ring.Int
import LetletmeData.Library.JavaScript

/-!
# Publication manifests

A publication is an immutable set of payloads under one revision. Its manifest names the
scope, the revision and the proof of every payload; the same manifest is stored in the
database, in the outbox and as the active pointer of the cache. Identifiers stand for the
128-bit values of their texts.
-/

namespace LetletmeData

open LetletmeData.Library

/-- `DataPublicationDataset`. -/
inductive DataPublicationDataset where
  | core
  | live
  | market
  deriving DecidableEq

/-- The text of a dataset. -/
def DataPublicationDataset.text : DataPublicationDataset → String
  | core => "fpl:core"
  | live => "fpl:live"
  | market => "fpl:market"

/-- `DataPublicationState`. -/
inductive DataPublicationState where
  | active
  | scheduled
  | live
  | settled
  deriving DecidableEq

/-- `FplSeasonRef`. -/
structure FplSeasonRef where
  seasonId : ℕ
  seasonCode : String
  deriving DecidableEq

/-- What the code takes from its host: the SHA-256 digest of a text in hexadecimal, whether
`new Date` reads a text as a point in time, and how many items a JSON text holds. -/
structure HostFunctions where
  sha256 : String → String
  isTimestamp : String → Bool
  jsonItemCount : String → Option ℕ

/-- The hexadecimal digit of an identifier with the given number of digits after it. -/
def hexDigit (id place : ℕ) : ℕ := id / 16 ^ place % 16

/-- The text of an identifier, in groups of 8, 4, 4, 4 and 12 digits. -/
def uuidText (id : ℕ) : String :=
  String.ofList ((List.range 32).reverse.flatMap fun place =>
    let digit := Nat.digitChar (hexDigit id place)
    if place ∈ [24, 20, 16, 12] then [digit, '-'] else [digit])

/-- `isDataPublicationId`: 32 digits, of version 1 to 8 and of the RFC variant. -/
def isDataPublicationId (id : ℕ) : Prop :=
  id < 16 ^ 32 ∧ (1 ≤ hexDigit id 19 ∧ hexDigit id 19 ≤ 8) ∧
    (8 ≤ hexDigit id 15 ∧ hexDigit id 15 ≤ 11)

instance (id : ℕ) : Decidable (isDataPublicationId id) := inferInstanceAs (Decidable (_ ∧ _))

/-- `DataPublicationManifestItem`; its `type` is always `string`. -/
structure DataPublicationManifestItem where
  name : String
  key : String
  count : ℕ
  bytes : ℕ
  sha256 : String
  deriving DecidableEq

/-- `DataPublicationManifest`. -/
structure DataPublicationManifest where
  dataset : DataPublicationDataset
  seasonCode : String
  eventId : Option ℕ
  revision : ℕ
  publicationId : ℕ
  sourceCheckedAt : String
  lastSuccessfulFetchAt : Option String
  publishedAt : String
  state : DataPublicationState
  items : List DataPublicationManifestItem
  deriving DecidableEq

/-- `DataPublicationDeliveryItem`. -/
structure DataPublicationDeliveryItem where
  manifest : DataPublicationManifestItem
  payload : String
  deriving DecidableEq

/-- A manifest with the payloads that prove it. -/
structure PreparedDelivery where
  manifest : DataPublicationManifest
  items : List DataPublicationDeliveryItem
  deriving DecidableEq

/-- `DataPublicationScope`. -/
structure DataPublicationScope where
  dataset : DataPublicationDataset
  seasonCode : String
  eventId : Option ℕ
  deriving DecidableEq

/-- `/^\d{4}$/`. -/
def isSeasonCode (text : String) : Bool :=
  text.toList.length = 4 && text.toList.all Char.isDigit

/-- `/^[a-z][a-zA-Z0-9]*$/`. -/
def isItemName (text : String) : Bool :=
  match text.toList with
  | [] => false
  | first :: rest => first.isLower && rest.all Char.isAlphanum

/-- `/^[0-9a-f]{64}$/`. -/
def isSha256 (text : String) : Bool :=
  text.toList.length = 64 && text.toList.all fun c => c.isDigit || ('a' ≤ c && c ≤ 'f')

/-- `assertScope`: a live publication has a positive event, the others have none. -/
def DataPublicationScope.Valid (scope : DataPublicationScope) : Prop :=
  isSeasonCode scope.seasonCode = true ∧
    if scope.dataset = .live then ∃ eventId ∈ scope.eventId, 0 < eventId
    else scope.eventId = none

instance (scope : DataPublicationScope) : Decidable scope.Valid :=
  inferInstanceAs (Decidable (_ ∧ _))

/-- `scopePrefix`. -/
def scopePrefix (scope : DataPublicationScope) : String :=
  let stem := "llm:data:" ++ scope.dataset.text ++ ":" ++ scope.seasonCode
  if scope.dataset = .live then stem ++ ":" ++ toString (scope.eventId.getD 0) else stem

/-- `dataPublicationItemKey`. -/
def dataPublicationItemKey (scope : DataPublicationScope) (revision : ℕ) (itemName : String) :
    String :=
  scopePrefix scope ++ ":" ++ toString revision ++ ":" ++ itemName

/-- `DATASET_ITEM_NAMES`. -/
def datasetItemNames : DataPublicationDataset → List String
  | .core =>
    ["events", "teams", "players", "phases", "fixtures", "currentEventId", "selectionRules"]
  | .live => ["eventLive", "fixtures"]
  | .market => ["context"]

/-- `LEGACY_CORE_ITEM_NAMES`. -/
def legacyCoreItemNames : List String :=
  ["events", "teams", "players", "phases", "fixtures", "currentEventId"]

/-- `hasAcceptedItemNames`: the names of the dataset in any order, or the legacy ones. -/
def hasAcceptedItemNames (dataset : DataPublicationDataset) (names : List String) : Prop :=
  names.Perm (datasetItemNames dataset) ∨ (dataset = .core ∧ names.Perm legacyCoreItemNames)

instance (dataset : DataPublicationDataset) (names : List String) :
    Decidable (hasAcceptedItemNames dataset names) :=
  inferInstanceAs (Decidable (_ ∨ _))

/-- `isCanonicalState`. -/
def isCanonicalState (dataset : DataPublicationDataset) (state : DataPublicationState) : Prop :=
  if dataset = .live then state ≠ .active else state = .active

instance (dataset : DataPublicationDataset) (state : DataPublicationState) :
    Decidable (isCanonicalState dataset state) :=
  inferInstanceAs (Decidable (if dataset = .live then state ≠ .active else state = .active))

namespace DataPublicationManifest

/-- The scope a manifest names. -/
def scope (manifest : DataPublicationManifest) : DataPublicationScope :=
  { dataset := manifest.dataset, seasonCode := manifest.seasonCode, eventId := manifest.eventId }

/-- The checks `parseDataPublicationManifest` makes on an item. -/
def ItemAccepted (manifest : DataPublicationManifest) (item : DataPublicationManifestItem) :
    Prop :=
  isItemName item.name = true ∧
    item.key = dataPublicationItemKey manifest.scope manifest.revision item.name ∧
    isSha256 item.sha256 = true

instance (manifest : DataPublicationManifest) (item : DataPublicationManifestItem) :
    Decidable (manifest.ItemAccepted item) :=
  inferInstanceAs (Decidable (_ ∧ _))

/-- The checks of `parseDataPublicationManifest`. -/
def Accepted (host : HostFunctions) (manifest : DataPublicationManifest) : Prop :=
  (0 < manifest.revision ∧ manifest.revision ≤ maxSafeInteger) ∧
    isDataPublicationId manifest.publicationId ∧
    host.isTimestamp manifest.sourceCheckedAt = true ∧
    (∀ fetchedAt ∈ manifest.lastSuccessfulFetchAt, host.isTimestamp fetchedAt = true) ∧
    host.isTimestamp manifest.publishedAt = true ∧
    isCanonicalState manifest.dataset manifest.state ∧
    (∀ eventId ∈ manifest.eventId, eventId ≤ maxSafeInteger) ∧
    manifest.scope.Valid ∧
    (∀ item ∈ manifest.items, manifest.ItemAccepted item) ∧
    (manifest.items.map (·.name)).Nodup ∧
    hasAcceptedItemNames manifest.dataset (manifest.items.map (·.name))

instance (host : HostFunctions) (manifest : DataPublicationManifest) :
    Decidable (manifest.Accepted host) :=
  inferInstanceAs (Decidable (_ ∧ _))

end DataPublicationManifest

/-- `parseDataPublicationManifest`: a value of another shape, or one that fails a check, gives
no manifest. -/
def parseDataPublicationManifest (host : HostFunctions)
    (value : Option DataPublicationManifest) : Option DataPublicationManifest :=
  value.filter fun manifest => manifest.Accepted host

section MarketContexts

/-! The smallest publications are market contexts; concrete histories use them. -/

/-- The identifier `00000000-0000-4000-8000-00000000000n`. -/
def contextId (n : ℕ) : ℕ := 4 * 16 ^ 19 + 8 * 16 ^ 15 + n

/-- The season 2025/26. -/
def season2526 : FplSeasonRef := { seasonId := 2025, seasonCode := "2526" }

/-- When the context of a revision was fetched. -/
def contextCheckedAt : ℕ → String
  | 1 => "2025-08-01T00:00:00.000Z"
  | _ => "2025-08-02T00:00:00.000Z"

/-- The digest of the empty object. -/
def contextDigest : String := "44136fa355b3678a1146ad16f7e8649e94fb4fc21fe77e8310c060f61caaff8a"

/-- The host on the texts of empty contexts. -/
def contextHost : HostFunctions :=
  { sha256 := fun text => if text = "{}" then contextDigest else ""
    isTimestamp := fun text => text = contextCheckedAt 1 ∨ text = contextCheckedAt 2
    jsonItemCount := fun text => if text = "{}" then some 0 else none }

/-- The manifest of an empty context. -/
def contextManifest (id revision : ℕ) : DataPublicationManifest :=
  { dataset := .market, seasonCode := season2526.seasonCode, eventId := none,
    revision := revision, publicationId := id, sourceCheckedAt := contextCheckedAt revision,
    lastSuccessfulFetchAt := none, publishedAt := contextCheckedAt revision, state := .active,
    items :=
      [{ name := "context"
         key := "llm:data:fpl:market:2526:" ++ toString revision ++ ":context"
         count := 0, bytes := 2, sha256 := contextDigest }] }

end MarketContexts

end LetletmeData
