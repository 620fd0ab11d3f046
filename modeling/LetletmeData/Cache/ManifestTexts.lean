import LetletmeData.Cache.DataPublication
import LetletmeData.Library.ScriptReading
import LetletmeData.Library.Texts
import LetletmeData.Utils.ContentHash

/-!
# Texts of manifests

A manifest is built as an object, stored as its JSON text and accepted again only if every field
passes its check. Here numbers are those of the language, and dates may be invalid; the manifest of
an event is rewritten by later heartbeats. A key is made of the scope, the revision and the name of
an item, with colons that occur in none of them.
-/

namespace LetletmeData.ManifestTexts

open LetletmeData.Library

/-! ### Scopes and keys -/

/-- What the code takes from its host: the SHA-256 digest of a text in hexadecimal, and what
`new Date` makes of a text that is none of a date. -/
structure ManifestHost where
  sha256 : String → String
  readDate : String → Option DateValue

/-- `DataPublicationScope`. -/
structure DataPublicationScope where
  dataset : DataPublicationDataset
  seasonCode : String
  eventId : Option Decimal

/-- `Number.isInteger(value) && value > 0`. -/
def isPositiveInteger (number : Decimal) : Bool :=
  number.doubleValue.any fun value => decide (IsInteger value ∧ 0 < value)

/-- `Number.isSafeInteger(value) && value > 0`. -/
def isPositiveSafeInteger (number : Decimal) : Bool :=
  number.doubleValue.any fun value => decide (IsSafeInteger value ∧ 0 < value)

/-- `assertScope`. -/
def assertScope (scope : DataPublicationScope) : Except CacheError Unit := do
  throwIf (isSeasonCode scope.seasonCode = false)
    ⟨"Invalid publication season", "DATA_PUBLICATION_SEASON_INVALID"⟩
  if scope.dataset = .live then
    throwIf (scope.eventId.all isPositiveInteger = false ∨ scope.eventId.isNone = true)
      ⟨"A live publication requires a positive event ID", "DATA_PUBLICATION_EVENT_INVALID"⟩
  else
    throwIf (scope.eventId.isSome = true)
      ⟨"A core publication cannot have an event ID", "DATA_PUBLICATION_CORE_EVENT_INVALID"⟩

/-- The text of an event in a key. -/
def eventText : Option Decimal → String
  | some eventId => eventId.text
  | none => "undefined"

/-- `scopePrefix`. -/
def scopePrefix (scope : DataPublicationScope) : Except CacheError String := do
  assertScope scope
  return if scope.dataset = .live then
    "llm:data:" ++ scope.dataset.text ++ ":" ++ scope.seasonCode ++ ":" ++ eventText scope.eventId
  else "llm:data:" ++ scope.dataset.text ++ ":" ++ scope.seasonCode

/-- `dataPublicationItemKey`. -/
def dataPublicationItemKey (scope : DataPublicationScope) (revision : Decimal) (itemName : String) :
    Except CacheError String := do
  throwIf (isPositiveSafeInteger revision = false)
    ⟨"Invalid publication revision", "DATA_PUBLICATION_REVISION_INVALID"⟩
  throwIf (isItemName itemName = false)
    ⟨"Invalid publication item name: " ++ itemName, "DATA_PUBLICATION_ITEM_NAME_INVALID"⟩
  let stem ← scopePrefix scope
  return stem ++ ":" ++ revision.text ++ ":" ++ itemName

/-! ### Building -/

/-- `itemCount`. -/
def itemCount : JsValue → ℕ
  | .array items => items.length
  | .object fields => fields.length
  | .date _ => 0
  | .null => 0
  | .bool _ | .number _ | .string _ => 1

/-- The text that a value is published as. -/
def payloadText (dataset : DataPublicationDataset) (value : JsValue) : String :=
  if dataset = .live then serializePostgresJsonb value else canonicalJson value

/-- `DataPublicationItemInput`. Neither a value nor its text is longer than the greatest safe
integer. -/
structure DataPublicationItemInput where
  name : String
  value : JsValue
  count_le : itemCount value ≤ maxSafeInteger
  bytes_le : ∀ dataset, (payloadText dataset value).utf8ByteSize ≤ maxSafeInteger

/-- `PublishDataRevisionInput`. A date that is not valid is none. -/
structure PublishDataRevisionInput where
  dataset : DataPublicationDataset
  seasonCode : String
  eventId : Option ScriptNumber
  revision : ScriptNumber
  publicationId : String
  sourceCheckedAt : Option DateValue
  lastSuccessfulFetchAt : Option (Option DateValue)
  state : DataPublicationState
  items : List DataPublicationItemInput

/-- The scope that an input names. -/
def PublishDataRevisionInput.scope (input : PublishDataRevisionInput) : DataPublicationScope :=
  { dataset := input.dataset
    seasonCode := input.seasonCode
    eventId := input.eventId.map ScriptNumber.digits }

/-- `SerializedItem`. -/
structure SerializedItem where
  manifest : Fields
  payload : String

/-- An item as `serializeItems` serialises it. -/
def serializeItem (host : ManifestHost) (input : PublishDataRevisionInput)
    (item : DataPublicationItemInput) : Except CacheError SerializedItem := do
  let payload := payloadText input.dataset item.value
  let key ← dataPublicationItemKey input.scope input.revision.digits item.name
  return {
    payload := payload
    manifest :=
      [("name", .string item.name), ("key", .string key), ("type", .string "string"),
        ("count", .number (ScriptNumber.ofSafe _ item.count_le).digits),
        ("bytes", .number (ScriptNumber.ofSafe _ (item.bytes_le input.dataset)).digits),
        ("sha256", .string (host.sha256 payload))] }

/-- The items that follow those of the given names. -/
def serializeEach (host : ManifestHost) (input : PublishDataRevisionInput) :
    List String → List DataPublicationItemInput → Except CacheError (List SerializedItem)
  | _, [] => .ok []
  | names, item :: items => do
    throwIf (item.name ∈ names)
      ⟨"Duplicate publication item: " ++ item.name, "DATA_PUBLICATION_ITEM_DUPLICATE"⟩
    let serialized ← serializeItem host input item
    let rest ← serializeEach host input (item.name :: names) items
    return serialized :: rest

/-- `serializeItems`. -/
def serializeItems (host : ManifestHost) (input : PublishDataRevisionInput) :
    Except CacheError (List SerializedItem) := do
  throwIf (input.items.isEmpty = true)
    ⟨"A publication requires at least one item", "DATA_PUBLICATION_ITEMS_EMPTY"⟩
  let serialized ← serializeEach host input [] input.items
  throwIf (¬ (input.items.map (·.name)).Perm (datasetItemNames input.dataset))
    ⟨"Publication item set does not match " ++ input.dataset.text,
      "DATA_PUBLICATION_ITEM_SET_INVALID"⟩
  return serialized

/-- A character of an identifier, in either case. -/
def isHexChar (c : Char) : Bool :=
  c.isDigit || ('a' ≤ c && c ≤ 'f') || ('A' ≤ c && c ≤ 'F')

/-- The characters of an identifier, place by place. -/
def publicationIdPlaces : List (Char → Bool) :=
  List.replicate 8 isHexChar ++ [(· == '-')] ++ List.replicate 4 isHexChar ++
    [(· == '-'), fun c => '1' ≤ c && c ≤ '8'] ++ List.replicate 3 isHexChar ++
    [(· == '-'), (['8', '9', 'a', 'b', 'A', 'B'].contains ·)] ++ List.replicate 3 isHexChar ++
    [(· == '-')] ++ List.replicate 12 isHexChar

/-- `isDataPublicationId`. -/
def isDataPublicationId (text : String) : Bool :=
  text.toList.length = publicationIdPlaces.length &&
    (publicationIdPlaces.zip text.toList).all fun (allowed, c) => allowed c

/-- The text of a state. -/
def stateText : DataPublicationState → String
  | .active => "active"
  | .scheduled => "scheduled"
  | .live => "live"
  | .settled => "settled"

/-- An event or null. -/
def eventValue : Option Decimal → JsValue
  | some eventId => .number eventId
  | none => .null

/-- The field of the last fetch, if there is one. -/
def fetchFields : Option DateValue → Fields
  | some date => [("lastSuccessfulFetchAt", .string date.toISOString)]
  | none => []

/-- The object that `createManifest` returns, at the given time. -/
def manifestObject (input : PublishDataRevisionInput) (sourceCheckedAt now : DateValue)
    (items : List SerializedItem) : Fields :=
  [("dataset", .string input.dataset.text), ("seasonCode", .string input.seasonCode),
    ("eventId", eventValue input.scope.eventId), ("revision", .number input.revision.digits),
    ("publicationId", .string input.publicationId),
    ("sourceCheckedAt", .string sourceCheckedAt.toISOString)] ++
  fetchFields input.lastSuccessfulFetchAt.join ++
  [("publishedAt", .string now.toISOString), ("state", .string (stateText input.state)),
    ("items", .array (items.map fun item => .object item.manifest))]

/-- `createManifest`. -/
def createManifest (input : PublishDataRevisionInput) (now : DateValue)
    (items : List SerializedItem) : Except CacheError Fields := do
  let sourceCheckedAt ← orThrow input.sourceCheckedAt
    ⟨"Invalid publication source timestamp", "DATA_PUBLICATION_SOURCE_TIME_INVALID"⟩
  throwIf (input.lastSuccessfulFetchAt = some none)
    ⟨"Invalid publication successful-fetch timestamp",
      "DATA_PUBLICATION_SUCCESSFUL_FETCH_TIME_INVALID"⟩
  throwIf (isDataPublicationId input.publicationId = false)
    ⟨"Invalid publication ID", "DATA_PUBLICATION_ID_INVALID"⟩
  throwIf (¬ isCanonicalState input.dataset input.state)
    ⟨"Invalid publication state", "DATA_PUBLICATION_STATE_INVALID"⟩
  return manifestObject input sourceCheckedAt now items

/-- What `prepareDataPublication` returns. -/
structure PreparedPublication where
  manifest : Fields
  items : List SerializedItem

/-- `prepareDataPublication`. -/
def prepareDataPublication (host : ManifestHost) (input : PublishDataRevisionInput)
    (now : DateValue) : Except CacheError PreparedPublication := do
  assertScope input.scope
  let items ← serializeItems host input
  let manifest ← createManifest input now items
  return { manifest := manifest, items := items }

/-- The text that is stored of a manifest. -/
def manifestText (manifest : Fields) : String := (JsValue.object manifest).stringify

/-- The manifest that `refreshLiveSnapshotHeartbeat` writes in place of another. -/
def refreshedManifest (manifest : Fields) (lastSuccessfulFetchAt : DateValue) : Fields :=
  JsValue.spread manifest [("lastSuccessfulFetchAt", .string lastSuccessfulFetchAt.toISOString)]

/-! ### Parsing -/

/-- `if (!condition) return null`. -/
def keepIf (condition : Prop) [Decidable condition] : Option Unit :=
  if condition then some () else none

/-- A value that is a text. -/
def asText : Option JsValue → Option String
  | some (.string text) => some text
  | _ => none

/-- A value that is a number. -/
def asNumber : Option JsValue → Option Decimal
  | some (.number number) => some number
  | _ => none

/-- A value that is an array. -/
def asArray : Option JsValue → Option (List JsValue)
  | some (.array items) => some items
  | _ => none

/-- `isRecord`. -/
def asRecord : JsValue → Option Fields
  | .object fields => some fields
  | _ => none

/-- The dataset with a text. -/
def datasetOfText (text : String) : Option DataPublicationDataset :=
  [.core, .live, .market].find? fun dataset : DataPublicationDataset => dataset.text = text

/-- The state with a text. -/
def stateOfText (text : String) : Option DataPublicationState :=
  [.active, .scheduled, .live, .settled].find? fun state => stateText state = text

/-- A text that `new Date` reads as a valid date. -/
def isTimestamp (host : ManifestHost) (text : String) : Bool :=
  (parseDate host.readDate text).isSome

/-- Nothing, or a text that `new Date` reads as a valid date. -/
def isOptionalTimestamp (host : ManifestHost) : Option JsValue → Bool
  | none => true
  | some (.string text) => isTimestamp host text
  | some _ => false

/-- `Number.isInteger(value) && value >= 0`. -/
def isCount (number : Decimal) : Bool :=
  number.doubleValue.any fun value => decide (IsInteger value ∧ 0 ≤ value)

/-- `MANIFEST_FIELDS`. -/
def manifestFields : List String :=
  ["dataset", "seasonCode", "eventId", "revision", "publicationId", "sourceCheckedAt",
    "publishedAt", "state", "items"]

/-- `OPTIONAL_MANIFEST_FIELDS`. -/
def optionalManifestFields : List String := ["lastSuccessfulFetchAt"]

/-- `MANIFEST_ITEM_FIELDS`. -/
def manifestItemFields : List String := ["name", "key", "type", "count", "bytes", "sha256"]

/-- `hasManifestFields`. -/
def hasManifestFields (fields : Fields) : Prop :=
  (fields.map Prod.fst).Perm manifestFields ∨
    (fields.map Prod.fst).Perm (manifestFields ++ optionalManifestFields)

instance (fields : Fields) : Decidable (hasManifestFields fields) :=
  inferInstanceAs (Decidable (_ ∨ _))

/-- The event of a dataset: a live publication has a positive safe integer, the others null. -/
def readEventId : DataPublicationDataset → Option JsValue → Option (Option Decimal)
  | .live, some (.number eventId) =>
    if isPositiveSafeInteger eventId = true then some (some eventId) else none
  | .live, _ => none
  | _, some .null => some none
  | _, _ => none

/-- The name of an item that passes its checks, where items of the given names came before. -/
def readItem (scope : DataPublicationScope) (revision : Decimal) (names : List String)
    (item : JsValue) : Option String := do
  let fields ← asRecord item
  keepIf ((fields.map Prod.fst).Perm manifestItemFields)
  let name ← asText (fields.lookup "name")
  keepIf (isItemName name = true ∧ name ∉ names)
  let type ← asText (fields.lookup "type")
  keepIf (type = "string")
  let key ← asText (fields.lookup "key")
  let itemKey ← (dataPublicationItemKey scope revision name).toOption
  keepIf (key = itemKey)
  let count ← asNumber (fields.lookup "count")
  let bytes ← asNumber (fields.lookup "bytes")
  keepIf (isCount count = true ∧ isCount bytes = true)
  let sha256 ← asText (fields.lookup "sha256")
  keepIf (isSha256 sha256 = true)
  return name

/-- The names of the items, which pass their checks one after the other. -/
def readItems (scope : DataPublicationScope) (revision : Decimal) :
    List String → List JsValue → Option (List String)
  | _, [] => some []
  | names, item :: items => do
    let name ← readItem scope revision names item
    let rest ← readItems scope revision (name :: names) items
    return name :: rest

/-- The scope and the revision of a manifest whose properties pass all checks. -/
def readManifest (host : ManifestHost) (property : String → Option JsValue) :
    Option (DataPublicationScope × Decimal) := do
  let dataset ← (asText (property "dataset")).bind datasetOfText
  let seasonCode ← asText (property "seasonCode")
  let revision ← asNumber (property "revision")
  let publicationId ← asText (property "publicationId")
  let sourceCheckedAt ← asText (property "sourceCheckedAt")
  let publishedAt ← asText (property "publishedAt")
  keepIf (isSeasonCode seasonCode = true ∧ isPositiveSafeInteger revision = true ∧
    isDataPublicationId publicationId = true ∧ isTimestamp host sourceCheckedAt = true ∧
    isOptionalTimestamp host (property "lastSuccessfulFetchAt") = true ∧
    isTimestamp host publishedAt = true)
  let state ← (asText (property "state")).bind stateOfText
  keepIf (isCanonicalState dataset state)
  let items ← asArray (property "items")
  let eventId ← readEventId dataset (property "eventId")
  let scope : DataPublicationScope := ⟨dataset, seasonCode, eventId⟩
  let _ ← (assertScope scope).toOption
  let names ← readItems scope revision [] items
  keepIf (hasAcceptedItemNames dataset names)
  return (scope, revision)

/-- `parseDataPublicationManifest`. -/
def parseDataPublicationManifest (host : ManifestHost) (raw : Option String) : Option Fields := do
  let text ← raw
  keepIf (text ≠ "")
  let value ← JsValue.parse text
  let fields ← asRecord value
  keepIf (hasManifestFields fields)
  let _ ← readManifest host fun name => fields.lookup name
  return fields

/-! ### What passes the checks -/

/-- A check passes when its condition holds. -/
@[simp] theorem keepIf_eq_some {condition : Prop} [Decidable condition] {passed : Unit} :
    keepIf condition = some passed ↔ condition := by
  unfold keepIf
  by_cases h : condition <;> simp [h]

/-- Only texts are texts. -/
@[simp] theorem asText_eq_some {value : Option JsValue} {text : String} :
    asText value = some text ↔ value = some (.string text) := by
  unfold asText
  split <;> simp_all

/-- Only numbers are numbers. -/
@[simp] theorem asNumber_eq_some {value : Option JsValue} {number : Decimal} :
    asNumber value = some number ↔ value = some (.number number) := by
  unfold asNumber
  split <;> simp_all

/-- Only arrays are arrays. -/
@[simp] theorem asArray_eq_some {value : Option JsValue} {items : List JsValue} :
    asArray value = some items ↔ value = some (.array items) := by
  unfold asArray
  split <;> simp_all

/-- Only objects are records. -/
@[simp] theorem asRecord_eq_some {value : JsValue} {fields : Fields} :
    asRecord value = some fields ↔ value = .object fields := by
  unfold asRecord
  split <;> simp_all

/-- A dataset is found by its text. -/
@[simp] theorem datasetOfText_eq_some {text : String} {dataset : DataPublicationDataset} :
    datasetOfText text = some dataset ↔ text = dataset.text := by
  constructor
  · intro h
    unfold datasetOfText at h
    have htext := List.find?_some h
    exact (of_decide_eq_true htext).symm
  · rintro rfl
    cases dataset <;> decide

/-- A state is found by its text. -/
@[simp] theorem stateOfText_eq_some {text : String} {state : DataPublicationState} :
    stateOfText text = some state ↔ text = stateText state := by
  constructor
  · intro h
    unfold stateOfText at h
    have htext := List.find?_some h
    exact (of_decide_eq_true htext).symm
  · rintro rfl
    cases state <;> decide

/-- A step that may throw gives its value. -/
@[simp] theorem toOption_eq_some {Error Value : Type} {step : Except Error Value} {value : Value} :
    step.toOption = some value ↔ step = .ok value := by
  cases step <;> simp [Except.toOption]

/-- Numbers that pass as positive safe integers. -/
theorem isPositiveSafeInteger_digits (number : ScriptNumber) :
    isPositiveSafeInteger number.digits = true ↔ IsSafeInteger number.value ∧ 0 < number.value := by
  rw [isPositiveSafeInteger, number.doubleValue_digits, Option.any_some, decide_eq_true_eq]

/-- An event is told by its value. -/
theorem eventValue_injective : Function.Injective eventValue := by
  rintro (_ | left) (_ | right) h
  · rfl
  · exact nomatch h
  · exact nomatch h
  · rw [JsValue.number.inj h]

/-- The events that pass: null without one, and a positive safe integer with a live publication. -/
theorem readEventId_eq_some {dataset : DataPublicationDataset} {value : Option JsValue}
    {eventId : Option Decimal} :
    readEventId dataset value = some eventId ↔ value = some (eventValue eventId) ∧
      (eventId.isSome = true ↔ dataset = .live) ∧
      ∀ number ∈ eventId, isPositiveSafeInteger number = true := by
  unfold readEventId
  split
  next number =>
    constructor
    · intro h
      split at h
      next hsafe =>
        obtain rfl := Option.some.inj h
        exact ⟨rfl, by simp, by simpa using hsafe⟩
      next => exact nomatch h
    · rintro ⟨hvalue, -, hsafe⟩
      obtain rfl := eventValue_injective (Option.some.inj hvalue : eventValue (some number) = _)
      rw [if_pos (hsafe number rfl)]
  next hother =>
    refine iff_of_false (by simp) fun ⟨hvalue, hlive, _⟩ => ?_
    obtain ⟨number, rfl⟩ := Option.isSome_iff_exists.mp (hlive.mpr rfl)
    exact hother number hvalue
  next hdataset =>
    constructor
    · intro h
      obtain rfl := Option.some.inj h
      exact ⟨rfl, by simpa using hdataset, by simp⟩
    · rintro ⟨hvalue, -, -⟩
      rw [eventValue_injective (Option.some.inj hvalue : eventValue none = _)]
  next hdataset hvalue _ =>
    refine iff_of_false (by simp) fun ⟨hevent, hlive, _⟩ => ?_
    cases eventId with
    | none => exact hvalue hevent
    | some number => exact hdataset (hlive.mp rfl)

/-- The properties of a manifest that pass all checks, for a scope and a revision. -/
structure Accepted (host : ManifestHost) (property : String → Option JsValue)
    (scope : DataPublicationScope) (revision : Decimal) : Prop where
  dataset : property "dataset" = some (.string scope.dataset.text)
  seasonCode : property "seasonCode" = some (.string scope.seasonCode)
  revisionNumber : property "revision" = some (.number revision)
  eventId : readEventId scope.dataset (property "eventId") = some scope.eventId
  publicationId : ∃ text, property "publicationId" = some (.string text) ∧
    isDataPublicationId text = true
  sourceCheckedAt : ∃ text, property "sourceCheckedAt" = some (.string text) ∧
    isTimestamp host text = true
  lastSuccessfulFetchAt : isOptionalTimestamp host (property "lastSuccessfulFetchAt") = true
  publishedAt : ∃ text, property "publishedAt" = some (.string text) ∧
    isTimestamp host text = true
  state : ∃ state, property "state" = some (.string (stateText state)) ∧
    isCanonicalState scope.dataset state
  validRevision : isPositiveSafeInteger revision = true
  validScope : assertScope scope = .ok ()
  items : ∃ items names, property "items" = some (.array items) ∧
    readItems scope revision [] items = some names ∧ hasAcceptedItemNames scope.dataset names

/-- A scope is valid with the code of a season, and with a positive event exactly if it is live. -/
theorem assertScope_eq_ok {scope : DataPublicationScope} :
    assertScope scope = .ok () ↔ isSeasonCode scope.seasonCode = true ∧
      (scope.eventId.isSome = true ↔ scope.dataset = .live) ∧
      ∀ eventId ∈ scope.eventId, isPositiveInteger eventId = true := by
  rw [assertScope, throwIf_bind_eq_ok, Bool.not_eq_false]
  refine and_congr_right fun _ => ?_
  split
  next hlive => rw [throwIf_eq_ok]; cases scope.eventId <;> simp [hlive]
  next hother => rw [throwIf_eq_ok]; cases scope.eventId <;> simp [hother]

/-- A manifest gives a scope and a revision exactly when its properties pass all checks. -/
theorem readManifest_eq_some {host : ManifestHost} {property : String → Option JsValue}
    {scope : DataPublicationScope} {revision : Decimal} :
    readManifest host property = some (scope, revision) ↔
      Accepted host property scope revision := by
  unfold readManifest
  simp only [Option.bind_eq_bind, Option.bind_eq_some_iff, asText_eq_some, asNumber_eq_some,
    asArray_eq_some, datasetOfText_eq_some, stateOfText_eq_some, keepIf_eq_some,
    toOption_eq_some]
  constructor
  · rintro ⟨dataset, ⟨_, hdataset, rfl⟩, seasonCode, hseasonCode, revision, hrevision,
      publicationId, hpublicationId, sourceCheckedAt, hsourceCheckedAt, publishedAt, hpublishedAt,
      -,
      ⟨-, hsafe, hidentifier, hchecked, hfetched, hpublished⟩, state, ⟨_, hstate, rfl⟩, -,
      hcanonical, items, hitems, eventId, heventId, _, hscope, names, hnames, -, haccepted, heq⟩
    obtain ⟨rfl, rfl⟩ := Prod.mk.inj (Option.some.inj heq)
    exact {
      dataset := hdataset
      seasonCode := hseasonCode
      revisionNumber := hrevision
      eventId := heventId
      publicationId := ⟨publicationId, hpublicationId, hidentifier⟩
      sourceCheckedAt := ⟨sourceCheckedAt, hsourceCheckedAt, hchecked⟩
      lastSuccessfulFetchAt := hfetched
      publishedAt := ⟨publishedAt, hpublishedAt, hpublished⟩
      state := ⟨state, hstate, hcanonical⟩
      validRevision := hsafe
      validScope := hscope
      items := ⟨items, names, hitems, hnames, haccepted⟩ }
  · intro h
    obtain ⟨publicationId, hpublicationId, hidentifier⟩ := h.publicationId
    obtain ⟨sourceCheckedAt, hsourceCheckedAt, hchecked⟩ := h.sourceCheckedAt
    obtain ⟨publishedAt, hpublishedAt, hpublished⟩ := h.publishedAt
    obtain ⟨state, hstate, hcanonical⟩ := h.state
    obtain ⟨items, names, hitems, hnames, haccepted⟩ := h.items
    exact ⟨scope.dataset, ⟨_, h.dataset, rfl⟩, scope.seasonCode, h.seasonCode, revision,
      h.revisionNumber, publicationId, hpublicationId, sourceCheckedAt, hsourceCheckedAt,
      publishedAt, hpublishedAt, (), ⟨(assertScope_eq_ok.mp h.validScope).1, h.validRevision,
        hidentifier, hchecked, h.lastSuccessfulFetchAt, hpublished⟩, state, ⟨_, hstate, rfl⟩, (),
      hcanonical, items, hitems, scope.eventId, h.eventId, (), h.validScope, names, hnames, (),
      haccepted, rfl⟩

/-! ### Keys -/

/-- No colon occurs in the text of a number. -/
theorem colon_not_mem_text (number : Decimal) : ':' ∉ number.text.toList := by
  intro hmem
  obtain _ | _ | ⟨-, hchars⟩ := number.wellFormed_text
  exact absurd (hchars _ hmem) (by decide)

/-- No colon occurs in the code of a season. -/
theorem colon_not_mem_seasonCode {text : String} (h : isSeasonCode text = true) :
    ':' ∉ text.toList := by
  intro hmem
  simp only [isSeasonCode, Bool.and_eq_true, decide_eq_true_eq, List.all_eq_true] at h
  exact absurd (h.2 _ hmem) (by decide)

/-- No colon occurs in the text of an event. -/
theorem colon_not_mem_eventText (eventId : Option Decimal) : ':' ∉ (eventText eventId).toList := by
  cases eventId with
  | none => decide
  | some number => exact colon_not_mem_text number

/-- The parts of a key behind the dataset. -/
def keyParts (scope : DataPublicationScope) (revision : Decimal) (itemName : String) :
    List Char :=
  let ending := revision.text.toList ++ ':' :: itemName.toList
  scope.seasonCode.toList ++ ':' ::
    if scope.dataset = .live then (eventText scope.eventId).toList ++ ':' :: ending else ending

/-- A key is given for a valid scope, revision and name, and made of them. -/
theorem dataPublicationItemKey_eq_ok {scope : DataPublicationScope} {revision : Decimal}
    {itemName key : String} :
    dataPublicationItemKey scope revision itemName = .ok key ↔
      isPositiveSafeInteger revision = true ∧ isItemName itemName = true ∧
        assertScope scope = .ok () ∧
        key.toList = "llm:data:".toList ++
          (scope.dataset.text.toList ++ ':' :: keyParts scope revision itemName) := by
  rw [dataPublicationItemKey, throwIf_bind_eq_ok, throwIf_bind_eq_ok, Bool.not_eq_false,
    Bool.not_eq_false, scopePrefix]
  refine and_congr_right fun _ => and_congr_right fun _ => ?_
  cases hscope : assertScope scope with
  | error error => simp [bind, Except.bind]
  | ok passed =>
    simp only [bind, Except.bind, pure, Except.pure, Except.ok.injEq, true_and,
      ← String.toList_inj, keyParts]
    split <;> simp [String.toList_append, eq_comm]

/-- Datasets are told apart by their texts. -/
theorem datasetText_injective : Function.Injective DataPublicationDataset.text := by
  intro left right h
  cases left <;> cases right <;> first | rfl | exact absurd h (by decide)

/-- Datasets are told apart by their texts up to a colon. -/
theorem dataset_inj {left right : DataPublicationDataset} {leftRest rightRest : List Char}
    (h : left.text.toList ++ ':' :: leftRest = right.text.toList ++ ':' :: rightRest) :
    left = right ∧ leftRest = rightRest := by
  cases left <;> cases right <;> simp_all [DataPublicationDataset.text]

/-- A key names one scope, one revision and one item. -/
theorem dataPublicationItemKey_injective {scope other : DataPublicationScope}
    {revision otherRevision : Decimal} {itemName otherName key : String}
    (h : dataPublicationItemKey scope revision itemName = .ok key)
    (hother : dataPublicationItemKey other otherRevision otherName = .ok key) :
    other = scope ∧ otherRevision = revision ∧ otherName = itemName := by
  obtain ⟨-, -, hvalid, hkey⟩ := dataPublicationItemKey_eq_ok.mp h
  obtain ⟨-, -, hotherValid, hotherKey⟩ := dataPublicationItemKey_eq_ok.mp hother
  rw [hkey] at hotherKey
  obtain ⟨hdataset, hparts⟩ := dataset_inj (List.append_cancel_left hotherKey)
  obtain ⟨hseason, hevent, -⟩ := assertScope_eq_ok.mp hvalid
  obtain ⟨hotherSeason, hotherEvent, -⟩ := assertScope_eq_ok.mp hotherValid
  obtain ⟨hseasons, hbehind⟩ := append_cons_injective (colon_not_mem_seasonCode hseason)
    (colon_not_mem_seasonCode hotherSeason) hparts
  obtain ⟨dataset, seasonCode, eventId⟩ := scope
  obtain ⟨otherDataset, otherSeasonCode, otherEventId⟩ := other
  obtain rfl : dataset = otherDataset := hdataset
  obtain rfl : seasonCode = otherSeasonCode := String.toList_inj.mp hseasons
  have hending : eventId = otherEventId ∧ revision.text.toList ++ ':' :: itemName.toList =
      otherRevision.text.toList ++ ':' :: otherName.toList := by
    dsimp only at hbehind hevent hotherEvent
    split at hbehind
    next hlive =>
      obtain ⟨hevents, hending⟩ := append_cons_injective (colon_not_mem_eventText _)
        (colon_not_mem_eventText _) hbehind
      obtain ⟨number, rfl⟩ := Option.isSome_iff_exists.mp (hevent.mpr hlive)
      obtain ⟨otherNumber, rfl⟩ := Option.isSome_iff_exists.mp (hotherEvent.mpr hlive)
      exact ⟨congrArg some (Decimal.text_injective (String.toList_inj.mp hevents)), hending⟩
    next hother =>
      have hnone := Option.not_isSome_iff_eq_none.mp (mt hevent.mp hother)
      have hotherNone := Option.not_isSome_iff_eq_none.mp (mt hotherEvent.mp hother)
      exact ⟨hnone.trans hotherNone.symm, hbehind⟩
  obtain ⟨rfl, hending⟩ := hending
  obtain ⟨hrevisions, hnames⟩ :=
    append_cons_injective (colon_not_mem_text _) (colon_not_mem_text _) hending
  exact ⟨rfl, Decimal.text_injective (String.toList_inj.mp hrevisions).symm,
    (String.toList_inj.mp hnames).symm⟩

/-! ### Accepted manifests -/

/-- An item that passes all checks, under a name that none before it has. -/
structure AcceptedItem (scope : DataPublicationScope) (revision : Decimal) (names : List String)
    (fields : Fields) (name : String) : Prop where
  itemFields : (fields.map Prod.fst).Perm manifestItemFields
  named : fields.lookup "name" = some (.string name)
  validName : isItemName name = true
  newName : name ∉ names
  type : fields.lookup "type" = some (.string "string")
  key : ∃ key, fields.lookup "key" = some (.string key) ∧
    dataPublicationItemKey scope revision name = .ok key
  count : ∃ count, fields.lookup "count" = some (.number count) ∧ isCount count = true
  bytes : ∃ bytes, fields.lookup "bytes" = some (.number bytes) ∧ isCount bytes = true
  sha256 : ∃ digest, fields.lookup "sha256" = some (.string digest) ∧ isSha256 digest = true

/-- An item gives its name exactly when it passes all checks. -/
theorem readItem_eq_some {scope : DataPublicationScope} {revision : Decimal} {names : List String}
    {item : JsValue} {name : String} :
    readItem scope revision names item = some name ↔
      ∃ fields, item = .object fields ∧ AcceptedItem scope revision names fields name := by
  unfold readItem
  simp only [Option.bind_eq_bind, Option.bind_eq_some_iff, asText_eq_some, asNumber_eq_some,
    asRecord_eq_some, keepIf_eq_some, toOption_eq_some]
  refine exists_congr fun fields => and_congr_right fun _ => ?_
  constructor
  · rintro ⟨_, hfields, name, hname, _, ⟨hvalid, hnew⟩, _, htype, _, rfl, key, hkey, _, hitemKey, _,
      rfl, count, hcount, bytes, hbytes, _, ⟨hcounted, hmeasured⟩, digest, hdigest, _, hsha256, heq⟩
    obtain rfl := Option.some.inj heq
    exact ⟨hfields, hname, hvalid, hnew, htype, ⟨key, hkey, hitemKey⟩, ⟨count, hcount, hcounted⟩,
      ⟨bytes, hbytes, hmeasured⟩, ⟨digest, hdigest, hsha256⟩⟩
  · rintro ⟨hfields, hname, hvalid, hnew, htype, ⟨key, hkey, hitemKey⟩, ⟨count, hcount, hcounted⟩,
      ⟨bytes, hbytes, hmeasured⟩, ⟨digest, hdigest, hsha256⟩⟩
    exact ⟨(), hfields, name, hname, (), ⟨hvalid, hnew⟩, _, htype, (), rfl, key, hkey, key,
      hitemKey, (), rfl, count, hcount, bytes, hbytes, (), ⟨hcounted, hmeasured⟩, digest, hdigest,
      (), hsha256, rfl⟩

/-- Every item of a list that passes has the key of its name. -/
theorem exists_key_of_mem {scope : DataPublicationScope} {revision : Decimal}
    {items : List JsValue} {names result : List String}
    (h : readItems scope revision names items = some result) {item : JsValue}
    (hitem : item ∈ items) :
    ∃ fields name key, item = .object fields ∧ fields.lookup "name" = some (.string name) ∧
      fields.lookup "key" = some (.string key) ∧
      dataPublicationItemKey scope revision name = .ok key := by
  induction items generalizing names result with
  | nil => exact absurd hitem List.not_mem_nil
  | cons first items ih =>
    rw [readItems] at h
    simp only [Option.bind_eq_bind, Option.bind_eq_some_iff] at h
    obtain ⟨name, hname, rest, hrest, -⟩ := h
    rcases List.mem_cons.mp hitem with rfl | hmem
    · obtain ⟨fields, rfl, haccepted⟩ := readItem_eq_some.mp hname
      obtain ⟨key, hkey, hitemKey⟩ := haccepted.key
      exact ⟨fields, name, key, rfl, haccepted.named, hkey, hitemKey⟩
    · exact ih hrest hmem

/-- A text is accepted exactly when it is read as an object with the fields of a manifest that pass
all checks. -/
theorem parseDataPublicationManifest_eq_some {host : ManifestHost} {raw : Option String}
    {manifest : Fields} :
    parseDataPublicationManifest host raw = some manifest ↔
      (∃ text, raw = some text ∧ text ≠ "" ∧ JsValue.parse text = some (.object manifest)) ∧
        hasManifestFields manifest ∧
        ∃ scope revision, Accepted host (fun name => manifest.lookup name) scope revision := by
  unfold parseDataPublicationManifest
  simp only [Option.bind_eq_bind, Option.bind_eq_some_iff, asRecord_eq_some, keepIf_eq_some]
  constructor
  · rintro ⟨text, rfl, _, htext, _, hparse, fields, rfl, _, hfields, ⟨scope, revision⟩, hread, heq⟩
    obtain rfl := Option.some.inj heq
    exact ⟨⟨text, rfl, htext, hparse⟩, hfields, scope, revision, readManifest_eq_some.mp hread⟩
  · rintro ⟨⟨text, rfl, htext, hparse⟩, hfields, scope, revision, haccepted⟩
    exact ⟨text, rfl, (), htext, _, hparse, manifest, rfl, (), hfields, (scope, revision),
      readManifest_eq_some.mpr haccepted, rfl⟩

/-- A manifest that has been read is read again of its text if it is accepted. -/
theorem parseDataPublicationManifest_manifestText {host : ManifestHost} {manifest : Fields}
    (hparsed : (JsValue.object manifest).IsParsed) :
    parseDataPublicationManifest host (some (manifestText manifest)) = some manifest ↔
      hasManifestFields manifest ∧
        ∃ scope revision, Accepted host (fun name => manifest.lookup name) scope revision := by
  have hread : JsValue.parse (manifestText manifest) = some (.object manifest) :=
    hparsed.parse_stringify
  have hempty : JsValue.parse "" = none := rfl
  rw [parseDataPublicationManifest_eq_some]
  refine and_iff_right ⟨_, rfl, fun heq => ?_, hread⟩
  rw [heq, hempty] at hread
  exact nomatch hread

end LetletmeData.ManifestTexts
