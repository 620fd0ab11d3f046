import Mathlib.Algebra.Order.Floor.Ring
import Mathlib.Data.Rat.Floor
import LetletmeData.Library.JavaScript
import LetletmeData.Library.JsonTexts
import LetletmeData.Library.Transactions

/-!
# Acquisition items

An adapter reports what it found at an endpoint as a batch of items. An item is identified by the
hash of its canonical payload, which holds the key of the endpoint beside the facts of the item.
-/

namespace LetletmeData

open LetletmeData.Library

/-! ### What the canonical form takes from the language -/

/-- The parts of a `URL` that the canonical form reads or writes; `others` are all the others. -/
structure UrlParts where
  protocol : String
  hostname : String
  hash : String
  searchParams : List (String × String)
  others : String
  deriving DecidableEq

/-- Functions of the language and its libraries on texts. -/
structure ContentTexts where
  normalizeNfc : String → String
  toLowerCase : String → String
  localeCompare : String → String → Ordering
  isIsoTimestamp : String → Bool
  dateParse : String → Option ℤ
  numberText : ℚ → String
  parseUrl : String → Option UrlParts
  urlText : UrlParts → String
  sha256 : String → String

variable (texts : ContentTexts)

/-- `\p{White_Space}`. -/
def isWhiteSpace (c : Char) : Bool :=
  (0x09 ≤ c.toNat && c.toNat ≤ 0x0D) || (0x2000 ≤ c.toNat && c.toNat ≤ 0x200A) ||
    [0x20, 0x85, 0xA0, 0x1680, 0x2028, 0x2029, 0x202F, 0x205F, 0x3000].contains c.toNat

/-- `replace(/\p{White_Space}+/gu, ' ')`; the flag tells whether a space was just written. -/
def collapseWhiteSpace : Bool → List Char → List Char
  | _, [] => []
  | spaced, c :: rest =>
    if isWhiteSpace c then
      if spaced then collapseWhiteSpace true rest else ' ' :: collapseWhiteSpace true rest
    else c :: collapseWhiteSpace false rest

/-- `normalizeCanonicalText`. -/
def normalizeCanonicalText (value : String) : String :=
  trimText (String.ofList (collapseWhiteSpace false (texts.normalizeNfc value).toList))

/-- `sha256CanonicalJson`. -/
def sha256CanonicalJson (value : Json) : String := texts.sha256 value.canonicalText

/-- `TRACKING_PARAMETERS`. -/
def trackingParameters : List String :=
  ["fbclid", "gclid", "mc_cid", "mc_eid", "utm_campaign", "utm_content", "utm_medium",
    "utm_source", "utm_term"]

/-- `canonicalizePublicUrl`. It is only called with the addresses of accepted items, which all
parse. -/
def canonicalizePublicUrl (value : String) : String :=
  match texts.parseUrl value with
  | none => value
  | some url =>
    texts.urlText { url with
      hash := ""
      hostname := texts.toLowerCase url.hostname
      searchParams := url.searchParams.filter fun parameter =>
        texts.toLowerCase parameter.1 ∉ trackingParameters }

/-- `nullableText`. -/
def nullableText (value : Option String) : Option String :=
  (value.map (normalizeCanonicalText texts)).filter (· ≠ "")

/-! ### Items -/

/-- `linkAvailability`. -/
inductive LinkAvailability where
  | direct
  | sourceLanding
  | missing
  deriving DecidableEq

/-- The text of an availability. -/
def LinkAvailability.text : LinkAvailability → String
  | direct => "DIRECT"
  | sourceLanding => "SOURCE_LANDING"
  | missing => "MISSING"

/-- `contentKind`. -/
inductive ContentKind where
  | post
  | article
  | episode
  | video
  deriving DecidableEq

/-- The text of a kind. -/
def ContentKind.text : ContentKind → String
  | post => "POST"
  | article => "ARTICLE"
  | episode => "EPISODE"
  | video => "VIDEO"

/-- `body.availability`. -/
inductive BodyAvailability where
  | full
  | excerpt
  | metadataOnly
  deriving DecidableEq

/-- The text of an availability. -/
def BodyAvailability.text : BodyAvailability → String
  | full => "FULL"
  | excerpt => "EXCERPT"
  | metadataOnly => "METADATA_ONLY"

/-- `body`. -/
structure ItemBody where
  availability : BodyAvailability
  text : Option String
  deriving DecidableEq

/-- `media.kind`. -/
inductive MediaKind where
  | image
  | audio
  | video
  | transcript
  | other
  deriving DecidableEq

/-- The text of a kind. -/
def MediaKind.text : MediaKind → String
  | image => "IMAGE"
  | audio => "AUDIO"
  | video => "VIDEO"
  | transcript => "TRANSCRIPT"
  | other => "OTHER"

/-- An entry of `media`. -/
structure ItemMedia where
  kind : MediaKind
  url : String
  mimeType : Option String
  durationSeconds : Option ℚ
  deriving DecidableEq

/-- `mediaStatus`. -/
inductive MediaStatus where
  | found
  | checkedNone
  | unavailable
  deriving DecidableEq

/-- The text of a status. -/
def MediaStatus.text : MediaStatus → String
  | found => "FOUND"
  | checkedNone => "CHECKED_NONE"
  | unavailable => "UNAVAILABLE"

/-- `transcript.status`. -/
inductive TranscriptStatus where
  | notApplicable
  | provided
  | generated
  | pending
  | unavailable
  | deferred
  | failed
  deriving DecidableEq

/-- The text of a status. -/
def TranscriptStatus.text : TranscriptStatus → String
  | notApplicable => "NOT_APPLICABLE"
  | provided => "PROVIDED"
  | generated => "GENERATED"
  | pending => "PENDING"
  | unavailable => "UNAVAILABLE"
  | deferred => "DEFERRED"
  | failed => "FAILED"

/-- `transcript.trackKind`. -/
inductive TrackKind where
  | manual
  | auto
  | unknown
  deriving DecidableEq

/-- The text of a kind. -/
def TrackKind.text : TrackKind → String
  | manual => "MANUAL"
  | auto => "AUTO"
  | unknown => "UNKNOWN"

/-- An entry of `transcript.segments`. -/
structure TranscriptSegment where
  startMs : ℕ
  endMs : ℕ
  text : String
  deriving DecidableEq

/-- `transcript`. -/
structure ItemTranscript where
  status : TranscriptStatus
  language : Option String
  trackKind : Option TrackKind
  providerRevision : Option String
  segments : List TranscriptSegment
  deriving DecidableEq

/-- `video.lifecycleState`. -/
inductive LifecycleState where
  | upcoming
  | live
  | finished
  | unknown
  deriving DecidableEq

/-- The text of a state. -/
def LifecycleState.text : LifecycleState → String
  | upcoming => "UPCOMING"
  | live => "LIVE"
  | finished => "FINISHED"
  | unknown => "UNKNOWN"

/-- `video`. -/
structure VideoState where
  lifecycleState : LifecycleState
  durationSeconds : Option ℕ
  captionsAvailable : Option Bool
  scheduledStartAt : Option String
  actualStartAt : Option String
  actualEndAt : Option String
  providerRevision : String
  deriving DecidableEq

/-- Everything an item says except which endpoint reported it. -/
structure ItemFacts where
  externalItemId : String
  canonicalUrl : Option String
  sourceUrl : Option String
  linkAvailability : LinkAvailability
  publishedAt : Option String
  updatedAt : Option String
  title : Option String
  authorExternalId : Option String
  contentKind : ContentKind
  body : ItemBody
  media : List ItemMedia
  mediaStatus : Option MediaStatus
  transcript : ItemTranscript
  video : Option VideoState
  deriving DecidableEq

/-- `AcquisitionItemV1`. -/
structure AcquisitionItem extends ItemFacts where
  endpointKey : String
  deriving DecidableEq

/-- The payload of `canonicalAcquisitionItem`. -/
structure CanonicalPayload where
  endpointKey : String
  facts : ItemFacts
  deriving DecidableEq

/-! ### The canonical payload -/

/-- The canonical form of facts. -/
def canonicalFacts (item : ItemFacts) : ItemFacts where
  externalItemId := normalizeCanonicalText texts item.externalItemId
  canonicalUrl := (item.canonicalUrl.filter (· ≠ "")).map (canonicalizePublicUrl texts)
  sourceUrl := (item.sourceUrl.filter (· ≠ "")).map (canonicalizePublicUrl texts)
  linkAvailability := item.linkAvailability
  publishedAt := item.publishedAt
  updatedAt := item.updatedAt
  title := nullableText texts item.title
  authorExternalId := nullableText texts item.authorExternalId
  contentKind := item.contentKind
  body := { item.body with text := nullableText texts item.body.text }
  media :=
    (item.media.map fun media =>
      { media with
        url := canonicalizePublicUrl texts media.url
        mimeType := nullableText texts media.mimeType }).insertionSort
      fun left right => texts.localeCompare left.url right.url ≠ .gt
  mediaStatus := item.mediaStatus
  transcript :=
    { item.transcript with
      language := nullableText texts item.transcript.language
      providerRevision := nullableText texts item.transcript.providerRevision
      segments := item.transcript.segments.map fun segment =>
        { segment with text := normalizeCanonicalText texts segment.text } }
  video := item.video

/-- The payload of `canonicalAcquisitionItem`. -/
def canonicalAcquisitionItem (item : AcquisitionItem) : CanonicalPayload where
  endpointKey := item.endpointKey
  facts := canonicalFacts texts item.toItemFacts

/-- A value that may be `null`. -/
def nullable {Value : Type} (json : Value → Json) : Option Value → Json
  | none => .null
  | some value => json value

/-- The value of an entry of `media`. -/
def ItemMedia.json (media : ItemMedia) : Json :=
  .object [("kind", .string media.kind.text), ("url", .string media.url),
    ("mimeType", nullable .string media.mimeType),
    ("durationSeconds", nullable (fun seconds => .number (texts.numberText seconds))
      media.durationSeconds)]

/-- The value of a segment. -/
def TranscriptSegment.json (segment : TranscriptSegment) : Json :=
  .object [("startMs", .number (texts.numberText segment.startMs)),
    ("endMs", .number (texts.numberText segment.endMs)), ("text", .string segment.text)]

/-- The value of `transcript`. -/
def ItemTranscript.json (transcript : ItemTranscript) : Json :=
  .object [("status", .string transcript.status.text),
    ("language", nullable .string transcript.language),
    ("trackKind", nullable (fun kind => .string kind.text) transcript.trackKind),
    ("providerRevision", nullable .string transcript.providerRevision),
    ("segments", .array (transcript.segments.map (TranscriptSegment.json texts)))]

/-- The value of `video`. -/
def VideoState.json (video : VideoState) : Json :=
  .object [("lifecycleState", .string video.lifecycleState.text),
    ("durationSeconds", nullable (fun seconds : ℕ => .number (texts.numberText seconds))
      video.durationSeconds),
    ("captionsAvailable", nullable .bool video.captionsAvailable),
    ("scheduledStartAt", nullable .string video.scheduledStartAt),
    ("actualStartAt", nullable .string video.actualStartAt),
    ("actualEndAt", nullable .string video.actualEndAt),
    ("providerRevision", .string video.providerRevision)]

/-- The fields of the payload after the endpoint. -/
def ItemFacts.fields (facts : ItemFacts) : List (String × Json) :=
  [("externalItemId", .string facts.externalItemId),
    ("canonicalUrl", nullable .string facts.canonicalUrl),
    ("sourceUrl", nullable .string facts.sourceUrl),
    ("linkAvailability", .string facts.linkAvailability.text),
    ("publishedAt", nullable .string facts.publishedAt),
    ("updatedAt", nullable .string facts.updatedAt),
    ("title", nullable .string facts.title),
    ("authorExternalId", nullable .string facts.authorExternalId),
    ("contentKind", .string facts.contentKind.text),
    ("body", .object [("availability", .string facts.body.availability.text),
      ("text", nullable .string facts.body.text)]),
    ("media", .array (facts.media.map (ItemMedia.json texts))),
    ("transcript", facts.transcript.json texts),
    ("video", nullable (VideoState.json texts) facts.video)] ++
  match facts.mediaStatus with
  | none => []
  | some status => [("mediaStatus", .string status.text)]

/-- The payload as a value. -/
def CanonicalPayload.json (payload : CanonicalPayload) : Json :=
  .object ([("schemaVersion", .number (texts.numberText 1))] ++
    ("endpointKey", .string payload.endpointKey) :: payload.facts.fields texts)

/-- The hash of a payload. -/
def CanonicalPayload.hash (payload : CanonicalPayload) : String :=
  sha256CanonicalJson texts (payload.json texts)

/-! ### Batches -/

/-- `validator` of a batch. -/
structure BatchValidator where
  etag : Option String
  lastModified : Option String
  providerCursor : Option String
  cacheNotBefore : Option String
  deriving DecidableEq

/-- `AcquisitionBatchV1`. -/
structure AcquisitionBatch where
  endpointKey : String
  checkedAt : String
  validator : BatchValidator
  transportBodyHash : Option String
  items : List AcquisitionItem
  deriving DecidableEq

/-- A text of so many characters. -/
def HasLength (least most : ℕ) (value : String) : Prop :=
  least ≤ utf16Length value ∧ utf16Length value ≤ most

instance (least most : ℕ) (value : String) : Decidable (HasLength least most value) :=
  inferInstanceAs (Decidable (_ ∧ _))

/-- `publicUrl`. -/
def IsPublicUrl (value : String) : Prop :=
  HasLength 0 4096 value ∧
    ∃ url ∈ texts.parseUrl value, url.protocol = "http:" ∨ url.protocol = "https:"

instance (value : String) : Decidable (IsPublicUrl texts value) :=
  inferInstanceAs (Decidable (_ ∧ ∃ url ∈ texts.parseUrl value, _))

/-- `nonBlankText`. -/
def IsNonBlank (maximum : ℕ) (value : String) : Prop :=
  HasLength 1 maximum value ∧ normalizeCanonicalText texts value ≠ ""

instance (maximum : ℕ) (value : String) : Decidable (IsNonBlank texts maximum value) :=
  inferInstanceAs (Decidable (_ ∧ _))

/-- `mediaSchema`. -/
def ItemMedia.Accepted (media : ItemMedia) : Prop :=
  IsPublicUrl texts media.url ∧ (∀ value ∈ media.mimeType, HasLength 0 255 value) ∧
    ∀ seconds ∈ media.durationSeconds, 0 ≤ seconds ∧ seconds ≤ 24 * 60 * 60

instance (media : ItemMedia) : Decidable (media.Accepted texts) :=
  inferInstanceAs (Decidable (_ ∧ _ ∧ _))

/-- `transcriptSegmentSchema`. -/
def TranscriptSegment.Accepted (segment : TranscriptSegment) : Prop :=
  0 < segment.endMs ∧ IsNonBlank texts 20000 segment.text ∧ segment.startMs < segment.endMs

instance (segment : TranscriptSegment) : Decidable (segment.Accepted texts) :=
  inferInstanceAs (Decidable (_ ∧ _ ∧ _))

/-- `transcriptSchema`. -/
def ItemTranscript.Accepted (transcript : ItemTranscript) : Prop :=
  (∀ value ∈ transcript.language, HasLength 1 64 value) ∧
    (∀ value ∈ transcript.providerRevision, HasLength 1 200 value) ∧
    transcript.segments.length ≤ 20000 ∧
    (∀ segment ∈ transcript.segments, segment.Accepted texts) ∧
    ((transcript.status = .provided ∨ transcript.status = .generated) ↔
      transcript.segments ≠ []) ∧
    transcript.segments.IsChain fun prior segment =>
      prior.startMs ≤ segment.startMs ∧ prior.endMs ≤ segment.endMs

instance (transcript : ItemTranscript) : Decidable (transcript.Accepted texts) :=
  inferInstanceAs (Decidable (_ ∧ _ ∧ _ ∧ _ ∧ _ ∧ _))

/-- `videoStateSchema`. -/
def VideoState.Accepted (video : VideoState) : Prop :=
  (∀ seconds ∈ video.durationSeconds, 0 < seconds ∧ seconds ≤ 24 * 60 * 60) ∧
    (∀ time ∈ video.scheduledStartAt, texts.isIsoTimestamp time) ∧
    (∀ time ∈ video.actualStartAt, texts.isIsoTimestamp time) ∧
    (∀ time ∈ video.actualEndAt, texts.isIsoTimestamp time) ∧
    HasLength 1 200 video.providerRevision ∧
    (video.lifecycleState = .upcoming → video.actualStartAt = none) ∧
    (video.lifecycleState = .live → video.actualStartAt ≠ none) ∧
    (video.lifecycleState ≠ .finished → video.actualEndAt = none)

instance (video : VideoState) : Decidable (video.Accepted texts) :=
  inferInstanceAs (Decidable (_ ∧ _ ∧ _ ∧ _ ∧ _ ∧ _ ∧ _ ∧ _))

/-- The links of an item agree with their availability. -/
def ItemFacts.LinksAgree (item : ItemFacts) : Prop :=
  if item.linkAvailability = .missing then item.canonicalUrl = none ∧ item.sourceUrl = none
  else ∃ url ∈ item.sourceUrl, url ≠ ""

instance (item : ItemFacts) : Decidable item.LinksAgree :=
  inferInstanceAs (Decidable (if item.linkAvailability = .missing then _ ∧ _
    else ∃ url ∈ item.sourceUrl, url ≠ ""))

/-- An update is not dated before the publication; a date that does not parse is not compared. -/
def ItemFacts.DatesAgree (item : ItemFacts) : Prop :=
  ∀ published ∈ item.publishedAt.bind texts.dateParse,
    ∀ updated ∈ item.updatedAt.bind texts.dateParse, published ≤ updated

instance (item : ItemFacts) : Decidable (item.DatesAgree texts) :=
  inferInstanceAs (Decidable (∀ published ∈ item.publishedAt.bind texts.dateParse,
    ∀ updated ∈ item.updatedAt.bind texts.dateParse, published ≤ updated))

/-- The transcript ends with the first medium whose duration is known, within two seconds. -/
def ItemFacts.TranscriptFits (item : ItemFacts) : Prop :=
  ∀ seconds ∈ (item.media.filterMap (·.durationSeconds)).head?,
    ∀ segment ∈ item.transcript.segments.getLast?,
      (segment.endMs : ℤ) ≤ ⌊seconds * 1000 + 1 / 2⌋ + 2000

instance (item : ItemFacts) : Decidable item.TranscriptFits :=
  inferInstanceAs (Decidable (∀ seconds ∈ (item.media.filterMap (·.durationSeconds)).head?,
    ∀ segment ∈ item.transcript.segments.getLast?,
      (segment.endMs : ℤ) ≤ ⌊seconds * 1000 + 1 / 2⌋ + 2000))

/-- `acquisitionItemV1Schema`. -/
def AcquisitionItem.Accepted (item : AcquisitionItem) : Prop :=
  HasLength 1 100 item.endpointKey ∧ IsNonBlank texts 1024 item.externalItemId ∧
    (∀ url ∈ item.canonicalUrl, IsPublicUrl texts url) ∧
    (∀ url ∈ item.sourceUrl, IsPublicUrl texts url) ∧
    (∀ time ∈ item.publishedAt, texts.isIsoTimestamp time) ∧
    (∀ time ∈ item.updatedAt, texts.isIsoTimestamp time) ∧
    (∀ value ∈ item.title, IsNonBlank texts 2000 value) ∧
    (∀ value ∈ item.authorExternalId, IsNonBlank texts 1024 value) ∧
    (∀ value ∈ item.body.text, IsNonBlank texts (4 * 1024 * 1024) value) ∧
    item.media.length ≤ 64 ∧ (∀ media ∈ item.media, media.Accepted texts) ∧
    item.transcript.Accepted texts ∧ (∀ video ∈ item.video, video.Accepted texts) ∧
    trimText item.endpointKey = item.endpointKey ∧ item.LinksAgree ∧
    (item.body.text ≠ none ↔ item.body.availability ≠ .metadataOnly) ∧
    item.DatesAgree texts ∧ item.TranscriptFits ∧
    (item.contentKind ≠ .video → item.video = none)

instance (item : AcquisitionItem) : Decidable (item.Accepted texts) :=
  inferInstanceAs (Decidable (_ ∧ _ ∧ _ ∧ _ ∧ _ ∧ _ ∧ _ ∧ _ ∧ _ ∧ _ ∧ _ ∧ _ ∧ _ ∧ _ ∧ _ ∧ _ ∧ _ ∧
    _ ∧ _))

/-- `validatorSchema`. -/
def BatchValidator.Accepted (validator : BatchValidator) : Prop :=
  (∀ value ∈ validator.etag, HasLength 0 1024 value) ∧
    (∀ value ∈ validator.lastModified, HasLength 0 1024 value) ∧
    (∀ value ∈ validator.providerCursor, HasLength 0 4096 value) ∧
    ∀ time ∈ validator.cacheNotBefore, texts.isIsoTimestamp time

instance (validator : BatchValidator) : Decidable (validator.Accepted texts) :=
  inferInstanceAs (Decidable (_ ∧ _ ∧ _ ∧ _))

/-- `/^[0-9a-f]{64}$/`. -/
def IsHexDigest (value : String) : Prop :=
  value.toList.length = 64 ∧ ∀ c ∈ value.toList, c.isDigit ∨ 'a' ≤ c ∧ c ≤ 'f'

instance (value : String) : Decidable (IsHexDigest value) :=
  inferInstanceAs (Decidable (_ ∧ _))

/-- `acquisitionBatchV1Schema`. Items with one identifier are compared with the first of them. -/
def AcquisitionBatch.Accepted (batch : AcquisitionBatch) : Prop :=
  HasLength 1 100 batch.endpointKey ∧ texts.isIsoTimestamp batch.checkedAt ∧
    batch.validator.Accepted texts ∧ (∀ hash ∈ batch.transportBodyHash, IsHexDigest hash) ∧
    batch.items.length ≤ 1000 ∧ (∀ item ∈ batch.items, item.Accepted texts) ∧
    (∀ item ∈ batch.items, item.endpointKey = batch.endpointKey) ∧
    batch.items.Pairwise fun first second => first.externalItemId = second.externalItemId →
      (canonicalAcquisitionItem texts first).hash texts =
        (canonicalAcquisitionItem texts second).hash texts

instance (batch : AcquisitionBatch) : Decidable (batch.Accepted texts) :=
  inferInstanceAs (Decidable (_ ∧ _ ∧ _ ∧ _ ∧ _ ∧ _ ∧ _ ∧ _))

/-- `receiptKey`. -/
def receiptKey (sourceKey : String) (contentKind : ContentKind) (externalItemId : String) :
    String :=
  match contentKind with
  | .post => "x:" ++ externalItemId
  | .video => "youtube:" ++ externalItemId
  | .episode => "podcast:" ++ sourceKey ++ ":" ++ externalItemId
  | .article => "article:" ++ sourceKey ++ ":" ++ externalItemId

end LetletmeData
