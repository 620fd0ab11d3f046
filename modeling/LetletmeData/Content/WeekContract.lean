import Mathlib.Algebra.Order.Ring.Int
import LetletmeData.Library.JavaScript
import LetletmeData.Library.Transactions

/-!
# The contract of Week publications

An envelope is one locale of a published briefing. Fields with a single admissible value (the
schema version, the scope) are left out; what the types of the other fields leave open is
checked by `assertWeekPublication`, in the order and with the texts of the code. Numbers are
integers, the only ones the checks let pass.
-/

namespace LetletmeData

open LetletmeData.Library

/-- `WEEK_PUBLICATION_SCHEMA_VERSION`. -/
def weekPublicationSchemaVersion : ℤ := 1

/-- `WeekLocale`. -/
inductive WeekLocale where
  | en
  | zhCN
  deriving DecidableEq

/-- `WEEK_LOCALES` are keys of the cache and of the payload table by their texts. -/
def WeekLocale.text : WeekLocale → String
  | en => "en"
  | zhCN => "zh-CN"

/-- `BriefingState`. -/
inductive BriefingState where
  | ready
  | empty
  | stale
  | offseason
  | unavailable
  | removed
  deriving DecidableEq

/-- `WeekEvent`. -/
structure WeekEvent where
  seasonCode : String
  eventId : ℤ
  name : String
  deadlineTime : String
  deriving DecidableEq

/-- `WeekStoryCard`; an optional field is missing, null or a text. -/
structure WeekStoryCard where
  id : String
  slug : String
  storyRevision : ℤ
  title : String
  summary : String
  sourceName : Option (Option String)
  sourceUrl : Option (Option String)
  sourceCheckedAt : Option (Option String)
  expiresAt : Option (Option String)
  deriving DecidableEq

/-- `WeekSection`. -/
structure WeekSection where
  key : String
  title : String
  items : List WeekStoryCard
  deriving DecidableEq

/-- `WeekPublicationEnvelope`. -/
structure WeekPublicationEnvelope where
  revision : ℤ
  publicationId : String
  state : BriefingState
  locale : WeekLocale
  publishedAt : String
  sourceCheckedAt : String
  validUntil : Option String
  event : Option WeekEvent
  featured : List WeekStoryCard
  sections : List WeekSection
  deriving DecidableEq

/-- What the contract takes from its host: the instant `Date.parse` reads, the protocol `new URL`
reads, the JSON text of an envelope with sorted keys, and the SHA-256 digest in hexadecimal. -/
structure WeekHost where
  parseDate : String → Option ℤ
  urlProtocol : String → Option String
  canonicalJson : WeekPublicationEnvelope → String
  sha256 : String → String

/-- `hasInteger`. -/
def hasInteger (value : ℤ) : Prop := value.natAbs ≤ maxSafeInteger

instance (value : ℤ) : Decidable (hasInteger value) := inferInstanceAs (Decidable (_ ≤ _))

/-- A digit, a letter from `a` to `f` or one from `A` to `F`. -/
def isHexCharacter (c : Char) : Bool :=
  c.isDigit || ('a' ≤ c && c ≤ 'f') || ('A' ≤ c && c ≤ 'F')

/-- `UUID_RE`: five groups of hexadecimal digits, of version 1 to 8 and of the RFC variant. -/
def isUuidText (text : String) : Bool :=
  match text.toList.splitOn '-' with
  | [first, second, third, fourth, fifth] =>
    [first.length, second.length, third.length, fourth.length, fifth.length] = [8, 4, 4, 4, 12] &&
      [first, second, third, fourth, fifth].all (·.all isHexCharacter) &&
      third.head?.any (fun c => '1' ≤ c && c ≤ '8') &&
      fourth.head?.any (fun c => ['8', '9', 'a', 'b', 'A', 'B'].contains c)
  | _ => false

/-- `assert(condition, message)`. -/
def assertThat (condition : Prop) [Decidable condition] (message : String) : Except String Unit :=
  throwIf (¬ condition) message

/-- The dates of a story card that are given and not empty can be read. -/
def OptionalDate (host : WeekHost) (value : Option (Option String)) : Prop :=
  ∀ text ∈ value.join, text ≠ "" → (host.parseDate text).isSome

instance (host : WeekHost) (value : Option (Option String)) :
    Decidable (OptionalDate host value) :=
  inferInstanceAs (Decidable (∀ text ∈ value.join, _))

/-- `assertStoryCard`. A URL that cannot be read and one of another protocol throw the same. -/
def assertStoryCard (host : WeekHost) (value : WeekStoryCard) (path : String) :
    Except String Unit := do
  assertThat (value.id ≠ "") (path ++ ".id is required")
  assertThat (value.slug ≠ "") (path ++ ".slug is required")
  assertThat (hasInteger value.storyRevision ∧ 0 < value.storyRevision)
    (path ++ ".storyRevision is invalid")
  assertThat (trimText value.title ≠ "") (path ++ ".title is required")
  assertThat (trimText value.summary ≠ "") (path ++ ".summary is required")
  assertThat (∀ url ∈ value.sourceUrl.join,
      host.urlProtocol url = some "http:" ∨ host.urlProtocol url = some "https:")
    (path ++ ".sourceUrl is invalid")
  assertThat (OptionalDate host value.sourceCheckedAt) (path ++ ".sourceCheckedAt is invalid")
  assertThat (OptionalDate host value.expiresAt) (path ++ ".expiresAt is invalid")

/-- The checks on the event of an envelope. -/
def assertWeekEvent (host : WeekHost) (validUntil : Option String) (event : WeekEvent) :
    Except String Unit := do
  assertThat (event.seasonCode.toList.length = 4 ∧ event.seasonCode.toList.all Char.isDigit)
    "Invalid season code"
  assertThat (hasInteger event.eventId ∧ 0 < event.eventId) "Invalid event ID"
  assertThat (event.name ≠ "") "Invalid event name"
  assertThat (host.parseDate event.deadlineTime).isSome "Invalid deadline time"
  assertThat (∀ text ∈ validUntil, ∀ validMs ∈ host.parseDate text,
      ∀ deadlineMs ∈ host.parseDate event.deadlineTime, validMs ≤ deadlineMs)
    "validUntil exceeds deadline"

/-- The checks on one section, at its index. -/
def assertWeekSection (host : WeekHost) (value : WeekSection × ℕ) : Except String Unit := do
  let path := "sections[" ++ toString value.2 ++ "]"
  assertThat (value.1.key ≠ "") (path ++ ".key is required")
  assertThat (value.1.title ≠ "") (path ++ ".title is required")
  value.1.items.zipIdx.forM fun item =>
    assertStoryCard host item.1 (path ++ ".items[" ++ toString item.2 ++ "]")

/-- `assertWeekPublication`. -/
def assertWeekPublication (host : WeekHost) (value : WeekPublicationEnvelope) :
    Except String Unit := do
  assertThat (hasInteger value.revision ∧ 0 < value.revision) "Invalid Week revision"
  assertThat (isUuidText value.publicationId) "Invalid publication ID"
  assertThat (host.parseDate value.publishedAt).isSome "Invalid publishedAt"
  assertThat (host.parseDate value.sourceCheckedAt).isSome "Invalid sourceCheckedAt"
  assertThat (∀ text ∈ value.validUntil, (host.parseDate text).isSome) "Invalid validUntil"
  value.event.forM (assertWeekEvent host value.validUntil)
  value.featured.zipIdx.forM fun item =>
    assertStoryCard host item.1 ("featured[" ++ toString item.2 ++ "]")
  value.sections.zipIdx.forM (assertWeekSection host)

/-- `serializeWeekPublication`. -/
def serializeWeekPublication (host : WeekHost) (value : WeekPublicationEnvelope) :
    Except String String := do
  assertWeekPublication host value
  return host.canonicalJson value

/-- `weekPublicationSha256`. -/
def weekPublicationSha256 (host : WeekHost) (value : WeekPublicationEnvelope) :
    Except String String := do
  let serialized ← serializeWeekPublication host value
  return host.sha256 serialized

/-- The stories of an envelope with the place each of them has. -/
def storyOrder (value : WeekPublicationEnvelope) : List String :=
  (value.featured.map fun item => "featured:" ++ item.id ++ ":" ++ toString item.storyRevision) ++
    value.sections.flatMap fun part =>
      part.items.map fun item => part.key ++ ":" ++ item.id ++ ":" ++ toString item.storyRevision

/-- The stories of an envelope. -/
def storyKeys (value : WeekPublicationEnvelope) : List String :=
  (value.featured ++ value.sections.flatMap (·.items)).map fun item =>
    item.id ++ ":" ++ toString item.storyRevision

/-- The first key of a list that occurs again. -/
def firstRepeated : List String → List String → Option String
  | _, [] => none
  | seen, key :: rest => if key ∈ seen then some key else firstRepeated (key :: seen) rest

/-- `validateWeekLocalePair`. -/
def validateWeekLocalePair (host : WeekHost) (english chinese : WeekPublicationEnvelope) :
    Except String Unit := do
  assertWeekPublication host english
  assertWeekPublication host chinese
  assertThat (english.locale = .en ∧ chinese.locale = .zhCN)
    "Week locale pair must be en and zh-CN"
  assertThat (english.revision = chinese.revision) "Week locales must share a revision"
  assertThat (english.publicationId = chinese.publicationId) "Week locales must share a publication"
  assertThat (english.state = chinese.state) "Week locales must share state"
  assertThat (english.event = chinese.event) "Week locales must share event"
  assertThat (english.validUntil = chinese.validUntil) "Week locales must share validUntil"
  assertThat (storyOrder english = storyOrder chinese) "Week locales must share story order"
  (firstRepeated [] (storyKeys english)).forM fun key =>
    .error ("Week publication contains duplicate story " ++ key)

end LetletmeData
