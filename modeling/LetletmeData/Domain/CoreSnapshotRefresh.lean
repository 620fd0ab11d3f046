import LetletmeData.Library.IsoTimestamps
import LetletmeData.Library.JsonTexts

/-!
# Refresh of the core snapshot

The lifecycle of the current event and of its fixtures, as it is stored and as the core publication
shows it: why the publication has to be refreshed, and the period of the repair. Times are
milliseconds.
-/

namespace LetletmeData

open LetletmeData.Library

/-- `CoreSnapshotRefreshReason`. -/
inductive CoreSnapshotRefreshReason where
  | missingPublication
  | eventId
  | eventLifecycle
  | fixtureLifecycle
  | kickoffCutover
  deriving DecidableEq

/-- The text of a reason. -/
def CoreSnapshotRefreshReason.text : CoreSnapshotRefreshReason → String
  | .missingPublication => "missing-publication"
  | .eventId => "event-id"
  | .eventLifecycle => "event-lifecycle"
  | .fixtureLifecycle => "fixture-lifecycle"
  | .kickoffCutover => "kickoff-cutover"

/-- `CurrentEventLifecycle`. -/
structure CurrentEventLifecycle where
  id : ℕ
  isPrevious : Bool
  isCurrent : Bool
  isNext : Bool
  finished : Bool
  dataChecked : Bool
  deriving DecidableEq

/-- `CurrentFixtureLifecycle`. -/
structure CurrentFixtureLifecycle where
  id : ℕ
  event : Option ℕ
  kickoffTime : Option ℕ
  started : Option Bool
  finished : Bool
  finishedProvisional : Bool
  deriving DecidableEq

/-- `CorePublicationLifecycle`. -/
structure CorePublicationLifecycle where
  currentEventId : Option ℕ
  events : List CurrentEventLifecycle
  fixtures : List CurrentFixtureLifecycle
  deriving DecidableEq

/-- `KICKOFF_CUTOVER_REFRESH_WINDOW_MS`. -/
def kickoffCutoverRefreshWindowMs : ℕ := 20 * 60000

/-- `fixtureLifecycleKey`; `join` writes nothing for `null`. -/
def fixtureLifecycleKey (fixture : CurrentFixtureLifecycle) : String :=
  ":".intercalate
    [toString fixture.id, (fixture.event.map toString).getD "",
      (fixture.started.map toString).getD "", toString fixture.finished,
      toString fixture.finishedProvisional]

/-- The text of an object with its fields in order. -/
def objectInOrder (fields : List (String × List Char)) : List Char :=
  '{' :: (commaJoined (fields.map fieldText) ++ ['}'])

/-- The text of a value that may be `null`. -/
def textOrNull (value : Option (List Char)) : List Char := value.getD "null".toList

/-- The target of a repair as it is hashed. -/
def reconcileTarget (current : CurrentEventLifecycle)
    (currentFixtures : List CurrentFixtureLifecycle) (reason : CoreSnapshotRefreshReason) :
    String :=
  let event := objectInOrder
    [("id", (toString current.id).toList), ("isPrevious", (toString current.isPrevious).toList),
      ("isCurrent", (toString current.isCurrent).toList),
      ("isNext", (toString current.isNext).toList),
      ("finished", (toString current.finished).toList),
      ("dataChecked", (toString current.dataChecked).toList)]
  let fixtures := (currentFixtures.insertionSort fun left right => left.id ≤ right.id).map
    fun fixture => objectInOrder
      [("id", (toString fixture.id).toList),
        ("event", textOrNull (fixture.event.map fun id => (toString id).toList)),
        ("kickoffTime", textOrNull (fixture.kickoffTime.map fun time => quoted (toISOString time))),
        ("started", textOrNull (fixture.started.map fun started => (toString started).toList)),
        ("finished", (toString fixture.finished).toList),
        ("finishedProvisional", (toString fixture.finishedProvisional).toList)]
  String.ofList (objectInOrder
    [("reason", quoted reason.text), ("event", event),
      ("fixtures", '[' :: (commaJoined fixtures ++ [']']))])

/-- `coreLifecycleReconcilePeriodKey`; `fingerprint` is the start of the SHA-256 digest in hex. -/
def coreLifecycleReconcilePeriodKey (fingerprint : String → String)
    (current : CurrentEventLifecycle) (currentFixtures : List CurrentFixtureLifecycle)
    (reason : CoreSnapshotRefreshReason) : String :=
  "core-lifecycle-" ++ toString current.id ++ "-" ++ reason.text ++ "-" ++
    fingerprint (reconcileTarget current currentFixtures reason)

/-- The published event shows another lifecycle, or none. -/
def eventLifecycleDiffers (current : CurrentEventLifecycle)
    (publication : CorePublicationLifecycle) : Bool :=
  match publication.events.find? (·.id = current.id) with
  | none => true
  | some published =>
    published.isPrevious ≠ current.isPrevious || published.isCurrent ≠ current.isCurrent ||
      published.isNext ≠ current.isNext || published.finished ≠ current.finished ||
      published.dataChecked ≠ current.dataChecked

/-- The published fixtures of the event show other lifecycles than the stored ones. -/
def fixtureLifecycleDiffers (currentFixtures publishedFixtures : List CurrentFixtureLifecycle) :
    Bool :=
  ((currentFixtures.map fixtureLifecycleKey).insertionSort (· ≤ ·)) ≠
    ((publishedFixtures.map fixtureLifecycleKey).insertionSort (· ≤ ·))

/-- The first kickoff has just passed and no published fixture has progressed. -/
def inKickoffCutover (publishedFixtures : List CurrentFixtureLifecycle) (now : ℕ) : Bool :=
  match (publishedFixtures.filterMap (·.kickoffTime)).min? with
  | none => false
  | some firstKickoff =>
    firstKickoff ≤ now && now < firstKickoff + kickoffCutoverRefreshWindowMs &&
      !publishedFixtures.any fun fixture =>
        fixture.started = some true || fixture.finished || fixture.finishedProvisional

/-- `coreSnapshotRefreshReason`. -/
def coreSnapshotRefreshReason (current : Option CurrentEventLifecycle)
    (currentFixtures : List CurrentFixtureLifecycle)
    (publication : Option CorePublicationLifecycle) (now : ℕ) :
    Option CoreSnapshotRefreshReason :=
  match publication with
  | none => some .missingPublication
  | some publication =>
    if publication.currentEventId ≠ current.map (·.id) then some .eventId
    else
      match current with
      | none => none
      | some current =>
        let publishedFixtures := publication.fixtures.filter (·.event = some current.id)
        if eventLifecycleDiffers current publication then some .eventLifecycle
        else if fixtureLifecycleDiffers currentFixtures publishedFixtures then
          some .fixtureLifecycle
        else if inKickoffCutover publishedFixtures now then some .kickoffCutover
        else none

end LetletmeData
