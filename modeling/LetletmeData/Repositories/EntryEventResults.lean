import Mathlib.Algebra.Order.Ring.Int

/-!
# Stored event results of entries

The rows of `competition.entry_event_results` with their picks, one per entry and event,
and the reads the tournament services make of them.
-/

namespace LetletmeData

/-- One selected player. -/
structure EntryEventPick where
  element : ℕ
  position : ℕ
  deriving DecidableEq

/-- The result of an entry in an event. -/
structure EntryEventResult where
  entryId : ℕ
  eventId : ℕ
  eventPoints : ℤ
  eventTransfersCost : ℤ
  eventNetPoints : ℤ
  eventRank : Option ℕ
  overallRank : ℕ
  eventChip : Option String
  eventPicks : List EntryEventPick
  deriving DecidableEq

/-- The totals of an entry over a window of events. -/
structure EntryTotals where
  totalPoints : ℤ
  totalTransfersCost : ℤ
  totalNetPoints : ℤ
  deriving DecidableEq

/-- The results of the given entries in an event. -/
def findByEventAndEntryIds (results : List EntryEventResult) (eventId : ℕ) (entryIds : List ℕ) :
    List EntryEventResult :=
  results.filter fun result => result.eventId = eventId && entryIds.contains result.entryId

/-- The result of an entry in an event. -/
def eventResultOf (results : List EntryEventResult) (eventId entryId : ℕ) :
    Option EntryEventResult :=
  results.find? fun result => result.eventId = eventId && result.entryId = entryId

/-- The totals of an entry from one event to another; an entry without results totals zero. -/
def aggregateTotalsByEntry (results : List EntryEventResult) (startEventId endEventId entryId : ℕ) :
    EntryTotals :=
  let rows := results.filter fun result =>
    result.entryId = entryId && startEventId ≤ result.eventId && result.eventId ≤ endEventId
  { totalPoints := (rows.map EntryEventResult.eventPoints).sum
    totalTransfersCost := (rows.map EntryEventResult.eventTransfersCost).sum
    totalNetPoints := (rows.map EntryEventResult.eventNetPoints).sum }

end LetletmeData
