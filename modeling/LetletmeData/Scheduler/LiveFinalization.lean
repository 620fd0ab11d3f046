import LetletmeData.Scheduler.CoreLifecycle
import LetletmeData.Library.KeyedTables

/-!
# Live finalization

A pass reserves the finalization of the current event for every hour of a bounded window after its
last match, once the event is data-checked. Outside the window, and once the deadline of the next
event has passed, the event is left to nobody.
-/

namespace LetletmeData

open LetletmeData.Library

/-- What the finalization reads of an event, with its mark. -/
structure FinalizableEvent where
  deadlineTime : Option ℕ
  finished : Bool
  dataChecked : Bool
  liveSnapshotFinalizedAt : Option ℕ
  deriving DecidableEq

/-- What the finalization reads of a fixture. -/
structure FinalizableFixture where
  event : Option ℕ
  kickoffTime : Option ℕ
  finished : Bool
  deriving DecidableEq

/-- `MATCH_DURATION_MS`. -/
def matchDurationMs : ℕ := 2 * 60 * 60 * 1000

/-- `RESULT_SLOT_MS`. -/
def resultSlotMs : ℕ := 60 * 60 * 1000

/-- `POST_MATCH_RESULTS_WINDOW_MS`. -/
def postMatchResultsWindowMs : ℕ := 24 * 60 * 60 * 1000

/-- The slot of a post-match result: an hour of the window, final once the data is checked. -/
inductive PostMatchResultsSlot where
  | final (hour : ℕ)
  | provisional (hour : ℕ)
  deriving DecidableEq

/-- The text of a slot. -/
def PostMatchResultsSlot.text : PostMatchResultsSlot → String
  | .final hour => "final-" ++ toString hour
  | .provisional hour => "provisional-" ++ toString hour

/-- `getPostMatchResultsSlot`. -/
def getPostMatchResultsSlot (event : FinalizableEvent) (fixtures : List FinalizableFixture)
    (now : ℕ) : Option PostMatchResultsSlot :=
  match (fixtures.filterMap (·.kickoffTime)).max? with
  | none => none
  | some lastKickoff =>
    let matchEndMs := lastKickoff + matchDurationMs
    if now ≤ matchEndMs ∨ matchEndMs + postMatchResultsWindowMs ≤ now then none
    else
      let hour := (now - matchEndMs) / resultSlotMs
      if event.dataChecked then some (.final hour) else some (.provisional hour)

/-- The name of the definition. -/
def liveFinalizationJobName : String := "live-finalization"

/-- The stored events and fixtures, and the obligations. -/
structure LiveFinalizationWorld where
  events : KeyedTable ℕ FinalizableEvent
  fixtures : List FinalizableFixture
  obligations : Obligations

/-- Changes of events and fixtures, calls on the obligations, and passes. -/
inductive LiveFinalizationAction where
  | setEvents (events : KeyedTable ℕ FinalizableEvent)
  | setFixtures (fixtures : List FinalizableFixture)
  | callObligation (key : ObligationKey) (call : ObligationCall)
  | runPass (before after : OtherDefinitions liveFinalizationJobName) (pass : SchedulerPass)

namespace LiveFinalizationWorld

variable (settings : SchedulerSettings)

/-- The current event of a pass. -/
def current (world : LiveFinalizationWorld) (now : ℕ) : Option ℕ :=
  currentEventId (world.events.entries.map fun event => (event.1, event.2.deadlineTime)) now

/-- The stored fixtures of an event. -/
def fixturesOf (world : LiveFinalizationWorld) (eventId : ℕ) : List FinalizableFixture :=
  world.fixtures.filter (·.event = some eventId)

/-- The finalization of an event in a slot. -/
def finalizationPlan (eventId : ℕ) (slot : PostMatchResultsSlot) (now : ℕ) :
    SchedulerObligationPlan where
  scopeKey := settings.seasonCode ++ ":event:" ++ toString eventId
  periodKey := "live-final-" ++ toString eventId ++ "-" ++ slot.text
  dueAt := now
  eventId := some eventId
  terminalStatus := none

/-- `resolve` of the definition. -/
def liveFinalizationPlans (world : LiveFinalizationWorld) (now : ℕ) :
    List SchedulerObligationPlan :=
  match world.current now with
  | none => []
  | some eventId =>
    match world.events.find eventId with
    | none => []
    | some event =>
      match getPostMatchResultsSlot event (world.fixturesOf eventId) now with
      | some (.final hour) => [finalizationPlan settings eventId (.final hour) now]
      | _ => []

/-- The key of the finalization of an event in an hour of its window. -/
def finalizationKey (eventId hour now : ℕ) : ObligationKey :=
  (finalizationPlan settings eventId (.final hour) now).key liveFinalizationJobName

/-- One change, call or pass. -/
def step (world : LiveFinalizationWorld) : LiveFinalizationAction → LiveFinalizationWorld
  | .setEvents events => { world with events := events }
  | .setFixtures fixtures => { world with fixtures := fixtures }
  | .callObligation key call =>
    { world with obligations := world.obligations.call settings.leaseMs key call }
  | .runPass before after pass =>
    { world with
      obligations := world.obligations.runSchedulerPass settings.leaseMs
        (before.definitions ++
          (liveFinalizationJobName, world.liveFinalizationPlans settings pass.now) ::
            after.definitions)
        pass }

/-- The event is final, all its fixtures are finished, and it has no finalization mark. -/
def AwaitsFinalization (world : LiveFinalizationWorld) (eventId : ℕ) : Prop :=
  (∃ event ∈ world.events.find eventId, event.finished = true ∧ event.dataChecked = true ∧
    event.liveSnapshotFinalizedAt = none) ∧
    ∀ fixture ∈ world.fixturesOf eventId, fixture.finished = true

instance (world : LiveFinalizationWorld) (eventId : ℕ) :
    Decidable (world.AwaitsFinalization eventId) :=
  inferInstanceAs (Decidable ((∃ event ∈ world.events.find eventId, _) ∧ _))

/-- The pass is within the window after the last match of the event, in the given hour of it. -/
def InWindow (world : LiveFinalizationWorld) (eventId now hour : ℕ) : Prop :=
  ∃ lastKickoff ∈ ((world.fixturesOf eventId).filterMap (·.kickoffTime)).max?,
    lastKickoff + matchDurationMs < now ∧
      now < lastKickoff + matchDurationMs + postMatchResultsWindowMs ∧
      hour = (now - (lastKickoff + matchDurationMs)) / resultSlotMs

/-- After a pass within its window, the current event that awaits its finalization has open work for
the hour of the pass, unless that work had ended before. -/
def CurrentCovered (world : LiveFinalizationWorld) (action : LiveFinalizationAction) : Prop :=
  ∀ before after pass eventId hour, action = .runPass before after pass →
    world.current pass.now = some eventId → world.AwaitsFinalization eventId →
    world.InWindow eventId pass.now hour →
    ¬ (world.obligations (finalizationKey settings eventId hour pass.now)).Ended →
    ((world.step settings action).obligations
      (finalizationKey settings eventId hour pass.now)).Open

variable {settings} {world : LiveFinalizationWorld}

/-- Within the window a data-checked event has a final slot. -/
theorem slot_of_inWindow {eventId now hour : ℕ} {event : FinalizableEvent}
    (h : world.InWindow eventId now hour) (hchecked : event.dataChecked = true) :
    getPostMatchResultsSlot event (world.fixturesOf eventId) now = some (.final hour) := by
  obtain ⟨lastKickoff, hlast, hstarted, hended, rfl⟩ := h
  have hwithin : ¬ (now ≤ lastKickoff + matchDurationMs ∨
      lastKickoff + matchDurationMs + postMatchResultsWindowMs ≤ now) := by
    omega
  simp only [getPostMatchResultsSlot, Option.mem_def.mp hlast, if_neg hwithin, hchecked, if_true]

/-- A pass plans the finalization of the current event within its window. -/
theorem liveFinalizationPlans_eq (settings : SchedulerSettings) {eventId now hour : ℕ} (hcurrent : world.current now = some eventId)
    (hawaits : world.AwaitsFinalization eventId) (hwindow : world.InWindow eventId now hour) :
    world.liveFinalizationPlans settings now =
      [finalizationPlan settings eventId (.final hour) now] := by
  obtain ⟨⟨event, hevent, -, hchecked, -⟩, -⟩ := hawaits
  have hslot := slot_of_inWindow hwindow hchecked
  simp only [liveFinalizationPlans, hcurrent, Option.mem_def.mp hevent, hslot]

/-- A pass covers the current event. -/
theorem currentCovered (world : LiveFinalizationWorld) (action : LiveFinalizationAction) :
    CurrentCovered settings world action := by
  intro before after pass eventId hour haction hcurrent hawaits hwindow hnot
  have hplans := liveFinalizationPlans_eq settings hcurrent hawaits hwindow
  have hnone : ∀ plan ∈ [finalizationPlan settings eventId (.final hour) pass.now],
      plan.terminalStatus = none := by
    intro plan hplan
    obtain rfl := List.mem_singleton.mp hplan
    rfl
  subst haction
  simp only [step, hplans]
  exact (Obligations.open_runSchedulerPass_iff before.other after.other hnone
    (List.mem_singleton_self _) world.obligations pass).mpr hnot

/-- Event 1 with one match that kicked off at 0, data-checked 30 hours later. -/
def lateDataCheck : LiveFinalizationWorld where
  events := KeyedTable.empty.insertAbsent 1
    { deadlineTime := some 0, finished := true, dataChecked := true
      liveSnapshotFinalizedAt := none }
  fixtures := [{ event := some 1, kickoffTime := some 0, finished := true }]
  obligations := fun _ => .initial

/-- No other definition has plans. -/
def noOtherDefinitions : OtherDefinitions liveFinalizationJobName := ⟨[], fun _ h => by simp at h⟩

/-- The settings of a season; no target is hashed here. -/
def seasonSettings : SchedulerSettings where
  leaseMs := none
  fingerprint := id
  seasonCode := "2526"

end LiveFinalizationWorld

end LetletmeData
