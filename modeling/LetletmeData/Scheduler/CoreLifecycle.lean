import LetletmeData.Domain.CoreSnapshotRefresh
import LetletmeData.Library.Runs
import LetletmeData.Scheduler.SchedulerPass

/-!
# Reconciliation of the core lifecycle

A pass of the scheduler compares the current event with the core publications and reserves a repair
under a fingerprint of the reason and of the target. The reservation is made once: a repair for the
same reason and target that has ended is not opened again, though the state it repaired may have
been left and reached again, or the publication lost again.
-/

namespace LetletmeData

open LetletmeData.Library

/-- The current event of `resolveSchedulerContext`: the one with the latest deadline that has
passed, among the events with their deadlines. -/
def currentEventId (events : List (ℕ × Option ℕ)) (now : ℕ) : Option ℕ :=
  ((events.filter fun event => 0 < event.1 ∧ ∃ deadline ∈ event.2, deadline ≤ now).insertionSort
    fun left right => right.2.getD 0 ≤ left.2.getD 0).head?.map Prod.fst

/-- What passes are run with: the configured lease, the hash of targets and the season. -/
structure SchedulerSettings where
  leaseMs : Option ℕ
  fingerprint : String → String
  seasonCode : String

/-- The name of the definition. -/
def coreLifecycleJobName : String := "core-current-reconcile"

/-- The stored events with their deadlines and the stored fixtures, the publication in Redis,
whether the durable publication can be loaded, and the obligations. -/
structure CoreLifecycleWorld where
  events : List (CurrentEventLifecycle × Option ℕ)
  fixtures : List CurrentFixtureLifecycle
  publication : Option CorePublicationLifecycle
  durablePublication : Bool
  obligations : Obligations

/-- The plans of the other definitions of the registry. -/
structure OtherDefinitions (jobName : String) where
  definitions : List (String × List SchedulerObligationPlan)
  other : ∀ definition ∈ definitions, definition.1 ≠ jobName

/-- Lifecycle changes, losses and publications of the core snapshot, calls of workers and other
schedulers on the obligations, and passes. -/
inductive CoreLifecycleAction where
  | setEvents (events : List (CurrentEventLifecycle × Option ℕ))
  | setFixtures (fixtures : List CurrentFixtureLifecycle)
  | setPublication (publication : Option CorePublicationLifecycle)
  | setDurablePublication (durablePublication : Bool)
  | callObligation (key : ObligationKey) (call : ObligationCall)
  | runPass (before after : OtherDefinitions coreLifecycleJobName) (pass : SchedulerPass)

namespace CoreLifecycleWorld

variable (settings : SchedulerSettings)

/-- The current event of a pass. -/
def current (world : CoreLifecycleWorld) (now : ℕ) : Option CurrentEventLifecycle := do
  let id ← currentEventId (world.events.map fun event => (event.1.id, event.2)) now
  (world.events.find? fun event => event.1.id = id).map Prod.fst

/-- The stored fixtures of an event. -/
def fixturesOf (world : CoreLifecycleWorld) (current : CurrentEventLifecycle) :
    List CurrentFixtureLifecycle :=
  world.fixtures.filter (·.event = some current.id)

/-- Why the core snapshot has to be refreshed. -/
def refreshReason (world : CoreLifecycleWorld) (current : CurrentEventLifecycle) (now : ℕ) :
    Option CoreSnapshotRefreshReason :=
  if world.durablePublication then
    coreSnapshotRefreshReason (some current) (world.fixturesOf current) world.publication now
  else some .missingPublication

/-- The repair for a reason. -/
def reconcilePlan (world : CoreLifecycleWorld) (current : CurrentEventLifecycle) (now : ℕ)
    (reason : CoreSnapshotRefreshReason) : SchedulerObligationPlan where
  scopeKey := settings.seasonCode ++ ":core-lifecycle"
  periodKey := coreLifecycleReconcilePeriodKey settings.fingerprint current
    (world.fixturesOf current) reason
  dueAt := now
  eventId := some current.id
  terminalStatus := none

/-- `resolve` of the definition. -/
def coreLifecyclePlans (world : CoreLifecycleWorld) (now : ℕ) : List SchedulerObligationPlan :=
  match world.current now with
  | none => []
  | some current =>
    match world.refreshReason current now with
    | none => []
    | some reason => [world.reconcilePlan settings current now reason]

/-- The key of the repair for a reason. -/
def reconcileKey (world : CoreLifecycleWorld) (current : CurrentEventLifecycle) (now : ℕ)
    (reason : CoreSnapshotRefreshReason) : ObligationKey :=
  (world.reconcilePlan settings current now reason).key coreLifecycleJobName

/-- One change, call or pass. -/
def step (world : CoreLifecycleWorld) : CoreLifecycleAction → CoreLifecycleWorld
  | .setEvents events => { world with events := events }
  | .setFixtures fixtures => { world with fixtures := fixtures }
  | .setPublication publication => { world with publication := publication }
  | .setDurablePublication durablePublication =>
    { world with durablePublication := durablePublication }
  | .callObligation key call =>
    { world with obligations := world.obligations.call settings.leaseMs key call }
  | .runPass before after pass =>
    { world with
      obligations := world.obligations.runSchedulerPass settings.leaseMs
        (before.definitions ++
          (coreLifecycleJobName, world.coreLifecyclePlans settings pass.now) :: after.definitions)
        pass }

/-- After a pass that finds a mismatch there is open work for its reason and target. -/
def HasOpenWork (world : CoreLifecycleWorld) (action : CoreLifecycleAction) : Prop :=
  ∀ before after pass current reason, action = .runPass before after pass →
    world.current pass.now = some current → world.refreshReason current pass.now = some reason →
    ((world.step settings action).obligations
      (world.reconcileKey settings current pass.now reason)).Open

/-- No repair for the reason and target that a pass finds has ended before. -/
def NotYetRepaired (world : CoreLifecycleWorld) (action : CoreLifecycleAction) : Prop :=
  ∀ before after pass current reason, action = .runPass before after pass →
    world.current pass.now = some current → world.refreshReason current pass.now = some reason →
    ¬ (world.obligations (world.reconcileKey settings current pass.now reason)).Ended

variable {settings} {world : CoreLifecycleWorld}

/-- A mismatch has one plan. -/
theorem coreLifecyclePlans_eq (settings : SchedulerSettings) {now : ℕ} {current : CurrentEventLifecycle}
    {reason : CoreSnapshotRefreshReason} (hcurrent : world.current now = some current)
    (hreason : world.refreshReason current now = some reason) :
    world.coreLifecyclePlans settings now = [world.reconcilePlan settings current now reason] := by
  simp only [coreLifecyclePlans, hcurrent, hreason]

/-- A pass leaves open work exactly when the repair has not ended before. -/
theorem hasOpenWork_iff (action : CoreLifecycleAction) :
    HasOpenWork settings world action ↔ NotYetRepaired settings world action := by
  unfold HasOpenWork NotYetRepaired
  refine forall₅_congr fun before after pass current reason => ?_
  refine forall₃_congr fun haction hcurrent hreason => ?_
  subst haction
  have hplans := coreLifecyclePlans_eq settings hcurrent hreason
  simp only [step, hplans]
  exact Obligations.open_runSchedulerPass_iff before.other after.other
    (fun plan hplan => by
      obtain rfl := List.mem_singleton.mp hplan
      rfl)
    (List.mem_singleton_self _) world.obligations pass

/-- A repair that has ended stays ended, whatever happens afterwards. -/
theorem ended_runSteps {key : ObligationKey} (actions : List CoreLifecycleAction)
    (h : (world.obligations key).Ended) :
    ((runSteps (step settings) world actions).obligations key).Ended := by
  induction actions generalizing world with
  | nil => exact h
  | cons action rest ih =>
    refine ih ?_
    cases action with
    | callObligation other call => exact Obligations.ended_call h other call
    | runPass before after pass => exact Obligations.ended_runSchedulerPass _ pass h
    | _ => exact h

/-- In every history of lifecycle changes, losses and repairs, every pass that finds a mismatch
leaves open work exactly when no repair for the same reason and target had ended before it. -/
theorem coreMismatch_openWork_iff (world : CoreLifecycleWorld)
    (actions : List CoreLifecycleAction) :
    EveryStep (step settings) (HasOpenWork settings) world actions ↔
      EveryStep (step settings) (NotYetRepaired settings) world actions :=
  everyStep_congr (fun _ _ (h : True) => h) (fun _ action _ => hasOpenWork_iff action) world actions
    trivial

/-- Event 1 is current and has no fixtures; the core publication is lost. -/
def lostPublication : CoreLifecycleWorld where
  events :=
    [({ id := 1, isPrevious := false, isCurrent := true, isNext := false, finished := false
        dataChecked := false }, some 0)]
  fixtures := []
  publication := none
  durablePublication := true
  obligations := fun _ => .initial

/-- The publication of event 1. -/
def eventOnePublication : CorePublicationLifecycle where
  currentEventId := some 1
  events :=
    [{ id := 1, isPrevious := false, isCurrent := true, isNext := false, finished := false
       dataChecked := false }]
  fixtures := []

/-- The digest of the target that event 1 has without a publication. -/
def eventOneSettings : SchedulerSettings where
  leaseMs := none
  fingerprint := fun _ => "f0a54d7f0bd2fca5"
  seasonCode := "2526"

/-- The repair of event 1 without a publication. -/
def eventOneRepair : ObligationKey where
  jobName := coreLifecycleJobName
  scopeKey := "2526:core-lifecycle"
  periodKey := "core-lifecycle-1-missing-publication-f0a54d7f0bd2fca5"

/-- No other definition has plans. -/
def noDefinitions : OtherDefinitions coreLifecycleJobName := ⟨[], fun _ h => by simp at h⟩

/-- The repair has succeeded before the publication is lost again. -/
theorem ended_runSteps_lostAgain :
    let succeeded : ObligationState := ⟨some ⟨.succeeded, 0, 1, 1, none, none, none, none⟩, 1, [], []⟩
    ((runSteps (step eventOneSettings) { lostPublication with obligations := fun _ => succeeded }
      [.setPublication none, .runPass noDefinitions noDefinitions
        { now := 1000, claimedAt := 1000, claims := [(eventOneRepair, .enqueued none none)] }]
      ).obligations eventOneRepair).Ended :=
  ended_runSteps _ (by decide)

/-- The publication is lost, repaired and lost again in the same state: the second repair finds the
first one, which has succeeded, and no work is open. -/
theorem coreMismatch_lostAgain :
    let repaired : List CoreLifecycleAction :=
      [.runPass noDefinitions noDefinitions
          { now := 1000, claimedAt := 1000, claims := [(eventOneRepair, .enqueued none none)] },
        .callObligation eventOneRepair (.complete .succeeded none),
        .setPublication (some eventOnePublication), .setPublication none]
    let second : CoreLifecycleAction :=
      .runPass noDefinitions noDefinitions { now := 2000, claimedAt := 2000, claims := [] }
    let world := runSteps (step eventOneSettings) lostPublication repaired
    world.publication = none ∧
      ((world.step eventOneSettings second).obligations eventOneRepair).Ended ∧
      ¬ EveryStep (step eventOneSettings) (HasOpenWork eventOneSettings) lostPublication
        (repaired ++ [second]) := by
  intro repaired second world
  have hended : ((world.step eventOneSettings second).obligations eventOneRepair).Ended := by
    decide +kernel
  refine ⟨rfl, hended, fun hopen => ?_⟩
  have hlast : HasOpenWork eventOneSettings world second :=
    ((everyStep_append lostPublication repaired _).mp hopen).2.1
  have hcurrent : world.current 2000 = some
      { id := 1, isPrevious := false, isCurrent := true, isNext := false, finished := false
        dataChecked := false } := by
    decide +kernel
  have hwork := hlast noDefinitions noDefinitions _ _ .missingPublication rfl hcurrent rfl
  exact hwork.not_ended hended

end CoreLifecycleWorld

end LetletmeData
