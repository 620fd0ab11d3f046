import Mathlib.Logic.Function.Basic
import LetletmeData.Library.KeyedTables
import LetletmeData.Library.Runs

/-!
# Understat runs

The workers of an Understat run complete or fail its items. Each call updates its item, counts the
items by status and writes the counts and the status they call for to the run, in separate
statements. Timestamps are left out.
-/

namespace LetletmeData

open LetletmeData.Library

/-- `status` of an item. -/
inductive UnderstatItemStatus where
  | pending
  | running
  | failed
  | completed
  | skipped
  deriving DecidableEq

/-- `status` of a run. -/
inductive UnderstatRunStatus where
  | pending
  | running
  | failed
  | completed
  | readyToPublish
  | published
  | skipped
  deriving DecidableEq

/-- `ACTIVE_RUN_STATUSES`. -/
def UnderstatRunStatus.Active (status : UnderstatRunStatus) : Prop :=
  status = .pending ∨ status = .running ∨ status = .readyToPublish

instance UnderstatRunStatus.decidableActive (status : UnderstatRunStatus) :
    Decidable status.Active :=
  inferInstanceAs (Decidable (_ ∨ _ ∨ _))

/-- What identifies an item of a run. -/
structure UnderstatItemKey where
  resourceType : String
  resourceId : String
  deriving DecidableEq

/-- A row of the items of a run; a payload is its text. -/
structure UnderstatItem where
  status : UnderstatItemStatus
  attempts : ℕ
  sourceHash : Option String
  normalizedPayload : Option String
  lastError : Option String
  deriving DecidableEq

/-- The row of a run. -/
structure UnderstatRun where
  status : UnderstatRunStatus
  completedItems : ℕ
  skippedItems : ℕ
  failedItems : ℕ
  errorSummary : Option String
  deriving DecidableEq

/-- The items of a run. -/
abbrev UnderstatItems := KeyedTable UnderstatItemKey UnderstatItem

/-- The items in a status. -/
def UnderstatItems.count (items : UnderstatItems) (status : UnderstatItemStatus) : ℕ :=
  items.entries.countP fun entry => entry.2.status = status

/-- What `refreshRun` counts. -/
structure UnderstatCounts where
  completedItems : ℕ
  skippedItems : ℕ
  failedItems : ℕ
  pendingItems : ℕ
  deriving DecidableEq

/-- `counts` of the items as they are. -/
def UnderstatItems.counts (items : UnderstatItems) : UnderstatCounts where
  completedItems := items.count .completed
  skippedItems := items.count .skipped
  failedItems := items.count .failed
  pendingItems := items.count .pending + items.count .running

/-- `ready`. -/
def UnderstatCounts.Ready (counts : UnderstatCounts) : Prop :=
  counts.pendingItems = 0 ∧ counts.failedItems = 0

instance (counts : UnderstatCounts) : Decidable counts.Ready :=
  inferInstanceAs (Decidable (_ ∧ _))

/-- The status that counts call for. -/
def UnderstatCounts.runStatus (counts : UnderstatCounts) : UnderstatRunStatus :=
  if counts.pendingItems ≠ 0 then .running
  else if 0 < counts.failedItems then .failed
  else .readyToPublish

/-- The calls that touch an item or count the items. -/
inductive UnderstatOperation where
  | completeItem (key : UnderstatItemKey) (sourceHash normalizedPayload : String)
  | failItem (key : UnderstatItemKey) (error : String)
  | refreshRun
  deriving DecidableEq

/-- The answer of a call that ends; `failItem` has none. -/
def UnderstatOperation.answer : UnderstatOperation → Bool → Option Bool
  | .failItem _ _, _ => none
  | _, ready => some ready

/-- Where a call stands: before its next statement, or at its end. -/
inductive UnderstatPhase where
  | idle
  | summarizing (operation : UnderstatOperation) (error : String)
  | counting (operation : UnderstatOperation)
  | writing (operation : UnderstatOperation) (counts : UnderstatCounts)
  | returned (answer : Option Bool)
  deriving DecidableEq

/-- The call is between two of its statements. -/
def UnderstatPhase.InFlight : UnderstatPhase → Prop
  | .idle | .returned _ => False
  | _ => True

instance (phase : UnderstatPhase) : Decidable phase.InFlight :=
  match phase with
  | .idle | .returned _ => isFalse id
  | .summarizing _ _ | .counting _ | .writing _ _ => isTrue trivial

/-- A run with its items and the calls on it. -/
structure UnderstatWorld where
  run : UnderstatRun
  items : UnderstatItems
  calls : ℕ → UnderstatPhase

/-- The statements of the calls, each under the number of its call, and `markItemRunning`. -/
inductive UnderstatAction where
  | updateItem (id : ℕ) (operation : UnderstatOperation)
  | updateSummary (id : ℕ)
  | countItems (id : ℕ)
  | updateRun (id : ℕ)
  | markItemRunning (key : UnderstatItemKey)
  deriving DecidableEq

/-- The item can still be updated: it is neither completed nor skipped, and the run is active. -/
def Unsettled (run : UnderstatRun) (item : UnderstatItem) : Prop :=
  item.status ≠ .completed ∧ item.status ≠ .skipped ∧ run.status.Active

instance (run : UnderstatRun) (item : UnderstatItem) : Decidable (Unsettled run item) :=
  inferInstanceAs (Decidable (_ ∧ _ ∧ _))

namespace UnderstatWorld

/-- `UPDATE` of an item that can still be updated. -/
def writeItem (world : UnderstatWorld) (key : UnderstatItemKey)
    (write : UnderstatItem → UnderstatItem) : UnderstatItems :=
  world.items.updateWhere (fun other item => other = key ∧ Unsettled world.run item) write

/-- The update of an item finds its row. -/
def Updates (world : UnderstatWorld) (key : UnderstatItemKey) : Prop :=
  ∃ item ∈ world.items.find key, Unsettled world.run item

instance (world : UnderstatWorld) (key : UnderstatItemKey) : Decidable (world.Updates key) :=
  inferInstanceAs (Decidable (∃ item ∈ world.items.find key, _))

/-- A call proceeds to a phase. -/
def proceed (world : UnderstatWorld) (id : ℕ) (phase : UnderstatPhase) : UnderstatWorld :=
  { world with calls := Function.update world.calls id phase }

/-- The first statement of a call. -/
def startCall (world : UnderstatWorld) (id : ℕ) : UnderstatOperation → UnderstatWorld
  | .completeItem key sourceHash normalizedPayload =>
    if world.Updates key then
      { world with
        items := world.writeItem key fun item =>
          { item with
            status := .completed, sourceHash := some sourceHash
            normalizedPayload := some normalizedPayload } }.proceed id
        (.counting (.completeItem key sourceHash normalizedPayload))
    else world.proceed id (.returned (some false))
  | .failItem key error =>
    if world.Updates key then
      { world with
        items := world.writeItem key fun item =>
          { item with status := .failed, lastError := some error } }.proceed id
        (.summarizing (.failItem key error) error)
    else world.proceed id (.returned none)
  | .refreshRun => world.proceed id (.counting .refreshRun)

/-- The run after its update with counts. -/
def refreshedRun (run : UnderstatRun) (counts : UnderstatCounts) : UnderstatRun :=
  { run with
    status := counts.runStatus, completedItems := counts.completedItems
    skippedItems := counts.skippedItems, failedItems := counts.failedItems }

/-- One statement. -/
def step (world : UnderstatWorld) : UnderstatAction → UnderstatWorld
  | .updateItem id operation =>
    match world.calls id with
    | .idle => world.startCall id operation
    | _ => world
  | .updateSummary id =>
    match world.calls id with
    | .summarizing operation error =>
      { world with
        run :=
          if world.run.status.Active then { world.run with errorSummary := some error }
          else world.run }.proceed id (.counting operation)
    | _ => world
  | .countItems id =>
    match world.calls id with
    | .counting operation => world.proceed id (.writing operation world.items.counts)
    | _ => world
  | .updateRun id =>
    match world.calls id with
    | .writing operation counts =>
      if world.run.status.Active then
        { world with run := refreshedRun world.run counts }.proceed id
          (.returned (operation.answer (decide counts.Ready)))
      else world.proceed id (.returned (operation.answer false))
    | _ => world
  | .markItemRunning key =>
    { world with
      items := world.writeItem key fun item =>
        { item with status := .running, attempts := item.attempts + 1, lastError := none } }

/-- A run on which no call has started: active but not ready, and none of its items is settled. -/
structure Fresh (world : UnderstatWorld) : Prop where
  status : world.run.status = .pending ∨ world.run.status = .running
  items : world.items.entries ≠ []
  unsettled : ∀ entry ∈ world.items.entries,
    entry.2.status ≠ .completed ∧ entry.2.status ≠ .skipped
  calls : ∀ id, world.calls id = .idle

/-- Every item is completed. -/
def AllCompleted (items : UnderstatItems) : Prop :=
  ∀ entry ∈ items.entries, entry.2.status = .completed

instance (items : UnderstatItems) : Decidable (AllCompleted items) :=
  inferInstanceAs (Decidable (∀ entry ∈ items.entries, _))

/-- Once every item is completed and every call has returned, the run is ready, counts all its items
as completed, and a call has said so. -/
def CompletedExactly (world : UnderstatWorld) : Prop :=
  AllCompleted world.items → (∀ id, ¬ (world.calls id).InFlight) →
    world.run.status = .readyToPublish ∧
      world.run.completedItems = world.items.entries.length ∧
      ∃ id, world.calls id = .returned (some true)

/-- A run that is ready does not return to running. -/
def StaysReady (world : UnderstatWorld) (action : UnderstatAction) : Prop :=
  world.run.status = .readyToPublish → (world.step action).run.status ≠ .running

/-- When all items are completed, a count taken before the last of them is only written while the
run is not ready yet and the count leaves it running. -/
def CountsInTime (world : UnderstatWorld) (action : UnderstatAction) : Prop :=
  ∀ id operation counts, action = .updateRun id → world.calls id = .writing operation counts →
    AllCompleted world.items → world.items.counts ≠ counts →
    counts.pendingItems ≠ 0 ∧ world.run.status ≠ .readyToPublish

end UnderstatWorld

end LetletmeData
