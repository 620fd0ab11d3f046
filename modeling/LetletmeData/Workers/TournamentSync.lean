import LetletmeData.Jobs.TournamentSync
import LetletmeData.Library.Runs
import Mathlib.Data.Finset.Option

/-!
# The participants of a tournament cascade

Attempts of the six participants, of any number at a time, note their completion and claim the
enqueue of the refresh. Each command to Redis or to the queue may be refused, or carried out
with its reply lost, and a worker may crash between two of them. What is shared is the keys of
the cascade and the refresh jobs in the queue.
-/

namespace LetletmeData

open LetletmeData.Library

/-- What the attempts of a cascade share: its keys, and the milliseconds that identify the
refresh jobs that were added to the queue. -/
structure CascadeShared where
  keys : Finset CascadeKey
  refreshJobs : List ℕ
  deriving DecidableEq

/-- What becomes of a command: a refusal throws before it takes effect, a lost reply after. -/
inductive CommandFate where
  | done
  | refused
  | lostReply
  deriving DecidableEq, Repr

/-- Where an attempt is: the command it sends next. -/
inductive CascadePhase where
  | syncing
  | enqueueingSelectionStats
  | noting (jobKey : CascadeJobKey) (later : List CascadeJobKey)
  | extendingMeta (later : List CascadeJobKey)
  | claiming
  | enqueueing
  | markingDone
  | deletingPending
  | deletingLease
  | releasing
  deriving DecidableEq, Repr

/-- An attempt of a participant, or of the fan-out that starts the cascade. -/
structure CascadeAttempt where
  job : Option CascadeJob
  phase : CascadePhase
  deriving DecidableEq, Repr

/-- What a command leaves an attempt with. -/
inductive CascadeOutcome where
  | continues (phase : CascadePhase)
  | returns
  | throws
  deriving DecidableEq, Repr

/-- The attempt notes what is left to note, then claims. -/
def notesThenClaim : List CascadeJobKey → CascadePhase
  | [] => .claiming
  | jobKey :: later => .noting jobKey later

/-- A participant that has committed notes its own completion. -/
def noteOwn (job : Option CascadeJob) : CascadePhase :=
  notesThenClaim (job.toList.map .completed)

/-- `queue.add` keeps the job that has the identifier. -/
def addRefreshJob (jobs : List ℕ) (now : ℕ) : List ℕ :=
  if now ∈ jobs then jobs else jobs ++ [now]

/-- A command that is refused or whose reply is lost ends as `failed`. -/
def command (fate : CommandFate) (failed : CascadeOutcome)
    (effect : CascadeShared × CascadeOutcome) (shared : CascadeShared) :
    CascadeShared × CascadeOutcome :=
  match fate with
  | .done => effect
  | .refused => (shared, failed)
  | .lostReply => (effect.1, failed)

/-- The effect of a claim, and how the attempt goes on from its result. -/
def claimEffect (shared : CascadeShared) : CascadeShared × CascadeOutcome :=
  let claim := tryClaimCascadeRefresh shared.keys
  ({ shared with keys := claim.1 },
    match cascadeRefreshClaimResult claim.2 with
    | .claimed => .continues .enqueueing
    | .alreadyEnqueued | .notPending => .returns
    | .leaseBusy => .throws)

/-- One command of an attempt. -/
def CascadeAttempt.advance (attempt : CascadeAttempt) (fate : CommandFate) (now : ℕ)
    (shared : CascadeShared) : CascadeShared × CascadeOutcome :=
  match attempt.phase with
  | .syncing =>
    command fate .throws (shared, .continues
      (if attempt.job = some .transfersPost then .enqueueingSelectionStats
        else noteOwn attempt.job)) shared
  | .enqueueingSelectionStats =>
    command fate .throws (shared, .continues (noteOwn attempt.job)) shared
  | .noting jobKey later =>
    command fate .throws
      ({ shared with keys := (noteCascadeStructureComplete shared.keys jobKey).1 },
        .continues (.extendingMeta later)) shared
  | .extendingMeta later => command fate .throws (shared, .continues (notesThenClaim later)) shared
  | .claiming => command fate .throws (claimEffect shared) shared
  -- from here on a failure releases the lease and is thrown again
  | .enqueueing =>
    command fate (.continues .releasing)
      ({ shared with refreshJobs := addRefreshJob shared.refreshJobs now },
        .continues .markingDone) shared
  | .markingDone =>
    command fate (.continues .releasing)
      ({ shared with keys := insert .refreshDone shared.keys }, .continues .deletingPending) shared
  | .deletingPending =>
    command fate (.continues .releasing)
      ({ shared with keys := shared.keys.erase .refreshPending }, .continues .deletingLease) shared
  | .deletingLease =>
    command fate (.continues .releasing)
      ({ shared with keys := shared.keys.erase .refreshLease }, .returns) shared
  | .releasing =>
    command fate .throws ({ shared with keys := shared.keys.erase .refreshLease }, .throws) shared

/-- The jobs the fan-out adds to the queue. -/
def fanOutJobs : List CascadeJob :=
  [.pointsRace, .battleRace, .knockout, .transfersPost, .cupResults]

/-- What the fan-out notes after its jobs have settled: it throws if one could not be added, so
its loop over the first three finds none to note. -/
def enqueueGaps (added : CascadeJob → Bool) : Option (List CascadeJobKey) :=
  if (fanOutJobs.filter fun job => !added job).length > 0 then none
  else some (((fanOutJobs.take 3).filter fun job => !added job).map .enqueueFailed)

/-- A cascade as it runs, with the jobs that have returned from an attempt. -/
structure CascadeWorld where
  shared : CascadeShared
  attempts : List CascadeAttempt
  returned : Finset CascadeJob
  deriving DecidableEq

/-- A cascade before its fan-out. -/
def CascadeWorld.initial : CascadeWorld := ⟨⟨∅, []⟩, [], ∅⟩

/-- What can happen to a cascade. -/
inductive CascadeAction where
  | fanOut (added : CascadeJob → Bool)
  | start (job : CascadeJob)
  | advance (attempt : ℕ) (fate : CommandFate) (now : ℕ)
  | crash (attempt : ℕ)
  | leaseExpires

/-- The cascade after a command of the attempt at the position. -/
def CascadeWorld.settle (world : CascadeWorld) (position : ℕ) (attempt : CascadeAttempt)
    (result : CascadeShared × CascadeOutcome) : CascadeWorld :=
  match result.2 with
  | .continues phase =>
    { world with
      shared := result.1
      attempts := world.attempts.set position { attempt with phase := phase } }
  | .returns =>
    { shared := result.1
      attempts := world.attempts.eraseIdx position
      returned := world.returned ∪ attempt.job.toFinset }
  | .throws =>
    { world with shared := result.1, attempts := world.attempts.eraseIdx position }

/-- One step of a cascade. -/
def cascadeStep (world : CascadeWorld) : CascadeAction → CascadeWorld
  | .fanOut added =>
    match enqueueGaps added with
    | none => world
    | some gaps => { world with attempts := world.attempts ++ [⟨none, notesThenClaim gaps⟩] }
  | .start job => { world with attempts := world.attempts ++ [⟨some job, .syncing⟩] }
  | .advance position fate now =>
    match world.attempts[position]? with
    | none => world
    | some attempt => world.settle position attempt (attempt.advance fate now world.shared)
  | .crash position => { world with attempts := world.attempts.eraseIdx position }
  | .leaseExpires =>
    { world with shared := { world.shared with keys := world.shared.keys.erase .refreshLease } }

end LetletmeData
