import LetletmeData.Cache.PublicationManifest
import LetletmeData.Library.KeyedTables
import LetletmeData.Scheduler.SchedulerPass

/-!
# Live snapshot jobs

Two ways lead to the live snapshots of an event. The scheduler reserves an obligation for every
bucket of thirty seconds that it passes in and decides by the place of the bucket whether its job
persists event lives. `enqueueLiveActiveSnapshot` looks for the job of the bucket of ten minutes and
persists when there is none. Jobs wait in one queue, where workers move them on and remove them.
-/

namespace LetletmeData.LiveSnapshotJobs

open LetletmeData.Library

/-- `LiveDataJobSource`. -/
inductive LiveDataJobSource where
  | cron
  | manual
  | cascade
  | catchup
  | reconcile
  deriving DecidableEq

/-- The state of a job in its queue. -/
inductive LiveJobState where
  | waiting
  | waitingChildren
  | delayed
  | active
  | paused
  | completed
  | failed
  deriving DecidableEq

/-- A job id that a caller gives: `live-snapshot-e<event>-periodic-<bucket>` or
`scheduler-<obligation>-g<generation>`. -/
inductive NamedJobId where
  | periodic (eventId bucket : ℕ)
  | scheduler (obligation generation : ℕ)
  deriving DecidableEq

/-- The job ids of the queue: those that callers give, the one-off ids of retries, and those that are
made of the time, or else of the source. -/
inductive LiveJobId where
  | named (seasonCode : String) (jobId : NamedJobId)
  | retry (seasonCode : String) (jobId : NamedJobId) (uuid : String)
  | timed (seasonCode : String) (eventId minuteBucket : ℕ) (persistEventLives : Bool)
  | sourced (seasonCode : String) (eventId : ℕ) (source : LiveDataJobSource)
      (persistEventLives : Bool)
  deriving DecidableEq

/-- A job: what its data says of the snapshot, and its state. -/
structure LiveSnapshotJob where
  seasonId : ℕ
  eventId : ℕ
  source : LiveDataJobSource
  obligationId : Option ℕ
  obligationGeneration : Option ℕ
  persistEventLives : Bool
  finalizeEvent : Option Bool
  state : LiveJobState
  deriving DecidableEq

/-- The jobs of the queue. -/
abbrev LiveDataQueue := KeyedTable LiveJobId LiveSnapshotJob

/-! ### Enqueuing -/

/-- The options of `enqueueLiveSnapshot`, with the time of the call if none is given. -/
structure LiveSnapshotOptions where
  persistEventLives : Option Bool
  finalizeEvent : Option Bool
  now : ℕ
  jobId : Option NamedJobId
  obligationId : Option ℕ
  obligationGeneration : Option ℕ
  reuseExisting : Bool

/-- What the environment adds to a call: a random id, and whether the pending jobs can be read. -/
structure EnqueueConditions where
  uuid : String
  readable : Bool

/-- The states in which `hasSupersedingPendingJob` reads jobs. -/
def LiveJobState.Pending (state : LiveJobState) : Prop :=
  state ∈ [waiting, delayed, active]

instance (state : LiveJobState) : Decidable state.Pending := inferInstanceAs (Decidable (_ ∈ _))

/-- `activeStates`. -/
def LiveJobState.InProgress (state : LiveJobState) : Prop :=
  state ∈ [waiting, waitingChildren, delayed, active, paused]

instance (state : LiveJobState) : Decidable state.InProgress := inferInstanceAs (Decidable (_ ∈ _))

/-- A pending job that makes another one of its event needless. -/
def Supersedes (season : FplSeasonRef) (eventId : ℕ) (persistEventLives finalizeEvent : Bool)
    (job : LiveSnapshotJob) : Prop :=
  job.state.Pending ∧ job.seasonId = season.seasonId ∧ job.eventId = eventId ∧
    if finalizeEvent then job.finalizeEvent = some true
    else persistEventLives = false ∨ job.persistEventLives = true

instance (season : FplSeasonRef) (eventId : ℕ) (persistEventLives finalizeEvent : Bool)
    (job : LiveSnapshotJob) :
    Decidable (Supersedes season eventId persistEventLives finalizeEvent job) :=
  inferInstanceAs (Decidable (_ ∧ _ ∧ _ ∧ _))

/-- `hasSupersedingPendingJob`; jobs that cannot be read count as none. -/
def hasSupersedingPendingJob (queue : LiveDataQueue) (season : FplSeasonRef) (eventId : ℕ)
    (persistEventLives finalizeEvent readable : Bool) : Bool :=
  readable && queue.entries.any fun entry =>
    decide (Supersedes season eventId persistEventLives finalizeEvent entry.2)

/-- `LIVE_SNAPSHOT_PERSISTENCE_BUCKET_MS`. -/
def liveSnapshotPersistenceBucketMs : ℕ := 10 * 60000

/-- The buckets of `liveSnapshotMinuteBucket` and of the obligations, in milliseconds. -/
def snapshotBucketMs : ℕ := 30000

/-- `liveSnapshotPersistenceJobId`; the bucket is written as the minute that it starts at. -/
def liveSnapshotPersistenceJobId (eventId now : ℕ) : NamedJobId :=
  .periodic eventId (now / liveSnapshotPersistenceBucketMs)

/-- `queue.add`: a job whose id is taken is not added, and the one that is there stays. -/
def addJob (queue : LiveDataQueue) (jobId : LiveJobId) (job : LiveSnapshotJob) :
    LiveDataQueue × Option (LiveJobId × LiveSnapshotJob) :=
  (queue.insertAbsent jobId job, some (jobId, (queue.find jobId).getD job))

/-- The job that a call describes. -/
def newJob (season : FplSeasonRef) (eventId : ℕ) (source : LiveDataJobSource)
    (options : LiveSnapshotOptions) : LiveSnapshotJob where
  seasonId := season.seasonId
  eventId := eventId
  source := source
  obligationId := options.obligationId
  obligationGeneration := options.obligationGeneration
  persistEventLives := options.persistEventLives.getD false
  finalizeEvent := options.finalizeEvent
  state := .waiting

/-- `enqueueLiveSnapshot`: the queue after the call, and the job that it returns with its id. -/
def enqueueLiveSnapshot (queue : LiveDataQueue) (season : FplSeasonRef) (eventId : ℕ)
    (source : LiveDataJobSource) (options : LiveSnapshotOptions) (conditions : EnqueueConditions) :
    LiveDataQueue × Option (LiveJobId × LiveSnapshotJob) :=
  let persistEventLives := options.persistEventLives.getD false
  let add := fun (jobId : LiveJobId) =>
    if source = .cron ∧ hasSupersedingPendingJob queue season eventId persistEventLives
        (options.finalizeEvent = some true) conditions.readable then (queue, none)
    else addJob queue jobId (newJob season eventId source options)
  match options.jobId with
  | some jobId =>
    let explicitJobId := LiveJobId.named season.seasonCode jobId
    match queue.find explicitJobId with
    | some existing =>
      if options.reuseExisting = false then (queue, none)
      else if existing.state.InProgress then (queue, some (explicitJobId, existing))
      else add (.retry season.seasonCode jobId conditions.uuid)
    | none => add explicitJobId
  | none =>
    add (if source = .cron then
      .timed season.seasonCode eventId (options.now / snapshotBucketMs) persistEventLives
    else .sourced season.seasonCode eventId source persistEventLives)

/-- `enqueueLiveActiveSnapshot`. -/
def enqueueLiveActiveSnapshot (queue : LiveDataQueue) (season : FplSeasonRef) (eventId now : ℕ)
    (conditions : EnqueueConditions) : LiveDataQueue × Option (LiveJobId × LiveSnapshotJob) :=
  let periodicJobId := liveSnapshotPersistenceJobId eventId now
  let periodicSnapshotExists := (queue.find (.named season.seasonCode periodicJobId)).isSome
  enqueueLiveSnapshot queue season eventId .cron
    { persistEventLives := some (!periodicSnapshotExists)
      finalizeEvent := none
      now := now
      jobId := if periodicSnapshotExists then none else some periodicJobId
      obligationId := none
      obligationGeneration := none
      reuseExisting := false }
    conditions

/-! ### Obligations -/

/-- The evidence of a plan. -/
structure LiveSnapshotEvidence where
  persistEventLives : Bool
  persistBucket : ℕ
  deriving DecidableEq

/-- `resolve` of the definition inside a match window: the bucket that names the period of the plan,
and its evidence. -/
def liveSnapshotPlan (now : ℕ) : ℕ × LiveSnapshotEvidence :=
  (now / snapshotBucketMs,
    { persistEventLives := now % liveSnapshotPersistenceBucketMs < snapshotBucketMs
      persistBucket := now / liveSnapshotPersistenceBucketMs })

/-- `enqueue` of the definition, for a claimed obligation with its evidence. -/
def enqueueObligation (queue : LiveDataQueue) (season : FplSeasonRef) (eventId now : ℕ)
    (evidence : Option LiveSnapshotEvidence) (obligationId generation : ℕ)
    (conditions : EnqueueConditions) : LiveDataQueue × Option (LiveJobId × LiveSnapshotJob) :=
  enqueueLiveSnapshot queue season eventId .reconcile
    { persistEventLives := some (evidence.any (·.persistEventLives))
      finalizeEvent := none
      now := now
      jobId := some (.scheduler obligationId generation)
      obligationId := some obligationId
      obligationGeneration := some generation
      reuseExisting := true }
    conditions

/-- How the enqueue of a claimed obligation ends: the queue has the job and the claim is confirmed,
or is not confirmed, or the queue refuses the call. -/
inductive LiveEnqueueOutcome where
  | confirmed (conditions : EnqueueConditions)
  | unconfirmed (conditions : EnqueueConditions) (failedAt : ℕ)
  | refused (failedAt : ℕ)

/-- A pass: its time, whether a match window is open, when it claims, and the due obligations that
fit its limit with how their enqueue ends. -/
structure LivePass where
  now : ℕ
  isMatchDayTime : Bool
  claimedAt : ℕ
  claims : List (ℕ × LiveEnqueueOutcome)

/-- The obligations of an event by their buckets, the evidence in their rows and the queue, with the
times of the passes inside a match window and the jobs that obligations have been enqueued as. -/
structure LiveSnapshotWorld where
  obligations : ℕ → ObligationState
  evidence : ℕ → Option LiveSnapshotEvidence
  queue : LiveDataQueue
  passes : List ℕ
  enqueued : List (ℕ × LiveSnapshotJob)

/-- Passes of the scheduler, calls of workers on obligations, calls of `enqueueLiveActiveSnapshot`
and of others without an id of their own, and what workers do to jobs. -/
inductive LiveSnapshotAction where
  | pass (pass : LivePass)
  | callObligation (obligationId : ℕ) (call : ObligationCall)
  | active (eventId now : ℕ) (conditions : EnqueueConditions)
  | enqueue (eventId : ℕ) (source : LiveDataJobSource)
      (persistEventLives finalizeEvent : Option Bool) (now : ℕ) (conditions : EnqueueConditions)
  | progress (jobId : LiveJobId) (state : LiveJobState)
  | remove (jobId : LiveJobId)

/-- The season, the event of the obligations and the configured lease. -/
structure LiveSnapshotSettings where
  season : FplSeasonRef
  eventId : ℕ
  leaseMs : Option ℕ

namespace LiveSnapshotWorld

variable (settings : LiveSnapshotSettings)

/-- No obligation and no job. -/
def initial : LiveSnapshotWorld :=
  ⟨fun _ => ObligationState.initial, fun _ => none, KeyedTable.empty, [], []⟩

/-- A call on an obligation. -/
def callOn (world : LiveSnapshotWorld) (obligationId : ℕ) (call : ObligationCall) :
    LiveSnapshotWorld :=
  { world with
    obligations := Function.update world.obligations obligationId
      (obligationStep settings.leaseMs (world.obligations obligationId) call) }

/-- `reserveSchedulerObligation`: the evidence is that of the plan which inserts the row. -/
def reserve (world : LiveSnapshotWorld) (now : ℕ) : LiveSnapshotWorld :=
  let plan := liveSnapshotPlan now
  let evidence :=
    if (world.obligations plan.1).row.isSome then world.evidence
    else Function.update world.evidence plan.1 (some plan.2)
  { world.callOn settings plan.1 (.reserve now) with evidence := evidence }

/-- What a queue appends to the id of an obligation. -/
def jobSuffix : LiveJobId → String
  | .retry _ _ uuid => "-retry-" ++ uuid
  | _ => ""

/-- The enqueue of an obligation that has been claimed in a generation. -/
def handOver (world : LiveSnapshotWorld) (now obligationId generation : ℕ)
    (conditions : EnqueueConditions) : LiveSnapshotWorld × Option String :=
  let result := enqueueObligation world.queue settings.season settings.eventId now
    (world.evidence obligationId) obligationId generation conditions
  ({ world with
      queue := result.1
      enqueued := world.enqueued ++ (result.2.map fun job => (obligationId, job.2)).toList },
    result.2.map fun job => jobSuffix job.1)

/-- Claim an obligation and enqueue it for the owner of the claim. -/
def claimAndEnqueue (now claimedAt : ℕ) (world : LiveSnapshotWorld)
    (claim : ℕ × LiveEnqueueOutcome) : LiveSnapshotWorld :=
  match claimLeaseMs settings.leaseMs none, (world.obligations claim.1).row with
  | some _, some row =>
    if row.Claimable claimedAt then
      let owner := (world.obligations claim.1).nextOwner
      let claimed := world.callOn settings claim.1 (.claim none claimedAt)
      match claim.2 with
      | .confirmed conditions =>
        let handed := claimed.handOver settings now claim.1 row.nextGeneration conditions
        handed.1.callOn settings claim.1 (.confirm owner handed.2 none)
      | .unconfirmed conditions failedAt =>
        (claimed.handOver settings now claim.1 row.nextGeneration conditions).1.callOn settings
          claim.1 (.fail failedAt (some owner) none none)
      | .refused failedAt =>
        claimed.callOn settings claim.1 (.fail failedAt (some owner) none none)
    else world
  | _, _ => world

/-- `runSchedulerPass`, as far as it concerns live snapshots. -/
def runSchedulerPass (world : LiveSnapshotWorld) (pass : LivePass) : LiveSnapshotWorld :=
  let reserved :=
    if pass.isMatchDayTime then
      { world.reserve settings pass.now with passes := world.passes ++ [pass.now] }
    else world
  pass.claims.foldl (claimAndEnqueue settings pass.now pass.claimedAt) reserved

/-- One action. Calls on obligations find rows that are there. -/
def step (world : LiveSnapshotWorld) : LiveSnapshotAction → LiveSnapshotWorld
  | .pass pass => world.runSchedulerPass settings pass
  | .callObligation obligationId call =>
    if (world.obligations obligationId).row.isSome then world.callOn settings obligationId call
    else world
  | .active eventId now conditions =>
    { world with
      queue := (enqueueLiveActiveSnapshot world.queue settings.season eventId now conditions).1 }
  | .enqueue eventId source persistEventLives finalizeEvent now conditions =>
    { world with
      queue := (enqueueLiveSnapshot world.queue settings.season eventId source
        ⟨persistEventLives, finalizeEvent, now, none, none, none, false⟩ conditions).1 }
  | .progress jobId state =>
    { world with
      queue := world.queue.updateWhere (fun other _ => other = jobId) fun job =>
        { job with state := state } }
  | .remove jobId =>
    { world with queue := world.queue.deleteWhere fun other _ => other = jobId }

end LiveSnapshotWorld

/-! ### Jobs of the queue -/

/-- The obligation of a bucket that begins a bucket of ten minutes. -/
def beginsTenMinutes (obligationId : ℕ) : Bool := obligationId % 20 = 0

/-- What an id says of its job: periodic jobs persist the event lives of their event, and jobs of
obligations do so at the beginning of ten minutes. -/
def Fits (season : FplSeasonRef) : LiveJobId → LiveSnapshotJob → Prop
  | .named _ (.periodic eventId _), job =>
    job.persistEventLives = true ∧ job.eventId = eventId ∧ job.seasonId = season.seasonId
  | .named _ (.scheduler obligationId _), job | .retry _ (.scheduler obligationId _) _, job =>
    job.persistEventLives = beginsTenMinutes obligationId
  | _, _ => True

/-- A job fits its id in every state. -/
theorem Fits.progress {season : FplSeasonRef} {jobId : LiveJobId} {job : LiveSnapshotJob}
    (h : Fits season jobId job) (state : LiveJobState) :
    Fits season jobId { job with state := state } := by
  cases jobId with
  | named seasonCode jobId => cases jobId <;> exact h
  | retry seasonCode jobId uuid => cases jobId <;> exact h
  | timed seasonCode eventId minuteBucket persistEventLives => trivial
  | sourced seasonCode eventId source persistEventLives => trivial

/-- Every job fits its id. -/
def QueueSound (season : FplSeasonRef) (queue : LiveDataQueue) : Prop :=
  ∀ jobId job, queue.find jobId = some job → Fits season jobId job

section Queue

variable {season : FplSeasonRef} {queue : LiveDataQueue}

/-- What a call did: the queue is sound, and a job that the call returned fits its id. -/
def ResultSound (season : FplSeasonRef)
    (result : LiveDataQueue × Option (LiveJobId × LiveSnapshotJob)) : Prop :=
  QueueSound season result.1 ∧ ∀ job ∈ result.2, Fits season job.1 job.2

/-- A job that fits its id is added soundly. -/
theorem QueueSound.addJob (h : QueueSound season queue) {jobId : LiveJobId} {job : LiveSnapshotJob}
    (hjob : Fits season jobId job) : ResultSound season (addJob queue jobId job) := by
  refine ⟨fun other found hfound => ?_, fun result hresult => ?_⟩
  · change (queue.insertAbsent jobId job).find other = some found at hfound
    rw [KeyedTable.find_insertAbsent] at hfound
    obtain hold | ⟨_, hnew⟩ := Option.or_eq_some_iff.mp hfound
    · exact h other found hold
    · by_cases hother : other = jobId
      · rw [if_pos hother] at hnew
        exact hother ▸ Option.some.inj hnew ▸ hjob
      · rw [if_neg hother] at hnew
        exact absurd hnew.symm (Option.some_ne_none _)
  · obtain rfl := Option.some.inj hresult
    change Fits season jobId ((queue.find jobId).getD job)
    cases hfind : queue.find jobId with
    | none => exact hjob
    | some existing => exact h jobId existing hfind

/-- A call keeps the queue sound when its job fits the ids that the call gives it. -/
theorem QueueSound.enqueueLiveSnapshot (h : QueueSound season queue) {eventId : ℕ}
    {source : LiveDataJobSource} {options : LiveSnapshotOptions} (conditions : EnqueueConditions)
    (hfits : ∀ jobId, options.jobId = some jobId →
      Fits season (.named season.seasonCode jobId) (newJob season eventId source options) ∧
        ∀ uuid,
          Fits season (.retry season.seasonCode jobId uuid)
            (newJob season eventId source options)) :
    ResultSound season
      (enqueueLiveSnapshot queue season eventId source options conditions) := by
  have hskip : ResultSound season (queue, none) := ⟨h, fun job hjob => nomatch hjob⟩
  unfold LiveSnapshotJobs.enqueueLiveSnapshot
  dsimp only
  split
  next jobId hjobId =>
    obtain ⟨hnamed, hretry⟩ := hfits jobId hjobId
    split
    next existing hexisting =>
      split
      · exact hskip
      · split
        · refine ⟨h, fun job hjob => ?_⟩
          obtain rfl := Option.some.inj hjob
          exact h _ existing hexisting
        · split
          · exact hskip
          · exact h.addJob (hretry _)
    next =>
      split
      · exact hskip
      · exact h.addJob hnamed
  next =>
    split
    · exact hskip
    · split <;> exact h.addJob trivial

/-- A call under an id returns a job under this id or under one of its retries. -/
theorem enqueueLiveSnapshot_jobId {eventId : ℕ} {source : LiveDataJobSource}
    {options : LiveSnapshotOptions} {conditions : EnqueueConditions} {jobId : NamedJobId}
    (hjobId : options.jobId = some jobId) {result : LiveJobId × LiveSnapshotJob}
    (hresult : (LiveSnapshotJobs.enqueueLiveSnapshot queue season eventId source options
      conditions).2 = some result) :
    result.1 = .named season.seasonCode jobId ∨
      result.1 = .retry season.seasonCode jobId conditions.uuid := by
  unfold LiveSnapshotJobs.enqueueLiveSnapshot at hresult
  rw [hjobId] at hresult
  dsimp only at hresult
  split at hresult
  · split at hresult
    · exact nomatch hresult
    · split at hresult
      · exact .inl (Option.some.inj hresult ▸ rfl)
      · split at hresult
        · exact nomatch hresult
        · exact .inr (Option.some.inj hresult ▸ rfl)
  · split at hresult
    · exact nomatch hresult
    · exact .inl (Option.some.inj hresult ▸ rfl)

/-- The job of an obligation persists as the evidence in its row says. -/
theorem QueueSound.enqueueObligation (h : QueueSound season queue) {eventId now : ℕ}
    {evidence : Option LiveSnapshotEvidence} {obligationId : ℕ}
    (hevidence : evidence.any (·.persistEventLives) = beginsTenMinutes obligationId)
    (generation : ℕ) (conditions : EnqueueConditions) :
    let result := enqueueObligation queue season eventId now evidence obligationId generation
      conditions
    QueueSound season result.1 ∧
      ∀ job ∈ result.2, job.2.persistEventLives = beginsTenMinutes obligationId := by
  intro result
  have hsound : ResultSound season result := by
    refine h.enqueueLiveSnapshot conditions fun jobId hjobId => ?_
    obtain rfl := Option.some.inj hjobId
    exact ⟨hevidence, fun _ => hevidence⟩
  refine ⟨hsound.1, fun job hjob => ?_⟩
  have hfits := hsound.2 job hjob
  obtain hnamed | hretry := enqueueLiveSnapshot_jobId rfl hjob
  · rw [hnamed] at hfits
    exact hfits
  · rw [hretry] at hfits
    exact hfits

/-- A job of an event that persists its event lives: the periodic one of a time, or a pending one. -/
def Persists (season : FplSeasonRef) (eventId now : ℕ) (jobId : LiveJobId)
    (job : LiveSnapshotJob) : Prop :=
  job.persistEventLives = true ∧ job.eventId = eventId ∧ job.seasonId = season.seasonId ∧
    (jobId = .named season.seasonCode (liveSnapshotPersistenceJobId eventId now) ∨
      job.state.Pending)

/-- A call loses no job. -/
theorem find_enqueueLiveSnapshot {eventId : ℕ} {source : LiveDataJobSource}
    {options : LiveSnapshotOptions} {conditions : EnqueueConditions} {jobId : LiveJobId}
    {job : LiveSnapshotJob} (h : queue.find jobId = some job) :
    (LiveSnapshotJobs.enqueueLiveSnapshot queue season eventId source options conditions).1.find
      jobId = some job := by
  have hadded : ∀ other added, (queue.insertAbsent other added).find jobId = some job :=
    fun other added => KeyedTable.find_insertAbsent_of_find h
  unfold LiveSnapshotJobs.enqueueLiveSnapshot addJob
  dsimp only
  split
  · split
    · split
      · exact h
      · split
        · exact h
        · split
          · exact h
          · exact hadded _ _
    · split
      · exact h
      · exact hadded _ _
  · split
    · exact h
    · exact hadded _ _

/-- A pending job that supersedes a persisting one persists. -/
theorem persists_of_hasSupersedingPendingJob {eventId now : ℕ} {readable : Bool}
    (h : hasSupersedingPendingJob queue season eventId true false readable = true) :
    ∃ jobId job, queue.find jobId = some job ∧ Persists season eventId now jobId job := by
  obtain ⟨_, hany⟩ := (Bool.and_eq_true _ _).mp h
  obtain ⟨⟨jobId, job⟩, hentry, hsupersedes⟩ := List.any_eq_true.mp hany
  obtain ⟨hpending, hseason, hevent, hpersist⟩ := of_decide_eq_true hsupersedes
  refine ⟨jobId, job, KeyedTable.mem_entries_iff.mp hentry, ?_, hevent, hseason, .inr hpending⟩
  exact hpersist.resolve_left nofun

/-- A call beside the periodic job of its bucket. -/
theorem enqueueLiveActiveSnapshot_of_some {eventId now : ℕ} {conditions : EnqueueConditions}
    {existing : LiveSnapshotJob}
    (h : queue.find (.named season.seasonCode (liveSnapshotPersistenceJobId eventId now)) =
      some existing) :
    LiveSnapshotJobs.enqueueLiveActiveSnapshot queue season eventId now conditions =
      LiveSnapshotJobs.enqueueLiveSnapshot queue season eventId .cron
        ⟨some false, none, now, none, none, none, false⟩ conditions := by
  unfold LiveSnapshotJobs.enqueueLiveActiveSnapshot
  dsimp only
  rw [h]
  rfl

/-- A call that finds no periodic job of its bucket. -/
theorem enqueueLiveActiveSnapshot_of_none {eventId now : ℕ} {conditions : EnqueueConditions}
    (h : queue.find (.named season.seasonCode (liveSnapshotPersistenceJobId eventId now)) = none) :
    LiveSnapshotJobs.enqueueLiveActiveSnapshot queue season eventId now conditions =
      LiveSnapshotJobs.enqueueLiveSnapshot queue season eventId .cron
        ⟨some true, none, now, some (liveSnapshotPersistenceJobId eventId now), none, none, false⟩
        conditions := by
  unfold LiveSnapshotJobs.enqueueLiveActiveSnapshot
  dsimp only
  rw [h]
  rfl

/-- `enqueueLiveActiveSnapshot` keeps the queue sound, and leaves a job there that persists. -/
theorem QueueSound.enqueueLiveActiveSnapshot (h : QueueSound season queue) (eventId now : ℕ)
    (conditions : EnqueueConditions) :
    let after := (enqueueLiveActiveSnapshot queue season eventId now conditions).1
    QueueSound season after ∧
      ∃ jobId job, after.find jobId = some job ∧ Persists season eventId now jobId job := by
  dsimp only
  cases hfind : queue.find (.named season.seasonCode (liveSnapshotPersistenceJobId eventId now)) with
  | some existing =>
    rw [enqueueLiveActiveSnapshot_of_some hfind]
    refine ⟨(h.enqueueLiveSnapshot conditions fun jobId hjobId => ?_).1, ?_⟩
    · exact absurd hjobId.symm (Option.some_ne_none jobId)
    · obtain ⟨hpersist, hevent, hseason⟩ := h _ existing hfind
      exact ⟨_, existing, find_enqueueLiveSnapshot hfind, hpersist, hevent, hseason, .inl rfl⟩
  | none =>
    rw [enqueueLiveActiveSnapshot_of_none hfind]
    constructor
    · refine (h.enqueueLiveSnapshot conditions fun jobId hjobId => ?_).1
      obtain rfl := Option.some.inj hjobId
      exact ⟨⟨rfl, rfl, rfl⟩, fun _ => trivial⟩
    · unfold LiveSnapshotJobs.enqueueLiveSnapshot
      dsimp only
      rw [hfind]
      dsimp only
      split
      next hsuperseded => exact persists_of_hasSupersedingPendingJob hsuperseded.2
      next =>
        exact ⟨_, _, KeyedTable.find_insertAbsent_self hfind, rfl, rfl, rfl, .inl rfl⟩

end Queue

/-! ### Runs -/

/-- The plan of a pass persists exactly if its bucket begins ten minutes, and lies in these. -/
theorem liveSnapshotPlan_eq (now : ℕ) :
    (liveSnapshotPlan now).2 =
      ⟨beginsTenMinutes (now / snapshotBucketMs), now / snapshotBucketMs / 20⟩ := by
  have hplace : now % 600000 < 30000 ↔ now / 30000 % 20 = 0 := by omega
  have hbucket : now / 600000 = now / 30000 / 20 := by omega
  exact congrArg₂ LiveSnapshotEvidence.mk (decide_eq_decide.mpr hplace) hbucket

namespace LiveSnapshotWorld

variable {settings : LiveSnapshotSettings}

/-- What a pass has left: the row of its bucket, with its evidence. -/
def Passed (world : LiveSnapshotWorld) (obligationId : ℕ) : Prop :=
  ∃ now ∈ world.passes, now / snapshotBucketMs = obligationId

/-- The obligations are those of passes, with the evidence of their buckets; jobs fit their ids, and
those that obligations are enqueued as persist at the beginning of ten minutes. -/
structure Sound (settings : LiveSnapshotSettings) (world : LiveSnapshotWorld) : Prop where
  rows : ∀ obligationId, (world.obligations obligationId).row.isSome →
    world.Passed obligationId ∧ (world.evidence obligationId).any (·.persistEventLives) =
      beginsTenMinutes obligationId
  queue : QueueSound settings.season world.queue
  enqueued : ∀ entry ∈ world.enqueued,
    world.Passed entry.1 ∧ entry.2.persistEventLives = beginsTenMinutes entry.1

variable {world : LiveSnapshotWorld}

/-- A call leaves the other obligations. -/
theorem callOn_of_ne {obligationId other : ℕ} (h : other ≠ obligationId) (call : ObligationCall) :
    (world.callOn settings obligationId call).obligations other = world.obligations other :=
  Function.update_of_ne h _ _

/-- A call acts on its obligation. -/
theorem callOn_self (obligationId : ℕ) (call : ObligationCall) :
    (world.callOn settings obligationId call).obligations obligationId =
      obligationStep settings.leaseMs (world.obligations obligationId) call :=
  Function.update_self _ _ _

/-- No call removes a row. -/
theorem isSome_obligationStep {leaseMs : Option ℕ} {state : ObligationState}
    (h : state.row.isSome) (call : ObligationCall) :
    (obligationStep leaseMs state call).row.isSome := by
  have hupdate : ∀ write, (state.update write).row.isSome :=
    fun write => Option.isSome_map.trans h
  cases call with
  | reserve dueAt => rfl
  | claim lease dbNow =>
    unfold obligationStep claimStep
    dsimp only
    split
    · split
      · rfl
      · exact h
    · exact h
  | confirm owner suffix runId =>
    unfold obligationStep
    dsimp only
    split
    · exact hupdate _
    · exact h
  | renew now generation additional => exact hupdate _
  | complete status generation => exact hupdate _
  | fail now owner generation delay => exact hupdate _
  | markIrrecoverable status => exact hupdate _
  | completeByBullJobId bullJobId => exact hupdate _
  | failByBullJobIdRead bullJobId =>
    unfold obligationStep
    dsimp only
    split
    · split <;> exact h
    · exact h
  | failByBullJobIdWrite bullJobId now =>
    unfold obligationStep
    dsimp only
    split
    · exact hupdate _
    · exact h

/-- A call on a row that is there. -/
theorem Sound.callOn (h : world.Sound settings) {obligationId : ℕ}
    (hrow : (world.obligations obligationId).row.isSome) (call : ObligationCall) :
    (world.callOn settings obligationId call).Sound settings := by
  refine ⟨fun other hother => ?_, h.queue, h.enqueued⟩
  by_cases hsame : other = obligationId
  · exact hsame ▸ h.rows obligationId hrow
  · exact h.rows other (callOn_of_ne hsame call ▸ hother)

/-- A reservation writes the evidence of a row that it inserts. -/
theorem evidence_reserve (now obligationId : ℕ) :
    (world.reserve settings now).evidence obligationId =
      if obligationId = now / snapshotBucketMs ∧ ¬ (world.obligations obligationId).row.isSome then
        some (liveSnapshotPlan now).2
      else world.evidence obligationId := by
  change (if (world.obligations (now / snapshotBucketMs)).row.isSome then world.evidence
    else Function.update world.evidence (now / snapshotBucketMs) (some (liveSnapshotPlan now).2))
      obligationId = _
  by_cases hbucket : obligationId = now / snapshotBucketMs
  · subst hbucket
    by_cases hrow : (world.obligations (now / snapshotBucketMs)).row.isSome
    · rw [if_pos hrow, if_neg fun hnew => hnew.2 hrow]
    · rw [if_neg hrow, if_pos ⟨rfl, hrow⟩, Function.update_self]
  · have hother : ¬ (obligationId = now / snapshotBucketMs ∧
        ¬ (world.obligations obligationId).row.isSome) := fun hnew => hbucket hnew.1
    rw [if_neg hother]
    split
    · rfl
    · exact Function.update_of_ne hbucket _ _

/-- A reservation by a pass. -/
theorem Sound.reserve (h : world.Sound settings) (now : ℕ) :
    ({ world.reserve settings now with passes := world.passes ++ [now] } :
      LiveSnapshotWorld).Sound settings := by
  have hpassed : ∀ obligationId, world.Passed obligationId →
      ∃ time ∈ world.passes ++ [now], time / snapshotBucketMs = obligationId := by
    rintro obligationId ⟨time, htime, hbucket⟩
    exact ⟨time, List.mem_append_left _ htime, hbucket⟩
  refine ⟨fun obligationId hrow => ?_, h.queue, fun entry hentry =>
    ⟨hpassed _ (h.enqueued entry hentry).1, (h.enqueued entry hentry).2⟩⟩
  change _ ∧ ((world.reserve settings now).evidence obligationId).any _ = _
  rw [evidence_reserve]
  by_cases hold : (world.obligations obligationId).row.isSome
  · obtain ⟨hrows, hevidence⟩ := h.rows obligationId hold
    rw [if_neg fun hnew => hnew.2 hold]
    exact ⟨hpassed _ hrows, hevidence⟩
  · have hbucket : obligationId = now / snapshotBucketMs := by
      by_contra hother
      exact hold (@callOn_of_ne settings _ _ _ hother (.reserve now) ▸ hrow)
    rw [if_pos ⟨hbucket, hold⟩, liveSnapshotPlan_eq, hbucket]
    exact ⟨⟨now, List.mem_append_right _ List.mem_cons_self, rfl⟩, rfl⟩

/-- An enqueue of an obligation with a row. -/
theorem Sound.handOver (h : world.Sound settings) {obligationId : ℕ}
    (hrow : (world.obligations obligationId).row.isSome) (now generation : ℕ)
    (conditions : EnqueueConditions) :
    (world.handOver settings now obligationId generation conditions).1.Sound settings := by
  obtain ⟨hpassed, hevidence⟩ := h.rows obligationId hrow
  have hresult := @QueueSound.enqueueObligation _ _ h.queue settings.eventId now _ _ hevidence
    generation conditions
  refine ⟨h.rows, hresult.1, fun entry hentry => ?_⟩
  obtain hold | hnew := List.mem_append.mp hentry
  · exact h.enqueued entry hold
  · obtain ⟨job, hjob, rfl⟩ := Option.map_eq_some_iff.mp (Option.mem_toList.mp hnew)
    exact ⟨hpassed, hresult.2 job hjob⟩

/-- A claim with its enqueue. -/
theorem Sound.claimAndEnqueue (h : world.Sound settings) (now claimedAt : ℕ)
    (claim : ℕ × LiveEnqueueOutcome) :
    (world.claimAndEnqueue settings now claimedAt claim).Sound settings := by
  unfold LiveSnapshotWorld.claimAndEnqueue
  split
  next lease row _ hfind =>
    split
    next =>
      have hrow : (world.obligations claim.1).row.isSome := hfind ▸ rfl
      have hclaimed := h.callOn hrow (.claim none claimedAt)
      have hkept : ((world.callOn settings claim.1 (.claim none claimedAt)).obligations
          claim.1).row.isSome := by
        rw [callOn_self]
        exact isSome_obligationStep hrow _
      dsimp only
      split
      next conditions _ =>
        exact (hclaimed.handOver hkept now _ conditions).callOn hkept _
      next conditions failedAt _ =>
        exact (hclaimed.handOver hkept now _ conditions).callOn hkept _
      next failedAt => exact hclaimed.callOn hkept _
    next => exact h
  next => exact h

/-- A pass of the scheduler. -/
theorem Sound.runSchedulerPass (h : world.Sound settings) (pass : LivePass) :
    (world.runSchedulerPass settings pass).Sound settings := by
  unfold LiveSnapshotWorld.runSchedulerPass
  have hclaims : ∀ (claims : List (ℕ × LiveEnqueueOutcome)) (reserved : LiveSnapshotWorld),
      reserved.Sound settings →
        (claims.foldl (LiveSnapshotWorld.claimAndEnqueue settings pass.now pass.claimedAt)
          reserved).Sound settings := by
    intro claims
    induction claims with
    | nil => exact fun reserved hreserved => hreserved
    | cons claim rest ih =>
      exact fun reserved hreserved => ih _ (hreserved.claimAndEnqueue pass.now pass.claimedAt claim)
  refine hclaims _ _ ?_
  split
  · exact h.reserve pass.now
  · exact h

/-- Every action keeps a sound world sound. -/
theorem Sound.step (h : world.Sound settings) (action : LiveSnapshotAction) :
    (world.step settings action).Sound settings := by
  have hqueue : ∀ queue, QueueSound settings.season queue →
      ({ world with queue := queue } : LiveSnapshotWorld).Sound settings :=
    fun queue hsound => ⟨h.rows, hsound, h.enqueued⟩
  cases action with
  | pass pass => exact h.runSchedulerPass pass
  | callObligation obligationId call =>
    rw [LiveSnapshotWorld.step]
    split
    next hrow => exact h.callOn hrow call
    next => exact h
  | active eventId now conditions =>
    exact hqueue _ (h.queue.enqueueLiveActiveSnapshot eventId now conditions).1
  | enqueue eventId source persistEventLives finalizeEvent now conditions =>
    exact hqueue _ (h.queue.enqueueLiveSnapshot conditions fun jobId hjobId =>
      absurd hjobId.symm (Option.some_ne_none jobId)).1
  | progress jobId state =>
    refine hqueue _ fun other job hjob => ?_
    rw [KeyedTable.find_updateWhere] at hjob
    obtain ⟨old, hold, hwritten⟩ := Option.map_eq_some_iff.mp hjob
    have hfits := h.queue other old hold
    split at hwritten
    · exact hwritten ▸ hfits.progress state
    · exact hwritten ▸ hfits
  | remove jobId =>
    exact hqueue _ fun other job hjob =>
      h.queue other job (KeyedTable.find_of_find_deleteWhere hjob).1

/-- Every world that a run reaches is sound. -/
theorem sound_runSteps (actions : List LiveSnapshotAction) :
    (runSteps (step settings) initial actions).Sound settings := by
  refine runSteps_invariant (fun _ action h => h.step action) _ actions ⟨?_, ?_, ?_⟩
  · exact fun _ hrow => nomatch hrow
  · exact fun _ _ hjob => nomatch hjob
  · exact fun _ hentry => nomatch hentry

/-- A claim is no pass. -/
theorem passes_claimAndEnqueue (now claimedAt : ℕ) (claim : ℕ × LiveEnqueueOutcome) :
    (world.claimAndEnqueue settings now claimedAt claim).passes = world.passes := by
  unfold LiveSnapshotWorld.claimAndEnqueue
  split
  · split
    · dsimp only
      split <;> rfl
    · rfl
  · rfl

/-- The times of the passes inside a match window. -/
def passTimes (actions : List LiveSnapshotAction) : List ℕ :=
  actions.filterMap fun
    | .pass pass => if pass.isMatchDayTime then some pass.now else none
    | _ => none

/-- A run keeps the times of its passes. -/
theorem passes_runSteps (world : LiveSnapshotWorld) (actions : List LiveSnapshotAction) :
    (runSteps (step settings) world actions).passes = world.passes ++ passTimes actions := by
  induction actions generalizing world with
  | nil => exact (List.append_nil _).symm
  | cons action rest ih =>
    rw [runSteps_cons, ih]
    cases action with
    | pass pass =>
      have hclaims : ∀ (claims : List (ℕ × LiveEnqueueOutcome)) (reserved : LiveSnapshotWorld),
          (claims.foldl (claimAndEnqueue settings pass.now pass.claimedAt) reserved).passes =
            reserved.passes := by
        intro claims
        induction claims with
        | nil => exact fun reserved => rfl
        | cons claim others ihc =>
          exact fun reserved => (ihc _).trans (passes_claimAndEnqueue pass.now pass.claimedAt claim)
      have hpass : (world.step settings (.pass pass)).passes =
          world.passes ++ if pass.isMatchDayTime then [pass.now] else [] := by
        refine (hclaims pass.claims _).trans ?_
        split
        · rfl
        · exact (List.append_nil _).symm
      rw [hpass, List.append_assoc]
      congr 1
      unfold passTimes
      rw [List.filterMap_cons]
      dsimp only
      split <;> simp_all
    | callObligation obligationId call =>
      have hcall : (world.step settings (.callObligation obligationId call)).passes =
          world.passes := by
        rw [step]
        split <;> rfl
      rw [hcall]
      rfl
    | active eventId now conditions => rfl
    | enqueue eventId source persistEventLives finalizeEvent now conditions => rfl
    | progress jobId state => rfl
    | remove jobId => rfl

/-- An obligation has been enqueued: a pass has claimed it and the queue has taken its job. -/
def WasEnqueued (world : LiveSnapshotWorld) (obligationId : ℕ) : Prop :=
  ∃ entry ∈ world.enqueued, entry.1 = obligationId

instance (world : LiveSnapshotWorld) (obligationId : ℕ) :
    Decidable (world.WasEnqueued obligationId) :=
  inferInstanceAs (Decidable (∃ entry ∈ world.enqueued, _))

/-- An obligation of ten minutes has been enqueued as a job that persists event lives. -/
def Persisted (world : LiveSnapshotWorld) (persistBucket : ℕ) : Prop :=
  ∃ entry ∈ world.enqueued,
    entry.1 * snapshotBucketMs / liveSnapshotPersistenceBucketMs = persistBucket ∧
      entry.2.persistEventLives = true

instance (world : LiveSnapshotWorld) (persistBucket : ℕ) :
    Decidable (world.Persisted persistBucket) :=
  inferInstanceAs (Decidable (∃ entry ∈ world.enqueued, _))

/-- Ten minutes are persisted exactly if a pass in their first thirty seconds has left an obligation
that has been enqueued. -/
theorem Sound.persisted_iff (h : world.Sound settings) (persistBucket : ℕ) :
    world.Persisted persistBucket ↔
      ∃ first ∈ world.passes, first / liveSnapshotPersistenceBucketMs = persistBucket ∧
        first % liveSnapshotPersistenceBucketMs < snapshotBucketMs ∧
          world.WasEnqueued (first / snapshotBucketMs) := by
  simp only [liveSnapshotPersistenceBucketMs, snapshotBucketMs, Persisted]
  constructor
  · rintro ⟨entry, hentry, hbucket, hpersist⟩
    obtain ⟨⟨first, hfirst, hpassed⟩, hbegins⟩ := h.enqueued entry hentry
    rw [hbegins] at hpersist
    have hplace : entry.1 % 20 = 0 := of_decide_eq_true hpersist
    change first / 30000 = entry.1 at hpassed
    refine ⟨first, hfirst, ?_, ?_, entry, hentry, hpassed.symm⟩
    · omega
    · omega
  · rintro ⟨first, hfirst, hbucket, hplace, entry, hentry, hpassed⟩
    refine ⟨entry, hentry, ?_, ?_⟩
    · omega
    · have hbegins : entry.1 % 20 = 0 := by omega
      rw [(h.enqueued entry hentry).2]
      exact decide_eq_true hbegins

end LiveSnapshotWorld

open LiveSnapshotWorld in
/-- In every run the passes of the scheduler persist all ten minutes that they pass in exactly if
each of these has a pass in its first thirty seconds whose obligation is claimed and enqueued. A call
of `enqueueLiveActiveSnapshot` leaves a job that persists wherever it comes in the ten minutes. -/
theorem tenMinutes_persisted_iff (settings : LiveSnapshotSettings)
    (actions : List LiveSnapshotAction) :
    let world := runSteps (LiveSnapshotWorld.step settings) initial actions
    ((∀ now ∈ passTimes actions, world.Persisted (now / liveSnapshotPersistenceBucketMs)) ↔
      ∀ now ∈ passTimes actions, ∃ first ∈ passTimes actions,
        first / liveSnapshotPersistenceBucketMs = now / liveSnapshotPersistenceBucketMs ∧
          first % liveSnapshotPersistenceBucketMs < snapshotBucketMs ∧
            world.WasEnqueued (first / snapshotBucketMs)) ∧
      ∀ eventId now conditions, ∃ jobId job,
        (world.step settings (.active eventId now conditions)).queue.find jobId = some job ∧
          Persists settings.season eventId now jobId job := by
  intro world
  have hsound : world.Sound settings := sound_runSteps actions
  have hpasses : world.passes = passTimes actions := passes_runSteps initial actions
  refine ⟨forall₂_congr fun now _ => ?_, fun eventId now conditions =>
    (hsound.queue.enqueueLiveActiveSnapshot eventId now conditions).2⟩
  rw [hsound.persisted_iff, hpasses]

/-- The first match week of a season, with the default lease. -/
def firstWeek : LiveSnapshotSettings := ⟨⟨1, "2526"⟩, 1, none⟩

/-- One pass five minutes after the start of ten minutes, whose obligation is claimed at once. -/
def latePass : LivePass := ⟨300000, true, 300000, [(10, .confirmed ⟨"", true⟩)]⟩

open LiveSnapshotWorld in
/-- A pass that comes late in ten minutes has its obligation enqueued, but leaves the ten minutes
without a job that persists event lives. -/
theorem latePass_not_persisted :
    let world := runSteps (LiveSnapshotWorld.step firstWeek) initial [.pass latePass]
    world.WasEnqueued 10 ∧
      ¬ ∀ now ∈ passTimes [.pass latePass],
        world.Persisted (now / liveSnapshotPersistenceBucketMs) := by
  decide

end LetletmeData.LiveSnapshotJobs
