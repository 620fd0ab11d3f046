import LetletmeData.Services.LiveSnapshotOrder
import LetletmeData.Services.SnapshotRecovery

/-!
# Source runs of failed syncs

Before a publication is drawn a failed sync fails its run; from then on it fails the publication
and the run with it. From the hand-over on it leaves both as they are, to recovery, until the
activation commits; then a receipt is there that can finish the run. A staging transaction that
is rolled back takes the publication away that the catch block means to fail.
-/

namespace LetletmeData

open LetletmeData.Library

/-- The publication of the run is left for an activation by recovery. -/
def RunRecoverable (identity : SyncIdentity) (db : Database) : Prop :=
  ∃ input : ActivatePublicationInput, input.publicationId = identity.publicationId ∧
    input.sourceRunId = identity.sourceRunId ∧ LeftForRecovery input db

/-- The frame in which a try block throws, by what it has assigned. What is handed over may be
recoverable only when it has been published. -/
inductive SyncFrame.Interrupted (identity : SyncIdentity) (published : Prop) (frame : SyncFrame) :
    Prop where
  | undrawn (hid : frame.publicationId = none)
      (hrun : RunOpen identity.sourceRunId frame.db ∨ RunTerminated identity.sourceRunId frame.db)
  | drawn (hid : frame.publicationId = some identity.publicationId)
      (hhanded : frame.handedOver = false)
      (hrun : PublicationStaged identity.publicationId identity.sourceRunId frame.db ∨
        RunTerminated identity.sourceRunId frame.db)
  | handedOver (hid : frame.publicationId = some identity.publicationId)
      (hhanded : frame.handedOver = true)
      (hrun : RunClosed identity.sourceRunId frame.db ∨
        (published ∧ RunRecoverable identity frame.db))

/-- How a try block ends: it closes the run, or throws where its catch block can. -/
def SyncOutcome (identity : SyncIdentity) (published : Prop) :
    Except RepositoryError Unit → SyncFrame → Prop
  | .ok _, later => RunClosed identity.sourceRunId later.db
  | .error _, later => later.Interrupted identity published

section Phases

variable {host : HostFunctions} {identity : SyncIdentity} {published : Prop} {frame : SyncFrame}

/-- The catch block closes the run, except for what is left for recovery. -/
theorem closeFailedSync_ends (h : frame.Interrupted identity published) :
    Ends (closeFailedSync identity.now identity.sourceRunId) frame fun _ later =>
      RunClosed identity.sourceRunId later.db ∨
        (published ∧ RunRecoverable identity later.db) := by
  refine .bind (.get ?_)
  dsimp only
  cases h with
  | undrawn hid hrun =>
    rw [hid]
    refine .ignoreErrors (.statement_none (.inl (.inl ?_)))
    rcases hrun with hopen | hterminated
    · exact hopen.failRun
    · exact hterminated.of_keeps (.moveRun fun _ => KeepsTerminalRuns.eq_of_mem_append)
  | drawn hid hhanded hrun =>
    rw [hid, hhanded]
    refine .ignoreErrors (.statement_none (.inl (.inl ?_)))
    rcases hrun with hstaged | hterminated
    · exact hstaged.failPublication identity.now
    · exact hterminated.of_keeps (.failPublication _ _ _)
  | handedOver hid hhanded hrun =>
    rw [hid, hhanded]
    exact .pure hrun

/-- A sync whose try block ends so closes its run, or throws and leaves it for recovery. -/
theorem caught_ends {body : SyncProcedure Unit}
    (h : Ends body frame (SyncOutcome identity published)) :
    Ends (tryCatch body fun error => do
        closeFailedSync identity.now identity.sourceRunId
        throw error) frame fun result later =>
      RunClosed identity.sourceRunId later.db ∨
        ((∃ error, result = .error error) ∧ published ∧ RunRecoverable identity later.db) := by
  refine .tryCatch (h.mono fun result later hend => ?_)
  cases result with
  | ok value => exact .inl hend
  | error error =>
    refine .bind ((closeFailedSync_ends hend).mono fun result' closed hclosed => ?_)
    have hcases := hclosed.imp_right fun hleft =>
      (⟨⟨error, rfl⟩, hleft⟩ : (∃ other, (Except.error error : Except RepositoryError Unit) =
        .error other) ∧ published ∧ RunRecoverable identity closed.db)
    cases result' with
    | ok value => exact .throw hcases
    | error other => exact hclosed.imp_right fun hleft => ⟨⟨other, rfl⟩, hleft⟩

/-- A transaction commits and returns, commits and its answer is lost, or throws and leaves the
frame as it is. -/
theorem transaction_ends {fault : Fault RepositoryError}
    {body : Database → Except RepositoryError Database}
    {condition : Except RepositoryError Unit → SyncFrame → Prop}
    (hcommitted : ∀ later, body frame.db = .ok later →
      condition (.ok ()) { frame with db := later })
    (hlost : ∀ later error, body frame.db = .ok later →
      condition (.error error) { frame with db := later })
    (hthrown : ∀ error, condition (.error error) frame) :
    Ends (onDatabase fault (transaction body)) frame condition := by
  cases hbody : body frame.db with
  | ok later =>
    refine .statement (fun _ => ?_) (fun error _ => hthrown error) fun error _ => ?_
    · simpa only [transaction, commit_of_ok hbody, hbody, Except.map] using hcommitted later hbody
    · simpa only [transaction, commit_of_ok hbody] using hlost later error hbody
  | error thrown =>
    refine .statement (fun _ => ?_) (fun error _ => hthrown error) fun error _ => ?_
    · simpa only [transaction, commit_of_error hbody, hbody, Except.map] using hthrown thrown
    · simpa only [transaction, commit_of_error hbody] using hthrown error

/-- Skipping terminates the run, or throws before anything is written. -/
theorem skipSync_ends (skipping finishing : Fault RepositoryError)
    (hstaged : PublicationStaged identity.publicationId identity.sourceRunId frame.db) :
    Ends (skipSync identity skipping finishing) frame fun result later =>
      later.publicationId = frame.publicationId ∧ later.handedOver = frame.handedOver ∧
        (RunTerminated identity.sourceRunId later.db ∨
          ((∃ error, result = .error error) ∧ later.db = frame.db)) := by
  have hskipped : ∀ later, skipPublication identity.now identity.publicationId frame.db =
      .ok later → RunTerminated identity.sourceRunId later :=
    fun later hlater => commit_of_ok hlater ▸ hstaged.skipPublication identity.now
  refine .bind (transaction_ends (fun skipped hskip => ?_) (fun skipped _ hskip => ?_) ?_)
  · refine transaction_ends (fun finished hfinish => ?_) (fun finished _ hfinish => ?_) ?_
    · exact ⟨rfl, rfl, .inl (.of_finishRun hfinish)⟩
    · exact ⟨rfl, rfl, .inl (.of_finishRun hfinish)⟩
    · exact fun error => ⟨rfl, rfl, .inl (hskipped skipped hskip)⟩
  · exact ⟨rfl, rfl, .inl (hskipped skipped hskip)⟩
  · exact fun error => ⟨rfl, rfl, .inr ⟨⟨error, rfl⟩, rfl⟩⟩

/-- The hand-over closes the run once its activation has committed. -/
theorem handOver_ends {input : ActivatePublicationInput} (plan : HandOver) (hpublished : published)
    (hid : frame.publicationId = some identity.publicationId) (hhanded : frame.handedOver = true)
    (hinput : input.publicationId = identity.publicationId)
    (hsource : input.sourceRunId = identity.sourceRunId)
    (hleft : LeftForRecovery input frame.db) :
    Ends (handOver host identity.now input plan) frame (SyncOutcome identity published) := by
  have hclosed : ∀ later, activatePublication identity.now input frame.db = .ok later →
      InDelivery identity.sourceRunId identity.publicationId later :=
    fun later hlater => hinput ▸ hsource ▸ hleft.activated hlater
  refine .bind (transaction_ends (fun activated hactivate => ?_) (fun activated _ hactivate => ?_) ?_)
  · have hdelivery := (hclosed activated hactivate).runSteps host plan.dispatching
    refine .bind (.statement_none ?_)
    refine .external ?_
    cases plan.dispatched with
    | ok value => exact hdelivery.runClosed
    | error error => exact .handedOver hid hhanded (.inl hdelivery.runClosed)
  · exact .handedOver hid hhanded (.inl (hclosed activated hactivate).runClosed)
  · exact fun error => .handedOver hid hhanded (.inr ⟨hpublished, input, hinput, hsource, hleft⟩)

end Phases

section Live

variable {host : HostFunctions} {season : FplSeasonRef} {eventId : ℕ} {plan : LiveSyncPlan}
  {db : Database} {fetch : LiveSnapshotFetch}

/-- The staging transaction of the call commits, if the call comes to it. -/
def LiveSyncPlan.StagingCommits (host : HostFunctions) (season : FplSeasonRef) (eventId : ℕ)
    (plan : LiveSyncPlan) (db : Database) : Prop :=
  ∀ fetch, plan.fetched = .ok (fetch, true) → (∀ error, plan.staging ≠ .before error) ∧
    ∃ staged, (plan.stage host season eventId fetch db).2 = .ok staged

/-- The branch of unchanged content terminates the run, or throws with the run still open. -/
theorem syncUnchangedLiveSnapshot_ends (published : Prop) (hopen : RunOpen plan.sourceRunId db) :
    Ends (syncUnchangedLiveSnapshot season eventId plan fetch) (.start db)
      (SyncOutcome plan.toSyncIdentity published) := by
  have hthrown : (SyncFrame.start db).Interrupted plan.toSyncIdentity published :=
    .undrawn rfl (.inl hopen)
  have hfinish : Ends (onDatabase plan.finishing (transaction (finishRun plan.sourceRunId .skipped
      none))) (.start db) (SyncOutcome plan.toSyncIdentity published) :=
    transaction_ends (fun _ hfinish => .inl (.of_finishRun hfinish))
      (fun _ _ hfinish => .undrawn rfl (.inr (.of_finishRun hfinish))) fun _ => hthrown
  have hheartbeat : Ends (external plan.heartbeat >>= fun _ => onDatabase plan.finishing
      (transaction (finishRun plan.sourceRunId .skipped none))) (.start db)
      (SyncOutcome plan.toSyncIdentity published) := by
    refine .bind (.external ?_)
    cases plan.heartbeat with
    | ok value => exact hfinish
    | error error => exact hthrown
  refine .bind (.statement (fun _ => ?_) (fun _ _ => hthrown) fun _ _ => hthrown)
  dsimp only
  cases (persistLiveSnapshotDurably season eventId fetch.checkedAt plan.canonicalWrites
    (plan.tables (SyncFrame.start db).db)).map fun _ => () with
  | ok value => exact hheartbeat
  | error error => exact hthrown

/-- What a staging transaction that commits has written. -/
theorem LiveSyncPlan.stage_eq_ok {staged : Option StagedLiveSnapshot}
    (h : (plan.stage host season eventId fetch db).2 = .ok staged) :
    ∃ written, liveStagingTransaction host season eventId plan.now plan.publicationId
        plan.sourceRunId fetch plan.canonicalWrites (plan.tables db) = .ok (written, staged) ∧
      (plan.stage host season eventId fetch db).1 = written.db := by
  unfold LiveSyncPlan.stage stageLiveSnapshot at h ⊢
  dsimp only at h ⊢
  split at h
  next written result htransaction =>
    obtain rfl : result = staged := Except.ok.inj h
    exact ⟨written, htransaction, rfl⟩
  · exact nomatch h

/-- The staging transaction skips its publication, or leaves it for recovery. -/
theorem LiveSyncPlan.stage_spec (hopen : RunOpen plan.sourceRunId db)
    (hfresh : plan.toSyncIdentity.Fresh db) {staged : Option StagedLiveSnapshot}
    (hstaged : (plan.stage host season eventId fetch db).2 = .ok staged) :
    (staged = none ∧
        RunTerminated plan.sourceRunId (plan.stage host season eventId fetch db).1) ∨
      ∃ snapshot, staged = some snapshot ∧ snapshot.publicationId = plan.publicationId ∧
        LeftForRecovery (plan.activation host season eventId snapshot)
          (plan.stage host season eventId fetch db).1 := by
  obtain ⟨written, htransaction, hwritten⟩ := LiveSyncPlan.stage_eq_ok hstaged
  rw [hwritten]
  obtain ⟨prepared, hprepared, h⟩ := bind_eq_ok.mp htransaction
  obtain ⟨⟨persisted, accepted⟩, hpersisted, h⟩ := bind_eq_ok.mp h
  have hdb : persisted.db = (preparePublication plan.now (liveStagingInput season eventId
      plan.publicationId plan.sourceRunId) db).1 := by
    rcases persistLiveSnapshotDurably_spec hpersisted with ⟨-, -, rfl⟩ | ⟨-, rfl⟩ <;> rfl
  have hid : prepared.publicationId = plan.publicationId :=
    congrArg (·.publicationId) (preparePublication_of_absent hfresh.publication hprepared).1
  cases accepted with
  | true =>
    obtain ⟨stored, hstored, h⟩ := bind_eq_ok.mp h
    obtain ⟨rfl, rfl⟩ := Prod.ext_iff.mp (Except.ok.inj h)
    rw [hdb] at hstored
    refine .inr ⟨_, rfl, hid, leftForRecovery_of_staged hopen hfresh rfl rfl hprepared hstored ?_⟩
    exact ⟨hid, rfl, rfl, ⟨rfl, rfl, rfl, rfl, rfl⟩, rfl⟩
  | false =>
    obtain ⟨stored, hstored, h⟩ := bind_eq_ok.mp h
    obtain ⟨rfl, rfl⟩ := Prod.ext_iff.mp (Except.ok.inj h)
    rw [hdb, hid] at hstored
    have hskipped := (PublicationStaged.of_prepared hopen hfresh.publication
      hprepared).skipPublication plan.now
    exact .inl ⟨rfl, commit_of_ok hstored ▸ hskipped⟩

/-- The branch of new content closes the run, or throws where the catch block can. -/
theorem syncChangedLiveSnapshot_ends (hopen : RunOpen plan.sourceRunId db)
    (hfresh : plan.toSyncIdentity.Fresh db) (hfetched : plan.fetched = .ok (fetch, true))
    (hcommits : plan.StagingCommits host season eventId db) :
    Ends (syncChangedLiveSnapshot host season eventId plan fetch) (.start db)
      (SyncOutcome plan.toSyncIdentity (plan.publishing = .ok true)) := by
  obtain ⟨hbefore, staged, hstaged⟩ := hcommits fetch hfetched
  have hstage := LiveSyncPlan.stage_spec hopen hfresh hstaged
  refine .bind (.assign (.bind (.statement (fun _ => ?_) ?_ fun _ _ => ?_)))
  · dsimp only [SyncFrame.start]
    rw [hstaged]
    rcases hstage with ⟨rfl, hterminated⟩ | ⟨snapshot, rfl, hid, hleft⟩
    · exact .pure (.inl hterminated)
    · have hstaged : PublicationStaged plan.publicationId plan.sourceRunId
          (plan.stage host season eventId fetch db).1 := hid ▸ hleft.staged
      refine .bind (.external ?_)
      cases hpublishing : plan.publishing with
      | error error => exact .drawn rfl rfl (.inl hstaged)
      | ok published =>
        cases published with
        | true => exact .bind (.assign (handOver_ends plan.toHandOver rfl rfl rfl hid rfl hleft))
        | false =>
          refine (skipSync_ends plan.skipping plan.finishing hstaged).mono ?_
          rintro result later ⟨hlaterId, hlaterHanded, hlater⟩
          cases result with
          | ok value =>
            rcases hlater with hterminated | ⟨⟨_, herror⟩, -⟩
            · exact .inl hterminated
            · exact nomatch herror
          | error error =>
            refine .drawn hlaterId hlaterHanded ?_
            rcases hlater with hterminated | ⟨-, hsame⟩
            · exact .inr hterminated
            · exact .inl (hsame ▸ hstaged)
  · exact fun error herror => absurd herror (hbefore error)
  · refine .drawn rfl rfl ?_
    rcases hstage with ⟨-, hterminated⟩ | ⟨snapshot, -, hid, hleft⟩
    · exact .inr hterminated
    · exact .inl (hid ▸ hleft.staged)

/-- A live sync closes its run, or throws after it has published and leaves it for recovery. -/
theorem syncLiveSnapshot_ends (hopen : RunOpen plan.sourceRunId db)
    (hfresh : plan.toSyncIdentity.Fresh db)
    (hcommits : plan.StagingCommits host season eventId db) :
    Ends (syncLiveSnapshot host season eventId plan) (.start db) fun result later =>
      RunClosed plan.sourceRunId later.db ∨
        ((∃ error, result = .error error) ∧ plan.publishing = .ok true ∧
          RunRecoverable plan.toSyncIdentity later.db) := by
  refine caught_ends (.bind (.external ?_))
  cases hfetched : plan.fetched with
  | error error => exact .undrawn rfl (.inl hopen)
  | ok fetched =>
    obtain ⟨fetch, changed⟩ := fetched
    cases changed with
    | true => exact syncChangedLiveSnapshot_ends hopen hfresh hfetched hcommits
    | false => exact syncUnchangedLiveSnapshot_ends _ hopen

end Live

section Core

variable {host : HostFunctions} {season : FplSeasonRef} {plan : CoreSyncPlan} {db : Database}
  {fetch : CoreSnapshotFetch} {revision : ℕ}

/-- The staging transaction of the call commits, if the call comes to it. -/
def CoreSyncPlan.StagingCommits (host : HostFunctions) (season : FplSeasonRef)
    (plan : CoreSyncPlan) (db : Database) : Prop :=
  ∀ fetch, plan.fetched = .ok fetch → (∀ error, plan.staging ≠ .before error) ∧
    ∃ revision, (plan.stage host season fetch db).2 = .ok revision

/-- What a staging transaction that commits has written. -/
theorem CoreSyncPlan.stage_eq_ok (h : (plan.stage host season fetch db).2 = .ok revision) :
    coreStagingTransaction host season plan fetch db =
      .ok ((plan.stage host season fetch db).1, revision) := by
  unfold CoreSyncPlan.stage at h ⊢
  split at h
  next written result htransaction =>
    obtain rfl : result = revision := Except.ok.inj h
    exact htransaction
  · exact nomatch h

/-- The staging transaction leaves its publication for recovery. -/
theorem CoreSyncPlan.stage_spec (hopen : RunOpen plan.sourceRunId db)
    (hfresh : plan.toSyncIdentity.Fresh db)
    (hstaged : (plan.stage host season fetch db).2 = .ok revision) :
    LeftForRecovery (plan.activation host season fetch revision)
      (plan.stage host season fetch db).1 := by
  obtain ⟨prepared, hprepared, h⟩ := bind_eq_ok.mp (CoreSyncPlan.stage_eq_ok hstaged)
  obtain ⟨written, hwritten, h⟩ := bind_eq_ok.mp h
  obtain ⟨_, -, h⟩ := bind_eq_ok.mp h
  obtain ⟨hdb, hrevision⟩ : written = (plan.stage host season fetch db).1 ∧
      prepared.revision = revision := Prod.ext_iff.mp (Except.ok.inj h)
  rw [← hdb]
  have hcompletes : (plan.activation host season fetch revision).Completes
      (plan.stagingInput season) prepared.revision (fetch.items.map (coreItemProof host)) :=
    ⟨rfl, rfl, rfl, ⟨rfl, rfl, rfl, rfl, hrevision.symm⟩, rfl⟩
  exact leftForRecovery_of_staged hopen hfresh rfl rfl hprepared hwritten hcompletes

/-- A core sync closes its run, or throws after it has staged and leaves it for recovery. -/
theorem syncCoreSnapshot_ends (hopen : RunOpen plan.sourceRunId db)
    (hfresh : plan.toSyncIdentity.Fresh db) (hcommits : plan.StagingCommits host season db) :
    Ends (syncCoreSnapshot host season plan) (.start db) fun result later =>
      RunClosed plan.sourceRunId later.db ∨
        ((∃ error, result = .error error) ∧ plan.staging = .none ∧
          RunRecoverable plan.toSyncIdentity later.db) := by
  refine caught_ends (.bind (.external ?_))
  cases hfetched : plan.fetched with
  | error error => exact .undrawn rfl (.inl hopen)
  | ok fetch =>
    obtain ⟨hbefore, revision, hstaged⟩ := hcommits fetch hfetched
    have hleft := CoreSyncPlan.stage_spec hopen hfresh hstaged
    have hrecoverable : RunRecoverable plan.toSyncIdentity (plan.stage host season fetch db).1 :=
      ⟨_, rfl, rfl, hleft⟩
    refine .bind (.assign (.bind (.statement (fun hanswered => ?_) ?_ fun _ _ => ?_)))
    · dsimp only [SyncFrame.start]
      rw [hstaged]
      refine .bind (.assign (.bind (.external ?_)))
      cases plan.publishing with
      | error error => exact .handedOver rfl rfl (.inr ⟨hanswered, hrecoverable⟩)
      | ok published =>
        cases published with
        | true => exact handOver_ends plan.toHandOver hanswered rfl rfl rfl rfl hleft
        | false =>
          refine (skipSync_ends plan.skipping plan.finishing hleft.staged).mono ?_
          rintro result later ⟨hlaterId, hlaterHanded, hlater⟩
          cases result with
          | ok value =>
            rcases hlater with hterminated | ⟨⟨_, herror⟩, -⟩
            · exact .inl hterminated
            · exact nomatch herror
          | error error =>
            refine .handedOver hlaterId hlaterHanded ?_
            rcases hlater with hterminated | ⟨-, hsame⟩
            · exact .inl (.inl hterminated)
            · have hdb : later.db = (plan.stage host season fetch db).1 := hsame
              exact .inr ⟨hanswered, hdb ▸ hrecoverable⟩
    · exact fun error herror => absurd herror (hbefore error)
    · exact .drawn rfl rfl (.inl hleft.staged)

end Core

/-- Whatever step of a live or core sync throws after its source run was started, unless it
rolls the staging transaction back: when the call returns or throws, the run is terminal or can
be finished by its receipt, or the call has thrown after its snapshot was published (live) or
staged (core) and the publication is left for an activation by recovery. -/
theorem failedSync_closes_run (host : HostFunctions) (season : FplSeasonRef) (runId : ℕ)
    (runInput : StartSyncRunInput) (before db : Database)
    (hnew : before.runs.find runId = none) (hstarted : startRun runId runInput before = .ok db) :
    (∀ (eventId : ℕ) (plan : LiveSyncPlan), plan.sourceRunId = runId →
      plan.toSyncIdentity.Fresh db → plan.StagingCommits host season eventId db →
        Ends (syncLiveSnapshot host season eventId plan) (.start db) fun result later =>
          RunClosed runId later.db ∨
            ((∃ error, result = .error error) ∧ plan.publishing = .ok true ∧
              RunRecoverable plan.toSyncIdentity later.db)) ∧
      ∀ plan : CoreSyncPlan, plan.sourceRunId = runId →
        plan.toSyncIdentity.Fresh db → plan.StagingCommits host season db →
          Ends (syncCoreSnapshot host season plan) (.start db) fun result later =>
            RunClosed runId later.db ∨
              ((∃ error, result = .error error) ∧ plan.staging = .none ∧
                RunRecoverable plan.toSyncIdentity later.db) := by
  have hopen : RunOpen runId db := .of_startRun hnew hstarted
  constructor
  · rintro eventId plan rfl hfresh hcommits
    exact syncLiveSnapshot_ends hopen hfresh hcommits
  · rintro plan rfl hfresh hcommits
    exact syncCoreSnapshot_ends hopen hfresh hcommits

section Examples

/-- The tables in which a live sync has started its run. -/
def startedLiveTables : Database :=
  databaseStep contextsHost (.initial [2025] [(2025, 1)]) (.startRun 1 liveRun)

/-- The connection is lost before a statement. -/
def connectionLost : RepositoryError := .plainError "Connection terminated unexpectedly"

/-- Noon of a day in August 2025. -/
theorem isoYear_noon_lt : isoYear 1755345600000 < 10000 := by decide

/-- A live sync with new content that publishes it and then activates under a fault. -/
def changedLiveSync (activating : Fault RepositoryError) : LiveSyncPlan :=
  { sourceRunId := 1, publicationId := contextId 1, outboxId := 1, now := 0
    activating := activating
    dispatching := [.claim 0 1 (some 1) none (some (contextId 1)), .markDelivered 0 1 1]
    dispatched := .ok ()
    currentSeasons := [season2526]
    liveSnapshotCheckedAt := none
    fetched := .ok (emptyLiveFetch 1755345600000 isoYear_noon_lt, true)
    canonicalWrites := .ok ()
    persisting := .none
    heartbeat := .ok ()
    staging := .none
    publishing := .ok true
    skipping := .none
    finishing := .none }

/-- A live sync whose activation does not reach the database leaves its run running. -/
theorem lost_activation_leaves_run_running :
    ¬ RunClosed 1 (tablesAfter (syncLiveSnapshot contextsHost season2526 1
      (changedLiveSync (.before connectionLost))) startedLiveTables) := by
  have hrunning : (tablesAfter (syncLiveSnapshot contextsHost season2526 1
      (changedLiveSync (.before connectionLost))) startedLiveTables).runStatus 1 =
        some .running := by decide +kernel
  rintro (⟨status, hstatus, hterminal⟩ | hfinishable)
  · obtain rfl : SyncRunStatus.running = status := Option.some.inj (hrunning.symm.trans hstatus)
    exact absurd hterminal (by decide)
  · exact absurd (hrunning.symm.trans hfinishable.ready) (by decide)

/-- An empty core snapshot. -/
def emptyCoreFetch : CoreSnapshotFetch :=
  { sourceCheckedAt := 1755345600000, publishedAt := 1755345600000, events := emptyListValue,
    teams := emptyListValue, players := emptyListValue, phases := emptyListValue,
    fixtures := emptyListValue, currentEventId := emptyListValue, selectionRules := emptyListValue }

/-- A core sync that stages it and then activates under a fault. -/
def emptyCoreSync (activating : Fault RepositoryError) : CoreSyncPlan :=
  { sourceRunId := 1, publicationId := contextId 1, outboxId := 1, now := 0
    activating := activating
    dispatching := [.claim 0 1 (some 1) none (some (contextId 1)), .markDelivered 0 1 1]
    dispatched := .ok ()
    fetched := .ok emptyCoreFetch
    canonicalWrites := .ok ()
    staging := .none
    publishing := .ok true
    skipping := .none
    finishing := .none }

/-- Where the run of a live and of a core sync is left when the activation does not reach the
database. -/
theorem lost_activation_left_for_recovery :
    Ends (syncLiveSnapshot contextsHost season2526 1 (changedLiveSync (.before connectionLost)))
        (.start startedLiveTables) (fun result later => RunClosed 1 later.db ∨
          ((∃ error, result = .error error) ∧
            (changedLiveSync (.before connectionLost)).publishing = .ok true ∧
            RunRecoverable (changedLiveSync (.before connectionLost)).toSyncIdentity later.db)) ∧
      Ends (syncCoreSnapshot contextsHost season2526 (emptyCoreSync (.before connectionLost)))
        (.start startedLiveTables) fun result later => RunClosed 1 later.db ∨
          ((∃ error, result = .error error) ∧
            (emptyCoreSync (.before connectionLost)).staging = .none ∧
            RunRecoverable (emptyCoreSync (.before connectionLost)).toSyncIdentity later.db) := by
  have hstarted : startRun 1 liveRun (.initial [2025] [(2025, 1)]) = .ok startedLiveTables := rfl
  have hsyncs := failedSync_closes_run contextsHost season2526 1 liveRun _ _ rfl hstarted
  constructor
  · refine hsyncs.1 1 (changedLiveSync (.before connectionLost)) rfl
      ⟨rfl, fun _ => rfl, fun _ _ h => (nomatch h), rfl⟩ fun fetch hfetch => ?_
    obtain ⟨rfl, -⟩ := Prod.ext_iff.mp (Except.ok.inj hfetch)
    exact ⟨nofun, _, rfl⟩
  · refine hsyncs.2 (emptyCoreSync (.before connectionLost)) rfl
      ⟨rfl, fun _ => rfl, fun _ _ h => (nomatch h), rfl⟩ fun fetch hfetch => ?_
    obtain rfl := Except.ok.inj hfetch
    exact ⟨nofun, _, rfl⟩

end Examples

end LetletmeData
