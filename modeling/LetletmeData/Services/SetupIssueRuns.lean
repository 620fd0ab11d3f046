import LetletmeData.Library.Runs
import LetletmeData.Repositories.TournamentSetupIssues
import LetletmeData.Services.TournamentAudit
import LetletmeData.Workers.SetupAttempts

/-!
# Runs that synchronise setup issues

A setup, a repair and the reconciliation of warnings each collect issues and synchronise the stored
ones with them. They run one at a time under the lifecycle scope of the tournament, in a
transaction that an error takes back. What the services they call return, and where a run breaks
off, is given with the run, and so are the instants; the instants within a run are taken to be one.
-/

namespace LetletmeData

open LetletmeData.Library

/-- What a check is about: a code, and an event or none. -/
abbrev SetupIssueSubject := TournamentSetupIssueCode × Option ℕ

/-! ### The services -/

/-- The result of the sync of entry details: which entries needed it and failed, and for which of
these no row of the season is proven. -/
structure EntrySyncReads where
  fails : ℤ → Bool
  unproven : ℤ → Bool

/-- The count of entries in a message. -/
def entryLabel (count : ℕ) : String := s!"{count} " ++ if count = 1 then "entry" else "entries"

/-- `classifyEntrySnapshotFailures`. -/
def classifyEntrySnapshotFailures (failedEntryIds : List ℤ) (unproven : ℤ → Bool) :
    List TournamentSetupIssue :=
  let blockingEntries := failedEntryIds.filter unproven
  let warningEntries := failedEntryIds.filter fun entryId => !unproven entryId
  (if blockingEntries ≠ [] then
    [{ scope := .entryInfo
       message := "Current-season entry snapshot remains unproven for " ++
         entryLabel blockingEntries.length
       failedEntries := blockingEntries
       blocksStandings := true }] else []) ++
  if warningEntries ≠ [] then
    [{ scope := .entryInfo
       message := "Failed to refresh detailed entry info for " ++ entryLabel warningEntries.length
       failedEntries := warningEntries }] else []

/-- `syncTournamentEntryDetails`. -/
def syncTournamentEntryDetails (entryIds : List ℤ) (reads : EntrySyncReads) :
    List TournamentSetupIssue :=
  let sanitized := (entryIds.filter (0 < ·)).eraseDups
  classifyEntrySnapshotFailures (sanitized.filter reads.fails) reads.unproven

/-- The result of `syncEntryTransferHistories`. -/
structure TransferHistoryResult where
  errors : ℕ
  failedEntryIds : List ℤ

/-- The issue of a failed transfer history. -/
def TransferHistoryResult.issues (result : TransferHistoryResult) : List TournamentSetupIssue :=
  if 0 < result.errors then
    [{ scope := .eventResults
       code := some .entryHistoryIncomplete
       category := some .insights
       message := s!"Failed to sync transfer history for {result.errors} entries"
       failedEntries := result.failedEntryIds }]
  else []

/-- The result of `syncLeagueEventResultsByTournament`. -/
structure LeagueEventResult where
  totalEntries : ℕ
  reusedUnits : ℕ
  succeededUnits : ℕ
  failedUnits : ℕ
  skipped : ℕ
  updated : ℕ

/-- The result of `syncTournamentSelectionStats`. -/
structure SelectionStatsResult where
  rows : ℕ
  failedUnits : ℕ

/-- The enrichment of one event: the entries without picks, and how the three calls end. -/
structure EventEnrichment where
  missingEntryIds : List ℤ
  resultsError : Option String
  league : Except String LeagueEventResult
  selection : Except String SelectionStatsResult

/-- The issue of an enrichment that throws. -/
def EventEnrichment.failure (reads : EventEnrichment) (entryIds : List ℤ) (eventId : ℕ)
    (message : String) : TournamentSetupIssue where
  scope := .eventResults
  eventId := some eventId
  message := message
  failedEntries := if reads.missingEntryIds ≠ [] then reads.missingEntryIds else entryIds

/-- The body of the loop of `enrichTournamentHistory`: its issues, and what it has checked. -/
def enrichEvent (entryIds : List ℤ) (eventId : ℕ) (reads : EventEnrichment) :
    List TournamentSetupIssue × List SetupIssueSubject :=
  match if reads.missingEntryIds ≠ [] then reads.resultsError else none with
  | some message => ([reads.failure entryIds eventId message], [])
  | none =>
    match reads.league with
    | .error message => ([reads.failure entryIds eventId message], [])
    | .ok league =>
      let leagueIssues : List TournamentSetupIssue :=
        if 0 < league.failedUnits ∨ 0 < league.skipped then
          let converged := league.reusedUnits + league.succeededUnits
          [{ scope := .leagueEventResults
             eventId := some eventId
             failedEntries := entryIds
             message :=
              s!"League insights incomplete for event {eventId}: {converged}/{league.totalEntries}" }]
        else []
      match reads.selection with
      | .error message =>
        (leagueIssues ++ [reads.failure entryIds eventId message],
          [(.leagueInsightsIncomplete, some eventId)])
      | .ok selection =>
        (leagueIssues ++
          (if entryIds ≠ [] ∧ selection.rows = 0 then
            [{ scope := .selectionInsights
               eventId := some eventId
               failedEntries := entryIds
               message := s!"Selection insights are incomplete for event {eventId}" }]
          else []),
          [(.leagueInsightsIncomplete, some eventId), (.selectionInsightsIncomplete, some eventId)])

/-- The enrichment of a history: the entries that need their transfers, the result of their sync,
and the events. -/
structure EnrichmentReads where
  transferEntryIds : List ℤ
  transfers : TransferHistoryResult
  event : ℕ → EventEnrichment

/-- `enrichTournamentHistory`, up to a number of events, or without its transfers. -/
def enrichTournamentHistory (entryIds : List ℤ) (eventIds : List ℕ) (reads : EnrichmentReads)
    (done : Option ℕ) : List TournamentSetupIssue × List SetupIssueSubject :=
  match done with
  | none => ([], [])
  | some events =>
    let enriched := (eventIds.reverse.take events).map fun eventId =>
      enrichEvent entryIds eventId (reads.event eventId)
    ((if reads.transferEntryIds ≠ [] then reads.transfers.issues else []) ++
        enriched.flatMap Prod.fst,
      (.entryHistoryIncomplete, none) :: enriched.flatMap Prod.snd)

/-- The results of `runTournamentEventBackfill`. -/
structure EventBackfillReads where
  totalEntries : ℕ
  synced : ℕ
  errors : ℕ
  league : LeagueEventResult
  pointsSkipped : ℕ
  battleSkipped : ℕ
  knockoutSkipped : ℕ

/-- `runTournamentEventBackfill`. -/
def runTournamentEventBackfill (config : TournamentSetupConfig) (entryIds : List ℤ) (eventId : ℕ)
    (reads : EventBackfillReads) : List TournamentSetupIssue :=
  let tournament := config.tournament
  let inGroups := inPhase tournament.groupStartedEventId tournament.groupEndedEventId eventId
  let inKnockouts :=
    inPhase tournament.knockoutStartedEventId tournament.knockoutEndedEventId eventId
  let issue (scope : TournamentSetupIssueScope) (message : String) : TournamentSetupIssue :=
    { scope, message, eventId := some eventId, failedEntries := entryIds }
  (if 0 < reads.errors ∨ reads.synced < reads.totalEntries then
    [issue .eventResults
      s!"Tournament event results incomplete for event {eventId}: {reads.synced}/{reads.totalEntries}"]
  else []) ++
  (if 0 < reads.league.skipped ∨ reads.league.updated < reads.league.totalEntries then
    [issue .leagueEventResults
      s!"League event results incomplete for event {eventId}: {reads.league.updated}/{reads.league.totalEntries}"]
  else []) ++
  (if tournament.groupMode = .pointsRaces ∧ inGroups ∧ 0 < reads.pointsSkipped then
    [issue .pointsRace
      s!"Tournament points race sync incomplete for event {eventId}: skipped {reads.pointsSkipped}"]
  else []) ++
  (if tournament.groupMode = .battleRaces ∧ ¬ config.isOfficialH2HTournament ∧ inGroups ∧
      0 < reads.battleSkipped then
    [issue .battleRace
      s!"Tournament battle race sync incomplete for event {eventId}: skipped {reads.battleSkipped}"]
  else []) ++
  if tournament.knockoutMode ≠ .noKnockout ∧ ¬ config.isOfficialH2HTournament ∧ inKnockouts ∧
      0 < reads.knockoutSkipped then
    [issue .knockout
      s!"Tournament knockout sync incomplete for event {eventId}: skipped {reads.knockoutSkipped}"]
  else []

/-- What an audit checks: the profiles, the structure, and the results of every event of its
window, and thereby the results as a whole. -/
def TournamentAuditReads.checked (window : Option TournamentBackfillWindow)
    (reads : TournamentAuditReads) : List SetupIssueSubject :=
  (.entryProfileIncomplete, none) :: (.structureIntegrityFailed, none) ::
    (reads.auditedWindow window).elim [] fun window =>
      (.tournamentResultsIncomplete, none) ::
        window.eventIds.map fun eventId => (.tournamentResultsIncomplete, some eventId)

/-! ### One synchronisation -/

/-- A call of `sync` in a run: the issues and keys it is given, and what the run has found and
checked before it. -/
structure SetupIssueSync where
  given : List TournamentSetupIssueInput
  preserveUnresolvedIssueKeys : List String
  found : List TournamentSetupIssueInput
  checked : List SetupIssueSubject
  deriving DecidableEq

/-- The issues of a tournament and its setup columns. -/
structure SetupIssueWorld where
  row : TournamentSetupRow
  issues : TournamentSetupIssues

/-- `sync`. -/
def SetupIssueWorld.sync (now : ℕ) (world : SetupIssueWorld) (call : SetupIssueSync) :
    SetupIssueWorld :=
  let issues := world.issues.sync now call.given call.preserveUnresolvedIssueKeys
  ⟨world.row.recordIssues now issues, issues⟩

/-! ### A setup -/

/-- How far a setup has come behind its standings when it throws. -/
inductive SetupReach where
  | planning
  | enriching (events : ℕ)
  | auditing
  | finalizing
  | publishing
  deriving DecidableEq

/-- An error behind the standings that is not one of a statement. -/
structure LateSetupFailure where
  reach : SetupReach
  message : String
  code : String

/-- What a setup reads when its standings are published. -/
structure SetupIssueReads where
  config : TournamentSetupConfig
  entryIds : List ℤ
  finalizedEventId : Option ℕ
  entrySync : EntrySyncReads
  coreAudit : TournamentAuditReads
  enrichment : EnrichmentReads
  finalAudit : TournamentAuditReads
  late : Option LateSetupFailure

namespace SetupIssueReads

variable (reads : SetupIssueReads)

/-- The window of the history. -/
def window : Option TournamentBackfillWindow :=
  getTournamentBackfillWindow reads.config.tournament reads.finalizedEventId

/-- The events of the history. -/
def eventIds : List ℕ := reads.window.elim [] (·.eventIds)

/-- How far the setup comes. -/
def reach : SetupReach := reads.late.elim .publishing (·.reach)

/-- The issues of the entries. -/
def entrySyncIssues : List TournamentSetupIssue :=
  syncTournamentEntryDetails reads.entryIds reads.entrySync

/-- The entries or the audit before the standings keep them from being published. -/
def blocked : Bool :=
  reads.entrySyncIssues.any (·.blocksStandings) ||
    (auditTournamentSetup reads.config reads.window reads.coreAudit).issues.any
      (·.isBlockingCoreAuditIssue)

/-- The enrichment, as far as it comes. -/
def enriched : List TournamentSetupIssue × List SetupIssueSubject :=
  enrichTournamentHistory reads.entryIds reads.eventIds reads.enrichment <|
    match reads.reach with
    | .planning => none
    | .enriching events => some events
    | _ => some reads.eventIds.length

/-- The audit that was made last. -/
def lastAudit : TournamentAuditReads :=
  match reads.reach with
  | .finalizing | .publishing => reads.finalAudit
  | _ => reads.coreAudit

/-- All that the setup has found. -/
def foundIssues : List TournamentSetupIssue :=
  reads.entrySyncIssues ++ reads.enriched.1 ++
    (auditTournamentSetup reads.config reads.window reads.lastAudit).setupIssues reads.entryIds

/-- All that the setup has checked. -/
def checked : List SetupIssueSubject :=
  reads.enriched.2 ++ reads.lastAudit.checked reads.window

/-- The issue of a late failure. -/
def lateIssue (failure : LateSetupFailure) : TournamentSetupIssue where
  scope := .eventResults
  message := failure.message
  failedEntries := reads.entryIds
  diagnosticCode := some failure.code

/-- The calls of `sync`: one with all that was found, and one with the late failure alone. -/
def syncs (now : ℕ) : List SetupIssueSync :=
  let found := reads.foundIssues.map (normalizeTournamentSetupIssue now)
  let call (given : List TournamentSetupIssueInput) : SetupIssueSync :=
    ⟨given, [], found, reads.checked⟩
  match reads.late with
  | none => [call found]
  | some failure =>
    (if failure.reach = .publishing then [call found] else []) ++
      [call [normalizeTournamentSetupIssue now (reads.lateIssue failure)]]

end SetupIssueReads

/-- How the transaction of a setup job ends: before the standings are published, by an error of a
statement, or with standings; in this case with the progress it has marked last. -/
inductive SetupIssueEnding where
  | throws (error : SetupError)
  | throwsEarly (error : SetupError)
  | escapes (enteredSetup : Bool) (error : SetupError)
  | publishes (reads : SetupIssueReads) (phase : TournamentSetupPhase)
      (completedUnits totalUnits : ℕ) (progressIndeterminate : Bool)

namespace SetupIssueEnding

/-- The calls of `sync` of a setup. -/
def syncs (now : ℕ) : SetupIssueEnding → List SetupIssueSync
  | .publishes reads _ _ _ _ => if reads.blocked then [] else reads.syncs now
  | _ => []

/-- The ending of the job, with what its calls of `sync` have recorded. -/
def ending (recorded : TournamentSetupRow) : SetupIssueEnding → SetupEnding
  | .throws error => .throws error
  | .throwsEarly error => .throwsEarly error
  | .escapes enteredSetup error => .escapes enteredSetup error
  | .publishes reads phase completedUnits totalUnits progressIndeterminate =>
    if reads.blocked then .throws ⟨"Error", false⟩
    else
      .completes
        { phase
          completedUnits
          totalUnits
          progressIndeterminate
          profilesReadyAt := recorded.profilesReadyAt
          insightsReadyAt := recorded.insightsReadyAt
          warningCount := recorded.setupWarningCount }

end SetupIssueEnding

/-- The world in which a setup synchronises: its standings are published. -/
def SetupIssueWorld.published (progressMarker : Option ℕ) (attempt now : ℕ)
    (claimed : TournamentSetupRow) (world : SetupIssueWorld) : SetupIssueWorld :=
  { world with
    row := (claimed.markSetupProcessing progressMarker attempt now).markStandingsReady
      progressMarker now }

/-! ### A repair -/

/-- What a repair reads. -/
structure RepairReads where
  config : TournamentSetupConfig
  entryIds : List ℤ
  finalizedEventId : Option ℕ
  entrySync : EntrySyncReads
  transfers : TransferHistoryResult
  league : Except String LeagueEventResult
  selection : Except String SelectionStatsResult
  backfill : EventBackfillReads
  audit : TournamentAuditReads

/-- `scopedEntryIds`. -/
def scopedEntryIds (allEntryIds affectedEntryIds : List ℤ) : List ℤ :=
  let requested := affectedEntryIds.eraseDups.filter (· ∈ allEntryIds)
  if requested ≠ [] then requested else allEntryIds

/-- `issueEventId`. -/
def issueEventId (issueEventIdValue : Option ℕ) (window : Option TournamentBackfillWindow) :
    Option ℕ :=
  (issueEventIdValue.filter (0 < ·)).or (window.map (·.endEventId))

/-- `dedupeIssues`, of normalized issues: the last one under each key. -/
def dedupeIssues (issues : List TournamentSetupIssueInput) : List TournamentSetupIssueInput :=
  (issues.map (·.issueKey)).eraseDups.filterMap (lastGiven issues)

namespace RepairReads

variable (reads : RepairReads)

/-- The window of the history. -/
def window : Option TournamentBackfillWindow :=
  getTournamentBackfillWindow reads.config.tournament reads.finalizedEventId

/-- The issue of an incomplete repair. -/
def incomplete (scope : TournamentSetupIssueScope) (eventId : ℕ) (targetEntryIds : List ℤ)
    (message : String) : TournamentSetupIssue :=
  { scope, message, eventId := some eventId, failedEntries := targetEntryIds }

/-- The repair of an issue, by its code: the issues it reports, and what it has checked. -/
def repair (issue : TournamentSetupIssueRow) :
    List TournamentSetupIssue × List SetupIssueSubject :=
  let targetEntryIds := scopedEntryIds reads.entryIds issue.affectedEntryIds
  let eventId := issueEventId issue.eventId reads.window
  match issue.code, eventId with
  | .entryProfileIncomplete, _ =>
    if targetEntryIds = [] then ([], [])
    else
      (syncTournamentEntryDetails targetEntryIds reads.entrySync, [(.entryProfileIncomplete, none)])
  | .entryHistoryIncomplete, some _ =>
    if targetEntryIds = [] then ([], [])
    else (reads.transfers.issues, [(.entryHistoryIncomplete, none)])
  | .leagueInsightsIncomplete, some eventId =>
    if targetEntryIds = [] then ([], [])
    else
      (match reads.league with
        | .error message => [incomplete .leagueEventResults eventId targetEntryIds message]
        | .ok league =>
          if 0 < league.failedUnits ∨ 0 < league.skipped then
            [incomplete .leagueEventResults eventId targetEntryIds
              s!"League insights incomplete for event {eventId}: {league.succeededUnits}/{league.totalEntries}"]
          else [],
        [(.leagueInsightsIncomplete, some eventId)])
  | .selectionInsightsIncomplete, some eventId =>
    -- the only repair that looks at the event without any entries
    (match reads.selection with
      | .error message => [incomplete .selectionInsights eventId targetEntryIds message]
      | .ok selection =>
        if 0 < selection.failedUnits ∨ (targetEntryIds ≠ [] ∧ selection.rows = 0) then
          [incomplete .selectionInsights eventId targetEntryIds
            s!"Selection insights are incomplete for event {eventId}"]
        else [],
      [(.selectionInsightsIncomplete, some eventId)])
  | .structureIntegrityFailed, _ => ([], [(.structureIntegrityFailed, none)])
  | .tournamentResultsIncomplete, some eventId =>
    if targetEntryIds = [] then ([], [])
    else
      (runTournamentEventBackfill reads.config targetEntryIds eventId reads.backfill,
        [(.tournamentResultsIncomplete, some eventId), (.leagueInsightsIncomplete, some eventId)])
  | _, none => ([], [])

/-- All that a repair has found. -/
def foundIssues (issue : TournamentSetupIssueRow) : List TournamentSetupIssue :=
  (reads.repair issue).1 ++
    (auditTournamentSetup reads.config reads.window reads.audit).setupIssues reads.entryIds

/-- The call of `sync` of a repair: the other unresolved issues are preserved. -/
def sync (now : ℕ) (issues : TournamentSetupIssues) (issue : TournamentSetupIssueRow) :
    SetupIssueSync :=
  let found := (reads.foundIssues issue).map (normalizeTournamentSetupIssue now)
  { given := dedupeIssues found
    preserveUnresolvedIssueKeys :=
      (issues.listUnresolved.filter fun existing => existing.2.issueId ≠ issue.issueId).map Prod.fst
    found
    checked := (reads.repair issue).2 ++ reads.audit.checked reads.window }

end RepairReads

/-! ### A reconciliation -/

/-- What a reconciliation of warnings reads. -/
structure ReconciliationReads where
  config : TournamentSetupConfig
  entryIds : List ℤ
  finalizedEventId : Option ℕ
  audit : TournamentAuditReads

namespace ReconciliationReads

variable (reads : ReconciliationReads)

/-- The window of the history. -/
def window : Option TournamentBackfillWindow :=
  getTournamentBackfillWindow reads.config.tournament reads.finalizedEventId

/-- The issues of the audit. -/
def foundIssues : List TournamentSetupIssue :=
  (auditTournamentSetup reads.config reads.window reads.audit).setupIssues reads.entryIds

/-- The call of `sync`, unless the audit finds nothing while warnings are counted. -/
def syncs (now setupWarningCount : ℕ) : List SetupIssueSync :=
  let issues := reads.foundIssues.map (normalizeTournamentSetupIssue now)
  if issues = [] ∧ 0 < setupWarningCount then []
  else [⟨issues, [], issues, reads.audit.checked reads.window⟩]

end ReconciliationReads

/-! ### Histories -/

/-- The other statements of a setup that are not part of a run of the worker. -/
inductive SetupRowWrite where
  | retryQueued
  | attemptFailure (failure : TournamentSetupAttemptFailure)
  | stuckSetupQueued (expectedProgressUpdatedAt : Option ℕ)
  | setupFailed

/-- The statement. -/
def SetupRowWrite.apply (now : ℕ) (row : TournamentSetupRow) : SetupRowWrite → TournamentSetupRow
  | .retryQueued => row.markSetupRetryQueued now
  | .attemptFailure failure => row.markSetupAttemptFailure failure now
  | .stuckSetupQueued expected => row.markStuckSetupQueuedIfUnchanged expected now
  | .setupFailed => row.markSetupFailed now

/-- An event of a history. A repair or a reconciliation that does not complete has thrown outside
the errors it catches, and its transaction is taken back. -/
inductive SetupIssueEvent where
  | setup (job : TournamentSetupJob) (resumeJobLive : Bool) (ending : SetupIssueEnding)
  | repair (issueId : ℕ) (reads : RepairReads) (completes : Bool)
  | reconcile (reads : ReconciliationReads) (completes : Bool)
  | recordRepairAttempt (issueId : ℕ) (nextRepairAt : Option ℕ) (exhausted : Bool)
  | write (write : SetupRowWrite)

namespace SetupIssueWorld

/-- A tournament without issues. -/
def start (row : TournamentSetupRow) : SetupIssueWorld := ⟨row, .empty⟩

end SetupIssueWorld

/-- The calls of `sync` that an event makes, as far as they last: a repair whose issue is still open
afterwards throws, and its transaction is taken back. -/
def SetupIssueEvent.syncs (now : ℕ) (world : SetupIssueWorld) :
    SetupIssueEvent → List SetupIssueSync
  | .setup job resumeJobLive ending =>
    match startSetupJob job resumeJobLive world.row with
    | .enters _ _ _ => ending.syncs now
    | _ => []
  | .repair issueId reads completes =>
    match world.issues.findUnresolvedById issueId, completes with
    | some issue, true =>
      let call := reads.sync now world.issues issue.2
      if ((world.sync now call).issues.findUnresolvedById issueId).isSome then [] else [call]
    | _, _ => []
  | .reconcile reads completes =>
    if completes then reads.syncs now world.row.setupWarningCount else []
  | .recordRepairAttempt _ _ _ => []
  | .write _ => []

/-- The world in which an event calls `sync`. -/
def SetupIssueEvent.synchronising (now : ℕ) (world : SetupIssueWorld) :
    SetupIssueEvent → SetupIssueWorld
  | .setup job resumeJobLive _ =>
    match startSetupJob job resumeJobLive world.row with
    | .enters claimed attempt _ => world.published job.resumeMarker attempt now claimed
    | _ => world
  | _ => world

/-- The world after the calls of `sync` of an event. -/
def SetupIssueEvent.synchronised (now : ℕ) (world : SetupIssueWorld) (event : SetupIssueEvent) :
    SetupIssueWorld :=
  runSteps (SetupIssueWorld.sync now) (event.synchronising now world) (event.syncs now world)

/-- A history, one event further, at an instant. -/
def setupIssueStep (world : SetupIssueWorld) (step : ℕ × SetupIssueEvent) : SetupIssueWorld :=
  let synchronised := step.2.synchronised step.1 world
  match step.2 with
  | .setup job resumeJobLive ending =>
    { row := (runSetupJob job resumeJobLive (ending.ending synchronised.row) step.1 world.row).row
      issues := synchronised.issues }
  | .repair _ _ _ => synchronised
  | .reconcile _ _ => synchronised
  | .recordRepairAttempt issueId nextRepairAt exhausted =>
    { world with issues := world.issues.recordRepairAttempt step.1 issueId nextRepairAt exhausted }
  | .write write => { world with row := write.apply step.1 world.row }

end LetletmeData
