import LetletmeData.Domain.TournamentPlan
import LetletmeData.Utils.MutationScopes

/-!
# The scopes of a tournament setup

A setup runs inside one call with the lifecycle scope of its tournament. Inside it makes calls for
its entries, for the rebuild of the structure, for the results that are missing, for each event of
the history and for the enrichment, one after another.
-/

namespace LetletmeData

/-- The events of the history of a tournament, from the first to the last. -/
structure TournamentBackfillWindow where
  startEventId : ℕ
  endEventId : ℕ
  deriving DecidableEq

/-- `getTournamentBackfillWindow`. -/
def getTournamentBackfillWindow (tournament : TournamentConfig) (currentEventId : Option ℕ) :
    Option TournamentBackfillWindow :=
  let startEventId :=
    if tournament.groupMode ≠ .noGroup then tournament.groupStartedEventId
    else tournament.knockoutStartedEventId.or tournament.groupStartedEventId
  let configuredEndEventId :=
    if tournament.knockoutMode ≠ .noKnockout then tournament.knockoutEndedEventId
    else tournament.groupEndedEventId
  match startEventId, configuredEndEventId, currentEventId with
  | some startEventId, some configuredEndEventId, some currentEventId =>
    let endEventId := min configuredEndEventId currentEventId
    if startEventId = 0 ∨ configuredEndEventId = 0 ∨ endEventId < startEventId then none
    else some ⟨startEventId, endEventId⟩
  | _, _, _ => none

/-- The events of a window in order. -/
def TournamentBackfillWindow.eventIds (window : TournamentBackfillWindow) : List ℕ :=
  List.range' window.startEventId (window.endEventId - window.startEventId + 1)

/-- Both bounds of a phase are given, and the event lies between them. -/
def inPhase (startedEventId endedEventId : Option ℕ) (eventId : ℕ) : Bool :=
  match startedEventId, endedEventId with
  | some startedEventId, some endedEventId =>
    startedEventId ≠ 0 && endedEventId ≠ 0 && startedEventId ≤ eventId && eventId ≤ endedEventId
  | _, _ => false

/-- A setup with what it reads: its tournament and entries, the latest finalized event, and what
its audits find missing; and how many calls of the enrichment of an event it begins, which is all
of them unless one throws. -/
structure SetupRun where
  seasonId : ℕ
  tournament : TournamentConfig
  leagueType : Option LeagueType
  rosterMode : Option RosterMode
  entryIds : List ℤ
  finalizedEventId : Option ℕ
  lacksResult : ℕ → ℤ → Bool
  lacksPicks : ℕ → ℤ → Bool
  lacksTransfers : ℤ → Bool
  enrichmentCalls : ℕ → ℕ

namespace SetupRun

variable (run : SetupRun)

/-- `isOfficialH2HTournament`. -/
def isOfficialH2HTournament : Bool :=
  run.leagueType = some .h2h && run.rosterMode = some .officialSync &&
    run.tournament.groupMode = .battleRaces

/-- The events of the history. -/
def eventIds : List ℕ :=
  match getTournamentBackfillWindow run.tournament run.finalizedEventId with
  | some window => window.eventIds
  | none => []

/-- The scopes of a call of a setup; the name of the call does not matter. -/
def callScopes (scopes : List String) : List String :=
  lockedScopes ⟨"tournament-setup", "tournament-setup", none, none⟩ scopes

/-- The scopes of a call for entries. -/
def entryScopes (entryIds : List ℤ) : List String :=
  callScopes (tournamentEntryCoreScopes run.seasonId entryIds)

/-- A call for the entries that lack something, if there are any. -/
def missingCalls (lacks : ℤ → Bool) : List (List String) :=
  match run.entryIds.filter lacks with
  | [] => []
  | missing => [run.entryScopes missing]

/-- The call for one event of the history. -/
def historyScopes (eventId : ℕ) : List String :=
  callScopes (tournamentSetupBackfillEventScopes (.ofNat eventId))

/-- The calls of `ensureTournamentCoreResults`. -/
def coreResultCalls : List (List String) :=
  run.eventIds.flatMap fun eventId => run.missingCalls (run.lacksResult eventId)

/-- The calls of `calculateTournamentHistoryFromStoredResults` for one event: for a points race,
for a battle race and for a knockout. -/
def historyCalls (eventId : ℕ) : List (List String) :=
  let tournament := run.tournament
  let inGroups := inPhase tournament.groupStartedEventId tournament.groupEndedEventId eventId
  let inKnockouts := inPhase tournament.knockoutStartedEventId tournament.knockoutEndedEventId eventId
  (if tournament.groupMode = .pointsRaces ∧ inGroups then [historyScopes eventId] else []) ++
    (if tournament.groupMode = .battleRaces ∧ ¬ run.isOfficialH2HTournament ∧ inGroups then
      [historyScopes eventId] else []) ++
    if tournament.knockoutMode ≠ .noKnockout ∧ ¬ run.isOfficialH2HTournament ∧ inKnockouts then
      [historyScopes eventId] else []

/-- The calls of `enrichTournamentHistory`, which goes through the events from the last one. -/
def enrichmentScopes : List (List String) :=
  run.missingCalls run.lacksTransfers ++
    run.eventIds.reverse.flatMap fun eventId =>
      (run.missingCalls (run.lacksPicks eventId) ++
        [run.entryScopes run.entryIds, run.entryScopes run.entryIds]).take
          (run.enrichmentCalls eventId)

/-- The scopes of all calls: the one of the worker, and those of `setupTournamentStructure`. -/
def calls : List (List String) :=
  callScopes [tournamentSetupLifecycleScope (.ofNat run.tournament.id)] ::
    run.entryScopes run.entryIds ::
    callScopes (tournamentSetupRebuildScopes (.ofNat run.tournament.id)) ::
    (run.coreResultCalls ++ run.eventIds.flatMap run.historyCalls ++ run.enrichmentScopes)

end SetupRun

/-- The result jobs that write the structure of tournaments, and the refresh of their views. -/
inductive StructureResultJob where
  | pointsRace
  | battleRace
  | knockout
  | officialH2H
  | materializedViewsRefresh
  deriving DecidableEq

/-- The name of the job. -/
def StructureResultJob.jobName : StructureResultJob → String
  | .pointsRace => "tournament-points-race"
  | .battleRace => "tournament-battle-race"
  | .knockout => "tournament-knockout"
  | .officialH2H => "tournament-official-h2h"
  | .materializedViewsRefresh => "tournament-materialized-views-refresh"

/-- A job that locks the structure of tournaments. -/
inductive StructureJob where
  | setup (run : SetupRun)
  | result (job : StructureResultJob) (eventId : Option ScopeNumber)

/-- The scopes of the calls of a job; a result job makes one call. -/
def StructureJob.calls : StructureJob → List (List String)
  | .setup run => run.calls
  | .result job eventId => [jobScopes ⟨"tournament-sync", job.jobName, eventId, none⟩]

end LetletmeData
