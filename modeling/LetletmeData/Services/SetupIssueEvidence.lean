import LetletmeData.Services.SetupIssueRuns
import LetletmeData.Workers.SetupAttemptBounds

/-!
# Evidence for closed setup issues

A synchronisation closes whatever it is not given, so an issue is closed with evidence exactly when
the run that does not report it has looked at it. What a run looks at follows from its caller, from
the window of the history and from the calls that have not thrown.
-/

namespace LetletmeData

open LetletmeData.Library

/-! ### The law -/

/-- A reported issue concerns a stored one: of its code and its event, or of any event when the
stored one has none. -/
def TournamentSetupIssueInput.Concerns (issue : TournamentSetupIssueInput)
    (row : TournamentSetupIssueRow) : Prop :=
  issue.code = row.code ∧ (row.eventId = none ∨ issue.eventId = row.eventId)

/-- The run has checked the code and the event of a stored issue, and found nothing wrong. -/
structure SetupIssueSync.Verifies (call : SetupIssueSync) (row : TournamentSetupIssueRow) :
    Prop where
  checked : (row.code, row.eventId) ∈ call.checked
  clean : ∀ issue ∈ call.found, ¬ issue.Concerns row

/-- An entry is listed in an unresolved issue of a code. -/
def TournamentSetupIssues.Lists (issues : TournamentSetupIssues) (code : TournamentSetupIssueCode)
    (entryId : ℤ) : Prop :=
  ∃ key row, issues.rows.find key = some row ∧ row.resolvedAt = none ∧ row.code = code ∧
    entryId ∈ row.affectedEntryIds

/-- A synchronisation closes only what its run has verified, and lists every entry that is
reported to it. -/
structure SyncKeepsIssues (now : ℕ) (world : SetupIssueWorld) (call : SetupIssueSync) : Prop where
  closed : ∀ key row after, world.issues.rows.find key = some row → row.resolvedAt = none →
    (world.sync now call).issues.rows.find key = some after → after.resolvedAt ≠ none →
      call.Verifies row
  listed : ∀ issue ∈ call.given, ∀ entryId ∈ issue.affectedEntryIds, 0 < entryId →
    (world.sync now call).issues.Lists issue.code entryId

/-- The instants of readiness stand only over issues that are all resolved. -/
structure SetupIssueWorld.ReadinessHonest (world : SetupIssueWorld) : Prop where
  profiles : world.row.profilesReadyAt ≠ none → ∀ key row, world.issues.rows.find key = some row →
    row.category ∈ [TournamentSetupIssueCategory.profiles] → row.resolvedAt ≠ none
  insights : world.row.insightsReadyAt ≠ none → ∀ key row, world.issues.rows.find key = some row →
    row.category ∈ [TournamentSetupIssueCategory.insights, .results] → row.resolvedAt ≠ none

/-- An event closes issues with evidence: its calls of `sync` do, nothing else closes any, and the
readiness it leaves is that of its issues. -/
structure ClosesWithEvidence (world : SetupIssueWorld) (step : ℕ × SetupIssueEvent) : Prop where
  syncs : EveryStep (SetupIssueWorld.sync step.1) (SyncKeepsIssues step.1)
    (step.2.synchronising step.1 world) (step.2.syncs step.1 world)
  others : step.2.syncs step.1 world = [] → ∀ key,
    ((setupIssueStep world step).issues.rows.find key).map (·.resolvedAt) =
      (world.issues.rows.find key).map (·.resolvedAt)
  readiness : (setupIssueStep world step).ReadinessHonest

/-! ### The condition -/

/-- What an audit covers. -/
def TournamentAuditReads.Covers (window : Option TournamentBackfillWindow)
    (reads : TournamentAuditReads) : SetupIssueSubject → Prop
  | (.entryProfileIncomplete, none) => True
  | (.structureIntegrityFailed, none) => True
  | (.tournamentResultsIncomplete, none) => reads.entryIds ≠ [] ∧ window ≠ none
  | (.tournamentResultsIncomplete, some eventId) =>
    reads.entryIds ≠ [] ∧ ∃ bounds ∈ window, eventId ∈ bounds.eventIds
  | _ => False

/-- The calls of the enrichment of an event reach its league results. -/
def EventEnrichment.ReachesLeague (reads : EventEnrichment) : Prop :=
  (reads.missingEntryIds = [] ∨ reads.resultsError = none) ∧ ∃ league, reads.league = .ok league

/-- The events that a setup enriches: the last ones of the window, as far as it comes. -/
def SetupIssueReads.enrichedEventIds (reads : SetupIssueReads) : List ℕ :=
  match reads.reach with
  | .planning => []
  | .enriching events => reads.eventIds.reverse.take events
  | _ => reads.eventIds.reverse

/-- What a setup covers. -/
def SetupIssueReads.Covers (reads : SetupIssueReads) : SetupIssueSubject → Prop
  | (.entryHistoryIncomplete, none) => reads.reach ≠ .planning
  | (.leagueInsightsIncomplete, some eventId) =>
    eventId ∈ reads.enrichedEventIds ∧ (reads.enrichment.event eventId).ReachesLeague
  | (.selectionInsightsIncomplete, some eventId) =>
    eventId ∈ reads.enrichedEventIds ∧ (reads.enrichment.event eventId).ReachesLeague ∧
      ∃ selection, (reads.enrichment.event eventId).selection = .ok selection
  | subject => reads.lastAudit.Covers reads.window subject

/-- What a repair covers besides its audit: the code of its issue, at the event it repairs; an
issue without targets is only looked at where its selections are. -/
def RepairReads.CoversIssue (reads : RepairReads) (issue : TournamentSetupIssueRow) :
    SetupIssueSubject → Prop
  | (.entryHistoryIncomplete, none) =>
    issue.code = .entryHistoryIncomplete ∧ scopedEntryIds reads.entryIds issue.affectedEntryIds ≠ [] ∧
      issueEventId issue.eventId reads.window ≠ none
  | (.leagueInsightsIncomplete, some eventId) =>
    (issue.code = .leagueInsightsIncomplete ∨ issue.code = .tournamentResultsIncomplete) ∧
      scopedEntryIds reads.entryIds issue.affectedEntryIds ≠ [] ∧
      issueEventId issue.eventId reads.window = some eventId
  | (.selectionInsightsIncomplete, some eventId) =>
    issue.code = .selectionInsightsIncomplete ∧
      issueEventId issue.eventId reads.window = some eventId
  | (.tournamentResultsIncomplete, some eventId) =>
    issue.code = .tournamentResultsIncomplete ∧
      scopedEntryIds reads.entryIds issue.affectedEntryIds ≠ [] ∧
      issueEventId issue.eventId reads.window = some eventId
  | _ => False

/-- What an event covers. -/
def SetupIssueEvent.Covers (world : SetupIssueWorld) (subject : SetupIssueSubject) :
    SetupIssueEvent → Prop
  | .setup _ _ (.publishes reads _ _ _ _) => reads.Covers subject
  | .repair issueId reads _ => ∃ issue ∈ world.issues.findUnresolvedById issueId,
      reads.CoversIssue issue.2 subject ∨ reads.audit.Covers reads.window subject
  | .reconcile reads _ => reads.audit.Covers reads.window subject
  | _ => False

/-- Before a synchronisation: every unresolved issue that is neither given nor preserved is covered
and concerned by nothing that the run has found, and every reported entry is among those of the
last issue that is given under some key, of the same code, or of a preserved one. -/
structure SyncAccountsForIssues (covers : SetupIssueSubject → Prop) (world : SetupIssueWorld)
    (call : SetupIssueSync) : Prop where
  covered : ∀ key row, world.issues.rows.find key = some row → row.resolvedAt = none →
    key ∉ call.given.map (·.issueKey) → key ∉ call.preserveUnresolvedIssueKeys →
      covers (row.code, row.eventId) ∧ ∀ issue ∈ call.found, ¬ issue.Concerns row
  kept : ∀ issue ∈ call.given, ∀ entryId ∈ issue.affectedEntryIds, 0 < entryId →
    (∃ key last, lastGiven call.given key = some last ∧ last.code = issue.code ∧
      entryId ∈ last.affectedEntryIds) ∨
    ∃ key row, world.issues.rows.find key = some row ∧ row.resolvedAt = none ∧
      key ∉ call.given.map (·.issueKey) ∧ key ∈ call.preserveUnresolvedIssueKeys ∧
      row.code = issue.code ∧ entryId ∈ row.affectedEntryIds

/-- The condition of an event. -/
def AccountsForIssues (world : SetupIssueWorld) (step : ℕ × SetupIssueEvent) : Prop :=
  EveryStep (SetupIssueWorld.sync step.1) (SyncAccountsForIssues (step.2.Covers world ·))
    (step.2.synchronising step.1 world) (step.2.syncs step.1 world)

/-! ### What is checked -/

/-- An audit checks what it covers. -/
theorem TournamentAuditReads.mem_checked {window : Option TournamentBackfillWindow}
    {reads : TournamentAuditReads} {subject : SetupIssueSubject} :
    subject ∈ reads.checked window ↔ reads.Covers window subject := by
  obtain ⟨code, eventId⟩ := subject
  by_cases hentries : reads.entryIds = []
  · cases code <;> cases eventId <;> simp [checked, Covers, auditedWindow, hentries]
  · cases window with
    | none => cases code <;> cases eventId <;> simp [checked, Covers, auditedWindow, hentries]
    | some bounds =>
      cases code <;> cases eventId <;> simp [checked, Covers, auditedWindow, hentries]

/-- What the enrichment of an event checks. -/
theorem mem_enrichEvent {entryIds : List ℤ} {eventId : ℕ} {reads : EventEnrichment}
    {subject : SetupIssueSubject} :
    subject ∈ (enrichEvent entryIds eventId reads).2 ↔
      reads.ReachesLeague ∧ (subject = (.leagueInsightsIncomplete, some eventId) ∨
        subject = (.selectionInsightsIncomplete, some eventId) ∧
          ∃ selection, reads.selection = .ok selection) := by
  obtain ⟨missing, resultsError, league, selection⟩ := reads
  unfold enrichEvent EventEnrichment.ReachesLeague
  cases league with
  | error message =>
    cases resultsError with
    | none => simp
    | some error => by_cases hmissing : missing = [] <;> simp [hmissing]
  | ok result =>
    cases resultsError with
    | none => cases selection <;> simp
    | some error =>
      by_cases hmissing : missing = []
      · cases selection <;> simp [hmissing]
      · simp [hmissing]

/-- What the enrichment of a history checks, up to a number of events. -/
theorem mem_enrichTournamentHistory {entryIds : List ℤ} {eventIds : List ℕ} {events : ℕ}
    {reads : EnrichmentReads} {subject : SetupIssueSubject} :
    subject ∈ (enrichTournamentHistory entryIds eventIds reads (some events)).2 ↔
      subject = (.entryHistoryIncomplete, none) ∨ ∃ eventId ∈ eventIds.reverse.take events,
        subject ∈ (enrichEvent entryIds eventId (reads.event eventId)).2 := by
  simp only [enrichTournamentHistory, List.mem_cons, List.mem_flatMap, List.mem_map,
    exists_exists_and_eq_and]

/-- What a setup checks in its enrichment. -/
theorem SetupIssueReads.mem_enriched {reads : SetupIssueReads} {subject : SetupIssueSubject} :
    subject ∈ reads.enriched.2 ↔
      subject = (.entryHistoryIncomplete, none) ∧ reads.reach ≠ .planning ∨
        ∃ eventId ∈ reads.enrichedEventIds,
          subject ∈ (enrichEvent reads.entryIds eventId (reads.enrichment.event eventId)).2 := by
  have hall : reads.eventIds.reverse.take reads.eventIds.length = reads.eventIds.reverse :=
    List.take_of_length_le (by rw [List.length_reverse])
  unfold enriched enrichedEventIds
  cases reads.reach with
  | planning => simp [enrichTournamentHistory]
  | enriching events => simp [mem_enrichTournamentHistory]
  | auditing => simp [mem_enrichTournamentHistory, hall]
  | finalizing => simp [mem_enrichTournamentHistory, hall]
  | publishing => simp [mem_enrichTournamentHistory, hall]

/-- A setup checks what it covers. -/
theorem SetupIssueReads.mem_checked {reads : SetupIssueReads} {subject : SetupIssueSubject} :
    subject ∈ reads.checked ↔ reads.Covers subject := by
  rw [checked, List.mem_append, mem_enriched, TournamentAuditReads.mem_checked]
  simp only [mem_enrichEvent]
  obtain ⟨code, eventId⟩ := subject
  cases code with
  | entryHistoryIncomplete =>
    cases eventId <;> simp [Covers, TournamentAuditReads.Covers]
  | leagueInsightsIncomplete =>
    cases eventId <;> simp [Covers, TournamentAuditReads.Covers]
  | selectionInsightsIncomplete =>
    cases eventId <;> simp [Covers, TournamentAuditReads.Covers]
  | entryProfileIncomplete => cases eventId <;> simp [Covers, TournamentAuditReads.Covers]
  | tournamentResultsIncomplete => cases eventId <;> simp [Covers]
  | structureIntegrityFailed => cases eventId <;> simp [Covers]

/-- What a repair checks before its audit, apart from the subjects that its audit covers anyway. -/
theorem RepairReads.mem_repair {reads : RepairReads} {issue : TournamentSetupIssueRow}
    {subject : SetupIssueSubject} :
    subject ∈ (reads.repair issue).2 ∨ reads.audit.Covers reads.window subject ↔
      reads.CoversIssue issue subject ∨ reads.audit.Covers reads.window subject := by
  obtain ⟨code, eventId⟩ := subject
  unfold repair CoversIssue
  dsimp only
  cases hevent : issueEventId issue.eventId reads.window with
  | none =>
    cases hcode : issue.code <;>
      by_cases htargets : scopedEntryIds reads.entryIds issue.affectedEntryIds = [] <;>
        cases code <;> cases eventId <;>
          simp [htargets, TournamentAuditReads.Covers]
  | some repaired =>
    cases hcode : issue.code <;>
      by_cases htargets : scopedEntryIds reads.entryIds issue.affectedEntryIds = [] <;>
        cases code <;> cases eventId <;>
          simp [htargets, TournamentAuditReads.Covers, eq_comm]

/-- Every call of an event has checked what the event covers. -/
theorem SetupIssueEvent.mem_checked {now : ℕ} {world : SetupIssueWorld} {event : SetupIssueEvent}
    {call : SetupIssueSync} (hcall : call ∈ event.syncs now world) {subject : SetupIssueSubject} :
    subject ∈ call.checked ↔ event.Covers world subject := by
  cases event with
  | setup job resumeJobLive ending =>
    cases ending with
    | throws error => simp only [syncs, SetupIssueEnding.syncs] at hcall; split at hcall <;> simp at hcall
    | throwsEarly error =>
      simp only [syncs, SetupIssueEnding.syncs] at hcall; split at hcall <;> simp at hcall
    | escapes entered error =>
      simp only [syncs, SetupIssueEnding.syncs] at hcall; split at hcall <;> simp at hcall
    | publishes reads phase completedUnits totalUnits progressIndeterminate =>
      have hchecked : call.checked = reads.checked := by
        simp only [syncs, SetupIssueEnding.syncs, SetupIssueReads.syncs] at hcall
        split at hcall
        · split at hcall
          · simp at hcall
          · split at hcall
            · rw [List.mem_singleton.mp hcall]
            · rcases List.mem_append.mp hcall with hfirst | hlast
              · split at hfirst
                · rw [List.mem_singleton.mp hfirst]
                · simp at hfirst
              · rw [List.mem_singleton.mp hlast]
        · simp at hcall
      rw [hchecked, SetupIssueReads.mem_checked, Covers]
  | repair issueId reads completes =>
    simp only [syncs] at hcall
    split at hcall
    next issue hissue =>
      split at hcall
      · simp at hcall
      · rw [List.mem_singleton.mp hcall, RepairReads.sync, List.mem_append,
          TournamentAuditReads.mem_checked, RepairReads.mem_repair, Covers, hissue]
        simp
    · simp at hcall
  | reconcile reads completes =>
    simp only [syncs, ReconciliationReads.syncs] at hcall
    split at hcall
    · split at hcall
      · simp at hcall
      · rw [List.mem_singleton.mp hcall, TournamentAuditReads.mem_checked, Covers]
    · simp at hcall
  | recordRepairAttempt issueId nextRepairAt exhausted => simp [syncs] at hcall
  | write write => simp [syncs] at hcall

/-! ### What a synchronisation closes and lists -/

namespace TournamentSetupIssues

variable {now : ℕ} {given : List TournamentSetupIssueInput} {preserved : List String}
  {issues : TournamentSetupIssues} {key : String}

/-- An unresolved row is closed exactly when its key is neither given nor preserved. -/
theorem closed_sync_iff (now : ℕ) {row : TournamentSetupIssueRow} (hrow : issues.rows.find key = some row)
    (hopen : row.resolvedAt = none) :
    (∃ after, (issues.sync now given preserved).rows.find key = some after ∧
        after.resolvedAt ≠ none) ↔
      key ∉ given.map (·.issueKey) ∧ key ∉ preserved := by
  cases hlast : lastGiven given key with
  | some issue =>
    obtain ⟨after, hafter, hstores⟩ :=
      find_sync_of_lastGiven now preserved issues hlast
    have hgiven : key ∈ given.map (·.issueKey) := by
      rw [← (of_lastGiven hlast).2]
      exact List.mem_map_of_mem (of_lastGiven hlast).1
    simp [hafter, hstores.resolvedAt, hgiven]
  | none =>
    have hgiven := lastGiven_eq_none_iff.mp hlast
    rw [find_sync_of_not_given hgiven, hrow]
    by_cases hpreserved : key ∈ preserved
    · simp [hgiven, hpreserved, hopen]
    · simp [hgiven, hpreserved, hopen, TournamentSetupIssueRow.resolved]

/-- An entry is listed after a synchronisation by the last issue under a key, or by a preserved
row. -/
theorem lists_sync_iff {code : TournamentSetupIssueCode} {entryId : ℤ} (hentry : 0 < entryId) :
    (issues.sync now given preserved).Lists code entryId ↔
      (∃ key last, lastGiven given key = some last ∧ last.code = code ∧
        entryId ∈ last.affectedEntryIds) ∨
      ∃ key row, issues.rows.find key = some row ∧ row.resolvedAt = none ∧
        key ∉ given.map (·.issueKey) ∧ key ∈ preserved ∧ row.code = code ∧
        entryId ∈ row.affectedEntryIds := by
  constructor
  · rintro ⟨key, row, hrow, hopen, hcode, hlisted⟩
    cases hlast : lastGiven given key with
    | some last =>
      obtain ⟨stored, hstored, hstores⟩ :=
        find_sync_of_lastGiven now preserved issues hlast
      rw [hstored] at hrow
      cases hrow
      rw [hstores.affectedEntryIds, mem_dedupeSetupIssueEntries] at hlisted
      exact .inl ⟨key, last, hlast, hstores.code.symm.trans hcode, hlisted.1⟩
    | none =>
      have hgiven := lastGiven_eq_none_iff.mp hlast
      rw [find_sync_of_not_given hgiven, Option.map_eq_some_iff] at hrow
      obtain ⟨old, hold, hrow⟩ := hrow
      by_cases hclosed : old.resolvedAt = none ∧ key ∉ preserved
      · rw [if_pos hclosed] at hrow
        rw [← hrow] at hopen
        cases hopen
      · rw [if_neg hclosed] at hrow
        subst hrow
        have hpreserved : key ∈ preserved := by
          by_contra hnot
          exact hclosed ⟨hopen, hnot⟩
        exact .inr ⟨key, old, hold, hopen, hgiven, hpreserved, hcode, hlisted⟩
  · rintro (⟨key, last, hlast, hcode, hlisted⟩ | ⟨key, row, hrow, hopen, hgiven, hkey, hcode, hlisted⟩)
    · obtain ⟨stored, hstored, hstores⟩ :=
        find_sync_of_lastGiven now preserved issues hlast
      refine ⟨key, stored, hstored, hstores.resolvedAt, hstores.code.trans hcode, ?_⟩
      rw [hstores.affectedEntryIds, mem_dedupeSetupIssueEntries]
      exact ⟨hlisted, hentry⟩
    · refine ⟨key, row, ?_, hopen, hcode, hlisted⟩
      rw [find_sync_of_not_given hgiven, hrow, Option.map_some, if_neg]
      intro hclosed
      exact hclosed.2 hkey

end TournamentSetupIssues

/-- A synchronisation keeps to the law exactly when its run accounts for the issues. -/
theorem syncKeepsIssues_iff {now : ℕ} {world : SetupIssueWorld} {call : SetupIssueSync}
    {covers : SetupIssueSubject → Prop}
    (hcovers : ∀ subject, subject ∈ call.checked ↔ covers subject) :
    SyncKeepsIssues now world call ↔ SyncAccountsForIssues covers world call := by
  constructor
  · intro h
    constructor
    · intro key row hrow hopen hgiven hpreserved
      obtain ⟨after, hafter, hclosed⟩ :=
        (TournamentSetupIssues.closed_sync_iff now hrow hopen).mpr ⟨hgiven, hpreserved⟩
      have hverified := h.closed key row after hrow hopen hafter hclosed
      exact ⟨(hcovers _).mp hverified.checked, hverified.clean⟩
    · intro issue hissue entryId hentry hpositive
      exact (TournamentSetupIssues.lists_sync_iff hpositive).mp
        (h.listed issue hissue entryId hentry hpositive)
  · intro h
    constructor
    · intro key row after hrow hopen hafter hclosed
      have hkey :=
        (TournamentSetupIssues.closed_sync_iff now hrow hopen).mp ⟨after, hafter, hclosed⟩
      have hcovered := h.covered key row hrow hopen hkey.1 hkey.2
      exact ⟨(hcovers _).mpr hcovered.1, hcovered.2⟩
    · intro issue hissue entryId hentry hpositive
      exact (TournamentSetupIssues.lists_sync_iff hpositive).mpr
        (h.kept issue hissue entryId hentry hpositive)

/-! ### Readiness -/

/-- The instants of readiness are kept or cleared. -/
structure TournamentSetupRow.ReadinessFrom (before after : TournamentSetupRow) : Prop where
  profiles : after.profilesReadyAt = before.profilesReadyAt ∨ after.profilesReadyAt = none
  insights : after.insightsReadyAt = before.insightsReadyAt ∨ after.insightsReadyAt = none

namespace TournamentSetupRow

variable {row : TournamentSetupRow}

/-- Nothing changes. -/
theorem ReadinessFrom.refl : row.ReadinessFrom row := ⟨.inl rfl, .inl rfl⟩

/-- The instants are kept or cleared in two steps. -/
theorem ReadinessFrom.trans {middle after : TournamentSetupRow} (hfirst : row.ReadinessFrom middle)
    (hsecond : middle.ReadinessFrom after) : row.ReadinessFrom after := by
  constructor
  · cases hsecond.profiles with
    | inl hkept => rw [hkept]; exact hfirst.profiles
    | inr hcleared => exact .inr hcleared
  · cases hsecond.insights with
    | inl hkept => rw [hkept]; exact hfirst.insights
    | inr hcleared => exact .inr hcleared

/-- The record of a failed attempt clears them, where it is accepted. -/
theorem readinessFrom_attemptFailure (failure : TournamentSetupAttemptFailure) (now : ℕ) :
    row.ReadinessFrom (row.markSetupAttemptFailure failure now) := by
  unfold markSetupAttemptFailure
  split
  · exact ⟨.inr rfl, .inr rfl⟩
  · exact .refl

/-- A claim clears them where it owns a resume. -/
theorem readinessFrom_claim {job : TournamentSetupJob} {resumeJobLive : Bool}
    {claimed : TournamentSetupRow} (h : claimSetupJob job resumeJobLive row = some claimed) :
    row.ReadinessFrom claimed := by
  unfold claimSetupJob at h
  cases hmarker : job.resumeMarker with
  | some marker =>
    rw [hmarker] at h
    simp only [markResumeProcessingIfPending] at h
    split at h
    · cases h
      exact ⟨.inr rfl, .inr rfl⟩
    · cases h
  | none =>
    rw [hmarker] at h
    dsimp only at h
    split at h
    · split at h
      · cases h
        exact .refl
      · cases h
    · cases h
      exact .refl

/-- The other statements keep or clear them. -/
theorem readinessFrom_write (write : SetupRowWrite) (now : ℕ) :
    row.ReadinessFrom (write.apply now row) := by
  cases write with
  | retryQueued => exact ⟨.inr rfl, .inr rfl⟩
  | attemptFailure failure => exact readinessFrom_attemptFailure failure now
  | stuckSetupQueued expected =>
    rw [SetupRowWrite.apply, markStuckSetupQueuedIfUnchanged]
    split
    · exact ⟨.inl rfl, .inl rfl⟩
    · exact .refl
  | setupFailed => exact ⟨.inl rfl, .inl rfl⟩

end TournamentSetupRow

/-- A run of a setup job keeps or clears the instants, unless it enters a setup that completes. -/
theorem readinessFrom_runSetupJob {job : TournamentSetupJob} {resumeJobLive : Bool}
    {ending : SetupEnding} {now : ℕ} {row : TournamentSetupRow}
    (h : ∀ claimed attempt maxAttempts,
      startSetupJob job resumeJobLive row = .enters claimed attempt maxAttempts →
        ∀ completion, ending ≠ .completes completion) :
    row.ReadinessFrom (runSetupJob job resumeJobLive ending now row).row := by
  unfold runSetupJob
  split
  · exact .refl
  · exact .refl
  next error =>
    split
    · exact .refl
    next =>
      refine TournamentSetupRow.ReadinessFrom.trans ?_
        (TournamentSetupRow.readinessFrom_attemptFailure _ now)
      cases hclaim : claimSetupJob job resumeJobLive row with
      | none => exact .refl
      | some claimed => exact TournamentSetupRow.readinessFrom_claim hclaim
  next left hstart =>
    rw [eq_of_ignored hstart]
    exact .refl
  next claimed attempt maxAttempts error hstart =>
    exact (TournamentSetupRow.readinessFrom_claim (claimed_of_exhausted hstart)).trans
      (TournamentSetupRow.readinessFrom_attemptFailure _ now)
  next completion claimed attempt maxAttempts hstart =>
    exact absurd rfl (h claimed attempt maxAttempts hstart completion)
  next error claimed attempt maxAttempts hstart =>
    exact (TournamentSetupRow.readinessFrom_claim (entered_of_enters hstart).1).trans
      (TournamentSetupRow.readinessFrom_attemptFailure _ now)

/-- A setup that is entered and completes leaves the instants it has recorded. -/
theorem readiness_of_completes {job : TournamentSetupJob} {resumeJobLive : Bool}
    (completion : SetupCompletion) (now : ℕ) {attempt maxAttempts : ℕ}
    {row claimed : TournamentSetupRow}
    (hstart : startSetupJob job resumeJobLive row = .enters claimed attempt maxAttempts) :
    (runSetupJob job resumeJobLive (.completes completion) now row).row.profilesReadyAt =
        completion.profilesReadyAt ∧
      (runSetupJob job resumeJobLive (.completes completion) now row).row.insightsReadyAt =
        completion.insightsReadyAt := by
  simp only [runSetupJob, hstart, setupTournamentStructure, TournamentSetupRow.markReadyAndResume]
  split <;> exact ⟨rfl, rfl⟩

/-- A setup that completes records the instants of its synchronisations. -/
theorem SetupIssueEnding.ending_eq_completes {ending : SetupIssueEnding}
    {recorded : TournamentSetupRow} {completion : SetupCompletion}
    (h : ending.ending recorded = .completes completion) :
    completion.profilesReadyAt = recorded.profilesReadyAt ∧
      completion.insightsReadyAt = recorded.insightsReadyAt := by
  cases ending with
  | throws error => cases h
  | throwsEarly error => cases h
  | escapes entered error => cases h
  | publishes reads phase completedUnits totalUnits progressIndeterminate =>
    rw [SetupIssueEnding.ending] at h
    split at h
    · cases h
    · cases h
      exact ⟨rfl, rfl⟩

/-- A setup that does not complete synchronises nothing. -/
theorem SetupIssueEnding.syncs_of_not_completes {ending : SetupIssueEnding}
    {recorded : TournamentSetupRow}
    (h : ∀ completion, ending.ending recorded ≠ .completes completion) (now : ℕ) :
    ending.syncs now = [] := by
  cases ending with
  | throws error => rfl
  | throwsEarly error => rfl
  | escapes entered error => rfl
  | publishes reads phase completedUnits totalUnits progressIndeterminate =>
    rw [SetupIssueEnding.syncs]
    split
    · rfl
    next hblocked =>
      rw [SetupIssueEnding.ending, if_neg hblocked] at h
      exact absurd rfl (h _)

namespace SetupIssueWorld.ReadinessHonest

variable {world : SetupIssueWorld}

/-- Keeping or clearing the instants over the same issues stays honest. -/
theorem of_readinessFrom (h : world.ReadinessHonest) {row : TournamentSetupRow}
    (hfrom : world.row.ReadinessFrom row) : ReadinessHonest ⟨row, world.issues⟩ := by
  constructor
  · intro hready
    cases hfrom.profiles with
    | inl hkept =>
      rw [hkept] at hready
      exact h.profiles hready
    | inr hcleared => exact absurd hcleared hready
  · intro hready
    cases hfrom.insights with
    | inl hkept =>
      rw [hkept] at hready
      exact h.insights hready
    | inr hcleared => exact absurd hcleared hready

/-- A synchronisation records the readiness of the issues it leaves. -/
theorem sync (now : ℕ) (call : SetupIssueSync) : (world.sync now call).ReadinessHonest := by
  constructor
  · intro hready
    apply TournamentSetupIssues.hasOpen_eq_false_iff.mp
    simp only [SetupIssueWorld.sync, TournamentSetupRow.recordIssues] at hready
    split at hready
    · exact absurd rfl hready
    next hopen => exact Bool.eq_false_iff.mpr hopen
  · intro hready
    apply TournamentSetupIssues.hasOpen_eq_false_iff.mp
    simp only [SetupIssueWorld.sync, TournamentSetupRow.recordIssues] at hready
    split at hready
    · exact absurd rfl hready
    next hopen => exact Bool.eq_false_iff.mpr hopen

/-- Synchronisations leave an honest readiness honest. -/
theorem syncs (h : world.ReadinessHonest) (now : ℕ) (calls : List SetupIssueSync) :
    (runSteps (SetupIssueWorld.sync now) world calls).ReadinessHonest :=
  runSteps_invariant (fun _ call _ => sync now call) world calls h

/-- An event synchronises in a world whose readiness is honest. -/
theorem synchronising (h : world.ReadinessHonest) (now : ℕ) (event : SetupIssueEvent) :
    (event.synchronising now world).ReadinessHonest := by
  cases event with
  | setup job resumeJobLive ending =>
    rw [SetupIssueEvent.synchronising]
    split
    · -- a setup begins without either instant
      exact ⟨fun hready => absurd rfl hready, fun hready => absurd rfl hready⟩
    · exact h
  | repair issueId reads completes => exact h
  | reconcile reads completes => exact h
  | recordRepairAttempt issueId nextRepairAt exhausted => exact h
  | write write => exact h

/-- The record of a repair attempt closes nothing and changes no category. -/
theorem recordRepairAttempt (h : world.ReadinessHonest) {now issueId : ℕ}
    {nextRepairAt : Option ℕ} {exhausted : Bool} :
    ReadinessHonest
      ⟨world.row, world.issues.recordRepairAttempt now issueId nextRepairAt exhausted⟩ := by
  have hrow {key : String} {row : TournamentSetupIssueRow}
      (hfind : (world.issues.recordRepairAttempt now issueId nextRepairAt exhausted).rows.find key =
        some row) :
      ∃ old, world.issues.rows.find key = some old ∧ row.category = old.category ∧
        row.resolvedAt = old.resolvedAt := by
    rw [TournamentSetupIssues.recordRepairAttempt, KeyedTable.find_updateWhere,
      Option.map_eq_some_iff] at hfind
    obtain ⟨old, hold, hwritten⟩ := hfind
    refine ⟨old, hold, ?_⟩
    rw [← hwritten]
    split <;> exact ⟨rfl, rfl⟩
  constructor
  · intro hready key row hfind hcategory
    obtain ⟨old, hold, hsame, hresolved⟩ := hrow hfind
    rw [hresolved]
    exact h.profiles hready key old hold (hsame ▸ hcategory)
  · intro hready key row hfind hcategory
    obtain ⟨old, hold, hsame, hresolved⟩ := hrow hfind
    rw [hresolved]
    exact h.insights hready key old hold (hsame ▸ hcategory)

/-- Every event leaves an honest readiness honest. -/
theorem step (h : world.ReadinessHonest) (step : ℕ × SetupIssueEvent) :
    (setupIssueStep world step).ReadinessHonest := by
  obtain ⟨now, event⟩ := step
  have hsynchronised : (event.synchronised now world).ReadinessHonest :=
    (h.synchronising now event).syncs now (event.syncs now world)
  cases event with
  | setup job resumeJobLive ending =>
    by_cases hcompletes : ∃ claimed attempt maxAttempts completion,
        startSetupJob job resumeJobLive world.row = .enters claimed attempt maxAttempts ∧
        ending.ending (SetupIssueEvent.synchronised now world (.setup job resumeJobLive ending)).row =
          .completes completion
    · obtain ⟨claimed, attempt, maxAttempts, completion, hstart, hending⟩ := hcompletes
      have hleft := readiness_of_completes completion now hstart
      have hrecorded := SetupIssueEnding.ending_eq_completes hending
      simp only [setupIssueStep, hending]
      constructor
      · intro hready
        rw [hleft.1, hrecorded.1] at hready
        exact hsynchronised.profiles hready
      · intro hready
        rw [hleft.2, hrecorded.2] at hready
        exact hsynchronised.insights hready
    · have hissues : (SetupIssueEvent.synchronised now world
          (.setup job resumeJobLive ending)).issues = world.issues := by
        simp only [SetupIssueEvent.synchronised, SetupIssueEvent.syncs,
          SetupIssueEvent.synchronising]
        split
        next claimed attempt maxAttempts hstart =>
          rw [SetupIssueEnding.syncs_of_not_completes (fun completion hending =>
            hcompletes ⟨claimed, attempt, maxAttempts, completion, hstart, hending⟩) now]
          rfl
        · rfl
      simp only [setupIssueStep, hissues]
      apply h.of_readinessFrom
      apply readinessFrom_runSetupJob
      intro claimed attempt maxAttempts hstart completion hending
      exact hcompletes ⟨claimed, attempt, maxAttempts, completion, hstart, hending⟩
  | repair issueId reads completes => exact hsynchronised
  | reconcile reads completes => exact hsynchronised
  | recordRepairAttempt issueId nextRepairAt exhausted => exact h.recordRepairAttempt
  | write write => exact h.of_readinessFrom (TournamentSetupRow.readinessFrom_write write now)

end SetupIssueWorld.ReadinessHonest

/-! ### Histories -/

/-- An event synchronises over the issues it finds. -/
theorem synchronising_issues (now : ℕ) (world : SetupIssueWorld) (event : SetupIssueEvent) :
    (event.synchronising now world).issues = world.issues := by
  cases event with
  | setup job resumeJobLive ending =>
    rw [SetupIssueEvent.synchronising]
    split <;> rfl
  | repair issueId reads completes => rfl
  | reconcile reads completes => rfl
  | recordRepairAttempt issueId nextRepairAt exhausted => rfl
  | write write => rfl

/-- An event that does not synchronise leaves open and closed issues as they are. -/
theorem resolvedAt_of_no_syncs {world : SetupIssueWorld} {step : ℕ × SetupIssueEvent}
    (h : step.2.syncs step.1 world = []) (key : String) :
    ((setupIssueStep world step).issues.rows.find key).map (·.resolvedAt) =
      (world.issues.rows.find key).map (·.resolvedAt) := by
  obtain ⟨now, event⟩ := step
  have hsynchronised : (event.synchronised now world).issues = world.issues := by
    rw [SetupIssueEvent.synchronised, h]
    exact synchronising_issues now world event
  cases event with
  | setup job resumeJobLive ending =>
    simp only [setupIssueStep, hsynchronised]
  | repair issueId reads completes => simp only [setupIssueStep, hsynchronised]
  | reconcile reads completes => simp only [setupIssueStep, hsynchronised]
  | recordRepairAttempt issueId nextRepairAt exhausted =>
    simp only [setupIssueStep, TournamentSetupIssues.recordRepairAttempt,
      KeyedTable.find_updateWhere, Option.map_map]
    congr 1
    funext row
    simp only [Function.comp_apply]
    split <;> rfl
  | write write => rfl

/-- An event closes issues with evidence exactly when its run accounts for them. -/
theorem closesWithEvidence_iff {world : SetupIssueWorld} (h : world.ReadinessHonest)
    (step : ℕ × SetupIssueEvent) :
    ClosesWithEvidence world step ↔ AccountsForIssues world step := by
  have hsyncs : EveryStep (SetupIssueWorld.sync step.1) (SyncKeepsIssues step.1)
      (step.2.synchronising step.1 world) (step.2.syncs step.1 world) ↔
        AccountsForIssues world step := by
    have hkeep : ∀ (state : SetupIssueWorld) (call : SetupIssueSync), True →
        call ∈ step.2.syncs step.1 world → True := fun _ _ _ _ => trivial
    have hiff : ∀ (state : SetupIssueWorld) (call : SetupIssueSync), True →
        call ∈ step.2.syncs step.1 world → (SyncKeepsIssues step.1 state call ↔
          SyncAccountsForIssues (step.2.Covers world ·) state call) :=
      fun _ _ _ hcall => syncKeepsIssues_iff fun _ => step.2.mem_checked hcall
    exact everyStep_congr_of_allowed hkeep hiff _ _ trivial fun _ hcall => hcall
  constructor
  · intro hcloses
    exact hsyncs.mp hcloses.syncs
  · intro haccounts
    exact ⟨hsyncs.mpr haccounts, resolvedAt_of_no_syncs, h.step step⟩

/-- Along a history, setup issues are closed with evidence, entries stay listed and readiness
stands only over resolved issues exactly when every run accounts for the issues it does not report
and for the entries of those that share a key. -/
theorem setupIssues_closed_with_evidence (row : TournamentSetupRow)
    (history : List (ℕ × SetupIssueEvent)) :
    EveryStep setupIssueStep ClosesWithEvidence (.start row) history ↔
      EveryStep setupIssueStep AccountsForIssues (.start row) history :=
  everyStep_congr (fun _ step hworld => SetupIssueWorld.ReadinessHonest.step hworld step)
    (fun _ step hworld => closesWithEvidence_iff hworld step) _ _
    ⟨fun _ _ _ hrow => absurd hrow (by simp [SetupIssueWorld.start, TournamentSetupIssues.empty]),
      fun _ _ _ hrow => absurd hrow (by simp [SetupIssueWorld.start, TournamentSetupIssues.empty])⟩

/-! ### Warnings that a reconciliation closes unseen -/

/-- Every setup has at least one attempt. -/
theorem warnedRow_maxAttempts : 1 ≤ 3 := Nat.succ_pos 2

/-- A tournament that waits for its setup. -/
def warnedRow : TournamentSetupRow where
  state := .active
  rosterMode := .snapshot
  rosterSyncStatus := none
  rosterSyncError := none
  rosterLastSyncedAt := none
  totalTeamNum := 2
  setupStatus := .pending
  setupPhase := .queued
  setupError := none
  setupCompletedUnits := 0
  setupTotalUnits := 0
  setupWarningCount := 0
  setupProgressUpdatedAt := none
  setupProgressIndeterminate := false
  setupAttempt := 0
  setupMaxAttempts := 3
  setupNextRetryAt := none
  setupLastErrorCode := none
  setupLastErrorAt := none
  setupStartedAt := none
  setupFinishedAt := none
  standingsReadyAt := none
  profilesReadyAt := none
  insightsReadyAt := none
  maxAttempts_pos := warnedRow_maxAttempts
  attempt_le := Nat.zero_le 3

/-- A tournament of two entries with the results of one event and nothing to build. -/
def warnedConfig : TournamentSetupConfig where
  tournament :=
    { id := 1
      totalTeamNum := 2
      groupMode := .noGroup
      groupNum := none
      groupStartedEventId := some 3
      groupEndedEventId := some 3
      groupQualifyNum := none
      knockoutMode := .noKnockout
      knockoutTeamNum := none
      knockoutEventNum := none
      knockoutStartedEventId := none
      knockoutEndedEventId := none
      knockoutPlayAgainstNum := none }
  leagueType := some .classic
  rosterMode := some .snapshot

/-- Its audit: one entry has no row of the league. -/
def warnedAudit : TournamentAuditReads where
  entryIds := [1, 2]
  hasEntryInfo _ := true
  hasEntryLeagueInfo entryId := entryId = 1
  groupSlots := []
  knockoutMatches := 0
  knockoutResults := 0
  entryResults _ := 2
  pointsGroupResults _ := 0
  eventKnockoutResults _ := 0
  invalidKnockoutResults _ := 0

/-- Its setup: the results of the league stay incomplete for one entry. -/
def warnedSetup : SetupIssueReads where
  config := warnedConfig
  entryIds := [1, 2]
  finalizedEventId := some 3
  entrySync := ⟨fun _ => false, fun _ => false⟩
  coreAudit := warnedAudit
  enrichment := ⟨[], ⟨0, []⟩, fun _ => ⟨[], none, .ok ⟨2, 0, 1, 1, 0, 1⟩, .ok ⟨1, 0⟩⟩⟩
  finalAudit := warnedAudit
  late := none

/-- The setup of the tournament. -/
def warnedSetupEvent : SetupIssueEvent :=
  .setup ⟨.create, none, 0, some 3, none⟩ false (.publishes warnedSetup .finalizing 1 1 false)

/-- The reconciliation of its two warnings, which audits the profiles and the results. -/
def warnedReconciliation : SetupIssueEvent := .reconcile ⟨warnedConfig, [1, 2], some 3, warnedAudit⟩ true

/-- The tournament after its setup. -/
def warnedWorld : SetupIssueWorld := setupIssueStep (.start warnedRow) (1000, warnedSetupEvent)

/-- The reconciliation closes the incomplete results of the league, which it has not looked at, and
the insights become ready. -/
theorem reconciliation_closes_unchecked :
    (warnedWorld.issues.rows.find "LEAGUE_INSIGHTS_INCOMPLETE:3").map (·.resolvedAt) = some none ∧
      ((setupIssueStep warnedWorld (2000, warnedReconciliation)).issues.rows.find
        "LEAGUE_INSIGHTS_INCOMPLETE:3").map (·.resolvedAt) = some (some 2000) ∧
      (setupIssueStep warnedWorld (2000, warnedReconciliation)).row.insightsReadyAt = some 2000 ∧
      ¬ EveryStep setupIssueStep ClosesWithEvidence (.start warnedRow)
        [(1000, warnedSetupEvent), (2000, warnedReconciliation)] := by
  have hbefore : (warnedWorld.issues.rows.find "LEAGUE_INSIGHTS_INCOMPLETE:3").map
      (fun row => (row.code, row.eventId, row.resolvedAt)) =
        some (.leagueInsightsIncomplete, some 3, none) := by decide +kernel
  have hafter : ((setupIssueStep warnedWorld (2000, warnedReconciliation)).issues.rows.find
      "LEAGUE_INSIGHTS_INCOMPLETE:3").map (·.resolvedAt) = some (some 2000) := by decide +kernel
  have hchecked : (warnedReconciliation.syncs 2000 warnedWorld).map (·.checked) =
      [[(.entryProfileIncomplete, none), (.structureIntegrityFailed, none),
        (.tournamentResultsIncomplete, none), (.tournamentResultsIncomplete, some 3)]] := by
    decide +kernel
  refine ⟨by decide +kernel, hafter, by decide +kernel, ?_⟩
  intro h
  have hsyncs := h.2.1.syncs
  have hleft : (setupIssueStep warnedWorld (2000, warnedReconciliation)).issues =
      (runSteps (SetupIssueWorld.sync 2000) warnedWorld
        (warnedReconciliation.syncs 2000 warnedWorld)).issues := rfl
  rw [hleft] at hafter
  change EveryStep (SetupIssueWorld.sync 2000) (SyncKeepsIssues 2000) warnedWorld
    (warnedReconciliation.syncs 2000 warnedWorld) at hsyncs
  obtain ⟨call, hcalls, hcall⟩ := List.map_eq_singleton_iff.mp hchecked
  rw [hcalls] at hsyncs hafter
  obtain ⟨row, hrow, hfields⟩ := Option.map_eq_some_iff.mp hbefore
  obtain ⟨after, hclosed, hresolved⟩ := Option.map_eq_some_iff.mp hafter
  simp only [Prod.mk.injEq] at hfields
  have hopen : after.resolvedAt ≠ none := by
    rw [hresolved]
    exact Option.some_ne_none 2000
  have hverified := hsyncs.1.closed _ row after hrow hfields.2.2 hclosed hopen
  have hmember := hverified.checked
  rw [hcall, hfields.1, hfields.2.1] at hmember
  simp at hmember

end LetletmeData
