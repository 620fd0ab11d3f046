import LetletmeData.Content.FeedReadings

/-!
# What holds between feed polls

The stored validator is that of the document read last, from which what was selected is observed,
and the checkpoint is not ahead of a listed item that was not. Claims, starts and failures leave
this alone; the end of a poll keeps it when the poll reaches the item.
-/

namespace LetletmeData

open LetletmeData.Library

/-! ### Tables that an end or a claim leaves alone -/

/-- A feed request fits its schedule: it sends the validator that is stored, and after the bootstrap
its window starts at the last check. -/
def FeedRequestFits (checkpoint : Option ScheduleCheckpoint) (validator : HttpValidator)
    (request : RunRequest FeedRequest) : Prop :=
  request.payload.validator = validator.sent ∧
    (request.payload.bootstrapEnabled = false →
      ∃ last, checkpoint = some last ∧ request.window.windowStart = last.checkedAt)

/-- Tables that nothing has been read into: the progress of the schedule and the runs that persisted
a document are the same, and an open run is new or was open before. -/
structure FeedTablesKept (before after : FeedTables) : Prop where
  checkpoint : after.schedule.checkpoint = before.schedule.checkpoint
  validator : after.schedule.validator = before.schedule.validator
  bootstrapCompletedAt :
    after.schedule.bootstrapCompletedAt = before.schedule.bootstrapCompletedAt
  length : before.runs.length ≤ after.runs.length
  runIds : (∀ run ∈ before.runs, run.runId < before.runs.length) →
    ∀ run ∈ after.runs, run.runId < after.runs.length
  reported : ∀ run ∈ after.runs, run.report.join ≠ none → run ∈ before.runs
  lastReported : (after.runs.find? fun run => run.report.join ≠ none) =
    before.runs.find? fun run => run.report.join ≠ none
  newest : ∀ run ∈ after.runs.head?, run.status.Open → run.report = none ∧
    (run.runId = before.runs.length ∨
      ∃ old ∈ before.runs.head?, old.status.Open ∧ old.runId = run.runId ∧
        old.request = run.request)

section Kept

variable {fits : Option ScheduleCheckpoint → HttpValidator → RunRequest FeedRequest → Prop}
  {tables written : FeedTables} {profile : AcquisitionProfile} {run : FeedRun}
  {rest : List FeedRun}

/-- A newest run that has no report can be rewritten without one. -/
theorem FeedTablesKept.of_rewrite {schedule : SourceSchedule} {rewritten : FeedRun}
    {gaps : List AcquisitionGap} (hruns : tables.runs = run :: rest)
    (hcheckpoint : schedule.checkpoint = tables.schedule.checkpoint)
    (hvalidator : schedule.validator = tables.schedule.validator)
    (hbootstrap : schedule.bootstrapCompletedAt = tables.schedule.bootstrapCompletedAt)
    (hid : rewritten.runId = run.runId) (hrequest : rewritten.request = run.request)
    (hopen : run.status.Open) (hreport : run.report = none) (hnone : rewritten.report = none) :
    FeedTablesKept tables ⟨schedule, rewritten :: rest, gaps⟩ where
  checkpoint := hcheckpoint
  validator := hvalidator
  bootstrapCompletedAt := hbootstrap
  length := by simp [hruns]
  runIds := by
    intro hids other hother
    rw [hruns] at hids
    cases List.mem_cons.mp hother with
    | inl hfirst =>
      rw [hfirst, hid]
      exact hids run List.mem_cons_self
    | inr hlater => exact hids other (List.mem_cons_of_mem _ hlater)
  reported := by
    intro other hother hsome
    rw [hruns]
    cases List.mem_cons.mp hother with
    | inl hfirst =>
      rw [hfirst, hnone] at hsome
      exact absurd rfl hsome
    | inr hlater => exact List.mem_cons_of_mem _ hlater
  lastReported := by
    rw [hruns, List.find?_cons_of_neg (by simp [hnone]), List.find?_cons_of_neg (by simp [hreport])]
  newest := by
    intro other hother _
    obtain rfl := Option.some.inj hother
    rw [hruns]
    exact ⟨hnone, Or.inr ⟨run, rfl, hopen, hid.symm, hrequest.symm⟩⟩

/-- A failure of a feed keeps what was read. -/
theorem FeedTablesKept.failRecurringRun {runId : ℕ} (hnotX : ¬ profile.adapterKind.IsX)
    (h : RequestsFit fits tables) (hopen : tables.openRun runId = some run)
    (hreport : run.report = none) (dbNow retryDelay : ℤ) (reason : String) :
    FeedTablesKept tables (failRecurringRun profile runId dbNow retryDelay reason tables) := by
  have hnot : ¬ ExhaustedXWindow profile tables.schedule := fun hexhausted => hnotX hexhausted.2
  obtain ⟨rest, hruns, -, hwasOpen, -, hwrite⟩ := h.openRun hopen
  unfold LetletmeData.failRecurringRun
  rw [hwrite]
  exact FeedTablesKept.of_rewrite hruns (by simp [hnot]) rfl rfl rfl rfl hwasOpen hreport rfl

/-- A claim keeps what was read. -/
theorem FeedTablesKept.of_claimWritten {fresh : RunRequest FeedRequest}
    (hwritten : ClaimWritten fresh tables written) (hidle : tables.Idle) :
    FeedTablesKept tables written := by
  have hadded : ∀ {schedule : SourceSchedule}, tables.schedule.SameProgress schedule →
      ∀ {run : FeedRun}, NewRun tables run →
        FeedTablesKept tables { tables with schedule, runs := run :: tables.runs } := by
    intro schedule hsame run hnew
    exact {
      checkpoint := hsame.checkpoint
      validator := hsame.validator
      bootstrapCompletedAt := hsame.bootstrapCompletedAt
      length := Nat.le_succ _
      runIds := by
        intro hids other hother
        cases List.mem_cons.mp hother with
        | inl hfirst =>
          rw [hfirst, hnew.runId]
          exact Nat.lt_succ_self _
        | inr hlater => exact Nat.lt_succ_of_lt (hids other hlater)
      reported := by
        intro other hother hsome
        cases List.mem_cons.mp hother with
        | inl hfirst =>
          rw [hfirst, hnew.report] at hsome
          exact absurd rfl hsome
        | inr hlater => exact hlater
      lastReported := List.find?_cons_of_neg (by simp [hnew.report])
      newest := by
        intro other hother _
        obtain rfl := Option.some.inj hother
        exact ⟨hnew.report, Or.inl hnew.runId⟩ }
  cases hwritten with
  | schedule hsame hlease =>
    exact {
      checkpoint := hsame.checkpoint
      validator := hsame.validator
      bootstrapCompletedAt := hsame.bootstrapCompletedAt
      length := Nat.le_refl _
      runIds := fun hids => hids
      reported := fun _ hother _ => hother
      lastReported := rfl
      newest := fun run hrun hopen => absurd hopen (hidle.2 run (List.mem_of_mem_head? hrun)) }
  | deferred hsame hlease hnew hrequest hstatus => exact hadded hsame hnew
  | leased hsame hlease hnew hrequest hstatus => exact hadded hsame hnew

end Kept

/-! ### The invariant -/

/-- What holds between polls. The stored validator is that of the document read last, from which
what was selected is observed, and the checkpoint is not ahead of a listed node that was not. -/
structure FeedSeen (feed : PolledFeed) (node : FeedNode) (effectiveAt : ℤ) (world : FeedWorld) :
    Prop where
  fit : RequestsFit FeedRequestFits world.tables
  bootstrapped : world.tables.schedule.bootstrapCompletedAt ≠ none →
    world.tables.schedule.checkpoint ≠ none
  runIds : ∀ run ∈ world.tables.runs, run.runId < world.tables.runs.length
  fetchIds : ∀ fetch ∈ world.fetches, fetch.runId < world.tables.runs.length
  fetched : ∀ run ∈ world.tables.runs, run.report.join ≠ none → world.fetchOf run.runId ≠ none
  unreported : ∀ run ∈ world.tables.runs.head?, run.status.Open → run.report = none
  answered : ∀ run ∈ world.tables.runs.head?, run.status.Open →
    ∀ fetch ∈ world.fetchOf run.runId,
      fetch.response = feed.server.respond run.request.payload.validator fetch.document ∧
        (fetch.document.Lists node → world.document.Lists node)
  ahead : world.document.Lists node → ¬ Observed feed.format world.observations node →
    ∀ checkpoint ∈ world.tables.schedule.checkpoint, checkpoint.checkedAt ≤ effectiveAt
  read : world.tables.schedule.validator.sent ≠ .empty → ∃ read ∈ world.lastRead,
    world.tables.schedule.validator.sent.AgreesWith (feed.server.validator read.2.document)
  readObserved : ∀ read ∈ world.lastRead, PollSelects feed.format read.1 read.2 node →
    Observed feed.format world.observations node

/-- The invariant holds after a step that leaves the checkpoint where it is. -/
structure SeenAndUnmoved (feed : PolledFeed) (node : FeedNode) (effectiveAt : ℤ)
    (world written : FeedWorld) : Prop where
  seen : FeedSeen feed node effectiveAt written
  unmoved : written.tables.schedule.checkpoint = world.tables.schedule.checkpoint

section Steps

variable {feed : PolledFeed} {node : FeedNode} {effectiveAt : ℤ} {world written : FeedWorld}

/-- A schedule that has not been polled. -/
theorem FeedSeen.initial (dbNow nextDueAt : ℤ) (document : FeedDocument) :
    FeedSeen feed node effectiveAt (FeedWorld.initial dbNow nextDueAt document) where
  fit := RequestsFit.of_closed (by simp [FeedWorld.initial]) rfl (by simp [FeedWorld.initial])
  bootstrapped := fun hcompleted => absurd rfl hcompleted
  runIds := by simp [FeedWorld.initial]
  fetchIds := by simp [FeedWorld.initial]
  fetched := by simp [FeedWorld.initial]
  unreported := by simp [FeedWorld.initial]
  answered := by simp [FeedWorld.initial]
  ahead := by simp [FeedWorld.initial]
  read := fun hsent => absurd rfl hsent
  readObserved := by simp [FeedWorld.initial, FeedWorld.lastRead]

/-- The answer of a run that no worker has fetched for. -/
theorem FeedSeen.fetchOf_new (h : FeedSeen feed node effectiveAt world) :
    world.fetchOf world.tables.runs.length = none := by
  refine List.find?_eq_none.mpr fun fetch hfetch hsame => ?_
  have hlt := h.fetchIds fetch hfetch
  rw [of_decide_eq_true hsame] at hlt
  exact Nat.lt_irrefl _ hlt

/-- The invariant depends on the tables only through what is read from them. -/
theorem FeedSeen.of_kept (h : FeedSeen feed node effectiveAt world) {tables : FeedTables}
    (hkept : FeedTablesKept world.tables tables) (hfit : RequestsFit FeedRequestFits tables) :
    SeenAndUnmoved feed node effectiveAt world { world with tables } := by
  have hlast : FeedWorld.lastRead { world with tables } = world.lastRead := by
    unfold FeedWorld.lastRead FeedWorld.fetchOf
    dsimp only
    rw [hkept.lastReported]
  refine ⟨?_, hkept.checkpoint⟩
  constructor
  · exact hfit
  · dsimp only
    rw [hkept.checkpoint, hkept.bootstrapCompletedAt]
    exact h.bootstrapped
  · exact hkept.runIds h.runIds
  · exact fun fetch hfetch => Nat.lt_of_lt_of_le (h.fetchIds fetch hfetch) hkept.length
  · exact fun run hrun hreport => h.fetched run (hkept.reported run hrun hreport) hreport
  · exact fun run hrun hopen => (hkept.newest run hrun hopen).1
  · intro run hrun hopen fetch hfetch
    cases (hkept.newest run hrun hopen).2 with
    | inl hnew =>
      rw [hnew] at hfetch
      exact absurd (h.fetchOf_new.symm.trans hfetch) (by simp)
    | inr hwas =>
      obtain ⟨old, hold, holdOpen, hid, hrequest⟩ := hwas
      rw [← hid] at hfetch
      rw [← hrequest]
      exact h.answered old hold holdOpen fetch hfetch
  · dsimp only
    rw [hkept.checkpoint]
    exact h.ahead
  · dsimp only
    rw [hkept.validator, hlast]
    exact h.read
  · rw [hlast]
    exact h.readObserved

/-- The open run is the newest. -/
theorem RequestsFit.head_of_openRun {Payload Report : Type}
    {fits : Option ScheduleCheckpoint → HttpValidator → RunRequest Payload → Prop}
    {tables : RecurringTables Payload Report} {runId : ℕ} {run : AcquisitionRun Payload Report}
    (h : RequestsFit fits tables) (hopen : tables.openRun runId = some run) :
    run ∈ tables.runs.head? ∧ run.runId = runId ∧ run.status.Open := by
  obtain ⟨rest, hruns, hid, hstatus, -, -⟩ := h.openRun hopen
  rw [hruns]
  exact ⟨rfl, hid, hstatus⟩

/-- A failure keeps the invariant. -/
theorem FeedSeen.failRecurringRun (h : FeedSeen feed node effectiveAt world) {runId : ℕ}
    {run : FeedRun} (hopen : world.tables.openRun runId = some run) (retryDelay : ℤ)
    (reason : String) :
    SeenAndUnmoved feed node effectiveAt world
      { world with
        tables := LetletmeData.failRecurringRun feed.profile runId world.dbNow retryDelay reason
          world.tables } := by
  obtain ⟨hhead, -, hstatus⟩ := h.fit.head_of_openRun hopen
  exact h.of_kept
    (FeedTablesKept.failRecurringRun feed.notX h.fit hopen (h.unreported run hhead hstatus) _ _ _)
    (h.fit.failRecurringRun _ _ _ _ hopen).1

/-- The end of a run that could not be persisted keeps the invariant. -/
theorem FeedSeen.failFormalRun (h : FeedSeen feed node effectiveAt world) (runId : ℕ) :
    SeenAndUnmoved feed node effectiveAt world
      { world with
        tables := LetletmeData.failFormalRun feed.profile runId world.dbNow world.tables } := by
  unfold LetletmeData.failFormalRun
  split
  · exact ⟨h, rfl⟩
  · rename_i hopen
    exact h.failRecurringRun hopen _ _

/-- A new request fits its schedule. -/
theorem FeedSeen.freshRequest_fits (h : FeedSeen feed node effectiveAt world)
    (phase : AcquisitionPhase) (dbNow : ℤ) :
    FeedRequestFits world.tables.schedule.checkpoint world.tables.schedule.validator
      (freshRequest feed.profile (feedRequest feed.profile) phase dbNow world.tables.schedule) := by
  refine ⟨rfl, fun hbootstrap => ?_⟩
  have hcompleted : world.tables.schedule.bootstrapCompletedAt ≠ none := by
    intro hnone
    simp [freshRequest, feedRequest, hnone] at hbootstrap
  obtain ⟨last, hlast⟩ := Option.ne_none_iff_exists'.mp (h.bootstrapped hcompleted)
  refine ⟨last, hlast, ?_⟩
  have hsome : world.tables.schedule.bootstrapCompletedAt.isNone = false := hbootstrap
  simp [freshRequest, requestWindow, feed.notX, hsome, hlast]

/-- A claim keeps the invariant. -/
theorem FeedSeen.claim (h : FeedSeen feed node effectiveAt world) (facts : ClaimFacts) :
    SeenAndUnmoved feed node effectiveAt world (feedStep feed world (.claim facts)) := by
  change SeenAndUnmoved feed node effectiveAt world
    { world with
      tables := commit
        (claimDueFormalRun feed.profile (feedRequest feed.profile) facts world.dbNow)
        world.tables }
  cases hclaim : claimDueFormalRun feed.profile (feedRequest feed.profile) facts world.dbNow
      world.tables with
  | error message =>
    rw [commit_of_error hclaim]
    exact ⟨h, rfl⟩
  | ok tables =>
    rw [commit_of_ok hclaim]
    cases h.fit.claimDueFormalRun_eq_ok hclaim with
    | inl hsame =>
      rw [hsame]
      exact ⟨h, rfl⟩
    | inr hdue =>
      obtain ⟨hdue, hwritten⟩ := hdue
      obtain ⟨hfit, hidle⟩ := h.fit.recoverExpiredLease feed.profile hdue
      have hrecovered : SeenAndUnmoved feed node effectiveAt world
          { world with tables := recoverExpiredLease feed.profile world.dbNow world.tables } := by
        cases h.fit.recoverExpiredLease_eq feed.profile world.dbNow with
        | inl hsame =>
          rw [hsame]
          exact ⟨h, rfl⟩
        | inr hfailed =>
          obtain ⟨owner, run, hopen, heq⟩ := hfailed
          rw [heq]
          exact h.failRecurringRun hopen _ _
      have hfresh := hrecovered.seen.freshRequest_fits facts.phase world.dbNow
      have hclaimed := hrecovered.seen.of_kept (FeedTablesKept.of_claimWritten hwritten hidle)
        (hwritten.requestsFit hfit hidle hfresh)
      exact ⟨hclaimed.seen, hclaimed.unmoved.trans hrecovered.unmoved⟩

/-- A start keeps the invariant. -/
theorem FeedSeen.start (h : FeedSeen feed node effectiveAt world) (runId : ℕ) :
    SeenAndUnmoved feed node effectiveAt world (feedStep feed world (.start runId)) := by
  change SeenAndUnmoved feed node effectiveAt world
    { world with tables := commit (beginFormalRun runId world.dbNow) world.tables }
  cases hbegin : beginFormalRun runId world.dbNow world.tables with
  | error message =>
    rw [commit_of_error hbegin]
    exact ⟨h, rfl⟩
  | ok tables =>
    rw [commit_of_ok hbegin]
    have hfit := h.fit.beginFormalRun hbegin
    cases h.fit.beginFormalRun_eq_ok hbegin with
    | inl hsame =>
      rw [hsame]
      exact ⟨h, rfl⟩
    | inr hstarted =>
      obtain ⟨run, rest, hruns, hstatus, -, rfl⟩ := hstarted
      have hhead : run ∈ world.tables.runs.head? := by
        rw [hruns]
        rfl
      have hreport : run.report = none := h.unreported run hhead (Or.inl hstatus)
      exact h.of_kept
        (FeedTablesKept.of_rewrite hruns rfl rfl rfl rfl rfl (Or.inl hstatus) hreport hreport) hfit

/-- A document that keeps the dated items keeps the invariant, if the node does not appear in it
dated before the last check. -/
theorem FeedSeen.publish (h : FeedSeen feed node effectiveAt world) {document : FeedDocument}
    (hdate : node.effectiveAt feed.format = some effectiveAt)
    (hkeeps : KeepsDatedItems feed.format world (.publish document))
    (hreaches : PollReaches feed node effectiveAt world (.publish document)) :
    FeedSeen feed node effectiveAt (feedStep feed world (.publish document)) where
  fit := h.fit
  bootstrapped := h.bootstrapped
  runIds := h.runIds
  fetchIds := h.fetchIds
  fetched := h.fetched
  unreported := h.unreported
  answered := by
    intro run hrun hopen fetch hfetch
    obtain ⟨hresponse, hlisted⟩ := h.answered run hrun hopen fetch hfetch
    refine ⟨hresponse, fun hfetched => hkeeps node (hlisted hfetched) ?_⟩
    rw [hdate]
    exact Option.some_ne_none _
  ahead := by
    intro hlists hunseen
    by_cases hwas : world.document.Lists node
    · exact h.ahead hwas hunseen
    · exact hreaches hlists hwas
  read := h.read
  readObserved := h.readObserved

/-- What a worker was answered leaves the other answers. -/
theorem FeedWorld.fetchOf_cons (fetch : FeedFetch) (runId : ℕ) :
    FeedWorld.fetchOf { world with fetches := fetch :: world.fetches } runId =
      if fetch.runId = runId then some fetch else world.fetchOf runId := by
  unfold FeedWorld.fetchOf
  by_cases hsame : fetch.runId = runId <;> simp [hsame]

/-- An answer keeps the invariant. -/
theorem FeedSeen.fetch (h : FeedSeen feed node effectiveAt world) (runId : ℕ) (checkedAt : ℤ)
    (cacheNotBefore : Option ℤ) :
    FeedSeen feed node effectiveAt (feedStep feed world (.fetch runId checkedAt cacheNotBefore)) := by
  simp only [feedStep]
  split
  · exact h
  split
  · exact h
  rename_i run hopen hstarted
  obtain ⟨-, hunfetched⟩ := not_or.mp hstarted
  rw [not_not] at hunfetched
  obtain ⟨hhead, hid, hstatus⟩ := h.fit.head_of_openRun hopen
  set answer : FeedFetch :=
    { runId
      checkedAt
      cacheNotBefore
      document := world.document
      response := feed.server.respond run.request.payload.validator world.document } with hanswer
  have hkept : ∀ other, world.fetchOf other ≠ none →
      FeedWorld.fetchOf { world with fetches := answer :: world.fetches } other =
        world.fetchOf other := by
    intro other hother
    rw [FeedWorld.fetchOf_cons, if_neg]
    intro hsame
    rw [← hsame] at hother
    exact hother hunfetched
  -- every run that persisted a document was answered before
  have hlast : FeedWorld.lastRead { world with fetches := answer :: world.fetches } =
      world.lastRead := by
    unfold FeedWorld.lastRead
    dsimp only
    cases hfind : world.tables.runs.find? fun run => run.report.join ≠ none with
    | none => rfl
    | some reported =>
      have hreport := List.find?_some hfind
      have hwas := h.fetched reported (List.mem_of_find?_eq_some hfind) (of_decide_eq_true hreport)
      simp only [Option.bind_eq_bind, Option.bind_some, hkept reported.runId hwas]
  constructor
  · exact h.fit
  · exact h.bootstrapped
  · exact h.runIds
  · intro other hother
    cases List.mem_cons.mp hother with
    | inl hnew =>
      have hlt := h.runIds run (List.mem_of_mem_head? hhead)
      rw [hid] at hlt
      rw [hnew]
      exact hlt
    | inr hold => exact h.fetchIds other hold
  · intro other hother hreport
    have hwas := h.fetched other hother hreport
    rwa [hkept other.runId hwas]
  · exact h.unreported
  · intro other hother _ fetched hfetched
    obtain rfl := Option.some.inj (hhead.symm.trans hother)
    rw [FeedWorld.fetchOf_cons, if_pos hid.symm] at hfetched
    obtain rfl := Option.some.inj hfetched
    exact ⟨rfl, fun hlists => hlists⟩
  · exact h.ahead
  · rw [hlast]
    exact h.read
  · rw [hlast]
    exact h.readObserved

/-- The parts of a validator that are sent are parts of it. -/
theorem HttpValidator.sent_agreesWith (validator : HttpValidator) :
    validator.sent.AgreesWith validator :=
  ⟨fun _ htag => Option.eq_some_of_filter_eq_some htag,
    fun _ hdate => Option.eq_some_of_filter_eq_some hdate⟩

/-- Two documents that a validator agrees with are one. -/
theorem FeedServer.ValidatorsIdentify.unique {server : FeedServer}
    (hserver : server.ValidatorsIdentify) {sent : HttpValidator} {left right : FeedDocument}
    (hsent : sent ≠ .empty) (hleft : sent.AgreesWith (server.validator left))
    (hright : sent.AgreesWith (server.validator right)) : left = right := by
  cases hetag : sent.etag with
  | some tag => exact hserver.etag left right tag (hleft.1 tag hetag) (hright.1 tag hetag)
  | none =>
    cases hdate : sent.lastModified with
    | some date =>
      exact hserver.lastModified left right date (hleft.2 date hdate) (hright.2 date hdate)
    | none =>
      refine absurd ?_ hsent
      calc sent = ⟨sent.etag, sent.lastModified⟩ := rfl
        _ = HttpValidator.empty := by rw [hetag, hdate, HttpValidator.empty]

section Finish

variable {run : FeedRun} {fetch : FeedFetch} {status : RunStatus} {rest : List FeedRun}

/-- After a poll that was answered with a document, that document is the one read last. -/
theorem PollPersisted.lastRead_of_document
    (hpersisted : PollPersisted feed run fetch world written status rest)
    (hfetch : world.fetchOf run.runId = some fetch) {nodes : FeedDocument}
    {validator : HttpValidator} (hresponse : fetch.response = .document nodes validator) :
    ∃ ended, written.lastRead = some (ended, fetch) ∧ ended.request = run.request := by
  obtain ⟨endStatus, advanced, hruns⟩ := hpersisted.runs
  rw [hresponse] at hruns
  have hanswer : written.fetchOf run.runId = some fetch := by
    rw [FeedWorld.fetchOf, hpersisted.fetches]
    exact hfetch
  refine ⟨run.ended endStatus advanced (some (runFeedAdapter feed.format run.request
    (.document nodes validator)).metrics), ?_, rfl⟩
  rw [FeedWorld.lastRead, hruns,
    List.find?_cons_of_pos (by simp [AcquisitionRun.ended, runFeedAdapter])]
  simp only [AcquisitionRun.ended, hanswer, Option.bind_eq_bind, Option.bind_some, Option.pure_def]

/-- A poll that was not modified leaves what was read last. -/
theorem PollPersisted.lastRead_of_notModified
    (hpersisted : PollPersisted feed run fetch world written status rest)
    (hreport : run.report = none) {validator : HttpValidator}
    (hresponse : fetch.response = .notModified validator) :
    written.lastRead = world.lastRead := by
  obtain ⟨endStatus, advanced, hruns⟩ := hpersisted.runs
  rw [hresponse] at hruns
  unfold FeedWorld.lastRead FeedWorld.fetchOf
  rw [hruns, hpersisted.fetches, hpersisted.before]
  rw [List.find?_cons_of_neg (by simp [AcquisitionRun.ended, runFeedAdapter]),
    List.find?_cons_of_neg (by simp [hreport])]

/-- The reading that a run goes by is of the document it fetched, and what it selected is observed
when the run ends. -/
theorem FeedSeen.reading_of_persisted (h : FeedSeen feed node effectiveAt world)
    (hserver : feed.server.ValidatorsIdentify)
    (hopen : world.tables.openRun run.runId = some run)
    (hfetch : world.fetchOf run.runId = some fetch)
    (hpersisted : PollPersisted feed run fetch world written status rest) :
    ∃ read, world.reading run fetch = some read ∧ read.2.document = fetch.document ∧
      (PollSelects feed.format read.1 read.2 node →
        Observed feed.format written.observations node) := by
  obtain ⟨hhead, -, hstatus⟩ := h.fit.head_of_openRun hopen
  obtain ⟨hresponse, -⟩ := h.answered run hhead hstatus fetch hfetch
  have hsent : run.request.payload.validator = world.tables.schedule.validator.sent :=
    (h.fit.openFits run hhead hstatus).1
  unfold FeedServer.respond at hresponse
  split at hresponse
  · rename_i hmatched
    rw [hsent] at hmatched
    obtain ⟨read, hread, hagrees⟩ := h.read hmatched.1
    refine ⟨read, ?_, hserver.unique hmatched.1 hagrees hmatched.2, fun hselects => ?_⟩
    · rw [FeedWorld.reading, hresponse]
      exact hread
    · exact hpersisted.observed_mono (h.readObserved read hread hselects)
  · refine ⟨(run, fetch), ?_, rfl, hpersisted.observed_of_selected hresponse⟩
    rw [FeedWorld.reading, hresponse]

/-- What a run that completes has not observed is dated at its check or later, if it is listed, and
at the end of its window or later, if its document was not modified and lists it. -/
theorem FeedSeen.reaches_of_persisted (h : FeedSeen feed node effectiveAt world)
    (hserver : feed.server.ValidatorsIdentify)
    (hreaches : PollReaches feed node effectiveAt world (.finish run.runId))
    (hopen : world.tables.openRun run.runId = some run)
    (hfetch : world.fetchOf run.runId = some fetch)
    (hpersisted : PollPersisted feed run fetch world written status rest)
    (hstatus : status ≠ .partialResult)
    (hunseen : ¬ Observed feed.format written.observations node) :
    (world.document.Lists node → fetch.checkedAt ≤ effectiveAt) ∧
      (fetch.response.IsNotModified → fetch.document.Lists node →
        run.request.window.windowEnd ≤ effectiveAt) := by
  obtain ⟨read, hread, -, hselected⟩ := h.reading_of_persisted hserver hopen hfetch hpersisted
  refine hreaches run hopen fetch hfetch ⟨⟨status, ?_, hpersisted.accepted⟩, hpersisted.due⟩ ?_
  · exact (feedPollStatus_not_open hpersisted.accepted).resolve_right hstatus
  · intro other hother
    obtain rfl := Option.some.inj (hread.symm.trans hother)
    exact fun hselects => hunseen (hselected hselects)

/-- The end of a poll keeps the invariant. -/
theorem FeedSeen.of_persisted (h : FeedSeen feed node effectiveAt world)
    (hserver : feed.server.ValidatorsIdentify)
    (hreaches : PollReaches feed node effectiveAt world (.finish run.runId))
    (hopen : world.tables.openRun run.runId = some run)
    (hfetch : world.fetchOf run.runId = some fetch)
    (hfit : RequestsFit FeedRequestFits written.tables)
    (hpersisted : PollPersisted feed run fetch world written status rest) :
    FeedSeen feed node effectiveAt written := by
  obtain ⟨hhead, -, hstatus⟩ := h.fit.head_of_openRun hopen
  obtain ⟨endStatus, advanced, hruns⟩ := hpersisted.runs
  have hlength : written.tables.runs.length = world.tables.runs.length := by
    rw [hruns, hpersisted.before, List.length_cons, List.length_cons]
  have hfetchOf : ∀ runId, written.fetchOf runId = world.fetchOf runId := by
    intro runId
    rw [FeedWorld.fetchOf, FeedWorld.fetchOf, hpersisted.fetches]
  have hrest : ∀ other ∈ rest, other ∈ world.tables.runs := by
    intro other hother
    rw [hpersisted.before]
    exact List.mem_cons_of_mem _ hother
  have hclosed : ∀ other ∈ written.tables.runs.head?, ¬ other.status.Open :=
    fun other hother => hpersisted.idle.2 other (List.mem_of_mem_head? hother)
  constructor
  · exact hfit
  · intro hcompleted
    rw [hpersisted.checkpoint]
    split
    · rename_i hcut
      exact h.bootstrapped ((hpersisted.bootstrap hcompleted).resolve_left (not_not.mpr hcut))
    · exact Option.some_ne_none _
  · intro other hother
    rw [hlength]
    rw [hruns] at hother
    cases List.mem_cons.mp hother with
    | inl hfirst =>
      rw [hfirst]
      exact h.runIds run (List.mem_of_mem_head? hhead)
    | inr hlater => exact h.runIds other (hrest other hlater)
  · rw [hlength, hpersisted.fetches]
    exact h.fetchIds
  · intro other hother hreport
    rw [hfetchOf]
    rw [hruns] at hother
    cases List.mem_cons.mp hother with
    | inl hfirst =>
      rw [hfirst]
      change world.fetchOf run.runId ≠ none
      rw [hfetch]
      exact Option.some_ne_none _
    | inr hlater => exact h.fetched other (hrest other hlater) hreport
  · exact fun other hother hotherOpen => absurd hotherOpen (hclosed other hother)
  · exact fun other hother hotherOpen => absurd hotherOpen (hclosed other hother)
  · intro hlists hunseen checkpoint hcheckpoint
    rw [hpersisted.checkpoint] at hcheckpoint
    rw [hpersisted.document] at hlists
    split at hcheckpoint
    · refine h.ahead hlists (fun hseen => hunseen (hpersisted.observed_mono hseen)) _ hcheckpoint
    · rename_i hcomplete
      obtain rfl := Option.some.inj hcheckpoint
      exact (h.reaches_of_persisted hserver hreaches hopen hfetch hpersisted hcomplete hunseen).1
        hlists
  · intro hsent
    obtain ⟨hresponse, -⟩ := h.answered run hhead hstatus fetch hfetch
    have hvalidator := hpersisted.validator
    obtain ⟨read, hread, hsame, -⟩ := h.reading_of_persisted hserver hopen hfetch hpersisted
    have hstored : written.tables.schedule.validator = feed.server.validator fetch.document := by
      unfold FeedServer.respond at hresponse
      split at hresponse
      · rw [hresponse] at hvalidator
        change written.tables.schedule.validator =
          if feed.server.repeatsValidator then feed.server.validator fetch.document
          else .empty at hvalidator
        split at hvalidator
        · exact hvalidator
        · rw [hvalidator] at hsent
          exact absurd rfl hsent
      · rw [hresponse] at hvalidator
        exact hvalidator
    rw [hstored]
    cases hanswer : fetch.response with
    | document nodes validator =>
      obtain ⟨ended, hlast, -⟩ := hpersisted.lastRead_of_document hfetch hanswer
      exact ⟨_, hlast, HttpValidator.sent_agreesWith _⟩
    | notModified validator =>
      rw [FeedWorld.reading, hanswer] at hread
      rw [hpersisted.lastRead_of_notModified (h.unreported run hhead hstatus) hanswer]
      refine ⟨read, hread, ?_⟩
      rw [hsame]
      exact HttpValidator.sent_agreesWith _
  · intro read hread hselects
    cases hanswer : fetch.response with
    | document nodes validator =>
      obtain ⟨ended, hlast, hrequest⟩ := hpersisted.lastRead_of_document hfetch hanswer
      obtain rfl := Option.some.inj (hlast.symm.trans hread)
      obtain ⟨own, hown, -, hselected⟩ :=
        h.reading_of_persisted hserver hopen hfetch hpersisted
      rw [FeedWorld.reading, hanswer] at hown
      obtain rfl := Option.some.inj hown
      refine hselected ?_
      rwa [PollSelects, ← hrequest]
    | notModified validator =>
      rw [hpersisted.lastRead_of_notModified (h.unreported run hhead hstatus) hanswer] at hread
      exact hpersisted.observed_mono (h.readObserved read hread hselects)

/-- A poll after the bootstrap that moves the checkpoint past a listed node has observed it. -/
theorem FeedSeen.observed_of_persisted (h : FeedSeen feed node effectiveAt world)
    (hserver : feed.server.ValidatorsIdentify)
    (hdate : node.effectiveAt feed.format = some effectiveAt)
    (hreaches : PollReaches feed node effectiveAt world (.finish run.runId))
    (hopen : world.tables.openRun run.runId = some run)
    (hfetch : world.fetchOf run.runId = some fetch)
    (hpersisted : PollPersisted feed run fetch world written status rest)
    (hmoved : written.tables.schedule.checkpoint ≠ world.tables.schedule.checkpoint)
    (hbootstrap : run.request.payload.bootstrapEnabled = false)
    (hlists : fetch.document.Lists node) {checkpoint : ScheduleCheckpoint}
    (hcheckpoint : checkpoint ∈ written.tables.schedule.checkpoint)
    (hpassed : effectiveAt < checkpoint.windowEnd) :
    Observed feed.format written.observations node := by
  obtain ⟨hhead, -, hstatus⟩ := h.fit.head_of_openRun hopen
  obtain ⟨hresponse, hlisted⟩ := h.answered run hhead hstatus fetch hfetch
  have hcomplete : status ≠ .partialResult := by
    intro hcut
    rw [hpersisted.checkpoint, if_pos hcut] at hmoved
    exact hmoved rfl
  rw [hpersisted.checkpoint, if_neg hcomplete] at hcheckpoint
  obtain rfl := Option.some.inj hcheckpoint
  by_contra hunseen
  cases hanswer : fetch.response with
  | notModified validator =>
    have hnotModified : fetch.response.IsNotModified := by
      rw [hanswer]
      trivial
    have hlate := (h.reaches_of_persisted hserver hreaches hopen hfetch hpersisted hcomplete
      hunseen).2 hnotModified hlists
    exact absurd hpassed (Int.not_lt.mpr hlate)
  | document nodes validator =>
    -- the limit cut nothing off, so the node is dated before the window
    have hnodes : nodes = fetch.document := by
      rw [hanswer, FeedServer.respond] at hresponse
      split at hresponse
      · exact absurd hresponse (by simp)
      · exact (FeedResponse.document.inj hresponse).1
    have haccepted := hpersisted.accepted
    rw [hanswer] at haccepted
    have hlimit := itemLimitCount_of_feedPollStatus haccepted hcomplete hbootstrap
    have hscope : feedScope run.request = ⟨run.request.window.windowStart,
        run.request.window.windowEnd, run.request.payload.maxItems⟩ := by
      rw [feedScope, if_neg]
      rw [hbootstrap]
      simp
    obtain ⟨last, hlast, hstart⟩ := (h.fit.openFits run hhead hstatus).2 hbootstrap
    have hchecked : last.checkedAt ≤ effectiveAt :=
      h.ahead (hlisted hlists) (fun hseen => hunseen (hpersisted.observed_mono hseen)) last hlast
    refine hunseen (hpersisted.observed_of_selected hanswer
      (mem_selectedNodes_of_itemLimit hlimit hdate ?_ ?_))
    · rw [hnodes]
      exact hlists
    · rw [hscope]
      exact ⟨hstart ▸ hchecked, Int.le_of_lt hpassed⟩

end Finish

/-- Every step keeps the invariant, and has seen what the checkpoint passes. -/
theorem FeedSeen.step (h : FeedSeen feed node effectiveAt world)
    (hserver : feed.server.ValidatorsIdentify)
    (hdate : node.effectiveAt feed.format = some effectiveAt) (action : FeedAction)
    (hkeeps : KeepsDatedItems feed.format world action)
    (hreaches : PollReaches feed node effectiveAt world action) :
    FeedSeen feed node effectiveAt (feedStep feed world action) ∧
      SeenWhenPassed feed node effectiveAt world action := by
  cases action with
  | wait elapsed => exact ⟨{ h with }, fun hmoved => absurd rfl hmoved⟩
  | publish document => exact ⟨h.publish hdate hkeeps hreaches, fun hmoved => absurd rfl hmoved⟩
  | claim facts =>
    exact ⟨(h.claim facts).seen, fun hmoved => absurd (h.claim facts).unmoved hmoved⟩
  | start runId =>
    exact ⟨(h.start runId).seen, fun hmoved => absurd (h.start runId).unmoved hmoved⟩
  | fetch runId checkedAt cacheNotBefore =>
    refine ⟨h.fetch runId checkedAt cacheNotBefore, fun hmoved => absurd ?_ hmoved⟩
    simp only [feedStep]
    split
    · rfl
    split <;> rfl
  | fail runId =>
    exact ⟨(h.failFormalRun runId).seen, fun hmoved => absurd (h.failFormalRun runId).unmoved hmoved⟩
  | finish runId =>
    unfold SeenWhenPassed
    simp only [feedStep]
    cases hopen : world.tables.openRun runId with
    | none => exact ⟨h, fun hmoved => absurd rfl hmoved⟩
    | some run =>
      obtain ⟨-, hid, -⟩ := h.fit.head_of_openRun hopen
      subst hid
      cases hfetch : world.fetchOf run.runId with
      | none => exact ⟨h, fun hmoved => absurd rfl hmoved⟩
      | some fetch =>
        dsimp only
        cases hpersist : persistFeedPoll feed run fetch world with
        | error message =>
          have hfailed := h.failFormalRun run.runId
          exact ⟨hfailed.seen, fun hmoved => absurd hfailed.unmoved hmoved⟩
        | ok written =>
          obtain ⟨hfit, status, rest, hpersisted⟩ := persistFeedPoll_eq_ok h.fit hopen hpersist
          refine ⟨h.of_persisted hserver hreaches hopen hfetch hfit hpersisted, fun hmoved => ?_⟩
          refine ⟨run.runId, run, fetch, rfl, hopen, hfetch, ?_⟩
          intro hbootstrap hlists checkpoint hcheckpoint hpassed
          exact h.observed_of_persisted hserver hdate hreaches hopen hfetch hpersisted hmoved
            hbootstrap hlists hcheckpoint hpassed

end Steps

end LetletmeData
