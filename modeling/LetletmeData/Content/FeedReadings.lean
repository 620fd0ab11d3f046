import LetletmeData.Content.FeedPolls
import LetletmeData.Content.RequestFits

/-!
# What feed polls have read

An item is observed when a poll selected it from the document that it was answered. The window of a
poll starts where the last poll was answered, and ends where the poll was claimed: an item that is
dated between the claim and the answer is in neither window, and a validator that is sent back
hides what the last document left out. What follows says when a poll reaches an item.
-/

namespace LetletmeData

open LetletmeData.Library

/-! ### What is to be shown -/

section Statement

variable (feed : PolledFeed) (node : FeedNode) (effectiveAt : ℤ)

/-- The document lists the node. -/
def FeedDocument.Lists (document : FeedDocument) (node : FeedNode) : Prop := some node ∈ document

instance (document : FeedDocument) (node : FeedNode) : Decidable (document.Lists node) :=
  inferInstanceAs (Decidable (_ ∈ _))

/-- A node has been observed: its item was accepted, or its rejection was recorded. -/
def Observed (format : FeedFormat) (observations : List FeedObservation) (node : FeedNode) : Prop :=
  (∃ item, nodeItem format node = some item ∧
    ∃ row ∈ observations, row.externalItemId = item.externalItemId ∧ row.outcome = .ok item) ∨
  ∃ index rejection, nodeRejection format node index = some rejection ∧
    ∃ row ∈ observations, row.externalItemId = rejection.externalItemId ∧
      row.outcome = .error rejection.reasonCode

/-- Dated items stay listed. -/
def KeepsDatedItems (format : FeedFormat) (world : FeedWorld) : FeedAction → Prop
  | .publish document =>
    ∀ node, world.document.Lists node → node.effectiveAt format ≠ none → document.Lists node
  | _ => True

instance (format : FeedFormat) (world : FeedWorld) (action : FeedAction) :
    Decidable (KeepsDatedItems format world action) :=
  match action with
  | .publish document =>
    decidable_of_iff
      (∀ value ∈ world.document, ∀ node ∈ value, node.effectiveAt format ≠ none →
        document.Lists node)
      ⟨fun h node hlists => h (some node) hlists node rfl,
        fun h value hvalue node hnode =>
          h node (show some node ∈ world.document by rwa [← Option.mem_def.mp hnode])⟩
  | .wait _ | .claim _ | .start _ | .fetch _ _ _ | .finish _ | .fail _ =>
    inferInstanceAs (Decidable True)

/-- A step moves the checkpoint only as the end of a poll. A poll after the bootstrap that moves it
past the date of an item that was listed when it fetched leaves the item observed. -/
def SeenWhenPassed (world : FeedWorld) (action : FeedAction) : Prop :=
  (feedStep feed world action).tables.schedule.checkpoint ≠ world.tables.schedule.checkpoint →
    ∃ runId run fetch, action = .finish runId ∧ world.tables.openRun runId = some run ∧
      world.fetchOf runId = some fetch ∧
      (run.request.payload.bootstrapEnabled = false → fetch.document.Lists node →
        ∀ checkpoint ∈ (feedStep feed world action).tables.schedule.checkpoint,
          effectiveAt < checkpoint.windowEnd →
            Observed feed.format (feedStep feed world action).observations node)

/-! ### When it holds -/

/-- The newest run that persisted a document, and what it was answered. -/
def FeedWorld.lastRead (world : FeedWorld) : Option (FeedRun × FeedFetch) := do
  let run ← world.tables.runs.find? fun run => run.report.join ≠ none
  let fetch ← world.fetchOf run.runId
  return (run, fetch)

/-- A poll selected the node from the document it was answered. -/
def PollSelects (format : FeedFormat) (run : FeedRun) (fetch : FeedFetch) (node : FeedNode) : Prop :=
  node ∈ selectedNodes format (feedScope run.request) fetch.document

instance (format : FeedFormat) (run : FeedRun) (fetch : FeedFetch) (node : FeedNode) :
    Decidable (PollSelects format run fetch node) := inferInstanceAs (Decidable (_ ∈ _))

/-- The poll that read the document a run goes by: the run itself, or the last one that persisted a
document when it was not modified. -/
def FeedWorld.reading (world : FeedWorld) (run : FeedRun) (fetch : FeedFetch) :
    Option (FeedRun × FeedFetch) :=
  match fetch.response with
  | .document _ _ => some (run, fetch)
  | .notModified _ => world.lastRead

/-- A poll can be persisted, and is not partial. -/
def PollCompletes (world : FeedWorld) (run : FeedRun) (fetch : FeedFetch) : Prop :=
  (∃ status ∈ [RunStatus.empty, .checkedNoChange, .completed],
    feedPollStatus run.request (runFeedAdapter feed.format run.request fetch.response) =
      .ok status) ∧
  world.dbNow ≤ nextDueAt fetch.checkedAt (feed.profile.cadenceMinutes run.request.phase)
    fetch.cacheNotBefore

/-- The document was not modified. -/
def FeedResponse.IsNotModified : FeedResponse → Prop
  | .notModified _ => True
  | .document _ _ => False

instance : ∀ response : FeedResponse, Decidable response.IsNotModified
  | .notModified _ => inferInstanceAs (Decidable True)
  | .document _ _ => inferInstanceAs (Decidable False)

/-- What the checkpoint needs. A node that appears in the feed is dated at the last check or later.
When a poll completes that goes by a document from which the node was not selected, then the node
is dated at the new check or later if it is listed, and at the end of the window or later if the
document was not modified and lists it. -/
def PollReaches (world : FeedWorld) : FeedAction → Prop
  | .publish document =>
    document.Lists node → ¬ world.document.Lists node →
      ∀ checkpoint ∈ world.tables.schedule.checkpoint, checkpoint.checkedAt ≤ effectiveAt
  | .finish runId =>
    ∀ run ∈ world.tables.openRun runId, ∀ fetch ∈ world.fetchOf runId,
      PollCompletes feed world run fetch →
      (∀ reading ∈ world.reading run fetch, ¬ PollSelects feed.format reading.1 reading.2 node) →
        (world.document.Lists node → fetch.checkedAt ≤ effectiveAt) ∧
        (fetch.response.IsNotModified → fetch.document.Lists node →
          run.request.window.windowEnd ≤ effectiveAt)
  | _ => True

instance (world : FeedWorld) (run : FeedRun) (fetch : FeedFetch) :
    Decidable (PollCompletes feed world run fetch) := inferInstanceAs (Decidable (_ ∧ _))

instance (world : FeedWorld) (action : FeedAction) :
    Decidable (PollReaches feed node effectiveAt world action) :=
  match action with
  | .publish document =>
    inferInstanceAs (Decidable (document.Lists node → ¬ world.document.Lists node → _))
  | .finish runId =>
    inferInstanceAs (Decidable (∀ run ∈ world.tables.openRun runId,
      ∀ fetch ∈ world.fetchOf runId, PollCompletes feed world run fetch →
        (∀ reading ∈ world.reading run fetch,
          ¬ PollSelects feed.format reading.1 reading.2 node) →
            (world.document.Lists node → fetch.checkedAt ≤ effectiveAt) ∧
              (fetch.response.IsNotModified → fetch.document.Lists node →
                run.request.window.windowEnd ≤ effectiveAt)))
  | .wait _ | .claim _ | .start _ | .fetch _ _ _ | .fail _ => inferInstanceAs (Decidable True)

end Statement

/-! ### Selected nodes -/

section Selection

variable {format : FeedFormat} {scope : FeedScope} {document : FeedDocument} {node : FeedNode}
  {effectiveAt : ℤ}

/-- A node is eligible when it is listed and its date is in the scope. -/
theorem mem_eligibleNodes (hdate : node.effectiveAt format = some effectiveAt) :
    (node, effectiveAt) ∈ eligibleNodes format scope document ↔
      document.Lists node ∧ scope.Contains effectiveAt := by
  rw [eligibleNodes, (List.perm_insertionSort _ _).mem_iff, List.mem_filter, List.mem_filterMap,
    decide_eq_true_iff]
  refine and_congr_left fun _ => ⟨fun hlisted => ?_, fun hlisted => ?_⟩
  · obtain ⟨value, hvalue, hdated⟩ := hlisted
    cases value with
    | none => exact absurd hdated (by simp [datedNode])
    | some other =>
      obtain ⟨date, -, hdated⟩ := Option.bind_eq_some_iff.mp hdated
      have hsame : (other, date) = (node, effectiveAt) := Option.some.inj hdated
      rw [(Prod.mk.inj hsame).1] at hvalue
      exact hvalue
  · exact ⟨some node, hlisted, by simp [datedNode, hdate]⟩

/-- Where the limit cuts nothing off, every eligible node is selected. -/
theorem mem_selectedNodes_of_itemLimit
    (hlimit : (bootstrapMetrics format scope document).itemLimitCount = 0)
    (hdate : node.effectiveAt format = some effectiveAt) (hlisted : document.Lists node)
    (hscope : scope.Contains effectiveAt) : node ∈ selectedNodes format scope document := by
  have hlength : (eligibleNodes format scope document).length ≤ scope.maxItems := by
    simp only [bootstrapMetrics, selectedNodes, List.length_map, List.length_take] at hlimit
    omega
  refine List.mem_map.mpr ⟨(node, effectiveAt), ?_, rfl⟩
  rw [List.take_of_length_le hlength]
  exact (mem_eligibleNodes hdate).mpr ⟨hlisted, hscope⟩

end Selection

/-! ### What a poll persists -/

section Persisted

variable {feed : PolledFeed} {run : FeedRun} {fetch : FeedFetch} {world written : FeedWorld}
  {node : FeedNode}

/-- What an end persists of a poll. -/
structure PollPersisted (feed : PolledFeed) (run : FeedRun) (fetch : FeedFetch)
    (world written : FeedWorld) (status : RunStatus) (rest : List FeedRun) : Prop where
  accepted : feedPollStatus run.request
    (runFeedAdapter feed.format run.request fetch.response) = .ok status
  due : world.dbNow ≤ nextDueAt fetch.checkedAt (feed.profile.cadenceMinutes run.request.phase)
    fetch.cacheNotBefore
  before : world.tables.runs = run :: rest
  idle : written.tables.Idle
  runs : ∃ ended checkpointAdvanced, written.tables.runs =
    run.ended ended checkpointAdvanced
      (some (runFeedAdapter feed.format run.request fetch.response).metrics) :: rest
  checkpoint : written.tables.schedule.checkpoint =
    if status = .partialResult then world.tables.schedule.checkpoint
    else some ⟨fetch.checkedAt, run.request.window.windowEnd⟩
  validator : written.tables.schedule.validator =
    (runFeedAdapter feed.format run.request fetch.response).validator
  bootstrap : written.tables.schedule.bootstrapCompletedAt ≠ none →
    status ≠ .partialResult ∨ world.tables.schedule.bootstrapCompletedAt ≠ none
  document : written.document = world.document
  fetches : written.fetches = world.fetches
  observations : written.observations =
    (runFeedAdapter feed.format run.request fetch.response).items.map
        (fun item => ⟨run.runId, item.externalItemId, .ok item⟩) ++
      (runFeedAdapter feed.format run.request fetch.response).rejections.map
        (fun rejection => ⟨run.runId, rejection.externalItemId, .error rejection.reasonCode⟩) ++
      world.observations

/-- The status of a poll is one of an end. -/
theorem feedPollStatus_not_open {request : RunRequest FeedRequest} {response : FeedResponse}
    {status : RunStatus}
    (h : feedPollStatus request (runFeedAdapter feed.format request response) = .ok status) :
    status ∈ [RunStatus.empty, .checkedNoChange, .completed] ∨ status = .partialResult := by
  unfold feedPollStatus at h
  obtain ⟨-, h⟩ := throwIf_bind_eq_ok.mp h
  dsimp only at h
  obtain ⟨-, -, h⟩ := bind_eq_ok.mp h
  obtain rfl := Except.ok.inj h
  split
  · exact Or.inr rfl
  split
  · exact Or.inr rfl
  refine Or.inl ?_
  cases response with
  | notModified validator => simp [runFeedAdapter]
  | document nodes validator =>
    simp only [runFeedAdapter]
    split
    · split <;> simp
    · simp

/-- A poll that persists is not cut off by the limit, unless it is partial. -/
theorem itemLimitCount_of_feedPollStatus {request : RunRequest FeedRequest} {nodes : FeedDocument}
    {validator : HttpValidator} {status : RunStatus}
    (h : feedPollStatus request
      (runFeedAdapter feed.format request (.document nodes validator)) = .ok status)
    (hstatus : status ≠ .partialResult) (hbootstrap : request.payload.bootstrapEnabled = false) :
    (bootstrapMetrics feed.format (feedScope request) nodes).itemLimitCount = 0 := by
  unfold feedPollStatus at h
  obtain ⟨-, h⟩ := throwIf_bind_eq_ok.mp h
  dsimp only at h
  obtain ⟨-, -, h⟩ := bind_eq_ok.mp h
  obtain rfl := Except.ok.inj h
  by_contra hlimit
  apply hstatus
  split
  · rfl
  · rw [if_pos]
    exact ⟨hbootstrap, _, rfl, Nat.pos_of_ne_zero hlimit⟩

/-- What the end of a poll persists. -/
theorem persistFeedPoll_eq_ok
    {fits : Option ScheduleCheckpoint → HttpValidator → RunRequest FeedRequest → Prop}
    (hfit : RequestsFit fits world.tables) (hopen : world.tables.openRun run.runId = some run)
    (h : persistFeedPoll feed run fetch world = .ok written) :
    RequestsFit fits written.tables ∧
      ∃ status rest, PollPersisted feed run fetch world written status rest := by
  unfold persistFeedPoll at h
  obtain ⟨status, hstatus, h⟩ := bind_eq_ok.mp h
  obtain ⟨tables, htables, h⟩ := bind_eq_ok.mp h
  obtain rfl := Except.ok.inj h
  obtain ⟨other, rest, hpersisted⟩ := hfit.persistRecurringResult_eq_ok htables
  obtain rfl : run = other := Option.some.inj (hopen.symm.trans hpersisted.openRun)
  have hwritten : RequestsFit fits tables := by
    refine hfit.persistRecurringResult ?_ htables
    dsimp only
    split
    · simp [RunStatus.Open]
    · cases feedPollStatus_not_open hstatus with
      | inl hmem =>
        simp only [List.mem_cons, List.not_mem_nil, or_false] at hmem
        obtain rfl | rfl | rfl := hmem <;> simp [RunStatus.Open]
      | inr hcut =>
        rw [hcut]
        simp [RunStatus.Open]
  refine ⟨hwritten, status, rest, ⟨hstatus, hpersisted.due, hpersisted.before,
    hwritten.idle hpersisted.leaseOwner, ⟨_, _, hpersisted.runs⟩, ?_, hpersisted.validator, ?_,
    rfl, rfl, rfl⟩⟩
  · rw [hpersisted.checkpoint]
    by_cases hcut : status = .partialResult
    · simp [hcut]
    · simp only [ne_eq, hcut, not_false_eq_true, decide_true, if_true, if_false,
        Option.some_or]
  · intro hcompleted
    rw [hpersisted.bootstrapCompletedAt] at hcompleted
    by_cases hcut : status = .partialResult
    · right
      simpa [hcut] using hcompleted
    · exact Or.inl hcut

/-- What was observed before an end is observed after it. -/
theorem PollPersisted.observed_mono {status : RunStatus} {rest : List FeedRun}
    (h : PollPersisted feed run fetch world written status rest)
    (hseen : Observed feed.format world.observations node) :
    Observed feed.format written.observations node := by
  have hmem : ∀ row ∈ world.observations, row ∈ written.observations := by
    intro row hrow
    rw [h.observations]
    exact List.mem_append_right _ hrow
  cases hseen with
  | inl haccepted =>
    obtain ⟨item, hitem, row, hrow, hrest⟩ := haccepted
    exact Or.inl ⟨item, hitem, row, hmem row hrow, hrest⟩
  | inr hrejected =>
    obtain ⟨index, rejection, hrejection, row, hrow, hrest⟩ := hrejected
    exact Or.inr ⟨index, rejection, hrejection, row, hmem row hrow, hrest⟩

/-- The nodes that a poll selects are observed. -/
theorem PollPersisted.observed_of_selected {status : RunStatus} {rest : List FeedRun}
    {nodes : FeedDocument} {validator : HttpValidator}
    (h : PollPersisted feed run fetch world written status rest)
    (hresponse : fetch.response = .document nodes validator)
    (hselected : node ∈ selectedNodes feed.format (feedScope run.request) nodes) :
    Observed feed.format written.observations node := by
  have hobservations := h.observations
  rw [hresponse] at hobservations
  cases hparsed : parseFeedItem feed.format node with
  | ok item =>
    have hitem : nodeItem feed.format node = some item := by simp [nodeItem, hparsed]
    refine Or.inl ⟨item, hitem, ⟨run.runId, item.externalItemId, .ok item⟩, ?_, rfl, rfl⟩
    rw [hobservations, List.append_assoc]
    refine List.mem_append_left _ (List.mem_map_of_mem ?_)
    exact List.mem_filterMap.mpr ⟨node, hselected, hitem⟩
  | error reason =>
    obtain ⟨index, hindex⟩ := List.getElem?_of_mem hselected
    obtain ⟨rejection, hrejection⟩ :
        ∃ rejection, nodeRejection feed.format node index = some rejection := by
      simp [nodeRejection, hparsed]
    refine Or.inr ⟨index, rejection, hrejection,
      ⟨run.runId, rejection.externalItemId, .error rejection.reasonCode⟩, ?_, rfl, rfl⟩
    rw [hobservations]
    refine List.mem_append_left _ (List.mem_append_right _ (List.mem_map_of_mem ?_))
    exact List.mem_filterMap.mpr
      ⟨(node, index), List.mk_mem_zipIdx_iff_getElem?.mpr hindex, hrejection⟩

end Persisted

end LetletmeData
