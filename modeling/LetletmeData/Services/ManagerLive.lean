import LetletmeData.Library.Runs
import LetletmeData.Repositories.LiveWindow

/-!
# Live manager scores

Refreshes of any number run at the same time: entry summaries, stamped when each of them has been
fetched, and crawls of classic standings, stamped before their first page. Both write their rows
to Redis, and then to the checkpoints. A reader reads Redis, then the checkpoints, and merges
them. Writes that fail are logged and left; the keys in Redis do not expire while they are used.
-/

namespace LetletmeData

open LetletmeData.Library

/-- `REFRESH_SECONDS`, in milliseconds. -/
def managerRefreshMs : ℤ := 30 * 1000

/-- `STALE_SECONDS`, in milliseconds. -/
def managerStaleMs : ℤ := max 90 (3 * 30) * 1000

/-- `MAX_STANDINGS_PAGES`. -/
def maxStandingsPages : ℕ := 20

/-- `MAX_SUMMARY_FETCH_CONCURRENCY`. -/
def maxSummaryFetchConcurrency : ℕ := 4

/-- `ManagerLiveScoreRow`. -/
structure ManagerLiveScoreRow where
  season : String
  score : ManagerLiveScore
  revision : String
  checkedAt : ℤ
  staleAt : ℤ
  deriving DecidableEq

/-- The rows of one hash field each. -/
abbrev ManagerLiveCache := KeyedTable ManagerScoreKey ManagerLiveScoreRow

/-- A row of a score that was checked at a time; `stableRevision` digests the content alone. -/
def withRevision (stableRevision : ManagerLiveScore → String) (season : String)
    (score : ManagerLiveScore) (checkedAt : ℤ) : ManagerLiveScoreRow where
  season := season
  score := score
  revision := stableRevision score
  checkedAt := checkedAt
  staleAt := checkedAt + managerStaleMs

/-- `toManagerScoreCheckpoint`. -/
def toManagerScoreCheckpoint (row : ManagerLiveScoreRow) : ManagerScoreCheckpoint where
  score := row.score
  contentRevision := row.revision
  checkedAt := row.checkedAt

/-- `fromManagerScoreCheckpoint`. -/
def fromManagerScoreCheckpoint (season : String) (row : ManagerScoreCheckpoint) :
    ManagerLiveScoreRow where
  season := season
  score := row.score
  revision := row.contentRevision
  checkedAt := row.checkedAt
  staleAt := row.checkedAt + managerStaleMs

/-- What the game answers for an entry. -/
structure EntrySummary where
  summaryEventPoints : Option ℤ
  summaryOverallPoints : Option ℤ
  summaryEventRank : Option ℤ
  summaryOverallRank : Option ℤ

/-- One row of a page of standings. -/
structure StandingsResult where
  entry : ℤ
  eventTotal : Option ℤ
  total : Option ℤ
  rank : Option ℤ

/-- A page of standings. -/
structure StandingsPage where
  lastUpdatedData : Option ℤ
  results : List StandingsResult
  hasNext : Bool

variable (stableRevision : ManagerLiveScore → String)

/-- `toEntrySummaryRow`. -/
def toEntrySummaryRow (season : String) (eventId entryId : ℕ) (summary : EntrySummary)
    (checkedAt : ℤ) : ManagerLiveScoreRow :=
  withRevision stableRevision season
    { eventId := eventId
      entryId := entryId
      eventPoints := summary.summaryEventPoints
      netEventPoints := none
      totalPoints := summary.summaryOverallPoints
      totalScope := .overall
      eventRank := summary.summaryEventRank
      overallRank := summary.summaryOverallRank
      leagueRank := none
      source := .fplEntrySummary
      transferCost := none
      eventPointSemantics := .unknown
      upstreamUpdatedAt := none } checkedAt

/-- `toClassicRows`: results without a positive entry are left out. -/
def toClassicRows (season : String) (eventId : ℕ) (page : StandingsPage) (checkedAt : ℤ) :
    List ManagerLiveScoreRow :=
  (page.results.filter fun result => 0 < result.entry).map fun result =>
    withRevision stableRevision season
      { eventId := eventId
        entryId := result.entry.toNat
        eventPoints := result.eventTotal
        netEventPoints := none
        totalPoints := result.total
        totalScope := .classicPhase
        eventRank := none
        overallRank := none
        leagueRank := result.rank
        source := .fplClassicStandings
        transferCost := none
        eventPointSemantics := .unknown
        upstreamUpdatedAt := page.lastUpdatedData } checkedAt

/-- The check times of the rows a caller has. -/
abbrev KnownRows := List (ℕ × ℤ)

/-- `isFresh` of the row a caller has for an entry. -/
def isFresh (known : KnownRows) (now : ℤ) (entryId : ℕ) : Bool :=
  (known.lookup entryId).any fun checkedAt => max 0 (now - checkedAt) ≤ managerRefreshMs

/-- `managerSummaryFetchBatches`. -/
def managerSummaryFetchBatches (entryIds : List ℕ) : List (List ℕ) :=
  entryIds.toChunks maxSummaryFetchConcurrency

/-- A refresh of entry summaries: the entries of the batch that are being fetched, the rows that
were stamped and are still to be written, all rows stamped in the batch, and the later batches. -/
structure SummaryRefresh where
  target : ManagerScoreTarget
  fetching : List ℕ
  writing : List ManagerLiveScoreRow
  completedBatch : List ManagerLiveScoreRow
  later : List (List ℕ)

/-- Where a crawl is. -/
inductive CrawlStage where
  | fetching
  | writing
  | upserting
  deriving DecidableEq

/-- A crawl of the standings of a league. -/
structure CrawlRefresh where
  season : String
  eventId : ℕ
  leagueId : ℕ
  targetIds : List ℕ
  known : KnownRows
  checkedAt : ℤ
  startPage : ℕ
  maxPages : ℕ
  page : ℕ
  found : ℕ
  fetchedRows : List ManagerLiveScoreRow
  stage : CrawlStage

/-- What its rows are kept under. -/
def CrawlRefresh.target (crawl : CrawlRefresh) : ManagerScoreTarget :=
  ⟨crawl.season, crawl.eventId, .classicLeague crawl.leagueId⟩

/-- A refresh that has started. -/
inductive ManagerRefresh where
  | summaries (refresh : SummaryRefresh)
  | standings (crawl : CrawlRefresh)

/-- What happens next in a refresh. A write is carried out, or fails and is logged. -/
inductive RefreshEvent where
  | summaryFetched (position : ℕ) (summary : Option EntrySummary) (now : ℤ)
  | summaryWritten (position : ℕ) (carriedOut : Bool)
  | pageFetched (page : Option StandingsPage) (now : ℤ)
  | standingsWritten (carriedOut : Bool)
  | upserted (carriedOut : Bool)

/-- What a refresh writes to the two stores. -/
structure ManagerLiveWrites where
  redis : List (ManagerScoreKey × ManagerLiveScoreRow)
  checkpoints : List (ManagerScoreKey × ManagerScoreCheckpoint)

/-- No writes. -/
def ManagerLiveWrites.nothing : ManagerLiveWrites := ⟨[], []⟩

/-- The writes of `writeRows`. -/
def writeRows (target : ManagerScoreTarget) (rows : List ManagerLiveScoreRow)
    (carriedOut : Bool) : ManagerLiveWrites :=
  if carriedOut then ⟨rows.map fun row => (⟨target, row.score.entryId⟩, row), []⟩ else .nothing

/-- The writes of a batch of checkpoints. -/
def upsertRows (target : ManagerScoreTarget) (rows : List ManagerLiveScoreRow)
    (carriedOut : Bool) : ManagerLiveWrites :=
  if carriedOut then ⟨[], target.upsertBatch (rows.map toManagerScoreCheckpoint)⟩ else .nothing

/-- The next batch of a refresh, if there is one. -/
def SummaryRefresh.next (refresh : SummaryRefresh) : Option ManagerRefresh :=
  match refresh.later with
  | [] => none
  | batch :: later => some (.summaries ⟨refresh.target, batch, [], [], later⟩)

/-- A refresh of summaries goes on; an entry that cannot be fetched is logged and left out. -/
def SummaryRefresh.advance (refresh : SummaryRefresh) :
    RefreshEvent → Option ManagerRefresh × ManagerLiveWrites
  | .summaryFetched position summary now =>
    match refresh.fetching[position]?, summary with
    | some entryId, some summary =>
      let row := toEntrySummaryRow stableRevision refresh.target.season refresh.target.eventId
        entryId summary now
      (some (.summaries { refresh with
        fetching := refresh.fetching.eraseIdx position
        writing := refresh.writing ++ [row]
        completedBatch := refresh.completedBatch ++ [row] }), .nothing)
    | some _, none =>
      (some (.summaries { refresh with fetching := refresh.fetching.eraseIdx position }), .nothing)
    | none, _ => (some (.summaries refresh), .nothing)
  | .summaryWritten position carriedOut =>
    match refresh.writing[position]? with
    | some row =>
      (some (.summaries { refresh with writing := refresh.writing.eraseIdx position }),
        writeRows refresh.target [row] carriedOut)
    | none => (some (.summaries refresh), .nothing)
  | .upserted carriedOut =>
    -- only when the whole batch has settled
    if refresh.fetching = [] ∧ refresh.writing = [] then
      (refresh.next, upsertRows refresh.target refresh.completedBatch carriedOut)
    else (some (.summaries refresh), .nothing)
  | _ => (some (.summaries refresh), .nothing)

/-- One row of a page: a target that was not fresh counts as found. -/
def CrawlRefresh.take (now : ℤ) (crawl : CrawlRefresh) (row : ManagerLiveScoreRow) :
    CrawlRefresh :=
  if row.score.entryId ∈ crawl.targetIds then
    { crawl with
      found := if isFresh crawl.known now row.score.entryId then crawl.found else crawl.found + 1
      fetchedRows := crawl.fetchedRows ++ [row]
      known := (row.score.entryId, row.checkedAt) :: crawl.known }
  else crawl

/-- The loop over the pages goes on. -/
def CrawlRefresh.Continues (crawl : CrawlRefresh) : Prop :=
  crawl.page ≤ maxStandingsPages ∧ crawl.page < crawl.startPage + crawl.maxPages ∧
    crawl.found < crawl.targetIds.dedup.length

/-- Whether the loop goes on is decidable. -/
instance CrawlRefresh.decidableContinues (crawl : CrawlRefresh) : Decidable crawl.Continues :=
  inferInstanceAs (Decidable (_ ∧ _))

/-- The pages are fetched, or the loop ends before it. -/
def CrawlRefresh.fetchOrWrite (crawl : CrawlRefresh) : CrawlRefresh :=
  { crawl with stage := if crawl.Continues then .fetching else .writing }

/-- A crawl goes on; one that cannot fetch a page writes nothing. -/
def CrawlRefresh.advance (crawl : CrawlRefresh) :
    RefreshEvent → Option ManagerRefresh × ManagerLiveWrites
  | .pageFetched page now =>
    if crawl.stage = .fetching then
      match page with
      | none => (none, .nothing)
      | some page =>
        let rows := toClassicRows stableRevision crawl.season crawl.eventId page crawl.checkedAt
        let taken := rows.foldl (CrawlRefresh.take now) crawl
        let turned := { taken with page := crawl.page + 1 }
        (some (.standings (if page.hasNext then turned.fetchOrWrite
          else { turned with stage := .writing })), .nothing)
    else (some (.standings crawl), .nothing)
  | .standingsWritten carriedOut =>
    if crawl.stage = .writing then
      (some (.standings { crawl with stage := .upserting }),
        writeRows crawl.target crawl.fetchedRows carriedOut)
    else (some (.standings crawl), .nothing)
  | .upserted carriedOut =>
    if crawl.stage = .upserting then
      (none, upsertRows crawl.target crawl.fetchedRows carriedOut)
    else (some (.standings crawl), .nothing)
  | _ => (some (.standings crawl), .nothing)

/-- A refresh goes on. -/
def ManagerRefresh.advance (refresh : ManagerRefresh) (event : RefreshEvent) :
    Option ManagerRefresh × ManagerLiveWrites :=
  match refresh with
  | .summaries refresh => refresh.advance stableRevision event
  | .standings crawl => crawl.advance stableRevision event

/-- The start of `refreshEntrySummaries`. -/
def refreshEntrySummaries (target : ManagerScoreTarget) (entryIds : List ℕ) (known : KnownRows)
    (maxFetches : Option ℕ) (now : ℤ) : Option ManagerRefresh :=
  let stale := entryIds.filter fun entryId => !isFresh known now entryId
  let targets := maxFetches.elim stale stale.take
  SummaryRefresh.next ⟨target, [], [], [], managerSummaryFetchBatches targets⟩

/-- The start of `refreshClassicStandings`, which stamps all rows it will write. -/
def refreshClassicStandings (season : String) (eventId leagueId : ℕ) (targetIds : List ℕ)
    (known : KnownRows) (startPage maxPages : ℕ) (now : ℤ) : ManagerRefresh :=
  .standings (CrawlRefresh.fetchOrWrite
    { season := season
      eventId := eventId
      leagueId := leagueId
      targetIds := targetIds
      known := known
      checkedAt := now
      startPage := startPage
      maxPages := maxPages
      page := startPage
      found := 0
      fetchedRows := []
      stage := .fetching })

/-- A reader that has read Redis, with what had been written by then. -/
structure ManagerLiveReader where
  key : ManagerScoreKey
  cached : Option ManagerLiveScoreRow
  written : List (ManagerScoreKey × ℤ)

/-- The stores with the refreshes and readers at work, and the check times written to each. -/
structure ManagerLiveWorld where
  redis : ManagerLiveCache
  checkpoints : ManagerScoreCheckpoints
  redisLog : List (ManagerScoreKey × ℤ)
  checkpointLog : List (ManagerScoreKey × ℤ)
  refreshes : List ManagerRefresh
  readers : List ManagerLiveReader

/-- Before the first refresh. -/
def ManagerLiveWorld.initial : ManagerLiveWorld := ⟨.empty, .empty, [], [], [], []⟩

/-- What can happen. -/
inductive ManagerLiveAction where
  | refreshEntrySummaries (target : ManagerScoreTarget) (entryIds : List ℕ) (known : KnownRows)
      (maxFetches : Option ℕ) (now : ℤ)
  | refreshClassicStandings (season : String) (eventId leagueId : ℕ) (targetIds : List ℕ)
      (known : KnownRows) (startPage maxPages : ℕ) (now : ℤ)
  | advance (refresh : ℕ) (event : RefreshEvent)
  | readCachedRow (key : ManagerScoreKey)
  | readCheckpoint (reader : ℕ)

/-- The row a reader returns: a checkpoint takes the place of a missing or an older cached row. -/
def mergedRow (season : String) (cached : Option ManagerLiveScoreRow)
    (checkpoint : Option ManagerScoreCheckpoint) : Option ManagerLiveScoreRow :=
  match checkpoint, cached with
  | none, cached => cached
  | some checkpoint, none => some (fromManagerScoreCheckpoint season checkpoint)
  | some checkpoint, some cached =>
    if checkpoint.checkedAt > cached.checkedAt then
      some (fromManagerScoreCheckpoint season checkpoint)
    else some cached

/-- The writes of an action. -/
def ManagerLiveWorld.writes (world : ManagerLiveWorld) : ManagerLiveAction → ManagerLiveWrites
  | .advance position event =>
    (world.refreshes[position]?).elim .nothing fun refresh =>
      (refresh.advance stableRevision event).2
  | _ => .nothing

/-- The refreshes that are at work after an action. -/
def ManagerLiveWorld.progress (world : ManagerLiveWorld) : ManagerLiveAction → List ManagerRefresh
  | .refreshEntrySummaries target entryIds known maxFetches now =>
    world.refreshes ++ (refreshEntrySummaries target entryIds known maxFetches now).toList
  | .refreshClassicStandings season eventId leagueId targetIds known startPage maxPages now =>
    world.refreshes ++
      [refreshClassicStandings season eventId leagueId targetIds known startPage maxPages now]
  | .advance position event =>
    match world.refreshes[position]? with
    | none => world.refreshes
    | some refresh =>
      match (refresh.advance stableRevision event).1 with
      | none => world.refreshes.eraseIdx position
      | some refresh' => world.refreshes.set position refresh'
  | _ => world.refreshes

/-- The readers after an action. -/
def ManagerLiveWorld.reading (world : ManagerLiveWorld) :
    ManagerLiveAction → List ManagerLiveReader
  | .readCachedRow key =>
    world.readers ++ [⟨key, world.redis.find key, world.redisLog ++ world.checkpointLog⟩]
  | .readCheckpoint position => world.readers.eraseIdx position
  | _ => world.readers

/-- One step of the world. -/
def managerLiveStep (world : ManagerLiveWorld) (action : ManagerLiveAction) : ManagerLiveWorld :=
  let writes := world.writes stableRevision action
  { redis := overwriteAll world.redis writes.redis
    checkpoints := world.checkpoints.write writes.checkpoints
    redisLog := world.redisLog ++ stampsOf ManagerLiveScoreRow.checkedAt writes.redis
    checkpointLog := world.checkpointLog ++
      stampsOf ManagerScoreCheckpoint.checkedAt writes.checkpoints
    refreshes := world.progress stableRevision action
    readers := world.reading action }

end LetletmeData
