import Mathlib.Data.List.Sort
import Mathlib.Data.List.Dedup
import Mathlib.Data.Nat.Notation
import LetletmeData.Library.Transactions
import LetletmeData.Utils.Errors

/-!
# Entry sync jobs

A table scan reads the entries of a season page by page. A job that leaves failed entries behind
hands them to a delayed job of their own, which carries the position of the scan in a second
field; a job without failures hands the scan on. Whether an entry is required, its handler throws
or the audit misses it is decided for each job from outside.
-/

namespace LetletmeData

open LetletmeData.Library

/-! ### The decision -/

/-- `EntrySyncChainDecision`. -/
inductive EntrySyncChainDecision where
  | retryFailed (retryCount : ℕ) (resumeAfterEntryId : Option ℕ)
  | continueScan (afterEntryId : ℕ)
  | complete
  | fail
  deriving DecidableEq

/-- The argument of `decideEntrySyncChain`. -/
structure EntrySyncChainInput where
  failedUnits : ℕ
  retryCount : ℕ
  maxRetryCycles : ℕ
  fetchedFromDb : Bool
  hasMore : Bool
  lastEntryId : Option ℕ
  resumeAfterEntryId : Option ℕ

/-- `decideEntrySyncChain`. -/
def decideEntrySyncChain (input : EntrySyncChainInput) : EntrySyncChainDecision :=
  let continuation := if input.fetchedFromDb then input.lastEntryId else input.resumeAfterEntryId
  if 0 < input.failedUnits then
    let retryCount := input.retryCount + 1
    if input.maxRetryCycles < retryCount then .fail else .retryFailed retryCount continuation
  else
    match input.resumeAfterEntryId, input.lastEntryId with
    | some resumeAfterEntryId, _ => .continueScan resumeAfterEntryId
    | none, some lastEntryId =>
      if input.fetchedFromDb ∧ input.hasMore then .continueScan lastEntryId else .complete
    | none, none => .complete

/-! ### Jobs -/

/-- `EntrySyncJobName`. -/
inductive EntrySyncJobName where
  | entryInfo
  | entryPicks
  | entryTransfers
  | entryResults
  deriving DecidableEq

/-- The name of the queue's job. -/
def EntrySyncJobName.text : EntrySyncJobName → String
  | entryInfo => "entry-info"
  | entryPicks => "entry-picks"
  | entryTransfers => "entry-transfers"
  | entryResults => "entry-results"

/-- The fields of `EntrySyncJobData` that place a job in its chain. -/
structure EntrySyncJobData where
  entryIds : Option (List ℕ)
  retryCount : Option ℕ
  afterEntryId : Option ℕ
  resumeAfterEntryId : Option ℕ
  chunkSize : Option ℕ
  deriving DecidableEq

/-- The same fields of `EntrySyncJobOptions`. -/
structure EntrySyncJobOptions where
  entryIds : Option (List ℕ)
  retryCount : Option ℕ
  afterEntryId : Option ℕ
  resumeAfterEntryId : Option ℕ
  chunkSize : Option ℕ
  deriving DecidableEq

/-- `ENTRY_SYNC_DEFAULT_CHUNK_SIZE`, which the environment may set. -/
structure EntrySyncSettings where
  defaultChunkSize : ℕ
  defaultChunkSize_pos : 1 ≤ defaultChunkSize

/-- `sanitizePositiveInt`. -/
def sanitizePositiveInt (value : Option ℕ) (fallback : ℕ) : ℕ :=
  match value with
  | some value => if value = 0 then fallback else value
  | none => fallback

/-- `sanitizeCursor`. -/
def sanitizeCursor (value : Option ℕ) : ℕ := value.getD 0

/-- `enqueueEntrySyncJob`, of a job that is not in the queue yet. -/
def enqueueEntrySyncJob (settings : EntrySyncSettings) (options : EntrySyncJobOptions) :
    EntrySyncJobData where
  entryIds := options.entryIds
  retryCount := options.retryCount
  afterEntryId := some (sanitizeCursor options.afterEntryId)
  resumeAfterEntryId := options.resumeAfterEntryId
  chunkSize := some (sanitizePositiveInt options.chunkSize settings.defaultChunkSize)

/-- The entries of a season: the key of the table, positive by its constraint. -/
structure EntryTable where
  entryIds : List ℕ
  nodup : entryIds.Nodup
  positive : ∀ entryId ∈ entryIds, 0 < entryId

/-- `LoadedEntryIds`. -/
structure LoadedEntryIds where
  entryIds : List ℕ
  hasMore : Bool
  lastEntryId : Option ℕ
  chunkSize : ℕ
  afterEntryId : ℕ
  fetchedFromDb : Bool

/-- The page of a scan behind a cursor. -/
def EntryTable.page (table : EntryTable) (afterEntryId chunkSize : ℕ) : List ℕ :=
  ((table.entryIds.filter (afterEntryId < ·)).insertionSort (· ≤ ·)).take chunkSize

/-- `loadEntryIdsForSync`. -/
def loadEntryIdsForSync (settings : EntrySyncSettings) (table : EntryTable)
    (jobData : EntrySyncJobData) : LoadedEntryIds :=
  let chunkSize := jobData.chunkSize.getD settings.defaultChunkSize
  let afterEntryId := jobData.afterEntryId.getD 0
  match jobData.entryIds with
  | some (entryId :: rest) =>
    { entryIds := (entryId :: rest).eraseDups
      hasMore := false
      lastEntryId := none
      chunkSize
      afterEntryId
      fetchedFromDb := false }
  | _ =>
    let ids := table.page afterEntryId chunkSize
    { entryIds := ids
      hasMore := ids.length = chunkSize
      lastEntryId := ids.getLast?
      chunkSize
      afterEntryId
      fetchedFromDb := true }

/-- What a job meets: the entries that `selectRequired` picks, those whose handler throws, and
those that `auditRequired` misses. -/
structure EntryJobRun where
  required : ℕ → Bool
  handlerThrows : ℕ → Bool
  missing : ℕ → Bool

/-- The result of `syncEntries`. -/
structure EntrySyncResult where
  total : ℕ
  success : ℕ
  failed : ℕ
  failedIds : List ℕ

/-- `syncEntries`; the order in which concurrent handlers fail does not matter later. -/
def syncEntries (run : EntryJobRun) (entryIds : List ℕ) : EntrySyncResult :=
  let failedIds := entryIds.filter run.handlerThrows
  { total := entryIds.length
    success := (entryIds.filter fun entryId => !run.handlerThrows entryId).length
    failed := failedIds.length
    failedIds }

/-- The audit adds the entries it misses to the failed ones. -/
def auditEntries (run : EntryJobRun) (requiredEntryIds : List ℕ) (result : EntrySyncResult) :
    EntrySyncResult :=
  match requiredEntryIds.filter run.missing with
  | [] => result
  | missingIds =>
    let failedIds := (result.failedIds ++ missingIds).eraseDups
    { result with
      success := result.total - failedIds.length
      failed := failedIds.length
      failedIds }

/-- `EntrySyncSummary`. -/
structure EntrySyncSummary where
  total : ℕ
  success : ℕ
  failed : ℕ
  failedIds : List ℕ
  hasMore : Bool
  fetchedFromDb : Bool
  scanComplete : Bool
  requiredUnits : ℕ
  reusedUnits : ℕ
  succeededUnits : ℕ
  failedUnits : ℕ

/-- `maxRetryCycles`. -/
def maxRetryCycles : ℕ := 2

/-- The entries of a job that are synchronized, and how that ended. -/
def syncRequiredEntries (run : EntryJobRun) (entryIds : List ℕ) : EntrySyncResult :=
  let requiredEntryIds := entryIds.filter run.required
  auditEntries run requiredEntryIds (syncEntries run requiredEntryIds)

/-- The summary of a job with entries. -/
def entrySyncSummary (run : EntryJobRun) (loaded : LoadedEntryIds) (hasMore scanComplete : Bool) :
    EntrySyncSummary :=
  let requiredEntryIds := loaded.entryIds.filter run.required
  let result := syncRequiredEntries run loaded.entryIds
  { total := loaded.entryIds.length
    success := result.success
    failed := result.failed
    failedIds := result.failedIds
    hasMore
    fetchedFromDb := loaded.fetchedFromDb
    scanComplete
    requiredUnits := requiredEntryIds.length
    reusedUnits := loaded.entryIds.length - requiredEntryIds.length
    succeededUnits := result.success
    failedUnits := result.failed }

/-- `scheduleRetry`: the failed entries, with the position of the scan beside them. -/
def scheduleRetry (failedIds : List ℕ) (retryCount : ℕ) (resumeAfterEntryId : Option ℕ) :
    EntrySyncJobOptions where
  entryIds := some failedIds
  retryCount := some retryCount
  afterEntryId := none
  resumeAfterEntryId := resumeAfterEntryId
  chunkSize := none

/-- The next page of a scan. -/
def scheduleNextPage (afterEntryId chunkSize : ℕ) : EntrySyncJobOptions where
  entryIds := none
  retryCount := none
  afterEntryId := some afterEntryId
  resumeAfterEntryId := none
  chunkSize := some chunkSize

/-- `handleEntryJob`: the summary and the job to enqueue once the work is committed. -/
def handleEntryJob (settings : EntrySyncSettings) (jobName : EntrySyncJobName) (table : EntryTable)
    (run : EntryJobRun) (jobData : EntrySyncJobData) :
    Except IncompleteDataSyncError (EntrySyncSummary × Option EntrySyncJobOptions) :=
  let loaded := loadEntryIdsForSync settings table jobData
  if loaded.entryIds = [] then
    .ok (entrySyncSummary run loaded false loaded.fetchedFromDb, none)
  else
    let result := syncRequiredEntries run loaded.entryIds
    let decision := decideEntrySyncChain
      { failedUnits := result.failed
        retryCount := jobData.retryCount.getD 0
        maxRetryCycles := maxRetryCycles
        fetchedFromDb := loaded.fetchedFromDb
        hasMore := loaded.hasMore
        lastEntryId := loaded.lastEntryId
        resumeAfterEntryId := jobData.resumeAfterEntryId }
    match decision with
    | .retryFailed retryCount resumeAfterEntryId =>
      .ok (entrySyncSummary run loaded true false,
        some (scheduleRetry result.failedIds retryCount resumeAfterEntryId))
    | .fail =>
      let summary := entrySyncSummary run loaded false false
      .error
        { message := "Entry " ++ jobName.text ++ " synchronization exhausted its bounded retries"
          requiredUnits := summary.requiredUnits
          reusedUnits := summary.reusedUnits
          succeededUnits := summary.succeededUnits
          failedUnits := summary.failedUnits }
    | .continueScan afterEntryId =>
      .ok (entrySyncSummary run loaded true false,
        some (scheduleNextPage afterEntryId loaded.chunkSize))
    | .complete => .ok (entrySyncSummary run loaded false loaded.fetchedFromDb, none)

/-- A table scan: its first job has a chunk size of at least one, and each of its jobs meets
something of its own. -/
structure EntryScan where
  settings : EntrySyncSettings
  jobName : EntrySyncJobName
  table : EntryTable
  chunkSize : ℕ
  chunkSize_pos : 1 ≤ chunkSize
  runs : ℕ → EntryJobRun

namespace EntryScan

/-- What a job of the scan at a place of the chain returns. -/
def handle (scan : EntryScan) (place : ℕ) (jobData : EntrySyncJobData) :
    Except IncompleteDataSyncError (EntrySyncSummary × Option EntrySyncJobOptions) :=
  handleEntryJob scan.settings scan.jobName scan.table (scan.runs place) jobData

/-- The jobs of a scan in the order in which they run; each enqueues the next one at most. -/
def job (scan : EntryScan) : ℕ → Option EntrySyncJobData
  | 0 => some (enqueueEntrySyncJob scan.settings ⟨none, none, none, none, some scan.chunkSize⟩)
  | place + 1 =>
    (scan.job place).bind fun jobData =>
      match scan.handle place jobData with
      | .ok (_, next) => next.map (enqueueEntrySyncJob scan.settings)
      | .error _ => none

end EntryScan

end LetletmeData
