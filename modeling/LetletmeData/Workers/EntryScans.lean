import Mathlib.Data.List.Count
import LetletmeData.Workers.EntrySync

/-!
# Entry scans

A scan serves the entries of the table up to its cursor, page by page; while failed entries are
retried the cursor waits beside them. Every job either ends the chain or leaves less work to the
next one, so the chain ends, after the whole table or with a job whose entries failed in all their
cycles.
-/

namespace LetletmeData

open LetletmeData.Library

/-- A job that comes by an entry serves it: the entry is reused, or its handler returns and the
audit finds it. -/
def EntryJobRun.Serves (run : EntryJobRun) (entryId : ℕ) : Prop :=
  run.required entryId = true → run.handlerThrows entryId = false ∧ run.missing entryId = false

namespace EntryScan

variable {scan : EntryScan} {place : ℕ}

/-- The job at a place of the chain comes by an entry. -/
def ComesBy (scan : EntryScan) (place entryId : ℕ) : Prop :=
  ∃ jobData ∈ scan.job place,
    entryId ∈ (loadEntryIdsForSync scan.settings scan.table jobData).entryIds

/-- An entry is served at a place of the chain. -/
def ServedAt (scan : EntryScan) (place entryId : ℕ) : Prop :=
  scan.ComesBy place entryId ∧ (scan.runs place).Serves entryId

/-- An entry fails at a place of the chain. -/
def FailedAt (scan : EntryScan) (place entryId : ℕ) : Prop :=
  scan.ComesBy place entryId ∧ ¬ (scan.runs place).Serves entryId

/-- The job at a place of the chain reports that the scan is complete. -/
def ReportsComplete (scan : EntryScan) (place : ℕ) : Prop :=
  ∃ jobData ∈ scan.job place, ∃ summary next,
    scan.handle place jobData = .ok (summary, next) ∧ summary.scanComplete = true

/-- The job at a place of the chain fails. -/
def JobFails (scan : EntryScan) (place : ℕ) : Prop :=
  ∃ jobData ∈ scan.job place, ∃ error, scan.handle place jobData = .error error

end EntryScan

/-! ### Pages -/

section Page

variable {table : EntryTable} {cursor chunkSize entryId : ℕ}

/-- The entries behind a cursor, in the order of the key. -/
theorem sorted_behind (table : EntryTable) (cursor : ℕ) :
    ((table.entryIds.filter (cursor < ·)).insertionSort (· ≤ ·)).Pairwise (· < ·) := by
  have hsorted := List.pairwise_insertionSort (· ≤ ·) (table.entryIds.filter (cursor < ·))
  have hnodup : ((table.entryIds.filter (cursor < ·)).insertionSort (· ≤ ·)).Nodup :=
    (List.perm_insertionSort _ _).nodup_iff.mpr (table.nodup.filter _)
  exact (hsorted.and hnodup).imp fun h => lt_of_le_of_ne h.1 h.2

/-- A page holds entries behind its cursor. -/
theorem mem_of_mem_page (h : entryId ∈ table.page cursor chunkSize) :
    entryId ∈ table.entryIds ∧ cursor < entryId := by
  have hmem := (List.mem_insertionSort _).mp (List.mem_of_mem_take h)
  exact ⟨(List.mem_filter.mp hmem).1, of_decide_eq_true (List.mem_filter.mp hmem).2⟩

/-- An entry behind the cursor is on the page, or all of the page comes before it. -/
theorem mem_page_or_lt (hentry : entryId ∈ table.entryIds) (hbehind : cursor < entryId) :
    entryId ∈ table.page cursor chunkSize ∨
      (table.page cursor chunkSize).length = chunkSize ∧
        ∀ other ∈ table.page cursor chunkSize, other < entryId := by
  have hsorted := sorted_behind table cursor
  have hmem : entryId ∈ (table.entryIds.filter (cursor < ·)).insertionSort (· ≤ ·) :=
    (List.mem_insertionSort _).mpr (List.mem_filter.mpr ⟨hentry, decide_eq_true hbehind⟩)
  unfold EntryTable.page
  rw [← List.take_append_drop chunkSize
    ((table.entryIds.filter (cursor < ·)).insertionSort (· ≤ ·))] at hsorted hmem
  rcases List.mem_append.mp hmem with htake | hdrop
  · exact .inl htake
  · refine .inr ⟨?_, fun other hother => (List.pairwise_append.mp hsorted).2.2 _ hother _ hdrop⟩
    have hlength := List.length_pos_of_mem hdrop
    rw [List.length_drop] at hlength
    rw [List.length_take]
    omega

/-- The entries of the table behind a cursor. -/
def EntryTable.remaining (table : EntryTable) (cursor : ℕ) : ℕ :=
  (table.entryIds.filter (cursor < ·)).length

/-- Fewer entries are behind an entry that was behind the cursor. -/
theorem remaining_lt (hentry : entryId ∈ table.entryIds) (hbehind : cursor < entryId) :
    table.remaining entryId < table.remaining cursor := by
  have hnested : table.entryIds.filter (entryId < ·) =
      (table.entryIds.filter (cursor < ·)).filter (entryId < ·) := by
    rw [List.filter_filter]
    refine List.filter_congr fun other _ => ?_
    by_cases hlater : entryId < other
    · simp [hlater, hbehind.trans hlater]
    · simp [hlater]
  unfold EntryTable.remaining
  rw [hnested, ← List.countP_eq_length_filter, List.countP_lt_length_iff]
  exact ⟨entryId, List.mem_filter.mpr ⟨hentry, decide_eq_true hbehind⟩, by simp⟩

end Page

/-! ### Failed entries -/

section Failed

variable {run : EntryJobRun} {entryIds : List ℕ} {entryId : ℕ}

/-- The failed entries of a job are those it does not serve. -/
theorem mem_failedIds :
    entryId ∈ (syncRequiredEntries run entryIds).failedIds ↔
      entryId ∈ entryIds ∧ ¬ run.Serves entryId := by
  unfold syncRequiredEntries auditEntries syncEntries EntryJobRun.Serves
  dsimp only
  split
  next hnone =>
    have hfound := List.filter_eq_nil_iff.mp hnone
    simp only [List.mem_filter] at hfound ⊢
    constructor
    · rintro ⟨⟨hmem, hrequired⟩, hthrows⟩
      exact ⟨hmem, fun h => absurd (h hrequired).1 (by simp [hthrows])⟩
    · rintro ⟨hmem, hserves⟩
      rw [Classical.not_imp] at hserves
      have hmissing := hfound entryId ⟨hmem, hserves.1⟩
      refine ⟨⟨hmem, hserves.1⟩, ?_⟩
      by_contra hreturns
      exact hserves.2 ⟨by simpa using hreturns, by simpa using hmissing⟩
  next =>
    rw [List.mem_eraseDups, List.mem_append]
    simp only [List.mem_filter]
    constructor
    · rintro (⟨⟨hmem, hrequired⟩, hfails⟩ | ⟨⟨hmem, hrequired⟩, hfails⟩)
      · exact ⟨hmem, fun h => absurd (h hrequired).1 (by simp [hfails])⟩
      · exact ⟨hmem, fun h => absurd (h hrequired).2 (by simp [hfails])⟩
    · rintro ⟨hmem, hserves⟩
      rw [Classical.not_imp] at hserves
      by_cases hthrows : run.handlerThrows entryId = true
      · exact .inl ⟨⟨hmem, hserves.1⟩, hthrows⟩
      · refine .inr ⟨⟨hmem, hserves.1⟩, ?_⟩
        by_contra hfound
        exact hserves.2 ⟨by simpa using hthrows, by simpa using hfound⟩

/-- The failed entries are counted. -/
theorem failed_eq : (syncRequiredEntries run entryIds).failed =
    (syncRequiredEntries run entryIds).failedIds.length := by
  unfold syncRequiredEntries auditEntries
  dsimp only
  split <;> rfl

/-- A job without failures serves all its entries. -/
theorem serves_of_failed_eq_zero (h : (syncRequiredEntries run entryIds).failed = 0)
    (hmem : entryId ∈ entryIds) : run.Serves entryId := by
  rw [failed_eq] at h
  have hempty := List.eq_nil_of_length_eq_zero h
  by_contra hserves
  have hfailed := mem_failedIds.mpr ⟨hmem, hserves⟩
  rw [hempty] at hfailed
  cases hfailed

end Failed

/-! ### Steps of a chain -/

namespace EntryScan

variable {scan : EntryScan} {place : ℕ} {jobData : EntrySyncJobData}

/-- A page job: whatever is not behind its cursor has been served. -/
structure PageJob (scan : EntryScan) (place cursor : ℕ) (jobData : EntrySyncJobData) : Prop where
  entryIds : jobData.entryIds = none
  retryCount : jobData.retryCount = none
  afterEntryId : jobData.afterEntryId = some cursor
  resumeAfterEntryId : jobData.resumeAfterEntryId = none
  chunkSize : ∃ chunkSize, jobData.chunkSize = some chunkSize ∧ 1 ≤ chunkSize
  served : ∀ entryId ∈ scan.table.entryIds, entryId ≤ cursor →
    ∃ earlier < place, scan.ServedAt earlier entryId

/-- A retry job: its entries failed in every cycle so far, and whatever else is not behind its
cursor has been served. -/
structure RetryJob (scan : EntryScan) (place cursor cycles : ℕ) (jobData : EntrySyncJobData) :
    Prop where
  entryIds : ∃ entryId rest, jobData.entryIds = some (entryId :: rest)
  retryCount : jobData.retryCount = some cycles
  resumeAfterEntryId : jobData.resumeAfterEntryId = some cursor
  chunkSize : ∃ chunkSize, jobData.chunkSize = some chunkSize ∧ 1 ≤ chunkSize
  bounds : 1 ≤ cycles ∧ cycles ≤ maxRetryCycles ∧ cycles ≤ place
  served : ∀ entryId ∈ scan.table.entryIds, entryId ≤ cursor →
    (∀ ids ∈ jobData.entryIds, entryId ∉ ids) → ∃ earlier < place, scan.ServedAt earlier entryId
  failed : ∀ ids ∈ jobData.entryIds, ∀ entryId ∈ ids, ∀ cycle, 1 ≤ cycle → cycle ≤ cycles →
    scan.FailedAt (place - cycle) entryId

/-- A job of the chain with the work that is left. -/
def Sound (scan : EntryScan) (place work : ℕ) (jobData : EntrySyncJobData) : Prop :=
  (∃ cursor, scan.PageJob place cursor jobData ∧ work = 4 * scan.table.remaining cursor) ∨
    ∃ cursor cycles, scan.RetryJob place cursor cycles jobData ∧
      work = 4 * scan.table.remaining cursor + (3 - cycles)

/-- The whole table is served. -/
def ServesAll (scan : EntryScan) (place : ℕ) : Prop :=
  ∀ entryId ∈ scan.table.entryIds, ∃ earlier ≤ place, scan.ServedAt earlier entryId

/-- The entries of a job have failed in it and in all cycles before it. -/
def Exhausted (scan : EntryScan) (place : ℕ) : Prop :=
  maxRetryCycles ≤ place ∧ (∃ entryId, scan.FailedAt place entryId) ∧
    ∀ entryId, scan.FailedAt place entryId →
      ∀ cycle ≤ maxRetryCycles, scan.FailedAt (place - cycle) entryId

/-- What a job of the chain does: it hands on less work, reports the end of the scan or fails. -/
inductive Step (scan : EntryScan) (place work : ℕ) : Prop where
  | handsOn (next : EntrySyncJobData) (left : ℕ) (hjob : scan.job (place + 1) = some next)
      (hsound : scan.Sound (place + 1) left next) (hless : left < work)
      (hreports : ¬ scan.ReportsComplete place)
  | reports (hjob : scan.job (place + 1) = none) (hreports : scan.ReportsComplete place)
      (hserves : scan.ServesAll place)
  | fails (hjob : scan.job (place + 1) = none) (hreports : ¬ scan.ReportsComplete place)
      (hfails : scan.JobFails place) (hexhausted : scan.Exhausted place)

/-- The next job of a chain. -/
theorem job_succ_of_ok (hjob : scan.job place = some jobData) {summary : EntrySyncSummary}
    {next : Option EntrySyncJobOptions} (h : scan.handle place jobData = .ok (summary, next)) :
    scan.job (place + 1) = next.map (enqueueEntrySyncJob scan.settings) := by
  rw [job, hjob, Option.bind_some, h]

/-- Nothing follows a job that fails. -/
theorem job_succ_of_error (hjob : scan.job place = some jobData) {error : IncompleteDataSyncError}
    (h : scan.handle place jobData = .error error) : scan.job (place + 1) = none := by
  rw [job, hjob, Option.bind_some, h]

/-- A job reports what its summary says. -/
theorem reportsComplete_iff (hjob : scan.job place = some jobData) {summary : EntrySyncSummary}
    {next : Option EntrySyncJobOptions} (h : scan.handle place jobData = .ok (summary, next)) :
    scan.ReportsComplete place ↔ summary.scanComplete = true := by
  constructor
  · rintro ⟨other, hother, otherSummary, otherNext, hhandle, hcomplete⟩
    obtain rfl : jobData = other := Option.some.inj (hjob.symm.trans hother)
    obtain rfl : summary = otherSummary :=
      congrArg Prod.fst (Except.ok.inj (h.symm.trans hhandle))
    exact hcomplete
  · exact fun hcomplete => ⟨jobData, hjob, summary, next, h, hcomplete⟩

/-- A job that fails reports nothing. -/
theorem not_reportsComplete (hjob : scan.job place = some jobData)
    {error : IncompleteDataSyncError} (h : scan.handle place jobData = .error error) :
    ¬ scan.ReportsComplete place := by
  rintro ⟨other, hother, summary, next, hhandle, -⟩
  obtain rfl : jobData = other := Option.some.inj (hjob.symm.trans hother)
  exact nomatch h.symm.trans hhandle

/-- The failed entries of a job are handed to a retry job. -/
theorem retryJob_scheduled {cursor cycles : ℕ} {entryIds : List ℕ}
    (hjob : scan.job place = some jobData)
    (hloaded : (loadEntryIdsForSync scan.settings scan.table jobData).entryIds = entryIds)
    (hbounds : 1 ≤ cycles ∧ cycles ≤ maxRetryCycles ∧ cycles ≤ place + 1)
    (hfailed : (syncRequiredEntries (scan.runs place) entryIds).failed ≠ 0)
    (hserved : ∀ entryId ∈ scan.table.entryIds, entryId ≤ cursor → entryId ∉ entryIds →
      ∃ earlier < place, scan.ServedAt earlier entryId)
    (hbefore : ∀ entryId ∈ entryIds, ∀ cycle, 1 ≤ cycle → cycle < cycles →
      scan.FailedAt (place - cycle) entryId) :
    scan.RetryJob (place + 1) cursor cycles (enqueueEntrySyncJob scan.settings
      (scheduleRetry (syncRequiredEntries (scan.runs place) entryIds).failedIds cycles
        (some cursor))) := by
  have hcomes : ∀ entryId ∈ entryIds, scan.ComesBy place entryId := fun entryId hmem =>
    ⟨jobData, hjob, hloaded.symm ▸ hmem⟩
  have hmem : ∀ ids ∈ (enqueueEntrySyncJob scan.settings (scheduleRetry
      (syncRequiredEntries (scan.runs place) entryIds).failedIds cycles (some cursor))).entryIds,
      ids = (syncRequiredEntries (scan.runs place) entryIds).failedIds :=
    fun ids hids => (Option.some.inj hids).symm
  refine ⟨?_, rfl, rfl, ⟨_, rfl, scan.settings.defaultChunkSize_pos⟩, hbounds, ?_, ?_⟩
  · rw [failed_eq] at hfailed
    obtain ⟨entryId, rest, hcons⟩ := List.exists_cons_of_length_pos (Nat.pos_of_ne_zero hfailed)
    exact ⟨entryId, rest, congrArg some hcons⟩
  · intro entryId hentry hcursor hnot
    by_cases hloadedEntry : entryId ∈ entryIds
    · refine ⟨place, Nat.lt_succ_self place, hcomes entryId hloadedEntry, ?_⟩
      by_contra hserves
      exact hnot _ rfl (mem_failedIds.mpr ⟨hloadedEntry, hserves⟩)
    · obtain ⟨earlier, hearlier, hserves⟩ := hserved entryId hentry hcursor hloadedEntry
      exact ⟨earlier, by omega, hserves⟩
  · intro ids hids entryId hentry cycle hpos hcycle
    rw [hmem ids hids] at hentry
    obtain ⟨hloadedEntry, hserves⟩ := mem_failedIds.mp hentry
    rcases Nat.eq_or_lt_of_le hpos with hfirst | hlater
    · rw [← hfirst, Nat.add_sub_cancel]
      exact ⟨hcomes entryId hloadedEntry, hserves⟩
    · have hbeforeCycle := hbefore entryId hloadedEntry (cycle - 1) (by omega) (by omega)
      rwa [show place - (cycle - 1) = place + 1 - cycle by omega] at hbeforeCycle

/-- The next page is scheduled behind what has been served. -/
theorem pageJob_scheduled {cursor chunkSize : ℕ} (hpos : 1 ≤ chunkSize)
    (hserved : ∀ entryId ∈ scan.table.entryIds, entryId ≤ cursor →
      ∃ earlier ≤ place, scan.ServedAt earlier entryId) :
    scan.PageJob (place + 1) cursor
      (enqueueEntrySyncJob scan.settings (scheduleNextPage cursor chunkSize)) where
  entryIds := rfl
  retryCount := rfl
  afterEntryId := rfl
  resumeAfterEntryId := rfl
  chunkSize := ⟨chunkSize, by
    simp only [enqueueEntrySyncJob, scheduleNextPage, sanitizePositiveInt]
    rw [if_neg (by omega)], hpos⟩
  served := fun entryId hentry hcursor => by
    obtain ⟨earlier, hearlier, hserves⟩ := hserved entryId hentry hcursor
    exact ⟨earlier, by omega, hserves⟩

/-- What a page job loads. -/
theorem PageJob.loaded {cursor : ℕ} (h : scan.PageJob place cursor jobData) :
    ∃ chunkSize, 1 ≤ chunkSize ∧ loadEntryIdsForSync scan.settings scan.table jobData =
      { entryIds := scan.table.page cursor chunkSize
        hasMore := (scan.table.page cursor chunkSize).length = chunkSize
        lastEntryId := (scan.table.page cursor chunkSize).getLast?
        chunkSize
        afterEntryId := cursor
        fetchedFromDb := true } := by
  obtain ⟨chunkSize, hchunkSize, hpos⟩ := h.chunkSize
  refine ⟨chunkSize, hpos, ?_⟩
  simp only [loadEntryIdsForSync, h.entryIds, h.afterEntryId, hchunkSize, Option.getD_some]

/-- Once a page is served, so is everything up to its last entry. -/
theorem PageJob.served_page {cursor : ℕ} (h : scan.PageJob place cursor jobData) (chunkSize : ℕ)
    (hcomes : ∀ entryId ∈ scan.table.page cursor chunkSize, scan.ServedAt place entryId)
    {entryId : ℕ} (hentry : entryId ∈ scan.table.entryIds)
    (hreached : entryId ≤ cursor ∨ (scan.table.page cursor chunkSize).length < chunkSize ∨
      ∃ last ∈ scan.table.page cursor chunkSize, entryId ≤ last) :
    ∃ earlier ≤ place, scan.ServedAt earlier entryId := by
  rcases Nat.lt_or_ge cursor entryId with hbehind | hcursor
  · rcases mem_page_or_lt hentry hbehind with hpage | ⟨hfull, hbefore⟩
    · exact ⟨place, le_refl place, hcomes entryId hpage⟩
    · rcases hreached with hcursor | hshort | ⟨last, hlast, hle⟩
      · omega
      · omega
      · have hless := hbefore last hlast
        omega
  · obtain ⟨earlier, hearlier, hserves⟩ := h.served entryId hentry hcursor
    exact ⟨earlier, by omega, hserves⟩

/-- What a page job returns without entries. -/
theorem handle_of_nil (scan : EntryScan) (place : ℕ)
    (hempty : (loadEntryIdsForSync scan.settings scan.table jobData).entryIds = []) :
    ∃ summary, scan.handle place jobData = .ok (summary, none) ∧ summary.scanComplete =
      (loadEntryIdsForSync scan.settings scan.table jobData).fetchedFromDb := by
  unfold handle handleEntryJob
  dsimp only
  rw [if_pos hempty]
  exact ⟨_, rfl, rfl⟩

/-- What a job with entries returns follows its decision. -/
theorem handle_of_decision (place : ℕ) (decision : EntrySyncChainDecision)
    {loaded : LoadedEntryIds}
    (hloaded : loadEntryIdsForSync scan.settings scan.table jobData = loaded)
    (hentries : loaded.entryIds ≠ [])
    (hdecision : decideEntrySyncChain
      { failedUnits := (syncRequiredEntries (scan.runs place) loaded.entryIds).failed
        retryCount := jobData.retryCount.getD 0
        maxRetryCycles := maxRetryCycles
        fetchedFromDb := loaded.fetchedFromDb
        hasMore := loaded.hasMore
        lastEntryId := loaded.lastEntryId
        resumeAfterEntryId := jobData.resumeAfterEntryId } = decision) :
    match decision with
    | .retryFailed retryCount resumeAfterEntryId => ∃ summary,
        scan.handle place jobData = .ok (summary, some (scheduleRetry
          (syncRequiredEntries (scan.runs place) loaded.entryIds).failedIds retryCount
          resumeAfterEntryId)) ∧ summary.scanComplete = false
    | .continueScan afterEntryId => ∃ summary,
        scan.handle place jobData =
          .ok (summary, some (scheduleNextPage afterEntryId loaded.chunkSize)) ∧
        summary.scanComplete = false
    | .complete => ∃ summary, scan.handle place jobData = .ok (summary, none) ∧
        summary.scanComplete = loaded.fetchedFromDb
    | .fail => ∃ error, scan.handle place jobData = .error error := by
  subst hloaded
  cases decision <;>
  · unfold handle handleEntryJob
    dsimp only
    rw [if_neg hentries, hdecision]
    first | exact ⟨_, rfl, rfl⟩ | exact ⟨_, rfl⟩

/-- What a page job does. -/
theorem PageJob.step {cursor : ℕ} (h : scan.PageJob place cursor jobData)
    (hjob : scan.job place = some jobData) :
    scan.Step place (4 * scan.table.remaining cursor) := by
  obtain ⟨chunkSize, hpos, hloaded⟩ := h.loaded
  have hcomes : ∀ entryId ∈ scan.table.page cursor chunkSize, scan.ComesBy place entryId :=
    fun entryId hmem => ⟨jobData, hjob, by rw [hloaded]; exact hmem⟩
  cases hlast : (scan.table.page cursor chunkSize).getLast? with
  | none =>
    have hempty := List.getLast?_eq_none_iff.mp hlast
    obtain ⟨summary, hhandle, hcomplete⟩ := handle_of_nil scan place
      (show (loadEntryIdsForSync scan.settings scan.table jobData).entryIds = [] by
        rw [hloaded]; exact hempty)
    rw [hloaded] at hcomplete
    refine .reports (job_succ_of_ok hjob hhandle)
      ((reportsComplete_iff hjob hhandle).mpr hcomplete) fun entryId hentry => ?_
    refine h.served_page chunkSize ?_ hentry (.inr (.inl ?_))
    · rw [hempty]
      exact fun entryId hmem => nomatch hmem
    · rw [hempty]
      exact hpos
  | some last =>
    have hmem := List.mem_of_getLast? hlast
    have hless := remaining_lt (mem_of_mem_page hmem).1 (mem_of_mem_page hmem).2
    have hreturns := fun decision => handle_of_decision place decision hloaded
      (List.ne_nil_of_mem hmem)
    simp only [h.retryCount, h.resumeAfterEntryId, hlast, Option.getD_none] at hreturns
    by_cases hfailed : (syncRequiredEntries (scan.runs place)
        (scan.table.page cursor chunkSize)).failed = 0
    · have hserves : ∀ entryId ∈ scan.table.page cursor chunkSize,
          scan.ServedAt place entryId := fun entryId hpage =>
        ⟨hcomes entryId hpage, serves_of_failed_eq_zero hfailed hpage⟩
      by_cases hmore : (scan.table.page cursor chunkSize).length = chunkSize
      · obtain ⟨summary, hhandle, hcomplete⟩ := hreturns (.continueScan last)
          (by simp [decideEntrySyncChain, hfailed, hmore])
        refine .handsOn _ (4 * scan.table.remaining last) (job_succ_of_ok hjob hhandle)
          (.inl ⟨last, pageJob_scheduled hpos fun entryId hentry hle => ?_, rfl⟩) (by omega) ?_
        · exact h.served_page chunkSize hserves hentry (.inr (.inr ⟨last, hmem, hle⟩))
        · rw [reportsComplete_iff hjob hhandle, hcomplete]
          exact Bool.false_ne_true
      · obtain ⟨summary, hhandle, hcomplete⟩ := hreturns .complete
          (by simp [decideEntrySyncChain, hfailed, hmore])
        refine .reports (job_succ_of_ok hjob hhandle)
          ((reportsComplete_iff hjob hhandle).mpr hcomplete) fun entryId hentry => ?_
        refine h.served_page chunkSize hserves hentry (.inr (.inl (lt_of_le_of_ne ?_ hmore)))
        exact List.length_take_le _ _
    · obtain ⟨summary, hhandle, hcomplete⟩ := hreturns (.retryFailed 1 (some last))
        (by simp [decideEntrySyncChain, Nat.pos_of_ne_zero hfailed, maxRetryCycles])
      refine .handsOn _ (4 * scan.table.remaining last + 2) (job_succ_of_ok hjob hhandle)
        (.inr ⟨last, 1, retryJob_scheduled hjob (by rw [hloaded])
          ⟨le_refl 1, by decide, by omega⟩ hfailed ?_ ?_, rfl⟩) (by omega) ?_
      · intro entryId hentry hle hnot
        rcases Nat.lt_or_ge cursor entryId with hbehind | hcursor
        · rcases mem_page_or_lt hentry hbehind with hpage | ⟨-, hbefore⟩
          · exact absurd hpage hnot
          · have hlate := hbefore last hmem
            omega
        · exact h.served entryId hentry hcursor
      · intro entryId hentry cycle hfirst hcycle
        omega
      · rw [reportsComplete_iff hjob hhandle, hcomplete]
        exact Bool.false_ne_true

/-- What a retry job does. -/
theorem RetryJob.step {cursor cycles : ℕ} (h : scan.RetryJob place cursor cycles jobData)
    (hjob : scan.job place = some jobData) :
    scan.Step place (4 * scan.table.remaining cursor + (3 - cycles)) := by
  obtain ⟨first, rest, hids⟩ := h.entryIds
  obtain ⟨chunkSize, hchunkSize, hpos⟩ := h.chunkSize
  obtain ⟨hone, hbound, hplace⟩ := h.bounds
  have hloaded : loadEntryIdsForSync scan.settings scan.table jobData =
      { entryIds := (first :: rest).eraseDups
        hasMore := false
        lastEntryId := none
        chunkSize
        afterEntryId := jobData.afterEntryId.getD 0
        fetchedFromDb := false } := by
    simp only [loadEntryIdsForSync, hids, hchunkSize, Option.getD_some]
  have hmem : ∀ {entryId : ℕ}, entryId ∈ (first :: rest).eraseDups ↔ entryId ∈ first :: rest :=
    List.mem_eraseDups
  have hcomes : ∀ entryId ∈ (first :: rest).eraseDups, scan.ComesBy place entryId :=
    fun entryId hentry => ⟨jobData, hjob, by rw [hloaded]; exact hentry⟩
  have hbefore : ∀ entryId ∈ (first :: rest).eraseDups, ∀ cycle, 1 ≤ cycle → cycle ≤ cycles →
      scan.FailedAt (place - cycle) entryId :=
    fun entryId hentry => h.failed _ hids entryId (hmem.mp hentry)
  have hserved : ∀ entryId ∈ scan.table.entryIds, entryId ≤ cursor →
      entryId ∉ (first :: rest).eraseDups → ∃ earlier < place, scan.ServedAt earlier entryId := by
    intro entryId hentry hle hnot
    refine h.served entryId hentry hle fun ids hsome hin => hnot (hmem.mpr ?_)
    rwa [← Option.some.inj (hids.symm.trans hsome)] at hin
  have hreturns := fun decision => handle_of_decision place decision hloaded
    (List.ne_nil_of_mem (hmem.mpr List.mem_cons_self))
  simp only [h.retryCount, h.resumeAfterEntryId, Option.getD_some] at hreturns
  by_cases hfailed : (syncRequiredEntries (scan.runs place) (first :: rest).eraseDups).failed = 0
  · obtain ⟨summary, hhandle, hcomplete⟩ := hreturns (.continueScan cursor)
      (by simp [decideEntrySyncChain, hfailed])
    refine .handsOn _ (4 * scan.table.remaining cursor) (job_succ_of_ok hjob hhandle)
      (.inl ⟨cursor, pageJob_scheduled hpos fun entryId hentry hle => ?_, rfl⟩) ?_ ?_
    · by_cases hretried : entryId ∈ (first :: rest).eraseDups
      · exact ⟨place, le_refl place, hcomes entryId hretried,
          serves_of_failed_eq_zero hfailed hretried⟩
      · obtain ⟨earlier, hearlier, hserves⟩ := hserved entryId hentry hle hretried
        exact ⟨earlier, by omega, hserves⟩
    · simp only [maxRetryCycles] at hbound
      omega
    · rw [reportsComplete_iff hjob hhandle, hcomplete]
      exact Bool.false_ne_true
  · have hpositive := Nat.pos_of_ne_zero hfailed
    by_cases hlast : maxRetryCycles < cycles + 1
    · obtain ⟨error, hhandle⟩ := hreturns .fail
        (by simp [decideEntrySyncChain, hpositive, hlast])
      obtain rfl : cycles = maxRetryCycles := by omega
      refine .fails (job_succ_of_error hjob hhandle) (not_reportsComplete hjob hhandle)
        ⟨jobData, hjob, error, hhandle⟩ ⟨hplace, ?_, fun entryId hentry cycle hcycle => ?_⟩
      · rw [failed_eq] at hpositive
        obtain ⟨entryId, hentry⟩ := List.exists_mem_of_length_pos hpositive
        obtain ⟨hin, hnot⟩ := mem_failedIds.mp hentry
        exact ⟨entryId, hcomes entryId hin, hnot⟩
      · obtain ⟨⟨other, hother, hin⟩, hnot⟩ := hentry
        obtain rfl : jobData = other := Option.some.inj (hjob.symm.trans hother)
        rw [hloaded] at hin
        rcases Nat.eq_zero_or_pos cycle with rfl | hlater
        · exact ⟨hcomes entryId hin, hnot⟩
        · exact hbefore entryId hin cycle hlater hcycle
    · obtain ⟨summary, hhandle, hcomplete⟩ := hreturns (.retryFailed (cycles + 1) (some cursor))
        (by simp [decideEntrySyncChain, hpositive, hlast])
      refine .handsOn _ (4 * scan.table.remaining cursor + (3 - (cycles + 1)))
        (job_succ_of_ok hjob hhandle)
        (.inr ⟨cursor, cycles + 1, retryJob_scheduled hjob (by rw [hloaded])
          ⟨by omega, by omega, by omega⟩ hfailed hserved ?_, rfl⟩) ?_ ?_
      · exact fun entryId hentry cycle hfirst hcycle =>
          hbefore entryId hentry cycle hfirst (by omega)
      · simp only [maxRetryCycles] at hlast
        omega
      · rw [reportsComplete_iff hjob hhandle, hcomplete]
        exact Bool.false_ne_true

/-! ### Whole chains -/

/-- The first job of a scan has everything before it. -/
theorem sound_first (scan : EntryScan) : ∃ work jobData, scan.job 0 = some jobData ∧
    scan.Sound 0 work jobData := by
  refine ⟨_, _, rfl, .inl ⟨0, ⟨rfl, rfl, rfl, rfl, ⟨scan.chunkSize, ?_, scan.chunkSize_pos⟩, ?_⟩,
    rfl⟩⟩
  · have hpos := scan.chunkSize_pos
    simp only [enqueueEntrySyncJob, sanitizePositiveInt]
    rw [if_neg (by omega)]
  · intro entryId hentry hle
    have hpositive := scan.table.positive entryId hentry
    omega

/-- Each sound job makes a step. -/
theorem Sound.step {work : ℕ} (h : scan.Sound place work jobData)
    (hjob : scan.job place = some jobData) : scan.Step place work := by
  obtain ⟨cursor, hpage, rfl⟩ | ⟨cursor, cycles, hretry, rfl⟩ := h
  · exact hpage.step hjob
  · exact hretry.step hjob

/-- How a chain ends. -/
def EndsAt (scan : EntryScan) (last : ℕ) : Prop :=
  (scan.ReportsComplete last ∧ scan.ServesAll last) ∨
    (¬ scan.ReportsComplete last ∧ scan.JobFails last ∧ scan.Exhausted last)

/-- From a sound job on the chain ends, and no job before the last one reports. -/
theorem chain_ends {work : ℕ} (hsound : scan.Sound place work jobData)
    (hjob : scan.job place = some jobData) :
    ∃ last, place ≤ last ∧ last ≤ place + work ∧ scan.job (last + 1) = none ∧
      (∀ later, place ≤ later → later ≤ last → (scan.job later).isSome) ∧
      (∀ later, place ≤ later → later < last → ¬ scan.ReportsComplete later) ∧
      scan.EndsAt last := by
  induction work using Nat.strong_induction_on generalizing place jobData with
  | _ work ih =>
    have hends : scan.job (place + 1) = none → scan.EndsAt place → ∃ last, place ≤ last ∧
        last ≤ place + work ∧ scan.job (last + 1) = none ∧
        (∀ later, place ≤ later → later ≤ last → (scan.job later).isSome) ∧
        (∀ later, place ≤ later → later < last → ¬ scan.ReportsComplete later) ∧
        scan.EndsAt last := by
      intro hnone hend
      refine ⟨place, le_refl place, by omega, hnone, fun later hfrom hto => ?_,
        fun later hfrom hto => by omega, hend⟩
      rw [show later = place by omega, hjob]
      rfl
    cases hsound.step hjob with
    | handsOn next left hnext hsoundNext hless hreports =>
      obtain ⟨last, hfrom, hto, hnone, hsome, hsilent, hend⟩ := ih left hless hsoundNext hnext
      refine ⟨last, by omega, by omega, hnone, fun later hlater hle => ?_,
        fun later hlater hlt => ?_, hend⟩
      · rcases Nat.eq_or_lt_of_le hlater with rfl | hgreater
        · rw [hjob]
          rfl
        · exact hsome later hgreater hle
      · rcases Nat.eq_or_lt_of_le hlater with rfl | hgreater
        · exact hreports
        · exact hsilent later hgreater hlt
    | reports hnone hreports hserves => exact hends hnone (.inl ⟨hreports, hserves⟩)
    | fails hnone hreports hfails hexhausted =>
      exact hends hnone (.inr ⟨hreports, hfails, hexhausted⟩)

/-- Nothing follows the end of a chain. -/
theorem job_eq_none {last later : ℕ} (h : scan.job (last + 1) = none) (hlater : last < later) :
    scan.job later = none := by
  induction later, Nat.succ_le_of_lt hlater using Nat.le_induction with
  | base => exact h
  | succ later hle ih => rw [job, ih (by omega), Option.bind_none]

end EntryScan

/-- A scan reports that it is complete only once every entry has been served, and its chain ends:
with its only such report, or with a job whose entries failed in all their cycles. -/
theorem entryScan_complete (scan : EntryScan) :
    (∀ place, scan.ReportsComplete place → ∀ entryId ∈ scan.table.entryIds,
      ∃ earlier ≤ place, scan.ServedAt earlier entryId) ∧
    ∃ last, (∀ place, (scan.job place).isSome ↔ place ≤ last) ∧
      ((∀ place, scan.ReportsComplete place ↔ place = last) ∨
        ((∀ place, ¬ scan.ReportsComplete place) ∧ scan.JobFails last ∧ scan.Exhausted last)) := by
  obtain ⟨work, jobData, hjob, hsound⟩ := scan.sound_first
  obtain ⟨last, -, -, hnone, hsome, hsilent, hend⟩ := EntryScan.chain_ends hsound hjob
  have hreported : ∀ place, scan.ReportsComplete place → place = last := by
    intro place hreports
    by_contra hne
    rcases Nat.lt_or_ge last place with hafter | hbefore
    · obtain ⟨other, hother, -⟩ := hreports
      rw [EntryScan.job_eq_none hnone hafter] at hother
      cases hother
    · exact hsilent place (Nat.zero_le place) (lt_of_le_of_ne hbefore hne) hreports
  have hjobs : ∀ place, (scan.job place).isSome ↔ place ≤ last := by
    intro place
    constructor
    · intro hplace
      by_contra hafter
      rw [EntryScan.job_eq_none hnone (by omega)] at hplace
      cases hplace
    · exact hsome place (Nat.zero_le place)
  rcases hend with ⟨hreports, hserves⟩ | ⟨hsilentLast, hfails, hexhausted⟩
  · refine ⟨fun place hplace => ?_, last, hjobs, .inl fun place => ⟨hreported place, ?_⟩⟩
    · rw [hreported place hplace]
      exact hserves
    · rintro rfl
      exact hreports
  · have hnever : ∀ place, ¬ scan.ReportsComplete place := by
      intro place hplace
      rw [hreported place hplace] at hplace
      exact hsilentLast hplace
    exact ⟨fun place hplace => absurd hplace (hnever place), last, hjobs,
      .inr ⟨hnever, hfails, hexhausted⟩⟩

end LetletmeData
