import LetletmeData.Services.ManagerLive

/-!
# Live manager scores and the order of their check times

The checkpoints refuse rows that were checked earlier than what they hold; the hashes in Redis
take every row. So scores go back in time in Redis exactly when a refresh writes a row there
after a row of the same entry with a later check time, as a slow crawl does that was overtaken by
an entry summary.
-/

namespace LetletmeData

open LetletmeData.Library

variable (stableRevision : ManagerLiveScore → String)

/-- The rows that an action writes to Redis were not checked before what was written there. -/
def WritesInOrder (before : ManagerLiveWorld) (action : ManagerLiveAction) : Prop :=
  ∀ write ∈ (before.writes stableRevision action).redis, ∀ time,
    (write.1, time) ∈ before.redisLog → time ≤ write.2.checkedAt

/-- What a reader returns when it reads the checkpoints. -/
def ManagerLiveWorld.answer (world : ManagerLiveWorld) (reader : ManagerLiveReader) :
    Option ManagerLiveScoreRow :=
  mergedRow reader.key.target.season reader.cached (world.checkpoints.find reader.key)

/-- A reader returns a row that was written, checked no earlier than any that had been written
when it began. -/
structure AnswersNewest (world : ManagerLiveWorld) (reader : ManagerLiveReader) : Prop where
  newest : ∀ time, (reader.key, time) ∈ reader.written →
    ∃ row, world.answer reader = some row ∧ time ≤ row.checkedAt
  written : ∀ row, world.answer reader = some row →
    (reader.key, row.checkedAt) ∈ world.redisLog ++ world.checkpointLog

/-- Scores do not go back in time: neither store becomes older, and readers return the newest. -/
structure NotBackInTime (before : ManagerLiveWorld) (action : ManagerLiveAction) : Prop where
  redis : NeverOlder ManagerLiveScoreRow.checkedAt before.redis
    (managerLiveStep stableRevision before action).redis
  checkpoints : NeverOlder ManagerScoreCheckpoint.checkedAt before.checkpoints
    (managerLiveStep stableRevision before action).checkpoints
  answers : ∀ position reader, action = .readCheckpoint position →
    before.readers[position]? = some reader → AnswersNewest before reader

/-- A crawl stamps its rows once; entry summaries are written one by one. -/
def ManagerRefresh.StampedOnce : ManagerRefresh → Prop
  | .summaries _ => True
  | .standings crawl => ∀ row ∈ crawl.fetchedRows, row.checkedAt = crawl.checkedAt

/-- What a reader has seen is still found where it looks. -/
structure ReaderKept (world : ManagerLiveWorld) (reader : ManagerLiveReader) : Prop where
  newest : ∀ time, (reader.key, time) ∈ reader.written →
    (∃ row, reader.cached = some row ∧ time ≤ row.checkedAt) ∨
      ∃ checkpoint, world.checkpoints.find reader.key = some checkpoint ∧
        time ≤ checkpoint.checkedAt
  cached : ∀ row, reader.cached = some row →
    (reader.key, row.checkedAt) ∈ world.redisLog ++ world.checkpointLog

/-- What holds while rows are written to Redis in order. -/
structure ManagerLiveKept (world : ManagerLiveWorld) : Prop where
  redis : ShowsNewest ManagerLiveScoreRow.checkedAt world.redis world.redisLog
  checkpoints : ShowsNewest ManagerScoreCheckpoint.checkedAt world.checkpoints
    world.checkpointLog
  readers : ∀ reader ∈ world.readers, ReaderKept world reader
  refreshes : ∀ refresh ∈ world.refreshes, refresh.StampedOnce

section Refreshes

variable {stableRevision}

/-- Rows of a page carry the check time of their crawl. -/
theorem checkedAt_of_mem_toClassicRows {season : String} {eventId : ℕ} {page : StandingsPage}
    {checkedAt : ℤ} {row : ManagerLiveScoreRow}
    (h : row ∈ toClassicRows stableRevision season eventId page checkedAt) :
    row.checkedAt = checkedAt := by
  obtain ⟨result, -, rfl⟩ := List.mem_map.mp h
  rfl

/-- Taking the rows of a page keeps the stamp of a crawl. -/
theorem stampedOnce_foldl_take (now : ℤ) {rows : List ManagerLiveScoreRow}
    {crawl : CrawlRefresh} (hrows : ∀ row ∈ rows, row.checkedAt = crawl.checkedAt)
    (h : ∀ row ∈ crawl.fetchedRows, row.checkedAt = crawl.checkedAt) :
    (rows.foldl (CrawlRefresh.take now) crawl).checkedAt = crawl.checkedAt ∧
      ∀ row ∈ (rows.foldl (CrawlRefresh.take now) crawl).fetchedRows,
        row.checkedAt = crawl.checkedAt := by
  induction rows generalizing crawl with
  | nil => exact ⟨rfl, h⟩
  | cons row rest ih =>
    have htake : (crawl.take now row).checkedAt = crawl.checkedAt := by
      unfold CrawlRefresh.take
      split <;> rfl
    have hfetched : ∀ other ∈ (crawl.take now row).fetchedRows,
        other.checkedAt = crawl.checkedAt := by
      intro other hother
      unfold CrawlRefresh.take at hother
      split at hother
      · cases List.mem_append.mp hother with
        | inl hold => exact h other hold
        | inr hnew =>
          rw [List.mem_singleton.mp hnew]
          exact hrows row List.mem_cons_self
      · exact h other hother
    rw [← htake] at hfetched ⊢
    refine ih (fun other hother => ?_) hfetched
    rw [htake]
    exact hrows other (List.mem_cons_of_mem _ hother)

/-- A refresh that goes on keeps its stamps. -/
theorem ManagerRefresh.StampedOnce.advance {refresh refresh' : ManagerRefresh}
    (h : refresh.StampedOnce) (event : RefreshEvent)
    (hadvance : (refresh.advance stableRevision event).1 = some refresh') :
    refresh'.StampedOnce := by
  cases refresh with
  | summaries refresh =>
    cases refresh' with
    | summaries _ => trivial
    | standings crawl =>
      simp only [ManagerRefresh.advance, SummaryRefresh.advance] at hadvance
      split at hadvance
      · split at hadvance <;> cases hadvance
      · split at hadvance <;> cases hadvance
      · split at hadvance
        · simp only [SummaryRefresh.next] at hadvance
          split at hadvance <;> cases hadvance
        · cases hadvance
      · cases hadvance
  | standings crawl =>
    simp only [ManagerRefresh.advance, CrawlRefresh.advance] at hadvance
    split at hadvance
    · rename_i page now
      split at hadvance
      · split at hadvance
        · cases hadvance
        · rename_i page
          have hpage : ∀ row ∈ toClassicRows stableRevision crawl.season crawl.eventId page
              crawl.checkedAt, row.checkedAt = crawl.checkedAt :=
            fun row hrow => checkedAt_of_mem_toClassicRows hrow
          have htaken := stampedOnce_foldl_take now hpage h
          obtain rfl := Option.some.inj hadvance
          cases page.hasNext with
          | false => exact fun row hrow => (htaken.2 row hrow).trans htaken.1.symm
          | true => exact fun row hrow => (htaken.2 row hrow).trans htaken.1.symm
      · obtain rfl := Option.some.inj hadvance
        exact h
    · split at hadvance
      · obtain rfl := Option.some.inj hadvance
        exact h
      · obtain rfl := Option.some.inj hadvance
        exact h
    · split at hadvance
      · cases hadvance
      · obtain rfl := Option.some.inj hadvance
        exact h
    · obtain rfl := Option.some.inj hadvance
      exact h

/-- A refresh writes the rows of one entry with one check time. -/
theorem ManagerRefresh.StampedOnce.writes {refresh : ManagerRefresh} (h : refresh.StampedOnce)
    (event : RefreshEvent) :
    ∀ write ∈ (refresh.advance stableRevision event).2.redis,
      ∀ other ∈ (refresh.advance stableRevision event).2.redis, write.1 = other.1 →
        write.2.checkedAt = other.2.checkedAt := by
  have hnothing : ∀ write ∈ ManagerLiveWrites.nothing.redis,
      ∀ other ∈ ManagerLiveWrites.nothing.redis, write.1 = other.1 →
        write.2.checkedAt = other.2.checkedAt := by
    intro write hwrite
    cases hwrite
  have hwritten : ∀ (target : ManagerScoreTarget) (rows : List ManagerLiveScoreRow)
      (carriedOut : Bool), (∀ row ∈ rows, ∀ other ∈ rows, row.checkedAt = other.checkedAt) →
      ∀ write ∈ (writeRows target rows carriedOut).redis,
        ∀ other ∈ (writeRows target rows carriedOut).redis, write.1 = other.1 →
          write.2.checkedAt = other.2.checkedAt := by
    intro target rows carriedOut hrows write hwrite other hother _
    unfold writeRows at hwrite hother
    cases carriedOut with
    | false => cases hwrite
    | true =>
      obtain ⟨row, hrow, rfl⟩ := List.mem_map.mp hwrite
      obtain ⟨row', hrow', rfl⟩ := List.mem_map.mp hother
      exact hrows row hrow row' hrow'
  have hupserted : ∀ (target : ManagerScoreTarget) (rows : List ManagerLiveScoreRow)
      (carriedOut : Bool), (upsertRows target rows carriedOut).redis = [] := by
    intro target rows carriedOut
    cases carriedOut <;> rfl
  cases refresh with
  | summaries refresh =>
    simp only [ManagerRefresh.advance, SummaryRefresh.advance]
    split
    · split <;> exact hnothing
    · split
      · refine hwritten _ _ _ fun row hrow other hother => ?_
        rw [List.mem_singleton.mp hrow, List.mem_singleton.mp hother]
      · exact hnothing
    · split
      · rw [hupserted]
        exact hnothing
      · exact hnothing
    · exact hnothing
  | standings crawl =>
    simp only [ManagerRefresh.advance, CrawlRefresh.advance]
    split
    · split
      · split <;> exact hnothing
      · exact hnothing
    · split
      · exact hwritten _ _ _ fun row hrow other hother => (h row hrow).trans (h other hother).symm
      · exact hnothing
    · split
      · rw [hupserted]
        exact hnothing
      · exact hnothing
    · exact hnothing

end Refreshes

section Steps

variable {stableRevision} {world : ManagerLiveWorld}

/-- The writes of an action to Redis give one entry one check time. -/
theorem ManagerLiveKept.writes (h : ManagerLiveKept world) (action : ManagerLiveAction) :
    ∀ write ∈ (world.writes stableRevision action).redis,
      ∀ other ∈ (world.writes stableRevision action).redis, write.1 = other.1 →
        write.2.checkedAt = other.2.checkedAt := by
  cases action with
  | advance position event =>
    cases hrefresh : world.refreshes[position]? with
    | none =>
      simp only [ManagerLiveWorld.writes, hrefresh, Option.elim_none]
      exact fun write hwrite => by cases hwrite
    | some refresh =>
      simp only [ManagerLiveWorld.writes, hrefresh, Option.elim_some]
      exact (h.refreshes refresh (List.mem_of_getElem? hrefresh)).writes event
  | refreshEntrySummaries target entryIds known maxFetches now =>
    exact fun write hwrite => by cases hwrite
  | refreshClassicStandings season eventId leagueId targetIds known startPage maxPages now =>
    exact fun write hwrite => by cases hwrite
  | readCachedRow key => exact fun write hwrite => by cases hwrite
  | readCheckpoint position => exact fun write hwrite => by cases hwrite

/-- Refreshes that go on, end or start have stamped once. -/
theorem ManagerLiveKept.progress (h : ManagerLiveKept world) (action : ManagerLiveAction) :
    ∀ refresh ∈ world.progress stableRevision action, refresh.StampedOnce := by
  intro refresh hrefresh
  cases action with
  | advance position event =>
    simp only [ManagerLiveWorld.progress] at hrefresh
    split at hrefresh
    · exact h.refreshes refresh hrefresh
    · rename_i old hold
      have hstamped := h.refreshes old (List.mem_of_getElem? hold)
      split at hrefresh
      · exact h.refreshes refresh (List.mem_of_mem_eraseIdx hrefresh)
      · rename_i next hnext
        cases List.mem_or_eq_of_mem_set hrefresh with
        | inl hother => exact h.refreshes refresh hother
        | inr heq =>
          rw [heq]
          exact hstamped.advance event hnext
  | refreshEntrySummaries target entryIds known maxFetches now =>
    cases List.mem_append.mp hrefresh with
    | inl hold => exact h.refreshes refresh hold
    | inr hnew =>
      have hstart := Option.mem_toList.mp hnew
      simp only [refreshEntrySummaries, SummaryRefresh.next] at hstart
      split at hstart
      · cases hstart
      · obtain rfl := Option.some.inj hstart
        trivial
  | refreshClassicStandings season eventId leagueId targetIds known startPage maxPages now =>
    cases List.mem_append.mp hrefresh with
    | inl hold => exact h.refreshes refresh hold
    | inr hnew =>
      rw [List.mem_singleton.mp hnew]
      exact fun row hrow => by cases hrow
  | readCachedRow key => exact h.refreshes refresh hrefresh
  | readCheckpoint position => exact h.refreshes refresh hrefresh

/-- What a reader has seen stays where it looks, as the checkpoints never become older. -/
theorem ReaderKept.step {reader : ManagerLiveReader} (h : ReaderKept world reader)
    (action : ManagerLiveAction) :
    ReaderKept (managerLiveStep stableRevision world action) reader := by
  refine ⟨?_, ?_⟩
  · intro time hmem
    refine (h.newest time hmem).imp id fun hcheckpoint => ?_
    obtain ⟨checkpoint, hfind, hle⟩ := hcheckpoint
    have hnever : NeverOlder ManagerScoreCheckpoint.checkedAt world.checkpoints
        (managerLiveStep stableRevision world action).checkpoints :=
      NeverOlder.upsertAllNewer _ _
    obtain ⟨checkpoint', hfind', hle'⟩ := hnever reader.key checkpoint hfind
    exact ⟨checkpoint', hfind', hle.trans hle'⟩
  · intro row hrow
    have hmem := h.cached row hrow
    simp only [managerLiveStep, List.mem_append] at hmem ⊢
    cases hmem with
    | inl hredis => exact Or.inl (Or.inl hredis)
    | inr hcheckpoints => exact Or.inr (Or.inl hcheckpoints)

/-- A reader that begins sees what both stores show. -/
theorem ManagerLiveKept.readerBegins (h : ManagerLiveKept world) (key : ManagerScoreKey) :
    ReaderKept world ⟨key, world.redis.find key, world.redisLog ++ world.checkpointLog⟩ := by
  refine ⟨?_, ?_⟩
  · intro time hmem
    cases List.mem_append.mp hmem with
    | inl hredis => exact Or.inl (h.redis.newest key time hredis)
    | inr hcheckpoints => exact Or.inr (h.checkpoints.newest key time hcheckpoints)
  · intro row hrow
    exact List.mem_append_left _ (h.redis.logged key row hrow)

/-- A step that overwrites in order keeps what holds. -/
theorem ManagerLiveKept.step (h : ManagerLiveKept world) {action : ManagerLiveAction}
    (horder : InOrder ManagerLiveScoreRow.checkedAt world.redisLog
      (world.writes stableRevision action).redis) :
    ManagerLiveKept (managerLiveStep stableRevision world action) := by
  refine ⟨(h.redis.overwriteAll horder).1, h.checkpoints.upsertAllNewer _, ?_, h.progress action⟩
  intro reader hreader
  have hold : ∀ reader ∈ world.readers,
      ReaderKept (managerLiveStep stableRevision world action) reader :=
    fun reader hreader => (h.readers reader hreader).step action
  cases action with
  | readCachedRow key =>
    cases List.mem_append.mp hreader with
    | inl hmem => exact hold reader hmem
    | inr hnew =>
      rw [List.mem_singleton.mp hnew]
      exact (h.readerBegins key).step _
  | readCheckpoint position => exact hold reader (List.mem_of_mem_eraseIdx hreader)
  | advance position event => exact hold reader hreader
  | refreshEntrySummaries target entryIds known maxFetches now => exact hold reader hreader
  | refreshClassicStandings season eventId leagueId targetIds known startPage maxPages now =>
    exact hold reader hreader

/-- A merged row is as new as what either store gave. -/
theorem mergedRow_newest {season : String} {cached : Option ManagerLiveScoreRow}
    {checkpoint : Option ManagerScoreCheckpoint} {time : ℤ}
    (h : (∃ row, cached = some row ∧ time ≤ row.checkedAt) ∨
      ∃ stored, checkpoint = some stored ∧ time ≤ stored.checkedAt) :
    ∃ row, mergedRow season cached checkpoint = some row ∧ time ≤ row.checkedAt := by
  cases h with
  | inl hcached =>
    obtain ⟨row, rfl, hle⟩ := hcached
    cases checkpoint with
    | none => exact ⟨row, rfl, hle⟩
    | some stored =>
      unfold mergedRow
      dsimp only
      split
      · rename_i hlater
        exact ⟨_, rfl, hle.trans hlater.le⟩
      · exact ⟨row, rfl, hle⟩
  | inr hstored =>
    obtain ⟨stored, rfl, hle⟩ := hstored
    cases cached with
    | none => exact ⟨_, rfl, hle⟩
    | some row =>
      unfold mergedRow
      dsimp only
      split
      · exact ⟨_, rfl, hle⟩
      · rename_i hearlier
        exact ⟨row, rfl, hle.trans (not_lt.mp hearlier)⟩

/-- A merged row comes from one of the stores. -/
theorem mergedRow_origin {season : String} {cached : Option ManagerLiveScoreRow}
    {checkpoint : Option ManagerScoreCheckpoint} {row : ManagerLiveScoreRow}
    (h : mergedRow season cached checkpoint = some row) :
    cached = some row ∨ ∃ stored, checkpoint = some stored ∧ row.checkedAt = stored.checkedAt := by
  unfold mergedRow at h
  split at h
  · exact Or.inl h
  · rename_i stored
    obtain rfl := Option.some.inj h
    exact Or.inr ⟨stored, rfl, rfl⟩
  · rename_i stored old
    split at h
    · obtain rfl := Option.some.inj h
      exact Or.inr ⟨stored, rfl, rfl⟩
    · exact Or.inl h

/-- A reader that reads the checkpoints returns the newest row. -/
theorem ManagerLiveKept.answersNewest (h : ManagerLiveKept world) {reader : ManagerLiveReader}
    (hreader : reader ∈ world.readers) : AnswersNewest world reader := by
  have hkept := h.readers reader hreader
  refine ⟨fun time hmem => mergedRow_newest (hkept.newest time hmem), ?_⟩
  intro row hrow
  cases mergedRow_origin hrow with
  | inl hcached => exact hkept.cached row hcached
  | inr hcheckpoint =>
    obtain ⟨stored, hstored, htime⟩ := hcheckpoint
    rw [htime]
    exact List.mem_append_right _ (h.checkpoints.logged reader.key stored hstored)

/-- Before the first refresh nothing is stored and nothing was written. -/
theorem ManagerLiveKept.initial : ManagerLiveKept ManagerLiveWorld.initial := by
  refine ⟨⟨?_, ?_⟩, ⟨?_, ?_⟩, ?_, ?_⟩
  · exact fun key time hmem => by cases hmem
  · exact fun key row hrow => by cases hrow
  · exact fun key time hmem => by cases hmem
  · exact fun key row hrow => by cases hrow
  · exact fun reader hreader => by cases hreader
  · exact fun refresh hrefresh => by cases hrefresh

/-- Writes to Redis that come in order take no score back. -/
theorem ManagerLiveKept.notBackInTime (h : ManagerLiveKept world) {action : ManagerLiveAction}
    (horder : InOrder ManagerLiveScoreRow.checkedAt world.redisLog
      (world.writes stableRevision action).redis) :
    NotBackInTime stableRevision world action where
  redis := (h.redis.overwriteAll horder).2
  checkpoints := NeverOlder.upsertAllNewer _ _
  answers position reader _ hreader := h.answersNewest (List.mem_of_getElem? hreader)

end Steps

/-- In every run, scores do not go back in time exactly when no refresh writes a row of an entry
to Redis after one that was checked later. -/
theorem managerLive_notBackInTime (actions : List ManagerLiveAction) :
    EveryStep (managerLiveStep stableRevision) (NotBackInTime stableRevision)
        ManagerLiveWorld.initial actions ↔
      EveryStep (managerLiveStep stableRevision) (WritesInOrder stableRevision)
        ManagerLiveWorld.initial actions := by
  constructor
  · have horder : ∀ world action, ManagerLiveKept world →
        NotBackInTime stableRevision world action →
        InOrder ManagerLiveScoreRow.checkedAt world.redisLog
          (world.writes stableRevision action).redis :=
      fun world action h hnever => InOrder.of_neverOlder h.redis (h.writes action) hnever.redis
    exact EveryStep.of_guard (fun world action h hnever => h.step (horder world action h hnever))
      (fun world action h hnever => (horder world action h hnever).logged) ManagerLiveKept.initial
  · have horder : ∀ world action, ManagerLiveKept world →
        WritesInOrder stableRevision world action →
        InOrder ManagerLiveScoreRow.checkedAt world.redisLog
          (world.writes stableRevision action).redis :=
      fun world action h hlogged => InOrder.of_same (h.writes action) hlogged
    exact EveryStep.of_guard (fun world action h hlogged => h.step (horder world action h hlogged))
      (fun world action h hlogged => h.notBackInTime (horder world action h hlogged))
      ManagerLiveKept.initial

/-- A page with one entry, at a rank. -/
def standingsPage (rank : ℤ) : StandingsPage := ⟨none, [⟨7, some 60, some 1200, some rank⟩], false⟩

/-- Two crawls of a league. The one that started first is the slower one, and writes last. -/
def overtakenCrawl : List ManagerLiveAction :=
  [.refreshClassicStandings "2526" 5 314 [7] [] 1 4 0,
    .refreshClassicStandings "2526" 5 314 [7] [] 1 4 1000,
    .advance 1 (.pageFetched (some (standingsPage 1)) 1500),
    .advance 1 (.standingsWritten true),
    .advance 0 (.pageFetched (some (standingsPage 2)) 2000)]

/-- The key of the entry. -/
def overtakenKey : ManagerScoreKey := ⟨⟨"2526", 5, .classicLeague 314⟩, 7⟩

/-- When the overtaken crawl writes, the check time in Redis goes back, and a reader that merges
it with the checkpoint returns the row that was checked earlier. -/
theorem overtakenCrawl_goesBack :
    let before := runSteps (managerLiveStep fun _ => "") ManagerLiveWorld.initial overtakenCrawl
    let after := managerLiveStep (fun _ => "") before (.advance 0 (.standingsWritten true))
    (before.redis.find overtakenKey).map (·.checkedAt) = some 1000 ∧
      (after.redis.find overtakenKey).map (·.checkedAt) = some 0 ∧
      (mergedRow "2526" (after.redis.find overtakenKey)
        (after.checkpoints.find overtakenKey)).map (·.checkedAt) = some 0 := by
  decide +kernel

end LetletmeData
