import Mathlib.Data.List.Induction
import LetletmeData.Domain.TournamentSetupIssue
import LetletmeData.Library.KeyedTables
import LetletmeData.Repositories.TournamentInfos

/-!
# Stored setup issues

The issues of one tournament under their keys, the statements that write them, and what a
synchronisation records in the tournament itself.
-/

namespace LetletmeData

open LetletmeData.Library

/-- A row of `competition.tournament_setup_issues`, with the columns that are not derived from
others. -/
structure TournamentSetupIssueRow where
  issueId : ℕ
  code : TournamentSetupIssueCode
  category : TournamentSetupIssueCategory
  severity : TournamentSetupIssueSeverity
  eventId : Option ℕ
  affectedEntryIds : List ℤ
  diagnosticCode : Option String
  internalMessage : Option String
  repairAttempts : ℕ
  nextRepairAt : Option ℕ
  repairExhaustedAt : Option ℕ
  firstSeenAt : ℕ
  lastSeenAt : ℕ
  resolvedAt : Option ℕ
  deriving DecidableEq

/-- The issues of a tournament, and the next identifier. -/
structure TournamentSetupIssues where
  rows : KeyedTable String TournamentSetupIssueRow
  nextIssueId : ℕ

namespace TournamentSetupIssueRow

/-- What is inserted for an issue. -/
def inserted (issueId now : ℕ) (issue : TournamentSetupIssueInput) : TournamentSetupIssueRow where
  issueId := issueId
  code := issue.code
  category := issue.category
  severity := issue.severity
  eventId := issue.eventId
  affectedEntryIds := dedupeSetupIssueEntries issue.affectedEntryIds
  diagnosticCode := issue.diagnosticCode
  internalMessage := issue.internalMessage
  repairAttempts := 0
  nextRepairAt := issue.nextRepairAt
  repairExhaustedAt := none
  firstSeenAt := now
  lastSeenAt := now
  resolvedAt := none

/-- The update of a stored issue. A reopened issue starts its repairs anew; an exhausted one keeps
the instant of its next repair. -/
def updated (now : ℕ) (issue : TournamentSetupIssueInput) (row : TournamentSetupIssueRow) :
    TournamentSetupIssueRow :=
  { row with
    code := issue.code
    category := issue.category
    severity := issue.severity
    eventId := issue.eventId
    affectedEntryIds := dedupeSetupIssueEntries issue.affectedEntryIds
    diagnosticCode := issue.diagnosticCode
    internalMessage := issue.internalMessage
    nextRepairAt :=
      if row.resolvedAt ≠ none then issue.nextRepairAt
      else if row.repairExhaustedAt = none then issue.nextRepairAt
      else row.nextRepairAt
    repairAttempts := if row.resolvedAt ≠ none then 0 else row.repairAttempts
    repairExhaustedAt := if row.resolvedAt ≠ none then none else row.repairExhaustedAt
    lastSeenAt := now
    resolvedAt := none }

/-- The row is closed. -/
def resolved (now : ℕ) (row : TournamentSetupIssueRow) : TournamentSetupIssueRow :=
  { row with resolvedAt := some now, nextRepairAt := none }

/-- The row stores an issue as unresolved. -/
structure Stores (row : TournamentSetupIssueRow) (issue : TournamentSetupIssueInput) : Prop where
  code : row.code = issue.code
  category : row.category = issue.category
  eventId : row.eventId = issue.eventId
  affectedEntryIds : row.affectedEntryIds = dedupeSetupIssueEntries issue.affectedEntryIds
  resolvedAt : row.resolvedAt = none

end TournamentSetupIssueRow

namespace TournamentSetupIssues

/-- A tournament without issues. -/
def empty : TournamentSetupIssues := ⟨KeyedTable.empty, 1⟩

/-- `findUnresolvedById`. -/
def findUnresolvedById (issues : TournamentSetupIssues) (issueId : ℕ) :
    Option (String × TournamentSetupIssueRow) :=
  (issues.rows.selectWhere fun _ row => row.issueId = issueId ∧ row.resolvedAt = none).head?

/-- `listUnresolved`. Nothing depends on the order of its rows. -/
def listUnresolved (issues : TournamentSetupIssues) : List (String × TournamentSetupIssueRow) :=
  issues.rows.selectWhere fun _ row => row.resolvedAt = none

/-- The statement that stores one issue. A conflict consumes an identifier as well. -/
def store (now : ℕ) (issues : TournamentSetupIssues) (issue : TournamentSetupIssueInput) :
    TournamentSetupIssues where
  rows := issues.rows.insertOrUpdate issue.issueKey (.inserted issues.nextIssueId now issue)
    (·.updated now issue)
  nextIssueId := issues.nextIssueId + 1

/-- The table after `sync`: the issues are stored, and every other unresolved row is closed unless
its key is preserved. -/
def sync (now : ℕ) (given : List TournamentSetupIssueInput)
    (preserveUnresolvedIssueKeys : List String) (issues : TournamentSetupIssues) :
    TournamentSetupIssues :=
  let stored := given.foldl (store now) issues
  let keys := given.map (·.issueKey) ++ preserveUnresolvedIssueKeys
  { stored with
    rows := stored.rows.updateWhere (fun key row => row.resolvedAt = none ∧ key ∉ keys)
      (·.resolved now) }

/-- The unresolved warnings. -/
def warningCount (issues : TournamentSetupIssues) : ℕ :=
  (issues.rows.selectWhere fun _ row => row.resolvedAt = none ∧ row.severity = .warning).length

/-- An unresolved issue of some categories. -/
def hasOpen (issues : TournamentSetupIssues) (categories : List TournamentSetupIssueCategory) : Bool :=
  !(issues.rows.selectWhere fun _ row =>
    row.category ∈ categories ∧ row.resolvedAt = none).isEmpty

/-- `recordRepairAttempt`. -/
def recordRepairAttempt (now issueId : ℕ) (nextRepairAt : Option ℕ) (exhausted : Bool)
    (issues : TournamentSetupIssues) : TournamentSetupIssues :=
  { issues with
    rows := issues.rows.updateWhere (fun _ row => row.issueId = issueId) fun row =>
      { row with
        repairAttempts := row.repairAttempts + 1
        nextRepairAt := nextRepairAt
        repairExhaustedAt := if exhausted then some now else none } }

end TournamentSetupIssues

/-- What `sync` records in the tournament. -/
def TournamentSetupRow.recordIssues (now : ℕ) (issues : TournamentSetupIssues)
    (row : TournamentSetupRow) : TournamentSetupRow :=
  { row with
    setupWarningCount := issues.warningCount
    setupError := if row.setupStatus = .ready then none else row.setupError
    profilesReadyAt :=
      if issues.hasOpen [.profiles] then none else row.profilesReadyAt.or (some now)
    insightsReadyAt :=
      if issues.hasOpen [.insights, .results] then none else row.insightsReadyAt.or (some now) }

/-! ### What a synchronisation leaves -/

/-- The issue that is stored last under a key. -/
def lastGiven (given : List TournamentSetupIssueInput) (key : String) :
    Option TournamentSetupIssueInput :=
  given.reverse.find? (·.issueKey = key)

namespace TournamentSetupIssues

variable {now : ℕ} {given : List TournamentSetupIssueInput} {preserved : List String}
  {issues : TournamentSetupIssues} {key : String}

/-- A stored issue is found under its key, the other rows stay. -/
theorem find_store (issue : TournamentSetupIssueInput) :
    (issues.store now issue).rows.find key =
      if key = issue.issueKey then
        some ((issues.rows.find key).elim (.inserted issues.nextIssueId now issue)
          (·.updated now issue))
      else issues.rows.find key := by
  rw [store, KeyedTable.find_insertOrUpdate]
  by_cases hkey : key = issue.issueKey
  · rw [if_pos hkey, if_pos hkey, hkey]
  · rw [if_neg hkey, if_neg hkey]

/-- Whatever was there, the row now stores the issue. -/
theorem stores_elim (issue : TournamentSetupIssueInput) (old : Option TournamentSetupIssueRow)
    (issueId : ℕ) :
    (old.elim (TournamentSetupIssueRow.inserted issueId now issue)
      (·.updated now issue)).Stores issue := by
  cases old with
  | none => exact ⟨rfl, rfl, rfl, rfl, rfl⟩
  | some row => exact ⟨rfl, rfl, rfl, rfl, rfl⟩

/-- The issues given are stored one after another, and the last one under a key remains. -/
theorem find_foldl_store (now : ℕ) (given : List TournamentSetupIssueInput)
    (issues : TournamentSetupIssues) (key : String) :
    match lastGiven given key with
    | some issue => ∃ row, (given.foldl (store now) issues).rows.find key = some row ∧
        row.Stores issue
    | none => (given.foldl (store now) issues).rows.find key = issues.rows.find key := by
  induction given using List.reverseRecOn with
  | nil => rfl
  | append_singleton rest last ih =>
    rw [List.foldl_append, List.foldl_cons, List.foldl_nil, find_store, lastGiven,
      List.reverse_append, List.reverse_singleton, List.singleton_append, List.find?_cons]
    by_cases hkey : key = last.issueKey
    · rw [if_pos hkey]
      simp only [hkey, decide_true]
      exact ⟨_, rfl, stores_elim _ _ _⟩
    · rw [if_neg hkey, decide_eq_false (Ne.symm hkey)]
      exact ih

/-- A key is given exactly when some issue is stored last under it. -/
theorem lastGiven_eq_none_iff : lastGiven given key = none ↔ key ∉ given.map (·.issueKey) := by
  simp [lastGiven]

/-- The issue stored last under a key is one of those given, under that key. -/
theorem of_lastGiven {issue : TournamentSetupIssueInput} (h : lastGiven given key = some issue) :
    issue ∈ given ∧ issue.issueKey = key :=
  ⟨List.mem_reverse.mp (List.mem_of_find?_eq_some h), by simpa using List.find?_some h⟩

/-- Under a given key a synchronisation leaves the last of its issues. -/
theorem find_sync_of_lastGiven (now : ℕ) (preserved : List String)
    (issues : TournamentSetupIssues) {issue : TournamentSetupIssueInput}
    (h : lastGiven given key = some issue) :
    ∃ row, (issues.sync now given preserved).rows.find key = some row ∧ row.Stores issue := by
  have hstored := find_foldl_store now given issues key
  rw [h] at hstored
  obtain ⟨row, hrow, hstores⟩ := hstored
  have hgiven : key ∈ given.map (·.issueKey) := by
    rw [← (of_lastGiven h).2]
    exact List.mem_map_of_mem (of_lastGiven h).1
  refine ⟨row, ?_, hstores⟩
  rw [sync, KeyedTable.find_updateWhere, hrow, Option.map_some, if_neg]
  intro hselected
  exact hselected.2 (List.mem_append_left _ hgiven)

/-- A row under another key is closed, unless it is closed already or preserved. -/
theorem find_sync_of_not_given (h : key ∉ given.map (·.issueKey)) :
    (issues.sync now given preserved).rows.find key =
      (issues.rows.find key).map fun row =>
        if row.resolvedAt = none ∧ key ∉ preserved then row.resolved now else row := by
  have hstored := find_foldl_store now given issues key
  rw [lastGiven_eq_none_iff.mpr h] at hstored
  rw [sync, KeyedTable.find_updateWhere, hstored]
  simp only [List.mem_append, h, false_or]

/-- No unresolved row of some categories is found exactly when none is open. -/
theorem hasOpen_eq_false_iff {categories : List TournamentSetupIssueCategory} :
    issues.hasOpen categories = false ↔
      ∀ key row, issues.rows.find key = some row → row.category ∈ categories →
        row.resolvedAt ≠ none := by
  rw [hasOpen, Bool.not_eq_false', List.isEmpty_iff, List.eq_nil_iff_forall_not_mem]
  constructor
  · intro h key row hrow hcategory hresolved
    exact h (key, row) (KeyedTable.mem_selectWhere.mpr ⟨hrow, hcategory, hresolved⟩)
  · intro h entry hentry
    have hselected := KeyedTable.mem_selectWhere.mp hentry
    exact h entry.1 entry.2 hselected.1 hselected.2.1 hselected.2.2

end TournamentSetupIssues

end LetletmeData
