import LetletmeData.Cache.PublicationManifest
import LetletmeData.Library.KeyedTables
import LetletmeData.Library.Transactions

/-!
# The tables of dataset publications

Source runs, publications, their stored items and the delivery outbox, as far as some call
reads a column. Times are milliseconds of the database clock.
-/

namespace LetletmeData

open LetletmeData.Library

/-- `SyncRunStatus`. -/
inductive SyncRunStatus where
  | pending
  | running
  | failed
  | completed
  | readyToPublish
  | published
  | skipped
  deriving DecidableEq

/-- The text of a run status. -/
def SyncRunStatus.text : SyncRunStatus → String
  | pending => "pending"
  | running => "running"
  | failed => "failed"
  | completed => "completed"
  | readyToPublish => "ready_to_publish"
  | published => "published"
  | skipped => "skipped"

/-- `NON_TERMINAL_RUN_STATUSES`. -/
def nonTerminalRunStatuses : List SyncRunStatus := [.pending, .running, .readyToPublish]

/-- The status column of a publication. -/
inductive PublicationStatus where
  | staging
  | active
  | retired
  | failed
  deriving DecidableEq

/-- The text of a publication status. -/
def PublicationStatus.text : PublicationStatus → String
  | staging => "staging"
  | active => "active"
  | retired => "retired"
  | failed => "failed"

/-- The status column of an outbox receipt. -/
inductive OutboxStatus where
  | pending
  | staged
  | dbActivated
  | redisActivated
  | delivered
  | failed
  deriving DecidableEq

/-- What a source run is for: an identity that a repeated start must match. -/
structure StartSyncRunInput where
  provider : String
  lane : String
  scope : String
  season : Option FplSeasonRef
  eventId : Option ℕ
  mode : String
  trigger : String
  deriving DecidableEq

/-- A row of `sync_runs`. -/
structure SyncRun where
  identity : StartSyncRunInput
  status : SyncRunStatus
  publicationId : Option ℕ
  deriving DecidableEq

/-- The columns that scope a publication. -/
structure PublicationScope where
  dataset : DataPublicationDataset
  seasonId : ℕ
  eventId : Option ℕ
  deriving DecidableEq

/-- The scope that the filter `publicationScope` selects. -/
def publicationScope (dataset : DataPublicationDataset) (season : FplSeasonRef)
    (eventId : Option ℕ) : PublicationScope :=
  { dataset := dataset, seasonId := season.seasonId, eventId := eventId }

/-- A row of `dataset_publications`. A stored object that is no manifest counts as none. -/
structure DatasetPublication where
  scope : PublicationScope
  revision : ℕ
  status : PublicationStatus
  manifest : Option DataPublicationManifest
  sourceRunId : ℕ
  expiresAt : Option ℕ
  deriving DecidableEq

/-- A stored payload, through the three texts it is serialised to. -/
structure StoredPayload where
  canonicalJson : String
  stringify : String
  postgresJsonbCanonicalJson : String
  deriving DecidableEq

/-- A row of `dataset_publication_items`, under its publication and item name. -/
structure DatasetPublicationItem where
  payload : StoredPayload
  itemCount : ℕ
  checksum : String
  deriving DecidableEq

/-- A row of `data_publication_outbox`. -/
structure DataPublicationOutbox where
  publicationId : ℕ
  sourceRunId : ℕ
  scope : PublicationScope
  manifest : DataPublicationManifest
  status : OutboxStatus
  availableAt : ℕ
  attempts : ℕ
  leaseOwner : Option ℕ
  leaseExpiresAt : Option ℕ
  deliveredAt : Option ℕ
  deriving DecidableEq

/-- The tables, the next value of `dataset_publication_revisions`, and the seasons and events
that foreign keys refer to. -/
structure Database where
  runs : KeyedTable ℕ SyncRun
  publications : KeyedTable ℕ DatasetPublication
  items : KeyedTable (ℕ × String) DatasetPublicationItem
  outbox : KeyedTable ℕ DataPublicationOutbox
  nextRevision : ℕ
  seasons : List ℕ
  events : List (ℕ × ℕ)

/-- Errors of the repositories: thrown with a message and a code or with a message alone, or
raised by a constraint. -/
inductive RepositoryError where
  | databaseError (message code : String)
  | plainError (message : String)
  | constraintViolation (constraint : String)
  deriving DecidableEq

namespace Database

/-- Before the first run. -/
def initial (seasons : List ℕ) (events : List (ℕ × ℕ)) : Database :=
  { runs := .empty, publications := .empty, items := .empty, outbox := .empty, nextRevision := 1,
    seasons := seasons, events := events }

/-- The status of a run, if it was started. -/
def runStatus (db : Database) (runId : ℕ) : Option SyncRunStatus :=
  (db.runs.find runId).map (·.status)

/-- The active publications of a scope. -/
def activeIn (db : Database) (scope : PublicationScope) : List (ℕ × DatasetPublication) :=
  db.publications.selectWhere fun _ row => row.scope = scope ∧ row.status = .active

/-- `UPDATE sync_runs ... WHERE run_id = runId AND status IN allowed`. -/
def moveRun (db : Database) (runId : ℕ) (allowed : List SyncRunStatus)
    (write : SyncRun → SyncRun) : Database :=
  { db with runs := db.runs.updateWhere (fun id run => id = runId ∧ run.status ∈ allowed) write }

variable {db : Database}

/-- The active publications of a scope are the rows found active in it. -/
theorem mem_activeIn {scope : PublicationScope} {id : ℕ} {row : DatasetPublication} :
    (id, row) ∈ db.activeIn scope ↔
      db.publications.find id = some row ∧ row.scope = scope ∧ row.status = .active :=
  KeyedTable.mem_selectWhere

/-- Moving a run changes the status of that run alone, and only from an allowed one. -/
theorem runStatus_moveRun (runId other : ℕ) (allowed : List SyncRunStatus)
    (write : SyncRun → SyncRun) :
    (db.moveRun runId allowed write).runStatus other =
      (db.runs.find other).map fun run =>
        if other = runId ∧ run.status ∈ allowed then (write run).status else run.status := by
  simp only [runStatus, moveRun, KeyedTable.find_updateWhere, Option.map_map]
  refine Option.map_congr fun run _ => ?_
  simp only [Function.comp_apply]
  split <;> rfl

end Database

end LetletmeData
