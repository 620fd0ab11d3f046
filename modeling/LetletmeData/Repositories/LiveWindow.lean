import LetletmeData.Library.StampedWrites

/-!
# Checkpoints of live manager scores

The rows of `fpl.manager_event_score_snapshots`, one for each season, event, scope and entry. A
batch is one statement: a row that was checked later than the new one is left, and a batch that
names an entry twice throws.
-/

namespace LetletmeData

open LetletmeData.Library

/-- Where a score counts: of the entry itself, or in a classic league. -/
inductive ManagerScoreScope where
  | entry
  | classicLeague (scopeId : ℕ)
  deriving DecidableEq

/-- What a set of scores is kept under. -/
structure ManagerScoreTarget where
  season : String
  eventId : ℕ
  scope : ManagerScoreScope
  deriving DecidableEq

/-- The key of a score: the hash of its target in Redis, the unique columns in PostgreSQL. -/
structure ManagerScoreKey where
  target : ManagerScoreTarget
  entryId : ℕ
  deriving DecidableEq

/-- `ManagerLiveSource`. -/
inductive ManagerLiveSource where
  | fplEntrySummary
  | fplClassicStandings
  | fplFinalResult
  deriving DecidableEq

/-- `ManagerLiveTotalScope`. -/
inductive ManagerLiveTotalScope where
  | overall
  | classicPhase
  deriving DecidableEq

/-- What the points of an event mean. -/
inductive EventPointSemantics where
  | gross
  | net
  | zeroCostEquivalent
  | unknown
  deriving DecidableEq

/-- The content of a score, which its revision is a digest of; times are in milliseconds. -/
structure ManagerLiveScore where
  eventId : ℕ
  entryId : ℕ
  eventPoints : Option ℤ
  netEventPoints : Option ℤ
  totalPoints : Option ℤ
  totalScope : ManagerLiveTotalScope
  eventRank : Option ℤ
  overallRank : Option ℤ
  leagueRank : Option ℤ
  source : ManagerLiveSource
  transferCost : Option ℤ
  eventPointSemantics : EventPointSemantics
  upstreamUpdatedAt : Option ℤ
  deriving DecidableEq

/-- `ManagerScoreCheckpoint`. -/
structure ManagerScoreCheckpoint where
  score : ManagerLiveScore
  contentRevision : String
  checkedAt : ℤ
  deriving DecidableEq

/-- The table of the checkpoints. -/
abbrev ManagerScoreCheckpoints := KeyedTable ManagerScoreKey ManagerScoreCheckpoint

/-- The rows of a batch under their keys. -/
def checkpointWrites (target : ManagerScoreTarget) (rows : List ManagerScoreCheckpoint) :
    List (ManagerScoreKey × ManagerScoreCheckpoint) :=
  rows.map fun row => (⟨target, row.score.entryId⟩, row)

/-- The writes of `upsertBatch` that take effect: none when a row would be affected twice. -/
def ManagerScoreTarget.upsertBatch (target : ManagerScoreTarget)
    (rows : List ManagerScoreCheckpoint) :
    List (ManagerScoreKey × ManagerScoreCheckpoint) :=
  if ((checkpointWrites target rows).map Prod.fst).Nodup then checkpointWrites target rows else []

/-- The table after writes: `setWhere` leaves rows that were checked later. -/
def ManagerScoreCheckpoints.write (table : ManagerScoreCheckpoints)
    (writes : List (ManagerScoreKey × ManagerScoreCheckpoint)) : ManagerScoreCheckpoints :=
  upsertAllNewer ManagerScoreCheckpoint.checkedAt table writes

end LetletmeData
