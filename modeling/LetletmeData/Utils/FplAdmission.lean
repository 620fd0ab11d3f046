import Mathlib.Data.Rat.Floor
import LetletmeData.Library.KeyedTables
import LetletmeData.Library.Runs
import LetletmeData.Library.TokenBuckets

/-!
# The shared admission of FPL requests

Requests are admitted by scripts that run atomically in Redis. One hash holds the counters, the
limit of bulk requests and the token bucket, a sorted set the times at which leases expire, a
second hash the priority of every lease, and each lease has a key of its own that expires with
it. Times are milliseconds. Fields that are missing are read with the defaults of the scripts;
counters that are missing count from zero.
-/

namespace LetletmeData

open LetletmeData.Library

/-- `FplRequestPriority`. -/
inductive FplRequestPriority where
  | live
  | bulk
  deriving DecidableEq

/-- The constants every client passes to the scripts. -/
structure FplAdmissionConfig where
  maxInflight : ℤ
  bulkMaxInflight : ℤ
  requestsPerSecond : ℚ
  leaseMs : ℤ

/-- `MAX_INFLIGHT`, `BULK_MAX_INFLIGHT`, `REQUESTS_PER_SECOND` and `LEASE_MS` from the
environment; the counts and the lease time are whole numbers. -/
def fplAdmissionConfig (maxInflight : Option ℤ) (requestsPerSecond : Option ℚ)
    (leaseMs : Option ℤ) : FplAdmissionConfig :=
  let max' := min 5 (max 1 (maxInflight.getD 5))
  { maxInflight := max'
    bulkMaxInflight := max 1 (min (max' - min 2 max') 3)
    requestsPerSecond := min 4 (max 1 (requestsPerSecond.getD 4))
    leaseMs := max 5000 (leaseMs.getD 45000) }

/-- The keys of the admission in Redis, and a record of the leases that were subtracted from the
counters. The tokens of the bucket and the time of its last refill are written together. -/
structure FplAdmissionState where
  inflight : ℤ
  live : ℤ
  bulk : ℤ
  bulkLimit : Option ℤ
  lastBulkErrorMs : ℤ
  bucket : Option (TokenBucket ℚ)
  leases : KeyedTable String ℤ
  leaseKeys : KeyedTable String FplRequestPriority
  leaseMeta : KeyedTable String FplRequestPriority
  subtracted : List String

/-- No key exists. -/
def FplAdmissionState.initial : FplAdmissionState where
  inflight := 0
  live := 0
  bulk := 0
  bulkLimit := none
  lastBulkErrorMs := 0
  bucket := none
  leases := .empty
  leaseKeys := .empty
  leaseMeta := .empty
  subtracted := []

/-- What the acquire script returns: the token, or why and how long to wait. -/
inductive FplAcquireReply where
  | granted (token : String)
  | waitCapacity (ms : ℤ)
  | waitRate (ms : ℤ)
  deriving DecidableEq

namespace FplAdmissionState

/-- The share of a lease in a counter of its priority. -/
def share (counted priority : FplRequestPriority) : ℤ := if priority = counted then 1 else 0

/-- A lease that has metadata is subtracted from the counters; its key and its metadata go. -/
def subtractLease (state : FplAdmissionState) (token : String) : FplAdmissionState :=
  let removed :=
    { state with
      leaseKeys := state.leaseKeys.deleteWhere fun key _ => key = token
      leaseMeta := state.leaseMeta.deleteWhere fun key _ => key = token }
  match state.leaseMeta.find token with
  | some priority =>
    { removed with
      live := state.live - share .live priority
      bulk := state.bulk - share .bulk priority
      inflight := state.inflight - 1
      subtracted := token :: state.subtracted }
  | none => removed

/-- The tokens `ZRANGEBYSCORE` returns: those whose lease is over. -/
def expiredLeases (state : FplAdmissionState) (now : ℤ) : List String :=
  (state.leases.selectWhere fun _ score => score ≤ now).map Prod.fst

/-- The leases that are over are subtracted and removed. -/
def reapLeases (state : FplAdmissionState) (now : ℤ) : FplAdmissionState :=
  let reaped := (state.expiredLeases now).foldl subtractLease state
  { reaped with leases := reaped.leases.deleteWhere fun _ score => score ≤ now }

/-- The bulk limit an acquire works with: within the configured one, and one higher when the last
error is five minutes past. -/
def recoverBulkLimit (config : FplAdmissionConfig) (now : ℤ) (state : FplAdmissionState) :
    FplAdmissionState × ℤ :=
  let limit := state.bulkLimit.getD config.bulkMaxInflight
  let (state, limit) :=
    if config.bulkMaxInflight < limit then
      ({ state with bulkLimit := some config.bulkMaxInflight }, config.bulkMaxInflight)
    else (state, limit)
  if limit < config.bulkMaxInflight ∧ 0 < state.lastBulkErrorMs ∧
      300000 ≤ now - state.lastBulkErrorMs then
    let raised := min config.bulkMaxInflight (limit + 1)
    ({ state with
        bulkLimit := some raised
        lastBulkErrorMs := if raised < config.bulkMaxInflight then now else 0 }, raised)
  else (state, limit)

/-- The bucket after the refill of an acquire. -/
def refilledBucket (config : FplAdmissionConfig) (now : ℤ) (state : FplAdmissionState) :
    TokenBucket ℚ :=
  (state.bucket.getD ⟨config.requestsPerSecond, now⟩).refill config.requestsPerSecond
    (config.requestsPerSecond / 1000) now

/-- The writes of a grant. -/
def grantLease (config : FplAdmissionConfig) (priority : FplRequestPriority) (token : String)
    (now bulkLimit : ℤ) (bucket : TokenBucket ℚ) (state : FplAdmissionState) :
    FplAdmissionState :=
  { state with
    inflight := state.inflight + 1
    live := state.live + share .live priority
    bulk := state.bulk + share .bulk priority
    bulkLimit := some bulkLimit
    bucket := some bucket.take
    leases := state.leases.upsert token (now + config.leaseMs)
    leaseKeys := state.leaseKeys.upsert token priority
    leaseMeta := state.leaseMeta.upsert token priority }

/-- `ACQUIRE_SCRIPT`. -/
def acquireScript (config : FplAdmissionConfig) (priority : FplRequestPriority) (token : String)
    (now : ℤ) (state : FplAdmissionState) : FplAdmissionState × FplAcquireReply :=
  let reaped := state.reapLeases now
  let (state, bulkLimit) := reaped.recoverBulkLimit config now
  if priority = .bulk ∧ bulkLimit ≤ state.bulk then (state, .waitCapacity 100)
  else if config.maxInflight ≤ state.inflight then (state, .waitCapacity 100)
  else
    let bucket := state.refilledBucket config now
    if bucket.tokens < 1 then
      ({ state with bucket := some bucket, bulkLimit := some bulkLimit },
        .waitRate ⌈(1 - bucket.tokens) * 1000 / config.requestsPerSecond⌉)
    else (state.grantLease config priority token now bulkLimit bucket, .granted token)

/-- `RELEASE_SCRIPT`. -/
def releaseScript (token : String) (state : FplAdmissionState) : FplAdmissionState × ℤ :=
  match state.leaseMeta.find token with
  | none => (state, 0)
  | some _ =>
    let subtracted := state.subtractLease token
    ({ subtracted with leases := subtracted.leases.deleteWhere fun key _ => key = token }, 1)

/-- `REPORT_SCRIPT`, with the status of a response or 0. -/
def reportScript (config : FplAdmissionConfig) (status now : ℤ) (state : FplAdmissionState) :
    FplAdmissionState × ℤ :=
  let limit := state.bulkLimit.getD config.bulkMaxInflight
  if status = 429 ∨ 500 ≤ status then
    let lowered := max 1 (limit - 1)
    ({ state with bulkLimit := some lowered, lastBulkErrorMs := now }, lowered)
  else if limit < config.bulkMaxInflight ∧ 0 < state.lastBulkErrorMs ∧
      300000 ≤ now - state.lastBulkErrorMs then
    let raised := min config.bulkMaxInflight (limit + 1)
    ({ state with
        bulkLimit := some raised
        lastBulkErrorMs := if raised < config.bulkMaxInflight then now else 0 }, raised)
  else (state, limit)

end FplAdmissionState

/-- A grant: the token and the time. -/
structure FplGrant where
  token : String
  time : ℤ
  deriving DecidableEq

/-- The keys, the time of the Redis clock and the grants so far, the latest first. -/
structure FplAdmissionWorld where
  state : FplAdmissionState
  clock : ℤ
  grants : List FplGrant

/-- No key exists when the clock shows the given time. -/
def FplAdmissionWorld.initial (clock : ℤ) : FplAdmissionWorld := ⟨.initial, clock, []⟩

/-- The tokens that were granted. -/
def FplAdmissionWorld.tokens (world : FplAdmissionWorld) : List String :=
  world.grants.map (·.token)

/-- Some milliseconds later a script runs, or the key of a lease expires. -/
inductive FplAdmissionAction where
  | acquire (waited : ℕ) (priority : FplRequestPriority) (token : String)
  | release (waited : ℕ) (token : String)
  | report (waited : ℕ) (status : ℤ)
  | expireKey (token : String)

/-- One step. Tokens are random, and a client that was granted its token does not ask with it
again; it may release it any number of times. -/
def fplAdmissionStep (config : FplAdmissionConfig) (world : FplAdmissionWorld) :
    FplAdmissionAction → FplAdmissionWorld
  | .acquire waited priority token =>
    if token ∈ world.tokens then world
    else
      let now := world.clock + waited
      match world.state.acquireScript config priority token now with
      | (state, .granted _) => ⟨state, now, ⟨token, now⟩ :: world.grants⟩
      | (state, _) => ⟨state, now, world.grants⟩
  | .release waited token =>
    { world with state := (world.state.releaseScript token).1, clock := world.clock + waited }
  | .report waited status =>
    let now := world.clock + waited
    { world with state := (world.state.reportScript config status now).1, clock := now }
  | .expireKey token =>
    { world with
      state :=
        { world.state with
          leaseKeys := world.state.leaseKeys.deleteWhere fun key _ => key = token } }

end LetletmeData
