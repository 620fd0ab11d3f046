import LetletmeData.Utils.FplAdmissionLeases

/-!
# The rate of the FPL admission

The bucket of the hash starts full at the first acquire and is refilled by every acquire that gets
past the limits. Since every grant takes one token, the grants between two times are bounded.
Together with the account of the leases this is what the admission guarantees in every state.
-/

namespace LetletmeData

open LetletmeData.Library FplAdmissionState

variable {config : FplAdmissionConfig} {world : FplAdmissionWorld}

/-- The times of the grants. -/
def FplAdmissionWorld.times (world : FplAdmissionWorld) : List ℚ :=
  world.grants.map fun grant => (grant.time : ℚ)

/-- A bucket that has been paid for and is neither overdrawn nor overfull. -/
structure FplAdmissionConfig.Sound (config : FplAdmissionConfig) (bucket : TokenBucket ℚ)
    (times : List ℚ) : Prop where
  paid : bucket.Paid config.requestsPerSecond (config.requestsPerSecond / 1000) times
  tokens_nonneg : 0 ≤ bucket.tokens
  tokens_le : bucket.tokens ≤ config.requestsPerSecond

/-- The bucket is sound and not ahead of the clock, and the grants keep the rate. -/
structure FplAdmissionWorld.Metered (config : FplAdmissionConfig) (world : FplAdmissionWorld) :
    Prop where
  unused : world.state.bucket = none → world.times = []
  sound : ∀ bucket ∈ world.state.bucket, config.Sound bucket world.times
  refilledAt_le : ∀ bucket ∈ world.state.bucket, bucket.refilledAt ≤ world.clock
  bounded : TokenBucket.Bounded config.requestsPerSecond (config.requestsPerSecond / 1000)
    world.times
  times_le : ∀ time ∈ world.times, time ≤ world.clock

/-- Reaping leaves the bucket. -/
@[simp] theorem bucket_reapLeases (state : FplAdmissionState) (now : ℤ) :
    (state.reapLeases now).bucket = state.bucket := by
  obtain ⟨reaped, hsubtracted, hstate, _⟩ := subtracted_reapLeases state now
  rw [hstate]
  exact hsubtracted.bucket

/-- A release leaves the bucket. -/
@[simp] theorem bucket_releaseScript (state : FplAdmissionState) (token : String) :
    (state.releaseScript token).1.bucket = state.bucket := by
  unfold FplAdmissionState.releaseScript
  split
  next => rfl
  next => exact (subtracted_subtractLease state token).bucket

/-- A report leaves the bucket. -/
@[simp] theorem bucket_reportScript (config : FplAdmissionConfig) (status now : ℤ)
    (state : FplAdmissionState) : (state.reportScript config status now).1.bucket = state.bucket := by
  unfold FplAdmissionState.reportScript
  dsimp only
  split
  next => rfl
  next => split <;> rfl

/-- A step that leaves the bucket and the grants keeps the meter, whatever the clock shows. -/
theorem FplAdmissionWorld.Metered.wait (h : world.Metered config) {next : FplAdmissionWorld}
    (hbucket : next.state.bucket = world.state.bucket) (hgrants : next.grants = world.grants)
    (hclock : world.clock ≤ next.clock) : next.Metered config := by
  have htimes : next.times = world.times := congrArg (List.map _) hgrants
  have hcast : (world.clock : ℚ) ≤ next.clock := Int.cast_le.mpr hclock
  refine ⟨?_, ?_, ?_, ?_, ?_⟩
  · rw [hbucket, htimes]
    exact h.unused
  · rw [hbucket, htimes]
    exact h.sound
  · rw [hbucket]
    exact fun bucket hmem => (h.refilledAt_le bucket hmem).trans hcast
  · rw [htimes]
    exact h.bounded
  · rw [htimes]
    exact fun time hmem => (h.times_le time hmem).trans hcast

/-- The bucket of an acquire is sound, whether it is new or was there before. -/
theorem FplAdmissionWorld.Metered.refilledBucket (h : world.Metered config)
    (hrate : 0 ≤ config.requestsPerSecond) {now : ℤ} (hnow : world.clock ≤ now)
    (state : FplAdmissionState) (hbucket : state.bucket = world.state.bucket) :
    config.Sound (state.refilledBucket config now) world.times := by
  have hslow : 0 ≤ config.requestsPerSecond / 1000 := div_nonneg hrate (by norm_num)
  unfold FplAdmissionState.refilledBucket
  rw [hbucket]
  cases hstored : world.state.bucket with
  | none =>
    rw [h.unused hstored]
    exact ⟨TokenBucket.paid_nil, TokenBucket.tokens_refill_nonneg hrate hslow hrate _,
      TokenBucket.tokens_refill_le _ _⟩
  | some bucket =>
    have hsound := h.sound bucket hstored
    have hlater : bucket.refilledAt ≤ now :=
      (h.refilledAt_le bucket hstored).trans (Int.cast_le.mpr hnow)
    exact ⟨hsound.paid.refill hlater,
      TokenBucket.tokens_refill_nonneg hrate hslow hsound.tokens_nonneg _,
      TokenBucket.tokens_refill_le _ _⟩

/-- Waiting for the bucket keeps the meter: the refill is stored. -/
theorem FplAdmissionWorld.Metered.refill (h : world.Metered config) {bucket : TokenBucket ℚ}
    {now : ℤ} (hsound : config.Sound bucket world.times) (hnow : world.clock ≤ now)
    (hrefilled : bucket.refilledAt = now) {state : FplAdmissionState}
    (hstate : state.bucket = some bucket) :
    (⟨state, now, world.grants⟩ : FplAdmissionWorld).Metered config where
  unused := fun hnone => absurd (hstate.symm.trans hnone) (Option.some_ne_none _)
  sound := fun _ hstored => Option.some.inj (hstate.symm.trans hstored) ▸ hsound
  refilledAt_le := fun _ hstored => Option.some.inj (hstate.symm.trans hstored) ▸ hrefilled.le
  bounded := h.bounded
  times_le := fun time hmem => (h.times_le time hmem).trans (Int.cast_le.mpr hnow)

/-- A grant for a token of the bucket keeps the meter. -/
theorem FplAdmissionWorld.Metered.grant (h : world.Metered config)
    (hrate : 0 ≤ config.requestsPerSecond) {bucket : TokenBucket ℚ} {now : ℤ}
    (hsound : config.Sound bucket world.times) (hnow : world.clock ≤ now)
    (hrefilled : bucket.refilledAt = now) (htokens : 1 ≤ bucket.tokens)
    {state : FplAdmissionState} (hstate : state.bucket = some bucket.take) (token : String) :
    (⟨state, now, ⟨token, now⟩ :: world.grants⟩ : FplAdmissionWorld).Metered config := by
  have hslow : 0 ≤ config.requestsPerSecond / 1000 := div_nonneg hrate (by norm_num)
  have hbefore : ∀ time ∈ world.times, time ≤ (now : ℚ) :=
    fun time hmem => (h.times_le time hmem).trans (Int.cast_le.mpr hnow)
  have hleft : 0 ≤ bucket.take.tokens := sub_nonneg.mpr htokens
  have hpaid : bucket.take.Paid config.requestsPerSecond (config.requestsPerSecond / 1000)
      (bucket.refilledAt :: world.times) := hsound.paid.take hslow hsound.tokens_le
  have hbounded := h.bounded.take hrate hslow hpaid hleft (by rwa [hrefilled])
  rw [hrefilled] at hpaid hbounded
  refine ⟨fun hnone => ?_, fun stored hstored => ?_, fun stored hstored => ?_, hbounded, ?_⟩
  · exact absurd (hstate.symm.trans hnone) (Option.some_ne_none _)
  · rw [← Option.some.inj (hstate.symm.trans hstored)]
    exact ⟨hpaid, hleft, (sub_le_self _ zero_le_one).trans hsound.tokens_le⟩
  · rw [← Option.some.inj (hstate.symm.trans hstored)]
    exact hrefilled.le
  · intro time hmem
    cases List.mem_cons.mp hmem with
    | inl hself => exact hself.le
    | inr hold => exact hbefore time hold

/-- Every step keeps the meter. -/
theorem metered_fplAdmissionStep (hrate : 0 ≤ config.requestsPerSecond) (h : world.Metered config)
    (action : FplAdmissionAction) : (fplAdmissionStep config world action).Metered config := by
  cases action with
  | release waited token => exact h.wait (bucket_releaseScript _ _) rfl (by simp [fplAdmissionStep])
  | report waited status =>
    exact h.wait (bucket_reportScript _ _ _ _) rfl (by simp [fplAdmissionStep])
  | expireKey token => exact h.wait rfl rfl le_rfl
  | acquire waited priority token =>
    have hnow : world.clock ≤ world.clock + waited := by omega
    simp only [fplAdmissionStep]
    split
    next => exact h
    obtain ⟨limit, lastError, bulkLimit, _, hcases⟩ := acquireScript_cases config priority token
      (world.clock + waited) world.state
    dsimp only at hcases
    have hsound := h.refilledBucket hrate hnow
      { world.state.reapLeases (world.clock + waited) with
        bulkLimit := limit, lastBulkErrorMs := lastError } (bucket_reapLeases _ _)
    rcases hcases with ⟨ms, hscript⟩ | ⟨_, ms, hscript⟩ | ⟨htoken, _, _, hscript⟩
    · rw [hscript]
      exact h.wait (bucket_reapLeases _ _) rfl hnow
    · rw [hscript]
      exact h.refill hsound hnow rfl rfl
    · rw [hscript]
      exact h.grant hrate hsound hnow rfl htoken rfl token

/-! ### What the admission guarantees -/

/-- In-flight requests are the leases, live and bulk together, within both limits; the bucket is
within its capacity; a granted token is a lease or was subtracted once, and nothing else was
subtracted; and within every time the grants are those that capacity and rate allow. -/
structure FplAdmissionWorld.NeverOverAdmits (config : FplAdmissionConfig)
    (world : FplAdmissionWorld) : Prop where
  inflight_leases : world.state.inflight = world.state.leases.entries.length
  inflight_meta : world.state.inflight = world.state.leaseMeta.entries.length
  inflight_counters : world.state.inflight = world.state.live + world.state.bulk
  inflight_le : world.state.inflight ≤ config.maxInflight
  bulk_le : world.state.bulk ≤ config.bulkMaxInflight
  tokens_bounds : ∀ bucket ∈ world.state.bucket,
    0 ≤ bucket.tokens ∧ bucket.tokens ≤ config.requestsPerSecond
  subtracted_once : ∀ token, world.state.subtracted.count token =
    if token ∈ world.tokens ∧ world.state.leases.find token = none then 1 else 0
  grants_le : ∀ (start : ℤ) (d : ℕ),
    (world.grants.countP (fun grant => start ≤ grant.time ∧ grant.time ≤ start + d) : ℚ) ≤
      config.requestsPerSecond + config.requestsPerSecond * d / 1000

/-- Leases and metadata are equally many. -/
theorem length_leases {state : FplAdmissionState} (h : state.Matched) :
    state.leases.entries.length = state.leaseMeta.entries.length := by
  have hperm : (state.leases.entries.map Prod.fst).Perm (state.leaseMeta.entries.map Prod.fst) := by
    refine (List.perm_ext_iff_of_nodup state.leases.distinct state.leaseMeta.distinct).mpr ?_
    intro token
    rw [← not_iff_not, ← KeyedTable.find_eq_none_iff, ← KeyedTable.find_eq_none_iff]
    exact h token
  simpa using hperm.length_eq

/-- Every lease is live or bulk. -/
theorem length_leaseMeta (state : FplAdmissionState) :
    state.leaseMeta.entries.length = state.leasesOf .live + state.leasesOf .bulk := by
  unfold leasesOf
  rw [List.length_eq_countP_add_countP (fun entry => decide (entry.2 = FplRequestPriority.live))]
  congr 1
  refine List.countP_congr fun entry _ => ?_
  cases entry.2 <;> simp

/-- A granted token that is no lease any more was subtracted, once; no other was. -/
theorem count_subtracted {state : FplAdmissionState} {tokens : List String}
    (h : state.Accounted config tokens) (token : String) :
    state.subtracted.count token =
      if token ∈ tokens ∧ state.leases.find token = none then 1 else 0 := by
  have hnodup : (state.subtracted ++ state.metaTokens).Nodup := h.record.nodup_iff.mp h.distinct
  obtain ⟨hsubtracted, _, hdisjoint⟩ := List.nodup_append'.mp hnodup
  have hlease : state.leases.find token = none ↔ token ∉ state.metaTokens :=
    (h.matched token).trans KeyedTable.find_eq_none_iff
  have hmem : token ∈ state.subtracted ↔ token ∈ tokens ∧ state.leases.find token = none := by
    rw [h.record.mem_iff, List.mem_append, hlease]
    constructor
    · intro hsub
      exact ⟨Or.inl hsub, fun hmeta => hdisjoint hsub hmeta⟩
    · intro hboth
      exact hboth.1.resolve_right hboth.2
  rw [List.Nodup.count hsubtracted]
  exact if_congr hmem rfl rfl

/-- The grants within any time are bounded by the capacity and the rate. -/
theorem FplAdmissionWorld.Metered.grants_le (h : world.Metered config) (start : ℤ) (d : ℕ) :
    (world.grants.countP (fun grant => start ≤ grant.time ∧ grant.time ≤ start + d) : ℚ) ≤
      config.requestsPerSecond + config.requestsPerSecond * d / 1000 := by
  have hbound := h.bounded start (start + d) (le_add_of_nonneg_right (Nat.cast_nonneg d))
  have hcount : world.times.countP (fun time => (start : ℚ) ≤ time ∧ time ≤ start + d) =
      world.grants.countP (fun grant => start ≤ grant.time ∧ grant.time ≤ start + d) := by
    rw [FplAdmissionWorld.times, List.countP_map]
    refine List.countP_congr fun grant _ => ?_
    simp only [Function.comp_apply, decide_eq_true_eq]
    norm_cast
  rw [hcount] at hbound
  calc (world.grants.countP (fun grant => start ≤ grant.time ∧ grant.time ≤ start + d) : ℚ)
      ≤ config.requestsPerSecond + config.requestsPerSecond / 1000 * (start + d - start) := hbound
    _ = config.requestsPerSecond + config.requestsPerSecond * d / 1000 := by ring

/-- An accounted and metered world does not over-admit. -/
theorem neverOverAdmits_of_accounted (haccounted : world.state.Accounted config world.tokens)
    (hmetered : world.Metered config) : world.NeverOverAdmits config := by
  have hcounted := haccounted.counted
  refine
    { inflight_leases := ?_
      inflight_meta := hcounted.inflight
      inflight_counters := ?_
      inflight_le := haccounted.inflight_le
      bulk_le := haccounted.bulk_le
      tokens_bounds := fun bucket hbucket =>
        ⟨(hmetered.sound bucket hbucket).tokens_nonneg, (hmetered.sound bucket hbucket).tokens_le⟩
      subtracted_once := count_subtracted haccounted
      grants_le := hmetered.grants_le }
  · rw [length_leases haccounted.matched]
    exact hcounted.inflight
  · rw [hcounted.inflight, hcounted.live, hcounted.bulk, length_leaseMeta]
    push_cast
    rfl

/-- Nothing is granted yet and nothing is counted. -/
theorem accounted_initial (hinflight : 0 ≤ config.maxInflight)
    (hbulk : 0 ≤ config.bulkMaxInflight) :
    FplAdmissionState.initial.Accounted config [] where
  counted := ⟨rfl, rfl, rfl⟩
  matched := fun _ => iff_of_true rfl rfl
  record := .refl _
  distinct := List.nodup_nil
  inflight_le := hinflight
  bulk_le := hbulk

/-- Nothing was taken from the bucket yet. -/
theorem metered_initial (hrate : 0 ≤ config.requestsPerSecond) (clock : ℤ) :
    (FplAdmissionWorld.initial clock).Metered config where
  unused := fun _ => rfl
  sound := fun _ hnone => absurd hnone (Option.not_mem_none _)
  refilledAt_le := fun _ hnone => absurd hnone (Option.not_mem_none _)
  bounded := TokenBucket.bounded_nil hrate (div_nonneg hrate (by norm_num))
  times_le := fun _ hmem => absurd hmem List.not_mem_nil

/-- Whatever the environment, the clients and the order of their scripts, the admission never
over-admits. -/
theorem fplAdmission_neverOverAdmits (maxInflight : Option ℤ) (requestsPerSecond : Option ℚ)
    (leaseMs : Option ℤ) (clock : ℤ) (actions : List FplAdmissionAction) :
    (runSteps (fplAdmissionStep (fplAdmissionConfig maxInflight requestsPerSecond leaseMs))
      (.initial clock) actions).NeverOverAdmits
        (fplAdmissionConfig maxInflight requestsPerSecond leaseMs) := by
  generalize hconfig : fplAdmissionConfig maxInflight requestsPerSecond leaseMs = config
  have hinflight : 0 ≤ config.maxInflight := by
    rw [← hconfig]
    exact le_min (by decide) (le_max_of_le_left (by decide))
  have hbulk : 0 ≤ config.bulkMaxInflight := by
    rw [← hconfig]
    exact le_max_of_le_left (by decide)
  have hrate : 0 ≤ config.requestsPerSecond := by
    rw [← hconfig]
    exact le_min (by norm_num) (le_max_of_le_left (by norm_num))
  have hstep : ∀ (world : FplAdmissionWorld) action,
      world.state.Accounted config world.tokens ∧ world.Metered config →
      (fplAdmissionStep config world action).state.Accounted config
          (fplAdmissionStep config world action).tokens ∧
        (fplAdmissionStep config world action).Metered config :=
    fun _ action h =>
      ⟨accounted_fplAdmissionStep h.1 action, metered_fplAdmissionStep hrate h.2 action⟩
  have hrun := runSteps_invariant hstep (.initial clock) actions
    ⟨accounted_initial hinflight hbulk, metered_initial hrate clock⟩
  exact neverOverAdmits_of_accounted hrun.1 hrun.2

end LetletmeData
