import LetletmeData.Utils.FplAdmission

/-!
# The leases of the FPL admission

Every lease has metadata, and the counters count the metadata. What was granted is either still a
lease or was subtracted, once. Both hold through every script, so the limits that are checked
when a lease is granted hold of the counters in every state.
-/

namespace LetletmeData

open LetletmeData.Library

namespace FplAdmissionState

variable {config : FplAdmissionConfig} {state : FplAdmissionState}

/-- The tokens that have metadata. -/
def metaTokens (state : FplAdmissionState) : List String :=
  state.leaseMeta.entries.map Prod.fst

/-- The number of leases of a priority. -/
def leasesOf (state : FplAdmissionState) (priority : FplRequestPriority) : ℕ :=
  state.leaseMeta.entries.countP fun entry => entry.2 = priority

/-- The counters count the metadata, and the metadata belongs to the leases. -/
structure Counted (state : FplAdmissionState) : Prop where
  inflight : state.inflight = state.leaseMeta.entries.length
  live : state.live = state.leasesOf .live
  bulk : state.bulk = state.leasesOf .bulk

/-- Leases were subtracted: nothing else has changed, and they are on record. -/
structure Subtracted (before after : FplAdmissionState) : Prop where
  counted : before.Counted → after.Counted
  inflight_le : after.inflight ≤ before.inflight
  bulk_le : after.bulk ≤ before.bulk
  record : (after.subtracted ++ after.metaTokens).Perm (before.subtracted ++ before.metaTokens)
  leases : after.leases = before.leases
  bulkLimit : after.bulkLimit = before.bulkLimit
  bucket : after.bucket = before.bucket

/-- Subtracting nothing. -/
theorem Subtracted.refl (state : FplAdmissionState) : Subtracted state state where
  counted := id
  inflight_le := le_rfl
  bulk_le := le_rfl
  record := .refl _
  leases := rfl
  bulkLimit := rfl
  bucket := rfl

/-- Subtracting some leases and then others. -/
theorem Subtracted.trans {before middle after : FplAdmissionState}
    (first : Subtracted before middle) (second : Subtracted middle after) :
    Subtracted before after where
  counted := second.counted ∘ first.counted
  inflight_le := second.inflight_le.trans first.inflight_le
  bulk_le := second.bulk_le.trans first.bulk_le
  record := second.record.trans first.record
  leases := second.leases.trans first.leases
  bulkLimit := second.bulkLimit.trans first.bulkLimit
  bucket := second.bucket.trans first.bucket

/-- The share of a lease is not negative. -/
theorem share_nonneg (counted priority : FplRequestPriority) : 0 ≤ share counted priority := by
  unfold share
  split <;> decide

/-- One lease more of a priority. -/
theorem countP_cons_share (entries : List (String × FplRequestPriority)) (token : String)
    (counted priority : FplRequestPriority) :
    ((((token, priority) :: entries).countP fun entry => entry.2 = counted : ℕ) : ℤ) =
      (entries.countP fun entry => entry.2 = counted : ℕ) + share counted priority := by
  rw [List.countP_cons]
  unfold share
  by_cases hpriority : priority = counted <;> simp [hpriority]

/-- Subtracting one lease. -/
theorem subtracted_subtractLease (state : FplAdmissionState) (token : String) :
    Subtracted state (state.subtractLease token) := by
  cases hfind : state.leaseMeta.find token with
  | none =>
    have hmeta := KeyedTable.deleteWhere_key_of_find_none hfind
    have hsame : state.subtractLease token =
        { state with leaseKeys := state.leaseKeys.deleteWhere fun key _ => key = token } := by
      simp only [subtractLease, hfind, hmeta]
    rw [hsame]
    exact ⟨fun h => ⟨h.inflight, h.live, h.bulk⟩, le_rfl, le_rfl, .refl _, rfl, rfl, rfl⟩
  | some priority =>
    have hperm := KeyedTable.perm_deleteWhere_key hfind
    simp only [subtractLease, hfind]
    refine ⟨fun hcounted => ?_, ?_, ?_, ?_, rfl, rfl, rfl⟩
    · have hshare : ∀ counted, (state.leasesOf counted : ℤ) =
          ((state.leaseMeta.deleteWhere fun key _ => key = token).entries.countP
            fun entry => entry.2 = counted : ℕ) + share counted priority := by
        intro counted
        rw [leasesOf, hperm.countP_eq, countP_cons_share]
      refine ⟨?_, ?_, ?_⟩
      · have hlength := hperm.length_eq
        rw [List.length_cons] at hlength
        change state.inflight - 1 = _
        rw [hcounted.inflight, hlength]
        push_cast
        exact add_sub_cancel_right _ _
      · change state.live - share .live priority = _
        rw [hcounted.live, hshare]
        exact add_sub_cancel_right _ _
      · change state.bulk - share .bulk priority = _
        rw [hcounted.bulk, hshare]
        exact add_sub_cancel_right _ _
    · exact sub_le_self _ Int.one_nonneg
    · exact sub_le_self _ (share_nonneg _ _)
    · have htokens := hperm.map Prod.fst
      exact (List.perm_middle.symm.trans (htokens.symm.append_left _))

/-- Subtracting one lease removes its metadata. -/
theorem find_leaseMeta_subtractLease (state : FplAdmissionState) (token other : String) :
    (state.subtractLease token).leaseMeta.find other =
      if other = token then none else state.leaseMeta.find other := by
  have hmeta : (state.subtractLease token).leaseMeta =
      state.leaseMeta.deleteWhere fun key _ => key = token := by
    unfold subtractLease
    dsimp only
    split <;> rfl
  rw [hmeta, KeyedTable.find_deleteWhere]
  by_cases hother : other = token
  · simp [hother]
  · cases hfind : state.leaseMeta.find other <;> simp [hother]

/-- Subtracting one lease after another. -/
theorem subtracted_foldl (tokens : List String) (state : FplAdmissionState) :
    Subtracted state (tokens.foldl subtractLease state) := by
  induction tokens generalizing state with
  | nil => exact Subtracted.refl state
  | cons token rest ih => exact (subtracted_subtractLease state token).trans (ih _)

/-- What is left of the metadata after subtracting one lease after another. -/
theorem find_leaseMeta_foldl (tokens : List String) (state : FplAdmissionState) (other : String) :
    (tokens.foldl subtractLease state).leaseMeta.find other =
      if other ∈ tokens then none else state.leaseMeta.find other := by
  induction tokens generalizing state with
  | nil => rfl
  | cons token rest ih =>
    rw [List.foldl_cons, ih, find_leaseMeta_subtractLease]
    by_cases hrest : other ∈ rest
    · simp [hrest]
    · by_cases hother : other = token
      · simp [hother]
      · simp [hrest, hother]

/-- Leases and metadata are under the same tokens. -/
def Matched (state : FplAdmissionState) : Prop :=
  ∀ token, state.leases.find token = none ↔ state.leaseMeta.find token = none

/-- The leases that are over are those with a score of at most now. -/
theorem mem_expiredLeases {now : ℤ} {token : String} :
    token ∈ state.expiredLeases now ↔ ∃ score, state.leases.find token = some score ∧
      score ≤ now := by
  unfold expiredLeases
  rw [List.mem_map]
  constructor
  · intro h
    obtain ⟨entry, hentry, htoken⟩ := h
    have hselected := KeyedTable.mem_selectWhere.mp hentry
    exact ⟨entry.2, htoken ▸ hselected.1, hselected.2⟩
  · intro h
    obtain ⟨score, hfind, hover⟩ := h
    exact ⟨(token, score), KeyedTable.mem_selectWhere.mpr ⟨hfind, hover⟩, rfl⟩

/-- Reaping subtracts the leases that are over. -/
theorem subtracted_reapLeases (state : FplAdmissionState) (now : ℤ) :
    ∃ reaped, Subtracted state reaped ∧
      state.reapLeases now =
        { reaped with leases := state.leases.deleteWhere fun _ score => score ≤ now } ∧
      ∀ token, reaped.leaseMeta.find token =
        if token ∈ state.expiredLeases now then none else state.leaseMeta.find token := by
  have hreaped := subtracted_foldl (state.expiredLeases now) state
  refine ⟨_, hreaped, ?_, find_leaseMeta_foldl _ state⟩
  simp only [reapLeases, hreaped.leases]

/-- Reaping removes a lease and its metadata together. -/
theorem Matched.reapLeases (h : state.Matched) (now : ℤ) : (state.reapLeases now).Matched := by
  obtain ⟨reaped, _, hstate, hmeta⟩ := subtracted_reapLeases state now
  intro token
  rw [hstate]
  change (state.leases.deleteWhere _).find token = none ↔ reaped.leaseMeta.find token = none
  rw [KeyedTable.find_deleteWhere, hmeta]
  by_cases hover : token ∈ state.expiredLeases now
  · obtain ⟨score, hfind, hle⟩ := mem_expiredLeases.mp hover
    simp [hover, hfind, hle]
  · rw [if_neg hover, ← h token]
    cases hfind : state.leases.find token with
    | none => simp
    | some score =>
      have hlater : ¬ score ≤ now := fun hle => hover (mem_expiredLeases.mpr ⟨score, hfind, hle⟩)
      simp [hlater]

/-- An acquire adjusts the bulk limit and the time of the last error only; the limit it works with
is within the configured one. -/
theorem recoverBulkLimit_spec (config : FplAdmissionConfig) (now : ℤ) (state : FplAdmissionState) :
    ∃ limit lastError, (state.recoverBulkLimit config now).1 =
        { state with bulkLimit := limit, lastBulkErrorMs := lastError } ∧
      (state.recoverBulkLimit config now).2 ≤ config.bulkMaxInflight := by
  unfold recoverBulkLimit
  by_cases habove : config.bulkMaxInflight < state.bulkLimit.getD config.bulkMaxInflight
  · simp only [if_pos habove, lt_irrefl, false_and, if_false]
    exact ⟨_, _, rfl, le_rfl⟩
  · simp only [if_neg habove]
    split
    next => exact ⟨_, _, rfl, min_le_left _ _⟩
    next => exact ⟨_, _, rfl, not_lt.mp habove⟩

/-- What an acquire does after reaping and adjusting the bulk limit: it waits for capacity, waits
for the bucket, or grants the lease below both limits and for one token. -/
theorem acquireScript_cases (config : FplAdmissionConfig) (priority : FplRequestPriority)
    (token : String) (now : ℤ) (state : FplAdmissionState) :
    ∃ limit lastError bulkLimit, bulkLimit ≤ config.bulkMaxInflight ∧
      let base : FplAdmissionState :=
        { state.reapLeases now with bulkLimit := limit, lastBulkErrorMs := lastError }
      (∃ ms, state.acquireScript config priority token now = (base, .waitCapacity ms)) ∨
      ((base.refilledBucket config now).tokens < 1 ∧ ∃ ms,
        state.acquireScript config priority token now =
          ({ base with bucket := some (base.refilledBucket config now), bulkLimit := some bulkLimit },
            .waitRate ms)) ∨
      (1 ≤ (base.refilledBucket config now).tokens ∧ base.inflight < config.maxInflight ∧
        (priority = .bulk → base.bulk < bulkLimit) ∧
        state.acquireScript config priority token now =
          (base.grantLease config priority token now bulkLimit (base.refilledBucket config now),
            .granted token)) := by
  obtain ⟨limit, lastError, hbase, hle⟩ :=
    recoverBulkLimit_spec config now (state.reapLeases now)
  refine ⟨limit, lastError, _, hle, ?_⟩
  intro base
  have hscript : (state.reapLeases now).recoverBulkLimit config now =
      (base, ((state.reapLeases now).recoverBulkLimit config now).2) := Prod.ext hbase rfl
  simp only [acquireScript]
  rw [hscript]
  dsimp only
  generalize ((state.reapLeases now).recoverBulkLimit config now).2 = bulkLimit
  by_cases hbulk : priority = .bulk ∧ bulkLimit ≤ base.bulk
  · left
    exact ⟨_, if_pos hbulk⟩
  · rw [if_neg hbulk]
    by_cases hfull : config.maxInflight ≤ base.inflight
    · left
      exact ⟨_, if_pos hfull⟩
    · rw [if_neg hfull]
      by_cases htokens : (base.refilledBucket config now).tokens < 1
      · right; left
        exact ⟨htokens, _, if_pos htokens⟩
      · right; right
        refine ⟨not_lt.mp htokens, not_le.mp hfull, fun hpriority => ?_, if_neg htokens⟩
        exact not_le.mp fun hle => hbulk ⟨hpriority, hle⟩

/-- The counters are those of the leases, within both limits, and every granted token is a lease
or was subtracted. -/
structure Accounted (config : FplAdmissionConfig) (tokens : List String)
    (state : FplAdmissionState) : Prop where
  counted : state.Counted
  matched : state.Matched
  record : tokens.Perm (state.subtracted ++ state.metaTokens)
  distinct : tokens.Nodup
  inflight_le : state.inflight ≤ config.maxInflight
  bulk_le : state.bulk ≤ config.bulkMaxInflight

variable {tokens : List String}

/-- The bulk limit, the bucket and the keys of the leases do not matter. -/
theorem Accounted.set (h : Accounted config tokens state) (limit : Option ℤ) (lastError : ℤ)
    (bucket : Option (TokenBucket ℚ)) (leaseKeys : KeyedTable String FplRequestPriority) :
    Accounted config tokens
      { state with
        bulkLimit := limit, lastBulkErrorMs := lastError, bucket := bucket
        leaseKeys := leaseKeys } where
  counted := ⟨h.counted.inflight, h.counted.live, h.counted.bulk⟩
  matched := h.matched
  record := h.record
  distinct := h.distinct
  inflight_le := h.inflight_le
  bulk_le := h.bulk_le

/-- Reaping keeps the account. -/
theorem Accounted.reapLeases (h : Accounted config tokens state) (now : ℤ) :
    Accounted config tokens (state.reapLeases now) := by
  have hmatched := h.matched.reapLeases now
  obtain ⟨reaped, hsubtracted, hstate, _⟩ := subtracted_reapLeases state now
  rw [hstate] at hmatched ⊢
  have hcounted := hsubtracted.counted h.counted
  exact
    { counted := ⟨hcounted.inflight, hcounted.live, hcounted.bulk⟩
      matched := hmatched
      record := h.record.trans hsubtracted.record.symm
      distinct := h.distinct
      inflight_le := hsubtracted.inflight_le.trans h.inflight_le
      bulk_le := hsubtracted.bulk_le.trans h.bulk_le }

/-- A release subtracts the lease, or does nothing when it has no metadata. -/
theorem Accounted.releaseScript (h : Accounted config tokens state) (token : String) :
    Accounted config tokens (state.releaseScript token).1 := by
  unfold FplAdmissionState.releaseScript
  cases hfind : state.leaseMeta.find token with
  | none => exact h
  | some priority =>
    have hsubtracted := subtracted_subtractLease state token
    have hcounted := hsubtracted.counted h.counted
    refine
      { counted := ⟨hcounted.inflight, hcounted.live, hcounted.bulk⟩
        matched := ?_
        record := h.record.trans hsubtracted.record.symm
        distinct := h.distinct
        inflight_le := hsubtracted.inflight_le.trans h.inflight_le
        bulk_le := hsubtracted.bulk_le.trans h.bulk_le }
    intro other
    change ((state.subtractLease token).leases.deleteWhere _).find other = none ↔
      (state.subtractLease token).leaseMeta.find other = none
    rw [KeyedTable.find_deleteWhere, find_leaseMeta_subtractLease, hsubtracted.leases]
    by_cases hother : other = token
    · simp [hother]
    · rw [if_neg hother, ← h.matched other]
      cases state.leases.find other <;> simp [hother]

/-- A token that was never granted has no lease. -/
theorem Accounted.fresh (h : Accounted config tokens state) {token : String}
    (htoken : token ∉ tokens) :
    state.leaseMeta.find token = none ∧ state.leases.find token = none := by
  have hmeta : state.leaseMeta.find token = none :=
    KeyedTable.find_eq_none_iff.mpr fun hmem =>
      htoken (h.record.mem_iff.mpr (List.mem_append_right _ hmem))
  exact ⟨hmeta, (h.matched token).mpr hmeta⟩

/-- A grant below both limits keeps the account. -/
theorem Accounted.grantLease (h : Accounted config tokens state) {priority : FplRequestPriority}
    {token : String} {now bulkLimit : ℤ} (htoken : token ∉ tokens)
    (hlimit : bulkLimit ≤ config.bulkMaxInflight) (hinflight : state.inflight < config.maxInflight)
    (hbulk : priority = .bulk → state.bulk < bulkLimit) (bucket : TokenBucket ℚ) :
    Accounted config (token :: tokens)
      (state.grantLease config priority token now bulkLimit bucket) := by
  have hperm : (state.leaseMeta.upsert token priority).entries.Perm
      ((token, priority) :: state.leaseMeta.entries) :=
    KeyedTable.perm_upsert_of_find_none (h.fresh htoken).1
  have hshare : ∀ counted,
      ((state.grantLease config priority token now bulkLimit bucket).leasesOf counted : ℤ) =
        state.leasesOf counted + share counted priority := by
    intro counted
    rw [leasesOf, leasesOf, ← countP_cons_share _ token, ← hperm.countP_eq]
    rfl
  refine
    { counted := ⟨?_, ?_, ?_⟩
      matched := ?_
      record := ?_
      distinct := List.nodup_cons.mpr ⟨htoken, h.distinct⟩
      inflight_le := hinflight
      bulk_le := ?_ }
  · have hlength := hperm.length_eq
    rw [List.length_cons] at hlength
    change state.inflight + 1 = ((state.leaseMeta.upsert token priority).entries.length : ℤ)
    rw [hlength, h.counted.inflight]
    push_cast
    rfl
  · rw [hshare, ← h.counted.live]
    rfl
  · rw [hshare, ← h.counted.bulk]
    rfl
  · intro other
    change (state.leases.upsert token _).find other = none ↔
      (state.leaseMeta.upsert token priority).find other = none
    rw [KeyedTable.find_upsert, KeyedTable.find_upsert]
    by_cases hother : other = token
    · simp [hother]
    · rw [if_neg hother, if_neg hother]
      exact h.matched other
  · have htokens := hperm.map Prod.fst
    exact ((h.record.cons token).trans List.perm_middle.symm).trans (htokens.symm.append_left _)
  · change state.bulk + share .bulk priority ≤ config.bulkMaxInflight
    cases priority with
    | live => simpa [share] using h.bulk_le
    | bulk =>
      have hbelow : state.bulk < config.bulkMaxInflight := (hbulk rfl).trans_le hlimit
      exact Int.add_one_le_of_lt hbelow

/-- A report leaves the account. -/
theorem Accounted.reportScript (h : Accounted config tokens state) (status now : ℤ) :
    Accounted config tokens (state.reportScript config status now).1 := by
  unfold FplAdmissionState.reportScript
  dsimp only
  split
  next => exact h.set _ _ _ _
  next =>
    split
    next => exact h.set _ _ _ _
    next => exact h

end FplAdmissionState

open FplAdmissionState in
/-- Every step keeps the account. -/
theorem accounted_fplAdmissionStep {config : FplAdmissionConfig} {world : FplAdmissionWorld}
    (h : world.state.Accounted config world.tokens) (action : FplAdmissionAction) :
    (fplAdmissionStep config world action).state.Accounted config
      (fplAdmissionStep config world action).tokens := by
  cases action with
  | acquire waited priority token =>
    simp only [fplAdmissionStep]
    by_cases htoken : token ∈ world.tokens
    · rw [if_pos htoken]
      exact h
    · rw [if_neg htoken]
      obtain ⟨limit, lastError, bulkLimit, hlimit, hcases⟩ := acquireScript_cases config priority
        token (world.clock + waited) world.state
      have hreaped := h.reapLeases (world.clock + waited)
      dsimp only at hcases
      have hbase := hreaped.set limit lastError (world.state.reapLeases (world.clock + waited)).bucket
        (world.state.reapLeases (world.clock + waited)).leaseKeys
      rcases hcases with ⟨ms, hscript⟩ | ⟨_, ms, hscript⟩ | ⟨_, hinflight, hbulk, hscript⟩
      · rw [hscript]
        exact hbase
      · rw [hscript]
        exact hbase.set _ _ _ _
      · rw [hscript]
        exact hbase.grantLease htoken hlimit hinflight hbulk _
  | release waited token => exact h.releaseScript token
  | report waited status => exact h.reportScript status _
  | expireKey token => exact h.set _ _ _ _

end LetletmeData
