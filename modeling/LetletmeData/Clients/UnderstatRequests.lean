import LetletmeData.Library.Permits
import LetletmeData.Library.Runs

/-!
# Requests to Understat

A request waits for a permit of the client in its process, and then asks for one of the permits
that all processes share: it puts a lease into a sorted set of Redis, whose entries and key run out
by themselves. Times are milliseconds, and the clocks of the processes and of Redis are one.
-/

namespace LetletmeData

open LetletmeData.Library

/-- `UNDERSTAT_TIMEOUT_MS` and `UNDERSTAT_MAX_CONCURRENCY`. -/
structure UnderstatConfig where
  timeoutMs : ℕ
  maxConcurrency : ℕ

/-- `leaseMs`, with `PERMIT_LEASE_PADDING_MS`. -/
def UnderstatConfig.leaseMs (config : UnderstatConfig) : ℕ := config.timeoutMs + 5000

/-- The token of a request: its process, and its number there. -/
structure UnderstatToken where
  process : ℕ
  request : ℕ
  deriving DecidableEq

/-- An entry of the sorted set. -/
structure UnderstatPermit where
  token : UnderstatToken
  expiresAt : ℕ
  deriving DecidableEq

/-- The permits whose time is not over. -/
def livePermits (now : ℕ) (permits : List UnderstatPermit) : List UnderstatPermit :=
  permits.filter fun permit => now < permit.expiresAt

/-- The permits of other tokens. -/
def withoutToken (token : UnderstatToken) (permits : List UnderstatPermit) : List UnderstatPermit :=
  permits.filter fun permit => permit.token ≠ token

/-- The sorted set and the time at which its key runs out. -/
structure UnderstatPermitSet where
  permits : List UnderstatPermit
  keyExpiresAt : ℕ

/-- What the key holds. -/
def UnderstatPermitSet.stored (set : UnderstatPermitSet) (now : ℕ) : List UnderstatPermit :=
  if set.keyExpiresAt < now then [] else set.permits

/-- `ACQUIRE_SCRIPT`, with whether it returns 1. -/
def acquireUnderstatPermit (config : UnderstatConfig) (set : UnderstatPermitSet) (now : ℕ)
    (token : UnderstatToken) : UnderstatPermitSet × Bool :=
  let expiresAt := now + config.leaseMs
  let live := livePermits now (set.stored now)
  if config.maxConcurrency ≤ live.length then ({ set with permits := live }, false)
  else
    (⟨withoutToken token live ++ [⟨token, expiresAt⟩], now + max (expiresAt - now) 1 * 2⟩, true)

/-- `RELEASE_SCRIPT`. -/
def releaseUnderstatPermit (set : UnderstatPermitSet) (now : ℕ) (token : UnderstatToken) :
    UnderstatPermitSet :=
  { set with permits := withoutToken token (set.stored now) }

/-- `UnderstatClient`: its counter and its waiters, with the requests that it lets run, all in the
order in which they came, and all in the order in which they were admitted. -/
structure UnderstatClient where
  activeRequests : ℤ
  waiters : List ℕ
  running : List ℕ
  arrived : List ℕ
  admitted : List ℕ

namespace UnderstatClient

/-- A new client. -/
def new : UnderstatClient := ⟨0, [], [], [], []⟩

/-- `acquire`, for a request that comes now. -/
def acquire (config : UnderstatConfig) (client : UnderstatClient) : UnderstatClient :=
  let request := client.arrived.length
  let client := { client with arrived := client.arrived ++ [request] }
  if client.activeRequests < (config.maxConcurrency : ℤ) then
    { client with
      activeRequests := client.activeRequests + 1
      running := client.running ++ [request]
      admitted := client.admitted ++ [request] }
  else { client with waiters := client.waiters ++ [request] }

/-- `release`, when a request is over. -/
def release (client : UnderstatClient) (request : ℕ) : UnderstatClient :=
  let client := { client with running := client.running.erase request }
  match client.waiters with
  | waiter :: waiters =>
    { client with
      waiters
      running := client.running ++ [waiter]
      admitted := client.admitted ++ [waiter] }
  | [] => { client with activeRequests := client.activeRequests - 1 }

/-- The permits of the client. -/
def permits (client : UnderstatClient) : Permits Unit ℕ :=
  .single client.running client.waiters client.arrived client.admitted

/-- The permits are sound, and the counter counts the requests that run. -/
structure Sound (config : UnderstatConfig) (client : UnderstatClient) : Prop where
  permits : client.permits.Sound config.maxConcurrency
  active : client.activeRequests = client.running.length

variable {config : UnderstatConfig} {client : UnderstatClient}

/-- A request that comes takes a permit or waits. -/
theorem Sound.acquire (h : client.Sound config) : (client.acquire config).Sound config := by
  have hiff : client.activeRequests < (config.maxConcurrency : ℤ) ↔
      client.running.length < config.maxConcurrency := by rw [h.active, Nat.cast_lt]
  unfold UnderstatClient.acquire
  dsimp only
  split
  next hfree =>
    refine ⟨h.permits.start (hiff.mp hfree) _, ?_⟩
    dsimp only
    rw [h.active, List.length_append, List.length_singleton, Nat.cast_add, Nat.cast_one]
  next hfull => exact ⟨h.permits.wait (mt hiff.mpr hfull) _, h.active⟩

/-- A request that is over hands its permit on. -/
theorem Sound.release (h : client.Sound config) {request : ℕ}
    (hrequest : request ∈ client.running) :
    (client.release request).Sound config := by
  obtain ⟨activeRequests, waiters, running, arrived, admitted⟩ := client
  obtain ⟨hpermits, hactive⟩ := h
  have hlength : (running.erase request).length + 1 = running.length := by
    rw [List.length_erase_of_mem hrequest]
    exact Nat.sub_add_cancel (List.length_pos_of_mem hrequest)
  dsimp only at hactive
  unfold UnderstatClient.release
  dsimp only
  split
  next waiter rest hwaiters =>
    refine ⟨Permits.Sound.handOver hpermits hrequest, ?_⟩
    dsimp only
    rw [hactive, List.length_append, List.length_singleton, hlength]
  next =>
    refine ⟨Permits.Sound.free hpermits hrequest, ?_⟩
    dsimp only
    omega

end UnderstatClient

/-- The clients of all processes and the permits that they share, with the permits that were
granted, and those of them that were not given back. -/
structure UnderstatRequests where
  clock : ℕ
  clients : ℕ → UnderstatClient
  set : UnderstatPermitSet
  granted : List UnderstatToken
  held : List UnderstatPermit

/-- Time passes, a request comes in a process, a running request asks for a shared permit or gives
it back, or it is over, also when Redis could not be reached. -/
inductive UnderstatStep where
  | pass (ms : ℕ)
  | request (process : ℕ)
  | poll (process request : ℕ)
  | giveBack (process request : ℕ)
  | finish (process request : ℕ)

namespace UnderstatRequests

/-- Nothing has been requested. -/
def initial : UnderstatRequests := ⟨0, fun _ => .new, ⟨[], 0⟩, [], []⟩

/-- `acquireUnderstatRequestPermit` once around its loop. -/
def poll (config : UnderstatConfig) (world : UnderstatRequests) (token : UnderstatToken) :
    UnderstatRequests :=
  let answer := acquireUnderstatPermit config world.set world.clock token
  if answer.2 then
    { world with
      set := answer.1
      granted := world.granted ++ [token]
      held := world.held ++ [⟨token, world.clock + config.leaseMs⟩] }
  else { world with set := answer.1 }

/-- What `acquireUnderstatRequestPermit` returns. -/
def giveBack (world : UnderstatRequests) (token : UnderstatToken) : UnderstatRequests :=
  { world with
    set := releaseUnderstatPermit world.set world.clock token
    held := withoutToken token world.held }

/-- The client of a process goes on. -/
def proceed (world : UnderstatRequests) (process : ℕ) (client : UnderstatClient) :
    UnderstatRequests :=
  { world with clients := Function.update world.clients process client }

/-- One step. Only running requests ask for a permit, until they are granted one. -/
def step (config : UnderstatConfig) (world : UnderstatRequests) : UnderstatStep → UnderstatRequests
  | .pass ms => { world with clock := world.clock + ms }
  | .request process => world.proceed process ((world.clients process).acquire config)
  | .poll process request =>
    if request ∈ (world.clients process).running ∧ ⟨process, request⟩ ∉ world.granted then
      world.poll config ⟨process, request⟩
    else world
  | .giveBack process request =>
    if request ∈ (world.clients process).running ∧ ⟨process, request⟩ ∈ world.granted then
      world.giveBack ⟨process, request⟩
    else world
  | .finish process request =>
    if request ∈ (world.clients process).running then
      world.proceed process ((world.clients process).release request)
    else world

/-- The permits that were granted, are not given back and have not run out. -/
def holders (world : UnderstatRequests) : List UnderstatPermit := livePermits world.clock world.held

/-- The set lists the permits that are held, up to those that have run out, and its key outlives
them; no more are held than there are permits, and every client is sound. -/
structure Sound (config : UnderstatConfig) (world : UnderstatRequests) : Prop where
  clients : ∀ process, (world.clients process).Sound config
  stored : livePermits world.clock world.set.permits = world.holders
  within : world.holders.length ≤ config.maxConcurrency
  lease : ∀ permit ∈ world.set.permits, permit.expiresAt ≤ world.clock + config.leaseMs
  key : ∀ permit ∈ world.set.permits, permit.expiresAt ≤ world.set.keyExpiresAt
  tokens : ∀ permit ∈ world.held, permit.token ∈ world.granted

/-- What is live later is live now. -/
theorem livePermits_livePermits {now later : ℕ} (h : now ≤ later) (permits : List UnderstatPermit) :
    livePermits later (livePermits now permits) = livePermits later permits := by
  rw [livePermits, livePermits, livePermits, List.filter_filter]
  refine List.filter_congr fun permit _ => ?_
  rw [← Bool.decide_and, decide_eq_decide]
  exact and_iff_left_of_imp h.trans_lt

/-- A permit is taken out of the live ones as of all. -/
theorem livePermits_withoutToken (now : ℕ) (token : UnderstatToken)
    (permits : List UnderstatPermit) :
    livePermits now (withoutToken token permits) = withoutToken token (livePermits now permits) :=
  List.filter_comm _ _ _

variable {config : UnderstatConfig} {world : UnderstatRequests}

/-- The key holds what is live. -/
theorem Sound.live_stored (h : world.Sound config) :
    livePermits world.clock (world.set.stored world.clock) = world.holders := by
  rw [← h.stored, UnderstatPermitSet.stored]
  split
  next hover =>
    refine (List.filter_eq_nil_iff.mpr fun permit hpermit hlive => ?_).symm
    exact absurd ((h.key permit hpermit).trans_lt hover) (of_decide_eq_true hlive).not_gt
  next => rfl

/-- What the key holds is in the set. -/
theorem mem_of_mem_stored {set : UnderstatPermitSet} {now : ℕ} {permit : UnderstatPermit}
    (h : permit ∈ set.stored now) : permit ∈ set.permits := by
  rw [UnderstatPermitSet.stored] at h
  split at h
  · exact nomatch h
  · exact h

/-- A permit is granted exactly when fewer are held than there are. -/
theorem Sound.acquire_snd (h : world.Sound config) (token : UnderstatToken) :
    (acquireUnderstatPermit config world.set world.clock token).2 = true ↔
      world.holders.length < config.maxConcurrency := by
  rw [acquireUnderstatPermit, h.live_stored]
  split
  next hfull => exact iff_of_false Bool.false_ne_true (not_lt.mpr hfull)
  next hfree => exact iff_of_true rfl (not_le.mp hfree)

/-- Asking for a permit keeps everything sound. -/
theorem Sound.poll (h : world.Sound config) {token : UnderstatToken}
    (htoken : token ∉ world.granted) : (world.poll config token).Sound config := by
  have hmem : ∀ permit ∈ world.holders, permit ∈ world.set.permits := fun permit hpermit =>
    List.mem_of_mem_filter (h.stored ▸ hpermit)
  have hlive : livePermits world.clock world.holders = world.holders :=
    livePermits_livePermits le_rfl world.held
  unfold UnderstatRequests.poll acquireUnderstatPermit
  dsimp only
  rw [h.live_stored]
  by_cases hfull : config.maxConcurrency ≤ world.holders.length
  · rw [if_pos hfull]
    exact ⟨h.clients, hlive, h.within, fun permit hpermit => h.lease permit (hmem permit hpermit),
      fun permit hpermit => h.key permit (hmem permit hpermit), h.tokens⟩
  · rw [if_neg hfull, if_pos rfl]
    have hlease : world.clock < world.clock + config.leaseMs := by
      rw [UnderstatConfig.leaseMs]
      omega
    have hothers : withoutToken token world.holders = world.holders := by
      refine List.filter_eq_self.mpr fun permit hpermit => decide_eq_true ?_
      rintro rfl
      exact htoken (h.tokens permit (List.mem_of_mem_filter hpermit))
    have hjoins : ∀ permits, livePermits world.clock
        (permits ++ [⟨token, world.clock + config.leaseMs⟩]) =
          livePermits world.clock permits ++ [⟨token, world.clock + config.leaseMs⟩] := by
      intro permits
      rw [livePermits, List.filter_append, List.filter_singleton, decide_eq_true hlease]
      rfl
    have hexpires : ∀ permit ∈ world.holders ++ [⟨token, world.clock + config.leaseMs⟩],
        permit.expiresAt ≤ world.clock + config.leaseMs := by
      intro permit hpermit
      obtain hold | hnew := List.mem_append.mp hpermit
      · exact h.lease permit (hmem permit hold)
      · obtain rfl := List.mem_singleton.mp hnew
        exact le_rfl
    rw [hothers]
    refine ⟨h.clients, ?_, ?_, hexpires, fun permit hpermit => ?_, fun permit hpermit => ?_⟩
    · exact (hjoins _).trans ((congrArg (· ++ _) hlive).trans (hjoins _).symm)
    · refine (congrArg List.length (hjoins world.held)).trans_le ?_
      rw [List.length_append, List.length_singleton]
      exact not_le.mp hfull
    · refine (hexpires permit hpermit).trans (Nat.add_le_add_left ?_ _)
      rw [Nat.add_sub_cancel_left]
      omega
    · obtain hold | hnew := List.mem_append.mp hpermit
      · exact List.mem_append_left _ (h.tokens permit hold)
      · obtain rfl := List.mem_singleton.mp hnew
        exact List.mem_append_right _ (List.mem_singleton_self _)

/-- Giving a permit back keeps everything sound. -/
theorem Sound.giveBack (h : world.Sound config) (token : UnderstatToken) :
    (world.giveBack token).Sound config := by
  have hmem : ∀ permit ∈ withoutToken token (world.set.stored world.clock),
      permit ∈ world.set.permits := fun permit hpermit =>
    mem_of_mem_stored (List.mem_of_mem_filter hpermit)
  refine ⟨h.clients, ?_, ?_, fun permit hpermit => h.lease permit (hmem permit hpermit),
    fun permit hpermit => h.key permit (hmem permit hpermit),
    fun permit hpermit => h.tokens permit (List.mem_of_mem_filter hpermit)⟩
  · change livePermits world.clock (withoutToken token (world.set.stored world.clock)) =
      livePermits world.clock (withoutToken token world.held)
    rw [livePermits_withoutToken, h.live_stored, livePermits_withoutToken]
    rfl
  · change (livePermits world.clock (withoutToken token world.held)).length ≤ _
    rw [livePermits_withoutToken]
    exact (List.length_filter_le _ _).trans h.within

/-- A sound client in the place of the one of a process keeps everything sound. -/
theorem Sound.proceed (h : world.Sound config) {process : ℕ} {client : UnderstatClient}
    (hclient : client.Sound config) : (world.proceed process client).Sound config := by
  refine ⟨fun other => ?_, h.stored, h.within, h.lease, h.key, h.tokens⟩
  change (Function.update world.clients process client other).Sound config
  obtain rfl | hother := eq_or_ne other process
  · rwa [Function.update_self]
  · rw [Function.update_of_ne hother]
    exact h.clients other

/-- Whatever happens keeps everything sound. -/
theorem Sound.step (h : world.Sound config) (action : UnderstatStep) :
    (world.step config action).Sound config := by
  cases action with
  | pass ms =>
    have hlater : world.clock ≤ world.clock + ms := Nat.le_add_right _ _
    have hholders : livePermits (world.clock + ms) world.holders =
        livePermits (world.clock + ms) world.held := livePermits_livePermits hlater _
    refine ⟨h.clients, ?_, ?_, fun permit hpermit => ?_, h.key, h.tokens⟩
    · change livePermits (world.clock + ms) world.set.permits =
        livePermits (world.clock + ms) world.held
      rw [← hholders, ← h.stored, livePermits_livePermits hlater]
    · change (livePermits (world.clock + ms) world.held).length ≤ _
      rw [← hholders]
      exact (List.length_filter_le _ _).trans h.within
    · exact (h.lease permit hpermit).trans (Nat.add_le_add_right hlater _)
  | request process => exact h.proceed (h.clients process).acquire
  | poll process request =>
    rw [UnderstatRequests.step]
    split
    next hasks => exact h.poll hasks.2
    next => exact h
  | giveBack process request =>
    rw [UnderstatRequests.step]
    split
    · exact h.giveBack _
    · exact h
  | finish process request =>
    rw [UnderstatRequests.step]
    split
    next hrunning => exact h.proceed ((h.clients process).release hrunning)
    next => exact h

/-- At first everything is sound. -/
theorem sound_initial (config : UnderstatConfig) : initial.Sound config :=
  ⟨fun _ => ⟨Permits.sound_none _, rfl⟩, rfl, Nat.zero_le _, nofun, nofun, nofun⟩

end UnderstatRequests

end LetletmeData
