import LetletmeData.Library.KeyedTables
import LetletmeData.Library.NumberTexts
import LetletmeData.Library.Permits
import LetletmeData.Library.Runs
import LetletmeData.Services.ManagerLive

/-!
# In-process permits

Two limits of one process: the permits of a host, which are handed from an operation that settles to
the next that waits, and the permits of summary fetches, which are given back and taken again. An
operation holds its permit from its admission until it settles.
-/

namespace LetletmeData

open LetletmeData.Library

/-- How an operation settles. -/
inductive Settlement where
  | fulfilled
  | rejected
  deriving DecidableEq

/-! ### The limiter of hosts -/

/-- `HostState`; a waiter is the operation that its callback admits. -/
structure HostState where
  active : ℕ
  waiters : List ℕ
  deriving DecidableEq

/-- `HostConcurrencyLimiter`. -/
structure HostConcurrencyLimiter where
  limit : ℕ
  isValid : 1 ≤ limit ∧ limit ≤ maxSafeInteger

/-- The constructor of `HostConcurrencyLimiter`. -/
def HostConcurrencyLimiter.create (limit : ℚ) : Except String HostConcurrencyLimiter :=
  if h : IsSafeInteger limit ∧ ¬ limit < 1 then
    .ok ⟨limit.num.natAbs, by
      have hpos : 1 ≤ limit.num := by
        have hone := not_lt.mp h.2
        rw [← h.1.1.num_eq] at hone
        exact_mod_cast hone
      exact ⟨by omega, h.1.2⟩⟩
  else .error "Host concurrency limit must be a positive safe integer"

/-- The states of a limiter, with the operations of each key: those that run, all in the order in
which they came, and all in the order in which they were admitted. -/
structure LimiterWorld where
  states : KeyedTable String HostState
  running : String → List ℕ
  arrived : String → List ℕ
  admitted : String → List ℕ

/-- What happens to a limiter: an operation comes under a key, or one of a normalized key settles. -/
inductive LimiterAction where
  | withPermit (key : String)
  | settle (key : String) (operation : ℕ) (settlement : Settlement)
  deriving DecidableEq

namespace LimiterWorld

/-- A new limiter. -/
def new : LimiterWorld := ⟨KeyedTable.empty, fun _ => [], fun _ => [], fun _ => []⟩

/-- An operation is admitted under a key. -/
def grant (world : LimiterWorld) (key : String) (operation : ℕ) : LimiterWorld :=
  { world with
    running := Permits.joined world.running key operation
    admitted := Permits.joined world.admitted key operation }

/-- `acquire`, for an operation that comes now. -/
def acquire (limiter : HostConcurrencyLimiter) (world : LimiterWorld) (key : String) :
    LimiterWorld :=
  let operation := (world.arrived key).length
  let state := (world.states.find key).getD ⟨0, []⟩
  let world := { world with arrived := Permits.joined world.arrived key operation }
  if state.active < limiter.limit then
    { world with states := world.states.upsert key { state with active := state.active + 1 } }.grant
      key operation
  else
    { world with
      states := world.states.upsert key { state with waiters := state.waiters ++ [operation] } }

/-- `release`. -/
def release (world : LimiterWorld) (key : String) : Except String LimiterWorld :=
  match world.states.find key with
  | none => .error "Host concurrency permit was not held"
  | some state =>
    if state.active < 1 then .error "Host concurrency permit was not held"
    else
      match state.waiters with
      | next :: waiters =>
        .ok ({ world with states := world.states.upsert key { state with waiters } }.grant key next)
      | [] =>
        .ok { world with
          states :=
            if state.active - 1 = 0 then world.states.deleteWhere fun other _ => other = key
            else world.states.upsert key { state with active := state.active - 1 } }

/-- `withPermit` up to the operation, under the normalized key; a blank key is refused. -/
def withPermit (limiter : HostConcurrencyLimiter) (toLowerCase : String → String)
    (world : LimiterWorld) (key : String) : Except String LimiterWorld :=
  let normalizedKey := toLowerCase (trimText key)
  if normalizedKey = "" then .error "Host concurrency key cannot be blank"
  else .ok (world.acquire limiter normalizedKey)

/-- `finally`, when a running operation has settled. -/
def settle (world : LimiterWorld) (key : String) (operation : ℕ) : Except String LimiterWorld :=
  { world with
    running := Function.update world.running key ((world.running key).erase operation) }.release key

/-- One step of a limiter. A call that is refused, and an operation that does not run, change
nothing. -/
def step (limiter : HostConcurrencyLimiter) (toLowerCase : String → String) (world : LimiterWorld) :
    LimiterAction → LimiterWorld
  | .withPermit key => (world.withPermit limiter toLowerCase key).toOption.getD world
  | .settle key operation _ =>
    if operation ∈ world.running key then (world.settle key operation).toOption.getD world else world

/-- The operations that wait under a key. -/
def waiting (world : LimiterWorld) (key : String) : List ℕ :=
  ((world.states.find key).map HostState.waiters).getD []

/-- The permits of a key. -/
def permits (world : LimiterWorld) (key : String) : Permits Unit ℕ :=
  .single (world.running key) (world.waiting key) (world.arrived key) (world.admitted key)

/-- The state of a key counts its running operations, and is there exactly while one runs or waits. -/
structure Counted (world : LimiterWorld) (key : String) : Prop where
  active : ∀ state, world.states.find key = some state → state.active = (world.running key).length
  held : (world.states.find key).isSome ↔ world.running key ≠ [] ∨ world.waiting key ≠ []

/-- The permits of every key are sound and counted. -/
def Sound (limiter : HostConcurrencyLimiter) (world : LimiterWorld) : Prop :=
  ∀ key, (world.permits key).Sound limiter.limit ∧ world.Counted key

/-- Two worlds agree on a key. -/
structure SameAt (world other : LimiterWorld) (key : String) : Prop where
  state : other.states.find key = world.states.find key
  running : other.running key = world.running key
  arrived : other.arrived key = world.arrived key
  admitted : other.admitted key = world.admitted key

variable {limiter : HostConcurrencyLimiter} {world other : LimiterWorld} {key : String}

/-- Agreeing worlds are sound alike. -/
theorem SameAt.sound (hsame : world.SameAt other key)
    (h : (world.permits key).Sound limiter.limit ∧ world.Counted key) :
    (other.permits key).Sound limiter.limit ∧ other.Counted key := by
  have hwaiting : other.waiting key = world.waiting key := by rw [waiting, waiting, hsame.state]
  refine ⟨?_, ?_, ?_⟩
  · rw [permits, hwaiting, hsame.running, hsame.arrived, hsame.admitted]
    exact h.1
  · rw [hsame.state, hsame.running]
    exact h.2.active
  · rw [hsame.state, hsame.running, hwaiting]
    exact h.2.held

/-- A world that changes at one key is sound when it is sound there. -/
theorem Sound.of_key (h : world.Sound limiter) (key : String)
    (hsame : ∀ other', other' ≠ key → world.SameAt other other')
    (hpermits : (other.permits key).Sound limiter.limit) (hcounted : other.Counted key) :
    other.Sound limiter := by
  intro other'
  by_cases hother : other' = key
  · exact hother ▸ ⟨hpermits, hcounted⟩
  · exact (hsame other' hother).sound (h other')

/-- A state that is there lists the waiting operations. -/
theorem waiting_of_find {state : HostState} (h : world.states.find key = some state) :
    world.waiting key = state.waiters := by rw [waiting, h]; rfl

/-- A state that counts the running operations of its key, one of which there is. -/
theorem counted_of_find {state : HostState} (h : world.states.find key = some state)
    (hactive : state.active = (world.running key).length) (hrunning : world.running key ≠ []) :
    world.Counted key := by
  refine ⟨fun other hother => ?_, ?_⟩
  · rw [h] at hother
    exact Option.some.inj hother ▸ hactive
  · rw [h]
    exact iff_of_true rfl (.inl hrunning)

/-- The state that an operation finds counts the running operations and lists the waiting ones. -/
theorem Counted.getD (h : world.Counted key) :
    (world.states.find key).getD ⟨0, []⟩ = ⟨(world.running key).length, world.waiting key⟩ := by
  cases hfind : world.states.find key with
  | none =>
    have hidle := mt h.held.mpr (by rw [hfind]; exact Bool.false_ne_true)
    obtain ⟨hrunning, hwaiting⟩ := not_or.mp hidle
    rw [not_not.mp hrunning, not_not.mp hwaiting]
    rfl
  | some state =>
    rw [waiting_of_find hfind, ← h.active state hfind]
    rfl

/-- The state of a key with a running operation. -/
theorem Counted.find (h : world.Counted key) (hrunning : world.running key ≠ []) :
    world.states.find key = some ⟨(world.running key).length, world.waiting key⟩ := by
  obtain ⟨state, hstate⟩ := Option.isSome_iff_exists.mp (h.held.mpr (.inl hrunning))
  rw [hstate, waiting_of_find hstate, ← h.active state hstate]

/-- The permits of a key whose state and lists are known. -/
theorem permits_of_find {state : HostState} {running arrived admitted : List ℕ}
    (h : world.states.find key = some state) (hrunning : world.running key = running)
    (harrived : world.arrived key = arrived) (hadmitted : world.admitted key = admitted) :
    world.permits key = .single running state.waiters arrived admitted := by
  rw [permits, waiting_of_find h, hrunning, harrived, hadmitted]

/-- Nobody waits under a key without a state. -/
theorem waiting_of_none (h : world.states.find key = none) : world.waiting key = [] := by
  rw [waiting, h]
  rfl

/-- A key under which nobody runs needs no state. -/
theorem counted_of_none (h : world.states.find key = none) (hrunning : world.running key = []) :
    world.Counted key := by
  refine ⟨fun state hstate => ?_, ?_⟩
  · rw [h] at hstate
    exact absurd hstate.symm (Option.some_ne_none _)
  · rw [h, hrunning, waiting_of_none h]
    exact iff_of_false Bool.false_ne_true fun hheld => hheld.elim (absurd rfl) (absurd rfl)

/-- What a state that is stored under a key leaves alone. -/
theorem find_upsert_of_ne {other : String} (h : other ≠ key) (state : HostState) :
    (world.states.upsert key state).find other = world.states.find other := by
  rw [KeyedTable.find_upsert, if_neg h]

/-- A state is found under the key it is stored under. -/
theorem find_upsert_self (world : LimiterWorld) (key : String) (state : HostState) :
    (world.states.upsert key state).find key = some state := by
  rw [KeyedTable.find_upsert, if_pos rfl]

/-- An operation that comes takes a free permit or waits for one. -/
theorem Sound.acquire (h : world.Sound limiter) (key : String) :
    (world.acquire limiter key).Sound limiter := by
  obtain ⟨hpermits, hcounted⟩ := h key
  rw [LimiterWorld.acquire, hcounted.getD]
  dsimp only
  split
  next hfree =>
    have hfind := find_upsert_self world key ⟨(world.running key).length + 1, world.waiting key⟩
    refine h.of_key key (fun other hother => ⟨find_upsert_of_ne hother _,
      Permits.joined_of_ne hother _, Permits.joined_of_ne hother _,
      Permits.joined_of_ne hother _⟩) ?_ (counted_of_find hfind ?_ ?_)
    · rw [permits_of_find hfind (Permits.joined_self _ _ _) (Permits.joined_self _ _ _)
        (Permits.joined_self _ _ _)]
      exact hpermits.start hfree _
    · change (world.running key).length + 1 = (Permits.joined world.running key _ key).length
      rw [Permits.joined_self, List.length_append, List.length_singleton]
    · change Permits.joined world.running key _ key ≠ []
      rw [Permits.joined_self]
      exact List.concat_ne_nil _ _
  next hfull =>
    have hfind := find_upsert_self world key
      ⟨(world.running key).length, world.waiting key ++ [(world.arrived key).length]⟩
    refine h.of_key key (fun other hother => ⟨find_upsert_of_ne hother _, rfl,
      Permits.joined_of_ne hother _, rfl⟩) ?_ (counted_of_find hfind rfl ?_)
    · rw [permits_of_find hfind rfl (Permits.joined_self _ _ _) rfl]
      exact hpermits.wait hfull _
    · exact List.ne_nil_of_length_pos (limiter.isValid.1.trans (not_lt.mp hfull))

/-- A running operation that settles gives its permit back, and soundness stays. -/
theorem Sound.settle (h : world.Sound limiter) {operation : ℕ}
    (hrunning : operation ∈ world.running key) :
    ∃ next, world.settle key operation = .ok next ∧ next.Sound limiter := by
  obtain ⟨hpermits, hcounted⟩ := h key
  have hne : world.running key ≠ [] := List.ne_nil_of_mem hrunning
  have hpos : 0 < (world.running key).length := List.length_pos_iff.mpr hne
  have hlength : ((world.running key).erase operation).length = (world.running key).length - 1 :=
    List.length_erase_of_mem hrunning
  rw [LimiterWorld.settle, LimiterWorld.release, hcounted.find hne]
  dsimp only
  rw [if_neg (by omega)]
  have hsame : ∀ other, other ≠ key → Function.update world.running key
      ((world.running key).erase operation) other = world.running other :=
    fun other hother => Function.update_of_ne hother _ _
  have hself : Function.update world.running key ((world.running key).erase operation) key =
      (world.running key).erase operation := Function.update_self _ _ _
  cases hwaiting : world.waiting key with
  | cons next waiters =>
    refine ⟨_, rfl, ?_⟩
    have hfind := find_upsert_self world key ⟨(world.running key).length, waiters⟩
    have hrun : Permits.joined (Function.update world.running key
        ((world.running key).erase operation)) key next key =
          (world.running key).erase operation ++ [next] := by
      rw [Permits.joined_self, hself]
    refine h.of_key key (fun other hother => ⟨find_upsert_of_ne hother _,
      (Permits.joined_of_ne hother _).trans (hsame other hother), rfl,
      Permits.joined_of_ne hother _⟩) ?_ (counted_of_find hfind ?_ ?_)
    · rw [permits_of_find hfind hrun rfl (Permits.joined_self _ _ _)]
      rw [permits, hwaiting] at hpermits
      exact hpermits.handOver hrunning
    · change (world.running key).length = (Permits.joined _ key next key).length
      rw [hrun, List.length_append, hlength, List.length_singleton]
      exact (Nat.sub_add_cancel hpos).symm
    · change Permits.joined _ key next key ≠ []
      rw [hrun]
      exact List.concat_ne_nil _ _
  | nil =>
    refine ⟨_, rfl, ?_⟩
    rw [permits, hwaiting] at hpermits
    split
    next hlast =>
      have hnil : (world.running key).erase operation = [] :=
        List.eq_nil_of_length_eq_zero (hlength.trans hlast)
      have hfind : (world.states.deleteWhere fun other _ => other = key).find key = none := by
        rw [KeyedTable.find_deleteWhere]
        cases world.states.find key <;> simp
      refine h.of_key key (fun other hother => ⟨?_, hsame other hother, rfl, rfl⟩) ?_
        (counted_of_none hfind (hself.trans hnil))
      · exact KeyedTable.find_deleteWhere_of_not fun _ _ => hother
      · rw [permits, waiting_of_none hfind]
        change (Permits.single (Function.update world.running key _ key) _ _ _).Sound _
        rw [hself]
        exact hpermits.free hrunning
    next hmore =>
      have hfind := find_upsert_self world key ⟨(world.running key).length - 1, []⟩
      refine h.of_key key (fun other hother => ⟨find_upsert_of_ne hother _, hsame other hother,
        rfl, rfl⟩) ?_ (counted_of_find hfind ?_ ?_)
      · rw [permits_of_find hfind hself rfl rfl]
        exact hpermits.free hrunning
      · exact hlength.symm.trans (congrArg List.length hself.symm)
      · change Function.update world.running key _ key ≠ []
        rw [hself]
        exact List.ne_nil_of_length_pos (by omega)

/-- A new limiter is sound. -/
theorem sound_new (limiter : HostConcurrencyLimiter) : new.Sound limiter :=
  fun _ => ⟨Permits.sound_none _, counted_of_none rfl rfl⟩

variable {toLowerCase : String → String}

/-- Whatever happens to a limiter keeps it sound. -/
theorem Sound.step (h : world.Sound limiter) (action : LimiterAction) :
    (world.step limiter toLowerCase action).Sound limiter := by
  cases action with
  | withPermit key =>
    rw [LimiterWorld.step, withPermit]
    split
    · exact h
    · exact h.acquire _
  | settle key operation settlement =>
    rw [LimiterWorld.step]
    split
    next hrunning =>
      obtain ⟨next, hnext, hsound⟩ := h.settle hrunning
      rw [hnext]
      exact hsound
    · exact h

/-- Every state a limiter reaches is sound. -/
theorem sound_runSteps (limiter : HostConcurrencyLimiter) (actions : List LimiterAction) :
    (runSteps (LimiterWorld.step limiter toLowerCase) new actions).Sound limiter :=
  runSteps_invariant (fun _ action h => h.step action) _ actions (sound_new limiter)

end LimiterWorld

/-! ### The gate of summary fetches -/

/-- `ManagerSummaryFetchPriority`. -/
inductive ManagerSummaryFetchPriority where
  | foreground
  | background
  deriving DecidableEq

/-- What `createManagerSummaryFetchGate` accepts as the limit of a gate. -/
structure SummaryFetchGate where
  maxConcurrent : ℕ
  isValid : 1 ≤ maxConcurrent ∧ maxConcurrent ≤ maxSafeInteger

/-- `createManagerSummaryFetchGate`, up to the state of the gate. -/
def createManagerSummaryFetchGate (maxConcurrent : Option ℚ) : Except String SummaryFetchGate :=
  let maxConcurrent := maxConcurrent.getD (maxSummaryFetchConcurrency : ℚ)
  if h : IsSafeInteger maxConcurrent ∧ ¬ maxConcurrent ≤ 0 then
    .ok ⟨maxConcurrent.num.natAbs, by
      have hpos : 0 < maxConcurrent.num := Rat.num_pos.mpr (not_le.mp h.2)
      exact ⟨by omega, h.1.2⟩⟩
  else .error "maxConcurrent must be a positive integer"

/-- A fetch: its priority and its position among the fetches of that priority. -/
structure SummaryFetch where
  priority : ManagerSummaryFetchPriority
  position : ℕ
  deriving DecidableEq

/-- What a gate keeps, with the fetches that hold a permit and those of each priority, all in the
order in which they came and in which they were admitted; a waiter is the fetch that it starts. -/
structure GateWorld where
  active : ℤ
  foregroundWaiters : List SummaryFetch
  backgroundWaiters : List SummaryFetch
  running : List SummaryFetch
  arrived : ManagerSummaryFetchPriority → List SummaryFetch
  admitted : ManagerSummaryFetchPriority → List SummaryFetch

/-- What happens to a gate: a fetch comes, or one settles. -/
inductive GateAction where
  | fetch (priority : Option ManagerSummaryFetchPriority)
  | settle (fetch : SummaryFetch) (settlement : Settlement)
  deriving DecidableEq

namespace GateWorld

/-- A new gate. -/
def new : GateWorld := ⟨0, [], [], [], fun _ => [], fun _ => []⟩

/-- `start`. -/
def start (world : GateWorld) (fetch : SummaryFetch) : GateWorld :=
  { world with
    active := world.active + 1
    running := world.running ++ [fetch]
    admitted := Permits.joined world.admitted fetch.priority fetch }

/-- A fetch is pushed to the waiters of its priority. -/
def push (world : GateWorld) (fetch : SummaryFetch) : GateWorld :=
  match fetch.priority with
  | .foreground => { world with foregroundWaiters := world.foregroundWaiters ++ [fetch] }
  | .background => { world with backgroundWaiters := world.backgroundWaiters ++ [fetch] }

/-- `acquire`, for a fetch that comes now. -/
def acquire (gate : SummaryFetchGate) (world : GateWorld)
    (priority : ManagerSummaryFetchPriority) : GateWorld :=
  let fetch : SummaryFetch := ⟨priority, (world.arrived priority).length⟩
  let world := { world with arrived := Permits.joined world.arrived priority fetch }
  if world.active < (gate.maxConcurrent : ℤ) then world.start fetch else world.push fetch

/-- `finally`, when a running fetch has settled: foreground waiters go first. -/
def settle (world : GateWorld) (fetch : SummaryFetch) : GateWorld :=
  let world := { world with active := world.active - 1, running := world.running.erase fetch }
  match world.foregroundWaiters, world.backgroundWaiters with
  | next :: foregroundWaiters, _ => { world with foregroundWaiters }.start next
  | [], next :: backgroundWaiters => { world with backgroundWaiters }.start next
  | [], [] => world

/-- One step of a gate; a fetch that does not run cannot settle. -/
def step (gate : SummaryFetchGate) (world : GateWorld) : GateAction → GateWorld
  | .fetch priority => world.acquire gate (priority.getD .foreground)
  | .settle fetch _ => if fetch ∈ world.running then world.settle fetch else world

/-- The fetches of a priority that wait. -/
def waiting (world : GateWorld) : ManagerSummaryFetchPriority → List SummaryFetch
  | .foreground => world.foregroundWaiters
  | .background => world.backgroundWaiters

/-- The permits of a gate. -/
def permits (world : GateWorld) : Permits ManagerSummaryFetchPriority SummaryFetch :=
  ⟨world.running, world.waiting, world.arrived, world.admitted⟩

/-- Foreground fetches go before background fetches. -/
def Before (first second : ManagerSummaryFetchPriority) : Prop :=
  first = .foreground ∧ second = .background

/-- The waiters of a gate are of the priority they wait in, the counter counts the running fetches,
and the permits are sound. -/
structure Sound (gate : SummaryFetchGate) (world : GateWorld) : Prop where
  permits : world.permits.Sound gate.maxConcurrent
  active : world.active = world.running.length
  priorities : ∀ priority, ∀ fetch ∈ world.waiting priority, fetch.priority = priority

variable {gate : SummaryFetchGate} {world : GateWorld}

/-- A pushed fetch waits last in its priority. -/
theorem waiting_push (world : GateWorld) (fetch : SummaryFetch) :
    (world.push fetch).waiting = Permits.joined world.waiting fetch.priority fetch := by
  obtain ⟨priority, position⟩ := fetch
  funext other
  cases priority <;> cases other <;> simp [push, waiting, Permits.joined]

/-- A pushed fetch takes no permit. -/
theorem permits_push (world : GateWorld) (fetch : SummaryFetch) :
    (world.push fetch).active = world.active ∧ (world.push fetch).permits =
      { world.permits with waiting := Permits.joined world.waiting fetch.priority fetch } := by
  rw [← waiting_push]
  unfold push
  split <;> exact ⟨rfl, rfl⟩

/-- A fetch that comes takes a free permit or waits for one. -/
theorem Sound.acquire (h : world.Sound gate) (priority : ManagerSummaryFetchPriority) :
    Permits.Step gate.maxConcurrent Before world.permits (world.acquire gate priority).permits ∧
      (world.acquire gate priority).Sound gate := by
  have hiff : world.active < (gate.maxConcurrent : ℤ) ↔
      world.running.length < gate.maxConcurrent := by rw [h.active, Nat.cast_lt]
  unfold GateWorld.acquire
  dsimp only
  split
  next hfree =>
    have hstep := @Permits.Step.start _ _ _ _ _ Before world.permits priority
      ⟨priority, (world.arrived priority).length⟩ (hiff.mp hfree)
    refine ⟨hstep, h.permits.step hstep, ?_, h.priorities⟩
    change world.active + 1 = ((world.running ++ [_] : List SummaryFetch).length : ℤ)
    rw [h.active, List.length_append, List.length_singleton, Nat.cast_add, Nat.cast_one]
  next hfull =>
    have hstep := @Permits.Step.wait _ _ _ _ _ Before world.permits priority
      ⟨priority, (world.arrived priority).length⟩ (mt hiff.mpr hfull)
    obtain ⟨hactive, hpermits⟩ := permits_push
      { world with
        arrived := Permits.joined world.arrived priority
          ⟨priority, (world.arrived priority).length⟩ }
      ⟨priority, (world.arrived priority).length⟩
    refine ⟨hpermits ▸ hstep, hpermits ▸ h.permits.step hstep, ?_, fun other fetch hfetch => ?_⟩
    · rw [hactive]
      exact h.active.trans (congrArg (fun permits => (permits.running.length : ℤ)) hpermits).symm
    · rw [waiting_push] at hfetch
      obtain hold | ⟨rfl, rfl⟩ := Permits.mem_joined.mp hfetch
      · exact h.priorities other fetch hold
      · rfl

/-- The first waiter of a priority is started with the permit of a fetch that has settled. -/
theorem Sound.handOver (h : world.Sound gate) {fetch next : SummaryFetch}
    {kind : ManagerSummaryFetchPriority} {rest : List SummaryFetch}
    (hrunning : fetch ∈ world.running) (hnext : world.waiting kind = next :: rest)
    (hfirst : ∀ other, Before other kind → world.waiting other = []) {settled : GateWorld}
    (hactive : settled.active = world.active - 1)
    (hpermits : settled.permits = ⟨world.running.erase fetch,
      Function.update world.waiting kind rest, world.arrived, world.admitted⟩) :
    Permits.Step gate.maxConcurrent Before world.permits (settled.start next).permits ∧
      (settled.start next).Sound gate := by
  have hkind : next.priority = kind := h.priorities kind next (hnext ▸ List.mem_cons_self)
  have hstarted : (settled.start next).permits = ⟨world.running.erase fetch ++ [next],
      Function.update world.waiting kind rest, world.arrived,
      Permits.joined world.admitted kind next⟩ := by
    change Permits.mk (settled.permits.running ++ [next]) settled.permits.waiting
      settled.permits.arrived (Permits.joined settled.permits.admitted next.priority next) = _
    rw [hpermits, hkind]
  have hstep : Permits.Step gate.maxConcurrent Before world.permits (settled.start next).permits :=
    hstarted ▸ .handOver world.permits fetch next kind rest hrunning hnext hfirst
  refine ⟨hstep, h.permits.step hstep, ?_, fun other waiter hwaiter => ?_⟩
  · have hpos : 0 < world.running.length := List.length_pos_of_mem hrunning
    change settled.active + 1 = ((settled.start next).permits.running.length : ℤ)
    rw [hactive, hstarted, h.active, List.length_append, List.length_erase_of_mem hrunning,
      List.length_singleton, Nat.sub_add_cancel hpos, sub_add_cancel]
  · have hwaits : waiter ∈ (settled.start next).permits.waiting other := hwaiter
    rw [hstarted] at hwaits
    change waiter ∈ Function.update world.waiting kind rest other at hwaits
    refine h.priorities other waiter ?_
    by_cases hother : other = kind
    · subst hother
      rw [Function.update_self] at hwaits
      exact hnext ▸ List.mem_cons_of_mem _ hwaits
    · rwa [Function.update_of_ne hother] at hwaits

/-- A running fetch that settles gives its permit back; the next one to wait takes it. -/
theorem Sound.settle (h : world.Sound gate) {fetch : SummaryFetch}
    (hrunning : fetch ∈ world.running) :
    Permits.Step gate.maxConcurrent Before world.permits (world.settle fetch).permits ∧
      (world.settle fetch).Sound gate := by
  unfold GateWorld.settle
  dsimp only
  split
  next next rest background hforeground =>
    refine @Sound.handOver _ _ h _ _ .foreground _ hrunning hforeground (fun other hbefore => ?_)
      _ rfl ?_
    · exact nomatch hbefore.2
    · refine congrArg (fun waiting => Permits.mk _ waiting _ _) (funext fun other => ?_)
      cases other <;> rfl
  next next rest hforeground hbackground =>
    refine @Sound.handOver _ _ h _ _ .background _ hrunning hbackground (fun other hbefore => ?_)
      _ rfl ?_
    · rw [hbefore.1]
      exact hforeground
    · refine congrArg (fun waiting => Permits.mk _ waiting _ _) (funext fun other => ?_)
      cases other <;> rfl
  next hforeground hbackground =>
    have hnone : ∀ kind, world.permits.waiting kind = [] := by
      rintro (_ | _)
      · exact hforeground
      · exact hbackground
    have hstep : Permits.Step gate.maxConcurrent Before world.permits
        { world.permits with running := world.running.erase fetch } :=
      .free world.permits fetch hrunning hnone
    refine ⟨hstep, h.permits.step hstep, ?_, h.priorities⟩
    change world.active - 1 = ((world.running.erase fetch).length : ℤ)
    rw [h.active, List.length_erase_of_mem hrunning,
      Nat.cast_sub (List.length_pos_of_mem hrunning), Nat.cast_one]

/-- A new gate is sound. -/
theorem sound_new (gate : SummaryFetchGate) : new.Sound gate where
  permits := by
    have hnone : new.permits = Permits.none :=
      congrArg (fun waiting => Permits.mk _ waiting _ _) (funext fun priority => by
        cases priority <;> rfl)
    exact hnone ▸ Permits.sound_none _
  active := rfl
  priorities := by
    intro priority fetch hfetch
    cases priority <;> exact absurd hfetch List.not_mem_nil

/-- Whatever happens to a gate is a step of its permits or changes nothing. -/
theorem Sound.step (h : world.Sound gate) (action : GateAction) :
    (Permits.Step gate.maxConcurrent Before world.permits (world.step gate action).permits ∨
      world.step gate action = world) ∧ (world.step gate action).Sound gate := by
  cases action with
  | fetch priority => exact ⟨.inl (h.acquire _).1, (h.acquire _).2⟩
  | settle fetch settlement =>
    rw [GateWorld.step]
    split
    next hrunning => exact ⟨.inl (h.settle hrunning).1, (h.settle hrunning).2⟩
    next => exact ⟨.inr rfl, h⟩

/-- Every state a gate reaches is sound. -/
theorem sound_runSteps (gate : SummaryFetchGate) (actions : List GateAction) :
    (runSteps (GateWorld.step gate) new actions).Sound gate :=
  runSteps_invariant (fun _ action h => (h.step action).2) _ actions (sound_new gate)

end GateWorld

/-! ### Both limits -/

/-- In every run a limiter and a gate let no more run than they may and let nobody wait for a free
permit. Who waits longest under a key, or in a priority, is admitted first, no background fetch is
admitted while a foreground fetch waits, and a limiter keeps exactly the keys that it needs. -/
theorem permits_neither_exceeded_nor_lost (limiter : HostConcurrencyLimiter)
    (toLowerCase : String → String) (actions : List LimiterAction) (gate : SummaryFetchGate)
    (fetches : List GateAction) :
    let hosts := runSteps (LimiterWorld.step limiter toLowerCase) LimiterWorld.new actions
    let summaries := runSteps (GateWorld.step gate) GateWorld.new fetches
    (∀ key,
      (hosts.running key).length ≤ limiter.limit ∧
        (hosts.waiting key ≠ [] → (hosts.running key).length = limiter.limit) ∧
        hosts.admitted key ++ hosts.waiting key = hosts.arrived key ∧
        ((hosts.states.find key).isSome ↔ hosts.running key ≠ [] ∨ hosts.waiting key ≠ []) ∧
        ∀ operation ∈ hosts.running key, ∃ next, hosts.settle key operation = .ok next) ∧
      summaries.running.length ≤ gate.maxConcurrent ∧
      (∀ priority,
        (summaries.waiting priority ≠ [] → summaries.running.length = gate.maxConcurrent) ∧
          summaries.admitted priority ++ summaries.waiting priority =
            summaries.arrived priority) ∧
      ∀ action,
        (summaries.step gate action).admitted .background ≠ summaries.admitted .background →
          summaries.foregroundWaiters = [] := by
  intro hosts summaries
  have hhosts : hosts.Sound limiter := LimiterWorld.sound_runSteps limiter actions
  have hsummaries : summaries.Sound gate := GateWorld.sound_runSteps gate fetches
  refine ⟨fun key => ?_, hsummaries.permits.within, fun priority =>
    ⟨hsummaries.permits.full priority, hsummaries.permits.inOrder priority⟩, fun action hnew => ?_⟩
  · obtain ⟨hpermits, hcounted⟩ := hhosts key
    refine ⟨hpermits.within, hpermits.full (), hpermits.inOrder (), hcounted.held,
      fun operation hrunning => ?_⟩
    obtain ⟨next, hnext, _⟩ := hhosts.settle hrunning
    exact ⟨next, hnext⟩
  · obtain hstep | hsame := (hsummaries.step action).1
    · exact hstep.waiting_eq_nil hsummaries.permits hnew ⟨rfl, rfl⟩
    · exact absurd (congrArg (fun world => GateWorld.admitted world .background) hsame) hnew

end LetletmeData
