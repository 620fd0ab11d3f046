import Mathlib.Algebra.Order.Group.Int
import LetletmeData.Library.Runs

/-!
# The window of a season

Jobs run within a season only: from the first day of its first gameweek to the last day of its last.
The window is kept for ten minutes, and so is the answer that there is none. Other calls go on while
one reads the fixtures, so that a slow one stores what it read over what was read later.
-/

namespace LetletmeData

open LetletmeData.Library

/-- `SeasonWindow`. -/
structure SeasonWindow where
  seasonId : ℕ
  startDayMs : ℤ
  endDayMs : ℤ
  loadedAtMs : ℤ

/-- `SEASON_WINDOW_CACHE_TTL_MS`. -/
def seasonWindowCacheTtlMs : ℤ := 10 * 60 * 1000

/-- `toUtcDayStartMs`. -/
def toUtcDayStartMs (time : ℤ) : ℤ := time / 86400000 * 86400000

/-- `toUtcDayEndMs`. -/
def toUtcDayEndMs (time : ℤ) : ℤ := toUtcDayStartMs time + 86399999

/-- `extractKickoffs` of fixtures, of which only the kickoff times are read. -/
def extractKickoffs (fixtures : List (Option ℤ)) : List ℤ := fixtures.filterMap id

/-- The window of the fixtures of the first and the last gameweek. -/
def resolveSeasonWindow (seasonId : ℕ) (gw1Fixtures gw38Fixtures : List (Option ℤ)) (now : ℤ) :
    Option SeasonWindow :=
  match (extractKickoffs gw1Fixtures).min?, (extractKickoffs gw38Fixtures).max? with
  | some firstKickoffMs, some lastKickoffMs =>
    some ⟨seasonId, toUtcDayStartMs firstKickoffMs, toUtcDayEndMs lastKickoffMs, now⟩
  | _, _ => none

/-- What `isFPLSeason` returns for a window. -/
def inSeasonWindow (seasonWindow : Option SeasonWindow) (nowMs : ℤ) : Bool :=
  match seasonWindow with
  | none => false
  | some window => window.startDayMs ≤ nowMs ∧ nowMs ≤ window.endDayMs

/-- A call of `isFPLSeason` that reads fixtures, and what it has read by the event. -/
structure SeasonCall where
  seasonId : ℕ
  now : ℤ
  fixtures : ℕ → Option (List (Option ℤ))

/-- What the table of fixtures showed of an event at a time. -/
structure FixtureReading where
  readAt : ℤ
  seasonId : ℕ
  event : ℕ
  fixtures : List (Option ℤ)

/-- What a call of `isFPLSeason` returned. -/
structure SeasonAnswer where
  seasonId : ℕ
  now : ℤ
  inSeason : Bool

/-- The clock, the table of fixtures, the variables of the module, the calls that read, and all that
was read and returned. -/
structure SeasonWorld where
  clock : ℤ
  findByEvent : ℕ → ℕ → List (Option ℤ)
  cachedSeasonWindow : Option SeasonWindow
  cachedSeasonWindowNullAtMs : Option ℤ
  cachedSeasonWindowNullSeasonId : Option ℕ
  calls : List SeasonCall
  readings : List FixtureReading
  answers : List SeasonAnswer

/-- What may happen next. A call is given the present time or an earlier one. -/
inductive SeasonAction where
  | pass (ms : ℕ)
  | reschedule (seasonId event : ℕ) (fixtures : List (Option ℤ))
  | call (seasonId age : ℕ)
  | read (index event : ℕ)
  | resolve (index : ℕ)

namespace SeasonWorld

/-- What is cached for a season and not yet too old. -/
def cached (world : SeasonWorld) (seasonId : ℕ) (now : ℤ) : Option (Option SeasonWindow) :=
  match world.cachedSeasonWindow.filter fun window =>
    window.seasonId = seasonId ∧ now - window.loadedAtMs < seasonWindowCacheTtlMs with
  | some window => some (some window)
  | none =>
    match world.cachedSeasonWindowNullAtMs with
    | none => none
    | some nullAtMs =>
      if world.cachedSeasonWindowNullSeasonId = some seasonId ∧
        now - nullAtMs < seasonWindowCacheTtlMs then some none
      else none

/-- A call returns. -/
def answer (world : SeasonWorld) (seasonId : ℕ) (now : ℤ)
    (seasonWindow : Option SeasonWindow) : SeasonWorld :=
  { world with answers := ⟨seasonId, now, inSeasonWindow seasonWindow now⟩ :: world.answers }

/-- A call reads the fixtures of an event. -/
def read (world : SeasonWorld) (seasonId event : ℕ) : SeasonWorld :=
  { world with
    readings := ⟨world.clock, seasonId, event, world.findByEvent seasonId event⟩ ::
      world.readings }

/-- What `loadSeasonWindow` stores when it has read. -/
def store (world : SeasonWorld) (seasonId : ℕ) (now : ℤ)
    (seasonWindow : Option SeasonWindow) : SeasonWorld :=
  { world with
    cachedSeasonWindow := seasonWindow
    cachedSeasonWindowNullAtMs := if seasonWindow.isNone then some now else none
    cachedSeasonWindowNullSeasonId := if seasonWindow.isNone then some seasonId else none }

/-- One step. -/
def step (world : SeasonWorld) : SeasonAction → SeasonWorld
  | .pass ms => { world with clock := world.clock + ms }
  | .reschedule seasonId event fixtures =>
    { world with
      findByEvent := Function.update world.findByEvent seasonId
        (Function.update (world.findByEvent seasonId) event fixtures) }
  | .call seasonId age =>
    let now := world.clock - age
    match world.cached seasonId now with
    | some seasonWindow => world.answer seasonId now seasonWindow
    | none => { world with calls := ⟨seasonId, now, fun _ => none⟩ :: world.calls }
  | .read index event =>
    match world.calls[index]? with
    | none => world
    | some call =>
      if event = 1 ∨ event = 38 then
        { world.read call.seasonId event with
          calls := world.calls.set index
            { call with
              fixtures := Function.update call.fixtures event
                (some (world.findByEvent call.seasonId event)) } }
      else world
  | .resolve index =>
    match world.calls[index]? with
    | none => world
    | some call =>
      match call.fixtures 1, call.fixtures 38 with
      | some gw1Fixtures, some gw38Fixtures =>
        let resolved := resolveSeasonWindow call.seasonId gw1Fixtures gw38Fixtures call.now
        ({ world with calls := world.calls.eraseIdx index }.store call.seasonId call.now
          resolved).answer call.seasonId call.now resolved
      | _, _ => world

/-- Before any call. -/
def start (clock : ℤ) (findByEvent : ℕ → ℕ → List (Option ℤ)) : SeasonWorld :=
  ⟨clock, findByEvent, none, none, none, [], [], []⟩

/-- Fixtures of an event were read since a time. -/
def ReadSince (readings : List FixtureReading) (seasonId event : ℕ) (since : ℤ)
    (fixtures : List (Option ℤ)) : Prop :=
  ∃ reading ∈ readings, reading.seasonId = seasonId ∧ reading.event = event ∧
    reading.fixtures = fixtures ∧ since ≤ reading.readAt

/-- A window is that of fixtures that were read since a time. -/
def LoadedSince (readings : List FixtureReading) (seasonId : ℕ) (since : ℤ)
    (seasonWindow : Option SeasonWindow) : Prop :=
  ∃ gw1Fixtures gw38Fixtures, ReadSince readings seasonId 1 since gw1Fixtures ∧
    ReadSince readings seasonId 38 since gw38Fixtures ∧
    seasonWindow = resolveSeasonWindow seasonId gw1Fixtures gw38Fixtures since

/-- What is cached was loaded since its time, calls have read since they were made, and answers come
from windows that are not too old. -/
structure Sound (world : SeasonWorld) : Prop where
  window : ∀ window ∈ world.cachedSeasonWindow,
    LoadedSince world.readings window.seasonId window.loadedAtMs (some window)
  absent : ∀ nullAtMs ∈ world.cachedSeasonWindowNullAtMs,
    ∀ seasonId ∈ world.cachedSeasonWindowNullSeasonId,
      LoadedSince world.readings seasonId nullAtMs none
  started : ∀ call ∈ world.calls, call.now ≤ world.clock
  read : ∀ call ∈ world.calls, ∀ event, ∀ fixtures ∈ call.fixtures event,
    ReadSince world.readings call.seasonId event call.now fixtures
  answers : ∀ answer ∈ world.answers, ∃ since seasonWindow,
    answer.now - seasonWindowCacheTtlMs < since ∧
      LoadedSince world.readings answer.seasonId since seasonWindow ∧
      answer.inSeason = inSeasonWindow seasonWindow answer.now

variable {world : SeasonWorld} {seasonId event : ℕ} {now since : ℤ}
  {seasonWindow : Option SeasonWindow}

/-- What was read stays read. -/
theorem ReadSince.read {fixtures : List (Option ℤ)} (event' seasonId' : ℕ)
    (h : ReadSince world.readings seasonId event since fixtures) :
    ReadSince (world.read seasonId' event').readings seasonId event since fixtures :=
  h.imp fun _ => And.imp_left (List.mem_cons_of_mem _)

/-- What was loaded stays loaded. -/
theorem LoadedSince.read (event' seasonId' : ℕ)
    (h : LoadedSince world.readings seasonId since seasonWindow) :
    LoadedSince (world.read seasonId' event').readings seasonId since seasonWindow := by
  obtain ⟨_, _, hgw1, hgw38, hwindow⟩ := h
  exact ⟨_, _, hgw1.read .., hgw38.read .., hwindow⟩

/-- A read leaves everything sound. -/
theorem Sound.readEvent (h : world.Sound) (seasonId event : ℕ) :
    (world.read seasonId event).Sound where
  window window hwindow := (h.window window hwindow).read ..
  absent nullAtMs hnull id hid := (h.absent nullAtMs hnull id hid).read ..
  started := h.started
  read call hcall other fixtures hfixtures :=
    (h.read call hcall other fixtures hfixtures).read ..
  answers answer hanswer := by
    obtain ⟨_, _, hsince, hloaded, heq⟩ := h.answers answer hanswer
    exact ⟨_, _, hsince, hloaded.read .., heq⟩

/-- What a call finds cached was loaded within the last ten minutes. -/
theorem Sound.of_cached (h : world.Sound)
    (hcached : world.cached seasonId now = some seasonWindow) :
    ∃ since, now - seasonWindowCacheTtlMs < since ∧
      LoadedSince world.readings seasonId since seasonWindow := by
  unfold SeasonWorld.cached at hcached
  split at hcached
  next window hwindow =>
    obtain rfl := Option.some.inj hcached
    obtain ⟨hmem, hfresh⟩ := Option.filter_eq_some_iff.mp hwindow
    obtain ⟨rfl, hage⟩ := of_decide_eq_true hfresh
    exact ⟨window.loadedAtMs, by omega, h.window window hmem⟩
  next =>
    split at hcached
    next => cases hcached
    next nullAtMs hnull =>
      split at hcached
      next hfresh =>
        obtain rfl := Option.some.inj hcached
        exact ⟨nullAtMs, by omega, h.absent nullAtMs hnull seasonId hfresh.1⟩
      next => cases hcached

/-- An answer of a window that is not too old. -/
theorem Sound.answer (h : world.Sound) (hsince : now - seasonWindowCacheTtlMs < since)
    (hloaded : LoadedSince world.readings seasonId since seasonWindow) :
    (world.answer seasonId now seasonWindow).Sound where
  window := h.window
  absent := h.absent
  started := h.started
  read := h.read
  answers answer hanswer := by
    obtain rfl | hbefore := List.mem_cons.mp hanswer
    · exact ⟨since, seasonWindow, hsince, hloaded, rfl⟩
    · exact h.answers answer hbefore

/-- What was loaded is stored with the time since which it was. -/
theorem Sound.store (h : world.Sound)
    (hloaded : LoadedSince world.readings seasonId since seasonWindow) :
    (world.store seasonId since seasonWindow).Sound := by
  cases seasonWindow with
  | none =>
    refine ⟨nofun, fun nullAtMs hnull id hid => ?_, h.started, h.read, h.answers⟩
    obtain rfl := Option.some.inj hnull
    obtain rfl := Option.some.inj hid
    exact hloaded
  | some resolved =>
    refine ⟨fun window hwindow => ?_, nofun, h.started, h.read, h.answers⟩
    obtain rfl := Option.some.inj hwindow
    have ⟨_, _, _, _, heq⟩ := hloaded
    unfold resolveSeasonWindow at heq
    split at heq
    next =>
      obtain rfl := Option.some.inj heq
      exact hloaded
    next => cases heq

/-- Every step leaves everything sound. -/
theorem Sound.step (h : world.Sound) (action : SeasonAction) : (world.step action).Sound := by
  cases action with
  | pass ms =>
    have hclock : world.clock ≤ world.clock + ms := by omega
    exact ⟨h.window, h.absent, fun call hcall => (h.started call hcall).trans hclock, h.read,
      h.answers⟩
  | reschedule seasonId event fixtures =>
    exact ⟨h.window, h.absent, h.started, h.read, h.answers⟩
  | call seasonId age =>
    dsimp only [SeasonWorld.step]
    split
    next seasonWindow hcached =>
      obtain ⟨since, hsince, hloaded⟩ := h.of_cached hcached
      exact h.answer hsince hloaded
    next =>
      refine ⟨h.window, h.absent, fun call hcall => ?_, fun call hcall => ?_, h.answers⟩
      all_goals obtain rfl | hbefore := List.mem_cons.mp hcall
      · exact sub_le_self _ (Int.natCast_nonneg age)
      · exact h.started call hbefore
      · exact fun _ => nofun
      · exact h.read call hbefore
  | read index event =>
    dsimp only [SeasonWorld.step]
    split
    next => exact h
    next call hcall =>
      have hmem := List.mem_of_getElem? hcall
      have hread := h.readEvent call.seasonId event
      split
      next =>
        refine ⟨hread.window, hread.absent, fun other hother => ?_, fun other hother => ?_,
          hread.answers⟩
        all_goals obtain hbefore | rfl := List.mem_or_eq_of_mem_set hother
        · exact h.started other hbefore
        · exact h.started call hmem
        · exact hread.read other hbefore
        · intro other fixtures hfixtures
          by_cases hsame : other = event
          · subst hsame
            obtain rfl : world.findByEvent call.seasonId other = fixtures := by
              simpa using hfixtures
            exact ⟨_, List.mem_cons_self, rfl, rfl, rfl, h.started call hmem⟩
          · exact hread.read call hmem other fixtures (by simpa [hsame] using hfixtures)
      next => exact h
  | resolve index =>
    dsimp only [SeasonWorld.step]
    split
    next => exact h
    next call hcall =>
      have hmem := List.mem_of_getElem? hcall
      split
      next gw1Fixtures gw38Fixtures hgw1 hgw38 =>
        have hloaded : LoadedSince world.readings call.seasonId call.now
            (resolveSeasonWindow call.seasonId gw1Fixtures gw38Fixtures call.now) :=
          ⟨gw1Fixtures, gw38Fixtures, h.read call hmem 1 gw1Fixtures hgw1,
            h.read call hmem 38 gw38Fixtures hgw38, rfl⟩
        have hleft : Sound { world with calls := world.calls.eraseIdx index } :=
          ⟨h.window, h.absent, fun other hother => h.started other (List.mem_of_mem_eraseIdx hother),
            fun other hother => h.read other (List.mem_of_mem_eraseIdx hother), h.answers⟩
        exact (hleft.store hloaded).answer (sub_lt_self call.now (by decide)) hloaded
      next => exact h

end SeasonWorld

open SeasonWorld

/-- In every interleaving of calls with each other and with changes of the fixtures, a call answers
from a window of fixtures of its season that were read less than ten minutes before its time, or
later. -/
theorem isFPLSeason_answers_recent (clock : ℤ) (findByEvent : ℕ → ℕ → List (Option ℤ))
    (actions : List SeasonAction) :
    let world := runSteps SeasonWorld.step (start clock findByEvent) actions
    ∀ answer ∈ world.answers, ∃ since gw1Fixtures gw38Fixtures,
      answer.now - seasonWindowCacheTtlMs < since ∧
        ReadSince world.readings answer.seasonId 1 since gw1Fixtures ∧
        ReadSince world.readings answer.seasonId 38 since gw38Fixtures ∧
        answer.inSeason = inSeasonWindow
          (resolveSeasonWindow answer.seasonId gw1Fixtures gw38Fixtures since) answer.now := by
  intro world answer hanswer
  have h : world.Sound := runSteps_invariant (fun _ action h => h.step action) _ actions
    ⟨nofun, nofun, nofun, nofun, nofun⟩
  obtain ⟨_, _, hsince, ⟨_, _, hgw1, hgw38, rfl⟩, heq⟩ := h.answers answer hanswer
  exact ⟨_, _, _, hsince, hgw1, hgw38, heq⟩

end LetletmeData
