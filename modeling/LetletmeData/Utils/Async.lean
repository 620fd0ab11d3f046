import Mathlib.Algebra.Order.Group.Int
import Mathlib.Data.List.Perm.Basic
import LetletmeData.Library.Runs
import LetletmeData.Library.Transactions

/-!
# Concurrent maps

`mapWithConcurrency` handles a list of items with a few workers that share a cursor. A worker takes
the next item when the handler of its last one is fulfilled, so handlers settle in any order. A
worker whose handler is rejected leaves, and with it the call is rejected; the others go on.
-/

namespace LetletmeData

open LetletmeData.Library

/-- A call of `mapWithConcurrency`. Each worker in its loop awaits the handler of an item; the
others are at their end, or were rejected with a failure. Beside them stand the items whose handlers
have settled. -/
structure ConcurrentMap (Item Result Failure : Type) where
  cursor : ℕ
  results : List (Option Result)
  awaiting : List (Item × ℕ)
  returned : ℕ
  failures : List Failure
  settled : List (Item × ℕ)

namespace ConcurrentMap

variable {Item Result Failure : Type}

section Calls

variable (items : List Item) (handler : Item → ℕ → Except Failure Result)

/-- `workerCount`. -/
def workerCount (concurrency : ℤ) : ℕ := (max 1 (min concurrency items.length)).toNat

/-- The call up to `Promise.all`: every worker has taken one of the first items. -/
def start (concurrency : ℤ) : ConcurrentMap Item Result Failure :=
  if items.isEmpty then ⟨0, [], [], 0, [], []⟩
  else
    let workerCount := workerCount items concurrency
    ⟨workerCount, List.replicate items.length none, items.zipIdx.take workerCount, 0, [], []⟩

/-- `while (cursor < items.length)` of a worker, up to its next `await`. -/
def proceed (map : ConcurrentMap Item Result Failure) : ConcurrentMap Item Result Failure :=
  match items[map.cursor]? with
  | none => { map with returned := map.returned + 1 }
  | some item =>
    { map with cursor := map.cursor + 1, awaiting := (item, map.cursor) :: map.awaiting }

/-- The handler that is awaited at an index settles. -/
def settle (map : ConcurrentMap Item Result Failure) (index : ℕ) :
    ConcurrentMap Item Result Failure :=
  match map.awaiting.find? (·.2 = index) with
  | none => map
  | some call =>
    let left :=
      { map with
        awaiting := map.awaiting.eraseP (·.2 = index)
        settled := call :: map.settled }
    match handler call.1 call.2 with
    | .ok result => { left with results := map.results.set call.2 (some result) }.proceed items
    | .error failure => { left with failures := map.failures ++ [failure] }

/-- What the promise of the call has settled with. -/
def outcome (map : ConcurrentMap Item Result Failure) :
    Option (Except Failure (List (Option Result))) :=
  match map.failures with
  | failure :: _ => some (.error failure)
  | [] => if map.awaiting.isEmpty then some (.ok map.results) else none

/-- The plain loop that awaits one handler after the other. -/
def oneByOne : Except Failure (List Result) := items.zipIdx.mapM fun call => handler call.1 call.2

/-- The handlers of the first items were called, each once; every worker is accounted for, and is
at its end only when all items are taken; and what has settled is recorded. -/
structure Sound (concurrency : ℤ) (map : ConcurrentMap Item Result Failure) : Prop where
  cursor : map.cursor ≤ items.length
  called : (map.awaiting ++ map.settled).Perm (items.zipIdx.take map.cursor)
  workers : items ≠ [] →
    map.awaiting.length + map.returned + map.failures.length = workerCount items concurrency
  returned : 0 < map.returned → map.cursor = items.length
  results : map.results.length = items.length
  recorded : ∀ call ∈ map.settled, ∀ result, handler call.1 call.2 = .ok result →
    map.results[call.2]? = some (some result)
  failures : ∀ failure, failure ∈ map.failures ↔
    ∃ call ∈ map.settled, handler call.1 call.2 = .error failure

end Calls

variable {items : List Item} {handler : Item → ℕ → Except Failure Result} {concurrency : ℤ}
  {map : ConcurrentMap Item Result Failure}

/-- A call without items has no workers. -/
theorem Sound.eq_nil (h : map.Sound items handler concurrency) (hitems : items = []) :
    map.awaiting = [] ∧ map.settled = [] := by
  have hcalled := h.called
  rw [hitems, List.zipIdx_nil, List.take_nil] at hcalled
  exact List.append_eq_nil_iff.mp hcalled.eq_nil

/-- A call that was made is one of an item. -/
theorem Sound.getElem?_of_mem (h : map.Sound items handler concurrency) {call : Item × ℕ}
    (hcall : call ∈ map.awaiting ++ map.settled) : items[call.2]? = some call.1 :=
  List.mem_zipIdx_iff_getElem?.mp (List.mem_of_mem_take (h.called.subset hcall))

/-- At first everything is sound. -/
theorem sound_start (items : List Item) (handler : Item → ℕ → Except Failure Result)
    (concurrency : ℤ) : (start items concurrency).Sound items handler concurrency := by
  unfold start
  split
  next hempty =>
    have hnil : items = [] := List.isEmpty_iff.mp hempty
    subst hnil
    exact ⟨le_rfl, .nil, fun hne => absurd rfl hne, nofun, rfl, nofun, by simp⟩
  next hitems =>
    have hlength : 0 < items.length := List.length_pos_iff.mpr fun hnil => hitems (by simp [hnil])
    have hcount : workerCount items concurrency ≤ items.length := by
      unfold workerCount
      omega
    refine ⟨hcount, ?_, fun _ => ?_, nofun, List.length_replicate, nofun, by simp⟩
    · rw [List.append_nil]
    · simp [hcount]

/-- A handler that is awaited at an index is taken out once. -/
theorem exists_of_find?_awaiting {awaiting : List (Item × ℕ)} {index : ℕ} {call : Item × ℕ}
    (hfind : awaiting.find? (·.2 = index) = some call) :
    (call :: awaiting.eraseP (·.2 = index)).Perm awaiting := by
  obtain ⟨hindex, before, after, rfl, hbefore⟩ := List.find?_eq_some_iff_append.mp hfind
  have hafter : (call :: after).eraseP (·.2 = index) = after := List.eraseP_cons_of_pos hindex
  rw [List.eraseP_append_right _ fun call hcall => by simpa using hbefore call hcall, hafter]
  exact List.perm_middle.symm

/-- The result of a handler is recorded, and those before it stay recorded. -/
theorem Sound.recorded_set (h : map.Sound items handler concurrency) {call : Item × ℕ}
    (hcall : call ∈ map.awaiting) {result : Result} (hresult : handler call.1 call.2 = .ok result) :
    ∀ other ∈ call :: map.settled, ∀ value, handler other.1 other.2 = .ok value →
      (map.results.set call.2 (some result))[other.2]? = some (some value) := by
  intro other hother value hvalue
  have hitem := h.getElem?_of_mem (List.mem_append_left _ hcall)
  by_cases hsame : other.2 = call.2
  · have hmade : other ∈ map.awaiting ++ map.settled := by
      rcases List.mem_cons.mp hother with rfl | hsettled
      · exact List.mem_append_left _ hcall
      · exact List.mem_append_right _ hsettled
    have hotherItem := h.getElem?_of_mem hmade
    rw [hsame, hitem] at hotherItem
    obtain rfl : call = other := Prod.ext (Option.some.inj hotherItem) hsame.symm
    have hbound := (List.getElem?_eq_some_iff.mp hitem).1
    rw [hresult] at hvalue
    rw [List.getElem?_set_self (h.results ▸ hbound), Except.ok.inj hvalue]
  · have hsettled := (List.mem_cons.mp hother).resolve_left (hsame <| congrArg Prod.snd ·)
    rw [List.getElem?_set_ne (Ne.symm hsame)]
    exact h.recorded other hsettled value hvalue

/-- A handler that settles keeps everything sound. -/
theorem Sound.settle (h : map.Sound items handler concurrency) (index : ℕ) :
    (map.settle items handler index).Sound items handler concurrency := by
  unfold ConcurrentMap.settle
  split
  next => exact h
  next call hfind =>
    have hperm := exists_of_find?_awaiting hfind
    have hmem := hperm.subset List.mem_cons_self
    have hcall := h.getElem?_of_mem (List.mem_append_left _ hmem)
    obtain ⟨hbound, -⟩ := List.getElem?_eq_some_iff.mp hcall
    have hne : items ≠ [] := List.ne_nil_of_length_pos (Nat.zero_lt_of_lt hbound)
    have hworkers := h.workers hne
    have hlength := hperm.length_eq
    have hcalled : (map.awaiting.eraseP (·.2 = index) ++ call :: map.settled).Perm
        (items.zipIdx.take map.cursor) :=
      (List.perm_middle.trans (hperm.append_right _)).trans h.called
    rw [List.length_cons] at hlength
    dsimp only
    split
    next result hresult =>
      have hrecorded := h.recorded_set hmem hresult
      have hfailures : ∀ failure, failure ∈ map.failures ↔
          ∃ other ∈ call :: map.settled, handler other.1 other.2 = .error failure := by
        intro failure
        simp [hresult, h.failures failure]
      unfold proceed
      split
      next hnone =>
        have hcursor : items.length ≤ map.cursor := List.getElem?_eq_none_iff.mp hnone
        refine ⟨h.cursor, hcalled, fun _ => ?_, fun _ => le_antisymm h.cursor hcursor,
          List.length_set.trans h.results, hrecorded, hfailures⟩
        dsimp only
        omega
      next item hitem =>
        obtain ⟨hcursor, hitem⟩ := List.getElem?_eq_some_iff.mp hitem
        refine ⟨hcursor, ?_, fun _ => ?_, fun hreturned => ?_, List.length_set.trans h.results,
          hrecorded, hfailures⟩
        · have htake : items.zipIdx.take (map.cursor + 1) =
              items.zipIdx.take map.cursor ++ [(item, map.cursor)] := by
            rw [List.take_add_one, List.getElem?_zipIdx, List.getElem?_eq_getElem hcursor]
            simp [← hitem]
          rw [htake]
          exact (hcalled.cons _).trans (List.perm_append_singleton _ _).symm
        · simp only [List.length_cons]
          omega
        · exact absurd (h.returned hreturned) hcursor.ne
    next failure hresult =>
      refine ⟨h.cursor, hcalled, fun _ => ?_, h.returned, h.results, ?_, fun other => ?_⟩
      · simp only [List.length_append, List.length_singleton]
        omega
      · intro other hother value hvalue
        rcases List.mem_cons.mp hother with rfl | hsettled
        · rw [hresult] at hvalue
          cases hvalue
        · exact h.recorded other hsettled value hvalue
      · simp [hresult, h.failures other, or_comm, eq_comm]

/-- Whatever the order in which handlers settle, everything stays sound. -/
theorem sound_run (items : List Item) (handler : Item → ℕ → Except Failure Result)
    (concurrency : ℤ) (order : List ℕ) :
    (runSteps (settle items handler) (start items concurrency) order).Sound items handler
      concurrency :=
  runSteps_invariant (fun _ index h => h.settle index) _ order
    (sound_start items handler concurrency)

/-- A worker that still had one to wait for settles one more. -/
theorem length_settled_settle {index : ℕ} (h : ∃ call ∈ map.awaiting, call.2 = index) :
    (map.settle items handler index).settled.length = map.settled.length + 1 := by
  obtain ⟨call, hcall, hindex⟩ := h
  unfold ConcurrentMap.settle proceed
  split
  next hfind =>
    exact absurd (decide_eq_true hindex) (List.find?_eq_none.mp hfind call hcall)
  next =>
    dsimp only
    split
    · split <;> rfl
    · rfl

/-- Handlers that settle while they are awaited settle once each. -/
theorem length_settled_run {order : List ℕ}
    (h : EveryStep (settle items handler) (fun map index => ∃ call ∈ map.awaiting, call.2 = index)
      map order) :
    (runSteps (settle items handler) map order).settled.length =
      map.settled.length + order.length := by
  induction order generalizing map with
  | nil => rfl
  | cons index rest ih =>
    rw [runSteps_cons, ih h.2, length_settled_settle h.1, List.length_cons]
    omega

/-- When nothing is awaited and a worker came to its end, every item was handled. -/
theorem Sound.settled_perm (h : map.Sound items handler concurrency)
    (hawaiting : map.awaiting = [])
    (hfailures : map.failures.length < workerCount items concurrency) :
    map.settled.Perm items.zipIdx := by
  by_cases hitems : items = []
  · rw [(h.eq_nil hitems).2, hitems, List.zipIdx_nil]
  · have hworkers := h.workers hitems
    rw [hawaiting, List.length_nil] at hworkers
    have hcursor := h.returned (by omega)
    have hcalled := h.called
    rwa [hawaiting, List.nil_append, hcursor, List.take_of_length_le (by simp)] at hcalled

/-- Once every item was handled, the plain loop returns the list of the results. -/
theorem Sound.results_eq (h : map.Sound items handler concurrency)
    (hsettled : map.settled.Perm items.zipIdx) {values : List Result}
    (hvalues : oneByOne items handler = .ok values) : map.results = values.map some := by
  have hpasses := mapM_eq_ok.mp hvalues
  have hlength : items.length = values.length := by simpa using hpasses.length_eq
  refine List.ext_getElem (by simp [h.results, hlength]) fun index hindex _ => ?_
  rw [h.results] at hindex
  have hpass := (List.forall₂_iff_get.mp hpasses).2 index (by simpa using hindex)
    (hlength ▸ hindex)
  have hcall : (items[index], index) ∈ map.settled :=
    hsettled.symm.subset (List.mem_zipIdx_iff_getElem?.mpr (List.getElem?_eq_getElem hindex))
  have hrecorded := h.recorded _ hcall values[index] (by simpa using hpass)
  simpa [List.getElem?_eq_some_iff, h.results, hindex] using hrecorded

/-- A call that nothing is awaited of has settled as the plain loop returns, or with the failure of
a handler that the plain loop has as well. -/
theorem Sound.outcome_eq (h : map.Sound items handler concurrency)
    (hawaiting : map.awaiting = []) :
    (∀ values, oneByOne items handler = .ok values →
      map.outcome = some (.ok (values.map some))) ∧
    ∀ failure, oneByOne items handler = .error failure →
      ∃ call ∈ map.settled, ∃ failure, handler call.1 call.2 = .error failure ∧
        map.outcome = some (.error failure) := by
  have hcount : 0 < workerCount items concurrency := by
    unfold workerCount
    omega
  unfold outcome
  constructor
  · intro values hvalues
    have hpasses := exists_mapM_eq_ok.mp ⟨values, hvalues⟩
    have hnone : map.failures = [] := by
      refine List.eq_nil_iff_forall_not_mem.mpr fun failure hfailure => ?_
      obtain ⟨call, hcall, hfailed⟩ := (h.failures failure).mp hfailure
      have hitem := h.getElem?_of_mem (List.mem_append_right _ hcall)
      obtain ⟨result, hresult⟩ := hpasses call (List.mem_zipIdx_iff_getElem?.mpr hitem)
      rw [hfailed] at hresult
      cases hresult
    have hsettled := h.settled_perm hawaiting (by simpa [hnone] using hcount)
    simp [hnone, hawaiting, h.results_eq hsettled hvalues]
  · intro failure hfailure
    cases hfailures : map.failures with
    | cons first rest =>
      obtain ⟨call, hcall, hfailed⟩ := (h.failures first).mp (by simp [hfailures])
      exact ⟨call, hcall, first, hfailed, rfl⟩
    | nil =>
      have hsettled := h.settled_perm hawaiting (by simpa [hfailures] using hcount)
      have hreturns : ∃ values, oneByOne items handler = .ok values := by
        refine exists_mapM_eq_ok.mpr fun call hcall => ?_
        cases hresult : handler call.1 call.2 with
        | ok result => exact ⟨result, rfl⟩
        | error failed =>
          have := (h.failures failed).mpr ⟨call, hsettled.symm.subset hcall, hresult⟩
          rw [hfailures] at this
          cases this
      obtain ⟨values, hvalues⟩ := hreturns
      rw [hvalues] at hfailure
      cases hfailure

end ConcurrentMap

open ConcurrentMap

/-- Whatever the order in which the handlers settle, the handlers of the first items are called
once each, no more at a time than there are workers. When none is awaited, the call has settled as
the plain loop that handles one item after the other: with the same results in the same order, or
with the failure of a handler that settled. -/
theorem mapWithConcurrency_agrees {Item Result Failure : Type} (items : List Item)
    (handler : Item → ℕ → Except Failure Result) (concurrency : ℤ) (order : List ℕ) :
    let map := runSteps (settle items handler) (start items concurrency) order
    (map.awaiting ++ map.settled).Perm (items.zipIdx.take map.cursor) ∧
      map.awaiting.length ≤ workerCount items concurrency ∧
      (EveryStep (settle items handler) (fun map index => ∃ call ∈ map.awaiting, call.2 = index)
        (start items concurrency) order → order.length ≤ items.length) ∧
      (map.awaiting = [] →
        (∀ values, oneByOne items handler = .ok values →
          map.outcome = some (.ok (values.map some))) ∧
        ∀ failure, oneByOne items handler = .error failure →
          ∃ call ∈ map.settled, ∃ failure, handler call.1 call.2 = .error failure ∧
            map.outcome = some (.error failure)) := by
  intro map
  have h : map.Sound items handler concurrency := sound_run items handler concurrency order
  refine ⟨h.called, ?_, fun horder => ?_, h.outcome_eq⟩
  · by_cases hitems : items = []
    · simp [(h.eq_nil hitems).1]
    · have hworkers := h.workers hitems
      omega
  · have hsettled := length_settled_run horder
    have hlength := h.called.length_eq
    rw [List.length_append, List.length_take, List.length_zipIdx] at hlength
    change map.settled.length = _ at hsettled
    omega

/-- A handler that is rejected ends its worker alone. When no handler is awaited, at most one has
failed for each worker; with fewer failures, every item was handled, although the call may be
rejected. -/
theorem mapWithConcurrency_failures {Item Result Failure : Type} (items : List Item)
    (handler : Item → ℕ → Except Failure Result) (concurrency : ℤ) (order : List ℕ)
    (hawaiting : (runSteps (settle items handler) (start items concurrency) order).awaiting = []) :
    let map := runSteps (settle items handler) (start items concurrency) order
    map.failures.length ≤ workerCount items concurrency ∧
      (map.failures.length < workerCount items concurrency → map.settled.Perm items.zipIdx) := by
  intro map
  have h : map.Sound items handler concurrency := sound_run items handler concurrency order
  refine ⟨?_, h.settled_perm hawaiting⟩
  by_cases hitems : items = []
  · have hnone : map.failures = [] := by
      refine List.eq_nil_iff_forall_not_mem.mpr fun failure hfailure => ?_
      obtain ⟨call, hcall, _⟩ := (h.failures failure).mp hfailure
      rw [(h.eq_nil hitems).2] at hcall
      cases hcall
    simp [hnone]
  · have hworkers := h.workers hitems
    omega

/-- Three items for two workers: the first is rejected, and the other worker handles the rest. -/
theorem mapWithConcurrency_failures_threeItems :
    let handler := fun item _ => if item = 7 then .error "failed" else .ok (item + 1)
    let map : ConcurrentMap ℕ ℕ String := runSteps (settle [7, 8, 9] handler) (start [7, 8, 9] 2)
      [0, 1, 2]
    map.failures.length ≤ workerCount [7, 8, 9] 2 ∧
      (map.failures.length < workerCount [7, 8, 9] 2 → map.settled.Perm [(7, 0), (8, 1), (9, 2)]) :=
  mapWithConcurrency_failures [7, 8, 9] _ 2 [0, 1, 2] (by decide)

end LetletmeData
