import Mathlib.Data.List.Dedup
import LetletmeData.Library.OrderedLocks
import LetletmeData.Domain.MutationScope

/-!
# Scopes held by database transactions

A call locks one row for each of its scopes, in lexical order and one at a time, inside the
transaction its body runs in. The end of the transaction, by commit, error or timeout, releases
all of them. A call without scopes runs its body without any lock.
-/

namespace LetletmeData

open LetletmeData.Library

/-- `[...new Set(scopes.map((scope) => scope.trim()).filter(Boolean))].sort()`; which occurrence
of a scope is kept does not matter once they are sorted. -/
def normalizedScopes (scopes : List String) : List String :=
  ((scopes.map trimText).filter (· ≠ "")).dedup.insertionSort (· ≤ ·)

/-- The rows `withMutationScopes` locks for a job without explicit scopes. -/
def jobScopes (input : MutationScopeInput) : List String :=
  normalizedScopes (resolveMutationScopes input)

/-- The rows `withMutationScopes` locks for a call with explicit scopes. -/
def lockedScopes (input : MutationScopeInput) (scopes : List String) : List String :=
  normalizedScopes (if scopes ≠ [] then scopes else resolveMutationScopes input)

/-- The state of the scope rows and of all calls. -/
abbrev ScopeWorld (Caller : Type*) := LockWorld Caller String

/-- One step of a caller of `withDatabaseMutationScopes`, each with a job of its own. -/
def scopeStep {Caller : Type*} [DecidableEq Caller] (jobs : Caller → MutationScopeInput)
    (world : ScopeWorld Caller) (action : LockAction Caller) : ScopeWorld Caller :=
  world.step (fun caller => jobScopes (jobs caller)) action

/-- Normalized scopes ascend. -/
theorem sortedLT_normalizedScopes (scopes : List String) : (normalizedScopes scopes).SortedLT := by
  have hsorted : (normalizedScopes scopes).SortedLE := List.sortedLE_insertionSort
  have hnodup : (normalizedScopes scopes).Nodup :=
    (List.perm_insertionSort _ _).nodup_iff.mpr (List.nodup_dedup _)
  exact hsorted.sortedLT_of_nodup hnodup

/-- A normalized scope is a given one, trimmed and not empty. -/
theorem mem_normalizedScopes {scopes : List String} {scope : String} :
    scope ∈ normalizedScopes scopes ↔ ∃ given ∈ scopes, trimText given = scope ∧ scope ≠ "" := by
  simp only [normalizedScopes, List.mem_insertionSort, List.mem_dedup, List.mem_filter,
    List.mem_map, decide_eq_true_eq]
  constructor
  · intro h
    obtain ⟨⟨given, hgiven, hscope⟩, hne⟩ := h
    exact ⟨given, hgiven, hscope, hne⟩
  · intro h
    obtain ⟨given, hgiven, hscope, hne⟩ := h
    exact ⟨⟨given, hgiven, hscope⟩, hne⟩

/-- A resolved scope is locked under its trimmed name. -/
theorem trimText_mem_jobScopes {input : MutationScopeInput} {scope : String}
    (h : scope ∈ resolveMutationScopes input) : trimText scope ∈ jobScopes input :=
  mem_normalizedScopes.mpr
    ⟨scope, h, rfl, (startsPlain_of_mem_resolveMutationScopes input scope h).trimText_ne_empty⟩

/-- Whatever the callers and the order of their steps, no callers wait for each other in a
circle, and callers whose jobs resolve to a common scope are not inside together. -/
theorem mutationScopes_deadlockFree {Caller : Type*} [DecidableEq Caller]
    (jobs : Caller → MutationScopeInput) (actions : List (LockAction Caller)) :
    (∀ caller,
      ¬ Relation.TransGen (runSteps (scopeStep jobs) .initial actions).WaitsFor caller caller) ∧
    ∀ first second, first ≠ second →
      (∃ scope ∈ resolveMutationScopes (jobs first), scope ∈ resolveMutationScopes (jobs second)) →
        ¬ ((runSteps (scopeStep jobs) .initial actions).Inside first ∧
          (runSteps (scopeStep jobs) .initial actions).Inside second) := by
  constructor
  · intro caller
    exact LockWorld.acyclic_runSteps (fun caller => sortedLT_normalizedScopes _) actions caller
  · intro first second hne hcommon
    obtain ⟨scope, hfirst, hsecond⟩ := hcommon
    exact LockWorld.not_inside_of_common (LockWorld.holds_runSteps actions) hne
      (trimText_mem_jobScopes hfirst) (trimText_mem_jobScopes hsecond)

end LetletmeData
