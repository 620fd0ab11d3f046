import Mathlib.Data.List.Dedup
import Mathlib.Data.List.Sort
import Mathlib.Data.String.Basic
import Mathlib.Data.List.TakeWhile
import LetletmeData.Library.JavaScript

/-!
# Mutation scopes

The names of the rows a job locks before it writes. A job of any queue and name resolves to a
list of scopes, some of them with an event or a tournament in their name.
-/

namespace LetletmeData

open LetletmeData.Library

/-- A number as a scope name uses it: whether it is finite, and the text it is printed as. -/
structure ScopeNumber where
  isFinite : Bool
  text : String
  deriving DecidableEq

/-- `MutationScopeInput`. -/
structure MutationScopeInput where
  queueName : String
  jobName : String
  eventId : Option ScopeNumber
  tournamentId : Option ScopeNumber
  deriving DecidableEq

/-- `TOURNAMENT_STRUCTURE_GLOBAL_SCOPE`. -/
def tournamentStructureGlobalScope : String := "tournament-structure:global"

/-- A scope for one identifier, or for all of them when none is given that is finite. -/
def scopeWith (kind scope : String) (id : Option ScopeNumber) : String :=
  match id with
  | some ⟨true, text⟩ => scope ++ (":" ++ kind ++ ":" ++ text)
  | _ => scope ++ ":all"

/-- `withEvent`. -/
def withEvent (scope : String) (eventId : Option ScopeNumber) : String :=
  scopeWith "event" scope eventId

/-- `withTournament`. -/
def withTournament (scope : String) (tournamentId : Option ScopeNumber) : String :=
  scopeWith "tournament" scope tournamentId

/-- The scopes of the `data-sync` queue. -/
def dataSyncScopes (jobName : String) : List String :=
  match jobName with
  | "core-snapshot" =>
    ["data-core:events", "data-core:teams", "data-core:players", "data-core:phases",
      "data-core:fixtures"]
  | "player-prices" => ["data-core:players"]
  | "player-stats" => ["data-core:players"]
  | "player-values" => ["data-core:player-values"]
  | _ => []

/-- The scopes of the `entry-sync` queue; `entry-info` is locked entry by entry elsewhere. -/
def entrySyncScopes (jobName : String) (eventId : Option ScopeNumber) : List String :=
  match jobName with
  | "entry-picks" => [withEvent "entry-event-picks" eventId]
  | "entry-transfers" => [withEvent "entry-event-transfers" eventId]
  | "entry-results" => [withEvent "entry-event-results" eventId]
  | _ => []

/-- The scopes of the `live-data` queue. -/
def liveDataScopes (jobName : String) (eventId : Option ScopeNumber) : List String :=
  match jobName with
  | "live-snapshot" => ["data-core:fixtures", withEvent "live-snapshot" eventId]
  | _ => []

/-- The scopes of the `league-sync` queue. -/
def leagueSyncScopes (jobName : String) (eventId tournamentId : Option ScopeNumber) :
    List String :=
  match jobName with
  | "league-event-picks" =>
    [withEvent "entry-event-picks" eventId, withTournament "league-event-picks" tournamentId]
  | "league-event-results" =>
    [withEvent "entry-event-results" eventId, withEvent "league-event-results" eventId,
      withTournament "league-event-results" tournamentId]
  | _ => []

/-- The scopes of the `tournament-sync` queue. -/
def tournamentSyncScopes (jobName : String) (eventId : Option ScopeNumber) : List String :=
  match jobName with
  | "tournament-event-results" =>
    -- the core events stay fenced until the cascade is handed over
    ["data-core:events", withEvent "entry-event-picks" eventId,
      withEvent "entry-event-transfers" eventId, withEvent "entry-event-results" eventId,
      withEvent "tournament-event-results" eventId]
  | "tournament-event-picks" =>
    [withEvent "entry-event-picks" eventId, withEvent "tournament-event-mutations" eventId]
  | "tournament-transfers-pre" | "tournament-transfers-post" =>
    [withEvent "entry-event-transfers" eventId, withEvent "tournament-event-mutations" eventId]
  | "tournament-selection-stats" => [withEvent "tournament-event-mutations" eventId]
  | "tournament-points-race" | "tournament-battle-race" | "tournament-knockout"
  | "tournament-official-h2h" =>
    [withEvent "tournament-structure" eventId, tournamentStructureGlobalScope]
  | "tournament-cup-results" => [withEvent "tournament-cup-results" eventId]
  | "tournament-materialized-views-refresh" =>
    [tournamentStructureGlobalScope, "data-core:events"]
  | "tournament-info" => ["tournament-info:all"]
  | _ => []

/-- `resolveMutationScopes`. -/
def resolveMutationScopes (input : MutationScopeInput) : List String :=
  match input.queueName with
  | "data-sync" => dataSyncScopes input.jobName
  | "entry-sync" => entrySyncScopes input.jobName input.eventId
  | "live-data" => liveDataScopes input.jobName input.eventId
  | "league-sync" => leagueSyncScopes input.jobName input.eventId input.tournamentId
  | "tournament-sync" => tournamentSyncScopes input.jobName input.eventId
  -- setup locks its phases with scopes of their own
  | "tournament-setup" => []
  | "understat-mappings" | "understat-team-sync" | "understat-player-sync" =>
    ["understat:reference:all"]
  | "bridge" => ["bridge:all"]
  | _ => []

/-- A finite number that is a natural one. -/
def ScopeNumber.ofNat (number : ℕ) : ScopeNumber := ⟨true, toString number⟩

/-- `tournamentSetupRebuildScopes`. -/
def tournamentSetupRebuildScopes (tournamentId : ScopeNumber) : List String :=
  [withTournament "tournament-structure" (some tournamentId), tournamentStructureGlobalScope]

/-- `tournamentSetupBackfillEventScopes`. -/
def tournamentSetupBackfillEventScopes (eventId : ScopeNumber) : List String :=
  [withEvent "tournament-structure" (some eventId), tournamentStructureGlobalScope]

/-- `tournamentSetupLifecycleScope`. -/
def tournamentSetupLifecycleScope (tournamentId : ScopeNumber) : String :=
  withTournament "tournament-setup" (some tournamentId)

/-- `tournamentEntryCoreScopes`. -/
def tournamentEntryCoreScopes (seasonId : ℕ) (entryIds : List ℤ) : List String :=
  (((entryIds.filter (0 < ·)).map fun entryId =>
    "entry-core:" ++ (toString seasonId ++ (":" ++ toString entryId))).dedup).insertionSort (· ≤ ·)

/-- The text starts with a character that trimming keeps. -/
def StartsPlain (text : String) : Prop :=
  ∃ first rest, text.toList = first :: rest ∧ isTrimmed first = false

/-- A literal starts with its first character. -/
theorem startsPlain_ofList {first : Char} {rest : List Char} (h : isTrimmed first = false) :
    StartsPlain (String.ofList (first :: rest)) :=
  ⟨first, rest, String.toList_ofList, h⟩

/-- What is appended does not matter. -/
theorem StartsPlain.append {text : String} (h : StartsPlain text) (tail : String) :
    StartsPlain (text ++ tail) := by
  obtain ⟨first, rest, htext, hfirst⟩ := h
  exact ⟨first, rest ++ tail.toList, by rw [String.toList_append, htext]; rfl, hfirst⟩

/-- Trimming leaves something of such a text. -/
theorem StartsPlain.trimText_ne_empty {text : String} (h : StartsPlain text) :
    trimText text ≠ "" := by
  obtain ⟨first, rest, htext, hfirst⟩ := h
  intro hempty
  have hkept : (text.toList.dropWhile isTrimmed).reverse.dropWhile isTrimmed = [] := by
    have hlist := congrArg String.toList hempty
    simpa [trimText] using hlist
  have hall := List.dropWhile_eq_nil_iff.mp hkept first (by simp [htext, hfirst])
  exact Bool.false_ne_true (hfirst.symm.trans hall)

/-- A scope with an identifier starts like the scope. -/
theorem StartsPlain.scopeWith {scope : String} (h : StartsPlain scope) (kind : String)
    (id : Option ScopeNumber) : StartsPlain (scopeWith kind scope id) := by
  unfold LetletmeData.scopeWith
  split
  next => exact h.append _
  next => exact h.append _

/-- Every resolved scope starts with a character that trimming keeps. -/
theorem startsPlain_of_mem_resolveMutationScopes (input : MutationScopeInput) :
    ∀ scope ∈ resolveMutationScopes input, StartsPlain scope := by
  unfold resolveMutationScopes dataSyncScopes entrySyncScopes liveDataScopes leagueSyncScopes
    tournamentSyncScopes withEvent withTournament
  -- one case per queue and job; each scope is a name, alone or with an identifier
  repeat' split
  all_goals repeat' refine List.forall_mem_cons.mpr ⟨?_, ?_⟩
  all_goals try exact List.forall_mem_nil _
  all_goals try with_reducible refine StartsPlain.scopeWith ?_ _ _
  all_goals exact startsPlain_ofList rfl

end LetletmeData
