import Mathlib.Order.WithBot
import LetletmeData.Library.IsoTimestamps
import LetletmeData.Services.TournamentSetup

/-!
# The order in which a job asks for its scopes

The scopes of setups and of result jobs are told apart by how they begin. A setup asks for the
scope of its tournament's lifecycle, for those of its entries, for the global one and for the one
of its tournament's structure, and afterwards only for scopes it has and for those of events. A
result job asks for the global scope after the one of its event.
-/

namespace LetletmeData

open LetletmeData.Library

/-! ### How a scope begins -/

/-- A text begins with another one. -/
def Begins (head text : String) : Prop := head.toList <+: text.toList

instance (head text : String) : Decidable (Begins head text) :=
  inferInstanceAs (Decidable (head.toList <+: text.toList))

/-- What is appended does not matter. -/
theorem begins_append (head tail : String) : Begins head (head ++ tail) := by
  rw [Begins, String.toList_append]
  exact List.prefix_append _ _

/-- A text begins with every beginning of its beginning. -/
theorem Begins.of_begins {short head text : String} (h : Begins head text)
    (hshort : Begins short head) : Begins short text :=
  hshort.trans h

/-- A text does not begin with two that do not begin with each other. -/
theorem Begins.not_begins {head other text : String} (h : Begins head text)
    (hother : ¬ (Begins head other ∨ Begins other head)) : ¬ Begins other text :=
  fun hbegins => hother (List.prefix_or_prefix_of_prefix h hbegins)

/-- Beginnings of one length decide the order of texts. -/
theorem lt_of_begins (low high : String) {first second : String} (hfirst : Begins low first)
    (hsecond : Begins high second)
    (hlt : low.toList.length = high.toList.length ∧ low.toList < high.toList) :
    first < second := by
  rw [String.lt_iff_toList_lt]
  obtain ⟨tail, htail⟩ := hfirst
  obtain ⟨tail', htail'⟩ := hsecond
  rw [← htail, ← htail']
  exact append_lt_append_of_length_eq hlt.2 hlt.1 tail tail'

/-- A text that is not empty and that trimming keeps. -/
def IsPlain (text : String) : Prop :=
  text.toList ≠ [] ∧ text.toList.dropWhile isTrimmed = text.toList ∧
    text.toList.reverse.dropWhile isTrimmed = text.toList.reverse

instance (text : String) : Decidable (IsPlain text) := inferInstanceAs (Decidable (_ ∧ _))

/-- Trimming keeps a plain beginning. -/
theorem Begins.trimText {head text : String} (h : Begins head text) (hplain : IsPlain head) :
    Begins head (trimText text) := by
  obtain ⟨tail, htail⟩ := h
  obtain ⟨hne, hfirst, hlast⟩ := hplain
  have hfront : text.toList.dropWhile isTrimmed = head.toList ++ tail := by
    rw [← htail, List.dropWhile_append, hfirst]
    simp [hne]
  rw [Begins, LetletmeData.Library.trimText, hfront, String.toList_ofList, List.reverse_append,
    List.dropWhile_append, hlast]
  split
  next => simp
  next => simp

/-- A scope with an identifier begins with its name and the kind of the identifier. -/
theorem begins_scopeWith (kind scope : String) (number : ℕ) :
    Begins (scope ++ (":" ++ kind ++ ":")) (scopeWith kind scope (some (.ofNat number))) := by
  have htext : scopeWith kind scope (some (.ofNat number)) =
      scope ++ (":" ++ kind ++ ":") ++ toString number := (String.append_assoc ..).symm
  rw [htext]
  exact begins_append _ _

/-- The scope of the setups of a tournament. -/
def IsLifecycleScope (scope : String) : Prop := Begins "tournament-setup:" scope

/-- The scope of an entry. -/
def IsEntryScope (scope : String) : Prop := Begins "entry-core:" scope

/-- The scope of the structure of a tournament. -/
def IsRebuildScope (scope : String) : Prop := Begins "tournament-structure:tournament:" scope

/-- The scope of the structure in an event, or in all of them. -/
def IsEventScope (scope : String) : Prop :=
  Begins "tournament-structure:event:" scope ∨ Begins "tournament-structure:all" scope

instance (scope : String) : Decidable (IsLifecycleScope scope) :=
  inferInstanceAs (Decidable (Begins _ scope))

/-- A scope of a tournament or of an event, of which a setup asks for more after the global one. -/
def IsStructureScope (scope : String) : Prop := IsRebuildScope scope ∨ IsEventScope scope

/-- A scope of an entry is locked before the global one. -/
theorem IsEntryScope.lt_global {scope : String} (h : IsEntryScope scope) :
    scope < tournamentStructureGlobalScope := by
  have hglobal : Begins "t" tournamentStructureGlobalScope := by decide +kernel
  apply lt_of_begins "e" "t" (h.of_begins ?_) hglobal
  · decide +kernel
  · decide +kernel

/-- The scope of an event is locked before the global one. -/
theorem IsEventScope.lt_global {scope : String} (h : IsEventScope scope) :
    scope < tournamentStructureGlobalScope := by
  have hglobal : Begins "tournament-structure:g" tournamentStructureGlobalScope := by
    decide +kernel
  cases h with
  | inl hevent =>
    apply lt_of_begins "tournament-structure:e" _ (hevent.of_begins ?_) hglobal
    · decide +kernel
    · decide +kernel
  | inr hall =>
    apply lt_of_begins "tournament-structure:a" _ (hall.of_begins ?_) hglobal
    · decide +kernel
    · decide +kernel

/-- The scope of a tournament's structure is locked after the global one. -/
theorem IsRebuildScope.global_lt {scope : String} (h : IsRebuildScope scope) :
    tournamentStructureGlobalScope < scope := by
  have hglobal : Begins "tournament-structure:g" tournamentStructureGlobalScope := by
    decide +kernel
  apply lt_of_begins _ "tournament-structure:t" hglobal (h.of_begins ?_)
  · decide +kernel
  · decide +kernel

/-- The scopes of the structure have a beginning in common. -/
theorem IsStructureScope.begins {scope : String} (h : IsStructureScope scope) :
    Begins "tournament-structure:" scope := by
  rcases h with hrebuild | hevent | hall
  · exact hrebuild.of_begins (by decide +kernel)
  · exact hevent.of_begins (by decide +kernel)
  · exact hall.of_begins (by decide +kernel)

/-- The scope of a tournament or of an event is not the global one. -/
theorem IsStructureScope.ne_global {scope : String} (h : IsStructureScope scope) :
    scope ≠ tournamentStructureGlobalScope := by
  cases h with
  | inl hrebuild => exact hrebuild.global_lt.ne'
  | inr hevent => exact hevent.lt_global.ne

/-- The scope of an event is not the one of a tournament. -/
theorem IsEventScope.not_rebuild {scope : String} (h : IsEventScope scope) :
    ¬ IsRebuildScope scope := by
  cases h with
  | inl hevent => exact hevent.not_begins (by decide +kernel)
  | inr hall => exact hall.not_begins (by decide +kernel)

/-- The scope of a lifecycle is of no other kind. -/
theorem IsLifecycleScope.kinds {scope : String} (h : IsLifecycleScope scope) :
    scope ≠ tournamentStructureGlobalScope ∧ ¬ IsStructureScope scope ∧ ¬ IsEntryScope scope := by
  refine ⟨?_, fun hstructure => ?_, h.not_begins (by decide +kernel)⟩
  · rintro rfl
    revert h
    unfold IsLifecycleScope
    decide +kernel
  · exact h.not_begins (by decide +kernel) hstructure.begins

/-- The scope of an entry is not one of the structure. -/
theorem IsEntryScope.not_structure {scope : String} (h : IsEntryScope scope) :
    ¬ IsStructureScope scope :=
  fun hstructure => h.not_begins (by decide +kernel) hstructure.begins

/-! ### The scopes of each call -/

/-- A single scope is locked under its trimmed name. -/
theorem normalizedScopes_singleton {scope : String} (h : trimText scope ≠ "") :
    normalizedScopes [scope] = [trimText scope] := by
  simp [normalizedScopes, h]

/-- Two scopes are locked in their order, however they are given. -/
theorem normalizedScopes_pair {low high : String} (hlow : trimText low ≠ "")
    (hhigh : trimText high ≠ "") (hlt : trimText low < trimText high) :
    normalizedScopes [low, high] = [trimText low, trimText high] ∧
      normalizedScopes [high, low] = [trimText low, trimText high] := by
  constructor
  · simp [normalizedScopes, hlow, hhigh, hlt.ne, hlt.le]
  · simp [normalizedScopes, hlow, hhigh, hlt.ne', not_le.mpr hlt]

/-- A call of a setup locks its own scopes; without any it locks none, as the queue has none. -/
theorem callScopes_eq (scopes : List String) :
    SetupRun.callScopes scopes = normalizedScopes scopes := by
  cases scopes with
  | nil => rfl
  | cons scope rest => simp [SetupRun.callScopes, lockedScopes]

/-- The global scope is plain. -/
theorem trimText_global :
    trimText tournamentStructureGlobalScope = tournamentStructureGlobalScope := by
  decide +kernel

/-- How the calls of a job follow each other. -/
inductive StructureCalls : List (List String) → Prop where
  | setup {lifecycle rebuild : String} {entries : List String} {later : List (List String)}
      (hlifecycle : IsLifecycleScope lifecycle) (hentries : ∀ scope ∈ entries, IsEntryScope scope)
      (hsorted : entries.SortedLT) (hrebuild : IsRebuildScope rebuild)
      (hlater : ∀ call ∈ later, (∀ scope ∈ call, scope ∈ entries) ∨
        ∃ event, IsEventScope event ∧ call = [event, tournamentStructureGlobalScope]) :
      StructureCalls
        ([lifecycle] :: entries :: [tournamentStructureGlobalScope, rebuild] :: later)
  | result {first : String} (hfirst : IsEventScope first ∨ first = "data-core:events") :
      StructureCalls [[first, tournamentStructureGlobalScope]]

/-- The scope of a setup's lifecycle. -/
theorem isLifecycleScope_trimText (tournamentId : ℕ) :
    IsLifecycleScope (trimText (tournamentSetupLifecycleScope (.ofNat tournamentId))) := by
  have hbegins := begins_scopeWith "tournament" "tournament-setup" tournamentId
  apply Begins.trimText (hbegins.of_begins ?_)
  · decide +kernel
  · decide +kernel

/-- The scope of a tournament's structure. -/
theorem isRebuildScope_trimText (tournamentId : ℕ) :
    IsRebuildScope
      (trimText (withTournament "tournament-structure" (some (.ofNat tournamentId)))) := by
  have hbegins := begins_scopeWith "tournament" "tournament-structure" tournamentId
  apply Begins.trimText (hbegins.of_begins ?_)
  · decide +kernel
  · decide +kernel

/-- The scope of the structure in an event. -/
theorem isEventScope_trimText (eventId : Option ScopeNumber) :
    IsEventScope (trimText (withEvent "tournament-structure" eventId)) := by
  unfold withEvent scopeWith
  split
  next =>
    left
    rw [← String.append_assoc]
    apply Begins.trimText ((begins_append _ _).of_begins ?_)
    · decide +kernel
    · decide +kernel
  next =>
    right
    decide +kernel

/-- The scope of an entry. -/
theorem isEntryScope_of_mem {seasonId : ℕ} {entryIds : List ℤ} {scope : String}
    (h : scope ∈ normalizedScopes (tournamentEntryCoreScopes seasonId entryIds)) :
    IsEntryScope scope := by
  obtain ⟨given, hgiven, rfl, -⟩ := mem_normalizedScopes.mp h
  rw [tournamentEntryCoreScopes, List.mem_insertionSort, List.mem_dedup] at hgiven
  obtain ⟨entryId, -, rfl⟩ := List.mem_map.mp hgiven
  exact (begins_append "entry-core:" _).trimText (by decide +kernel)

/-- Some of the entries have some of the scopes. -/
theorem mem_entryScopes_of_subset {seasonId : ℕ} {entryIds some : List ℤ} (hsome : some ⊆ entryIds)
    {scope : String} (h : scope ∈ normalizedScopes (tournamentEntryCoreScopes seasonId some)) :
    scope ∈ normalizedScopes (tournamentEntryCoreScopes seasonId entryIds) := by
  obtain ⟨given, hgiven, htrim⟩ := mem_normalizedScopes.mp h
  refine mem_normalizedScopes.mpr ⟨given, ?_, htrim⟩
  rw [tournamentEntryCoreScopes, List.mem_insertionSort, List.mem_dedup] at hgiven ⊢
  obtain ⟨entryId, hentry, hgiven⟩ := List.mem_map.mp hgiven
  obtain ⟨hmem, hpositive⟩ := List.mem_filter.mp hentry
  exact List.mem_map.mpr ⟨entryId, List.mem_filter.mpr ⟨hsome hmem, hpositive⟩, hgiven⟩

/-- The text is not empty. -/
theorem Begins.ne_empty {head text : String} (h : Begins head text) (hhead : head.toList ≠ []) :
    text ≠ "" := by
  rintro rfl
  exact hhead (List.prefix_nil.mp h)

/-- An event is locked before the global scope. -/
theorem normalizedScopes_event (eventId : Option ScopeNumber) :
    normalizedScopes [withEvent "tournament-structure" eventId, tournamentStructureGlobalScope] =
      [trimText (withEvent "tournament-structure" eventId), tournamentStructureGlobalScope] := by
  have hevent := isEventScope_trimText eventId
  have hne : trimText (withEvent "tournament-structure" eventId) ≠ "" :=
    (IsStructureScope.begins (Or.inr hevent)).ne_empty (by decide +kernel)
  rw [(normalizedScopes_pair hne (by decide +kernel) _).1, trimText_global]
  rw [trimText_global]
  exact hevent.lt_global

/-- The call for one event of the history. -/
theorem historyScopes_eq (eventId : ℕ) :
    ∃ event, IsEventScope event ∧
      SetupRun.historyScopes eventId = [event, tournamentStructureGlobalScope] := by
  refine ⟨_, isEventScope_trimText (some (.ofNat eventId)), ?_⟩
  rw [SetupRun.historyScopes, callScopes_eq]
  exact normalizedScopes_event _

/-- After the rebuild a setup asks for scopes it has and for those of events. -/
theorem SetupRun.later_calls (run : SetupRun) :
    ∀ call ∈ run.coreResultCalls ++ run.eventIds.flatMap run.historyCalls ++ run.enrichmentScopes,
      (∀ scope ∈ call, scope ∈ run.entryScopes run.entryIds) ∨
        ∃ event, IsEventScope event ∧ call = [event, tournamentStructureGlobalScope] := by
  have hmissing : ∀ lacks, ∀ call ∈ run.missingCalls lacks,
      ∀ scope ∈ call, scope ∈ run.entryScopes run.entryIds := by
    intro lacks call hcall scope hscope
    have hsub : run.entryIds.filter lacks ⊆ run.entryIds := List.filter_subset_self _
    unfold SetupRun.missingCalls at hcall
    split at hcall
    next => exact absurd hcall List.not_mem_nil
    next =>
      obtain rfl := List.mem_singleton.mp hcall
      rw [SetupRun.entryScopes, callScopes_eq] at hscope ⊢
      exact mem_entryScopes_of_subset hsub hscope
  intro call hcall
  rcases List.mem_append.mp hcall with hcall | henrichment
  · rcases List.mem_append.mp hcall with hcore | hhistory
    · obtain ⟨eventId, -, hmem⟩ := List.mem_flatMap.mp hcore
      exact Or.inl (hmissing _ call hmem)
    · obtain ⟨eventId, -, hmem⟩ := List.mem_flatMap.mp hhistory
      obtain ⟨event, hevent, hscopes⟩ := historyScopes_eq eventId
      simp only [SetupRun.historyCalls, List.mem_append, List.mem_ite_nil_right,
        List.mem_singleton] at hmem
      -- a points race, a battle race and a knockout make the same call
      rcases hmem with (hmade | hmade) | hmade
      all_goals exact Or.inr ⟨event, hevent, hmade.2.trans hscopes⟩
  · left
    rcases List.mem_append.mp henrichment with htransfers | hevents
    · exact hmissing _ call htransfers
    · obtain ⟨eventId, -, hmem⟩ := List.mem_flatMap.mp hevents
      rcases List.mem_append.mp (List.mem_of_mem_take hmem) with hpicks | hentries
      · exact hmissing _ call hpicks
      · simp only [List.mem_cons, List.not_mem_nil, or_false, or_self] at hentries
        rw [hentries]
        exact fun scope hscope => hscope

/-- The calls of every job follow each other in this way. -/
theorem StructureJob.structureCalls (job : StructureJob) : StructureCalls job.calls := by
  cases job with
  | setup run =>
    have hlifecycle := isLifecycleScope_trimText run.tournament.id
    have hrebuild := isRebuildScope_trimText run.tournament.id
    have hfirst : SetupRun.callScopes [tournamentSetupLifecycleScope (.ofNat run.tournament.id)] =
        [trimText (tournamentSetupLifecycleScope (.ofNat run.tournament.id))] := by
      rw [callScopes_eq]
      exact normalizedScopes_singleton (hlifecycle.ne_empty (by decide +kernel))
    have hthird : SetupRun.callScopes (tournamentSetupRebuildScopes (.ofNat run.tournament.id)) =
        [tournamentStructureGlobalScope,
          trimText (withTournament "tournament-structure" (some (.ofNat run.tournament.id)))] := by
      rw [callScopes_eq, tournamentSetupRebuildScopes, (normalizedScopes_pair _ _ _).2,
        trimText_global]
      · decide +kernel
      · exact hrebuild.ne_empty (by decide +kernel)
      · rw [trimText_global]
        exact hrebuild.global_lt
    rw [StructureJob.calls, SetupRun.calls, hfirst, hthird]
    apply StructureCalls.setup hlifecycle _ _ hrebuild run.later_calls
    · intro scope hscope
      rw [SetupRun.entryScopes, callScopes_eq] at hscope
      exact isEntryScope_of_mem hscope
    · rw [SetupRun.entryScopes, callScopes_eq]
      exact sortedLT_normalizedScopes _
  | result job eventId =>
    cases job with
    | materializedViewsRefresh =>
      have hscopes : StructureJob.calls (.result .materializedViewsRefresh eventId) =
          [["data-core:events", tournamentStructureGlobalScope]] := by
        change [normalizedScopes [tournamentStructureGlobalScope, "data-core:events"]] = _
        decide +kernel
      rw [hscopes]
      exact .result (Or.inr rfl)
    | pointsRace | battleRace | knockout | officialH2H =>
      change StructureCalls [normalizedScopes
        [withEvent "tournament-structure" eventId, tournamentStructureGlobalScope]]
      rw [normalizedScopes_event]
      exact .result (Or.inl (isEventScope_trimText eventId))

end LetletmeData
