import LetletmeData.Library.NestedLocks
import LetletmeData.Services.SetupScopes

/-!
# Setups that wait for result jobs

The calls of a setup are nested in the transaction of its lifecycle, so that the global scope of
the rebuild stays locked when the setup goes on to the events of its history. A result job holds
the scope of its event while it waits for the global one. The two wait for each other exactly when
a setup that holds the global scope asks for a scope that another job holds; otherwise every job
that waits asks for a scope above all it holds.
-/

namespace LetletmeData

open LetletmeData.Library

/-! ### The scopes of a job in order -/

/-- The order of the scopes in which jobs wait: the lifecycles first, the others by their names. -/
def scopeRank (scope : String) : WithBot String :=
  if IsLifecycleScope scope then ⊥ else scope

/-- A lifecycle comes before everything else. -/
theorem scopeRank_lt_of_lifecycle {scope other : String} (h : IsLifecycleScope scope)
    (hother : ¬ IsLifecycleScope other) : scopeRank scope < scopeRank other := by
  rw [scopeRank, scopeRank, if_pos h, if_neg hother]
  exact WithBot.bot_lt_coe other

/-- Other scopes come in the order of their names. -/
theorem scopeRank_lt {scope other : String} (h : ¬ IsLifecycleScope scope)
    (hother : ¬ IsLifecycleScope other) (hlt : scope < other) :
    scopeRank scope < scopeRank other := by
  rw [scopeRank, scopeRank, if_neg h, if_neg hother]
  exact WithBot.coe_lt_coe.mpr hlt

/-- The global scope is not the one of a lifecycle. -/
theorem not_isLifecycleScope_global : ¬ IsLifecycleScope tournamentStructureGlobalScope :=
  fun h => h.kinds.1 rfl

/-- The scope of an event is not the one of a lifecycle. -/
theorem IsEventScope.not_lifecycle {scope : String} (h : IsEventScope scope) :
    ¬ IsLifecycleScope scope :=
  fun hlifecycle => hlifecycle.kinds.2.1 (Or.inr h)

/-- What stands before and after the first global scope of a job. -/
structure AroundGlobal (scopes before after : List String) : Prop where
  split : scopes = before ++ tournamentStructureGlobalScope :: after
  rises : (before ++ [tournamentStructureGlobalScope]).Pairwise fun scope other =>
    scopeRank scope < scopeRank other
  before_not_rebuild : ∀ scope ∈ before, ¬ IsRebuildScope scope
  after_kinds : ∀ scope ∈ after, scope ∈ before ∨ scope = tournamentStructureGlobalScope ∨
    IsStructureScope scope

namespace AroundGlobal

variable {scopes before after taken : List String}

/-- The global scope stands there for the first time. -/
theorem global_not_mem (h : AroundGlobal scopes before after) :
    tournamentStructureGlobalScope ∉ before := by
  intro hmem
  have hpair := (List.pairwise_append.mp h.rises).2.2 _ hmem _ (List.mem_singleton_self _)
  exact lt_irrefl _ hpair

/-- Whoever has taken the global scope has taken everything before it. -/
theorem prefix_of_mem (h : AroundGlobal scopes before after) (htaken : taken <+: scopes)
    (hglobal : tournamentStructureGlobalScope ∈ taken) :
    before ++ [tournamentStructureGlobalScope] <+: taken := by
  have hfront : before ++ [tournamentStructureGlobalScope] <+: scopes :=
    ⟨after, by rw [h.split, List.append_assoc, List.singleton_append]⟩
  rcases List.prefix_or_prefix_of_prefix hfront htaken with hbefore | hbefore
  · exact hbefore
  · rcases List.prefix_concat_iff.mp hbefore with heq | hshort
    · rw [heq]
    · exact absurd (hshort.subset hglobal) h.global_not_mem

/-- Whoever has not taken the global scope is not past it. -/
theorem prefix_of_not_mem (h : AroundGlobal scopes before after) (htaken : taken <+: scopes)
    (hglobal : tournamentStructureGlobalScope ∉ taken) : taken <+: before := by
  have hfront : before ++ [tournamentStructureGlobalScope] <+: scopes :=
    ⟨after, by rw [h.split, List.append_assoc, List.singleton_append]⟩
  rcases List.prefix_or_prefix_of_prefix hfront htaken with hbefore | hbefore
  · exact absurd (hbefore.subset (by simp)) hglobal
  · rcases List.prefix_concat_iff.mp hbefore with heq | hshort
    · exact absurd (by simp [heq]) hglobal
    · exact hshort

/-- Up to the global scope a job asks for its scopes in order. -/
theorem lt_of_next (h : AroundGlobal scopes before after) {scope : String} {rest : List String}
    (hnext : scopes = taken ++ scope :: rest) (hglobal : tournamentStructureGlobalScope ∉ taken) :
    ∀ held ∈ taken, scopeRank held < scopeRank scope := by
  have htaken : taken <+: before := h.prefix_of_not_mem ⟨scope :: rest, hnext.symm⟩ hglobal
  obtain ⟨others, rfl⟩ := htaken
  have hsplit := h.split
  rw [hnext, List.append_assoc, List.append_cancel_left_eq] at hsplit
  have hrises := h.rises
  rw [List.append_assoc, List.pairwise_append] at hrises
  intro held hheld
  apply hrises.2.2 held hheld scope
  cases others with
  | nil =>
    obtain rfl := (List.cons.inj hsplit).1
    simp
  | cons other others =>
    obtain rfl := (List.cons.inj hsplit).1
    simp

end AroundGlobal

/-- Every job asks for the global scope, after its other scopes in order. Only a job of a single
call asks for the scope of an event before. -/
theorem StructureCalls.aroundGlobal {calls : List (List String)} (h : StructureCalls calls) :
    ∃ before after, AroundGlobal calls.flatten before after ∧
      ((∃ first, calls = [[first, tournamentStructureGlobalScope]]) ∨
        ∀ scope ∈ before, ¬ IsEventScope scope) := by
  cases h with
  | @setup lifecycle rebuild entries later hlifecycle hentries hsorted hrebuild hlater =>
    have hnot : ∀ scope ∈ lifecycle :: entries, ¬ IsStructureScope scope := by
      intro scope hscope
      rcases List.mem_cons.mp hscope with rfl | hentry
      · exact hlifecycle.kinds.2.1
      · exact (hentries scope hentry).not_structure
    refine ⟨lifecycle :: entries, rebuild :: later.flatten, ⟨?_, ?_, ?_, ?_⟩,
      Or.inr fun scope hscope hevent => hnot scope hscope (Or.inr hevent)⟩
    · simp
    · rw [List.cons_append, List.pairwise_cons, List.pairwise_append]
      refine ⟨fun scope hscope => scopeRank_lt_of_lifecycle hlifecycle ?_, ?_, by simp, ?_⟩
      · rcases List.mem_append.mp hscope with hentry | hglobal
        · exact (hentries scope hentry).not_begins (by decide +kernel)
        · rw [List.mem_singleton.mp hglobal]
          exact not_isLifecycleScope_global
      · refine hsorted.pairwise.imp_of_mem fun hfirst hsecond hlt => ?_
        exact scopeRank_lt ((hentries _ hfirst).not_begins (by decide +kernel))
          ((hentries _ hsecond).not_begins (by decide +kernel)) hlt
      · intro scope hscope global hglobal
        rw [List.mem_singleton.mp hglobal]
        exact scopeRank_lt ((hentries scope hscope).not_begins (by decide +kernel))
          not_isLifecycleScope_global (hentries scope hscope).lt_global
    · exact fun scope hscope hrebuild => hnot scope hscope (Or.inl hrebuild)
    · intro scope hscope
      rcases List.mem_cons.mp hscope with rfl | hscope
      · exact Or.inr (Or.inr (Or.inl hrebuild))
      · obtain ⟨call, hcall, hmem⟩ := List.mem_flatten.mp hscope
        rcases hlater call hcall with hhas | ⟨event, hevent, rfl⟩
        · exact Or.inl (List.mem_cons_of_mem _ (hhas scope hmem))
        · rcases List.mem_pair.mp hmem with rfl | rfl
          · exact Or.inr (Or.inr (Or.inr hevent))
          · exact Or.inr (Or.inl rfl)
  | @result first hfirst =>
    have hnot : ¬ IsLifecycleScope first ∧ ¬ IsRebuildScope first ∧
        first < tournamentStructureGlobalScope := by
      rcases hfirst with hevent | rfl
      · exact ⟨hevent.not_lifecycle, hevent.not_rebuild, hevent.lt_global⟩
      · unfold IsLifecycleScope IsRebuildScope
        decide +kernel
    refine ⟨[first], [], ⟨rfl, ?_, ?_, by simp⟩, Or.inl ⟨first, rfl⟩⟩
    · simpa using scopeRank_lt hnot.1 not_isLifecycleScope_global hnot.2.2
    · simpa using hnot.2.1

/-- The scope of an event is the first of its call. -/
theorem StructureCalls.event_first {calls : List (List String)} {own rest : List String}
    {scope : String} (h : StructureCalls calls) (hcall : own ++ scope :: rest ∈ calls)
    (hevent : IsEventScope scope) : own = [] := by
  have hpair : ∀ {first}, own ++ scope :: rest = [first, tournamentStructureGlobalScope] →
      own = [] := by
    intro first hpair
    cases own with
    | nil => rfl
    | cons other others =>
      have hmem : scope ∈ [tournamentStructureGlobalScope] := by
        rw [← (List.cons.inj hpair).2]
        simp
      exact absurd (List.mem_singleton.mp hmem) (IsStructureScope.ne_global (Or.inr hevent))
  have hentry : ¬ IsEntryScope scope := fun hentry => hentry.not_structure (Or.inr hevent)
  have hmem : scope ∈ own ++ scope :: rest := by simp
  cases h with
  | setup hlifecycle hentries hsorted hrebuild hlater =>
    simp only [List.mem_cons] at hcall
    rcases hcall with hcall | hcall | hcall | hcall
    · rw [hcall, List.mem_singleton] at hmem
      exact absurd (hmem ▸ hlifecycle) hevent.not_lifecycle
    · rw [hcall] at hmem
      exact absurd (hentries scope hmem) hentry
    · rw [hcall, List.mem_pair] at hmem
      rcases hmem with hglobal | hrebuilt
      · exact absurd hglobal (IsStructureScope.ne_global (Or.inr hevent))
      · exact absurd (hrebuilt ▸ hrebuild) hevent.not_rebuild
    · rcases hlater _ hcall with hhas | ⟨first, -, hcall⟩
      · exact absurd (hentries scope (hhas scope hmem)) hentry
      · exact hpair hcall
  | result hfirst => exact hpair (List.mem_singleton.mp hcall)

/-- What a job asks for behind the global scope: a scope it has, the one of its tournament, or the
one of an event, with which a call starts. -/
theorem StructureCalls.kinds_of_next {calls made later : List (List String)}
    {own rest : List String} {scope : String} (h : StructureCalls calls)
    (hcalls : calls = made ++ (own ++ scope :: rest) :: later)
    (hglobal : tournamentStructureGlobalScope ∈ made.flatten ++ own) :
    scope ∈ made.flatten ++ own ∨ IsRebuildScope scope ∨ (IsEventScope scope ∧ own = []) := by
  obtain ⟨before, after, haround, -⟩ := h.aroundGlobal
  have hflatten : calls.flatten = (made.flatten ++ own) ++ scope :: (rest ++ later.flatten) := by
    simp [hcalls]
  have hfront := haround.prefix_of_mem ⟨_, hflatten.symm⟩ hglobal
  have hbefore : ∀ other ∈ before, other ∈ made.flatten ++ own :=
    fun other hother => hfront.subset (List.mem_append_left _ hother)
  have hmem : scope ∈ before ++ tournamentStructureGlobalScope :: after := by
    rw [← haround.split, hflatten]
    simp
  rcases List.mem_append.mp hmem with hscope | hscope
  · exact Or.inl (hbefore scope hscope)
  · rcases List.mem_cons.mp hscope with rfl | hafter
    · exact Or.inl hglobal
    · rcases haround.after_kinds scope hafter with hscope | rfl | hrebuild | hevent
      · exact Or.inl (hbefore scope hscope)
      · exact Or.inl hglobal
      · exact Or.inr (Or.inl hrebuild)
      · have hcall : own ++ scope :: rest ∈ calls := by simp [hcalls]
        exact Or.inr (Or.inr ⟨hevent, h.event_first hcall hevent⟩)

/-- Whoever has taken the scope of a tournament's structure has taken the global one. -/
theorem StructureCalls.global_of_rebuild {calls : List (List String)} {taken : List String}
    {scope : String} (h : StructureCalls calls) (htaken : taken <+: calls.flatten)
    (hscope : scope ∈ taken) (hrebuild : IsRebuildScope scope) :
    tournamentStructureGlobalScope ∈ taken := by
  obtain ⟨before, after, haround, -⟩ := h.aroundGlobal
  by_contra hglobal
  have hbefore := haround.prefix_of_not_mem htaken hglobal
  exact haround.before_not_rebuild scope (hbefore.subset hscope) hrebuild

/-! ### Who waits for whom -/

open NestedLockWorld

variable {Caller : Type*} {world : NestedLockWorld Caller String}
  {wanted : Caller → List (List String)}

/-- Whoever holds the scope of an event but not the global one asks for that. -/
theorem wants_global_of_event {caller : Caller} (hcalls : StructureCalls (wanted caller))
    (h : world.Stands wanted caller) {scope : String} (hevent : IsEventScope scope)
    (hscope : world.holder scope = some caller)
    (hglobal : world.holder tournamentStructureGlobalScope ≠ some caller) :
    world.Wants caller tournamentStructureGlobalScope := by
  rw [h.1] at hscope
  rw [Ne, h.1] at hglobal
  obtain ⟨before, after, haround, hsingle | hnot⟩ := hcalls.aroundGlobal
  · obtain ⟨first, hsingle⟩ := hsingle
    cases hcall : world.calls caller with
    | asking taken remaining later =>
      obtain ⟨-, made, own, hwanted, rfl⟩ := h.of_asking hcall
      rw [hcall] at hscope hglobal
      rw [hsingle] at hwanted
      obtain ⟨rfl, hown, rfl⟩ : made = [] ∧ [first, tournamentStructureGlobalScope] =
          own ++ remaining ∧ later = [] := by
        cases made with
        | nil => simpa using hwanted
        | cons call made => simp at hwanted
      change scope ∈ own at hscope
      change tournamentStructureGlobalScope ∉ own at hglobal
      -- of its two scopes the job has taken the first only
      cases own with
      | nil => simp at hscope
      | cons other others =>
        cases others with
        | nil =>
          obtain rfl := (List.cons.inj hown).2
          exact ⟨_, _, _, hcall⟩
        | cons global others =>
          obtain rfl := (List.cons.inj (List.cons.inj hown).2).1
          simp at hglobal
    | running taken later =>
      obtain ⟨-, made, rest, hwanted, rfl, -⟩ := h.of_running hcall
      rw [hcall] at hscope hglobal
      change scope ∈ made.flatten at hscope
      change tournamentStructureGlobalScope ∉ made.flatten at hglobal
      rw [hsingle] at hwanted
      cases made with
      | nil => simp at hscope
      | cons call made =>
        obtain rfl := (List.cons.inj hwanted).1
        simp at hglobal
    | ended =>
      rw [hcall] at hscope
      exact absurd hscope List.not_mem_nil
  · have hbefore := haround.prefix_of_not_mem h.taken_begins hglobal
    exact absurd hevent (hnot scope (hbefore.subset hscope))

/-- A job that holds the global scope waits for another one. -/
def LateWait (world : NestedLockWorld Caller String) : Prop :=
  ∃ caller scope other, world.holder tournamentStructureGlobalScope = some caller ∧
    world.Wants caller scope ∧ world.holder scope = some other ∧ other ≠ caller

/-- A job that asks for more behind the global scope and does not start a call finds it free. -/
theorem not_held_of_next {caller other : Caller} (hcalls : ∀ caller, StructureCalls (wanted caller))
    (h : ∀ caller, world.Stands wanted caller) {made later : List (List String)}
    {own rest : List String} {scope : String}
    (hwanted : wanted caller = made ++ (own ++ scope :: rest) :: later)
    (htaken : (world.calls caller).taken = made.flatten ++ own)
    (hglobal : world.holder tournamentStructureGlobalScope = some caller)
    (hheld : world.holder scope = some other) (hne : other ≠ caller) :
    IsEventScope scope ∧ own = [] := by
  have hmem := ((h caller).1 _).mp hglobal
  rw [htaken] at hmem
  rcases (hcalls caller).kinds_of_next hwanted hmem with htook | hrebuild | hevent
  · rw [← htaken, ← (h caller).1, hheld] at htook
    exact absurd (Option.some.inj htook) hne
  · have hother := (hcalls other).global_of_rebuild (h other).taken_begins
      (((h other).1 scope).mp hheld) hrebuild
    rw [← (h other).1, hglobal] at hother
    exact absurd (Option.some.inj hother).symm hne
  · exact hevent

/-- Jobs wait for each other in a circle exactly when one of them waits with the global scope. -/
theorem exists_circle_iff (hcalls : ∀ caller, StructureCalls (wanted caller))
    (h : ∀ caller, world.Stands wanted caller) :
    (∃ caller, Relation.TransGen world.WaitsFor caller caller) ↔ LateWait world := by
  constructor
  · rintro ⟨caller, hcircle⟩
    by_contra hnot
    apply acyclic_of_rises scopeRank _ caller hcircle
    intro waiting other scope hwants hheld hne held hholds
    have hglobal : world.holder tournamentStructureGlobalScope ≠ some waiting :=
      fun hglobal => hnot ⟨waiting, scope, other, hglobal, hwants, hheld, hne⟩
    obtain ⟨taken, rest, later, hcall⟩ := hwants
    obtain ⟨hholder, made, own, hwanted, rfl⟩ := (h waiting).of_asking hcall
    obtain ⟨before, after, haround, -⟩ := (hcalls waiting).aroundGlobal
    have hnext : (wanted waiting).flatten =
        (made.flatten ++ own) ++ scope :: (rest ++ later.flatten) := by simp [hwanted]
    rw [Ne, hholder] at hglobal
    exact haround.lt_of_next hnext hglobal held ((hholder held).mp hholds)
  · rintro ⟨caller, scope, other, hglobal, hwants, hheld, hne⟩
    obtain ⟨taken, rest, later, hcall⟩ := id hwants
    obtain ⟨-, made, own, hwanted, htaken⟩ := (h caller).of_asking hcall
    have hevent := (not_held_of_next hcalls h hwanted (by rw [hcall]; exact htaken) hglobal hheld
      hne).1
    have hback : world.Wants other tournamentStructureGlobalScope := by
      apply wants_global_of_event (hcalls other) (h other) hevent hheld
      rw [hglobal]
      exact fun heq => hne (Option.some.inj heq).symm
    exact ⟨caller, .tail (.single ⟨scope, hwants, hheld, hne⟩) ⟨_, hback, hglobal, hne.symm⟩⟩

/-- A job that holds the global scope asks only for a scope that no other job holds, and no job
takes a scope that such a job is asking for. -/
def AsksInTime (world : NestedLockWorld Caller String) : NestedLockAction Caller → Prop
  | .call caller => ∀ taken scope rest later,
      world.calls caller = .running taken ((scope :: rest) :: later) →
      world.holder tournamentStructureGlobalScope = some caller →
      world.holder scope = none ∨ world.holder scope = some caller
  | .acquire caller => ∀ scope, world.Wants caller scope → world.holder scope = none →
      ∀ other, other ≠ caller → world.holder tournamentStructureGlobalScope = some other →
        ¬ world.Wants other scope
  | _ => True

/-- Where jobs hold and ask for less, none waits with the global scope that did not before. -/
theorem LateWait.of_less {next : NestedLockWorld Caller String} (h : LateWait next)
    (hholder : ∀ scope caller, next.holder scope = some caller → world.holder scope = some caller)
    (hwants : ∀ caller scope, next.Wants caller scope → world.Wants caller scope) :
    LateWait world := by
  obtain ⟨caller, scope, other, hglobal, hwanted, hheld, hne⟩ := h
  exact ⟨caller, scope, other, hholder _ _ hglobal, hwants _ _ hwanted, hholder _ _ hheld, hne⟩

variable [DecidableEq Caller]

omit [DecidableEq Caller] in
/-- The other jobs ask for what they asked for. -/
theorem wants_congr {next : NestedLockWorld Caller String} {caller : Caller}
    (hcall : next.calls caller = world.calls caller) (scope : String) :
    next.Wants caller scope ↔ world.Wants caller scope := by
  unfold Wants
  rw [hcall]

/-- Making the next call. -/
theorem lateWait_call_iff (hnot : ¬ LateWait world) {caller : Caller} {taken : List String}
    {call : List String} {later : List (List String)}
    (hcall : world.calls caller = .running taken (call :: later)) :
    ¬ LateWait { world with
        calls := Function.update world.calls caller (.asking taken call later) } ↔
      AsksInTime world (.call caller) := by
  set next : NestedLockWorld Caller String :=
    { world with calls := Function.update world.calls caller (.asking taken call later) }
  have hself : next.calls caller = .asking taken call later := Function.update_self ..
  have hothers : ∀ other, other ≠ caller → next.calls other = world.calls other :=
    fun other hne => Function.update_of_ne hne _ _
  constructor
  · intro hkept taken' scope rest later' hrunning hglobal
    cases hcall.symm.trans hrunning
    by_contra hheld
    push Not at hheld
    obtain ⟨other, hother⟩ := Option.ne_none_iff_exists'.mp hheld.1
    apply hkept ⟨caller, scope, other, hglobal, ⟨_, _, _, hself⟩, hother, ?_⟩
    rintro rfl
    exact hheld.2 hother
  · rintro hasks ⟨waiting, scope, other, hglobal, hwants, hheld, hne⟩
    by_cases hwaiting : waiting = caller
    · subst hwaiting
      obtain ⟨_, rest, _, hasking⟩ := hwants
      cases hself.symm.trans hasking
      change world.holder scope = some other at hheld
      rcases hasks _ _ _ _ hcall hglobal with hfree | hown
      · exact absurd (hfree.symm.trans hheld) (by simp)
      · exact hne (Option.some.inj (hheld.symm.trans hown))
    · exact hnot ⟨waiting, scope, other, hglobal,
        (wants_congr (hothers waiting hwaiting) scope).mp hwants, hheld, hne⟩

/-- Taking a scope. -/
theorem lateWait_acquire_iff (hcalls : ∀ caller, StructureCalls (wanted caller))
    (h : ∀ caller, world.Stands wanted caller) (hnot : ¬ LateWait world) {caller : Caller}
    {taken : List String} {scope : String} {rest : List String} {later : List (List String)}
    (hcall : world.calls caller = .asking taken (scope :: rest) later)
    (hfree : world.holder scope = none ∨ world.holder scope = some caller) :
    ¬ LateWait
        { holder := Function.update world.holder scope (some caller)
          calls := Function.update world.calls caller (.asking (taken ++ [scope]) rest later) } ↔
      AsksInTime world (.acquire caller) := by
  have hstands := stands_acquire h hcall hfree
  set next : NestedLockWorld Caller String :=
    { holder := Function.update world.holder scope (some caller)
      calls := Function.update world.calls caller (.asking (taken ++ [scope]) rest later) }
  have hself : next.calls caller = .asking (taken ++ [scope]) rest later :=
    Function.update_self ..
  have hothers : ∀ other, other ≠ caller → next.calls other = world.calls other :=
    fun other hne => Function.update_of_ne hne _ _
  have htook : next.holder scope = some caller := Function.update_self ..
  have hkept : ∀ held, held ≠ scope → next.holder held = world.holder held :=
    fun held hne => Function.update_of_ne hne _ _
  constructor
  · rintro hlate asked hwants hnone other hne hglobal hother
    obtain ⟨_, _, _, hasking⟩ := hwants
    cases hcall.symm.trans hasking
    refine hlate ⟨other, scope, caller, ?_, (wants_congr (hothers other hne) scope).mpr hother,
      htook, hne.symm⟩
    rw [hkept _ (fun heq => ?_), hglobal]
    rw [heq, hnone] at hglobal
    exact absurd hglobal (by simp)
  · rintro hasks ⟨waiting, asked, other, hglobal, hwants, hheld, hne⟩
    by_cases hwaiting : waiting = caller
    · -- behind the first scope of its call a job with the global scope does not wait
      subst hwaiting
      obtain ⟨_, rest', _, hasking⟩ := hwants
      cases hself.symm.trans hasking
      obtain ⟨-, made, own, hwanted, rfl⟩ := (h waiting).of_asking hcall
      have hnext : wanted waiting = made ++ ((own ++ [scope]) ++ asked :: rest') :: later := by
        simpa using hwanted
      have hlist : (next.calls waiting).taken = made.flatten ++ (own ++ [scope]) := by
        rw [hself, NestedCall.taken, List.append_assoc]
      have hfirst := (not_held_of_next hcalls hstands hnext hlist hglobal hheld hne).2
      simp at hfirst
    · have hwanted := (wants_congr (hothers waiting hwaiting) asked).mp hwants
      have hglobalBefore : world.holder tournamentStructureGlobalScope = some waiting := by
        by_cases heq : tournamentStructureGlobalScope = scope
        · rw [heq, htook] at hglobal
          exact absurd (Option.some.inj hglobal).symm hwaiting
        · rwa [hkept _ heq] at hglobal
      by_cases heq : asked = scope
      · subst heq
        rcases hfree with hnone | hown
        · exact hasks asked ⟨_, _, _, hcall⟩ hnone waiting hwaiting hglobalBefore hwanted
        · exact hnot ⟨waiting, asked, caller, hglobalBefore, hwanted, hown, Ne.symm hwaiting⟩
      · rw [hkept asked heq] at hheld
        exact hnot ⟨waiting, asked, other, hglobalBefore, hwanted, hheld, hne⟩

/-- A job that gives scopes back and asks for none leaves nobody waiting that did not before. -/
theorem not_lateWait_of_release (hnot : ¬ LateWait world) {caller : Caller}
    {holder : String → Option Caller} {stands : NestedCall String}
    (hholder : ∀ scope other, holder scope = some other → world.holder scope = some other)
    (hstands : ∀ taken scope rest later, stands ≠ .asking taken (scope :: rest) later) :
    ¬ LateWait ⟨holder, Function.update world.calls caller stands⟩ := by
  refine fun hlate => hnot (hlate.of_less hholder fun other scope hwants => ?_)
  by_cases hother : other = caller
  · subst hother
    obtain ⟨taken, rest, later, hcall⟩ := hwants
    exact absurd ((Function.update_self ..).symm.trans hcall) (hstands taken scope rest later)
  · exact (wants_congr (Function.update_of_ne hother _ _) scope).mp hwants

/-- A step leaves no job waiting with the global scope exactly when it asks in time. -/
theorem lateWait_step_iff (hcalls : ∀ caller, StructureCalls (wanted caller))
    (h : ∀ caller, world.Stands wanted caller) (hnot : ¬ LateWait world)
    (action : NestedLockAction Caller) :
    ¬ LateWait (world.step wanted action) ↔ AsksInTime world action := by
  cases action with
  | call caller =>
    simp only [step]
    split
    next hcall => exact lateWait_call_iff hnot hcall
    next hcall =>
      refine iff_of_true hnot fun taken scope rest later hrunning => ?_
      exact absurd hrunning (hcall _ _ _)
  | acquire caller =>
    simp only [step]
    split
    next hcall =>
      split
      next hfree => exact lateWait_acquire_iff hcalls h hnot hcall hfree
      next hheld =>
        refine iff_of_true hnot fun scope hwants hnone => ?_
        obtain ⟨_, _, _, hasking⟩ := hwants
        cases hcall.symm.trans hasking
        exact absurd (Or.inl hnone) hheld
    next hcall =>
      refine iff_of_true hnot fun scope hwants => ?_
      obtain ⟨_, _, _, hasking⟩ := hwants
      exact absurd hasking (hcall _ _ _ _)
  | enter caller =>
    refine iff_of_true ?_ trivial
    simp only [step]
    split
    next => exact not_lateWait_of_release hnot (fun _ _ hheld => hheld) (by simp)
    next => exact hnot
  | rollBack caller =>
    refine iff_of_true ?_ trivial
    simp only [step]
    split
    next => exact hnot
    next =>
      split
      next =>
        apply not_lateWait_of_release hnot _ (by simp)
        intro scope other hheld
        split at hheld
        next => exact absurd hheld (by simp)
        next => exact hheld
      next => exact hnot
  | finish caller =>
    refine iff_of_true ?_ trivial
    simp only [step]
    apply not_lateWait_of_release hnot _ (by simp)
    intro scope other hheld
    split at hheld
    next => exact absurd hheld (by simp)
    next => exact hheld

/-! ### Runs of setups and result jobs -/

/-- Before any of the jobs has asked for a scope. -/
def structureWorld (jobs : Caller → StructureJob) : NestedLockWorld Caller String :=
  .initial fun caller => (jobs caller).calls

/-- One step of one of the jobs. -/
def structureStep (jobs : Caller → StructureJob) (world : NestedLockWorld Caller String)
    (action : NestedLockAction Caller) : NestedLockWorld Caller String :=
  world.step (fun caller => (jobs caller).calls) action

/-- In a run of setups and result jobs no jobs ever wait for each other in a circle exactly when
every setup that holds the global scope asks for its scopes in time. -/
theorem structureJobs_acyclic_iff (jobs : Caller → StructureJob)
    (actions : List (NestedLockAction Caller)) :
    (∀ before, before <+: actions → ∀ caller, ¬ Relation.TransGen
        (runSteps (structureStep jobs) (structureWorld jobs) before).WaitsFor caller caller) ↔
      EveryStep (structureStep jobs) AsksInTime (structureWorld jobs) actions := by
  have hcalls : ∀ caller, StructureCalls (jobs caller).calls :=
    fun caller => (jobs caller).structureCalls
  set wanted : Caller → List (List String) := fun caller => (jobs caller).calls
  have hstep : ∀ (world : NestedLockWorld Caller String) (action : NestedLockAction Caller),
      (∀ caller, world.Stands wanted caller) →
        ∀ caller, (structureStep jobs world action).Stands wanted caller :=
    fun _ action h => stands_step h action
  have hlate : ∀ (world : NestedLockWorld Caller String) (action : NestedLockAction Caller),
      (∀ caller, world.Stands wanted caller) → ¬ LateWait world →
        (¬ LateWait (structureStep jobs world action) ↔ AsksInTime world action) :=
    fun _ action h hnot => lateWait_step_iff hcalls h hnot action
  have hinitial : ∀ caller, (structureWorld jobs).Stands wanted caller := stands_initial
  have hstart : ¬ LateWait (structureWorld jobs) := by
    rintro ⟨_, _, _, hglobal, -⟩
    exact absurd hglobal (by simp [structureWorld, NestedLockWorld.initial])
  rw [← forall_prefix_iff_everyStep_of_invariant (fun world action h _ => hstep world action h)
    hlate _ actions hinitial hstart]
  refine forall₂_congr fun before _ => ?_
  have hstands := runSteps_invariant hstep _ before hinitial
  rw [← exists_circle_iff hcalls hstands, not_exists]

/-- The setup of a points race of one event that is over. -/
def pointsRaceSetup : SetupRun where
  seasonId := 2526
  tournament :=
    { id := 1, totalTeamNum := 0, groupMode := .pointsRaces, groupNum := some 1
      groupStartedEventId := some 5, groupEndedEventId := some 5, groupQualifyNum := none
      knockoutMode := .noKnockout, knockoutTeamNum := none, knockoutEventNum := none
      knockoutStartedEventId := none, knockoutEndedEventId := none, knockoutPlayAgainstNum := none }
  leagueType := some .classic
  rosterMode := some .snapshot
  entryIds := []
  finalizedEventId := some 5
  lacksResult := fun _ _ => false
  lacksPicks := fun _ _ => false
  lacksTransfers := fun _ => false
  enrichmentCalls := fun _ => 2

/-- The setup, and the points race job of its event. -/
def setupAndPointsRace : Bool → StructureJob
  | true => .setup pointsRaceSetup
  | false => .result .pointsRace (some (.ofNat 5))

/-- The setup has rebuilt the structure and asks for the scope of the event, which the result job
has taken while it asks for the global one. -/
theorem setupAndPointsRace_circle :
    Relation.TransGen (runSteps (structureStep setupAndPointsRace)
      (structureWorld setupAndPointsRace)
      [.call true, .acquire true, .enter true, .call true, .enter true,
        .call true, .acquire true, .acquire true, .enter true,
        .call false, .acquire false, .call true]).WaitsFor true true := by
  set world := runSteps (structureStep setupAndPointsRace) (structureWorld setupAndPointsRace)
    [.call true, .acquire true, .enter true, .call true, .enter true,
      .call true, .acquire true, .acquire true, .enter true,
      .call false, .acquire false, .call true]
  have hsetup : world.Wants true "tournament-structure:event:5" :=
    ⟨["tournament-setup:tournament:1", "tournament-structure:global",
      "tournament-structure:tournament:1"], ["tournament-structure:global"],
      [[], []], by decide +kernel⟩
  have hresult : world.Wants false "tournament-structure:global" :=
    ⟨["tournament-structure:event:5"], [], [], by decide +kernel⟩
  have hevent : world.holder "tournament-structure:event:5" = some false := by decide +kernel
  have hglobal : world.holder "tournament-structure:global" = some true := by decide +kernel
  exact .tail (.single ⟨_, hsetup, hevent, by decide⟩) ⟨_, hresult, hglobal, by decide⟩

end LetletmeData
