import LetletmeData.Services.EntryDetailSync

/-!
# What the savepoints of concurrent entries keep

The savepoints of the calls form one stack. A call that throws rolls back to its own savepoint and
removes every write executed since, whichever call executed it. The writes of the entries whose
calls return are stored exactly when no rollback of the run removes one of them.
-/

namespace LetletmeData

open LetletmeData.Library

variable {call : EntryDetailCall} {world : EntryDetailWorld}

/-! ### One event of a call -/

/-- What an event of a call does to the statements executed and to the writes of the transaction. -/
inductive StatementEffect (entryId : ℕ) (answer : EntryAnswer) (before : EntryCall)
    (tx : ScopeTransaction) (event : EntryEvent) (after : EntryCall × ScopeTransaction) : Prop
  | none (executed : after.1.executed = before.executed) (writes : after.2.writes = tx.writes)
  | ran (repository : SnapshotRepository) (statement : SnapshotStatement)
      (next : (answer.statements repository)[before.executed repository]? = some statement)
      (executed : after.1.executed =
        Function.update before.executed repository (before.executed repository + 1))
      (writes : after.2.writes =
        if statement.isWrite then ⟨entryId, repository, before.executed repository⟩ :: tx.writes
        else tx.writes)
  | rolledBack (throwing : event = .rollBack ∧ before.status = .throwing)
      (executed : after.1.executed = before.executed) (rolled : after.2 = tx.rollbackTo entryId)

/-- Every event of a call has one of these effects. -/
theorem statementEffect (entryId : ℕ) (answer : EntryAnswer) (before : EntryCall)
    (tx : ScopeTransaction) (event : EntryEvent) :
    StatementEffect entryId answer before tx event
      (syncEntryInfoStep entryId answer before tx event) := by
  cases event with
  | readCurrentEvent succeeds =>
    dsimp only [syncEntryInfoStep]
    split
    · exact .none rfl rfl
    · split <;> exact .none rfl rfl
  | refuse =>
    dsimp only [syncEntryInfoStep]
    split <;> exact .none rfl rfl
  | answer =>
    dsimp only [syncEntryInfoStep]
    split <;> exact .none rfl rfl
  | setSavepoint succeeds =>
    dsimp only [syncEntryInfoStep]
    split
    · split <;> exact .none rfl rfl
    · exact .none rfl rfl
  | takeFence succeeds =>
    dsimp only [syncEntryInfoStep]
    split
    · split <;> exact .none rfl rfl
    · exact .none rfl rfl
  | runStatement repository succeeds =>
    dsimp only [syncEntryInfoStep]
    split
    · exact .none rfl rfl
    next statement hnext =>
      split
      · split
        · exact .none rfl rfl
        · refine .ran repository statement hnext rfl ?_
          split <;> rfl
      · exact .none rfl rfl
  | throw repository =>
    dsimp only [syncEntryInfoStep]
    split <;> exact .none rfl rfl
  | rollBack =>
    dsimp only [syncEntryInfoStep]
    split
    next hthrowing => exact .rolledBack ⟨rfl, hthrowing⟩ rfl rfl
    next => exact .none rfl rfl
  | finish =>
    dsimp only [syncEntryInfoStep]
    split <;> exact .none rfl rfl

/-- A repository in the middle of its call belongs to a call that has not returned. -/
theorem EntryCall.not_returned_of_inRepository {answer : EntryAnswer} {before : EntryCall}
    {repository : SnapshotRepository} (h : before.inRepository answer repository = true) :
    before.status ≠ .returned := by
  intro hreturned
  cases repository <;> simp [EntryCall.inRepository, hreturned] at h

/-- A repository that throws makes no call return. -/
theorem EntryCall.not_returned_throwIn {before : EntryCall} (repository : SnapshotRepository)
    (h : before.status ≠ .returned) : (before.throwIn repository).status ≠ .returned := by
  unfold EntryCall.throwIn
  dsimp only
  split
  · exact fun heq => by cases heq
  · exact h

/-- A call that has returned had returned before or has just completed its statements. -/
theorem returned_cases {entryId : ℕ} {answer : EntryAnswer} {before : EntryCall}
    {tx : ScopeTransaction} {event : EntryEvent}
    (hreturned : (syncEntryInfoStep entryId answer before tx event).1.status = .returned) :
    (before.status = .returned ∨ before.Complete answer) ∧
      (syncEntryInfoStep entryId answer before tx event).1.executed = before.executed := by
  revert hreturned
  cases event with
  | readCurrentEvent succeeds =>
    dsimp only [syncEntryInfoStep]
    split
    · exact fun h => ⟨.inl h, rfl⟩
    · split
      · intro h
        dsimp only at h
        split at h
        · cases h
        · exact ⟨.inl h, rfl⟩
      · exact fun h => ⟨.inl h, rfl⟩
  | refuse =>
    dsimp only [syncEntryInfoStep]
    split
    · exact fun h => by cases h
    · exact fun h => ⟨.inl h, rfl⟩
  | answer =>
    dsimp only [syncEntryInfoStep]
    split
    · exact fun h => by cases h
    · exact fun h => ⟨.inl h, rfl⟩
  | setSavepoint succeeds =>
    dsimp only [syncEntryInfoStep]
    split
    · split <;> exact fun h => by cases h
    · exact fun h => ⟨.inl h, rfl⟩
  | takeFence succeeds =>
    dsimp only [syncEntryInfoStep]
    split
    · split <;> exact fun h => by cases h
    · exact fun h => ⟨.inl h, rfl⟩
  | runStatement repository succeeds =>
    dsimp only [syncEntryInfoStep]
    split
    · exact fun h => ⟨.inl h, rfl⟩
    · split
      next hin =>
        have hopen := EntryCall.not_returned_of_inRepository hin
        split
        · exact fun h => absurd h (EntryCall.not_returned_throwIn repository hopen)
        · exact fun h => absurd h hopen
      next => exact fun h => ⟨.inl h, rfl⟩
  | throw repository =>
    dsimp only [syncEntryInfoStep]
    split
    next hin =>
      exact fun h => absurd h
        (EntryCall.not_returned_throwIn repository (EntryCall.not_returned_of_inRepository hin))
    next => exact fun h => ⟨.inl h, rfl⟩
  | rollBack =>
    dsimp only [syncEntryInfoStep]
    split
    · exact fun h => by cases h
    · exact fun h => ⟨.inl h, rfl⟩
  | finish =>
    dsimp only [syncEntryInfoStep]
    split
    next hfinish => exact fun _ => ⟨.inr hfinish.2, rfl⟩
    next => exact fun h => ⟨.inl h, rfl⟩

/-! ### One event of a run -/

/-- What an event of a run does to the statements executed and to the writes of the transaction. -/
inductive RunEffect (call : EntryDetailCall) (world : EntryDetailWorld) (event : EntryDetailEvent)
    (after : EntryDetailWorld) : Prop
  | none (executed : ∀ entryId, (after.calls entryId).executed = (world.calls entryId).executed)
      (writes : after.tx.writes = world.tx.writes)
  | ran (entryId : ℕ) (repository : SnapshotRepository) (statement : SnapshotStatement)
      (next : ((call.answer entryId).statements repository)[
        (world.calls entryId).executed repository]? = some statement)
      (executed : ∀ other kind, (after.calls other).executed kind =
        (world.calls other).executed kind + if other = entryId ∧ kind = repository then 1 else 0)
      (writes : after.tx.writes =
        if statement.isWrite then
          ⟨entryId, repository, (world.calls entryId).executed repository⟩ :: world.tx.writes
        else world.tx.writes)
  | rolledBack (entryId : ℕ) (throwing : event = .entry entryId .rollBack ∧
        (world.calls entryId).status = .throwing)
      (executed : ∀ other, (after.calls other).executed = (world.calls other).executed)
      (rolled : after.tx = world.tx.rollbackTo entryId)

/-- Replacing a call by one that has executed the same leaves what is executed as it is. -/
theorem executed_update {calls : ℕ → EntryCall} {entryId : ℕ} {after : EntryCall}
    (hexecuted : after.executed = (calls entryId).executed) (other : ℕ) :
    (Function.update calls entryId after other).executed = (calls other).executed := by
  rw [Function.update_apply]
  split
  next heq => rw [heq, hexecuted]
  next => rfl

/-- Every event of a run has one of these effects. -/
theorem runEffect (call : EntryDetailCall) (world : EntryDetailWorld) (event : EntryDetailEvent) :
    RunEffect call world event (syncTournamentEntryDetailsStep call world event) := by
  cases event with
  | start =>
    dsimp only [syncTournamentEntryDetailsStep, EntryDetailWorld.start]
    split
    · exact .none (fun _ => rfl) rfl
    · split
      · exact .none (executed_update rfl) rfl
      · exact .none (fun _ => rfl) rfl
  | entry entryId event =>
    cases statementEffect entryId (call.answer entryId) (world.calls entryId) world.tx event with
    | none executed writes => exact .none (executed_update executed) writes
    | rolledBack throwing executed rolled =>
      exact .rolledBack entryId ⟨congrArg _ throwing.1, throwing.2⟩ (executed_update executed) rolled
    | ran repository statement next executed writes =>
      refine .ran entryId repository statement next (fun other kind => ?_) writes
      dsimp only [syncTournamentEntryDetailsStep]
      rw [Function.update_apply]
      split
      next heq =>
        rw [heq, executed, Function.update_apply]
        by_cases hkind : kind = repository <;> simp [hkind]
      next hne => simp [hne]

/-- The statements of a repository are only ever executed further. -/
theorem executed_le_step (world : EntryDetailWorld) (event : EntryDetailEvent) (entryId : ℕ)
    (repository : SnapshotRepository) :
    (world.calls entryId).executed repository ≤
      ((syncTournamentEntryDetailsStep call world event).calls entryId).executed repository := by
  cases runEffect call world event with
  | none executed writes => exact Nat.le_of_eq (congrFun (executed entryId) repository).symm
  | ran other kind statement next executed writes => rw [executed]; exact Nat.le_add_right _ _
  | rolledBack other throwing executed rolled =>
    exact Nat.le_of_eq (congrFun (executed entryId) repository).symm

/-- A call that has returned after an event had returned before or had completed its statements. -/
theorem returned_step {event : EntryDetailEvent} {entryId : ℕ}
    (hreturned : ((syncTournamentEntryDetailsStep call world event).calls entryId).status =
      .returned) :
    ((world.calls entryId).status = .returned ∨
        (world.calls entryId).Complete (call.answer entryId)) ∧
      ((syncTournamentEntryDetailsStep call world event).calls entryId).executed =
        (world.calls entryId).executed := by
  revert hreturned
  cases event with
  | start =>
    dsimp only [syncTournamentEntryDetailsStep, EntryDetailWorld.start]
    split
    · exact fun h => ⟨.inl h, rfl⟩
    · split
      · dsimp only
        rw [Function.update_apply]
        split
        · exact fun h => by cases h
        · exact fun h => ⟨.inl h, rfl⟩
      · exact fun h => ⟨.inl h, rfl⟩
  | entry other event =>
    dsimp only [syncTournamentEntryDetailsStep]
    rw [Function.update_apply]
    split
    next heq =>
      rw [heq]
      exact returned_cases
    next => exact fun h => ⟨.inl h, rfl⟩

/-- A write of the transaction is a write of its entry that has been executed. -/
structure EntryDetailWorld.Sound (call : EntryDetailCall) (world : EntryDetailWorld) : Prop where
  executed : ∀ write ∈ world.tx.writes,
    write.position < (world.calls write.entryId).executed write.repository
  isWriteOf : ∀ write ∈ world.tx.writes, call.IsWriteOf write.entryId write
  nodup : world.tx.writes.Nodup
  complete : ∀ entryId, (world.calls entryId).status = .returned →
    (world.calls entryId).Complete (call.answer entryId)

namespace EntryDetailWorld.Sound

/-- Nothing is executed at first. -/
theorem initial : (EntryDetailWorld.initial).Sound call where
  executed := fun _ hwrite => absurd hwrite List.not_mem_nil
  isWriteOf := fun _ hwrite => absurd hwrite List.not_mem_nil
  nodup := List.nodup_nil
  complete := fun _ hreturned => by cases hreturned

/-- Every call that has returned after an event has executed its statements. -/
theorem complete_step (h : world.Sound call) (event : EntryDetailEvent) (entryId : ℕ)
    (hreturned : ((syncTournamentEntryDetailsStep call world event).calls entryId).status =
      .returned) :
    ((syncTournamentEntryDetailsStep call world event).calls entryId).Complete
      (call.answer entryId) := by
  obtain ⟨hbefore, hexecuted⟩ := returned_step hreturned
  have hcomplete := hbefore.elim (h.complete entryId) id
  intro repository hmem
  rw [hexecuted]
  exact hcomplete repository hmem

/-- Every event keeps the transaction sound. -/
theorem step (h : world.Sound call) (event : EntryDetailEvent) :
    (syncTournamentEntryDetailsStep call world event).Sound call := by
  have hcomplete := h.complete_step event
  cases runEffect call world event with
  | none executed writes =>
    refine ⟨fun write hwrite => ?_, fun write hwrite => ?_, ?_, hcomplete⟩
    · rw [executed]
      exact h.executed write (writes ▸ hwrite)
    · exact h.isWriteOf write (writes ▸ hwrite)
    · rw [writes]
      exact h.nodup
  | ran entryId repository statement next executed writes =>
    have hold : ∀ write ∈ world.tx.writes,
        write.position < ((syncTournamentEntryDetailsStep call world event).calls
          write.entryId).executed write.repository := by
      intro write hwrite
      rw [executed]
      exact Nat.lt_add_right _ (h.executed write hwrite)
    by_cases hstatement : statement.isWrite = true
    · rw [if_pos hstatement] at writes
      have hfresh : (⟨entryId, repository, (world.calls entryId).executed repository⟩ :
          SnapshotWrite) ∉ world.tx.writes :=
        fun hmem => Nat.lt_irrefl _ (h.executed _ hmem)
      refine ⟨?_, ?_, ?_, hcomplete⟩
      · rw [writes, List.forall_mem_cons]
        refine ⟨?_, hold⟩
        rw [executed, if_pos ⟨rfl, rfl⟩]
        exact Nat.lt_succ_self _
      · rw [writes, List.forall_mem_cons]
        exact ⟨⟨rfl, statement, next, hstatement⟩, h.isWriteOf⟩
      · rw [writes]
        exact List.nodup_cons.mpr ⟨hfresh, h.nodup⟩
    · rw [if_neg hstatement] at writes
      refine ⟨?_, ?_, ?_, hcomplete⟩
      · rw [writes]
        exact hold
      · rw [writes]
        exact h.isWriteOf
      · rw [writes]
        exact h.nodup
  | rolledBack entryId throwing executed rolled =>
    have hsublist := world.tx.writes_rollbackTo_sublist entryId
    rw [← rolled] at hsublist
    refine ⟨fun write hwrite => ?_, fun write hwrite => ?_, hsublist.nodup h.nodup, hcomplete⟩
    · rw [executed]
      exact h.executed write (hsublist.subset hwrite)
    · exact h.isWriteOf write (hsublist.subset hwrite)

end EntryDetailWorld.Sound

/-! ### The writes of the entries that return -/

/-- A rollback that an event executes removes no write of some entries. -/
def RollbackSpares (entries : ℕ → Prop) (world : EntryDetailWorld) (event : EntryDetailEvent) :
    Prop :=
  ∀ entryId, event = .entry entryId .rollBack → (world.calls entryId).status = .throwing →
    ∀ write, entries write.entryId → ¬ world.tx.Discards entryId write

/-- The transaction holds every write that some entries have executed. -/
def HoldsExecuted (call : EntryDetailCall) (entries : ℕ → Prop) (world : EntryDetailWorld) : Prop :=
  ∀ write, entries write.entryId → call.IsWriteOf write.entryId write →
    write.position < (world.calls write.entryId).executed write.repository →
    write ∈ world.tx.writes

/-- A rollback that spares the entries keeps their writes. -/
theorem HoldsExecuted.step {entries : ℕ → Prop} (h : HoldsExecuted call entries world)
    {event : EntryDetailEvent} (hspares : RollbackSpares entries world event) :
    HoldsExecuted call entries (syncTournamentEntryDetailsStep call world event) := by
  intro write hentry hwrite hposition
  cases runEffect call world event with
  | none executed writes =>
    rw [executed] at hposition
    rw [writes]
    exact h write hentry hwrite hposition
  | rolledBack entryId throwing executed rolled =>
    rw [executed] at hposition
    rw [rolled]
    exact OpenTransaction.mem_writes_rollbackTo (h write hentry hwrite hposition)
      (hspares entryId throwing.1 throwing.2 write hentry)
  | ran entryId repository statement next executed writes =>
    rw [executed] at hposition
    by_cases hbefore : write.position < (world.calls write.entryId).executed write.repository
    · have hmem := h write hentry hwrite hbefore
      rw [writes]
      split
      · exact List.mem_cons_of_mem _ hmem
      · exact hmem
    · -- the write is the statement that has just been executed
      have hsame : write.entryId = entryId ∧ write.repository = repository := by
        by_contra hother
        rw [if_neg hother] at hposition
        exact hbefore hposition
      rw [if_pos hsame] at hposition
      obtain ⟨writer, kind, position⟩ := write
      obtain ⟨rfl, rfl⟩ := hsame
      have hposition : position = (world.calls writer).executed kind :=
        Nat.le_antisymm (Nat.le_of_lt_succ hposition) (Nat.le_of_not_lt hbefore)
      subst hposition
      obtain ⟨-, written, hwritten, hisWrite⟩ := hwrite
      have hstatement : statement = written := Option.some.inj (next.symm.trans hwritten)
      rw [writes, hstatement, if_pos hisWrite]
      exact List.mem_cons_self

/-- An executed write that the transaction has lost stays lost: no statement is executed twice. -/
theorem lost_step {write : SnapshotWrite}
    (hexecuted : write.position < (world.calls write.entryId).executed write.repository)
    (hlost : write ∉ world.tx.writes) (event : EntryDetailEvent) :
    write.position < ((syncTournamentEntryDetailsStep call world event).calls
        write.entryId).executed write.repository ∧
      write ∉ (syncTournamentEntryDetailsStep call world event).tx.writes := by
  refine ⟨Nat.lt_of_lt_of_le hexecuted (executed_le_step world event _ _), ?_⟩
  cases runEffect call world event with
  | none executed writes => rwa [writes]
  | rolledBack entryId throwing executed rolled =>
    rw [rolled]
    exact fun hmem => hlost ((world.tx.writes_rollbackTo_sublist entryId).subset hmem)
  | ran entryId repository statement next executed writes =>
    rw [writes]
    split
    · rw [List.mem_cons, not_or]
      refine ⟨fun heq => ?_, hlost⟩
      subst heq
      exact Nat.lt_irrefl _ hexecuted
    · exact hlost

/-- When the executed writes of some entries are held in the end, every rollback has spared them. -/
theorem everyStep_rollbackSpares {entries : ℕ → Prop} (hsound : world.Sound call)
    (events : List EntryDetailEvent)
    (hholds : HoldsExecuted call entries
      (runSteps (syncTournamentEntryDetailsStep call) world events)) :
    EveryStep (syncTournamentEntryDetailsStep call) (RollbackSpares entries) world events := by
  induction events generalizing world with
  | nil => trivial
  | cons event rest ih =>
    refine ⟨?_, ih (hsound.step event) hholds⟩
    intro entryId hevent hthrowing write hentry hdiscards
    have hmem : write ∈ world.tx.writes :=
      OpenTransaction.mem_writes.mpr (List.takeWhile_subset _ hdiscards.2)
    have hlost : write ∉ (syncTournamentEntryDetailsStep call world event).tx.writes := by
      subst hevent
      dsimp only [syncTournamentEntryDetailsStep, syncEntryInfoStep]
      rw [if_pos hthrowing]
      exact OpenTransaction.not_mem_writes_rollbackTo hsound.nodup hdiscards
    have hstays : ∀ (world : EntryDetailWorld) (event : EntryDetailEvent),
        (write.position < (world.calls write.entryId).executed write.repository ∧
          write ∉ world.tx.writes) →
        write.position < ((syncTournamentEntryDetailsStep call world event).calls
            write.entryId).executed write.repository ∧
          write ∉ (syncTournamentEntryDetailsStep call world event).tx.writes :=
      fun world event h => lost_step h.1 h.2 event
    have hend := runSteps_invariant hstays _ rest
      ⟨Nat.lt_of_lt_of_le (hsound.executed write hmem) (executed_le_step world event _ _), hlost⟩
    exact hend.2 (hholds write hentry (hsound.isWriteOf write hmem) hend.1)

/-- The writes of every entry whose call has returned are stored exactly when no rollback of the
run removes one of them. -/
theorem returnedEntries_stored_iff (call : EntryDetailCall) (events : List EntryDetailEvent)
    {stored : List SnapshotWrite}
    (hcommit : (runSteps (syncTournamentEntryDetailsStep call) .initial events).tx.commit =
      some stored) :
    (∀ entryId, ((runSteps (syncTournamentEntryDetailsStep call) .initial events).calls
        entryId).status = .returned →
      ∀ write, call.IsWriteOf entryId write → write ∈ stored) ↔
    EveryStep (syncTournamentEntryDetailsStep call)
      (RollbackSpares fun entryId =>
        ((runSteps (syncTournamentEntryDetailsStep call) .initial events).calls
          entryId).status = .returned)
      .initial events := by
  have hstep : ∀ (world : EntryDetailWorld) (event : EntryDetailEvent), world.Sound call →
      (syncTournamentEntryDetailsStep call world event).Sound call := fun _ event h => h.step event
  have hsound := runSteps_invariant hstep .initial events .initial
  obtain rfl : _ = stored := by
    unfold OpenTransaction.commit at hcommit
    split at hcommit
    · cases hcommit
    · exact Option.some.inj hcommit
  constructor
  · intro hstored
    refine everyStep_rollbackSpares .initial events ?_
    exact fun write hreturned hwrite _ => hstored write.entryId hreturned write hwrite
  · intro hspares entryId hreturned write hwrite
    have hholds : HoldsExecuted call _ _ :=
      runSteps_invariant_of_guard (fun _ _ h hguard => HoldsExecuted.step h hguard)
        (fun _ _ _ hposition => absurd hposition (Nat.not_lt_zero _)) hspares
    obtain ⟨rfl, statement, hstatement, hisWrite⟩ := hwrite
    refine hholds write hreturned ⟨rfl, statement, hstatement, hisWrite⟩ ?_
    -- a call that has returned has executed every statement
    have hcomplete := hsound.complete _ hreturned write.repository (SnapshotRepository.mem_all _)
    rw [hcomplete]
    exact (List.getElem?_eq_some_iff.mp hstatement).1

/-- Two entries without leagues or past seasons, both asked for. -/
def twoEntries : EntryDetailCall where
  entryIds := [1, 2]
  targetEventId := 1
  forceSnapshotRefresh := true
  checkpoint := fun _ => none
  concurrency := 5
  answer := fun _ => ⟨0, none, 0⟩

/-- The second entry sets its savepoint behind the first one's, writes and returns; then a statement
of the first one fails. -/
def overlappingEvents : List EntryDetailEvent :=
  [.start, .start,
    .entry 1 (.readCurrentEvent true), .entry 2 (.readCurrentEvent true),
    .entry 1 .answer, .entry 2 .answer,
    .entry 1 (.setSavepoint true), .entry 2 (.setSavepoint true),
    .entry 1 (.takeFence true), .entry 2 (.takeFence true),
    .entry 2 (.runStatement .entryInfo true),
    .entry 2 (.runStatement .entryHistoryInfo true),
    .entry 2 (.runStatement .entryHistoryInfo true),
    .entry 2 (.runStatement .entryHistoryInfo true),
    .entry 2 .finish,
    .entry 1 (.runStatement .entryInfo false), .entry 1 .rollBack]

/-- The two entries: the transaction commits. -/
theorem returnedEntries_stored_iff_overlapping :
    (∀ entryId, ((runSteps (syncTournamentEntryDetailsStep twoEntries) .initial
        overlappingEvents).calls entryId).status = .returned →
      ∀ write, twoEntries.IsWriteOf entryId write → write ∈ ([] : List SnapshotWrite)) ↔
    EveryStep (syncTournamentEntryDetailsStep twoEntries)
      (RollbackSpares fun entryId =>
        ((runSteps (syncTournamentEntryDetailsStep twoEntries) .initial overlappingEvents).calls
          entryId).status = .returned)
      .initial overlappingEvents :=
  returnedEntries_stored_iff twoEntries overlappingEvents (by decide +kernel)

/-- The transaction commits, and nothing is stored of the entry whose call has returned. -/
theorem rollback_discards_neighbour :
    (runSteps (syncTournamentEntryDetailsStep twoEntries) .initial
        overlappingEvents).tx.commit = some [] ∧
      ((runSteps (syncTournamentEntryDetailsStep twoEntries) .initial
        overlappingEvents).calls 2).status = .returned ∧
      twoEntries.IsWriteOf 2 ⟨2, .entryInfo, 0⟩ :=
  ⟨by decide +kernel, by decide +kernel, rfl, .insert .entries, rfl, rfl⟩

end LetletmeData
