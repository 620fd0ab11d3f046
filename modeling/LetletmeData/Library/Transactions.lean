import Mathlib.Data.List.Forall2
import Mathlib.Data.List.Nodup
import LetletmeData.Library.KeyedTables

/-!
# Transactions

What a transaction commits, what it reads while others write, and what is undone inside it.
-/

namespace LetletmeData.Library

/-! ## Checks and commits

A transaction reads, throws or writes. Its writes are committed together when it returns and
undone together when it throws. A check that passed tells what the state was like.
-/

section Checks

variable {Error State Value Result : Type}

/-- `if (condition) throw error`. -/
def throwIf (condition : Prop) [Decidable condition] (error : Error) : Except Error Unit :=
  if condition then .error error else .ok ()

/-- The value a query returned, or the error thrown when it returned none. -/
def orThrow (value : Option Value) (error : Error) : Except Error Value :=
  match value with
  | some found => .ok found
  | none => .error error

/-- Commit the state a transaction computes; when it throws, nothing has happened. -/
def commit (body : State → Except Error State) (state : State) : State :=
  match body state with
  | .ok written => written
  | .error _ => state

/-- A check passes when its condition fails. -/
@[simp] theorem throwIf_eq_ok {condition : Prop} [Decidable condition] {error : Error}
    {passed : Unit} : throwIf condition error = .ok passed ↔ ¬ condition := by
  unfold throwIf
  by_cases h : condition <;> simp [h]

/-- What follows a step runs on the value it returned. -/
theorem bind_eq_ok {first : Except Error Value} {next : Value → Except Error Result}
    {result : Result} :
    (first >>= next) = .ok result ↔ ∃ value, first = .ok value ∧ next value = .ok result := by
  cases first <;> simp [bind, Except.bind]

/-- A result that is only passed on through a function. -/
theorem map_eq_ok {first : Except Error Value} {pick : Value → Result} {result : Result} :
    pick <$> first = .ok result ↔ ∃ value, first = .ok value ∧ pick value = result := by
  cases first <;> simp [Functor.map, Except.map]

/-- A result that is only passed on, with another error. -/
@[simp] theorem mapError_eq_ok {Error' : Type} {first : Except Error Value}
    {pick : Error → Error'} {value : Value} :
    first.mapError pick = .ok value ↔ first = .ok value := by
  cases first <;> simp [Except.mapError]

/-- What follows a check runs when the check passes. -/
@[simp] theorem throwIf_bind_eq_ok {condition : Prop} [Decidable condition] {error : Error}
    {next : Unit → Except Error Result} {result : Result} :
    (throwIf condition error >>= next) = .ok result ↔ ¬ condition ∧ next () = .ok result := by
  unfold throwIf
  by_cases h : condition <;> simp [h, bind, Except.bind]

/-- What follows a query runs on the value it returned. -/
@[simp] theorem orThrow_bind_eq_ok {value : Option Value} {error : Error}
    {next : Value → Except Error Result} {result : Result} :
    (orThrow value error >>= next) = .ok result ↔
      ∃ found, value = some found ∧ next found = .ok result := by
  cases value <;> simp [orThrow, bind, Except.bind]

/-- Whatever corresponds to a list by its entries comes from one of them. -/
theorem exists_of_mem_of_forall₂ {related : Value → Result → Prop} {values : List Value}
    {results : List Result} (h : List.Forall₂ related values results) {result : Result}
    (hresult : result ∈ results) : ∃ value ∈ values, related value result := by
  induction h with
  | nil => exact nomatch hresult
  | cons hhead _ ih =>
    rcases List.mem_cons.mp hresult with rfl | htail
    · exact ⟨_, List.mem_cons_self, hhead⟩
    · obtain ⟨value, hvalue, hrelated⟩ := ih htail
      exact ⟨value, List.mem_cons_of_mem _ hvalue, hrelated⟩

/-- A loop over a list returns when every pass does, with the results in order. -/
theorem mapM_eq_ok {pass : Value → Except Error Result} {values : List Value}
    {results : List Result} :
    values.mapM pass = .ok results ↔
      List.Forall₂ (fun value result => pass value = .ok result) values results := by
  induction values generalizing results with
  | nil => simp [pure, Except.pure, eq_comm]
  | cons value rest ih =>
    rw [List.mapM_cons]
    cases hvalue : pass value with
    | error error => simp [bind, Except.bind, List.forall₂_cons_left_iff, hvalue]
    | ok result =>
      cases hrest : rest.mapM pass with
      | error error =>
        simp [bind, Except.bind, List.forall₂_cons_left_iff, ← ih, hrest]
      | ok tail =>
        simp [bind, Except.bind, pure, Except.pure, List.forall₂_cons_left_iff, ← ih, hrest,
          hvalue, eq_comm]

/-- A loop whose every pass returns returns the list of what they return. -/
theorem mapM_eq_ok_map {pass : Value → Except Error Result} {pick : Value → Result}
    {values : List Value} (h : ∀ value ∈ values, pass value = .ok (pick value)) :
    values.mapM pass = .ok (values.map pick) := by
  refine mapM_eq_ok.mpr ?_
  rw [List.forall₂_map_right_iff, List.forall₂_same]
  exact h

/-- A loop over a list returns exactly when every pass does. -/
theorem exists_mapM_eq_ok {pass : Value → Except Error Result} {values : List Value} :
    (∃ results, values.mapM pass = .ok results) ↔
      ∀ value ∈ values, ∃ result, pass value = .ok result := by
  simp only [mapM_eq_ok]
  induction values with
  | nil => simp
  | cons value rest ih =>
    simp only [List.forall₂_cons_left_iff, List.forall_mem_cons, ← ih]
    constructor
    · rintro ⟨_, result, results, hvalue, hrest, rfl⟩
      exact ⟨⟨result, hvalue⟩, results, hrest⟩
    · rintro ⟨⟨result, hvalue⟩, results, hrest⟩
      exact ⟨_, result, results, hvalue, hrest, rfl⟩

/-- A loop without results returns exactly when every pass does. -/
theorem forM_eq_ok {pass : Value → Except Error Unit} {values : List Value} :
    values.forM pass = .ok () ↔ ∀ value ∈ values, pass value = .ok () := by
  induction values with
  | nil => simp [pure, Except.pure]
  | cons value rest ih =>
    change (pass value >>= fun _ => rest.forM pass) = .ok () ↔ _
    rw [bind_eq_ok, List.forall_mem_cons, ← ih]
    constructor
    · rintro ⟨_, hvalue, hrest⟩
      exact ⟨hvalue, hrest⟩
    · rintro ⟨hvalue, hrest⟩
      exact ⟨(), hvalue, hrest⟩

/-- A loop that carries a state: what every pass adds to a relation holds of all passes. -/
theorem foldlM_induction {pass : State → Value → Except Error State}
    (related : List Value → State → State → Prop) (hnil : ∀ state, related [] state state)
    (hcons : ∀ state next last value rest, pass state value = .ok next → related rest next last →
      related (value :: rest) state last)
    {values : List Value} {state last : State} (h : values.foldlM pass state = .ok last) :
    related values state last := by
  induction values generalizing state with
  | nil =>
    obtain rfl : state = last := by simpa [pure, Except.pure] using h
    exact hnil state
  | cons value rest ih =>
    rw [List.foldlM_cons] at h
    obtain ⟨next, hnext, hrest⟩ := bind_eq_ok.mp h
    exact hcons state next last value rest hnext (ih hrest)

/-- A loop whose passes all keep a property keeps it. -/
theorem foldlM_invariant {pass : State → Value → Except Error State}
    {holds : State → Prop} {values : List Value}
    (hpass : ∀ state value next, value ∈ values → holds state → pass state value = .ok next →
      holds next) {state last : State} (hstate : holds state)
    (h : values.foldlM pass state = .ok last) : holds last := by
  induction values generalizing state with
  | nil =>
    obtain rfl : state = last := by simpa [pure, Except.pure] using h
    exact hstate
  | cons value rest ih =>
    rw [List.foldlM_cons] at h
    obtain ⟨next, hnext, hrest⟩ := bind_eq_ok.mp h
    exact ih (fun state other next hother => hpass state other next (List.mem_cons_of_mem _ hother))
      (hpass state value next List.mem_cons_self hstate hnext) hrest

/-- A transaction that returns is committed. -/
theorem commit_of_ok {body : State → Except Error State} {state written : State}
    (h : body state = .ok written) : commit body state = written := by
  simp [commit, h]

/-- A transaction that throws is rolled back. -/
theorem commit_of_error {body : State → Except Error State} {state : State} {error : Error}
    (h : body state = .error error) : commit body state = state := by
  simp [commit, h]

/-- What relates a state to itself and to what the body may write relates it to the commit. -/
theorem commit_induction {body : State → Except Error State} {state : State}
    {related : State → Prop} (hself : related state)
    (hbody : ∀ written, body state = .ok written → related written) :
    related (commit body state) := by
  cases h : body state with
  | ok written => exact commit_of_ok h ▸ hbody written h
  | error error => exact (commit_of_error h).symm ▸ hself

end Checks

/-! ## Repeatable reads

A transaction reads a table as it stood when the transaction began, with its own writes. It may
write a row only when nobody else has changed it since: a row that is stored otherwise than the
transaction sees it makes the write fail. Nothing is said of the rows it does not see.
-/

section RepeatableReads

variable {Key Row : Type} [DecidableEq Key] [DecidableEq Row]

/-- A table inside a transaction: what the transaction sees, and what is stored when it ends. -/
structure RowsSeen (Key Row : Type) where
  seen : KeyedTable Key Row
  stored : KeyedTable Key Row

namespace RowsSeen

/-- A selected row has been changed by somebody else. -/
def Outdated (rows : RowsSeen Key Row) (selected : Key → Row → Prop)
    [∀ key row, Decidable (selected key row)] : Prop :=
  ∃ entry ∈ rows.seen.selectWhere selected, rows.stored.find entry.1 ≠ some entry.2

instance (rows : RowsSeen Key Row) (selected : Key → Row → Prop)
    [∀ key row, Decidable (selected key row)] : Decidable (rows.Outdated selected) :=
  inferInstanceAs (Decidable (∃ entry ∈ rows.seen.selectWhere selected, _))

/-- The transaction sees a selected row under the key. -/
def Sees (rows : RowsSeen Key Row) (selected : Key → Row → Prop) (key : Key) : Prop :=
  ∃ row ∈ rows.seen.find key, selected key row

instance (rows : RowsSeen Key Row) (selected : Key → Row → Prop)
    [∀ key row, Decidable (selected key row)] (key : Key) : Decidable (rows.Sees selected key) :=
  inferInstanceAs (Decidable (∃ row ∈ rows.seen.find key, selected key row))

/-- `INSERT` under a new key. -/
def insert (key : Key) (row : Row) (rows : RowsSeen Key Row) : RowsSeen Key Row :=
  ⟨rows.seen.upsert key row, rows.stored.insertAbsent key row⟩

/-- `UPDATE ... WHERE`. -/
def updateWhere (selected : Key → Row → Prop) [∀ key row, Decidable (selected key row)]
    (write : Row → Row) (rows : RowsSeen Key Row) : Except String (RowsSeen Key Row) := do
  throwIf (rows.Outdated selected) "could not serialize access due to concurrent update"
  return ⟨rows.seen.updateWhere selected write,
    rows.stored.updateWhere (fun key _ => rows.Sees selected key) write⟩

/-- `DELETE ... WHERE`. -/
def deleteWhere (selected : Key → Row → Prop) [∀ key row, Decidable (selected key row)]
    (rows : RowsSeen Key Row) : Except String (RowsSeen Key Row) := do
  throwIf (rows.Outdated selected) "could not serialize access due to concurrent update"
  return ⟨rows.seen.deleteWhere selected,
    rows.stored.deleteWhere fun key _ => rows.Sees selected key⟩

variable {rows after : RowsSeen Key Row} {selected : Key → Row → Prop}
  [∀ key row, Decidable (selected key row)] {write : Row → Row} {key : Key} {row : Row}

/-- What is not outdated is stored as it is seen. -/
theorem find_stored_of_not_outdated (h : ¬ rows.Outdated selected)
    (hseen : rows.seen.find key = some row) (hselected : selected key row) :
    rows.stored.find key = some row := by
  by_contra hstored
  exact h ⟨(key, row), KeyedTable.mem_selectWhere.mpr ⟨hseen, hselected⟩, hstored⟩

/-- An update goes through when the rows it selects are stored as they are seen. -/
theorem updateWhere_eq_ok (h : rows.updateWhere selected write = .ok after) :
    (∀ key row, rows.seen.find key = some row → selected key row →
        rows.stored.find key = some row) ∧
      after.seen = rows.seen.updateWhere selected write ∧
      after.stored = rows.stored.updateWhere (fun key _ => rows.Sees selected key) write := by
  unfold updateWhere at h
  rw [throwIf_bind_eq_ok] at h
  obtain ⟨hcurrent, hafter⟩ := h
  cases hafter
  exact ⟨fun _ _ => find_stored_of_not_outdated hcurrent, rfl, rfl⟩

/-- The same for a deletion. -/
theorem deleteWhere_eq_ok (h : rows.deleteWhere selected = .ok after) :
    (∀ key row, rows.seen.find key = some row → selected key row →
        rows.stored.find key = some row) ∧
      after.seen = rows.seen.deleteWhere selected ∧
      after.stored = rows.stored.deleteWhere fun key _ => rows.Sees selected key := by
  unfold deleteWhere at h
  rw [throwIf_bind_eq_ok] at h
  obtain ⟨hcurrent, hafter⟩ := h
  cases hafter
  exact ⟨fun _ _ => find_stored_of_not_outdated hcurrent, rfl, rfl⟩

end RowsSeen

end RepeatableReads

/-! ## Savepoints

The savepoints and writes of one transaction form a stack. Rolling back to a savepoint removes
everything set or written after it, whoever wrote it, and keeps the savepoint itself. A statement
that fails aborts the transaction until a savepoint is rolled back to; an aborted transaction
commits nothing.
-/

/-- What a transaction has done: a savepoint it has set or a write. -/
inductive Mark (Name Write : Type*) where
  | savepoint (name : Name)
  | written (write : Write)
  deriving DecidableEq

/-- An open transaction, newest mark first. -/
structure OpenTransaction (Name Write : Type*) where
  marks : List (Mark Name Write)
  aborted : Bool

namespace OpenTransaction

variable {Name Write : Type*}

/-- A transaction that has done nothing yet. -/
def opened : OpenTransaction Name Write := ⟨[], false⟩

/-- The writes the transaction holds, newest first. -/
def writes (tx : OpenTransaction Name Write) : List Write :=
  tx.marks.filterMap fun
    | .savepoint _ => none
    | .written write => some write

/-- A statement failed. -/
def abort (tx : OpenTransaction Name Write) : OpenTransaction Name Write :=
  { tx with aborted := true }

/-- `SAVEPOINT name`. -/
def savepoint (name : Name) (tx : OpenTransaction Name Write) : OpenTransaction Name Write :=
  { tx with marks := .savepoint name :: tx.marks }

/-- A statement that writes. -/
def write (write : Write) (tx : OpenTransaction Name Write) : OpenTransaction Name Write :=
  { tx with marks := .written write :: tx.marks }

/-- What `COMMIT` stores: of an aborted transaction nothing. -/
def commit (tx : OpenTransaction Name Write) : Option (List Write) :=
  if tx.aborted then none else some tx.writes

variable [DecidableEq Name] [DecidableEq Write]

/-- The marks behind which a savepoint is found. -/
def above (name : Name) (tx : OpenTransaction Name Write) : List (Mark Name Write) :=
  tx.marks.takeWhile (· ≠ .savepoint name)

/-- `ROLLBACK TO SAVEPOINT name`, which fails when there is no such savepoint. -/
def rollbackTo (name : Name) (tx : OpenTransaction Name Write) : OpenTransaction Name Write :=
  if .savepoint name ∈ tx.marks then
    { marks := tx.marks.dropWhile (· ≠ .savepoint name), aborted := false }
  else tx.abort

/-- Rolling back to a savepoint removes a write. -/
def Discards (name : Name) (tx : OpenTransaction Name Write) (write : Write) : Prop :=
  .savepoint name ∈ tx.marks ∧ .written write ∈ tx.above name

omit [DecidableEq Name] [DecidableEq Write] in
/-- The writes are the marks of writes. -/
theorem mem_writes {tx : OpenTransaction Name Write} {write : Write} :
    write ∈ tx.writes ↔ .written write ∈ tx.marks := by
  unfold writes
  rw [List.mem_filterMap]
  constructor
  · rintro ⟨mark, hmark, hwrite⟩
    cases mark with
    | savepoint name => cases hwrite
    | written other =>
      cases hwrite
      exact hmark
  · exact fun hmark => ⟨_, hmark, rfl⟩

/-- A rollback keeps a part of the writes. -/
theorem writes_rollbackTo_sublist (name : Name) (tx : OpenTransaction Name Write) :
    (tx.rollbackTo name).writes.Sublist tx.writes := by
  unfold rollbackTo
  split
  · exact (List.dropWhile_sublist _).filterMap _
  · exact List.Sublist.refl _

/-- A rollback loses only the writes it discards. -/
theorem mem_writes_rollbackTo {name : Name} {tx : OpenTransaction Name Write} {write : Write}
    (hwrite : write ∈ tx.writes) (hkept : ¬ tx.Discards name write) :
    write ∈ (tx.rollbackTo name).writes := by
  unfold rollbackTo
  split
  next hname =>
    rw [mem_writes] at hwrite ⊢
    rw [← List.takeWhile_append_dropWhile (p := (· ≠ .savepoint name)) (l := tx.marks),
      List.mem_append] at hwrite
    exact hwrite.resolve_left fun habove => hkept ⟨hname, habove⟩
  next => exact hwrite

/-- A rollback loses every write it discards. -/
theorem not_mem_writes_rollbackTo {name : Name} {tx : OpenTransaction Name Write} {write : Write}
    (hnodup : tx.writes.Nodup) (hdiscards : tx.Discards name write) :
    write ∉ (tx.rollbackTo name).writes := by
  intro hkept
  unfold rollbackTo at hkept
  rw [if_pos hdiscards.1] at hkept
  unfold writes at hnodup
  rw [← List.takeWhile_append_dropWhile (p := (· ≠ .savepoint name)) (l := tx.marks),
    List.filterMap_append] at hnodup
  exact List.disjoint_of_nodup_append hnodup
    (List.mem_filterMap.mpr ⟨_, hdiscards.2, rfl⟩) hkept

end OpenTransaction

end LetletmeData.Library
