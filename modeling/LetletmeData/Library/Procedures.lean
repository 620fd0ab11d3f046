import LetletmeData.Library.Transactions

/-!
# Procedures that may throw

A procedure works on a state and returns or throws, and what it has done to the state stays
done. A statement may fail before it takes effect, or after, when only its answer is lost. How a
procedure ends is shown along its statements, by one rule for each way to compose them.
-/

namespace LetletmeData.Library

/-- A procedure on a state. -/
abbrev Procedure (State Error : Type) := ExceptT Error (StateM State)

/-- How a statement fails, if it does. -/
inductive Fault (Error : Type) where
  | none
  | before (error : Error)
  | after (error : Error)

variable {State Error Value Result : Type}

/-- A statement under a fault. -/
def statement (fault : Fault Error) (body : State → State × Except Error Value) :
    Procedure State Error Value :=
  ExceptT.mk fun state =>
    match fault with
    | .none => ((body state).2, (body state).1)
    | .before error => (.error error, state)
    | .after error => (.error error, (body state).1)

/-- A transaction of its own: what it writes is committed when it returns. -/
def transaction (body : State → Except Error State) : Procedure State Error Unit :=
  ExceptT.mk fun state =>
    match body state with
    | .ok written => (.ok (), written)
    | .error error => (.error error, state)

/-- A step outside the state, whose result is given. -/
def external (result : Except Error Value) : Procedure State Error Value :=
  ExceptT.mk fun state => (result, state)

/-- An assignment to the state. -/
def assign (write : State → State) : Procedure State Error Unit :=
  ExceptT.mk fun state => (.ok (), write state)

/-- `procedure.catch(() => undefined)`. -/
def ignoreErrors (procedure : Procedure State Error Unit) : Procedure State Error Unit :=
  tryCatch procedure fun _ => pure ()

/-- The procedure ends in a result and a state that satisfy the condition. -/
def Ends (procedure : Procedure State Error Value) (state : State)
    (condition : Except Error Value → State → Prop) : Prop :=
  condition (procedure.run.run state).1 (procedure.run.run state).2

namespace Ends

variable {state : State} {condition : Except Error Value → State → Prop}
  {condition' : Except Error Result → State → Prop}

/-- A condition may be weakened. -/
theorem mono {procedure : Procedure State Error Value} {weaker : Except Error Value → State → Prop}
    (h : Ends procedure state condition)
    (hweaker : ∀ result later, condition result later → weaker result later) :
    Ends procedure state weaker :=
  hweaker _ _ h

/-- A value is returned in the state as it is. -/
theorem pure {value : Value} (h : condition (.ok value) state) :
    Ends (Pure.pure value) state condition := h

/-- An error is thrown in the state as it is. -/
theorem throw {error : Error} (h : condition (.error error) state) :
    Ends (MonadExcept.throw error) state condition := h

/-- Reading the state returns it. -/
theorem get {condition : Except Error State → State → Prop} (h : condition (.ok state) state) :
    Ends (MonadState.get : Procedure State Error State) state condition := h

/-- A transaction ends in what it writes, or throws in the state as it is. -/
theorem transaction {body : State → Except Error State}
    {condition : Except Error Unit → State → Prop}
    (hok : ∀ written, body state = .ok written → condition (.ok ()) written)
    (herror : ∀ error, body state = .error error → condition (.error error) state) :
    Ends (transaction body) state condition := by
  change condition (match body state with
    | .ok written => (Except.ok (), written)
    | .error error => (.error error, state)).1 (match body state with
    | .ok written => (Except.ok (), written)
    | .error error => (.error error, state)).2
  cases hbody : body state with
  | ok written => exact hok written hbody
  | error error => exact herror error hbody

/-- An external step ends in its result. -/
theorem external {result : Except Error Value} (h : condition result state) :
    Ends (external result) state condition := h

/-- An assignment returns in the state it writes. -/
theorem assign {write : State → State} {condition : Except Error Unit → State → Prop}
    (h : condition (.ok ()) (write state)) : Ends (assign write) state condition := h

/-- A statement ends in one of three ways, by its fault. -/
theorem statement {fault : Fault Error} {body : State → State × Except Error Value}
    (hnone : fault = .none → condition (body state).2 (body state).1)
    (hbefore : ∀ error, fault = .before error → condition (.error error) state)
    (hafter : ∀ error, fault = .after error → condition (.error error) (body state).1) :
    Ends (statement fault body) state condition := by
  cases fault with
  | none => exact hnone rfl
  | before error => exact hbefore error rfl
  | after error => exact hafter error rfl

/-- A statement that does not fail ends as its body does. -/
theorem statement_none {body : State → State × Except Error Value}
    (h : condition (body state).2 (body state).1) :
    Ends (LetletmeData.Library.statement .none body) state condition := h

/-- What follows runs when the first part returns. -/
theorem bind {first : Procedure State Error Value} {next : Value → Procedure State Error Result}
    (h : Ends first state fun result later =>
      match result with
      | .ok value => Ends (next value) later condition'
      | .error error => condition' (.error error) later) :
    Ends (first >>= next) state condition' := by
  have hrun : (first >>= next).run.run state =
      match first.run.run state with
      | (.ok value, later) => (next value).run.run later
      | (.error error, later) => (.error error, later) := by
    change ExceptT.bindCont next (first.run.run state).1 (first.run.run state).2 = _
    cases first.run.run state with
    | mk result later => cases result <;> rfl
  unfold Ends at h ⊢
  rw [hrun]
  cases hfirst : first.run.run state with
  | mk result later =>
    rw [hfirst] at h
    cases result <;> exact h

/-- A loop ends in what its passes keep, also when one of them throws. -/
theorem foldlM {Item : Type} {pass : Value → Item → Procedure State Error Value}
    {invariant : State → Prop} {items : List Item}
    (hpass : ∀ value state, ∀ item ∈ items, invariant state →
      Ends (pass value item) state fun _ later => invariant later)
    (value : Value) {state : State} (h : invariant state) :
    Ends (items.foldlM pass value) state fun _ later => invariant later := by
  induction items generalizing value state with
  | nil => exact h
  | cons item rest ih =>
    rw [List.foldlM_cons]
    refine bind ((hpass value state item List.mem_cons_self h).mono fun result later hlater => ?_)
    cases result with
    | ok next => exact ih (fun value state other hother =>
        hpass value state other (List.mem_cons_of_mem _ hother)) next hlater
    | error error => exact hlater

/-- A handler runs on what was thrown. -/
theorem tryCatch {procedure : Procedure State Error Value}
    {handler : Error → Procedure State Error Value}
    (h : Ends procedure state fun result later =>
      match result with
      | .ok value => condition (.ok value) later
      | .error error => Ends (handler error) later condition) :
    Ends (MonadExcept.tryCatch procedure handler) state condition := by
  have hrun : (MonadExcept.tryCatch procedure handler : Procedure State Error Value).run.run state =
      match procedure.run.run state with
      | (.ok value, later) => (.ok value, later)
      | (.error error, later) => (handler error).run.run later := by
    change (match (procedure.run.run state).1 with
      | .ok value => Pure.pure (.ok value)
      | .error error => handler error : StateM State _).run (procedure.run.run state).2 = _
    cases procedure.run.run state with
    | mk result later => cases result <;> rfl
  unfold Ends at h ⊢
  rw [hrun]
  cases hprocedure : procedure.run.run state with
  | mk result later =>
    rw [hprocedure] at h
    cases result <;> exact h

/-- A procedure whose errors are ignored returns. -/
theorem ignoreErrors {procedure : Procedure State Error Unit}
    {condition : Except Error Unit → State → Prop}
    (h : Ends procedure state fun _ later => condition (.ok ()) later) :
    Ends (ignoreErrors procedure) state condition := by
  refine tryCatch ?_
  unfold Ends at h ⊢
  cases (procedure.run.run state).1 <;> exact h

end Ends

end LetletmeData.Library
