import Mathlib.Data.List.Basic

/-!
# Computations on a state that may fail

A failure keeps the changes that were made before it.  The rules say what a
computation ensures from one state on, and how it relates any state to the state
that it leaves behind.
-/

namespace Foundation

/-- A computation on a state; what it changed stays changed when it fails. -/
def Stateful (State Failure Value : Type) :=
  State → Except Failure Value × State

namespace Stateful

variable {State Failure Value Other : Type}

protected def pure (value : Value) : Stateful State Failure Value :=
  fun state => (.ok value, state)

protected def bind (first : Stateful State Failure Value)
    (next : Value → Stateful State Failure Other) : Stateful State Failure Other :=
  fun state =>
    match first state with
    | (.ok value, middle) => next value middle
    | (.error failure, middle) => (.error failure, middle)

instance : Monad (Stateful State Failure) where
  pure := Stateful.pure
  bind := Stateful.bind

def read : Stateful State Failure State :=
  fun state => (.ok state, state)

def modify (change : State → State) : Stateful State Failure Unit :=
  fun state => (.ok (), change state)

def raise (failure : Failure) : Stateful State Failure Value :=
  fun state => (.error failure, state)

def ofOutcome (outcome : Except Failure Value) : Stateful State Failure Value :=
  fun state => (outcome, state)

/-- What `handler` does with the failures of the computation. -/
def recover (program : Stateful State Failure Value)
    (handler : Failure → Stateful State Other Value) : Stateful State Other Value :=
  fun state =>
    match program state with
    | (.ok value, middle) => (.ok value, middle)
    | (.error failure, middle) => handler failure middle

@[simp]
theorem pure_apply (value : Value) (state : State) :
    (pure value : Stateful State Failure Value) state = (.ok value, state) :=
  rfl

@[simp]
theorem read_apply (state : State) :
    (read : Stateful State Failure State) state = (.ok state, state) :=
  rfl

@[simp]
theorem modify_apply (change : State → State) (state : State) :
    (modify change : Stateful State Failure Unit) state = (.ok (), change state) :=
  rfl

@[simp]
theorem raise_apply (failure : Failure) (state : State) :
    (raise failure : Stateful State Failure Value) state = (.error failure, state) :=
  rfl

@[simp]
theorem ofOutcome_apply (outcome : Except Failure Value) (state : State) :
    (ofOutcome outcome : Stateful State Failure Value) state = (outcome, state) :=
  rfl

theorem bind_apply (first : Stateful State Failure Value)
    (next : Value → Stateful State Failure Other) (state : State) :
    (first >>= next) state =
      match first state with
      | (.ok value, middle) => next value middle
      | (.error failure, middle) => (.error failure, middle) :=
  rfl

@[simp]
theorem pure_bind_apply (value : Value)
    (next : Value → Stateful State Failure Other) (state : State) :
    ((pure value : Stateful State Failure Value) >>= next) state = next value state :=
  rfl

@[simp]
theorem read_bind_apply (next : State → Stateful State Failure Other) (state : State) :
    ((read : Stateful State Failure State) >>= next) state = next state state :=
  rfl

@[simp]
theorem modify_bind_apply (change : State → State)
    (next : Unit → Stateful State Failure Other) (state : State) :
    ((modify change : Stateful State Failure Unit) >>= next) state =
      next () (change state) :=
  rfl

@[simp]
theorem raise_bind_apply (failure : Failure)
    (next : Value → Stateful State Failure Other) (state : State) :
    ((raise failure : Stateful State Failure Value) >>= next) state =
      (.error failure, state) :=
  rfl

/-! ## What a computation ensures -/

/-- From this state the computation returns as `returns` says or fails as `raises` says. -/
def Ensures (program : Stateful State Failure Value) (state : State)
    (returns : Value → State → Prop) (raises : Failure → State → Prop) : Prop :=
  match program state with
  | (.ok value, final) => returns value final
  | (.error failure, final) => raises failure final

section Ensures

variable {state : State} {returns : Value → State → Prop}
  {raises : Failure → State → Prop}

@[simp]
theorem ensures_pure {value : Value} :
    Ensures (pure value : Stateful State Failure Value) state returns raises ↔
      returns value state :=
  Iff.rfl

@[simp]
theorem ensures_raise {failure : Failure} :
    Ensures (raise failure : Stateful State Failure Value) state returns raises ↔
      raises failure state :=
  Iff.rfl

@[simp]
theorem ensures_read {returns : State → State → Prop} :
    Ensures (read : Stateful State Failure State) state returns raises ↔
      returns state state :=
  Iff.rfl

@[simp]
theorem ensures_modify {change : State → State} {returns : Unit → State → Prop} :
    Ensures (modify change : Stateful State Failure Unit) state returns raises ↔
      returns () (change state) :=
  Iff.rfl

@[simp]
theorem ensures_bind {first : Stateful State Failure Other}
    {next : Other → Stateful State Failure Value} :
    Ensures (first >>= next) state returns raises ↔
      Ensures first state (fun value middle => Ensures (next value) middle returns raises)
        raises := by
  unfold Ensures
  rw [bind_apply]
  cases first state with
  | mk outcome middle =>
      cases outcome with
      | ok value => exact Iff.rfl
      | error failure => exact Iff.rfl

theorem Ensures.mono {program : Stateful State Failure Value}
    {weaker : Value → State → Prop} {weakly : Failure → State → Prop}
    (ensures : Ensures program state returns raises)
    (returned : ∀ value final, returns value final → weaker value final)
    (raised : ∀ failure final, raises failure final → weakly failure final) :
    Ensures program state weaker weakly := by
  unfold Ensures at ensures ⊢
  cases ran : program state with
  | mk outcome final =>
      rw [ran] at ensures
      cases outcome with
      | ok value => exact returned value final ensures
      | error failure => exact raised failure final ensures

theorem Ensures.and {program : Stateful State Failure Value}
    {other : Value → State → Prop} {otherwise : Failure → State → Prop}
    (ensures : Ensures program state returns raises)
    (also : Ensures program state other otherwise) :
    Ensures program state (fun value final => returns value final ∧ other value final)
      fun failure final => raises failure final ∧ otherwise failure final := by
  unfold Ensures at ensures also ⊢
  cases ran : program state with
  | mk outcome final =>
      rw [ran] at ensures also
      cases outcome with
      | ok value => exact ⟨ensures, also⟩
      | error failure => exact ⟨ensures, also⟩

/-- A computation that never fails returns. -/
theorem Ensures.completes {program : Stateful State Failure Value}
    (ensures : Ensures program state returns fun _ _ => False) :
    ∃ value final, program state = (.ok value, final) ∧ returns value final := by
  unfold Ensures at ensures
  cases ran : program state with
  | mk outcome final =>
      rw [ran] at ensures
      cases outcome with
      | ok value => exact ⟨value, final, rfl, ensures⟩
      | error failure => exact ensures.elim

/-- What holds of the state at the end holds in either case. -/
theorem ensures_of_final {program : Stateful State Failure Value} {ended : State → Prop}
    (holds : ended (program state).2) :
    Ensures program state (fun _ => ended) fun _ => ended := by
  unfold Ensures
  cases ran : program state with
  | mk outcome final =>
      rw [ran] at holds
      cases outcome with
      | ok value => exact holds
      | error failure => exact holds

theorem ensures_ite {condition : Prop} [Decidable condition]
    {program other : Stateful State Failure Value}
    (first : condition → Ensures program state returns raises)
    (second : ¬condition → Ensures other state returns raises) :
    Ensures (if condition then program else other) state returns raises := by
  by_cases holds : condition
  · rw [if_pos holds]
    exact first holds
  · rw [if_neg holds]
    exact second holds

end Ensures

/-! ## What a computation does to any state -/

/-- The computation takes every state to a related one, also when it fails. -/
def Within (relation : State → State → Prop)
    (program : Stateful State Failure Value) : Prop :=
  ∀ state, relation state (program state).2

section Within

variable {relation : State → State → Prop}

theorem Within.ensures {program : Stateful State Failure Value}
    (within : Within relation program) (state : State) :
    Ensures program state (fun _ => relation state) fun _ => relation state :=
  ensures_of_final (within state)

theorem within_pure (reflexive : ∀ state, relation state state) {value : Value} :
    Within relation (pure value : Stateful State Failure Value) :=
  fun state => reflexive state

theorem within_raise (reflexive : ∀ state, relation state state) {failure : Failure} :
    Within relation (raise failure : Stateful State Failure Value) :=
  fun state => reflexive state

theorem within_read (reflexive : ∀ state, relation state state) :
    Within relation (read : Stateful State Failure State) :=
  fun state => reflexive state

theorem within_bind
    (transitive : ∀ first second third, relation first second → relation second third →
      relation first third)
    {first : Stateful State Failure Value}
    {next : Value → Stateful State Failure Other} (begins : Within relation first)
    (goes : ∀ value, Within relation (next value)) : Within relation (first >>= next) := by
  intro state
  have begun := begins state
  rw [bind_apply]
  cases ran : first state with
  | mk outcome middle =>
      rw [ran] at begun
      cases outcome with
      | ok value => exact transitive _ _ _ begun (goes value middle)
      | error failure => exact begun

theorem within_ite {condition : Prop} [Decidable condition]
    {program other : Stateful State Failure Value} (first : Within relation program)
    (second : Within relation other) :
    Within relation (if condition then program else other) := by
  by_cases holds : condition
  · rw [if_pos holds]
    exact first
  · rw [if_neg holds]
    exact second

theorem within_recover
    (transitive : ∀ first second third, relation first second → relation second third →
      relation first third)
    {program : Stateful State Failure Value}
    {handler : Failure → Stateful State Other Value} (begins : Within relation program)
    (goes : ∀ failure, Within relation (handler failure)) :
    Within relation (recover program handler) := by
  intro state
  have begun := begins state
  unfold recover
  cases ran : program state with
  | mk outcome middle =>
      rw [ran] at begun
      cases outcome with
      | ok value => exact begun
      | error failure => exact transitive _ _ _ begun (goes failure middle)

end Within

end Stateful

end Foundation
