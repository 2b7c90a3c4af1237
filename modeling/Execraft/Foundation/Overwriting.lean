import Mathlib.Data.List.Induction

/-!
# Overwriting updates

Updates of a state of which any two either commute or the later one makes up for the
earlier.  Doing a list of them twice is doing it once.
-/

namespace Foundation

variable {Key State : Type}

/-- Repeating an update changes nothing; of two updates the second hides the first, or
their order does not matter. -/
structure Overwriting (update : Key → State → State) : Prop where
  again : ∀ key state, update key (update key state) = update key state
  pairs : ∀ first second,
    (∀ state, update second (update first state) = update second state) ∨
      ∀ state, update second (update first state) = update first (update second state)

/-- The updates of a list, in order. -/
def updateAll (update : Key → State → State) (keys : List Key) (state : State) : State :=
  keys.foldl (fun state key => update key state) state

variable {update : Key → State → State}

theorem updateAll_append (first second : List Key) (state : State) :
    updateAll update (first ++ second) state =
      updateAll update second (updateAll update first state) :=
  List.foldl_append

theorem Overwriting.absorbs (overwriting : Overwriting update) (keys : List Key) (key : Key)
    (state : State) :
    update key (updateAll update keys (update key state)) =
      update key (updateAll update keys state) := by
  induction keys generalizing state with
  | nil => exact overwriting.again key state
  | cons head tail inductionHypothesis =>
      change update key (updateAll update tail (update head (update key state))) =
        update key (updateAll update tail (update head state))
      rcases overwriting.pairs key head with hides | commutes
      · rw [hides]
      · rw [commutes, inductionHypothesis]

/-- A list of updates done twice. -/
theorem Overwriting.updateAll_updateAll (overwriting : Overwriting update)
    (keys : List Key) (state : State) :
    updateAll update keys (updateAll update keys state) = updateAll update keys state := by
  induction keys using List.reverseRecOn with
  | nil => rfl
  | append_singleton front last inductionHypothesis =>
      have step : ∀ other, updateAll update (front ++ [last]) other =
          update last (updateAll update front other) :=
        fun other => updateAll_append front [last] other
      rw [step, step, overwriting.absorbs, inductionHypothesis]

/-- The last part of a list of updates done again. -/
theorem Overwriting.updateAll_suffix (overwriting : Overwriting update)
    (front back : List Key) (state : State) :
    updateAll update back (updateAll update (front ++ back) state) =
      updateAll update (front ++ back) state := by
  rw [updateAll_append, overwriting.updateAll_updateAll]

end Foundation
