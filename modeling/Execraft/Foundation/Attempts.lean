import Mathlib.Data.List.Basic

/-!
# The first attempt that succeeds

Attempts are made in order until one succeeds; the errors of the others are collected.
-/

namespace Foundation

variable {Error Value : Type*}

/-- The value of the first attempt that succeeds, or every error. -/
def firstOk : List (Except Error Value) → Except (List Error) Value
  | [] => .error []
  | .ok value :: _ => .ok value
  | .error error :: rest => (firstOk rest).mapError (error :: ·)

theorem toOption_mapError {Other : Type*} (attempt : Except Error Value)
    (rename : Error → Other) :
    (attempt.mapError rename).toOption = attempt.toOption := by
  cases attempt with
  | ok value => rfl
  | error error => rfl

theorem toOption_firstOk (attempts : List (Except Error Value)) :
    (firstOk attempts).toOption = attempts.findSome? Except.toOption := by
  induction attempts with
  | nil => rfl
  | cons attempt rest inductionHypothesis =>
      cases attempt with
      | ok value => rfl
      | error error =>
          rw [firstOk, toOption_mapError, inductionHypothesis]
          rfl

end Foundation
