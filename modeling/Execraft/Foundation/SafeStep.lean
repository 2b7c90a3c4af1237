import Mathlib.Data.List.Basic

/-!
# Steps that cannot fail

A step on states may fail.  It is safe for an invariant and a relation when it succeeds on
every state with the invariant, keeps the invariant, and leads along the relation.
-/

namespace Foundation

variable {State Input : Type*}

/-- The result is a state with the invariant, reached along `moves`. -/
def Leads (holds : State → Prop) (moves : State → State → Prop) (state : State)
    (result : Option State) : Prop :=
  ∃ next, result = some next ∧ holds next ∧ moves state next

/-- From every state with the invariant the step leads to one. -/
def Safe (holds : State → Prop) (moves : State → State → Prop)
    (step : State → Option State) : Prop :=
  ∀ state, holds state → Leads holds moves state (step state)

variable {holds : State → Prop} {moves : State → State → Prop}

theorem leads_some {state next : State} (invariant : holds next) (along : moves state next) :
    Leads holds moves state (some next) :=
  ⟨next, rfl, invariant, along⟩

theorem Leads.bind
    (trans : ∀ first middle last, moves first middle → moves middle last → moves first last)
    {state : State} {result : Option State} {step : State → Option State}
    (first : Leads holds moves state result) (safe : Safe holds moves step) :
    Leads holds moves state (result.bind step) := by
  obtain ⟨middle, rfl, middleHolds, toMiddle⟩ := first
  obtain ⟨next, done, nextHolds, toNext⟩ := safe middle middleHolds
  exact ⟨next, done, nextHolds, trans state middle next toMiddle toNext⟩

theorem Leads.behind
    (trans : ∀ first middle last, moves first middle → moves middle last → moves first last)
    {state middle : State} {result : Option State} (along : moves state middle)
    (leads : Leads holds moves middle result) : Leads holds moves state result := by
  obtain ⟨next, done, nextHolds, toNext⟩ := leads
  exact ⟨next, done, nextHolds, trans state middle next along toNext⟩

theorem Leads.map
    (trans : ∀ first middle last, moves first middle → moves middle last → moves first last)
    {state : State} {result : Option State} {update : State → State}
    (first : Leads holds moves state result)
    (keeps : ∀ next, holds next → holds (update next) ∧ moves next (update next)) :
    Leads holds moves state (result.map update) := by
  obtain ⟨middle, rfl, middleHolds, toMiddle⟩ := first
  obtain ⟨nextHolds, toNext⟩ := keeps middle middleHolds
  exact ⟨update middle, rfl, nextHolds, trans state middle _ toMiddle toNext⟩

/-- A run of safe steps. -/
theorem safe_foldlM (refl : ∀ state, moves state state)
    (trans : ∀ first middle last, moves first middle → moves middle last → moves first last)
    {step : State → Input → Option State}
    (safe : ∀ input, Safe holds moves fun state => step state input) (inputs : List Input) :
    Safe holds moves fun state => inputs.foldlM step state := by
  induction inputs with
  | nil => exact fun state invariant => leads_some invariant (refl state)
  | cons input rest inductionHypothesis =>
      intro state invariant
      simp only [List.foldlM_cons]
      exact Leads.bind trans (safe input state invariant) inductionHypothesis

end Foundation
