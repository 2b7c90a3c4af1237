import Mathlib.Data.List.Basic

/-!
# Computations that may fail

Peeling a completed `Except` computation apart.
-/

namespace Foundation

variable {ε α β : Type}

theorem bind_eq_ok {computation : Except ε α} {next : α → Except ε β} {result : β} :
    computation >>= next = .ok result ↔
      ∃ value, computation = .ok value ∧ next value = .ok result := by
  cases computation with
  | error failure =>
      constructor
      · intro completed
        cases completed
      · rintro ⟨value, completed, _⟩
        cases completed
  | ok value =>
      constructor
      · intro completed
        exact ⟨value, rfl, completed⟩
      · rintro ⟨other, equality, completed⟩
        cases equality
        exact completed

/-- A computation part of whose result was evaluated has completed. -/
theorem exists_ok_of_toOption {computation : Except ε α} {read : α → β} {part : β}
    (evaluated : computation.toOption.map read = some part) :
    ∃ value, computation = .ok value ∧ read value = part := by
  cases computation with
  | error failure => cases evaluated
  | ok value => exact ⟨value, rfl, Option.some.inj evaluated⟩

theorem ok_bind (value : α) (next : α → Except ε β) :
    Except.ok value >>= next = next value :=
  rfl

theorem mapM_ok {convert : α → Except ε β} {image : α → β} {items : List α}
    (each : ∀ item ∈ items, convert item = .ok (image item)) :
    items.mapM convert = .ok (items.map image) := by
  induction items with
  | nil => rfl
  | cons head tail inductionHypothesis =>
      rw [List.mapM_cons, each head List.mem_cons_self, ok_bind,
        inductionHypothesis fun item member => each item (List.mem_cons_of_mem _ member)]
      rfl

/-- A check in front of a computation. -/
theorem unit_bind_eq_ok {check : Except ε Unit} {next : Unit → Except ε β}
    {result : β} :
    check >>= next = .ok result ↔ check = .ok () ∧ next () = .ok result := by
  rw [bind_eq_ok]
  constructor
  · rintro ⟨⟨⟩, checked, completed⟩
    exact ⟨checked, completed⟩
  · rintro ⟨checked, completed⟩
    exact ⟨(), checked, completed⟩

theorem bind_eq_error {computation : Except ε α} {next : α → Except ε β}
    {failure : ε} :
    computation >>= next = .error failure ↔
      computation = .error failure ∨
        ∃ value, computation = .ok value ∧ next value = .error failure := by
  cases computation with
  | error other =>
      constructor
      · intro failed
        cases failed
        exact Or.inl rfl
      · rintro (same | ⟨value, completed, _⟩)
        · cases same
          rfl
        · cases completed
  | ok value =>
      constructor
      · intro failed
        exact Or.inr ⟨value, rfl, failed⟩
      · rintro (same | ⟨other, equality, failed⟩)
        · cases same
        · cases equality
          exact failed

/-- A loop completes when each of its passes does. -/
theorem forM_eq_ok {values : List α} {body : α → Except ε Unit} {result : Unit} :
    forM values body = .ok result ↔ ∀ value ∈ values, body value = .ok () := by
  induction values with
  | nil =>
      constructor
      · intro _ value member
        cases member
      · intro _
        rfl
  | cons head tail inductionHypothesis =>
      rw [List.forM_cons, bind_eq_ok, List.forall_mem_cons]
      constructor
      · rintro ⟨⟨⟩, headOk, tailOk⟩
        exact ⟨headOk, inductionHypothesis.mp tailOk⟩
      · rintro ⟨headOk, tailOk⟩
        exact ⟨(), headOk, inductionHypothesis.mpr tailOk⟩

/-- What holds at the start of a completed fold and is kept by its steps holds at
its end.  The motive knows the elements already passed. -/
theorem foldlM_eq_ok {step : β → α → Except ε β} {motive : List α → β → Prop}
    {elements : List α}
    (kept : ∀ front element value after, motive front value →
      step value element = .ok after → motive (front ++ [element]) after)
    {initial final : β} (start : motive [] initial)
    (completed : elements.foldlM step initial = .ok final) :
    motive elements final := by
  have general : ∀ back front value, motive front value →
      back.foldlM step value = .ok final → motive (front ++ back) final := by
    intro back
    induction back with
    | nil =>
        intro front value holds finished
        cases finished
        rw [List.append_nil]
        exact holds
    | cons head tail inductionHypothesis =>
        intro front value holds finished
        rw [List.foldlM_cons, bind_eq_ok] at finished
        obtain ⟨middle, first, rest⟩ := finished
        have next := kept front head value middle holds first
        have whole := inductionHypothesis (front ++ [head]) middle next rest
        rw [List.append_assoc, List.singleton_append] at whole
        exact whole
  exact general elements [] initial start completed

/-- A failing fold has completed the steps in front of the failing one. -/
theorem foldlM_eq_error {step : β → α → Except ε β} {values : List α}
    {initial : β} {failure : ε}
    (failed : values.foldlM step initial = .error failure) :
    ∃ front value back reached, values = front ++ value :: back ∧
      front.foldlM step initial = .ok reached ∧
      step reached value = .error failure := by
  induction values generalizing initial with
  | nil => cases failed
  | cons head tail inductionHypothesis =>
      rw [List.foldlM_cons] at failed
      rcases bind_eq_error.mp failed with atHead | ⟨middle, first, later⟩
      · exact ⟨[], head, tail, initial, rfl, rfl, atHead⟩
      · obtain ⟨front, value, back, reached, shape, completed, atValue⟩ :=
          inductionHypothesis later
        refine ⟨head :: front, value, back, reached, by simp [shape], ?_, atValue⟩
        rw [List.foldlM_cons]
        exact bind_eq_ok.mpr ⟨middle, first, completed⟩

end Foundation
