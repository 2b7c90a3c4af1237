import Execraft.Foundation.Program

/-!
# Where a program can be cut off

The three ways in which a run of a program ends, each as a relation of its own with one
rule for each way to build a program.  A program that goes through a list element by
element comes last.
-/

namespace Foundation.Program

variable {Effect : Type} {Reply : Effect → Type} {Failure Value Other World : Type}
  {step : World → (effect : Effect) → Reply effect → World → Prop}

/-- The program may return this value in this world. -/
def Finishes (step : World → (effect : Effect) → Reply effect → World → Prop)
    (world : World) (program : Program Effect Reply Failure Value) (value : Value)
    (final : World) : Prop :=
  Run step world program (.returned value) final

/-- The program may raise this failure in this world. -/
def Fails (step : World → (effect : Effect) → Reply effect → World → Prop)
    (world : World) (program : Program Effect Reply Failure Value) (failure : Failure)
    (final : World) : Prop :=
  Run step world program (.raised failure) final

/-- This world is met while the program runs. -/
def StopsAt (step : World → (effect : Effect) → Reply effect → World → Prop)
    (world : World) (program : Program Effect Reply Failure Value) (final : World) : Prop :=
  Run step world program .cut final

/-! ## Returned values -/

@[simp]
theorem finishes_pure {world final : World} {value result : Value} :
    Finishes step world (pure value : Program Effect Reply Failure Value) result final ↔
      value = result ∧ world = final := by
  constructor
  · intro run
    cases run with
    | returned => exact ⟨rfl, rfl⟩
  · intro same
    rw [← same.1, ← same.2]
    exact Run.returned world value

@[simp]
theorem finishes_raise {world final : World} {failure : Failure} {result : Value} :
    Finishes step world (Program.raise failure : Program Effect Reply Failure Value) result
      final ↔ False := by
  constructor
  · intro run
    cases run
  · exact False.elim

@[simp]
theorem finishes_request {world final : World} {effect : Effect} {reply : Reply effect} :
    Finishes step world (request effect : Program Effect Reply Failure (Reply effect)) reply
      final ↔ step world effect reply final := by
  constructor
  · intro run
    cases run with
    | perform answered rest =>
        cases rest with
        | returned => exact answered
  · intro answered
    exact Run.perform answered (Run.returned _ _)

@[simp]
theorem finishes_ofOutcome {world final : World} {outcome : Except Failure Value}
    {result : Value} :
    Finishes step world (ofOutcome outcome : Program Effect Reply Failure Value) result
      final ↔ outcome = .ok result ∧ world = final := by
  cases outcome with
  | ok value =>
      rw [Except.ok.injEq]
      exact finishes_pure
  | error failure =>
      constructor
      · intro run
        exact (finishes_raise.mp run).elim
      · intro same
        cases same.1

theorem Finishes.bind {world middle final : World}
    {program : Program Effect Reply Failure Value}
    {next : Value → Program Effect Reply Failure Other} {value : Value}
    {ending : Ending Failure Other} (first : Finishes step world program value middle)
    (rest : Run step middle (next value) ending final) :
    Run step world (program >>= next) ending final := by
  induction program generalizing world with
  | pure other =>
      obtain ⟨same, here⟩ := finishes_pure.mp first
      rw [← here, ← same] at rest
      exact rest
  | raise failure => exact (finishes_raise.mp first).elim
  | perform effect following inductionHypothesis =>
      cases first with
      | perform answered later =>
          exact Run.perform answered (inductionHypothesis _ later)

@[simp]
theorem finishes_bind {world final : World} {program : Program Effect Reply Failure Value}
    {next : Value → Program Effect Reply Failure Other} {result : Other} :
    Finishes step world (program >>= next) result final ↔
      ∃ value middle, Finishes step world program value middle ∧
        Finishes step middle (next value) result final := by
  constructor
  · intro run
    rcases Run.of_bind run with ⟨_, _, _, open_⟩ | ⟨value, middle, first, rest⟩
    · exact absurd rfl (open_ result)
    · exact ⟨value, middle, first, rest⟩
  · intro split
    obtain ⟨value, middle, first, rest⟩ := split
    exact first.bind rest

/-! ## Failures -/

@[simp]
theorem fails_pure {world final : World} {value : Value} {failure : Failure} :
    Fails step world (pure value : Program Effect Reply Failure Value) failure final ↔
      False := by
  constructor
  · intro run
    cases run
  · exact False.elim

@[simp]
theorem fails_raise {world final : World} {failure other : Failure} :
    Fails step world (Program.raise failure : Program Effect Reply Failure Value) other
      final ↔ failure = other ∧ world = final := by
  constructor
  · intro run
    cases run with
    | raised => exact ⟨rfl, rfl⟩
  · intro same
    rw [← same.1, ← same.2]
    exact Run.raised world failure

@[simp]
theorem fails_bind {world final : World} {program : Program Effect Reply Failure Value}
    {next : Value → Program Effect Reply Failure Other} {failure : Failure} :
    Fails step world (program >>= next) failure final ↔
      Fails step world program failure final ∨
        ∃ value middle, Finishes step world program value middle ∧
          Fails step middle (next value) failure final := by
  constructor
  · intro run
    induction program generalizing world with
    | pure value =>
        exact Or.inr ⟨value, world, finishes_pure.mpr ⟨rfl, rfl⟩, run⟩
    | raise other =>
        cases run with
        | raised => exact Or.inl (Run.raised _ _)
    | perform effect following inductionHypothesis =>
        cases run with
        | perform answered rest =>
            rcases inductionHypothesis _ rest with first | ⟨value, middle, first, later⟩
            · exact Or.inl (Run.perform answered first)
            · exact Or.inr ⟨value, middle, Run.perform answered first, later⟩
  · intro split
    rcases split with first | ⟨value, middle, first, rest⟩
    · induction program generalizing world with
      | pure value => exact (fails_pure.mp first).elim
      | raise other =>
          obtain ⟨same, here⟩ := fails_raise.mp first
          rw [← same, ← here]
          exact Run.raised _ _
      | perform effect following inductionHypothesis =>
          cases first with
          | perform answered later =>
              exact Run.perform answered (inductionHypothesis _ later)
    · exact first.bind rest

/-! ## Worlds met on the way -/

@[simp]
theorem stopsAt_pure {world final : World} {value : Value} :
    StopsAt step world (pure value : Program Effect Reply Failure Value) final ↔
      world = final := by
  constructor
  · intro run
    cases run with
    | cut => rfl
  · intro same
    rw [← same]
    exact Run.cut _ _

@[simp]
theorem stopsAt_raise {world final : World} {failure : Failure} :
    StopsAt step world (Program.raise failure : Program Effect Reply Failure Value) final ↔
      world = final := by
  constructor
  · intro run
    cases run with
    | cut => rfl
  · intro same
    rw [← same]
    exact Run.cut _ _

@[simp]
theorem stopsAt_request {world final : World} {effect : Effect} :
    StopsAt step world (request effect : Program Effect Reply Failure (Reply effect))
      final ↔ world = final ∨ ∃ reply, step world effect reply final := by
  constructor
  · intro run
    cases run with
    | cut => exact Or.inl rfl
    | perform answered rest =>
        cases rest with
        | cut => exact Or.inr ⟨_, answered⟩
  · intro either
    rcases either with same | ⟨reply, answered⟩
    · rw [← same]
      exact Run.cut _ _
    · exact Run.perform answered (Run.cut _ _)

@[simp]
theorem stopsAt_ofOutcome {world final : World} {outcome : Except Failure Value} :
    StopsAt step world (ofOutcome outcome : Program Effect Reply Failure Value) final ↔
      world = final := by
  cases outcome with
  | ok value => exact stopsAt_pure
  | error failure => exact stopsAt_raise

@[simp]
theorem stopsAt_bind {world final : World} {program : Program Effect Reply Failure Value}
    {next : Value → Program Effect Reply Failure Other} :
    StopsAt step world (program >>= next) final ↔
      StopsAt step world program final ∨
        ∃ value middle, Finishes step world program value middle ∧
          StopsAt step middle (next value) final := by
  constructor
  · intro run
    induction program generalizing world with
    | pure value =>
        exact Or.inr ⟨value, world, finishes_pure.mpr ⟨rfl, rfl⟩, run⟩
    | raise failure =>
        cases run with
        | cut => exact Or.inl (Run.cut _ _)
    | perform effect following inductionHypothesis =>
        cases run with
        | cut => exact Or.inl (Run.cut _ _)
        | perform answered rest =>
            rcases inductionHypothesis _ rest with first | ⟨value, middle, first, later⟩
            · exact Or.inl (Run.perform answered first)
            · exact Or.inr ⟨value, middle, Run.perform answered first, later⟩
  · intro split
    rcases split with first | ⟨value, middle, first, rest⟩
    · induction program generalizing world with
      | pure value =>
          rw [← stopsAt_pure.mp first]
          exact Run.cut _ _
      | raise failure =>
          rw [← stopsAt_raise.mp first]
          exact Run.cut _ _
      | perform effect following inductionHypothesis =>
          cases first with
          | cut => exact Run.cut _ _
          | perform answered later =>
              exact Run.perform answered (inductionHypothesis _ later)
    · exact first.bind rest

theorem guarantees_ite {always : World → Prop} {returns : Value → World → Prop}
    {world : World} {condition : Prop} [Decidable condition]
    {program other : Program Effect Reply Failure Value}
    (first : condition → Guarantees step always world program returns)
    (second : ¬ condition → Guarantees step always world other returns) :
    Guarantees step always world (if condition then program else other) returns := by
  by_cases holds : condition
  · rw [if_pos holds]
    exact first holds
  · rw [if_neg holds]
    exact second holds

/-! ## Failures under another name -/

section MapFailure

variable {Renamed : Type}

/-- The program that raises its failures under another name. -/
def mapFailure (rename : Failure → Renamed) :
    Program Effect Reply Failure Value → Program Effect Reply Renamed Value
  | .pure value => .pure value
  | .raise failure => .raise (rename failure)
  | .perform effect next => .perform effect fun reply => (next reply).mapFailure rename

def Ending.mapFailure (rename : Failure → Renamed) :
    Ending Failure Value → Ending Renamed Value
  | .returned value => .returned value
  | .raised failure => .raised (rename failure)
  | .cut => .cut

variable {rename : Failure → Renamed} {program : Program Effect Reply Failure Value}
  {world final : World}

theorem Run.of_mapFailure {ending : Ending Renamed Value}
    (run : Run step world (program.mapFailure rename) ending final) :
    ∃ original : Ending Failure Value, Run step world program original final ∧
      ending = original.mapFailure rename := by
  induction program generalizing world with
  | pure value =>
      cases run with
      | cut => exact ⟨.cut, Run.cut _ _, rfl⟩
      | returned => exact ⟨.returned value, Run.returned _ _, rfl⟩
  | raise failure =>
      cases run with
      | cut => exact ⟨.cut, Run.cut _ _, rfl⟩
      | raised => exact ⟨.raised failure, Run.raised _ _, rfl⟩
  | perform effect following inductionHypothesis =>
      cases run with
      | cut => exact ⟨.cut, Run.cut _ _, rfl⟩
      | perform answered rest =>
          obtain ⟨original, run, same⟩ := inductionHypothesis _ rest
          exact ⟨original, Run.perform answered run, same⟩

theorem guarantees_mapFailure {always : World → Prop} {returns : Value → World → Prop}
    (guarantees : Guarantees step always world program returns) :
    Guarantees step always world (program.mapFailure rename) returns := by
  intro ending last run
  obtain ⟨original, given, same⟩ := Run.of_mapFailure run
  obtain ⟨now, finished⟩ := guarantees original last given
  refine ⟨now, ?_⟩
  intro value returned
  cases original with
  | returned other =>
      rw [same] at returned
      cases returned
      exact finished _ rfl
  | raised failure =>
      rw [same] at returned
      cases returned
  | cut =>
      rw [same] at returned
      cases returned

end MapFailure

/-! ## Going through a list -/

section Traverse

/-- Replace the elements one after another.  A step knows the elements already replaced
and those to come. -/
def traverse (body : List Value → Value → List Value → Program Effect Reply Failure Value) :
    List Value → List Value → Program Effect Reply Failure (List Value)
  | done, [] => pure done
  | done, element :: rest => do
      let replaced ← body done element rest
      traverse body (done ++ [replaced]) rest

variable {body : List Value → Value → List Value → Program Effect Reply Failure Value}

@[simp]
theorem traverse_nil (done : List Value) : traverse body done [] = pure done :=
  rfl

@[simp]
theorem traverse_cons (done rest : List Value) (element : Value) :
    traverse body done (element :: rest) =
      body done element rest >>= fun replaced =>
        traverse body (done ++ [replaced]) rest :=
  rfl

/-- The rule for a traversal: an invariant of the elements replaced and those to come. -/
theorem guarantees_traverse {always : World → Prop}
    {motive : List Value → List Value → World → Prop}
    (kept : ∀ done element rest world, motive done (element :: rest) world →
      Guarantees step always world (body done element rest) fun replaced after =>
        motive (done ++ [replaced]) rest after)
    (holds : ∀ done rest world, motive done rest world → always world)
    {elements done : List Value} {world : World} (start : motive done elements world) :
    Guarantees step always world (traverse body done elements) fun result after =>
      motive result [] after := by
  induction elements generalizing done world with
  | nil => exact guarantees_pure (holds done [] world start) start
  | cons element rest inductionHypothesis =>
      rw [traverse_cons]
      apply guarantees_bind
      apply (kept done element rest world start).mono
      intro replaced after _ passed
      exact inductionHypothesis passed

end Traverse

end Foundation.Program
