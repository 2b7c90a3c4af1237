import Execraft.Foundation.CrashPoints

/-!
# Programs that handle failures

A handler takes over where a program raises.  What a program ensures is told for the three
ways in which a run ends.
-/

namespace Foundation.Program

variable {Effect : Type} {Reply : Effect → Type} {Failure Renamed Value Other World : Type}

/-- Where the program raises, the handler goes on. -/
def handling (program : Program Effect Reply Failure Value)
    (handler : Failure → Program Effect Reply Renamed Value) :
    Program Effect Reply Renamed Value :=
  match program with
  | .pure value => .pure value
  | .raise failure => handler failure
  | .perform effect next => .perform effect fun reply => (next reply).handling handler

variable {step : World → (effect : Effect) → Reply effect → World → Prop}

/-- A run with a handler ends before the handler is asked, or in the handler. -/
theorem Run.of_handling {program : Program Effect Reply Failure Value}
    {handler : Failure → Program Effect Reply Renamed Value} {world final : World}
    {ending : Ending Renamed Value}
    (run : Run step world (program.handling handler) ending final) :
    (Run step world program .cut final ∧ ending = .cut) ∨
      (∃ value, Run step world program (.returned value) final ∧ ending = .returned value) ∨
      ∃ failure middle, Run step world program (.raised failure) middle ∧
        Run step middle (handler failure) ending final := by
  induction program generalizing world with
  | pure value =>
      cases run with
      | cut => exact Or.inl ⟨Run.cut _ _, rfl⟩
      | returned => exact Or.inr (Or.inl ⟨value, Run.returned _ _, rfl⟩)
  | raise failure => exact Or.inr (Or.inr ⟨failure, world, Run.raised _ _, run⟩)
  | perform effect following inductionHypothesis =>
      cases run with
      | cut => exact Or.inl ⟨Run.cut _ _, rfl⟩
      | perform answered rest =>
          rcases inductionHypothesis _ rest with
            ⟨early, same⟩ | ⟨value, finished, same⟩ | ⟨failure, middle, failed, later⟩
          · exact Or.inl ⟨Run.perform answered early, same⟩
          · exact Or.inr (Or.inl ⟨value, Run.perform answered finished, same⟩)
          · exact Or.inr (Or.inr ⟨failure, middle, Run.perform answered failed, later⟩)

/-- Wherever a run of the program stands, `always` holds; where it has returned, its value and
its world satisfy `returns`, and where it has raised, `raises`. -/
def Ensures (step : World → (effect : Effect) → Reply effect → World → Prop)
    (always : World → Prop) (world : World) (program : Program Effect Reply Failure Value)
    (returns : Value → World → Prop) (raises : Failure → World → Prop) : Prop :=
  ∀ ending final, Run step world program ending final → always final ∧
    (∀ value, ending = .returned value → returns value final) ∧
    ∀ failure, ending = .raised failure → raises failure final

section Rules

variable {always : World → Prop} {world : World}
  {program : Program Effect Reply Failure Value} {returns : Value → World → Prop}
  {raises : Failure → World → Prop}

theorem Ensures.guarantees (ensures : Ensures step always world program returns raises) :
    Guarantees step always world program returns := fun ending final run =>
  ⟨(ensures ending final run).1, (ensures ending final run).2.1⟩

theorem ensures_pure {value : Value} (now : always world) (holds : returns value world) :
    Ensures step always world (pure value : Program Effect Reply Failure Value) returns
      raises := by
  intro ending final run
  cases run with
  | cut => exact ⟨now, nofun, nofun⟩
  | returned =>
      refine ⟨now, fun other same => ?_, nofun⟩
      cases same
      exact holds

theorem ensures_raise {failure : Failure} (now : always world)
    (holds : raises failure world) :
    Ensures step always world (Program.raise failure : Program Effect Reply Failure Value)
      returns raises := by
  intro ending final run
  cases run with
  | cut => exact ⟨now, nofun, nofun⟩
  | raised =>
      refine ⟨now, nofun, fun other same => ?_⟩
      cases same
      exact holds

theorem ensures_request {effect : Effect} {returns : Reply effect → World → Prop}
    (now : always world)
    (replies : ∀ reply after, step world effect reply after →
      always after ∧ returns reply after) :
    Ensures step always world
      (request effect : Program Effect Reply Failure (Reply effect)) returns raises := by
  intro ending final run
  cases run with
  | cut => exact ⟨now, nofun, nofun⟩
  | perform answered rest =>
      obtain ⟨later, holds⟩ := replies _ _ answered
      cases rest with
      | cut => exact ⟨later, nofun, nofun⟩
      | returned =>
          refine ⟨later, fun value same => ?_, nofun⟩
          cases same
          exact holds

theorem ensures_bind {next : Value → Program Effect Reply Failure Other}
    {returns : Other → World → Prop}
    (first : Ensures step always world program
      (fun value middle => Ensures step always middle (next value) returns raises) raises) :
    Ensures step always world (program >>= next) returns raises := by
  intro ending final run
  cases ending with
  | cut =>
      rcases stopsAt_bind.mp run with early | ⟨value, middle, begun, rest⟩
      · exact ⟨(first _ final early).1, nofun, nofun⟩
      · exact (first _ middle begun).2.1 value rfl _ final rest
  | returned result =>
      obtain ⟨value, middle, begun, rest⟩ := finishes_bind.mp run
      exact (first _ middle begun).2.1 value rfl _ final rest
  | raised failure =>
      rcases fails_bind.mp run with early | ⟨value, middle, begun, rest⟩
      · obtain ⟨now, -, failed⟩ := first _ final early
        refine ⟨now, nofun, fun other same => ?_⟩
        cases same
        exact failed failure rfl
      · exact (first _ middle begun).2.1 value rfl _ final rest

theorem ensures_handling {handler : Failure → Program Effect Reply Renamed Value}
    {failures : Renamed → World → Prop}
    (first : Ensures step always world program returns
      fun failure middle => Ensures step always middle (handler failure) returns failures) :
    Ensures step always world (program.handling handler) returns failures := by
  intro ending final run
  rcases Run.of_handling run with
    ⟨early, same⟩ | ⟨value, finished, same⟩ | ⟨failure, middle, failed, later⟩
  · rw [same]
    exact ⟨(first _ final early).1, nofun, nofun⟩
  · rw [same]
    refine ⟨(first _ final finished).1, fun other equal => ?_, nofun⟩
    cases equal
    exact (first _ final finished).2.1 value rfl
  · exact (first _ middle failed).2.2 failure rfl ending final later

theorem Ensures.mono {weaker : Value → World → Prop} {failures : Failure → World → Prop}
    (ensures : Ensures step always world program returns raises)
    (weaken : ∀ value final, always final → returns value final → weaker value final)
    (explain : ∀ failure final, always final → raises failure final →
      failures failure final) :
    Ensures step always world program weaker failures := by
  intro ending final run
  obtain ⟨now, finished, failed⟩ := ensures ending final run
  exact ⟨now, fun value same => weaken value final now (finished value same),
    fun failure same => explain failure final now (failed failure same)⟩

theorem ensures_ite {condition : Prop} [Decidable condition]
    {other : Program Effect Reply Failure Value}
    (first : condition → Ensures step always world program returns raises)
    (second : ¬condition → Ensures step always world other returns raises) :
    Ensures step always world (if condition then program else other) returns raises := by
  by_cases holds : condition
  · rw [if_pos holds]
    exact first holds
  · rw [if_neg holds]
    exact second holds

/-- The rule for loops: an invariant that knows the elements already passed. -/
theorem ensures_foldlM {elements : List Other}
    {body : Value → Other → Program Effect Reply Failure Value}
    {motive : List Other → Value → World → Prop}
    (kept : ∀ front element back value world,
      elements = front ++ element :: back → motive front value world →
        Ensures step always world (body value element) (motive (front ++ [element])) raises)
    (holds : ∀ front value world, motive front value world → always world)
    {initial : Value} (start : motive [] initial world) :
    Ensures step always world (elements.foldlM body initial) (motive elements) raises := by
  have general : ∀ back front value world, elements = front ++ back →
      motive front value world →
        Ensures step always world (back.foldlM body value) (motive elements) raises := by
    intro back
    induction back with
    | nil =>
        intro front value world shape now
        rw [List.append_nil] at shape
        rw [List.foldlM_nil, shape]
        exact ensures_pure (holds front value world now) now
    | cons head tail inductionHypothesis =>
        intro front value world shape now
        rw [List.foldlM_cons]
        apply ensures_bind
        refine (kept front head tail value world shape now).mono ?_ fun _ _ _ failed => failed
        intro middle after _ passed
        apply inductionHypothesis (front ++ [head]) middle after
        · rw [shape, List.append_assoc, List.singleton_append]
        · exact passed
  exact general elements [] initial world rfl start

end Rules

/-- Where every effect is answered, every program comes to an end. -/
theorem exists_run (answered : ∀ world effect, ∃ reply after, step world effect reply after)
    (program : Program Effect Reply Failure Value) (world : World) :
    ∃ ending final, Run step world program ending final ∧ ending ≠ .cut := by
  induction program generalizing world with
  | pure value => exact ⟨_, world, Run.returned world value, nofun⟩
  | raise failure => exact ⟨_, world, Run.raised world failure, nofun⟩
  | perform effect following inductionHypothesis =>
      obtain ⟨reply, middle, answers⟩ := answered world effect
      obtain ⟨ending, final, run, ended⟩ := inductionHypothesis reply middle
      exact ⟨ending, final, Run.perform answers run, ended⟩

/-- The world after so many effects that a function describes. -/
def driveFor (handle : World → (effect : Effect) → Reply effect × World) :
    Nat → Program Effect Reply Failure Value → World → World
  | count + 1, .perform effect next, world =>
      (next (handle world effect).1).driveFor handle count (handle world effect).2
  | _, _, world => world

theorem run_driveFor {handle : World → (effect : Effect) → Reply effect × World}
    (handles : ∀ world effect,
      step world effect (handle world effect).1 (handle world effect).2)
    (count : Nat) (program : Program Effect Reply Failure Value) (world : World) :
    Run step world program .cut (program.driveFor handle count world) := by
  induction count generalizing program world with
  | zero => exact Run.cut world program
  | succ count inductionHypothesis =>
      cases program with
      | pure value => exact Run.cut world _
      | raise failure => exact Run.cut world _
      | perform effect next => exact Run.perform (handles world effect) (inductionHypothesis _ _)

end Foundation.Program
