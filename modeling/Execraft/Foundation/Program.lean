import Mathlib.Logic.Basic

/-!
# Programs with effects

A program asks its surroundings for effects, one after another, and goes on
with their replies.  It may fail, and it may be cut off in front of any effect.
-/

namespace Foundation

/-- A computation that performs effects of type `Effect`. -/
inductive Program (Effect : Type) (Reply : Effect → Type) (Failure Value : Type) where
  | protected pure (value : Value)
  | raise (failure : Failure)
  | perform (effect : Effect) (next : Reply effect → Program Effect Reply Failure Value)

namespace Program

variable {Effect : Type} {Reply : Effect → Type} {Failure Value Other World : Type}

protected def bind (program : Program Effect Reply Failure Value)
    (next : Value → Program Effect Reply Failure Other) :
    Program Effect Reply Failure Other :=
  match program with
  | .pure value => next value
  | .raise failure => .raise failure
  | .perform effect rest => .perform effect fun reply => (rest reply).bind next

instance : Monad (Program Effect Reply Failure) where
  pure := Program.pure
  bind := Program.bind

/-- One effect and its reply. -/
def request (effect : Effect) : Program Effect Reply Failure (Reply effect) :=
  .perform effect .pure

def ofOutcome : Except Failure Value → Program Effect Reply Failure Value
  | .ok value => .pure value
  | .error failure => .raise failure

@[simp]
theorem pure_bind (value : Value)
    (next : Value → Program Effect Reply Failure Other) :
    ((Program.pure value : Program Effect Reply Failure Value) >>= next) =
      next value :=
  rfl

@[simp]
theorem raise_bind (failure : Failure)
    (next : Value → Program Effect Reply Failure Other) :
    ((Program.raise failure : Program Effect Reply Failure Value) >>= next) =
      .raise failure :=
  rfl

@[simp]
theorem perform_bind (effect : Effect)
    (rest : Reply effect → Program Effect Reply Failure Value)
    (next : Value → Program Effect Reply Failure Other) :
    (Program.perform effect rest >>= next) =
      .perform effect fun reply => rest reply >>= next :=
  rfl

theorem foldlM_congr {step other : Value → Other → Program Effect Reply Failure Value}
    {elements : List Other}
    (same : ∀ value, ∀ element ∈ elements, step value element = other value element)
    (initial : Value) : elements.foldlM step initial = elements.foldlM other initial := by
  induction elements generalizing initial with
  | nil => rfl
  | cons head tail inductionHypothesis =>
      rw [List.foldlM_cons, List.foldlM_cons, same initial head List.mem_cons_self]
      congr 1
      funext middle
      apply inductionHypothesis
      intro value element member
      exact same value element (List.mem_cons_of_mem head member)

/-! ## Results -/

section Yields

variable {answers : (effect : Effect) → Reply effect → Prop}

/-- The program may return `result` when its effects are answered like this. -/
def Yields (answers : (effect : Effect) → Reply effect → Prop) :
    Program Effect Reply Failure Value → Value → Prop
  | .pure value, result => value = result
  | .raise _, _ => False
  | .perform effect next, result =>
      ∃ reply, answers effect reply ∧ (next reply).Yields answers result

@[simp]
theorem yields_pure {value result : Value} :
    (pure value : Program Effect Reply Failure Value).Yields answers result ↔
      value = result :=
  Iff.rfl

@[simp]
theorem yields_raise {failure : Failure} {result : Value} :
    (Program.raise failure : Program Effect Reply Failure Value).Yields answers
      result ↔ False :=
  Iff.rfl

@[simp]
theorem yields_request {effect : Effect} {reply : Reply effect} :
    (request effect : Program Effect Reply Failure (Reply effect)).Yields answers
      reply ↔ answers effect reply := by
  constructor
  · rintro ⟨given, answered, rfl⟩
    exact answered
  · intro answered
    exact ⟨reply, answered, rfl⟩

@[simp]
theorem yields_bind {program : Program Effect Reply Failure Value}
    {next : Value → Program Effect Reply Failure Other} {result : Other} :
    (program >>= next).Yields answers result ↔
      ∃ value, program.Yields answers value ∧ (next value).Yields answers result := by
  induction program with
  | pure value => simp [Yields]
  | raise failure => simp [Yields]
  | perform effect rest inductionHypothesis =>
      simp only [perform_bind, Yields, inductionHypothesis]
      constructor
      · rintro ⟨reply, answered, value, first, second⟩
        exact ⟨value, ⟨reply, answered, first⟩, second⟩
      · rintro ⟨value, ⟨reply, answered, first⟩, second⟩
        exact ⟨reply, answered, value, first, second⟩

@[simp]
theorem yields_ofOutcome {outcome : Except Failure Value} {result : Value} :
    (ofOutcome outcome : Program Effect Reply Failure Value).Yields answers
      result ↔ outcome = .ok result := by
  cases outcome with
  | ok value =>
      simp [ofOutcome, Yields]
  | error failure => simp [ofOutcome]

/-- What holds at the start of a fold and is kept by its steps holds at its end.
The motive knows the elements already passed. -/
theorem yields_foldlM {step : Value → Other → Program Effect Reply Failure Value}
    {motive : List Other → Value → Prop} {elements : List Other}
    (kept : ∀ front element back value after,
      elements = front ++ element :: back → motive front value →
        (step value element).Yields answers after →
          motive (front ++ [element]) after)
    {initial final : Value} (start : motive [] initial)
    (yields : (elements.foldlM step initial).Yields answers final) :
    motive elements final := by
  have general : ∀ back front value, elements = front ++ back →
      motive front value → (back.foldlM step value).Yields answers final →
        motive elements final := by
    intro back
    induction back with
    | nil =>
        intro front value shape holds finished
        rw [List.foldlM_nil, yields_pure] at finished
        rw [← finished, shape, List.append_nil]
        exact holds
    | cons head tail inductionHypothesis =>
        intro front value shape holds finished
        rw [List.foldlM_cons, yields_bind] at finished
        obtain ⟨middle, first, rest⟩ := finished
        apply inductionHypothesis (front ++ [head]) middle
        · rw [shape, List.append_assoc, List.singleton_append]
        · exact kept front head tail value middle shape holds first
        · exact rest
  exact general elements [] initial rfl start yields

/-- The program with every effect answered by a function. -/
def execute (replies : (effect : Effect) → Reply effect) :
    Program Effect Reply Failure Value → Except Failure Value
  | .pure value => .ok value
  | .raise failure => .error failure
  | .perform effect next => (next (replies effect)).execute replies

theorem yields_of_execute {replies : (effect : Effect) → Reply effect}
    (allowed : ∀ effect, answers effect (replies effect))
    {program : Program Effect Reply Failure Value} {result : Value}
    (executed : program.execute replies = .ok result) :
    program.Yields answers result := by
  induction program with
  | pure value =>
      rw [execute, Except.ok.injEq] at executed
      exact executed
  | raise failure => cases executed
  | perform effect next inductionHypothesis =>
      exact ⟨replies effect, allowed effect,
        inductionHypothesis (replies effect) executed⟩

end Yields

/-! ## Effects -/

/-- All effects that the program can come to are allowed ones. -/
def Performs (allowed : Effect → Prop) : Program Effect Reply Failure Value → Prop
  | .pure _ => True
  | .raise _ => True
  | .perform effect next => allowed effect ∧ ∀ reply, (next reply).Performs allowed

section Performs

variable {allowed : Effect → Prop}

@[simp]
theorem performs_pure {value : Value} :
    (pure value : Program Effect Reply Failure Value).Performs allowed :=
  trivial

@[simp]
theorem performs_raise {failure : Failure} :
    (Program.raise failure : Program Effect Reply Failure Value).Performs allowed :=
  trivial

@[simp]
theorem performs_request {effect : Effect} :
    (request effect : Program Effect Reply Failure (Reply effect)).Performs allowed ↔
      allowed effect := by
  constructor
  · intro performs
    exact performs.1
  · intro permitted
    exact ⟨permitted, fun _ => trivial⟩

@[simp]
theorem performs_bind {program : Program Effect Reply Failure Value}
    {next : Value → Program Effect Reply Failure Other}
    (first : program.Performs allowed)
    (rest : ∀ value, (next value).Performs allowed) :
    (program >>= next).Performs allowed := by
  induction program with
  | pure value => exact rest value
  | raise failure => trivial
  | perform effect following inductionHypothesis =>
      exact ⟨first.1, fun reply => inductionHypothesis reply (first.2 reply)⟩

@[simp]
theorem performs_ite {condition : Prop} [Decidable condition]
    {program other : Program Effect Reply Failure Value}
    (first : program.Performs allowed) (second : other.Performs allowed) :
    (if condition then program else other).Performs allowed := by
  by_cases holds : condition
  · rw [if_pos holds]
    exact first
  · rw [if_neg holds]
    exact second

@[simp]
theorem performs_ofOutcome {outcome : Except Failure Value} :
    (ofOutcome outcome : Program Effect Reply Failure Value).Performs allowed := by
  cases outcome with
  | ok value => trivial
  | error failure => trivial

@[simp]
theorem performs_foldlM {step : Value → Other → Program Effect Reply Failure Value}
    (elements : List Other) (initial : Value)
    (each : ∀ value, ∀ element ∈ elements, (step value element).Performs allowed) :
    (elements.foldlM step initial).Performs allowed := by
  induction elements generalizing initial with
  | nil => exact performs_pure
  | cons head tail inductionHypothesis =>
      rw [List.foldlM_cons]
      apply performs_bind (each initial head List.mem_cons_self)
      intro middle
      apply inductionHypothesis
      intro value element member
      exact each value element (List.mem_cons_of_mem _ member)

end Performs

/-! ## Certain results -/

/-- However its effects are answered, the program performs allowed ones only and
returns `result`. -/
def Returns (answers : (effect : Effect) → Reply effect → Prop)
    (allowed : Effect → Prop) : Program Effect Reply Failure Value → Value → Prop
  | .pure value, result => value = result
  | .raise _, _ => False
  | .perform effect next, result => allowed effect ∧
      ∀ reply, answers effect reply → (next reply).Returns answers allowed result

section Returns

variable {answers : (effect : Effect) → Reply effect → Prop} {allowed : Effect → Prop}

@[simp]
theorem returns_pure {value result : Value} :
    (pure value : Program Effect Reply Failure Value).Returns answers allowed result ↔
      value = result :=
  Iff.rfl

theorem returns_request {effect : Effect} {reply : Reply effect}
    (permitted : allowed effect)
    (only : ∀ given, answers effect given → given = reply) :
    (request effect : Program Effect Reply Failure (Reply effect)).Returns answers
      allowed reply :=
  ⟨permitted, only⟩

theorem returns_bind {program : Program Effect Reply Failure Value} {value : Value}
    {next : Value → Program Effect Reply Failure Other} {result : Other}
    (first : program.Returns answers allowed value)
    (rest : (next value).Returns answers allowed result) :
    (program >>= next).Returns answers allowed result := by
  induction program with
  | pure given =>
      rw [← show given = value from first] at rest
      exact rest
  | raise failure => exact first.elim
  | perform effect following inductionHypothesis =>
      exact ⟨first.1, fun reply answered =>
        inductionHypothesis reply (first.2 reply answered)⟩

/-- A fold that collects what is returned for each element. -/
theorem returns_collect {step : Other → Program Effect Reply Failure Value}
    {convert : Other → Value} {elements : List Other}
    (each : ∀ element ∈ elements,
      (step element).Returns answers allowed (convert element)) (initial : List Value) :
    (elements.foldlM (fun collected element => do
      let value ← step element
      pure (collected ++ [value])) initial).Returns answers allowed
        (initial ++ elements.map convert) := by
  induction elements generalizing initial with
  | nil => exact returns_pure.mpr (List.append_nil initial).symm
  | cons head tail inductionHypothesis =>
      rw [List.foldlM_cons, List.map_cons, List.append_cons]
      apply returns_bind
      · apply returns_bind (each head List.mem_cons_self)
        exact returns_pure.mpr rfl
      · apply inductionHypothesis
        intro element member
        exact each element (List.mem_cons_of_mem head member)

/-- A fold whose steps all return the value they are given. -/
theorem returns_foldlM_fixed {step : Value → Other → Program Effect Reply Failure Value}
    {elements : List Other} {value : Value}
    (each : ∀ element ∈ elements, (step value element).Returns answers allowed value) :
    (elements.foldlM step value).Returns answers allowed value := by
  induction elements with
  | nil => exact returns_pure.mpr rfl
  | cons head tail inductionHypothesis =>
      rw [List.foldlM_cons]
      apply returns_bind (each head List.mem_cons_self)
      apply inductionHypothesis
      intro element member
      exact each element (List.mem_cons_of_mem head member)

end Returns

/-! ## Runs -/

/-- How a run ends: with a value, with a failure, or cut off. -/
inductive Ending (Failure Value : Type) where
  | returned (value : Value)
  | raised (failure : Failure)
  | cut

section Runs

variable {step : World → (effect : Effect) → Reply effect → World → Prop}

/-- The runs of a program in a world that answers its effects and changes. -/
inductive Run (step : World → (effect : Effect) → Reply effect → World → Prop) :
    World → Program Effect Reply Failure Value → Ending Failure Value → World →
      Prop where
  | cut (world : World) (program : Program Effect Reply Failure Value) :
      Run step world program .cut world
  | returned (world : World) (value : Value) :
      Run step world (.pure value) (.returned value) world
  | raised (world : World) (failure : Failure) :
      Run step world (.raise failure) (.raised failure) world
  | perform {world middle final : World} {effect : Effect} {reply : Reply effect}
      {next : Reply effect → Program Effect Reply Failure Value}
      {ending : Ending Failure Value} :
      step world effect reply middle → Run step middle (next reply) ending final →
        Run step world (.perform effect next) ending final

/-- A run of a sequence ends in the first part or goes on with its value. -/
theorem Run.of_bind {program : Program Effect Reply Failure Value}
    {next : Value → Program Effect Reply Failure Other} {world final : World}
    {ending : Ending Failure Other}
    (run : Run step world (program >>= next) ending final) :
    (∃ early, Run step world program early final ∧
        (∀ value, early ≠ .returned value) ∧ ∀ value, ending ≠ .returned value) ∨
      ∃ value middle, Run step world program (.returned value) middle ∧
        Run step middle (next value) ending final := by
  induction program generalizing world with
  | pure value => exact Or.inr ⟨value, _, Run.returned _ value, run⟩
  | raise failure =>
      cases run with
      | cut =>
          exact Or.inl ⟨.cut, Run.cut _ _, by simp, by simp⟩
      | raised =>
          exact Or.inl ⟨.raised failure, Run.raised _ failure, by simp, by simp⟩
  | perform effect following inductionHypothesis =>
      cases run with
      | cut =>
          exact Or.inl ⟨.cut, Run.cut _ _, by simp, by simp⟩
      | perform answered rest =>
          rcases inductionHypothesis _ rest with
            ⟨early, first, open_, unfinished⟩ | ⟨value, middle, first, second⟩
          · exact Or.inl ⟨early, Run.perform answered first, open_, unfinished⟩
          · exact Or.inr ⟨value, middle, Run.perform answered first, second⟩

/-- Wherever a run of the program stands, `always` holds, and the value and the
world of a completed run satisfy `returns`. -/
def Guarantees (step : World → (effect : Effect) → Reply effect → World → Prop)
    (always : World → Prop) (world : World)
    (program : Program Effect Reply Failure Value)
    (returns : Value → World → Prop) : Prop :=
  ∀ ending final, Run step world program ending final →
    always final ∧ ∀ value, ending = .returned value → returns value final

variable {always : World → Prop}

theorem guarantees_pure {world : World} {value : Value}
    {returns : Value → World → Prop} (now : always world)
    (holds : returns value world) :
    Guarantees step always world
      (pure value : Program Effect Reply Failure Value) returns := by
  intro ending final run
  cases run with
  | cut => exact ⟨now, by simp⟩
  | returned =>
      refine ⟨now, ?_⟩
      intro other same
      cases same
      exact holds

theorem guarantees_raise {world : World} {failure : Failure}
    {returns : Value → World → Prop} (now : always world) :
    Guarantees step always world
      (Program.raise failure : Program Effect Reply Failure Value) returns := by
  intro ending final run
  cases run with
  | cut => exact ⟨now, by simp⟩
  | raised => exact ⟨now, by simp⟩

theorem guarantees_request {world : World} {effect : Effect}
    {returns : Reply effect → World → Prop} (now : always world)
    (replies : ∀ reply after, step world effect reply after →
      always after ∧ returns reply after) :
    Guarantees step always world
      (request effect : Program Effect Reply Failure (Reply effect)) returns := by
  intro ending final run
  cases run with
  | cut => exact ⟨now, by simp⟩
  | perform answered rest =>
      obtain ⟨later, holds⟩ := replies _ _ answered
      cases rest with
      | cut => exact ⟨later, by simp⟩
      | returned =>
          refine ⟨later, ?_⟩
          intro value same
          cases same
          exact holds

theorem guarantees_bind {world : World}
    {program : Program Effect Reply Failure Value}
    {next : Value → Program Effect Reply Failure Other}
    {returns : Other → World → Prop}
    (first : Guarantees step always world program fun value middle =>
      Guarantees step always middle (next value) returns) :
    Guarantees step always world (program >>= next) returns := by
  intro ending final run
  rcases Run.of_bind run with
    ⟨early, begun, _, unfinished⟩ | ⟨value, middle, begun, rest⟩
  · refine ⟨(first early final begun).1, ?_⟩
    intro value same
    exact absurd same (unfinished value)
  · exact (first _ middle begun).2 value rfl ending final rest

theorem Guarantees.mono {world : World}
    {program : Program Effect Reply Failure Value}
    {returns weaker : Value → World → Prop}
    (guarantees : Guarantees step always world program returns)
    (weaken : ∀ value final, always final → returns value final →
      weaker value final) :
    Guarantees step always world program weaker := by
  intro ending final run
  obtain ⟨now, finished⟩ := guarantees ending final run
  refine ⟨now, ?_⟩
  intro value same
  exact weaken value final now (finished value same)

/-- The rule for loops: an invariant that knows the elements already passed. -/
theorem guarantees_foldlM {elements : List Other}
    {body : Value → Other → Program Effect Reply Failure Value}
    {motive : List Other → Value → World → Prop}
    (kept : ∀ front element back value world,
      elements = front ++ element :: back → motive front value world →
        Guarantees step always world (body value element)
          (motive (front ++ [element])))
    (holds : ∀ front value world, motive front value world → always world)
    {initial : Value} {world : World} (start : motive [] initial world) :
    Guarantees step always world (elements.foldlM body initial)
      (motive elements) := by
  have general : ∀ back front value world, elements = front ++ back →
      motive front value world →
        Guarantees step always world (back.foldlM body value)
          (motive elements) := by
    intro back
    induction back with
    | nil =>
        intro front value world shape now
        rw [List.append_nil] at shape
        rw [List.foldlM_nil, shape]
        exact guarantees_pure (holds front value world now) now
    | cons head tail inductionHypothesis =>
        intro front value world shape now
        rw [List.foldlM_cons]
        apply guarantees_bind
        apply (kept front head tail value world shape now).mono
        intro middle after _ passed
        apply inductionHypothesis (front ++ [head]) middle after
        · rw [shape, List.append_assoc, List.singleton_append]
        · exact passed
  exact general elements [] initial world rfl start

/-- A program whose effects keep `stable` and are answered as `answers` says
returns what these answers yield. -/
theorem guarantees_of_performs {allowed : Effect → Prop}
    {answers : (effect : Effect) → Reply effect → Prop} {stable : World → Prop}
    (holds : ∀ world, stable world → always world)
    (kept : ∀ world effect reply after, stable world → allowed effect →
      step world effect reply after → stable after ∧ answers effect reply)
    {program : Program Effect Reply Failure Value}
    (performs : program.Performs allowed) {world : World} (now : stable world) :
    Guarantees step always world program fun value final =>
      stable final ∧ program.Yields answers value := by
  intro ending final run
  induction run with
  | cut => exact ⟨holds _ now, by simp⟩
  | returned =>
      refine ⟨holds _ now, ?_⟩
      intro value same
      cases same
      exact ⟨now, rfl⟩
  | raised => exact ⟨holds _ now, by simp⟩
  | perform answered _ inductionHypothesis =>
      obtain ⟨later, given⟩ := kept _ _ _ _ now performs.1 answered
      obtain ⟨finally_, finished⟩ := inductionHypothesis (performs.2 _) later
      refine ⟨finally_, ?_⟩
      intro value same
      obtain ⟨settled, yields⟩ := finished value same
      exact ⟨settled, _, given, yields⟩

/-- The run in a world that a function describes. -/
def drive (handle : World → (effect : Effect) → Reply effect × World) :
    Program Effect Reply Failure Value → World → Ending Failure Value × World
  | .pure value, world => (.returned value, world)
  | .raise failure, world => (.raised failure, world)
  | .perform effect next, world =>
      (next (handle world effect).1).drive handle (handle world effect).2

theorem run_drive {handle : World → (effect : Effect) → Reply effect × World}
    (handles : ∀ world effect,
      step world effect (handle world effect).1 (handle world effect).2)
    (program : Program Effect Reply Failure Value) (world : World) :
    Run step world program (program.drive handle world).1
      (program.drive handle world).2 := by
  induction program generalizing world with
  | pure value => exact Run.returned world value
  | raise failure => exact Run.raised world failure
  | perform effect next inductionHypothesis =>
      exact Run.perform (handles world effect) (inductionHypothesis _ _)

/-! ## Sessions -/

/-- The worlds reached by programs run one after another.  A run may be cut off
anywhere, and the next program depends on the world that it meets. -/
inductive Sessions (step : World → (effect : Effect) → Reply effect → World → Prop)
    (between : World → World → Prop)
    (programs : World → Program Effect Reply Failure Value → Prop)
    (initial : World → Prop) : World → Prop where
  | start {world : World} : initial world →
      Sessions step between programs initial world
  | session {world opened final : World}
      {program : Program Effect Reply Failure Value}
      {ending : Ending Failure Value} :
      Sessions step between programs initial world → between world opened →
        programs opened program → Run step opened program ending final →
          Sessions step between programs initial final

/-- What every program guarantees always holds in all sessions. -/
theorem Sessions.invariant {between : World → World → Prop}
    {programs : World → Program Effect Reply Failure Value → Prop}
    {initial : World → Prop} (start : ∀ world, initial world → always world)
    (opens : ∀ world opened, always world → between world opened → always opened)
    (each : ∀ world program, always world → programs world program →
      Guarantees step always world program fun _ _ => True)
    {world : World} (reached : Sessions step between programs initial world) :
    always world := by
  induction reached with
  | start holds => exact start _ holds
  | session _ opening chosen run inductionHypothesis =>
      have opened := opens _ _ inductionHypothesis opening
      exact (each _ _ opened chosen _ _ run).1

end Runs

end Program

end Foundation
