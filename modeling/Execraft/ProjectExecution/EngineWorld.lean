import Execraft.ProjectExecution.StartIntents
import Mathlib.Logic.Relation

/-!
# The engine in its surroundings

The durable state, a port that answers and changes, and the log of what
happened.  The surroundings may move in front of every effect.  Proved here
once for all of them: what the quiet parts of an operation, the recovery of
intents and the observation of Tasks bring about.
-/

namespace Execraft.ProjectExecution

open Foundation Foundation.Json ProjectExecutionEngine

/-! ## Worlds -/

/-- What surrounds the engine: how it moves by itself, what its port shows, and
what a start does. -/
structure Surroundings (Env : Type) where
  moves : Env → Env → Prop
  shows : Env → TaskView → Prop
  starts : Env → String → Except String TaskStartResult → Env → Prop

inductive LogEntry where
  | drew (suffix : String)
  | saved (runtime : ProjectExecutionRuntimeState)
  | started (taskId : String)

structure World (Env : Type) where
  durable : ProjectExecutionRuntimeState
  env : Env
  log : List LogEntry

/-- A new project. -/
def NewProject {Env : Type} (projectId : String) (world : World Env) : Prop :=
  world.durable = ProjectExecutionRuntimeState.fresh projectId ∧ world.log = []

namespace Surroundings

variable {Env : Type} (surroundings : Surroundings Env)

/-- An effect and its reply. -/
def Handles (world : World Env) :
    (effect : Effect) → Reply effect → World Env → Prop
  | .start taskId, reply, after => ∃ env,
      surroundings.starts world.env taskId reply env ∧
        after = { world with
          env := env
          log := world.log ++ [.started taskId] }
  | .save runtime, _, after => after = { world with
      durable := runtime
      log := world.log ++ [.saved runtime] }
  | .hex, suffix, after => String.length suffix = 12 ∧
      after = { world with log := world.log ++ [.drew suffix] }
  | effect, reply, after =>
      (∃ view, surroundings.shows world.env view ∧ view.answers effect reply) ∧
        after = world

/-- The surroundings move, then the effect takes place. -/
def Step (world : World Env) (effect : Effect) (reply : Reply effect)
    (after : World Env) : Prop :=
  ∃ env, surroundings.moves world.env env ∧
    surroundings.Handles { world with env := env } effect reply after

/-- What the surroundings come to by themselves. -/
def Later : Env → Env → Prop :=
  Relation.ReflTransGen surroundings.moves

/-- The property holds while the surroundings move. -/
def Calm (always : World Env → Prop) (world : World Env) : Prop :=
  ∀ env, surroundings.Later world.env env → always { world with env := env }

/-- The worlds reached by operations one after another.  The surroundings may
change in between as `opens` says, and a crash may cut off every operation. -/
def Sessions (py : Python) (opens : Env → Env → Prop)
    (permitted : ProjectExecutionDefinition → Operation → Prop) :
    (World Env → Prop) → World Env → Prop :=
  Program.Sessions surroundings.Step
    (fun world opened =>
      ∃ env, opens world.env env ∧ opened = { world with env := env })
    (fun world program => ∃ definition operation,
      permitted definition operation ∧
        program = operation.program py definition world.durable)

variable {surroundings} {always : World Env → Prop} {world : World Env}

theorem Calm.now (calm : surroundings.Calm always world) : always world :=
  calm world.env Relation.ReflTransGen.refl

theorem Calm.later (calm : surroundings.Calm always world) {env : Env}
    (moved : surroundings.Later world.env env) :
    surroundings.Calm always { world with env := env } := by
  intro after again
  exact calm after (moved.trans again)

/-! ## Rules -/

/-- A quiet program leaves all but the surroundings as it is. -/
theorem guarantees_quiet {α : Type} {program : Action α}
    (performs : program.Performs Effect.Quiet)
    (calm : surroundings.Calm always world) :
    Program.Guarantees surroundings.Step always world program
      fun value final => ∃ env, surroundings.Later world.env env ∧
        final = { world with env := env } ∧ program.Yields anyAnswers value := by
  have rule : Program.Guarantees surroundings.Step always world program
      fun value final => (∃ env, surroundings.Later world.env env ∧
        final = { world with env := env }) ∧ program.Yields anyAnswers value := by
    apply Program.guarantees_of_performs _ _ performs
      ⟨world.env, Relation.ReflTransGen.refl, rfl⟩
    · intro other stable
      obtain ⟨env, moved, same⟩ := stable
      rw [same]
      exact calm env moved
    · intro other effect reply after stable quiet stepped
      obtain ⟨env, moved, same⟩ := stable
      obtain ⟨next, moves, handled⟩ := stepped
      rw [same] at moves handled
      have later : surroundings.Later world.env next := moved.tail moves
      refine ⟨⟨next, later, ?_⟩, trivial⟩
      cases effect with
      | start _ => exact absurd quiet id
      | save _ => exact absurd quiet id
      | hex => exact absurd quiet id
      | describe _ => exact handled.2
      | outcome _ => exact handled.2
      | evidence _ => exact handled.2
      | append _ _ => exact handled.2
      | now => exact handled.2
  apply rule.mono
  intro value final _ finished
  obtain ⟨⟨env, moved, same⟩, yields⟩ := finished
  exact ⟨env, moved, same, yields⟩

/-- A quiet part that keeps intents and observations. -/
theorem guarantees_sameTasks {program : Action ProjectExecutionRuntimeState}
    {runtime : ProjectExecutionRuntimeState}
    (performs : program.Performs Effect.Quiet)
    (frame : ∀ after, program.Yields anyAnswers after → SameTasks runtime after)
    (calm : surroundings.Calm always world) :
    Program.Guarantees surroundings.Step always world program
      fun after final => ∃ env, surroundings.Later world.env env ∧
        final = { world with env := env } ∧ SameTasks runtime after := by
  apply (guarantees_quiet performs calm).mono
  intro after final _ finished
  obtain ⟨env, moved, same, yields⟩ := finished
  exact ⟨env, moved, same, frame after yields⟩

/-- An answer about a Task is the one shown at that time. -/
theorem guarantees_outcome (calm : surroundings.Calm always world)
    (taskId : String) :
    Program.Guarantees surroundings.Step always world (Action.outcome taskId)
      fun outcome final => ∃ env view, surroundings.Later world.env env ∧
        final = { world with env := env } ∧ surroundings.shows env view ∧
          outcome = view.outcome taskId := by
  apply Program.guarantees_request calm.now
  intro reply after stepped
  obtain ⟨env, moves, ⟨view, shown, answered⟩, same⟩ := stepped
  have later : surroundings.Later world.env env := Relation.ReflTransGen.single moves
  rw [same]
  exact ⟨calm env later, env, view, later, rfl, shown, answered⟩

theorem guarantees_describe (calm : surroundings.Calm always world)
    (taskId : String) :
    Program.Guarantees surroundings.Step always world (Action.describe taskId)
      fun summary final => ∃ env view, surroundings.Later world.env env ∧
        final = { world with env := env } ∧ surroundings.shows env view ∧
          summary.outcome = view.outcome taskId := by
  apply Program.guarantees_request calm.now
  intro reply after stepped
  obtain ⟨env, moves, ⟨view, shown, answered⟩, same⟩ := stepped
  have later : surroundings.Later world.env env := Relation.ReflTransGen.single moves
  rw [same]
  refine ⟨calm env later, env, view, later, rfl, shown, ?_⟩
  rw [answered]
  rfl

theorem guarantees_hex (calm : surroundings.Calm always world)
    (drawn : ∀ env suffix, surroundings.Later world.env env →
      suffix.length = 12 → always { world with
        env := env
        log := world.log ++ [.drew suffix] }) :
    Program.Guarantees surroundings.Step always world Action.hex
      fun suffix final => ∃ env, surroundings.Later world.env env ∧
        suffix.length = 12 ∧ final = { world with
          env := env
          log := world.log ++ [.drew suffix] } := by
  apply Program.guarantees_request calm.now
  intro suffix after stepped
  obtain ⟨env, moves, width, same⟩ := stepped
  have later : surroundings.Later world.env env := Relation.ReflTransGen.single moves
  rw [same]
  exact ⟨drawn env suffix later width, env, later, width, rfl⟩

theorem guarantees_save (calm : surroundings.Calm always world)
    (runtime : ProjectExecutionRuntimeState)
    (saved : ∀ env, surroundings.Later world.env env → always { world with
      durable := runtime
      env := env
      log := world.log ++ [.saved runtime] }) :
    Program.Guarantees surroundings.Step always world (Action.save runtime)
      fun _ final => ∃ env, surroundings.Later world.env env ∧
        final = { world with
          durable := runtime
          env := env
          log := world.log ++ [.saved runtime] } := by
  apply Program.guarantees_request calm.now
  intro reply after stepped
  obtain ⟨env, moves, same⟩ := stepped
  have later : surroundings.Later world.env env := Relation.ReflTransGen.single moves
  rw [same]
  exact ⟨saved env later, env, later, rfl⟩

theorem guarantees_start (calm : surroundings.Calm always world) (taskId : String)
    (started : ∀ env reply after, surroundings.Later world.env env →
      surroundings.starts env taskId reply after → always { world with
        env := after
        log := world.log ++ [.started taskId] }) :
    Program.Guarantees surroundings.Step always world (Action.start taskId)
      fun reply final => ∃ env after, surroundings.Later world.env env ∧
        surroundings.starts env taskId reply after ∧ final = { world with
          env := after
          log := world.log ++ [.started taskId] } := by
  apply Program.guarantees_request calm.now
  intro reply final stepped
  obtain ⟨env, moves, after, effect, same⟩ := stepped
  have later : surroundings.Later world.env env := Relation.ReflTransGen.single moves
  rw [same]
  exact ⟨started env reply after later effect, env, after, later, effect, rfl⟩

end Surroundings

end Execraft.ProjectExecution
