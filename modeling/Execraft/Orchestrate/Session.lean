import Execraft.Foundation.Stateful
import Execraft.Orchestrate.Directives
import Execraft.Orchestrate.StateRecord

/-!
# What the orchestrator does to its task execution

Its record in memory, and what it wrote in which order: checkpoints, journal entries
and resolutions of directives.
-/

namespace Execraft.Orchestrate

open Foundation Foundation.Json

/-- One durable effect. -/
inductive Write where
  | save (record : TaskExecutionStateRecord)
  | append (event : String) (payload : Row)
  | resolve (commandId : String) (status : DirectiveStatus) (result error : String)

/-- The record in memory with the writes so far. -/
structure Session where
  record : TaskExecutionStateRecord
  writes : List Write := []

namespace Session

variable {Failure Value : Type}

def write (effect : Write) : Stateful Session Failure Unit :=
  Stateful.modify fun session => { session with writes := session.writes ++ [effect] }

def change (update : TaskExecutionStateRecord → TaskExecutionStateRecord) :
    Stateful Session Failure Unit :=
  Stateful.modify fun session => { session with record := update session.record }

def changePackage (packageId : String) (update : WorkPackage → WorkPackage) :
    Stateful Session Failure Unit :=
  change fun record =>
    { record with planGraph := record.planGraph.modify packageId update }

def append (event : String) (payload : Row) : Stateful Session Failure Unit :=
  write (.append event payload)

def save : Stateful Session Failure Unit := do
  let session ← Stateful.read
  write (.save session.record)

/-- Move the task execution; `now` is the time of the transition. -/
def transitionTo (now : String) (newState : TaskExecutionState) :
    Stateful Session OrchestrateError Unit := do
  let session ← Stateful.read
  Stateful.ofOutcome (validateTaskExecutionTransition session.record.state newState)
  let oldState := session.record.state.value
  change fun record =>
    { record with
      state := newState
      lastTransitionAt := now }
  append "project_state_transition"
    [("from", .string oldState), ("to", .string newState.value)]
  save

@[simp]
theorem write_apply (effect : Write) (session : Session) :
    (write effect : Stateful Session Failure Unit) session =
      (.ok (), { session with writes := session.writes ++ [effect] }) :=
  rfl

@[simp]
theorem change_apply (update : TaskExecutionStateRecord → TaskExecutionStateRecord)
    (session : Session) :
    (change update : Stateful Session Failure Unit) session =
      (.ok (), { session with record := update session.record }) :=
  rfl

@[simp]
theorem append_apply (event : String) (payload : Row) (session : Session) :
    (append event payload : Stateful Session Failure Unit) session =
      (.ok (), { session with writes := session.writes ++ [.append event payload] }) :=
  rfl

@[simp]
theorem save_apply (session : Session) :
    (save : Stateful Session Failure Unit) session =
      (.ok (), { session with writes := session.writes ++ [.save session.record] }) :=
  rfl

/-- The record after an allowed transition. -/
def moved (now : String) (newState : TaskExecutionState)
    (record : TaskExecutionStateRecord) : TaskExecutionStateRecord :=
  { record with
    state := newState
    lastTransitionAt := now }

/-- What a transition writes. -/
def transitionWrites (now : String) (newState : TaskExecutionState)
    (record : TaskExecutionStateRecord) : List Write :=
  [.append "project_state_transition"
      [("from", .string record.state.value), ("to", .string newState.value)],
    .save (moved now newState record)]

theorem transitionTo_allowed {now : String} {newState : TaskExecutionState}
    {session : Session} (allowed : newState ∈ session.record.state.transitions) :
    transitionTo now newState session =
      (.ok (),
        { record := moved now newState session.record
          writes := session.writes ++ transitionWrites now newState session.record }) := by
  have valid := validateTaskExecutionTransition_eq_ok.mpr allowed
  unfold transitionTo
  rw [Stateful.read_bind_apply, Stateful.bind_apply, Stateful.ofOutcome_apply, valid]
  simp [Stateful.bind_apply, moved, transitionWrites, List.append_assoc]

theorem transitionTo_refused {now : String} {newState : TaskExecutionState}
    {session : Session} (refused : newState ∉ session.record.state.transitions) :
    transitionTo now newState session =
      (.error ⟨"invalid task execution state transition: " ++ session.record.state.value ++
        " -> " ++ newState.value⟩, session) := by
  have invalid : validateTaskExecutionTransition session.record.state newState =
      .error ⟨"invalid task execution state transition: " ++ session.record.state.value ++
        " -> " ++ newState.value⟩ := by
    unfold validateTaskExecutionTransition
    rw [if_neg refused]
  unfold transitionTo
  rw [Stateful.read_bind_apply, Stateful.bind_apply, Stateful.ofOutcome_apply, invalid]

end Session

/-! ## What is durable -/

/-- The files of a task execution. -/
structure Durable where
  saved : TaskExecutionStateRecord
  journal : List (String × Row)
  queue : WorkPackageDirectiveQueue

namespace Durable

/-- The files after one more write; `now` is the time that a resolution records. -/
def perform (now : String) (files : Durable) : Write → Durable
  | .save record => { files with saved := record }
  | .append event payload => { files with journal := files.journal ++ [(event, payload)] }
  | .resolve commandId status result error =>
      { files with
        queue := files.queue.resolve commandId status result error now }

def performAll (now : String) (files : Durable) (writes : List Write) : Durable :=
  writes.foldl (perform now) files

theorem performAll_append (now : String) (files : Durable) (first second : List Write) :
    files.performAll now (first ++ second) =
      (files.performAll now first).performAll now second :=
  List.foldl_append

end Durable

end Execraft.Orchestrate
