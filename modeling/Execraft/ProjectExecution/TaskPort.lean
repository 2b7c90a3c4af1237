import Execraft.Foundation.Program
import Execraft.ProjectExecution.RuntimeState

/-!
# The Task execution port and the effects of the engine

Project Execution meets Tasks only through `TaskExecutionPort`.  Its calls, the
durable saves, the journal and the sources of time and of fresh identifiers are
the effects of the engine's programs.
-/

namespace Execraft.ProjectExecution

open Foundation

/-! ## The port -/

inductive TaskOutcome where
  | notStarted
  | running
  | completed
  | failed
  | cancelled
  | unknown
  deriving DecidableEq, Repr

namespace TaskOutcome

def value : TaskOutcome → String
  | notStarted => "not_started"
  | running => "running"
  | completed => "completed"
  | failed => "failed"
  | cancelled => "cancelled"
  | unknown => "unknown"

def ofValue (text : String) : Option TaskOutcome :=
  [notStarted, running, completed, failed, cancelled, unknown].find?
    fun outcome => text = outcome.value

@[simp]
theorem ofValue_value (outcome : TaskOutcome) :
    ofValue outcome.value = some outcome := by
  cases outcome <;> decide

end TaskOutcome

structure TaskVerificationSummary where
  outcome : String
  passed : Int
  failed : Int
  total : Int

structure TaskExecutionSummary where
  taskId : String
  exists_ : Bool
  active : Bool
  executable : Bool
  executionState : String
  outcome : TaskOutcome

structure TaskEvidence where
  taskId : String
  outcome : TaskOutcome
  taskDigest : String
  planDigest : String
  verification : TaskVerificationSummary
  repositoryRevisions : List (String × String)
  artifacts : List String

structure TaskStartResult where
  accepted : Bool
  alreadyStarted : Bool
  message : String

/-! ## Effects -/

/-- An exception: one of the project's own, or one of the language or a port. -/
inductive Failure where
  | projectExecution (error : ProjectExecutionError)
  | other (message : String)
  deriving DecidableEq, Repr

/-- `str(error)`. -/
def Failure.message : Failure → String
  | .projectExecution (.error message) => message
  | .projectExecution (.notFound message) => message
  | .projectExecution (.conflict message) => message
  | .other message => message

inductive Effect where
  | describe (taskId : String)
  | outcome (taskId : String)
  | evidence (taskId : String)
  | start (taskId : String)
  | save (runtime : ProjectExecutionRuntimeState)
  | append (eventType : String) (data : Row)
  /-- `_now()`. -/
  | now
  /-- `uuid.uuid4().hex[:12]`. -/
  | hex

/-- What an effect is answered with; a start may raise. -/
def Reply : Effect → Type
  | .describe _ => TaskExecutionSummary
  | .outcome _ => TaskOutcome
  | .evidence _ => TaskEvidence
  | .start _ => Except String TaskStartResult
  | .save _ => Unit
  | .append _ _ => Unit
  | .now => String
  | .hex => String

abbrev Action := Program Effect Reply Failure

namespace Action

def describe (taskId : String) : Action TaskExecutionSummary :=
  Program.request (Effect.describe taskId)

def outcome (taskId : String) : Action TaskOutcome :=
  Program.request (Effect.outcome taskId)

def evidence (taskId : String) : Action TaskEvidence :=
  Program.request (Effect.evidence taskId)

def start (taskId : String) : Action (Except String TaskStartResult) :=
  Program.request (Effect.start taskId)

def save (runtime : ProjectExecutionRuntimeState) : Action Unit :=
  Program.request (Effect.save runtime)

def append (eventType : String) (data : Row) : Action Unit :=
  Program.request (Effect.append eventType data)

/-- An event for a change. -/
def appendIf (changed : Bool) (eventType : String) (data : Row) : Action Unit :=
  if changed then append eventType data else pure ()

def now : Action String :=
  Program.request Effect.now

def hex : Action String :=
  Program.request Effect.hex

/-- A computation that can only raise a `ProjectExecutionError`. -/
def check {α : Type} : Outcome α → Action α
  | .ok value => pure value
  | .error failure => Program.raise (.projectExecution failure)

/-- `raise ProjectExecutionError(message)`. -/
def fail {α : Type} (message : String) : Action α :=
  Program.raise (.projectExecution (.error message))

/-- An exception of the language. -/
def crash {α : Type} (message : String) : Action α :=
  Program.raise (.other message)

end Action

/-! ## Ports with constant answers -/

/-- What a port tells about Tasks while its answers do not change.  The outcome
of a Task is that of its description, as in `FilesystemTaskExecutionPort`. -/
structure TaskView where
  describe : String → TaskExecutionSummary
  evidence : String → TaskEvidence

def TaskView.outcome (view : TaskView) (taskId : String) : TaskOutcome :=
  (view.describe taskId).outcome

/-- The replies of a port with constant answers; nothing is said of the other
effects. -/
def TaskView.answers (view : TaskView) : (effect : Effect) → Reply effect → Prop
  | .describe taskId, summary => summary = view.describe taskId
  | .outcome taskId, outcome => outcome = view.outcome taskId
  | .evidence taskId, evidence => evidence = view.evidence taskId
  | .start _, _ => True
  | .save _, _ => True
  | .append _ _, _ => True
  | .now, _ => True
  | .hex, _ => True

/-- Such a port, with starts refused and fixed sources of time and identifiers. -/
def TaskView.replies (view : TaskView) : (effect : Effect) → Reply effect
  | .describe taskId => view.describe taskId
  | .outcome taskId => view.outcome taskId
  | .evidence taskId => view.evidence taskId
  | .start _ => .error "not started"
  | .save _ => ()
  | .append _ _ => ()
  | .now => ""
  | .hex => "000000000000"

theorem TaskView.replies_answers (view : TaskView) (effect : Effect) :
    view.answers effect (view.replies effect) := by
  cases effect <;> first | rfl | trivial

/-- Any replies. -/
def anyAnswers : (effect : Effect) → Reply effect → Prop :=
  fun _ _ => True

section Yields

variable {α : Type} {view : TaskView} {answers : (effect : Effect) → Reply effect → Prop}

@[simp]
theorem yields_outcome {taskId : String} {outcome : TaskOutcome} :
    (Action.outcome taskId).Yields view.answers outcome ↔
      outcome = view.outcome taskId :=
  Program.yields_request

@[simp]
theorem yields_evidence {taskId : String} {evidence : TaskEvidence} :
    (Action.evidence taskId).Yields view.answers evidence ↔
      evidence = view.evidence taskId :=
  Program.yields_request

@[simp]
theorem yields_check {computation : Outcome α} {result : α} :
    (Action.check computation).Yields answers result ↔ computation = .ok result := by
  cases computation with
  | ok value => simp [Action.check]
  | error failure => simp [Action.check]

@[simp]
theorem yields_fail {message : String} {result : α} :
    (Action.fail message : Action α).Yields answers result ↔ False :=
  Iff.rfl

theorem yields_unless {condition : Prop} [Decidable condition] {message : String}
    {program : Action α} {result : α} :
    (if condition then Action.fail message else program).Yields answers result ↔
      ¬ condition ∧ program.Yields answers result := by
  by_cases holds : condition
  · rw [if_pos holds, yields_fail]
    exact ⟨False.elim, fun both => both.1 holds⟩
  · rw [if_neg holds]
    exact ⟨fun yields => ⟨holds, yields⟩, fun both => both.2⟩

@[simp]
theorem yields_crash {message : String} {result : α} :
    (Action.crash message : Action α).Yields answers result ↔ False :=
  Iff.rfl

end Yields

end Execraft.ProjectExecution
