import Execraft.Orchestrate.PlanGraph

/-!
# The declared state machines

The states of a task execution and the stages of a work package, by their names in
the state file, and the transitions that the models allow.
-/

namespace Execraft.Orchestrate

/-- A failure of an orchestration operation, with its message. -/
structure OrchestrateError where
  message : String
  deriving DecidableEq, Repr

namespace TaskExecutionState

def value : TaskExecutionState → String
  | initializing => "initializing"
  | validatingPlan => "validating_plan"
  | running => "running"
  | waitingForAgent => "waiting_for_agent"
  | waitingForEnvironment => "waiting_for_environment"
  | resourceMaintenance => "resource_maintenance"
  | pausedLowDisk => "paused_low_disk"
  | operatorPaused => "operator_paused"
  | recovering => "recovering"
  | finalValidation => "final_validation"
  | humanRequired => "human_required"
  | supervising => "supervising"
  | waitingForHumanDecision => "waiting_for_human_decision"
  | completed => "completed"
  | failed => "failed"
  | cancelled => "cancelled"

def all : List TaskExecutionState :=
  [initializing, validatingPlan, running, waitingForAgent, waitingForEnvironment,
    resourceMaintenance, pausedLowDisk, operatorPaused, recovering, finalValidation,
    humanRequired, supervising, waitingForHumanDecision, completed, failed, cancelled]

def ofValue? (text : String) : Option TaskExecutionState :=
  all.find? fun state => state.value = text

theorem ofValue?_value (state : TaskExecutionState) : ofValue? state.value = some state := by
  cases state <;> decide

/-- The table of the transitions of a task execution. -/
def transitions : TaskExecutionState → List TaskExecutionState
  | initializing => [validatingPlan, failed, cancelled]
  | validatingPlan => [running, humanRequired, failed, cancelled]
  | running =>
      [waitingForAgent, waitingForEnvironment, resourceMaintenance, pausedLowDisk,
        operatorPaused, finalValidation, humanRequired, supervising, failed, cancelled]
  | waitingForAgent => [running, supervising, humanRequired, failed, cancelled]
  | waitingForEnvironment => [running, humanRequired, failed, cancelled]
  | resourceMaintenance => [running, pausedLowDisk, failed, cancelled]
  | pausedLowDisk => [recovering, resourceMaintenance, failed, cancelled]
  | operatorPaused => [running, failed, cancelled]
  | recovering => [running, waitingForEnvironment, failed, cancelled]
  | finalValidation => [completed, humanRequired, running, failed, cancelled]
  | humanRequired => [running, supervising, cancelled, failed]
  | supervising =>
      [running, waitingForAgent, waitingForHumanDecision, humanRequired, failed, cancelled]
  | waitingForHumanDecision => [supervising, humanRequired, cancelled, failed]
  | completed => []
  | failed => []
  | cancelled => []

end TaskExecutionState

def validateTaskExecutionTransition (fromState toState : TaskExecutionState) :
    Except OrchestrateError Unit :=
  if toState ∈ fromState.transitions then
    .ok ()
  else
    .error ⟨"invalid task execution state transition: " ++ fromState.value ++ " -> " ++
      toState.value⟩

theorem validateTaskExecutionTransition_eq_ok {fromState toState : TaskExecutionState} :
    validateTaskExecutionTransition fromState toState = .ok () ↔
      toState ∈ fromState.transitions := by
  unfold validateTaskExecutionTransition
  by_cases allowed : toState ∈ fromState.transitions
  · rw [if_pos allowed]
    exact ⟨fun _ => allowed, fun _ => rfl⟩
  · rw [if_neg allowed]
    constructor
    · intro accepted
      cases accepted
    · intro member
      exact absurd member allowed

/-- Only a running task execution may be paused for its operator. -/
theorem operatorPaused_mem_transitions {state : TaskExecutionState} :
    TaskExecutionState.operatorPaused ∈ state.transitions ↔ state = .running := by
  cases state <;> decide

namespace WorkPackageKind

def value : WorkPackageKind → String
  | development => "development"
  | repositorySync => "repository_sync"

def ofValue? (text : String) : Option WorkPackageKind :=
  [development, repositorySync].find? fun kind => kind.value = text

theorem ofValue?_value (kind : WorkPackageKind) : ofValue? kind.value = some kind := by
  cases kind <;> decide

end WorkPackageKind

namespace WorkPackageStage

def value : WorkPackageStage → String
  | prepare => "prepare"
  | decompose => "decompose"
  | implement => "implement"
  | fastVerify => "fast_verify"
  | targetedVerify => "targeted_verify"
  | review => "review"
  | fixReview => "fix_review"
  | regressionVerify => "regression_verify"
  | finalReview => "final_review"
  | fullVerify => "full_verify"
  | readyToCommit => "ready_to_commit"
  | completed => "completed"

def all : List WorkPackageStage :=
  [prepare, decompose, implement, fastVerify, targetedVerify, review, fixReview,
    regressionVerify, finalReview, fullVerify, readyToCommit, completed]

def ofValue? (text : String) : Option WorkPackageStage :=
  all.find? fun stage => stage.value = text

theorem ofValue?_value (stage : WorkPackageStage) : ofValue? stage.value = some stage := by
  cases stage <;> decide

/-- The table of the transitions of a work package. -/
def transitions : WorkPackageStage → List WorkPackageStage
  | prepare => [decompose, implement, fastVerify, review, completed]
  | decompose => [implement, review, fixReview, regressionVerify, finalReview, completed]
  | implement => [decompose, fastVerify, targetedVerify, review, fixReview]
  | fastVerify => [targetedVerify, review, fixReview, implement]
  | targetedVerify => [review, fixReview, implement]
  | review => [decompose, fixReview, finalReview, regressionVerify, implement, completed]
  | fixReview => [decompose, regressionVerify, review, finalReview, implement]
  | regressionVerify => [finalReview, review, fixReview, implement]
  | finalReview => [decompose, readyToCommit, fixReview, fullVerify, review]
  | fullVerify => [readyToCommit, fixReview, finalReview]
  | readyToCommit => [completed, fullVerify]
  | completed => []

end WorkPackageStage

def validateStageTransition (fromStage toStage : WorkPackageStage) :
    Except OrchestrateError Unit :=
  if toStage ∈ fromStage.transitions then
    .ok ()
  else
    .error ⟨"invalid work-package stage transition: " ++ fromStage.value ++ " -> " ++
      toStage.value⟩

theorem validateStageTransition_eq_ok {fromStage toStage : WorkPackageStage} :
    validateStageTransition fromStage toStage = .ok () ↔
      toStage ∈ fromStage.transitions := by
  unfold validateStageTransition
  by_cases allowed : toStage ∈ fromStage.transitions
  · rw [if_pos allowed]
    exact ⟨fun _ => allowed, fun _ => rfl⟩
  · rw [if_neg allowed]
    constructor
    · intro accepted
      cases accepted
    · intro member
      exact absurd member allowed

end Execraft.Orchestrate
