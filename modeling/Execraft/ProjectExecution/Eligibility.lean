import Execraft.ProjectExecution.Gates

/-!
# Eligibility of Tasks and states of Phases

Why a Task may not start now, with every reason, and the lifecycle state of a
Phase.
-/

namespace Execraft.ProjectExecution

open Foundation Foundation.Json

/-! ## Eligibility -/

inductive EligibilityReasonKind where
  | taskMissing
  | taskArchived
  | taskNotExecutable
  | phaseEntryGateUnsatisfied
  | predecessorUnsatisfied
  | gateUnsatisfied
  | taskAlreadyRunning
  | taskTerminal
  | projectHeld
  | phaseCancelled
  | taskFailurePolicy
  deriving DecidableEq, Repr

structure EligibilityReason where
  kind : EligibilityReasonKind
  message : String
  taskId : String
  gateId : String
  phaseId : String
  deriving DecidableEq, Repr

structure EligibilityResult where
  eligible : Bool
  reasons : List EligibilityReason

/-- A reason, when it applies. -/
def reasonIf (applies : Prop) [Decidable applies] (kind : EligibilityReasonKind)
    (message taskId gateId phaseId : String) : List EligibilityReason :=
  if applies then [⟨kind, message, taskId, gateId, phaseId⟩] else []

/-- `any(... for element in elements)`, which stops at the first success. -/
def anyOutcome (elements : List String) (accepts : TaskOutcome → Bool) :
    Action Bool :=
  match elements with
  | [] => pure false
  | taskId :: rest => do
      let outcome ← Action.outcome taskId
      if accepts outcome then pure true else anyOutcome rest accepts

/-- `_required_task_failed`. -/
def requiredTaskFailed (definition : ProjectExecutionDefinition) : Action Bool :=
  anyOutcome ((definition.tasks.filter ProjectTask.required).map
    ProjectTask.taskId) fun outcome => outcome = .failed

/-- The reasons that lie in the description of the Task itself. -/
def availabilityReasons (taskId : String) (summary : TaskExecutionSummary) :
    List EligibilityReason :=
  (if summary.exists_ then
    reasonIf (summary.active = false) .taskArchived
      ("Task " ++ taskId ++ " is archived or inactive") taskId "" ""
  else
    [⟨.taskMissing, "canonical Task " ++ taskId ++ " does not exist", taskId, "",
      ""⟩]) ++
  reasonIf (summary.exists_ = true ∧ summary.executable = false) .taskNotExecutable
    ("Task " ++ taskId ++ " has no executable PLAN.graph.yaml") taskId "" ""

/-- The reasons that lie in the outcome of the Task. -/
def outcomeReasons (taskId : String) (outcome : TaskOutcome) :
    List EligibilityReason :=
  if outcome = .running then
    [⟨.taskAlreadyRunning, "Task " ++ taskId ++ " is already running", taskId, "",
      ""⟩]
  else
    reasonIf (outcome = .completed ∨ outcome = .failed ∨ outcome = .cancelled)
      .taskTerminal ("Task " ++ taskId ++ " is terminal (" ++ outcome.value ++ ")")
      taskId "" ""

section Eligibility

variable (py : Python) (definition : ProjectExecutionDefinition)
  (runtime : ProjectExecutionRuntimeState)

/-- The reasons that lie in the runtime state. -/
def controlReasons (task : ProjectTask) (phase : ProjectPhase) :
    List EligibilityReason :=
  reasonIf (runtime.held = true) .projectHeld
    (if runtime.holdReason = "" then "Project Execution is held"
      else runtime.holdReason) "" "" "" ++
  reasonIf (task.phase ∈ runtime.cancelledPhases) .phaseCancelled
    ("Phase " ++ task.phase ++ " is cancelled") "" "" task.phase ++
  (phase.entryGates.filter fun gateId => !gateSatisfied py runtime gateId).map
    fun gateId => ⟨.phaseEntryGateUnsatisfied,
      "Phase entry Gate " ++ gateId ++ " is not satisfied", "", gateId, phase.id⟩

def predecessorReasons (task : ProjectTask) : Action (List EligibilityReason) :=
  task.requires.tasks.foldlM (fun reasons predecessor => do
    let outcome ← Action.outcome predecessor
    pure (reasons ++ reasonIf (outcome ≠ .completed) .predecessorUnsatisfied
      ("predecessor Task " ++ predecessor ++ " has not completed") predecessor ""
      "")) []

def requiredGateReasons (task : ProjectTask) : List EligibilityReason :=
  (task.requires.gates.filter fun gateId => !gateSatisfied py runtime gateId).map
    fun gateId => ⟨.gateUnsatisfied,
      "required Gate " ++ gateId ++ " is not satisfied", "", gateId, ""⟩

def failurePolicyReasons : Action (List EligibilityReason) := do
  if definition.policy.taskFailureBehavior = .continue then pure []
  else do
    let failed ← requiredTaskFailed definition
    pure (reasonIf (failed = true) .taskFailurePolicy
      ("a required Task failed and Project Execution is configured to " ++
        definition.policy.taskFailureBehavior.value) "" "" "")

def evaluateTaskEligibility (taskId : String) : Action EligibilityResult :=
  match definition.findTask taskId with
  | none => Action.fail
      ("Task " ++ py.repr taskId ++ " is not referenced by Project Execution")
  | some task => do
      let summary ← Action.describe taskId
      match definition.findPhase task.phase with
      | none => Action.crash (py.repr task.phase)
      | some phase => do
          let predecessors ← predecessorReasons task
          let failures ← failurePolicyReasons definition
          let reasons := availabilityReasons taskId summary ++
            controlReasons py runtime task phase ++ predecessors ++
            requiredGateReasons py runtime task ++
            outcomeReasons taskId summary.outcome ++ failures
          pure ⟨reasons.isEmpty, reasons⟩

/-- `ProjectExecutionEngine._eligibility`. -/
def eligibilityOfTasks : Action (List (String × EligibilityResult)) :=
  definition.tasks.foldlM (fun results task => do
    let result ← evaluateTaskEligibility py definition runtime task.taskId
    pure (setEntry task.taskId result results)) []

/-! ## Phases -/

/-- `all(... for element in elements)` over outcomes. -/
def allCompleted (elements : List String) : Action Bool := do
  let missing ← anyOutcome elements fun outcome => outcome ≠ .completed
  pure !missing

/-- `_phase_state`. -/
def phaseState (phase : ProjectPhase) : Action PhaseState := do
  if phase.entryGates.any fun gateId => !gateSatisfied py runtime gateId then
    pure .planned
  else
    match phase.tasks.mapM definition.findTask with
    | none => Action.crash "a Phase lists an unknown Task"
    | some members => do
        let tasksComplete ← allCompleted
          ((members.filter ProjectTask.required).map ProjectTask.taskId)
        let exitsSatisfied := phase.exitGates.all (gateSatisfied py runtime)
        let milestonesAchieved := phase.milestones.all fun milestoneId =>
          milestoneId ∈ runtime.milestoneAchievements.keys
        if tasksComplete && exitsSatisfied && milestonesAchieved then pure .complete
        else do
          let started ← anyOutcome phase.tasks fun outcome =>
            outcome = .running ∨ outcome = .completed ∨ outcome = .failed ∨
              outcome = .cancelled
          pure (if started then .active else .ready)

/-- `project_phase`, without the health of the Phase. -/
def projectPhase (phase : ProjectPhase) : Action PhaseState :=
  if phase.id ∈ runtime.cancelledPhases then pure .cancelled
  else phaseState py definition runtime phase

/-- `ProjectExecutionEngine._project_phases`. -/
def projectPhases : Action (List (String × PhaseState)) :=
  definition.phases.foldlM (fun states phase => do
    let state ← projectPhase py definition runtime phase
    pure (setEntry phase.id state states)) []

end Eligibility

end Execraft.ProjectExecution
