import Execraft.ProjectExecution.Eligibility

/-!
# The Automatic planner

`AutomaticExecutionPlanner.plan`: which eligible Tasks one cycle starts, within
the limits of the policy.
-/

namespace Execraft.ProjectExecution

open Foundation Foundation.Json

/-! ## Start intents -/

/-- `_RESOLVED_INTENT_STATES`. -/
def RESOLVED_INTENT_STATES : List Json :=
  [.string "resolved", .string "failed", .string "superseded"]

/-- A start intent whose status is neither resolved, failed nor superseded. -/
def unresolvedStart (intent : Row) : Bool :=
  intent.get "kind" .null = .string "start_task" ∧
    intent.get "status" .null ∉ RESOLVED_INTENT_STATES

/-- `str(intent.get("task_id", ""))`. -/
def intentTask (py : Python) (intent : Row) : String :=
  py.text (intent.get "task_id" (.string ""))

/-! ## Plans -/

structure AutomaticCapacity where
  globalLimit : Nat
  occupiedGlobal : Nat
  availableGlobal : Nat
  activePhaseLimit : Nat
  activePhases : List String
  perPhaseLimit : Nat
  occupiedByPhase : List (String × Nat)

structure AutomaticStartPlan where
  taskIds : List String
  capacity : AutomaticCapacity
  policyBlocked : List (String × String)
  reservedTasks : List String

def AutomaticCapacity.asMapping (capacity : AutomaticCapacity) : Row :=
  [("global_limit", .int capacity.globalLimit),
    ("occupied_global", .int capacity.occupiedGlobal),
    ("available_global", .int capacity.availableGlobal),
    ("active_phase_limit", .int capacity.activePhaseLimit),
    ("active_phases", stringArray capacity.activePhases),
    ("per_phase_limit", .int capacity.perPhaseLimit),
    ("occupied_by_phase", .object (capacity.occupiedByPhase.map fun entry =>
      (entry.1, .int entry.2)))]

def AutomaticStartPlan.asMapping (plan : AutomaticStartPlan) : Row :=
  [("task_ids", stringArray plan.taskIds),
    ("capacity", .object plan.capacity.asMapping),
    ("policy_blocked", .object (plan.policyBlocked.map fun entry =>
      (entry.1, .string entry.2))),
    ("reserved_tasks", stringArray plan.reservedTasks)]

namespace AutomaticExecutionPlanner

variable (py : Python)

/-- `_observed_outcome`. -/
def observedOutcome (runtime : ProjectExecutionRuntimeState) (taskId : String) :
    TaskOutcome :=
  let row := (runtime.observedTasks.get? taskId).getD []
  (TaskOutcome.ofValue (py.text (row.get "outcome" (.string "")))).getD .unknown

/-- `_reserved_tasks`. -/
def reservedTasks (runtime : ProjectExecutionRuntimeState) : List String :=
  let named := ((runtime.intents.entries.map Prod.snd).filter unresolvedStart).map
    (intentTask py)
  ((named.filter (· ≠ "")).dedup.mergeSort).filter fun taskId =>
    observedOutcome py runtime taskId = .notStarted

/-- The Tasks last seen running. -/
def runningTasks (definition : ProjectExecutionDefinition)
    (runtime : ProjectExecutionRuntimeState) : List String :=
  definition.taskIdList.filter fun taskId =>
    observedOutcome py runtime taskId = .running

/-- `running | set(reserved)`. -/
def occupiedTasks (definition : ProjectExecutionDefinition)
    (runtime : ProjectExecutionRuntimeState) : List String :=
  (runningTasks py definition runtime ++ reservedTasks py runtime).dedup

/-- `phase_by_task.get(task_id)`. -/
def phaseByTask (definition : ProjectExecutionDefinition) (taskId : String) :
    Option String :=
  (definition.findTask taskId).map ProjectTask.phase

/-- `counts[phase_id] = counts.get(phase_id, 0) + 1`. -/
def countPhase (counts : List (String × Nat)) (phaseId : String) :
    List (String × Nat) :=
  setEntry phaseId ((getEntry phaseId counts).getD 0 + 1) counts

/-- `_counts_by_phase`. -/
def countsByPhase (definition : ProjectExecutionDefinition)
    (taskIds : List String) : List (String × Nat) :=
  (taskIds.filterMap (phaseByTask definition)).foldl countPhase []

/-- What the loop over the Tasks carries along. -/
structure Planning where
  available : Nat
  candidates : List String
  blocked : List (String × String)
  plannedByPhase : List (String × Nat)
  plannedPhases : List String

/-- A Task of a Phase that may start Tasks: the limits on Phases and Tasks. -/
def pickTask (policy : ProjectExecutionPolicy) (planning : Planning)
    (taskId phaseId : String) : Planning :=
  if phaseId ∉ planning.plannedPhases ∧
      policy.maximumActivePhases ≤ planning.plannedPhases.length then
    { planning with
      blocked :=
        setEntry taskId "maximum_active_phases would be exceeded" planning.blocked }
  else
    let plannedPhases := planning.plannedPhases.insert phaseId
    let occupied := (getEntry phaseId planning.plannedByPhase).getD 0
    if policy.maximumParallelTasksPerPhase ≤ occupied then
      { planning with
        plannedPhases := plannedPhases
        blocked := setEntry taskId
          "maximum_parallel_tasks_per_phase would be exceeded" planning.blocked }
    else
      { planning with
        plannedPhases := plannedPhases
        candidates := planning.candidates ++ [taskId]
        plannedByPhase := countPhase planning.plannedByPhase phaseId
        available := planning.available - 1 }

/-- One pass of the loop.  Without available capacity the loop has ended. -/
def planTask (definition : ProjectExecutionDefinition)
    (eligibility : List (String × EligibilityResult))
    (phases : List (String × PhaseState)) (occupied : List String)
    (planning : Planning) (taskId : String) : Except Failure Planning :=
  if planning.available = 0 then .ok planning
  else if ¬ ((getEntry taskId eligibility).any fun result => result.eligible) then
    .ok planning
  else if taskId ∈ occupied then
    .ok { planning with
      blocked :=
        setEntry taskId "Task has an unresolved or running start" planning.blocked }
  else
    match phaseByTask definition taskId with
    | none => .error (.other (py.repr taskId))
    | some phaseId =>
        match getEntry phaseId phases with
        | none => .error (.other (py.repr phaseId))
        | some state =>
            if state ≠ .ready ∧ state ≠ .active then
              .ok { planning with
                blocked := setEntry taskId
                  ("Phase " ++ phaseId ++ " is " ++ state.value ++
                    " and cannot start new Tasks") planning.blocked }
            else .ok (pickTask definition.policy planning taskId phaseId)

/-- The Phases that are active or hold a reserved Task. -/
def activePhases (definition : ProjectExecutionDefinition)
    (phases : List (String × PhaseState)) (reserved : List String) : List String :=
  (((phases.filter fun entry => entry.2 = .active).map Prod.fst) ++
    reserved.filterMap (phaseByTask definition)).dedup

/-- `_task_order`. -/
def taskOrder (definition : ProjectExecutionDefinition) : Outcome (List String) :=
  topologicalOrder (taskAdjacency definition) "Task dependency graph"

/-- The state in which the loop starts. -/
def planningStart (definition : ProjectExecutionDefinition)
    (runtime : ProjectExecutionRuntimeState)
    (phases : List (String × PhaseState)) : Planning :=
  let reserved := reservedTasks py runtime
  let occupied := occupiedTasks py definition runtime
  { available := definition.policy.maximumParallelTasks - occupied.length
    candidates := []
    blocked := []
    plannedByPhase := countsByPhase definition occupied
    plannedPhases := activePhases definition phases reserved }

def plan (definition : ProjectExecutionDefinition)
    (runtime : ProjectExecutionRuntimeState)
    (eligibility : List (String × EligibilityResult))
    (phases : List (String × PhaseState)) : Except Failure AutomaticStartPlan := do
  let policy := definition.policy
  let reserved := reservedTasks py runtime
  let occupied := occupiedTasks py definition runtime
  let occupiedByPhase := countsByPhase definition occupied
  let order ← (taskOrder definition).mapError Failure.projectExecution
  let planning ← order.foldlM
    (planTask py definition eligibility phases occupied)
    (planningStart py definition runtime phases)
  .ok
    { taskIds := planning.candidates
      capacity :=
        { globalLimit := policy.maximumParallelTasks
          occupiedGlobal := occupied.length
          availableGlobal := policy.maximumParallelTasks - occupied.length
          activePhaseLimit := policy.maximumActivePhases
          activePhases :=
            (activePhases definition phases reserved).mergeSort
          perPhaseLimit := policy.maximumParallelTasksPerPhase
          occupiedByPhase := occupiedByPhase.mergeSort fun left right =>
            left.1 ≤ right.1 }
      policyBlocked := planning.blocked
      reservedTasks := reserved }

end AutomaticExecutionPlanner

end Execraft.ProjectExecution
