import Execraft.ProjectExecution.Automatic
import Execraft.ProjectExecution.Milestones

/-!
# The engine

`ProjectExecutionEngine`: every operation as a program that starts from the
durable state it loads.  The executor lock makes operations follow one another.
-/

namespace Execraft.ProjectExecution

open Foundation Foundation.Json Foundation.Text

/-! ## Recovery of start intents -/

/-- What the loop over the intents carries along: the intents and the changed
ones. -/
abbrev Reconciling := Dict Row × List String

/-- One intent of `reconcile_start_intents`. -/
def reconcileIntent (py : Python) (reconciling : Reconciling)
    (entry : String × Row) : Action Reconciling :=
  let (intents, changed) := reconciling
  let (intentId, intent) := entry
  if ¬ unresolvedStart intent then pure reconciling
  else do
    let outcome ← Action.outcome (intentTask py intent)
    if outcome ≠ .notStarted then do
      let resolvedAt ← Action.now
      pure (intents.set intentId (intent.update
        [("status", .string "resolved"), ("resolved_at", .string resolvedAt),
          ("observed_outcome", .string outcome.value)]), changed ++ [intentId])
    else if intent.get "status" .null ≠ .string "uncertain" then do
      let reconciledAt ← Action.now
      pure (intents.set intentId (intent.update
        [("status", .string "uncertain"), ("reconciled_at", .string reconciledAt),
          ("reason", .string ("Task still appears not started; interrupted " ++
            "intent was not replayed automatically"))]), changed ++ [intentId])
    else pure reconciling

/-- `reconcile_start_intents`. -/
def reconcileStartIntents (py : Python) (runtime : ProjectExecutionRuntimeState) :
    Action ProjectExecutionRuntimeState := do
  let (intents, changed) ← runtime.intents.entries.foldlM (reconcileIntent py)
    (runtime.intents, [])
  let _ ← Action.appendIf (changed ≠ []) "project_execution_reconciled"
    [("intent_ids", stringArray changed.mergeSort)]
  pure { runtime with intents := intents }

/-! ## Gate decisions -/

namespace GateEvaluationService

variable (py : Python)

/-- `decide`: the row with the new record. -/
def decide (gateId : String) (runtime : ProjectExecutionRuntimeState)
    (actor decision reason : String) : Action ProjectExecutionRuntimeState :=
  let row := runtime.gateRow gateId
  let fingerprint := py.text (row.get "input_fingerprint" (.string ""))
  let normalized := py.lowerString (stripString decision)
  if row = [] then
    Action.fail ("Gate " ++ py.repr gateId ++ " has not been evaluated")
  else if row.get "state" .null ≠ .string GateState.awaitingDecision.value then
    Action.fail ("Gate " ++ py.repr gateId ++ " is not awaiting a human decision")
  else if fingerprint = "" then
    Action.fail
      ("Gate " ++ py.repr gateId ++ " has no current evidence fingerprint")
  else if normalized ≠ "approved" ∧ normalized ≠ "rejected" then
    Action.fail "Gate decision must be approved or rejected"
  else if stripString actor = "" then
    Action.fail "Gate decision actor cannot be empty"
  else do
    let timestamp ← Action.now
    let record : Row :=
      [("actor", .string (stripString actor)), ("decision", .string normalized),
        ("reason", .string (stripString reason)), ("timestamp", .string timestamp),
        ("input_fingerprint", .string fingerprint)]
    match row.get "decisions" (.array []) with
    | .array decisions => do
        let _ ← Action.append
          (if normalized = "approved" then "project_gate_approved"
            else "project_gate_rejected")
          (Row.update [("gate_id", .string gateId)] record)
        pure (runtime.setGate gateId
          (row.set "decisions" (.array (decisions ++ [.object record]))))
    | _ => Action.fail "Gate decision history is invalid"

/-- `waive`. -/
def waive (gateId : String) (runtime : ProjectExecutionRuntimeState)
    (actor reason : String) : Action ProjectExecutionRuntimeState :=
  let row := runtime.gateRow gateId
  if ¬ truthy (row.get "input_fingerprint" .null) then
    Action.fail ("Gate " ++ py.repr gateId ++ " must be evaluated before waiver")
  else if gateId ∈ runtime.cancelledGates then
    Action.fail ("Gate " ++ py.repr gateId ++ " is cancelled")
  else if stripString actor = "" ∨ stripString reason = "" then
    Action.fail "Gate waiver requires actor and reason"
  else do
    let timestamp ← Action.now
    let waiver : Row :=
      [("actor", .string (stripString actor)),
        ("reason", .string (stripString reason)), ("timestamp", .string timestamp),
        ("input_fingerprint",
          .string (py.text (row.get "input_fingerprint" .null)))]
    let row := row.set "waiver" (.object waiver)
    let row := row.set "state" (.string GateState.waived.value)
    let _ ← Action.append "project_gate_waived"
      (Row.update [("gate_id", .string gateId)] waiver)
    pure (runtime.setGate gateId row)

end GateEvaluationService

namespace ProjectExecutionEngine

variable (py : Python) (definition : ProjectExecutionDefinition)

/-! ## Steps of the operations -/

/-- `definition_digest`. -/
def definitionDigest : String :=
  "sha256:" ++
    py.sha256 (encodeUtf8 (encode (sortKeys (.object definition.asMapping))))

/-- `_sync_definition`. -/
def syncDefinition (runtime : ProjectExecutionRuntimeState) :
    Action ProjectExecutionRuntimeState :=
  let digest := definitionDigest py definition
  if runtime.definitionRevision = definition.revision ∧
      runtime.definitionDigest = digest ∧
      runtime.mode = definition.mode.value then
    pure runtime
  else do
    let _ ← Action.append "project_definition_changed"
      [("definition_revision", .int definition.revision),
        ("definition_digest", .string digest),
        ("previous_digest", .string runtime.definitionDigest)]
    pure { runtime with
      definitionRevision := definition.revision
      definitionDigest := digest
      mode := definition.mode.value }

/-- `_record_ready_tasks`. -/
def recordReadyTasks (eligibility : List (String × EligibilityResult))
    (runtime : ProjectExecutionRuntimeState) : Action ProjectExecutionRuntimeState :=
  match iterate (runtime.executor.get "ready_tasks" (.array [])) with
  | none => Action.crash "ready_tasks cannot be iterated"
  | some previous => do
      let ready := (eligibility.filter fun entry => entry.2.eligible).map Prod.fst
      let new := (ready.filter fun taskId => .string taskId ∉ previous).mergeSort
      let _ ← new.foldlM (fun _ taskId =>
        Action.append "project_task_ready" [("task_id", .string taskId)]) ()
      pure { runtime with
        executor := runtime.executor.set "ready_tasks" (stringArray ready.mergeSort) }

/-- One Task of `_observe_tasks`. -/
def observeTask (previous : Dict Row) (observed : Dict Row) (task : ProjectTask) :
    Action (Dict Row) := do
  let summary ← Action.describe task.taskId
  let prior := py.text
    (((previous.get? task.taskId).getD []).get "outcome" (.string ""))
  let changed := prior ≠ summary.outcome.value
  let _ ← Action.appendIf (changed ∧ summary.outcome = .completed)
    "project_task_completed" [("task_id", .string task.taskId)]
  let _ ← Action.appendIf (changed ∧ summary.outcome = .failed)
    "project_task_failed" [("task_id", .string task.taskId)]
  pure (observed.set task.taskId
    [("outcome", .string summary.outcome.value),
      ("execution_state", .string summary.executionState)])

/-- `_observe_tasks`. -/
def observeTasks (runtime : ProjectExecutionRuntimeState) :
    Action ProjectExecutionRuntimeState := do
  let observed ← definition.tasks.foldlM (observeTask py runtime.observedTasks)
    Dict.empty
  pure { runtime with observedTasks := observed }

/-- `_PHASE_EVENT`. -/
def phaseEvent : PhaseState → Option String
  | .ready => some "project_phase_ready"
  | .active => some "project_phase_activated"
  | .complete => some "project_phase_completed"
  | .planned => none
  | .cancelled => none

/-- The stored state of a Phase in `phase_states`. -/
def previousPhaseState (oldStates : Row) (phaseId : String) : Json :=
  match subRow oldStates phaseId with
  | some previous => Row.get previous "state" .null
  | none => .null

/-- `_record_phase_transitions`. -/
def recordPhaseTransitions (phases : List (String × PhaseState))
    (runtime : ProjectExecutionRuntimeState) :
    Action ProjectExecutionRuntimeState := do
  let oldStates : Row :=
    match runtime.executor.get "phase_states" (.object []) with
    | .object fields => fields
    | _ => []
  let _ ← phases.foldlM (fun _ (entry : String × PhaseState) =>
    match phaseEvent entry.2 with
    | none => pure ()
    | some eventType =>
        Action.appendIf
          (previousPhaseState oldStates entry.1 ≠ .string entry.2.value)
          eventType [("phase_id", .string entry.1)]) ()
  let newStates : Row := phases.map fun entry =>
    (entry.1, .object [("state", .string entry.2.value)])
  pure { runtime with
    executor := runtime.executor.set "phase_states" (.object newStates) }

/-- The required Tasks last seen failed. -/
def failedTasks (runtime : ProjectExecutionRuntimeState) : List String :=
  (definition.tasks.filter fun task => task.required ∧
    py.text (((runtime.observedTasks.get? task.taskId).getD []).get "outcome"
      (.string "")) = TaskOutcome.failed.value).map ProjectTask.taskId

/-- `_apply_failure_policy`. -/
def applyFailurePolicy (runtime : ProjectExecutionRuntimeState) :
    Action ProjectExecutionRuntimeState :=
  let failed := failedTasks py definition runtime
  if failed = [] ∨ definition.policy.taskFailureBehavior ≠ .hold then pure runtime
  else if runtime.held then pure runtime
  else do
    let reason := "automatic failure policy hold; required Task(s) failed: " ++
      ", ".intercalate failed.mergeSort
    let _ ← Action.append "project_execution_paused"
      [("reason", .string reason), ("source", .string "task_failure_policy"),
        ("task_ids", stringArray failed.mergeSort)]
    pure { runtime with held := true, holdReason := reason }

/-- Eligibility, ready Tasks, Phases and their transitions. -/
def refresh (runtime : ProjectExecutionRuntimeState) :
    Action (ProjectExecutionRuntimeState × List (String × EligibilityResult) ×
      List (String × PhaseState)) := do
  let eligibility ← eligibilityOfTasks py definition runtime
  let runtime ← recordReadyTasks eligibility runtime
  let phases ← projectPhases py definition runtime
  let runtime ← recordPhaseTransitions phases runtime
  pure (runtime, eligibility, phases)

/-! ## Starting a Task -/

/-- The observed outcome of an answered start. -/
def resolveStartResult (intent : Row) (taskId : String) (result : TaskStartResult) :
    Action Row := do
  let observed ← Action.outcome taskId
  let time ← Action.now
  if observed ≠ .notStarted then
    pure (intent.update [("status", .string "resolved"),
      ("resolved_at", .string time), ("observed_outcome", .string observed.value)])
  else if result.accepted ∨ result.alreadyStarted then
    pure (intent.update [("status", .string "pending"),
      ("action_acknowledged_at", .string time), ("message", .string result.message)])
  else
    pure (intent.update [("status", .string "failed"),
      ("resolved_at", .string time), ("message", .string result.message)])

/-- `_reconcile_start_exception`: the intent, and the result unless the error is
raised again. -/
def reconcileStartException (intent : Row) (taskId error : String) :
    Action (Row × Except Failure TaskStartResult) := do
  let outcome ← Action.outcome taskId
  let time ← Action.now
  if outcome ≠ .notStarted then
    pure (intent.update [("status", .string "resolved"),
        ("resolved_at", .string time), ("observed_outcome", .string outcome.value),
        ("action_error", .string error)],
      .ok ⟨true, true, "Task start outcome recovered after error: " ++ error⟩)
  else
    pure (intent.update [("status", .string "uncertain"),
        ("action_error", .string error), ("reconciled_at", .string time)],
      .error (.other error))

/-- The intent after the reply of `port.start`. -/
def settleStart (intent : Row) (taskId : String)
    (reply : Except String TaskStartResult) :
    Action (Row × Except Failure TaskStartResult) :=
  match reply with
  | .ok result => do
      let intent ← resolveStartResult intent taskId result
      pure (intent, .ok result)
  | .error error => reconcileStartException intent taskId error

/-- The identifier and the row of a new start intent. -/
def newIntentId (taskId suffix : String) : String :=
  "start-" ++ taskId ++ "-" ++ suffix

def newIntent (intentId taskId createdAt : String) : Row :=
  [("id", .string intentId), ("kind", .string "start_task"),
    ("task_id", .string taskId), ("status", .string "pending"),
    ("created_at", .string createdAt)]

/-- The intents with a new one, which supersedes the one it retries. -/
def addIntent (intents : Dict Row) (intentId : String) (intent : Row)
    (retryOf : Option (String × Row)) : Dict Row :=
  match retryOf with
  | none => intents.set intentId intent
  | some (oldId, old) =>
      let superseded := (old.set "status" (.string "superseded")).set
        "superseded_by" (.string intentId)
      (intents.set oldId superseded).set intentId
        (intent.set "retry_of" (old.get "id" (.string "")))

/-- `_start_with_intent`.  An error of the port that is raised again comes with
the runtime state at that point, which the caller goes on with. -/
def startWithIntent (taskId : String) (runtime : ProjectExecutionRuntimeState)
    (retryOf : Option (String × Row)) :
    Action (ProjectExecutionRuntimeState × Except Failure TaskStartResult) := do
  let suffix ← Action.hex
  let intentId := newIntentId taskId suffix
  let createdAt ← Action.now
  let runtime := { runtime with
    intents := addIntent runtime.intents intentId
      (newIntent intentId taskId createdAt) retryOf }
  let intent := (runtime.intents.get? intentId).getD []
  let _ ← Action.save runtime
  let _ ← Action.append "project_task_start_requested"
    [("task_id", .string taskId), ("intent_id", .string intentId)]
  let reply ← Action.start taskId
  let (intent, result) ← settleStart intent taskId reply
  let runtime := runtime.setIntent intentId intent
  let _ ← Action.save runtime
  let _ ← Action.appendIf (intent.get "status" .null = .string "resolved")
    "project_task_started"
    [("task_id", .string taskId), ("intent_id", .string intentId),
      ("observed_outcome", intent.get "observed_outcome" (.string ""))]
  pure (runtime, result)

/-- `_pending_start_intent`. -/
def pendingStartIntent (runtime : ProjectExecutionRuntimeState) (taskId : String) :
    Option (String × Row) :=
  runtime.intents.entries.find? fun entry => unresolvedStart entry.2 ∧
    entry.2.get "task_id" .null = .string taskId

/-! ## Operations -/

/-- `reconcile`, on the runtime state that it loads. -/
def reconcile (runtime : ProjectExecutionRuntimeState) :
    Action ProjectExecutionRuntimeState := do
  let runtime ← syncDefinition py definition runtime
  let runtime ← reconcileStartIntents py runtime
  let runtime ← evaluateGates py definition runtime
  let runtime ← evaluateMilestones py definition runtime
  let eligibility ← eligibilityOfTasks py definition runtime
  let runtime ← recordReadyTasks eligibility runtime
  let runtime ← observeTasks py definition runtime
  let phases ← projectPhases py definition runtime
  let runtime ← recordPhaseTransitions phases runtime
  let time ← Action.now
  let runtime := { runtime with
    executor := runtime.executor.set "last_reconciled_at" (.string time) }
  let _ ← Action.save runtime
  pure runtime

/-- The intent that a start of the Task retries, if one is unresolved. -/
def retriedIntent (runtime : ProjectExecutionRuntimeState) (taskId : String)
    (retryUncertain : Bool) : Action (Option (String × Row)) :=
  match pendingStartIntent runtime taskId with
  | none => pure none
  | some pending =>
      if retryUncertain then pure (some pending)
      else Action.fail ("Task " ++ taskId ++ " has an unresolved start intent; " ++
        "reconcile or explicitly retry it")

/-- The result of a call that raises again what it met. -/
def returned {α : Type} : Except Failure α → Action α :=
  Program.ofOutcome

/-- `start_task`. -/
def startTask (taskId : String) (retryUncertain : Bool)
    (runtime : ProjectExecutionRuntimeState) : Action TaskStartResult :=
  match definition.mode with
  | .observe => Action.fail "Observe mode cannot start Tasks"
  | .automatic => Action.fail
      "Automatic mode starts Tasks only through an automatic cycle"
  | .assisted => do
      let runtime ← syncDefinition py definition runtime
      let runtime ← evaluateGates py definition runtime
      if taskId ∉ definition.taskIdList then
        Action.fail
          ("Task " ++ py.repr taskId ++ " is not part of Project Execution")
      else do
        let eligibility ← evaluateTaskEligibility py definition runtime taskId
        if eligibility.eligible = false then
          Action.fail ("Task is not eligible: " ++
            "; ".intercalate (eligibility.reasons.map EligibilityReason.message))
        else do
          let pending ← retriedIntent runtime taskId retryUncertain
          let (_, result) ← startWithIntent taskId runtime pending
          returned result

/-- What a cycle reports besides its snapshot. -/
structure AutomaticExecutionCycle where
  startedTasks : List String
  startFailures : List Row
  plan : AutomaticStartPlan

/-- The starts of one cycle.  The first failure or rejection ends them. -/
def startPlanned (cycleId : String) :
    List String → ProjectExecutionRuntimeState → List String →
      Action (ProjectExecutionRuntimeState × List String × List Row)
  | [], runtime, started => pure (runtime, started, [])
  | taskId :: rest, runtime, started => do
      let (runtime, result) ← startWithIntent taskId runtime none
      match result with
      | .error failure => do
          let row : Row := [("task_id", .string taskId),
            ("error", .string failure.message)]
          let _ ← Action.append "project_automatic_task_start_failed"
            (("cycle_id", .string cycleId) :: row)
          pure (runtime, started, [row])
      | .ok result =>
          if result.accepted ∨ result.alreadyStarted then
            startPlanned cycleId rest runtime (started ++ [taskId])
          else do
            let row : Row := [("task_id", .string taskId),
              ("error", .string (if result.message = "" then
                "Task start was rejected" else result.message))]
            let _ ← Action.append "project_automatic_task_start_failed"
              (("cycle_id", .string cycleId) :: row)
            pure (runtime, started, [row])

/-- The starts of a plan, unless the project is held. -/
def startUnlessHeld (cycleId : String) (taskIds : List String)
    (runtime : ProjectExecutionRuntimeState) :
    Action (ProjectExecutionRuntimeState × List String × List Row) :=
  if runtime.held then pure (runtime, [], [])
  else startPlanned cycleId taskIds runtime []

/-- The part of a cycle in front of its plan. -/
def prepareCycle (runtime : ProjectExecutionRuntimeState) :
    Action (ProjectExecutionRuntimeState × AutomaticStartPlan) := do
  let runtime ← syncDefinition py definition runtime
  let runtime ← reconcileStartIntents py runtime
  let runtime ← evaluateGates py definition runtime
  let runtime ← evaluateMilestones py definition runtime
  let runtime ← observeTasks py definition runtime
  let runtime ← applyFailurePolicy py definition runtime
  let (runtime, eligibility, phases) ← refresh py definition runtime
  let plan ← Program.ofOutcome
    (AutomaticExecutionPlanner.plan py definition runtime eligibility phases)
  pure (runtime, plan)

/-- `automatic_cycle`. -/
def automaticCycle (runtime : ProjectExecutionRuntimeState) :
    Action AutomaticExecutionCycle := do
  if definition.mode ≠ .automatic then
    Action.fail "automatic cycles require Project Execution mode=automatic"
  else do
    let (runtime, plan) ← prepareCycle py definition runtime
    let suffix ← Action.hex
    let cycleId := "automatic-" ++ suffix
    let _ ← Action.append "project_automatic_cycle_started"
      [("cycle_id", .string cycleId), ("planned_tasks", stringArray plan.taskIds)]
    let (runtime, started, failures) ←
      startUnlessHeld cycleId plan.taskIds runtime
    let runtime ← evaluateGates py definition runtime
    let runtime ← evaluateMilestones py definition runtime
    let runtime ← observeTasks py definition runtime
    let (runtime, _, _) ← refresh py definition runtime
    let completedAt ← Action.now
    let executor := runtime.executor.set "automatic" (.object
      [("last_cycle_id", .string cycleId), ("last_cycle_at", .string completedAt),
        ("started_tasks", stringArray started),
        ("start_failures", .array (failures.map Json.object)),
        ("plan", .object plan.asMapping)])
    let runtime := { runtime with
      executor := executor.set "last_reconciled_at" (.string completedAt) }
    let _ ← Action.save runtime
    let _ ← Action.append "project_automatic_cycle_completed"
      [("cycle_id", .string cycleId), ("started_tasks", stringArray started),
        ("failure_count", .int failures.length)]
    pure ⟨started, failures, plan⟩

/-- `decide_gate`. -/
def decideGate (gateId actor decision reason : String)
    (runtime : ProjectExecutionRuntimeState) : Action Unit := do
  let runtime ← syncDefinition py definition runtime
  let runtime ← evaluateGates py definition runtime
  match definition.findGate gateId with
  | none => Action.fail ("Gate " ++ py.repr gateId ++ " is not defined")
  | some gate => do
      let runtime ←
        GateEvaluationService.decide py gateId runtime actor decision reason
      let runtime ← GateEvaluationService.evaluate py gate runtime
      Action.save runtime

/-- `waive_gate`. -/
def waiveGate (gateId actor reason : String)
    (runtime : ProjectExecutionRuntimeState) : Action Unit := do
  let runtime ← syncDefinition py definition runtime
  let runtime ← evaluateGates py definition runtime
  if gateId ∉ definition.gateIds then
    Action.fail ("Gate " ++ py.repr gateId ++ " is not defined")
  else do
    let runtime ← GateEvaluationService.waive py gateId runtime actor reason
    Action.save runtime

/-- `pause`. -/
def pause (reason : String) (runtime : ProjectExecutionRuntimeState) :
    Action Unit := do
  let holdReason :=
    if stripString reason = "" then "operator hold" else stripString reason
  let _ ← Action.save { runtime with held := true, holdReason := holdReason }
  Action.append "project_execution_paused" [("reason", .string holdReason)]

/-- `resume`. -/
def resume (runtime : ProjectExecutionRuntimeState) : Action Unit := do
  let _ ← Action.save { runtime with held := false, holdReason := "" }
  Action.append "project_execution_started" [("mode", .string runtime.mode)]

end ProjectExecutionEngine

/-- A call of one of the engine's operations. -/
inductive Operation where
  | reconcile
  | startTask (taskId : String) (retryUncertain : Bool)
  | automaticCycle
  | decideGate (gateId actor decision reason : String)
  | waiveGate (gateId actor reason : String)
  | pause (reason : String)
  | resume

/-- The operation as a program, with the definition and the runtime state that
it loads. -/
def Operation.program (py : Python) (definition : ProjectExecutionDefinition)
    (runtime : ProjectExecutionRuntimeState) : Operation → Action Unit
  | .reconcile => do
      let _ ← ProjectExecutionEngine.reconcile py definition runtime
      pure ()
  | .startTask taskId retryUncertain => do
      let _ ← ProjectExecutionEngine.startTask py definition taskId retryUncertain
        runtime
      pure ()
  | .automaticCycle => do
      let _ ← ProjectExecutionEngine.automaticCycle py definition runtime
      pure ()
  | .decideGate gateId actor decision reason =>
      ProjectExecutionEngine.decideGate py definition gateId actor decision reason
        runtime
  | .waiveGate gateId actor reason =>
      ProjectExecutionEngine.waiveGate py definition gateId actor reason runtime
  | .pause reason => ProjectExecutionEngine.pause reason runtime
  | .resume => ProjectExecutionEngine.resume runtime

end Execraft.ProjectExecution
