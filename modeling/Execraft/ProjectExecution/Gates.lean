import Execraft.Foundation.Json.Text
import Execraft.Foundation.Text.Bytes
import Execraft.ProjectExecution.TaskPort
import Execraft.ProjectExecution.Validation

/-!
# Gate evaluation

The criterion evaluators and `GateEvaluationService`: conjunctive criteria, a
fingerprint of the automatic evidence, and decisions and waivers bound to it.
-/

namespace Execraft.ProjectExecution

open Foundation Foundation.Json Foundation.Text

/-- `canonical_fingerprint`. -/
def canonicalFingerprint (py : Python) (value : Json) : String :=
  "sha256:" ++ py.sha256 (encodeUtf8 (encode (sortKeys value)))

/-- Is there a dictionary under `name` that carries this fingerprint? -/
def boundTo (row : Row) (name fingerprint : String) : Bool :=
  match subRow row name with
  | some fields => Row.get fields "input_fingerprint" .null = .string fingerprint
  | none => false

/-! ## Criteria -/

structure CriterionResult where
  satisfied : Bool
  evidence : Row
  reason : String
  awaitingDecision : Bool

section Evaluators

variable (py : Python)

/-- `TaskCompletionEvaluator.evaluate` on the outcome it reads. -/
def taskCompletionResult (criterion : GateCriterion) (outcome : TaskOutcome) :
    CriterionResult :=
  let satisfied := outcome = .completed
  { satisfied := satisfied
    evidence := [("task_id", .string criterion.taskId),
      ("outcome", .string outcome.value)]
    reason :=
      if satisfied then ""
      else "Task " ++ criterion.taskId ++ " outcome is " ++ outcome.value
    awaitingDecision := false }

/-- `TaskVerificationEvaluator.evaluate` on the evidence it reads. -/
def taskVerificationResult (criterion : GateCriterion) (evidence : TaskEvidence) :
    CriterionResult :=
  let actual := evidence.verification.outcome
  let expected := if criterion.outcome = "" then "passed" else criterion.outcome
  let satisfied := actual = expected
  { satisfied := satisfied
    evidence := [("task_id", .string criterion.taskId),
      ("verification", .object [("outcome", .string actual),
        ("passed", .int evidence.verification.passed),
        ("failed", .int evidence.verification.failed),
        ("total", .int evidence.verification.total)])]
    reason :=
      if satisfied then ""
      else "Task " ++ criterion.taskId ++ " verification is " ++ actual ++
        ", expected " ++ expected
    awaitingDecision := false }

/-- `TaskArtifactEvaluator.evaluate` on the evidence it reads. -/
def taskArtifactResult (criterion : GateCriterion) (evidence : TaskEvidence) :
    CriterionResult :=
  let present := criterion.artifactId ∈ evidence.artifacts
  { satisfied := present
    evidence := [("task_id", .string criterion.taskId),
      ("artifact_id", .string criterion.artifactId),
      ("artifacts", stringArray evidence.artifacts)]
    reason :=
      if present then ""
      else "Task " ++ criterion.taskId ++ " has not produced artifact " ++
        criterion.artifactId
    awaitingDecision := false }

/-- `ProjectGateReferenceEvaluator._satisfied`. -/
def referenceSatisfied (row : Row) (state current : String) : Bool :=
  if current = "" then false
  else if state = GateState.waived.value then boundTo row "waiver" current
  else if state ≠ GateState.passed.value then false
  else boundTo row "evaluation" current

/-- `ProjectGateReferenceEvaluator.evaluate`. -/
def gateReferenceResult (criterion : GateCriterion)
    (runtime : ProjectExecutionRuntimeState) : CriterionResult :=
  let row := runtime.gateRow criterion.gateId
  let state := py.text (row.get "state" (.string GateState.waiting.value))
  let current := py.text (row.get "input_fingerprint" (.string ""))
  let satisfied := referenceSatisfied row state current
  { satisfied := satisfied
    evidence := [("gate_id", .string criterion.gateId), ("state", .string state),
      ("evaluation_revision", row.get "evaluation_revision" (.int 0)),
      ("input_fingerprint", .string current)]
    reason :=
      if satisfied then ""
      else "Gate " ++ criterion.gateId ++ " is not currently satisfied"
    awaitingDecision := false }

/-- The decisions of a row that are bound to a fingerprint. -/
def matchingDecisions (decisions : List Json) (fingerprint : String) : List Row :=
  decisions.filterMap fun
    | .object decision =>
        if Row.get decision "input_fingerprint" .null = .string fingerprint then
          some decision
        else none
    | _ => none

/-- `HumanApprovalEvaluator.evaluate` on the decisions of the Gate's row. -/
def humanApprovalResult (decisions : List Json) (fingerprint : String) :
    CriterionResult :=
  let latest : Row := (matchingDecisions decisions fingerprint).getLast?.getD []
  let decision := py.text (latest.get "decision" (.string ""))
  let evidence : Row :=
    [("decision", .string (if decision = "" then "pending" else decision)),
      ("actor", latest.get "actor" (.string "")),
      ("input_fingerprint", .string fingerprint)]
  if decision = "approved" then ⟨true, evidence, "", false⟩
  else if decision = "rejected" then
    ⟨false, evidence, "human approval rejected", false⟩
  else ⟨false, evidence, "human approval required", true⟩

/-- The evaluators of the criteria that need no human decision. -/
def evaluateCriterion (criterion : GateCriterion)
    (runtime : ProjectExecutionRuntimeState) : Action CriterionResult :=
  match criterion.type with
  | .taskCompletion => do
      let outcome ← Action.outcome criterion.taskId
      pure (taskCompletionResult criterion outcome)
  | .taskVerification => do
      let evidence ← Action.evidence criterion.taskId
      pure (taskVerificationResult criterion evidence)
  | .taskArtifact => do
      let evidence ← Action.evidence criterion.taskId
      pure (taskArtifactResult criterion evidence)
  | .projectGate => pure (gateReferenceResult py criterion runtime)
  | .humanApproval => Action.crash "not an automatic criterion"

end Evaluators

/-! ## The service -/

namespace ProjectGate

/-- The criteria that need no human decision. -/
def automaticCriteria (gate : ProjectGate) : List GateCriterion :=
  gate.criteria.filter fun criterion => criterion.type ≠ .humanApproval

def humanCriterion (gate : ProjectGate) : Option GateCriterion :=
  gate.criteria.find? fun criterion => criterion.type = .humanApproval

/-- The fingerprint of the criteria with the results of the automatic ones. -/
def fingerprint (py : Python) (gate : ProjectGate)
    (results : List CriterionResult) : String :=
  canonicalFingerprint py (.object
    [("gate_id", .string gate.id),
      ("criteria", .array
        (gate.criteria.map fun criterion => .object criterion.asMapping)),
      ("automatic_evidence", .array
        ((gate.automaticCriteria.zip results).map fun row =>
          .object [("criterion", .object row.1.asMapping),
            ("evidence", .object row.2.evidence)]))])

end ProjectGate

namespace GateEvaluationService

variable (py : Python)

/-- `_automatic_evidence`. -/
def automaticEvidence (gate : ProjectGate) (runtime : ProjectExecutionRuntimeState) :
    Action (List CriterionResult × String) := do
  let results ← gate.automaticCriteria.foldlM (fun results criterion => do
    let result ← evaluateCriterion py criterion runtime
    pure (results ++ [result])) []
  pure (results, gate.fingerprint py results)

/-- Is the stored evaluation the same already? -/
def unchangedEvaluation (row : Row) (state : GateState) (fingerprint : String)
    (evidence reasons : Json) : Bool :=
  let previous := (subRow row "evaluation").getD []
  Row.get row "state" .null = .string state.value ∧
    Row.get previous "input_fingerprint" .null = .string fingerprint ∧
    py.equals (Row.get previous "evidence" .null) evidence ∧
    py.equals (Row.get previous "reasons" .null) reasons

/-- `_store_evaluation`: the row and whether it changed. -/
def storeEvaluation (row : Row) (state : GateState) (fingerprint : String)
    (results : List CriterionResult) (reasons : List String) :
    Action (Row × Bool) :=
  let evidence : Json := .array (results.map fun result => .object result.evidence)
  if unchangedEvaluation py row state fingerprint evidence (stringArray reasons) then
    pure (row, false)
  else
    match py.toInt (row.get "evaluation_revision" (.int 0)) with
    | none => Action.crash "evaluation_revision is not an integer"
    | some stored => do
        let evaluatedAt ← Action.now
        let row := row.set "evaluation_revision" (.int (stored + 1))
        let row := row.set "state" (.string state.value)
        pure (row.set "evaluation" (.object
          [("revision", .int (stored + 1)), ("outcome", .string state.value),
            ("evaluated_at", .string evaluatedAt),
            ("input_fingerprint", .string fingerprint), ("evidence", evidence),
            ("reasons", stringArray reasons)]), true)

/-- The row of a Gate that has none. -/
def waitingRow : Row :=
  [("state", .string GateState.waiting.value), ("evaluation_revision", .int 0),
    ("decisions", .array [])]

/-- `evaluation_revision` in the payload of a `project_gate_passed` event. -/
def revisionEntry (row : Row) : Row :=
  [("evaluation_revision", row.get "evaluation_revision" .null)]

/-- What `evaluate` does with the row of a Gate that is not cancelled. -/
def evaluateRow (gate : ProjectGate) (row : Row)
    (runtime : ProjectExecutionRuntimeState) : Action Row := do
  let (results, fingerprint) ← automaticEvidence py gate runtime
  let row := row.set "input_fingerprint" (.string fingerprint)
  let payload : Row := [("gate_id", .string gate.id),
    ("input_fingerprint", .string fingerprint)]
  if boundTo row "waiver" fingerprint then
    pure (row.set "state" (.string GateState.waived.value))
  else if results.any fun result => !result.satisfied then do
    let reasons := (results.filter fun result =>
      !result.satisfied && result.reason ≠ "").map CriterionResult.reason
    let (row, changed) ←
      storeEvaluation py row .failed fingerprint results reasons
    Action.appendIf changed "project_gate_failed"
      (payload ++ [("reasons", stringArray reasons)])
    pure row
  else
    match gate.humanCriterion with
    | none => do
        let (row, changed) ← storeEvaluation py row .passed fingerprint results []
        Action.appendIf changed "project_gate_passed"
          (payload ++ revisionEntry row)
        pure row
    | some _ =>
        match iterate (row.get "decisions" (.array [])) with
        | none => Action.crash "the decisions of a Gate cannot be iterated"
        | some decisions => do
            let human := humanApprovalResult py decisions fingerprint
            let state : GateState :=
              if human.awaitingDecision then .awaitingDecision
              else if human.satisfied then .passed else .failed
            let eventType :=
              if human.awaitingDecision then "project_gate_decision_required"
              else if human.satisfied then "project_gate_passed"
              else "project_gate_failed"
            let reasons := if human.reason ≠ "" then [human.reason] else []
            let (row, changed) ← storeEvaluation py row state fingerprint
              (results ++ [human]) reasons
            Action.appendIf changed eventType (payload ++
              (if reasons ≠ [] then [("reasons", stringArray reasons)] else []) ++
              if state = .passed then revisionEntry row else [])
            pure row

/-- `runtime.gates.setdefault(gate.id, ...)`. -/
def withRow (runtime : ProjectExecutionRuntimeState) (gateId : String) :
    ProjectExecutionRuntimeState :=
  { runtime with gates := runtime.gates.setDefault gateId waitingRow }

/-- `GateEvaluationService.evaluate`. -/
def evaluate (gate : ProjectGate) (runtime : ProjectExecutionRuntimeState) :
    Action ProjectExecutionRuntimeState :=
  let runtime := withRow runtime gate.id
  let row := runtime.gateRow gate.id
  if gate.id ∈ runtime.cancelledGates then
    pure (runtime.setGate gate.id
      (row.set "state" (.string GateState.cancelled.value)))
  else do
    let row ← evaluateRow py gate row runtime
    pure (runtime.setGate gate.id row)

end GateEvaluationService

/-- `ProjectExecutionEngine._evaluate_gates`. -/
def evaluateGates (py : Python) (definition : ProjectExecutionDefinition)
    (runtime : ProjectExecutionRuntimeState) :
    Action ProjectExecutionRuntimeState := do
  let order ← Action.check
    (topologicalOrder (gateAdjacency definition) "ProjectGate dependency graph")
  order.foldlM (fun runtime gateId =>
    match definition.findGate gateId with
    | none => Action.crash (py.repr gateId)
    | some gate => GateEvaluationService.evaluate py gate runtime) runtime

/-! ## Authorization -/

/-- `gate_satisfied` on the row that it looks up. -/
def rowSatisfied (py : Python) (row : Row) : Bool :=
  let state := py.text (row.get "state" (.string ""))
  let current := py.text (row.get "input_fingerprint" (.string ""))
  if current = "" then false
  else if state = GateState.waived.value then boundTo row "waiver" current
  else
    match subRow row "evaluation" with
    | none => false
    | some evaluation => state = GateState.passed.value ∧
        Row.get evaluation "input_fingerprint" .null = .string current

/-- `gate_satisfied`. -/
def gateSatisfied (py : Python) (runtime : ProjectExecutionRuntimeState)
    (gateId : String) : Bool :=
  rowSatisfied py (runtime.gateRow gateId)

end Execraft.ProjectExecution
