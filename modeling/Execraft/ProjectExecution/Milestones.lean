import Execraft.ProjectExecution.Gates

/-!
# Milestones

The requirements of a Milestone, its immutable baseline, and the service that
records its first achievement.
-/

namespace Execraft.ProjectExecution

open Foundation Foundation.Json

/-! ## Baselines -/

structure BaselineIssue where
  kind : String
  message : String
  subjectId : String

structure BaselineBuildResult where
  complete : Bool
  baseline : Row
  issues : List BaselineIssue

namespace ProjectBaselineBuilder

/-- `_task_issues`. -/
def taskIssues (milestone : ProjectMilestone) (evidence : TaskEvidence) :
    List BaselineIssue :=
  let taskId := evidence.taskId
  (if evidence.outcome ≠ .completed then
    [⟨"task_not_completed",
      "Task " ++ taskId ++ " is " ++ evidence.outcome.value, taskId⟩] else []) ++
  (if evidence.taskDigest = "" then
    [⟨"missing_task_digest",
      "Task " ++ taskId ++ " has no TASK.yaml digest", taskId⟩] else []) ++
  (if evidence.planDigest = "" then
    [⟨"missing_plan_digest",
      "Task " ++ taskId ++ " has no PLAN.graph.yaml digest", taskId⟩] else []) ++
  if milestone.deliveryPolicy = .candidate ∧ evidence.repositoryRevisions = [] then
    [⟨"missing_repository_revision",
      "Task " ++ taskId ++ " has no reproducible repository revision", taskId⟩]
  else []

/-- `_task_row`. -/
def taskRow (evidence : TaskEvidence) : Row :=
  [("outcome", .string evidence.outcome.value),
    ("task_digest", .string evidence.taskDigest),
    ("plan_digest", .string evidence.planDigest),
    ("verification", .object
      [("outcome", .string evidence.verification.outcome),
        ("passed", .int evidence.verification.passed),
        ("failed", .int evidence.verification.failed),
        ("total", .int evidence.verification.total)])]

/-- What the loop over the required Tasks collects. -/
structure Collected where
  issues : List BaselineIssue
  taskRows : Row
  repositories : List (String × String)
  artifacts : List String

/-- `_merge_repositories` for one repository. -/
def mergeRepository (collected : Collected) (revision : String × String) :
    Collected :=
  let prior := (getEntry revision.1 collected.repositories).getD ""
  { collected with
    issues := collected.issues ++
      if prior ≠ "" ∧ prior ≠ revision.2 then
        [⟨"repository_revision_conflict",
          "repository " ++ revision.1 ++ " has conflicting revisions " ++ prior ++
            " and " ++ revision.2, revision.1⟩]
      else []
    repositories := setEntry revision.1 revision.2 collected.repositories }

def collectTask (milestone : ProjectMilestone) (collected : Collected)
    (taskId : String) : Action Collected := do
  let evidence ← Action.evidence taskId
  let withTask := { collected with
    issues := collected.issues ++ taskIssues milestone evidence
    taskRows := collected.taskRows.set taskId (.object (taskRow evidence)) }
  let merged := evidence.repositoryRevisions.foldl mergeRepository withTask
  pure { merged with artifacts := merged.artifacts ++ evidence.artifacts }

/-- The row of a required Gate and the issue of a missing fingerprint. -/
def collectGate (py : Python) (runtime : ProjectExecutionRuntimeState)
    (rows : Row × List BaselineIssue) (gateId : String) :
    Row × List BaselineIssue :=
  let row := runtime.gateRow gateId
  let fingerprint := py.text (row.get "input_fingerprint" (.string ""))
  (rows.1.set gateId (.object
      [("state", row.get "state" (.string "waiting")),
        ("evaluation_revision", row.get "evaluation_revision" (.int 0)),
        ("input_fingerprint", .string fingerprint)]),
    rows.2 ++
      if fingerprint = "" then
        [⟨"missing_gate_fingerprint",
          "Gate " ++ gateId ++ " has no evidence fingerprint", gateId⟩]
      else [])

def build (py : Python) (milestone : ProjectMilestone)
    (definition : ProjectExecutionDefinition)
    (runtime : ProjectExecutionRuntimeState) : Action BaselineBuildResult := do
  let collected ← milestone.requires.tasks.foldlM (collectTask milestone)
    ⟨[], [], [], []⟩
  let (gateRows, issues) := milestone.requires.gates.foldl
    (collectGate py runtime) ([], collected.issues)
  let achievedAt ← Action.now
  let baseline : Row :=
    [("achieved_at", .string achievedAt),
      ("definition_revision", .int definition.revision),
      ("tasks", .object collected.taskRows), ("gates", .object gateRows),
      ("repositories", .object (collected.repositories.map fun repository =>
        (repository.1, .string repository.2))),
      ("artifacts", stringArray collected.artifacts.dedup.mergeSort),
      ("delivery", .object
        [("policy", .string milestone.deliveryPolicy.value)])]
  pure ⟨issues.isEmpty, baseline, issues⟩

end ProjectBaselineBuilder

/-! ## Achievement -/

inductive MilestoneState where
  | pending
  | achieved
  | cancelled
  deriving DecidableEq, Repr

structure MilestoneProjection where
  state : MilestoneState
  missing : List String

/-- `MilestoneRequirementEvaluator.evaluate`. -/
def evaluateMilestone (py : Python) (milestone : ProjectMilestone)
    (runtime : ProjectExecutionRuntimeState) : Action MilestoneProjection := do
  if milestone.id ∈ runtime.cancelledMilestones then pure ⟨.cancelled, []⟩
  else if milestone.id ∈ runtime.milestoneAchievements.keys then
    pure ⟨.achieved, []⟩
  else do
    let missingTasks ← milestone.requires.tasks.foldlM (fun missing taskId => do
      let outcome ← Action.outcome taskId
      pure (if outcome ≠ .completed then missing ++ ["task:" ++ taskId]
        else missing)) []
    let missingGates := milestone.requires.gates.filter fun gateId =>
      !gateSatisfied py runtime gateId
    let missingMilestones := milestone.requires.milestones.filter fun requiredId =>
      requiredId ∉ runtime.milestoneAchievements.keys
    pure ⟨.pending, missingTasks ++ missingGates.map ("gate:" ++ ·) ++
      missingMilestones.map ("milestone:" ++ ·)⟩

/-- `MilestoneAchievementService.achieve_if_ready`. -/
def achieveIfReady (py : Python) (definition : ProjectExecutionDefinition)
    (milestone : ProjectMilestone) (runtime : ProjectExecutionRuntimeState) :
    Action (ProjectExecutionRuntimeState × Option BaselineBuildResult) := do
  if milestone.id ∈ runtime.milestoneAchievements.keys then pure (runtime, none)
  else do
    let projection ← evaluateMilestone py milestone runtime
    if projection.state ≠ .pending ∨ projection.missing ≠ [] then
      pure (runtime, none)
    else do
      let result ← ProjectBaselineBuilder.build py milestone definition runtime
      if !result.complete then pure (runtime, some result)
      else do
        let _ ← Action.append "project_milestone_achieved"
          [("milestone_id", .string milestone.id),
            ("achievement", .object result.baseline)]
        pure ({ runtime with
          milestoneAchievements :=
            runtime.milestoneAchievements.set milestone.id result.baseline },
          some result)

/-- `ProjectExecutionEngine._evaluate_milestones`. -/
def evaluateMilestones (py : Python) (definition : ProjectExecutionDefinition)
    (runtime : ProjectExecutionRuntimeState) :
    Action ProjectExecutionRuntimeState := do
  let order ← Action.check (topologicalOrder (milestoneAdjacency definition)
    "ProjectMilestone dependency graph")
  order.foldlM (fun runtime milestoneId =>
    match definition.findMilestone milestoneId with
    | none => Action.crash (py.repr milestoneId)
    | some milestone => do
        let (runtime, _) ← achieveIfReady py definition milestone runtime
        pure runtime) runtime

end Execraft.ProjectExecution
