import Execraft.Foundation.Keyed
import Execraft.ProjectExecution.Policy

/-!
# Project Execution value objects

The records of a definition: Phases, Tasks, Gates and Milestones, their
constructors with all checks, and their mapping forms.
-/

namespace Execraft.ProjectExecution

open Foundation Foundation.Json

/-- `raw.items()` of a value that has to be a mapping. -/
def mappingOr (message : String) : Json → Outcome (List (String × Json))
  | .object fields => .ok fields
  | _ => raise message

/-- The mapping reader of an optional value: absent and empty text stand for
the defaults. -/
def optionalMapping {α : Type} (default : Outcome α) (message : String)
    (read : List (String × Json) → Outcome α) : Json → Outcome α
  | .null => default
  | .object fields => read fields
  | raw => if raw = .string "" then default else raise message

/-! ## Schedules -/

structure ProjectSchedule where
  start : String
  target : String
  deriving DecidableEq, Repr

namespace ProjectSchedule

def new (py : Python) (start target : Json) : Outcome ProjectSchedule := do
  let start ← isoDate py "schedule start" start
  let target ← isoDate py "schedule target" target
  raiseIf (start ≠ "" ∧ target ≠ "" ∧ target < start)
    "schedule start cannot be after target"
  .ok ⟨start, target⟩

def asMapping (schedule : ProjectSchedule) : List (String × Json) :=
  (if schedule.start ≠ "" then [("start", .string schedule.start)] else []) ++
    if schedule.target ≠ "" then [("target", .string schedule.target)] else []

def fromMapping (py : Python) : Json → Outcome ProjectSchedule :=
  optionalMapping (new py (.string "") (.string "")) "schedule must be a mapping"
    fun fields =>
      new py (getField "start" (.string "") fields)
        (getField "target" (.string "") fields)

end ProjectSchedule

/-- `row["description"] = ...` and `row["schedule"] = ...`, when present. -/
def optionalRows (description : String) (schedule : List (String × Json)) :
    List (String × Json) :=
  (if description ≠ "" then [("description", .string description)] else []) ++
    if schedule ≠ [] then [("schedule", .object schedule)] else []

/-! ## Phases -/

structure ProjectPhase where
  id : String
  title : String
  description : String
  schedule : ProjectSchedule
  entryGates : List String
  exitGates : List String
  tasks : List String
  milestones : List String
  deriving DecidableEq, Repr

namespace ProjectPhase

def new (py : Python) (id title description : Json) (schedule : ProjectSchedule)
    (entryGates exitGates tasks milestones : Json) : Outcome ProjectPhase := do
  let id ← validateAssetId py "phase id" id
  let title ← boundedText py "phase title" true MAX_TITLE_LENGTH title
  let description ←
    boundedText py "phase description" false MAX_TEXT_LENGTH description
  let entryGates ← assetIds py "phase entry_gates" entryGates
  let exitGates ← assetIds py "phase exit_gates" exitGates
  let tasks ← taskIds py "phase tasks" tasks
  let milestones ← assetIds py "phase milestones" milestones
  .ok ⟨id, title, description, schedule, entryGates, exitGates, tasks,
    milestones⟩

def asMapping (phase : ProjectPhase) : List (String × Json) :=
  [("id", .string phase.id), ("title", .string phase.title),
    ("entry_gates", stringArray phase.entryGates),
    ("exit_gates", stringArray phase.exitGates),
    ("tasks", stringArray phase.tasks),
    ("milestones", stringArray phase.milestones)] ++
    optionalRows phase.description phase.schedule.asMapping

def fromMapping (py : Python) (raw : Json) : Outcome ProjectPhase := do
  let fields ← mappingOr "each phase must be a mapping" raw
  let schedule ← ProjectSchedule.fromMapping py (getField "schedule" .null fields)
  let entryGates ←
    assetIds py "phase entry_gates" (getField "entry_gates" .null fields)
  let exitGates ←
    assetIds py "phase exit_gates" (getField "exit_gates" .null fields)
  let tasks ← taskIds py "phase tasks" (getField "tasks" .null fields)
  let milestones ←
    assetIds py "phase milestones" (getField "milestones" .null fields)
  new py (getField "id" (.string "") fields)
    (getField "title" (.string "") fields)
    (getField "description" (.string "") fields) schedule
    (stringArray entryGates) (stringArray exitGates) (stringArray tasks)
    (stringArray milestones)

end ProjectPhase

/-! ## Tasks -/

structure TaskRequirements where
  tasks : List String
  gates : List String
  deriving DecidableEq, Repr

namespace TaskRequirements

def new (py : Python) (tasks gates : Json) : Outcome TaskRequirements := do
  let tasks ← taskIds py "task prerequisites" tasks
  let gates ← assetIds py "task gate prerequisites" gates
  .ok ⟨tasks, gates⟩

def asMapping (requirements : TaskRequirements) : List (String × Json) :=
  [("tasks", stringArray requirements.tasks),
    ("gates", stringArray requirements.gates)]

def fromMapping (py : Python) : Json → Outcome TaskRequirements :=
  optionalMapping (new py (.array []) (.array []))
    "task requires must be a mapping" fun fields => do
      let unknown := unknownNames ["tasks", "gates"] fields
      raiseIf (unknown ≠ []) ("unsupported task prerequisite kind(s): " ++
        ", ".intercalate unknown)
      let tasks ← taskIds py "task prerequisites" (getField "tasks" .null fields)
      let gates ←
        assetIds py "task gate prerequisites" (getField "gates" .null fields)
      new py (stringArray tasks) (stringArray gates)

end TaskRequirements

structure ProjectTask where
  taskId : String
  phase : String
  required : Bool
  requires : TaskRequirements
  deriving DecidableEq, Repr

/-- `isinstance(value, bool)`. -/
def booleanOr (message : String) : Json → Outcome Bool
  | .bool value => .ok value
  | _ => raise message

namespace ProjectTask

def new (py : Python) (taskId phase required : Json)
    (requires : TaskRequirements) : Outcome ProjectTask := do
  let taskId ← validateTaskReference py taskId
  let phase ← validateAssetId py "task phase" phase
  let required ← booleanOr "task required must be a boolean" required
  .ok ⟨taskId, phase, required, requires⟩

def asMapping (task : ProjectTask) : List (String × Json) :=
  [("phase", .string task.phase), ("required", .bool task.required),
    ("requires", .object task.requires.asMapping)]

def fromMapping (py : Python) (taskId : String) (raw : Json) :
    Outcome ProjectTask := do
  let fields ← mappingOr
    ("project task " ++ py.repr taskId ++ " must be a mapping") raw
  let requires ← TaskRequirements.fromMapping py (getField "requires" .null fields)
  new py (.string taskId) (getField "phase" (.string "") fields)
    (getField "required" (.bool true) fields) requires

end ProjectTask

/-! ## Gates -/

inductive CriterionType where
  | taskCompletion
  | taskVerification
  | taskArtifact
  | projectGate
  | humanApproval
  deriving DecidableEq, Repr

namespace CriterionType

def value : CriterionType → String
  | taskCompletion => "task_completion"
  | taskVerification => "task_verification"
  | taskArtifact => "task_artifact"
  | projectGate => "project_gate"
  | humanApproval => "human_approval"

def ofValue (text : String) : Option CriterionType :=
  [taskCompletion, taskVerification, taskArtifact, projectGate,
    humanApproval].find? fun criterion => text = criterion.value

theorem ofValue_value (criterion : CriterionType) :
    ofValue criterion.value = some criterion := by
  cases criterion <;> decide

/-- The criterion types that name a Task. -/
def requiresTask : CriterionType → Bool
  | taskCompletion | taskVerification | taskArtifact => true
  | projectGate | humanApproval => false

end CriterionType

structure GateCriterion where
  type : CriterionType
  taskId : String
  gateId : String
  outcome : String
  artifactId : String
  deriving DecidableEq, Repr

namespace GateCriterion

/-- `criterion 'type' ...`, the front of the messages about one criterion. -/
def complaint (py : Python) (criterion : CriterionType) (rest : String) : String :=
  "criterion " ++ py.repr criterion.value ++ rest

/-- `check(value) if value else ""`. -/
def optionalReference (check : Json → Outcome String) (value : Json) :
    Outcome String :=
  if truthy value then check value else .ok ""

def new (py : Python) (type taskId gateId outcome artifactId : Json) :
    Outcome GateCriterion :=
  let typeText := py.lowerString (py.textOr type)
  match CriterionType.ofValue typeText with
  | none => raise ("unknown project gate evaluator type: " ++ py.repr typeText)
  | some criterion => do
      let taskId ← optionalReference (validateTaskReference py) taskId
      let gateId ←
        optionalReference (validateAssetId py "criterion gate id") gateId
      let outcome := py.lowerString (py.textOr outcome)
      let artifactId ← boundedText py "artifact id" false 500 artifactId
      raiseIf (criterion.requiresTask ≠ decide (taskId ≠ ""))
        (complaint py criterion " has invalid task_id")
      raiseIf (decide (criterion = .projectGate) ≠ decide (gateId ≠ ""))
        (complaint py criterion " has invalid gate_id")
      raiseIf (criterion ≠ .taskVerification ∧ outcome ≠ "")
        (complaint py criterion " cannot define outcome")
      raiseIf (criterion = .taskArtifact ∧ artifactId = "")
        "task_artifact criterion requires artifact_id"
      raiseIf (criterion ≠ .taskArtifact ∧ artifactId ≠ "")
        (complaint py criterion " cannot define artifact_id")
      .ok ⟨criterion, taskId, gateId,
        if criterion = .taskVerification ∧ outcome = "" then "passed" else outcome,
        artifactId⟩

/-- A member that the writer omits when its text is empty. -/
def textRow (name text : String) : List (String × Json) :=
  if text ≠ "" then [(name, .string text)] else []

def asMapping (criterion : GateCriterion) : List (String × Json) :=
  [("type", .string criterion.type.value)] ++
    (textRow "task_id" criterion.taskId ++ (textRow "gate_id" criterion.gateId ++
      (textRow "outcome" criterion.outcome ++
        textRow "artifact_id" criterion.artifactId)))

def fromMapping (py : Python) (raw : Json) : Outcome GateCriterion := do
  let fields ← mappingOr "each gate criterion must be a mapping" raw
  let unknown := unknownNames
    ["type", "task_id", "gate_id", "outcome", "artifact_id"] fields
  raiseIf (unknown ≠ [])
    ("unknown gate criterion fields: " ++ ", ".intercalate unknown)
  new py (getField "type" (.string "") fields)
    (getField "task_id" (.string "") fields)
    (getField "gate_id" (.string "") fields)
    (getField "outcome" (.string "") fields)
    (getField "artifact_id" (.string "") fields)

end GateCriterion

structure ProjectGate where
  id : String
  title : String
  description : String
  schedule : ProjectSchedule
  criteria : List GateCriterion
  deriving DecidableEq, Repr

namespace ProjectGate

def new (py : Python) (id title description : Json) (schedule : ProjectSchedule)
    (criteria : List GateCriterion) : Outcome ProjectGate := do
  let id ← validateAssetId py "gate id" id
  let title ← boundedText py "gate title" true MAX_TITLE_LENGTH title
  let description ←
    boundedText py "gate description" false MAX_TEXT_LENGTH description
  raiseIf (criteria = [])
    ("gate " ++ py.repr id ++ " must define at least one criterion")
  raiseIf (1 < criteria.countP fun criterion => criterion.type = .humanApproval)
    ("gate " ++ py.repr id ++
      " may contain at most one human approval criterion")
  .ok ⟨id, title, description, schedule, criteria⟩

def asMapping (gate : ProjectGate) : List (String × Json) :=
  [("id", .string gate.id), ("title", .string gate.title),
    ("criteria", .object [("all", .array
      (gate.criteria.map fun criterion => .object criterion.asMapping))])] ++
    optionalRows gate.description gate.schedule.asMapping

/-- The list of criteria, directly or under `all`. -/
def criteriaRows (raw : Json) : Outcome (List Json) := do
  match raw with
  | .object fields =>
      raiseIf (unknownNames ["all"] fields ≠ [])
        "ProjectGate schema v1 supports only criteria.all"
      sequence "gate criteria" (getField "all" .null fields)
  | raw => sequence "gate criteria" raw

def fromMapping (py : Python) (raw : Json) : Outcome ProjectGate := do
  let fields ← mappingOr "each gate must be a mapping" raw
  let rows ← criteriaRows (getField "criteria" .null fields)
  let criteria ← rows.mapM (GateCriterion.fromMapping py)
  let schedule ← ProjectSchedule.fromMapping py (getField "schedule" .null fields)
  new py (getField "id" (.string "") fields)
    (getField "title" (.string "") fields)
    (getField "description" (.string "") fields) schedule criteria

end ProjectGate

/-! ## Milestones -/

inductive DeliveryPolicy where
  | none
  | candidate
  deriving DecidableEq, Repr

namespace DeliveryPolicy

def value : DeliveryPolicy → String
  | none => "none"
  | candidate => "candidate"

def ofValue (raw : Json) : Option DeliveryPolicy :=
  [none, candidate].find? fun policy => raw = .string policy.value

theorem ofValue_value (policy : DeliveryPolicy) :
    ofValue (.string policy.value) = some policy := by
  cases policy <;> decide

end DeliveryPolicy

structure MilestoneRequirements where
  tasks : List String
  gates : List String
  milestones : List String
  deriving DecidableEq, Repr

namespace MilestoneRequirements

def new (py : Python) (tasks gates milestones : Json) :
    Outcome MilestoneRequirements := do
  let tasks ← taskIds py "milestone tasks" tasks
  let gates ← assetIds py "milestone gates" gates
  let milestones ← assetIds py "milestone prerequisites" milestones
  .ok ⟨tasks, gates, milestones⟩

def asMapping (requirements : MilestoneRequirements) : List (String × Json) :=
  [("tasks", stringArray requirements.tasks),
    ("gates", stringArray requirements.gates),
    ("milestones", stringArray requirements.milestones)]

def fromMapping (py : Python) : Json → Outcome MilestoneRequirements :=
  optionalMapping (new py (.array []) (.array []) (.array []))
    "milestone requires must be a mapping" fun fields => do
      let unknown := unknownNames ["tasks", "gates", "milestones"] fields
      raiseIf (unknown ≠ []) ("unsupported milestone prerequisite kind(s): " ++
        ", ".intercalate unknown)
      let tasks ← taskIds py "milestone tasks" (getField "tasks" .null fields)
      let gates ← assetIds py "milestone gates" (getField "gates" .null fields)
      let milestones ← assetIds py "milestone prerequisites"
        (getField "milestones" .null fields)
      new py (stringArray tasks) (stringArray gates) (stringArray milestones)

end MilestoneRequirements

structure ProjectMilestone where
  id : String
  title : String
  description : String
  start : String
  target : String
  requires : MilestoneRequirements
  deliveryPolicy : DeliveryPolicy
  deriving DecidableEq, Repr

namespace ProjectMilestone

def new (py : Python) (id title description start target : Json)
    (requires : MilestoneRequirements) (deliveryPolicy : Json) :
    Outcome ProjectMilestone := do
  let id ← validateAssetId py "milestone id" id
  let title ← boundedText py "milestone title" true MAX_TITLE_LENGTH title
  let description ←
    boundedText py "milestone description" false MAX_TEXT_LENGTH description
  let start ← isoDate py "milestone start" start
  let target ← isoDate py "milestone target" target
  raiseIf (start ≠ "" ∧ target ≠ "" ∧ target < start)
    "milestone start cannot be after target"
  match DeliveryPolicy.ofValue deliveryPolicy with
  | some policy =>
      .ok ⟨id, title, description, start, target, requires, policy⟩
  | none => raise "delivery.policy must be none or candidate"

/-- The start date moves into a schedule of its own; the target stays a member
of the milestone. -/
def asMapping (milestone : ProjectMilestone) : List (String × Json) :=
  [("id", .string milestone.id), ("title", .string milestone.title),
    ("requires", .object milestone.requires.asMapping),
    ("delivery", .object
      [("policy", .string milestone.deliveryPolicy.value)])] ++
    (optionalRows milestone.description
        (if milestone.start ≠ "" then [("start", .string milestone.start)]
          else []) ++
      if milestone.target ≠ "" then [("target", .string milestone.target)]
      else [])

/-- `raw.get("delivery") or {}`. -/
def deliveryFields (raw : Json) : Outcome (List (String × Json)) :=
  if truthy raw then mappingOr "milestone delivery must be a mapping" raw
  else .ok []

def fromMapping (py : Python) (raw : Json) : Outcome ProjectMilestone := do
  let fields ← mappingOr "each milestone must be a mapping" raw
  let delivery ← deliveryFields (getField "delivery" .null fields)
  let schedule ← ProjectSchedule.fromMapping py (getField "schedule" .null fields)
  let requires ←
    MilestoneRequirements.fromMapping py (getField "requires" .null fields)
  new py (getField "id" (.string "") fields)
    (getField "title" (.string "") fields)
    (getField "description" (.string "") fields) (.string schedule.start)
    (getField "target" (.string schedule.target) fields) requires
    (getField "policy" (.string "none") delivery)

end ProjectMilestone

/-! ## Definitions -/

inductive ExecutionMode where
  | observe
  | assisted
  | automatic
  deriving DecidableEq, Repr

namespace ExecutionMode

def value : ExecutionMode → String
  | observe => "observe"
  | assisted => "assisted"
  | automatic => "automatic"

def ofValue (raw : Json) : Option ExecutionMode :=
  [observe, assisted, automatic].find? fun mode => raw = .string mode.value

theorem ofValue_value (mode : ExecutionMode) :
    ofValue (.string mode.value) = some mode := by
  cases mode <;> decide

end ExecutionMode

def PROJECT_EXECUTION_SCHEMA_VERSION : Int := 1

structure ProjectExecutionDefinition where
  project : String
  revision : Int
  mode : ExecutionMode
  phases : List ProjectPhase
  tasks : List ProjectTask
  gates : List ProjectGate
  milestones : List ProjectMilestone
  policy : ProjectExecutionPolicy
  schemaVersion : Int
  deriving DecidableEq, Repr

namespace ProjectExecutionDefinition

variable (definition : ProjectExecutionDefinition)

def phaseIds : List String := definition.phases.map ProjectPhase.id
def taskIdList : List String := definition.tasks.map ProjectTask.taskId
def gateIds : List String := definition.gates.map ProjectGate.id
def milestoneIds : List String := definition.milestones.map ProjectMilestone.id

/-- `_validate_unique_ids`. -/
def validateUniqueIds : Outcome Unit := do
  raiseIf (¬ definition.phaseIds.Nodup) "duplicate phase IDs"
  raiseIf (¬ definition.gateIds.Nodup) "duplicate gate IDs"
  raiseIf (¬ definition.milestoneIds.Nodup) "duplicate milestone IDs"
  raiseIf (¬ definition.taskIdList.Nodup) "duplicate project task IDs"
  raiseIf
    (¬ (definition.phaseIds ++ (definition.gateIds ++
      definition.milestoneIds)).Nodup)
    "Phase, Gate, and Milestone IDs must be globally unique"

def new (py : Python) (project revision mode : Json)
    (phases : List ProjectPhase) (tasks : List ProjectTask)
    (gates : List ProjectGate) (milestones : List ProjectMilestone)
    (policy : ProjectExecutionPolicy) (schemaVersion : Int) :
    Outcome ProjectExecutionDefinition := do
  raiseIf (schemaVersion ≠ PROJECT_EXECUTION_SCHEMA_VERSION)
    ("unsupported Project Execution schema_version: " ++ toString schemaVersion)
  let project ← validateProjectId py project
  match py.toInt revision with
  | none => raise "Project Execution revision must be an integer"
  | some revision => do
      raiseIf (revision < 1) "Project Execution revision must be at least 1"
      match ExecutionMode.ofValue mode with
      | none => raise "mode must be observe, assisted, or automatic"
      | some mode => do
          let definition := ⟨project, revision, mode, phases, tasks, gates,
            milestones, policy, schemaVersion⟩
          validateUniqueIds definition
          .ok definition

/-- `sorted(self.tasks, key=lambda item: item.task_id)`. -/
def sortedTasks (tasks : List ProjectTask) : List ProjectTask :=
  tasks.mergeSort fun left right => left.taskId ≤ right.taskId

def asMapping : List (String × Json) :=
  [("schema_version", .int definition.schemaVersion),
    ("project", .string definition.project),
    ("revision", .int definition.revision),
    ("mode", .string definition.mode.value),
    ("policy", .object definition.policy.asMapping),
    ("phases", .array
      (definition.phases.map fun phase => .object phase.asMapping)),
    ("tasks", .object ((sortedTasks definition.tasks).map fun task =>
      (task.taskId, .object task.asMapping))),
    ("gates", .array (definition.gates.map fun gate => .object gate.asMapping)),
    ("milestones", .array (definition.milestones.map fun milestone =>
      .object milestone.asMapping))]

/-! ### Unique identifiers -/

/-- What `_validate_unique_ids` establishes. -/
structure UniqueIds : Prop where
  phases : definition.phaseIds.Nodup
  gates : definition.gateIds.Nodup
  milestones : definition.milestoneIds.Nodup
  tasks : definition.taskIdList.Nodup
  assets : (definition.phaseIds ++ (definition.gateIds ++
    definition.milestoneIds)).Nodup

/-! ### Index lookups -/

def findTask (taskId : String) : Option ProjectTask :=
  definition.tasks.find? fun task => task.taskId = taskId

def findPhase (phaseId : String) : Option ProjectPhase :=
  definition.phases.find? fun phase => phase.id = phaseId

def findGate (gateId : String) : Option ProjectGate :=
  definition.gates.find? fun gate => gate.id = gateId

def findMilestone (milestoneId : String) : Option ProjectMilestone :=
  definition.milestones.find? fun milestone => milestone.id = milestoneId

variable {definition}

theorem validateUniqueIds_eq_ok {result : Unit} :
    validateUniqueIds definition = .ok result ↔ definition.UniqueIds := by
  simp only [validateUniqueIds, unit_bind_eq_ok, raiseIf_eq_ok, not_not]
  constructor
  · rintro ⟨phases, gates, milestones, tasks, assets⟩
    exact ⟨phases, gates, milestones, tasks, assets⟩
  · intro unique
    exact ⟨unique.phases, unique.gates, unique.milestones, unique.tasks,
      unique.assets⟩

theorem findTask_eq_some (unique : definition.taskIdList.Nodup)
    {taskId : String} {task : ProjectTask} :
    definition.findTask taskId = some task ↔
      task ∈ definition.tasks ∧ task.taskId = taskId :=
  find?_key_eq_some unique

theorem findGate_eq_some (unique : definition.gateIds.Nodup)
    {gateId : String} {gate : ProjectGate} :
    definition.findGate gateId = some gate ↔
      gate ∈ definition.gates ∧ gate.id = gateId :=
  find?_key_eq_some unique

theorem findMilestone_eq_some (unique : definition.milestoneIds.Nodup)
    {milestoneId : String} {milestone : ProjectMilestone} :
    definition.findMilestone milestoneId = some milestone ↔
      milestone ∈ definition.milestones ∧ milestone.id = milestoneId :=
  find?_key_eq_some unique

end ProjectExecutionDefinition

end Execraft.ProjectExecution
