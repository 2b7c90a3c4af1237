import Execraft.ProjectExecution.Graph
import Execraft.ProjectExecution.Models

/-!
# Cross-object validation

`validate_definition` and the reader of whole definitions that ends with it.
The checks pass exactly on the definitions that `Validated` describes.
-/

namespace Execraft.ProjectExecution

open Foundation Foundation.Json

section Checks

variable (py : Python) (definition : ProjectExecutionDefinition)

/-- `_validate_tasks`. -/
def validateTasks (taskExists : Option (String → Bool)) : Outcome Unit :=
  forM definition.tasks fun task => do
    raiseIf (task.phase ∉ definition.phaseIds)
      ("task " ++ py.repr task.taskId ++ " references missing phase " ++
        py.repr task.phase)
    raiseIf (taskExists.any fun known => !known task.taskId)
      ("missing canonical Task reference: " ++ task.taskId)
    forM task.requires.tasks fun predecessor => do
      raiseIf (predecessor ∉ definition.taskIdList)
        ("task " ++ py.repr task.taskId ++
          " references missing prerequisite Task " ++ py.repr predecessor)
      raiseIf (predecessor = task.taskId)
        ("task " ++ py.repr task.taskId ++ " cannot require itself")
    forM task.requires.gates fun gateId =>
      raiseIf (gateId ∉ definition.gateIds)
        ("task " ++ py.repr task.taskId ++ " references missing Gate " ++
          py.repr gateId)

/-- The Tasks that name the Phase as theirs. -/
def canonicalMembers (phase : ProjectPhase) : List String :=
  (definition.tasks.filter fun task => task.phase = phase.id).map
    ProjectTask.taskId

/-- `_validate_phases`. -/
def validatePhases : Outcome Unit :=
  forM definition.phases fun phase => do
    forM phase.tasks fun taskId => do
      raiseIf (taskId ∉ definition.taskIdList)
        ("phase " ++ py.repr phase.id ++ " references missing Task " ++
          py.repr taskId)
      raiseIf ((definition.findTask taskId).any fun task =>
          task.phase ≠ phase.id)
        ("Task " ++ py.repr taskId ++
          " Phase ownership disagrees with phase " ++ py.repr phase.id)
    raiseIf (¬ ((∀ taskId ∈ canonicalMembers definition phase,
          taskId ∈ phase.tasks) ∧
        ∀ taskId ∈ phase.tasks, taskId ∈ canonicalMembers definition phase))
      ("phase " ++ py.repr phase.id ++
        " task membership must exactly match canonical task Phase ownership")
    forM (phase.entryGates ++ phase.exitGates) fun gateId =>
      raiseIf (gateId ∉ definition.gateIds)
        ("phase " ++ py.repr phase.id ++ " references missing Gate " ++
          py.repr gateId)
    forM phase.milestones fun milestoneId =>
      raiseIf (milestoneId ∉ definition.milestoneIds)
        ("phase " ++ py.repr phase.id ++ " references missing Milestone " ++
          py.repr milestoneId)

/-- `_validate_gates`. -/
def validateGates : Outcome Unit :=
  forM definition.gates fun gate =>
    forM gate.criteria fun criterion => do
      raiseIf (criterion.taskId ≠ "" ∧
          criterion.taskId ∉ definition.taskIdList)
        ("Gate " ++ py.repr gate.id ++ " references missing Task " ++
          py.repr criterion.taskId)
      if criterion.gateId = "" then .ok ()
      else do
        raiseIf (criterion.gateId ∉ definition.gateIds)
          ("Gate " ++ py.repr gate.id ++ " references missing Gate " ++
            py.repr criterion.gateId)
        raiseIf (criterion.gateId = gate.id)
          ("Gate " ++ py.repr gate.id ++ " cannot reference itself")

/-- The Tasks that the criteria of a Gate name. -/
def ProjectGate.taskRefs (gate : ProjectGate) : List String :=
  (gate.criteria.map GateCriterion.taskId).filter (· ≠ "")

/-- The Gates that the criteria of a Gate name. -/
def ProjectGate.gateRefs (gate : ProjectGate) : List String :=
  (gate.criteria.map GateCriterion.gateId).filter (· ≠ "")

/-- `_validate_phase_entry_boundaries`.  The Gate is there, since
`_validate_phases` has passed. -/
def validatePhaseEntryBoundaries : Outcome Unit :=
  forM definition.phases fun phase =>
    forM phase.entryGates fun gateId =>
      let referenced := ((definition.findGate gateId).map
        ProjectGate.taskRefs).getD []
      let overlap := (phase.tasks.filter (· ∈ referenced)).dedup.mergeSort
      raiseIf (overlap ≠ [])
        ("phase " ++ py.repr phase.id ++ " entry Gate " ++ py.repr gateId ++
          " depends on contained Task(s): " ++ ", ".intercalate overlap)

/-- `_validate_milestones`. -/
def validateMilestones : Outcome Unit :=
  forM definition.milestones fun milestone => do
    forM milestone.requires.tasks fun taskId =>
      raiseIf (taskId ∉ definition.taskIdList)
        ("Milestone " ++ py.repr milestone.id ++ " references missing Task " ++
          py.repr taskId)
    forM milestone.requires.gates fun gateId =>
      raiseIf (gateId ∉ definition.gateIds)
        ("Milestone " ++ py.repr milestone.id ++ " references missing Gate " ++
          py.repr gateId)
    forM milestone.requires.milestones fun prerequisite => do
      raiseIf (prerequisite ∉ definition.milestoneIds)
        ("Milestone " ++ py.repr milestone.id ++
          " references missing Milestone " ++ py.repr prerequisite)
      raiseIf (prerequisite = milestone.id)
        ("Milestone " ++ py.repr milestone.id ++ " cannot require itself")

def taskAdjacency : Adjacency :=
  definition.tasks.map fun task => (task.taskId, task.requires.tasks)

def gateAdjacency : Adjacency :=
  definition.gates.map fun gate => (gate.id, gate.gateRefs)

def milestoneAdjacency : Adjacency :=
  definition.milestones.map fun milestone =>
    (milestone.id, milestone.requires.milestones)

/-- `_validate_dependency_cycles`. -/
def validateDependencyCycles : Outcome Unit := do
  assertAcyclic (taskAdjacency definition) "Task dependency graph"
  assertAcyclic (gateAdjacency definition) "Gate dependency graph"
  assertAcyclic (milestoneAdjacency definition) "Milestone dependency graph"

def validateDefinition (taskExists : Option (String → Bool)) : Outcome Unit := do
  validateTasks py definition taskExists
  validatePhases py definition
  validateGates py definition
  validatePhaseEntryBoundaries py definition
  validateMilestones py definition
  validateDependencyCycles definition

end Checks

/-! ## Reading a definition -/

namespace ProjectExecutionDefinition

/-- `raw.get("tasks") or {}`. -/
def taskFields (raw : Json) : Outcome (List (String × Json)) :=
  if truthy raw then
    mappingOr "tasks must be a mapping keyed by canonical task ID" raw
  else .ok []

def fromMapping (py : Python) (raw : Json) :
    Outcome ProjectExecutionDefinition := do
  let fields ← mappingOr "PROJECT_EXECUTION.yaml must contain a mapping" raw
  let phaseRows ← sequence "phases" (getField "phases" .null fields)
  let phases ← phaseRows.mapM (ProjectPhase.fromMapping py)
  let gateRows ← sequence "gates" (getField "gates" .null fields)
  let gates ← gateRows.mapM (ProjectGate.fromMapping py)
  let milestoneRows ← sequence "milestones" (getField "milestones" .null fields)
  let milestones ← milestoneRows.mapM (ProjectMilestone.fromMapping py)
  let taskRows ← taskFields (getField "tasks" .null fields)
  let tasks ← taskRows.mapM fun row => ProjectTask.fromMapping py row.1 row.2
  match py.toInt (getField "schema_version" (.int 0) fields) with
  | none => raise "Project Execution schema_version must be an integer"
  | some schemaVersion => do
      let policy ←
        ProjectExecutionPolicy.fromMapping (getField "policy" .null fields)
      let definition ← new py (getField "project" (.string "") fields)
        (getField "revision" (.int 1) fields)
        (getField "mode" (.string "assisted") fields) phases tasks gates
        milestones policy schemaVersion
      validateDefinition py definition none
      .ok definition

end ProjectExecutionDefinition

/-! ## What the checks establish -/

/-- The definitions that pass all checks. -/
structure Validated (definition : ProjectExecutionDefinition) : Prop where
  taskPhases : ∀ task ∈ definition.tasks, task.phase ∈ definition.phaseIds
  taskTasks : ∀ task ∈ definition.tasks, ∀ predecessor ∈ task.requires.tasks,
    predecessor ∈ definition.taskIdList ∧ predecessor ≠ task.taskId
  taskGates : ∀ task ∈ definition.tasks, ∀ gateId ∈ task.requires.gates,
    gateId ∈ definition.gateIds
  phaseTasks : ∀ phase ∈ definition.phases, ∀ taskId,
    taskId ∈ phase.tasks ↔
      ∃ task ∈ definition.tasks, task.taskId = taskId ∧ task.phase = phase.id
  phaseGates : ∀ phase ∈ definition.phases,
    ∀ gateId ∈ phase.entryGates ++ phase.exitGates, gateId ∈ definition.gateIds
  phaseMilestones : ∀ phase ∈ definition.phases,
    ∀ milestoneId ∈ phase.milestones, milestoneId ∈ definition.milestoneIds
  gateTasks : ∀ gate ∈ definition.gates, ∀ taskId ∈ gate.taskRefs,
    taskId ∈ definition.taskIdList
  gateGates : ∀ gate ∈ definition.gates, ∀ gateId ∈ gate.gateRefs,
    gateId ∈ definition.gateIds ∧ gateId ≠ gate.id
  entryBoundaries : ∀ phase ∈ definition.phases,
    ∀ gateId ∈ phase.entryGates, ∀ gate, definition.findGate gateId = some gate →
      ∀ taskId ∈ gate.taskRefs, taskId ∉ phase.tasks
  milestoneTasks : ∀ milestone ∈ definition.milestones,
    ∀ taskId ∈ milestone.requires.tasks, taskId ∈ definition.taskIdList
  milestoneGates : ∀ milestone ∈ definition.milestones,
    ∀ gateId ∈ milestone.requires.gates, gateId ∈ definition.gateIds
  milestoneMilestones : ∀ milestone ∈ definition.milestones,
    ∀ prerequisite ∈ milestone.requires.milestones,
      prerequisite ∈ definition.milestoneIds ∧ prerequisite ≠ milestone.id
  tasksAcyclic : (taskAdjacency definition).Acyclic
  gatesAcyclic : (gateAdjacency definition).Acyclic
  milestonesAcyclic : (milestoneAdjacency definition).Acyclic

section Spec

variable {py : Python} {definition : ProjectExecutionDefinition}

theorem ProjectGate.mem_taskRefs {gate : ProjectGate} {taskId : String} :
    taskId ∈ gate.taskRefs ↔
      taskId ≠ "" ∧ ∃ criterion ∈ gate.criteria, criterion.taskId = taskId := by
  simp [ProjectGate.taskRefs, and_comm]

theorem ProjectGate.mem_gateRefs {gate : ProjectGate} {gateId : String} :
    gateId ∈ gate.gateRefs ↔
      gateId ≠ "" ∧ ∃ criterion ∈ gate.criteria, criterion.gateId = gateId := by
  simp [ProjectGate.gateRefs, and_comm]

theorem mem_canonicalMembers {phase : ProjectPhase} {taskId : String} :
    taskId ∈ canonicalMembers definition phase ↔
      ∃ task ∈ definition.tasks, task.taskId = taskId ∧ task.phase = phase.id := by
  simp [canonicalMembers, and_comm, and_assoc]

theorem validateTasks_eq_ok {taskExists : Option (String → Bool)}
    {result : Unit} :
    validateTasks py definition taskExists = .ok result ↔
      ∀ task ∈ definition.tasks, task.phase ∈ definition.phaseIds ∧
        (∀ known ∈ taskExists, known task.taskId = true) ∧
        (∀ predecessor ∈ task.requires.tasks,
          predecessor ∈ definition.taskIdList ∧ predecessor ≠ task.taskId) ∧
        ∀ gateId ∈ task.requires.gates, gateId ∈ definition.gateIds := by
  cases taskExists with
  | none => simp [validateTasks, forM_eq_ok, unit_bind_eq_ok]
  | some known => simp [validateTasks, forM_eq_ok, unit_bind_eq_ok]

theorem validatePhases_eq_ok {result : Unit}
    (unique : definition.taskIdList.Nodup) :
    validatePhases py definition = .ok result ↔
      ∀ phase ∈ definition.phases,
        (∀ taskId, taskId ∈ phase.tasks ↔ ∃ task ∈ definition.tasks,
          task.taskId = taskId ∧ task.phase = phase.id) ∧
        (∀ gateId ∈ phase.entryGates ++ phase.exitGates,
          gateId ∈ definition.gateIds) ∧
        ∀ milestoneId ∈ phase.milestones,
          milestoneId ∈ definition.milestoneIds := by
  simp only [validatePhases, forM_eq_ok, unit_bind_eq_ok, raiseIf_eq_ok,
    not_not, mem_canonicalMembers]
  refine forall₂_congr fun phase _ => ?_
  constructor
  · rintro ⟨_, ⟨canonical, owned⟩, gates, milestones⟩
    exact ⟨fun taskId => ⟨owned taskId, canonical taskId⟩, gates, milestones⟩
  · rintro ⟨members, gates, milestones⟩
    refine ⟨?_, ⟨fun taskId => (members taskId).mpr,
      fun taskId => (members taskId).mp⟩, gates, milestones⟩
    intro taskId member
    obtain ⟨task, present, rfl, samePhase⟩ := (members taskId).mp member
    have found := (ProjectExecutionDefinition.findTask_eq_some unique).mpr
      ⟨present, rfl⟩
    refine ⟨List.mem_map_of_mem present, ?_⟩
    simp [found, samePhase]

theorem validateGates_eq_ok {result : Unit} :
    validateGates py definition = .ok result ↔
      ∀ gate ∈ definition.gates,
        (∀ taskId ∈ gate.taskRefs, taskId ∈ definition.taskIdList) ∧
        ∀ gateId ∈ gate.gateRefs,
          gateId ∈ definition.gateIds ∧ gateId ≠ gate.id := by
  simp only [validateGates, forM_eq_ok, unit_bind_eq_ok, raiseIf_eq_ok,
    ProjectGate.mem_taskRefs, ProjectGate.mem_gateRefs]
  refine forall₂_congr fun gate _ => ?_
  constructor
  · intro passes
    constructor
    · rintro taskId ⟨named, criterion, member, rfl⟩
      by_contra missing
      exact (passes criterion member).1 ⟨named, missing⟩
    · rintro gateId ⟨named, criterion, member, rfl⟩
      have checked := (passes criterion member).2
      rw [if_neg named, unit_bind_eq_ok, raiseIf_eq_ok, raiseIf_eq_ok,
        not_not] at checked
      exact checked
  · rintro ⟨tasks, gates⟩ criterion member
    constructor
    · rintro ⟨named, missing⟩
      exact missing (tasks _ ⟨named, criterion, member, rfl⟩)
    · by_cases unnamed : criterion.gateId = ""
      · rw [if_pos unnamed]
      · rw [if_neg unnamed, unit_bind_eq_ok, raiseIf_eq_ok, raiseIf_eq_ok,
          not_not]
        exact gates _ ⟨unnamed, criterion, member, rfl⟩

theorem validatePhaseEntryBoundaries_eq_ok {result : Unit} :
    validatePhaseEntryBoundaries py definition = .ok result ↔
      ∀ phase ∈ definition.phases, ∀ gateId ∈ phase.entryGates, ∀ gate,
        definition.findGate gateId = some gate →
          ∀ taskId ∈ gate.taskRefs, taskId ∉ phase.tasks := by
  simp only [validatePhaseEntryBoundaries, forM_eq_ok, raiseIf_eq_ok, not_not]
  refine forall₂_congr fun phase _ => forall₂_congr fun gateId _ => ?_
  have emptied : ∀ names : List String, names.dedup.mergeSort = [] ↔ names = [] := by
    intro names
    rw [← List.length_eq_zero_iff, List.length_mergeSort,
      List.length_eq_zero_iff, List.dedup_eq_nil]
  rw [emptied]
  cases found : definition.findGate gateId with
  | none => simp
  | some gate =>
      simp only [Option.map_some, Option.getD_some, List.filter_eq_nil_iff,
        decide_eq_true_eq, Option.some.injEq, forall_eq']
      constructor
      · intro apart taskId referenced contained
        exact apart taskId contained referenced
      · intro apart taskId contained referenced
        exact apart taskId referenced contained

theorem validateMilestones_eq_ok {result : Unit} :
    validateMilestones py definition = .ok result ↔
      ∀ milestone ∈ definition.milestones,
        (∀ taskId ∈ milestone.requires.tasks,
          taskId ∈ definition.taskIdList) ∧
        (∀ gateId ∈ milestone.requires.gates, gateId ∈ definition.gateIds) ∧
        ∀ prerequisite ∈ milestone.requires.milestones,
          prerequisite ∈ definition.milestoneIds ∧
            prerequisite ≠ milestone.id := by
  simp [validateMilestones, forM_eq_ok, unit_bind_eq_ok]

theorem validateDependencyCycles_eq_ok {result : Unit} :
    validateDependencyCycles definition = .ok result ↔
      (taskAdjacency definition).Acyclic ∧ (gateAdjacency definition).Acyclic ∧
        (milestoneAdjacency definition).Acyclic := by
  simp [validateDependencyCycles, unit_bind_eq_ok]

theorem validateDefinition_eq_ok {taskExists : Option (String → Bool)}
    {result : Unit} (unique : definition.taskIdList.Nodup) :
    validateDefinition py definition taskExists = .ok result ↔
      Validated definition ∧ ∀ task ∈ definition.tasks,
        ∀ known ∈ taskExists, known task.taskId = true := by
  simp only [validateDefinition, unit_bind_eq_ok, validateTasks_eq_ok,
    validatePhases_eq_ok unique, validateGates_eq_ok,
    validatePhaseEntryBoundaries_eq_ok, validateMilestones_eq_ok,
    validateDependencyCycles_eq_ok]
  constructor
  · rintro ⟨tasks, phases, gates, boundaries, milestones, taskCycles, gateCycles,
      milestoneCycles⟩
    refine ⟨?_, fun task member => (tasks task member).2.1⟩
    exact
      { taskPhases := fun task member => (tasks task member).1
        taskTasks := fun task member => (tasks task member).2.2.1
        taskGates := fun task member => (tasks task member).2.2.2
        phaseTasks := fun phase member => (phases phase member).1
        phaseGates := fun phase member => (phases phase member).2.1
        phaseMilestones := fun phase member => (phases phase member).2.2
        gateTasks := fun gate member => (gates gate member).1
        gateGates := fun gate member => (gates gate member).2
        entryBoundaries := boundaries
        milestoneTasks := fun milestone member => (milestones milestone member).1
        milestoneGates := fun milestone member =>
          (milestones milestone member).2.1
        milestoneMilestones := fun milestone member =>
          (milestones milestone member).2.2
        tasksAcyclic := taskCycles
        gatesAcyclic := gateCycles
        milestonesAcyclic := milestoneCycles }
  · rintro ⟨valid, exist⟩
    exact ⟨fun task member => ⟨valid.taskPhases task member, exist task member,
        valid.taskTasks task member, valid.taskGates task member⟩,
      fun phase member => ⟨valid.phaseTasks phase member,
        valid.phaseGates phase member, valid.phaseMilestones phase member⟩,
      fun gate member => ⟨valid.gateTasks gate member,
        valid.gateGates gate member⟩,
      valid.entryBoundaries,
      fun milestone member => ⟨valid.milestoneTasks milestone member,
        valid.milestoneGates milestone member,
        valid.milestoneMilestones milestone member⟩,
      valid.tasksAcyclic, valid.gatesAcyclic, valid.milestonesAcyclic⟩

/-- Task lookup follows the adjacency of the Tasks. -/
theorem taskAdjacency_get (taskId : String) :
    (taskAdjacency definition).get taskId =
      ((definition.findTask taskId).map fun task => task.requires.tasks).getD [] := by
  rw [Adjacency.get, taskAdjacency, lookup_map_key]
  rfl

theorem gateAdjacency_get (gateId : String) :
    (gateAdjacency definition).get gateId =
      ((definition.findGate gateId).map ProjectGate.gateRefs).getD [] := by
  rw [Adjacency.get, gateAdjacency, lookup_map_key]
  rfl

theorem milestoneAdjacency_get (milestoneId : String) :
    (milestoneAdjacency definition).get milestoneId =
      ((definition.findMilestone milestoneId).map
        fun milestone => milestone.requires.milestones).getD [] := by
  rw [Adjacency.get, milestoneAdjacency, lookup_map_key]
  rfl

/-- Validity does not depend on the order of the Tasks. -/
theorem Validated.perm (valid : Validated definition)
    (unique : definition.taskIdList.Nodup) {tasks : List ProjectTask}
    (same : definition.tasks.Perm tasks) :
    Validated { definition with tasks := tasks } := by
  have sameIds : ∀ taskId, taskId ∈ definition.taskIdList ↔
      taskId ∈ ({ definition with tasks := tasks } :
        ProjectExecutionDefinition).taskIdList :=
    fun taskId => (same.map ProjectTask.taskId).mem_iff
  have sameMember : ∀ task, task ∈ tasks → task ∈ definition.tasks :=
    fun task => same.mem_iff.mpr
  have sameGet : (taskAdjacency { definition with tasks := tasks }).get =
      (taskAdjacency definition).get := by
    funext taskId
    rw [taskAdjacency_get, taskAdjacency_get]
    have found := find?_key_perm unique same taskId
    simp only [ProjectExecutionDefinition.findTask] at found ⊢
    rw [found]
  exact
    { taskPhases := fun task member =>
        valid.taskPhases task (sameMember task member)
      taskTasks := fun task member predecessor required =>
        (valid.taskTasks task (sameMember task member) predecessor required).imp
          (sameIds predecessor).mp id
      taskGates := fun task member =>
        valid.taskGates task (sameMember task member)
      phaseTasks := by
        intro phase member taskId
        rw [valid.phaseTasks phase member taskId]
        simp only [same.mem_iff]
      phaseGates := valid.phaseGates
      phaseMilestones := valid.phaseMilestones
      gateTasks := fun gate member taskId referenced =>
        (sameIds taskId).mp (valid.gateTasks gate member taskId referenced)
      gateGates := valid.gateGates
      entryBoundaries := valid.entryBoundaries
      milestoneTasks := fun milestone member taskId required =>
        (sameIds taskId).mp
          (valid.milestoneTasks milestone member taskId required)
      milestoneGates := valid.milestoneGates
      milestoneMilestones := valid.milestoneMilestones
      tasksAcyclic := by
        unfold Adjacency.Acyclic Adjacency.Edge
        rw [sameGet]
        exact valid.tasksAcyclic
      gatesAcyclic := valid.gatesAcyclic
      milestonesAcyclic := valid.milestonesAcyclic }

end Spec

end Execraft.ProjectExecution
