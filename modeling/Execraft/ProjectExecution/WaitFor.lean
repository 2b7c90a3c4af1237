import Execraft.Foundation.Graph.Alternation
import Execraft.ProjectExecution.DefinitionRoundTrip

/-!
# Waiting among Tasks and Gates

What each Task and Gate of a definition waits for, as one graph, and when the
separate checks of `validate_definition` exclude a deadlock in it.
-/

namespace Execraft.ProjectExecution

open Foundation Foundation.Graph Relation

/-- A Gate waits for the Gates and Tasks that its criteria name, a Task for its
required Tasks, its required Gates and the entry Gates of its Phase.  Gates are
on the left side. -/
def waitFor (definition : ProjectExecutionDefinition) : Sides String String where
  left gateId reference := ∃ gate ∈ definition.gates,
    gate.id = gateId ∧ reference ∈ gate.gateRefs
  across gateId taskId := ∃ gate ∈ definition.gates,
    gate.id = gateId ∧ taskId ∈ gate.taskRefs
  right taskId predecessor := ∃ task ∈ definition.tasks,
    task.taskId = taskId ∧ predecessor ∈ task.requires.tasks
  back taskId gateId := ∃ task ∈ definition.tasks, task.taskId = taskId ∧
    (gateId ∈ task.requires.gates ∨ ∃ phase ∈ definition.phases,
      phase.id = task.phase ∧ gateId ∈ phase.entryGates)

/-- No Task and no Gate waits for itself; no entry Gate depends on a Task of its
Phase; no Task requires a Gate with evidence from itself or a dependent. -/
structure DeadlockFree (definition : ProjectExecutionDefinition) : Prop where
  acyclic : ∀ asset, ¬ TransGen (waitFor definition).Step asset asset
  entryGates : ∀ phase ∈ definition.phases, ∀ entry ∈ phase.entryGates,
    ∀ gateId, ReflTransGen (waitFor definition).left entry gateId →
      ∀ taskId ∈ phase.tasks, ¬ (waitFor definition).across gateId taskId
  requiredGates : ∀ task ∈ definition.tasks, ∀ required ∈ task.requires.gates,
    ∀ gateId, ReflTransGen (waitFor definition).left required gateId →
      ∀ evidence, (waitFor definition).across gateId evidence →
        ¬ ReflTransGen (waitFor definition).right evidence task.taskId

section Deadlock

variable {py : Python} {definition : ProjectExecutionDefinition}

/-! ## The checked parts -/

theorem waitFor_left_iff (unique : definition.gateIds.Nodup)
    {gateId reference : String} :
    (waitFor definition).left gateId reference ↔
      (gateAdjacency definition).Edge gateId reference := by
  rw [Adjacency.Edge, gateAdjacency_get]
  constructor
  · rintro ⟨gate, member, same, named⟩
    have found := (ProjectExecutionDefinition.findGate_eq_some unique).mpr
      ⟨member, same⟩
    rw [found]
    exact named
  · intro named
    cases found : definition.findGate gateId with
    | none =>
        rw [found] at named
        exact absurd named List.not_mem_nil
    | some gate =>
        rw [found] at named
        obtain ⟨member, same⟩ :=
          (ProjectExecutionDefinition.findGate_eq_some unique).mp found
        exact ⟨gate, member, same, named⟩

theorem waitFor_right_iff (unique : definition.taskIdList.Nodup)
    {taskId predecessor : String} :
    (waitFor definition).right taskId predecessor ↔
      (taskAdjacency definition).Edge taskId predecessor := by
  rw [Adjacency.Edge, taskAdjacency_get]
  constructor
  · rintro ⟨task, member, same, named⟩
    have found := (ProjectExecutionDefinition.findTask_eq_some unique).mpr
      ⟨member, same⟩
    rw [found]
    exact named
  · intro named
    cases found : definition.findTask taskId with
    | none =>
        rw [found] at named
        exact absurd named List.not_mem_nil
    | some task =>
        rw [found] at named
        obtain ⟨member, same⟩ :=
          (ProjectExecutionDefinition.findTask_eq_some unique).mp found
        exact ⟨task, member, same, named⟩

theorem Validated.waitFor_left_acyclic (valid : Validated definition)
    (unique : definition.gateIds.Nodup) (gateId : String) :
    ¬ TransGen (waitFor definition).left gateId gateId := by
  intro cycle
  apply valid.gatesAcyclic gateId
  exact TransGen.mono (fun _ _ => (waitFor_left_iff unique).mp) _ _ cycle

theorem Validated.waitFor_right_acyclic (valid : Validated definition)
    (unique : definition.taskIdList.Nodup) (taskId : String) :
    ¬ TransGen (waitFor definition).right taskId taskId := by
  intro cycle
  apply valid.tasksAcyclic taskId
  exact TransGen.mono (fun _ _ => (waitFor_right_iff unique).mp) _ _ cycle

/-! ## The whole graph -/

/-- An entry Gate that depends on a Task of its Phase waits for itself. -/
theorem entry_crosses (valid : Validated definition) {phase : ProjectPhase}
    (member : phase ∈ definition.phases) {entry gateId taskId : String}
    (listed : entry ∈ phase.entryGates)
    (chain : ReflTransGen (waitFor definition).left entry gateId)
    (inside : taskId ∈ phase.tasks)
    (evidence : (waitFor definition).across gateId taskId) :
    (waitFor definition).Crosses entry entry := by
  obtain ⟨task, present, same, samePhase⟩ :=
    (valid.phaseTasks phase member taskId).mp inside
  exact ⟨gateId, taskId, taskId, chain, evidence, ReflTransGen.refl, task, present,
    same, Or.inr ⟨phase, member, samePhase.symm, listed⟩⟩

/-- So does a Gate required by a Task that its evidence comes from. -/
theorem required_crosses {task : ProjectTask} (member : task ∈ definition.tasks)
    {required gateId evidence : String} (listed : required ∈ task.requires.gates)
    (chain : ReflTransGen (waitFor definition).left required gateId)
    (named : (waitFor definition).across gateId evidence)
    (dependent : ReflTransGen (waitFor definition).right evidence task.taskId) :
    (waitFor definition).Crosses required required :=
  ⟨gateId, evidence, task.taskId, chain, named, dependent, task, member, rfl,
    Or.inl listed⟩

/-- A valid definition is free of deadlocks exactly when no Gate meets itself by
crossings: along Gate references to a Gate, to a Task that its criteria name,
along required Tasks, and to a Gate that this Task requires or that its Phase
has as entry Gate. -/
theorem deadlockFree_iff {taskExists : Option (String → Bool)}
    (unique : definition.UniqueIds)
    (valid : validateDefinition py definition taskExists = .ok ()) :
    DeadlockFree definition ↔
      ∀ gateId, ¬ TransGen (waitFor definition).Crosses gateId gateId := by
  have validated := ((validateDefinition_eq_ok unique.tasks).mp valid).1
  have whole := Sides.acyclic_iff 
    (validated.waitFor_left_acyclic unique.gates)
    (validated.waitFor_right_acyclic unique.tasks)
  constructor
  · intro deadlockFree
    exact whole.mp deadlockFree.acyclic
  · intro uncrossed
    refine ⟨whole.mpr uncrossed, ?_, ?_⟩
    · intro phase member entry listed gateId chain taskId inside evidence
      apply uncrossed entry
      exact TransGen.single
        (entry_crosses validated member listed chain inside evidence)
    · intro task member required listed gateId chain evidence named dependent
      apply uncrossed required
      exact TransGen.single
        (required_crosses member listed chain named dependent)

end Deadlock

/-! ## Instances -/

theorem sample_deadlockFree :
    DeadlockFree ProjectExecutionDefinition.sample := by
  have unique := ProjectExecutionDefinition.sample_constructs.uniqueIds
  have valid : validateDefinition asciiPython ProjectExecutionDefinition.sample
      none = .ok () := by
    decide +kernel
  have noGates : ∀ task ∈ ProjectExecutionDefinition.sample.tasks,
      task.requires.gates = [] := by
    decide
  have noEntries : ∀ phase ∈ ProjectExecutionDefinition.sample.phases,
      phase.entryGates = [] := by
    decide
  apply (deadlockFree_iff unique valid).mpr
  intro gateId cycle
  obtain ⟨landed, crossing, _⟩ := TransGen.head'_iff.mp cycle
  obtain ⟨_, _, _, _, _, _, task, member, _, waits⟩ := crossing
  rcases waits with required | ⟨phase, inside, _, listed⟩
  · rw [noGates task member] at required
    exact absurd required List.not_mem_nil
  · rw [noEntries phase inside] at listed
    exact absurd listed List.not_mem_nil

/-- The Phase `build` waits for its entry Gate, this Gate for another one, and
that Gate for the Task of the Phase, which requires the latter Gate itself. -/
def selfBlocking : ProjectExecutionDefinition where
  project := "demo"
  revision := 1
  mode := .automatic
  phases := [⟨"build", "Build", "", ⟨"", ""⟩, ["entry"], [], ["task-a"], []⟩]
  tasks := [⟨"task-a", "build", true, ⟨[], ["review"]⟩⟩]
  gates := [⟨"entry", "Entry", "", ⟨"", ""⟩,
      [⟨.projectGate, "", "review", "", ""⟩]⟩,
    ⟨"review", "Review", "", ⟨"", ""⟩,
      [⟨.taskCompletion, "task-a", "", "", ""⟩]⟩]
  milestones := []
  policy := ⟨1, 1, 1, .hold⟩
  schemaVersion := 1

theorem selfBlocking_constructs : selfBlocking.Constructs asciiPython where
  phases := by
    intro phase member
    rw [List.mem_singleton.mp member]
    refine ⟨⟨.null, .null, by decide +kernel⟩, .string "build",
      .string "Build", .null, .array [.string "entry"], .null,
      .array [.string "task-a"], .null, ?_⟩
    decide +kernel
  tasks := by
    intro task member
    rw [List.mem_singleton.mp member]
    refine ⟨⟨.null, .array [.string "review"], by decide +kernel⟩,
      .string "task-a", .string "build", .bool true, ?_⟩
    decide +kernel
  gates := by
    intro gate member
    simp only [selfBlocking, List.mem_cons, List.not_mem_nil, or_false] at member
    rcases member with rfl | rfl
    · refine ⟨⟨.null, .null, by decide +kernel⟩, ?_, .string "entry",
        .string "Entry", .null, by decide +kernel⟩
      intro criterion inGate
      rw [List.mem_singleton.mp inGate]
      refine ⟨.string "project_gate", .null, .string "review", .null, .null, ?_⟩
      decide +kernel
    · refine ⟨⟨.null, .null, by decide +kernel⟩, ?_, .string "review",
        .string "Review", .null, by decide +kernel⟩
      intro criterion inGate
      rw [List.mem_singleton.mp inGate]
      refine ⟨.string "task_completion", .string "task-a", .null, .null, .null, ?_⟩
      decide +kernel
  milestones := by
    intro milestone member
    exact absurd member List.not_mem_nil
  policy := ⟨.int 1, .int 1, .int 1, .string "hold", by decide +kernel⟩
  constructed := ⟨.string "demo", .int 1, .string "automatic", by decide +kernel⟩

/-- It is accepted, and fails in each of the three ways. -/
theorem selfBlocking_accepted :
    selfBlocking.Constructs asciiPython ∧
      validateDefinition asciiPython selfBlocking none = .ok () ∧
      TransGen (waitFor selfBlocking).Step (.inl "review") (.inl "review") ∧
      (waitFor selfBlocking).left "entry" "review" ∧
      (waitFor selfBlocking).across "review" "task-a" ∧
      ¬ DeadlockFree selfBlocking := by
  have evidence : (waitFor selfBlocking).across "review" "task-a" :=
    ⟨selfBlocking.gates[1], by decide, by decide, by decide⟩
  have chain : (waitFor selfBlocking).left "entry" "review" :=
    ⟨selfBlocking.gates[0], by decide, by decide, by decide⟩
  have requires : (waitFor selfBlocking).back "task-a" "review" :=
    ⟨selfBlocking.tasks[0], by decide, by decide, Or.inl (by decide)⟩
  have cycle : TransGen (waitFor selfBlocking).Step (.inl "review")
      (.inl "review") :=
    TransGen.tail (TransGen.single (Sides.Step.across evidence))
      (Sides.Step.back requires)
  refine ⟨selfBlocking_constructs, by decide +kernel, cycle, chain, evidence, ?_⟩
  intro deadlockFree
  exact deadlockFree.acyclic _ cycle

end Execraft.ProjectExecution
