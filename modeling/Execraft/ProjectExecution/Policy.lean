import Execraft.ProjectExecution.Values

/-!
# The execution policy

`ProjectExecutionPolicy`: the concurrency limits of Automatic mode and its
behavior after a Task failure.
-/

namespace Execraft.ProjectExecution

open Foundation Foundation.Json

inductive TaskFailureBehavior where
  | stopNew
  | hold
  | continue
  deriving DecidableEq, Repr

namespace TaskFailureBehavior

def value : TaskFailureBehavior → String
  | stopNew => "stop_new"
  | hold => "hold"
  | .continue => "continue"

def ofValue (raw : Json) : Option TaskFailureBehavior :=
  [stopNew, hold, .continue].find? fun behavior => raw = .string behavior.value

theorem ofValue_value (behavior : TaskFailureBehavior) :
    ofValue (.string behavior.value) = some behavior := by
  cases behavior <;> decide

end TaskFailureBehavior

structure ProjectExecutionPolicy where
  maximumParallelTasks : Nat
  maximumParallelTasksPerPhase : Nat
  maximumActivePhases : Nat
  taskFailureBehavior : TaskFailureBehavior
  deriving DecidableEq, Repr

namespace ProjectExecutionPolicy

/-- `_bounded_integer`. -/
def boundedInteger (label : String) : Json → Outcome Nat
  | .int value =>
      if 1 ≤ value ∧ value ≤ 128 then .ok value.toNat
      else raise (label ++ " must be an integer from 1 to 128")
  | _ => raise (label ++ " must be an integer from 1 to 128")

/-- The constructor. -/
def new (maximumParallelTasks maximumParallelTasksPerPhase
    maximumActivePhases taskFailureBehavior : Json) :
    Outcome ProjectExecutionPolicy := do
  let tasks ← boundedInteger "maximum_parallel_tasks" maximumParallelTasks
  let perPhase ← boundedInteger "maximum_parallel_tasks_per_phase"
    maximumParallelTasksPerPhase
  let phases ← boundedInteger "maximum_active_phases" maximumActivePhases
  match TaskFailureBehavior.ofValue taskFailureBehavior with
  | some behavior => .ok ⟨tasks, perPhase, phases, behavior⟩
  | none =>
      raise "task_failure_behavior must be stop_new, hold, or continue"

/-- The defaults of the constructor. -/
def default : ProjectExecutionPolicy := ⟨1, 1, 1, .stopNew⟩

def asMapping (policy : ProjectExecutionPolicy) : List (String × Json) :=
  [("maximum_parallel_tasks", .int policy.maximumParallelTasks),
    ("maximum_parallel_tasks_per_phase",
      .int policy.maximumParallelTasksPerPhase),
    ("maximum_active_phases", .int policy.maximumActivePhases),
    ("task_failure_behavior", .string policy.taskFailureBehavior.value)]

/-- `_failure_behavior`: the canonical field, or the flag of older files. -/
def failureBehavior (fields : List (String × Json)) : Outcome Json := do
  let behavior := getField "task_failure_behavior" .null fields
  let legacyStop := getField "stop_on_task_failure" .null fields
  let legacyBehavior : Bool → TaskFailureBehavior := fun stop =>
    if stop then .stopNew else .continue
  match legacyStop with
  | .null =>
      if behavior = .null then .ok (.string TaskFailureBehavior.stopNew.value)
      else .ok behavior
  | .bool stop =>
      if behavior = .null then .ok (.string (legacyBehavior stop).value)
      else if behavior ≠ .string (legacyBehavior stop).value then
        raise ("task_failure_behavior conflicts with legacy " ++
          "stop_on_task_failure")
      else .ok behavior
  | _ => raise "stop_on_task_failure must be a boolean"

def allowedFields : List String :=
  ["maximum_parallel_tasks", "maximum_parallel_tasks_per_phase",
    "maximum_active_phases", "task_failure_behavior", "stop_on_task_failure"]

def fromMapping : Json → Outcome ProjectExecutionPolicy
  | .null => .ok default
  | .object fields => do
      let unknown := unknownNames allowedFields fields
      if unknown ≠ [] then
        raise ("unsupported Project Execution policy field(s): " ++
          ", ".intercalate unknown)
      else
        let behavior ← failureBehavior fields
        new (getField "maximum_parallel_tasks" (.int 1) fields)
          (getField "maximum_parallel_tasks_per_phase"
            (getField "maximum_parallel_tasks" (.int 1) fields) fields)
          (getField "maximum_active_phases" (.int 1) fields) behavior
  | raw =>
      if raw = .string "" then .ok default
      else raise "policy must be a mapping"

/-! ## Round trip -/

/-- The limits that `boundedInteger` returns. -/
def Bounded (limit : Nat) : Prop := 1 ≤ limit ∧ limit ≤ 128

theorem boundedInteger_bounded {label : String} {value : Json} {limit : Nat}
    (valid : boundedInteger label value = .ok limit) : Bounded limit := by
  cases value with
  | int value =>
      simp only [boundedInteger] at valid
      split_ifs at valid with range
      · cases valid
        exact ⟨by omega, by omega⟩
      · exact absurd valid (by simp)
  | _ => exact absurd valid (by simp [boundedInteger])

theorem boundedInteger_of_bounded (label : String) {limit : Nat}
    (bounded : Bounded limit) : boundedInteger label (.int limit) = .ok limit := by
  have range : 1 ≤ (limit : Int) ∧ (limit : Int) ≤ 128 := by
    obtain ⟨lower, upper⟩ := bounded
    omega
  simp [boundedInteger, range]

/-- The policies that the constructor returns. -/
structure Valid (policy : ProjectExecutionPolicy) : Prop where
  tasks : Bounded policy.maximumParallelTasks
  perPhase : Bounded policy.maximumParallelTasksPerPhase
  phases : Bounded policy.maximumActivePhases

theorem new_valid {tasks perPhase phases behavior : Json}
    {policy : ProjectExecutionPolicy}
    (constructed : new tasks perPhase phases behavior = .ok policy) :
    policy.Valid := by
  obtain ⟨_, tasksValid, rest⟩ := bind_eq_ok.mp constructed
  obtain ⟨_, perPhaseValid, rest⟩ := bind_eq_ok.mp rest
  obtain ⟨_, phasesValid, rest⟩ := bind_eq_ok.mp rest
  cases parsed : TaskFailureBehavior.ofValue behavior with
  | none =>
      rw [parsed] at rest
      exact absurd rest (by simp)
  | some known =>
      rw [parsed] at rest
      cases rest
      exact ⟨boundedInteger_bounded tasksValid,
        boundedInteger_bounded perPhaseValid, boundedInteger_bounded phasesValid⟩

theorem default_valid : default.Valid :=
  ⟨⟨by decide, by decide⟩, ⟨by decide, by decide⟩, ⟨by decide, by decide⟩⟩

theorem new_of_valid {policy : ProjectExecutionPolicy} (valid : policy.Valid) :
    new (.int policy.maximumParallelTasks)
      (.int policy.maximumParallelTasksPerPhase)
      (.int policy.maximumActivePhases)
      (.string policy.taskFailureBehavior.value) = .ok policy := by
  refine bind_eq_ok.mpr ⟨_, boundedInteger_of_bounded _ valid.tasks, ?_⟩
  refine bind_eq_ok.mpr ⟨_, boundedInteger_of_bounded _ valid.perPhase, ?_⟩
  refine bind_eq_ok.mpr ⟨_, boundedInteger_of_bounded _ valid.phases, ?_⟩
  rw [TaskFailureBehavior.ofValue_value]

theorem fromMapping_asMapping {policy : ProjectExecutionPolicy}
    (valid : policy.Valid) :
    fromMapping (.object policy.asMapping) = .ok policy := by
  have known : unknownNames allowedFields policy.asMapping = [] := by
    apply unknownNames_eq_nil
    simp [asMapping, allowedFields]
  have behavior : failureBehavior policy.asMapping =
      .ok (.string policy.taskFailureBehavior.value) := by
    simp [failureBehavior, asMapping]
  rw [fromMapping, known]
  refine bind_eq_ok.mpr ⟨_, behavior, ?_⟩
  simpa [asMapping] using new_of_valid valid

end ProjectExecutionPolicy

end Execraft.ProjectExecution
