import Execraft.ProjectExecution.Automatic

/-!
# Limits of a plan

What the planner promises about the Tasks that it picks: none of them occupied,
none twice, and with the occupied ones no more than the limits allow.
-/

namespace Execraft.ProjectExecution

open Foundation Foundation.Json AutomaticExecutionPlanner

/-- How many of the Tasks belong to the Phase. -/
def inPhase (definition : ProjectExecutionDefinition) (phaseId : String)
    (taskIds : List String) : Nat :=
  (taskIds.filter fun taskId => phaseByTask definition taskId = some phaseId).length

variable {py : Python} {definition : ProjectExecutionDefinition}
  {phaseId : String}

@[simp]
theorem inPhase_append (first second : List String) :
    inPhase definition phaseId (first ++ second) =
      inPhase definition phaseId first + inPhase definition phaseId second := by
  simp [inPhase]

theorem inPhase_singleton_self {taskId : String}
    (phase : phaseByTask definition taskId = some phaseId) :
    inPhase definition phaseId [taskId] = 1 := by
  simp [inPhase, phase]

theorem inPhase_singleton_ne {taskId : String}
    (phase : phaseByTask definition taskId ≠ some phaseId) :
    inPhase definition phaseId [taskId] = 0 := by
  simp [inPhase, phase]

/-- `counts.get(phase_id, 0)`. -/
def countOf (phaseId : String) (counts : List (String × Nat)) : Nat :=
  (getEntry phaseId counts).getD 0

theorem countOf_countPhase_self (counts : List (String × Nat)) :
    countOf phaseId (countPhase counts phaseId) = countOf phaseId counts + 1 := by
  rw [countOf, countPhase, getEntry_setEntry_self]
  rfl

theorem countOf_countPhase_ne (counts : List (String × Nat)) {other : String}
    (different : phaseId ≠ other) :
    countOf phaseId (countPhase counts other) = countOf phaseId counts := by
  rw [countOf, countPhase, getEntry_setEntry_ne different]
  rfl

theorem countOf_countsByPhase (taskIds : List String) :
    countOf phaseId (countsByPhase definition taskIds) =
      inPhase definition phaseId taskIds := by
  have general : ∀ counts, countOf phaseId
      ((taskIds.filterMap (phaseByTask definition)).foldl countPhase counts) =
        countOf phaseId counts + inPhase definition phaseId taskIds := by
    induction taskIds with
    | nil =>
        intro counts
        rfl
    | cons head tail inductionHypothesis =>
        intro counts
        have split : inPhase definition phaseId (head :: tail) =
            inPhase definition phaseId [head] + inPhase definition phaseId tail :=
          inPhase_append [head] tail
        rw [split]
        cases found : phaseByTask definition head with
        | none =>
            have apart : phaseByTask definition head ≠ some phaseId := by
              rw [found]
              simp
            rw [List.filterMap_cons_none found, inductionHypothesis,
              inPhase_singleton_ne apart]
            omega
        | some other =>
            rw [List.filterMap_cons_some found, List.foldl_cons,
              inductionHypothesis]
            by_cases same : phaseId = other
            · rw [← same] at found ⊢
              rw [countOf_countPhase_self, inPhase_singleton_self found]
              omega
            · have apart : phaseByTask definition head ≠ some phaseId := by
                rw [found]
                intro equality
                exact same (Option.some.inj equality).symm
              rw [countOf_countPhase_ne counts same, inPhase_singleton_ne apart]
              omega
  have whole := general []
  rw [countsByPhase, whole]
  exact Nat.zero_add _

theorem findTask_listed {taskId : String} {task : ProjectTask}
    (found : definition.findTask taskId = some task) :
    taskId ∈ definition.taskIdList := by
  have named := List.find?_some found
  rw [decide_eq_true_eq] at named
  rw [← named]
  exact List.mem_map_of_mem (List.mem_of_find?_eq_some found)

/-! ## The loop -/

/-- What the loop keeps, with `available` places at its start. -/
structure WithinLimits (definition : ProjectExecutionDefinition)
    (occupied front : List String) (available : Nat) (planning : Planning) :
    Prop where
  nodup : planning.candidates.Nodup
  passed : ∀ taskId ∈ planning.candidates, taskId ∈ front
  listed : ∀ taskId ∈ planning.candidates, taskId ∈ definition.taskIdList
  free : ∀ taskId ∈ planning.candidates, taskId ∉ occupied
  places : planning.available + planning.candidates.length = available
  counts : ∀ phaseId, countOf phaseId planning.plannedByPhase =
    inPhase definition phaseId (occupied ++ planning.candidates)
  phases : ∀ phaseId, inPhase definition phaseId planning.candidates = 0 ∨
    inPhase definition phaseId (occupied ++ planning.candidates) ≤
      definition.policy.maximumParallelTasksPerPhase

/-- A pass that picks no Task. -/
theorem WithinLimits.skip {occupied front : List String} {available : Nat}
    {planning after : Planning} {taskId : String}
    (within : WithinLimits definition occupied front available planning)
    (candidates : after.candidates = planning.candidates)
    (places : after.available = planning.available)
    (counts : after.plannedByPhase = planning.plannedByPhase) :
    WithinLimits definition occupied (front ++ [taskId]) available after where
  nodup := by
    rw [candidates]
    exact within.nodup
  passed := by
    intro candidate member
    rw [candidates] at member
    exact List.mem_append_left _ (within.passed candidate member)
  listed := by
    rw [candidates]
    exact within.listed
  free := by
    rw [candidates]
    exact within.free
  places := by
    rw [candidates, places]
    exact within.places
  counts := by
    rw [candidates, counts]
    exact within.counts
  phases := by
    rw [candidates]
    exact within.phases

/-- A Task that may start is blocked or picked. -/
theorem pickTask_cases (policy : ProjectExecutionPolicy) (planning : Planning)
    (taskId phaseId : String) :
    let after := pickTask policy planning taskId phaseId
    (after.candidates = planning.candidates ∧
      after.available = planning.available ∧
      after.plannedByPhase = planning.plannedByPhase) ∨
    (countOf phaseId planning.plannedByPhase < policy.maximumParallelTasksPerPhase ∧
      after.candidates = planning.candidates ++ [taskId] ∧
      after.available = planning.available - 1 ∧
      after.plannedByPhase = countPhase planning.plannedByPhase phaseId) := by
  unfold pickTask
  split
  · exact Or.inl ⟨rfl, rfl, rfl⟩
  · dsimp only
    split
    · exact Or.inl ⟨rfl, rfl, rfl⟩
    · rename_i room
      exact Or.inr ⟨Nat.lt_of_not_le room, rfl, rfl, rfl⟩

theorem WithinLimits.pickTask {occupied front : List String} {available : Nat}
    {planning : Planning} {taskId phaseId : String}
    (within : WithinLimits definition occupied front available planning)
    (place : planning.available ≠ 0) (new : taskId ∉ front)
    (unoccupied : taskId ∉ occupied)
    (phase : phaseByTask definition taskId = some phaseId) :
    WithinLimits definition occupied (front ++ [taskId]) available
      (pickTask definition.policy planning taskId phaseId) := by
  rcases pickTask_cases definition.policy planning taskId phaseId with
    ⟨candidates, places, counts⟩ | ⟨room, candidates, places, counts⟩
  · exact within.skip candidates places counts
  · have notYet : taskId ∉ planning.candidates := by
      intro member
      exact new (within.passed taskId member)
    have members : ∀ candidate,
        candidate ∈ planning.candidates ++ [taskId] →
          candidate ∈ planning.candidates ∨ candidate = taskId := by
      intro candidate member
      rcases List.mem_append.mp member with earlier | last
      · exact Or.inl earlier
      · exact Or.inr (List.mem_singleton.mp last)
    have known : taskId ∈ definition.taskIdList := by
      unfold phaseByTask at phase
      cases found : definition.findTask taskId with
      | none =>
          rw [found] at phase
          cases phase
      | some task => exact findTask_listed found
    constructor
    · rw [candidates]
      apply List.nodup_append.mpr
      refine ⟨within.nodup, List.nodup_singleton taskId, ?_⟩
      intro candidate member other last
      rw [List.mem_singleton.mp last]
      intro same
      exact notYet (same ▸ member)
    · intro candidate member
      rw [candidates] at member
      rcases members candidate member with earlier | last
      · exact List.mem_append_left _ (within.passed candidate earlier)
      · rw [last]
        exact List.mem_append_right _ List.mem_cons_self
    · intro candidate member
      rw [candidates] at member
      rcases members candidate member with earlier | last
      · exact within.listed candidate earlier
      · rw [last]
        exact known
    · intro candidate member
      rw [candidates] at member
      rcases members candidate member with earlier | last
      · exact within.free candidate earlier
      · rw [last]
        exact unoccupied
    · have before := within.places
      rw [candidates, places, List.length_append, List.length_singleton]
      omega
    · intro other
      have before := within.counts other
      rw [candidates, counts, ← List.append_assoc, inPhase_append]
      by_cases same : other = phaseId
      · rw [same] at before ⊢
        rw [countOf_countPhase_self, inPhase_singleton_self phase]
        omega
      · have apart : phaseByTask definition taskId ≠ some other := by
          rw [phase]
          intro equality
          exact same (Option.some.inj equality).symm
        rw [countOf_countPhase_ne _ same, inPhase_singleton_ne apart]
        omega
    · intro other
      rw [candidates, ← List.append_assoc, inPhase_append, inPhase_append _ [taskId]]
      by_cases same : other = phaseId
      · rw [same, inPhase_singleton_self phase]
        rw [within.counts phaseId] at room
        exact Or.inr room
      · have apart : phaseByTask definition taskId ≠ some other := by
          rw [phase]
          intro equality
          exact same (Option.some.inj equality).symm
        rw [inPhase_singleton_ne apart]
        exact within.phases other

theorem planTask_withinLimits {eligibility : List (String × EligibilityResult)}
    {phases : List (String × PhaseState)} {occupied front : List String}
    {available : Nat} {planning after : Planning} {taskId : String}
    (within : WithinLimits definition occupied front available planning)
    (new : taskId ∉ front)
    (planned : planTask py definition eligibility phases occupied planning taskId =
      .ok after) :
    WithinLimits definition occupied (front ++ [taskId]) available after := by
  unfold planTask at planned
  by_cases exhausted : planning.available = 0
  · rw [if_pos exhausted] at planned
    cases planned
    exact within.skip rfl rfl rfl
  · rw [if_neg exhausted] at planned
    split at planned
    · cases planned
      exact within.skip rfl rfl rfl
    · by_cases taken : taskId ∈ occupied
      · rw [if_pos taken] at planned
        cases planned
        exact within.skip rfl rfl rfl
      · rw [if_neg taken] at planned
        cases phase : phaseByTask definition taskId with
        | none =>
            rw [phase] at planned
            cases planned
        | some phaseId =>
            rw [phase] at planned
            cases found : getEntry phaseId phases with
            | none =>
                simp only [found] at planned
                cases planned
            | some state =>
                simp only [found] at planned
                split at planned
                · cases planned
                  exact within.skip rfl rfl rfl
                · cases planned
                  exact within.pickTask exhausted new taken phase

/-! ## The plan -/

/-- What a plan promises. -/
structure PlanLimits (py : Python) (definition : ProjectExecutionDefinition)
    (runtime : ProjectExecutionRuntimeState) (taskIds : List String) : Prop where
  nodup : taskIds.Nodup
  listed : ∀ taskId ∈ taskIds, taskId ∈ definition.taskIdList
  free : ∀ taskId ∈ taskIds, taskId ∉ occupiedTasks py definition runtime
  parallel : taskIds = [] ∨
    (occupiedTasks py definition runtime ++ taskIds).length ≤
      definition.policy.maximumParallelTasks
  phases : ∀ phaseId, inPhase definition phaseId taskIds = 0 ∨
    inPhase definition phaseId (occupiedTasks py definition runtime ++ taskIds) ≤
      definition.policy.maximumParallelTasksPerPhase

theorem planningStart_withinLimits {runtime : ProjectExecutionRuntimeState}
    {phases : List (String × PhaseState)} :
    WithinLimits definition (occupiedTasks py definition runtime) []
      (definition.policy.maximumParallelTasks -
        (occupiedTasks py definition runtime).length)
      (planningStart py definition runtime phases) where
  nodup := List.nodup_nil
  passed _ member := by cases member
  listed _ member := by cases member
  free _ member := by cases member
  places := rfl
  counts phaseId := (countOf_countsByPhase _).trans (by simp [planningStart])
  phases _ := Or.inl rfl

theorem plan_limits {runtime : ProjectExecutionRuntimeState}
    {eligibility : List (String × EligibilityResult)}
    {phases : List (String × PhaseState)} {result : AutomaticStartPlan}
    (planned : plan py definition runtime eligibility phases = .ok result) :
    PlanLimits py definition runtime result.taskIds := by
  unfold plan at planned
  rw [bind_eq_ok] at planned
  obtain ⟨order, ordered, planned⟩ := planned
  rw [bind_eq_ok] at planned
  obtain ⟨planning, looped, planned⟩ := planned
  cases planned
  have distinct : order.Nodup := by
    cases found : taskOrder definition with
    | error failure =>
        rw [found] at ordered
        cases ordered
    | ok other =>
        rw [found] at ordered
        cases ordered
        exact (topologicalOrder_complete found).nodup
  have within : order.Nodup → WithinLimits definition
      (occupiedTasks py definition runtime) order
      (definition.policy.maximumParallelTasks -
        (occupiedTasks py definition runtime).length) planning := by
    apply foldlM_eq_ok (motive := fun front planning => front.Nodup →
      WithinLimits definition (occupiedTasks py definition runtime) front
        (definition.policy.maximumParallelTasks -
          (occupiedTasks py definition runtime).length) planning) _ _ looped
    · intro front taskId current after holds passed distinct
      have apart := List.nodup_append.mp distinct
      apply planTask_withinLimits (holds apart.1) _ passed
      intro member
      exact apart.2.2 taskId member taskId List.mem_cons_self rfl
    · intro _
      exact planningStart_withinLimits
  have limits := within distinct
  constructor
  · exact limits.nodup
  · exact limits.listed
  · exact limits.free
  · by_cases empty : planning.candidates = []
    · exact Or.inl empty
    · have positive := List.length_pos_iff.mpr empty
      have places := limits.places
      have room : (occupiedTasks py definition runtime ++
          planning.candidates).length ≤ definition.policy.maximumParallelTasks := by
        rw [List.length_append]
        omega
      exact Or.inr room
  · exact limits.phases

end Execraft.ProjectExecution
