import Execraft.ProjectExecution.PlanLimits
import Mathlib.Data.List.Perm.Subperm

/-!
# Which Tasks a plan selects

A plan selects only Tasks that may start, opens no Phase beyond the limit, and
leaves out only Tasks for which there is no room.
-/

namespace Execraft.ProjectExecution

open Foundation Foundation.Json AutomaticExecutionPlanner

/-! ## Tasks that may start -/

/-- The Task is eligible, not occupied, and in a Phase that starts Tasks. -/
structure Selectable (definition : ProjectExecutionDefinition)
    (eligibility : List (String × EligibilityResult))
    (phases : List (String × PhaseState)) (occupied : List String)
    (taskId phaseId : String) : Prop where
  eligible : ∃ result, getEntry taskId eligibility = some result ∧
    result.eligible = true
  free : taskId ∉ occupied
  phase : phaseByTask definition taskId = some phaseId
  starts : getEntry phaseId phases = some .ready ∨ getEntry phaseId phases = some .active

/-- The Phases that are active, hold a reservation or receive a Task. -/
def busyPhases (definition : ProjectExecutionDefinition)
    (phases : List (String × PhaseState)) (reserved taskIds : List String) :
    List String :=
  (activePhases definition phases reserved ++
    taskIds.filterMap (phaseByTask definition)).dedup

variable {py : Python} {definition : ProjectExecutionDefinition}
variable {eligibility : List (String × EligibilityResult)}
variable {phases : List (String × PhaseState)}
variable {reserved occupied front taskIds : List String}
variable {planning after : Planning} {taskId phaseId : String}

theorem mem_busyPhases :
    phaseId ∈ busyPhases definition phases reserved taskIds ↔
      phaseId ∈ activePhases definition phases reserved ∨
        ∃ taskId ∈ taskIds, phaseByTask definition taskId = some phaseId := by
  rw [busyPhases, List.mem_dedup, List.mem_append, List.mem_filterMap]

theorem busyPhases_nodup :
    (busyPhases definition phases reserved taskIds).Nodup :=
  List.nodup_dedup _

/-- An active Phase counts as such. -/
theorem active_mem_activePhases (active : getEntry phaseId phases = some .active) :
    phaseId ∈ activePhases definition phases reserved := by
  apply List.mem_dedup.mpr
  apply List.mem_append_left
  apply List.mem_map.mpr
  refine ⟨(phaseId, .active), List.mem_filter.mpr ⟨mem_of_getEntry active, ?_⟩, rfl⟩
  exact decide_eq_true rfl

theorem inPhase_eq_zero
    (absent : ∀ taskId ∈ taskIds, phaseByTask definition taskId ≠ some phaseId) :
    inPhase definition phaseId taskIds = 0 := by
  apply List.length_eq_zero_iff.mpr
  apply List.filter_eq_nil_iff.mpr
  intro taskId member
  rw [decide_eq_true_eq]
  exact absent taskId member

/-! ## One pass -/

/-- A pass leaves the choice as it is, or the Task may start and is taken up. -/
theorem planTask_cases
    (planned : planTask py definition eligibility phases occupied planning taskId =
      .ok after) :
    (∃ blocked, after = { planning with blocked := blocked } ∧
      (planning.available = 0 ∨
        ∀ phaseId, ¬ Selectable definition eligibility phases occupied taskId phaseId)) ∨
    ∃ phaseId, planning.available ≠ 0 ∧
      Selectable definition eligibility phases occupied taskId phaseId ∧
      after = pickTask definition.policy planning taskId phaseId := by
  unfold planTask at planned
  by_cases exhausted : planning.available = 0
  · rw [if_pos exhausted] at planned
    cases planned
    exact Or.inl ⟨planning.blocked, rfl, Or.inl exhausted⟩
  rw [if_neg exhausted] at planned
  split at planned
  · rename_i ineligible
    cases planned
    refine Or.inl ⟨planning.blocked, rfl, Or.inr fun phaseId selectable => ineligible ?_⟩
    obtain ⟨result, found, eligible⟩ := selectable.eligible
    rw [found]
    exact eligible
  rename_i eligible
  by_cases taken : taskId ∈ occupied
  · rw [if_pos taken] at planned
    cases planned
    exact Or.inl ⟨_, rfl, Or.inr fun phaseId selectable => selectable.free taken⟩
  rw [if_neg taken] at planned
  cases phase : phaseByTask definition taskId with
  | none =>
      rw [phase] at planned
      cases planned
  | some phaseId =>
      rw [phase] at planned
      cases found : getEntry phaseId phases with
      | none =>
          simp only [found] at planned
          cases planned
      | some state =>
          simp only [found] at planned
          split at planned
          · rename_i closed
            cases planned
            refine Or.inl ⟨_, rfl, Or.inr fun other selectable => ?_⟩
            have same := selectable.phase
            rw [phase, Option.some.injEq] at same
            have starts := selectable.starts
            rw [← same, found, Option.some.injEq, Option.some.injEq] at starts
            rcases starts with ready | active
            · exact closed.1 ready
            · exact closed.2 active
          · rename_i starts
            cases planned
            refine Or.inr ⟨phaseId, exhausted, ⟨?_, taken, phase, ?_⟩, rfl⟩
            · rw [not_not, Option.any_eq_true] at eligible
              exact eligible
            · rw [found, Option.some.injEq, Option.some.injEq]
              by_contra neither
              exact starts (not_or.mp neither)

/-! ## The loop -/

/-- What the loop keeps about its choice. -/
structure Selecting (definition : ProjectExecutionDefinition)
    (eligibility : List (String × EligibilityResult))
    (phases : List (String × PhaseState)) (reserved occupied front : List String)
    (planning : Planning) : Prop where
  selectable : ∀ taskId ∈ planning.candidates,
    ∃ phaseId, Selectable definition eligibility phases occupied taskId phaseId
  busy : ∀ phaseId ∈ busyPhases definition phases reserved planning.candidates,
    phaseId ∈ planning.plannedPhases
  nodup : planning.plannedPhases.Nodup
  bounded : (∀ phaseId ∈ planning.plannedPhases,
      phaseId ∈ activePhases definition phases reserved) ∨
    planning.plannedPhases.length ≤ definition.policy.maximumActivePhases
  /-- Only a Phase that was full from the start is opened for nothing. -/
  opened : ∀ phaseId ∈ planning.plannedPhases,
    phaseId ∈ busyPhases definition phases reserved planning.candidates ∨
      (getEntry phaseId phases = some .ready ∧
        phaseId ∉ activePhases definition phases reserved ∧
        definition.policy.maximumParallelTasksPerPhase ≤
          inPhase definition phaseId occupied)
  settled : ∀ taskId ∈ front, ∀ phaseId,
    Selectable definition eligibility phases occupied taskId phaseId →
      taskId ∉ planning.candidates → planning.available = 0 ∨
        definition.policy.maximumParallelTasksPerPhase ≤
          countOf phaseId planning.plannedByPhase ∨
        (phaseId ∉ planning.plannedPhases ∧
          definition.policy.maximumActivePhases ≤ planning.plannedPhases.length)

/-- A pass that leaves the choice as it is. -/
theorem Selecting.skip {blocked : List (String × String)}
    (selecting : Selecting definition eligibility phases reserved occupied front planning)
    (unsuitable : ∀ phaseId,
      Selectable definition eligibility phases occupied taskId phaseId →
        planning.available = 0 ∨
          (phaseId ∉ planning.plannedPhases ∧
            definition.policy.maximumActivePhases ≤ planning.plannedPhases.length)) :
    Selecting definition eligibility phases reserved occupied (front ++ [taskId])
      { planning with blocked := blocked } where
  selectable := selecting.selectable
  busy := selecting.busy
  nodup := selecting.nodup
  bounded := selecting.bounded
  opened := selecting.opened
  settled := by
    intro other member phaseId selectable unselected
    rcases List.mem_append.mp member with earlier | last
    · exact selecting.settled other earlier phaseId selectable unselected
    · rw [List.mem_singleton.mp last] at selectable
      rcases unsuitable phaseId selectable with exhausted | closed
      · exact Or.inl exhausted
      · exact Or.inr (Or.inr closed)

/-- The reason for which a Task was left out stays when a Phase is taken in. -/
theorem closed_insert {limit : Nat} {planned : List String} {other : String}
    (room : phaseId ∈ planned ∨ planned.length < limit)
    (closed : other ∉ planned ∧ limit ≤ planned.length) :
    other ∉ planned.insert phaseId ∧ limit ≤ (planned.insert phaseId).length := by
  rcases room with present | fits
  · rw [List.insert_of_mem present]
    exact closed
  · omega

theorem Selecting.pickTask {available : Nat}
    (selecting : Selecting definition eligibility phases reserved occupied front planning)
    (within : WithinLimits definition occupied front available planning)
    (selectable : Selectable definition eligibility phases occupied taskId phaseId) :
    Selecting definition eligibility phases reserved occupied (front ++ [taskId])
      (pickTask definition.policy planning taskId phaseId) := by
  unfold AutomaticExecutionPlanner.pickTask
  by_cases closed : phaseId ∉ planning.plannedPhases ∧
      definition.policy.maximumActivePhases ≤ planning.plannedPhases.length
  · rw [if_pos closed]
    apply selecting.skip
    intro other otherSelectable
    have same := otherSelectable.phase
    rw [selectable.phase, Option.some.injEq] at same
    rw [← same]
    exact Or.inr closed
  rw [if_neg closed]
  have room : phaseId ∈ planning.plannedPhases ∨
      planning.plannedPhases.length < definition.policy.maximumActivePhases := by
    by_cases present : phaseId ∈ planning.plannedPhases
    · exact Or.inl present
    · exact Or.inr (Nat.lt_of_not_le fun beyond => closed ⟨present, beyond⟩)
  have bounded : (∀ other ∈ planning.plannedPhases.insert phaseId,
        other ∈ activePhases definition phases reserved) ∨
      (planning.plannedPhases.insert phaseId).length ≤
        definition.policy.maximumActivePhases := by
    by_cases present : phaseId ∈ planning.plannedPhases
    · rw [List.insert_of_mem present]
      exact selecting.bounded
    · rw [List.length_insert_of_not_mem present]
      rcases room with impossible | fits
      · exact absurd impossible present
      · exact Or.inr fits
  have nodup : (planning.plannedPhases.insert phaseId).Nodup :=
    selecting.nodup.insert
  have kept : ∀ other, other ∈ planning.plannedPhases →
      other ∈ planning.plannedPhases.insert phaseId :=
    fun other member => List.mem_insert_of_mem member
  dsimp only
  by_cases full : definition.policy.maximumParallelTasksPerPhase ≤
      (getEntry phaseId planning.plannedByPhase).getD 0
  · rw [if_pos full]
    constructor
    · exact selecting.selectable
    · intro other member
      exact kept other (selecting.busy other member)
    · exact nodup
    · exact bounded
    · intro other member
      rcases List.mem_insert_iff.mp member with same | earlier
      · by_cases present : phaseId ∈ planning.plannedPhases
        · rw [same]
          exact selecting.opened phaseId present
        -- The Phase is new, so its Tasks were running before the plan.
        have idle : ¬ phaseId ∈
            busyPhases definition phases reserved planning.candidates :=
          fun busy => present (selecting.busy phaseId busy)
        rw [mem_busyPhases, not_or] at idle
        have counted := within.counts phaseId
        rw [inPhase_append, inPhase_eq_zero fun taskId member phase =>
          idle.2 ⟨taskId, member, phase⟩] at counted
        rw [same]
        refine Or.inr ⟨?_, idle.1, ?_⟩
        · rcases selectable.starts with ready | active
          · exact ready
          · exact absurd (active_mem_activePhases active) idle.1
        · rw [← Nat.add_zero (inPhase definition phaseId occupied), ← counted]
          exact full
      · exact selecting.opened other earlier
    · intro other member otherPhase otherSelectable unselected
      rcases List.mem_append.mp member with earlier | last
      · rcases selecting.settled other earlier otherPhase otherSelectable unselected with
          exhausted | crowded | shut
        · exact Or.inl exhausted
        · exact Or.inr (Or.inl crowded)
        · exact Or.inr (Or.inr (closed_insert room shut))
      · have same := otherSelectable.phase
        rw [List.mem_singleton.mp last, selectable.phase, Option.some.injEq] at same
        rw [← same]
        exact Or.inr (Or.inl full)
  · rw [if_neg full]
    constructor
    · intro other member
      rcases List.mem_append.mp member with earlier | last
      · exact selecting.selectable other earlier
      · rw [List.mem_singleton.mp last]
        exact ⟨phaseId, selectable⟩
    · intro other member
      rcases mem_busyPhases.mp member with active | ⟨candidate, listed, phase⟩
      · exact kept other (selecting.busy other (mem_busyPhases.mpr (Or.inl active)))
      · rcases List.mem_append.mp listed with earlier | last
        · exact kept other (selecting.busy other
            (mem_busyPhases.mpr (Or.inr ⟨candidate, earlier, phase⟩)))
        · rw [List.mem_singleton.mp last, selectable.phase, Option.some.injEq] at phase
          rw [← phase]
          exact List.mem_insert_self
    · exact nodup
    · exact bounded
    · intro other member
      rcases List.mem_insert_iff.mp member with same | earlier
      · rw [same]
        exact Or.inl (mem_busyPhases.mpr
          (Or.inr ⟨taskId, List.mem_append_right _ List.mem_cons_self, selectable.phase⟩))
      · rcases selecting.opened other earlier with busy | idle
        · rcases mem_busyPhases.mp busy with active | ⟨candidate, listed, phase⟩
          · exact Or.inl (mem_busyPhases.mpr (Or.inl active))
          · exact Or.inl (mem_busyPhases.mpr
              (Or.inr ⟨candidate, List.mem_append_left _ listed, phase⟩))
        · exact Or.inr idle
    · intro other member otherPhase otherSelectable unselected
      rw [List.mem_append, not_or] at unselected
      rcases List.mem_append.mp member with earlier | last
      · rcases selecting.settled other earlier otherPhase otherSelectable unselected.1 with
          exhausted | crowded | shut
        · left
          show planning.available - 1 = 0
          omega
        · right
          left
          show _ ≤ countOf otherPhase (countPhase planning.plannedByPhase phaseId)
          by_cases same : otherPhase = phaseId
          · rw [same] at crowded ⊢
            rw [countOf_countPhase_self]
            omega
          · rw [countOf_countPhase_ne _ same]
            exact crowded
        · exact Or.inr (Or.inr (closed_insert room shut))
      · exact absurd last unselected.2

theorem planTask_selecting {available : Nat}
    (selecting : Selecting definition eligibility phases reserved occupied front planning)
    (within : WithinLimits definition occupied front available planning)
    (planned : planTask py definition eligibility phases occupied planning taskId =
      .ok after) :
    Selecting definition eligibility phases reserved occupied (front ++ [taskId])
      after := by
  rcases planTask_cases planned with ⟨blocked, rfl, unsuitable⟩ |
    ⟨phaseId, _, selectable, rfl⟩
  · apply selecting.skip
    intro phaseId selectable
    rcases unsuitable with exhausted | never
    · exact Or.inl exhausted
    · exact absurd selectable (never phaseId)
  · exact selecting.pickTask within selectable

/-! ## The plan -/

/-- Every Phase that is ready without a reservation has room for a Task. -/
def ReadyPhasesHaveRoom (py : Python) (definition : ProjectExecutionDefinition)
    (runtime : ProjectExecutionRuntimeState) (phases : List (String × PhaseState)) :
    Prop :=
  ∀ phaseId, getEntry phaseId phases = some .ready →
    phaseId ∉ activePhases definition phases (reservedTasks py runtime) →
      inPhase definition phaseId (occupiedTasks py definition runtime) <
        definition.policy.maximumParallelTasksPerPhase

/-- One more Task would break a limit. -/
def BreaksLimit (py : Python) (definition : ProjectExecutionDefinition)
    (runtime : ProjectExecutionRuntimeState) (phases : List (String × PhaseState))
    (taskIds : List String) (taskId phaseId : String) : Prop :=
  definition.policy.maximumParallelTasks <
      (occupiedTasks py definition runtime ++ (taskIds ++ [taskId])).length ∨
    definition.policy.maximumParallelTasksPerPhase <
      inPhase definition phaseId
        (occupiedTasks py definition runtime ++ (taskIds ++ [taskId])) ∨
    (phaseId ∉ busyPhases definition phases (reservedTasks py runtime) taskIds ∧
      definition.policy.maximumActivePhases <
        (busyPhases definition phases (reservedTasks py runtime)
          (taskIds ++ [taskId])).length)

/-- What a plan selects. -/
structure PlanSelection (py : Python) (definition : ProjectExecutionDefinition)
    (runtime : ProjectExecutionRuntimeState)
    (eligibility : List (String × EligibilityResult))
    (phases : List (String × PhaseState)) (taskIds : List String) : Prop where
  limits : PlanLimits py definition runtime taskIds
  selectable : ∀ taskId ∈ taskIds, ∃ phaseId,
    Selectable definition eligibility phases (occupiedTasks py definition runtime)
      taskId phaseId
  openPhases : (∀ phaseId ∈ busyPhases definition phases (reservedTasks py runtime) taskIds,
      phaseId ∈ activePhases definition phases (reservedTasks py runtime)) ∨
    (busyPhases definition phases (reservedTasks py runtime) taskIds).length ≤
      definition.policy.maximumActivePhases
  maximal : ReadyPhasesHaveRoom py definition runtime phases →
    ∀ taskId phaseId, Selectable definition eligibility phases
        (occupiedTasks py definition runtime) taskId phaseId →
      taskId ∉ taskIds → BreaksLimit py definition runtime phases taskIds taskId phaseId

theorem phaseByTask_listed (phase : phaseByTask definition taskId = some phaseId) :
    taskId ∈ definition.taskIdList := by
  cases found : definition.findTask taskId with
  | none =>
      rw [phaseByTask, found] at phase
      cases phase
  | some task => exact findTask_listed found

section Plan

variable {runtime : ProjectExecutionRuntimeState}

theorem planningStart_selecting :
    Selecting definition eligibility phases (reservedTasks py runtime)
      (occupiedTasks py definition runtime) []
      (planningStart py definition runtime phases) where
  selectable _ member := by cases member
  busy phaseId member := by
    rcases mem_busyPhases.mp member with active | ⟨_, listed, _⟩
    · exact active
    · cases listed
  nodup := List.nodup_dedup _
  bounded := Or.inl fun _ member => member
  opened _ member := Or.inl (mem_busyPhases.mpr (Or.inl member))
  settled _ member := by cases member

/-- What was left out when the loop ended breaks a limit. -/
theorem Selecting.breaksLimit {order : List String}
    (selecting : Selecting definition eligibility phases (reservedTasks py runtime)
      (occupiedTasks py definition runtime) order planning)
    (within : WithinLimits definition (occupiedTasks py definition runtime) order
      (definition.policy.maximumParallelTasks -
        (occupiedTasks py definition runtime).length) planning)
    (room : ReadyPhasesHaveRoom py definition runtime phases)
    (selectable : Selectable definition eligibility phases
      (occupiedTasks py definition runtime) taskId phaseId)
    (listed : taskId ∈ order) (unselected : taskId ∉ planning.candidates) :
    BreaksLimit py definition runtime phases planning.candidates taskId phaseId := by
  rcases selecting.settled taskId listed phaseId selectable unselected with
    exhausted | crowded | ⟨closed, full⟩
  · left
    have places := within.places
    rw [exhausted] at places
    rw [List.length_append, List.length_append, List.length_singleton]
    omega
  · right
    left
    rw [within.counts] at crowded
    rw [← List.append_assoc, inPhase_append _ [taskId],
      inPhase_singleton_self selectable.phase]
    omega
  · right
    right
    have exact_ : ∀ other ∈ planning.plannedPhases, other ∈
        busyPhases definition phases (reservedTasks py runtime) planning.candidates := by
      intro other member
      rcases selecting.opened other member with busy | ⟨ready, idle, crowded⟩
      · exact busy
      · have fits := room other ready idle
        omega
    refine ⟨fun busy => closed (selecting.busy phaseId busy), ?_⟩
    have distinct : (phaseId :: planning.plannedPhases).Nodup :=
      List.nodup_cons.mpr ⟨closed, selecting.nodup⟩
    have within : phaseId :: planning.plannedPhases ⊆
        busyPhases definition phases (reservedTasks py runtime)
          (planning.candidates ++ [taskId]) := by
      intro other member
      rcases List.mem_cons.mp member with same | planned
      · rw [same]
        exact mem_busyPhases.mpr
          (Or.inr ⟨taskId, List.mem_append_right _ List.mem_cons_self, selectable.phase⟩)
      · rcases mem_busyPhases.mp (exact_ other planned) with active | ⟨task, present, phase⟩
        · exact mem_busyPhases.mpr (Or.inl active)
        · exact mem_busyPhases.mpr
            (Or.inr ⟨task, List.mem_append_left _ present, phase⟩)
    have counted := (List.subperm_of_subset distinct within).length_le
    rw [List.length_cons] at counted
    omega

/-- A plan selects Tasks that may start, within the limits, and opens Phases only up
to their limit; a Task that may start and is left out would break a limit, unless a
ready Phase had more Tasks running than it may. -/
theorem plan_selection {result : AutomaticStartPlan}
    (planned : plan py definition runtime eligibility phases = .ok result) :
    PlanSelection py definition runtime eligibility phases result.taskIds := by
  have limits := plan_limits planned
  unfold plan at planned
  obtain ⟨order, ordered, planned⟩ := bind_eq_ok.mp planned
  obtain ⟨planning, looped, planned⟩ := bind_eq_ok.mp planned
  cases planned
  have complete : Graph.Complete (taskAdjacency definition).get
      ((taskAdjacency definition).map Prod.fst) order := by
    cases found : taskOrder definition with
    | error failure =>
        rw [found] at ordered
        cases ordered
    | ok other =>
        rw [found] at ordered
        cases ordered
        exact topologicalOrder_complete found
  have kept : order.Nodup →
      WithinLimits definition (occupiedTasks py definition runtime) order
        (definition.policy.maximumParallelTasks -
          (occupiedTasks py definition runtime).length) planning ∧
      Selecting definition eligibility phases (reservedTasks py runtime)
        (occupiedTasks py definition runtime) order planning := by
    apply foldlM_eq_ok (motive := fun front planning => front.Nodup →
      WithinLimits definition (occupiedTasks py definition runtime) front
        (definition.policy.maximumParallelTasks -
          (occupiedTasks py definition runtime).length) planning ∧
      Selecting definition eligibility phases (reservedTasks py runtime)
        (occupiedTasks py definition runtime) front planning) _ _ looped
    · intro front taskId current after holds passed distinct
      have apart := List.nodup_append.mp distinct
      obtain ⟨within, selecting⟩ := holds apart.1
      refine ⟨planTask_withinLimits within ?_ passed,
        planTask_selecting selecting within passed⟩
      intro member
      exact apart.2.2 taskId member taskId List.mem_cons_self rfl
    · intro _
      exact ⟨planningStart_withinLimits, planningStart_selecting⟩
  obtain ⟨within, selecting⟩ := kept complete.nodup
  have all : ∀ taskId ∈ definition.taskIdList, taskId ∈ order := by
    intro taskId member
    obtain ⟨task, listed, named⟩ := List.mem_map.mp member
    apply complete.listed
    rw [← named]
    exact List.mem_map.mpr ⟨(task.taskId, task.requires.tasks),
      List.mem_map.mpr ⟨task, listed, rfl⟩, rfl⟩
  refine ⟨limits, selecting.selectable, ?_, ?_⟩
  · rcases selecting.bounded with none_ | fits
    · exact Or.inl fun phaseId busy => none_ phaseId (selecting.busy phaseId busy)
    · have counted :=
        (List.subperm_of_subset busyPhases_nodup selecting.busy).length_le
      exact Or.inr (counted.trans fits)
  · intro room taskId phaseId selectable unselected
    exact selecting.breaksLimit within room selectable
      (all taskId (phaseByTask_listed selectable.phase)) unselected

end Plan

/-! ## What a plan does not promise -/

/-- No Task is selected above a limit, and none is left out below all of them. -/
def SelectsWithoutExcess (py : Python) (definition : ProjectExecutionDefinition)
    (runtime : ProjectExecutionRuntimeState)
    (eligibility : List (String × EligibilityResult))
    (phases : List (String × PhaseState)) : Prop :=
  ∀ result, plan py definition runtime eligibility phases = .ok result →
    PlanLimits py definition runtime result.taskIds ∧
    (result.taskIds = [] ∨
      (busyPhases definition phases (reservedTasks py runtime) result.taskIds).length ≤
        definition.policy.maximumActivePhases) ∧
    ∀ taskId phaseId, Selectable definition eligibility phases
        (occupiedTasks py definition runtime) taskId phaseId →
      taskId ∉ result.taskIds →
        BreaksLimit py definition runtime phases result.taskIds taskId phaseId

/-- Tasks `a`, `b` of the Phases `first` and `second`, and `other` of `first`. -/
def twoPhases : ProjectExecutionDefinition where
  project := "demo"
  revision := 1
  mode := .automatic
  phases := [⟨"first", "First", "", ⟨"", ""⟩, [], [], ["other", "a"], []⟩,
    ⟨"second", "Second", "", ⟨"", ""⟩, [], [], ["b"], []⟩]
  tasks := [⟨"other", "first", true, ⟨[], []⟩⟩, ⟨"a", "first", true, ⟨[], []⟩⟩,
    ⟨"b", "second", true, ⟨[], []⟩⟩]
  gates := []
  milestones := []
  policy := ⟨3, 1, 1, .hold⟩
  schemaVersion := 1

def bothEligible : List (String × EligibilityResult) :=
  [("a", ⟨true, []⟩), ("b", ⟨true, []⟩)]

/-- The Task `other` was last seen running. -/
def otherRunning : ProjectExecutionRuntimeState :=
  { ProjectExecutionRuntimeState.fresh "demo" with
    observedTasks := Dict.empty.set "other" [("outcome", .string "running")] }

/-- Two active Phases may both receive Tasks although only one may be active, and a
ready Phase that is full keeps another one from being opened. -/
theorem not_selectsWithoutExcess :
    ¬ SelectsWithoutExcess asciiPython twoPhases
        (ProjectExecutionRuntimeState.fresh "demo") bothEligible
        [("first", .active), ("second", .active)] ∧
      ¬ SelectsWithoutExcess asciiPython twoPhases otherRunning bothEligible
        [("first", .ready), ("second", .ready)] := by
  constructor
  · intro claim
    have selected : (plan asciiPython twoPhases
        (ProjectExecutionRuntimeState.fresh "demo") bothEligible
        [("first", .active), ("second", .active)]).toOption.map
          AutomaticStartPlan.taskIds = some ["a", "b"] := by
      decide +kernel
    obtain ⟨result, planned, tasks⟩ := exists_ok_of_toOption selected
    have open_ := (claim result planned).2.1
    rw [tasks] at open_
    revert open_
    decide +kernel
  · intro claim
    have selected : (plan asciiPython twoPhases otherRunning bothEligible
        [("first", .ready), ("second", .ready)]).toOption.map
          AutomaticStartPlan.taskIds = some [] := by
      decide +kernel
    obtain ⟨result, planned, tasks⟩ := exists_ok_of_toOption selected
    have selectable : Selectable twoPhases bothEligible
        [("first", .ready), ("second", .ready)]
        (occupiedTasks asciiPython twoPhases otherRunning) "b" "second" :=
      ⟨⟨⟨true, []⟩, rfl, rfl⟩, by decide +kernel, rfl, Or.inl rfl⟩
    have breaks := (claim result planned).2.2 "b" "second" selectable
    rw [tasks] at breaks
    revert breaks
    unfold BreaksLimit
    decide +kernel

/-- With room in the only ready Phase. -/
theorem plan_selection_twoPhases :
    ∃ result, plan asciiPython twoPhases (ProjectExecutionRuntimeState.fresh "demo")
        bothEligible [("first", .ready), ("second", .ready)] = .ok result ∧
      result.taskIds = ["a"] ∧
      PlanSelection asciiPython twoPhases (ProjectExecutionRuntimeState.fresh "demo")
        bothEligible [("first", .ready), ("second", .ready)] result.taskIds := by
  have selected : (plan asciiPython twoPhases
      (ProjectExecutionRuntimeState.fresh "demo") bothEligible
      [("first", .ready), ("second", .ready)]).toOption.map
        AutomaticStartPlan.taskIds = some ["a"] := by
    decide +kernel
  obtain ⟨result, planned, tasks⟩ := exists_ok_of_toOption selected
  exact ⟨result, planned, tasks, plan_selection planned⟩

end Execraft.ProjectExecution
