import Execraft.ProjectExecution.GateAuthorization
import Execraft.ProjectExecution.Milestones

/-!
# Which Milestones are achieved

One pass over the Milestones keeps the recorded achievements, adds those whose
requirements are met with a complete baseline, and leaves no such Milestone over.
-/

namespace Execraft.ProjectExecution

open Foundation Foundation.Json Foundation.Graph

variable {py : Python} {view : TaskView}

/-! ## Revisions in a baseline -/

/-- A required Task reports this revision of a repository. -/
def Reports (view : TaskView) (milestone : ProjectMilestone)
    (repository revision : String) : Prop :=
  ∃ taskId ∈ milestone.requires.tasks,
    (repository, revision) ∈ (view.evidence taskId).repositoryRevisions

/-- The baseline maps the repositories that required Tasks mention, each to a
revision that one of them reports; the others report the same or an empty text. -/
def RecordsRevisions (view : TaskView) (milestone : ProjectMilestone)
    (baseline : Row) : Prop :=
  ∃ repositories : Dict String,
    baseline.get "repositories" .null = .object
      (repositories.entries.map fun entry => (entry.1, .string entry.2)) ∧
    (∀ repository revision, Reports view milestone repository revision →
      ∃ recorded, repositories.get? repository = some recorded) ∧
    ∀ repository recorded, repositories.get? repository = some recorded →
      Reports view milestone repository recorded ∧
        ∀ revision, Reports view milestone repository revision →
          revision = recorded ∨ revision = ""

namespace ProjectBaselineBuilder

/-- While no issue is found, each merged report agrees with what is recorded. -/
structure Merged (reports : List (String × String)) (collected : Collected) :
    Prop where
  unique : (collected.repositories.map Prod.fst).Nodup
  recorded : ∀ repository revision,
    getEntry repository collected.repositories = some revision →
      (repository, revision) ∈ reports
  mentioned : ∀ report ∈ reports,
    ∃ revision, getEntry report.1 collected.repositories = some revision ∧
      (collected.issues = [] → report.2 = revision ∨ report.2 = "")

theorem Merged.step {reports : List (String × String)} {collected : Collected}
    (merged : Merged reports collected) (report : String × String) :
    Merged (reports ++ [report]) (mergeRepository collected report) := by
  obtain ⟨repository, revision⟩ := report
  constructor
  · exact nodup_keys_setEntry merged.unique
  · intro other recorded found
    by_cases same : other = repository
    · subst same
      rw [mergeRepository, getEntry_setEntry_self, Option.some.injEq] at found
      rw [← found]
      exact List.mem_append_right _ List.mem_cons_self
    · rw [mergeRepository, getEntry_setEntry_ne same] at found
      exact List.mem_append_left _ (merged.recorded other recorded found)
  · intro other member
    by_cases same : other.1 = repository
    · refine ⟨revision, ?_, ?_⟩
      · rw [same]
        exact getEntry_setEntry_self ..
      · intro clean
        obtain ⟨before, agreed⟩ := List.append_eq_nil_iff.mp clean
        rcases List.mem_append.mp member with earlier | now
        · obtain ⟨prior, found, agrees⟩ := merged.mentioned other earlier
          rw [same] at found
          rw [found, Option.getD_some] at agreed
          by_cases empty : prior = ""
          · rcases agrees before with equal | none
            · exact Or.inr (equal.trans empty)
            · exact Or.inr none
          · by_cases equal : prior = revision
            · rw [← equal]
              exact agrees before
            · simp [empty, equal] at agreed
        · rw [List.mem_singleton.mp now]
          exact Or.inl rfl
    · have earlier : other ∈ reports := by
        rcases List.mem_append.mp member with earlier | now
        · exact earlier
        · rw [List.mem_singleton.mp now] at same
          exact absurd rfl same
      obtain ⟨prior, found, agrees⟩ := merged.mentioned other earlier
      refine ⟨prior, ?_, ?_⟩
      · rw [mergeRepository, getEntry_setEntry_ne same]
        exact found
      · intro clean
        exact agrees (List.append_eq_nil_iff.mp clean).1

theorem Merged.foldl {reports : List (String × String)} {collected : Collected}
    (merged : Merged reports collected) (more : List (String × String)) :
    Merged (reports ++ more) (more.foldl mergeRepository collected) := by
  induction more generalizing reports collected with
  | nil =>
      rw [List.append_nil]
      exact merged
  | cons head tail inductionHypothesis =>
      rw [List.append_cons]
      exact inductionHypothesis (merged.step head)

/-- Only the issues matter besides the repositories. -/
theorem Merged.of_issues {reports : List (String × String)}
    {collected other : Collected} (merged : Merged reports collected)
    (same : other.repositories = collected.repositories)
    (fewer : other.issues = [] → collected.issues = []) : Merged reports other := by
  constructor
  · rw [same]
    exact merged.unique
  · rw [same]
    exact merged.recorded
  · rw [same]
    intro report member
    obtain ⟨revision, found, agrees⟩ := merged.mentioned report member
    exact ⟨revision, found, fun clean => agrees (fewer clean)⟩

/-- `collectTask` on the evidence that it reads. -/
def withEvidence (milestone : ProjectMilestone) (collected : Collected)
    (taskId : String) (evidence : TaskEvidence) : Collected :=
  let merged := evidence.repositoryRevisions.foldl mergeRepository
    { collected with
      issues := collected.issues ++ taskIssues milestone evidence
      taskRows := collected.taskRows.set taskId (.object (taskRow evidence)) }
  { merged with artifacts := merged.artifacts ++ evidence.artifacts }

theorem Merged.withEvidence {reports : List (String × String)}
    {collected : Collected} (merged : Merged reports collected)
    (milestone : ProjectMilestone) (taskId : String) (evidence : TaskEvidence) :
    Merged (reports ++ evidence.repositoryRevisions)
      (withEvidence milestone collected taskId evidence) := by
  let withTask : Collected := { collected with
    issues := collected.issues ++ taskIssues milestone evidence
    taskRows := collected.taskRows.set taskId (.object (taskRow evidence)) }
  have fewer : withTask.issues = [] → collected.issues = [] := by
    intro clean
    exact (List.append_eq_nil_iff.mp clean).1
  have noted : Merged reports withTask := merged.of_issues rfl fewer
  exact (noted.foldl evidence.repositoryRevisions).of_issues rfl id

/-- What the required Tasks bring to a baseline. -/
def survey (view : TaskView) (milestone : ProjectMilestone) : Collected :=
  milestone.requires.tasks.foldl (fun collected taskId =>
    withEvidence milestone collected taskId (view.evidence taskId)) ⟨[], [], [], []⟩

theorem merged_survey (milestone : ProjectMilestone) :
    Merged (milestone.requires.tasks.flatMap fun taskId =>
      (view.evidence taskId).repositoryRevisions) (survey view milestone) := by
  have general : ∀ (tasks : List String) reports collected, Merged reports collected →
      Merged (reports ++ tasks.flatMap fun taskId =>
          (view.evidence taskId).repositoryRevisions)
        (tasks.foldl (fun collected taskId =>
          withEvidence milestone collected taskId (view.evidence taskId))
          collected) := by
    intro tasks
    induction tasks with
    | nil =>
        intro reports collected merged
        rw [List.flatMap_nil, List.append_nil]
        exact merged
    | cons head tail inductionHypothesis =>
        intro reports collected merged
        rw [List.flatMap_cons, ← List.append_assoc, List.foldl_cons]
        exact inductionHypothesis _ _
          (merged.withEvidence milestone head (view.evidence head))
  have start : Merged [] ⟨[], [], [], []⟩ := by
    constructor
    · exact List.nodup_nil
    · intro repository revision found
      cases found
    · intro report member
      cases member
  have whole := general milestone.requires.tasks [] ⟨[], [], [], []⟩ start
  rw [List.nil_append] at whole
  exact whole

/-- The issues of a baseline built in a runtime state. -/
def foundIssues (py : Python) (view : TaskView)
    (runtime : ProjectExecutionRuntimeState) (milestone : ProjectMilestone) :
    List BaselineIssue :=
  (milestone.requires.gates.foldl (collectGate py runtime)
    ([], (survey view milestone).issues)).2

theorem collectGate_issues (runtime : ProjectExecutionRuntimeState)
    (gates : List String) (rows : Row × List BaselineIssue)
    (clean : (gates.foldl (collectGate py runtime) rows).2 = []) : rows.2 = [] := by
  induction gates generalizing rows with
  | nil => exact clean
  | cons head tail inductionHypothesis =>
      exact (List.append_eq_nil_iff.mp (inductionHypothesis _ clean)).1

theorem build_yields {milestone : ProjectMilestone}
    {definition : ProjectExecutionDefinition}
    {runtime : ProjectExecutionRuntimeState} {result : BaselineBuildResult}
    (yields : (build py milestone definition runtime).Yields view.answers result) :
    result.complete = (foundIssues py view runtime milestone).isEmpty ∧
      result.baseline.get "repositories" .null = .object
        ((survey view milestone).repositories.map fun repository =>
          (repository.1, .string repository.2)) := by
  simp only [build, Program.yields_bind, Program.yields_pure] at yields
  obtain ⟨collected, collecting, _, _, same⟩ := yields
  have surveyed : collected = survey view milestone := by
    have general : ∀ (tasks : List String) initial,
        (tasks.foldlM (collectTask milestone) initial).Yields view.answers collected →
          collected = tasks.foldl (fun collected taskId =>
            withEvidence milestone collected taskId (view.evidence taskId)) initial := by
      intro tasks
      induction tasks with
      | nil =>
          intro initial yields
          exact (Program.yields_pure.mp yields).symm
      | cons head tail inductionHypothesis =>
          intro initial yields
          rw [List.foldlM_cons, Program.yields_bind] at yields
          obtain ⟨middle, first, rest⟩ := yields
          simp only [collectTask, Program.yields_bind, yields_evidence,
            Program.yields_pure] at first
          obtain ⟨evidence, told, same⟩ := first
          subst told same
          exact inductionHypothesis _ rest
    exact general milestone.requires.tasks _ collecting
  subst surveyed same
  exact ⟨rfl, rfl⟩

/-- A complete baseline records revisions that agree. -/
theorem build_records {milestone : ProjectMilestone}
    {definition : ProjectExecutionDefinition}
    {runtime : ProjectExecutionRuntimeState} {result : BaselineBuildResult}
    (yields : (build py milestone definition runtime).Yields view.answers result)
    (complete : result.complete = true) :
    RecordsRevisions view milestone result.baseline := by
  obtain ⟨emptied, repositories⟩ := build_yields yields
  rw [complete, eq_comm, List.isEmpty_iff] at emptied
  have clean : (survey view milestone).issues = [] :=
    collectGate_issues runtime milestone.requires.gates _ emptied
  have merged := @merged_survey view milestone
  have reports : ∀ repository revision, Reports view milestone repository revision ↔
      (repository, revision) ∈ milestone.requires.tasks.flatMap fun taskId =>
        (view.evidence taskId).repositoryRevisions := by
    intro repository revision
    rw [List.mem_flatMap]
    exact Iff.rfl
  refine ⟨⟨_, merged.unique⟩, repositories, ?_, ?_⟩
  · intro repository revision reported
    obtain ⟨recorded, found, _⟩ :=
      merged.mentioned _ ((reports repository revision).mp reported)
    exact ⟨recorded, found⟩
  · intro repository recorded found
    refine ⟨(reports _ _).mpr (merged.recorded repository recorded found), ?_⟩
    intro revision reported
    obtain ⟨other, same, agrees⟩ :=
      merged.mentioned _ ((reports repository revision).mp reported)
    have equal : other = recorded := Option.some.inj (same.symm.trans found)
    rw [← equal]
    exact agrees clean

theorem collectGate_congr {left right : ProjectExecutionRuntimeState}
    (same : left.gates = right.gates) : collectGate py left = collectGate py right := by
  funext rows gateId
  have row : left.gateRow gateId = right.gateRow gateId :=
    gateRow_congr (congrArg (fun gates => gates.get? gateId) same)
  rw [collectGate, collectGate, row]

end ProjectBaselineBuilder

/-! ## Achievements -/

/-- The requirements of a Milestone that is not cancelled are met. -/
structure Ready (py : Python) (view : TaskView)
    (runtime : ProjectExecutionRuntimeState) (milestone : ProjectMilestone) : Prop where
  active : milestone.id ∉ runtime.cancelledMilestones
  tasks : ∀ taskId ∈ milestone.requires.tasks, view.outcome taskId = .completed
  gates : ∀ gateId ∈ milestone.requires.gates, gateSatisfied py runtime gateId = true
  milestones : ∀ requiredId ∈ milestone.requires.milestones,
    requiredId ∈ runtime.milestoneAchievements.keys

theorem evaluateMilestone_yields {milestone : ProjectMilestone}
    {runtime : ProjectExecutionRuntimeState} {projection : MilestoneProjection}
    (fresh : milestone.id ∉ runtime.milestoneAchievements.keys)
    (yields : (evaluateMilestone py milestone runtime).Yields view.answers
      projection) :
    (projection.state = .pending ∧ projection.missing = []) ↔
      Ready py view runtime milestone := by
  unfold evaluateMilestone at yields
  by_cases cancelled : milestone.id ∈ runtime.cancelledMilestones
  · rw [if_pos cancelled, Program.yields_pure] at yields
    rw [← yields]
    constructor
    · rintro ⟨pending, _⟩
      cases pending
    · intro ready
      exact absurd cancelled ready.active
  · rw [if_neg cancelled, if_neg fresh] at yields
    simp only [Program.yields_bind, Program.yields_pure] at yields
    obtain ⟨missing, evaluated, same⟩ := yields
    have tasks : missing = [] ↔
        ∀ taskId ∈ milestone.requires.tasks, view.outcome taskId = .completed := by
      apply Program.yields_foldlM (motive := fun front missing =>
        missing = [] ↔ ∀ taskId ∈ front, view.outcome taskId = .completed)
        _ (by simp) evaluated
      intro front taskId back missing next _ before step
      simp only [Program.yields_bind, yields_outcome, Program.yields_pure] at step
      obtain ⟨outcome, told, rest⟩ := step
      subst told
      rw [← rest, List.forall_mem_append, ← before]
      by_cases completed : view.outcome taskId = .completed
      · simp [completed]
      · simp [completed]
    rw [← same]
    simp only [List.append_eq_nil_iff, List.map_eq_nil_iff, List.filter_eq_nil_iff,
      true_and, tasks]
    constructor
    · rintro ⟨⟨tasksMet, gatesMet⟩, milestonesMet⟩
      exact ⟨cancelled, tasksMet, by simpa using gatesMet,
        by simpa using milestonesMet⟩
    · intro ready
      exact ⟨⟨ready.tasks, by simpa using ready.gates⟩,
        by simpa using ready.milestones⟩

/-- What a visit of one Milestone does. -/
theorem achieveIfReady_yields {definition : ProjectExecutionDefinition}
    {milestone : ProjectMilestone} {runtime : ProjectExecutionRuntimeState}
    {achieved : ProjectExecutionRuntimeState × Option BaselineBuildResult}
    (yields : (achieveIfReady py definition milestone runtime).Yields view.answers
      achieved) :
    achieved.1 = runtime ∧ (milestone.id ∈ runtime.milestoneAchievements.keys ∨
        ¬ (Ready py view runtime milestone ∧
          ProjectBaselineBuilder.foundIssues py view runtime milestone = [])) ∨
      milestone.id ∉ runtime.milestoneAchievements.keys ∧
        Ready py view runtime milestone ∧
        ∃ baseline, RecordsRevisions view milestone baseline ∧
          achieved.1 = { runtime with
            milestoneAchievements :=
              runtime.milestoneAchievements.set milestone.id baseline } := by
  unfold achieveIfReady at yields
  by_cases recorded : milestone.id ∈ runtime.milestoneAchievements.keys
  · rw [if_pos recorded, Program.yields_pure] at yields
    rw [← yields]
    exact Or.inl ⟨rfl, Or.inl recorded⟩
  · rw [if_neg recorded, Program.yields_bind] at yields
    obtain ⟨projection, evaluated, yields⟩ := yields
    have ready := evaluateMilestone_yields recorded evaluated
    by_cases open_ : projection.state ≠ .pending ∨ projection.missing ≠ []
    · rw [if_pos open_, Program.yields_pure] at yields
      rw [← yields]
      refine Or.inl ⟨rfl, Or.inr ?_⟩
      rintro ⟨met, _⟩
      obtain ⟨pending, complete⟩ := ready.mpr met
      rcases open_ with other | missing
      · exact other pending
      · exact missing complete
    · rw [if_neg open_, Program.yields_bind] at yields
      rw [not_or, not_not, not_not] at open_
      obtain ⟨result, built, yields⟩ := yields
      by_cases complete : result.complete = true
      · simp only [complete, Bool.not_true, Bool.false_eq_true, if_false,
          Program.yields_bind, Program.yields_pure] at yields
        obtain ⟨_, _, same⟩ := yields
        rw [← same]
        exact Or.inr ⟨recorded, ready.mp open_, result.baseline,
          ProjectBaselineBuilder.build_records built complete, rfl⟩
      · simp only [complete, Bool.not_false, if_true, Program.yields_pure] at yields
        rw [← yields]
        refine Or.inl ⟨rfl, Or.inr ?_⟩
        rintro ⟨_, clean⟩
        rw [(ProjectBaselineBuilder.build_yields built).1, clean] at complete
        exact complete rfl

/-! ## All Milestones -/

section AllMilestones

variable {definition : ProjectExecutionDefinition}
  {before runtime after : ProjectExecutionRuntimeState}

/-- What a pass over the Milestones leaves behind it. -/
structure Achieved (py : Python) (view : TaskView)
    (definition : ProjectExecutionDefinition)
    (before after : ProjectExecutionRuntimeState) : Prop where
  frame : after = { before with
    milestoneAchievements := after.milestoneAchievements }
  kept : ∀ milestoneId baseline,
    before.milestoneAchievements.get? milestoneId = some baseline →
      after.milestoneAchievements.get? milestoneId = some baseline
  sound : ∀ milestoneId baseline,
    before.milestoneAchievements.get? milestoneId = none →
      after.milestoneAchievements.get? milestoneId = some baseline →
        ∃ milestone ∈ definition.milestones, milestone.id = milestoneId ∧
          Ready py view after milestone ∧ RecordsRevisions view milestone baseline

  complete : ∀ milestone ∈ definition.milestones,
    milestone.id ∉ after.milestoneAchievements.keys →
      Ready py view after milestone → ∀ result,
        (ProjectBaselineBuilder.build py milestone definition after).Yields
          view.answers result → result.complete = false

theorem Ready.of {left right : ProjectExecutionRuntimeState}
    {milestone : ProjectMilestone} (ready : Ready py view left milestone)
    (cancelled : right.cancelledMilestones = left.cancelledMilestones)
    (gates : right.gates = left.gates)
    (milestones : ∀ requiredId ∈ milestone.requires.milestones,
      requiredId ∈ left.milestoneAchievements.keys →
        requiredId ∈ right.milestoneAchievements.keys) :
    Ready py view right milestone := by
  constructor
  · rw [cancelled]
    exact ready.active
  · exact ready.tasks
  · intro gateId required
    have row : right.gateRow gateId = left.gateRow gateId :=
      gateRow_congr (congrArg (fun gates => gates.get? gateId) gates)
    rw [gateSatisfied, row]
    exact ready.gates gateId required
  · intro requiredId required
    exact milestones requiredId required (ready.milestones requiredId required)

/-- What holds when the Milestones in `front` are visited. -/
structure Visited (py : Python) (view : TaskView)
    (definition : ProjectExecutionDefinition)
    (before : ProjectExecutionRuntimeState) (front : List String)
    (runtime : ProjectExecutionRuntimeState) : Prop where
  frame : runtime = { before with
    milestoneAchievements := runtime.milestoneAchievements }
  kept : ∀ milestoneId baseline,
    before.milestoneAchievements.get? milestoneId = some baseline →
      runtime.milestoneAchievements.get? milestoneId = some baseline
  sound : ∀ milestoneId baseline,
    before.milestoneAchievements.get? milestoneId = none →
      runtime.milestoneAchievements.get? milestoneId = some baseline →
        ∃ milestone ∈ definition.milestones, milestone.id = milestoneId ∧
          Ready py view runtime milestone ∧ RecordsRevisions view milestone baseline
  settled : ∀ milestone ∈ definition.milestones, milestone.id ∈ front →
    milestone.id ∈ runtime.milestoneAchievements.keys ∨
      ¬ (Ready py view runtime milestone ∧
        ProjectBaselineBuilder.foundIssues py view runtime milestone = [])

/-- Visiting one more Milestone behind those that it requires. -/
theorem Visited.step {front : List String}
    (visited : Visited py view definition before front runtime)
    (unique : definition.milestoneIds.Nodup) {milestone : ProjectMilestone}
    (member : milestone ∈ definition.milestones) (fresh : milestone.id ∉ front)
    (closed : ∀ other ∈ definition.milestones, other.id ∈ front →
      ∀ requiredId ∈ other.requires.milestones, requiredId ∈ front)
    {achieved : ProjectExecutionRuntimeState × Option BaselineBuildResult}
    (yields : (achieveIfReady py definition milestone runtime).Yields view.answers
      achieved) :
    Visited py view definition before (front ++ [milestone.id]) achieved.1 := by
  have sameMilestone : ∀ other ∈ definition.milestones, other.id = milestone.id →
      other = milestone := fun other otherMember same =>
    List.inj_on_of_nodup_map unique otherMember member same
  rcases achieveIfReady_yields yields with
    ⟨unchanged, reason⟩ | ⟨missing, ready, baseline, records, changed⟩
  · rw [unchanged]
    refine ⟨visited.frame, visited.kept, visited.sound, ?_⟩
    intro other otherMember listed
    rcases List.mem_append.mp listed with earlier | now
    · exact visited.settled other otherMember earlier
    · rw [sameMilestone other otherMember (List.mem_singleton.mp now)]
      exact reason
  · have grows : ∀ name, name ∈ runtime.milestoneAchievements.keys →
        name ∈ achieved.1.milestoneAchievements.keys := by
      intro name inside
      rw [changed]
      exact mem_keys_setEntry.mpr (Or.inr inside)
    have keepsReady : ∀ other, Ready py view runtime other →
        Ready py view achieved.1 other := by
      intro other holds
      exact holds.of (by rw [changed]) (by rw [changed]) fun name _ => grows name
    have others : ∀ name, name ≠ milestone.id →
        achieved.1.milestoneAchievements.get? name =
          runtime.milestoneAchievements.get? name := by
      intro name different
      rw [changed]
      exact Dict.get?_set_ne _ different _
    have absent : runtime.milestoneAchievements.get? milestone.id = none := by
      rw [Dict.mem_keys_iff] at missing
      simpa using missing
    constructor
    · rw [changed, visited.frame]
    · intro name recorded found
      have still := visited.kept name recorded found
      rw [others name]
      · exact still
      · rintro rfl
        rw [absent] at still
        cases still
    · intro name recorded new found
      by_cases same : name = milestone.id
      · subst same
        rw [changed, Dict.get?_set_self, Option.some.injEq] at found
        rw [← found]
        exact ⟨milestone, member, rfl, keepsReady milestone ready, records⟩
      · rw [others name same] at found
        obtain ⟨other, otherMember, named, holds, right⟩ :=
          visited.sound name recorded new found
        exact ⟨other, otherMember, named, keepsReady other holds, right⟩
    · intro other otherMember listed
      by_cases same : other.id = milestone.id
      · left
        rw [same, changed]
        exact mem_keys_setEntry.mpr (Or.inl rfl)
      · have inFront : other.id ∈ front := by
          rcases List.mem_append.mp listed with earlier | now
          · exact earlier
          · exact absurd (List.mem_singleton.mp now) same
        rcases visited.settled other otherMember inFront with done | unready
        · exact Or.inl (grows _ done)
        · right
          rintro ⟨holds, clean⟩
          apply unready
          constructor
          · apply holds.of (by rw [changed]) (by rw [changed])
            intro requiredId required inside
            have listedBefore := closed other otherMember inFront requiredId required
            rw [Dict.mem_keys_iff, others] at inside
            · exact Dict.mem_keys_iff.mpr inside
            · rintro rfl
              exact fresh listedBefore
          · have gates : runtime.gates = achieved.1.gates := by rw [changed]
            rw [ProjectBaselineBuilder.foundIssues,
              ProjectBaselineBuilder.collectGate_congr gates]
            exact clean

/-- One pass over the Milestones, against a port with constant answers. -/
theorem evaluateMilestones_achieved (unique : definition.milestoneIds.Nodup)
    (evaluated : (evaluateMilestones py definition before).Yields view.answers after) :
    Achieved py view definition before after := by
  simp only [evaluateMilestones, Program.yields_bind, yields_check] at evaluated
  obtain ⟨order, ordered, evaluated⟩ := evaluated
  have start : Visited py view definition before [] before := by
    refine ⟨rfl, fun _ _ found => found, ?_, ?_⟩
    · intro name recorded new found
      rw [new] at found
      cases found
    · intro milestone _ listed
      cases listed
  have visited : Visited py view definition before order after := by
    apply yields_topological ordered start _ evaluated
    intro front milestoneId runtime next fresh closed _ visited evaluated
    cases found : definition.findMilestone milestoneId with
    | none => simp [found] at evaluated
    | some milestone =>
        obtain ⟨member, same⟩ :=
          (ProjectExecutionDefinition.findMilestone_eq_some unique).mp found
        subst same
        simp only [found, Program.yields_bind, Program.yields_pure] at evaluated
        obtain ⟨achieved, achieving, same⟩ := evaluated
        subst same
        apply visited.step unique member fresh _ achieving
        intro other otherMember inFront requiredId required
        apply closed other.id inFront
        rw [milestoneAdjacency_get,
          (ProjectExecutionDefinition.findMilestone_eq_some unique).mpr
            ⟨otherMember, rfl⟩]
        exact required
  refine ⟨visited.frame, visited.kept, visited.sound, ?_⟩
  intro milestone member missing ready result built
  have listed : milestone.id ∈ order := by
    apply (topologicalOrder_complete ordered).listed
    rw [milestoneAdjacency, List.map_map]
    exact List.mem_map_of_mem member
  rcases visited.settled milestone member listed with done | unready
  · exact absurd done missing
  · rw [(ProjectBaselineBuilder.build_yields built).1, List.isEmpty_eq_false_iff]
    intro clean
    exact unready ⟨ready, clean⟩

end AllMilestones

/-! ## An instance -/

/-- The sample with a Milestone for both of its Tasks. -/
def ProjectExecutionDefinition.pairSample : ProjectExecutionDefinition :=
  { sample with milestones := [⟨"beta", "Beta", "", "2026-01-05", "2026-02-01",
      ⟨["task-b", "task-a"], [], []⟩, .candidate⟩] }

theorem ProjectExecutionDefinition.pairSample_constructs :
    pairSample.Constructs asciiPython where
  phases := sample_constructs.phases
  tasks := sample_constructs.tasks
  gates := sample_constructs.gates
  milestones := by
    intro milestone member
    rw [List.mem_singleton.mp member]
    refine ⟨⟨.array [.string "task-b", .string "task-a"], .null, .null,
      by decide +kernel⟩, .string "beta", .string "Beta", .null,
      .string "2026-01-05", .string "2026-02-01", .string "candidate", ?_⟩
    decide +kernel
  policy := sample_constructs.policy
  constructed := ⟨.string "demo", .int 3, .string "automatic", by decide +kernel⟩

/-- Both Tasks are completed and name these revisions of one repository. -/
def revisionsView (first second : String) : TaskView where
  describe taskId := ⟨taskId, true, true, true, "completed", .completed⟩
  evidence taskId := ⟨taskId, .completed, "task", "plan", ⟨"passed", 1, 0, 1⟩,
    [("core", if taskId = "task-b" then first else second)], []⟩

/-- The pass over the Milestones of the sample, and what it records. -/
theorem pairSample_evaluated {first second : String}
    (recorded : ((evaluateMilestones asciiPython ProjectExecutionDefinition.pairSample
        (ProjectExecutionRuntimeState.fresh "demo")).execute
          (revisionsView first second).replies).map
        (fun after => (after.milestoneAchievements.get? "beta").map
          fun baseline => baseline.get "repositories" .null) =
      .ok (some (.object [("core", .string second)]))) :
    ∃ after baseline, (evaluateMilestones asciiPython
        ProjectExecutionDefinition.pairSample
        (ProjectExecutionRuntimeState.fresh "demo")).Yields
          (revisionsView first second).answers after ∧
      after.milestoneAchievements.get? "beta" = some baseline ∧
      baseline.get "repositories" .null = .object [("core", .string second)] := by
  cases executed : (evaluateMilestones asciiPython
      ProjectExecutionDefinition.pairSample
      (ProjectExecutionRuntimeState.fresh "demo")).execute
        (revisionsView first second).replies with
  | error failure =>
      rw [executed] at recorded
      cases recorded
  | ok after =>
      rw [executed] at recorded
      have found := Except.ok.inj recorded
      rw [Option.map_eq_some_iff] at found
      obtain ⟨baseline, found, same⟩ := found
      exact ⟨after, baseline, Program.yields_of_execute
        (revisionsView first second).replies_answers executed, found, same⟩

theorem pairSample_achieved :
    ∃ after, Achieved asciiPython (revisionsView "abc" "abc")
        ProjectExecutionDefinition.pairSample
        (ProjectExecutionRuntimeState.fresh "demo") after ∧
      "beta" ∈ after.milestoneAchievements.keys := by
  obtain ⟨after, baseline, evaluated, found, _⟩ :=
    @pairSample_evaluated "abc" "abc" (by decide +kernel)
  have unique :=
    ProjectExecutionDefinition.pairSample_constructs.uniqueIds.milestones
  refine ⟨after, evaluateMilestones_achieved unique evaluated, ?_⟩
  rw [Dict.mem_keys_iff, found]
  rfl

/-- A Task may report an empty revision of a repository for which the baseline of
a new achievement records the revision of another Task. -/
theorem not_recordsEveryReport :
    ∃ view after baseline,
      ProjectExecutionDefinition.pairSample.Constructs asciiPython ∧
      validateDefinition asciiPython ProjectExecutionDefinition.pairSample none =
        .ok () ∧
      (evaluateMilestones asciiPython ProjectExecutionDefinition.pairSample
        (ProjectExecutionRuntimeState.fresh "demo")).Yields
          (TaskView.answers view) after ∧
      after.milestoneAchievements.get? "beta" = some baseline ∧
      ∃ milestone ∈ ProjectExecutionDefinition.pairSample.milestones,
        milestone.id = "beta" ∧ ∃ repository recorded revision,
          baseline.get "repositories" .null =
            .object [(repository, .string recorded)] ∧
          Reports view milestone repository revision ∧ revision ≠ recorded := by
  obtain ⟨after, baseline, evaluated, found, same⟩ :=
    @pairSample_evaluated "" "abc" (by decide +kernel)
  refine ⟨revisionsView "" "abc", after, baseline,
    ProjectExecutionDefinition.pairSample_constructs, by decide +kernel, evaluated,
    found, _, List.mem_cons_self, rfl, "core", "abc", "", same, ?_, by decide⟩
  exact ⟨"task-b", List.mem_cons_self, List.mem_cons_self⟩

end Execraft.ProjectExecution
