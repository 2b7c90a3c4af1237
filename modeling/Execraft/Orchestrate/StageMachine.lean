import Execraft.Orchestrate.PackageStage

/-!
# The machine of the stages

What the handling of a stage can do to a package, told only by how far the package has
come and by what the journal says of it.  The handlers of the orchestrator refine this
machine.
-/

namespace Execraft.Orchestrate

open Foundation

/-! ## The moves of the machine -/

/-- The journal entry of a change of stage. -/
def stageEdge (fromStage toStage : WorkPackageStage) : List StageEvent :=
  if fromStage = toStage then [] else [.stageTransition fromStage toStage]

inductive StageOutcome where
  | handled (disposition : StageDisposition)
  | waiting
  | stopped
  deriving DecidableEq

/-- A package that waits for an agent is dispatched again; the other signals are final. -/
def StageSignal.outcome : StageSignal → StageOutcome
  | .agentWaitRequested => .waiting
  | .stageEscalated => .stopped
  | .failed _ => .stopped

/-- Where a failed verification sends a package. -/
def retryStage (progress : Progress) : WorkPackageStage :=
  if progress.kind = .repositorySync ∧ progress.stage = .regressionVerify then
    .fixReview
  else
    .implement

/-- The findings of a review are queued for their repair within one of the budgets. -/
inductive RepairQueued (config : OrchestrationConfig) (progress : Progress) :
    Progress → Prop where
  | ordinary (within : progress.reviewCycles + 1 ≤ config.maxReviewCycles) :
      RepairQueued config progress
        { progress with
          stage := .fixReview
          reviewCycles := progress.reviewCycles + 1 }
  | rescue (exhausted : (config.maxReviewCycles : Int) < progress.reviewCycles + 1)
      (within : progress.reviewRecoveryCycles <
        config.recoveryPlaybookPolicy.reviewExhausted.maxRescueCycles) :
      RepairQueued config progress
        { progress with
          stage := .fixReview
          status := "pending"
          reviewCycles := progress.reviewCycles + 1
          reviewRecoveryCycles := progress.reviewRecoveryCycles + 1 }

/-- A package at a stage is left with a status of its own. -/
def Progress.decided (progress : Progress) (decompositionStatus : String) : Progress :=
  { progress with
    decompositionStatus := decompositionStatus
    decompositionRequired := false }

/-- A package that now waits for its shards. -/
def Progress.expanded (progress : Progress) (dependencies : List String) : Progress :=
  { progress.decided "expanded" with
    executionMode := "aggregate"
    dependencies := dependencies }

/-- The stage to which a package returns that was kept whole. -/
def Progress.origin? (progress : Progress) : Option WorkPackageStage :=
  WorkPackageStage.ofValue?
    (if progress.decompositionOriginStage = "" then
      WorkPackageStage.implement.value
    else
      progress.decompositionOriginStage)

/-- One handling of a stage, with its milestones in the journal. -/
inductive StageMove (config : OrchestrationConfig) (progress : Progress) :
    List StageEvent → StageOutcome → Progress → Prop where
  | interrupted (signal : StageSignal) : StageMove config progress [] signal.outcome progress
  | prepared (stage : progress.stage = .prepare) :
      StageMove config progress [.stageTransition .prepare .implement]
        (.handled .proceed)
        { progress with stage := .implement }
  | implemented (stage : progress.stage = .implement) :
      StageMove config progress [.stageTransition .implement .fastVerify]
        (.handled .proceed)
        { progress with stage := .fastVerify }
  | verified (next : WorkPackageStage) (attempts : Int)
      (stage : (progress.stage = .fastVerify ∧ next = .review) ∨
        (progress.stage = .regressionVerify ∧ next = .finalReview))
      (reset : attempts = 0 ∨ attempts = progress.verificationAttempts) :
      StageMove config progress
        [.verificationPassed, .stageTransition progress.stage next] (.handled .proceed)
        { progress with
          stage := next
          verificationAttempts := attempts }
  | verifiedUnmarked :
      StageMove config progress [.verificationPassed] .stopped
        { progress with verificationAttempts := 0 }
  | verificationFailed
      (stage : progress.stage = .fastVerify ∨ progress.stage = .regressionVerify)
      (within : progress.verificationAttempts + 1 < config.maxVerificationAttempts) :
      StageMove config progress
        [.verificationFailed, .stageTransition progress.stage (retryStage progress)]
        (.handled .stop)
        { progress with
          stage := retryStage progress
          verificationAttempts := progress.verificationAttempts + 1 }
  | verificationExhausted
      (exhausted :
        (config.maxVerificationAttempts : Int) ≤ progress.verificationAttempts + 1) :
      StageMove config progress [.verificationFailed] .stopped
        { progress with
          verificationAttempts := progress.verificationAttempts + 1 }
  | shardReviewed (stage : progress.stage = .review)
      (shard : progress.executionMode = "review_shard") :
      StageMove config progress [.stageTransition .review .completed] (.handled .stop)
        { progress with
          stage := .completed
          status := "completed" }
  | repairQueued (target : Progress)
      (stage : progress.stage = .review ∨ progress.stage = .finalReview)
      (queued : RepairQueued config progress target) :
      StageMove config progress [.stageTransition progress.stage .fixReview]
        (.handled (if progress.stage = .review then .proceed else .stop)) target
  | reviewExhausted
      (exhausted : (config.maxReviewCycles : Int) < progress.reviewCycles + 1) :
      StageMove config progress [] .stopped
        { progress with reviewCycles := progress.reviewCycles + 1 }
  | approved (next : WorkPackageStage) (stage : progress.stage = .review)
      (after : next = .finalReview ∨ next = .readyToCommit) :
      StageMove config progress [.stageTransition .review next] (.handled .proceed)
        { progress with stage := next }
  | repaired (stage : progress.stage = .fixReview) :
      StageMove config progress [.stageTransition .fixReview .regressionVerify]
        (.handled .proceed)
        { progress with stage := .regressionVerify }
  | finallyApproved (stage : progress.stage = .finalReview) :
      StageMove config progress [.stageTransition .finalReview .readyToCommit]
        (.handled .proceed)
        { progress with stage := .readyToCommit }
  | committed (stage : progress.stage = .readyToCommit) :
      StageMove config progress [.stageTransition .readyToCommit .completed]
        (.handled .stop)
        { progress with
          stage := .completed
          status := "completed" }
  | rewound (outcome : StageOutcome) (stage : progress.stage = .readyToCommit)
      (recovers : config.strictChecks = true ∧ config.scopeRecoveryPolicy.enabled = true)
      (ordinary : progress.kind ≠ .repositorySync)
      (ends : outcome ≠ .handled .proceed) :
      StageMove config progress [.stageTransition .readyToCommit .regressionVerify] outcome
        { progress with
          stage := .regressionVerify
          status := "pending" }
  | keptWhole (origin : WorkPackageStage) (stage : progress.stage = .decompose)
      (returns : progress.origin? = some origin) :
      StageMove config progress (stageEdge .decompose origin) (.handled .proceed)
        { progress.decided "atomic" with stage := origin }
  | keptWholeBlocked (signal : StageSignal) (stage : progress.stage = .decompose) :
      StageMove config progress [] signal.outcome (progress.decided "atomic")
  | expanded (origin : WorkPackageStage) (dependencies : List String)
      (stage : progress.stage = .decompose) (returns : progress.origin? = some origin) :
      StageMove config progress (stageEdge .decompose (aggregateStage origin))
        (.handled .stop)
        { progress.expanded dependencies with stage := aggregateStage origin }
  | expandedBlocked (signal : StageSignal) (dependencies : List String)
      (stage : progress.stage = .decompose) :
      StageMove config progress [] signal.outcome (progress.expanded dependencies)

/-! ## What a program does to a session -/

/-- A package as a decomposition makes it. -/
structure Progress.IsShard (progress : Progress) : Prop where
  kind : progress.kind = .development
  stage : progress.stage = .prepare ∨ progress.stage = .review ∨ progress.stage = .fixReview
  status : progress.status = "pending"
  undecided : progress.decompositionStatus = ""
  origin : progress.decompositionOriginStage = ""
  optional : progress.decompositionRequired = false

/-- The graph has got new shards; the other packages have come no further. -/
def GraphGrows (before after : PlanGraph) : Prop :=
  ∃ children : List WorkPackage,
    after.map WorkPackage.progress =
        before.map WorkPackage.progress ++ children.map WorkPackage.progress ∧
      (∀ child ∈ children, child.progress.IsShard) ∧
      (children.map WorkPackage.id).Nodup ∧
      ∀ child ∈ children, child.id ∉ before.map WorkPackage.id

theorem ids_eq_progress (graph : PlanGraph) :
    graph.map WorkPackage.id = (graph.map WorkPackage.progress).map Progress.id := by
  rw [List.map_map]
  rfl

namespace GraphGrows

theorem ofSame {before after : PlanGraph}
    (same : after.map WorkPackage.progress = before.map WorkPackage.progress) :
    GraphGrows before after :=
  ⟨[], by rw [same, List.map_nil, List.append_nil],
    fun _ member => absurd member List.not_mem_nil, List.nodup_nil,
    fun _ member => absurd member List.not_mem_nil⟩

theorem refl (graph : PlanGraph) : GraphGrows graph graph :=
  ofSame rfl

theorem trans {first second third : PlanGraph} (one : GraphGrows first second)
    (two : GraphGrows second third) : GraphGrows first third := by
  obtain ⟨children, grown, shards, unique, fresh⟩ := one
  obtain ⟨others, further, shardsToo, uniqueToo, freshToo⟩ := two
  have ids : second.map WorkPackage.id =
      first.map WorkPackage.id ++ children.map WorkPackage.id := by
    rw [ids_eq_progress, grown, List.map_append, ← ids_eq_progress, ← ids_eq_progress]
  refine ⟨children ++ others, ?_, ?_, ?_, ?_⟩
  · rw [further, grown, List.map_append, List.append_assoc]
  · intro child member
    rcases List.mem_append.mp member with early | late
    · exact shards child early
    · exact shardsToo child late
  · rw [List.map_append]
    refine List.nodup_append.mpr ⟨unique, uniqueToo, ?_⟩
    intro name early other late same
    obtain ⟨child, member, named⟩ := List.mem_map.mp late
    refine freshToo child member ?_
    rw [ids, named, ← same]
    exact List.mem_append_right _ early
  · intro child member
    rcases List.mem_append.mp member with early | late
    · exact fresh child early
    · intro present
      refine freshToo child late ?_
      rw [ids]
      exact List.mem_append_left _ present

/-- Identities stay unique. -/
theorem nodup {before after : PlanGraph} (grows : GraphGrows before after)
    (unique : (before.map WorkPackage.id).Nodup) : (after.map WorkPackage.id).Nodup := by
  obtain ⟨children, grown, _, distinct, fresh⟩ := grows
  rw [ids_eq_progress, grown, List.map_append, ← ids_eq_progress, ← ids_eq_progress]
  refine List.nodup_append.mpr ⟨unique, distinct, ?_⟩
  intro name present other added same
  obtain ⟨child, member, named⟩ := List.mem_map.mp added
  refine fresh child member ?_
  rw [named, ← same]
  exact present

end GraphGrows

/-- The dependencies of the package and of the graph name packages of the graph. -/
def StageSession.Closed (session : StageSession) : Prop :=
  session.package.dependencies ⊆ session.record.planGraph.map WorkPackage.id ∧
    session.record.planGraph.Closed

theorem PlanGraph.Closed.ofSame {before after : PlanGraph} (closed : before.Closed)
    (same : after.map WorkPackage.progress = before.map WorkPackage.progress) :
    after.Closed := by
  intro package member
  rw [ids_eq_progress, same, ← ids_eq_progress]
  have listed : package.progress ∈ before.map WorkPackage.progress := by
    rw [← same]
    exact List.mem_map_of_mem member
  obtain ⟨other, present, equal⟩ := List.mem_map.mp listed
  have dependencies : other.dependencies = package.dependencies :=
    congrArg Progress.dependencies equal
  rw [← dependencies]
  exact closed other present

theorem StageSession.Closed.ofSame {before after : StageSession} (closed : before.Closed)
    (dependencies : after.package.dependencies = before.package.dependencies)
    (same : after.record.planGraph.map WorkPackage.progress =
      before.record.planGraph.map WorkPackage.progress) : after.Closed := by
  refine ⟨?_, closed.2.ofSame same⟩
  rw [dependencies, ids_eq_progress, same, ← ids_eq_progress]
  exact closed.1

theorem Steady.closed {before after : StageSession} (steady : Steady before after)
    (closed : before.Closed) : after.Closed :=
  closed.ofSame (congrArg Progress.dependencies steady.progress)
    (congrArg (List.map WorkPackage.progress) steady.planGraph)

/-- The session has come to this point, with these milestones. -/
structure Advances (trace : List StageEvent) (target : Progress)
    (before after : StageSession) : Prop where
  progress : after.package.progress = target
  milestones : after.milestones = before.milestones ++ trace
  graph : GraphGrows before.record.planGraph after.record.planGraph
  counted : before.package.stage ≠ .completed → target.stage = .completed →
    after.record.completedPackages = after.graph.completedCount
  uncounted : target.stage ≠ .completed →
    after.record.completedPackages = before.record.completedPackages
  closed : before.Closed → after.Closed

namespace Advances

theorem ofSteady {before after : StageSession} (steady : Steady before after) :
    Advances [] before.package.progress before after := by
  refine ⟨steady.progress, ?_, ?_, ?_, fun _ => steady.completedPackages, steady.closed⟩
  · rw [steady.milestones, List.append_nil]
  · rw [steady.planGraph]
    exact GraphGrows.refl _
  · intro unfinished finished
    exact absurd finished unfinished

theorem afterSteady {trace : List StageEvent} {target : Progress}
    {first second third : StageSession} (steady : Steady first second)
    (moves : Advances trace target second third) : Advances trace target first third := by
  refine ⟨moves.progress, ?_, ?_, ?_, ?_, fun closed => moves.closed (steady.closed closed)⟩
  · rw [moves.milestones, steady.milestones]
  · rw [← steady.planGraph]
    exact moves.graph
  · intro unfinished
    rw [← steady.stage] at unfinished
    exact moves.counted unfinished
  · intro unfinished
    rw [moves.uncounted unfinished, steady.completedPackages]

theorem ofChanged {trace : List StageEvent} {target : Progress}
    {before after : StageSession} {package : WorkPackage}
    (stage : package.stage = before.package.stage)
    (dependencies : package.dependencies = before.package.dependencies)
    (moves : Advances trace target { before with package := package } after) :
    Advances trace target before after :=
  ⟨moves.progress, moves.milestones, moves.graph,
    fun unfinished => moves.counted (by rw [stage]; exact unfinished), moves.uncounted,
    fun closed => moves.closed (closed.ofSame dependencies rfl)⟩

theorem trans {trace more : List StageEvent} {middle target : Progress}
    {first second third : StageSession} (one : Advances trace middle first second)
    (unfinished : middle.stage ≠ .completed) (two : Advances more target second third) :
    Advances (trace ++ more) target first third := by
  have stage : second.package.stage = middle.stage := congrArg Progress.stage one.progress
  refine ⟨two.progress, ?_, one.graph.trans two.graph, ?_, ?_,
    fun closed => two.closed (one.closed closed)⟩
  · rw [two.milestones, one.milestones, List.append_assoc]
  · intro _
    exact two.counted (by rw [stage]; exact unfinished)
  · intro further
    rw [two.uncounted further, one.uncounted unfinished]

theorem beforeSteady {trace : List StageEvent} {target : Progress}
    {first second third : StageSession} (moves : Advances trace target first second)
    (unfinished : target.stage ≠ .completed) (steady : Steady second third) :
    Advances trace target first third := by
  refine ⟨steady.progress.trans moves.progress, ?_, ?_, ?_, ?_,
    fun closed => steady.closed (moves.closed closed)⟩
  · rw [steady.milestones, moves.milestones]
  · rw [steady.planGraph]
    exact moves.graph
  · intro _ finished
    exact absurd finished unfinished
  · intro further
    rw [steady.completedPackages, moves.uncounted further]

theorem stage {trace : List StageEvent} {target : Progress} {before after : StageSession}
    (moves : Advances trace target before after) : after.package.stage = target.stage :=
  congrArg Progress.stage moves.progress

end Advances

/-- The session has made one move of the machine. -/
def Reaches (config : OrchestrationConfig) (outcome : StageOutcome)
    (before after : StageSession) : Prop :=
  ∃ trace target, StageMove config before.package.progress trace outcome target ∧
    Advances trace target before after

theorem Reaches.afterSteady {config : OrchestrationConfig} {outcome : StageOutcome}
    {first second third : StageSession} (steady : Steady first second)
    (reaches : Reaches config outcome second third) :
    Reaches config outcome first third := by
  obtain ⟨trace, target, move, moves⟩ := reaches
  rw [steady.progress] at move
  exact ⟨trace, target, move, moves.afterSteady steady⟩

theorem Reaches.ofSteady {config : OrchestrationConfig} {before after : StageSession}
    (signal : StageSignal) (steady : Steady before after) :
    Reaches config signal.outcome before after :=
  ⟨[], _, .interrupted signal, Advances.ofSteady steady⟩

/-- Under the condition the program makes one move of the machine. -/
def Handles (config : OrchestrationConfig) (condition : Progress → Prop)
    (program : StageProgram StageDisposition) : Prop :=
  ∀ session : StageSession, condition session.package.progress →
    Stateful.Ensures program session
      (fun disposition => Reaches config (.handled disposition) session)
      (fun signal => Reaches config signal.outcome session)

section Handles

variable {config : OrchestrationConfig} {condition : Progress → Prop} {Value : Type}
  {first : StageProgram Value} {next : Value → StageProgram StageDisposition}

/-- Work that is steady under the condition comes before a move. -/
theorem handles_afterSteadyWhen
    (steady : ∀ session : StageSession, condition session.package.progress →
      Steady session (first session).2)
    (handles : ∀ value, Handles config condition (next value)) :
    Handles config condition (first >>= next) := by
  intro session holds
  rw [Stateful.ensures_bind]
  have begun := steady session holds
  unfold Stateful.Ensures
  cases ran : first session with
  | mk outcome middle =>
      rw [ran] at begun
      have same : condition middle.package.progress := by
        rw [begun.progress]
        exact holds
      cases outcome with
      | error signal => exact Reaches.ofSteady signal begun
      | ok value =>
          exact (handles value middle same).mono
            (fun _ _ reaches => reaches.afterSteady begun)
            (fun _ _ reaches => reaches.afterSteady begun)

theorem handles_afterSteady (steady : IsSteady first)
    (handles : ∀ value, Handles config condition (next value)) :
    Handles config condition (first >>= next) :=
  handles_afterSteadyWhen (fun session _ => steady session) handles

theorem handles_currentPackage {next : WorkPackage → StageProgram StageDisposition}
    (handles : ∀ package : WorkPackage, condition package.progress →
      Handles config (fun progress => progress = package.progress) (next package)) :
    Handles config condition (currentPackage >>= next) := by
  intro session holds
  exact handles session.package holds session rfl

theorem handles_ite {test : Prop} [Decidable test]
    {program other : StageProgram StageDisposition}
    (first : test → Handles config condition program)
    (second : ¬test → Handles config condition other) :
    Handles config condition (if test then program else other) := by
  intro session holds
  exact Stateful.ensures_ite (fun test => first test session holds)
    (fun test => second test session holds)

end Handles

end Execraft.Orchestrate
