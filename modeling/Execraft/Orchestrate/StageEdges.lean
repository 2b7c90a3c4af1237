import Execraft.Orchestrate.PlanRuns

/-!
# The edges that the stages really take

The table of the stages is declared apart from the code that changes them.  Two edges are
taken by design that the table does not list; a synchronization that is decomposed takes
others.
-/

namespace Execraft.Orchestrate

open Foundation

/-- An edge of the table, a review that is final, or the rewind before a commit. -/
def DesignedEdge (fromStage toStage : WorkPackageStage) : Prop :=
  validateStageTransition fromStage toStage = .ok () ∨
    (fromStage = .review ∧ toStage = .readyToCommit) ∨
      (fromStage = .readyToCommit ∧ toStage = .regressionVerify)

/-- What the edge of a package of this kind must be. -/
def EdgeOf (kind : WorkPackageKind) (fromStage toStage : WorkPackageStage) : Prop :=
  kind ≠ .repositorySync ∨ (fromStage ≠ .decompose ∧ toStage ≠ .decompose) →
    DesignedEdge fromStage toStage

theorem DesignedEdge.ofTable {fromStage toStage : WorkPackageStage}
    (listed : toStage ∈ fromStage.transitions) : DesignedEdge fromStage toStage :=
  Or.inl (validateStageTransition_eq_ok.mpr listed)

/-! ## Where a decomposition begins -/

/-- The stages at which a package is decomposed that is no synchronization. -/
def decomposedStages : List WorkPackageStage :=
  [.implement, .review, .fixReview, .finalReview]

/-- A decomposition that is asked for begins at once, and it knows where it began. -/
structure Progress.Routed (progress : Progress) : Prop where
  requested : progress.kind ≠ .repositorySync → progress.decompositionRequired = true →
    progress.decompositionStatus = "" →
      progress.stage = .prepare ∨ progress.stage = .decompose
  origin : progress.kind ≠ .repositorySync → progress.stage = .decompose →
    ∃ origin ∈ decomposedStages, progress.origin? = some origin
  optional : progress.parentId ≠ "" → progress.decompositionRequired = false

section Moves

variable {config : OrchestrationConfig} {progress target : Progress}
  {trace : List StageEvent}

/-- A package whose decomposition is overdue is at the decomposition. -/
theorem Progress.Routed.decomposing (routed : progress.Routed) (settled : progress.Settled)
    (required : progress.decompositionRequired = true)
    (undecided : progress.decompositionStatus = "") : progress.stage = .decompose := by
  by_contra elsewhere
  by_cases root : progress.parentId = ""
  · exact settled root ⟨required, undecided, elsewhere⟩
  · rw [routed.optional root] at required
    exact Bool.false_ne_true required

/-- A package that stays at its stage stays routed. -/
theorem Progress.Routed.stays (routed : progress.Routed)
    (kind : target.kind = progress.kind) (parent : target.parentId = progress.parentId)
    (stage : target.stage = progress.stage)
    (origin : target.decompositionOriginStage = progress.decompositionOriginStage)
    (required : target.decompositionRequired = false ∨
      (target.decompositionRequired = progress.decompositionRequired ∧
        target.decompositionStatus = progress.decompositionStatus)) : target.Routed := by
  refine ⟨fun ordinary asked undecided => ?_, fun ordinary decomposing => ?_,
    fun shard => ?_⟩
  · rw [kind] at ordinary
    rcases required with optional | ⟨same, status⟩
    · rw [optional] at asked
      exact absurd asked Bool.false_ne_true
    · rw [stage]
      exact routed.requested ordinary (same ▸ asked) (status ▸ undecided)
  · rw [kind] at ordinary
    rw [stage] at decomposing
    unfold Progress.origin?
    rw [origin]
    exact routed.origin ordinary decomposing
  · rw [parent] at shard
    rcases required with optional | ⟨same, _⟩
    · exact optional
    · rw [same]
      exact routed.optional shard

/-- A package that leaves its stage has no decomposition that is overdue. -/
theorem Progress.Routed.leaves (routed : progress.Routed) (settled : progress.Settled)
    (parent : target.parentId = progress.parentId)
    (entered : progress.stage ≠ .decompose) (elsewhere : target.stage ≠ .decompose)
    (required : target.decompositionRequired = progress.decompositionRequired)
    (status : target.decompositionStatus = progress.decompositionStatus) :
    target.Routed := by
  refine ⟨fun _ asked undecided => ?_, fun _ decomposing => absurd decomposing elsewhere,
    fun shard => ?_⟩
  · exact absurd (routed.decomposing settled (required ▸ asked) (status ▸ undecided)) entered
  · rw [parent] at shard
    rw [required]
    exact routed.optional shard

theorem Progress.Routed.decided {status : String} {stage : WorkPackageStage}
    (elsewhere : progress.kind ≠ .repositorySync → stage ≠ .decompose) :
    ({ progress.decided status with stage := stage } : Progress).Routed :=
  ⟨fun _ asked => absurd asked Bool.false_ne_true,
    fun ordinary decomposing => absurd decomposing (elsewhere ordinary), fun _ => rfl⟩

theorem aggregateStage_ne_decompose (origin : WorkPackageStage) :
    aggregateStage origin ≠ .decompose := by
  unfold aggregateStage
  split
  · simp
  · simp

theorem StageMove.routed {outcome : StageOutcome}
    (move : StageMove config progress trace outcome target) (settled : progress.Settled)
    (routed : progress.Routed) : target.Routed := by
  have unchanged : target.stage = progress.stage → target.kind = progress.kind →
      target.parentId = progress.parentId →
      target.decompositionOriginStage = progress.decompositionOriginStage →
      target.decompositionRequired = progress.decompositionRequired →
      target.decompositionStatus = progress.decompositionStatus → target.Routed :=
    fun stage kind parent origin required status =>
      routed.stays kind parent stage origin (Or.inr ⟨required, status⟩)
  cases move with
  | interrupted => exact routed
  | verifiedUnmarked => exact unchanged rfl rfl rfl rfl rfl rfl
  | verificationExhausted => exact unchanged rfl rfl rfl rfl rfl rfl
  | reviewExhausted => exact unchanged rfl rfl rfl rfl rfl rfl
  | prepared stage =>
      exact routed.leaves settled rfl (by rw [stage]; decide) (by simp) rfl rfl
  | implemented stage =>
      exact routed.leaves settled rfl (by rw [stage]; decide) (by simp) rfl rfl
  | verified next attempts stage =>
      refine routed.leaves settled rfl ?_ ?_ rfl rfl
      · rcases stage with ⟨fast, _⟩ | ⟨regression, _⟩
        · rw [fast]
          decide
        · rw [regression]
          decide
      · rcases stage with ⟨_, review⟩ | ⟨_, final⟩
        · rw [review]
          simp
        · rw [final]
          simp
  | verificationFailed stage =>
      refine routed.leaves settled rfl ?_ ?_ rfl rfl
      · rcases stage with fast | regression
        · rw [fast]
          decide
        · rw [regression]
          decide
      · show retryStage progress ≠ .decompose
        unfold retryStage
        split
        · decide
        · decide
  | shardReviewed stage =>
      exact routed.leaves settled rfl (by rw [stage]; decide) (by simp) rfl rfl
  | repairQueued _ stage queued =>
      have entered : progress.stage ≠ .decompose := by
        rcases stage with review | final
        · rw [review]
          decide
        · rw [final]
          decide
      cases queued with
      | ordinary => exact routed.leaves settled rfl entered (by simp) rfl rfl
      | rescue => exact routed.leaves settled rfl entered (by simp) rfl rfl
  | approved next stage after =>
      refine routed.leaves settled rfl (by rw [stage]; decide) ?_ rfl rfl
      rcases after with final | ready
      · rw [final]
        simp
      · rw [ready]
        simp
  | repaired stage =>
      exact routed.leaves settled rfl (by rw [stage]; decide) (by simp) rfl rfl
  | finallyApproved stage =>
      exact routed.leaves settled rfl (by rw [stage]; decide) (by simp) rfl rfl
  | committed stage =>
      exact routed.leaves settled rfl (by rw [stage]; decide) (by simp) rfl rfl
  | rewound _ stage =>
      exact routed.leaves settled rfl (by rw [stage]; decide) (by simp) rfl rfl
  | keptWhole origin stage returns =>
      refine Progress.Routed.decided fun ordinary same => ?_
      obtain ⟨other, listed, found⟩ := routed.origin ordinary stage
      rw [returns, same] at found
      cases found
      exact absurd listed (by decide)
  | keptWholeBlocked => exact routed.stays rfl rfl rfl rfl (Or.inl rfl)
  | expanded origin =>
      exact ⟨fun _ asked => absurd asked Bool.false_ne_true,
        fun _ decomposing => absurd decomposing (aggregateStage_ne_decompose origin),
        fun _ => rfl⟩
  | expandedBlocked => exact routed.stays rfl rfl rfl rfl (Or.inl rfl)

theorem Progress.origin_decomposing (progress : Progress) :
    progress.decomposing.origin? =
      some (if progress.stage = .prepare then .implement else progress.stage) := by
  have reads : ∀ stage : WorkPackageStage, WorkPackageStage.ofValue?
      (if stage.value = "" then WorkPackageStage.implement.value else stage.value) =
        some stage := by
    intro stage
    cases stage <;> decide
  exact reads _

/-- A decomposition begins where the table allows it. -/
theorem Progress.Routed.enters (routed : progress.Routed)
    (starts : progress.kind ≠ .repositorySync →
      (if progress.stage = .prepare then .implement else progress.stage) ∈
        decomposedStages) : progress.decomposing.Routed := by
  refine ⟨fun _ _ _ => Or.inr rfl, fun ordinary _ => ?_, routed.optional⟩
  exact ⟨_, starts ordinary, progress.origin_decomposing⟩

theorem capable_mem_decomposedStages {stage : WorkPackageStage}
    (capable : stageCapability stage ≠ none) :
    (if stage = .prepare then .implement else stage) ∈ decomposedStages := by
  revert capable
  cases stage <;> decide

theorem EntryMove.routed (move : EntryMove progress trace target)
    (routed : progress.Routed) : target.Routed := by
  cases move with
  | steady => exact routed
  | prepared next kind _ after =>
      refine ⟨fun ordinary => absurd kind ordinary, fun ordinary => absurd kind ordinary,
        routed.optional⟩
  | resolved kind =>
      exact ⟨fun ordinary => absurd kind ordinary, fun ordinary => absurd kind ordinary,
        routed.optional⟩
  | required required undecided entered =>
      refine routed.enters fun ordinary => ?_
      have preparing := (routed.requested ordinary required undecided).resolve_right entered
      rw [if_pos preparing]
      decide
  | automatic _ _ _ _ capable =>
      exact routed.enters fun _ => capable_mem_decomposedStages capable

theorem planInvariant_routed : PlanInvariant config Progress.Routed where
  moves := fun _ settled move routed => move.routed settled routed
  entries := fun _ move routed => move.routed routed
  directed := by
    intro command package may routed
    unfold MayArm at may
    unfold armPackage
    cases kind : command.kind with
    | pauseBeforeStart => exact routed
    | pauseForRepositorySync => exact routed
    | requireDecomposition =>
        rw [kind] at may
        obtain ⟨_, ⟨root, _⟩, allowed⟩ := may
        refine ⟨fun _ asked _ => ?_, routed.origin, fun shard => absurd root shard⟩
        have enabled : command.enabled = true := asked
        rw [if_pos enabled] at allowed
        exact Or.inl allowed.1.1
  shards := by
    intro progress shard
    refine ⟨fun _ asked => ?_, fun _ decomposing => ?_, fun _ => shard.optional⟩
    · rw [shard.optional] at asked
      exact absurd asked Bool.false_ne_true
    · rcases shard.stage with preparing | reviewing | fixing
      · exact absurd (preparing.symm.trans decomposing) (by decide)
      · exact absurd (reviewing.symm.trans decomposing) (by decide)
      · exact absurd (fixing.symm.trans decomposing) (by decide)

/-! ## The edges of one move -/

theorem edgeOf_stageEdge {kind : WorkPackageKind} {toStage first second : WorkPackageStage}
    (allowed : kind ≠ .repositorySync → DesignedEdge .decompose toStage)
    (member : .stageTransition first second ∈ stageEdge .decompose toStage) :
    EdgeOf kind first second := by
  unfold stageEdge at member
  split at member
  · cases member
  · cases List.mem_singleton.mp member
    rintro (ordinary | ⟨apart, _⟩)
    · exact allowed ordinary
    · exact absurd rfl apart

theorem designedEdge_ofOrigin {origin : WorkPackageStage} (listed : origin ∈ decomposedStages) :
    DesignedEdge .decompose origin := by
  refine DesignedEdge.ofTable ?_
  revert listed
  cases origin <;> decide

theorem designedEdge_aggregate (origin : WorkPackageStage) :
    DesignedEdge .decompose (aggregateStage origin) := by
  unfold aggregateStage
  split
  · exact DesignedEdge.ofTable (by decide)
  · exact DesignedEdge.ofTable (by decide)

theorem StageMove.edges {outcome : StageOutcome}
    (move : StageMove config progress trace outcome target) (routed : progress.Routed)
    {first second : WorkPackageStage} (member : .stageTransition first second ∈ trace) :
    EdgeOf progress.kind first second := by
  have single : ∀ {fromStage toStage : WorkPackageStage},
      .stageTransition first second ∈ [StageEvent.stageTransition fromStage toStage] →
        DesignedEdge fromStage toStage → EdgeOf progress.kind first second := by
    intro fromStage toStage listed designed
    cases List.mem_singleton.mp listed
    exact fun _ => designed
  have afterVerification : ∀ {event : StageEvent} {fromStage toStage : WorkPackageStage},
      event.transition? = none →
      .stageTransition first second ∈ [event, .stageTransition fromStage toStage] →
        DesignedEdge fromStage toStage → EdgeOf progress.kind first second := by
    intro event fromStage toStage silent listed designed
    rcases List.mem_cons.mp listed with same | rest
    · rw [← same] at silent
      cases silent
    · exact single rest designed
  cases move with
  | interrupted => cases member
  | verifiedUnmarked => exact absurd member (by simp)
  | verificationExhausted => exact absurd member (by simp)
  | reviewExhausted => cases member
  | keptWholeBlocked => cases member
  | expandedBlocked => cases member
  | prepared => exact single member (.ofTable (by decide))
  | implemented => exact single member (.ofTable (by decide))
  | shardReviewed => exact single member (.ofTable (by decide))
  | repaired => exact single member (.ofTable (by decide))
  | finallyApproved => exact single member (.ofTable (by decide))
  | committed => exact single member (.ofTable (by decide))
  | rewound => exact single member (Or.inr (Or.inr ⟨rfl, rfl⟩))
  | verified next _ stage =>
      refine afterVerification rfl member (.ofTable ?_)
      rcases stage with ⟨fast, review⟩ | ⟨regression, final⟩
      · rw [fast, review]
        decide
      · rw [regression, final]
        decide
  | verificationFailed stage =>
      refine afterVerification rfl member (.ofTable ?_)
      unfold retryStage
      rcases stage with fast | regression
      · rw [fast, if_neg fun sync => absurd sync.2 (by decide)]
        decide
      · rw [regression]
        split
        · decide
        · decide
  | repairQueued _ stage =>
      refine single member (.ofTable ?_)
      rcases stage with review | final
      · rw [review]
        decide
      · rw [final]
        decide
  | approved next _ after =>
      rcases after with final | ready
      · rw [final] at member
        exact single member (.ofTable (by decide))
      · rw [ready] at member
        exact single member (Or.inr (Or.inl ⟨rfl, rfl⟩))
  | keptWhole origin stage returns =>
      refine edgeOf_stageEdge (fun ordinary => ?_) member
      obtain ⟨other, listed, found⟩ := routed.origin ordinary stage
      rw [returns] at found
      cases found
      exact designedEdge_ofOrigin listed
  | expanded origin => exact edgeOf_stageEdge (fun _ => designedEdge_aggregate origin) member

theorem EntryMove.edges (move : EntryMove progress trace target) (routed : progress.Routed)
    {first second : WorkPackageStage} (member : .stageTransition first second ∈ trace) :
    EdgeOf progress.kind first second := by
  cases move with
  | steady => cases member
  | prepared next _ _ after =>
      cases List.mem_singleton.mp member
      refine fun _ => .ofTable ?_
      rcases after with implementing | verifying
      · rw [implementing]
        decide
      · rw [verifying]
        decide
  | resolved =>
      cases List.mem_singleton.mp member
      exact fun _ => .ofTable (by decide)
  | required required undecided entered =>
      cases List.mem_singleton.mp member
      rintro (ordinary | ⟨_, apart⟩)
      · have preparing := (routed.requested ordinary required undecided).resolve_right entered
        rw [preparing]
        exact .ofTable (by decide)
      · exact absurd rfl apart
  | automatic _ _ _ _ capable =>
      cases List.mem_singleton.mp member
      refine fun _ => .ofTable ?_
      revert capable
      generalize progress.stage = stage
      cases stage <;> decide

end Moves

/-! ## The edges of whole histories -/

/-- A plan as it is brought into a new record. -/
structure FreshPlan (plan : PlanGraph) : Prop where
  unique : (plan.map WorkPackage.id).Nodup
  fresh : ∀ package ∈ plan, package.stage = .prepare ∧ package.status = "pending" ∧
    package.runtime.decompositionRequired = false ∧
      package.runtime.decompositionStatus = "" ∧
        package.runtime.decompositionOriginStage = ""

/-- Calls of the pipeline, each in surroundings of its own; between them the record may
change in whatever way brings no package any further. -/
inductive PlanHistory (plan : PlanGraph) : PipelineSession → Prop where
  | start (record : TaskExecutionStateRecord) (planned : record.planGraph = plan) :
      PlanHistory plan { record := record }
  | called (host : Host) (bound : Nat) {session : PipelineSession}
      (history : PlanHistory plan session) :
      PlanHistory plan (Pipeline.runPipeline host bound session).2
  | between {session after : PipelineSession} (history : PlanHistory plan session)
      (calm : Calm session after) (events : after.events = session.events) :
      PlanHistory plan after

/-- The record and its journal fit together, and every edge in it is designed. -/
structure Journaled (session : PipelineSession) : Prop where
  planned : Planned session.record.planGraph
  routed : AllHold Progress.Routed session.record.planGraph
  known : ∀ packageId event, .inPackage packageId event ∈ session.milestones →
    packageId ∈ session.record.planGraph.map WorkPackage.id
  designed : ∀ packageId fromStage toStage,
    .inPackage packageId (.stageTransition fromStage toStage) ∈ session.milestones →
      ∀ package ∈ session.record.planGraph, package.id = packageId →
        EdgeOf package.kind fromStage toStage

theorem FreshPlan.planned {plan : PlanGraph} (fresh : FreshPlan plan) : Planned plan := by
  refine ⟨fresh.unique, fun package member => ⟨?_, fun _ => (fresh.fresh package member).2.2.1⟩⟩
  have origin : package.progress.decompositionOriginStage = "" :=
    (fresh.fresh package member).2.2.2.2
  unfold Progress.Returns Progress.origin?
  rw [origin]
  decide

theorem FreshPlan.routed {plan : PlanGraph} (fresh : FreshPlan plan) :
    AllHold Progress.Routed plan := by
  intro package member
  have start := fresh.fresh package member
  refine ⟨fun _ asked => ?_, fun _ decomposing => ?_, fun _ => start.2.2.1⟩
  · exact absurd (start.2.2.1.symm.trans asked) Bool.false_ne_true
  · exact absurd (start.1.symm.trans decomposing) (by decide)

theorem armPackage_kind (command : WorkPackageDirectiveCommand) (package : WorkPackage) :
    (armPackage command package).kind = package.kind := by
  unfold armPackage
  cases command.kind <;> rfl

section Histories

variable {config : OrchestrationConfig}

theorem StageStep.edges {before after : StageSession} (step : StageStep config before after)
    (routed : before.package.progress.Routed) {fromStage toStage : WorkPackageStage}
    (written : .stageTransition fromStage toStage ∈ after.milestones) :
    .stageTransition fromStage toStage ∈ before.milestones ∨
      EdgeOf before.package.kind fromStage toStage := by
  obtain ⟨_, trace, target, moves, move⟩ := step.cases
  rw [moves.milestones] at written
  rcases List.mem_append.mp written with old | new
  · exact Or.inl old
  · rcases move with entry | ⟨_, _, move⟩
    · exact Or.inr (entry.edges routed new)
    · exact Or.inr (move.edges routed new)

/-- Every edge that a package takes while it is processed is designed. -/
theorem StageRun.edges {before after : StageSession} (run : StageRun config before after)
    (routed : before.package.progress.Routed) (silent : before.milestones = [])
    {fromStage toStage : WorkPackageStage}
    (written : .stageTransition fromStage toStage ∈ after.milestones) :
    EdgeOf before.package.kind fromStage toStage := by
  induction run with
  | refl =>
      rw [silent] at written
      cases written
  | tail earlier step inductionHypothesis =>
      have still := StageRun.keeps planInvariant_routed earlier routed
      rcases step.edges still written with old | new
      · exact inductionHypothesis old
      · rw [StageRun.kind earlier] at new
        exact new

/-- A package of a graph that grew is an old one, the one that was processed, or new. -/
theorem mem_unfocus {packageId : String} {before : PipelineSession} {package : WorkPackage}
    {final : StageSession}
    (found : before.record.planGraph.packageById packageId = .ok package)
    (run : StageRun config (Pipeline.focus before package) final) {other : WorkPackage}
    (member : other ∈ (Pipeline.unfocus packageId before final).record.planGraph) :
    (∃ old ∈ before.record.planGraph, old.progress.id = other.progress.id ∧
      old.progress.kind = other.progress.kind) ∨
        other.id ∉ before.record.planGraph.map WorkPackage.id := by
  rcases PlanGraph.mem_modify member with kept | ⟨_, _, same⟩
  · obtain ⟨children, grown, _, _, fresh⟩ := StageRun.grows run
    have listed : other.progress ∈ final.record.planGraph.map WorkPackage.progress :=
      List.mem_map.mpr ⟨other, kept, rfl⟩
    rw [grown] at listed
    rcases List.mem_append.mp listed with old | new
    · obtain ⟨earlier, present, equal⟩ := List.mem_map.mp old
      refine Or.inl ⟨earlier, present, ?_, ?_⟩
      · rw [equal]
      · rw [equal]
    · obtain ⟨child, born, equal⟩ := List.mem_map.mp new
      have name : child.id = other.id := congrArg Progress.id equal
      refine Or.inr ?_
      rw [← name]
      exact fresh child born
  · rw [same]
    exact Or.inl ⟨package, (PlanGraph.packageById_mem found).1, (StageRun.id run).symm,
      (StageRun.kind run).symm⟩

theorem PlanStep.journaled {before after : PipelineSession}
    (step : PlanStep config before after) (journaled : Journaled before) :
    Journaled after := by
  have planned := PlanRun.planned (.single step) journaled.planned
  have routed := step.allHold planInvariant_routed journaled.routed
  cases step with
  | calm calm =>
      refine ⟨planned, routed, fun packageId event written => ?_,
        fun packageId fromStage toStage written package member named => ?_⟩
      · rw [calm.milestones] at written
        rw [calm.ids]
        exact journaled.known packageId event written
      · rw [calm.milestones] at written
        have listed : package.progress ∈ after.record.planGraph.map WorkPackage.progress :=
          List.mem_map.mpr ⟨package, member, rfl⟩
        rw [calm.progress] at listed
        obtain ⟨old, present, same⟩ := List.mem_map.mp listed
        have name : old.id = package.id := congrArg Progress.id same
        have kind : old.kind = package.kind := congrArg Progress.kind same
        rw [← kind]
        exact journaled.designed packageId fromStage toStage written old present
          (name.trans named)
  | directed command package found may armed _ milestones =>
      refine ⟨planned, routed, fun packageId event written => ?_,
        fun packageId fromStage toStage written other member named => ?_⟩
      · rw [milestones] at written
        rw [armed, PlanGraph.ids_modify fun other same => by rw [armPackage_id, same]]
        exact journaled.known packageId event written
      · rw [milestones] at written
        rw [armed] at member
        rcases PlanGraph.mem_modify member with old | ⟨earlier, present, same⟩
        · exact journaled.designed packageId fromStage toStage written other old named
        · have kind : other.kind = earlier.kind := by
            rw [same, armPackage_kind]
          rw [kind]
          refine journaled.designed packageId fromStage toStage written earlier
            (PlanGraph.packageById_mem present).1 ?_
          rw [← named, same, armPackage_id]
  | staged packageId package final found run ended =>
      have inside := PlanGraph.packageById_mem found
      have grown : before.record.planGraph.map WorkPackage.id ⊆
          after.record.planGraph.map WorkPackage.id := by
        obtain ⟨children, more, _⟩ := StageRun.grows run
        intro name member
        rw [ids_eq_progress] at member
        rw [ended, ids_unfocus, ids_eq_progress final.record.planGraph, more, List.map_append]
        exact List.mem_append_left _ member
      have milestones : after.milestones =
          before.milestones ++ final.milestones.map (PipelineEvent.inPackage packageId) := by
        rw [ended]
        exact milestones_unfocus packageId before final
      refine ⟨planned, routed, fun name event written => ?_,
        fun name fromStage toStage written other member named => ?_⟩
      · rw [milestones] at written
        rcases List.mem_append.mp written with old | new
        · exact grown (journaled.known name event old)
        · obtain ⟨inner, _, same⟩ := List.mem_map.mp new
          cases same
          exact grown (List.mem_map.mpr ⟨package, inside.1, inside.2⟩)
      · rw [ended] at member
        rw [milestones] at written
        rcases List.mem_append.mp written with old | new
        · rcases mem_unfocus found run member with ⟨earlier, present, same, kind⟩ | fresh
          · rw [show other.kind = earlier.kind from kind.symm]
            exact journaled.designed name fromStage toStage old earlier present
              (same.trans named)
          · rw [named] at fresh
            exact absurd (journaled.known name _ old) fresh
        · obtain ⟨inner, listed, same⟩ := List.mem_map.mp new
          cases same
          have edge := StageRun.edges run (journaled.routed package inside.1) rfl listed
          rcases mem_unfocus found run member with ⟨earlier, present, equal, kind⟩ | fresh
          · have unchanged : earlier = package :=
              List.inj_on_of_nodup_map journaled.planned.unique present inside.1
                ((equal.trans named).trans inside.2.symm)
            rw [show other.kind = earlier.kind from kind.symm, unchanged]
            exact edge
          · rw [named] at fresh
            exact absurd (List.mem_map.mpr ⟨package, inside.1, inside.2⟩) fresh

theorem PlanRun.journaled {before after : PipelineSession} (run : PlanRun config before after)
    (journaled : Journaled before) : Journaled after := by
  induction run with
  | refl => exact journaled
  | tail _ step inductionHypothesis => exact step.journaled inductionHypothesis

end Histories

theorem PlanHistory.journaled {plan : PlanGraph} {session : PipelineSession}
    (fresh : FreshPlan plan) (history : PlanHistory plan session) : Journaled session := by
  induction history with
  | start record planned =>
      rw [← planned] at fresh
      exact ⟨fresh.planned, fresh.routed, fun _ _ written => absurd written List.not_mem_nil,
        fun _ _ _ written => absurd written List.not_mem_nil⟩
  | called host bound _ inductionHypothesis =>
      exact PlanRun.journaled (final_runPipeline host bound inductionHypothesis.planned)
        inductionHypothesis
  | between _ calm _ inductionHypothesis =>
      have step : PlanStep ({} : OrchestrationConfig) _ _ := .calm calm
      exact step.journaled inductionHypothesis

/-- Everything succeeds. -/
def approvingMoment : Moment where
  attempt := .success
    { status := "implemented"
      verdict := "approved" }
  verificationCommands := [⟨"pytest", "passed", false, false⟩]
  commitTransaction := .ok "commit-1"

/-- One agent writes and another one reviews; neither may do both. -/
def pairHost : Host where
  py := asciiPython
  config := { allowSameProviderReview := false }
  slots :=
    [{ candidateId := "coder"
       capabilities := [.implement, .fixReview] },
      { candidateId := "reviewer"
        capabilities := [.review] }]
  surroundings _ := approvingMoment

def singlePackage : WorkPackage :=
  { id := "feature__api"
    title := "API"
    affectedRepositories := ["app"] }

def singleTask : PipelineSession :=
  { record :=
      { state := .running
        planGraph := [singlePackage] } }

def singleTaskDone : PipelineSession :=
  (Pipeline.runPipeline pairHost 3 singleTask).2

theorem freshPlan_single : FreshPlan [singlePackage] := by
  refine ⟨by decide, fun package member => ?_⟩
  rw [List.mem_singleton.mp member]
  decide

theorem planHistory_singleTaskDone : PlanHistory [singlePackage] singleTaskDone :=
  .called pairHost 3 (.start singleTask.record rfl)

theorem singleTaskDone_package :
    ∃ package ∈ singleTaskDone.record.planGraph, package.id = "feature__api" ∧
      package.kind ≠ .repositorySync := by
  decide +kernel

theorem singleTaskDone_changed :
    .inPackage "feature__api" (.stageTransition .review .readyToCommit) ∈
      singleTaskDone.events := by
  decide +kernel

end Execraft.Orchestrate
