import Execraft.Orchestrate.DirectivePass
import Execraft.Orchestrate.StageRuns
import Execraft.Orchestrate.PipelineSession

/-!
# The steps of a plan

Whatever the pipeline does to a plan is one of three things: the packages come no
further, a directive sets a flag on one of them, or one of them runs through some of its
stages.  What these steps keep of the progress of every package, the pipeline keeps.
-/

namespace Execraft.Orchestrate

open Foundation

/-! ## The steps -/

namespace PipelineEvent

def isMilestone : PipelineEvent → Bool
  | .inPackage _ event => event.isMilestone
  | _ => false

end PipelineEvent

/-- The entries of the journal that tell how the packages came along. -/
def PipelineSession.milestones (session : PipelineSession) : List PipelineEvent :=
  session.events.filter PipelineEvent.isMilestone

/-- No package has come any further. -/
structure Calm (before after : PipelineSession) : Prop where
  progress : after.record.planGraph.map WorkPackage.progress =
    before.record.planGraph.map WorkPackage.progress
  completedPackages : after.record.completedPackages = before.record.completedPackages
  milestones : after.milestones = before.milestones

/-- One step of a plan. -/
inductive PlanStep (config : OrchestrationConfig) (before after : PipelineSession) : Prop
    where
  | calm (calm : Calm before after)
  | directed (command : WorkPackageDirectiveCommand) (package : WorkPackage)
      (found : before.record.planGraph.packageById command.packageId = .ok package)
      (may : MayArm command package)
      (armed : after.record.planGraph =
        before.record.planGraph.modify command.packageId (armPackage command))
      (completedPackages :
        after.record.completedPackages = before.record.completedPackages)
      (milestones : after.milestones = before.milestones)
  | staged (packageId : String) (package : WorkPackage) (final : StageSession)
      (found : before.record.planGraph.packageById packageId = .ok package)
      (run : StageRun config (Pipeline.focus before package) final)
      (ended : after = Pipeline.unfocus packageId before final)

/-- Some steps of a plan. -/
abbrev PlanRun (config : OrchestrationConfig) : PipelineSession → PipelineSession → Prop :=
  Relation.ReflTransGen (PlanStep config)

namespace Calm

theorem refl (session : PipelineSession) : Calm session session :=
  ⟨rfl, rfl, rfl⟩

theorem trans {first second third : PipelineSession} (one : Calm first second)
    (two : Calm second third) : Calm first third :=
  ⟨two.progress.trans one.progress, two.completedPackages.trans one.completedPackages,
    two.milestones.trans one.milestones⟩

theorem ids {before after : PipelineSession} (calm : Calm before after) :
    after.record.planGraph.map WorkPackage.id =
      before.record.planGraph.map WorkPackage.id := by
  rw [ids_eq_progress, ids_eq_progress, calm.progress]

end Calm

/-! ## The packages of a graph -/

/-- A package is found by its progress alone. -/
theorem PlanGraph.packageById_progress {before after : PlanGraph} {more : List Progress}
    (same : after.map WorkPackage.progress = before.map WorkPackage.progress ++ more)
    {packageId : String} {package : WorkPackage}
    (found : before.packageById packageId = .ok package) :
    ∃ other, after.packageById packageId = .ok other ∧ other.progress = package.progress := by
  simp only [packageById_eq_ok] at found ⊢
  induction before generalizing after with
  | nil => cases found
  | cons head tail inductionHypothesis =>
      cases after with
      | nil => cases same
      | cons first rest =>
          rw [List.map_cons, List.map_cons, List.cons_append, List.cons.injEq] at same
          have name : first.id = head.id := congrArg Progress.id same.1
          rw [List.find?_cons] at found
          by_cases wanted : head.id = packageId
          · rw [decide_eq_true wanted] at found
            have unchanged : head = package := Option.some.inj found
            refine ⟨first, ?_, ?_⟩
            · rw [List.find?_cons, decide_eq_true (name.trans wanted)]
            · rw [same.1, unchanged]
          · rw [decide_eq_false wanted] at found
            obtain ⟨other, present, equal⟩ := inductionHypothesis same.2 found
            refine ⟨other, ?_, equal⟩
            rw [List.find?_cons, decide_eq_false (by rw [name]; exact wanted)]
            exact present

/-- Every package of the graph satisfies the condition. -/
def AllHold (holds : Progress → Prop) (graph : PlanGraph) : Prop :=
  ∀ package ∈ graph, holds package.progress

theorem allHold_iff {holds : Progress → Prop} {graph : PlanGraph} :
    AllHold holds graph ↔ ∀ progress ∈ graph.map WorkPackage.progress, holds progress := by
  unfold AllHold
  rw [List.forall_mem_map]

theorem AllHold.ofSame {holds : Progress → Prop} {before after : PlanGraph}
    (allHold : AllHold holds before)
    (same : after.map WorkPackage.progress = before.map WorkPackage.progress) :
    AllHold holds after := by
  rw [allHold_iff, same]
  exact allHold_iff.mp allHold

theorem AllHold.grows {holds : Progress → Prop} {before after : PlanGraph}
    (allHold : AllHold holds before) (shards : ∀ progress, progress.IsShard → holds progress)
    (grows : GraphGrows before after) : AllHold holds after := by
  obtain ⟨children, grown, born, _, _⟩ := grows
  rw [allHold_iff, grown]
  intro progress member
  rcases List.mem_append.mp member with old | new
  · exact allHold_iff.mp allHold progress old
  · obtain ⟨child, listed, same⟩ := List.mem_map.mp new
    rw [← same]
    exact shards _ (born child listed)

theorem AllHold.modify {holds : Progress → Prop} {graph : PlanGraph}
    (allHold : AllHold holds graph) {packageId : String}
    {change : WorkPackage → WorkPackage}
    (changed : ∀ package, graph.packageById packageId = .ok package →
      holds (change package).progress) :
    AllHold holds (graph.modify packageId change) := by
  intro package member
  rcases PlanGraph.mem_modify member with old | ⟨before, found, same⟩
  · exact allHold package old
  · rw [same]
    exact changed before found

/-! ## What the steps keep -/

/-- A condition on the progress of a package that every step keeps. -/
structure PlanInvariant (config : OrchestrationConfig) (holds : Progress → Prop) : Prop where
  moves : ∀ {progress target : Progress} {trace : List StageEvent} {outcome : StageOutcome},
    progress.stage ≠ .completed → progress.Settled →
      StageMove config progress trace outcome target → holds progress → holds target
  entries : ∀ {progress target : Progress} {trace : List StageEvent},
    progress.stage ≠ .completed → EntryMove progress trace target → holds progress →
      holds target
  directed : ∀ (command : WorkPackageDirectiveCommand) (package : WorkPackage),
    MayArm command package → holds package.progress →
      holds (armPackage command package).progress
  shards : ∀ progress : Progress, progress.IsShard → holds progress

section Identity

variable {config : OrchestrationConfig} {progress target : Progress}
  {trace : List StageEvent}

theorem StageMove.id {outcome : StageOutcome}
    (move : StageMove config progress trace outcome target) : target.id = progress.id := by
  cases move with
  | repairQueued _ _ queued => cases queued <;> rfl
  | _ => rfl

theorem StageMove.kind {outcome : StageOutcome}
    (move : StageMove config progress trace outcome target) :
    target.kind = progress.kind := by
  cases move with
  | repairQueued _ _ queued => cases queued <;> rfl
  | _ => rfl

theorem StageMove.parentId {outcome : StageOutcome}
    (move : StageMove config progress trace outcome target) :
    target.parentId = progress.parentId := by
  cases move with
  | repairQueued _ _ queued => cases queued <;> rfl
  | _ => rfl

theorem StageMove.required {outcome : StageOutcome}
    (move : StageMove config progress trace outcome target) :
    target.decompositionRequired = progress.decompositionRequired ∨
      target.decompositionRequired = false := by
  cases move with
  | repairQueued _ _ queued => cases queued <;> exact Or.inl rfl
  | keptWhole => exact Or.inr rfl
  | keptWholeBlocked => exact Or.inr rfl
  | expanded => exact Or.inr rfl
  | expandedBlocked => exact Or.inr rfl
  | _ => exact Or.inl rfl

theorem EntryMove.id (move : EntryMove progress trace target) : target.id = progress.id := by
  cases move <;> rfl

theorem EntryMove.kind (move : EntryMove progress trace target) :
    target.kind = progress.kind := by
  cases move <;> rfl

theorem EntryMove.parentId (move : EntryMove progress trace target) :
    target.parentId = progress.parentId := by
  cases move <;> rfl

theorem EntryMove.required_eq (move : EntryMove progress trace target) :
    target.decompositionRequired = progress.decompositionRequired := by
  cases move <;> rfl

end Identity

section Steps

variable {config : OrchestrationConfig} {holds : Progress → Prop}

/-- A step in the processing of a package, seen from its progress. -/
theorem StageStep.cases {before after : StageSession} (step : StageStep config before after) :
    before.package.stage ≠ .completed ∧ ∃ trace target, Advances trace target before after ∧
      (EntryMove before.package.progress trace target ∨
        (before.package.progress.Settled ∧ ∃ outcome,
          StageMove config before.package.progress trace outcome target)) := by
  rcases step with ⟨unfinished, ⟨trace, target, move, moves⟩ | ⟨settled, outcome, reaches⟩⟩
  · exact ⟨unfinished, trace, target, moves, Or.inl move⟩
  · obtain ⟨trace, target, move, moves⟩ := reaches
    exact ⟨unfinished, trace, target, moves, Or.inr ⟨settled, outcome, move⟩⟩

theorem StageStep.id {before after : StageSession} (step : StageStep config before after) :
    after.package.id = before.package.id := by
  obtain ⟨_, trace, target, moves, move⟩ := step.cases
  have reached : after.package.id = target.id := congrArg Progress.id moves.progress
  rw [reached]
  rcases move with entry | ⟨_, _, move⟩
  · exact entry.id
  · exact move.id

theorem StageStep.kind {before after : StageSession} (step : StageStep config before after) :
    after.package.kind = before.package.kind := by
  obtain ⟨_, trace, target, moves, move⟩ := step.cases
  have reached : after.package.kind = target.kind := congrArg Progress.kind moves.progress
  rw [reached]
  rcases move with entry | ⟨_, _, move⟩
  · exact entry.kind
  · exact move.kind

theorem StageStep.grows {before after : StageSession} (step : StageStep config before after) :
    GraphGrows before.record.planGraph after.record.planGraph := by
  obtain ⟨_, _, _, moves, _⟩ := step.cases
  exact moves.graph

theorem StageRun.id {before after : StageSession} (run : StageRun config before after) :
    after.package.id = before.package.id := by
  induction run with
  | refl => rfl
  | tail _ step inductionHypothesis => exact step.id.trans inductionHypothesis

theorem StageRun.kind {before after : StageSession} (run : StageRun config before after) :
    after.package.kind = before.package.kind := by
  induction run with
  | refl => rfl
  | tail _ step inductionHypothesis => exact step.kind.trans inductionHypothesis

theorem StageRun.grows {before after : StageSession} (run : StageRun config before after) :
    GraphGrows before.record.planGraph after.record.planGraph := by
  induction run with
  | refl => exact GraphGrows.refl _
  | tail _ step inductionHypothesis => exact inductionHypothesis.trans step.grows

theorem StageStep.keeps (invariant : PlanInvariant config holds)
    {before after : StageSession} (step : StageStep config before after)
    (held : holds before.package.progress) : holds after.package.progress := by
  obtain ⟨unfinished, trace, target, moves, move⟩ := step.cases
  rw [moves.progress]
  rcases move with entry | ⟨settled, outcome, move⟩
  · exact invariant.entries unfinished entry held
  · exact invariant.moves unfinished settled move held

theorem StageRun.keeps (invariant : PlanInvariant config holds)
    {before after : StageSession} (run : StageRun config before after)
    (held : holds before.package.progress) : holds after.package.progress := by
  induction run with
  | refl => exact held
  | tail _ step inductionHypothesis => exact step.keeps invariant inductionHypothesis

theorem PlanStep.allHold (invariant : PlanInvariant config holds)
    {before after : PipelineSession} (step : PlanStep config before after)
    (held : AllHold holds before.record.planGraph) : AllHold holds after.record.planGraph := by
  cases step with
  | calm calm => exact held.ofSame calm.progress
  | directed command package found may armed _ _ =>
      rw [armed]
      refine held.modify fun other present => ?_
      rw [found] at present
      cases present
      exact invariant.directed command package may
        (held package (PlanGraph.packageById_mem found).1)
  | staged packageId package final found run ended =>
      rw [ended]
      have member := (PlanGraph.packageById_mem found).1
      refine AllHold.modify (held.grows invariant.shards (StageRun.grows run)) fun _ _ => ?_
      exact StageRun.keeps invariant run (held package member)

/-- What every step keeps, a run keeps of every package. -/
theorem PlanRun.allHold (invariant : PlanInvariant config holds)
    {before after : PipelineSession} (run : PlanRun config before after)
    (held : AllHold holds before.record.planGraph) : AllHold holds after.record.planGraph := by
  induction run with
  | refl => exact held
  | tail _ step inductionHypothesis => exact step.allHold invariant inductionHypothesis

/-! ## Plans that can be run -/

/-- A package that returns from its decomposition; a shard is never asked for one. -/
def Progress.Sound (progress : Progress) : Prop :=
  progress.Returns ∧ (progress.parentId ≠ "" → progress.decompositionRequired = false)

structure Planned (graph : PlanGraph) : Prop where
  unique : (graph.map WorkPackage.id).Nodup
  sound : AllHold Progress.Sound graph

theorem planInvariant_sound : PlanInvariant config Progress.Sound where
  moves := by
    intro progress target trace outcome _ _ move held
    refine ⟨move.returns held.1, fun shard => ?_⟩
    rw [move.parentId] at shard
    rcases move.required with same | optional
    · rw [same]
      exact held.2 shard
    · exact optional
  entries := by
    intro progress target trace unfinished move held
    refine ⟨move.returns unfinished held.1, fun shard => ?_⟩
    rw [move.parentId] at shard
    rw [move.required_eq]
    exact held.2 shard
  directed := by
    intro command package may held
    unfold MayArm at may
    unfold armPackage
    cases kind : command.kind with
    | pauseBeforeStart => exact held
    | requireDecomposition =>
        rw [kind] at may
        exact ⟨held.1, fun shard => absurd may.2.1.1 shard⟩
    | pauseForRepositorySync => exact held
  shards := by
    intro progress shard
    refine ⟨?_, fun _ => shard.optional⟩
    unfold Progress.Returns Progress.origin?
    rw [shard.origin]
    decide

theorem ids_unfocus {packageId : String} {before : PipelineSession} {final : StageSession} :
    (Pipeline.unfocus packageId before final).record.planGraph.map WorkPackage.id =
      final.record.planGraph.map WorkPackage.id :=
  final.ids_graph

theorem PlanStep.unique {before after : PipelineSession} (step : PlanStep config before after)
    (unique : (before.record.planGraph.map WorkPackage.id).Nodup) :
    (after.record.planGraph.map WorkPackage.id).Nodup := by
  cases step with
  | calm calm =>
      rw [calm.ids]
      exact unique
  | directed command package _ _ armed _ _ =>
      rw [armed, PlanGraph.ids_modify fun other same => by rw [armPackage_id, same]]
      exact unique
  | staged packageId package final found run ended =>
      rw [ended, ids_unfocus]
      exact (StageRun.grows run).nodup unique

theorem PlanRun.planned {before after : PipelineSession} (run : PlanRun config before after)
    (planned : Planned before.record.planGraph) : Planned after.record.planGraph := by
  refine ⟨?_, PlanRun.allHold planInvariant_sound run planned.sound⟩
  induction run with
  | refl => exact planned.unique
  | tail _ step inductionHypothesis => exact step.unique inductionHypothesis

end Steps

end Execraft.Orchestrate
