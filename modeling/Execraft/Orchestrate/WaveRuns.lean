import Execraft.Orchestrate.PlanSteps
import Execraft.Orchestrate.ShardWave

/-!
# A wave is a run of the plan

The choice of a wave and its start leave the packages where they are; every result that
comes in is at most one step of its package.
-/

namespace Execraft.Orchestrate

open Foundation

/-! ## Calm programs -/

/-- A program after which no package has come any further. -/
abbrev IsCalm {Value : Type} (program : PipelineProgram Value) : Prop :=
  Stateful.Within Calm program

section IsCalm

variable {host : Host} {Value Other : Type}

theorem isCalm_pure (value : Value) : IsCalm (pure value) :=
  Stateful.within_pure Calm.refl

theorem isCalm_raise (signal : StageSignal) :
    IsCalm (Stateful.raise signal : PipelineProgram Value) :=
  Stateful.within_raise Calm.refl

theorem isCalm_read : IsCalm (Stateful.read : PipelineProgram PipelineSession) :=
  Stateful.within_read Calm.refl

theorem isCalm_bind {first : PipelineProgram Value} {next : Value → PipelineProgram Other}
    (begins : IsCalm first) (goes : ∀ value, IsCalm (next value)) :
    IsCalm (first >>= next) := by
  have transitive : ∀ first second third, Calm first second → Calm second third →
      Calm first third := fun _ _ _ => Calm.trans
  exact Stateful.within_bind transitive begins goes

theorem isCalm_ite {condition : Prop} [Decidable condition]
    {program other : PipelineProgram Value} (first : IsCalm program)
    (second : IsCalm other) : IsCalm (if condition then program else other) :=
  Stateful.within_ite first second

theorem isCalm_whenever {condition : Prop} [Decidable condition]
    {program : PipelineProgram Unit} (calm : IsCalm program) :
    IsCalm (Pipeline.whenever condition program) :=
  isCalm_ite calm (isCalm_pure ())

theorem isCalm_observe : IsCalm (Pipeline.observe host) :=
  fun _ => ⟨rfl, rfl, rfl⟩

theorem isCalm_currentGraph : IsCalm Pipeline.currentGraph :=
  isCalm_bind isCalm_read fun _ => isCalm_pure _

theorem isCalm_changeRecord
    {update : TaskExecutionStateRecord → TaskExecutionStateRecord}
    (progress : ∀ record, (update record).planGraph.map WorkPackage.progress =
      record.planGraph.map WorkPackage.progress)
    (completed : ∀ record, (update record).completedPackages = record.completedPackages) :
    IsCalm (Pipeline.changeRecord update) :=
  fun session => ⟨progress session.record, completed session.record, rfl⟩

theorem isCalm_emit {event : PipelineEvent} (silent : event.isMilestone = false) :
    IsCalm (Pipeline.emit event) := by
  refine fun session => ⟨rfl, rfl, ?_⟩
  show (session.events ++ [event]).filter PipelineEvent.isMilestone = _
  rw [List.filter_append,
    List.filter_cons_of_neg (by rw [silent]; exact Bool.false_ne_true), List.filter_nil,
    List.append_nil]
  rfl

theorem isCalm_transitionTo (newState : TaskExecutionState) :
    IsCalm (Pipeline.transitionTo host newState) := by
  refine isCalm_bind isCalm_observe fun moment => isCalm_bind isCalm_read fun session => ?_
  cases validateTaskExecutionTransition session.record.state newState with
  | error error => exact isCalm_bind (isCalm_emit rfl) fun _ => isCalm_raise _
  | ok _ =>
      exact isCalm_bind (isCalm_changeRecord (fun _ => rfl) fun _ => rfl) fun _ =>
        isCalm_emit rfl

theorem isCalm_eachOf {Element : Type} {program : Element → PipelineProgram Unit}
    (calm : ∀ element, IsCalm (program element)) (elements : List Element) :
    IsCalm (Pipeline.eachOf program elements) := by
  induction elements with
  | nil => exact isCalm_pure _
  | cons element rest inductionHypothesis =>
      exact isCalm_bind (calm element) fun _ => inductionHypothesis

/-- A package is replaced by one that has come as far. -/
theorem PlanGraph.map_put {graph : PlanGraph} {package other : WorkPackage}
    (found : graph.packageById other.id = .ok package)
    (same : other.progress = package.progress) :
    (graph.put other).map WorkPackage.progress = graph.map WorkPackage.progress := by
  rw [packageById_eq_ok] at found
  unfold put
  induction graph with
  | nil => rfl
  | cons head tail inductionHypothesis =>
      rw [List.find?_cons] at found
      rw [modify]
      by_cases wanted : head.id = other.id
      · rw [decide_eq_true wanted] at found
        have unchanged : head = package := Option.some.inj found
        rw [if_pos wanted, List.map_cons, List.map_cons, same, unchanged]
      · rw [decide_eq_false wanted] at found
        rw [if_neg wanted, List.map_cons, List.map_cons, inductionHypothesis found]

theorem milestones_unfocus (packageId : String) (before : PipelineSession)
    (final : StageSession) :
    (Pipeline.unfocus packageId before final).milestones =
      before.milestones ++ final.milestones.map (PipelineEvent.inPackage packageId) := by
  show (before.events ++ final.events.map (PipelineEvent.inPackage packageId)).filter
    PipelineEvent.isMilestone = _
  rw [List.filter_append, List.filter_map]
  rfl

theorem onPackage_missing {packageId : String} {program : StageProgram Value}
    {session : PipelineSession} {error : OrchestrateError}
    (missing : session.record.planGraph.packageById packageId = .error error) :
    Pipeline.onPackage packageId program session = (.error (.failed error), session) := by
  unfold Pipeline.onPackage
  rw [missing]

theorem onPackage_found {packageId : String} {program : StageProgram Value}
    {session : PipelineSession} {package : WorkPackage}
    (found : session.record.planGraph.packageById packageId = .ok package) :
    Pipeline.onPackage packageId program session =
      ((program (Pipeline.focus session package)).1,
        Pipeline.unfocus packageId session (program (Pipeline.focus session package)).2) := by
  unfold Pipeline.onPackage
  rw [found]

theorem calm_unfocus {packageId : String} {before : PipelineSession} {package : WorkPackage}
    {final : StageSession}
    (found : before.record.planGraph.packageById packageId = .ok package)
    (steady : Steady (Pipeline.focus before package) final) :
    Calm before (Pipeline.unfocus packageId before final) := by
  have name : final.package.id = packageId :=
    (congrArg Progress.id steady.progress).trans (PlanGraph.packageById_mem found).2
  have kept : final.record.planGraph = before.record.planGraph := steady.planGraph
  refine ⟨?_, steady.completedPackages, ?_⟩
  · show (final.record.planGraph.put final.package).map WorkPackage.progress = _
    rw [kept]
    exact PlanGraph.map_put (by rw [name]; exact found) steady.progress
  · rw [milestones_unfocus, steady.milestones]
    exact List.append_nil _

theorem isCalm_onPackage {packageId : String} {program : StageProgram Value}
    (steady : IsSteady program) : IsCalm (Pipeline.onPackage packageId program) := by
  intro session
  cases found : session.record.planGraph.packageById packageId with
  | error error =>
      rw [onPackage_missing found]
      exact Calm.refl session
  | ok package =>
      rw [onPackage_found found]
      exact calm_unfocus found (steady _)

end IsCalm

/-! ## Steps of one package -/

section Staged

variable {host : Host} {config : OrchestrationConfig} {Value : Type}

/-- The package has made at most one move. -/
def MovesOnce (config : OrchestrationConfig) (before after : StageSession) : Prop :=
  ∃ outcome, Reaches config outcome before after

/-- From this session on the program makes at most one move. -/
def ProgramMoves (config : OrchestrationConfig) (program : StageProgram Value)
    (session : StageSession) : Prop :=
  MovesOnce config session (program session).2

theorem MovesOnce.ofSteady {before after : StageSession} (steady : Steady before after) :
    MovesOnce config before after :=
  ⟨_, Reaches.ofSteady .stageEscalated steady⟩

theorem moves_ofSteady {program : StageProgram Value} (steady : IsSteady program)
    (session : StageSession) : ProgramMoves config program session :=
  MovesOnce.ofSteady (steady session)

theorem moves_ofEnsures {program : StageProgram Value} {session : StageSession}
    (ensures : Stateful.Ensures program session (fun _ => MovesOnce config session)
      fun _ => MovesOnce config session) : ProgramMoves config program session := by
  unfold ProgramMoves
  unfold Stateful.Ensures at ensures
  cases ran : program session with
  | mk outcome after =>
      rw [ran] at ensures
      cases outcome with
      | ok _ => exact ensures
      | error _ => exact ensures

theorem moves_afterSteadyAt {Other : Type} {first : StageProgram Value}
    {next : Value → StageProgram Other} {session : StageSession}
    (steady : Steady session (first session).2)
    (moves : ∀ value middle, Steady session middle → ProgramMoves config (next value) middle) :
    ProgramMoves config (first >>= next) session := by
  unfold ProgramMoves
  rw [Stateful.bind_apply]
  cases ran : first session with
  | mk outcome middle =>
      rw [ran] at steady
      cases outcome with
      | error _ => exact MovesOnce.ofSteady steady
      | ok value =>
          obtain ⟨outcome, reaches⟩ := moves value middle steady
          exact ⟨outcome, reaches.afterSteady steady⟩

theorem moves_afterSteady {Other : Type} {first : StageProgram Value}
    {next : Value → StageProgram Other} {session : StageSession} (steady : IsSteady first)
    (moves : ∀ value middle, Steady session middle → ProgramMoves config (next value) middle) :
    ProgramMoves config (first >>= next) session :=
  moves_afterSteadyAt (steady session) moves

theorem moves_ite {condition : Prop} [Decidable condition]
    {program other : StageProgram Value} {session : StageSession}
    (first : condition → ProgramMoves config program session)
    (second : ¬condition → ProgramMoves config other session) :
    ProgramMoves config (if condition then program else other) session := by
  by_cases holds : condition
  · rw [if_pos holds]
    exact first holds
  · rw [if_neg holds]
    exact second holds

/-- What a failed projection raises instead changes nothing. -/
theorem moves_projected {program : StageProgram Unit} {session : StageSession}
    (moves : ProgramMoves config program session) :
    ProgramMoves config (ShardWave.projected program) session := by
  unfold ProgramMoves ShardWave.projected Stateful.recover at *
  cases ran : program session with
  | mk outcome after =>
      rw [ran] at moves
      cases outcome with
      | ok _ => exact moves
      | error _ => exact moves

theorem moves_advance {newStage : WorkPackageStage} {session : StageSession}
    (unfinished : newStage ≠ .completed) (different : session.package.stage ≠ newStage)
    (move : ∃ outcome, StageMove config session.package.progress
      [.stageTransition session.package.stage newStage] outcome
      { session.package.progress with stage := newStage }) :
    ProgramMoves config (advancePackageStage host newStage) session := by
  obtain ⟨outcome, move⟩ := move
  refine moves_ofEnsures ((ensures_advancePackageStage host session unfinished).mono
    (fun _ _ moves => ?_) fun _ _ never => never.elim)
  rw [stageEdge, if_neg different] at moves
  exact ⟨outcome, _, _, move, moves⟩

end Staged

/-! ## The results of a wave -/

section Results

variable {host : Host} {candidate : ParallelShardCandidate}

theorem isSteady_recordAttempt {status : String} :
    IsSteady (ShardWave.recordAttempt candidate status) :=
  isSteady_bind isSteady_currentPackage fun _ => isSteady_changePackage fun _ => rfl

theorem isSteady_swallow {program : StageProgram Unit} (steady : IsSteady program) :
    IsSteady (ShardWave.swallow program) := by
  have transitive : ∀ first second third, Steady first second → Steady second third →
      Steady first third := fun _ _ _ => Steady.trans
  exact Stateful.within_recover transitive steady fun _ => isSteady_pure _

theorem isSteady_applyParallelIsolatedDelta :
    IsSteady (ShardWave.applyParallelIsolatedDelta host candidate) :=
  isSteady_ite (isSteady_pure _)
    (isSteady_bind isSteady_observe fun _ =>
      isSteady_ite
        (isSteady_bind (isSteady_swallow isSteady_requestIntervention) fun _ =>
          isSteady_pure _)
        (isSteady_bind (isSteady_changePackage fun _ => rfl) fun _ => isSteady_pure _))

theorem totalPackages_releaseParallelDirtyOwnership (packageId : String)
    (record : TaskExecutionStateRecord) :
    (releaseParallelDirtyOwnership packageId record).totalPackages =
      record.totalPackages := by
  unfold releaseParallelDirtyOwnership
  dsimp only
  split
  · rfl
  · rfl

theorem isSteady_releaseOwnership {packageId : String} :
    IsSteady (changeRecord (releaseParallelDirtyOwnership packageId)) :=
  isSteady_changeRecord (planGraph_releaseParallelDirtyOwnership packageId)
    (completedPackages_releaseParallelDirtyOwnership packageId)
    (totalPackages_releaseParallelDirtyOwnership packageId)

theorem isSteady_applyParallelFailure :
    IsSteady (ShardWave.applyParallelFailure host candidate) :=
  isSteady_bind isSteady_recordAttempt fun _ =>
    isSteady_bind isSteady_observe fun _ =>
      isSteady_ite isSteady_releaseOwnership (isSteady_pure _)

theorem isSteady_receiveNothing {sourceChanged : Bool} :
    IsSteady (ShardWave.receiveNothing host candidate sourceChanged) :=
  isSteady_ite isSteady_requestIntervention
    (isSteady_bind isSteady_recordAttempt fun _ => isSteady_releaseOwnership)

/-- The stage at which a candidate works on its package. -/
def WorksAt (capability : AgentCapability) (stage : WorkPackageStage) : Prop :=
  (capability = .implement ∧ stage = .implement) ∨
    (capability = .review ∧ stage = .review) ∨
      (capability = .fixReview ∧ stage = .fixReview)

theorem moves_reviewed {review : String × List String} {result : AgentResult}
    {session : StageSession} (stage : session.package.stage = .review) :
    ProgramMoves host.config (currentPackage >>= fun package =>
      if package.executionMode = "review_shard" then
        completeReviewShard review.1 review.2 result
      else if review.1 = "changes_required" then
        queueReviewFixes host review.2
      else
        advancePackageStage host .finalReview) session := by
  refine moves_ite (fun shard => ?_) fun _ => moves_ite (fun _ => ?_) fun _ => ?_
  · have unfinished : session.package.stage ≠ .completed := by
      rw [stage]
      decide
    refine moves_ofEnsures ((ensures_completeReviewShard unfinished).mono
      (fun _ _ moves => ?_) fun _ _ never => never.elim)
    rw [stage] at moves
    exact ⟨_, _, _, .shardReviewed stage shard, moves⟩
  · refine moves_ofEnsures ((ensures_queueReviewFixes (Or.inl stage)).mono
      (fun _ _ queued => ?_) fun signal _ reaches => ⟨_, reaches⟩)
    obtain ⟨target, queued, moves⟩ := queued
    exact ⟨_, _, _, .repairQueued target (Or.inl stage) queued, moves⟩
  · refine moves_advance (by decide) (by rw [stage]; decide) ⟨.handled .proceed, ?_⟩
    rw [stage]
    exact .approved .finalReview stage (Or.inl rfl)

/-- What is projected from an answer is one move of its package. -/
theorem moves_applyParallelSuccess {payload : AgentPayload} {session : StageSession}
    (works : WorksAt candidate.capability session.package.stage) :
    ProgramMoves host.config (ShardWave.applyParallelSuccess host candidate payload) session := by
  refine moves_afterSteady isSteady_recordAttempt fun _ noted one =>
    moves_afterSteady isSteady_recordAgentExecution fun _ recorded two => ?_
  have kept : recorded.package.stage = session.package.stage := (one.trans two).stage
  rcases works with ⟨capability, stage⟩ | ⟨capability, stage⟩ | ⟨capability, stage⟩
  · rw [capability]
    have ready : recorded.package.stage = .implement := kept.trans stage
    refine moves_afterSteadyAt (steady_applyImplementationResult host _
      (by rw [ready]; decide)) fun _ applied further => ?_
    have still : applied.package.stage = .implement := further.stage.trans ready
    refine moves_advance (by decide) (by rw [still]; decide) ⟨.handled .proceed, ?_⟩
    rw [still]
    exact .implemented still
  · rw [capability]
    refine moves_afterSteady isSteady_reviewResult fun review reviewed further => ?_
    exact moves_reviewed ((further.stage.trans kept).trans stage)
  · rw [capability]
    have ready : recorded.package.stage = .fixReview := kept.trans stage
    refine moves_afterSteadyAt (steady_applyImplementationResult host _
      (by rw [ready]; decide)) fun _ applied further => ?_
    have still : applied.package.stage = .fixReview := further.stage.trans ready
    refine moves_advance (by decide) (by rw [still]; decide) ⟨.handled .proceed, ?_⟩
    rw [still]
    exact .repaired still

/-- Every result that comes in is at most one move of its package. -/
theorem moves_receiveResult {session : StageSession}
    (works : WorksAt candidate.capability session.package.stage) :
    ProgramMoves host.config (ShardWave.receiveResult host candidate) session := by
  refine moves_afterSteady isSteady_observe fun moment later observed => ?_
  have nothing : ProgramMoves host.config
      (ShardWave.receiveNothing host candidate moment.sourceChanged) later :=
    moves_ofSteady isSteady_receiveNothing later
  cases moment.attempt with
  | failure classification failures => exact nothing
  | broken error => exact nothing
  | success payload =>
      refine moves_ite (fun _ => moves_ofSteady isSteady_applyParallelFailure later)
        fun _ => ?_
      refine moves_afterSteady isSteady_applyParallelIsolatedDelta
        fun applied middle delta => ?_
      refine moves_ite (fun _ => moves_projected (moves_applyParallelSuccess ?_))
        fun _ => moves_ofSteady isSteady_applyParallelFailure middle
      rw [(observed.trans delta).stage]
      exact works

end Results

/-! ## The choice and the start of a wave -/

section Waves

variable {host : Host} {config : OrchestrationConfig}

/-- A shard that a candidate of a wave may work on. -/
def IsCandidate (fits : AgentCapability → WorkPackageStage → Prop) (graph : PlanGraph)
    (candidate : ParallelShardCandidate) : Prop :=
  ∃ package, graph.packageById candidate.packageId = .ok package ∧ package.parentId ≠ "" ∧
    fits candidate.capability package.stage

/-- The stage at which a candidate is chosen. -/
def StartsAt (capability : AgentCapability) (stage : WorkPackageStage) : Prop :=
  WorksAt capability stage ∨ (capability = .implement ∧ stage = .prepare)

theorem IsCandidate.grows {fits : AgentCapability → WorkPackageStage → Prop}
    {before after : PlanGraph} {more : List Progress} {candidate : ParallelShardCandidate}
    (chosen : IsCandidate fits before candidate)
    (same : after.map WorkPackage.progress = before.map WorkPackage.progress ++ more) :
    IsCandidate fits after candidate := by
  obtain ⟨package, found, shard, fitting⟩ := chosen
  obtain ⟨other, present, equal⟩ := PlanGraph.packageById_progress same found
  have parent : other.parentId = package.parentId := congrArg Progress.parentId equal
  have stage : other.stage = package.stage := congrArg Progress.stage equal
  refine ⟨other, present, ?_, ?_⟩
  · rw [parent]
    exact shard
  · rw [stage]
    exact fitting

theorem IsCandidate.calm {fits : AgentCapability → WorkPackageStage → Prop}
    {before after : PipelineSession} {candidate : ParallelShardCandidate}
    (chosen : IsCandidate fits before.record.planGraph candidate)
    (calm : Calm before after) : IsCandidate fits after.record.planGraph candidate :=
  chosen.grows (by rw [calm.progress, List.append_nil])

theorem startsAt_capabilityForParallelStage {package : WorkPackage}
    {capability : AgentCapability}
    (found : ShardWave.capabilityForParallelStage package = some capability) :
    StartsAt capability package.stage := by
  unfold ShardWave.capabilityForParallelStage at found
  unfold StartsAt WorksAt
  cases stage : package.stage <;> rw [stage] at found <;> simp_all

theorem parallelCapability_some {package : WorkPackage} {capability : AgentCapability}
    (found : ShardWave.parallelCapability config package = some capability) :
    package.parentId ≠ "" ∧ StartsAt capability package.stage := by
  unfold ShardWave.parallelCapability at found
  by_cases apart : package.parentId = "" ∨ package.parallelSafe = false
  · rw [if_pos apart] at found
    cases found
  · rw [if_neg apart] at found
    refine ⟨fun root => apart (Or.inl root), ?_⟩
    cases stage : ShardWave.capabilityForParallelStage package with
    | none =>
        rw [stage] at found
        cases found
    | some other =>
        rw [stage] at found
        dsimp only at found
        split at found
        · cases found
        · cases found
          exact startsAt_capabilityForParallelStage stage

theorem assignInWave_progress (capability : AgentCapability) (agentId : String)
    (package : WorkPackage) :
    (ShardWave.assignInWave capability agentId package).progress = package.progress := by
  unfold ShardWave.assignInWave
  cases capability <;> rfl

theorem ensures_parallelCandidate {excluded : List String} (session : StageSession) :
    Stateful.Ensures (ShardWave.parallelCandidate host excluded) session
      (fun chosen after => Steady session after ∧ ∀ candidate, chosen = some candidate →
        candidate.packageId = session.package.id ∧ session.package.parentId ≠ "" ∧
          StartsAt candidate.capability session.package.stage)
      (fun _ after => Steady session after) := by
  unfold ShardWave.parallelCandidate
  rw [Stateful.ensures_bind, ensures_currentPackage]
  cases chosen : ShardWave.parallelCapability host.config session.package with
  | none => exact ⟨Steady.refl session, fun _ impossible => by cases impossible⟩
  | some capability =>
      dsimp only
      rw [Stateful.ensures_bind]
      refine (isSteady_selectAgent.ensures session).mono (fun agent middle steady => ?_)
        fun _ _ steady => steady
      cases agent with
      | none => exact ⟨steady, fun _ impossible => by cases impossible⟩
      | some agentId =>
          dsimp only
          rw [Stateful.ensures_bind]
          have assigns : IsSteady (changePackage (ShardWave.assignInWave capability agentId)) :=
            isSteady_changePackage (assignInWave_progress capability agentId)
          refine (assigns.ensures middle).mono (fun _ assigned further => ?_)
            fun _ _ further => steady.trans further
          refine ⟨steady.trans further, fun candidate same => ?_⟩
          cases same
          exact ⟨rfl, parallelCapability_some chosen⟩

/-- A program for one package, told for the whole plan. -/
theorem ensures_onPackage {Value : Type} {packageId : String} {package : WorkPackage}
    {program : StageProgram Value} {session : PipelineSession}
    {returns : Value → StageSession → Prop} {raises : StageSignal → StageSession → Prop}
    (found : session.record.planGraph.packageById packageId = .ok package)
    (ensures : Stateful.Ensures program (Pipeline.focus session package) returns raises) :
    Stateful.Ensures (Pipeline.onPackage packageId program) session
      (fun value after => ∃ final, after = Pipeline.unfocus packageId session final ∧
        returns value final)
      (fun signal after => ∃ final, after = Pipeline.unfocus packageId session final ∧
        raises signal final) := by
  unfold Stateful.Ensures at ensures ⊢
  rw [onPackage_found found]
  cases ran : program (Pipeline.focus session package) with
  | mk outcome final =>
      rw [ran] at ensures
      cases outcome with
      | ok _ => exact ⟨final, rfl, ensures⟩
      | error _ => exact ⟨final, rfl, ensures⟩

theorem ensures_gatherOne {packageId : String} {excluded : List String}
    (session : PipelineSession) :
    Stateful.Ensures
      (Pipeline.onPackage packageId (ShardWave.parallelCandidate host excluded)) session
      (fun chosen after => Calm session after ∧ ∀ candidate, chosen = some candidate →
        candidate.packageId = packageId ∧
          IsCandidate StartsAt after.record.planGraph candidate)
      (fun _ after => Calm session after) := by
  cases found : session.record.planGraph.packageById packageId with
  | error error =>
      unfold Stateful.Ensures
      rw [onPackage_missing found]
      exact Calm.refl session
  | ok package =>
      refine (ensures_onPackage found
        (ensures_parallelCandidate (Pipeline.focus session package))).mono
        (fun chosen after ended => ?_) fun _ after ended => ?_
      · obtain ⟨final, same, steady, fits⟩ := ended
        have calm : Calm session after := by
          rw [same]
          exact calm_unfocus found steady
        refine ⟨calm, fun candidate picked => ?_⟩
        have fitting := fits candidate picked
        have name := fitting.1.trans (PlanGraph.packageById_mem found).2
        refine ⟨name, IsCandidate.calm ⟨package, ?_, fitting.2⟩ calm⟩
        rw [name]
        exact found
      · obtain ⟨final, same, steady⟩ := ended
        rw [same]
        exact calm_unfocus found steady

/-- A wave of shards that are different from each other. -/
structure IsWave (fits : AgentCapability → WorkPackageStage → Prop) (graph : PlanGraph)
    (wave : List ParallelShardCandidate) : Prop where
  unique : (wave.map ParallelShardCandidate.packageId).Nodup
  candidates : ∀ candidate ∈ wave, IsCandidate fits graph candidate

theorem IsWave.calm {fits : AgentCapability → WorkPackageStage → Prop}
    {before after : PipelineSession} {wave : List ParallelShardCandidate}
    (chosen : IsWave fits before.record.planGraph wave) (calm : Calm before after) :
    IsWave fits after.record.planGraph wave :=
  ⟨chosen.unique, fun candidate member => (chosen.candidates candidate member).calm calm⟩

theorem ensures_gatherCandidates (rest : List WorkPackage)
    (built : List ParallelShardCandidate) (session : PipelineSession)
    (unique : (built.map ParallelShardCandidate.packageId ++
      rest.map WorkPackage.id).Nodup)
    (chosen : ∀ candidate ∈ built, IsCandidate StartsAt session.record.planGraph candidate) :
    Stateful.Ensures (ShardWave.gatherCandidates host rest built) session
      (fun wave after => Calm session after ∧ IsWave StartsAt after.record.planGraph wave)
      (fun _ after => Calm session after) := by
  induction rest generalizing built session with
  | nil =>
      rw [List.map_nil, List.append_nil] at unique
      exact ⟨Calm.refl session, unique, chosen⟩
  | cons package rest inductionHypothesis =>
      rw [ShardWave.gatherCandidates, Stateful.ensures_bind]
      refine (ensures_gatherOne session).mono (fun picked middle ended => ?_)
        fun _ _ calm => calm
      obtain ⟨calm, fits⟩ := ended
      have kept : ∀ candidate ∈ built,
          IsCandidate StartsAt middle.record.planGraph candidate :=
        fun candidate member => (chosen candidate member).calm calm
      have shorter : (built.map ParallelShardCandidate.packageId ++
          rest.map WorkPackage.id).Nodup := by
        refine unique.sublist (List.Sublist.append_left ?_ _)
        exact List.sublist_cons_self _ _
      cases picked with
      | none =>
          exact (inductionHypothesis built middle shorter kept).mono
            (fun _ _ ended => ⟨calm.trans ended.1, ended.2⟩)
            fun _ _ further => calm.trans further
      | some candidate =>
          obtain ⟨name, fitting⟩ := fits candidate rfl
          -- either the candidate joins the wave or the wave stays as it is
          have grown : ∀ wave : List ParallelShardCandidate,
              wave = built ++ [candidate] ∨ wave = built →
                (wave.map ParallelShardCandidate.packageId ++
                  rest.map WorkPackage.id).Nodup ∧
                ∀ other ∈ wave, IsCandidate StartsAt middle.record.planGraph other := by
            rintro wave (joined | same)
            · rw [joined]
              refine ⟨?_, fun other member => ?_⟩
              · rw [List.map_append, List.append_assoc]
                show (_ ++ candidate.packageId :: _).Nodup
                rw [name]
                exact unique
              · rcases List.mem_append.mp member with old | new
                · exact kept other old
                · rw [List.mem_singleton.mp new]
                  exact fitting
            · rw [same]
              exact ⟨shorter, kept⟩
          dsimp only
          generalize growth : (if (ShardWave.chooseParallelCandidates host.config
            (built ++ [candidate])).length = built.length + 1 then built ++ [candidate]
              else built) = wave
          have shape : wave = built ++ [candidate] ∨ wave = built := by
            rw [← growth]
            split
            · exact Or.inl rfl
            · exact Or.inr rfl
          have further := grown wave shape
          refine Stateful.ensures_ite (fun _ => ?_) fun _ => ?_
          · refine ⟨calm, ?_, further.2⟩
            exact (List.nodup_append.mp further.1).1
          · exact (inductionHypothesis wave middle further.1 further.2).mono
              (fun _ _ ended => ⟨calm.trans ended.1, ended.2⟩)
              fun _ _ last => calm.trans last

theorem ensures_buildParallelWave {ready : List WorkPackage} {deferred : List String}
    (session : PipelineSession) (unique : (ready.map WorkPackage.id).Nodup) :
    Stateful.Ensures (ShardWave.buildParallelWave host ready deferred) session
      (fun wave after => Calm session after ∧ IsWave StartsAt after.record.planGraph wave)
      (fun _ after => Calm session after) := by
  have empty : ∀ graph, IsWave StartsAt graph [] := fun _ =>
    ⟨List.nodup_nil, fun _ member => absurd member List.not_mem_nil⟩
  refine Stateful.ensures_ite (fun _ => ⟨Calm.refl session, empty _⟩) fun _ => ?_
  rw [Stateful.ensures_bind]
  have distinct : ((ready.filter fun package => package.id ∉ deferred).map
      WorkPackage.id).Nodup := unique.sublist (List.filter_sublist.map _)
  refine (ensures_gatherCandidates _ [] session distinct
    fun _ member => absurd member List.not_mem_nil).mono (fun built middle ended => ?_)
      fun _ _ calm => calm
  refine ⟨ended.1, ?_⟩
  show IsWave StartsAt _ (if 2 ≤ built.length then built else [])
  split
  · exact ended.2
  · exact empty _

/-! ## The work of a wave -/

theorem unfocus_self {packageId : String} {before : PipelineSession} {package : WorkPackage}
    {final : StageSession}
    (found : before.record.planGraph.packageById packageId = .ok package)
    (run : StageRun config (Pipeline.focus before package) final) :
    (Pipeline.unfocus packageId before final).record.planGraph.packageById packageId =
      .ok final.package := by
  have name : final.package.id = packageId :=
    (StageRun.id run).trans (PlanGraph.packageById_mem found).2
  obtain ⟨children, grown, _⟩ := StageRun.grows run
  obtain ⟨other, present, _⟩ := PlanGraph.packageById_progress grown found
  show (PlanGraph.modify final.package.id _ _).packageById packageId = _
  rw [name]
  exact PlanGraph.packageById_modify_self (fun _ _ => name) present

theorem unfocus_other {packageId otherId : String} {before : PipelineSession}
    {package other : WorkPackage} {final : StageSession} (different : otherId ≠ packageId)
    (found : before.record.planGraph.packageById packageId = .ok package)
    (present : before.record.planGraph.packageById otherId = .ok other)
    (run : StageRun config (Pipeline.focus before package) final) :
    ∃ kept, (Pipeline.unfocus packageId before final).record.planGraph.packageById otherId =
      .ok kept ∧ kept.progress = other.progress := by
  have name : final.package.id = packageId :=
    (StageRun.id run).trans (PlanGraph.packageById_mem found).2
  obtain ⟨children, grown, _⟩ := StageRun.grows run
  obtain ⟨kept, still, same⟩ := PlanGraph.packageById_progress grown present
  refine ⟨kept, ?_, same⟩
  show (PlanGraph.modify final.package.id _ _).packageById otherId = _
  rw [name, PlanGraph.packageById_modify_ne (fun _ _ => name) different]
  exact still

theorem IsCandidate.other {fits : AgentCapability → WorkPackageStage → Prop}
    {packageId : String} {before : PipelineSession} {package : WorkPackage}
    {final : StageSession} {candidate : ParallelShardCandidate}
    (chosen : IsCandidate fits before.record.planGraph candidate)
    (different : candidate.packageId ≠ packageId)
    (found : before.record.planGraph.packageById packageId = .ok package)
    (run : StageRun config (Pipeline.focus before package) final) :
    IsCandidate fits (Pipeline.unfocus packageId before final).record.planGraph candidate := by
  obtain ⟨other, present, shard, fitting⟩ := chosen
  obtain ⟨kept, still, same⟩ := unfocus_other different found present run
  refine ⟨kept, still, ?_, ?_⟩
  · rw [show kept.parentId = other.parentId from congrArg Progress.parentId same]
    exact shard
  · rw [show kept.stage = other.stage from congrArg Progress.stage same]
    exact fitting

/-- A shard that has not begun. -/
def AtPrepare (graph : PlanGraph) (packageId : String) : Prop :=
  ∃ package, graph.packageById packageId = .ok package ∧ package.parentId ≠ "" ∧
    package.stage = .prepare

theorem AtPrepare.other {packageId otherId : String} {before : PipelineSession}
    {package : WorkPackage} {final : StageSession}
    (prepared : AtPrepare before.record.planGraph otherId) (different : otherId ≠ packageId)
    (found : before.record.planGraph.packageById packageId = .ok package)
    (run : StageRun config (Pipeline.focus before package) final) :
    AtPrepare (Pipeline.unfocus packageId before final).record.planGraph otherId := by
  obtain ⟨other, present, shard, stage⟩ := prepared
  obtain ⟨kept, still, same⟩ := unfocus_other different found present run
  refine ⟨kept, still, ?_, ?_⟩
  · rw [show kept.parentId = other.parentId from congrArg Progress.parentId same]
    exact shard
  · rw [show kept.stage = other.stage from congrArg Progress.stage same]
    exact stage

/-- A shard is asked for no decomposition, so its moves are steps. -/
theorem StageRun.ofMove {before after : StageSession} (shard : before.package.parentId ≠ "")
    (unfinished : before.package.stage ≠ .completed)
    (moves : MovesOnce config before after) : StageRun config before after :=
  .single ⟨unfinished, Or.inr ⟨fun root => absurd root shard, moves⟩⟩

theorem ensures_startShard {session : StageSession}
    (stage : session.package.stage = .prepare) (shard : session.package.parentId ≠ "") :
    Stateful.Ensures (advancePackageStage host .implement) session
      (fun _ after => StageRun host.config session after ∧
        after.package.stage = .implement ∧ after.package.parentId ≠ "")
      (fun _ _ => False) := by
  have unfinished : WorkPackageStage.implement ≠ .completed := by decide
  refine (ensures_advancePackageStage host session unfinished).mono
    (fun _ after moves => ?_) fun _ _ never => never
  have parent : after.package.parentId = session.package.parentId :=
    congrArg Progress.parentId moves.progress
  refine ⟨StageRun.ofMove shard (by rw [stage]; decide) ?_, moves.stage, ?_⟩
  · rw [stageEdge, stage, if_neg (by decide)] at moves
    exact ⟨.handled .proceed, _, _, .prepared stage, moves⟩
  · rw [parent]
    exact shard

/-- The shards of a wave that have not begun are brought to their implementation. -/
theorem ensures_startEach {wave : List ParallelShardCandidate} (starting : List String)
    (session : PipelineSession) (unique : starting.Nodup)
    (prepared : ∀ packageId ∈ starting, AtPrepare session.record.planGraph packageId)
    (chosen : ∀ candidate ∈ wave, IsCandidate WorksAt session.record.planGraph candidate ∨
      (candidate.capability = .implement ∧ candidate.packageId ∈ starting)) :
    Stateful.Ensures (Pipeline.eachOf (fun packageId =>
      Pipeline.onPackage packageId (advancePackageStage host .implement)) starting) session
      (fun _ after => PlanRun host.config session after ∧
        ∀ candidate ∈ wave, IsCandidate WorksAt after.record.planGraph candidate)
      (fun _ after => PlanRun host.config session after) := by
  induction starting generalizing session with
  | nil =>
      refine ⟨.refl, fun candidate member => ?_⟩
      exact (chosen candidate member).resolve_right fun other =>
        absurd other.2 List.not_mem_nil
  | cons head tail inductionHypothesis =>
      obtain ⟨package, found, shard, stage⟩ := prepared head List.mem_cons_self
      have apart := List.nodup_cons.mp unique
      show Stateful.Ensures (Pipeline.onPackage head (advancePackageStage host .implement) >>=
        fun _ => Pipeline.eachOf _ tail) session _ _
      rw [Stateful.ensures_bind]
      have starts : Stateful.Ensures (advancePackageStage host .implement)
          (Pipeline.focus session package) _ _ := ensures_startShard stage shard
      refine (ensures_onPackage found starts).mono (fun _ middle ended => ?_)
        fun _ _ ended => ?_
      · obtain ⟨final, same, run, implementing, still⟩ := ended
        have step : PlanStep host.config session middle :=
          .staged head package final found run same
        have present := unfocus_self found run
        rw [← same] at present
        refine (inductionHypothesis middle apart.2 (fun packageId member => ?_)
          fun candidate member => ?_).mono
            (fun _ _ ended => ⟨.head step ended.1, ended.2⟩)
            fun _ _ further => .head step further
        · rw [same]
          refine (prepared packageId (List.mem_cons_of_mem _ member)).other ?_ found run
          intro equal
          rw [equal] at member
          exact apart.1 member
        · by_cases equal : candidate.packageId = head
          · refine Or.inl ⟨final.package, by rw [equal]; exact present, still, ?_⟩
            rcases chosen candidate member with works | ⟨capability, _⟩
            · -- its package has not begun, so nobody works on it
              obtain ⟨other, shown, _, working⟩ := works
              rw [equal, found] at shown
              cases shown
              rw [stage] at working
              rcases working with ⟨_, impossible⟩ | ⟨_, impossible⟩ | ⟨_, impossible⟩
              · cases impossible
              · cases impossible
              · cases impossible
            · rw [implementing]
              exact Or.inl ⟨capability, rfl⟩
          · rcases chosen candidate member with works | ⟨capability, listed⟩
            · rw [same]
              exact Or.inl (works.other equal found run)
            · exact Or.inr ⟨capability, (List.mem_cons.mp listed).resolve_left equal⟩
      · obtain ⟨final, _, never⟩ := ended
        exact never.elim

theorem mem_startingPackages {graph : PlanGraph} {wave : List ParallelShardCandidate}
    {packageId : String} :
    packageId ∈ ShardWave.startingPackages graph wave ↔
      packageId ∈ wave.map ParallelShardCandidate.packageId ∧ ∃ package,
        graph.packageById packageId = .ok package ∧ package.stage = .prepare := by
  unfold ShardWave.startingPackages
  rw [List.mem_filter]
  cases graph.packageById packageId with
  | error error => simp
  | ok package => simp

theorem ensures_startPackages {wave : List ParallelShardCandidate}
    {session : PipelineSession} (chosen : IsWave StartsAt session.record.planGraph wave) :
    Stateful.Ensures (ShardWave.startPackages host
      (ShardWave.startingPackages session.record.planGraph wave)) session
      (fun _ after => PlanRun host.config session after ∧
        IsWave WorksAt after.record.planGraph wave)
      (fun _ after => PlanRun host.config session after) := by
  let starting := ShardWave.startingPackages session.record.planGraph wave
  have unique : starting.Nodup := chosen.unique.sublist List.filter_sublist
  have cleans : IsCalm (Pipeline.eachOf (fun packageId =>
      Pipeline.onPackage packageId (validateCleanStart host)) starting) :=
    isCalm_eachOf (fun _ => isCalm_onPackage isSteady_validateCleanStart) starting
  show Stateful.Ensures (Pipeline.eachOf (fun packageId =>
    Pipeline.onPackage packageId (validateCleanStart host)) starting >>= fun _ =>
      Pipeline.eachOf (fun packageId =>
        Pipeline.onPackage packageId (advancePackageStage host .implement)) starting)
    session _ _
  rw [Stateful.ensures_bind]
  refine (cleans.ensures session).mono (fun _ middle calm => ?_)
    fun _ _ calm => .single (.calm calm)
  have prepared : ∀ packageId ∈ starting, AtPrepare middle.record.planGraph packageId := by
    intro packageId member
    obtain ⟨listed, package, found, stage⟩ := mem_startingPackages.mp member
    obtain ⟨candidate, candidates, name⟩ := List.mem_map.mp listed
    obtain ⟨other, present, shard, _⟩ := chosen.candidates candidate candidates
    rw [name, found] at present
    cases present
    have grown : middle.record.planGraph.map WorkPackage.progress =
        session.record.planGraph.map WorkPackage.progress ++ [] := by
      rw [calm.progress, List.append_nil]
    obtain ⟨kept, still, same⟩ := PlanGraph.packageById_progress grown found
    refine ⟨kept, still, ?_, ?_⟩
    · rw [show kept.parentId = package.parentId from congrArg Progress.parentId same]
      exact shard
    · rw [show kept.stage = package.stage from congrArg Progress.stage same]
      exact stage
  refine (ensures_startEach starting middle unique prepared fun candidate member => ?_).mono
    (fun _ _ ended => ⟨.head (.calm calm) ended.1, chosen.unique, ended.2⟩)
    fun _ _ run => .head (.calm calm) run
  obtain ⟨package, found, shard, works | ⟨capability, stage⟩⟩ :=
    chosen.candidates candidate member
  · exact Or.inl (IsCandidate.calm ⟨package, found, shard, works⟩ calm)
  · exact Or.inr ⟨capability, mem_startingPackages.mpr
      ⟨List.mem_map.mpr ⟨candidate, member, rfl⟩, package, found, stage⟩⟩

theorem isCalm_firstUnprepared (wave : List ParallelShardCandidate) :
    IsCalm (ShardWave.firstUnprepared host wave) := by
  induction wave with
  | nil => exact isCalm_pure _
  | cons candidate rest inductionHypothesis =>
      exact isCalm_ite inductionHypothesis
        (isCalm_bind isCalm_observe fun _ =>
          isCalm_ite (isCalm_pure _) inductionHypothesis)

theorem isCalm_firstOverBudget (wave : List ParallelShardCandidate) :
    IsCalm (ShardWave.firstOverBudget host wave) := by
  induction wave with
  | nil => exact isCalm_pure _
  | cons candidate rest inductionHypothesis =>
      exact isCalm_bind isCalm_observe fun _ =>
        isCalm_ite (isCalm_pure _) inductionHypothesis

theorem isCalm_launchProblem (wave : List ParallelShardCandidate) :
    IsCalm (ShardWave.launchProblem host wave) := by
  refine isCalm_bind (isCalm_firstUnprepared wave) fun unprepared => ?_
  cases unprepared with
  | some packageId => exact isCalm_pure _
  | none => exact isCalm_bind (isCalm_firstOverBudget wave) fun _ => isCalm_pure _

theorem isCalm_setActiveParallelWave (active : Bool) :
    IsCalm (Pipeline.changeRecord (ShardWave.setActiveParallelWave active)) :=
  isCalm_changeRecord (fun _ => rfl) fun _ => rfl

theorem isCalm_beginWave (wave : List ParallelShardCandidate) :
    IsCalm (ShardWave.beginWave wave) :=
  isCalm_bind isCalm_read fun _ =>
    isCalm_bind (isCalm_changeRecord (fun _ => rfl) fun _ => rfl) fun _ =>
      isCalm_bind (isCalm_setActiveParallelWave true) fun _ => isCalm_emit rfl

theorem isCalm_beginInvocation (candidate : ParallelShardCandidate) :
    IsCalm (ShardWave.beginInvocation candidate) :=
  isCalm_onPackage (isSteady_bind isSteady_currentPackage fun _ => isSteady_emit rfl)

theorem unfinished_of_worksAt {capability : AgentCapability} {stage : WorkPackageStage}
    (works : WorksAt capability stage) : stage ≠ .completed := by
  rcases works with ⟨_, same⟩ | ⟨_, same⟩ | ⟨_, same⟩
  · rw [same]
    decide
  · rw [same]
    decide
  · rw [same]
    decide

/-- The others of a wave are other shards. -/
theorem IsWave.erase {fits : AgentCapability → WorkPackageStage → Prop} {graph : PlanGraph}
    {wave : List ParallelShardCandidate} (chosen : IsWave fits graph wave) {index : Nat}
    {candidate : ParallelShardCandidate} (picked : wave[index]? = some candidate) :
    ((wave.eraseIdx index).map ParallelShardCandidate.packageId).Nodup ∧
      ∀ other ∈ wave.eraseIdx index, other ∈ wave ∧
        other.packageId ≠ candidate.packageId := by
  refine ⟨chosen.unique.sublist ((List.eraseIdx_sublist wave index).map _), ?_⟩
  intro other member
  obtain ⟨position, bounded, apart, same⟩ := List.mem_eraseIdx_iff_getElem.mp member
  obtain ⟨inside, found⟩ := List.getElem?_eq_some_iff.mp picked
  refine ⟨by rw [← same]; exact List.getElem_mem bounded, fun equal => apart ?_⟩
  have placed : position < (wave.map ParallelShardCandidate.packageId).length := by
    rw [List.length_map]
    exact bounded
  have listed : index < (wave.map ParallelShardCandidate.packageId).length := by
    rw [List.length_map]
    exact inside
  have equalIds : (wave.map ParallelShardCandidate.packageId)[position] =
      (wave.map ParallelShardCandidate.packageId)[index] := by
    rw [List.getElem_map, List.getElem_map, same, found]
    exact equal
  exact chosen.unique.getElem_inj_iff.mp equalIds

/-- The results of a wave, in whatever order they come in. -/
theorem run_receiveResults (left : Nat) (remaining : List ParallelShardCandidate)
    {session : PipelineSession} (chosen : IsWave WorksAt session.record.planGraph remaining) :
    Stateful.Ensures (ShardWave.receiveResults host left remaining) session
      (fun _ => PlanRun host.config session) fun _ => PlanRun host.config session := by
  induction left generalizing remaining session with
  | zero => exact Relation.ReflTransGen.refl
  | succ left inductionHypothesis =>
      have looks : IsCalm (Pipeline.observe host) := isCalm_observe
      rw [ShardWave.receiveResults, Stateful.ensures_bind]
      refine (looks.ensures session).mono (fun moment later calm => ?_)
        fun _ _ calm => .single (.calm calm)
      have working := chosen.calm calm
      dsimp only
      cases picked : remaining[moment.completes % remaining.length]? with
      | none => exact Relation.ReflTransGen.single (.calm calm)
      | some candidate =>
          dsimp only
          have member : candidate ∈ remaining := List.mem_of_getElem? picked
          obtain ⟨package, found, shard, works⟩ := working.candidates candidate member
          have moves : MovesOnce host.config (Pipeline.focus later package)
              (ShardWave.receiveResult host candidate (Pipeline.focus later package)).2 :=
            moves_receiveResult works
          have run := StageRun.ofMove shard (unfinished_of_worksAt works) moves
          rw [Stateful.ensures_bind]
          refine (ensures_onPackage found (Stateful.ensures_of_final run)).mono
            (fun _ after ended => ?_) fun _ after ended => ?_
          · obtain ⟨final, same, ran⟩ := ended
            have step : PlanStep host.config later after :=
              .staged candidate.packageId package final found ran same
            have others := working.erase picked
            have still : IsWave WorksAt after.record.planGraph
                (remaining.eraseIdx (moment.completes % remaining.length)) := by
              refine ⟨others.1, fun other listed => ?_⟩
              obtain ⟨old, apart⟩ := others.2 other listed
              rw [same]
              exact (working.candidates other old).other apart found ran
            exact (inductionHypothesis _ still).mono
              (fun _ _ further => .head (.calm calm) (.head step further))
              fun _ _ further => .head (.calm calm) (.head step further)
          · obtain ⟨final, same, ran⟩ := ended
            exact .head (.calm calm)
              (.single (.staged candidate.packageId package final found ran same))

theorem run_launchWave {wave : List ParallelShardCandidate} {session : PipelineSession}
    (chosen : IsWave WorksAt session.record.planGraph wave) :
    Stateful.Ensures (ShardWave.launchWave host wave) session
      (fun _ => PlanRun host.config session) fun _ => PlanRun host.config session := by
  unfold ShardWave.launchWave
  rw [Stateful.ensures_bind]
  refine ((isCalm_beginWave wave).ensures session).mono (fun _ begun one => ?_)
    fun _ _ one => .single (.calm one)
  have invocations : IsCalm (Pipeline.eachOf ShardWave.beginInvocation wave) :=
    isCalm_eachOf isCalm_beginInvocation wave
  rw [Stateful.ensures_bind]
  refine (invocations.ensures begun).mono (fun _ invoked two => ?_)
    fun _ _ two => .single (.calm (one.trans two))
  have calm := one.trans two
  rw [Stateful.ensures_bind]
  refine (run_receiveResults wave.length wave (chosen.calm calm)).mono
    (fun _ received run => ?_) fun _ _ run => .head (.calm calm) run
  have ends : IsCalm (Pipeline.changeRecord (ShardWave.setActiveParallelWave false) >>=
      fun _ => Pipeline.emit (.waveFinished (wave.map ParallelShardCandidate.packageId))) :=
    isCalm_bind (isCalm_setActiveParallelWave false) fun _ => isCalm_emit rfl
  exact (ends.ensures received).mono
    (fun _ _ last => .head (.calm calm) (run.tail (.calm last)))
    fun _ _ last => .head (.calm calm) (run.tail (.calm last))

/-- Work on a wave is a run of the plan; where there is no wave, nothing happens. -/
theorem run_shardWave {ready : List WorkPackage} {deferred : List String}
    {session : PipelineSession} (unique : (ready.map WorkPackage.id).Nodup) :
    Stateful.Ensures (ShardWave.run host ready deferred) session
      (fun launched after => PlanRun host.config session after ∧
        (launched = false → Calm session after))
      (fun _ => PlanRun host.config session) := by
  unfold ShardWave.run
  rw [Stateful.ensures_bind]
  refine (ensures_buildParallelWave session unique).mono (fun wave middle built => ?_)
    fun _ _ calm => .single (.calm calm)
  obtain ⟨calm, chosen⟩ := built
  have quiet : PlanStep host.config session middle := .calm calm
  refine Stateful.ensures_ite (fun _ => ⟨.single quiet, fun _ => calm⟩) fun _ => ?_
  show Stateful.Ensures (ShardWave.startPackages host
    (ShardWave.startingPackages middle.record.planGraph wave) >>= fun _ => _) middle _ _
  rw [Stateful.ensures_bind]
  refine (ensures_startPackages chosen).mono (fun _ started ended => ?_)
    fun _ _ run => .head quiet run
  obtain ⟨run, working⟩ := ended
  rw [Stateful.ensures_bind]
  refine ((isCalm_launchProblem wave).ensures started).mono (fun problem later still => ?_)
    fun _ _ still => .head quiet (run.tail (.calm still))
  cases problem with
  | some packageId =>
      have asks : IsCalm (Pipeline.onPackage packageId (requestIntervention host)) :=
        isCalm_onPackage isSteady_requestIntervention
      dsimp only
      rw [Stateful.ensures_bind]
      refine (asks.ensures later).mono (fun _ after last => ?_)
        fun _ _ last => .head quiet (run.tail (.calm (still.trans last)))
      exact ⟨.head quiet (run.tail (.calm (still.trans last))), fun impossible => by
        cases impossible⟩
  | none =>
      dsimp only
      rw [Stateful.ensures_bind]
      refine (run_launchWave (working.calm still)).mono (fun _ after last => ?_)
        fun _ _ last => .head quiet ((run.tail (.calm still)).trans last)
      exact ⟨.head quiet ((run.tail (.calm still)).trans last), fun impossible => by
        cases impossible⟩

end Waves

end Execraft.Orchestrate
