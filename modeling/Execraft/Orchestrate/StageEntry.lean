import Mathlib.Logic.Relation
import Execraft.Orchestrate.StageHandlers

/-!
# Entering the stages

What a dispatch does before the first stage is handled: the stages of a repository
synchronization, and the entry into a decomposition.
-/

namespace Execraft.Orchestrate

open Foundation

/-- The package whose decomposition begins. -/
def Progress.decomposing (progress : Progress) : Progress :=
  { progress with
    stage := .decompose
    decompositionOriginStage :=
      WorkPackageStage.value
        (if progress.stage = .prepare then .implement else progress.stage) }

/-- A package whose requested decomposition is not overdue; shards are never asked. -/
def Progress.Settled (progress : Progress) : Prop :=
  progress.parentId = "" → ¬(progress.decompositionRequired = true ∧
    progress.decompositionStatus = "" ∧ progress.stage ≠ .decompose)

/-- One change of stage before the stages are handled. -/
inductive EntryMove (progress : Progress) : List StageEvent → Progress → Prop where
  | steady : EntryMove progress [] progress
  | prepared (next : WorkPackageStage) (kind : progress.kind = .repositorySync)
      (stage : progress.stage = .prepare) (after : next = .implement ∨ next = .fastVerify) :
      EntryMove progress [.stageTransition .prepare next] { progress with stage := next }
  | resolved (kind : progress.kind = .repositorySync) (stage : progress.stage = .implement) :
      EntryMove progress [.stageTransition .implement .fastVerify]
        { progress with stage := .fastVerify }
  | required (required : progress.decompositionRequired = true)
      (undecided : progress.decompositionStatus = "") (entered : progress.stage ≠ .decompose) :
      EntryMove progress [.stageTransition progress.stage .decompose] progress.decomposing
  | automatic (kind : progress.kind ≠ .repositorySync) (root : progress.parentId = "")
      (undecided : progress.decompositionStatus = "") (entered : progress.stage ≠ .decompose)
      (capable : stageCapability progress.stage ≠ none) :
      EntryMove progress [.stageTransition progress.stage .decompose] progress.decomposing

/-- The session has made one of these changes. -/
def EntryStep (before after : StageSession) : Prop :=
  ∃ trace target, EntryMove before.package.progress trace target ∧
    Advances trace target before after

namespace EntryStep

theorem ofSteady {before after : StageSession} (steady : Steady before after) :
    EntryStep before after :=
  ⟨[], _, .steady, Advances.ofSteady steady⟩

theorem afterSteady {first second third : StageSession} (steady : Steady first second)
    (step : EntryStep second third) : EntryStep first third := by
  obtain ⟨trace, target, move, moves⟩ := step
  rw [steady.progress] at move
  exact ⟨trace, target, move, moves.afterSteady steady⟩

theorem kind {before after : StageSession} (step : EntryStep before after) :
    after.package.kind = before.package.kind := by
  obtain ⟨trace, target, move, moves⟩ := step
  have same : after.package.kind = target.kind := congrArg Progress.kind moves.progress
  rw [same]
  cases move <;> rfl

end EntryStep

/-- The session has made some of these changes. -/
abbrev Enters : StageSession → StageSession → Prop :=
  Relation.ReflTransGen EntryStep

section Entry

variable {host : Host}

/-- The program makes at most one of the changes. -/
def EntersOnce (program : StageProgram Unit) (session : StageSession) : Prop :=
  Stateful.Ensures program session (fun _ => EntryStep session) fun _ => EntryStep session

theorem entersOnce_ofSteady {program : StageProgram Unit} (steady : IsSteady program)
    (session : StageSession) : EntersOnce program session :=
  (steady.ensures session).mono (fun _ _ => EntryStep.ofSteady) fun _ _ =>
    EntryStep.ofSteady

/-- Work that is steady here comes before the change. -/
theorem entersOnce_afterSteadyAt {Value : Type} {first : StageProgram Value}
    {next : Value → StageProgram Unit} {session : StageSession}
    (steady : Steady session (first session).2)
    (enters : ∀ value middle, Steady session middle → EntersOnce (next value) middle) :
    EntersOnce (first >>= next) session := by
  unfold EntersOnce
  rw [Stateful.ensures_bind]
  refine (Stateful.ensures_of_final steady).mono (fun value middle begun => ?_)
    fun _ _ => EntryStep.ofSteady
  exact (enters value middle begun).mono (fun _ _ step => step.afterSteady begun)
    fun _ _ step => step.afterSteady begun

theorem entersOnce_afterSteady {Value : Type} {first : StageProgram Value}
    {next : Value → StageProgram Unit} {session : StageSession} (steady : IsSteady first)
    (enters : ∀ value middle, Steady session middle → EntersOnce (next value) middle) :
    EntersOnce (first >>= next) session :=
  entersOnce_afterSteadyAt (steady session) enters

theorem entersOnce_advance {newStage : WorkPackageStage} {session : StageSession}
    (unfinished : newStage ≠ .completed) (different : session.package.stage ≠ newStage)
    (move : EntryMove session.package.progress
      [.stageTransition session.package.stage newStage]
      { session.package.progress with stage := newStage }) :
    EntersOnce (advancePackageStage host newStage) session := by
  refine (ensures_advancePackageStage host session unfinished).mono
    (fun _ _ moves => ?_) fun _ _ never => never.elim
  rw [stageEdge, if_neg different] at moves
  exact ⟨_, _, move, moves⟩

/-! ## Repository synchronization -/

theorem entersOnce_prepareRepositorySync {session : StageSession}
    (kind : session.package.kind = .repositorySync)
    (stage : session.package.stage = .prepare) :
    EntersOnce (prepareRepositorySync host) session := by
  refine entersOnce_afterSteady isSteady_observe fun first observed begun =>
    entersOnce_afterSteady (isSteady_whenever isSteady_validateCleanStart)
      fun _ cleaned clean => entersOnce_afterSteady isSteady_currentPackage
        fun package current read => entersOnce_afterSteady isSteady_observe
          fun moment later further => ?_
  have steady : Steady session later := ((begun.trans clean).trans read).trans further
  have sync : later.package.kind = .repositorySync :=
    (congrArg Progress.kind steady.progress).trans kind
  have preparing : later.package.stage = .prepare := steady.stage.trans stage
  cases moment.syncPrepare with
  | error reason => exact entersOnce_ofSteady isSteady_escalate later
  | ok preparation =>
      refine entersOnce_afterSteady (isSteady_changePackage fun _ => rfl)
        fun _ noted changed => ?_
      have ready : noted.package.stage = .prepare := changed.stage.trans preparing
      have still : noted.package.kind = .repositorySync :=
        (congrArg Progress.kind changed.progress).trans sync
      have goesTo : ∀ next : WorkPackageStage, next = .implement ∨ next = .fastVerify →
          EntersOnce (advancePackageStage host next) noted := by
        intro next after
        have proper : next ≠ .completed ∧ WorkPackageStage.prepare ≠ next := by
          rcases after with implementing | verifying
          · subst implementing
            decide
          · subst verifying
            decide
        refine entersOnce_advance proper.1 (by rw [ready]; exact proper.2) ?_
        rw [ready]
        exact .prepared next still ready after
      exact Stateful.ensures_ite (fun _ => goesTo .fastVerify (Or.inr rfl)) fun _ =>
        Stateful.ensures_ite (fun _ => goesTo .implement (Or.inl rfl)) fun _ =>
          entersOnce_ofSteady isSteady_escalate noted

theorem entersOnce_resolveRepositorySync {session : StageSession}
    (kind : session.package.kind = .repositorySync)
    (stage : session.package.stage = .implement) :
    EntersOnce (resolveRepositorySync host) session := by
  refine entersOnce_afterSteady isSteady_assignAgents fun _ assigned begun =>
    entersOnce_afterSteady isSteady_observe fun first observed seen => ?_
  refine Stateful.ensures_ite (fun _ => entersOnce_ofSteady (isSteady_raise _) observed)
    fun _ => ?_
  refine entersOnce_afterSteady isSteady_currentPackage fun package current read =>
    entersOnce_afterSteady isSteady_callAgent fun result answered called => ?_
  have steady : Steady session answered := ((begun.trans seen).trans read).trans called
  have implementing : answered.package.stage = .implement := steady.stage.trans stage
  have sync : answered.package.kind = .repositorySync :=
    (congrArg Progress.kind steady.progress).trans kind
  have unreviewed : answered.package.stage ∉ reviewedStages := by
    rw [implementing]
    decide
  refine entersOnce_afterSteadyAt (steady_applyImplementationResult host result unreviewed)
    fun _ applied wrote => entersOnce_afterSteady isSteady_observe
      fun moment later further => ?_
  have still : later.package.kind = .repositorySync :=
    (congrArg Progress.kind (wrote.trans further).progress).trans sync
  have ready : later.package.stage = .implement :=
    (wrote.trans further).stage.trans implementing
  cases moment.syncAcceptResolution with
  | error reason => exact entersOnce_ofSteady isSteady_escalate later
  | ok _ =>
      refine entersOnce_advance (by decide) (by rw [ready]; decide) ?_
      rw [ready]
      exact .resolved still ready

/-- The stages of a synchronization before its verification. -/
theorem enters_processRepositorySyncPreStages {session : StageSession}
    (kind : session.package.kind = .repositorySync) :
    Stateful.Ensures (processRepositorySyncPreStages host) session
      (fun _ => Enters session) fun _ => Enters session := by
  refine Stateful.ensures_ite (fun _ => Relation.ReflTransGen.refl) fun _ => ?_
  have prepares : EntersOnce (whenever (session.package.stage = .prepare)
      (prepareRepositorySync host)) session :=
    Stateful.ensures_ite (fun stage => entersOnce_prepareRepositorySync kind stage)
      fun _ => EntryStep.ofSteady (Steady.refl session)
  rw [Stateful.ensures_bind]
  refine prepares.mono (fun _ middle step => ?_) fun _ _ step => .single step
  have still : middle.package.kind = .repositorySync := step.kind.trans kind
  have resolves : EntersOnce (whenever (middle.package.stage = .implement)
      (resolveRepositorySync host)) middle :=
    Stateful.ensures_ite (fun stage => entersOnce_resolveRepositorySync still stage)
      fun _ => EntryStep.ofSteady (Steady.refl middle)
  exact resolves.mono (fun _ _ further => .tail (.single step) further)
    fun _ _ further => .tail (.single step) further

/-! ## Decomposition -/

theorem entersOnce_enterDecomposition {session : StageSession}
    (entered : session.package.stage ≠ .decompose)
    (move : EntryMove session.package.progress
      [.stageTransition session.package.stage .decompose]
      session.package.progress.decomposing) :
    EntersOnce (enterDecomposition host) session := by
  have kept : (markDecompositionOrigin session.package).stage = session.package.stage := rfl
  have unfinished : WorkPackageStage.decompose ≠ .completed := by decide
  refine (ensures_changeAndAdvance host markDecompositionOrigin kept rfl unfinished).mono
    (fun _ _ moves => ?_) fun _ _ never => never.elim
  rw [stageEdge, if_neg entered] at moves
  exact ⟨_, _, move, moves⟩

theorem mayAutoDecompose_of_should {moment : Moment} {package : WorkPackage}
    (automatic : shouldAutoDecompose host moment package = true) :
    package.kind ≠ .repositorySync ∧ package.parentId = "" ∧
      package.runtime.decompositionStatus = "" ∧ package.stage ≠ .decompose ∧
      stageCapability package.stage ≠ none := by
  unfold shouldAutoDecompose at automatic
  rw [Bool.and_eq_true] at automatic
  have may := automatic.1
  unfold mayAutoDecompose at may
  obtain ⟨kind, _, root, _, undecided, entered, fresh⟩ := of_decide_eq_true may
  refine ⟨kind, root, undecided, entered, fun incapable => ?_⟩
  rw [incapable] at fresh
  exact absurd fresh Bool.false_ne_true

theorem entersOnce_enterRequestedDecomposition (session : StageSession) :
    EntersOnce (enterRequestedDecomposition host) session := by
  show EntersOnce (observe host >>= fun moment =>
    if session.package.runtime.decompositionRequired = true ∧
        session.package.runtime.decompositionStatus = "" ∧
        session.package.stage ≠ .decompose then
      enterDecomposition host
    else if shouldAutoDecompose host moment session.package then
      enterDecomposition host
    else
      pure ()) session
  refine entersOnce_afterSteady isSteady_observe fun moment middle steady => ?_
  have same : middle.package.progress = session.package.progress := steady.progress
  refine Stateful.ensures_ite (fun mandatory => ?_) fun _ =>
    Stateful.ensures_ite (fun automatic => ?_) fun _ => EntryStep.ofSteady (Steady.refl middle)
  · obtain ⟨required, undecided, entered⟩ := mandatory
    refine entersOnce_enterDecomposition (by rw [steady.stage]; exact entered) ?_
    rw [same, steady.stage]
    exact .required required undecided entered
  · have may := mayAutoDecompose_of_should automatic
    refine entersOnce_enterDecomposition (by rw [steady.stage]; exact may.2.2.2.1) ?_
    rw [same, steady.stage]
    exact .automatic may.1 may.2.1 may.2.2.1 may.2.2.2.1 may.2.2.2.2

/-- A requested decomposition has begun when the first stage is handled. -/
theorem settles_enterRequestedDecomposition (session : StageSession) :
    Stateful.Ensures (enterRequestedDecomposition host) session
      (fun _ after => after.package.progress.Settled) fun _ _ => True := by
  have enters : ∀ middle : StageSession, Stateful.Ensures (enterDecomposition host) middle
      (fun _ after => after.package.progress.Settled) fun _ _ => True := by
    intro middle
    have kept : (markDecompositionOrigin middle.package).stage = middle.package.stage := rfl
    have unfinished : WorkPackageStage.decompose ≠ .completed := by decide
    refine (ensures_changeAndAdvance host markDecompositionOrigin kept rfl unfinished).mono
      (fun _ final moves => ?_) fun _ _ _ => trivial
    rw [moves.progress]
    exact fun _ overdue => overdue.2.2 rfl
  refine Stateful.ensures_ite (fun _ => enters _) fun settled => ?_
  refine Stateful.ensures_ite (fun _ => enters _) fun _ => ?_
  exact fun _ overdue => settled overdue

theorem settles_beginProcessing (session : StageSession) :
    Stateful.Ensures (beginProcessing host) session
      (fun _ after => after.package.progress.Settled) fun _ _ => True := by
  show Stateful.Ensures (whenever (session.package.kind = .repositorySync)
    (processRepositorySyncPreStages host) >>= fun _ => enterRequestedDecomposition host)
    session _ _
  rw [Stateful.ensures_bind]
  unfold Stateful.Ensures
  split
  · exact settles_enterRequestedDecomposition _
  · trivial

theorem enters_beginProcessing (session : StageSession) :
    Stateful.Ensures (beginProcessing host) session
      (fun _ => Enters session) fun _ => Enters session := by
  have synchronizes : Stateful.Ensures (whenever (session.package.kind = .repositorySync)
      (processRepositorySyncPreStages host)) session
      (fun _ => Enters session) fun _ => Enters session :=
    Stateful.ensures_ite (fun kind => enters_processRepositorySyncPreStages kind)
      fun _ => Relation.ReflTransGen.refl
  show Stateful.Ensures (whenever (session.package.kind = .repositorySync)
    (processRepositorySyncPreStages host) >>= fun _ => enterRequestedDecomposition host)
    session _ _
  rw [Stateful.ensures_bind]
  refine synchronizes.mono (fun _ middle entered => ?_) fun _ _ entered => entered
  exact (entersOnce_enterRequestedDecomposition middle).mono
    (fun _ _ step => entered.tail step) fun _ _ step => entered.tail step

end Entry

end Execraft.Orchestrate
