import Execraft.Orchestrate.StageMachine

/-!
# The handlers refine the machine

Every handling of a stage, whatever the agents, the verification and the workspace
answer, is one move of the machine of the stages.
-/

namespace Execraft.Orchestrate

open Foundation

section Refinement

variable {host : Host}

/-! ## Advancing a stage -/

/-- Advancing changes the stage, the waits and the journal. -/
theorem advancePackageStage_apply {newStage : WorkPackageStage} {session : StageSession}
    (host : Host) (different : session.package.stage ≠ newStage) :
    ∃ agentWaits waiting, advancePackageStage host newStage session =
      (.ok (),
        { package := { session.package with stage := newStage }
          record := { session.record with
            agentWaits := agentWaits
            waiting := waiting }
          events := session.events ++ [.stageTransition session.package.stage newStage]
          clock := session.clock + 1 }) := by
  refine ⟨(advancePackageStage host newStage session).2.record.agentWaits,
    (advancePackageStage host newStage session).2.record.waiting, ?_⟩
  unfold advancePackageStage
  simp only [bind, Stateful.bind, currentPackage, Stateful.read, pure, Stateful.pure,
    changePackage, Stateful.modify, if_pos different, changeRecord, refreshWaits, observe, emit]
  rfl

theorem advancePackageStage_same {session : StageSession} :
    advancePackageStage host session.package.stage session = (.ok (), session) := by
  unfold advancePackageStage
  show (if session.package.stage ≠ session.package.stage then _ else _ :
    StageProgram Unit) _ = _
  rw [if_neg (not_not_intro rfl)]
  rfl

theorem ensures_advancePackageStage (host : Host) {newStage : WorkPackageStage}
    (session : StageSession) (unfinished : newStage ≠ .completed) :
    Stateful.Ensures (advancePackageStage host newStage) session
      (fun _ => Advances (stageEdge session.package.stage newStage)
        { session.package.progress with stage := newStage } session)
      (fun _ _ => False) := by
  by_cases same : session.package.stage = newStage
  · subst same
    unfold Stateful.Ensures
    rw [advancePackageStage_same, stageEdge, if_pos rfl]
    exact Advances.ofSteady (Steady.refl session)
  · obtain ⟨agentWaits, waiting, shape⟩ := advancePackageStage_apply host same
    unfold Stateful.Ensures
    rw [shape, stageEdge, if_neg same]
    exact ⟨rfl, List.filter_append _ _, GraphGrows.refl _,
      fun _ finished => absurd finished unfinished, fun _ => rfl, fun closed => closed⟩

/-- A change of the package and then of its stage. -/
theorem ensures_changeAndAdvance (host : Host) (update : WorkPackage → WorkPackage)
    {newStage : WorkPackageStage} {session : StageSession}
    (stage : (update session.package).stage = session.package.stage)
    (dependencies : (update session.package).dependencies = session.package.dependencies)
    (unfinished : newStage ≠ .completed) :
    Stateful.Ensures
      (changePackage update >>= fun _ => advancePackageStage host newStage) session
      (fun _ => Advances (stageEdge session.package.stage newStage)
        { (update session.package).progress with stage := newStage } session)
      (fun _ _ => False) := by
  rw [Stateful.ensures_bind]
  have advanced := ensures_advancePackageStage host
    { session with package := update session.package } unfinished
  refine advanced.mono (fun _ final moves => ?_) fun _ _ never => never
  rw [← stage]
  exact moves.ofChanged stage dependencies

/-- A change of the stage at the end of other moves. -/
theorem Advances.ensures_advance {trace : List StageEvent} {target : Progress}
    {before middle : StageSession} {newStage : WorkPackageStage} (host : Host)
    (moves : Advances trace target before middle) (different : target.stage ≠ newStage)
    (started : target.stage ≠ .completed) (unfinished : newStage ≠ .completed) :
    Stateful.Ensures (advancePackageStage host newStage) middle
      (fun _ => Advances (trace ++ [.stageTransition target.stage newStage])
        { target with stage := newStage } before)
      (fun _ _ => False) := by
  refine (ensures_advancePackageStage host middle unfinished).mono
    (fun _ final advanced => ?_) fun _ _ never => never
  rw [moves.progress, moves.stage, stageEdge, if_neg different] at advanced
  exact moves.trans started advanced

theorem planGraph_releaseParallelDirtyOwnership (packageId : String)
    (record : TaskExecutionStateRecord) :
    (releaseParallelDirtyOwnership packageId record).planGraph = record.planGraph := by
  unfold releaseParallelDirtyOwnership
  dsimp only
  split
  · rfl
  · rfl

theorem completedPackages_releaseParallelDirtyOwnership (packageId : String)
    (record : TaskExecutionStateRecord) :
    (releaseParallelDirtyOwnership packageId record).completedPackages =
      record.completedPackages := by
  unfold releaseParallelDirtyOwnership
  dsimp only
  split
  · rfl
  · rfl

theorem ensures_markPackageCompleted {session : StageSession} :
    Stateful.Ensures markPackageCompleted session
      (fun _ => Advances [.stageTransition session.package.stage .completed]
        { session.package.progress with
          stage := .completed
          status := "completed" } session)
      (fun _ _ => False) := by
  refine ⟨rfl, List.filter_append _ _, ?_, ?_, fun further => absurd rfl further,
    fun closed => closed.ofSame rfl (congrArg (List.map WorkPackage.progress)
      (planGraph_releaseParallelDirtyOwnership _ _))⟩
  · show GraphGrows _ (releaseParallelDirtyOwnership _ _).planGraph
    rw [planGraph_releaseParallelDirtyOwnership]
    exact GraphGrows.refl _
  · intro _ _
    show (releaseParallelDirtyOwnership _ _).completedPackages =
      PlanGraph.completedCount ((releaseParallelDirtyOwnership _ _).planGraph.put _)
    rw [completedPackages_releaseParallelDirtyOwnership,
      planGraph_releaseParallelDirtyOwnership]
    rfl

/-! ## Programs that never return -/

/-- The program only gives up, and moves no package before. -/
def NeverReturns {Value : Type} (program : StageProgram Value) : Prop :=
  ∀ session, Stateful.Ensures program session (fun _ _ => False) (fun _ => Steady session)

theorem neverReturns_raise {Value : Type} (signal : StageSignal) :
    NeverReturns (Stateful.raise signal : StageProgram Value) :=
  fun session => Steady.refl session

theorem neverReturns_after {Value Other : Type} {first : StageProgram Value}
    {next : Value → StageProgram Other} (steady : IsSteady first)
    (never : ∀ value, NeverReturns (next value)) : NeverReturns (first >>= next) := by
  intro session
  rw [Stateful.ensures_bind]
  refine (steady.ensures session).mono (fun value middle begun => ?_) fun _ _ kept => kept
  exact (never value middle).mono (fun _ _ impossible => impossible) fun _ _ => begun.trans

theorem neverReturns_escalate {Value : Type} :
    NeverReturns (escalate host : StageProgram Value) :=
  neverReturns_after isSteady_requestIntervention fun _ => neverReturns_raise _

/-- The program gives up for good. -/
def Stops {Value : Type} (program : StageProgram Value) : Prop :=
  ∀ session, Stateful.Ensures program session (fun _ _ => False)
    (fun signal after => signal.outcome = .stopped ∧ Steady session after)

theorem stops_escalate {Value : Type} : Stops (escalate host : StageProgram Value) := by
  intro session
  have steady := (neverReturns_escalate : NeverReturns (escalate host : StageProgram Value))
    session
  have moves : ∀ middle, Stateful.Ensures (moveTask host .humanRequired) middle
      (fun _ _ => True) (fun signal _ => signal.outcome = .stopped) := by
    intro middle
    unfold moveTask
    rw [Stateful.ensures_bind]
    rw [ensures_observe, Stateful.ensures_bind, Stateful.ensures_read]
    cases validateTaskExecutionTransition (observe host middle).2.record.state
      .humanRequired with
    | error error => exact rfl
    | ok _ => exact trivial
  have signals : Stateful.Ensures (escalate host : StageProgram Value) session
      (fun _ _ => True) (fun signal _ => signal.outcome = .stopped) := by
    unfold escalate requestIntervention
    rw [Stateful.ensures_bind, Stateful.ensures_bind]
    exact (moves _).mono (fun _ _ _ => rfl) fun _ _ stopped => stopped
  exact (steady.and signals).mono (fun _ _ both => both.1) fun _ _ both => ⟨both.2, both.1⟩

theorem neverReturns_waitForAgentAvailability {Value : Type} :
    NeverReturns (waitForAgentAvailability host : StageProgram Value) := by
  refine neverReturns_after isSteady_observe fun moment => ?_
  cases moment.agentWaitPlan with
  | expired => exact neverReturns_after isSteady_clearAgentWait fun _ => neverReturns_escalate
  | onlyTooComplex => exact neverReturns_escalate
  | scheduled waiting =>
      refine neverReturns_after isSteady_currentPackage fun package =>
        neverReturns_after (isSteady_changeRecord (fun _ => rfl) (fun _ => rfl) fun _ => rfl)
          fun _ => neverReturns_after isSteady_refreshWaits fun _ =>
            neverReturns_after isSteady_read fun session => ?_
      exact neverReturns_after (isSteady_whenever (isSteady_moveTask _)) fun _ =>
        neverReturns_raise _

theorem ensures_clearAgentWait (session : StageSession) :
    Stateful.Ensures (clearAgentWait host) session (fun _ => Steady session)
      (fun _ _ => False) := by
  have drops : IsSteady (changeRecord (dropAgentWait session.package.id) >>= fun _ =>
      refreshWaits host) :=
    isSteady_bind (isSteady_changeRecord (fun _ => rfl) (fun _ => rfl) fun _ => rfl)
      fun _ => isSteady_refreshWaits
  exact Stateful.ensures_ite (fun _ => drops session) fun _ => Steady.refl session

/-! ## Recovery of the workspace -/

/-- The package is verified again because its workspace was written to. -/
def Rewound (before after : StageSession) : Prop :=
  before.package.stage ∈ reviewedStages ∧
    Advances [.stageTransition before.package.stage .regressionVerify]
      { before.package.progress with
        stage := .regressionVerify
        status := "pending" } before after

/-- At most the package was sent back to its verification. -/
def Recovers (before after : StageSession) : Prop :=
  Steady before after ∨ Rewound before after

theorem Rewound.stage {before after : StageSession} (rewound : Rewound before after) :
    after.package.stage = .regressionVerify :=
  rewound.2.stage

theorem Recovers.refl (session : StageSession) : Recovers session session :=
  Or.inl (Steady.refl session)

theorem Recovers.trans {first second third : StageSession} (one : Recovers first second)
    (two : Recovers second third) : Recovers first third := by
  rcases one with steady | rewound
  · rcases two with further | ⟨reviewed, moves⟩
    · exact Or.inl (steady.trans further)
    · rw [steady.stage] at reviewed
      rw [steady.progress, steady.stage] at moves
      exact Or.inr ⟨reviewed, moves.afterSteady steady⟩
  · rcases two with further | ⟨reviewed, _⟩
    · exact Or.inr ⟨rewound.1, rewound.2.beforeSteady (by simp) further⟩
    · rw [rewound.stage] at reviewed
      exact absurd reviewed (by decide)

theorem recovers_transitive (first second third : StageSession)
    (one : Recovers first second) (two : Recovers second third) : Recovers first third :=
  one.trans two

theorem Recovers.steady {before after : StageSession} (recovers : Recovers before after)
    (unreviewed : before.package.stage ∉ reviewedStages) : Steady before after := by
  rcases recovers with steady | rewound
  · exact steady
  · exact absurd rewound.1 unreviewed

section Recovers

variable {Value Other : Type}

theorem recovers_ofSteady {program : StageProgram Value} (steady : IsSteady program) :
    Stateful.Within Recovers program :=
  fun session => Or.inl (steady session)

theorem recovers_bind {first : StageProgram Value} {next : Value → StageProgram Other}
    (begins : Stateful.Within Recovers first)
    (goes : ∀ value, Stateful.Within Recovers (next value)) :
    Stateful.Within Recovers (first >>= next) :=
  Stateful.within_bind recovers_transitive begins goes

theorem recovers_ite {condition : Prop} [Decidable condition]
    {program other : StageProgram Value} (first : Stateful.Within Recovers program)
    (second : Stateful.Within Recovers other) :
    Stateful.Within Recovers (if condition then program else other) :=
  Stateful.within_ite first second

theorem isSteady_dirtyForeign : IsSteady (dirtyForeign host) :=
  isSteady_bind isSteady_observe fun _ =>
    isSteady_bind isSteady_read fun _ => isSteady_pure _

theorem isSteady_validateCleanStart : IsSteady (validateCleanStart host) :=
  isSteady_bind isSteady_currentPackage fun _ =>
    isSteady_ite
      (isSteady_ite isSteady_escalate
        (isSteady_bind isSteady_dirtyForeign fun _ =>
          isSteady_bind (isSteady_ite isSteady_dirtyForeign (isSteady_pure _)) fun _ =>
            isSteady_ite isSteady_escalate (isSteady_pure _)))
      (isSteady_pure _)

theorem isSteady_workspaceRecoveryCandidates :
    IsSteady (workspaceRecoveryCandidates host) := by
  refine isSteady_bind isSteady_observe fun moment => ?_
  cases moment.scopeCandidates with
  | error error => exact isSteady_raise _
  | ok candidates => exact isSteady_pure _

theorem isSteady_scopeRecoveryAgent : IsSteady (scopeRecoveryAgent host) :=
  isSteady_bind isSteady_currentPackage fun _ =>
    isSteady_bind isSteady_ineligibilityReason fun _ =>
      isSteady_ite (isSteady_pure _)
        (isSteady_bind isSteady_selected fun _ =>
          isSteady_ite isSteady_selected (isSteady_pure _))

theorem recovers_rewindReviewedPackage :
    Stateful.Within Recovers (rewindReviewedPackage host) := by
  intro session
  by_cases reviewed : session.package.stage ∈ reviewedStages
  · have different : session.package.stage ≠ .regressionVerify := by
      intro same
      rw [same] at reviewed
      exact absurd reviewed (by decide)
    have kept : (forgetReviews session.package).stage = session.package.stage := rfl
    obtain ⟨_, final, ran, moves⟩ := Stateful.Ensures.completes
      (ensures_changeAndAdvance host forgetReviews kept rfl
        (show WorkPackageStage.regressionVerify ≠ .completed by decide))
    unfold rewindReviewedPackage
    show Recovers session ((if session.package.stage ∈ reviewedStages then _ else _ :
      StageProgram Unit) session).2
    rw [if_pos reviewed, ran]
    rw [stageEdge, if_neg different] at moves
    exact Or.inr ⟨reviewed, moves⟩
  · unfold rewindReviewedPackage
    show Recovers session ((if session.package.stage ∈ reviewedStages then _ else _ :
      StageProgram Unit) session).2
    rw [if_neg reviewed]
    exact Recovers.refl session

theorem recovers_attemptAgentScopeRecovery :
    Stateful.Within Recovers (attemptAgentScopeRecovery host) := by
  have stays : ∀ value : Bool, Stateful.Within Recovers (pure value : StageProgram Bool) :=
    fun value => recovers_ofSteady (isSteady_pure value)
  refine recovers_bind (recovers_ofSteady isSteady_currentPackage) fun package =>
    recovers_ite (stays _) ?_
  refine recovers_bind (recovers_ofSteady isSteady_workspaceRecoveryCandidates)
    fun candidates => recovers_bind (recovers_ofSteady isSteady_observe) fun moment =>
      recovers_ite (stays _) (recovers_ite (stays _) ?_)
  refine recovers_bind (recovers_ofSteady isSteady_scopeRecoveryAgent) fun agentId =>
    recovers_ite (stays _) ?_
  refine recovers_bind (recovers_ofSteady isSteady_callAgent) fun result =>
    recovers_ite (stays _) ?_
  refine recovers_bind (recovers_ofSteady isSteady_workspaceRecoveryCandidates)
    fun left => recovers_ite (stays _) ?_
  refine recovers_bind (recovers_ofSteady isSteady_observe) fun after => ?_
  cases after.retainedPaths with
  | error error => exact recovers_ofSteady (isSteady_raise _)
  | ok added =>
      refine recovers_bind (recovers_ofSteady (isSteady_changePackage fun _ => rfl))
        fun _ => recovers_bind (recovers_ofSteady isSteady_workspaceRecoveryCandidates)
          fun remaining => ?_
      exact recovers_bind (recovers_ofSteady (isSteady_changePackage fun _ => rfl))
        fun _ => recovers_bind recovers_rewindReviewedPackage fun _ => stays _

theorem recovers_orEscalate {program : StageProgram Value}
    (recovers : Stateful.Within Recovers program) :
    Stateful.Within Recovers (orEscalate host program) := by
  refine Stateful.within_recover recovers_transitive recovers fun signal => ?_
  cases signal with
  | failed error => exact recovers_ofSteady isSteady_escalate
  | agentWaitRequested => exact recovers_ofSteady (isSteady_raise _)
  | stageEscalated => exact recovers_ofSteady (isSteady_raise _)

theorem recovers_orFalse {program : StageProgram Bool}
    (recovers : Stateful.Within Recovers program) :
    Stateful.Within Recovers (orFalse program) := by
  refine Stateful.within_recover recovers_transitive recovers fun signal => ?_
  cases signal with
  | failed error => exact recovers_ofSteady (isSteady_pure _)
  | agentWaitRequested => exact recovers_ofSteady (isSteady_raise _)
  | stageEscalated => exact recovers_ofSteady (isSteady_raise _)

theorem recovers_validateDeclaredWriteScope :
    Stateful.Within Recovers (validateDeclaredWriteScope host) := by
  have candidates : Stateful.Within Recovers (workspaceRecoveryCandidates host) :=
    recovers_ofSteady isSteady_workspaceRecoveryCandidates
  refine recovers_bind (recovers_orEscalate (recovers_bind candidates fun found =>
    recovers_ite ?_ (recovers_ofSteady (isSteady_pure _)))) fun left =>
      recovers_ite (recovers_ofSteady isSteady_escalate) (recovers_ofSteady (isSteady_pure _))
  exact recovers_bind recovers_attemptAgentScopeRecovery fun _ => candidates

theorem recovers_applyImplementationResult {result : AgentResult} :
    Stateful.Within Recovers (applyImplementationResult host result) :=
  recovers_ite (recovers_ofSteady isSteady_escalate)
    (recovers_bind (recovers_ofSteady (isSteady_changePackage fun _ => rfl)) fun _ =>
      recovers_validateDeclaredWriteScope)

end Recovers

/-- The recoveries that the configuration allows. -/
def OrchestrationConfig.recoversScope (config : OrchestrationConfig) : Prop :=
  config.strictChecks = true ∧ config.scopeRecoveryPolicy.enabled = true

/-- Before a commit the package may be sent back to its verification. -/
def MayRewind (config : OrchestrationConfig) (before after : StageSession) : Prop :=
  Steady before after ∨ (config.recoversScope ∧ Rewound before after)

theorem MayRewind.afterSteady {config : OrchestrationConfig}
    {first second third : StageSession} (steady : Steady first second)
    (mayRewind : MayRewind config second third) : MayRewind config first third := by
  refine mayRewind.imp steady.trans fun rewinds => ⟨rewinds.1, ?_⟩
  obtain ⟨reviewed, moves⟩ := rewinds.2
  rw [steady.stage] at reviewed
  rw [steady.progress, steady.stage] at moves
  exact ⟨reviewed, moves.afterSteady steady⟩

theorem MayRewind.beforeSteady {config : OrchestrationConfig}
    {first second third : StageSession} (mayRewind : MayRewind config first second)
    (steady : Steady second third) : MayRewind config first third := by
  refine mayRewind.imp (fun kept => kept.trans steady) fun rewinds => ⟨rewinds.1, ?_⟩
  exact ⟨rewinds.2.1, rewinds.2.2.beforeSteady (by simp) steady⟩

/-- The package stays when it may be committed; otherwise it went back. -/
theorem ensures_prepareCommitScope {session : StageSession}
    (stage : session.package.stage = .readyToCommit) :
    Stateful.Ensures (prepareCommitScope host) session
      (fun prepared after =>
        if prepared = true then Steady session after
        else host.config.recoversScope ∧ Rewound session after)
      (fun _ => MayRewind host.config session) := by
  have allowed : ∀ {final : StageSession}, host.config.recoversScope →
      Recovers session final → MayRewind host.config session final := by
    intro final recoversScope recovers
    exact recovers.imp_right fun rewound => ⟨recoversScope, rewound⟩
  unfold prepareCommitScope
  refine Stateful.ensures_ite (fun _ => Steady.refl session) fun strict => ?_
  rw [Stateful.ensures_bind]
  refine (isSteady_workspaceRecoveryCandidates.ensures session).mono
    (fun candidates middle steady => ?_) fun _ _ steady => Or.inl steady
  refine Stateful.ensures_ite (fun _ => steady) fun _ => Stateful.ensures_ite
    (fun _ => (neverReturns_escalate middle).mono (fun _ _ never => never.elim)
      fun _ _ further => Or.inl (steady.trans further)) fun disabled => ?_
  have recoversScope : host.config.recoversScope :=
    ⟨by simpa using strict, by simpa using disabled⟩
  have begun : Recovers session middle := Or.inl steady
  rw [Stateful.ensures_bind]
  refine ((recovers_orFalse recovers_attemptAgentScopeRecovery).ensures middle).mono
    (fun recovered after recovers => ?_)
    fun _ _ recovers => allowed recoversScope (begun.trans recovers)
  have reached := begun.trans recovers
  refine Stateful.ensures_ite
    (fun _ => (neverReturns_escalate after).mono (fun _ _ never => never.elim)
      fun _ _ further => allowed recoversScope (reached.trans (Or.inl further))) fun _ => ?_
  rw [Stateful.ensures_bind]
  refine (isSteady_workspaceRecoveryCandidates.ensures after).mono
    (fun remaining final further => ?_)
    fun _ _ further => allowed recoversScope (reached.trans (Or.inl further))
  refine Stateful.ensures_ite (fun _ => ?_)
    (fun _ => (neverReturns_escalate final).mono (fun _ _ never => never.elim)
      fun _ _ last => allowed recoversScope (reached.trans (Or.inl (further.trans last))))
  -- the answer tells whether the package is still about to be committed
  have ended : Recovers session final := reached.trans (Or.inl further)
  show if decide (final.package.stage = .readyToCommit) = true then Steady session final
    else host.config.recoversScope ∧ Rewound session final
  by_cases ready : final.package.stage = .readyToCommit
  · rw [if_pos (decide_eq_true ready)]
    refine ended.resolve_right fun rewound => ?_
    rw [rewound.stage] at ready
    exact absurd ready (by decide)
  · rw [if_neg (fun decided => ready (of_decide_eq_true decided))]
    refine ⟨recoversScope, ended.resolve_left fun kept => ready ?_⟩
    rw [kept.stage, stage]

/-! ## Verification -/

/-- A milestone goes into the journal and the counters of the package change. -/
theorem advances_changeAndEmit (update : WorkPackage → WorkPackage) {event : StageEvent}
    {session : StageSession} (milestone : event.isMilestone = true)
    (kept : (update session.package).stage = session.package.stage)
    (dependencies :
      (update session.package).dependencies = session.package.dependencies) :
    Advances [event] (update session.package).progress session
      { session with
        package := update session.package
        events := session.events ++ [event] } := by
  refine ⟨rfl, ?_, GraphGrows.refl _, fun unfinished finished => ?_, fun _ => rfl,
    fun closed => closed.ofSame dependencies rfl⟩
  · show (session.events ++ [event]).filter _ = _
    rw [List.filter_append, List.filter_cons_of_pos milestone, List.filter_nil]
    rfl
  · exact absurd (kept.symm.trans finished) unfinished

/-- The counters of the package change. -/
theorem advances_changePackage (update : WorkPackage → WorkPackage) {session : StageSession}
    (kept : (update session.package).stage = session.package.stage)
    (dependencies :
      (update session.package).dependencies = session.package.dependencies) :
    Advances [] (update session.package).progress session
      { session with package := update session.package } := by
  refine ⟨rfl, (List.append_nil _).symm, GraphGrows.refl _,
    fun unfinished finished => ?_, fun _ => rfl, fun closed => closed.ofSame dependencies rfl⟩
  exact absurd (kept.symm.trans finished) unfinished

theorem isSteady_requireSyncTransaction : IsSteady (requireSyncTransaction host) :=
  isSteady_bind isSteady_currentPackage fun _ =>
    isSteady_bind isSteady_observe fun _ => isSteady_ite isSteady_escalate (isSteady_pure _)

theorem ensures_markSyncVerified (session : StageSession) :
    Stateful.Ensures (markSyncVerified host) session (fun _ => Steady session)
      (fun signal after => signal.outcome = .stopped ∧ Steady session after) := by
  have observed : Steady session (observe host session).2 := isSteady_observe session
  unfold markSyncVerified
  rw [Stateful.ensures_bind, ensures_currentPackage, Stateful.ensures_bind,
    ensures_observe]
  cases (host.surroundings session.clock).syncMarkVerified with
  | error reason =>
      refine Stateful.ensures_ite (fun _ => ?_) fun _ => observed
      exact (stops_escalate _).mono (fun _ _ never => never.elim)
        fun _ _ stops => ⟨stops.1, observed.trans stops.2⟩
  | ok _ => exact observed

/-- The progress after one more failed verification. -/
def Progress.rejected (progress : Progress) : Progress :=
  { progress with verificationAttempts := progress.verificationAttempts + 1 }

/-- A failed verification sends the package back or ends the work of the task. -/
theorem ensures_retryVerification {results : List CommandResult} {session : StageSession}
    (stage : session.package.stage = .fastVerify ∨
      session.package.stage = .regressionVerify) :
    Stateful.Ensures (retryVerification host results) session
      (fun passed after => passed = false ∧
        session.package.progress.verificationAttempts + 1 <
          host.config.maxVerificationAttempts ∧
        Advances [.verificationFailed, .stageTransition session.package.stage
            (retryStage session.package.progress)]
          { session.package.progress.rejected with
            stage := retryStage session.package.progress } session after)
      (fun signal after => signal.outcome = .stopped ∧
        (host.config.maxVerificationAttempts : Int) ≤
          session.package.progress.verificationAttempts + 1 ∧
        Advances [.verificationFailed] session.package.progress.rejected session after) := by
  let rejected : StageSession :=
    { session with
      package := rejectVerification session.package
      events := session.events ++ [.verificationFailed] }
  have counted : Advances [.verificationFailed] session.package.progress.rejected session
      rejected := advances_changeAndEmit rejectVerification rfl rfl rfl
  have unfinished : session.package.stage ≠ .completed := by
    rcases stage with fast | regression
    · rw [fast]
      decide
    · rw [regression]
      decide
  show Stateful.Ensures (if (host.config.maxVerificationAttempts : Int) ≤
      rejected.package.runtime.verificationAttempts then _ else _) rejected _ _
  refine Stateful.ensures_ite (fun exhausted => ?_) fun within => ?_
  · exact (stops_escalate rejected).mono (fun _ _ never => never.elim)
      fun _ _ stops => ⟨stops.1, exhausted, counted.beforeSteady unfinished stops.2⟩
  have left := Int.not_le.mp within
  have goesBack : ∀ {middle : StageSession} {newStage : WorkPackageStage},
      Advances [.verificationFailed] session.package.progress.rejected session middle →
      retryStage session.package.progress = newStage →
      session.package.stage ≠ newStage → newStage ≠ .completed →
      Stateful.Ensures (advancePackageStage host newStage >>= fun _ => pure false) middle
        (fun passed after => passed = false ∧
          session.package.progress.verificationAttempts + 1 <
            host.config.maxVerificationAttempts ∧
          Advances [.verificationFailed, .stageTransition session.package.stage
              (retryStage session.package.progress)]
            { session.package.progress.rejected with
              stage := retryStage session.package.progress } session after)
        (fun _ _ => False) := by
    intro middle newStage moves retry different proper
    rw [Stateful.ensures_bind, retry]
    exact (moves.ensures_advance host different unfinished proper).mono
      (fun _ final moved => ⟨rfl, left, moved⟩) fun _ _ never => never
  refine Stateful.ensures_ite (fun again => ?_) fun otherwise => ?_
  · have retry : retryStage session.package.progress = .fixReview := if_pos again
    have noted : Steady rejected { rejected with
        package := { rejected.package with
          runtime := { rejected.package.runtime with
            reviewFindings := verificationFailureFindings results } } } :=
      ⟨rfl, rfl, rfl, rfl, rfl⟩
    have different : session.package.stage ≠ .fixReview := by
      rw [show session.package.stage = .regressionVerify from again.2]
      decide
    exact (goesBack (counted.beforeSteady unfinished noted) retry different (by decide)).mono
      (fun _ _ moved => moved) fun _ _ never => never.elim
  · have retry : retryStage session.package.progress = .implement := if_neg otherwise
    have different : session.package.stage ≠ .implement := by
      rcases stage with fast | regression
      · rw [fast]
        decide
      · rw [regression]
        decide
    exact (goesBack counted retry different (by decide)).mono (fun _ _ moved => moved)
      fun _ _ never => never.elim

/-- The result of a verification. -/
def Verified (config : OrchestrationConfig) (passed : Bool)
    (before after : StageSession) : Prop :=
  if passed = true then
    ∃ attempts, (attempts = 0 ∨ attempts = before.package.progress.verificationAttempts) ∧
      Advances [.verificationPassed]
        { before.package.progress with verificationAttempts := attempts } before after
  else
    before.package.progress.verificationAttempts + 1 < config.maxVerificationAttempts ∧
      Advances [.verificationFailed, .stageTransition before.package.stage
          (retryStage before.package.progress)]
        { before.package.progress.rejected with
          stage := retryStage before.package.progress } before after

theorem Verified.afterSteady {config : OrchestrationConfig} {passed : Bool}
    {first second third : StageSession} (steady : Steady first second)
    (verified : Verified config passed second third) : Verified config passed first third := by
  unfold Verified at verified ⊢
  rw [steady.progress, steady.stage] at verified
  by_cases accepted : passed = true
  · rw [if_pos accepted] at verified ⊢
    obtain ⟨attempts, reset, moves⟩ := verified
    exact ⟨attempts, reset, moves.afterSteady steady⟩
  · rw [if_neg accepted] at verified ⊢
    exact ⟨verified.1, verified.2.afterSteady steady⟩

/-- The verification itself, once the synchronization is there. -/
theorem ensures_verdict {results : List CommandResult} {session : StageSession}
    (stage : session.package.stage = .fastVerify ∨
      session.package.stage = .regressionVerify) :
    Stateful.Ensures
      (if results.any (CommandResult.blocks host.config) = false then do
        changePackage (acceptVerification host.config results)
        emit .verificationPassed
        markSyncVerified host
        return true
      else
        retryVerification host results) session
      (fun passed => Verified host.config passed session)
      (fun signal => Reaches host.config signal.outcome session) := by
  have unfinished : session.package.stage ≠ .completed := by
    rcases stage with fast | regression
    · rw [fast]
      decide
    · rw [regression]
      decide
  refine Stateful.ensures_ite (fun _ => ?_) fun _ => ?_
  · have passed : Advances [.verificationPassed]
        { session.package.progress with verificationAttempts := 0 } session
        { session with
          package := acceptVerification host.config results session.package
          events := session.events ++ [.verificationPassed] } :=
      advances_changeAndEmit (acceptVerification host.config results) rfl rfl rfl
    show Stateful.Ensures (markSyncVerified host >>= fun _ => pure true) _ _ _
    rw [Stateful.ensures_bind]
    refine (ensures_markSyncVerified _).mono
      (fun _ final steady => ?_) fun signal final stops => ?_
    · exact ⟨0, Or.inl rfl, passed.beforeSteady unfinished steady⟩
    · rw [stops.1]
      exact ⟨_, _, .verifiedUnmarked, passed.beforeSteady unfinished stops.2⟩
  · refine (ensures_retryVerification stage).mono (fun passed final outcome => ?_)
      fun signal final outcome => ?_
    · obtain ⟨failed, within, moves⟩ := outcome
      rw [failed]
      exact ⟨within, moves⟩
    · obtain ⟨stopped, exhausted, moves⟩ := outcome
      rw [stopped]
      exact ⟨_, _, .verificationExhausted exhausted, moves⟩

theorem ensures_runVerification {session : StageSession}
    (stage : session.package.stage = .fastVerify ∨
      session.package.stage = .regressionVerify) :
    Stateful.Ensures (runVerification host) session
      (fun passed => Verified host.config passed session)
      (fun signal => Reaches host.config signal.outcome session) := by
  unfold runVerification
  rw [Stateful.ensures_bind]
  refine (isSteady_requireSyncTransaction.ensures session).mono
    (fun _ middle steady => ?_) fun signal _ steady => Reaches.ofSteady signal steady
  rw [Stateful.ensures_bind]
  refine (isSteady_observe.ensures middle).mono (fun moment later further => ?_)
    fun signal _ further => Reaches.ofSteady signal (steady.trans further)
  have begun : Steady session later := steady.trans further
  have same : later.package.stage = .fastVerify ∨
      later.package.stage = .regressionVerify := by
    rw [begun.stage]
    exact stage
  refine Stateful.ensures_ite (fun _ => Stateful.ensures_ite (fun _ => ?_) fun _ => ?_)
    fun _ => ?_
  · exact (neverReturns_escalate later).mono (fun _ _ never => never.elim)
      fun signal _ last => Reaches.ofSteady signal (begun.trans last)
  · have passed : Advances [.verificationPassed] later.package.progress later
        { later with events := later.events ++ [.verificationPassed] } :=
      advances_changeAndEmit id rfl rfl rfl
    exact Verified.afterSteady begun ⟨_, Or.inr rfl, passed⟩
  · exact (ensures_verdict same).mono (fun _ _ verified => verified.afterSteady begun)
      fun _ _ reaches => reaches.afterSteady begun

end Refinement

end Execraft.Orchestrate
