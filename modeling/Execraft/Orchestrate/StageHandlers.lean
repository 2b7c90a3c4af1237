import Execraft.Orchestrate.StageRefinement

/-!
# One handling is one move

Every handler of the orchestrator, started at its stage, makes one move of the machine
of the stages, whatever the surroundings answer.
-/

namespace Execraft.Orchestrate

open Foundation

section Handlers

variable {host : Host}

/-! ## Steady parts of the handlers -/

theorem isSteady_enforceRepositorySyncDivergenceCheck :
    IsSteady (enforceRepositorySyncDivergenceCheck host) := by
  refine isSteady_bind isSteady_currentPackage fun package =>
    isSteady_bind isSteady_observe fun moment => ?_
  cases moment.divergence with
  | clear => exact isSteady_pure _
  | unavailable required => exact isSteady_whenever isSteady_escalate
  | behind => exact isSteady_whenever isSteady_escalate

theorem isSteady_assignAgents : IsSteady (assignAgents host) :=
  isSteady_bind isSteady_currentPackage fun _ =>
    isSteady_ite (isSteady_bind isSteady_scheduleAgents fun _ => isSteady_assignSchedule)
      (isSteady_pure _)

theorem isSteady_reviewResult {result : AgentResult} :
    IsSteady (reviewResult host result) :=
  isSteady_ite (isSteady_bind (isSteady_emit rfl) fun _ => isSteady_pure _)
    (isSteady_ite (isSteady_raise _)
      (isSteady_bind (isSteady_changePackage fun _ => rfl) fun _ =>
        isSteady_bind (isSteady_emit rfl) fun _ => isSteady_pure _))

theorem isSteady_keepFindings {findings : List String} :
    IsSteady (changeRuntime (keepFindings findings)) :=
  isSteady_changePackage fun _ => rfl

theorem isSteady_requireResolvedFindings {rescue : Bool} {findings : List String}
    {result : AgentResult} : IsSteady (requireResolvedFindings rescue findings result) :=
  isSteady_ite (isSteady_raise _) (isSteady_pure _)

theorem isSteady_validateAcceptanceEvidence :
    IsSteady (validateAcceptanceEvidence host) :=
  isSteady_bind isSteady_currentPackage fun _ =>
    isSteady_ite
      (isSteady_bind isSteady_observe fun _ =>
        isSteady_bind (isSteady_whenever (isSteady_changePackage fun _ => rfl)) fun _ =>
          isSteady_bind isSteady_currentPackage fun _ =>
            isSteady_ite isSteady_escalate (isSteady_pure _))
      (isSteady_pure _)

theorem isSteady_prepareRepositorySyncAcceptanceEvidence :
    IsSteady (prepareRepositorySyncAcceptanceEvidence host) := by
  refine isSteady_bind isSteady_currentPackage fun package =>
    isSteady_bind isSteady_observe fun moment => ?_
  cases moment.syncTransaction with
  | none => exact isSteady_escalate
  | some transactionId =>
      exact isSteady_ite isSteady_escalate (isSteady_changePackage fun _ => rfl)

theorem isSteady_commitPackage : IsSteady (commitPackage host) := by
  refine isSteady_bind isSteady_observe fun moment => ?_
  cases moment.commitTransaction with
  | error reason => exact isSteady_escalate
  | ok transactionId => exact isSteady_pure _

theorem isSteady_requireFinalized : IsSteady (requireFinalized host) :=
  isSteady_bind isSteady_observe fun _ => isSteady_ite isSteady_escalate (isSteady_pure _)

theorem isSteady_choosePlanner {attempted : List String} :
    IsSteady (choosePlanner host attempted) :=
  isSteady_bind isSteady_currentPackage fun _ =>
    isSteady_ite (isSteady_pure _) isSteady_selected

theorem isSteady_planDecomposition (attempts : Nat) (attempted : List String) :
    IsSteady (planDecomposition host attempts attempted) := by
  induction attempts generalizing attempted with
  | zero => exact isSteady_pure _
  | succ attempts inductionHypothesis =>
      refine isSteady_bind isSteady_choosePlanner fun planner =>
        isSteady_ite (isSteady_pure _) ?_
      refine isSteady_bind (isSteady_changePackage fun _ => rfl) fun _ =>
        isSteady_bind isSteady_callAgent fun result =>
          isSteady_bind isSteady_observe fun moment => ?_
      cases moment.decomposition with
      | invalid =>
          exact isSteady_bind (isSteady_changePackage fun _ => rfl) fun _ =>
            inductionHypothesis _
      | keepAtomic reason => exact isSteady_pure _
      | shard reason planHash shards distinct closed => exact isSteady_pure _

/-! ## Rules for the end of a handler -/

variable {condition : Progress → Prop}

/-- The last step of a handler changes the stage. -/
theorem handles_advance {config : OrchestrationConfig} {newStage : WorkPackageStage}
    {disposition : StageDisposition} (unfinished : newStage ≠ .completed)
    (move : ∀ progress, condition progress →
      StageMove config progress (stageEdge progress.stage newStage) (.handled disposition)
        { progress with stage := newStage }) :
    Handles config condition
      (advancePackageStage host newStage >>= fun _ => pure disposition) := by
  intro session holds
  rw [Stateful.ensures_bind]
  exact (ensures_advancePackageStage host session unfinished).mono
    (fun _ _ moves => ⟨_, _, move _ holds, moves⟩) fun _ _ never => never.elim

theorem steady_applyImplementationResult (host : Host) (result : AgentResult)
    {session : StageSession} (unreviewed : session.package.stage ∉ reviewedStages) :
    Steady session (applyImplementationResult host result session).2 :=
  (recovers_applyImplementationResult session).steady unreviewed

/-! ## Preparation and implementation -/

theorem handles_prepareStage :
    Handles host.config (fun progress => progress.stage = .prepare)
      (prepareStage host) := by
  refine handles_afterSteady isSteady_enforceRepositorySyncDivergenceCheck fun _ =>
    handles_afterSteady isSteady_validateCleanStart fun _ =>
      handles_advance (by decide) fun progress stage => ?_
  rw [stage]
  exact .prepared stage

theorem handles_implementStage :
    Handles host.config (fun progress => progress.stage = .implement)
      (implementStage host) := by
  refine handles_afterSteady isSteady_assignAgents fun _ =>
    handles_currentPackage fun package stage =>
      handles_afterSteady isSteady_callAgent fun result =>
        handles_afterSteadyWhen (fun session same => ?_) fun _ =>
          handles_advance (by decide) fun progress same => ?_
  · refine steady_applyImplementationResult host result ?_
    rw [show session.package.stage = .implement from
      (congrArg Progress.stage same).trans stage]
    decide
  · rw [same] at *
    rw [stage]
    exact .implemented stage

theorem handles_verificationStage {fromStage nextStage : WorkPackageStage}
    (follows : (fromStage = .fastVerify ∧ nextStage = .review) ∨
      (fromStage = .regressionVerify ∧ nextStage = .finalReview)) :
    Handles host.config (fun progress => progress.stage = fromStage)
      (verificationStage host nextStage) := by
  intro session stage
  have begins : session.package.stage = fromStage := stage
  have proper : nextStage ≠ .completed ∧ fromStage ≠ nextStage ∧
      fromStage ≠ .completed ∧
      (fromStage = .fastVerify ∨ fromStage = .regressionVerify) := by
    rcases follows with ⟨fast, review⟩ | ⟨regression, final⟩
    · subst fast review
      decide
    · subst regression final
      decide
  unfold verificationStage
  rw [Stateful.ensures_bind]
  refine (ensures_runVerification (by rw [begins]; exact proper.2.2.2)).mono
    (fun passed middle verified => ?_) fun _ _ reaches => reaches
  refine Stateful.ensures_ite (fun failed => ?_) fun succeeded => ?_
  · rw [failed] at verified
    have stages : session.package.progress.stage = .fastVerify ∨
        session.package.progress.stage = .regressionVerify := by
      rw [stage]
      exact proper.2.2.2
    exact ⟨_, _, .verificationFailed stages verified.1, verified.2⟩
  · rw [eq_true_of_ne_false succeeded] at verified
    obtain ⟨attempts, reset, moves⟩ := verified
    rw [Stateful.ensures_bind]
    refine (moves.ensures_advance host (by rw [stage]; exact proper.2.1)
      (by rw [stage]; exact proper.2.2.1) proper.1).mono (fun _ final moved => ?_)
      fun _ _ never => never.elim
    exact ⟨_, _, .verified nextStage attempts (by rw [stage]; exact follows) reset, moved⟩

/-! ## Reviews and the repair of their findings -/

theorem rescueAvailable_within {config : OrchestrationConfig} {package : WorkPackage}
    {findings : List String} (available : rescueAvailable config package findings = true) :
    package.runtime.reviewRecoveryCycles <
      config.recoveryPlaybookPolicy.reviewExhausted.maxRescueCycles := by
  unfold rescueAvailable at available
  exact (of_decide_eq_true available).2.2.2.2

/-- A rescue campaign is queued, or nothing has happened. -/
theorem ensures_queueReviewRecoveryPlaybook {findings : List String}
    {session : StageSession}
    (stage : session.package.stage = .review ∨ session.package.stage = .finalReview) :
    Stateful.Ensures (queueReviewRecoveryPlaybook host findings) session
      (fun queued after =>
        if queued = true then
          session.package.progress.reviewRecoveryCycles <
              host.config.recoveryPlaybookPolicy.reviewExhausted.maxRescueCycles ∧
            Advances [.stageTransition session.package.stage .fixReview]
              { session.package.progress with
                stage := .fixReview
                status := "pending"
                reviewRecoveryCycles :=
                  session.package.progress.reviewRecoveryCycles + 1 } session after
        else
          Steady session after)
      (fun _ _ => False) := by
  have proper : session.package.stage ≠ .fixReview ∧
      session.package.stage ≠ .completed := by
    rcases stage with review | final
    · rw [review]
      decide
    · rw [final]
      decide
  refine Stateful.ensures_ite (fun _ => Steady.refl session) fun refused => ?_
  have within := rescueAvailable_within (eq_true_of_ne_false refused)
  have observed : Steady session (observe host session).2 := isSteady_observe session
  let update := queueRescue host.config
    (host.surroundings session.clock).findingsFingerprint findings
  have changed : Advances [] (update session.package).progress (observe host session).2
      { (observe host session).2 with package := update session.package } :=
    ⟨rfl, (List.append_nil _).symm, GraphGrows.refl _,
      fun unfinished finished => absurd finished unfinished, fun _ => rfl, fun closed => closed⟩
  have queued := changed.afterSteady observed
  show Stateful.Ensures (clearAgentWait host >>= fun _ => _)
    { (observe host session).2 with package := update session.package } _ _
  rw [Stateful.ensures_bind]
  refine (ensures_clearAgentWait _).mono (fun _ middle cleared => ?_) fun _ _ never => never
  have forgotten : Steady middle
      { middle with record := { middle.record with errorMessage := "" } } :=
    ⟨rfl, rfl, rfl, rfl, rfl⟩
  have moves := queued.beforeSteady proper.2 (cleared.trans forgotten)
  show Stateful.Ensures (advancePackageStage host .fixReview >>= fun _ => pure true)
    { middle with record := { middle.record with errorMessage := "" } } _ _
  rw [Stateful.ensures_bind]
  exact (moves.ensures_advance host proper.1 proper.2 (by decide)).mono
    (fun _ _ moved => ⟨within, moved⟩) fun _ _ never => never

/-- The progress after one more review that requires changes. -/
def Progress.reviewed (progress : Progress) : Progress :=
  { progress with reviewCycles := progress.reviewCycles + 1 }

/-- The findings are queued for their repair, or an operator is asked. -/
theorem ensures_queueReviewFixes {findings : List String} {session : StageSession}
    (stage : session.package.stage = .review ∨ session.package.stage = .finalReview) :
    Stateful.Ensures (queueReviewFixes host findings) session
      (fun _ after => ∃ target, RepairQueued host.config session.package.progress target ∧
        Advances [.stageTransition session.package.stage .fixReview] target session after)
      (fun signal => Reaches host.config signal.outcome session) := by
  have proper : session.package.stage ≠ .fixReview ∧
      session.package.stage ≠ .completed := by
    rcases stage with review | final
    · rw [review]
      decide
    · rw [final]
      decide
  unfold queueReviewFixes
  rw [Stateful.ensures_bind]
  refine (isSteady_observe.ensures session).mono (fun moment later observed => ?_)
    fun signal _ observed => Reaches.ofSteady signal observed
  refine Stateful.ensures_ite (fun _ => ?_) fun _ => ?_
  · exact (neverReturns_after isSteady_keepFindings (fun _ => neverReturns_escalate) later).mono
      (fun _ _ never => never.elim) fun signal _ steady => Reaches.ofSteady signal (observed.trans steady)
  let counting : StageSession := (changeRuntime (countReviewCycle findings) later).2
  have counts : Advances [] later.package.progress.reviewed later counting :=
    advances_changePackage (fun package =>
      { package with runtime := countReviewCycle findings package.runtime }) rfl rfl
  have counted : Advances [] session.package.progress.reviewed session counting := by
    rw [← observed.progress]
    exact counts.afterSteady observed
  have reviewing : counting.package.stage = session.package.stage := counted.stage
  have cycles : counting.package.runtime.reviewCycles =
      session.package.progress.reviewCycles + 1 :=
    congrArg Progress.reviewCycles counted.progress
  show Stateful.Ensures
    (if (host.config.maxReviewCycles : Int) < counting.package.runtime.reviewCycles then _
      else _) counting _ _
  rw [cycles]
  refine Stateful.ensures_ite (fun exhausted => ?_) fun within => ?_
  · rw [Stateful.ensures_bind]
    refine (ensures_queueReviewRecoveryPlaybook (by rw [reviewing]; exact stage)).mono
      (fun queued middle outcome => ?_) fun _ _ never => never.elim
    refine Stateful.ensures_ite (fun refused => ?_) fun accepted => ?_
    · rw [refused] at outcome
      refine (stops_escalate middle).mono (fun _ _ never => never.elim)
        fun signal _ stops => ?_
      rw [stops.1]
      exact ⟨_, _, .reviewExhausted exhausted,
        counted.beforeSteady proper.2 (Steady.trans outcome stops.2)⟩
    · rw [eq_true_of_ne_false accepted] at outcome
      obtain ⟨left, moves⟩ := outcome
      rw [counted.progress] at left moves
      rw [reviewing] at moves
      exact ⟨_, .rescue exhausted left, counted.trans proper.2 moves⟩
  · exact (counted.ensures_advance host proper.1 proper.2 (by decide)).mono
      (fun _ _ moves => ⟨_, .ordinary (Int.not_lt.mp within), moves⟩)
      fun _ _ never => never.elim

/-- A shard that only reviews is completed. -/
theorem ensures_completeReviewShard {verdict : String} {findings : List String}
    {result : AgentResult} {session : StageSession}
    (unfinished : session.package.stage ≠ .completed) :
    Stateful.Ensures (completeReviewShard verdict findings result) session
      (fun _ => Advances [.stageTransition session.package.stage .completed]
        { session.package.progress with
          stage := .completed
          status := "completed" } session)
      (fun _ _ => False) := by
  let summary := stripString result.payload.summary
  let merged : StageSession :=
    { session with
      package := { session.package with
        runtime := { session.package.runtime with implementationSummary := summary } }
      record :=
        if session.package.parentId = "" then
          session.record
        else
          { session.record with
            planGraph := session.record.planGraph.modify session.package.parentId
              (mergeReviewShard session.package verdict summary findings) } }
  have same : merged.record.planGraph.map WorkPackage.progress =
      session.record.planGraph.map WorkPackage.progress := by
    show (if session.package.parentId = "" then session.record else _).planGraph.map _ = _
    by_cases orphan : session.package.parentId = ""
    · rw [if_pos orphan]
    · rw [if_neg orphan]
      exact PlanGraph.map_modify WorkPackage.progress
        (mergeReviewShard session.package verdict summary findings) (fun _ => rfl) _
  have merges : Advances [] session.package.progress session merged := by
    refine ⟨rfl, (List.append_nil _).symm, GraphGrows.ofSame same,
      fun started finished => absurd finished started, fun _ => ?_,
      fun closed => closed.ofSame rfl same⟩
    · show (if session.package.parentId = "" then session.record else _).completedPackages = _
      by_cases orphan : session.package.parentId = ""
      · rw [if_pos orphan]
      · rw [if_neg orphan]
  have ran : completeReviewShard verdict findings result session =
      markPackageCompleted merged := rfl
  have completed : Stateful.Ensures markPackageCompleted merged
      (fun _ => Advances [.stageTransition session.package.stage .completed]
        { session.package.progress with
          stage := .completed
          status := "completed" } session)
      (fun _ _ => False) :=
    ensures_markPackageCompleted.mono
      (fun _ _ completed => merges.trans unfinished completed) fun _ _ never => never
  unfold Stateful.Ensures at completed ⊢
  rw [ran]
  exact completed

theorem handles_reviewStage :
    Handles host.config (fun progress => progress.stage = .review) (reviewStage host) := by
  refine handles_afterSteady isSteady_ensureReviewAssignments fun schedule =>
    handles_currentPackage fun package stage =>
      handles_afterSteady isSteady_callAgent fun result =>
        handles_afterSteady isSteady_reviewResult fun review =>
          handles_ite (fun shard => ?_) fun _ =>
            handles_afterSteady isSteady_ensureReviewAssignments fun reassigned =>
              handles_ite (fun _ => ?_) fun _ => ?_
  · intro session same
    have review : session.package.progress.stage = .review := by
      rw [same]
      exact stage
    have mode : session.package.progress.executionMode = "review_shard" := by
      rw [same]
      exact shard
    have reviewing : session.package.stage = .review := review
    rw [Stateful.ensures_bind]
    refine (ensures_completeReviewShard (by rw [reviewing]; decide)).mono
      (fun _ _ moves => ?_) fun _ _ never => never.elim
    rw [reviewing] at moves
    exact ⟨_, _, .shardReviewed review mode, moves⟩
  · intro session same
    have reviewing : session.package.stage = .review := by
      rw [show session.package.stage = package.stage from congrArg Progress.stage same]
      exact stage
    rw [Stateful.ensures_bind]
    refine (ensures_queueReviewFixes (Or.inl reviewing)).mono
      (fun _ _ queued => ?_) fun _ _ reaches => reaches
    obtain ⟨target, repair, moves⟩ := queued
    have move := StageMove.repairQueued target (Or.inl reviewing) repair
    rw [if_pos (show session.package.progress.stage = .review from reviewing)] at move
    exact ⟨_, _, move, moves⟩
  · refine handles_afterSteady isSteady_keepFindings fun _ =>
      handles_advance (by split <;> decide) fun progress same => ?_
    have reviewing : progress.stage = .review := by
      rw [same]
      exact stage
    rw [reviewing]
    by_cases someone : reassigned.finalReviewerId ≠ ""
    · rw [if_pos someone]
      exact .approved .finalReview reviewing (Or.inl rfl)
    · rw [if_neg someone]
      exact .approved .readyToCommit reviewing (Or.inr rfl)

theorem handles_fixReviewStage :
    Handles host.config (fun progress => progress.stage = .fixReview)
      (fixReviewStage host) := by
  refine handles_afterSteady isSteady_ensureReviewAssignments fun _ =>
    handles_afterSteady isSteady_selectFixer fun fixer =>
      handles_currentPackage fun package stage =>
        handles_afterSteady isSteady_callAgent fun result =>
          handles_afterSteady isSteady_requireResolvedFindings fun _ =>
            handles_afterSteadyWhen (fun session same => ?_) fun _ =>
              handles_advance (by decide) fun progress same => ?_
  · refine steady_applyImplementationResult host result ?_
    rw [show session.package.stage = .fixReview from
      (congrArg Progress.stage same).trans stage]
    decide
  · rw [same] at *
    rw [stage]
    exact .repaired stage

theorem handles_finalReviewStage :
    Handles host.config (fun progress => progress.stage = .finalReview)
      (finalReviewStage host) := by
  refine handles_afterSteady isSteady_ensureReviewAssignments fun schedule =>
    handles_currentPackage fun package stage =>
      handles_afterSteady isSteady_callAgent fun result =>
        handles_afterSteady isSteady_reviewResult fun review =>
          handles_ite (fun _ => ?_) fun _ => ?_
  · intro session same
    have reviewing : session.package.stage = .finalReview := by
      rw [show session.package.stage = package.stage from congrArg Progress.stage same]
      exact stage
    rw [Stateful.ensures_bind]
    refine (ensures_queueReviewFixes (Or.inr reviewing)).mono
      (fun _ _ queued => ?_) fun _ _ reaches => reaches
    obtain ⟨target, repair, moves⟩ := queued
    have move := StageMove.repairQueued target (Or.inr reviewing) repair
    have other : session.package.progress.stage ≠ .review := by
      rw [show session.package.progress.stage = .finalReview from reviewing]
      decide
    rw [if_neg other] at move
    exact ⟨_, _, move, moves⟩
  · refine handles_afterSteady isSteady_keepFindings fun _ =>
      handles_advance (by decide) fun progress same => ?_
    rw [same] at *
    rw [stage]
    exact .finallyApproved stage

/-! ## The commit -/

theorem ensures_commitAggregateReviewFixDelta {session : StageSession}
    (stage : session.package.stage = .readyToCommit) :
    Stateful.Ensures (commitAggregateReviewFixDelta host) session
      (fun transaction after =>
        if transaction = none then MayRewind host.config session after
        else Steady session after)
      (fun _ => MayRewind host.config session) := by
  unfold commitAggregateReviewFixDelta
  rw [Stateful.ensures_bind]
  refine (isSteady_observe.ensures session).mono (fun moment later observed => ?_)
    fun _ _ observed => Or.inl observed
  refine Stateful.ensures_ite (fun _ => Or.inl observed) fun _ => ?_
  rw [Stateful.ensures_bind]
  refine (ensures_prepareCommitScope (by rw [observed.stage]; exact stage)).mono
    (fun prepared middle outcome => ?_) fun _ _ rewinds => rewinds.afterSteady observed
  refine Stateful.ensures_ite (fun refused => ?_) fun accepted => ?_
  · rw [refused] at outcome
    exact MayRewind.afterSteady observed (Or.inr outcome)
  · rw [eq_true_of_ne_false accepted] at outcome
    have begun : Steady session middle := observed.trans outcome
    rw [Stateful.ensures_bind]
    exact (isSteady_commitPackage.ensures middle).mono
      (fun _ _ committed => begun.trans committed)
      fun _ _ committed => Or.inl (begun.trans committed)

theorem ensures_requireCleanAggregate {session : StageSession}
    (stage : session.package.stage = .readyToCommit) :
    Stateful.Ensures (requireCleanAggregate host) session
      (fun _ => Steady session) (fun _ => MayRewind host.config session) := by
  unfold requireCleanAggregate
  rw [Stateful.ensures_bind]
  refine (isSteady_observe.ensures session).mono (fun moment later observed => ?_)
    fun _ _ observed => Or.inl observed
  refine Stateful.ensures_ite (fun _ => ?_) fun _ => observed
  rw [Stateful.ensures_bind]
  refine (ensures_commitAggregateReviewFixDelta (by rw [observed.stage]; exact stage)).mono
    (fun transaction middle outcome => ?_) fun _ _ rewinds => rewinds.afterSteady observed
  have reached : MayRewind host.config session middle := by
    by_cases missing : transaction = none
    · rw [if_pos missing] at outcome
      exact outcome.afterSteady observed
    · rw [if_neg missing] at outcome
      exact Or.inl (observed.trans outcome)
  rw [Stateful.ensures_bind]
  refine (isSteady_observe.ensures middle).mono (fun after final further => ?_)
    fun _ _ further => reached.beforeSteady further
  refine Stateful.ensures_ite (fun _ => ?_) fun clean => ?_
  · exact (neverReturns_escalate final).mono (fun _ _ never => never.elim)
      fun _ _ last => reached.beforeSteady (further.trans last)
  · have committed : transaction ≠ none := fun missing => clean (Or.inl missing)
    rw [if_neg committed] at outcome
    exact (observed.trans outcome).trans further

/-- The commit of a package that is not a synchronization. -/
theorem reaches_ofMayRewind (signal : StageSignal) {session final : StageSession}
    (stage : session.package.stage = .readyToCommit)
    (ordinary : session.package.kind ≠ .repositorySync)
    (rewinds : MayRewind host.config session final) :
    Reaches host.config signal.outcome session final := by
  rcases rewinds with steady | ⟨recovers, _, moves⟩
  · exact Reaches.ofSteady signal steady
  · rw [stage] at moves
    have ends : signal.outcome ≠ .handled .proceed := by
      cases signal <;> simp [StageSignal.outcome]
    exact ⟨_, _, .rewound _ stage recovers ordinary ends, moves⟩

/-- The package is completed after steady work. -/
theorem ensures_completed {session middle : StageSession}
    (stage : session.package.stage = .readyToCommit) (steady : Steady session middle) :
    Stateful.Ensures markPackageCompleted middle
      (fun _ => Reaches host.config (.handled .stop) session)
      (fun signal => Reaches host.config signal.outcome session) := by
  refine ensures_markPackageCompleted.mono (fun _ final moves => ?_)
    fun _ _ never => never.elim
  have same : middle.package.stage = .readyToCommit := by
    rw [steady.stage]
    exact stage
  rw [same] at moves
  have completes : Reaches host.config (.handled .stop) middle final :=
    ⟨_, _, .committed same, moves⟩
  exact completes.afterSteady steady

/-- The program finishes a package that is ready for its commit. -/
def Finalizes (config : OrchestrationConfig) (program : StageProgram Unit)
    (session : StageSession) : Prop :=
  Stateful.Ensures program session (fun _ => Reaches config (.handled .stop) session)
    (fun signal => Reaches config signal.outcome session)

theorem finalizes_finalizeRepositorySyncPackage {session : StageSession}
    (stage : session.package.stage = .readyToCommit) :
    Finalizes host.config (finalizeRepositorySyncPackage host) session := by
  unfold Finalizes finalizeRepositorySyncPackage
  rw [Stateful.ensures_bind]
  refine (isSteady_observe.ensures session).mono (fun moment later observed => ?_)
    fun signal _ observed => Reaches.ofSteady signal observed
  cases moment.syncCommit with
  | error reason =>
      exact (neverReturns_escalate later).mono (fun _ _ never => never.elim)
        fun signal _ further => Reaches.ofSteady signal (observed.trans further)
  | ok transactionId =>
      rw [Stateful.ensures_bind]
      refine ensures_completed stage (observed.trans ?_)
      exact ⟨rfl, rfl, rfl, rfl, rfl⟩

theorem finalizes_finalizeAggregatePackage {session : StageSession}
    (stage : session.package.stage = .readyToCommit)
    (ordinary : session.package.kind ≠ .repositorySync) :
    Finalizes host.config (finalizeAggregatePackage host) session := by
  refine Stateful.ensures_ite (fun _ => ?_)
    fun _ => ensures_completed stage (Steady.refl session)
  rw [Stateful.ensures_bind]
  refine (isSteady_requireFinalized.ensures session).mono (fun _ middle finalized => ?_)
    fun signal _ finalized => Reaches.ofSteady signal finalized
  rw [Stateful.ensures_bind]
  refine (ensures_requireCleanAggregate (by rw [finalized.stage]; exact stage)).mono
    (fun _ later clean => ensures_completed stage (finalized.trans clean))
    fun signal _ rewinds => reaches_ofMayRewind signal stage ordinary (rewinds.afterSteady finalized)

theorem finalizes_finalizeStandardPackage {session : StageSession}
    (stage : session.package.stage = .readyToCommit)
    (ordinary : session.package.kind ≠ .repositorySync) :
    Finalizes host.config (finalizeStandardPackage host) session := by
  unfold Finalizes finalizeStandardPackage
  rw [Stateful.ensures_bind]
  refine (ensures_prepareCommitScope stage).mono (fun prepared middle outcome => ?_)
    fun signal _ rewinds => reaches_ofMayRewind signal stage ordinary rewinds
  refine Stateful.ensures_ite (fun accepted => ?_) fun refused => ?_
  · rw [accepted] at outcome
    have begun : Steady session middle := outcome
    rw [Stateful.ensures_bind]
    refine (isSteady_commitPackage.ensures middle).mono (fun _ later committed => ?_)
      fun signal _ committed => Reaches.ofSteady signal (begun.trans committed)
    rw [Stateful.ensures_bind]
    have whole : IsSteady (whenever (enforcesCleanliness host.config = true)
        (requireFinalized host)) := isSteady_whenever isSteady_requireFinalized
    exact (whole.ensures later).mono
      (fun _ _ finalized =>
        ensures_completed stage ((begun.trans committed).trans finalized))
      fun signal _ finalized => Reaches.ofSteady signal ((begun.trans committed).trans finalized)
  · rw [if_neg refused] at outcome
    obtain ⟨recovers, _, moves⟩ := outcome
    rw [stage] at moves
    exact ⟨_, _, .rewound _ stage recovers ordinary (by decide), moves⟩

theorem handles_readyToCommitStage :
    Handles host.config (fun progress => progress.stage = .readyToCommit)
      (readyToCommitStage host) := by
  refine handles_currentPackage fun package stage =>
    handles_afterSteady
      (isSteady_whenever isSteady_prepareRepositorySyncAcceptanceEvidence) fun _ =>
        handles_afterSteady isSteady_validateAcceptanceEvidence fun _ => ?_
  intro session same
  have ready : session.package.stage = .readyToCommit := by
    rw [show session.package.stage = package.stage from congrArg Progress.stage same]
    exact stage
  have finalizes : Finalizes host.config (finalizePackage host) session := by
    refine Stateful.ensures_ite (fun _ => finalizes_finalizeRepositorySyncPackage ready)
      fun ordinary => ?_
    exact Stateful.ensures_ite (fun _ => finalizes_finalizeAggregatePackage ready ordinary)
      fun _ => finalizes_finalizeStandardPackage ready ordinary
  rw [Stateful.ensures_bind]
  exact finalizes.mono (fun _ _ reaches => reaches) fun _ _ reaches => reaches

/-! ## Decomposition -/

theorem isShard_shardPackage (parent : WorkPackage) (generatedBy : String) (extra : Int)
    (proposal : ShardProposal) :
    (shardPackage parent generatedBy extra proposal).progress.IsShard := by
  refine ⟨rfl, ?_, rfl, rfl, rfl, rfl⟩
  show (childExecution (decompositionOrigin parent)).1 = .prepare ∨
    (childExecution (decompositionOrigin parent)).1 = .review ∨
    (childExecution (decompositionOrigin parent)).1 = .fixReview
  unfold childExecution
  split
  · exact Or.inr (Or.inl rfl)
  · split
    · exact Or.inr (Or.inr rfl)
    · exact Or.inl rfl

theorem isShard_shardPackages {parent : WorkPackage} {generatedBy : String}
    (proposals : List ShardProposal) :
    ∀ child ∈ shardPackages parent generatedBy proposals, child.progress.IsShard := by
  induction proposals with
  | nil => exact fun _ member => absurd member List.not_mem_nil
  | cons proposal rest inductionHypothesis =>
      intro child member
      rcases List.mem_cons.mp member with head | later
      · rw [head]
        exact isShard_shardPackage parent generatedBy _ proposal
      · exact inductionHypothesis child later

theorem id_shardPackages {parent : WorkPackage} {generatedBy : String}
    (proposals : List ShardProposal) :
    (shardPackages parent generatedBy proposals).map WorkPackage.id =
      (proposals.map ShardProposal.key).map fun key => parent.id ++ "__" ++ key := by
  induction proposals with
  | nil => rfl
  | cons proposal rest inductionHypothesis =>
      rw [shardPackages, List.map_cons, inductionHypothesis]
      rfl

theorem mem_distinct {text : String} {texts : List String} :
    text ∈ distinct texts ↔ text ∈ texts := by
  unfold distinct
  rw [List.mem_reverse, List.mem_dedup, List.mem_reverse]

/-- A shard depends on what its parent depends on and on shards of the same plan. -/
theorem dependencies_shardPackages {parent : WorkPackage} {generatedBy : String}
    {keys : List String} (proposals : List ShardProposal)
    (closed : ∀ proposal ∈ proposals, proposal.dependsOn ⊆ keys) :
    ∀ child ∈ shardPackages parent generatedBy proposals,
      child.dependencies ⊆ parent.dependencies ++ keys.map fun key => parent.id ++ "__" ++ key := by
  induction proposals with
  | nil => exact fun _ member => absurd member List.not_mem_nil
  | cons proposal rest inductionHypothesis =>
      intro child member
      rcases List.mem_cons.mp member with head | later
      · rw [head]
        intro dependencyId listed
        have known : dependencyId ∈ parent.dependencies ++
            proposal.dependsOn.map fun key => parent.id ++ "__" ++ key := mem_distinct.mp listed
        rcases List.mem_append.mp known with inherited | sibling
        · exact List.mem_append_left _ inherited
        · exact List.mem_append_right _
            (List.map_subset _ (closed proposal List.mem_cons_self) sibling)
      · exact inductionHypothesis
          (fun other listed => closed other (List.mem_cons_of_mem _ listed)) child later

theorem nodup_shardPackages {parent : WorkPackage} {generatedBy : String}
    {proposals : List ShardProposal}
    (distinct : (proposals.map ShardProposal.key).Nodup) :
    ((shardPackages parent generatedBy proposals).map WorkPackage.id).Nodup := by
  rw [id_shardPackages]
  refine distinct.map fun first second same => ?_
  have texts := congrArg String.toList same
  rw [String.toList_append, String.toList_append (s := parent.id ++ "__")] at texts
  exact String.toList_inj.mp (List.append_cancel_left texts)

/-- The way on after a decomposition. -/
def decompositionDisposition (package : WorkPackage) : StageDisposition :=
  if package.runtime.decompositionStatus = "expanded" then .stop else .proceed

/-- The program ends the decomposition of a package. -/
def Decomposes (config : OrchestrationConfig) (program : StageProgram Unit)
    (session : StageSession) : Prop :=
  Stateful.Ensures program session
    (fun _ after =>
      Reaches config (.handled (decompositionDisposition after.package)) session after)
    (fun signal => Reaches config signal.outcome session)

theorem Decomposes.afterSteady {config : OrchestrationConfig} {program : StageProgram Unit}
    {session middle : StageSession} (steady : Steady session middle)
    (decomposes : Decomposes config program middle) :
    Stateful.Ensures program middle
      (fun _ after =>
        Reaches config (.handled (decompositionDisposition after.package)) session after)
      (fun signal => Reaches config signal.outcome session) :=
  decomposes.mono (fun _ _ reaches => reaches.afterSteady steady)
    fun _ _ reaches => reaches.afterSteady steady

theorem progress_consumeMandatoryDecomposition (package : WorkPackage) {now : String}
    {runtime : PackageRuntime}
    (consumed : package.runtime = consumeMandatoryDecomposition now runtime) :
    package.progress =
      { ({ package with runtime := runtime } : WorkPackage).progress with
        decompositionRequired := false } := by
  unfold WorkPackage.progress
  rw [consumed]
  unfold consumeMandatoryDecomposition
  by_cases mandatory : runtime.decompositionRequired = true
  · rw [if_pos mandatory]
  · rw [if_neg mandatory, eq_false_of_ne_true mandatory]

/-- The package is kept whole and returns to the stage from which it came. -/
theorem decomposes_keepAtomic {planner reason : String} {session : StageSession}
    (stage : session.package.stage = .decompose)
    (proper : session.package.progress.origin? ≠ some .completed) :
    Decomposes host.config (keepAtomic host planner reason) session := by
  unfold Decomposes keepAtomic
  rw [Stateful.ensures_bind]
  refine (isSteady_observe.ensures session).mono (fun moment later observed => ?_)
    fun signal _ observed => Reaches.ofSteady signal observed
  let kept : StageSession :=
    (changeRuntime (atomicRuntime moment.now planner reason) later).2
  have decided : Advances [] (later.package.progress.decided "atomic") later kept := by
    have same : kept.package.progress = later.package.progress.decided "atomic" :=
      progress_consumeMandatoryDecomposition kept.package rfl
    rw [← same]
    exact advances_changePackage (fun package =>
      { package with runtime := atomicRuntime moment.now planner reason package.runtime }) rfl rfl
  have chosen : Advances [] (session.package.progress.decided "atomic") session kept := by
    rw [← observed.progress]
    exact decided.afterSteady observed
  have decomposing : session.package.progress.stage ≠ .completed := by
    rw [show session.package.progress.stage = .decompose from stage]
    decide
  have whole : originStage kept.package = session.package.progress.origin? := by
    show kept.package.progress.origin? = _
    rw [chosen.progress]
    rfl
  have blocked : ∀ (signal : StageSignal) {final : StageSession}, Steady kept final →
      Reaches host.config signal.outcome session final := by
    intro signal final further
    exact ⟨_, _, .keptWholeBlocked signal stage, chosen.beforeSteady decomposing further⟩
  rw [Stateful.ensures_bind]
  show Stateful.Ensures (currentPackage >>= fun package => _) kept _ _
  rw [Stateful.ensures_bind, ensures_currentPackage, whole]
  cases found : session.package.progress.origin? with
  | none => exact blocked _ (Steady.refl kept)
  | some origin =>
      have unfinished : origin ≠ .completed := by
        intro completed
        rw [found, completed] at proper
        exact absurd rfl proper
      dsimp only
      rw [Stateful.ensures_bind]
      have clean : IsSteady (whenever (origin = .implement) (validateCleanStart host)) :=
        isSteady_whenever isSteady_validateCleanStart
      refine (clean.ensures kept).mono (fun _ middle further => ?_)
        fun signal _ further => blocked signal further
      have moves := chosen.beforeSteady decomposing further
      have left : middle.package.stage = .decompose := moves.stage.trans stage
      have advanced := ensures_advancePackageStage host middle unfinished
      rw [left, moves.progress] at advanced
      refine advanced.mono (fun _ final arrived => ?_) fun _ _ never => never.elim
      have returned := moves.trans decomposing arrived
      have atomic : final.package.runtime.decompositionStatus = "atomic" :=
        congrArg Progress.decompositionStatus returned.progress
      have proceeds : decompositionDisposition final.package = .proceed := by
        unfold decompositionDisposition
        rw [atomic]
        decide
      rw [proceeds]
      exact ⟨_, _, .keptWhole origin stage found, returned⟩

theorem aggregateStage_unfinished (origin : WorkPackageStage) :
    aggregateStage origin ≠ .completed ∧ aggregateStage origin ≠ .decompose := by
  unfold aggregateStage
  split
  · decide
  · decide

/-- With its shards in the graph, the package depends on packages of the graph only. -/
theorem closed_insertShards {now planner reason planHash : String}
    {proposals : List ShardProposal} {session : StageSession}
    (closed : ∀ proposal ∈ proposals, proposal.dependsOn ⊆ proposals.map ShardProposal.key)
    (known : session.Closed) :
    StageSession.Closed
      { session with
        package := aggregatePackage now planner reason planHash
          (shardPackages session.package planner proposals) session.package
        record := addPackages (shardPackages session.package planner proposals)
          session.record } := by
  let children := shardPackages session.package planner proposals
  have ids : (session.record.planGraph ++ children).map WorkPackage.id =
      session.record.planGraph.map WorkPackage.id ++ children.map WorkPackage.id :=
    List.map_append
  refine ⟨fun dependencyId listed => ?_, fun package member dependencyId listed => ?_⟩
  · show dependencyId ∈ (session.record.planGraph ++ children).map WorkPackage.id
    have named : dependencyId ∈ session.package.dependencies ++ children.map WorkPackage.id :=
      mem_distinct.mp listed
    rw [ids]
    rcases List.mem_append.mp named with old | shard
    · exact List.mem_append_left _ (known.1 old)
    · exact List.mem_append_right _ shard
  · show dependencyId ∈ (session.record.planGraph ++ children).map WorkPackage.id
    rw [ids]
    rcases List.mem_append.mp member with old | shard
    · exact List.mem_append_left _ (known.2 package old listed)
    · rcases List.mem_append.mp (dependencies_shardPackages proposals closed package shard listed)
        with inherited | sibling
      · exact List.mem_append_left _ (known.1 inherited)
      · refine List.mem_append_right _ ?_
        show dependencyId ∈ (shardPackages session.package planner proposals).map WorkPackage.id
        rw [id_shardPackages]
        exact sibling

/-- The package waits for its shards. -/
theorem decomposes_insertShards {planner reason planHash : String}
    {proposals : List ShardProposal} {session : StageSession}
    (distinct : (proposals.map ShardProposal.key).Nodup)
    (closed : ∀ proposal ∈ proposals, proposal.dependsOn ⊆ proposals.map ShardProposal.key)
    (stage : session.package.stage = .decompose) :
    Decomposes host.config (insertShards host planner reason planHash proposals) session := by
  unfold Decomposes insertShards
  rw [Stateful.ensures_bind]
  refine (isSteady_observe.ensures session).mono (fun moment later observed => ?_)
    fun signal _ observed => Reaches.ofSteady signal observed
  refine Stateful.ensures_ite (fun _ => ?_) fun apart => ?_
  · have noted : Steady later (changeRuntime (notePlanner planner reason) later).2 :=
      ⟨rfl, rfl, rfl, rfl, rfl⟩
    exact Reaches.ofSteady _ (observed.trans noted)
  let children := shardPackages later.package planner proposals
  let aggregate := aggregatePackage moment.now planner reason planHash children
  let dependencies := (aggregate later.package).dependencies
  let grown : StageSession :=
    { later with
      package := aggregate later.package
      record := addPackages children later.record }
  have same : grown.package.progress = later.package.progress.expanded dependencies :=
    progress_consumeMandatoryDecomposition grown.package rfl
  have grows : Advances [] (later.package.progress.expanded dependencies) later grown := by
    refine ⟨same, (List.append_nil _).symm, ⟨children, List.map_append,
      isShard_shardPackages proposals, nodup_shardPackages distinct, ?_⟩,
      fun started finished => absurd finished started, fun _ => rfl,
      fun known => closed_insertShards closed known⟩
    intro child member present
    rw [← StageSession.ids_graph] at present
    obtain ⟨other, there, named⟩ := List.mem_map.mp present
    refine apart (List.any_eq_true.mpr ⟨child, member, ?_⟩)
    exact List.any_eq_true.mpr ⟨other, there, decide_eq_true named⟩
  have expanded : Advances [] (session.package.progress.expanded dependencies) session
      grown := by
    rw [← observed.progress]
    exact grows.afterSteady observed
  have decomposing : session.package.progress.stage ≠ .completed := by
    rw [show session.package.progress.stage = .decompose from stage]
    decide
  have whole : originStage grown.package = session.package.progress.origin? := by
    show grown.package.progress.origin? = _
    rw [expanded.progress]
    rfl
  rw [Stateful.ensures_bind]
  show Stateful.Ensures (changeRecord _ >>= fun _ => _) _ _ _
  rw [Stateful.ensures_bind]
  show Stateful.Ensures (currentPackage >>= fun package => _) grown _ _
  rw [Stateful.ensures_bind, ensures_currentPackage, whole]
  cases found : session.package.progress.origin? with
  | none => exact ⟨_, _, .expandedBlocked _ dependencies stage, expanded⟩
  | some origin =>
      have left : grown.package.stage = .decompose := expanded.stage.trans stage
      have advanced := ensures_advancePackageStage host grown
        (aggregateStage_unfinished origin).1
      rw [left, expanded.progress] at advanced
      refine advanced.mono (fun _ final arrived => ?_) fun _ _ never => never.elim
      have returned := expanded.trans decomposing arrived
      have waits : final.package.runtime.decompositionStatus = "expanded" :=
        congrArg Progress.decompositionStatus returned.progress
      have stops : decompositionDisposition final.package = .stop := by
        unfold decompositionDisposition
        rw [if_pos waits]
      rw [stops]
      exact ⟨_, _, .expanded origin dependencies stage found, returned⟩

theorem handles_decomposeStage :
    Handles host.config (fun progress => progress.stage = .decompose ∧
      progress.origin? ≠ some .completed) (decomposeStage host) := by
  intro session begins
  have decomposes : Decomposes host.config (runDecomposition host) session := by
    unfold Decomposes runDecomposition
    rw [Stateful.ensures_bind]
    refine ((isSteady_planDecomposition _ _).ensures session).mono
      (fun planned middle steady => ?_) fun signal _ steady => Reaches.ofSteady signal steady
    have same : middle.package.stage = .decompose ∧
        middle.package.progress.origin? ≠ some .completed := by
      rw [steady.progress, steady.stage]
      exact begins
    have waiting : Stateful.Ensures (waitForAgentAvailability host : StageProgram Unit) middle
        (fun _ after => Reaches host.config
          (.handled (decompositionDisposition after.package)) session after)
        (fun signal => Reaches host.config signal.outcome session) :=
      (neverReturns_waitForAgentAvailability middle).mono (fun _ _ never => never.elim)
        fun signal _ further => Reaches.ofSteady signal (steady.trans further)
    cases planned with
    | none => exact waiting
    | some plan =>
        obtain ⟨planner, answer⟩ := plan
        cases answer with
        | invalid => exact waiting
        | keepAtomic reason =>
            exact (decomposes_keepAtomic same.1 same.2).afterSteady steady
        | shard reason planHash proposals distinct closed =>
            exact (decomposes_insertShards distinct closed same.1).afterSteady steady
  unfold decomposeStage
  rw [Stateful.ensures_bind]
  exact decomposes.mono (fun _ _ reaches => reaches) fun _ _ reaches => reaches

/-! ## Every stage -/

/-- Where a handler may be called: a decomposition leads back to another stage. -/
def Progress.Returns (progress : Progress) : Prop :=
  progress.origin? ≠ some .completed ∧ progress.origin? ≠ some .decompose

theorem Handles.strengthen {config : OrchestrationConfig} {weaker stronger : Progress → Prop}
    {program : StageProgram StageDisposition} (handles : Handles config weaker program)
    (implies : ∀ progress, stronger progress → weaker progress) :
    Handles config stronger program :=
  fun session holds => handles session (implies _ holds)

/-- The handler of a stage makes one move of the machine. -/
theorem handles_handlerOfStage {stage : WorkPackageStage}
    {handler : StageProgram StageDisposition}
    (found : handlerOfStage host stage = some handler) :
    Handles host.config (fun progress => progress.stage = stage ∧ progress.Returns)
      handler := by
  have atStage : ∀ progress : Progress, progress.stage = stage ∧ progress.Returns →
      progress.stage = stage := fun _ holds => holds.1
  cases stage with
  | prepare =>
      cases found
      exact handles_prepareStage.strengthen atStage
  | decompose =>
      cases found
      exact handles_decomposeStage.strengthen fun _ holds => ⟨holds.1, holds.2.1⟩
  | implement =>
      cases found
      exact handles_implementStage.strengthen atStage
  | fastVerify =>
      cases found
      exact (handles_verificationStage (Or.inl ⟨rfl, rfl⟩)).strengthen atStage
  | targetedVerify => cases found
  | review =>
      cases found
      exact handles_reviewStage.strengthen atStage
  | fixReview =>
      cases found
      exact handles_fixReviewStage.strengthen atStage
  | regressionVerify =>
      cases found
      exact (handles_verificationStage (Or.inr ⟨rfl, rfl⟩)).strengthen atStage
  | finalReview =>
      cases found
      exact handles_finalReviewStage.strengthen atStage
  | fullVerify => cases found
  | readyToCommit =>
      cases found
      exact handles_readyToCommitStage.strengthen atStage
  | completed => cases found

/-- One round of the loop makes one move, if its stage has a handler. -/
theorem ensures_handleStage {session : StageSession}
    (returns : session.package.progress.Returns) :
    Stateful.Ensures (handleStage host) session
      (fun goesOn after =>
        (goesOn = false ∧ after = session ∧
            handlerOfStage host session.package.stage = none) ∨
          ∃ disposition, Reaches host.config (.handled disposition) session after ∧
            goesOn = decide (disposition = .proceed ∧
              after.package.stage ≠ session.package.stage))
      (fun signal => Reaches host.config signal.outcome session) := by
  unfold handleStage
  rw [Stateful.ensures_bind, ensures_currentPackage]
  cases found : handlerOfStage host session.package.stage with
  | none => exact Or.inl ⟨rfl, rfl, rfl⟩
  | some handler =>
      dsimp only
      rw [Stateful.ensures_bind]
      refine (handles_handlerOfStage found session ⟨rfl, returns⟩).mono
        (fun disposition final reaches => ?_) fun _ _ reaches => reaches
      exact Or.inr ⟨disposition, reaches, rfl⟩

end Handlers

end Execraft.Orchestrate
