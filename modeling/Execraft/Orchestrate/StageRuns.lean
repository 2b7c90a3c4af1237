import Execraft.Orchestrate.StageEntry

/-!
# The processing of a package is a run of the machine

A dispatch enters the stages and handles one after the other; each of these steps is a
step of the machine, so what the machine keeps, the processing keeps.
-/

namespace Execraft.Orchestrate

open Foundation

/-- One step in the processing of a package. -/
def StageStep (config : OrchestrationConfig) (before after : StageSession) : Prop :=
  before.package.stage ≠ .completed ∧
    (EntryStep before after ∨
      (before.package.progress.Settled ∧ ∃ outcome, Reaches config outcome before after))

/-- The steps in the processing of a package. -/
abbrev StageRun (config : OrchestrationConfig) : StageSession → StageSession → Prop :=
  Relation.ReflTransGen (StageStep config)

/-! ## A decomposition leads back to another stage -/

theorem StageMove.origin {config : OrchestrationConfig} {progress target : Progress}
    {trace : List StageEvent} {outcome : StageOutcome}
    (move : StageMove config progress trace outcome target) :
    target.decompositionOriginStage = progress.decompositionOriginStage := by
  cases move with
  | repairQueued _ _ queued => cases queued <;> rfl
  | _ => rfl

theorem StageMove.returns {config : OrchestrationConfig} {progress target : Progress}
    {trace : List StageEvent} {outcome : StageOutcome}
    (move : StageMove config progress trace outcome target) (returns : progress.Returns) :
    target.Returns := by
  unfold Progress.Returns Progress.origin? at returns ⊢
  rw [move.origin]
  exact returns

theorem Progress.returns_decomposing {progress : Progress}
    (unfinished : progress.stage ≠ .completed) (entered : progress.stage ≠ .decompose) :
    progress.decomposing.Returns := by
  have origins : ∀ stage : WorkPackageStage, stage ≠ .completed → stage ≠ .decompose →
      WorkPackageStage.ofValue?
        (if stage.value = "" then WorkPackageStage.implement.value else stage.value) ≠
          some .completed ∧
      WorkPackageStage.ofValue?
        (if stage.value = "" then WorkPackageStage.implement.value else stage.value) ≠
          some .decompose := by
    intro stage
    cases stage <;> decide
  unfold Progress.Returns Progress.origin? Progress.decomposing
  by_cases preparing : progress.stage = .prepare
  · rw [if_pos preparing]
    exact origins .implement (by decide) (by decide)
  · rw [if_neg preparing]
    exact origins progress.stage unfinished entered

theorem EntryMove.returns {progress target : Progress} {trace : List StageEvent}
    (move : EntryMove progress trace target) (unfinished : progress.stage ≠ .completed)
    (returns : progress.Returns) : target.Returns := by
  cases move with
  | required _ _ entered => exact Progress.returns_decomposing unfinished entered
  | automatic _ _ _ entered => exact Progress.returns_decomposing unfinished entered
  | _ => exact returns

theorem EntryMove.unfinished {progress target : Progress} {trace : List StageEvent}
    (move : EntryMove progress trace target) (unfinished : progress.stage ≠ .completed) :
    target.stage ≠ .completed := by
  cases move with
  | steady => exact unfinished
  | prepared next _ _ after =>
      rcases after with implementing | verifying
      · rw [implementing]
        simp
      · rw [verifying]
        simp
  | resolved => simp
  | required => simp [Progress.decomposing]
  | automatic => simp [Progress.decomposing]

/-- A move keeps a package settled. -/
theorem StageMove.settled {config : OrchestrationConfig} {progress target : Progress}
    {trace : List StageEvent} {outcome : StageOutcome}
    (move : StageMove config progress trace outcome target) (settled : progress.Settled) :
    target.Settled := by
  have keeps : ∀ other : Progress, other.parentId = progress.parentId →
      other.decompositionRequired = progress.decompositionRequired →
      other.decompositionStatus = progress.decompositionStatus →
      progress.stage ≠ .decompose → other.Settled := by
    intro other parent required status entered root overdue
    rw [parent] at root
    rw [required, status] at overdue
    exact settled root ⟨overdue.1, overdue.2.1, entered⟩
  have optional : ∀ other : Progress, other.decompositionRequired = false →
      other.Settled := by
    intro other optional _ overdue
    rw [optional] at overdue
    exact absurd overdue.1 Bool.false_ne_true
  cases move with
  | interrupted => exact settled
  | verifiedUnmarked => exact settled
  | verificationExhausted => exact settled
  | reviewExhausted => exact settled
  | prepared stage => exact keeps _ rfl rfl rfl (by rw [stage]; decide)
  | implemented stage => exact keeps _ rfl rfl rfl (by rw [stage]; decide)
  | verified next attempts stage =>
      refine keeps _ rfl rfl rfl ?_
      rcases stage with ⟨fast, _⟩ | ⟨regression, _⟩
      · rw [fast]
        decide
      · rw [regression]
        decide
  | verificationFailed stage =>
      refine keeps _ rfl rfl rfl ?_
      rcases stage with fast | regression
      · rw [fast]
        decide
      · rw [regression]
        decide
  | shardReviewed stage => exact keeps _ rfl rfl rfl (by rw [stage]; decide)
  | repairQueued _ stage queued =>
      have entered : progress.stage ≠ .decompose := by
        rcases stage with review | final
        · rw [review]
          decide
        · rw [final]
          decide
      cases queued with
      | ordinary => exact keeps _ rfl rfl rfl entered
      | rescue => exact keeps _ rfl rfl rfl entered
  | approved _ stage => exact keeps _ rfl rfl rfl (by rw [stage]; decide)
  | repaired stage => exact keeps _ rfl rfl rfl (by rw [stage]; decide)
  | finallyApproved stage => exact keeps _ rfl rfl rfl (by rw [stage]; decide)
  | committed stage => exact keeps _ rfl rfl rfl (by rw [stage]; decide)
  | rewound _ stage => exact keeps _ rfl rfl rfl (by rw [stage]; decide)
  | keptWhole => exact optional _ rfl
  | keptWholeBlocked => exact optional _ rfl
  | expanded => exact optional _ rfl
  | expandedBlocked => exact optional _ rfl

/-! ## The loop -/

section Loop

variable {host : Host}

theorem Reaches.returns {config : OrchestrationConfig} {outcome : StageOutcome}
    {before after : StageSession} (reaches : Reaches config outcome before after)
    (returns : before.package.progress.Returns) : after.package.progress.Returns := by
  obtain ⟨trace, target, move, moves⟩ := reaches
  rw [moves.progress]
  exact move.returns returns

theorem Reaches.settled {config : OrchestrationConfig} {outcome : StageOutcome}
    {before after : StageSession} (reaches : Reaches config outcome before after)
    (settled : before.package.progress.Settled) : after.package.progress.Settled := by
  obtain ⟨trace, target, move, moves⟩ := reaches
  rw [moves.progress]
  exact move.settled settled

/-- Entering the stages is a run. -/
theorem Enters.run (config : OrchestrationConfig) {before after : StageSession}
    (enters : Enters before after) (unfinished : before.package.stage ≠ .completed)
    (returns : before.package.progress.Returns) :
    StageRun config before after ∧ after.package.progress.Returns ∧
      after.package.stage ≠ .completed := by
  induction enters with
  | refl => exact ⟨.refl, returns, unfinished⟩
  | tail _ step inductionHypothesis =>
      obtain ⟨run, returned, working⟩ := inductionHypothesis
      refine ⟨run.tail ⟨working, Or.inl step⟩, ?_⟩
      obtain ⟨trace, target, move, moves⟩ := step
      rw [moves.progress, moves.stage]
      exact ⟨move.returns working returned, move.unfinished working⟩

/-- A completed package has no stage to handle. -/
theorem handleStage_completed {session : StageSession}
    (completed : session.package.stage = .completed) :
    handleStage host session = (.ok false, session) := by
  have absent : handlerOfStage host session.package.stage = none := by
    rw [completed]
    rfl
  exact handleStage_unhandled host absent

theorem run_handleStages (rounds : Nat) {session : StageSession}
    (returns : session.package.progress.Returns)
    (settled : session.package.progress.Settled) :
    Stateful.Ensures (handleStages host rounds) session
      (fun _ => StageRun host.config session) fun _ => StageRun host.config session := by
  induction rounds generalizing session with
  | zero => exact Relation.ReflTransGen.refl
  | succ rounds inductionHypothesis =>
      show Stateful.Ensures (handleStage host >>= fun goesOn =>
        if goesOn then handleStages host rounds else pure true) session _ _
      rw [Stateful.ensures_bind]
      by_cases completed : session.package.stage = .completed
      · unfold Stateful.Ensures
        rw [handleStage_completed completed]
        exact Relation.ReflTransGen.refl
      refine (ensures_handleStage returns).mono (fun goesOn middle handled => ?_)
        fun _ _ reaches => .single ⟨completed, Or.inr ⟨settled, _, reaches⟩⟩
      have further : StageRun host.config session middle ∧
          middle.package.progress.Returns ∧ middle.package.progress.Settled := by
        rcases handled with ⟨_, same, _⟩ | ⟨disposition, reaches, _⟩
        · rw [same]
          exact ⟨.refl, returns, settled⟩
        · exact ⟨.single ⟨completed, Or.inr ⟨settled, _, reaches⟩⟩, reaches.returns returns,
            reaches.settled settled⟩
      refine Stateful.ensures_ite (fun _ => ?_) fun _ => further.1
      exact (inductionHypothesis further.2.1 further.2.2).mono
        (fun _ _ run => further.1.trans run) fun _ _ run => further.1.trans run

/-- The processing of a package is a run of the machine. -/
theorem run_processPackage (rounds : Nat) {session : StageSession}
    (unfinished : session.package.stage ≠ .completed)
    (returns : session.package.progress.Returns) :
    Stateful.Ensures (processPackage host rounds) session
      (fun _ => StageRun host.config session) fun _ => StageRun host.config session := by
  show Stateful.Ensures (beginProcessing host >>= fun _ => handleStages host rounds)
    session _ _
  rw [Stateful.ensures_bind]
  refine ((enters_beginProcessing session).and (settles_beginProcessing session)).mono
    (fun _ middle entered => ?_)
    fun _ _ entered => (Enters.run host.config entered.1 unfinished returns).1
  have entry := Enters.run host.config entered.1 unfinished returns
  exact (run_handleStages rounds entry.2.1 entered.2).mono
    (fun _ _ run => entry.1.trans run) fun _ _ run => entry.1.trans run

end Loop

end Execraft.Orchestrate
