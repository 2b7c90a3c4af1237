import Execraft.ProjectExecution.Engine
import Execraft.ProjectExecution.GateAuthorization

/-!
# Quiet parts of the operations

The parts of the operations around starts and saves ask for neither.  All but
the recovery of intents and the observation of Tasks leave intents and
observations as they are.
-/

namespace Execraft.ProjectExecution

open Foundation Foundation.Json Foundation.Text

/-- An effect that starts no Task, saves nothing and draws no identifier. -/
def Effect.Quiet : Effect → Prop
  | .start _ => False
  | .save _ => False
  | .hex => False
  | _ => True

section Performs

variable {py : Python} {definition : ProjectExecutionDefinition}
  {runtime : ProjectExecutionRuntimeState} {α : Type}

@[simp]
theorem performs_describe (taskId : String) :
    (Action.describe taskId).Performs Effect.Quiet :=
  Program.performs_request.mpr trivial

@[simp]
theorem performs_outcome (taskId : String) :
    (Action.outcome taskId).Performs Effect.Quiet :=
  Program.performs_request.mpr trivial

@[simp]
theorem performs_evidence (taskId : String) :
    (Action.evidence taskId).Performs Effect.Quiet :=
  Program.performs_request.mpr trivial

@[simp]
theorem performs_append (eventType : String) (data : Row) :
    (Action.append eventType data).Performs Effect.Quiet :=
  Program.performs_request.mpr trivial

@[simp]
theorem performs_now : Action.now.Performs Effect.Quiet :=
  Program.performs_request.mpr trivial

@[simp]
theorem performs_appendIf (changed : Bool) (eventType : String) (data : Row) :
    (Action.appendIf changed eventType data).Performs Effect.Quiet := by
  simp [Action.appendIf]

@[simp]
theorem performs_check (computation : Outcome α) :
    (Action.check computation).Performs Effect.Quiet := by
  cases computation with
  | ok value => trivial
  | error failure => trivial

@[simp]
theorem performs_fail (message : String) :
    (Action.fail message : Action α).Performs Effect.Quiet :=
  trivial

@[simp]
theorem performs_crash (message : String) :
    (Action.crash message : Action α).Performs Effect.Quiet :=
  trivial

/-! ## Gates and Milestones -/

@[simp]
theorem performs_evaluateCriterion (criterion : GateCriterion) :
    (evaluateCriterion py criterion runtime).Performs Effect.Quiet := by
  unfold evaluateCriterion
  cases criterion.type with
  | taskCompletion => simp
  | taskVerification => simp
  | taskArtifact => simp
  | projectGate => simp
  | humanApproval => simp

@[simp]
theorem performs_storeEvaluation (row : Row) (state : GateState)
    (fingerprint : String) (results : List CriterionResult)
    (reasons : List String) :
    (GateEvaluationService.storeEvaluation py row state fingerprint results
      reasons).Performs Effect.Quiet := by
  unfold GateEvaluationService.storeEvaluation
  cases py.toInt (row.get "evaluation_revision" (.int 0)) with
  | none => simp
  | some revision => simp

theorem performs_automaticEvidence (gate : ProjectGate) :
    (GateEvaluationService.automaticEvidence py gate runtime).Performs
      Effect.Quiet := by
  apply Program.performs_bind
  · apply Program.performs_foldlM
    intro results criterion _
    simp
  · intro results
    simp

/-- A stored evaluation with its event. -/
theorem performs_storing (row : Row) (state : GateState) (fingerprint : String)
    (results : List CriterionResult) (reasons : List String) (eventType : String)
    (payload : Row × Bool → Row) :
    (do
      let stored ← GateEvaluationService.storeEvaluation py row state fingerprint
        results reasons
      let _ ← Action.appendIf stored.2 eventType (payload stored)
      pure stored.1 : Action Row).Performs Effect.Quiet := by
  simp

@[simp]
theorem performs_evaluateRow (gate : ProjectGate) (row : Row) :
    (GateEvaluationService.evaluateRow py gate row runtime).Performs
      Effect.Quiet := by
  apply Program.performs_bind (performs_automaticEvidence gate)
  intro evidence
  apply Program.performs_ite Program.performs_pure
  apply Program.performs_ite (performs_storing ..)
  cases gate.humanCriterion with
  | none => exact performs_storing ..
  | some criterion =>
      cases iterate ((row.set "input_fingerprint" (.string evidence.2)).get
          "decisions" (.array [])) with
      | none => simp
      | some decisions => exact performs_storing ..

@[simp]
theorem performs_evaluate (gate : ProjectGate) :
    (GateEvaluationService.evaluate py gate runtime).Performs Effect.Quiet := by
  simp [GateEvaluationService.evaluate]

@[simp]
theorem performs_evaluateGates :
    (evaluateGates py definition runtime).Performs Effect.Quiet := by
  unfold evaluateGates
  apply Program.performs_bind (performs_check _)
  intro order
  apply Program.performs_foldlM
  intro current gateId _
  cases definition.findGate gateId with
  | none => simp
  | some gate => simp

@[simp]
theorem performs_build (milestone : ProjectMilestone) :
    (ProjectBaselineBuilder.build py milestone definition runtime).Performs
      Effect.Quiet := by
  apply Program.performs_bind
  · apply Program.performs_foldlM
    intro collected taskId _
    simp [ProjectBaselineBuilder.collectTask]
  · intro collected
    simp

@[simp]
theorem performs_evaluateMilestone (milestone : ProjectMilestone) :
    (evaluateMilestone py milestone runtime).Performs Effect.Quiet := by
  unfold evaluateMilestone
  apply Program.performs_ite Program.performs_pure
  apply Program.performs_ite Program.performs_pure
  apply Program.performs_bind
  · apply Program.performs_foldlM
    intro missing taskId _
    simp
  · intro missing
    simp

@[simp]
theorem performs_achieveIfReady (milestone : ProjectMilestone) :
    (achieveIfReady py definition milestone runtime).Performs Effect.Quiet := by
  unfold achieveIfReady
  apply Program.performs_ite Program.performs_pure
  apply Program.performs_bind (performs_evaluateMilestone milestone)
  intro projection
  apply Program.performs_ite Program.performs_pure
  apply Program.performs_bind (performs_build milestone)
  intro result
  simp

@[simp]
theorem performs_evaluateMilestones :
    (evaluateMilestones py definition runtime).Performs Effect.Quiet := by
  unfold evaluateMilestones
  apply Program.performs_bind (performs_check _)
  intro order
  apply Program.performs_foldlM
  intro current milestoneId _
  cases definition.findMilestone milestoneId with
  | none => simp
  | some milestone => simp

/-! ## Eligibility and Phases -/

@[simp]
theorem performs_anyOutcome (elements : List String)
    (accepts : TaskOutcome → Bool) :
    (anyOutcome elements accepts).Performs Effect.Quiet := by
  induction elements with
  | nil => exact Program.performs_pure
  | cons head tail inductionHypothesis =>
      apply Program.performs_bind (performs_outcome head)
      intro outcome
      exact Program.performs_ite Program.performs_pure inductionHypothesis

@[simp]
theorem performs_evaluateTaskEligibility (taskId : String) :
    (evaluateTaskEligibility py definition runtime taskId).Performs
      Effect.Quiet := by
  unfold evaluateTaskEligibility
  cases definition.findTask taskId with
  | none => simp
  | some task =>
      apply Program.performs_bind (performs_describe taskId)
      intro summary
      cases definition.findPhase task.phase with
      | none => simp
      | some phase =>
          apply Program.performs_bind
          · apply Program.performs_foldlM
            intro reasons predecessor _
            simp
          · intro predecessors
            apply Program.performs_bind
            · simp [failurePolicyReasons, requiredTaskFailed]
            · intro failures
              simp

@[simp]
theorem performs_eligibilityOfTasks :
    (eligibilityOfTasks py definition runtime).Performs Effect.Quiet := by
  apply Program.performs_foldlM
  intro results task _
  simp

@[simp]
theorem performs_projectPhase (phase : ProjectPhase) :
    (projectPhase py definition runtime phase).Performs Effect.Quiet := by
  unfold projectPhase phaseState
  apply Program.performs_ite Program.performs_pure
  apply Program.performs_ite Program.performs_pure
  cases phase.tasks.mapM definition.findTask with
  | none => simp
  | some members =>
      apply Program.performs_bind
      · simp [allCompleted]
      · intro complete
        simp

@[simp]
theorem performs_projectPhases :
    (projectPhases py definition runtime).Performs Effect.Quiet := by
  apply Program.performs_foldlM
  intro states phase _
  simp

/-! ## The engine -/

@[simp]
theorem performs_syncDefinition :
    (ProjectExecutionEngine.syncDefinition py definition runtime).Performs
      Effect.Quiet := by
  unfold ProjectExecutionEngine.syncDefinition
  generalize ProjectExecutionEngine.definitionDigest py definition = digest
  apply Program.performs_ite Program.performs_pure
  apply Program.performs_bind (performs_append _ _)
  intro _
  exact Program.performs_pure

@[simp]
theorem performs_recordReadyTasks (eligibility : List (String × EligibilityResult)) :
    (ProjectExecutionEngine.recordReadyTasks eligibility runtime).Performs
      Effect.Quiet := by
  unfold ProjectExecutionEngine.recordReadyTasks
  cases iterate (runtime.executor.get "ready_tasks" (.array [])) with
  | none => simp
  | some previous => simp

@[simp]
theorem performs_observeTasks :
    (ProjectExecutionEngine.observeTasks py definition runtime).Performs
      Effect.Quiet := by
  apply Program.performs_bind
  · apply Program.performs_foldlM
    intro observed task _
    apply Program.performs_bind (performs_describe _)
    intro summary
    simp
  · intro observed
    simp

@[simp]
theorem performs_recordPhaseTransitions (phases : List (String × PhaseState)) :
    (ProjectExecutionEngine.recordPhaseTransitions phases runtime).Performs
      Effect.Quiet := by
  apply Program.performs_bind
  · apply Program.performs_foldlM
    intro _ entry _
    cases ProjectExecutionEngine.phaseEvent entry.2 with
    | none => simp
    | some eventType => simp
  · intro _
    simp

@[simp]
theorem performs_applyFailurePolicy :
    (ProjectExecutionEngine.applyFailurePolicy py definition runtime).Performs
      Effect.Quiet := by
  unfold ProjectExecutionEngine.applyFailurePolicy
  apply Program.performs_ite Program.performs_pure
  apply Program.performs_ite Program.performs_pure
  apply Program.performs_bind (performs_append _ _)
  intro _
  exact Program.performs_pure

@[simp]
theorem performs_refresh :
    (ProjectExecutionEngine.refresh py definition runtime).Performs
      Effect.Quiet := by
  apply Program.performs_bind performs_eligibilityOfTasks
  intro eligibility
  apply Program.performs_bind (performs_recordReadyTasks eligibility)
  intro current
  simp

@[simp]
theorem performs_decide (gateId actor decision reason : String) :
    (GateEvaluationService.decide py gateId runtime actor decision
      reason).Performs Effect.Quiet := by
  unfold GateEvaluationService.decide
  extract_lets row fingerprint normalized
  clear_value normalized
  apply Program.performs_ite (performs_fail _)
  apply Program.performs_ite (performs_fail _)
  apply Program.performs_ite (performs_fail _)
  apply Program.performs_ite (performs_fail _)
  apply Program.performs_ite (performs_fail _)
  apply Program.performs_bind performs_now
  intro timestamp
  split
  · simp
  · exact performs_fail _

@[simp]
theorem performs_waive (gateId actor reason : String) :
    (GateEvaluationService.waive py gateId runtime actor reason).Performs
      Effect.Quiet := by
  unfold GateEvaluationService.waive
  apply Program.performs_ite (performs_fail _)
  apply Program.performs_ite (performs_fail _)
  apply Program.performs_ite (performs_fail _)
  simp

end Performs

/-! ## Intents and observations -/

/-- The same intents and the same observations of Tasks. -/
structure SameTasks (before after : ProjectExecutionRuntimeState) : Prop where
  intents : after.intents = before.intents
  observedTasks : after.observedTasks = before.observedTasks

theorem SameTasks.refl (runtime : ProjectExecutionRuntimeState) :
    SameTasks runtime runtime :=
  ⟨rfl, rfl⟩

theorem SameTasks.trans {before middle after : ProjectExecutionRuntimeState}
    (first : SameTasks before middle) (second : SameTasks middle after) :
    SameTasks before after :=
  ⟨second.intents.trans first.intents,
    second.observedTasks.trans first.observedTasks⟩

section Frame

variable {py : Python} {definition : ProjectExecutionDefinition}
  {answers : (effect : Effect) → Reply effect → Prop}
  {before after : ProjectExecutionRuntimeState}

theorem evaluateGates_sameTasks
    (yields : (evaluateGates py definition before).Yields answers after) :
    SameTasks before after := by
  rw [evaluateGates, Program.yields_bind] at yields
  obtain ⟨order, _, folded⟩ := yields
  apply Program.yields_foldlM (motive := fun _ current => SameTasks before current)
    _ (SameTasks.refl before) folded
  intro front gateId back current next _ same evaluated
  cases found : definition.findGate gateId with
  | none =>
      rw [found] at evaluated
      exact absurd evaluated id
  | some gate =>
      rw [found] at evaluated
      have frame := (evaluate_frame evaluated).1
      apply same.trans
      rw [frame]
      exact ⟨rfl, rfl⟩

theorem achieveIfReady_sameTasks {milestone : ProjectMilestone}
    {result : Option BaselineBuildResult}
    (yields : (achieveIfReady py definition milestone before).Yields answers
      (after, result)) : SameTasks before after := by
  unfold achieveIfReady at yields
  have unchanged : ∀ {other : Option BaselineBuildResult},
      (before, other) = (after, result) → SameTasks before after := by
    intro other same
    rw [(Prod.mk.inj same).1]
    exact SameTasks.refl after
  by_cases achieved : milestone.id ∈ before.milestoneAchievements.keys
  · rw [if_pos achieved] at yields
    exact unchanged yields
  · rw [if_neg achieved, Program.yields_bind] at yields
    obtain ⟨projection, _, yields⟩ := yields
    by_cases open_ : projection.state ≠ .pending ∨ projection.missing ≠ []
    · rw [if_pos open_] at yields
      exact unchanged yields
    · rw [if_neg open_, Program.yields_bind] at yields
      obtain ⟨baseline, _, yields⟩ := yields
      by_cases partial_ : (!baseline.complete) = true
      · rw [if_pos partial_] at yields
        exact unchanged yields
      · rw [if_neg partial_, Program.yields_bind] at yields
        obtain ⟨_, _, yields⟩ := yields
        rw [← (Prod.mk.inj yields).1]
        exact ⟨rfl, rfl⟩

theorem evaluateMilestones_sameTasks
    (yields : (evaluateMilestones py definition before).Yields answers after) :
    SameTasks before after := by
  rw [evaluateMilestones, Program.yields_bind] at yields
  obtain ⟨order, _, folded⟩ := yields
  apply Program.yields_foldlM (motive := fun _ current => SameTasks before current)
    _ (SameTasks.refl before) folded
  intro front milestoneId back current next _ same evaluated
  cases found : definition.findMilestone milestoneId with
  | none =>
      rw [found] at evaluated
      exact absurd evaluated id
  | some milestone =>
      rw [found, Program.yields_bind] at evaluated
      obtain ⟨result, achieved, rest⟩ := evaluated
      rw [← rest]
      exact same.trans (achieveIfReady_sameTasks achieved)

theorem syncDefinition_sameTasks
    (yields : (ProjectExecutionEngine.syncDefinition py definition before).Yields
      answers after) : SameTasks before after := by
  unfold ProjectExecutionEngine.syncDefinition at yields
  extract_lets digest at yields
  clear_value digest
  split at yields
  · rw [← yields]
    exact SameTasks.refl before
  · rw [Program.yields_bind] at yields
    obtain ⟨_, _, rest⟩ := yields
    rw [← rest]
    exact ⟨rfl, rfl⟩

theorem recordReadyTasks_sameTasks {eligibility : List (String × EligibilityResult)}
    (yields : (ProjectExecutionEngine.recordReadyTasks eligibility before).Yields
      answers after) : SameTasks before after := by
  unfold ProjectExecutionEngine.recordReadyTasks at yields
  cases found : iterate (before.executor.get "ready_tasks" (.array [])) with
  | none =>
      rw [found] at yields
      exact absurd yields id
  | some previous =>
      rw [found] at yields
      simp only [Program.yields_bind] at yields
      obtain ⟨_, _, rest⟩ := yields
      rw [← rest]
      exact ⟨rfl, rfl⟩

theorem recordPhaseTransitions_sameTasks {phases : List (String × PhaseState)}
    (yields : (ProjectExecutionEngine.recordPhaseTransitions phases before).Yields
      answers after) : SameTasks before after := by
  rw [ProjectExecutionEngine.recordPhaseTransitions, Program.yields_bind] at yields
  obtain ⟨_, _, rest⟩ := yields
  rw [← rest]
  exact ⟨rfl, rfl⟩

theorem applyFailurePolicy_sameTasks
    (yields : (ProjectExecutionEngine.applyFailurePolicy py definition
      before).Yields answers after) : SameTasks before after := by
  unfold ProjectExecutionEngine.applyFailurePolicy at yields
  extract_lets failed at yields
  split at yields
  · rw [← yields]
    exact SameTasks.refl before
  · split at yields
    · rw [← yields]
      exact SameTasks.refl before
    · rw [Program.yields_bind] at yields
      obtain ⟨_, _, rest⟩ := yields
      rw [← rest]
      exact ⟨rfl, rfl⟩

theorem refresh_sameTasks {eligibility : List (String × EligibilityResult)}
    {phases : List (String × PhaseState)}
    (yields : (ProjectExecutionEngine.refresh py definition before).Yields answers
      (after, eligibility, phases)) : SameTasks before after := by
  simp only [ProjectExecutionEngine.refresh, Program.yields_bind] at yields
  obtain ⟨_, _, ready, recorded, _, _, final, transitions, rest⟩ := yields
  rw [← (Prod.mk.inj rest).1]
  exact (recordReadyTasks_sameTasks recorded).trans
    (recordPhaseTransitions_sameTasks transitions)

theorem decide_sameTasks {gateId actor decision reason : String}
    (yields : (GateEvaluationService.decide py gateId before actor decision
      reason).Yields answers after) : SameTasks before after := by
  unfold GateEvaluationService.decide at yields
  extract_lets row fingerprint normalized at yields
  clear_value normalized
  simp only [yields_unless, Program.yields_bind] at yields
  obtain ⟨_, _, _, _, _, timestamp, _, yields⟩ := yields
  split at yields
  · rw [Program.yields_bind] at yields
    obtain ⟨_, _, rest⟩ := yields
    rw [← rest]
    exact ⟨rfl, rfl⟩
  · exact absurd yields id

theorem waive_sameTasks {gateId actor reason : String}
    (yields : (GateEvaluationService.waive py gateId before actor
      reason).Yields answers after) : SameTasks before after := by
  unfold GateEvaluationService.waive at yields
  simp only [yields_unless, Program.yields_bind] at yields
  obtain ⟨_, _, _, timestamp, _, _, _, rest⟩ := yields
  rw [← rest]
  exact ⟨rfl, rfl⟩

theorem observeTasks_intents
    (yields : (ProjectExecutionEngine.observeTasks py definition before).Yields
      answers after) : after.intents = before.intents := by
  rw [ProjectExecutionEngine.observeTasks, Program.yields_bind] at yields
  obtain ⟨_, _, rest⟩ := yields
  rw [← rest]

end Frame

end Execraft.ProjectExecution
