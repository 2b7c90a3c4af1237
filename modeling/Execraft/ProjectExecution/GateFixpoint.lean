import Execraft.ProjectExecution.GateAuthorization

/-!
# One pass over the Gates reaches a fixpoint

What an evaluation has stored, the next one finds unchanged.  Gates are evaluated
behind those that they name, so this also holds of the Gates that record the
state, the revision and the fingerprint of other Gates.
-/

namespace Execraft.ProjectExecution

open Foundation Foundation.Json Foundation.Graph

/-- An effect that only asks the port about a Task. -/
def Effect.Asks : Effect → Prop
  | .describe _ => True
  | .outcome _ => True
  | .evidence _ => True
  | _ => False

variable {py : Python} {view : TaskView}

/-! ## Evidence -/

section Evidence

variable {runtime : ProjectExecutionRuntimeState}

theorem evaluateCriterion_returns {criterion : GateCriterion}
    (automatic : criterion.type ≠ .humanApproval) :
    (evaluateCriterion py criterion runtime).Returns view.answers Effect.Asks
      (criterionResult py view runtime criterion) := by
  have asked : (Action.evidence criterion.taskId).Returns view.answers Effect.Asks
      (view.evidence criterion.taskId) :=
    Program.returns_request trivial fun _ given => given
  unfold evaluateCriterion criterionResult
  cases kind : criterion.type with
  | taskCompletion =>
      have told : (Action.outcome criterion.taskId).Returns view.answers Effect.Asks
          (view.outcome criterion.taskId) :=
        Program.returns_request trivial fun _ given => given
      exact Program.returns_bind told rfl
  | taskVerification => exact Program.returns_bind asked rfl
  | taskArtifact => exact Program.returns_bind asked rfl
  | projectGate => rfl
  | humanApproval => exact absurd kind automatic

theorem automaticEvidence_returns {gate : ProjectGate} :
    (GateEvaluationService.automaticEvidence py gate runtime).Returns view.answers
      Effect.Asks (gate.automaticCriteria.map (criterionResult py view runtime),
        currentFingerprint py view runtime gate) := by
  have collected : (gate.automaticCriteria.foldlM (fun results criterion => do
      let result ← evaluateCriterion py criterion runtime
      pure (results ++ [result])) []).Returns view.answers Effect.Asks
        (gate.automaticCriteria.map (criterionResult py view runtime)) := by
    apply Program.returns_collect
    intro criterion member
    have automatic : criterion.type ≠ .humanApproval := by
      simpa using (List.mem_filter.mp member).2
    exact evaluateCriterion_returns automatic
  exact Program.returns_bind collected rfl

end Evidence

/-! ## Rows -/

section Rows

variable {runtime : ProjectExecutionRuntimeState}

/-- A stored evaluation is not stored again. -/
theorem storeEvaluation_again {row : Row} {state : GateState} {fingerprint : String}
    {results : List CriterionResult} {reasons : List String} {stored : Row × Bool}
    (yields : (GateEvaluationService.storeEvaluation py row state fingerprint
      results reasons).Yields view.answers stored) :
    GateEvaluationService.storeEvaluation py stored.1 state fingerprint results
      reasons = pure (stored.1, false) := by
  unfold GateEvaluationService.storeEvaluation at yields ⊢
  by_cases unchanged : GateEvaluationService.unchangedEvaluation py row state
      fingerprint (.array (results.map fun result => .object result.evidence))
      (stringArray reasons) = true
  · simp only [unchanged, if_true, Program.yields_pure] at yields
    rw [← yields]
    simp only [unchanged, if_true]
  · simp only [unchanged, Bool.false_eq_true, if_false] at yields
    cases number : py.toInt (row.get "evaluation_revision" (.int 0)) with
    | none => simp [number] at yields
    | some revision =>
        simp only [number, Program.yields_bind, Program.yields_pure] at yields
        obtain ⟨evaluatedAt, _, same⟩ := yields
        have found : GateEvaluationService.unchangedEvaluation py stored.1 state
            fingerprint (.array (results.map fun result => .object result.evidence))
            (stringArray reasons) = true := by
          rw [← same]
          simp [GateEvaluationService.unchangedEvaluation, subRow, truthy,
            Row.get_set_ne, stringArray, Python.equals_array_self]
        simp only [found, if_true]

theorem Stored.set_fingerprint {row stored : Row} {state : GateState}
    {fingerprint : String} (kept : Stored row state fingerprint stored)
    (fingerprintStored : row.get "input_fingerprint" .null = .string fingerprint) :
    stored.set "input_fingerprint" (.string fingerprint) = stored := by
  apply Row.set_of_get
  rw [kept.others _ (by decide) (by decide) (by decide)]
  exact fingerprintStored

theorem Stored.not_waived {row stored : Row} {state : GateState}
    {fingerprint other : String} (kept : Stored row state fingerprint stored)
    (notWaived : ¬ boundTo row "waiver" other = true) :
    ¬ boundTo stored "waiver" other = true := by
  rw [boundTo_congr (kept.others _ (by decide) (by decide) (by decide) _)]
  exact notWaived

/-- The row that an evaluation leaves is left as it is by the next one. -/
theorem evaluateRow_again {gate : ProjectGate} {row after : Row}
    (yields : (GateEvaluationService.evaluateRow py gate row runtime).Yields
      view.answers after) :
    (GateEvaluationService.evaluateRow py gate after runtime).Returns view.answers
      Effect.Asks after := by
  simp only [GateEvaluationService.evaluateRow, Program.yields_bind] at yields
  obtain ⟨evidence, collected, yields⟩ := yields
  have computed := automaticEvidence_yields collected
  subst computed
  unfold GateEvaluationService.evaluateRow
  apply Program.returns_bind automaticEvidence_returns
  simp only at yields ⊢
  generalize currentFingerprint py view runtime gate = fingerprint at yields ⊢
  generalize gate.automaticCriteria.map (criterionResult py view runtime) = results
    at yields ⊢
  have fingerprintStored : (row.set "input_fingerprint" (.string fingerprint)).get
      "input_fingerprint" .null = .string fingerprint := Row.get_set_self ..
  generalize row.set "input_fingerprint" (.string fingerprint) = current
    at yields fingerprintStored
  by_cases waived : boundTo current "waiver" fingerprint = true
  · rw [if_pos waived, Program.yields_pure] at yields
    subst yields
    have fingerprintKept : (current.set "state"
        (.string GateState.waived.value)).get "input_fingerprint" .null =
          .string fingerprint := by
      rw [Row.get_set_ne _ (by decide)]
      exact fingerprintStored
    have waivedStill : boundTo (current.set "state"
        (.string GateState.waived.value)) "waiver" fingerprint = true := by
      rw [← waived]
      exact boundTo_congr (Row.get_set_ne _ (by decide) _ _) fingerprint
    rw [Row.set_of_get fingerprintKept, if_pos waivedStill,
      Row.set_of_get (Row.get_set_self ..)]
    exact Program.returns_pure.mpr rfl
  · rw [if_neg waived] at yields
    by_cases failing : (results.any fun result => !result.satisfied) = true
    · rw [if_pos failing, Program.yields_bind] at yields
      obtain ⟨stored, storing, yields⟩ := yields
      have kept := storeEvaluation_yields storing
      simp only [Program.yields_bind, Program.yields_pure] at yields
      obtain ⟨_, _, same⟩ := yields
      subst same
      rw [kept.set_fingerprint fingerprintStored, if_neg (kept.not_waived waived),
        if_pos failing, storeEvaluation_again storing]
      exact Program.returns_pure.mpr rfl
    · rw [if_neg failing] at yields
      cases human : gate.humanCriterion with
      | none =>
          simp only [human, Program.yields_bind, Program.yields_pure] at yields ⊢
          obtain ⟨stored, storing, _, _, same⟩ := yields
          have kept := storeEvaluation_yields storing
          subst same
          rw [kept.set_fingerprint fingerprintStored,
            if_neg (kept.not_waived waived), if_neg failing,
            storeEvaluation_again storing]
          exact Program.returns_pure.mpr rfl
      | some criterion =>
          simp only [human] at yields ⊢
          cases iterated : iterate (current.get "decisions" (.array [])) with
          | none => simp [iterated] at yields
          | some decisions =>
              simp only [iterated, Program.yields_bind, Program.yields_pure]
                at yields
              obtain ⟨stored, storing, _, _, same⟩ := yields
              have kept := storeEvaluation_yields storing
              subst same
              have decisionsKept : stored.1.get "decisions" (.array []) =
                  current.get "decisions" (.array []) :=
                kept.others _ (by decide) (by decide) (by decide) _
              rw [kept.set_fingerprint fingerprintStored,
                if_neg (kept.not_waived waived), if_neg failing, decisionsKept,
                iterated]
              simp only [storeEvaluation_again storing]
              exact Program.returns_pure.mpr rfl

/-- An evaluation depends on the runtime only through the rows of named Gates. -/
theorem evaluateRow_congr {left right : ProjectExecutionRuntimeState}
    {gate : ProjectGate}
    (same : ∀ criterion ∈ gate.criteria, criterion.type = .projectGate →
      left.gateRow criterion.gateId = right.gateRow criterion.gateId) (row : Row) :
    GateEvaluationService.evaluateRow py gate row left =
      GateEvaluationService.evaluateRow py gate row right := by
  have evidence : GateEvaluationService.automaticEvidence py gate left =
      GateEvaluationService.automaticEvidence py gate right := by
    unfold GateEvaluationService.automaticEvidence
    congr 1
    apply Program.foldlM_congr
    intro results criterion member
    have evaluated : evaluateCriterion py criterion left =
        evaluateCriterion py criterion right := by
      unfold evaluateCriterion
      cases kind : criterion.type with
      | projectGate =>
          simp only [gateReferenceResult,
            same criterion (List.mem_filter.mp member).1 kind]
      | taskCompletion => rfl
      | taskVerification => rfl
      | taskArtifact => rfl
      | humanApproval => rfl
    rw [evaluated]
  unfold GateEvaluationService.evaluateRow
  rw [evidence]

end Rows

/-! ## Gates -/

/-- The row of a Gate is one that an evaluation leaves as it is. -/
structure Steady (py : Python) (view : TaskView)
    (runtime : ProjectExecutionRuntimeState) (gate : ProjectGate) (row : Row) :
    Prop where
  stored : runtime.gates.get? gate.id = some row
  cancelled : gate.id ∈ runtime.cancelledGates →
    row.get "state" .null = .string GateState.cancelled.value
  evaluated : gate.id ∉ runtime.cancelledGates →
    (GateEvaluationService.evaluateRow py gate row runtime).Returns view.answers
      Effect.Asks row

section Gates

variable {gate : ProjectGate} {row : Row}

theorem Steady.returns {runtime : ProjectExecutionRuntimeState}
    (steady : Steady py view runtime gate row) :
    (GateEvaluationService.evaluate py gate runtime).Returns view.answers Effect.Asks
      runtime := by
  have rowThere : GateEvaluationService.withRow runtime gate.id = runtime := by
    rw [GateEvaluationService.withRow, Dict.setDefault_of_get? steady.stored]
  have unchanged := ProjectExecutionRuntimeState.setGate_of_get? steady.stored
  unfold GateEvaluationService.evaluate
  simp only [rowThere, ProjectExecutionRuntimeState.gateRow_of_get? steady.stored]
  by_cases cancelled : gate.id ∈ runtime.cancelledGates
  · rw [if_pos cancelled, Row.set_of_get (steady.cancelled cancelled), unchanged]
    exact Program.returns_pure.mpr rfl
  · rw [if_neg cancelled]
    apply Program.returns_bind (steady.evaluated cancelled)
    exact Program.returns_pure.mpr unchanged

theorem Steady.congr {left right : ProjectExecutionRuntimeState}
    (steady : Steady py view left gate row)
    (cancelled : right.cancelledGates = left.cancelledGates)
    (own : right.gates.get? gate.id = left.gates.get? gate.id)
    (named : ∀ criterion ∈ gate.criteria, criterion.type = .projectGate →
      right.gateRow criterion.gateId = left.gateRow criterion.gateId) :
    Steady py view right gate row := by
  constructor
  · rw [own]
    exact steady.stored
  · rw [cancelled]
    exact steady.cancelled
  · rw [cancelled, evaluateRow_congr named]
    exact steady.evaluated

/-- An evaluation leaves a steady row. -/
theorem evaluate_steady {before after : ProjectExecutionRuntimeState}
    (notItself : ∀ criterion ∈ gate.criteria, criterion.type = .projectGate →
      criterion.gateId ≠ gate.id)
    (yields : (GateEvaluationService.evaluate py gate before).Yields view.answers
      after) :
    ∃ row, Steady py view after gate row := by
  unfold GateEvaluationService.evaluate at yields
  by_cases cancelled : gate.id ∈ before.cancelledGates
  · have cancelledStill :
        gate.id ∈ (GateEvaluationService.withRow before gate.id).cancelledGates :=
      cancelled
    simp only [cancelledStill, if_true, Program.yields_pure] at yields
    rw [← yields]
    constructor
    · constructor
      · exact Dict.get?_set_self ..
      · exact fun _ => Row.get_set_self ..
      · exact fun active => absurd cancelled active
  · have cancelledStill :
        gate.id ∉ (GateEvaluationService.withRow before gate.id).cancelledGates :=
      cancelled
    simp only [cancelledStill, if_false, Program.yields_bind, Program.yields_pure]
      at yields
    obtain ⟨row, evaluated, same⟩ := yields
    rw [← same]
    refine ⟨row, Dict.get?_set_self .., fun inside => absurd inside cancelled, ?_⟩
    intro _
    have named : ∀ criterion ∈ gate.criteria, criterion.type = .projectGate →
        ((GateEvaluationService.withRow before gate.id).setGate gate.id row).gateRow
            criterion.gateId =
          (GateEvaluationService.withRow before gate.id).gateRow criterion.gateId := by
      intro criterion member reference
      exact ProjectExecutionRuntimeState.gateRow_setGate_ne _
        (notItself criterion member reference) row
    rw [evaluateRow_congr named]
    exact evaluateRow_again evaluated

end Gates

/-! ## All Gates -/

section AllGates

variable {definition : ProjectExecutionDefinition}

/-- The Gates in `front` have been evaluated and stay as they are. -/
structure Fixed (py : Python) (view : TaskView)
    (definition : ProjectExecutionDefinition) (front : List String)
    (runtime : ProjectExecutionRuntimeState) : Prop where
  known : ∀ gateId ∈ front, gateId ∈ definition.gateIds
  steady : ∀ gate ∈ definition.gates, gate.id ∈ front →
    ∃ row, Steady py view runtime gate row

/-- Evaluating one more Gate behind its references. -/
theorem Fixed.step (constructs : definition.Constructs py)
    (valid : Validated definition)
    {runtime after : ProjectExecutionRuntimeState} {front : List String}
    (fixed : Fixed py view definition front runtime)
    {gate : ProjectGate} (member : gate ∈ definition.gates) (fresh : gate.id ∉ front)
    (closed : ∀ other ∈ definition.gates, other.id ∈ front →
      ∀ reference ∈ other.gateRefs, reference ∈ front)
    (yields : (GateEvaluationService.evaluate py gate runtime).Yields view.answers
      after) :
    Fixed py view definition (front ++ [gate.id]) after := by
  obtain ⟨frame, others⟩ := evaluate_frame yields
  have notItself : ∀ criterion ∈ gate.criteria, criterion.type = .projectGate →
      criterion.gateId ≠ gate.id := by
    intro criterion inGate reference
    exact (valid.gateGates gate member _
      (mem_gateRefs_of_reference constructs member inGate reference)).2
  constructor
  · intro gateId listed
    rcases List.mem_append.mp listed with earlier | now
    · exact fixed.known gateId earlier
    · rw [List.mem_singleton.mp now]
      exact List.mem_map_of_mem member
  · intro other otherMember listed
    by_cases same : other.id = gate.id
    · have sameGate : other = gate :=
        List.inj_on_of_nodup_map constructs.uniqueIds.gates otherMember member same
      rw [sameGate]
      exact evaluate_steady notItself yields
    · have inFront : other.id ∈ front := by
        rcases List.mem_append.mp listed with earlier | now
        · exact earlier
        · exact absurd (List.mem_singleton.mp now) same
      obtain ⟨row, steady⟩ := fixed.steady other otherMember inFront
      refine ⟨row, steady.congr (by rw [frame]) (others other.id same) ?_⟩
      intro criterion inGate reference
      have referenced := closed other otherMember inFront criterion.gateId
        (mem_gateRefs_of_reference constructs otherMember inGate reference)
      have different : criterion.gateId ≠ gate.id := by
        intro equality
        rw [equality] at referenced
        exact fresh referenced
      exact gateRow_congr (others criterion.gateId different)

/-- A second evaluation of all Gates, against a port that still answers the same,
only asks that port: it appends no event, and it returns the runtime of the first. -/
theorem evaluateGates_fixpoint {taskExists : Option (String → Bool)}
    (constructs : definition.Constructs py)
    (valid : validateDefinition py definition taskExists = .ok ())
    {before after : ProjectExecutionRuntimeState}
    (evaluated : (evaluateGates py definition before).Yields view.answers after) :
    (evaluateGates py definition after).Returns view.answers Effect.Asks after := by
  have validated := ((validateDefinition_eq_ok constructs.uniqueIds.tasks).mp valid).1
  have start : Fixed py view definition [] before := by
    constructor
    · intro gateId listed
      cases listed
    · intro gate _ listed
      cases listed
  obtain ⟨order, ordered, _, fixed⟩ := evaluateGates_induction constructs start
    (fun front runtime next gate member fresh closed fixed step =>
      fixed.step constructs validated member fresh closed step) evaluated
  unfold evaluateGates
  rw [ordered]
  apply Program.returns_foldlM_fixed
  intro gateId listed
  obtain ⟨gate, member, same⟩ := List.mem_map.mp (fixed.known gateId listed)
  subst same
  rw [(ProjectExecutionDefinition.findGate_eq_some constructs.uniqueIds.gates).mpr
    ⟨member, rfl⟩]
  obtain ⟨row, steady⟩ := fixed.steady gate member listed
  exact steady.returns

theorem sample_fixpoint :
    ∃ after, (evaluateGates asciiPython ProjectExecutionDefinition.sample
        approvedRuntime).Yields completedView.answers after ∧
      (evaluateGates asciiPython ProjectExecutionDefinition.sample after).Returns
        completedView.answers Effect.Asks after := by
  obtain ⟨after, evaluated, _⟩ := sample_evaluated
  exact ⟨after, evaluated, evaluateGates_fixpoint
    ProjectExecutionDefinition.sample_constructs sample_valid evaluated⟩

end AllGates

end Execraft.ProjectExecution
