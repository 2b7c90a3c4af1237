import Execraft.ProjectExecution.DefinitionRoundTrip
import Execraft.ProjectExecution.Gates

/-!
# Which Gates authorize

One evaluation of all Gates, against a port with constant answers, leaves each
Gate authorizing exactly when its current evidence, waiver and decisions say so,
whatever rows earlier evaluations have left.
-/

namespace Execraft.ProjectExecution

open Foundation Foundation.Json Foundation.Graph

/-! ## What authorization means -/

/-- A Task criterion is met by what the port tells now. -/
def TaskCriterionHolds (view : TaskView) (criterion : GateCriterion) : Prop :=
  match criterion.type with
  | .taskCompletion => view.outcome criterion.taskId = .completed
  | .taskVerification => (view.evidence criterion.taskId).verification.outcome =
      if criterion.outcome = "" then "passed" else criterion.outcome
  | .taskArtifact =>
      criterion.artifactId ∈ (view.evidence criterion.taskId).artifacts
  | .projectGate => True
  | .humanApproval => True

section Meaning

variable (py : Python) (view : TaskView)

/-- The result of a criterion in a runtime state.  A human criterion counts as
not decided here. -/
def criterionResult (runtime : ProjectExecutionRuntimeState)
    (criterion : GateCriterion) : CriterionResult :=
  match criterion.type with
  | .taskCompletion =>
      taskCompletionResult criterion (view.outcome criterion.taskId)
  | .taskVerification =>
      taskVerificationResult criterion (view.evidence criterion.taskId)
  | .taskArtifact =>
      taskArtifactResult criterion (view.evidence criterion.taskId)
  | .projectGate => gateReferenceResult py criterion runtime
  | .humanApproval => humanApprovalResult py [] ""

/-- The fingerprint of the evidence for a Gate in a runtime state. -/
def currentFingerprint (runtime : ProjectExecutionRuntimeState)
    (gate : ProjectGate) : String :=
  gate.fingerprint py
    (gate.automaticCriteria.map (criterionResult py view runtime))

/-- The latest decision that a row records for a fingerprint. -/
def latestDecision (row : Row) (fingerprint : String) : Option String := do
  let decisions ← iterate (row.get "decisions" (.array []))
  let latest ← (matchingDecisions decisions fingerprint).getLast?
  some (py.text (Row.get latest "decision" (.string "")))

/-- A Gate authorizes: it is not cancelled, and it is waived for its current
evidence, or all its criteria are met, those on Gates by authorizing Gates and
a human one by an approval of the current evidence.  Waivers, decisions and
cancellations are those before the evaluation, the evidence is that after it. -/
inductive Authorizes (definition : ProjectExecutionDefinition)
    (before after : ProjectExecutionRuntimeState) : String → Prop where
  | waived {gate : ProjectGate} : gate ∈ definition.gates →
      gate.id ∉ before.cancelledGates →
      boundTo (before.gateRow gate.id) "waiver"
        (currentFingerprint py view after gate) = true →
      Authorizes definition before after gate.id
  | met {gate : ProjectGate} : gate ∈ definition.gates →
      gate.id ∉ before.cancelledGates →
      (∀ criterion ∈ gate.criteria, TaskCriterionHolds view criterion) →
      (∀ criterion ∈ gate.criteria, criterion.type = .projectGate →
        Authorizes definition before after criterion.gateId) →
      ((∃ criterion ∈ gate.criteria, criterion.type = .humanApproval) →
        latestDecision py (before.gateRow gate.id)
          (currentFingerprint py view after gate) = some "approved") →
      Authorizes definition before after gate.id

end Meaning

/-! ## Criteria -/

section Criteria

variable {py : Python} {view : TaskView}

/-- The evaluators compute the result of a criterion. -/
theorem evaluateCriterion_yields {runtime : ProjectExecutionRuntimeState}
    {criterion : GateCriterion} {result : CriterionResult}
    (yields : (evaluateCriterion py criterion runtime).Yields view.answers result) :
    result = criterionResult py view runtime criterion := by
  unfold evaluateCriterion at yields
  unfold criterionResult
  cases kind : criterion.type with
  | taskCompletion => simpa [kind, eq_comm] using yields
  | taskVerification => simpa [kind, eq_comm] using yields
  | taskArtifact => simpa [kind, eq_comm] using yields
  | projectGate => simpa [kind, eq_comm] using yields
  | humanApproval => simp [kind] at yields

theorem automaticEvidence_yields {runtime : ProjectExecutionRuntimeState}
    {gate : ProjectGate} {evidence : List CriterionResult × String}
    (yields : (GateEvaluationService.automaticEvidence py gate runtime).Yields
      view.answers evidence) :
    evidence = (gate.automaticCriteria.map (criterionResult py view runtime),
      currentFingerprint py view runtime gate) := by
  simp only [GateEvaluationService.automaticEvidence, Program.yields_bind,
    Program.yields_pure] at yields
  obtain ⟨results, computed, same⟩ := yields
  have mapped : results =
      gate.automaticCriteria.map (criterionResult py view runtime) := by
    apply Program.yields_foldlM (motive := fun front results =>
      results = front.map (criterionResult py view runtime)) _ rfl computed
    intro front criterion back collected extended _ collectedAll yields
    simp only [Program.yields_bind, Program.yields_pure] at yields
    obtain ⟨result, evaluated, rfl⟩ := yields
    rw [evaluateCriterion_yields evaluated, collectedAll, List.map_append,
      List.map_singleton]
  rw [← same, mapped, currentFingerprint]

/-- A reference is satisfied when the Gate that it names is. -/
theorem referenceSatisfied_eq (row : Row) :
    referenceSatisfied row
        (py.text (row.get "state" (.string GateState.waiting.value)))
        (py.text (row.get "input_fingerprint" (.string ""))) =
      rowSatisfied py row := by
  have states : row.get "state" (.string GateState.waiting.value) =
        row.get "state" (.string "") ∨
      row.get "state" (.string GateState.waiting.value) = .string "waiting" ∧
        row.get "state" (.string "") = .string "" := by
    unfold Row.get
    cases getEntry "state" row with
    | none => exact Or.inr ⟨rfl, rfl⟩
    | some state => exact Or.inl rfl
  unfold referenceSatisfied rowSatisfied
  rcases states with same | ⟨waiting, missing⟩
  · rw [same]
    simp only [boundTo]
    split_ifs with absent waived other
    · rfl
    · rfl
    · cases subRow row "evaluation" with
      | none => rfl
      | some evaluation => simp [other]
    · rw [not_not] at other
      cases subRow row "evaluation" with
      | none => rfl
      | some evaluation => simp [other]
  · rw [waiting, missing]
    cases subRow row "evaluation" with
    | none => simp [Python.text, GateState.value]
    | some evaluation => simp [Python.text, GateState.value]

theorem criterionResult_satisfied (runtime : ProjectExecutionRuntimeState)
    {criterion : GateCriterion} (automatic : criterion.type ≠ .humanApproval) :
    (criterionResult py view runtime criterion).satisfied = true ↔
      TaskCriterionHolds view criterion ∧ (criterion.type = .projectGate →
        gateSatisfied py runtime criterion.gateId = true) := by
  unfold criterionResult TaskCriterionHolds
  cases kind : criterion.type with
  | taskCompletion => simp [taskCompletionResult]
  | taskVerification => simp [taskVerificationResult]
  | taskArtifact => simp [taskArtifactResult]
  | projectGate => simp [gateReferenceResult, referenceSatisfied_eq, gateSatisfied]
  | humanApproval => exact absurd kind automatic

/-- A result depends on the runtime only through the row of a named Gate. -/
theorem criterionResult_congr {left right : ProjectExecutionRuntimeState}
    {criterion : GateCriterion}
    (same : criterion.type = .projectGate →
      left.gateRow criterion.gateId = right.gateRow criterion.gateId) :
    criterionResult py view left criterion =
      criterionResult py view right criterion := by
  unfold criterionResult
  cases kind : criterion.type with
  | projectGate => simp only [gateReferenceResult, same kind]
  | taskCompletion => rfl
  | taskVerification => rfl
  | taskArtifact => rfl
  | humanApproval => rfl

end Criteria

/-! ## Rows -/

section Rows

variable {py : Python} {view : TaskView}

theorem fingerprint_ne_empty (value : Json) : canonicalFingerprint py value ≠ "" := by
  intro empty
  have characters := congrArg String.toList empty
  rw [canonicalFingerprint, String.toList_append] at characters
  simp at characters

theorem boundTo_congr {row other : Row} {name : String}
    (same : row.get name .null = other.get name .null) (fingerprint : String) :
    boundTo row name fingerprint = boundTo other name fingerprint := by
  simp only [boundTo, subRow, same]

theorem boundTo_of_get {row : Row} {name fingerprint : String} {fields : Row}
    (stored : row.get name .null = .object fields)
    (bound : Row.get fields "input_fingerprint" .null = .string fingerprint) :
    boundTo row name fingerprint = true := by
  have filled : truthy (.object fields) = true := by
    cases fields with
    | nil => cases bound
    | cons head tail => rfl
  simp only [boundTo, subRow, stored, filled, if_true, bound, decide_true]

/-- What a stored evaluation leaves in a row. -/
structure Stored (row : Row) (state : GateState) (fingerprint : String)
    (stored : Row) : Prop where
  state : stored.get "state" .null = .string state.value
  evaluation : boundTo stored "evaluation" fingerprint = true
  others : ∀ name, name ≠ "state" → name ≠ "evaluation" →
    name ≠ "evaluation_revision" → ∀ default,
      stored.get name default = row.get name default

theorem storeEvaluation_yields {answers : (effect : Effect) → Reply effect → Prop}
    {row : Row} {state : GateState} {fingerprint : String}
    {results : List CriterionResult} {reasons : List String} {stored : Row × Bool}
    (yields : (GateEvaluationService.storeEvaluation py row state fingerprint
      results reasons).Yields answers stored) :
    Stored row state fingerprint stored.1 := by
  unfold GateEvaluationService.storeEvaluation at yields
  by_cases unchanged : GateEvaluationService.unchangedEvaluation py row state
      fingerprint (.array (results.map fun result => .object result.evidence))
      (stringArray reasons) = true
  · simp only [unchanged, if_true, Program.yields_pure] at yields
    subst yields
    simp only [GateEvaluationService.unchangedEvaluation, decide_eq_true_eq]
      at unchanged
    obtain ⟨sameState, sameFingerprint, _, _⟩ := unchanged
    refine ⟨sameState, ?_, fun name _ _ _ default => rfl⟩
    unfold boundTo
    cases kept : subRow row "evaluation" with
    | none =>
        rw [kept] at sameFingerprint
        cases sameFingerprint
    | some fields =>
        rw [kept] at sameFingerprint
        simpa using sameFingerprint
  · simp only [unchanged, Bool.false_eq_true, if_false] at yields
    cases number : py.toInt (row.get "evaluation_revision" (.int 0)) with
    | none => simp [number] at yields
    | some revision =>
        simp only [number, Program.yields_bind, Program.yields_pure] at yields
        obtain ⟨evaluatedAt, _, same⟩ := yields
        subst same
        constructor
        · rw [Row.get_set_ne _ (by decide), Row.get_set_self]
        · exact boundTo_of_get (Row.get_set_self ..) (by simp)
        · intro name notState notEvaluation notRevision default
          rw [Row.get_set_ne _ notEvaluation, Row.get_set_ne _ notState,
            Row.get_set_ne _ notRevision]

/-- A row whose state and fingerprint are known. -/
theorem rowSatisfied_of_state {row : Row} {state : GateState} {fingerprint : String}
    (stateStored : row.get "state" .null = .string state.value)
    (fingerprintStored : row.get "input_fingerprint" .null = .string fingerprint)
    (present : fingerprint ≠ "") :
    rowSatisfied py row = true ↔
      state = .waived ∧ boundTo row "waiver" fingerprint = true ∨
        state = .passed ∧ boundTo row "evaluation" fingerprint = true := by
  unfold rowSatisfied
  rw [Row.get_of_get_null stateStored, Row.get_of_get_null fingerprintStored]
  simp only [Python.text, present, if_false]
  by_cases waived : state = .waived
  · simp [waived]
  · have otherText : state.value ≠ GateState.waived.value := by
      cases state <;> first | exact absurd rfl waived | decide
    simp only [otherText, if_false]
    by_cases passed : state = .passed
    · simp only [passed, boundTo]
      cases subRow row "evaluation" with
      | none => simp
      | some evaluation => simp
    · have unpassedText : state.value ≠ GateState.passed.value := by
        cases state <;> first | exact absurd rfl passed | decide
      cases subRow row "evaluation" with
      | none => simp [waived, passed]
      | some evaluation => simp [waived, passed, unpassedText]

theorem rowSatisfied_of_cancelled {row : Row}
    (stored : row.get "state" .null = .string GateState.cancelled.value) :
    rowSatisfied py row = false := by
  unfold rowSatisfied
  rw [Row.get_of_get_null stored]
  cases subRow row "evaluation" with
  | none => simp [Python.text, GateState.value]
  | some evaluation => simp [Python.text, GateState.value]

/-- A stored evaluation satisfies the row exactly when it passed. -/
theorem Stored.rowSatisfied_iff {row stored : Row} {state : GateState}
    {fingerprint : String} (kept : Stored row state fingerprint stored)
    (notWaived : state ≠ .waived)
    (fingerprintStored : row.get "input_fingerprint" .null = .string fingerprint)
    (present : fingerprint ≠ "") :
    rowSatisfied py stored = true ↔ state = .passed := by
  have same : stored.get "input_fingerprint" .null = .string fingerprint := by
    rw [kept.others _ (by decide) (by decide) (by decide)]
    exact fingerprintStored
  rw [rowSatisfied_of_state kept.state same present, kept.evaluation]
  simp [notWaived]

/-- What the row of a Gate has to show for the Gate to authorize. -/
def Meets (py : Python) (view : TaskView) (runtime : ProjectExecutionRuntimeState)
    (row : Row) (gate : ProjectGate) : Prop :=
  boundTo row "waiver" (currentFingerprint py view runtime gate) = true ∨
    (∀ criterion ∈ gate.automaticCriteria,
      (criterionResult py view runtime criterion).satisfied = true) ∧
    (gate.humanCriterion ≠ none →
      latestDecision py row (currentFingerprint py view runtime gate) =
        some "approved")

theorem humanApprovalResult_cases (decisions : List Json) (fingerprint : String) :
    let human := humanApprovalResult py decisions fingerprint
    let latest := (matchingDecisions decisions fingerprint).getLast?.map
      fun decision => py.text (Row.get decision "decision" (.string ""))
    latest = some "approved" ∧ human.satisfied = true ∧
        human.awaitingDecision = false ∨
      latest ≠ some "approved" ∧ human.satisfied = false := by
  intro human latest
  cases found : (matchingDecisions decisions fingerprint).getLast? with
  | none =>
      right
      simp [human, latest, humanApprovalResult, found, Python.text]
  | some decision =>
      by_cases approved :
          py.text (Row.get decision "decision" (.string "")) = "approved"
      · left
        simp [human, latest, humanApprovalResult, found, approved]
      · right
        by_cases rejected :
            py.text (Row.get decision "decision" (.string "")) = "rejected"
        · simp [human, latest, humanApprovalResult, found, rejected]
        · simp [human, latest, humanApprovalResult, found, approved, rejected]

/-- The row that an evaluation leaves is satisfied exactly when the evidence,
the waiver and the decisions of the row before ask for it. -/
theorem evaluateRow_yields {gate : ProjectGate} {row after : Row}
    {runtime : ProjectExecutionRuntimeState}
    (yields : (GateEvaluationService.evaluateRow py gate row runtime).Yields
      view.answers after) :
    rowSatisfied py after = true ↔ Meets py view runtime row gate := by
  simp only [GateEvaluationService.evaluateRow, Program.yields_bind] at yields
  obtain ⟨evidence, collected, yields⟩ := yields
  have computed := automaticEvidence_yields collected
  subst computed
  simp only at yields
  generalize fingerprint_eq : currentFingerprint py view runtime gate = fingerprint
    at yields
  have present : fingerprint ≠ "" := by
    rw [← fingerprint_eq]
    exact fingerprint_ne_empty _
  have fingerprintStored : (row.set "input_fingerprint" (.string fingerprint)).get
      "input_fingerprint" .null = .string fingerprint := Row.get_set_self ..
  have waiverKept : boundTo (row.set "input_fingerprint" (.string fingerprint))
      "waiver" fingerprint = boundTo row "waiver" fingerprint :=
    boundTo_congr (Row.get_set_ne _ (by decide) _ _) fingerprint
  have decisionsKept : (row.set "input_fingerprint" (.string fingerprint)).get
      "decisions" (.array []) = row.get "decisions" (.array []) :=
    Row.get_set_ne _ (by decide) _ _
  rw [Meets, fingerprint_eq]
  generalize row.set "input_fingerprint" (.string fingerprint) = current
    at yields fingerprintStored waiverKept decisionsKept
  rw [← waiverKept]
  by_cases waived : boundTo current "waiver" fingerprint = true
  · rw [if_pos waived, Program.yields_pure] at yields
    subst yields
    have stateStored : (current.set "state" (.string GateState.waived.value)).get
        "state" .null = .string GateState.waived.value := Row.get_set_self ..
    have fingerprintKept : (current.set "state"
        (.string GateState.waived.value)).get "input_fingerprint" .null =
          .string fingerprint := by
      rw [Row.get_set_ne _ (by decide)]
      exact fingerprintStored
    have waiverSame : (current.set "state" (.string GateState.waived.value)).get
        "waiver" .null = current.get "waiver" .null :=
      Row.get_set_ne _ (by decide) _ _
    rw [rowSatisfied_of_state stateStored fingerprintKept present,
      boundTo_congr waiverSame]
    simp [waived]
  · rw [if_neg waived] at yields
    simp only [waived, Bool.false_eq_true, false_or]
    have unmet : ((gate.automaticCriteria.map (criterionResult py view runtime)).any
        fun result => !result.satisfied) = true ↔
          ¬ ∀ criterion ∈ gate.automaticCriteria,
            (criterionResult py view runtime criterion).satisfied = true := by
      simp
    by_cases met : ∀ criterion ∈ gate.automaticCriteria,
        (criterionResult py view runtime criterion).satisfied = true
    · rw [if_neg (fun failing => unmet.mp failing met)] at yields
      rw [and_iff_right met]
      cases human : gate.humanCriterion with
      | none =>
          simp only [human, Program.yields_bind, Program.yields_pure] at yields
          obtain ⟨stored, storing, _, _, same⟩ := yields
          subst same
          rw [(storeEvaluation_yields storing).rowSatisfied_iff (by decide)
            fingerprintStored present]
          simp
      | some criterion =>
          simp only [human, decisionsKept] at yields
          simp only [ne_eq, reduceCtorEq, not_false_eq_true, forall_const]
          unfold latestDecision
          cases iterated : iterate (row.get "decisions" (.array [])) with
          | none => simp [iterated] at yields
          | some decisions =>
              simp only [iterated, Program.yields_bind, Program.yields_pure]
                at yields
              obtain ⟨stored, storing, _, _, same⟩ := yields
              subst same
              have latest : (do
                  let latest ← (matchingDecisions decisions fingerprint).getLast?
                  some (py.text (Row.get latest "decision" (.string "")))) =
                (matchingDecisions decisions fingerprint).getLast?.map
                  fun decision => py.text (Row.get decision "decision" (.string "")) := by
                cases (matchingDecisions decisions fingerprint).getLast? <;> rfl
              simp only [Option.bind_eq_bind, Option.bind_some] at latest ⊢
              rw [latest]
              rcases @humanApprovalResult_cases py decisions fingerprint with
                ⟨approved, satisfied, decided⟩ | ⟨unapproved, unsatisfied⟩
              · rw [decided, satisfied] at storing
                rw [(storeEvaluation_yields storing).rowSatisfied_iff (by decide)
                  fingerprintStored present]
                simp [approved]
              · rw [unsatisfied] at storing
                simp only [unapproved, iff_false]
                cases awaiting : (humanApprovalResult py decisions
                    fingerprint).awaitingDecision with
                | true =>
                    rw [awaiting] at storing
                    rw [(storeEvaluation_yields storing).rowSatisfied_iff
                      (by decide) fingerprintStored present]
                    decide
                | false =>
                    rw [awaiting] at storing
                    rw [(storeEvaluation_yields storing).rowSatisfied_iff
                      (by decide) fingerprintStored present]
                    decide
    · rw [if_pos (unmet.mpr met)] at yields
      simp only [Program.yields_bind, Program.yields_pure] at yields
      obtain ⟨stored, storing, _, _, same⟩ := yields
      subst same
      rw [(storeEvaluation_yields storing).rowSatisfied_iff (by decide)
        fingerprintStored present]
      simp [met]

end Rows

/-! ## One Gate -/

section Evaluation

variable {py : Python} {view : TaskView}

theorem waitingRow_waiver :
    Row.get GateEvaluationService.waitingRow "waiver" .null = Row.get [] "waiver" .null :=
  rfl

theorem waitingRow_decisions :
    Row.get GateEvaluationService.waitingRow "decisions" (.array []) =
      Row.get [] "decisions" (.array []) :=
  rfl

/-- A new row has neither a waiver nor decisions. -/
theorem meets_getD_waitingRow {runtime : ProjectExecutionRuntimeState}
    {gate : ProjectGate} (found : Option Row) :
    Meets py view runtime (found.getD GateEvaluationService.waitingRow) gate ↔
      Meets py view runtime (found.getD []) gate := by
  cases found with
  | some row => rfl
  | none =>
      simp only [Meets, latestDecision, Option.getD_none, waitingRow_decisions,
        boundTo_congr waitingRow_waiver]

theorem Meets.congr {left right : ProjectExecutionRuntimeState} {gate : ProjectGate}
    (same : ∀ criterion ∈ gate.criteria, criterion.type = .projectGate →
      left.gateRow criterion.gateId = right.gateRow criterion.gateId) (row : Row) :
    Meets py view left row gate ↔ Meets py view right row gate := by
  have results : ∀ criterion ∈ gate.automaticCriteria,
      criterionResult py view left criterion =
        criterionResult py view right criterion := by
    intro criterion member
    apply criterionResult_congr
    exact same criterion (List.mem_filter.mp member).1
  have fingerprints : currentFingerprint py view left gate =
      currentFingerprint py view right gate := by
    rw [currentFingerprint, currentFingerprint, List.map_congr_left results]
  rw [Meets, Meets, fingerprints]
  apply or_congr Iff.rfl
  apply and_congr _ Iff.rfl
  apply forall₂_congr
  intro criterion member
  rw [results criterion member]

/-- An evaluation changes the row of its Gate and nothing else. -/
theorem evaluate_frame {answers : (effect : Effect) → Reply effect → Prop}
    {gate : ProjectGate} {before after : ProjectExecutionRuntimeState}
    (yields : (GateEvaluationService.evaluate py gate before).Yields answers after) :
    after = { before with gates := after.gates } ∧
      ∀ other, other ≠ gate.id →
        after.gates.get? other = before.gates.get? other := by
  have frame : ∀ row : Row,
      let kept := (GateEvaluationService.withRow before gate.id).setGate gate.id row
      kept = { before with gates := kept.gates } ∧ ∀ other, other ≠ gate.id →
        kept.gates.get? other = before.gates.get? other := by
    intro row
    refine ⟨rfl, ?_⟩
    intro other different
    simp only [ProjectExecutionRuntimeState.setGate, GateEvaluationService.withRow]
    rw [Dict.get?_set_ne _ different, Dict.get?_setDefault_ne _ different]
  unfold GateEvaluationService.evaluate at yields
  by_cases cancelled : gate.id ∈ before.cancelledGates
  · have cancelledStill :
        gate.id ∈ (GateEvaluationService.withRow before gate.id).cancelledGates :=
      cancelled
    simp only [cancelledStill, if_true, Program.yields_pure] at yields
    rw [← yields]
    exact frame _
  · have cancelledStill :
        gate.id ∉ (GateEvaluationService.withRow before gate.id).cancelledGates :=
      cancelled
    simp only [cancelledStill, if_false, Program.yields_bind, Program.yields_pure]
      at yields
    obtain ⟨row, _, same⟩ := yields
    rw [← same]
    exact frame row

theorem evaluate_yields {gate : ProjectGate}
    {before after : ProjectExecutionRuntimeState}
    (notItself : ∀ criterion ∈ gate.criteria, criterion.type = .projectGate →
      criterion.gateId ≠ gate.id)
    (yields : (GateEvaluationService.evaluate py gate before).Yields view.answers
      after) :
    gateSatisfied py after gate.id = true ↔ gate.id ∉ before.cancelledGates ∧
      Meets py view after (before.gateRow gate.id) gate := by
  unfold GateEvaluationService.evaluate at yields
  by_cases cancelled : gate.id ∈ before.cancelledGates
  · have cancelledStill :
        gate.id ∈ (GateEvaluationService.withRow before gate.id).cancelledGates :=
      cancelled
    simp only [cancelledStill, if_true, Program.yields_pure] at yields
    simp only [cancelled, not_true_eq_false, false_and, iff_false]
    rw [← yields, gateSatisfied, ProjectExecutionRuntimeState.gateRow_setGate_self,
      rowSatisfied_of_cancelled (Row.get_set_self ..)]
    exact Bool.false_ne_true
  · have cancelledStill :
        gate.id ∉ (GateEvaluationService.withRow before gate.id).cancelledGates :=
      cancelled
    simp only [cancelledStill, if_false, Program.yields_bind, Program.yields_pure]
      at yields
    simp only [cancelled, not_false_eq_true, true_and]
    obtain ⟨row, evaluated, same⟩ := yields
    rw [← same, gateSatisfied, ProjectExecutionRuntimeState.gateRow_setGate_self,
      evaluateRow_yields evaluated]
    have rowThere : (GateEvaluationService.withRow before gate.id).gateRow gate.id =
        (before.gates.get? gate.id).getD GateEvaluationService.waitingRow := by
      simp [ProjectExecutionRuntimeState.gateRow, GateEvaluationService.withRow]
    rw [rowThere, meets_getD_waitingRow]
    apply Meets.congr
    intro criterion member reference
    exact (ProjectExecutionRuntimeState.gateRow_setGate_ne _
      (notItself criterion member reference) _).symm

end Evaluation

/-! ## All Gates -/

section AllGates

variable {py : Python} {view : TaskView} {definition : ProjectExecutionDefinition}

/-- A criterion on a Gate names one. -/
theorem GateCriterion.Constructs.gateId_ne {criterion : GateCriterion}
    (constructs : criterion.Constructs py) (reference : criterion.type = .projectGate) :
    criterion.gateId ≠ "" := by
  obtain ⟨type, taskId, gateId, outcome, artifactId, constructed⟩ := constructs
  cases known : CriterionType.ofValue (py.lowerString (py.textOr type)) with
  | none =>
      rw [GateCriterion.new, known] at constructed
      exact absurd constructed (by simp)
  | some kind =>
      rw [GateCriterion.new, known] at constructed
      obtain ⟨_, _, rest⟩ := bind_eq_ok.mp constructed
      obtain ⟨_, _, rest⟩ := bind_eq_ok.mp rest
      obtain ⟨_, _, rest⟩ := bind_eq_ok.mp rest
      obtain ⟨_, rest⟩ := unit_bind_eq_ok.mp rest
      obtain ⟨gateFits, rest⟩ := unit_bind_eq_ok.mp rest
      obtain ⟨_, rest⟩ := unit_bind_eq_ok.mp rest
      obtain ⟨_, rest⟩ := unit_bind_eq_ok.mp rest
      obtain ⟨_, rest⟩ := unit_bind_eq_ok.mp rest
      cases rest
      simp only at reference
      rw [raiseIf_eq_ok, not_not, reference] at gateFits
      simpa using gateFits

theorem mem_gateRefs_of_reference (constructs : definition.Constructs py)
    {gate : ProjectGate} (member : gate ∈ definition.gates)
    {criterion : GateCriterion} (inGate : criterion ∈ gate.criteria)
    (reference : criterion.type = .projectGate) :
    criterion.gateId ∈ gate.gateRefs := by
  have criterionConstructs := (constructs.gates gate member).2.1 criterion inGate
  exact ProjectGate.mem_gateRefs.mpr
    ⟨criterionConstructs.gateId_ne reference, criterion, inGate, rfl⟩

/-- What has been established when the Gates in `front` are evaluated. -/
structure Evaluated (py : Python) (view : TaskView)
    (definition : ProjectExecutionDefinition)
    (before : ProjectExecutionRuntimeState) (front : List String)
    (runtime : ProjectExecutionRuntimeState) : Prop where
  frame : runtime = { before with gates := runtime.gates }
  waiting : ∀ gateId, gateId ∉ front →
    runtime.gates.get? gateId = before.gates.get? gateId
  settled : ∀ gate ∈ definition.gates, gate.id ∈ front →
    (gateSatisfied py runtime gate.id = true ↔
      gate.id ∉ before.cancelledGates ∧
        Meets py view runtime (before.gateRow gate.id) gate)

theorem gateRow_congr {left right : ProjectExecutionRuntimeState} {gateId : String}
    (same : left.gates.get? gateId = right.gates.get? gateId) :
    left.gateRow gateId = right.gateRow gateId := by
  rw [ProjectExecutionRuntimeState.gateRow, same,
    ProjectExecutionRuntimeState.gateRow]

/-- Evaluating one more Gate behind its references. -/
theorem Evaluated.step (constructs : definition.Constructs py)
    (valid : Validated definition)
    {before runtime after : ProjectExecutionRuntimeState} {front : List String}
    (evaluated : Evaluated py view definition before front runtime)
    {gate : ProjectGate} (member : gate ∈ definition.gates)
    (fresh : gate.id ∉ front)
    (closed : ∀ other ∈ definition.gates, other.id ∈ front →
      ∀ reference ∈ other.gateRefs, reference ∈ front)
    (yields : (GateEvaluationService.evaluate py gate runtime).Yields view.answers
      after) :
    Evaluated py view definition before (front ++ [gate.id]) after := by
  obtain ⟨frame, others⟩ := evaluate_frame yields
  have cancelled : runtime.cancelledGates = before.cancelledGates := by
    rw [evaluated.frame]
  have rowBefore : runtime.gateRow gate.id = before.gateRow gate.id :=
    gateRow_congr (evaluated.waiting gate.id fresh)
  have notItself : ∀ criterion ∈ gate.criteria, criterion.type = .projectGate →
      criterion.gateId ≠ gate.id := by
    intro criterion inGate reference
    exact (valid.gateGates gate member _
      (mem_gateRefs_of_reference constructs member inGate reference)).2
  constructor
  · rw [frame, evaluated.frame]
  · intro gateId outside
    rw [List.mem_append, List.mem_singleton, not_or] at outside
    rw [others gateId outside.2, evaluated.waiting gateId outside.1]
  · intro other otherMember listed
    by_cases same : other.id = gate.id
    · have sameGate : other = gate :=
        List.inj_on_of_nodup_map constructs.uniqueIds.gates otherMember member same
      rw [sameGate, evaluate_yields notItself yields, cancelled, rowBefore]
    · have inFront : other.id ∈ front := by
        rcases List.mem_append.mp listed with earlier | now
        · exact earlier
        · exact absurd (List.mem_singleton.mp now) same
      have satisfied : gateSatisfied py after other.id =
          gateSatisfied py runtime other.id := by
        rw [gateSatisfied, gateSatisfied, gateRow_congr (others other.id same)]
      rw [satisfied, evaluated.settled other otherMember inFront]
      apply and_congr_right
      intro _
      apply Meets.congr
      intro criterion inGate reference
      have referenced := closed other otherMember inFront criterion.gateId
        (mem_gateRefs_of_reference constructs otherMember inGate reference)
      have different : criterion.gateId ≠ gate.id := by
        intro equality
        rw [equality] at referenced
        exact fresh referenced
      exact (gateRow_congr (others criterion.gateId different)).symm

/-- The rule for an evaluation of all Gates: each is evaluated once, behind those
that it names. -/
theorem evaluateGates_induction (constructs : definition.Constructs py)
    {motive : List String → ProjectExecutionRuntimeState → Prop}
    {before after : ProjectExecutionRuntimeState} (start : motive [] before)
    (step : ∀ front runtime next, ∀ gate ∈ definition.gates, gate.id ∉ front →
      (∀ other ∈ definition.gates, other.id ∈ front →
        ∀ reference ∈ other.gateRefs, reference ∈ front) →
      motive front runtime →
      (GateEvaluationService.evaluate py gate runtime).Yields view.answers next →
        motive (front ++ [gate.id]) next)
    (yields : (evaluateGates py definition before).Yields view.answers after) :
    ∃ order, topologicalOrder (gateAdjacency definition)
        "ProjectGate dependency graph" = .ok order ∧
      Complete (gateAdjacency definition).get definition.gateIds order ∧
      motive order after := by
  simp only [evaluateGates, Program.yields_bind, yields_check] at yields
  obtain ⟨order, ordered, yields⟩ := yields
  have complete := topologicalOrder_complete ordered
  have roots : (gateAdjacency definition).map Prod.fst = definition.gateIds := by
    rw [gateAdjacency, List.map_map]
    rfl
  rw [roots] at complete
  refine ⟨order, ordered, complete, ?_⟩
  apply yields_topological ordered start _ yields
  intro front gateId runtime next fresh closed _ holds evaluated
  cases found : definition.findGate gateId with
  | none => simp [found] at evaluated
  | some gate =>
      obtain ⟨member, same⟩ := (ProjectExecutionDefinition.findGate_eq_some
        constructs.uniqueIds.gates).mp found
      subst same
      simp only [found] at evaluated
      apply step front runtime next gate member fresh _ holds evaluated
      intro other otherMember inFront reference named
      apply closed other.id inFront
      rw [gateAdjacency_get, (ProjectExecutionDefinition.findGate_eq_some
        constructs.uniqueIds.gates).mpr ⟨otherMember, rfl⟩]
      exact named

/-- After all Gates are evaluated each of them is settled. -/
theorem evaluateGates_yields (constructs : definition.Constructs py)
    (valid : Validated definition) {before after : ProjectExecutionRuntimeState}
    (yields : (evaluateGates py definition before).Yields view.answers after) :
    ∃ order, Complete (gateAdjacency definition).get definition.gateIds order ∧
      Evaluated py view definition before order after := by
  have start : Evaluated py view definition before [] before := by
    refine ⟨rfl, fun _ _ => rfl, ?_⟩
    intro gate _ listed
    cases listed
  obtain ⟨order, _, complete, evaluated⟩ := evaluateGates_induction constructs start
    (fun front runtime next gate member fresh closed evaluated step =>
      evaluated.step constructs valid member fresh closed step) yields
  exact ⟨order, complete, evaluated⟩

theorem humanCriterion_ne_none {gate : ProjectGate} :
    gate.humanCriterion ≠ none ↔
      ∃ criterion ∈ gate.criteria, criterion.type = .humanApproval := by
  rw [ne_eq, ProjectGate.humanCriterion, List.find?_eq_none]
  simp

/-- The automatic criteria are satisfied when Tasks and named Gates are. -/
theorem automatic_satisfied_iff {runtime : ProjectExecutionRuntimeState}
    {gate : ProjectGate} :
    (∀ criterion ∈ gate.automaticCriteria,
      (criterionResult py view runtime criterion).satisfied = true) ↔
      (∀ criterion ∈ gate.criteria, TaskCriterionHolds view criterion) ∧
        ∀ criterion ∈ gate.criteria, criterion.type = .projectGate →
          gateSatisfied py runtime criterion.gateId = true := by
  rw [← forall₂_and]
  constructor
  · intro satisfied criterion member
    by_cases human : criterion.type = .humanApproval
    · simp [TaskCriterionHolds, human]
    · apply (criterionResult_satisfied runtime human).mp
      apply satisfied criterion
      simp [ProjectGate.automaticCriteria, member, human]
  · intro holds criterion member
    have inAutomatic := List.mem_filter.mp member
    have automatic : criterion.type ≠ .humanApproval := by
      simpa using inAutomatic.2
    exact (criterionResult_satisfied runtime automatic).mpr
      (holds criterion inAutomatic.1)

/-- The two ways for a Gate to authorize. -/
theorem authorizes_iff (unique : definition.gateIds.Nodup)
    {before after : ProjectExecutionRuntimeState} {gate : ProjectGate}
    (member : gate ∈ definition.gates) :
    Authorizes py view definition before after gate.id ↔
      gate.id ∉ before.cancelledGates ∧
        (boundTo (before.gateRow gate.id) "waiver"
            (currentFingerprint py view after gate) = true ∨
          ((∀ criterion ∈ gate.criteria, TaskCriterionHolds view criterion) ∧
            ∀ criterion ∈ gate.criteria, criterion.type = .projectGate →
              Authorizes py view definition before after criterion.gateId) ∧
          ((∃ criterion ∈ gate.criteria, criterion.type = .humanApproval) →
            latestDecision py (before.gateRow gate.id)
              (currentFingerprint py view after gate) = some "approved")) := by
  constructor
  · intro authorizes
    generalize named : gate.id = gateId at authorizes
    cases authorizes with
    | waived otherMember active waived =>
        have same := List.inj_on_of_nodup_map unique member otherMember named
        subst same
        exact ⟨active, Or.inl waived⟩
    | met otherMember active tasks gates human =>
        have same := List.inj_on_of_nodup_map unique member otherMember named
        subst same
        exact ⟨active, Or.inr ⟨⟨tasks, gates⟩, human⟩⟩
  · rintro ⟨active, waived | ⟨⟨tasks, gates⟩, human⟩⟩
    · exact Authorizes.waived member active waived
    · exact Authorizes.met member active tasks gates human

/-- After an evaluation of all Gates, `gate_satisfied` answers whether a Gate
authorizes. -/
theorem gateSatisfied_iff_authorizes {taskExists : Option (String → Bool)}
    (constructs : definition.Constructs py)
    (valid : validateDefinition py definition taskExists = .ok ())
    {before after : ProjectExecutionRuntimeState}
    (evaluated : (evaluateGates py definition before).Yields view.answers after)
    {gate : ProjectGate} (member : gate ∈ definition.gates) :
    gateSatisfied py after gate.id = true ↔
      Authorizes py view definition before after gate.id := by
  have unique := constructs.uniqueIds
  have validated := ((validateDefinition_eq_ok unique.tasks).mp valid).1
  obtain ⟨order, complete, settled⟩ :=
    evaluateGates_yields constructs validated evaluated
  have step : ∀ gateId ∈ order, (∀ reference ∈ (gateAdjacency definition).get gateId,
        ∀ other ∈ definition.gates, other.id = reference →
          (gateSatisfied py after other.id = true ↔
            Authorizes py view definition before after other.id)) →
      ∀ gate ∈ definition.gates, gate.id = gateId →
        (gateSatisfied py after gate.id = true ↔
          Authorizes py view definition before after gate.id) := by
    rintro gateId listed references gate member rfl
    rw [settled.settled gate member listed, authorizes_iff unique.gates member,
      Meets, automatic_satisfied_iff, humanCriterion_ne_none]
    apply and_congr_right
    intro _
    apply or_congr Iff.rfl
    apply and_congr _ Iff.rfl
    apply and_congr Iff.rfl
    apply forall₂_congr
    intro criterion inGate
    apply imp_congr_right
    intro reference
    have named := mem_gateRefs_of_reference constructs member inGate reference
    obtain ⟨other, otherMember, same⟩ :=
      List.mem_map.mp (validated.gateGates gate member _ named).1
    have found := (ProjectExecutionDefinition.findGate_eq_some unique.gates).mpr
      ⟨member, rfl⟩
    have successor : criterion.gateId ∈ (gateAdjacency definition).get gate.id := by
      rw [gateAdjacency_get, found]
      exact named
    rw [← same]
    exact references criterion.gateId successor other otherMember same
  have listed := complete.listed gate.id (List.mem_map_of_mem member)
  exact complete.ordered.induction step gate.id listed gate member rfl

end AllGates

/-! ## An instance -/

/-- Both Tasks of the sample are completed and verified. -/
def completedView : TaskView where
  describe taskId := ⟨taskId, true, true, true, "completed", .completed⟩
  evidence taskId := ⟨taskId, .completed, "", "", ⟨"passed", 1, 0, 1⟩, [], []⟩

/-- The Gate of the sample is approved for the evidence of its completed Task. -/
def approvedRuntime : ProjectExecutionRuntimeState :=
  (ProjectExecutionRuntimeState.fresh "demo").setGate "review"
    [("state", .string "awaiting_decision"), ("decisions", .array
      [.object [("actor", .string "owner"), ("decision", .string "approved"),
        ("input_fingerprint", .string ("sha256:" ++
          "e522092be9684abe9ccc6f4b18a2bf271698fbebc580076004a5a4a630d508bf"))]])]

theorem sample_valid :
    validateDefinition asciiPython ProjectExecutionDefinition.sample none = .ok () := by
  decide +kernel

theorem sample_evaluated :
    ∃ after, (evaluateGates asciiPython ProjectExecutionDefinition.sample
        approvedRuntime).Yields completedView.answers after ∧
      gateSatisfied asciiPython after "review" = true := by
  have passes : ((evaluateGates asciiPython ProjectExecutionDefinition.sample
      approvedRuntime).execute completedView.replies).map
        (fun after => gateSatisfied asciiPython after "review") = .ok true := by
    decide +kernel
  cases executed : (evaluateGates asciiPython ProjectExecutionDefinition.sample
      approvedRuntime).execute completedView.replies with
  | error failure =>
      rw [executed] at passes
      cases passes
  | ok after =>
      rw [executed] at passes
      exact ⟨after, Program.yields_of_execute completedView.replies_answers executed,
        Except.ok.inj passes⟩

theorem sample_authorizes :
    ∃ after, (evaluateGates asciiPython ProjectExecutionDefinition.sample
        approvedRuntime).Yields completedView.answers after ∧
      gateSatisfied asciiPython after "review" = true ∧
      Authorizes asciiPython completedView ProjectExecutionDefinition.sample
        approvedRuntime after "review" := by
  obtain ⟨after, yields, satisfied⟩ := sample_evaluated
  have authorizes := gateSatisfied_iff_authorizes
    ProjectExecutionDefinition.sample_constructs sample_valid yields
    List.mem_cons_self
  exact ⟨after, yields, satisfied, authorizes.mp satisfied⟩

end Execraft.ProjectExecution
