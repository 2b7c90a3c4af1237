import Execraft.ProjectExecution.DefinitionRoundTrip
import Execraft.ProjectExecution.Delivery.Models

/-!
# Saving and reading delivery records

Every candidate and every operation is read from its mapping form as itself.
-/

namespace Execraft.ProjectExecution.Delivery

open Foundation Foundation.Json

variable {py : Interpreter}

@[simp]
theorem text_string (text : String) : py.text (.string text) = text :=
  rfl

/-! ## Reading checked fields -/

@[simp]
theorem read_identifier {label : String} (checked : Checked (identifier py label)) :
    (identifier py label).read (.string checked.value) = .ok checked := by
  rw [← identifier_embed]
  exact Check.read_embed checked

@[simp]
theorem read_projectIdentifier (checked : Checked (projectIdentifier py)) :
    (projectIdentifier py).read (.string checked.value) = .ok checked := by
  rw [← projectIdentifier_embed]
  exact Check.read_embed checked

@[simp]
theorem read_text {label : String} {required : Bool} {limit : Nat}
    (checked : Checked (text py label required limit)) :
    (text py label required limit).read (.string checked.value) = .ok checked := by
  rw [← text_embed]
  exact Check.read_embed checked

@[simp]
theorem read_timestamp {label : String} {required : Bool}
    (checked : Checked (timestamp py label required)) :
    (timestamp py label required).read (.string checked.value) = .ok checked := by
  rw [← timestamp_embed]
  exact Check.read_embed checked

@[simp]
theorem read_references (checked : Checked (references py)) :
    (references py).read (stringArray checked.value) = .ok checked := by
  rw [← references_embed]
  exact Check.read_embed checked

@[simp]
theorem run_references (checked : Checked (references py)) :
    (references py).run (stringArray checked.value) = .ok checked.value := by
  rw [← references_embed]
  exact checked.passes

/-! ## Targets and results -/

@[simp]
theorem DeliveryTarget.new_self (target : DeliveryTarget py) :
    DeliveryTarget.new py target.targetId.value target.label.value = .ok target := by
  simp only [DeliveryTarget.new, read_identifier, read_text, bind, Except.bind]

@[simp]
theorem DeliveryTarget.fromMapping_asMapping (target : DeliveryTarget py) :
    DeliveryTarget.fromMapping py (.object target.asMapping) = .ok target := by
  have label : py.text (getField "label" (.string "") target.asMapping) =
      target.label.value := by
    by_cases empty : target.label.value = ""
    · simp [DeliveryTarget.asMapping, empty]
    · simp [DeliveryTarget.asMapping, empty]
  have identifier : py.text (getField "target_id" (.string "") target.asMapping) =
      target.targetId.value := by
    simp [DeliveryTarget.asMapping]
  rw [DeliveryTarget.fromMapping, label, identifier, DeliveryTarget.new_self]

@[simp]
theorem DeliveryResult.fromMapping_asMapping (result : DeliveryResult py) :
    DeliveryResult.fromMapping py (.object result.asMapping) = .ok result := by
  simp [DeliveryResult.fromMapping, DeliveryResult.asMapping, DeliveryResult.new,
    bind, Except.bind]

/-! ## Candidates -/

theorem Baseline.read_self (baseline : Baseline py) :
    Baseline.read py (String.ofList (encode (.object baseline.fields))) =
      .ok baseline := by
  obtain ⟨fields, canonical, valid⟩ := baseline
  have decoded := decode_encode canonical
  unfold Baseline.read
  split
  · rename_i failed
    rw [String.toList_ofList, decoded] at failed
    cases failed
  · rename_i others read
    rw [String.toList_ofList, decoded] at read
    cases read
    split
    · rename_i failure failed
      rw [valid] at failed
      cases failed
    · rw [dif_pos canonical.finite]
  · rename_i notObject read
    rw [String.toList_ofList, decoded] at read
    cases read
    exact absurd rfl (notObject fields)

theorem canonicalJson_baseline (label : String) (baseline : Baseline py) :
    canonicalJson label (.object baseline.fields) =
      .ok (String.ofList (encode (.object baseline.fields))) := by
  rw [canonicalJson, baseline.canonical.canonicalText]

@[simp]
theorem DeliveryCandidate.fromMapping_asMapping (candidate : DeliveryCandidate py) :
    DeliveryCandidate.fromMapping py (.object candidate.asMapping) =
      .ok candidate := by
  have read := Baseline.read_self candidate.baseline
  have canonical := canonicalJson_baseline "candidate baseline" candidate.baseline
  simp [DeliveryCandidate.fromMapping, DeliveryCandidate.asMapping,
    DeliveryCandidate.new, DeliveryCandidate.intOr, Python.toInt, canonical, read,
    bind, Except.bind, refuseIf]

/-! ## Operations -/

/-- An operation under another sequence number. -/
def DeliveryOperation.withSequence (operation : DeliveryOperation py) (sequence : Int)
    (positive : 1 ≤ sequence) : DeliveryOperation py :=
  { operation with
    sequence := sequence
    positive := positive }

theorem DeliveryOperation.new_sequence (operation : DeliveryOperation py)
    {sequence : Int} (positive : 1 ≤ sequence) :
    DeliveryOperation.new py operation.operationId.value sequence
      operation.candidateId.value operation.target operation.providerId.value
      operation.state.value operation.requestedAt.value operation.completedAt.value
      operation.result operation.diagnostic.value =
        .ok (operation.withSequence sequence positive) := by
  obtain ⟨operationId, old, candidateId, target, providerId, state, requestedAt,
    completedAt, result, diagnostic, oldPositive, consistent⟩ := operation
  simp only [DeliveryOperation.new, read_identifier, read_timestamp, read_text,
    DeliveryOperationState.ofValue_value, dif_pos positive, bind, Except.bind]
  split
  · rename_i failure failed
    rw [consistent] at failed
    cases failed
  · rfl

theorem DeliveryOperation.new_self (operation : DeliveryOperation py) :
    DeliveryOperation.new py operation.operationId.value operation.sequence
      operation.candidateId.value operation.target operation.providerId.value
      operation.state.value operation.requestedAt.value operation.completedAt.value
      operation.result operation.diagnostic.value = .ok operation :=
  operation.new_sequence operation.positive

/-- The members behind the fixed ones. -/
theorem getField_asMapping (operation : DeliveryOperation py) (name : String)
    (default : Json)
    (other : name ∉ ["operation_id", "sequence", "candidate_id", "target",
      "provider_id", "state", "requested_at"]) :
    getField name default operation.asMapping =
      if name = "completed_at" ∧ operation.completedAt.value ≠ "" then
        .string operation.completedAt.value
      else if name = "diagnostic" ∧ operation.diagnostic.value ≠ "" then
        .string operation.diagnostic.value
      else
        match operation.result with
        | none => default
        | some result => if name = "result" then .object result.asMapping else default := by
  simp only [List.mem_cons, List.not_mem_nil, or_false, not_or] at other
  obtain ⟨one, two, three, four, five, six, seven⟩ := other
  cases shape : operation.result with
  | none =>
      simp only [DeliveryOperation.asMapping, shape, getField_append, getField_cons,
        getField_ite, getField_nil, Ne.symm one, Ne.symm two, Ne.symm three,
        Ne.symm four, Ne.symm five, Ne.symm six, Ne.symm seven, if_false]
      by_cases completed : operation.completedAt.value = "" <;>
        by_cases silent : operation.diagnostic.value = "" <;>
          grind
  | some result =>
      simp only [DeliveryOperation.asMapping, shape, getField_append, getField_cons,
        getField_ite, getField_nil, Ne.symm one, Ne.symm two, Ne.symm three,
        Ne.symm four, Ne.symm five, Ne.symm six, Ne.symm seven, if_false]
      by_cases completed : operation.completedAt.value = "" <;>
        by_cases silent : operation.diagnostic.value = "" <;>
          grind

theorem getField_completedAt (operation : DeliveryOperation py) :
    getField "completed_at" (.string "") operation.asMapping =
      .string operation.completedAt.value := by
  rw [getField_asMapping operation _ _ (by simp)]
  by_cases empty : operation.completedAt.value = ""
  · cases operation.result <;> simp [empty]
  · simp [empty]

theorem getField_diagnostic (operation : DeliveryOperation py) :
    getField "diagnostic" (.string "") operation.asMapping =
      .string operation.diagnostic.value := by
  rw [getField_asMapping operation _ _ (by simp)]
  by_cases empty : operation.diagnostic.value = ""
  · cases operation.result <;> simp [empty]
  · simp [empty]

theorem readResult_asMapping (operation : DeliveryOperation py) :
    DeliveryOperation.readResult py (getField "result" .null operation.asMapping) =
      .ok operation.result := by
  rw [getField_asMapping operation _ _ (by simp)]
  cases operation.result with
  | none => simp [DeliveryOperation.readResult]
  | some result => simp [DeliveryOperation.readResult, Except.map]

@[simp]
theorem DeliveryOperation.fromMapping_asMapping (operation : DeliveryOperation py) :
    DeliveryOperation.fromMapping py (.object operation.asMapping) =
      .ok operation := by
  have completedAt := getField_completedAt operation
  have diagnostic := getField_diagnostic operation
  have result := readResult_asMapping operation
  have sequence : getField "sequence" (.int 0) operation.asMapping =
      .int operation.sequence := by simp [asMapping]
  have target : getField "target" .null operation.asMapping =
      .object operation.target.asMapping := by simp [asMapping]
  have operationId : getField "operation_id" (.string "") operation.asMapping =
      .string operation.operationId.value := by simp [asMapping]
  have candidateId : getField "candidate_id" (.string "") operation.asMapping =
      .string operation.candidateId.value := by simp [asMapping]
  have providerId : getField "provider_id" (.string "") operation.asMapping =
      .string operation.providerId.value := by simp [asMapping]
  have state : getField "state" (.string "") operation.asMapping =
      .string operation.state.value := by simp [asMapping]
  have requestedAt : getField "requested_at" (.string "") operation.asMapping =
      .string operation.requestedAt.value := by simp [asMapping]
  have built := DeliveryOperation.new_self operation
  simp only [fromMapping, completedAt, diagnostic, result, sequence, target,
    operationId, candidateId, providerId, state, requestedAt, text_string,
    DeliveryTarget.fromMapping_asMapping, DeliveryCandidate.intOr, Python.toInt,
    built, bind, Except.bind]

end Execraft.ProjectExecution.Delivery
