import Execraft.Foundation.Checked
import Execraft.Foundation.Json.Canonical
import Execraft.Foundation.Text.Bytes
import Execraft.Foundation.Text.DateTime
import Execraft.ProjectExecution.Models
import Execraft.ProjectExecution.TaskPort

/-!
# Delivery value objects

Candidates, targets, results and operations.  Their fields are checked values, so
a record read from its own mapping form comes back as it was.
-/

namespace Execraft.ProjectExecution.Delivery

open Foundation Foundation.Json

/-- What delivery uses of the interpreter. -/
structure Interpreter extends Python where
  floats : FloatText
  /-- `datetime.fromisoformat` beyond the texts that `isoformat` prints. -/
  otherTimestamps : List Char → Option Text.DateTime

/-- A computation that may raise any exception. -/
abbrev Attempt := Except Failure

/-- `raise ProjectExecutionError(message)`. -/
def refuse {α : Type} (message : String) : Attempt α :=
  .error (.projectExecution (.error message))

/-- `raise ProjectExecutionConflictError(message)`. -/
def conflict {α : Type} (message : String) : Attempt α :=
  .error (.projectExecution (.conflict message))

def refuseIf (bad : Prop) [Decidable bad] (message : String) : Attempt Unit :=
  if bad then refuse message else .ok ()

@[simp]
theorem refuseIf_eq_ok {bad : Prop} [Decidable bad] {message : String}
    {result : Unit} : refuseIf bad message = .ok result ↔ ¬ bad := by
  unfold refuseIf
  split_ifs with holds
  · simp [holds, refuse]
  · simp [holds]

/-- A validator of Project Execution among other computations. -/
def attempt {α : Type} (outcome : Outcome α) : Attempt α :=
  outcome.mapError Failure.projectExecution

theorem attempt_eq_ok {α : Type} {outcome : Outcome α} {value : α} :
    attempt outcome = .ok value ↔ outcome = .ok value := by
  cases outcome with
  | error failure => simp [attempt, Except.mapError]
  | ok other => simp [attempt, Except.mapError]

variable (py : Interpreter)

/-! ## Checks -/

abbrev TextCheck := Check Json String Failure

/-- A validator of texts that settles. -/
def textCheck (validator : Json → Outcome String)
    (settled : ∀ raw text, validator raw = .ok text →
      validator (.string text) = .ok text) : TextCheck where
  run raw := attempt (validator raw)
  embed := .string
  settled raw text passed :=
    attempt_eq_ok.mpr (settled raw text (attempt_eq_ok.mp passed))

/-- `_identifier` and `validate_asset_id`. -/
def identifier (label : String) : TextCheck :=
  textCheck (validateAssetId py.toPython label)
    fun _ _ valid => validateAssetId_fixed valid label

/-- `validate_project_id`. -/
def projectIdentifier : TextCheck :=
  textCheck (validateProjectId py.toPython)
    fun _ _ valid => validateProjectId_fixed valid

/-- `_text`. -/
def text (label : String) (required : Bool) (limit : Nat) : TextCheck :=
  textCheck (boundedText py.toPython label required limit)
    fun _ _ valid => boundedText_fixed valid

/-- `_timestamp`. -/
def readTimestamp (label : String) (required : Bool) (value : Json) :
    Outcome String := do
  let text ← boundedText py.toPython label required MAX_TEXT_LENGTH value
  if text = "" then .ok ""
  else
    match Text.dateTimeFromIsoformat py.otherTimestamps text.toList with
    | none => raise (label ++ " must be an ISO-8601 timestamp")
    | some parsed =>
        if parsed.offset = none then
          raise (label ++ " must include a timezone offset")
        else .ok (String.ofList parsed.isoformat)

theorem length_dateTimeIsoformat (point : Text.DateTime) :
    point.isoformat.length ≤ MAX_TEXT_LENGTH := by
  have fraction : ∀ microsecond, (Text.fraction microsecond).length ≤ 7 := by
    intro microsecond
    unfold Text.fraction
    split_ifs
    · simp
    · simp [Text.length_fixedDigits]
  have time : ∀ time : Text.ClockTime, time.isoformat.length ≤ 15 := by
    intro time
    have bound := fraction time.microsecond
    simp only [Text.ClockTime.isoformat, Text.hoursMinutes, List.length_append,
      List.length_cons, Text.length_fixedDigits]
    omega
  have offset : ∀ offset : Text.Offset, offset.isoformat.length ≤ 16 := by
    intro offset
    have bound := time offset.size
    unfold Text.Offset.isoformat
    split_ifs <;>
      simp only [Text.hoursMinutes, List.length_append, List.length_cons,
        Text.length_fixedDigits] <;> omega
  have clock := time point.time
  have date := Text.length_dateIsoformat point.date
  cases shape : point.offset with
  | none =>
      simp only [Text.DateTime.isoformat, shape, List.length_append,
        List.length_cons, List.length_nil, date, MAX_TEXT_LENGTH]
      omega
  | some size =>
      have signed := offset size
      simp only [Text.DateTime.isoformat, shape, List.length_append,
        List.length_cons, date, MAX_TEXT_LENGTH]
      omega

theorem readTimestamp_settled {label : String} {required : Bool} {value : Json}
    {text : String} (valid : readTimestamp py label required value = .ok text) :
    readTimestamp py label required (.string text) = .ok text := by
  obtain ⟨raw, bounded, parsed⟩ := bind_eq_ok.mp valid
  split_ifs at parsed with empty
  · cases parsed
    have again := boundedText_fixed bounded
    rw [empty] at again
    exact bind_eq_ok.mpr ⟨"", again, rfl⟩
  · split at parsed
    · exact absurd parsed (by simp)
    · rename_i point read
      split_ifs at parsed with naive
      · exact absurd parsed (by simp)
      · cases parsed
        have stripped := Text.strip_of_stripped
          (Text.dateTime_isoformat_stripped point)
        have same : py.textOr (.string (String.ofList point.isoformat)) =
            String.ofList point.isoformat := by
          rw [Python.textOr_string, stripString, String.toList_ofList, stripped]
        have nonempty : String.ofList point.isoformat ≠ "" := by
          intro nothing
          have noCharacters := congrArg String.toList nothing
          rw [String.toList_ofList] at noCharacters
          exact Text.dateTime_isoformat_ne_nil point noCharacters
        have short := length_dateTimeIsoformat point
        have again : boundedText py.toPython label required MAX_TEXT_LENGTH
            (.string (String.ofList point.isoformat)) =
              .ok (String.ofList point.isoformat) := by
          rw [boundedText_eq_ok]
          exact ⟨same.symm, fun _ => nonempty, by
            rw [String.length_ofList]
            exact short⟩
        refine bind_eq_ok.mpr ⟨_, again, ?_⟩
        rw [if_neg nonempty, String.toList_ofList,
          Text.dateTimeFromIsoformat_isoformat]
        simp only [if_neg naive]

def timestamp (label : String) (required : Bool) : TextCheck :=
  textCheck (readTimestamp py label required)
    fun _ _ valid => readTimestamp_settled py valid

@[simp]
theorem identifier_embed (label text : String) :
    (identifier py label).embed text = .string text :=
  rfl

@[simp]
theorem projectIdentifier_embed (text : String) :
    (projectIdentifier py).embed text = .string text :=
  rfl

@[simp]
theorem text_embed (label : String) (required : Bool) (limit : Nat)
    (value : String) : (text py label required limit).embed value = .string value :=
  rfl

@[simp]
theorem timestamp_embed (label : String) (required : Bool) (text : String) :
    (timestamp py label required).embed text = .string text :=
  rfl

theorem identifier_run (label : String) (raw : Json) :
    (identifier py label).run raw = attempt (validateAssetId py.toPython label raw) :=
  rfl

attribute [irreducible] identifier projectIdentifier text timestamp

/-! ## Candidates -/

def DELIVERY_SCHEMA_VERSION : Int := 1
def MAX_REFERENCE_LENGTH : Nat := 4096

/-- `DeliveryCandidate._validate_baseline`. -/
def validateBaseline (baseline : List (String × Json)) : Attempt Unit := do
  let _ ← (timestamp py "candidate baseline achieved_at" true).run
    (getField "achieved_at" .null baseline)
  match py.toInt (getField "definition_revision" (.int 0) baseline) with
  | none => refuse "candidate baseline definition_revision must be an integer"
  | some revision =>
      refuseIf (revision < 1)
        "candidate baseline definition_revision must be positive"
  match getField "repositories" (.object []) baseline with
  | .object repositories => repositories.forM fun repository =>
      match repository.2 with
      | .string revision => do
          let _ ← (text py "candidate repository id" true 500).run
            (.string repository.1)
          let _ ← (text py "candidate repository revision" true 500).run
            (.string revision)
      | _ => refuse "candidate repository IDs/revisions must be strings"
  | _ => refuse "candidate baseline repositories must be a mapping"
  match getField "artifacts" (.array []) baseline with
  | .array artifacts => artifacts.forM fun artifact =>
      match artifact with
      | .string _ => do
          let _ ← (text py "candidate artifact" true MAX_REFERENCE_LENGTH).run artifact
      | _ => refuse "candidate baseline artifacts must contain strings"
  | _ => refuse "candidate baseline artifacts must be a list"
  match getField "delivery" (.object []) baseline with
  | .object delivery => do
      refuseIf (getField "policy" .null delivery ≠ .string "candidate")
        "candidate baseline must carry delivery.policy=candidate"
      refuseIf (∃ field ∈ delivery, field.1 ≠ "policy")
        "candidate baseline delivery metadata must remain provider-neutral"
  | _ => refuse "candidate baseline must carry delivery.policy=candidate"

/-- A baseline as a candidate holds it: it has a canonical text. -/
structure Baseline where
  fields : List (String × Json)
  canonical : Canonical py.floats.round (.object fields)
  valid : validateBaseline py fields = .ok ()

/-- `json.loads(baseline_json)` with the checks of the candidate. -/
def Baseline.read (baselineJson : String) : Attempt (Baseline py) :=
  match decoded : decode py.floats.round baselineJson.toList with
  | none => refuse "candidate baseline_json is invalid"
  | some (.object fields) =>
      match valid : validateBaseline py fields with
      | .error failure => .error failure
      | .ok () =>
          if isFinite : finite (.object fields) = true then
            .ok ⟨fields, rounded_decode py.floats decoded isFinite, valid⟩
          else refuse "candidate baseline must be JSON-serializable"
  | some _ => refuse "candidate baseline must be a mapping"

/-- `_canonical_json`. -/
def canonicalJson (label : String) (value : Json) : Attempt String :=
  match canonicalText value with
  | some text => .ok (String.ofList text)
  | none => refuse (label ++ " must be JSON-serializable")

/-- `_baseline_digest`. -/
def baselineDigestOf (baselineJson : String) : String :=
  "sha256:" ++ py.sha256 (Text.encodeUtf8 baselineJson.toList)

/-- `_candidate_id`. -/
def candidateIdOf (milestoneId baselineDigest : String) : String :=
  let identity := String.ofList
    ((py.sha256 (Text.encodeUtf8
      (milestoneId.toList ++ Char.ofNat 0 :: baselineDigest.toList))).toList.take 24)
  let shortened := (milestoneId.toList.take 68).reverse.dropWhile (· = '-')
  String.ofList shortened.reverse ++ "-" ++ identity

structure DeliveryCandidate where
  projectId : Checked (projectIdentifier py)
  milestoneId : Checked (identifier py "milestone id")
  baseline : Baseline py
  createdAt : Checked (timestamp py "candidate created_at" true)

namespace DeliveryCandidate

variable {py}

def baselineJson (candidate : DeliveryCandidate py) : String :=
  String.ofList (encode (.object candidate.baseline.fields))

def baselineDigest (candidate : DeliveryCandidate py) : String :=
  baselineDigestOf py candidate.baselineJson

def candidateId (candidate : DeliveryCandidate py) : String :=
  candidateIdOf py candidate.milestoneId.value candidate.baselineDigest

variable (py)

def new (candidateId projectId milestoneId baselineDigest baselineJson
    createdAt : String) (schemaVersion : Int) : Attempt (DeliveryCandidate py) := do
  refuseIf (schemaVersion ≠ DELIVERY_SCHEMA_VERSION)
    ("unsupported delivery candidate schema_version: " ++ toString schemaVersion)
  let projectId ← (projectIdentifier py).read (.string projectId)
  let milestoneId ← (identifier py "milestone id").read (.string milestoneId)
  let createdAt ← (timestamp py "candidate created_at" true).read (.string createdAt)
  let baseline ← Baseline.read py baselineJson
  let candidate : DeliveryCandidate py :=
    ⟨projectId, milestoneId, baseline, createdAt⟩
  refuseIf (baselineDigest ≠ "" ∧ baselineDigest ≠ candidate.baselineDigest)
    "candidate baseline digest does not match baseline"
  refuseIf (candidateId ≠ "" ∧ candidateId ≠ candidate.candidateId)
    "candidate id does not match baseline digest"
  .ok candidate

def fromBaseline (projectId milestoneId : String) (baseline : List (String × Json))
    (createdAt : String) : Attempt (DeliveryCandidate py) := do
  let canonical ← canonicalJson "Milestone baseline" (.object baseline)
  let digest := baselineDigestOf py canonical
  new py (candidateIdOf py milestoneId digest) projectId milestoneId digest
    canonical createdAt DELIVERY_SCHEMA_VERSION

variable {py}

def asMapping (candidate : DeliveryCandidate py) : List (String × Json) :=
  [("schema_version", .int DELIVERY_SCHEMA_VERSION),
    ("candidate_id", .string candidate.candidateId),
    ("project_id", .string candidate.projectId.value),
    ("milestone_id", .string candidate.milestoneId.value),
    ("baseline_digest", .string candidate.baselineDigest),
    ("created_at", .string candidate.createdAt.value),
    ("baseline", .object candidate.baseline.fields)]

variable (py)

/-- `int(value)`, whose exceptions are not the project's own. -/
def intOr (value : Json) : Attempt Int :=
  match py.toInt value with
  | some number => .ok number
  | none => .error (.other "int() argument is invalid")

def fromMapping : Json → Attempt (DeliveryCandidate py)
  | .object raw =>
      match getField "baseline" .null raw with
      | .object baseline => do
          let schemaVersion ← intOr py (getField "schema_version" (.int 0) raw)
          let baselineJson ← canonicalJson "candidate baseline" (.object baseline)
          new py (py.text (getField "candidate_id" (.string "") raw))
            (py.text (getField "project_id" (.string "") raw))
            (py.text (getField "milestone_id" (.string "") raw))
            (py.text (getField "baseline_digest" (.string "") raw))
            baselineJson (py.text (getField "created_at" (.string "") raw))
            schemaVersion
      | _ => refuse "delivery candidate baseline must be a mapping"
  | _ => refuse "delivery candidate must be a mapping"

end DeliveryCandidate

/-! ## Targets -/

structure DeliveryTarget where
  targetId : Checked (identifier py "delivery target id")
  label : Checked (text py "delivery target label" false 500)
  deriving DecidableEq

namespace DeliveryTarget

def new (targetId label : String) : Attempt (DeliveryTarget py) := do
  let targetId ← (identifier py "delivery target id").read (.string targetId)
  let label ← (text py "delivery target label" false 500).read (.string label)
  .ok ⟨targetId, label⟩

variable {py}

def asMapping (target : DeliveryTarget py) : List (String × Json) :=
  ("target_id", .string target.targetId.value) ::
    if target.label.value = "" then [] else [("label", .string target.label.value)]

variable (py)

def fromMapping : Json → Attempt (DeliveryTarget py)
  | .object raw =>
      new py (py.text (getField "target_id" (.string "") raw))
        (py.text (getField "label" (.string "") raw))
  | _ => refuse "delivery target must be a mapping"

end DeliveryTarget

/-! ## Results -/

inductive DeliveryOutcome where
  | succeeded
  | failed
  deriving DecidableEq, Repr

namespace DeliveryOutcome

def value : DeliveryOutcome → String
  | succeeded => "succeeded"
  | failed => "failed"

def ofValue (text : String) : Option DeliveryOutcome :=
  [succeeded, failed].find? fun outcome => text = outcome.value

@[simp]
theorem ofValue_value (outcome : DeliveryOutcome) :
    ofValue outcome.value = some outcome := by
  cases outcome <;> decide

end DeliveryOutcome

/-- `_references`. -/
def readReferences (raw : Json) : Outcome (List String) :=
  if raw = .null ∨ raw = .string "" then .ok []
  else
    match raw with
    | .array values => do
        let texts ← values.mapM
          (boundedText py.toPython "delivery reference" true MAX_REFERENCE_LENGTH)
        if texts.Nodup then .ok texts
        else raise "delivery references cannot contain duplicates"
    | _ => raise "delivery references must be a list"

theorem readReferences_settled {raw : Json} {texts : List String}
    (valid : readReferences py raw = .ok texts) :
    readReferences py (stringArray texts) = .ok texts := by
  unfold readReferences at valid
  split_ifs at valid with absent
  · cases valid
    rfl
  · split at valid
    · obtain ⟨result, mapped, checked⟩ := bind_eq_ok.mp valid
      split_ifs at checked with unique
      · cases checked
        have again := mapM_fixed (fun _ _ passed => boundedText_fixed passed) mapped
        have filled : ¬ (stringArray texts = .null ∨
            stringArray texts = .string "") := by
          simp [stringArray]
        unfold readReferences
        rw [if_neg filled]
        refine bind_eq_ok.mpr ⟨texts, again, ?_⟩
        rw [if_pos unique]
      · exact absurd checked (by simp)
    · exact absurd valid (by simp)

def references : Check Json (List String) Failure where
  run raw := attempt (readReferences py raw)
  embed := stringArray
  settled _ _ passed :=
    attempt_eq_ok.mpr (readReferences_settled py (attempt_eq_ok.mp passed))

@[simp]
theorem references_embed (texts : List String) :
    (references py).embed texts = stringArray texts :=
  rfl

attribute [irreducible] references

structure DeliveryResult where
  outcome : DeliveryOutcome
  references : Checked (references py)
  message : Checked (text py "delivery result message" false MAX_TEXT_LENGTH)
  deriving DecidableEq

namespace DeliveryResult

def new (outcome : String) (raw : Json) (message : String) :
    Attempt (DeliveryResult py) :=
  match DeliveryOutcome.ofValue outcome with
  | none => refuse "delivery outcome must be succeeded or failed"
  | some outcome => do
      let values ← (Delivery.references py).read raw
      let message ← (text py "delivery result message" false MAX_TEXT_LENGTH).read
        (.string message)
      .ok ⟨outcome, values, message⟩

variable {py}

def asMapping (result : DeliveryResult py) : List (String × Json) :=
  [("outcome", .string result.outcome.value),
    ("references", stringArray result.references.value),
    ("message", .string result.message.value)]

variable (py)

def fromMapping : Json → Attempt (DeliveryResult py)
  | .object raw => do
      let values ← (Delivery.references py).run (getField "references" .null raw)
      new py (py.text (getField "outcome" (.string "") raw)) (stringArray values)
        (py.text (getField "message" (.string "") raw))
  | _ => refuse "delivery result must be a mapping"

end DeliveryResult

/-! ## Operations -/

inductive DeliveryOperationState where
  | pending
  | succeeded
  | failed
  | uncertain
  deriving DecidableEq, Repr

namespace DeliveryOperationState

def value : DeliveryOperationState → String
  | pending => "pending"
  | succeeded => "succeeded"
  | failed => "failed"
  | uncertain => "uncertain"

def ofValue (text : String) : Option DeliveryOperationState :=
  [pending, succeeded, failed, uncertain].find? fun state => text = state.value

@[simp]
theorem ofValue_value (state : DeliveryOperationState) :
    ofValue state.value = some state := by
  cases state <;> decide

def terminal : DeliveryOperationState → Bool
  | succeeded => true
  | failed => true
  | _ => false

end DeliveryOperationState

variable {py} in
/-- The checks of `DeliveryOperation` that relate its state to its result. -/
def checkState (state : DeliveryOperationState) (completedAt : String)
    (result : Option (DeliveryResult py)) : Attempt Unit := do
  refuseIf (state = .succeeded ∧ result.map DeliveryResult.outcome ≠ some .succeeded)
    "succeeded delivery operation requires succeeded result"
  refuseIf (state = .failed ∧ result.map DeliveryResult.outcome ≠ some .failed)
    "failed delivery operation requires failed result"
  refuseIf (state.terminal = false ∧ result.isSome = true)
    "non-terminal delivery operation cannot contain terminal result"
  refuseIf (state.terminal = true ∧ completedAt = "")
    "terminal delivery operation requires completed_at"
  refuseIf (state.terminal = false ∧ completedAt ≠ "")
    "non-terminal delivery operation cannot contain completed_at"

structure DeliveryOperation where
  operationId : Checked (identifier py "delivery operation id")
  sequence : Int
  candidateId : Checked (identifier py "delivery candidate id")
  target : DeliveryTarget py
  providerId : Checked (identifier py "delivery provider id")
  state : DeliveryOperationState
  requestedAt : Checked (timestamp py "delivery requested_at" true)
  completedAt : Checked (timestamp py "delivery completed_at" false)
  result : Option (DeliveryResult py)
  diagnostic : Checked (text py "delivery diagnostic" false MAX_TEXT_LENGTH)
  positive : 1 ≤ sequence
  consistent : checkState state completedAt.value result = .ok ()
  deriving DecidableEq

namespace DeliveryOperation

def new (operationId : String) (sequence : Int) (candidateId : String)
    (target : DeliveryTarget py) (providerId state requestedAt completedAt : String)
    (result : Option (DeliveryResult py)) (diagnostic : String) :
    Attempt (DeliveryOperation py) := do
  let operationId ←
    (identifier py "delivery operation id").read (.string operationId)
  if positive : 1 ≤ sequence then
    let candidateId ←
      (identifier py "delivery candidate id").read (.string candidateId)
    let providerId ← (identifier py "delivery provider id").read (.string providerId)
    match DeliveryOperationState.ofValue state with
    | none => refuse "invalid delivery operation state"
    | some state => do
        let requestedAt ←
          (timestamp py "delivery requested_at" true).read (.string requestedAt)
        let completedAt ←
          (timestamp py "delivery completed_at" false).read (.string completedAt)
        let diagnostic ←
          (text py "delivery diagnostic" false MAX_TEXT_LENGTH).read
            (.string diagnostic)
        match consistent : checkState state completedAt.value result with
        | .error failure => .error failure
        | .ok () =>
            .ok ⟨operationId, sequence, candidateId, target, providerId, state,
              requestedAt, completedAt, result, diagnostic, positive, consistent⟩
  else refuse "delivery operation sequence must be positive"

variable {py}

/-- `(candidate_id, target_id, provider_id)`. -/
def key (operation : DeliveryOperation py) : String × String × String :=
  (operation.candidateId.value, operation.target.targetId.value,
    operation.providerId.value)

def asMapping (operation : DeliveryOperation py) : List (String × Json) :=
  [("operation_id", .string operation.operationId.value),
    ("sequence", .int operation.sequence),
    ("candidate_id", .string operation.candidateId.value),
    ("target", .object operation.target.asMapping),
    ("provider_id", .string operation.providerId.value),
    ("state", .string operation.state.value),
    ("requested_at", .string operation.requestedAt.value)] ++
    ((if operation.completedAt.value = "" then []
      else [("completed_at", .string operation.completedAt.value)]) ++
    ((match operation.result with
      | none => []
      | some result => [("result", .object result.asMapping)]) ++
    (if operation.diagnostic.value = "" then []
      else [("diagnostic", .string operation.diagnostic.value)])))

variable (py)

/-- `DeliveryResult.from_mapping(result) if result is not None else None`. -/
def readResult : Json → Attempt (Option (DeliveryResult py))
  | .null => .ok none
  | raw => (DeliveryResult.fromMapping py raw).map some

def fromMapping : Json → Attempt (DeliveryOperation py)
  | .object raw => do
      let sequence ← DeliveryCandidate.intOr py (getField "sequence" (.int 0) raw)
      let target ← DeliveryTarget.fromMapping py (getField "target" .null raw)
      let result ← readResult py (getField "result" .null raw)
      new py (py.text (getField "operation_id" (.string "") raw)) sequence
        (py.text (getField "candidate_id" (.string "") raw)) target
        (py.text (getField "provider_id" (.string "") raw))
        (py.text (getField "state" (.string "") raw))
        (py.text (getField "requested_at" (.string "") raw))
        (py.text (getField "completed_at" (.string "") raw)) result
        (py.text (getField "diagnostic" (.string "") raw))
  | _ => refuse "delivery operation must be a mapping"

end DeliveryOperation

end Execraft.ProjectExecution.Delivery
