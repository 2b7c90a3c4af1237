import Execraft.Foundation.Dict
import Execraft.ProjectExecution.Delivery.Models

/-!
# The delivery repository

Candidates and operations of one Project in one file, and the locked calls that
read and rewrite it.
-/

namespace Execraft.ProjectExecution.Delivery

open Foundation Foundation.Json

variable (py : Interpreter)

def DELIVERY_RUNTIME_SCHEMA_VERSION : Int := 1

def conflictIf (bad : Prop) [Decidable bad] (message : String) : Attempt Unit :=
  if bad then conflict message else .ok ()

@[simp]
theorem conflictIf_eq_ok {bad : Prop} [Decidable bad] {message : String}
    {result : Unit} : conflictIf bad message = .ok result ↔ ¬ bad := by
  unfold conflictIf
  split_ifs with holds
  · simp [holds, conflict]
  · simp [holds]

/-! ## The state -/

structure DeliveryRuntimeState where
  projectId : Checked (projectIdentifier py)
  candidates : Dict Row
  operations : Dict Row
  nextSequence : Int
  positive : 1 ≤ nextSequence

namespace DeliveryRuntimeState

def new (projectId : String) (candidates operations : Dict Row) (nextSequence : Int)
    (schemaVersion : Int) : Attempt (DeliveryRuntimeState py) := do
  let projectId ← (projectIdentifier py).read (.string projectId)
  refuseIf (schemaVersion ≠ DELIVERY_RUNTIME_SCHEMA_VERSION)
    ("unsupported delivery runtime schema_version: " ++ toString schemaVersion)
  if positive : 1 ≤ nextSequence then
    .ok ⟨projectId, candidates, operations, nextSequence, positive⟩
  else refuse "delivery next_sequence must be positive"

/-- A dictionary of rows as a document. -/
def rows (dict : Dict Row) : Json :=
  .object (dict.entries.map fun entry => (entry.1, .object entry.2))

variable {py} in
def asMapping (state : DeliveryRuntimeState py) : List (String × Json) :=
  [("schema_version", .int DELIVERY_RUNTIME_SCHEMA_VERSION),
    ("project_id", .string state.projectId.value),
    ("next_sequence", .int state.nextSequence),
    ("candidates", rows state.candidates),
    ("operations", rows state.operations)]

/-- `raw.get(name) or {}`. -/
def recordsField (name : String) (raw : List (String × Json)) : Json :=
  let value := getField name .null raw
  if truthy value then value else .object []

/-- The records of a mapping, all of which are mappings. -/
def recordsOf (fields : List (String × Json)) : Option (List (String × Row)) :=
  fields.mapM fun field =>
    match field.2 with
    | .object row => some (field.1, row)
    | _ => none

def fromMapping : Json → Attempt (DeliveryRuntimeState py)
  | .object raw =>
      match recordsField "candidates" raw, recordsField "operations" raw with
      | .object candidates, .object operations =>
          match recordsOf candidates, recordsOf operations with
          | some candidates, some operations => do
              let schemaVersion ←
                DeliveryCandidate.intOr py (getField "schema_version" (.int 0) raw)
              let nextSequence ←
                DeliveryCandidate.intOr py (getField "next_sequence" (.int 1) raw)
              new py (py.text (getField "project_id" (.string "") raw))
                (Dict.ofItems candidates) (Dict.ofItems operations) nextSequence
                schemaVersion
          | _, _ =>
              refuse ("delivery runtime contains non-mapping " ++
                "candidate/operation records")
      | _, _ => refuse "delivery runtime candidates/operations must be mappings"
  | _ => refuse "delivery runtime state must be a mapping"

end DeliveryRuntimeState

/-! ## Reading the file -/

/-- The repository of one Project. -/
structure DeliveryRepository where
  projectId : Checked (projectIdentifier py)

/-- The document in `delivery.json`, if the file exists. -/
abbrev DeliveryFile := Option Json

namespace DeliveryRepository

variable {py}
variable (repository : DeliveryRepository py)

/-- `TypeError` and `ValueError` become the project's own error. -/
def readable {α : Type} : Attempt α → Attempt α
  | .error (.other message) =>
      refuse ("cannot read delivery runtime state: " ++ message)
  | result => result

variable (py) in
def checkCandidate (entry : String × Row) : Attempt Unit := do
  let candidate ← DeliveryCandidate.fromMapping py (.object entry.2)
  refuseIf (entry.1 ≠ candidate.candidateId)
    "delivery candidate storage key does not match identity"

variable (py) in
/-- Check an operation record and go on with the greatest sequence number. -/
def checkOperation (maximum : Int) (entry : String × Row) : Attempt Int := do
  let operation ← DeliveryOperation.fromMapping py (.object entry.2)
  refuseIf (entry.1 ≠ operation.operationId.value)
    "delivery operation storage key does not match identity"
  .ok (max maximum operation.sequence)

/-- `_load_unlocked`. -/
def loadUnlocked : DeliveryFile → Attempt (DeliveryRuntimeState py)
  | none =>
      DeliveryRuntimeState.new py repository.projectId.value Dict.empty Dict.empty 1
        DELIVERY_RUNTIME_SCHEMA_VERSION
  | some raw => do
      let state ← readable (DeliveryRuntimeState.fromMapping py raw)
      refuseIf (state.projectId ≠ repository.projectId)
        "delivery runtime project identity does not match storage path"
      forM state.candidates.entries (checkCandidate py)
      let maximumSequence ← state.operations.entries.foldlM (checkOperation py) 0
      refuseIf (state.nextSequence ≤ maximumSequence)
        "delivery next_sequence must exceed persisted operations"
      .ok state

/-- `_write_unlocked`. -/
def written (state : DeliveryRuntimeState py) : DeliveryFile :=
  some (.object state.asMapping)

def getCandidate (file : DeliveryFile) (candidateId : String) :
    Attempt (Option (DeliveryCandidate py)) := do
  let state ← repository.loadUnlocked file
  match state.candidates.get? candidateId with
  | none => .ok none
  | some row => (DeliveryCandidate.fromMapping py (.object row)).map some

def getOperation (file : DeliveryFile) (operationId : String) :
    Attempt (Option (DeliveryOperation py)) := do
  let state ← repository.loadUnlocked file
  match state.operations.get? operationId with
  | none => .ok none
  | some row => (DeliveryOperation.fromMapping py (.object row)).map some

/-- `operations`, in the order of their sequence numbers. -/
def operations (file : DeliveryFile) : Attempt (List (DeliveryOperation py)) := do
  let state ← repository.loadUnlocked file
  let rows ← state.operations.entries.mapM fun entry =>
    DeliveryOperation.fromMapping py (.object entry.2)
  .ok (rows.mergeSort fun first second => first.sequence ≤ second.sequence)

def latestOperation (file : DeliveryFile) (key : String × String × String) :
    Attempt (Option (DeliveryOperation py)) := do
  let operations ← repository.operations file
  .ok (operations.filter fun operation => operation.key = key).getLast?

/-! ## Rewriting the file -/

/-- The stored candidate and whether the call created it, with the new file. -/
def recordCandidate (file : DeliveryFile) (candidate : DeliveryCandidate py) :
    Attempt ((DeliveryCandidate py × Bool) × DeliveryFile) := do
  refuseIf (candidate.projectId ≠ repository.projectId)
    "delivery candidate project identity does not match repository"
  let state ← repository.loadUnlocked file
  match state.candidates.get? candidate.candidateId with
  | some existing => do
      let persisted ← DeliveryCandidate.fromMapping py (.object existing)
      conflictIf (persisted.projectId ≠ candidate.projectId ∨
          persisted.milestoneId ≠ candidate.milestoneId ∨
          persisted.baselineDigest ≠ candidate.baselineDigest ∨
          persisted.baselineJson ≠ candidate.baselineJson)
        ("delivery candidate identity collision: " ++ candidate.candidateId)
      .ok ((persisted, false), file)
  | none =>
      .ok ((candidate, true), written
        { state with
          candidates := state.candidates.set candidate.candidateId
            candidate.asMapping })

/-- No unresolved operation has the key of a new one. -/
def checkUnresolved (operation : DeliveryOperation py) (entry : String × Row) :
    Attempt Unit := do
  let existing ← DeliveryOperation.fromMapping py (.object entry.2)
  conflictIf (existing.key = operation.key ∧ existing.state.terminal = false)
    ("delivery already has an unresolved operation for candidate " ++
      operation.candidateId.value ++ ", target " ++
      operation.target.targetId.value)

/-- The operation with its durable sequence number, with the new file. -/
def beginOperation (file : DeliveryFile) (operation : DeliveryOperation py) :
    Attempt (DeliveryOperation py × DeliveryFile) := do
  refuseIf (operation.state ≠ .pending) "new delivery operation must begin pending"
  let state ← repository.loadUnlocked file
  conflictIf (state.operations.get? operation.operationId.value ≠ none)
    ("delivery operation already exists: " ++ operation.operationId.value)
  refuseIf (state.candidates.get? operation.candidateId.value = none)
    ("delivery candidate not found: " ++ operation.candidateId.value)
  forM state.operations.entries (checkUnresolved operation)
  let persisted ← DeliveryOperation.new py operation.operationId.value
    state.nextSequence operation.candidateId.value operation.target
    operation.providerId.value operation.state.value operation.requestedAt.value
    operation.completedAt.value operation.result operation.diagnostic.value
  .ok (persisted, written
    { state with
      nextSequence := state.nextSequence + 1
      operations := state.operations.set persisted.operationId.value
        persisted.asMapping
      positive := Int.le_add_one state.positive })

/-- The states that may follow a state. -/
def allowed : DeliveryOperationState → List DeliveryOperationState
  | .pending => [.pending, .uncertain, .succeeded, .failed]
  | .uncertain => [.uncertain, .succeeded, .failed]
  | .succeeded => [.succeeded]
  | .failed => [.failed]

def updateOperation (file : DeliveryFile) (operation : DeliveryOperation py) :
    Attempt (DeliveryOperation py × DeliveryFile) := do
  let state ← repository.loadUnlocked file
  match state.operations.get? operation.operationId.value with
  | none => refuse ("delivery operation not found: " ++ operation.operationId.value)
  | some row => do
      let current ← DeliveryOperation.fromMapping py (.object row)
      refuseIf (current.key ≠ operation.key ∨ current.sequence ≠ operation.sequence)
        "delivery operation identity cannot change"
      conflictIf (current.state.terminal = true ∧
          current.asMapping ≠ operation.asMapping)
        ("terminal delivery operation is immutable: " ++ operation.operationId.value)
      conflictIf (operation.state ∉ allowed current.state)
        ("invalid delivery operation transition: " ++ current.state.value ++ " -> " ++
          operation.state.value)
      .ok (operation, written
        { state with
          operations := state.operations.set operation.operationId.value
            operation.asMapping })

end DeliveryRepository

end Execraft.ProjectExecution.Delivery
