import Execraft.Foundation.Interleaving
import Execraft.ProjectExecution.Delivery.History

/-!
# The delivery service

`DeliveryService.deliver` and `reconcile` as programs over the locked calls of the
repository and the calls of the provider, and the world that answers them.
-/

namespace Execraft.ProjectExecution.Delivery

open Foundation Foundation.Json

variable (py : Interpreter)

/-! ## Effects -/

/-- One idempotency-keyed request passed to a provider. -/
structure DeliveryRequest where
  operationId : Checked (identifier py "delivery operation id")
  candidate : DeliveryCandidate py
  target : DeliveryTarget py

/-- `(candidate_id, target_id, provider_id)`. -/
abbrev DeliveryKey := String × String × String

inductive DeliveryEffect where
  | getCandidate (candidateId : String)
  | getOperation (operationId : String)
  | latestOperation (key : DeliveryKey)
  | beginOperation (operation : DeliveryOperation py)
  | updateOperation (operation : DeliveryOperation py)
  /-- `provider.deliver(request)`. -/
  | deliver (providerId : String) (request : DeliveryRequest py)
  /-- `provider.reconcile(request)`. -/
  | reconcile (providerId : String) (request : DeliveryRequest py)
  | append (eventType : String) (data : Row)
  /-- `_now()`. -/
  | now
  /-- `uuid.uuid4().hex[:16]`. -/
  | hex

variable {py} in
/-- What an effect is answered with; a provider may raise. -/
def DeliveryReply : DeliveryEffect py → Type
  | .getCandidate _ => Attempt (Option (DeliveryCandidate py))
  | .getOperation _ => Attempt (Option (DeliveryOperation py))
  | .latestOperation _ => Attempt (Option (DeliveryOperation py))
  | .beginOperation _ => Attempt (DeliveryOperation py)
  | .updateOperation _ => Attempt (DeliveryOperation py)
  | .deliver _ _ => Except String (DeliveryResult py)
  | .reconcile _ _ => Except String (Option (DeliveryResult py))
  | .append _ _ => Unit
  | .now => String
  | .hex => String

abbrev DeliveryAction := Program (DeliveryEffect py) DeliveryReply Failure

namespace DeliveryAction

variable {py}

def getCandidate (candidateId : String) :
    DeliveryAction py (Attempt (Option (DeliveryCandidate py))) :=
  Program.request (DeliveryEffect.getCandidate candidateId)

def getOperation (operationId : String) :
    DeliveryAction py (Attempt (Option (DeliveryOperation py))) :=
  Program.request (DeliveryEffect.getOperation operationId)

def latestOperation (key : DeliveryKey) :
    DeliveryAction py (Attempt (Option (DeliveryOperation py))) :=
  Program.request (DeliveryEffect.latestOperation key)

def beginOperation (operation : DeliveryOperation py) :
    DeliveryAction py (Attempt (DeliveryOperation py)) :=
  Program.request (DeliveryEffect.beginOperation operation)

def updateOperation (operation : DeliveryOperation py) :
    DeliveryAction py (Attempt (DeliveryOperation py)) :=
  Program.request (DeliveryEffect.updateOperation operation)

def deliver (providerId : String) (request : DeliveryRequest py) :
    DeliveryAction py (Except String (DeliveryResult py)) :=
  Program.request (DeliveryEffect.deliver providerId request)

def reconcile (providerId : String) (request : DeliveryRequest py) :
    DeliveryAction py (Except String (Option (DeliveryResult py))) :=
  Program.request (DeliveryEffect.reconcile providerId request)

def append (eventType : String) (data : Row) : DeliveryAction py Unit :=
  Program.request (DeliveryEffect.append eventType data)

def now : DeliveryAction py String :=
  Program.request DeliveryEffect.now

def hex : DeliveryAction py String :=
  Program.request DeliveryEffect.hex

end DeliveryAction

namespace DeliveryService

open DeliveryAction Program

variable {py}

/-! ## The service -/

variable (py) in
/-- `_operation_id`. -/
def operationId (candidateId suffix : String) :
    Attempt (Checked (identifier py "delivery operation id")) :=
  let shortened := (candidateId.toList.take 60).reverse.dropWhile (· = '-')
  (identifier py "delivery operation id").read
    (.string (String.ofList shortened.reverse ++ "-delivery-" ++ suffix))

/-- `_candidate`. -/
def candidate (candidateId : String) : DeliveryAction py (DeliveryCandidate py) := do
  let found ← getCandidate candidateId
  match found with
  | .error failure => .raise failure
  | .ok none =>
      ofOutcome (refuse ("delivery candidate not found: " ++ candidateId))
  | .ok (some candidate) => pure candidate

/-- `_operation`. -/
def operation (id : String) : DeliveryAction py (DeliveryOperation py) := do
  let found ← getOperation id
  match found with
  | .error failure => .raise failure
  | .ok none => ofOutcome (refuse ("delivery operation not found: " ++ id))
  | .ok (some operation) => pure operation

/-- The members that all events of an operation have. -/
def eventData (operation : DeliveryOperation py) : Row :=
  [("operation_id", .string operation.operationId.value),
    ("candidate_id", .string operation.candidateId.value),
    ("target_id", .string operation.target.targetId.value),
    ("provider_id", .string operation.providerId.value)]

/-- `_mark_uncertain`. -/
def markUncertain (operation : DeliveryOperation py) (diagnostic : String) :
    DeliveryAction py (DeliveryOperation py) := do
  let replaced ← ofOutcome (DeliveryOperation.new py operation.operationId.value
    operation.sequence operation.candidateId.value operation.target
    operation.providerId.value DeliveryOperationState.uncertain.value
    operation.requestedAt.value operation.completedAt.value operation.result diagnostic)
  let updated ← updateOperation replaced
  let uncertain ← ofOutcome updated
  if operation.state ≠ .uncertain then
    DeliveryAction.append "project_delivery_uncertain" (eventData uncertain)
    pure uncertain
  else pure uncertain

/-- `_resolve`. -/
def resolve (operation : DeliveryOperation py) (result : DeliveryResult py) :
    DeliveryAction py (DeliveryOperation py) := do
  let state := match result.outcome with
    | .succeeded => DeliveryOperationState.succeeded
    | .failed => DeliveryOperationState.failed
  let completedAt ← now
  let replaced ← ofOutcome (DeliveryOperation.new py operation.operationId.value
    operation.sequence operation.candidateId.value operation.target
    operation.providerId.value state.value operation.requestedAt.value completedAt
    (some result) "")
  let updated ← updateOperation replaced
  let resolved ← ofOutcome updated
  DeliveryAction.append
    (if state = .succeeded then "project_delivery_succeeded"
      else "project_delivery_failed")
    (eventData resolved ++
      [("references", stringArray result.references.value),
        ("message", .string result.message.value)])
  pure resolved

/-- The provider's answer to a reconciliation. -/
def settle (operation : DeliveryOperation py) :
    Except String (Option (DeliveryResult py)) → DeliveryAction py (DeliveryOperation py)
  | .error diagnostic => markUncertain operation diagnostic
  | .ok none =>
      markUncertain operation "provider could not establish external outcome"
  | .ok (some result) => resolve operation result

/-- `reconcile`. -/
def reconcile (id provider : String) : DeliveryAction py (DeliveryOperation py) := do
  let operation ← operation id
  if operation.state.terminal = true then pure operation
  else
    let providerId ←
      ofOutcome ((identifier py "delivery provider id").run (.string provider))
    if providerId ≠ operation.providerId.value then
      ofOutcome (refuse
        "delivery operation must be reconciled by its original provider")
    else
      let candidate ← candidate operation.candidateId.value
      let answer ← DeliveryAction.reconcile providerId
        ⟨operation.operationId, candidate, operation.target⟩
      settle operation answer

/-- `DeliveryUncertainError`. -/
def uncertainError (operation : DeliveryOperation py) : Failure :=
  .projectExecution (.error ("delivery provider outcome is uncertain; reconcile " ++
    "the existing operation before retrying: " ++ operation.operationId.value))

/-- The external delivery of a begun operation. -/
def deliverBegun (providerId : String) (candidate : DeliveryCandidate py)
    (target : DeliveryTarget py) (operation : DeliveryOperation py) :
    DeliveryAction py (DeliveryOperation py) := do
  DeliveryAction.append "project_delivery_started"
    [("operation_id", .string operation.operationId.value),
      ("candidate_id", .string candidate.candidateId),
      ("milestone_id", .string candidate.milestoneId.value),
      ("target_id", .string target.targetId.value),
      ("provider_id", .string providerId)]
  let answer ← deliver providerId ⟨operation.operationId, candidate, target⟩
  match answer with
  | .error diagnostic => do
      let uncertain ← markUncertain operation diagnostic
      .raise (uncertainError uncertain)
  | .ok result => resolve operation result

/-- What follows the attempt to begin; a conflict returns the latest operation. -/
def afterBegin (candidate : DeliveryCandidate py) (target : DeliveryTarget py)
    (providerId : String) (key : DeliveryKey) :
    Attempt (DeliveryOperation py) → DeliveryAction py (DeliveryOperation py)
  | .ok operation => deliverBegun providerId candidate target operation
  | .error (.projectExecution (.conflict message)) => do
      let latest ← latestOperation key
      let concurrent ← ofOutcome latest
      match concurrent with
      | none => .raise (.projectExecution (.conflict message))
      | some operation => pure operation
  | .error failure => .raise failure

/-- The intent and the delivery of a new operation. -/
def attemptDelivery (candidate : DeliveryCandidate py) (target : DeliveryTarget py)
    (providerId : String) (key : DeliveryKey) :
    DeliveryAction py (DeliveryOperation py) := do
  let requestedAt ← now
  let suffix ← hex
  let id ← ofOutcome (operationId py candidate.candidateId suffix)
  let pending ← ofOutcome (DeliveryOperation.new py id.value 1 candidate.candidateId
    target providerId DeliveryOperationState.pending.value requestedAt "" none "")
  let begun ← beginOperation pending
  afterBegin candidate target providerId key begun

/-- The decision about the latest operation. -/
def afterLatest (provider : String) (candidate : DeliveryCandidate py)
    (target : DeliveryTarget py) (providerId : String) (key : DeliveryKey)
    (retryFailed : Bool) :
    Option (DeliveryOperation py) → DeliveryAction py (DeliveryOperation py)
  | none => attemptDelivery candidate target providerId key
  | some latest =>
      match latest.state with
      | .succeeded => pure latest
      | .pending => reconcile latest.operationId.value provider
      | .uncertain => reconcile latest.operationId.value provider
      | .failed =>
          if retryFailed = true then
            attemptDelivery candidate target providerId key
          else pure latest

/-- `deliver`. -/
def deliver (candidateId : String) (target : DeliveryTarget py) (provider : String)
    (retryFailed : Bool) : DeliveryAction py (DeliveryOperation py) := do
  let candidate ← candidate candidateId
  let providerId ←
    ofOutcome ((identifier py "delivery provider id").run (.string provider))
  let key := (candidateId, target.targetId.value, providerId)
  let latest ← latestOperation key
  let latest ← ofOutcome latest
  afterLatest provider candidate target providerId key retryFailed latest

end DeliveryService

/-! ## The world -/

/-- The delivery file and the keys of the external deliveries so far. -/
structure DeliveryWorld where
  file : DeliveryFile
  delivered : List DeliveryKey

variable {py}

/-- The key of a request to a provider. -/
def DeliveryRequest.key (request : DeliveryRequest py) (providerId : String) :
    DeliveryKey :=
  (request.candidate.candidateId, request.target.targetId.value, providerId)

/-- How the repository and the surroundings answer an effect. -/
def DeliveryStep (repository : DeliveryRepository py) (world : DeliveryWorld) :
    (effect : DeliveryEffect py) → DeliveryReply effect → DeliveryWorld → Prop
  | .getCandidate candidateId, reply, after =>
      reply = repository.getCandidate world.file candidateId ∧ after = world
  | .getOperation operationId, reply, after =>
      reply = repository.getOperation world.file operationId ∧ after = world
  | .latestOperation key, reply, after =>
      reply = repository.latestOperation world.file key ∧ after = world
  | .beginOperation operation, reply, after =>
      reply = (repository.beginOperation world.file operation).map Prod.fst ∧
        after =
          { world with
            file := fileAfter world.file
              (repository.beginOperation world.file operation) }
  | .updateOperation operation, reply, after =>
      reply = (repository.updateOperation world.file operation).map Prod.fst ∧
        after =
          { world with
            file := fileAfter world.file
              (repository.updateOperation world.file operation) }
  | .deliver providerId request, _, after =>
      after = { world with delivered := request.key providerId :: world.delivered }
  | _, _, after => after = world

end Execraft.ProjectExecution.Delivery
