import Execraft.Foundation.Json.Text
import Execraft.Foundation.Program
import Execraft.Foundation.Text.Bytes
import Execraft.Orchestrate.AgentSelection
import Mathlib.Data.Finset.SDiff

/-!
# Provider failover

`ProviderFailoverCoordinator`: which provider attempts a stage next.  Its strategy
looks adapters up; all other callbacks, the attempts and the contract health are
effects.  A callback that raises ends a stage as if it were cut off there.
-/

namespace Execraft.Orchestrate

open Foundation Foundation.Json Foundation.Text

/-! ## Data -/

/-- The characters in front of the first that does not fit into so many bytes. -/
def fittingCharacters : Nat → List Char → List Char
  | _, [] => []
  | limit, character :: rest =>
      if character.utf8Size ≤ limit then
        character :: fittingCharacters (limit - character.utf8Size) rest
      else []

/-- `truncate_utf8` with its default suffix. -/
def truncateUtf8 (py : Python) (value : Json) (maximumBytes : Nat) : String :=
  let text := if truthy value then py.text value else ""
  let suffix := "\n...[truncated]"
  if text.utf8ByteSize ≤ maximumBytes then text
  else if maximumBytes = 0 then ""
  else if maximumBytes ≤ suffix.utf8ByteSize then
    String.ofList (fittingCharacters maximumBytes text.toList)
  else
    String.ofList
      (fittingCharacters (maximumBytes - suffix.utf8ByteSize) text.toList) ++ suffix

/-- `_ATTEMPT_HISTORY_ERROR_MAX_BYTES`. -/
def attemptHistoryErrorMaxBytes : Nat :=
  2 * 1024

/-- `schema_sha256`. -/
def schemaSha256 (py : Python) (schema : Row) : String :=
  py.sha256 (encodeUtf8 (encode (sortKeys (.object schema))))

/-- The members of `StructuredHandoff` that the coordinator reads or replaces. -/
structure StructuredHandoff where
  handoffId : String
  attempt : Nat
  parentInvocationId : String
  triggeringEventId : String
  attemptHistory : List Row
  executionContext : Row
  expectedOutputSchema : Row
  readOnly : Bool
  requiredIsolation : String

/-- `for_attempt` with its fresh identifier. -/
def StructuredHandoff.forAttempt (handoff : StructuredHandoff) (handoffId : String)
    (attempt : Nat) (parentInvocationId : String) (attemptHistory : List Row) :
    StructuredHandoff :=
  { handoff with
    handoffId := handoffId
    attempt := max 1 attempt
    parentInvocationId := parentInvocationId
    attemptHistory := attemptHistory }

/-- `candidate_metadata`. -/
structure CandidateMetadata where
  adapter : String
  model : String
  executionCapabilities : Json

/-- The arguments of `execute_attempt`. -/
structure AttemptRequest where
  adapter : Option AgentSlot
  handoff : StructuredHandoff
  capability : AgentCapability
  packageId : String
  stage : String
  shardKey : String
  attemptNumber : Nat
  parentInvocationId : String
  triggeringEventId : String
  workspaceBeforeDigest : String
  renderedPrompt : String
  metadata : CandidateMetadata
  strictChecks : Bool
  requireStructuredOutput : Bool

/-- The members of `AgentAttemptResult` and of its invocation that are read. -/
structure AgentAttemptResult where
  success : Bool
  result : Option Row
  invocationId : String
  failure : Row
  handoffSha256 : String
  artifact : Option Row
  classification : String
  retryAfterSeconds : Json
  rawResult : Option Row
  /-- `contract_health.consecutive_failures`. -/
  consecutiveFailures : Option Nat

structure FailoverOutcome where
  result : Option Row
  attempts : List Row
  candidateId : String
  policyExcluded : Finset String

/-! ## Effects -/

inductive FailoverEffect where
  | eligibility (candidateId : String) (capability : AgentCapability)
      (policyExcluded : Finset String) (schemaHash : String) (readOnly : Bool)
      (requiredIsolation : String)
  | prepareAttempt
  | renderPrompt (handoff : StructuredHandoff)
  | buildRepairHandoff (handoff : StructuredHandoff)
      (source error session candidateId : String)
  | parentInvocationId
  | selectCandidate (capability : AgentCapability) (excluded : Finset String)
      (startAfterId preferenceRole : String)
  | healthExcludedIds
  | candidateEligible (candidateId : String) (capability : AgentCapability)
      (excluded : Finset String)
  | onProviderSkipped (candidateId : String) (payload : Row)
  | onRelaxed (policy candidateId : String) (policyExcluded : Finset String)
  | onTransition (eventType fromId toId : String)
  | executeAttempt (request : AttemptRequest)
  /-- The consecutive failures that the contract health store knows of. -/
  | contractFailures (candidateId model : String) (capability : AgentCapability)
      (schemaHash : String)
  /-- `uuid.uuid4().hex`. -/
  | hex

def FailoverReply : FailoverEffect → Type
  | .eligibility .. => Option Row
  | .prepareAttempt => String
  | .renderPrompt _ => String
  | .buildRepairHandoff .. => StructuredHandoff
  | .parentInvocationId => String
  | .selectCandidate .. => Option String
  | .healthExcludedIds => Finset String
  | .candidateEligible .. => String
  | .onProviderSkipped .. => Unit
  | .onRelaxed .. => Unit
  | .onTransition .. => Unit
  | .executeAttempt _ => AgentAttemptResult
  | .contractFailures .. => Nat
  | .hex => String

/-- The coordinator raises nothing itself. -/
abbrev FailoverAction := Program FailoverEffect FailoverReply Empty

namespace FailoverAction

def eligibility (candidateId : String) (capability : AgentCapability)
    (policyExcluded : Finset String) (schemaHash : String) (readOnly : Bool)
    (requiredIsolation : String) : FailoverAction (Option Row) :=
  Program.request (FailoverEffect.eligibility candidateId capability policyExcluded
    schemaHash readOnly requiredIsolation)

def prepareAttempt : FailoverAction String :=
  Program.request FailoverEffect.prepareAttempt

def renderPrompt (handoff : StructuredHandoff) : FailoverAction String :=
  Program.request (FailoverEffect.renderPrompt handoff)

def buildRepairHandoff (handoff : StructuredHandoff)
    (source error session candidateId : String) : FailoverAction StructuredHandoff :=
  Program.request
    (FailoverEffect.buildRepairHandoff handoff source error session candidateId)

def parentInvocationId : FailoverAction String :=
  Program.request FailoverEffect.parentInvocationId

def selectCandidate (capability : AgentCapability) (excluded : Finset String)
    (startAfterId preferenceRole : String) : FailoverAction (Option String) :=
  Program.request
    (FailoverEffect.selectCandidate capability excluded startAfterId preferenceRole)

def healthExcludedIds : FailoverAction (Finset String) :=
  Program.request FailoverEffect.healthExcludedIds

def candidateEligible (candidateId : String) (capability : AgentCapability)
    (excluded : Finset String) : FailoverAction String :=
  Program.request (FailoverEffect.candidateEligible candidateId capability excluded)

def onProviderSkipped (candidateId : String) (payload : Row) : FailoverAction Unit :=
  Program.request (FailoverEffect.onProviderSkipped candidateId payload)

def onRelaxed (policy candidateId : String) (policyExcluded : Finset String) :
    FailoverAction Unit :=
  Program.request (FailoverEffect.onRelaxed policy candidateId policyExcluded)

def onTransition (eventType fromId toId : String) : FailoverAction Unit :=
  Program.request (FailoverEffect.onTransition eventType fromId toId)

def executeAttempt (request : AttemptRequest) : FailoverAction AgentAttemptResult :=
  Program.request (FailoverEffect.executeAttempt request)

def contractFailures (candidateId model : String) (capability : AgentCapability)
    (schemaHash : String) : FailoverAction Nat :=
  Program.request
    (FailoverEffect.contractFailures candidateId model capability schemaHash)

def hex : FailoverAction String :=
  Program.request FailoverEffect.hex

end FailoverAction

/-! ## The coordinator -/

/-- The lookups of the strategy and the settings of the coordinator. -/
structure ProviderFailoverCoordinator where
  adapter : String → Option AgentSlot
  metadata : String → CandidateMetadata
  maxAttemptsPerStage : Int
  strictChecks : Bool
  requireStructuredOutput : Bool

/-- The arguments of `execute_with_failover`. -/
structure FailoverRequest where
  handoff : StructuredHandoff
  capability : AgentCapability
  packageId : String
  stage : String
  shardKey : String
  candidateId : String
  policyExcluded : Finset String
  relaxationTiers : List (String × Finset String)
  orderedFallbacks : List String
  preferenceRole : String

/-- `format_repair_source`, `format_repair_error` and `format_repair_session`. -/
structure FormatRepair where
  source : String := ""
  error : String := ""
  session : String := ""

namespace ProviderFailoverCoordinator

/-- The variables of the loop. -/
structure Progress where
  candidateId : String
  tried : Finset String := ∅
  attempts : List Row := []
  executionAttempts : Nat := 0
  formatRetryAllowance : Nat := 0
  repair : FormatRepair := {}
  policyExcluded : Finset String
  relaxationTiers : List (String × Finset String)

section Coordinator

variable (py : Python) (coordinator : ProviderFailoverCoordinator)
  (request : FailoverRequest)

def maxAttempts : Nat :=
  (max 1 coordinator.maxAttemptsPerStage).toNat

/-- The identifier under which the adapter of a candidate runs, if there is one. -/
def canonicalId (candidateId : String) : String :=
  ((coordinator.adapter candidateId).map AgentSlot.candidateId).getD candidateId

def contractSchemaHash : String :=
  if request.handoff.expectedOutputSchema ≠ [] then
    schemaSha256 py request.handoff.expectedOutputSchema
  else ""

/-- `_first_eligible_fallback`. -/
def firstEligibleFallback (capability : AgentCapability)
    (nextExcluded : Finset String) : List String → FailoverAction String
  | [] => pure ""
  | fallbackId :: rest =>
      if fallbackId ∈ nextExcluded then
        firstEligibleFallback capability nextExcluded rest
      else
        match coordinator.adapter fallbackId with
        | none => firstEligibleFallback capability nextExcluded rest
        | some slot =>
            if capability ∉ slot.capabilities then
              firstEligibleFallback capability nextExcluded rest
            else do
              let reason ← FailoverAction.candidateEligible fallbackId capability ∅
              if reason ≠ "" then firstEligibleFallback capability nextExcluded rest
              else pure fallbackId

/-- `select_candidate(...) or ""`. -/
def select (excluded : Finset String) (startAfterId : String) :
    FailoverAction String := do
  let selected ← FailoverAction.selectCandidate request.capability excluded
    startAfterId request.preferenceRole
  pure (selected.getD "")

/-- The candidate that is found, with the exclusions in force and the tiers left. -/
structure Found where
  nextId : String
  policyExcluded : Finset String
  relaxationTiers : List (String × Finset String)

/-- Pop tiers until a candidate is found. -/
def relaxTiers (tried : Finset String) (candidateId : String) :
    Finset String → List (String × Finset String) → FailoverAction Found
  | policyExcluded, [] => pure ⟨"", policyExcluded, []⟩
  | policyExcluded, tier :: rest => do
      let newlyAllowed := policyExcluded \ tier.2
      let unhealthy ← FailoverAction.healthExcludedIds
      let nextId ← select request ((tried \ newlyAllowed) ∪ tier.2 ∪ unhealthy)
        candidateId
      if nextId ≠ "" then do
        let _ ← FailoverAction.onRelaxed tier.1 nextId tier.2
        pure ⟨nextId, tier.2, rest⟩
      else relaxTiers tried candidateId tier.2 rest

/-- `found or search()`. -/
def orSearch (found : String) (search : FailoverAction String) :
    FailoverAction String :=
  if found ≠ "" then pure found else search

/-- Look for the next candidate: the same one, a fallback, a selected one, or one
that a tier allows. -/
def nextCandidate (progress : Progress) (retrySameCandidate : Bool) :
    FailoverAction Found := do
  let unhealthy ← FailoverAction.healthExcludedIds
  let nextExcluded := progress.tried ∪ progress.policyExcluded ∪ unhealthy
  let same := if retrySameCandidate then progress.candidateId else ""
  let fallback ← orSearch same (firstEligibleFallback coordinator request.capability
    nextExcluded request.orderedFallbacks)
  let nextId ← orSearch fallback (select request nextExcluded progress.candidateId)
  if nextId ≠ "" then
    pure ⟨nextId, progress.policyExcluded, progress.relaxationTiers⟩
  else
    relaxTiers request progress.tried progress.candidateId progress.policyExcluded
      progress.relaxationTiers

def announceTransition (fromId toId : String) : FailoverAction Unit :=
  if toId ≠ "" then
    FailoverAction.onTransition
      (if toId = fromId then "agent_contract_retry" else "agent_failover") fromId toId
  else pure ()

/-- What stands behind an attempt in the loop. -/
def advance (progress : Progress) (retrySameCandidate : Bool) :
    FailoverAction Progress := do
  let found ← nextCandidate coordinator request progress retrySameCandidate
  let _ ← announceTransition progress.candidateId found.nextId
  pure { progress with
    candidateId := found.nextId
    repair := if retrySameCandidate then progress.repair else {}
    policyExcluded := found.policyExcluded
    relaxationTiers := found.relaxationTiers }

/-- The row of a skipped candidate. -/
def skippedRow (candidateId : String) (payload : Row) : Row :=
  [("agent_id", .string candidateId),
    ("error", .string (py.text (payload.get "error" (.string "")))),
    ("classification", .string (py.text (payload.get "classification" (.string "")))),
    ("retry_after_seconds", payload.get "retry_after_seconds" .null)]

/-- The row of a failed attempt. -/
def failedRow (candidateId parentInvocationId model : String)
    (attempted : AgentAttemptResult) : Row :=
  [("invocation_id", .string attempted.invocationId),
    ("parent_invocation_id", .string parentInvocationId),
    ("agent_id", .string candidateId), ("model", .string model),
    ("error", .string (truncateUtf8 py (attempted.failure.get "error" (.string ""))
      attemptHistoryErrorMaxBytes)),
    ("classification", .string attempted.classification),
    ("retry_after_seconds", attempted.retryAfterSeconds),
    ("artifact", .object (attempted.artifact.getD [])),
    ("handoff_sha256", .string attempted.handoffSha256)]

/-- The text for a repair, when the invalid answer had one. -/
def repairOf (attempted : AgentAttemptResult) (otherwise : FormatRepair) :
    FormatRepair :=
  match attempted.rawResult with
  | none => otherwise
  | some raw =>
      match raw.get "final_message" .null with
      | .string message =>
          if stripString message ≠ "" then
            { source := stripString message
              error := py.text (attempted.failure.get "error" (.string ""))
              session := py.textOr (raw.get "session_id" (.string "")) }
          else otherwise
      | _ => otherwise

/-- The handoff of a repair, if there is something to repair. -/
def repairHandoff (progress : Progress) (handoff : StructuredHandoff) :
    FailoverAction StructuredHandoff :=
  if progress.repair.source ≠ "" then
    FailoverAction.buildRepairHandoff handoff progress.repair.source
      progress.repair.error progress.repair.session progress.candidateId
  else pure handoff

/-- The handoff of an attempt. -/
def attemptHandoff (progress : Progress) (parentInvocationId : String)
    (metadata : CandidateMetadata) : FailoverAction StructuredHandoff := do
  let handoffId ← FailoverAction.hex
  let handoff ← repairHandoff progress (request.handoff.forAttempt handoffId
    progress.executionAttempts parentInvocationId progress.attempts)
  pure { handoff with
    executionContext := handoff.executionContext.set "selected_provider" (.object
      [("agent_id", .string progress.candidateId),
        ("adapter", .string metadata.adapter), ("model", .string metadata.model),
        ("execution_capabilities", metadata.executionCapabilities)]) }

/-- The consecutive failures behind an invalid answer. -/
def consecutiveFailures (progress : Progress) (model : String)
    (attempted : AgentAttemptResult) : FailoverAction Nat :=
  match attempted.consecutiveFailures with
  | some failures => pure failures
  | none => FailoverAction.contractFailures progress.candidateId model
      request.capability (contractSchemaHash py request)

/-- May the candidate repair its invalid answer? -/
def retriesSame (progress : Progress) (model : String)
    (attempted : AgentAttemptResult) : FailoverAction Bool :=
  if attempted.classification = "invalid_output" ∧
      contractSchemaHash py request ≠ "" then do
    let failures ← consecutiveFailures py request progress model attempted
    pure (decide (failures = 1 ∧
      progress.executionAttempts < maxAttempts coordinator + 1))
  else pure false

/-- How a pass through the loop ends. -/
inductive Turn where
  | finished (outcome : FailoverOutcome)
  | continued (progress : Progress)

/-- One execution of the current candidate, which has been counted. -/
def execute (progress : Progress) (slot : Option AgentSlot) : FailoverAction Turn := do
  let metadata := coordinator.metadata progress.candidateId
  let parentInvocationId ← FailoverAction.parentInvocationId
  let handoff ← attemptHandoff request progress parentInvocationId metadata
  let renderedPrompt ← FailoverAction.renderPrompt handoff
  let workspaceBeforeDigest ← FailoverAction.prepareAttempt
  let attempted ← FailoverAction.executeAttempt
    { adapter := slot
      handoff := handoff
      capability := request.capability
      packageId := request.packageId
      stage := request.stage
      shardKey := request.shardKey
      attemptNumber := progress.executionAttempts
      parentInvocationId := parentInvocationId
      triggeringEventId := handoff.triggeringEventId
      workspaceBeforeDigest := workspaceBeforeDigest
      renderedPrompt := renderedPrompt
      metadata := metadata
      strictChecks := coordinator.strictChecks
      requireStructuredOutput := coordinator.requireStructuredOutput }
  if attempted.success then
    pure (.finished ⟨attempted.result, progress.attempts, progress.candidateId,
      progress.policyExcluded⟩)
  else do
    let used : FormatRepair :=
      if progress.repair.source ≠ "" then {} else progress.repair
    let retrySame ← retriesSame py coordinator request progress metadata.model attempted
    let next ← advance coordinator request
      { progress with
        attempts := progress.attempts ++
          [failedRow py progress.candidateId parentInvocationId metadata.model attempted]
        formatRetryAllowance :=
          if retrySame then 1 else progress.formatRetryAllowance
        repair := if retrySame then repairOf py attempted used else used }
      retrySame
    pure (.continued next)

/-- One pass through the loop. -/
def turn (progress : Progress) : FailoverAction Turn := do
  let slot := coordinator.adapter progress.candidateId
  let candidateId := canonicalId coordinator progress.candidateId
  let progress := { progress with
    candidateId := candidateId
    tried := insert candidateId progress.tried }
  let ineligible ← FailoverAction.eligibility candidateId request.capability
    progress.policyExcluded (contractSchemaHash py request)
    request.handoff.readOnly request.handoff.requiredIsolation
  match ineligible with
  | some payload => do
      let _ ← FailoverAction.onProviderSkipped candidateId payload
      let next ← advance coordinator request
        { progress with attempts := progress.attempts ++ [skippedRow py candidateId payload] }
        false
      pure (.continued next)
  | none =>
      execute py coordinator request
        { progress with executionAttempts := progress.executionAttempts + 1 } slot

/-- The loop; without a result when it takes more than `fuel` passes. -/
def loop : Nat → Progress → FailoverAction (Option FailoverOutcome)
  | 0, _ => pure none
  | fuel + 1, progress =>
      if progress.candidateId ≠ "" ∧ progress.executionAttempts <
          maxAttempts coordinator + progress.formatRetryAllowance then do
        let ended ← turn py coordinator request progress
        match ended with
        | .finished outcome => pure (some outcome)
        | .continued next => loop fuel next
      else
        pure (some ⟨none, progress.attempts, progress.candidateId,
          progress.policyExcluded⟩)

/-- `execute_with_failover`. -/
def executeWithFailover (fuel : Nat) : FailoverAction (Option FailoverOutcome) :=
  loop py coordinator request fuel
    { candidateId := request.candidateId
      policyExcluded := request.policyExcluded
      relaxationTiers := request.relaxationTiers }

end Coordinator

end ProviderFailoverCoordinator

end Execraft.Orchestrate
