import Execraft.Orchestrate.Decomposition

/-!
# The stages of a package

One handler for each stage, what a package does before its stage is handled, and the
loop that handles one stage after the other.
-/

namespace Execraft.Orchestrate

open Foundation Foundation.Json

inductive StageDisposition where
  | proceed
  | stop
  deriving DecidableEq, Repr

section Handlers

variable (host : Host)

def decomposeStage : StageProgram StageDisposition := do
  runDecomposition host
  let package ← currentPackage
  return if package.runtime.decompositionStatus = "expanded" then .stop else .proceed

/-- The upstream must not have moved on too far. -/
def enforceRepositorySyncDivergenceCheck : StageProgram Unit := do
  let package ← currentPackage
  let moment ← observe host
  match moment.divergence with
  | .clear => pure ()
  | .unavailable required =>
      whenever (package.kind ≠ .repositorySync ∧ package.affectedRepositories ≠ [] ∧
        required = true) (escalate host)
  | .behind =>
      whenever (package.kind ≠ .repositorySync ∧ package.affectedRepositories ≠ [])
        (escalate host)

def prepareStage : StageProgram StageDisposition := do
  enforceRepositorySyncDivergenceCheck host
  validateCleanStart host
  advancePackageStage host .implement
  return .proceed

/-- Assign agents to a package without an implementer. -/
def assignAgents : StageProgram Unit := do
  let package ← currentPackage
  if package.runtime.agentId = "" then
    let schedule ← scheduleAgents host
    assignSchedule schedule

def implementStage : StageProgram StageDisposition := do
  assignAgents host
  let package ← currentPackage
  let result ← callAgent host .implement false package.runtime.agentId [] []
  applyImplementationResult host result
  advancePackageStage host .fastVerify
  return .proceed

def verificationStage (nextStage : WorkPackageStage) : StageProgram StageDisposition := do
  let passed ← runVerification host
  if passed = false then
    return .stop
  else
    advancePackageStage host nextStage
    return .proceed

def addFinding (findings : List String) (finding : String) : List String :=
  if finding ∈ findings then findings else findings ++ [finding]

/-- What a shard that only reviews leaves in its parent. -/
def mergeReviewShard (shard : WorkPackage) (verdict summary : String)
    (findings : List String) (parent : WorkPackage) : WorkPackage :=
  { parent with
    acceptanceCriteria := parent.acceptanceCriteria.map fun criterion =>
      match shard.acceptanceCriteria.reverse.find? fun child => child.id = criterion.id with
      | some child =>
          { criterion with
            evidence :=
              if child.evidence = "" then
                "Review shard " ++ shard.id ++ " verdict=" ++ verdict ++ ": " ++ summary
              else
                child.evidence }
      | none => criterion
    runtime := { parent.runtime with
      reviewFindings :=
        (findings.map fun finding => "[" ++ shard.id ++ "] " ++ finding).foldl addFinding
          parent.runtime.reviewFindings
      implementationSummary :=
        if summary = "" then
          parent.runtime.implementationSummary
        else
          String.intercalate "\n" (named [stripString parent.runtime.implementationSummary,
            shard.id ++ ": " ++ summary]) } }

/-- A shard that only reviews is finished; its parent gets the findings. -/
def completeReviewShard (verdict : String) (findings : List String)
    (result : AgentResult) : StageProgram Unit := do
  let package ← currentPackage
  let summary := stripString result.payload.summary
  changeRecord fun record =>
    if package.parentId = "" then
      record
    else
      { record with
        planGraph := record.planGraph.modify package.parentId
          (mergeReviewShard package verdict summary findings) }
  changeRuntime fun runtime => { runtime with implementationSummary := summary }
  markPackageCompleted

/-- After an approval: the final review, if there is someone for it. -/
def finishReview (schedule : AgentSchedule) : StageProgram StageDisposition := do
  changeRuntime (keepFindings [])
  advancePackageStage host
    (if schedule.finalReviewerId ≠ "" then .finalReview else .readyToCommit)
  return .proceed

def reviewStage : StageProgram StageDisposition := do
  let schedule ← ensureReviewAssignments host
  let package ← currentPackage
  let result ← callAgent host .review true schedule.reviewerId
    (named [schedule.implementerId]) (primaryReviewFallbackTiers host.config package)
  let review ← reviewResult host result
  if package.executionMode = "review_shard" then
    completeReviewShard review.1 review.2 result
    return .stop
  else
    let reassigned ← ensureReviewAssignments host
    if review.1 = "changes_required" then
      queueReviewFixes host review.2
      return .proceed
    else
      finishReview host reassigned

/-- The identities under which a rescue campaign lists its findings. -/
def indexedFindingIds (findings : List String) : List String :=
  (List.range findings.length).map fun index =>
    "RF-" ++ String.ofList (List.replicate (3 - (toString (index + 1)).length) '0') ++
      toString (index + 1)

/-- The answer to a rescue campaign must resolve exactly its findings. -/
def requireResolvedFindings (rescue : Bool) (findings : List String)
    (result : AgentResult) : StageProgram Unit :=
  let expected := indexedFindingIds findings
  if rescue = true ∧ ¬(result.payload.resolvedFindingIds ⊆ expected ∧
      expected ⊆ result.payload.resolvedFindingIds) then
    Stateful.raise (.failed ⟨"validated review-recovery finding-ID invariant escaped the " ++
      "invocation boundary"⟩)
  else
    pure ()

def fixReviewStage : StageProgram StageDisposition := do
  let _ ← ensureReviewAssignments host
  let fixer ← selectFixer host
  let package ← currentPackage
  let result ← callAgent host .fixReview false fixer.agentId fixer.excludedAgentIds
    fixer.fallbackTiers
  requireResolvedFindings (rescueActive package) package.runtime.reviewFindings result
  applyImplementationResult host result
  advancePackageStage host .regressionVerify
  return .proceed

def finalReviewStage : StageProgram StageDisposition := do
  let schedule ← ensureReviewAssignments host
  let package ← currentPackage
  let reviewerId :=
    if schedule.finalReviewerId ≠ "" then schedule.finalReviewerId else schedule.reviewerId
  let result ← callAgent host .review true reviewerId
    (named [schedule.implementerId, schedule.reviewerId, package.runtime.lastFixerId])
    (finalReviewFallbackTiers host.config package schedule)
  let review ← reviewResult host result
  if review.1 = "changes_required" then
    queueReviewFixes host review.2
    return .stop
  else
    changeRuntime (keepFindings [])
    advancePackageStage host .readyToCommit
    return .proceed

/-- The commit of a package according to its kind. -/
def finalizePackage : StageProgram Unit := do
  let package ← currentPackage
  if package.kind = .repositorySync then
    finalizeRepositorySyncPackage host
  else if package.executionMode = "aggregate" then
    finalizeAggregatePackage host
  else
    finalizeStandardPackage host

def readyToCommitStage : StageProgram StageDisposition := do
  let package ← currentPackage
  whenever (package.kind = .repositorySync) (prepareRepositorySyncAcceptanceEvidence host)
  validateAcceptanceEvidence host
  finalizePackage host
  return .stop

/-- The handler of a stage; two stages have none. -/
def handlerOfStage : WorkPackageStage → Option (StageProgram StageDisposition)
  | .decompose => some (decomposeStage host)
  | .prepare => some (prepareStage host)
  | .implement => some (implementStage host)
  | .fastVerify => some (verificationStage host .review)
  | .review => some (reviewStage host)
  | .fixReview => some (fixReviewStage host)
  | .regressionVerify => some (verificationStage host .finalReview)
  | .finalReview => some (finalReviewStage host)
  | .readyToCommit => some (readyToCommitStage host)
  | .targetedVerify | .fullVerify | .completed => none

/-! ## Before the stages -/

/-- The preparation of a synchronization. -/
def prepareRepositorySync : StageProgram Unit := do
  let first ← observe host
  whenever (first.syncTransaction = none) (validateCleanStart host)
  let package ← currentPackage
  let moment ← observe host
  match moment.syncPrepare with
  | .error _ => escalate host
  | .ok preparation =>
      changePackage fun package =>
        { package with
          lastImplementation :=
            [("status", .string "repository_sync_prepared"),
              ("transaction_id", .string preparation.transactionId)] }
      if preparation.needsResolution = false then
        advancePackageStage host .fastVerify
      else if package.repositorySync.any
          (fun spec => spec.conflictPolicy = "ai_resolve") = true then
        advancePackageStage host .implement
      else
        escalate host

/-- The resolution of the conflicts of a synchronization by an agent. -/
def resolveRepositorySync : StageProgram Unit := do
  assignAgents host
  let first ← observe host
  if first.syncTransaction = none then
    Stateful.raise (.failed ⟨"repository-sync transaction disappeared"⟩)
  else
    let package ← currentPackage
    let result ← callAgent host .implement false package.runtime.agentId [] []
    applyImplementationResult host result
    let moment ← observe host
    match moment.syncAcceptResolution with
    | .error _ => escalate host
    | .ok _ => advancePackageStage host .fastVerify

def processRepositorySyncPreStages : StageProgram Unit := do
  let package ← currentPackage
  if package.repositorySync = none then
    Stateful.raise (.failed ⟨"repository-sync package is missing its spec"⟩)
  else
    whenever (package.stage = .prepare) (prepareRepositorySync host)
    let prepared ← currentPackage
    whenever (prepared.stage = .implement) (resolveRepositorySync host)

/-- Enter the decomposition that an operator or the policy asks for. -/
def enterRequestedDecomposition : StageProgram Unit := do
  let package ← currentPackage
  let moment ← observe host
  if package.runtime.decompositionRequired = true ∧
      package.runtime.decompositionStatus = "" ∧ package.stage ≠ .decompose then
    enterDecomposition host
  else if shouldAutoDecompose host moment package then
    enterDecomposition host

/-- What happens before the first stage is handled. -/
def beginProcessing : StageProgram Unit := do
  let package ← currentPackage
  whenever (package.kind = .repositorySync) (processRepositorySyncPreStages host)
  enterRequestedDecomposition host

/-! ## The loop -/

/-- Handle the present stage; whether the loop goes on. -/
def handleStage : StageProgram Bool := do
  let before ← currentPackage
  match handlerOfStage host before.stage with
  | none => return false
  | some handler =>
      let disposition ← handler
      let after ← currentPackage
      return decide (disposition = .proceed ∧ after.stage ≠ before.stage)

theorem handleStage_unhandled {session : StageSession}
    (absent : handlerOfStage host session.package.stage = none) :
    handleStage host session = (.ok false, session) := by
  show (match handlerOfStage host session.package.stage with
    | none => _
    | some handler => _ : StageProgram Bool) session = _
  rw [absent]
  rfl

/-- Handle stages until one stops; the number bounds how many. -/
def handleStages : Nat → StageProgram Bool
  | 0 => return false
  | rounds + 1 => do
      let goesOn ← handleStage host
      if goesOn then handleStages rounds else return true

/-- Process one package; `false` means that the bound of the loop was too small. -/
def processPackage (rounds : Nat) : StageProgram Bool := do
  beginProcessing host
  handleStages host rounds

end Handlers

end Execraft.Orchestrate
