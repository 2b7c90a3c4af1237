import Execraft.Orchestrate.ScopeRecovery

/-!
# Verification, reviews and finalization

The checks of a package: its verification commands with their bounded repetition, the
verdict of a review with the bounded repair of its findings, the evidence of its
acceptance criteria, and the commit.
-/

namespace Execraft.Orchestrate

open Foundation Foundation.Json

section Checks

variable (host : Host)

/-! ## Verification -/

/-- Whether a result stops the package. -/
def CommandResult.blocks (config : OrchestrationConfig) (result : CommandResult) : Bool :=
  result.status ≠ "passed" ∧
    ¬(result.knownEnvironmentBlocked = true ∧
      config.allowKnownEnvironmentBlockedFailures = true) ∧
    result.baselineAccepted = false

def baselineMatched (config : OrchestrationConfig) (results : List CommandResult) : Bool :=
  results.any fun result =>
    result.status ≠ "passed" ∧ result.baselineAccepted = true ∧
      ¬(result.knownEnvironmentBlocked = true ∧
        config.allowKnownEnvironmentBlockedFailures = true)

/-- The findings that a failed verification hands to the repair. -/
def verificationFailureFindings (results : List CommandResult) : List String :=
  (results.filter fun result => result.status ≠ "passed").map fun result =>
    result.command ++ ": " ++ result.status

/-- The package after a verification that nothing blocked. -/
def acceptVerification (config : OrchestrationConfig) (results : List CommandResult)
    (package : WorkPackage) : WorkPackage :=
  { package with
    acceptanceCriteria := package.acceptanceCriteria.map fun criterion =>
      if criterion.evidence ≠ "" then { criterion with verified := true } else criterion
    lastVerification :=
      [("status", .string (if baselineMatched config results then
          "passed_with_accepted_baseline" else "passed")),
        ("attempt", .int (package.runtime.verificationAttempts + 1))]
    runtime := { package.runtime with verificationAttempts := 0 } }

/-- The package after a verification that failed. -/
def rejectVerification (package : WorkPackage) : WorkPackage :=
  let attempts := package.runtime.verificationAttempts + 1
  { package with
    lastVerification := [("status", .string "failed"), ("attempt", .int attempts)]
    runtime := { package.runtime with verificationAttempts := attempts } }

def keepFindings (findings : List String) (runtime : PackageRuntime) : PackageRuntime :=
  { runtime with reviewFindings := findings }

/-- The synchronization of a sync package must be there. -/
def requireSyncTransaction : StageProgram Unit := do
  let package ← currentPackage
  let moment ← observe host
  if package.kind = .repositorySync ∧ moment.syncTransaction = none then
    escalate host

/-- A failed verification sends the package back, as often as its budget allows. -/
def retryVerification (results : List CommandResult) : StageProgram Bool := do
  changePackage rejectVerification
  emit .verificationFailed
  let package ← currentPackage
  if (host.config.maxVerificationAttempts : Int) ≤ package.runtime.verificationAttempts then
    escalate host
  else if package.kind = .repositorySync ∧ package.stage = .regressionVerify then
    changeRuntime (keepFindings (verificationFailureFindings results))
    advancePackageStage host .fixReview
    return false
  else
    advancePackageStage host .implement
    return false

/-- A passed verification of a sync package is noted in its transaction. -/
def markSyncVerified : StageProgram Unit := do
  let package ← currentPackage
  let moment ← observe host
  match moment.syncMarkVerified with
  | .error _ => whenever (package.kind = .repositorySync) (escalate host)
  | .ok _ => pure ()

/-- Run the checks; whether the package may go on. -/
def runVerification : StageProgram Bool := do
  requireSyncTransaction host
  let moment ← observe host
  let results := moment.verificationCommands
  if results = [] then
    if host.config.strictChecks = true ∧
        (host.config.requireVerification = true ∨ host.requireCommands = true) then
      escalate host
    else
      emit .verificationPassed
      return true
  else if results.any (CommandResult.blocks host.config) = false then
    changePackage (acceptVerification host.config results)
    emit .verificationPassed
    markSyncVerified host
    return true
  else
    retryVerification host results

/-! ## The answers of implementers and reviewers -/

/-- The package with what its implementer reports. -/
def recordImplementation (result : AgentResult) (package : WorkPackage) : WorkPackage :=
  let summary := result.payload.implementationSummary.getD result.payload.summary
  { package with
    acceptanceCriteria := package.acceptanceCriteria.map fun criterion =>
      match result.payload.acceptanceEvidence.get? criterion.id with
      | some evidence =>
          if evidence = "" then criterion else { criterion with evidence := evidence }
      | none => criterion
    lastImplementation :=
      [("status", .string result.payload.status), ("summary", .string summary),
        ("agent_id", .string result.executedBy)]
    runtime := { package.runtime with implementationSummary := summary } }

def applyImplementationResult (result : AgentResult) : StageProgram Unit := do
  if host.config.strictChecks = true ∧ host.config.requireStructuredAgentOutput = true ∧
      (result.payload.ok = false ∨
        result.payload.status ∉ ["implemented", "fixed"]) then
    escalate host
  else
    changePackage (recordImplementation result)
    validateDeclaredWriteScope host

/-- A verdict with findings exactly when changes are required. -/
def consistentVerdict (verdict : String) (findings : List String) : Bool :=
  (verdict = "approved" ∧ findings = []) ∨ (verdict = "changes_required" ∧ findings ≠ [])

def recordReview (result : AgentResult) (findings : List String) (package : WorkPackage) :
    WorkPackage :=
  { package with
    lastReview :=
      [("verdict", .string result.payload.verdict),
        ("findings", .array (findings.map .string)),
        ("summary", .string (stripString result.payload.summary)),
        ("agent_id", .string result.executedBy)] }

/-- The stripped findings that are not empty. -/
def cleanFindings (findings : List String) : List String :=
  (findings.map stripString).filter fun finding => finding ≠ ""

def reviewResult (result : AgentResult) : StageProgram (String × List String) := do
  if host.config.strictChecks = false ∨ host.config.requireStructuredAgentOutput = false then
    emit (.reviewResult result.executedBy "approved")
    return ("approved", [])
  else
    let findings := cleanFindings result.payload.findings
    if consistentVerdict result.payload.verdict findings = false then
      Stateful.raise (.failed ⟨"validated review contract invariant escaped the " ++
        "invocation boundary"⟩)
    else
      changePackage (recordReview result findings)
      emit (.reviewResult result.executedBy result.payload.verdict)
      return (result.payload.verdict, findings)

/-! ## The repair of findings -/

/-- Distinct findings, at most as many as the limit. -/
def normalizeFindings (findings : List String) (limit : Nat) : List String :=
  ((((cleanFindings findings).reverse.dedup).reverse).take limit)

/-- Whether a rescue campaign may repair these findings. -/
def rescueAvailable (config : OrchestrationConfig) (package : WorkPackage)
    (findings : List String) : Bool :=
  let policy := config.recoveryPlaybookPolicy
  let review := policy.reviewExhausted
  let normalized := normalizeFindings findings (review.maxFindings + 1)
  policy.enabled = true ∧ review.enabled = true ∧ normalized ≠ [] ∧
    normalized.length ≤ review.maxFindings ∧
    package.runtime.reviewRecoveryCycles < review.maxRescueCycles

/-- The package at the start of a rescue campaign. -/
def queueRescue (config : OrchestrationConfig) (fingerprint : List String → String)
    (findings : List String) (package : WorkPackage) : WorkPackage :=
  let review := config.recoveryPlaybookPolicy.reviewExhausted
  let normalized := normalizeFindings findings (review.maxFindings + 1)
  { package with
    status := "pending"
    runtime := { package.runtime with
      reviewRecoveryCycles := package.runtime.reviewRecoveryCycles + 1
      reviewRecoveryFingerprint := fingerprint normalized
      reviewRecoveryOriginStage := package.stage.value
      reviewFindings := normalized
      finalReviewerId := "" } }

/-- Queue one rescue campaign if one is left; whether it was queued. -/
def queueReviewRecoveryPlaybook (findings : List String) : StageProgram Bool := do
  let package ← currentPackage
  if rescueAvailable host.config package findings = false then
    return false
  else
    let moment ← observe host
    changePackage (queueRescue host.config moment.findingsFingerprint findings)
    clearAgentWait host
    changeRecord fun record => { record with errorMessage := "" }
    advancePackageStage host .fixReview
    return true

def countReviewCycle (findings : List String) (runtime : PackageRuntime) :
    PackageRuntime :=
  { runtime with
    reviewCycles := runtime.reviewCycles + 1
    reviewFindings := findings }

/-- Send the package to the repair of the findings of a review. -/
def queueReviewFixes (findings : List String) : StageProgram Unit := do
  let moment ← observe host
  if moment.externalFindings findings = true then
    changeRuntime (keepFindings (cleanFindings findings))
    escalate host
  else
    changeRuntime (countReviewCycle findings)
    let package ← currentPackage
    if (host.config.maxReviewCycles : Int) < package.runtime.reviewCycles then
      let queued ← queueReviewRecoveryPlaybook host findings
      if queued = false then
        escalate host
    else
      advancePackageStage host .fixReview

/-! ## Acceptance evidence -/

/-- The criteria that an operator accepted at his own risk. -/
def acceptedCriterionIds (package : WorkPackage) : List String :=
  let acceptance := package.runtime.operatorRiskAcceptance
  if acceptance.get "status" .null = .string "operator_accepted" ∧
      acceptance.get "package_id" .null = .string package.id then
    match acceptance.get "accepted_criterion_ids" .null with
    | .array values => values.filterMap fun value =>
        match value with
        | .string criterionId => some (stripString criterionId)
        | _ => none
    | _ => []
  else
    []

/-- The criteria without verified evidence. -/
def missingCriteria (package : WorkPackage) : List String :=
  (package.acceptanceCriteria.filter fun criterion =>
    criterion.id ∉ acceptedCriterionIds package ∧
      (criterion.verified = false ∨ stripString criterion.evidence = "")).map
    AcceptanceCriterion.id

/-- The package with evidence that was reconstructed for some criteria. -/
def applyCollectedEvidence (collected : List (String × String)) (package : WorkPackage) :
    WorkPackage :=
  { package with
    acceptanceCriteria := package.acceptanceCriteria.map fun criterion =>
      match collected.find? fun entry => entry.1 = criterion.id with
      | some entry => { criterion with evidence := entry.2, verified := true }
      | none => criterion }

def validateAcceptanceEvidence : StageProgram Unit := do
  let package ← currentPackage
  if host.config.strictChecks = true ∧ host.config.requireAcceptanceEvidence = true ∧
      missingCriteria package ≠ [] then
    let moment ← observe host
    whenever (host.config.autoCollectAcceptanceEvidence = true)
      (changePackage (applyCollectedEvidence moment.collectedEvidence))
    let collected ← currentPackage
    if missingCriteria collected ≠ [] then
      escalate host

def verificationAccepted (package : WorkPackage) : Bool :=
  package.lastVerification.get "status" .null = .string "passed" ∨
    package.lastVerification.get "status" .null = .string "passed_with_accepted_baseline"

/-- The evidence of a synchronization; evidence that is there is kept. -/
def applySyncEvidence (transactionId : String) (package : WorkPackage) : WorkPackage :=
  { package with
    acceptanceCriteria := package.acceptanceCriteria.map fun criterion =>
      { criterion with
        evidence :=
          if stripString criterion.evidence = "" then
            "repository-sync transaction " ++ transactionId
          else
            stripString criterion.evidence
        verified := true } }

def prepareRepositorySyncAcceptanceEvidence : StageProgram Unit := do
  let package ← currentPackage
  let moment ← observe host
  match moment.syncTransaction with
  | none => escalate host
  | some transactionId =>
      if verificationAccepted package = false ∨
          package.lastReview.get "verdict" .null ≠ .string "approved" then
        escalate host
      else
        changePackage (applySyncEvidence transactionId)

/-! ## Finalization -/

def finalizeRepositorySyncPackage : StageProgram Unit := do
  let moment ← observe host
  match moment.syncCommit with
  | .error _ => escalate host
  | .ok transactionId =>
      changePackage fun package =>
        { package with
          lastImplementation := (package.lastImplementation.set "status"
            (.string "repository_sync_committed")).set "transaction_id"
              (.string transactionId) }
      markPackageCompleted

/-- Begin or recover the commit of a package. -/
def commitPackage : StageProgram String := do
  let moment ← observe host
  match moment.commitTransaction with
  | .error _ => escalate host
  | .ok transactionId => return transactionId

/-- The commit of a repair that an aggregate owns; none when there is none to commit. -/
def commitAggregateReviewFixDelta : StageProgram (Option String) := do
  let moment ← observe host
  if moment.ownsRepairDelta = false then
    return none
  else
    let prepared ← prepareCommitScope host
    if prepared = false then
      return none
    else
      let transactionId ← commitPackage host
      return some transactionId

/-- Nothing unexplained may be left in the workspace. -/
def requireFinalized : StageProgram Unit := do
  let moment ← observe host
  if moment.finalizationProblem.isSome = true then
    escalate host

def requireCleanAggregate : StageProgram Unit := do
  let moment ← observe host
  if moment.dirtyRepositories ≠ [] then
    let transaction ← commitAggregateReviewFixDelta host
    let after ← observe host
    if transaction = none ∨ after.dirtyRepositories ≠ [] then
      escalate host

def finalizeAggregatePackage : StageProgram Unit := do
  if host.config.workspaceFinalizationPolicy.enabled = true then
    requireFinalized host
    requireCleanAggregate host
    markPackageCompleted
  else
    markPackageCompleted

def enforcesCleanliness (config : OrchestrationConfig) : Bool :=
  config.workspaceFinalizationPolicy.enabled &&
    config.workspaceFinalizationPolicy.requireCleanAfterAutomaticCommit &&
    config.autoCommit && config.strictChecks

def finalizeStandardPackage : StageProgram Unit := do
  let prepared ← prepareCommitScope host
  if prepared = true then
    let _ ← commitPackage host
    whenever (enforcesCleanliness host.config = true) (requireFinalized host)
    markPackageCompleted

end Checks

end Execraft.Orchestrate
