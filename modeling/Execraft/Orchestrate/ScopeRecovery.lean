import Execraft.Orchestrate.ReviewPolicy

/-!
# The workspace of a package

Whether the workspace is clean when a package starts, and how changes outside of what a
package owns are recovered.
-/

namespace Execraft.Orchestrate

open Foundation Foundation.Json

section ScopeRecovery

variable (host : Host)

/-! ## Clean start -/

/-- The repositories that unfinished parallel siblings own. -/
def parallelSiblingOwnedRepositories (graph : PlanGraph)
    (record : TaskExecutionStateRecord) (package : WorkPackage) : List String :=
  if package.parentId = "" then
    []
  else
    (parallelDirtyOwners record).filterMap fun owner =>
      match graph.packageById owner.2 with
      | .error _ => none
      | .ok sibling =>
          if sibling.stage ≠ .completed ∧ sibling.parentId = package.parentId then
            some owner.1
          else
            none

/-- The dirty repositories that do not belong to a sibling. -/
def dirtyForeign : StageProgram (List String) := do
  let moment ← observe host
  let session ← Stateful.read
  let ignored := parallelSiblingOwnedRepositories session.graph session.record
    session.package
  return moment.dirtyRepositories.filter fun repository => repository ∉ ignored

/-- Refuse to start a package on top of unrelated changes. -/
def validateCleanStart : StageProgram Unit := do
  let package ← currentPackage
  if host.config.strictChecks then
    if package.affectedRepositories = [] then
      escalate host
    else
      let found ← dirtyForeign host
      -- the second look follows the removal of generated artifacts
      let dirty ←
        (if found ≠ [] ∧ host.config.scopeRecoveryPolicy.enabled = true then
          dirtyForeign host
        else
          pure found)
      if dirty ≠ [] then
        escalate host

/-! ## Recovery -/

/-- The changed paths that the package does not own. -/
def workspaceRecoveryCandidates : StageProgram (List String) := do
  let moment ← observe host
  match moment.scopeCandidates with
  | .error error => Stateful.raise (.failed error)
  | .ok candidates => return candidates

/-- An agent that may write, the reviewer first when the policy prefers it. -/
def scopeRecoveryAgent : StageProgram String := do
  let package ← currentPackage
  let policy := host.config.scopeRecoveryPolicy
  let reviewer := package.runtime.reviewerId
  let reason ← ineligibilityReason host reviewer .fixReview []
  if policy.preferReviewer = true ∧ reason = "" then
    return reviewer
  else
    let independent ← selected host .fixReview (named [package.runtime.agentId])
      "fix_review"
    if independent = "" ∧ policy.allowImplementerFallback = true then
      selected host .fixReview [] "fix_review"
    else
      return independent

/-- Whether the answer of the recovery agent fits what is left in the workspace. -/
def recoveryAnswerFits (candidates remaining : List String) (payload : AgentPayload) :
    Bool :=
  payload.retainPaths ⊆ candidates ∧ payload.discardPaths ⊆ candidates ∧
    (∀ path ∈ payload.retainPaths, path ∉ payload.discardPaths) ∧
    remaining ⊆ candidates ∧ remaining ⊆ payload.retainPaths ∧
    (∀ path ∈ payload.discardPaths, path ∉ remaining)

/-- The package with the paths that it acquired; across repositories it is no longer
safe for a parallel wave. -/
def acquirePaths (paths repositories : List String) (package : WorkPackage) :
    WorkPackage :=
  { package with
    writeScope := package.writeScope ++ paths
    affectedRepositories := package.affectedRepositories ++ repositories
    parallelSafe := package.parallelSafe && decide (repositories = []) }

/-- The fixer that recovered the workspace reviews nothing of this package. -/
def recordRecoveryFixer (agentId : String) (runtime : PackageRuntime) : PackageRuntime :=
  { runtime with
    lastFixerId := agentId
    reviewerId := if runtime.reviewerId = agentId then "" else runtime.reviewerId
    finalReviewerId :=
      if runtime.finalReviewerId = agentId then "" else runtime.finalReviewerId }

/-- The stages whose reviews a recovery makes worthless. -/
def reviewedStages : List WorkPackageStage :=
  [.review, .finalReview, .readyToCommit]

def forgetReviews (package : WorkPackage) : WorkPackage :=
  { package with
    status := "pending"
    runtime := { package.runtime with
      reviewFindings := []
      finalReviewerId := "" } }

/-- A reviewed package whose workspace was written to is verified again. -/
def rewindReviewedPackage : StageProgram Unit := do
  let package ← currentPackage
  if package.stage ∈ reviewedStages then
    changePackage forgetReviews
    advancePackageStage host .regressionVerify

/-- One recovery with the help of an agent; whether it succeeded. -/
def attemptAgentScopeRecovery : StageProgram Bool := do
  let package ← currentPackage
  if host.config.scopeRecoveryPolicy.enabled = false ∨ package.stage = .completed then
    return false
  else
    let candidates ← workspaceRecoveryCandidates host
    let moment ← observe host
    if candidates = [] then
      return true
    else if moment.scopeRecoveryRefusal.isSome = true then
      return false
    else
      let agentId ← scopeRecoveryAgent host
      if agentId = "" then
        return false
      else
        let result ← callAgent host .fixReview false agentId [] []
        if result.payload.ok = false ∨ result.payload.status ≠ "resolved" then
          return false
        else
          let left ← workspaceRecoveryCandidates host
          if recoveryAnswerFits candidates left result.payload = false then
            return false
          else
            let after ← observe host
            match after.retainedPaths with
            | .error error => Stateful.raise (.failed error)
            | .ok added =>
                changePackage (acquirePaths added.1 added.2)
                let remaining ← workspaceRecoveryCandidates host
                changeRuntime (recordRecoveryFixer result.executedBy)
                rewindReviewedPackage host
                return decide (remaining = [])

/-- A failed operation asks for an operator. -/
def orEscalate {Value : Type} (program : StageProgram Value) : StageProgram Value :=
  Stateful.recover program fun signal =>
    match signal with
    | .failed _ => escalate host
    | other => Stateful.raise other

/-- A failed recovery did not succeed. -/
def orFalse (program : StageProgram Bool) : StageProgram Bool :=
  Stateful.recover program fun signal =>
    match signal with
    | .failed _ => pure false
    | other => Stateful.raise other

/-- After a write: nothing outside of what the package owns has changed. -/
def validateDeclaredWriteScope : StageProgram Unit := do
  let candidates ← orEscalate host do
    let candidates ← workspaceRecoveryCandidates host
    if candidates ≠ [] ∧ host.config.scopeRecoveryPolicy.enabled = true then
      let _ ← attemptAgentScopeRecovery host
      workspaceRecoveryCandidates host
    else
      return candidates
  if candidates ≠ [] then
    escalate host

/-- Before a commit: whether the package may be committed now. -/
def prepareCommitScope : StageProgram Bool := do
  if host.config.strictChecks = false then
    return true
  else
    let candidates ← workspaceRecoveryCandidates host
    if candidates = [] then
      return true
    else if host.config.scopeRecoveryPolicy.enabled = false then
      escalate host
    else
      let recovered ← orFalse (attemptAgentScopeRecovery host)
      if recovered = false then
        escalate host
      else
        let remaining ← workspaceRecoveryCandidates host
        if remaining = [] then
          let package ← currentPackage
          return decide (package.stage = .readyToCommit)
        else
          escalate host

end ScopeRecovery

end Execraft.Orchestrate
