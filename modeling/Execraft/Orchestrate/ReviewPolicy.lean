import Execraft.Orchestrate.AgentExecution

/-!
# Review assignments

Who implements, reviews and repairs a package, and how far the independence of the
reviewers may be given up.
-/

namespace Execraft.Orchestrate

open Foundation

/-- Whether the package forbids that one agent implements and reviews. -/
def requiresIndependentReview (package : WorkPackage) : Bool :=
  package.kind = .repositorySync ∧
    package.repositorySync.any (fun spec => spec.requireIndependentReview) = true

def sameProviderReviewAllowed (config : OrchestrationConfig) (package : WorkPackage) :
    Bool :=
  config.allowSameProviderReview && !requiresIndependentReview package

/-- The named ones among some agents. -/
def named (agentIds : List String) : List String :=
  agentIds.filter fun agentId => agentId ≠ ""

def primaryReviewFallbackTiers (config : OrchestrationConfig) (package : WorkPackage) :
    List RelaxationTier :=
  if sameProviderReviewAllowed config package = false then
    []
  else
    [("reuse_implementer_for_review", [])]

structure AgentSchedule where
  implementerId : String
  reviewerId : String
  finalReviewerId : String

def finalReviewFallbackTiers (config : OrchestrationConfig) (package : WorkPackage)
    (schedule : AgentSchedule) : List RelaxationTier :=
  if sameProviderReviewAllowed config package = false then
    []
  else
    [("reuse_primary_reviewer_for_final_review",
        named [schedule.implementerId, package.runtime.lastFixerId]),
      ("reuse_fixer_for_final_review", named [schedule.implementerId]),
      ("reuse_provider_for_final_review", [])]

section Assignments

variable (host : Host)

def selected (capability : AgentCapability) (excluded : List String)
    (preferenceRole : String) : StageProgram String := do
  let agentId ← selectAgent host capability excluded preferenceRole
  return agentId.getD ""

/-- The first of the candidates that may do the final review. -/
def firstEligibleForFinalReview : List String → StageProgram String
  | [] => return ""
  | candidate :: rest => do
      let moment ← observe host
      let package ← currentPackage
      let exclusions := bindingRoleExclusions host.slots moment package "final_review"
      let reason ← ineligibilityReason host candidate .review exclusions
      if reason = "" then
        return candidate
      else
        firstEligibleForFinalReview rest

/-- The reviewer that gives up the least independence. -/
def relaxedFinalReviewer (implementer reviewer : String) : StageProgram String := do
  let package ← currentPackage
  let candidate ← firstEligibleForFinalReview host
    [reviewer, package.runtime.lastFixerId, implementer]
  if candidate ≠ "" then
    return candidate
  else
    selected host .review [] "final_review"

def scheduleAgents : StageProgram AgentSchedule := do
  let package ← currentPackage
  let relaxable := sameProviderReviewAllowed host.config package
  let implementer ← selected host .implement [] ""
  let independent ← selected host .review (named [implementer]) ""
  let reviewer ←
    (if independent = "" ∧ implementer ≠ "" ∧ relaxable = true then
      selected host .review [] ""
    else
      pure independent)
  let independentFinal ← selected host .review
    (named [implementer, reviewer, package.runtime.lastFixerId]) "final_review"
  let finalReviewer ←
    (if independentFinal = "" ∧ reviewer ≠ "" ∧ relaxable = true then
      relaxedFinalReviewer host implementer reviewer
    else
      pure independentFinal)
  return { implementerId := implementer
           reviewerId := reviewer
           finalReviewerId := finalReviewer }

/-- Assign the agents that a schedule names. -/
def assignSchedule (schedule : AgentSchedule) : StageProgram Unit :=
  changeRuntime fun runtime =>
    { runtime with
      agentId := schedule.implementerId
      reviewerId := schedule.reviewerId
      finalReviewerId := schedule.finalReviewerId }

/-- A primary reviewer in the place of one that may not review. -/
def replacementReviewer (package : WorkPackage) : StageProgram String := do
  let relaxable := sameProviderReviewAllowed host.config package
  let independent ← selected host .review
    (named [package.runtime.agentId, package.runtime.lastFixerId]) ""
  if independent = "" ∧ package.runtime.agentId ≠ "" ∧ relaxable = true then
    let other ← selected host .review (named [package.runtime.lastFixerId]) ""
    if other = "" then
      selected host .review [] ""
    else
      return other
  else
    return independent

/-- A final reviewer in the place of one that may not review. -/
def replacementFinalReviewer (package : WorkPackage) : StageProgram String := do
  let relaxable := sameProviderReviewAllowed host.config package
  let independent ← selected host .review
    (named [package.runtime.agentId, package.runtime.reviewerId,
      package.runtime.lastFixerId]) "final_review"
  if independent = "" ∧ package.runtime.reviewerId ≠ "" ∧ relaxable = true then
    relaxedFinalReviewer host package.runtime.agentId package.runtime.reviewerId
  else
    return independent

def ensureReviewer : StageProgram Unit := do
  let package ← currentPackage
  let reason ← ineligibilityReason host package.runtime.reviewerId .review
    (named [package.runtime.agentId, package.runtime.lastFixerId])
  if reason ≠ "" then
    let reviewer ← replacementReviewer host package
    changeRuntime fun runtime => { runtime with reviewerId := reviewer }

def ensureFinalReviewer : StageProgram Unit := do
  let package ← currentPackage
  let reason ← ineligibilityReason host package.runtime.finalReviewerId .review
    (named [package.runtime.agentId, package.runtime.reviewerId,
      package.runtime.lastFixerId])
  if reason ≠ "" then
    let reviewer ← replacementFinalReviewer host package
    changeRuntime fun runtime => { runtime with finalReviewerId := reviewer }

/-- Repair the assignments of the reviewers. -/
def ensureReviewAssignments : StageProgram AgentSchedule := do
  ensureReviewer host
  ensureFinalReviewer host
  let package ← currentPackage
  return { implementerId := package.runtime.agentId
           reviewerId := package.runtime.reviewerId
           finalReviewerId := package.runtime.finalReviewerId }

/-! ## The agent that repairs the findings of a review -/

structure FixerSelection where
  agentId : String := ""
  excludedAgentIds : List String := []
  policy : String := "none"
  fallbackTiers : List RelaxationTier := []

/-- Whether another agent can do the final review when this one repairs. -/
def hasIndependentFinalReviewer (fixerId : String) : StageProgram Bool := do
  let package ← currentPackage
  let finalId := package.runtime.finalReviewerId
  let reason ← ineligibilityReason host finalId .review
    (named [package.runtime.agentId, fixerId])
  if reason = "" then
    return true
  else
    let candidate ← selected host .review (named [package.runtime.agentId, fixerId])
      "final_review"
    return candidate ≠ ""

/-- Whether the repair answers the findings of an exhausted review. -/
def rescueActive (package : WorkPackage) : Bool :=
  package.runtime.reviewRecoveryCycles ≠ 0 ∧
    package.runtime.reviewRecoveryFingerprint ≠ ""

def fixerBaseTiers (package : WorkPackage) (releaseFinal releaseReviewer : Bool) :
    List RelaxationTier :=
  let reviewer := package.runtime.reviewerId
  let finalReviewer := package.runtime.finalReviewerId
  let lastFixer := package.runtime.lastFixerId
  [("independent", named [reviewer, finalReviewer, lastFixer]),
    ("reuse_previous_fixer", named [reviewer, finalReviewer])] ++
  (if releaseFinal then
    [("release_final_reviewer_for_fix", named [reviewer, lastFixer])] else []) ++
  (if releaseReviewer then
    [("reviewer_self_fix_with_independent_final", named [finalReviewer])] else []) ++
  (if sameProviderReviewAllowed host.config package then
    [("reuse_provider_for_fix_review", [])] else [])

/-- Keep the supervisor out of the repair of an exhausted review. -/
def avoidSupervisor (tiers : List RelaxationTier) : List RelaxationTier :=
  let policy := host.config.recoveryPlaybookPolicy.reviewExhausted
  let supervisorId := host.config.supervisorAgentId
  tiers.map (fun tier => ("review_recovery_" ++ tier.1, tier.2 ++ [supervisorId])) ++
    if policy.allowSupervisorFallback then
      tiers.map fun tier => ("review_recovery_supervisor_fallback_" ++ tier.1, tier.2)
    else
      []

def selectAmong : List RelaxationTier → StageProgram (Option FixerSelection)
  | [] => return none
  | tier :: rest => do
      let agentId ← selectAgent host .fixReview tier.2 ""
      match agentId with
      | some agentId =>
          return some
            { agentId := agentId
              excludedAgentIds := tier.2
              policy := tier.1
              fallbackTiers := rest }
      | none => selectAmong rest

def selectFixer : StageProgram FixerSelection := do
  let package ← currentPackage
  let finalReviewer := package.runtime.finalReviewerId
  let reviewer := package.runtime.reviewerId
  let releaseFinal ←
    (if finalReviewer ≠ "" then hasIndependentFinalReviewer host finalReviewer
    else pure false)
  let releaseReviewer ←
    (if reviewer ≠ "" then hasIndependentFinalReviewer host reviewer else pure false)
  let policy := host.config.recoveryPlaybookPolicy.reviewExhausted
  let avoids := rescueActive package && policy.preferNonSupervisorFixer &&
    decide (host.config.supervisorAgentId ≠ "")
  let baseTiers := fixerBaseTiers host package releaseFinal releaseReviewer
  let chosen ← selectAmong host
    (if avoids then avoidSupervisor host baseTiers else baseTiers)
  match chosen with
  | some selection => return selection
  | none =>
      if avoids = true ∧ policy.allowSupervisorFallback = false then
        return { excludedAgentIds := [host.config.supervisorAgentId]
                 policy := "review_recovery_wait_non_supervisor" }
      else
        return {}

end Assignments

/-! ## What the assignments leave alone -/

section Frame

variable {host : Host}

theorem isSteady_selected {capability : AgentCapability} {excluded : List String}
    {role : String} : IsSteady (selected host capability excluded role) :=
  isSteady_bind isSteady_selectAgent fun _ => isSteady_pure _

theorem isSteady_firstEligibleForFinalReview (candidates : List String) :
    IsSteady (firstEligibleForFinalReview host candidates) := by
  induction candidates with
  | nil => exact isSteady_pure _
  | cons candidate rest inductionHypothesis =>
      exact isSteady_bind isSteady_observe fun _ =>
        isSteady_bind isSteady_currentPackage fun _ =>
          isSteady_bind isSteady_ineligibilityReason fun _ =>
            isSteady_ite (isSteady_pure _) inductionHypothesis

theorem isSteady_relaxedFinalReviewer {implementer reviewer : String} :
    IsSteady (relaxedFinalReviewer host implementer reviewer) :=
  isSteady_bind isSteady_currentPackage fun _ =>
    isSteady_bind (isSteady_firstEligibleForFinalReview _) fun _ =>
      isSteady_ite (isSteady_pure _) isSteady_selected

theorem isSteady_scheduleAgents : IsSteady (scheduleAgents host) :=
  isSteady_bind isSteady_currentPackage fun _ =>
    isSteady_bind isSteady_selected fun _ =>
      isSteady_bind isSteady_selected fun _ =>
        isSteady_bind (isSteady_ite isSteady_selected (isSteady_pure _)) fun _ =>
          isSteady_bind isSteady_selected fun _ =>
            isSteady_bind (isSteady_ite isSteady_relaxedFinalReviewer (isSteady_pure _))
              fun _ => isSteady_pure _

theorem isSteady_assignSchedule {schedule : AgentSchedule} :
    IsSteady (assignSchedule schedule) :=
  isSteady_changePackage fun _ => rfl

theorem isSteady_replacementReviewer {package : WorkPackage} :
    IsSteady (replacementReviewer host package) :=
  isSteady_bind isSteady_selected fun _ =>
    isSteady_ite
      (isSteady_bind isSteady_selected fun _ =>
        isSteady_ite isSteady_selected (isSteady_pure _))
      (isSteady_pure _)

theorem isSteady_replacementFinalReviewer {package : WorkPackage} :
    IsSteady (replacementFinalReviewer host package) :=
  isSteady_bind isSteady_selected fun _ =>
    isSteady_ite isSteady_relaxedFinalReviewer (isSteady_pure _)

theorem isSteady_ensureReviewer : IsSteady (ensureReviewer host) :=
  isSteady_bind isSteady_currentPackage fun _ =>
    isSteady_bind isSteady_ineligibilityReason fun _ =>
      isSteady_ite
        (isSteady_bind isSteady_replacementReviewer fun _ =>
          isSteady_changePackage fun _ => rfl)
        (isSteady_pure _)

theorem isSteady_ensureFinalReviewer : IsSteady (ensureFinalReviewer host) :=
  isSteady_bind isSteady_currentPackage fun _ =>
    isSteady_bind isSteady_ineligibilityReason fun _ =>
      isSteady_ite
        (isSteady_bind isSteady_replacementFinalReviewer fun _ =>
          isSteady_changePackage fun _ => rfl)
        (isSteady_pure _)

theorem isSteady_ensureReviewAssignments : IsSteady (ensureReviewAssignments host) :=
  isSteady_bind isSteady_ensureReviewer fun _ =>
    isSteady_bind isSteady_ensureFinalReviewer fun _ =>
      isSteady_bind isSteady_currentPackage fun _ => isSteady_pure _

theorem isSteady_hasIndependentFinalReviewer {fixerId : String} :
    IsSteady (hasIndependentFinalReviewer host fixerId) :=
  isSteady_bind isSteady_currentPackage fun _ =>
    isSteady_bind isSteady_ineligibilityReason fun _ =>
      isSteady_ite (isSteady_pure _)
        (isSteady_bind isSteady_selected fun _ => isSteady_pure _)

theorem isSteady_selectAmong (tiers : List RelaxationTier) :
    IsSteady (selectAmong host tiers) := by
  induction tiers with
  | nil => exact isSteady_pure _
  | cons tier rest inductionHypothesis =>
      refine isSteady_bind isSteady_selectAgent fun agentId => ?_
      cases agentId with
      | none => exact inductionHypothesis
      | some agentId => exact isSteady_pure _

theorem isSteady_selectFixer : IsSteady (selectFixer host) := by
  refine isSteady_bind isSteady_currentPackage fun package =>
    isSteady_bind (isSteady_ite isSteady_hasIndependentFinalReviewer (isSteady_pure _))
      fun releaseFinal =>
    isSteady_bind (isSteady_ite isSteady_hasIndependentFinalReviewer (isSteady_pure _))
      fun releaseReviewer =>
    isSteady_bind (isSteady_selectAmong _) fun chosen => ?_
  cases chosen with
  | none => exact isSteady_ite (isSteady_pure _) (isSteady_pure _)
  | some selection => exact isSteady_pure _

end Frame

end Execraft.Orchestrate
