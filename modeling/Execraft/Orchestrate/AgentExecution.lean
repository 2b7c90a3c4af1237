import Execraft.Orchestrate.StageSession

/-!
# Executing a stage with the agents at hand

One agent after the other is tried, with one repair of an invalid answer, until one
succeeds or none is left; then the package waits.
-/

namespace Execraft.Orchestrate

open Foundation Foundation.Json

/-- The answer of the agent that executed a stage. -/
structure AgentResult where
  executedBy : String
  payload : AgentPayload

/-- What one stage asks of its agents. -/
structure StageRequest where
  capability : AgentCapability
  readOnly : Bool
  preferenceRole : String
  roleExcluded : List String

/-- A named set of exclusions that may replace the present one. -/
abbrev RelaxationTier := String × List String

/-- The variables of the failover loop. -/
structure FailoverState where
  candidate : String
  policyExcluded : List String
  relaxationTiers : List RelaxationTier
  tried : List String := []
  executionAttempts : Nat := 0
  formatRetryAllowance : Nat := 0

section Failover

variable (host : Host)

def maxAttempts : Nat :=
  max 1 host.config.maxAgentAttemptsPerStage

/-- Why a candidate is skipped; empty when it is invoked. -/
def candidateSkipReason (request : StageRequest) (policyExcluded : List String)
    (candidate : String) : StageProgram String := do
  let moment ← observe host
  let reason := agentIneligibilityReason host.slots moment candidate request.capability
    policyExcluded
  return if reason ≠ "" then
      reason
    else if candidate ∈ moment.contractUnavailable request.capability then
      "contract_invalid_output"
    else if candidate ∈ request.roleExcluded then
      "role_pool_excluded"
    else if request.readOnly = true ∧ host.slots.any (fun slot =>
        slot.candidateId = candidate && !slot.satisfiesReadOnly) = true then
      "read_only_isolation"
    else
      ""

def attemptRow (request : StageRequest) (stage : WorkPackageStage)
    (candidate status : String) : Row :=
  [("stage", .string stage.value), ("capability", .string request.capability.value),
    ("agent_id", .string candidate), ("status", .string status)]

/-- The attempts that are kept: the last twelve. -/
def keptAttempts (attempts : List Row) : List Row :=
  attempts.drop (attempts.length - 12)

def appendAgentAttempt (attempt : Row) : StageProgram Unit :=
  changeRuntime fun runtime =>
    { runtime with
      lastAgentAttempts := keptAttempts (runtime.lastAgentAttempts ++ [attempt]) }

/-- One invocation of a candidate. -/
def executeAttempt (request : StageRequest) (candidate : String) :
    StageProgram AttemptAnswer := do
  let package ← currentPackage
  emit (.invocationStarted candidate request.capability package.stage)
  let moment ← observe host
  match moment.attempt with
  | .broken error => Stateful.raise (.failed error)
  | .failure classification failures =>
      appendAgentAttempt (attemptRow request package.stage candidate "failed")
      return .failure classification failures
  | .success payload =>
      appendAgentAttempt (attemptRow request package.stage candidate "completed")
      clearAgentWait host
      return .success payload

/-- Replace the exclusions by those of the next tiers until an agent is found. -/
def relaxExclusions (request : StageRequest) (tried : List String) :
    List String → List RelaxationTier →
      StageProgram (Option String × List String × List RelaxationTier)
  | policyExcluded, [] => return (none, policyExcluded, [])
  | policyExcluded, tier :: rest => do
      let newlyAllowed := policyExcluded.filter fun agentId => agentId ∉ tier.2
      let next ← selectAgent host request.capability
        (tried.filter (fun agentId => agentId ∉ newlyAllowed) ++ tier.2)
        request.preferenceRole
      match next with
      | some agentId => return (some agentId, tier.2, rest)
      | none => relaxExclusions request tried tier.2 rest

/-- The loop variables with the candidate that is tried next, if there is one. -/
def nextCandidate (request : StageRequest) (state : FailoverState) (retrySame : Bool) :
    StageProgram FailoverState := do
  if retrySame then
    return state
  else
    let selected ← selectAgent host request.capability
      (state.tried ++ state.policyExcluded) request.preferenceRole
    match selected with
    | some agentId => return { state with candidate := agentId }
    | none =>
        let relaxed ← relaxExclusions host request state.tried state.policyExcluded
          state.relaxationTiers
        return { state with
          candidate := relaxed.1.getD ""
          policyExcluded := relaxed.2.1
          relaxationTiers := relaxed.2.2 }

/-- Whether the same candidate may repair its answer once. -/
def retriesSame (classification : String) (failures executionAttempts : Nat) : Bool :=
  classification = "invalid_output" ∧ failures = 1 ∧
    executionAttempts < maxAttempts host + 1

/-- The failover loop; an answer, or none together with the exclusions at its end. -/
def executeWithFailover (request : StageRequest) :
    Nat → FailoverState → StageProgram (Option AgentResult × List String)
  | 0, state => return (none, state.policyExcluded)
  | fuel + 1, state => do
      if state.candidate = "" ∨
          maxAttempts host + state.formatRetryAllowance ≤ state.executionAttempts then
        return (none, state.policyExcluded)
      else
        let begun := { state with tried := state.tried ++ [state.candidate] }
        let reason ← candidateSkipReason host request state.policyExcluded state.candidate
        if reason ≠ "" then
          let next ← nextCandidate host request begun false
          executeWithFailover request fuel next
        else
          let answer ← executeAttempt host request state.candidate
          match answer with
          | .success payload =>
              return (some ⟨state.candidate, payload⟩, state.policyExcluded)
          | .broken error => Stateful.raise (.failed error)
          | .failure classification failures =>
              let attempts := state.executionAttempts + 1
              let retrySame := retriesSame host classification failures attempts
              let next ← nextCandidate host request
                { begun with
                  executionAttempts := attempts
                  formatRetryAllowance :=
                    if retrySame then 1 else state.formatRetryAllowance }
                retrySame
              executeWithFailover request fuel next

/-- Enough rounds for every registered agent, every tier and every attempt. -/
def failoverFuel (tiers : List RelaxationTier) : Nat :=
  host.slots.length + tiers.length + maxAttempts host + 2

/-- Schedule a wait for an agent, or ask for an operator when waiting is no use. -/
def waitForAgentAvailability {Value : Type} : StageProgram Value := do
  let moment ← observe host
  match moment.agentWaitPlan with
  | .expired =>
      clearAgentWait host
      escalate host
  | .onlyTooComplex => escalate host
  | .scheduled waiting =>
      let package ← currentPackage
      changeRecord fun record =>
        { record with agentWaits := record.agentWaits.set package.id (.object waiting) }
      refreshWaits host
      let session ← Stateful.read
      whenever (session.record.state ≠ .waitingForAgent) (moveTask host .waitingForAgent)
      Stateful.raise .agentWaitRequested

/-- The tiers that differ from the exclusions of the stage. -/
def differingTiers (policyExcluded : List String) (tiers : List RelaxationTier) :
    List RelaxationTier :=
  tiers.filter fun tier => ¬(tier.2 ⊆ policyExcluded ∧ policyExcluded ⊆ tier.2)

def executionPreferenceRole (capability : AgentCapability) (stage : WorkPackageStage) :
    String :=
  if capability = .review ∧ stage = .finalReview then "final_review" else capability.value

/-- The answer of a stage without an agent when nothing is enforced. -/
def skippedResult : AgentResult :=
  { executedBy := ""
    payload := { status := "skipped" } }

def executeAgent (capability : AgentCapability) (readOnly : Bool) (agentId : String)
    (excluded : List String) (tiers : List RelaxationTier) : StageProgram AgentResult := do
  let package ← currentPackage
  let role := executionPreferenceRole capability package.stage
  let moment ← observe host
  let roleExcluded := bindingRoleExclusions host.slots moment package role
  let policyExcluded := excluded ++ roleExcluded
  if agentId = "" then
    if host.config.strictChecks = false then
      return skippedResult
    else
      waitForAgentAvailability host
  else
    let request : StageRequest :=
      { capability := capability
        readOnly := readOnly
        preferenceRole := role
        roleExcluded := roleExcluded }
    let outcome ← executeWithFailover host request (failoverFuel host tiers)
      { candidate := agentId
        policyExcluded := policyExcluded
        relaxationTiers := differingTiers policyExcluded tiers }
    match outcome.1 with
    | some result => return result
    | none => waitForAgentAvailability host

/-! ## The roles of the agents -/

/-- The history of a capability with one more agent. -/
def recordedHistory (history : Dict (List String)) (capability : AgentCapability)
    (agentId : String) : Dict (List String) :=
  let entries := (history.get? capability.value).getD []
  if entries.getLast? = some agentId then
    history.set capability.value entries
  else
    history.set capability.value (entries ++ [agentId])

/-- The package with the role of the agent that completed a stage. -/
def recordRole (capability : AgentCapability) (agentId : String) (package : WorkPackage) :
    WorkPackage :=
  let runtime := { package.runtime with
    agentHistory := recordedHistory package.runtime.agentHistory capability agentId }
  { package with
    runtime :=
      match capability with
      | .implement => { runtime with agentId := agentId }
      | .review =>
          if package.stage = .finalReview then
            { runtime with finalReviewerId := agentId }
          else
            { runtime with reviewerId := agentId }
      | .fixReview => { runtime with lastFixerId := agentId }
      | _ => runtime }

def recordAgentExecution (capability : AgentCapability) (agentId : String) :
    StageProgram Unit :=
  if agentId = "" then pure () else changePackage (recordRole capability agentId)

/-- Call an agent for a stage and record who answered. -/
def callAgent (capability : AgentCapability) (readOnly : Bool) (agentId : String)
    (excluded : List String) (tiers : List RelaxationTier) : StageProgram AgentResult := do
  let session ← Stateful.read
  whenever (session.record.state = .waitingForAgent) (moveTask host .running)
  let result ← executeAgent host capability readOnly agentId excluded tiers
  recordAgentExecution capability result.executedBy
  return result

end Failover

/-! ## What an execution leaves alone -/

section Frame

variable {host : Host}

theorem isSteady_candidateSkipReason {request : StageRequest} {policyExcluded : List String}
    {candidate : String} :
    IsSteady (candidateSkipReason host request policyExcluded candidate) :=
  isSteady_bind isSteady_observe fun _ => isSteady_pure _

theorem isSteady_executeAttempt {request : StageRequest} {candidate : String} :
    IsSteady (executeAttempt host request candidate) := by
  refine isSteady_bind isSteady_currentPackage fun package =>
    isSteady_bind (isSteady_emit rfl) fun _ =>
    isSteady_bind isSteady_observe fun moment => ?_
  cases moment.attempt with
  | success payload =>
      exact isSteady_bind (isSteady_changePackage fun _ => rfl) fun _ =>
        isSteady_bind isSteady_clearAgentWait fun _ => isSteady_pure _
  | failure classification failures =>
      exact isSteady_bind (isSteady_changePackage fun _ => rfl) fun _ => isSteady_pure _
  | broken error => exact isSteady_raise _

theorem isSteady_relaxExclusions {request : StageRequest} {tried : List String}
    (policyExcluded : List String) (tiers : List RelaxationTier) :
    IsSteady (relaxExclusions host request tried policyExcluded tiers) := by
  induction tiers generalizing policyExcluded with
  | nil => exact isSteady_pure _
  | cons tier rest inductionHypothesis =>
      refine isSteady_bind isSteady_selectAgent fun next => ?_
      cases next with
      | none => exact inductionHypothesis tier.2
      | some agentId => exact isSteady_pure _

theorem isSteady_nextCandidate {request : StageRequest} {state : FailoverState}
    {retrySame : Bool} : IsSteady (nextCandidate host request state retrySame) := by
  refine isSteady_ite (isSteady_pure _) (isSteady_bind isSteady_selectAgent fun next => ?_)
  cases next with
  | none =>
      exact isSteady_bind (isSteady_relaxExclusions _ _) fun _ => isSteady_pure _
  | some agentId => exact isSteady_pure _

theorem isSteady_executeWithFailover {request : StageRequest} (fuel : Nat)
    (state : FailoverState) :
    IsSteady (executeWithFailover host request fuel state) := by
  induction fuel generalizing state with
  | zero => exact isSteady_pure _
  | succ fuel inductionHypothesis =>
      refine isSteady_ite (isSteady_pure _)
        (isSteady_bind isSteady_candidateSkipReason fun reason => isSteady_ite ?_ ?_)
      · exact isSteady_bind isSteady_nextCandidate fun next => inductionHypothesis next
      · refine isSteady_bind isSteady_executeAttempt fun answer => ?_
        cases answer with
        | success payload => exact isSteady_pure _
        | broken error => exact isSteady_raise _
        | failure classification failures =>
            exact isSteady_bind isSteady_nextCandidate fun next => inductionHypothesis next

theorem isSteady_waitForAgentAvailability {Value : Type} :
    IsSteady (waitForAgentAvailability host : StageProgram Value) := by
  refine isSteady_bind isSteady_observe fun moment => ?_
  cases moment.agentWaitPlan with
  | expired => exact isSteady_bind isSteady_clearAgentWait fun _ => isSteady_escalate
  | onlyTooComplex => exact isSteady_escalate
  | scheduled waiting =>
      refine isSteady_bind isSteady_currentPackage fun package =>
        isSteady_bind (isSteady_changeRecord (fun _ => rfl) (fun _ => rfl) fun _ => rfl)
          fun _ => isSteady_bind isSteady_refreshWaits fun _ =>
            isSteady_bind isSteady_read fun session => ?_
      exact isSteady_bind (isSteady_whenever (isSteady_moveTask _)) fun _ =>
        isSteady_raise _

theorem isSteady_executeAgent {capability : AgentCapability} {readOnly : Bool}
    {agentId : String} {excluded : List String} {tiers : List RelaxationTier} :
    IsSteady (executeAgent host capability readOnly agentId excluded tiers) := by
  refine isSteady_bind isSteady_currentPackage fun package =>
    isSteady_bind isSteady_observe fun moment => isSteady_ite ?_ ?_
  · exact isSteady_ite (isSteady_pure _) isSteady_waitForAgentAvailability
  · refine isSteady_bind (isSteady_executeWithFailover _ _) fun outcome => ?_
    cases outcome.1 with
    | some result => exact isSteady_pure _
    | none => exact isSteady_waitForAgentAvailability

theorem progress_recordRole (capability : AgentCapability) (agentId : String)
    (package : WorkPackage) :
    (recordRole capability agentId package).progress = package.progress := by
  cases capability with
  | review =>
      by_cases final : package.stage = .finalReview
      · simp [recordRole, WorkPackage.progress, final]
      · simp [recordRole, WorkPackage.progress, final]
  | _ => rfl

theorem isSteady_recordAgentExecution {capability : AgentCapability} {agentId : String} :
    IsSteady (recordAgentExecution capability agentId) :=
  isSteady_ite (isSteady_pure _)
    (isSteady_changePackage (progress_recordRole capability agentId))

/-- A call of an agent moves no package. -/
theorem isSteady_callAgent {capability : AgentCapability} {readOnly : Bool}
    {agentId : String} {excluded : List String} {tiers : List RelaxationTier} :
    IsSteady (callAgent host capability readOnly agentId excluded tiers) :=
  isSteady_bind isSteady_read fun _ =>
    isSteady_bind (isSteady_whenever (isSteady_moveTask _)) fun _ =>
      isSteady_bind isSteady_executeAgent fun _ =>
        isSteady_bind isSteady_recordAgentExecution fun _ => isSteady_pure _

end Frame

end Execraft.Orchestrate
