import Execraft.Orchestrate.Directives
import Execraft.Orchestrate.StateRecord
import Execraft.RepositorySync.Worktrees

/-!
# The choice of an agent

The configuration of the orchestrator, the registered agents, and what the
surroundings answer at one moment.  An agent is chosen among the registered ones that
have the capability and that nothing excludes.
-/

namespace Execraft.Orchestrate

open Foundation

inductive AgentCapability where
  | plan
  | decompose
  | implement
  | review
  | fixReview
  | brief
  | close
  | verify
  | supervise
  deriving DecidableEq, Repr

def AgentCapability.value : AgentCapability → String
  | plan => "plan"
  | decompose => "decompose"
  | implement => "implement"
  | review => "review"
  | fixReview => "fix_review"
  | brief => "brief"
  | close => "close"
  | verify => "verify"
  | supervise => "supervise"

/-! ## Configuration -/

structure ScopeRecoveryPolicy where
  enabled : Bool := true
  preferReviewer : Bool := true
  allowImplementerFallback : Bool := true

structure ReviewExhaustedPlaybookPolicy where
  enabled : Bool := true
  maxRescueCycles : Nat := 2
  maxFindings : Nat := 32
  preferNonSupervisorFixer : Bool := true
  allowSupervisorFallback : Bool := false

structure RecoveryPlaybookPolicy where
  enabled : Bool := true
  reviewExhausted : ReviewExhaustedPlaybookPolicy := {}

structure WorkspaceFinalizationPolicy where
  enabled : Bool := true
  requireCleanAfterAutomaticCommit : Bool := true

structure OrchestrationConfig where
  allowSameProviderReview : Bool := true
  maxAgentAttemptsPerStage : Nat := 3
  allowCrossPackageProgress : Bool := true
  autoDecomposeEnabled : Bool := false
  decomposeComplexityThreshold : Int := 60
  decomposeWhenNoEligibleProvider : Bool := true
  parallelShardsEnabled : Bool := true
  parallelShardMaxWorkers : Nat := 2
  parallelShardStages : List AgentCapability := [.implement, .review, .fixReview]
  parallelRequireDisjointRepositoriesForWrites : Bool := true
  supervisorAgentId : String := ""
  recoveryPlaybookPolicy : RecoveryPlaybookPolicy := {}
  maxVerificationAttempts : Nat := 3
  allowKnownEnvironmentBlockedFailures : Bool := true
  strictChecks : Bool := true
  scopeRecoveryPolicy : ScopeRecoveryPolicy := {}
  workspaceFinalizationPolicy : WorkspaceFinalizationPolicy := {}
  requireVerification : Bool := true
  requireStructuredAgentOutput : Bool := true
  requireAcceptanceEvidence : Bool := true
  autoCollectAcceptanceEvidence : Bool := true
  autoCommit : Bool := true
  maxReviewCycles : Nat := 3

/-! ## Agents and their surroundings -/

/-- A registered agent. -/
structure AgentSlot where
  candidateId : String
  capabilities : List AgentCapability
  concurrencyGroup : String := ""
  satisfiesReadOnly : Bool := true

/-- The members of an answer that the stages read. -/
structure AgentPayload where
  ok : Bool := true
  status : String := ""
  summary : String := ""
  implementationSummary : Option String := none
  verdict : String := ""
  findings : List String := []
  resolvedFindingIds : List String := []
  acceptanceEvidence : Dict String := Dict.empty
  retainPaths : List String := []
  discardPaths : List String := []

/-- How one invocation of an agent ends. -/
inductive AttemptAnswer where
  | success (payload : AgentPayload)
  | failure (classification : String) (consecutiveContractFailures : Nat)
  | broken (error : OrchestrateError)

/-- What is decided about a wait for an agent. -/
inductive AgentWaitPlan where
  | expired
  | onlyTooComplex
  | scheduled (waiting : Row)

/-- The inspection of how far the upstream has moved on. -/
inductive DivergenceCheck where
  | clear
  | unavailable (required : Bool)
  | behind

/-- One verification command that was run. -/
structure CommandResult where
  command : String
  status : String
  knownEnvironmentBlocked : Bool := false
  baselineAccepted : Bool := false

/-- One shard of a plan that passed its validation. -/
structure ShardProposal where
  key : String
  title : String
  complexity : Int
  repositories : List String
  requirements : List String := []
  acceptanceCriteria : List AcceptanceCriterion := []
  reviewFindings : List String := []
  dependsOn : List String := []
  readScope : List String := []
  writeScope : List String := []
  conflictKeys : List String := []
  parallelSafe : Bool := false

/-- An answer of a planner; the shards of a valid plan have keys of their own and depend
on one another only. -/
inductive DecompositionAnswer where
  | invalid
  | keepAtomic (reason : String)
  | shard (reason planHash : String) (shards : List ShardProposal)
      (distinct : (shards.map ShardProposal.key).Nodup)
      (closed : ∀ shard ∈ shards, shard.dependsOn ⊆ shards.map ShardProposal.key)

/-- The preparation of a repository synchronization. -/
structure SyncPreparation where
  transactionId : String
  needsResolution : Bool

/-- Whoever takes the first candidate takes one of them. -/
theorem head_chosen {candidates : List String} {chosen : String}
    (taken : candidates.head? = some chosen) : chosen ∈ candidates :=
  List.mem_of_mem_head? (Option.mem_def.mpr taken)

/-- What the surroundings answer at one moment. -/
structure Moment where
  now : String := ""
  refusal : AgentCapability → List String → String → String := fun _ _ _ => ""
  unhealthy : List String := []
  disabled : List String := []
  contractUnavailable : AgentCapability → List String := fun _ => []
  choose : AgentCapability → String → List String → Option String :=
    fun _ _ candidates => candidates.head?
  choose_mem : ∀ {capability role candidates chosen},
    choose capability role candidates = some chosen → chosen ∈ candidates := by
      exact head_chosen
  attempt : AttemptAnswer
  agentWaitPlan : AgentWaitPlan := .scheduled []
  nextAgentWait : Row → Row := fun _ => []
  eligibleForComplexity : Bool := true
  divergence : DivergenceCheck := .clear
  dirtyRepositories : List String := []
  verificationCommands : List CommandResult := []
  scopeCandidates : Except OrchestrateError (List String) := .ok []
  scopeRecoveryRefusal : Option String := none
  retainedPaths : Except OrchestrateError (List String × List String) := .ok ([], [])
  decomposition : DecompositionAnswer := .invalid
  collectedEvidence : List (String × String) := []
  externalFindings : List String → Bool := fun _ => false
  findingsFingerprint : List String → String := fun findings => String.join findings
  finalizationProblem : Option String := none
  ownsRepairDelta : Bool := false
  commitTransaction : Except OrchestrateError String := .ok ""
  syncTransaction : Option String := none
  syncPrepare : Except String SyncPreparation := .error ""
  syncAcceptResolution : Except String Unit := .ok ()
  syncMarkVerified : Except String Unit := .ok ()
  syncCommit : Except String String := .ok ""
  directives : List WorkPackageDirectiveCommand := []
  needsCleanup : Bool := false
  needsPause : Bool := false
  canResume : Bool := true
  isolationProblem : Option String := none
  contextBudgetExceeded : Bool := false
  completes : Nat := 0
  sourceChanged : Bool := false
  invalidOutput : Bool := false
  expandedScope : List String := []
  deltaProblem : Option String := none

/-- An orchestrator with its configuration, its agents and the moments to come. -/
structure Host where
  py : Python
  manifest : RepositorySync.TaskManifest := ⟨"", []⟩
  config : OrchestrationConfig
  slots : List AgentSlot
  requireCommands : Bool := false
  surroundings : Nat → Moment

/-! ## Selection -/

section Selection

variable (slots : List AgentSlot) (moment : Moment)

/-- The preferred agents of a role that are still registered and not disabled. -/
def preferredAgentIds (package : WorkPackage) (role : String) : List String :=
  (((package.agentPreferences.get? role).getD []).filter fun agentId =>
    slots.any (fun slot => slot.candidateId = agentId) &&
      decide (agentId ∉ moment.disabled)).dedup

/-- The agents outside of a binding pool. -/
def bindingRoleExclusions (package : WorkPackage) (role : String) : List String :=
  if role ∉ ["final_review", "fix_review"] ∧
      role ∉ package.runtime.agentPreferenceBindingRoles then
    []
  else
    let pool := preferredAgentIds slots moment package role
    if pool = [] then
      []
    else
      (slots.map AgentSlot.candidateId).filter fun agentId => agentId ∉ pool

/-- The agents among which the scheduler chooses. -/
def selectableAgents (package : WorkPackage) (capability : AgentCapability)
    (excluded : List String) (role : String) : List String :=
  ((slots.filter fun slot => capability ∈ slot.capabilities).map
    AgentSlot.candidateId).filter fun agentId =>
      agentId ≠ "" ∧ agentId ∉ excluded ∧ agentId ∉ moment.unhealthy ∧
        agentId ∉ bindingRoleExclusions slots moment package role

def selectAgentForCapability (package : WorkPackage) (capability : AgentCapability)
    (excluded : List String) (preferenceRole : String) : Option String :=
  let role := if preferenceRole = "" then capability.value else preferenceRole
  moment.choose capability role
    (selectableAgents slots moment package capability excluded role)

/-- Why an assigned agent must not be used; empty when it may. -/
def agentIneligibilityReason (agentId : String) (capability : AgentCapability)
    (excluded : List String) : String :=
  if agentId = "" then
    "missing_assignment"
  else
    match slots.find? fun slot => slot.candidateId = agentId with
    | none => "adapter_not_found"
    | some slot =>
        if slot.candidateId ∈ excluded then
          "policy_excluded"
        else if capability ∉ slot.capabilities then
          "capability_not_supported"
        else
          moment.refusal capability excluded agentId

variable {slots moment} {package : WorkPackage} {capability : AgentCapability}
  {excluded : List String} {role agentId : String}

theorem mem_selectableAgents :
    agentId ∈ selectableAgents slots moment package capability excluded role ↔
      (∃ slot ∈ slots, capability ∈ slot.capabilities ∧ slot.candidateId = agentId) ∧
        agentId ≠ "" ∧ agentId ∉ excluded ∧ agentId ∉ moment.unhealthy ∧
          agentId ∉ bindingRoleExclusions slots moment package role := by
  unfold selectableAgents
  simp [List.mem_filter, List.mem_map, and_assoc]

/-- A chosen agent is registered, named and not excluded. -/
theorem selectAgentForCapability_some
    (chosen : selectAgentForCapability slots moment package capability excluded role =
      some agentId) :
    agentId ∈ slots.map AgentSlot.candidateId ∧ agentId ≠ "" ∧ agentId ∉ excluded := by
  have member := mem_selectableAgents.mp (moment.choose_mem chosen)
  obtain ⟨⟨slot, registered, _, named⟩, nonempty, allowed, _, _⟩ := member
  exact ⟨List.mem_map.mpr ⟨slot, registered, named⟩, nonempty, allowed⟩

/-- An agent that may be used is named and not excluded. -/
theorem agentIneligibilityReason_empty
    (eligible : agentIneligibilityReason slots moment agentId capability excluded = "") :
    agentId ∈ slots.map AgentSlot.candidateId ∧ agentId ≠ "" ∧ agentId ∉ excluded := by
  unfold agentIneligibilityReason at eligible
  by_cases unnamed : agentId = ""
  · rw [if_pos unnamed] at eligible
    exact absurd eligible (by decide)
  · rw [if_neg unnamed] at eligible
    cases found : slots.find? (fun slot => slot.candidateId = agentId) with
    | none =>
        rw [found] at eligible
        dsimp only at eligible
        exact absurd eligible (by decide)
    | some slot =>
        rw [found] at eligible
        have same := find?_key_some found
        dsimp only at eligible
        by_cases barred : slot.candidateId ∈ excluded
        · rw [if_pos barred] at eligible
          exact absurd eligible (by decide)
        · rw [same.2] at barred
          exact ⟨List.mem_map.mpr ⟨slot, same.1, same.2⟩, unnamed, barred⟩

end Selection

end Execraft.Orchestrate
