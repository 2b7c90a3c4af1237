import Execraft.Foundation.Ring
import Execraft.Orchestrate.SchedulingPool

/-!
# The selector and the gate

The scheduler chooses an agent for a stage, first under the configured ceilings and then
under the promoted ones.  Before each execution a gate examines the assignment again.
-/

namespace Execraft.Orchestrate

open Foundation Foundation.Json

/-! ## The pool -/

structure SchedulingPolicy where
  rotateAgents : Bool := true
  preferCapableAgents : Bool := true
  complexityMediumThreshold : Int := 45
  complexityHighThreshold : Int := 70
  capabilityWeightBand : Int := 15
  deriving DecidableEq, Repr

structure ContractHealth where
  consecutiveFailures : Nat := 0
  unavailableUntil : String := ""
  deriving DecidableEq, Repr

def ContractHealth.isAvailable (clock : Clock) (health : ContractHealth) : Bool :=
  health.consecutiveFailures < 2 ∨ health.unavailableUntil = "" ∨
    (match clock.deadline health.unavailableUntil with
      | none => false
      | some deadline => decide (deadline ≤ clock.now)) = true

structure SchedulingPool where
  policy : SchedulingPolicy := {}
  registry : AgentRegistry
  health : HealthStores := {}
  promotions : List ProviderPromotion := []
  /-- `scheduler["agent_cursor"]`, by capability. -/
  agentCursor : Dict String := Dict.empty
  /-- By provider, model, capability and schema hash. -/
  contractHealth : String → String → String → String → ContractHealth := fun _ _ _ _ => {}

/-- What the transient availability of an adapter becomes once its provider is healthy. -/
def AgentAdapter.refreshed (clock : Clock) (health : HealthStores) (adapter : AgentAdapter) :
    AgentAdapter :=
  if adapter.availability.isTransient ∧
      (health.getProvider clock adapter.providerId).isAvailable clock then
    { adapter with availability := adapter.afterReset.getD adapter.availability }
  else adapter

@[simp] theorem AgentAdapter.candidateId_refreshed (clock : Clock) (health : HealthStores)
    (adapter : AgentAdapter) :
    (adapter.refreshed clock health).candidateId = adapter.candidateId := by
  unfold refreshed
  split
  · rfl
  · rfl

/-- Each adapter changed, the candidates kept. -/
def AgentRegistry.changed (registry : AgentRegistry) (change : AgentAdapter → AgentAdapter)
    (keeps : ∀ adapter, (change adapter).candidateId = adapter.candidateId) :
    AgentRegistry where
  slots := registry.slots.map change
  aliases := registry.aliases
  distinct := by
    have same : (registry.slots.map change).map AgentAdapter.candidateId =
        registry.slots.map AgentAdapter.candidateId := by
      rw [List.map_map]
      exact List.map_congr_left fun adapter _ => keeps adapter
    rw [same]
    exact registry.distinct
  canonical := by
    intro adapter member
    obtain ⟨former, formerMember, rfl⟩ := List.mem_map.mp member
    rw [keeps]
    exact registry.canonical former formerMember

namespace SchedulingPool

variable (py : Python) (clock : Clock) (pool : SchedulingPool)

/-- `_refresh_transient_adapter_availability`. -/
def refreshed : SchedulingPool :=
  { pool with
    registry := pool.registry.changed (AgentAdapter.refreshed clock pool.health)
      (AgentAdapter.candidateId_refreshed clock pool.health) }

def isHealthy (adapter : AgentAdapter) : Bool :=
  pool.health.candidateIsHealthy clock adapter

/-- `_health_excluded_ids`. -/
def healthExcludedIds : Finset String :=
  ((pool.registry.slots.filter fun adapter => ! pool.isHealthy clock adapter).map
    AgentAdapter.candidateId).toFinset

/-! ## Complexity -/

/-- `round(score * 0.75)`: halves go to the even neighbour. -/
def roundThreeQuarters (score : Int) : Int :=
  let quarters := 3 * score
  let down := quarters / 4
  if quarters % 4 = 3 ∨ quarters % 4 = 2 ∧ down % 2 = 1 then down + 1 else down

def capabilityComplexity (package : WorkPackage) (capability : AgentCapability) : Int :=
  let score := complexityScore py package
  if capability = .decompose then min 80 (max 25 (roundThreeQuarters score)) else score

/-- `_applicable_provider_promotion`. -/
def applicablePromotion (adapter : AgentAdapter) (capability : AgentCapability)
    (package : WorkPackage) : Option ProviderPromotion :=
  ProviderPromotion.applicable clock pool.promotions adapter.providerId capability.value
    package.id package.stage.value

/-- `_effective_agent_max_complexity`. -/
def effectiveMaxComplexity (includeFallbackOnly : Bool) (package : WorkPackage)
    (adapter : AgentAdapter) (capability : AgentCapability) : Int :=
  let base := adapter.maxComplexity capability
  match pool.applicablePromotion clock adapter capability package with
  | none => base
  | some promotion =>
      if promotion.fallbackOnly ∧ includeFallbackOnly = false then base
      else max base promotion.promotedMaxComplexity

/-- `_has_non_fallback_promotion`. -/
def hasNonFallbackPromotion (capability : AgentCapability) (package : WorkPackage) : Bool :=
  pool.registry.slots.any fun adapter =>
    decide (capability ∈ adapter.capabilities) &&
      (pool.applicablePromotion clock adapter capability package).any
        fun promotion => ! promotion.fallbackOnly

/-! ## Preferences -/

/-- One preferred value: an active agent's provider, or the identity that has none. -/
def resolvePreference (value : String) : String ⊕ String :=
  let candidate := (pool.registry.aliases.get? value).getD value
  match pool.registry.findAdapter candidate with
  | none => .inr candidate
  | some adapter =>
      if adapter.availability = .disabled then .inr candidate else .inl adapter.providerId

/-- `_preferred_agent_ids`: the active preferences, and the package without stale ones. -/
def preferredAgentIds (package : WorkPackage) (role : String) :
    List String × WorkPackage :=
  let resolved := ((package.agentPreferences.get? role).getD []).map pool.resolvePreference
  let result := ((resolved.filterMap Sum.getLeft?).filter fun value => value ≠ "").eraseDups
  let removed := (resolved.filterMap Sum.getRight?).filter fun value => value ≠ ""
  if removed = [] then (result, package)
  else
    (result, { package with agentPreferences := package.agentPreferences.set role result })

/-- `_binding_role_exclusions`, and the package without stale preferences. -/
def bindingRoleExclusions (package : WorkPackage) (role : String) :
    Finset String × WorkPackage :=
  if role ∈ ["final_review", "fix_review"] ∨
      role ∈ package.runtime.agentPreferenceBindingRoles then
    let preferred := pool.preferredAgentIds package role
    if preferred.1 = [] then (∅, preferred.2)
    else
      (((pool.registry.slots.map AgentAdapter.candidateId).filter
        fun candidate => candidate ∉ preferred.1).toFinset, preferred.2)
  else (∅, package)

/-! ## Selection -/

/-- Who may be selected under the given ceilings. -/
def isEligible (excluded : Finset String) (complexity : Int) (capability : AgentCapability)
    (ceiling : AgentAdapter → AgentCapability → Int) (adapter : AgentAdapter) : Bool :=
  adapter.availability = .available ∧ capability ∈ adapter.capabilities ∧
    adapter.candidateId ∉ excluded ∧ complexity ≤ ceiling adapter capability

/-- The candidates that are strong enough for the complexity. -/
def narrowToCapable (complexity : Int) (eligible : List (String × Int)) :
    List (String × Int) :=
  let strongest := largestWeight eligible
  if pool.policy.preferCapableAgents ∧
      pool.policy.complexityMediumThreshold ≤ complexity then
    if pool.policy.complexityHighThreshold ≤ complexity then
      eligible.filter fun item => item.2 = strongest
    else
      eligible.filter fun item =>
        max 1 (strongest - max 0 pool.policy.capabilityWeightBand) ≤ item.2
  else eligible

/-- `select_agent` over the registered adapters. -/
def selectAgent (excluded : Finset String) (complexity : Int) (capability : AgentCapability)
    (preferred : List String) (startAfter : String)
    (ceiling : AgentAdapter → AgentCapability → Int) : Option String :=
  let complexity := max 0 (min 100 complexity)
  let eligible := (pool.registry.slots.filter
    (isEligible excluded complexity capability ceiling)).map
      fun adapter => (adapter.candidateId, adapter.capabilityWeight capability)
  let capable := pool.narrowToCapable complexity eligible
  nextInRing (preferredFirst preferred (capable.map Prod.fst))
    (if startAfter = "" then none else some startAfter)

/-- What a selection leaves: the choice, the refreshed adapters and the package without
stale preferences. -/
structure SelectionResult where
  chosen : Option String
  pool : SchedulingPool
  package : WorkPackage

/-- `_select_agent_for_capability` for a package; an empty role stands for that of the
capability. -/
def selectAgentForCapability (capability : AgentCapability) (package : WorkPackage)
    (excludeIds : Finset String) (startAfter preferenceRole : String) : SelectionResult :=
  let pool := pool.refreshed clock
  let role := if preferenceRole ≠ "" then preferenceRole else capability.value
  let binding := pool.bindingRoleExclusions package role
  let excluded := excludeIds ∪ pool.healthExcludedIds clock ∪ binding.1
  let preferred := pool.preferredAgentIds binding.2 role
  let package := preferred.2
  let cursor :=
    if pool.policy.rotateAgents ∧ startAfter = "" ∧ preferred.1 = [] then
      (pool.agentCursor.get? capability.value).getD ""
    else startAfter
  let choose := pool.selectAgent excluded (capabilityComplexity py package capability)
    capability preferred.1 (if pool.policy.rotateAgents then cursor else "")
  let first :=
    if pool.hasNonFallbackPromotion clock capability package then
      choose (pool.effectiveMaxComplexity clock false package)
    else choose AgentAdapter.maxComplexity
  { chosen := first.or (choose (pool.effectiveMaxComplexity clock true package))
    pool := pool
    package := package }

/-! ## The gate -/

/-- Is the adapter eligible without any promotion, exclusions apart? -/
def isNormallyEligible (capability : AgentCapability) (package : WorkPackage)
    (adapter : AgentAdapter) : Bool :=
  capability ∈ adapter.capabilities ∧ adapter.availability = .available ∧
    pool.isHealthy clock adapter ∧
      capabilityComplexity py package capability ≤ adapter.maxComplexity capability

/-- `_has_normally_eligible_agent`. -/
def hasNormallyEligibleAgent (capability : AgentCapability) (package : WorkPackage)
    (excludedIds : Finset String) : Bool :=
  let binding := pool.bindingRoleExclusions package
    (executionPreferenceRole capability package.stage)
  pool.registry.slots.any fun adapter =>
    decide (adapter.candidateId ∉ excludedIds ∪ binding.1) &&
      pool.isNormallyEligible py clock capability binding.2 adapter

/-- A reason, or what stands for it when there is none. -/
def reasonOr (reason fallback : String) : String :=
  if reason = "" then fallback else reason

/-- Why the gate does not trust the health of an adapter. -/
def healthReason (adapter : AgentAdapter) : String :=
  let health := pool.health.getProvider clock adapter.providerId
  if health.isAvailable clock = false then reasonOr health.reason "provider_unavailable"
  else if adapter.exposesIdentity then
    match pool.health.firstUnavailable clock adapter.identity with
    | none => ""
    | some (dimension, record) =>
        dimension ++ "_unavailable:" ++ reasonOr record.reason record.status
  else ""

/-- Why the gate does not trust an adapter with the complexity of the package. -/
def complexityReason (adapter : AgentAdapter) (capability : AgentCapability)
    (package : WorkPackage) (excludedIds : Finset String) : String :=
  let complexity := capabilityComplexity py package capability
  let maximum := pool.effectiveMaxComplexity clock true package adapter capability
  if maximum < complexity then
    "complexity_limit:" ++ toString complexity ++ ">" ++ toString maximum
  else if adapter.maxComplexity capability < complexity ∧
      (pool.applicablePromotion clock adapter capability package).any
        (fun promotion => promotion.fallbackOnly) ∧
      pool.hasNormallyEligibleAgent py clock capability package excludedIds then
    "promotion_fallback_not_needed"
  else ""

/-- `_agent_ineligibility_reason`: empty when the assignment is safe. -/
def agentIneligibilityReason (agentId : String) (capability : AgentCapability)
    (package : WorkPackage) (excludedIds : Finset String) : String :=
  if agentId = "" then "missing_assignment"
  else
    match pool.registry.findAdapter agentId with
    | none => "adapter_not_found"
    | some adapter =>
        if adapter.candidateId ∈ excludedIds then "policy_excluded"
        else if capability ∉ adapter.capabilities then "capability_not_supported"
        else if adapter.availability ≠ .available then
          "adapter_" ++ adapter.availability.value
        else if pool.healthReason clock adapter ≠ "" then pool.healthReason clock adapter
        else pool.complexityReason py clock adapter capability package excludedIds

/-- What one execution asks of its candidates. -/
structure ExecutionGate where
  capability : AgentCapability
  package : WorkPackage
  policyExcluded : Finset String
  /-- Empty where no schema is expected. -/
  schemaHash : String := ""
  readOnly : Bool := false
  requiredIsolation : String := "advisory"
  rolePoolExcluded : Finset String := ∅

/-- The reason with which `_eligibility_payload` skips a candidate; empty when it is
executed. -/
def skipReason (gate : ExecutionGate) (candidateId : String) : String :=
  let adapter := pool.registry.findAdapter candidateId
  let reason :=
    if adapter.isNone then "adapter_not_found"
    else pool.agentIneligibilityReason py clock candidateId gate.capability gate.package
      gate.policyExcluded
  let contract := pool.contractHealth candidateId ((adapter.map AgentAdapter.model).getD "")
    gate.capability.value gate.schemaHash
  if reason ≠ "" then reason
  else if gate.schemaHash ≠ "" ∧ contract.isAvailable clock = false then
    "contract_invalid_output"
  else if candidateId ∈ gate.rolePoolExcluded then "role_pool_excluded"
  else
    match adapter with
    | none => ""
    | some adapter =>
        if gate.readOnly ∧ adapter.satisfiesReadOnly gate.requiredIsolation = false then
          "read_only_isolation:" ++ adapter.readOnlyEnforcement ++ "<" ++
            gate.requiredIsolation
        else ""

end SchedulingPool

end Execraft.Orchestrate
