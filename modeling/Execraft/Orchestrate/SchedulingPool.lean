import Execraft.Orchestrate.AgentExecution
import Execraft.Orchestrate.Decomposition
import Mathlib.Data.Finset.Image
import Mathlib.Data.Finset.Union

/-!
# The scheduling pool

The registered adapters with their health, the temporary promotions of their complexity
ceilings, the selection of an agent among them, and the gate in front of an execution.
-/

namespace Execraft.Orchestrate

open Foundation Foundation.Json

/-! ## Adapters -/

inductive Availability where
  | available
  | busy
  | cooldown
  | contextLow
  | rateLimited
  | quotaExhausted
  | sessionLimit
  | networkTransient
  | authFailed
  | disabled
  deriving DecidableEq, Repr

def Availability.value : Availability → String
  | available => "available"
  | busy => "busy"
  | cooldown => "cooldown"
  | contextLow => "context_low"
  | rateLimited => "rate_limited"
  | quotaExhausted => "quota_exhausted"
  | sessionLimit => "session_limit"
  | networkTransient => "network_transient"
  | authFailed => "auth_failed"
  | disabled => "disabled"

def Availability.isTransient (availability : Availability) : Bool :=
  availability ∈ [busy, cooldown, rateLimited, quotaExhausted, sessionLimit,
    networkTransient]

structure ExecutionIdentity where
  candidateId : String
  runtimeId : String := "native"
  modelRouteId : String := ""
  targetId : String := ""
  legacyProviderId : String := ""
  candidateNamed : stripString candidateId ≠ ""

def ExecutionIdentity.providerId (identity : ExecutionIdentity) : String :=
  if identity.legacyProviderId ≠ "" then identity.legacyProviderId
  else identity.candidateId

structure AgentAdapter where
  /-- `execution_identity_of(adapter)`. -/
  identity : ExecutionIdentity
  /-- Does the adapter have an `execution_identity` of its own? -/
  exposesIdentity : Bool := true
  capabilities : List AgentCapability
  availability : Availability := .available
  /-- What `reset_transient_availability` leaves, where the adapter has it. -/
  afterReset : Option Availability := none
  /-- The configured weight, where it is an integer. -/
  configuredWeight : AgentCapability → Option Int := fun _ => none
  /-- The configured ceiling, where it is an integer. -/
  configuredMaxComplexity : AgentCapability → Option Int := fun _ => none
  model : String := ""
  readOnlyEnforcement : String := "provider_policy"
  satisfiesReadOnly : String → Bool := fun _ => true

namespace AgentAdapter

def candidateId (adapter : AgentAdapter) : String :=
  adapter.identity.candidateId

def providerId (adapter : AgentAdapter) : String :=
  adapter.identity.providerId

/-- `agent_capability_weight`. -/
def capabilityWeight (adapter : AgentAdapter) (capability : AgentCapability) : Int :=
  max 1 (min 100 ((adapter.configuredWeight capability).getD 50))

/-- `agent_max_complexity`. -/
def maxComplexity (adapter : AgentAdapter) (capability : AgentCapability) : Int :=
  max 0 (min 100 ((adapter.configuredMaxComplexity capability).getD 100))

theorem candidateId_ne_empty (adapter : AgentAdapter) : adapter.candidateId ≠ "" := by
  intro empty
  apply adapter.identity.candidateNamed
  rw [show adapter.identity.candidateId = "" from empty]
  rfl

end AgentAdapter

/-- The registered adapters: candidates with identities of their own, none of which is an
alias. -/
structure AgentRegistry where
  slots : List AgentAdapter
  aliases : Dict String := Dict.empty
  distinct : (slots.map AgentAdapter.candidateId).Nodup
  canonical : ∀ adapter ∈ slots, aliases.get? adapter.candidateId = none

/-- `_find_adapter`. -/
def AgentRegistry.findAdapter (registry : AgentRegistry) (agentId : String) :
    Option AgentAdapter :=
  registry.slots.find? fun adapter =>
    adapter.candidateId = (registry.aliases.get? agentId).getD agentId

/-! ## Health -/

/-- The reading of timestamps and of the clock. -/
structure Clock where
  /-- `datetime.fromisoformat`, where it does not raise. -/
  deadline : String → Option Int
  now : Int

structure HealthRecord where
  status : String := "available"
  reason : String := ""
  unavailableUntil : String := ""
  deriving DecidableEq, Repr

namespace HealthRecord

variable (clock : Clock)

/-- Has the deadline passed? -/
def isDue (record : HealthRecord) : Bool :=
  match clock.deadline record.unavailableUntil with
  | some deadline => deadline ≤ clock.now
  | none => false

def isAvailable (record : HealthRecord) : Bool :=
  record.status = "available" ∨ record.unavailableUntil ≠ "" ∧ record.isDue clock

/-- A record as the stores return it. -/
def observed (record : HealthRecord) : HealthRecord :=
  if record.status ≠ "available" ∧ record.isAvailable clock then
    { record with status := "probe_due" }
  else record

end HealthRecord

structure HealthStores where
  /-- By provider. -/
  provider : Dict HealthRecord := Dict.empty
  /-- By `dimension:identity`. -/
  execution : Dict HealthRecord := Dict.empty

namespace HealthStores

variable (clock : Clock) (stores : HealthStores)

/-- `ProviderHealthStore.get`. -/
def getProvider (providerId : String) : HealthRecord :=
  let record := (stores.provider.get? providerId).getD {}
  if record.reason = "invalid_output" then {} else record.observed clock

/-- `ExecutionHealthStore.get`. -/
def getExecution (dimension identity : String) : HealthRecord :=
  let identity := stripString identity
  if identity = "" then {}
  else ((stores.execution.get? (dimension ++ ":" ++ identity)).getD {}).observed clock

/-- `ExecutionHealthStore.first_unavailable`, with the dimension of the record. -/
def firstUnavailable (identity : ExecutionIdentity) : Option (String × HealthRecord) :=
  let values := [("candidate", identity.candidateId), ("runtime", identity.runtimeId),
    ("model_route", identity.modelRouteId), ("target", identity.targetId)]
  ((values.filter fun value => value.2 ≠ "").map fun value =>
    (value.1, stores.getExecution clock value.1 value.2)).find?
      fun health => ! health.2.isAvailable clock

/-- `candidate_is_healthy`. -/
def candidateIsHealthy (adapter : AgentAdapter) : Bool :=
  (stores.getProvider clock adapter.providerId).isAvailable clock ∧
    stores.firstUnavailable clock adapter.identity = none

end HealthStores

/-! ## Promotions -/

structure ProviderPromotion where
  providerId : String
  capability : String
  promotedMaxComplexity : Int
  expiresAt : String
  fallbackOnly : Bool := true
  packageId : String := ""
  allowFinalReview : Bool := false
  deriving DecidableEq, Repr

namespace ProviderPromotion

def isActive (clock : Clock) (promotion : ProviderPromotion) : Bool :=
  match clock.deadline promotion.expiresAt with
  | some deadline => clock.now < deadline
  | none => false

def appliesTo (clock : Clock) (promotion : ProviderPromotion)
    (providerId capability packageId stage : String) : Bool :=
  promotion.isActive clock ∧ promotion.providerId = providerId ∧
    promotion.capability = capability ∧
    (promotion.packageId = "" ∨ promotion.packageId = packageId) ∧
    (stage = "final_review" → capability = "review" → promotion.allowFinalReview)

/-- The order in which a store lists its promotions. -/
def listedBefore (left right : ProviderPromotion) : Bool :=
  [left.providerId, left.capability, left.packageId, left.expiresAt] ≤
    [right.providerId, right.capability, right.packageId, right.expiresAt]

/-- Is the second promotion stronger?  One for a package is stronger than one for all. -/
def weakerThan (left right : ProviderPromotion) : Bool :=
  let scope := fun promotion : ProviderPromotion =>
    if promotion.packageId = "" then 0 else 1
  (scope left : Nat) < scope right ∨ scope left = scope right ∧
    (left.promotedMaxComplexity < right.promotedMaxComplexity ∨
      left.promotedMaxComplexity = right.promotedMaxComplexity ∧
        left.expiresAt < right.expiresAt)

/-- `ProviderPromotionStore.applicable`: the first of the strongest. -/
def applicable (clock : Clock) (promotions : List ProviderPromotion)
    (providerId capability packageId stage : String) : Option ProviderPromotion :=
  match ((promotions.mergeSort listedBefore).filter fun promotion =>
      promotion.appliesTo clock providerId capability packageId stage) with
  | [] => none
  | head :: tail =>
      some (tail.foldl (fun best promotion =>
        if best.weakerThan promotion then promotion else best) head)

end ProviderPromotion

end Execraft.Orchestrate
