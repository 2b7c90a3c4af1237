import Execraft.Orchestrate.AgentEligibility

/-!
# When the selector and the gate agree

A failover step selects an agent outside the tried and the excluded ones, and the gate
examines it with the excluded ones alone.  The two part exactly where a tried candidate is
normally eligible and only a dormant promotion is left.
-/

namespace Execraft.Orchestrate

open Foundation Foundation.Json

namespace SchedulingPool

variable {py : Python} {clock : Clock} {pool : SchedulingPool}

/-! ## Whom the selector finds -/

section Choice

variable {excluded : Finset String} {complexity : Int} {capability : AgentCapability}
  {preferred : List String} {startAfter : String}
  {ceiling : AgentAdapter → AgentCapability → Int}

theorem mem_of_mem_narrowToCapable {eligible : List (String × Int)} {item : String × Int}
    (member : item ∈ pool.narrowToCapable complexity eligible) : item ∈ eligible := by
  unfold narrowToCapable at member
  split at member
  · split at member
    · exact List.mem_of_mem_filter member
    · exact List.mem_of_mem_filter member
  · exact member

theorem narrowToCapable_ne_nil {eligible : List (String × Int)} (nonempty : eligible ≠ [])
    (positive : ∀ item ∈ eligible, 0 < item.2) :
    pool.narrowToCapable complexity eligible ≠ [] := by
  have strongest : 1 ≤ largestWeight eligible := by
    obtain ⟨item, member, weight⟩ := exists_largestWeight nonempty positive
    have := positive item member
    omega
  unfold narrowToCapable
  split
  · split
    · exact filter_ne_nil_of_heaviest nonempty positive fun item weight => by
        simpa using weight
    · refine filter_ne_nil_of_heaviest nonempty positive fun item weight => ?_
      simp only [decide_eq_true_eq, weight]
      omega
  · exact nonempty

theorem weighted_positive (adapters : List AgentAdapter) :
    ∀ item ∈ adapters.map fun adapter =>
      (adapter.candidateId, adapter.capabilityWeight capability), 0 < item.2 := by
  intro item member
  obtain ⟨adapter, -, rfl⟩ := List.mem_map.mp member
  exact lt_of_lt_of_le Int.one_pos (le_max_left _ _)

/-- The selected candidate is an eligible adapter. -/
theorem exists_eligible_of_selectAgent {candidate : String}
    (selected : pool.selectAgent excluded complexity capability preferred startAfter
      ceiling = some candidate) :
    ∃ adapter ∈ pool.registry.slots,
      isEligible excluded (max 0 (min 100 complexity)) capability ceiling adapter = true ∧
        adapter.candidateId = candidate := by
  have ringMember := mem_preferredFirst.mp (mem_of_nextInRing selected)
  obtain ⟨item, narrowed, rfl⟩ := List.mem_map.mp ringMember
  obtain ⟨adapter, kept, rfl⟩ := List.mem_map.mp (mem_of_mem_narrowToCapable narrowed)
  exact ⟨adapter, List.mem_of_mem_filter kept, List.of_mem_filter kept, rfl⟩

theorem selectAgent_eq_none_iff :
    pool.selectAgent excluded complexity capability preferred startAfter ceiling = none ↔
      ∀ adapter ∈ pool.registry.slots,
        isEligible excluded (max 0 (min 100 complexity)) capability ceiling adapter =
          false := by
  constructor
  · intro stopped adapter member
    by_contra eligible
    have ringEmpty := nextInRing_eq_none_iff.mp stopped
    have kept := List.mem_map_of_mem
      (f := fun adapter : AgentAdapter =>
        (adapter.candidateId, adapter.capabilityWeight capability))
      (List.mem_filter.mpr ⟨member, Bool.not_eq_false _ ▸ eligible⟩)
    -- Narrowing leaves somebody, and the ring holds whom it leaves.
    have someLeft := @narrowToCapable_ne_nil pool (max 0 (min 100 complexity)) _
      (List.ne_nil_of_mem kept) (weighted_positive _)
    obtain ⟨item, narrowed⟩ := List.exists_mem_of_ne_nil _ someLeft
    exact List.not_mem_nil
      (ringEmpty ▸ mem_preferredFirst.mpr (List.mem_map_of_mem narrowed))
  · intro none
    by_contra found
    obtain ⟨candidate, selected⟩ := Option.ne_none_iff_exists'.mp found
    obtain ⟨adapter, member, eligible, -⟩ := exists_eligible_of_selectAgent selected
    exact Bool.false_ne_true ((none adapter member).symm.trans eligible)

end Choice

/-! ## The complexity of a package -/

theorem complexityScore_mem (py : Python) (package : WorkPackage) :
    1 ≤ complexityScore py package ∧ complexityScore py package ≤ 100 := by
  unfold complexityScore
  split
  · omega
  · simp only [inferredComplexity]
    omega

theorem capabilityComplexity_mem (py : Python) (package : WorkPackage)
    (capability : AgentCapability) :
    0 ≤ capabilityComplexity py package capability ∧
      capabilityComplexity py package capability ≤ 100 := by
  have range := complexityScore_mem py package
  simp only [capabilityComplexity]
  split
  · omega
  · omega

/-- The selector's clamp changes no complexity of a package. -/
theorem clamp_capabilityComplexity (package : WorkPackage) (capability : AgentCapability) :
    max 0 (min 100 (capabilityComplexity py package capability)) =
      capabilityComplexity py package capability := by
  have range := capabilityComplexity_mem py package capability
  omega

/-! ## Ceilings -/

section Ceilings

variable {capability : AgentCapability} {package : WorkPackage} {adapter : AgentAdapter}

/-- The promotion of the adapter counts as a fallback only. -/
def hasFallbackPromotion (clock : Clock) (pool : SchedulingPool)
    (capability : AgentCapability) (package : WorkPackage) (adapter : AgentAdapter) : Bool :=
  (pool.applicablePromotion clock adapter capability package).any
    fun promotion => promotion.fallbackOnly

theorem maxComplexity_le_effective {includeFallbackOnly : Bool} :
    adapter.maxComplexity capability ≤
      pool.effectiveMaxComplexity clock includeFallbackOnly package adapter capability := by
  unfold effectiveMaxComplexity
  cases pool.applicablePromotion clock adapter capability package with
  | none => exact le_refl _
  | some promotion =>
      dsimp only
      split
      · exact le_refl _
      · exact le_max_left _ _

/-- Without its fallback-only promotion an adapter has its configured ceiling. -/
theorem effective_of_hasFallbackPromotion
    (fallback : pool.hasFallbackPromotion clock capability package adapter = true) :
    pool.effectiveMaxComplexity clock false package adapter capability =
      adapter.maxComplexity capability := by
  unfold hasFallbackPromotion at fallback
  unfold effectiveMaxComplexity
  cases applicable : pool.applicablePromotion clock adapter capability package with
  | none => rfl
  | some promotion =>
      rw [applicable] at fallback
      have fallbackOnly : promotion.fallbackOnly = true := by simpa using fallback
      simp [fallbackOnly]

/-- Every other promotion counts in both passes. -/
theorem effective_eq_of_not_hasFallbackPromotion
    (immediate : pool.hasFallbackPromotion clock capability package adapter = false) :
    pool.effectiveMaxComplexity clock false package adapter capability =
      pool.effectiveMaxComplexity clock true package adapter capability := by
  unfold hasFallbackPromotion at immediate
  unfold effectiveMaxComplexity
  cases applicable : pool.applicablePromotion clock adapter capability package with
  | none => rfl
  | some promotion =>
      rw [applicable] at immediate
      have notFallbackOnly : promotion.fallbackOnly = false := by simpa using immediate
      simp [notFallbackOnly]

/-- With no immediate promotion in the pool the first pass knows the configured
ceilings only. -/
theorem effective_eq_maxComplexity
    (normal : pool.hasNonFallbackPromotion clock capability package = false)
    (member : adapter ∈ pool.registry.slots) (capable : capability ∈ adapter.capabilities) :
    pool.effectiveMaxComplexity clock false package adapter capability =
      adapter.maxComplexity capability := by
  have none := List.any_eq_false.mp normal adapter member
  unfold effectiveMaxComplexity
  cases applicable : pool.applicablePromotion clock adapter capability package with
  | none => rfl
  | some promotion =>
      have fallbackOnly : promotion.fallbackOnly = true := by
        simpa [capable, applicable] using none
      simp [fallbackOnly]

end Ceilings

/-! ## What the gate lets through -/

section Gate

variable {capability : AgentCapability} {package : WorkPackage} {adapter : AgentAdapter}

theorem append_ne_empty {head : String} (nonempty : head ≠ "") (tail : String) :
    head ++ tail ≠ "" := by
  intro empty
  exact nonempty (String.append_eq_empty_iff.mp empty).1

/-- A registered adapter is found under its own identity. -/
theorem findAdapter_candidateId {registry : AgentRegistry}
    (member : adapter ∈ registry.slots) :
    registry.findAdapter adapter.candidateId = some adapter := by
  simp only [AgentRegistry.findAdapter, registry.canonical adapter member, Option.getD_none]
  have exists_found : (registry.slots.find? fun former =>
      decide (former.candidateId = adapter.candidateId)).isSome = true :=
    List.find?_isSome.mpr ⟨adapter, member, decide_eq_true rfl⟩
  obtain ⟨found, isFound⟩ := Option.isSome_iff_exists.mp exists_found
  have same : found.candidateId = adapter.candidateId := by
    have holds := List.find?_some isFound
    simpa using holds
  exact isFound.trans (congrArg some (List.inj_on_of_nodup_map registry.distinct
    (List.mem_of_find?_eq_some isFound) member same))

theorem healthReason_of_isHealthy (healthy : pool.isHealthy clock adapter = true) :
    pool.healthReason clock adapter = "" := by
  simp only [isHealthy, HealthStores.candidateIsHealthy, decide_eq_true_eq] at healthy
  simp [healthReason, healthy.1, healthy.2]

/-- The complexity of a package passes the gate within the promoted ceiling, unless the
promotion is dormant. -/
theorem complexityReason_eq_empty_iff {excludedIds : Finset String} :
    pool.complexityReason py clock adapter capability package excludedIds = "" ↔
      capabilityComplexity py package capability ≤
          pool.effectiveMaxComplexity clock true package adapter capability ∧
        ¬(adapter.maxComplexity capability < capabilityComplexity py package capability ∧
          pool.hasFallbackPromotion clock capability package adapter = true ∧
          pool.hasNormallyEligibleAgent py clock capability package excludedIds = true) := by
  simp only [complexityReason]
  split
  · rename_i exceeded
    refine iff_of_false ?_ fun within => ?_
    · exact append_ne_empty (append_ne_empty (append_ne_empty (by decide) _) _) _
    · exact absurd within.1 (Int.not_le.mpr exceeded)
  · rename_i within
    split
    · rename_i dormant
      exact iff_of_false (by decide) fun passes => passes.2 dormant
    · rename_i active
      exact iff_of_true rfl ⟨Int.not_lt.mp within, active⟩

/-- A registered adapter passes the gate exactly when no check refuses it. -/
theorem agentIneligibilityReason_eq_empty_iff {excludedIds : Finset String}
    (member : adapter ∈ pool.registry.slots) :
    pool.agentIneligibilityReason py clock adapter.candidateId capability package
        excludedIds = "" ↔
      adapter.candidateId ∉ excludedIds ∧ capability ∈ adapter.capabilities ∧
        adapter.availability = .available ∧ pool.healthReason clock adapter = "" ∧
        pool.complexityReason py clock adapter capability package excludedIds = "" := by
  simp only [agentIneligibilityReason, adapter.candidateId_ne_empty, if_false,
    findAdapter_candidateId member]
  split
  · exact iff_of_false (by decide) fun passes => absurd ‹_› passes.1
  · split
    · exact iff_of_false (by decide) fun passes => absurd passes.2.1 ‹_›
    · split
      · exact iff_of_false (append_ne_empty (by decide) _)
          fun passes => absurd passes.2.2.1 ‹_›
      · split
        · exact iff_of_false ‹_› fun passes => absurd passes.2.2.2.1 ‹_›
        · simp_all

end Gate

/-! ## A step of the failover -/

end SchedulingPool

/-- What the gate of the step asks, the candidates tried before, and where the search
goes on. -/
structure FailoverStep where
  gate : SchedulingPool.ExecutionGate
  tried : Finset String := ∅
  startAfter : String := ""
  preferenceRole : String := ""

namespace FailoverStep

def role (step : FailoverStep) : String :=
  if step.preferenceRole ≠ "" then step.preferenceRole else step.gate.capability.value

/-- Tried candidates are excluded from a selection, but not at the gate. -/
def excludeIds (step : FailoverStep) : Finset String :=
  step.tried ∪ step.gate.policyExcluded

end FailoverStep

namespace SchedulingPool

section Definitions

variable (py : Python) (clock : Clock) (pool : SchedulingPool) (step : FailoverStep)

def selection : SelectionResult :=
  pool.selectAgentForCapability py clock step.gate.capability step.gate.package
    step.excludeIds step.startAfter step.preferenceRole

/-- The gate lets the selected candidate through. -/
def SelectorAgrees : Prop :=
  ∀ candidate, (pool.selection py clock step).chosen = some candidate →
    (pool.selection py clock step).pool.agentIneligibilityReason py clock candidate
      step.gate.capability (pool.selection py clock step).package
      step.gate.policyExcluded = ""

/-- The normally eligible agents in the binding pool of the stage, if it has one. -/
def normalAgents (capability : AgentCapability) (package : WorkPackage) :
    List AgentAdapter :=
  pool.registry.slots.filter fun adapter =>
    decide (adapter.candidateId ∉ (pool.bindingRoleExclusions package
      (executionPreferenceRole capability package.stage)).1) &&
    pool.isNormallyEligible py clock capability package adapter

/-- The complexity exceeds the ceiling of the adapter without its promotion. -/
def NeedsFallbackPromotion (capability : AgentCapability) (package : WorkPackage)
    (adapter : AgentAdapter) : Prop :=
  adapter.maxComplexity capability < capabilityComplexity py package capability ∧
    pool.hasFallbackPromotion clock capability package adapter = true

/-- Nothing speaks against an execution, except that the promotion may be dormant. -/
structure PassesOtherwise (gate : ExecutionGate) (adapter : AgentAdapter) : Prop where
  notExcluded : adapter.candidateId ∉ gate.policyExcluded
  capable : gate.capability ∈ adapter.capabilities
  available : adapter.availability = .available
  healthy : pool.healthReason clock adapter = ""
  withinPromoted : capabilityComplexity py gate.package gate.capability ≤
    pool.effectiveMaxComplexity clock true gate.package adapter gate.capability
  contract : gate.schemaHash = "" ∨
    (pool.contractHealth adapter.candidateId adapter.model gate.capability.value
      gate.schemaHash).isAvailable clock = true
  inRolePool : adapter.candidateId ∉ gate.rolePoolExcluded
  isolated : gate.readOnly = false ∨
    adapter.satisfiesReadOnly gate.requiredIsolation = true

/-- A provider that needs its fallback-only promotion is executed exactly when every
normally eligible agent was tried or is excluded. -/
def ExecutedWhenNeeded : Prop :=
  ∀ adapter ∈ pool.registry.slots,
    pool.NeedsFallbackPromotion py clock step.gate.capability step.gate.package adapter →
    pool.PassesOtherwise py clock step.gate adapter →
      (pool.skipReason py clock step.gate adapter.candidateId = "" ↔
        ∀ normal ∈ pool.normalAgents py clock step.gate.capability step.gate.package,
          normal.candidateId ∈ step.excludeIds)

/-- The adapters that a selection may take, their complexity apart. -/
def openAgents (capability : AgentCapability) (excluded : Finset String) :
    List AgentAdapter :=
  pool.registry.slots.filter fun adapter =>
    adapter.availability = .available ∧ capability ∈ adapter.capabilities ∧
      adapter.candidateId ∉ excluded

/-- The package without the stale preferences of a role. -/
def settledPackage (package : WorkPackage) (role : String) : WorkPackage :=
  (pool.preferredAgentIds (pool.bindingRoleExclusions package role).2 role).2

/-- What a selection for the step excludes. -/
def selectionExcluded : Finset String :=
  step.excludeIds ∪ pool.healthExcludedIds clock ∪
    (pool.bindingRoleExclusions step.gate.package step.role).1

/-- No agent that the selector may take is strong enough without a fallback-only
promotion, some agent is with one, and a normally eligible agent outside the policy
exclusions keeps that promotion dormant. -/
def StrandsSelection : Prop :=
  let package := pool.settledPackage step.gate.package step.role
  let complexity := capabilityComplexity py package step.gate.capability
  let openAgents := pool.openAgents step.gate.capability (pool.selectionExcluded clock step)
  (∀ adapter ∈ openAgents,
    pool.effectiveMaxComplexity clock false package adapter step.gate.capability <
      complexity) ∧
  (∃ adapter ∈ openAgents, complexity ≤
    pool.effectiveMaxComplexity clock true package adapter step.gate.capability) ∧
  ∃ normal ∈ pool.normalAgents py clock step.gate.capability package,
    normal.candidateId ∉ step.gate.policyExcluded

/-- Every normally eligible agent was tried or is excluded, some of them only tried, and a
provider that needs its fallback-only promotion waits. -/
def StrandsExecution : Prop :=
  (∀ normal ∈ pool.normalAgents py clock step.gate.capability step.gate.package,
    normal.candidateId ∈ step.excludeIds) ∧
  (∃ normal ∈ pool.normalAgents py clock step.gate.capability step.gate.package,
    normal.candidateId ∉ step.gate.policyExcluded) ∧
  ∃ adapter ∈ pool.registry.slots,
    pool.NeedsFallbackPromotion py clock step.gate.capability step.gate.package adapter ∧
    pool.PassesOtherwise py clock step.gate adapter

end Definitions

variable {py : Python} {clock : Clock} {pool : SchedulingPool}

/-! ## Normally eligible agents -/

section Normal

variable {capability : AgentCapability} {package : WorkPackage}

theorem complexityScore_agentPreferences (preferences : Dict (List String)) :
    complexityScore py { package with agentPreferences := preferences } =
      complexityScore py package := by
  simp only [complexityScore, inferredComplexity]

/-- Reading preferences changes nothing but preferences. -/
theorem capabilityComplexity_preferredAgentIds (role : String) :
    capabilityComplexity py (pool.preferredAgentIds package role).2 capability =
      capabilityComplexity py package capability := by
  simp only [preferredAgentIds]
  split
  · rfl
  · simp only [capabilityComplexity, complexityScore_agentPreferences]

theorem capabilityComplexity_bindingRoleExclusions (role : String) :
    capabilityComplexity py (pool.bindingRoleExclusions package role).2 capability =
      capabilityComplexity py package capability := by
  simp only [bindingRoleExclusions]
  split
  · split
    · exact capabilityComplexity_preferredAgentIds role
    · exact capabilityComplexity_preferredAgentIds role
  · rfl

theorem hasNormallyEligibleAgent_iff {excludedIds : Finset String} :
    pool.hasNormallyEligibleAgent py clock capability package excludedIds = true ↔
      ∃ normal ∈ pool.normalAgents py clock capability package,
        normal.candidateId ∉ excludedIds := by
  simp only [hasNormallyEligibleAgent, normalAgents, isNormallyEligible,
    capabilityComplexity_bindingRoleExclusions, List.any_eq_true, List.mem_filter,
    Bool.and_eq_true, decide_eq_true_eq, Finset.mem_union, not_or]
  constructor
  · rintro ⟨adapter, member, ⟨notExcluded, bound⟩, eligible⟩
    exact ⟨adapter, ⟨member, bound, eligible⟩, notExcluded⟩
  · rintro ⟨adapter, ⟨member, bound, eligible⟩, notExcluded⟩
    exact ⟨adapter, member, ⟨notExcluded, bound⟩, eligible⟩

end Normal

/-! ## The selection -/

section Selected

variable {step : FailoverStep} {adapter : AgentAdapter} {candidate : String}

theorem mem_openAgents {capability : AgentCapability} {excluded : Finset String} :
    adapter ∈ pool.openAgents capability excluded ↔
      adapter ∈ pool.registry.slots ∧ adapter.availability = .available ∧
        capability ∈ adapter.capabilities ∧ adapter.candidateId ∉ excluded := by
  simp [openAgents]

theorem isEligible_iff {excluded : Finset String} {complexity : Int}
    {capability : AgentCapability} {ceiling : AgentAdapter → AgentCapability → Int}
    (member : adapter ∈ pool.registry.slots) :
    isEligible excluded complexity capability ceiling adapter = true ↔
      adapter ∈ pool.openAgents capability excluded ∧
        complexity ≤ ceiling adapter capability := by
  simp [isEligible, mem_openAgents, member, and_assoc]

/-- Whom one pass of the selector finds. -/
theorem exists_openAgent_of_selectAgent {package : WorkPackage} {excluded : Finset String}
    {capability : AgentCapability} {preferred : List String} {startAfter : String}
    {ceiling : AgentAdapter → AgentCapability → Int}
    (selected : pool.selectAgent excluded (capabilityComplexity py package capability)
      capability preferred startAfter ceiling = some candidate) :
    ∃ adapter ∈ pool.openAgents capability excluded,
      adapter.candidateId = candidate ∧
        capabilityComplexity py package capability ≤ ceiling adapter capability := by
  obtain ⟨adapter, member, eligible, same⟩ := exists_eligible_of_selectAgent selected
  rw [clamp_capabilityComplexity] at eligible
  have isOpen := (isEligible_iff member).mp eligible
  exact ⟨adapter, isOpen.1, same, isOpen.2⟩

theorem selectAgent_eq_none_iff_openAgents {package : WorkPackage}
    {excluded : Finset String} {capability : AgentCapability} {preferred : List String}
    {startAfter : String} {ceiling : AgentAdapter → AgentCapability → Int} :
    pool.selectAgent excluded (capabilityComplexity py package capability) capability
        preferred startAfter ceiling = none ↔
      ∀ adapter ∈ pool.openAgents capability excluded,
        ceiling adapter capability < capabilityComplexity py package capability := by
  rw [selectAgent_eq_none_iff, clamp_capabilityComplexity]
  constructor
  · intro none adapter isOpen
    have member := (mem_openAgents.mp isOpen).1
    by_contra within
    have eligible := (isEligible_iff member).mpr ⟨isOpen, Int.not_lt.mp within⟩
    exact Bool.false_ne_true ((none adapter member).symm.trans eligible)
  · intro exceeded adapter member
    by_contra eligible
    have isOpen := (isEligible_iff member).mp (Bool.not_eq_false _ ▸ eligible)
    exact absurd (exceeded adapter isOpen.1) (Int.not_lt.mpr isOpen.2)

/-- The ceilings of the first pass are those without fallback-only promotions. -/
theorem selectAgent_first {package : WorkPackage} {excluded : Finset String}
    {complexity : Int} {capability : AgentCapability} {preferred : List String}
    {startAfter : String}
    (normal : pool.hasNonFallbackPromotion clock capability package = false) :
    pool.selectAgent excluded complexity capability preferred startAfter
        AgentAdapter.maxComplexity =
      pool.selectAgent excluded complexity capability preferred startAfter
        (pool.effectiveMaxComplexity clock false package) := by
  have same : pool.registry.slots.filter
        (isEligible excluded (max 0 (min 100 complexity)) capability
          AgentAdapter.maxComplexity) =
      pool.registry.slots.filter
        (isEligible excluded (max 0 (min 100 complexity)) capability
          (pool.effectiveMaxComplexity clock false package)) := by
    refine List.filter_congr fun adapter member => ?_
    by_cases capable : capability ∈ adapter.capabilities
    · simp [isEligible, effective_eq_maxComplexity normal member capable]
    · simp [isEligible, capable]
  simp only [selectAgent, same]

/-- Both passes of the selector, for settled preferences. -/
def selectInTwoPasses (py : Python) (clock : Clock) (pool : SchedulingPool)
    (package : WorkPackage) (capability : AgentCapability) (excluded : Finset String)
    (preferred : List String) (startAfter : String) : Option String :=
  let choose := pool.selectAgent excluded (capabilityComplexity py package capability)
    capability preferred startAfter
  (choose (pool.effectiveMaxComplexity clock false package)).or
    (choose (pool.effectiveMaxComplexity clock true package))

theorem chosen_selection :
    ∃ preferred startAfter, (pool.selection py clock step).chosen =
      (pool.refreshed clock).selectInTwoPasses py clock
        ((pool.refreshed clock).settledPackage step.gate.package step.role)
        step.gate.capability ((pool.refreshed clock).selectionExcluded clock step)
        preferred startAfter := by
  by_cases immediate : (pool.refreshed clock).hasNonFallbackPromotion clock
      step.gate.capability
      ((pool.refreshed clock).settledPackage step.gate.package step.role) = true
  · exact ⟨_, _, congrArg (Option.or · _) (if_pos immediate)⟩
  · refine ⟨_, _, congrArg (Option.or · _) ((if_neg immediate).trans ?_)⟩
    exact selectAgent_first (Bool.not_eq_true _ ▸ immediate)

section TwoPasses

variable {package : WorkPackage} {capability : AgentCapability} {excluded : Finset String}
  {preferred : List String} {startAfter : String}

/-- The second pass finds an agent only where the first finds none. -/
theorem exists_openAgent_of_selectInTwoPasses
    (selected : pool.selectInTwoPasses py clock package capability excluded preferred
      startAfter = some candidate) :
    ∃ adapter ∈ pool.openAgents capability excluded, adapter.candidateId = candidate ∧
      capabilityComplexity py package capability ≤
        pool.effectiveMaxComplexity clock true package adapter capability ∧
      (capabilityComplexity py package capability ≤
          pool.effectiveMaxComplexity clock false package adapter capability ∨
        ∀ other ∈ pool.openAgents capability excluded,
          pool.effectiveMaxComplexity clock false package other capability <
            capabilityComplexity py package capability) := by
  rcases Option.or_eq_some_iff.mp selected with first | ⟨none, second⟩
  · obtain ⟨adapter, isOpen, same, within⟩ := exists_openAgent_of_selectAgent first
    refine ⟨adapter, isOpen, same, within.trans ?_, Or.inl within⟩
    by_cases fallback : pool.hasFallbackPromotion clock capability package adapter = true
    · rw [effective_of_hasFallbackPromotion fallback]
      exact maxComplexity_le_effective
    · exact (effective_eq_of_not_hasFallbackPromotion (Bool.not_eq_true _ ▸ fallback)).le
  · obtain ⟨adapter, isOpen, same, within⟩ := exists_openAgent_of_selectAgent second
    exact ⟨adapter, isOpen, same, within,
      Or.inr (selectAgent_eq_none_iff_openAgents.mp none)⟩

/-- An agent within a promoted ceiling is enough for some choice. -/
theorem exists_selectInTwoPasses
    (found : ∃ adapter ∈ pool.openAgents capability excluded,
      capabilityComplexity py package capability ≤
        pool.effectiveMaxComplexity clock true package adapter capability) :
    ∃ candidate, pool.selectInTwoPasses py clock package capability excluded preferred
      startAfter = some candidate := by
  obtain ⟨adapter, isOpen, within⟩ := found
  refine Option.ne_none_iff_exists'.mp fun none => ?_
  have second := selectAgent_eq_none_iff_openAgents.mp (Option.or_eq_none_iff.mp none).2
  exact absurd (second adapter isOpen) (Int.not_lt.mpr within)

end TwoPasses

/-- Selected agents are healthy. -/
theorem isHealthy_of_mem_openAgents {capability : AgentCapability}
    (isOpen : adapter ∈ pool.openAgents capability (pool.selectionExcluded clock step)) :
    pool.isHealthy clock adapter = true := by
  obtain ⟨member, -, -, notExcluded⟩ := mem_openAgents.mp isOpen
  by_contra ill
  refine notExcluded (Finset.mem_union_left _ (Finset.mem_union_right _ ?_))
  refine List.mem_toFinset.mpr (List.mem_map_of_mem (List.mem_filter.mpr ⟨member, ?_⟩))
  simpa using ill

theorem not_mem_policyExcluded_of_mem_openAgents {capability : AgentCapability}
    (isOpen : adapter ∈ pool.openAgents capability (pool.selectionExcluded clock step)) :
    adapter.candidateId ∉ step.gate.policyExcluded := by
  intro policy
  exact (mem_openAgents.mp isOpen).2.2.2 (Finset.mem_union_left _
    (Finset.mem_union_left _ (Finset.mem_union_right _ policy)))

/-- The selector and the gate agree unless the selection is stranded. -/
theorem selectorAgrees_iff :
    pool.SelectorAgrees py clock step ↔
      ¬(pool.refreshed clock).StrandsSelection py clock step := by
  obtain ⟨preferred, startAfter, passes⟩ := @chosen_selection py clock pool step
  constructor
  · rintro agrees ⟨exceeded, promoted, normal⟩
    obtain ⟨candidate, selected⟩ :=
      @exists_selectInTwoPasses py clock _ _ _ _ preferred startAfter promoted
    obtain ⟨adapter, isOpen, rfl, within, -⟩ :=
      exists_openAgent_of_selectInTwoPasses selected
    have gate := agrees adapter.candidateId (passes.trans selected)
    have complexity := ((agentIneligibilityReason_eq_empty_iff
      (mem_openAgents.mp isOpen).1).mp gate).2.2.2.2
    refine (complexityReason_eq_empty_iff.mp complexity).2 ⟨?_, ?_, ?_⟩
    · exact maxComplexity_le_effective.trans_lt (exceeded adapter isOpen)
    · -- Another promotion would have counted in the first pass.
      by_contra immediate
      have same := effective_eq_of_not_hasFallbackPromotion (Bool.not_eq_true _ ▸ immediate)
      exact absurd (exceeded adapter isOpen) (Int.not_lt.mpr (same ▸ within))
    · exact hasNormallyEligibleAgent_iff.mpr normal
  · intro notStranded candidate selected
    obtain ⟨adapter, isOpen, rfl, within, first⟩ :=
      exists_openAgent_of_selectInTwoPasses (passes.symm.trans selected)
    obtain ⟨member, available, capable, -⟩ := mem_openAgents.mp isOpen
    refine (agentIneligibilityReason_eq_empty_iff member).mpr
      ⟨not_mem_policyExcluded_of_mem_openAgents isOpen, capable, available,
        healthReason_of_isHealthy (isHealthy_of_mem_openAgents isOpen),
        complexityReason_eq_empty_iff.mpr ⟨within, ?_⟩⟩
    rintro ⟨exceeded, fallback, normal⟩
    rcases first with configured | nobody
    · exact absurd exceeded (Int.not_lt.mpr
        (configured.trans_eq (effective_of_hasFallbackPromotion fallback)))
    · exact notStranded
        ⟨nobody, ⟨adapter, isOpen, within⟩, hasNormallyEligibleAgent_iff.mp normal⟩

end Selected

/-! ## The gate of the step -/

section Executed

variable {step : FailoverStep} {adapter : AgentAdapter}

/-- A provider that only its promotion may keep back is executed exactly when no normally
eligible agent is outside the policy exclusions. -/
theorem skipReason_eq_empty_iff {gate : ExecutionGate}
    (member : adapter ∈ pool.registry.slots)
    (needs : pool.NeedsFallbackPromotion py clock gate.capability gate.package adapter)
    (passes : pool.PassesOtherwise py clock gate adapter) :
    pool.skipReason py clock gate adapter.candidateId = "" ↔
      ∀ normal ∈ pool.normalAgents py clock gate.capability gate.package,
        normal.candidateId ∈ gate.policyExcluded := by
  have gated : pool.agentIneligibilityReason py clock adapter.candidateId gate.capability
        gate.package gate.policyExcluded = "" ↔
      ∀ normal ∈ pool.normalAgents py clock gate.capability gate.package,
        normal.candidateId ∈ gate.policyExcluded := by
    rw [agentIneligibilityReason_eq_empty_iff member, complexityReason_eq_empty_iff,
      hasNormallyEligibleAgent_iff]
    constructor
    · rintro ⟨-, -, -, -, -, notDormant⟩ normal normalMember
      by_contra outside
      exact notDormant ⟨needs.1, needs.2, normal, normalMember, outside⟩
    · intro noneOutside
      refine ⟨passes.notExcluded, passes.capable, passes.available, passes.healthy,
        passes.withinPromoted, ?_⟩
      rintro ⟨-, -, normal, normalMember, outside⟩
      exact outside (noneOutside normal normalMember)
  have contract : ¬(gate.schemaHash ≠ "" ∧
      (pool.contractHealth adapter.candidateId adapter.model gate.capability.value
        gate.schemaHash).isAvailable clock = false) := by
    rintro ⟨expected, broken⟩
    rcases passes.contract with unexpected | intact
    · exact expected unexpected
    · exact Bool.false_ne_true (broken.symm.trans intact)
  have isolated : ¬(gate.readOnly = true ∧
      adapter.satisfiesReadOnly gate.requiredIsolation = false) := by
    rintro ⟨readOnly, weak⟩
    rcases passes.isolated with writable | enforced
    · exact Bool.false_ne_true (writable.symm.trans readOnly)
    · exact Bool.false_ne_true (weak.symm.trans enforced)
  rw [← gated]
  simp only [skipReason, findAdapter_candidateId member, Option.isNone_some,
    Bool.false_eq_true, if_false, Option.map_some, Option.getD_some, contract,
    passes.inRolePool, isolated]
  split
  · exact Iff.rfl
  · rename_i passed
    exact iff_of_true rfl (not_not.mp passed)

theorem executedWhenNeeded_iff :
    pool.ExecutedWhenNeeded py clock step ↔ ¬pool.StrandsExecution py clock step := by
  constructor
  · rintro executed ⟨tried, ⟨normal, normalMember, outside⟩, adapter, member, needs, passes⟩
    have lets := (executed adapter member needs passes).mpr tried
    exact outside
      ((skipReason_eq_empty_iff member needs passes).mp lets normal normalMember)
  · intro notStranded adapter member needs passes
    rw [skipReason_eq_empty_iff member needs passes]
    constructor
    · intro excluded normal normalMember
      exact Finset.mem_union_right _ (excluded normal normalMember)
    · intro tried normal normalMember
      by_contra outside
      exact notStranded
        ⟨tried, ⟨normal, normalMember, outside⟩, adapter, member, needs, passes⟩

end Executed

/-- The selector and the gate agree exactly when they strand neither the selection nor an
execution: no tried agent keeps a needed fallback-only promotion dormant. -/
theorem agreement_iff (py : Python) (clock : Clock) (pool : SchedulingPool)
    (step : FailoverStep) :
    pool.SelectorAgrees py clock step ∧ pool.ExecutedWhenNeeded py clock step ↔
      ¬(pool.refreshed clock).StrandsSelection py clock step ∧
        ¬pool.StrandsExecution py clock step :=
  and_congr selectorAgrees_iff executedWhenNeeded_iff

/-! ## A stranded stage -/

section Stranded

def primaryAgent : AgentAdapter where
  identity := { candidateId := "primary", candidateNamed := by decide }
  capabilities := [.implement]

def reserveAgent : AgentAdapter where
  identity := { candidateId := "reserve", candidateNamed := by decide }
  capabilities := [.implement]
  configuredMaxComplexity := fun _ => some 30

/-- The reserve is promoted until a primary agent is missing. -/
def strandedPool : SchedulingPool where
  registry :=
    { slots := [primaryAgent, reserveAgent]
      distinct := by decide
      canonical := by simp [Dict.get?_empty] }
  promotions := [{
    providerId := "reserve"
    capability := "implement"
    promotedMaxComplexity := 100
    expiresAt := "tomorrow" }]

def strandedStep : FailoverStep where
  gate :=
    { capability := .implement
      package := { id := "package", title := "", stage := .implement, complexity := 60 }
      policyExcluded := ∅ }
  tried := {"primary"}
  startAfter := "primary"

def morning : Clock where
  deadline := fun text => if text = "tomorrow" then some 1 else none
  now := 0

/-- The primary agent was tried; the reserve is selected and refused. -/
theorem stranded_disagrees :
    ¬(strandedPool.SelectorAgrees asciiPython morning strandedStep ∧
      strandedPool.ExecutedWhenNeeded asciiPython morning strandedStep) := by
  rintro ⟨agrees, -⟩
  have selected : (strandedPool.selection asciiPython morning strandedStep).chosen =
      some "reserve" := by decide +kernel
  have refused : (strandedPool.selection asciiPython morning
      strandedStep).pool.agentIneligibilityReason asciiPython morning "reserve" .implement
        (strandedPool.selection asciiPython morning strandedStep).package ∅ =
      "promotion_fallback_not_needed" := by decide +kernel
  exact absurd (refused.symm.trans (agrees "reserve" selected)) (by decide)

end Stranded

end SchedulingPool

end Execraft.Orchestrate
