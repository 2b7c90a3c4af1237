import Execraft.Foundation.CrashPoints
import Execraft.Orchestrate.FailoverOrder
import Mathlib.Tactic.Tauto

/-!
# Readmission by relaxation tiers

A stage with a single candidate, which every tier that admits it again lets run
again.  So the condition under which stages are orderly is a necessary one, and the
tiers of a fixer do not meet it.
-/

namespace Execraft.Orchestrate.ProviderFailoverCoordinator

open Foundation

/-! ## A strategy with one candidate -/

section Readmission

variable {py : Python} {request : FailoverRequest} {log : Log} {progress : Progress}
  {candidateId : String}

/-- The coordinator whose only adapter is registered under this identifier. -/
def single (candidateId : String) : ProviderFailoverCoordinator where
  adapter name := if name = candidateId then some ⟨candidateId, [], "", true⟩ else none
  metadata _ := ⟨"", "", .null⟩
  maxAttemptsPerStage := 2
  strictChecks := true
  requireStructuredOutput := true

theorem single_registered (candidateId : String) :
    Registered (single candidateId) [candidateId] [] := by
  constructor
  · intro name slot found
    simp only [single] at found ⊢
    split_ifs at found
    cases found
    simp
  · intro name member slot found
    simp only [List.append_nil, List.mem_singleton] at member
    simp only [single, member, if_true, Option.some.injEq] at found
    rw [← found, member]

theorem canonicalId_single (candidateId : String) :
    canonicalId (single candidateId) candidateId = candidateId := by
  simp [canonicalId, single]

/-- The tier that admits a candidate which has been tried. -/
def readmission (candidateId : String) :
    Finset String → List (String × Finset String) → Found
  | policyExcluded, [] => ⟨"", policyExcluded, []⟩
  | policyExcluded, tier :: rest =>
      if candidateId ∈ policyExcluded ∧ candidateId ∉ tier.2 then
        ⟨candidateId, tier.2, rest⟩
      else readmission candidateId tier.2 rest

/-- The candidate is excluded and admitted right behind. -/
def Released (candidateId : String) (exclusions : List (Finset String)) : Prop :=
  ∃ front excluding readmitting back,
    exclusions = front ++ excluding :: readmitting :: back ∧
      candidateId ∈ excluding ∧ candidateId ∉ readmitting

theorem readmission_of_released {policyExcluded : Finset String}
    {tiers : List (String × Finset String)}
    (released : Released candidateId (policyExcluded :: tiers.map Prod.snd)) :
    (readmission candidateId policyExcluded tiers).nextId = candidateId ∧
      candidateId ∉ (readmission candidateId policyExcluded tiers).policyExcluded := by
  induction tiers generalizing policyExcluded with
  | nil =>
      obtain ⟨front, excluding, readmitting, back, split, _⟩ := released
      have lengths := congrArg List.length split
      simp only [List.length_cons, List.length_append, List.map_nil,
        List.length_nil] at lengths
      omega
  | cons tier rest inductionHypothesis =>
      rw [readmission]
      by_cases here : candidateId ∈ policyExcluded ∧ candidateId ∉ tier.2
      · rw [if_pos here]
        exact ⟨rfl, here.2⟩
      · rw [if_neg here]
        apply inductionHypothesis
        obtain ⟨front, excluding, readmitting, back, split, inside, outside⟩ := released
        cases front with
        | nil =>
            rw [List.nil_append, List.map_cons] at split
            obtain ⟨first, others⟩ := List.cons.inj split
            rw [← first] at inside
            rw [← (List.cons.inj others).1] at outside
            exact absurd ⟨inside, outside⟩ here
        | cons head tail =>
            exact ⟨tail, excluding, readmitting, back, (List.cons.inj split).2, inside,
              outside⟩

/-- An excluded candidate that is admitted and released later is readmitted before
its release. -/
theorem readmission_releases {policyExcluded : Finset String}
    {tiers : List (String × Finset String)} (excluded : candidateId ∈ policyExcluded)
    {front middle back : List (Finset String)}
    {admitting excluding readmitting : Finset String}
    (split : policyExcluded :: tiers.map Prod.snd =
      front ++ admitting :: middle ++ excluding :: readmitting :: back)
    (first : candidateId ∉ admitting) (second : candidateId ∈ excluding)
    (third : candidateId ∉ readmitting) :
    (readmission candidateId policyExcluded tiers).nextId = candidateId ∧
      candidateId ∉ (readmission candidateId policyExcluded tiers).policyExcluded ∧
      Released candidateId
        ((readmission candidateId policyExcluded tiers).policyExcluded ::
          (readmission candidateId policyExcluded tiers).relaxationTiers.map
            Prod.snd) := by
  induction tiers generalizing policyExcluded front with
  | nil =>
      have lengths := congrArg List.length split
      simp only [List.length_cons, List.length_append, List.map_nil,
        List.length_nil] at lengths
      omega
  | cons tier rest inductionHypothesis =>
      cases front with
      | nil =>
          rw [List.nil_append, List.cons_append] at split
          rw [(List.cons.inj split).1] at excluded
          exact absurd excluded first
      | cons head tail =>
          have later := (List.cons.inj split).2
          rw [readmission]
          by_cases here : candidateId ∈ policyExcluded ∧ candidateId ∉ tier.2
          · rw [if_pos here]
            exact ⟨rfl, here.2, tail ++ admitting :: middle, excluding, readmitting, back,
              later, second, third⟩
          · rw [if_neg here]
            apply inductionHypothesis _ later
            by_contra outside
            exact here ⟨excluded, outside⟩

theorem finishes_select {pool : List String} {excluded : Finset String}
    {startAfterId : String} (selected : Option String)
    (lawful : ∀ other, selected = some other → other ∉ excluded ∧ other ∈ pool) :
    Program.Finishes (Step pool) log (select request excluded startAfterId)
      (selected.getD "") log := by
  have answered : Program.Finishes (Step pool) log (FailoverAction.selectCandidate
      request.capability excluded startAfterId request.preferenceRole) selected log :=
    Program.finishes_request.mpr ⟨lawful, rfl⟩
  exact answered.bind (Program.finishes_pure.mpr ⟨rfl, rfl⟩)

theorem finishes_relaxTiers {tried : Finset String} (inTried : candidateId ∈ tried)
    (present : candidateId ≠ "") (policyExcluded : Finset String)
    (tiers : List (String × Finset String)) :
    Program.Finishes (Step [candidateId]) log
      (relaxTiers request tried candidateId policyExcluded tiers)
      (readmission candidateId policyExcluded tiers) log := by
  induction tiers generalizing policyExcluded with
  | nil => exact Program.finishes_pure.mpr ⟨rfl, rfl⟩
  | cons tier rest inductionHypothesis =>
      rw [relaxTiers, readmission]
      have healthy : Program.Finishes (Step [candidateId]) log
          FailoverAction.healthExcludedIds ∅ log :=
        Program.finishes_request.mpr ⟨trivial, rfl⟩
      apply healthy.bind
      have excluded : candidateId ∉ (tried \ (policyExcluded \ tier.2)) ∪ tier.2 ∪ ∅ ↔
          candidateId ∈ policyExcluded ∧ candidateId ∉ tier.2 := by
        simp only [Finset.mem_union, Finset.mem_sdiff, Finset.notMem_empty, or_false,
          inTried, true_and]
        tauto
      by_cases here : candidateId ∈ policyExcluded ∧ candidateId ∉ tier.2
      · have chosen : Program.Finishes (Step [candidateId]) log
            (select request ((tried \ (policyExcluded \ tier.2)) ∪ tier.2 ∪ ∅)
              candidateId) candidateId log := by
          apply finishes_select (some candidateId)
          rintro other same
          cases same
          exact ⟨excluded.mpr here, List.mem_cons_self⟩
        rw [if_pos here]
        apply chosen.bind
        rw [if_pos present]
        have announced : Program.Finishes (Step [candidateId]) log
            (FailoverAction.onRelaxed tier.1 candidateId tier.2) () log :=
          Program.finishes_request.mpr ⟨trivial, rfl⟩
        exact announced.bind (Program.finishes_pure.mpr ⟨rfl, rfl⟩)
      · have nothing : Program.Finishes (Step [candidateId]) log
            (select request ((tried \ (policyExcluded \ tier.2)) ∪ tier.2 ∪ ∅)
              candidateId) "" log := by
          apply finishes_select none
          rintro other same
          cases same
        rw [if_neg here]
        apply nothing.bind
        rw [if_neg (not_not.mpr rfl)]
        exact inductionHypothesis tier.2

/-- Where the loop goes on from its only candidate. -/
def onward (progress : Progress) : Progress :=
  let found := readmission progress.candidateId progress.policyExcluded
    progress.relaxationTiers
  { progress with
    candidateId := found.nextId
    repair := {}
    policyExcluded := found.policyExcluded
    relaxationTiers := found.relaxationTiers }

theorem finishes_advance (inTried : progress.candidateId ∈ progress.tried)
    (present : progress.candidateId ≠ "") (noFallbacks : request.orderedFallbacks = []) :
    Program.Finishes (Step [progress.candidateId]) log
      (advance (single progress.candidateId) request progress false)
      (onward progress) log := by
  have healthy : Program.Finishes (Step [progress.candidateId]) log
      FailoverAction.healthExcludedIds ∅ log :=
    Program.finishes_request.mpr ⟨trivial, rfl⟩
  have nothing : Program.Finishes (Step [progress.candidateId]) log
      (select request (progress.tried ∪ progress.policyExcluded ∪ ∅)
        progress.candidateId) "" log := by
    apply finishes_select none
    rintro other same
    cases same
  have searched : Program.Finishes (Step [progress.candidateId]) log
      (nextCandidate (single progress.candidateId) request progress false)
      (readmission progress.candidateId progress.policyExcluded
        progress.relaxationTiers) log := by
    unfold nextCandidate
    apply healthy.bind
    rw [noFallbacks]
    exact nothing.bind (finishes_relaxTiers inTried present _ _)
  have announced : ∀ toId, Program.Finishes (Step [progress.candidateId]) log
      (announceTransition progress.candidateId toId) () log := by
    intro toId
    unfold announceTransition
    split_ifs
    · exact Program.finishes_request.mpr ⟨trivial, rfl⟩
    · exact Program.finishes_request.mpr ⟨trivial, rfl⟩
    · exact Program.finishes_pure.mpr ⟨rfl, rfl⟩
  unfold advance
  apply searched.bind
  exact (announced _).bind (Program.finishes_pure.mpr ⟨rfl, rfl⟩)

/-- A pass that skips the only candidate. -/
theorem finishes_skip (present : progress.candidateId ≠ "")
    (noFallbacks : request.orderedFallbacks = []) :
    Program.Finishes (Step [progress.candidateId]) log
      (turn py (single progress.candidateId) request progress)
      (.continued (onward { progress with
        tried := insert progress.candidateId progress.tried
        attempts := progress.attempts ++ [skippedRow py progress.candidateId []] }))
      (log ++ [.checked progress.candidateId progress.policyExcluded]) := by
  have refused : Program.Finishes (Step [progress.candidateId]) log
      (FailoverAction.eligibility progress.candidateId request.capability
        progress.policyExcluded (contractSchemaHash py request)
        request.handoff.readOnly request.handoff.requiredIsolation) (some ([] : Row))
      (log ++ [.checked progress.candidateId progress.policyExcluded]) :=
    Program.finishes_request.mpr ⟨fun _ => Option.some_ne_none _, rfl⟩
  have announced : Program.Finishes (Step [progress.candidateId])
      (log ++ [.checked progress.candidateId progress.policyExcluded])
      (FailoverAction.onProviderSkipped progress.candidateId []) ()
      (log ++ [.checked progress.candidateId progress.policyExcluded]) :=
    Program.finishes_request.mpr ⟨trivial, rfl⟩
  unfold turn
  rw [canonicalId_single]
  apply refused.bind
  apply announced.bind
  have advanced := @finishes_advance request
    (log ++ [.checked progress.candidateId progress.policyExcluded])
    { progress with
      tried := insert progress.candidateId progress.tried
      attempts := progress.attempts ++ [skippedRow py progress.candidateId []] }
    (Finset.mem_insert_self _ _) present noFallbacks
  exact advanced.bind (Program.finishes_pure.mpr ⟨rfl, rfl⟩)

/-- The answer of a candidate that fails, though not by an invalid output. -/
def failedAttempt : AgentAttemptResult where
  success := false
  result := none
  invocationId := ""
  failure := []
  handoffSha256 := ""
  artifact := none
  classification := "provider_error"
  retryAfterSeconds := .null
  rawResult := none
  consecutiveFailures := none

theorem finishes_executeAttempt {attempt : AttemptRequest} {slot : AgentSlot}
    {pool : List String} (adapter : attempt.adapter = some slot) :
    Program.Finishes (Step pool) log (FailoverAction.executeAttempt attempt)
      failedAttempt (log ++ [.executed slot.candidateId]) := by
  have unreported : Reported (log ++ [.executed slot.candidateId]) slot.candidateId none
      (log ++ [.executed slot.candidateId]) := by
    simp [Reported]
  apply Program.finishes_request.mpr
  simp only [Step, adapter]
  exact unreported

/-- A pass that executes the only candidate. -/
theorem finishes_execution (present : progress.candidateId ≠ "")
    (noFallbacks : request.orderedFallbacks = [])
    (noRepair : progress.repair.source = "")
    (allowed : progress.candidateId ∉ progress.policyExcluded) :
    Program.Finishes (Step [progress.candidateId]) log
      (turn py (single progress.candidateId) request progress)
      (.continued (onward { progress with
        tried := insert progress.candidateId progress.tried
        attempts := progress.attempts ++
          [failedRow py progress.candidateId "" "" failedAttempt]
        executionAttempts := progress.executionAttempts + 1 }))
      (log ++ [.checked progress.candidateId progress.policyExcluded] ++
        [.executed progress.candidateId]) := by
  have eligible : Program.Finishes (Step [progress.candidateId]) log
      (FailoverAction.eligibility progress.candidateId request.capability
        progress.policyExcluded (contractSchemaHash py request)
        request.handoff.readOnly request.handoff.requiredIsolation) none
      (log ++ [.checked progress.candidateId progress.policyExcluded]) :=
    Program.finishes_request.mpr ⟨fun inside => absurd inside allowed, rfl⟩
  have own : (single progress.candidateId).adapter progress.candidateId =
      some ⟨progress.candidateId, [], "", true⟩ := by
    simp [single]
  unfold turn
  rw [canonicalId_single, own]
  apply eligible.bind
  generalize log ++ [.checked progress.candidateId progress.policyExcluded] = current
  have named : Program.Finishes (Step [progress.candidateId]) current
      FailoverAction.hex "" current := Program.finishes_request.mpr ⟨trivial, rfl⟩
  have parent : Program.Finishes (Step [progress.candidateId]) current
      FailoverAction.parentInvocationId "" current :=
    Program.finishes_request.mpr ⟨trivial, rfl⟩
  have measured : Program.Finishes (Step [progress.candidateId]) current
      FailoverAction.prepareAttempt "" current :=
    Program.finishes_request.mpr ⟨trivial, rfl⟩
  have rendered : ∀ handoff, Program.Finishes (Step [progress.candidateId]) current
      (FailoverAction.renderPrompt handoff) "" current :=
    fun handoff => Program.finishes_request.mpr ⟨trivial, rfl⟩
  unfold execute
  apply parent.bind
  apply Program.Finishes.bind
  · unfold attemptHandoff
    apply named.bind
    unfold repairHandoff
    rw [if_neg (not_not.mpr noRepair)]
    exact Program.finishes_pure.mpr ⟨rfl, rfl⟩
  · apply (rendered _).bind
    apply measured.bind
    apply (finishes_executeAttempt rfl).bind
    rw [if_neg (by simp [failedAttempt])]
    have unrepaired : Program.Finishes (Step [progress.candidateId])
        (current ++ [.executed progress.candidateId])
        (retriesSame py (single progress.candidateId) request
          { progress with
            tried := insert progress.candidateId progress.tried
            executionAttempts := progress.executionAttempts + 1 } "" failedAttempt)
        false (current ++ [.executed progress.candidateId]) := by
      unfold retriesSame
      rw [if_neg (by simp [failedAttempt])]
      exact Program.finishes_pure.mpr ⟨rfl, rfl⟩
    apply unrepaired.bind
    have advanced := @finishes_advance request
      (current ++ [.executed progress.candidateId])
      { progress with
        tried := insert progress.candidateId progress.tried
        attempts := progress.attempts ++
          [failedRow py progress.candidateId "" "" failedAttempt]
        executionAttempts := progress.executionAttempts + 1 }
      (Finset.mem_insert_self _ _) present noFallbacks
    simp only [noRepair, ne_eq, not_true_eq_false, if_false]
    exact advanced.bind (Program.finishes_pure.mpr ⟨rfl, rfl⟩)

end Readmission

/-! ## Disorderly stages -/

section Stages

variable {py : Python} {policyExcluded : Finset String}
  {relaxationTiers : List (String × Finset String)}

/-- Two executions of a candidate without an invalid answer between them. -/
theorem not_orderly_of_repeated {maximum : Nat} {front : Log} {candidateId : String}
    {first second : Finset String} :
    ¬ Orderly maximum (front ++ [.checked candidateId first] ++
      [.executed candidateId] ++ [.checked candidateId second] ++
        [.executed candidateId]) := by
  intro orderly
  have renewable := orderly.once (front ++ [.checked candidateId first] ++
    [.executed candidateId] ++ [.checked candidateId second]) candidateId [] rfl
  have failed := (renewable (front ++ [.checked candidateId first])
    [.checked candidateId second] (by simp)).1
  simp at failed

/-- From an admission the loop comes to a second execution of its only candidate. -/
theorem exists_repeated {request : FailoverRequest} {progress : Progress} {log : Log}
    {fuel : Nat} (present : progress.candidateId ≠ "")
    (noFallbacks : request.orderedFallbacks = [])
    (noRepair : progress.repair.source = "")
    (unstarted : progress.executionAttempts = 0)
    (allowed : progress.candidateId ∉ progress.policyExcluded)
    (released : Released progress.candidateId
      (progress.policyExcluded :: progress.relaxationTiers.map Prod.snd)) :
    ∃ first second, Program.Run (Step [progress.candidateId]) log
      (loop py (single progress.candidateId) request (fuel + 2) progress) .cut
      (log ++ [.checked progress.candidateId first] ++
        [.executed progress.candidateId] ++
        [.checked progress.candidateId second] ++
        [.executed progress.candidateId]) := by
  obtain ⟨again, readmitted⟩ := readmission_of_released released
  have first := @finishes_execution py request log progress present noFallbacks noRepair
    allowed
  generalize reached : onward { progress with
    tried := insert progress.candidateId progress.tried
    attempts := progress.attempts ++
      [failedRow py progress.candidateId "" "" failedAttempt]
    executionAttempts := progress.executionAttempts + 1 } = next at first
  have same : next.candidateId = progress.candidateId := by
    rw [← reached]
    exact again
  have once : next.executionAttempts = 1 := by
    rw [← reached]
    exact congrArg (· + 1) unstarted
  have allowedAgain : next.candidateId ∉ next.policyExcluded := by
    rw [same, ← reached]
    exact readmitted
  have clean : next.repair.source = "" := by
    rw [← reached]
    rfl
  have two : maxAttempts (single progress.candidateId) = 2 := rfl
  have second := @finishes_execution py request
    (log ++ [.checked progress.candidateId progress.policyExcluded] ++
      [.executed progress.candidateId]) next (same ▸ present) noFallbacks clean
      allowedAgain
  rw [same] at second
  have later : Program.Run (Step [progress.candidateId])
      (log ++ [.checked progress.candidateId progress.policyExcluded] ++
        [.executed progress.candidateId])
      (loop py (single progress.candidateId) request (fuel + 1) next) .cut
      (log ++ [.checked progress.candidateId progress.policyExcluded] ++
        [.executed progress.candidateId] ++
        [.checked progress.candidateId next.policyExcluded] ++
        [.executed progress.candidateId]) := by
    rw [loop, if_pos ⟨same ▸ present, by rw [two, once]; omega⟩]
    exact second.bind (Program.Run.cut _ _)
  refine ⟨progress.policyExcluded, next.policyExcluded, ?_⟩
  rw [loop, if_pos ⟨present, by rw [two, unstarted]; omega⟩]
  exact first.bind later

/-- A stage of the only candidate. -/
def singleRequest (candidateId : String) (policyExcluded : Finset String)
    (relaxationTiers : List (String × Finset String)) : FailoverRequest where
  handoff := ⟨"", 1, "", "", [], [], [], false, "advisory"⟩
  capability := .fixReview
  packageId := ""
  stage := ""
  shardKey := ""
  candidateId := candidateId
  policyExcluded := policyExcluded
  relaxationTiers := relaxationTiers
  orderedFallbacks := []
  preferenceRole := ""

/-- A candidate that is readmitted may be executed twice in a row although its first
answer was not invalid. -/
theorem repeats_of_readmission {candidateId : String} (present : candidateId ≠ "")
    {front middle back : List (Finset String)}
    {admitting excluding readmitting : Finset String}
    (split : policyExcluded :: relaxationTiers.map Prod.snd =
      front ++ admitting :: middle ++ excluding :: readmitting :: back)
    (first : candidateId ∉ admitting) (second : candidateId ∈ excluding)
    (third : candidateId ∉ readmitting) (fuel : Nat) :
    ∃ log before after, Program.Run (Step [candidateId]) []
      (executeWithFailover py (single candidateId)
        (singleRequest candidateId policyExcluded relaxationTiers) (fuel + 3)) .cut
      (log ++ [.checked candidateId before] ++ [.executed candidateId] ++
        [.checked candidateId after] ++ [.executed candidateId]) := by
  unfold executeWithFailover
  by_cases excluded : candidateId ∈ policyExcluded
  · obtain ⟨again, allowed, released⟩ :=
      readmission_releases excluded split first second third
    have skipped := @finishes_skip py
      (singleRequest candidateId policyExcluded relaxationTiers) []
      { candidateId := candidateId
        policyExcluded := policyExcluded
        relaxationTiers := relaxationTiers } present rfl
    generalize reached : onward _ = next at skipped
    have same : next.candidateId = candidateId := by
      rw [← reached]
      exact again
    obtain ⟨before, after, run⟩ := @exists_repeated py
      (singleRequest candidateId policyExcluded relaxationTiers) next
      ([] ++ [.checked candidateId policyExcluded]) fuel
      (same ▸ present) rfl (by rw [← reached]; rfl) (by rw [← reached]; rfl)
      (by rw [same, ← reached]; exact allowed)
      (by rw [same, ← reached]; exact released)
    rw [same] at run
    refine ⟨[] ++ [.checked candidateId policyExcluded], before, after, ?_⟩
    rw [loop, if_pos ⟨present, by simp [maxAttempts, single]⟩]
    exact skipped.bind run
  · obtain ⟨before, after, run⟩ := @exists_repeated py
      (singleRequest candidateId policyExcluded relaxationTiers)
      { candidateId := candidateId
        policyExcluded := policyExcluded
        relaxationTiers := relaxationTiers } [] (fuel + 1)
      present rfl rfl rfl excluded
      ⟨front ++ admitting :: middle, excluding, readmitting, back, split, second, third⟩
    exact ⟨[], before, after, run⟩

theorem not_conforms_of_readmits
    (readmits : Readmits (policyExcluded :: relaxationTiers.map Prod.snd)) :
    ¬ Conforms py policyExcluded relaxationTiers := by
  intro conforms
  obtain ⟨candidateId, present, front, admitting, middle, excluding, readmitting, back,
    split, first, second, third⟩ := readmits
  have two : maxAttempts (single candidateId) = 2 := rfl
  have none : ([candidateId] ++ (singleRequest candidateId policyExcluded
    relaxationTiers).orderedFallbacks).length = 1 := rfl
  have guarantees := conforms (single candidateId)
    (singleRequest candidateId policyExcluded relaxationTiers) [candidateId]
    (relaxationTiers.length + 3 + 3) rfl rfl (single_registered candidateId) (by omega)
  obtain ⟨log, before, after, run⟩ := @repeats_of_readmission py _ _ _ present _ _ _ _ _ _
    split first second third (relaxationTiers.length + 3)
  exact not_orderly_of_repeated (guarantees _ _ run).1

end Stages

end Execraft.Orchestrate.ProviderFailoverCoordinator
