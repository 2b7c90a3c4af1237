import Execraft.Orchestrate.ProviderFailover
import Mathlib.Data.Finset.Card

/-!
# The order of provider executions

Which candidates a stage executes, against every strategy that keeps its contract.
Unless a tier admits again what an earlier one withheld after admitting it, a
candidate is executed once, or twice in a row to repair an invalid answer.
-/

namespace Execraft.Orchestrate.ProviderFailoverCoordinator

open Foundation

/-! ## Strategies -/

/-- What is logged of a stage. -/
inductive Entry where
  /-- The policy exclusions in force when the candidate is checked. -/
  | checked (candidateId : String) (policyExcluded : Finset String)
  | executed (candidateId : String)
  /-- An invalid answer of the candidate counts as its first failure. -/
  | firstFailure (candidateId : String)

abbrev Log := List Entry

def Entry.isExecution : Entry → Bool
  | .executed _ => true
  | _ => false

/-- Adapters are registered under their own identifiers, and these are the ones in
the pool and in the ordered fallbacks. -/
structure Registered (coordinator : ProviderFailoverCoordinator)
    (pool fallbacks : List String) : Prop where
  own : ∀ candidateId slot, coordinator.adapter candidateId = some slot →
    coordinator.adapter slot.candidateId = some slot
  canonical : ∀ candidateId ∈ pool ++ fallbacks, ∀ slot,
    coordinator.adapter candidateId = some slot → slot.candidateId = candidateId

/-- The replies of `select_candidate`: never an excluded one, always one of the pool. -/
def Selects (pool : List String) : (effect : FailoverEffect) → FailoverReply effect → Prop
  | .selectCandidate _ excluded _ _, selected => ∀ candidateId,
      selected = some candidateId → candidateId ∉ excluded ∧ candidateId ∈ pool
  | _, _ => True

/-- What is logged when the candidate has answered: a failure counts as the first one
of a candidate once. -/
def Reported (log : Log) (candidateId : String) (failures : Option Nat) (after : Log) :
    Prop :=
  if failures = some 1 then
    .firstFailure candidateId ∉ log ∧ after = log ++ [.firstFailure candidateId]
  else after = log

theorem reported_cases {log after : Log} {candidateId : String} {failures : Option Nat}
    (reported : Reported log candidateId failures after) :
    failures = some 1 ∧ .firstFailure candidateId ∉ log ∧
        after = log ++ [.firstFailure candidateId] ∨
      failures ≠ some 1 ∧ after = log := by
  unfold Reported at reported
  by_cases first : failures = some 1
  · rw [if_pos first] at reported
    exact Or.inl ⟨first, reported⟩
  · rw [if_neg first] at reported
    exact Or.inr ⟨first, reported⟩

/-- A strategy that keeps its contract, with the contract health behind it.  What the
policy excludes is not eligible. -/
def Step (pool : List String) (log : Log) :
    (effect : FailoverEffect) → FailoverReply effect → Log → Prop
  | .eligibility candidateId _ policyExcluded _ _ _, ineligible, after =>
      (candidateId ∈ policyExcluded → ineligible ≠ none) ∧
        after = log ++ [.checked candidateId policyExcluded]
  | .executeAttempt request, attempted, after =>
      match request.adapter with
      | none => after = log
      | some slot => Reported (log ++ [.executed slot.candidateId]) slot.candidateId
          (AgentAttemptResult.consecutiveFailures attempted) after
  | .contractFailures candidateId _ _ _, failures, after =>
      Reported log candidateId (some failures) after
  | effect, reply, after => Selects pool effect reply ∧ after = log

/-! ## Orders -/

/-- The candidate may be executed now: it has not been before, or its last execution
was the latest one and has been reported as its first failure. -/
def Renewable (log : Log) (candidateId : String) : Prop :=
  ∀ front middle, log = front ++ .executed candidateId :: middle →
    .firstFailure candidateId ∈ middle ∧ ∀ other, .executed other ∉ middle

/-- The log of a stage: few executions, none of an excluded candidate, and none
repeated but for one immediate repair. -/
structure Orderly (maximum : Nat) (log : Log) : Prop where
  bounded : log.countP Entry.isExecution ≤ maximum + 1
  admitted : ∀ front candidateId back, log = front ++ .executed candidateId :: back →
    ∃ earlier policyExcluded,
      front = earlier ++ [.checked candidateId policyExcluded] ∧
        candidateId ∉ policyExcluded
  once : ∀ front candidateId back, log = front ++ .executed candidateId :: back →
    Renewable front candidateId

/-- Some candidate is admitted, excluded later, and admitted again right behind. -/
def Readmits (exclusions : List (Finset String)) : Prop :=
  ∃ candidateId, candidateId ≠ "" ∧ ∃ front admitting middle excluding readmitting back,
    exclusions = front ++ admitting :: middle ++ excluding :: readmitting :: back ∧
      candidateId ∉ admitting ∧ candidateId ∈ excluding ∧ candidateId ∉ readmitting

theorem append_singleton_eq {front back log : Log} {first last : Entry}
    (split : log ++ [last] = front ++ first :: back) :
    back = [] ∧ log = front ∧ last = first ∨
      ∃ rest, back = rest ++ [last] ∧ log = front ++ first :: rest := by
  rcases List.eq_nil_or_concat back with rfl | ⟨rest, final, rfl⟩
  · obtain ⟨same, equal⟩ := List.append_inj' split rfl
    exact Or.inl ⟨rfl, same, (List.cons.inj equal).1⟩
  · have shape : log ++ [last] = (front ++ first :: rest) ++ [final] := by
      rw [split]
      simp
    obtain ⟨same, equal⟩ := List.append_inj' shape rfl
    right
    refine ⟨rest, ?_, same⟩
    rw [(List.cons.inj equal).1]
    simp

section Orders

variable {maximum : Nat} {log : Log}

/-- Anything but an execution may be logged. -/
theorem Orderly.silent (orderly : Orderly maximum log) {entry : Entry}
    (quiet : entry.isExecution = false) : Orderly maximum (log ++ [entry]) := by
  constructor
  · rw [List.countP_append]
    simpa [quiet] using orderly.bounded
  · intro front candidateId back split
    rcases append_singleton_eq split with ⟨_, _, same⟩ | ⟨rest, _, earlier⟩
    · rw [same] at quiet
      cases quiet
    · exact orderly.admitted front candidateId rest earlier
  · intro front candidateId back split
    rcases append_singleton_eq split with ⟨_, _, same⟩ | ⟨rest, _, earlier⟩
    · rw [same] at quiet
      cases quiet
    · exact orderly.once front candidateId rest earlier

theorem Orderly.execute (orderly : Orderly maximum log) {earlier : Log}
    {candidateId : String} {policyExcluded : Finset String}
    (few : log.countP Entry.isExecution ≤ maximum)
    (checked : log = earlier ++ [.checked candidateId policyExcluded])
    (allowed : candidateId ∉ policyExcluded) (renewable : Renewable log candidateId) :
    Orderly maximum (log ++ [.executed candidateId]) := by
  constructor
  · rw [List.countP_append]
    simpa [Entry.isExecution] using few
  · intro front other back split
    rcases append_singleton_eq split with ⟨_, here, same⟩ | ⟨rest, _, before⟩
    · cases same
      exact ⟨earlier, policyExcluded, by rw [← here, checked], allowed⟩
    · exact orderly.admitted front other rest before
  · intro front other back split
    rcases append_singleton_eq split with ⟨_, here, same⟩ | ⟨rest, _, before⟩
    · cases same
      rw [← here]
      exact renewable
    · exact orderly.once front other rest before

theorem renewable_of_notMem {candidateId : String}
    (fresh : .executed candidateId ∉ log) : Renewable log candidateId := by
  intro front middle split
  rw [split] at fresh
  exact absurd (List.mem_append_right _ List.mem_cons_self) fresh

/-- Logging what is no execution keeps a candidate renewable. -/
theorem Renewable.silent {candidateId : String} (renewable : Renewable log candidateId)
    {entry : Entry} (quiet : entry.isExecution = false) :
    Renewable (log ++ [entry]) candidateId := by
  intro front middle split
  rcases append_singleton_eq split with ⟨_, _, same⟩ | ⟨rest, back, earlier⟩
  · rw [same] at quiet
    cases quiet
  · obtain ⟨failed, latest⟩ := renewable front rest earlier
    rw [back]
    refine ⟨List.mem_append_left _ failed, ?_⟩
    intro other member
    rcases List.mem_append.mp member with inRest | atEnd
    · exact latest other inRest
    · rw [← List.mem_singleton.mp atEnd] at quiet
      cases quiet

/-- A candidate that has just failed for the first time may repair its answer. -/
theorem renewable_of_firstFailure {candidateId : String}
    (fresh : .executed candidateId ∉ log) :
    Renewable (log ++ [.executed candidateId] ++ [.firstFailure candidateId])
      candidateId := by
  intro front middle split
  rcases append_singleton_eq split with ⟨_, _, same⟩ | ⟨rest, back, earlier⟩
  · cases same
  · rcases append_singleton_eq earlier with ⟨none, _, _⟩ | ⟨tail, _, before⟩
    · rw [back, none]
      simp
    · rw [before] at fresh
      exact absurd (List.mem_append_right _ List.mem_cons_self) fresh

end Orders

/-! ## Looking for the next candidate -/

section Search

variable {coordinator : ProviderFailoverCoordinator} {request : FailoverRequest}
  {pool : List String}

/-- An effect that leaves the log alone. -/
def Silent : FailoverEffect → Prop
  | .eligibility .. => False
  | .executeAttempt _ => False
  | .contractFailures .. => False
  | _ => True

theorem step_silent {log after : Log} {effect : FailoverEffect}
    {reply : FailoverReply effect} (silent : Silent effect)
    (stepped : Step pool log effect reply after) :
    Selects pool effect reply ∧ after = log := by
  cases effect with
  | eligibility => exact silent.elim
  | executeAttempt => exact silent.elim
  | contractFailures => exact silent.elim
  | prepareAttempt => exact stepped
  | renderPrompt => exact stepped
  | buildRepairHandoff => exact stepped
  | parentInvocationId => exact stepped
  | selectCandidate => exact stepped
  | healthExcludedIds => exact stepped
  | candidateEligible => exact stepped
  | onProviderSkipped => exact stepped
  | onRelaxed => exact stepped
  | onTransition => exact stepped
  | hex => exact stepped

/-- A silent part of the loop leaves the log as it is. -/
theorem guarantees_silent {Value : Type} {always : Log → Prop} {log : Log}
    {program : FailoverAction Value} (performs : program.Performs Silent)
    (now : always log) :
    Program.Guarantees (Step pool) always log program fun value after =>
      after = log ∧ program.Yields (Selects pool) value := by
  have holds : ∀ other, (fun other => other = log) other → always other := by
    rintro other rfl
    exact now
  have kept : ∀ other effect reply after, (fun other => other = log) other →
      Silent effect → Step pool other effect reply after →
        (fun other => other = log) after ∧ Selects pool effect reply := by
    rintro other effect reply after rfl silent stepped
    exact (step_silent silent stepped).symm
  exact Program.guarantees_of_performs holds kept performs rfl

theorem select_performs (excluded : Finset String) (startAfterId : String) :
    (select request excluded startAfterId).Performs Silent :=
  Program.performs_bind (Program.performs_request.mpr trivial) fun _ =>
    Program.performs_pure

theorem select_yields {excluded : Finset String} {startAfterId nextId : String}
    (yields : (select request excluded startAfterId).Yields (Selects pool) nextId)
    (found : nextId ≠ "") : nextId ∉ excluded ∧ nextId ∈ pool := by
  obtain ⟨selected, lawful, same⟩ := Program.yields_bind.mp yields
  have answered := Program.yields_request.mp lawful
  cases selected with
  | none => exact absurd same.symm found
  | some candidateId =>
      rw [← show candidateId = nextId from same]
      exact answered candidateId rfl

theorem firstEligibleFallback_performs (capability : AgentCapability)
    (nextExcluded : Finset String) (fallbacks : List String) :
    (firstEligibleFallback coordinator capability nextExcluded fallbacks).Performs
      Silent := by
  induction fallbacks with
  | nil => exact Program.performs_pure
  | cons fallbackId rest inductionHypothesis =>
      rw [firstEligibleFallback]
      apply Program.performs_ite inductionHypothesis
      cases coordinator.adapter fallbackId with
      | none => exact inductionHypothesis
      | some slot =>
          have asked : (FailoverAction.candidateEligible fallbackId capability
              ∅).Performs Silent := Program.performs_request.mpr trivial
          apply Program.performs_ite inductionHypothesis
          apply Program.performs_bind asked
          intro reason
          exact Program.performs_ite inductionHypothesis Program.performs_pure

theorem firstEligibleFallback_yields {capability : AgentCapability}
    {nextExcluded : Finset String} {fallbacks : List String} {nextId : String}
    (yields : (firstEligibleFallback coordinator capability nextExcluded
      fallbacks).Yields (Selects pool) nextId) (found : nextId ≠ "") :
    nextId ∉ nextExcluded ∧ nextId ∈ fallbacks := by
  induction fallbacks with
  | nil => exact absurd (Program.yields_pure.mp yields).symm found
  | cons fallbackId rest inductionHypothesis =>
      have later : (firstEligibleFallback coordinator capability nextExcluded
          rest).Yields (Selects pool) nextId →
            nextId ∉ nextExcluded ∧ nextId ∈ fallbackId :: rest := by
        intro yields
        obtain ⟨allowed, member⟩ := inductionHypothesis yields
        exact ⟨allowed, List.mem_cons_of_mem _ member⟩
      rw [firstEligibleFallback] at yields
      by_cases excluded : fallbackId ∈ nextExcluded
      · rw [if_pos excluded] at yields
        exact later yields
      · rw [if_neg excluded] at yields
        cases registered : coordinator.adapter fallbackId with
        | none =>
            rw [registered] at yields
            exact later yields
        | some slot =>
            simp only [registered] at yields
            by_cases unsupported : capability ∉ slot.capabilities
            · rw [if_pos unsupported] at yields
              exact later yields
            · rw [if_neg unsupported, Program.yields_bind] at yields
              obtain ⟨reason, _, yields⟩ := yields
              by_cases ineligible : reason ≠ ""
              · rw [if_pos ineligible] at yields
                exact later yields
              · rw [if_neg ineligible, Program.yields_pure] at yields
                rw [← yields]
                exact ⟨excluded, List.mem_cons_self⟩

theorem relaxTiers_performs (tried : Finset String) (candidateId : String)
    (policyExcluded : Finset String) (tiers : List (String × Finset String)) :
    (relaxTiers request tried candidateId policyExcluded tiers).Performs Silent := by
  induction tiers generalizing policyExcluded with
  | nil => exact Program.performs_pure
  | cons tier rest inductionHypothesis =>
      rw [relaxTiers]
      apply Program.performs_bind (Program.performs_request.mpr trivial)
      intro unhealthy
      apply Program.performs_bind (select_performs _ _)
      intro nextId
      apply Program.performs_ite _ (inductionHypothesis tier.2)
      exact Program.performs_bind (Program.performs_request.mpr trivial) fun _ =>
        Program.performs_pure

/-- The exclusions that a search passes by, and how a tier admits a candidate: one
that has been tried is excluded by the tier before. -/
structure Passes (tried : Finset String) (exclusions : List (Finset String))
    (pool : List String) (found : Found) : Prop where
  passed : ∃ front, exclusions =
      front ++ found.policyExcluded :: found.relaxationTiers.map Prod.snd ∧
    (found.nextId ≠ "" → ∃ earlier last, front = earlier ++ [last] ∧
      found.nextId ∈ pool ∧ found.nextId ∉ found.policyExcluded ∧
        (found.nextId ∈ tried → found.nextId ∈ last))

theorem relaxTiers_yields {tried : Finset String} {candidateId : String}
    {policyExcluded : Finset String} {tiers : List (String × Finset String)}
    {found : Found}
    (yields : (relaxTiers request tried candidateId policyExcluded tiers).Yields
      (Selects pool) found) :
    Passes tried (policyExcluded :: tiers.map Prod.snd) pool found := by
  induction tiers generalizing policyExcluded with
  | nil =>
      rw [relaxTiers, Program.yields_pure] at yields
      rw [← yields]
      exact ⟨[], rfl, fun absent => absurd rfl absent⟩
  | cons tier rest inductionHypothesis =>
      simp only [relaxTiers, Program.yields_bind] at yields
      obtain ⟨unhealthy, _, nextId, selected, yields⟩ := yields
      by_cases admitted : nextId ≠ ""
      · rw [if_pos admitted, Program.yields_bind] at yields
        obtain ⟨_, _, same⟩ := yields
        rw [Program.yields_pure] at same
        rw [← same]
        obtain ⟨allowed, member⟩ := select_yields selected admitted
        simp only [Finset.mem_union, Finset.mem_sdiff, not_or, not_and,
          Classical.not_imp, not_not]
          at allowed
        refine ⟨[policyExcluded], rfl, ?_⟩
        intro _
        refine ⟨[], policyExcluded, rfl, member, allowed.1.2, ?_⟩
        intro before
        exact (allowed.1.1 before).1
      · rw [if_neg admitted] at yields
        obtain ⟨front, split, admits⟩ := (inductionHypothesis yields).passed
        refine ⟨policyExcluded :: front, ?_, ?_⟩
        · rw [List.map_cons, split, List.cons_append]
        · intro present
          obtain ⟨earlier, last, shape, rest⟩ := admits present
          exact ⟨policyExcluded :: earlier, last, by rw [shape, List.cons_append], rest⟩

theorem nextCandidate_performs (progress : Progress) (retrySameCandidate : Bool) :
    (nextCandidate coordinator request progress retrySameCandidate).Performs
      Silent := by
  unfold nextCandidate
  apply Program.performs_bind (Program.performs_request.mpr trivial)
  intro unhealthy
  apply Program.performs_bind
  · exact Program.performs_ite Program.performs_pure
      (firstEligibleFallback_performs _ _ _)
  · intro fallback
    apply Program.performs_bind
    · exact Program.performs_ite Program.performs_pure (select_performs _ _)
    · intro nextId
      exact Program.performs_ite Program.performs_pure (relaxTiers_performs _ _ _ _)

theorem advance_performs (progress : Progress) (retrySameCandidate : Bool) :
    (advance coordinator request progress retrySameCandidate).Performs Silent := by
  unfold advance
  apply Program.performs_bind (nextCandidate_performs _ _)
  intro found
  apply Program.performs_bind
  · exact Program.performs_ite (Program.performs_request.mpr trivial)
      Program.performs_pure
  · intro _
    exact Program.performs_pure

/-- Where the next candidate comes from. -/
inductive Follows (pool fallbacks : List String) (progress : Progress)
    (retrySameCandidate : Bool) (found : Found) : Prop where
  | same (retried : retrySameCandidate = true)
      (again : found.nextId = progress.candidateId)
      (excluded : found.policyExcluded = progress.policyExcluded)
      (tiers : found.relaxationTiers = progress.relaxationTiers)
  | fresh (untried : found.nextId ∉ progress.tried)
      (known : found.nextId ∈ pool ++ fallbacks)
      (excluded : found.policyExcluded = progress.policyExcluded)
      (tiers : found.relaxationTiers = progress.relaxationTiers)
  | relaxed (passes : Passes progress.tried
      (progress.policyExcluded :: progress.relaxationTiers.map Prod.snd) pool found)

theorem nextCandidate_yields {progress : Progress} {retrySameCandidate : Bool}
    {found : Found}
    (yields : (nextCandidate coordinator request progress retrySameCandidate).Yields
      (Selects pool) found) :
    Follows pool request.orderedFallbacks progress retrySameCandidate found := by
  simp only [nextCandidate, orSearch, Program.yields_bind] at yields
  obtain ⟨unhealthy, _, fallback, searched, nextId, selected, yields⟩ := yields
  by_cases present : nextId ≠ ""
  · rw [if_pos present, Program.yields_pure] at yields
    rw [← yields]
    by_cases fromFallback : fallback ≠ ""
    · rw [if_pos fromFallback, Program.yields_pure] at selected
      rw [← selected]
      by_cases retried : (if retrySameCandidate then progress.candidateId else "") ≠ ""
      · rw [if_pos retried, Program.yields_pure] at searched
        cases retrySameCandidate with
        | false => exact absurd rfl retried
        | true => exact Follows.same rfl searched.symm rfl rfl
      · rw [if_neg retried] at searched
        obtain ⟨allowed, member⟩ :=
          firstEligibleFallback_yields searched fromFallback
        simp only [Finset.mem_union, not_or] at allowed
        exact Follows.fresh allowed.1.1 (List.mem_append_right _ member) rfl rfl
    · rw [if_neg fromFallback] at selected
      obtain ⟨allowed, member⟩ := select_yields selected present
      simp only [Finset.mem_union, not_or] at allowed
      exact Follows.fresh allowed.1.1 (List.mem_append_left _ member) rfl rfl
  · rw [if_neg present] at yields
    exact Follows.relaxed (relaxTiers_yields yields)

end Search

/-! ## Passes through the loop -/

section Passes

variable {py : Python} {coordinator : ProviderFailoverCoordinator}
  {request : FailoverRequest} {pool : List String}
  {exclusions : List (Finset String)} {progress : Progress} {log : Log}

/-- What the variables of the loop tell of the log. -/
structure Recorded (exclusions : List (Finset String)) (maximum : Nat)
    (progress : Progress) (log : Log) : Prop where
  orderly : Orderly maximum log
  counted : log.countP Entry.isExecution ≤ progress.executionAttempts
  allowance : progress.formatRetryAllowance ≤ 1
  tried : ∀ candidateId, .executed candidateId ∈ log → candidateId ∈ progress.tried
  exclusions : ∃ past, exclusions =
      past ++ progress.policyExcluded :: progress.relaxationTiers.map Prod.snd ∧
    ∀ candidateId, .executed candidateId ∈ log →
      ∃ admitting ∈ past ++ [progress.policyExcluded], candidateId ∉ admitting

/-- The loop may execute its candidate, should that be eligible. -/
def Ready (coordinator : ProviderFailoverCoordinator) (progress : Progress)
    (log : Log) : Prop :=
  progress.candidateId ≠ "" →
    Renewable log (canonicalId coordinator progress.candidateId)

/-- What the loop may still do when `tried` are the candidates it has come to. -/
def rank (coordinator : ProviderFailoverCoordinator) (known : List String)
    (progress : Progress) (tried : Finset String) : Nat :=
  (maxAttempts coordinator + 1 - progress.executionAttempts) +
    progress.relaxationTiers.length + (known.toFinset \ tried).card

/-- A candidate that was executed is not admitted by a tier. -/
theorem Recorded.not_executed (recorded : Recorded exclusions
      (maxAttempts coordinator) progress log)
    (closed : ¬ Readmits exclusions) {found : Found}
    (passes : Passes progress.tried
      (progress.policyExcluded :: progress.relaxationTiers.map Prod.snd) pool found)
    (present : found.nextId ≠ "") : .executed found.nextId ∉ log := by
  intro executed
  obtain ⟨past, split, admitted⟩ := recorded.exclusions
  obtain ⟨front, passed, admits⟩ := passes.passed
  obtain ⟨earlier, last, shape, _, allowed, excluded⟩ := admits present
  have inLast : found.nextId ∈ last := excluded (recorded.tried _ executed)
  obtain ⟨admitting, member, notIn⟩ := admitted _ executed
  have before : admitting ∈ past ++ earlier := by
    rcases List.mem_append.mp member with old | current
    · exact List.mem_append_left _ old
    · rw [List.mem_singleton.mp current] at notIn ⊢
      rw [shape] at passed
      cases earlier with
      | nil =>
          rw [List.nil_append, List.singleton_append] at passed
          rw [(List.cons.inj passed).1] at notIn
          exact absurd inLast notIn
      | cons head tail =>
          rw [List.cons_append, List.cons_append] at passed
          rw [(List.cons.inj passed).1]
          exact List.mem_append_right _ List.mem_cons_self
  obtain ⟨first, middle, place⟩ := List.append_of_mem before
  apply closed
  refine ⟨found.nextId, present, first, admitting, middle, last,
    found.policyExcluded, found.relaxationTiers.map Prod.snd, ?_, notIn, inLast,
    allowed⟩
  rw [split, passed, shape]
  calc past ++ (earlier ++ [last] ++ found.policyExcluded ::
        found.relaxationTiers.map Prod.snd)
      = (past ++ earlier) ++ last :: found.policyExcluded ::
        found.relaxationTiers.map Prod.snd := by simp
    _ = _ := by rw [place]

/-- The exclusions that are passed by stay behind. -/
theorem Recorded.passed (recorded : Recorded exclusions (maxAttempts coordinator)
      progress log) {found : Found}
    (passes : Passes progress.tried
      (progress.policyExcluded :: progress.relaxationTiers.map Prod.snd) pool found) :
    ∃ past, exclusions =
        past ++ found.policyExcluded :: found.relaxationTiers.map Prod.snd ∧
      ∀ candidateId, .executed candidateId ∈ log →
        ∃ admitting ∈ past ++ [found.policyExcluded], candidateId ∉ admitting := by
  obtain ⟨past, split, admitted⟩ := recorded.exclusions
  obtain ⟨front, passed, _⟩ := passes.passed
  refine ⟨past ++ front, by rw [split, passed, List.append_assoc], ?_⟩
  intro candidateId executed
  obtain ⟨admitting, member, notIn⟩ := admitted candidateId executed
  refine ⟨admitting, ?_, notIn⟩
  rcases List.mem_append.mp member with old | current
  · simp [old]
  · rw [List.mem_singleton.mp current]
    cases front with
    | nil =>
        rw [List.nil_append] at passed
        simp [(List.cons.inj passed).1]
    | cons head tail =>
        rw [List.cons_append] at passed
        simp [(List.cons.inj passed).1]

theorem Passes.length {tried : Finset String} {policyExcluded : Finset String}
    {tiers : List (String × Finset String)} {found : Found}
    (passes : Passes tried (policyExcluded :: tiers.map Prod.snd) pool found) :
    found.relaxationTiers.length ≤ tiers.length ∧
      (found.nextId ≠ "" → found.relaxationTiers.length < tiers.length) := by
  obtain ⟨front, passed, admits⟩ := passes.passed
  have lengths := congrArg List.length passed
  simp only [List.length_cons, List.length_append, List.length_map] at lengths
  constructor
  · omega
  · intro present
    obtain ⟨earlier, last, shape, _⟩ := admits present
    rw [shape, List.length_append, List.length_singleton] at lengths
    omega

theorem canonicalId_of_known (registered : Registered coordinator pool
      request.orderedFallbacks) {candidateId : String}
    (known : candidateId ∈ pool ++ request.orderedFallbacks) :
    canonicalId coordinator candidateId = candidateId := by
  unfold canonicalId
  cases found : coordinator.adapter candidateId with
  | none => rfl
  | some slot => exact registered.canonical candidateId known slot found

theorem canonicalId_canonicalId (registered : Registered coordinator pool
      request.orderedFallbacks) (candidateId : String) :
    canonicalId coordinator (canonicalId coordinator candidateId) =
      canonicalId coordinator candidateId := by
  unfold canonicalId
  cases found : coordinator.adapter candidateId with
  | none => simp [found]
  | some slot => simp [registered.own candidateId slot found]

/-- Going on behind a candidate that has been tried. -/
theorem advance_guarantees (registered : Registered coordinator pool
      request.orderedFallbacks) (closed : ¬ Readmits exclusions)
    (recorded : Recorded exclusions (maxAttempts coordinator) progress log)
    {retrySameCandidate : Bool}
    (renewable : retrySameCandidate = true → Renewable log progress.candidateId ∧
      canonicalId coordinator progress.candidateId = progress.candidateId) :
    Program.Guarantees (Step pool) (Orderly (maxAttempts coordinator)) log
      (advance coordinator request progress retrySameCandidate) fun next after =>
        Recorded exclusions (maxAttempts coordinator) next after ∧
        Ready coordinator next after ∧
        rank coordinator (pool ++ request.orderedFallbacks) next
            (insert (canonicalId coordinator next.candidateId) next.tried) ≤
          rank coordinator (pool ++ request.orderedFallbacks) progress
            progress.tried ∧
        (retrySameCandidate = false → next.candidateId ≠ "" →
          rank coordinator (pool ++ request.orderedFallbacks) next
              (insert (canonicalId coordinator next.candidateId) next.tried) <
            rank coordinator (pool ++ request.orderedFallbacks) progress
              progress.tried) := by
  apply (guarantees_silent (advance_performs progress retrySameCandidate)
    recorded.orderly).mono
  rintro next after _ ⟨rfl, yields⟩
  simp only [advance, Program.yields_bind, Program.yields_pure] at yields
  obtain ⟨found, searched, _, _, same⟩ := yields
  subst same
  have fewer : ∀ candidateId,
      ((pool ++ request.orderedFallbacks).toFinset \
        insert candidateId progress.tried).card ≤
        ((pool ++ request.orderedFallbacks).toFinset \ progress.tried).card := by
    intro candidateId
    apply Finset.card_le_card
    exact Finset.sdiff_subset_sdiff (Finset.Subset.refl _)
      (Finset.subset_insert _ _)
  cases nextCandidate_yields searched with
  | same retried again excluded tiers =>
      obtain ⟨now, canonical⟩ := renewable retried
      refine ⟨⟨recorded.orderly, recorded.counted, recorded.allowance,
        recorded.tried, ?_⟩, ?_, ?_, ?_⟩
      · simp only [excluded, tiers]
        exact recorded.exclusions
      · intro _
        simp only [again, canonical]
        exact now
      · simp only [rank, tiers]
        have bound := fewer (canonicalId coordinator found.nextId)
        omega
      · intro notRetried
        rw [retried] at notRetried
        cases notRetried
  | fresh untried known excluded tiers =>
      have canonical := canonicalId_of_known registered known
      have strictly : ((pool ++ request.orderedFallbacks).toFinset \
          insert found.nextId progress.tried).card <
          ((pool ++ request.orderedFallbacks).toFinset \ progress.tried).card := by
        apply Finset.card_lt_card
        rw [Finset.ssubset_iff_of_subset (Finset.sdiff_subset_sdiff
          (Finset.Subset.refl _) (Finset.subset_insert _ _))]
        refine ⟨found.nextId, ?_, ?_⟩
        · rw [Finset.mem_sdiff, List.mem_toFinset]
          exact ⟨known, untried⟩
        · simp
      refine ⟨⟨recorded.orderly, recorded.counted, recorded.allowance,
        recorded.tried, ?_⟩, ?_, ?_, ?_⟩
      · simp only [excluded, tiers]
        exact recorded.exclusions
      · intro _
        simp only [canonical]
        apply renewable_of_notMem
        intro executed
        exact untried (recorded.tried _ executed)
      · simp only [rank, tiers, canonical]
        omega
      · intro _ _
        simp only [rank, tiers, canonical]
        omega
  | relaxed passes =>
      obtain ⟨shorter, strictly⟩ := passes.length
      have bound := fewer (canonicalId coordinator found.nextId)
      refine ⟨⟨recorded.orderly, recorded.counted, recorded.allowance,
        recorded.tried, recorded.passed passes⟩, ?_, ?_, ?_⟩
      · intro present
        obtain ⟨_, _, admits⟩ := passes.passed
        obtain ⟨_, _, _, inPool, _⟩ := admits present
        simp only [canonicalId_of_known registered
          (List.mem_append_left request.orderedFallbacks inPool)]
        exact renewable_of_notMem (recorded.not_executed closed passes present)
      · simp only [rank]
        omega
      · intro _ present
        have less := strictly present
        simp only [rank]
        omega

theorem Recorded.silent {maximum : Nat}
    (recorded : Recorded exclusions maximum progress log) {entry : Entry}
    (quiet : entry.isExecution = false) :
    Recorded exclusions maximum progress (log ++ [entry]) := by
  have earlier : ∀ candidateId, .executed candidateId ∈ log ++ [entry] →
      .executed candidateId ∈ log := by
    intro candidateId member
    rcases List.mem_append.mp member with before | now
    · exact before
    · rw [← List.mem_singleton.mp now] at quiet
      cases quiet
  obtain ⟨past, split, admitted⟩ := recorded.exclusions
  refine ⟨recorded.orderly.silent quiet, ?_, recorded.allowance, ?_, past, split, ?_⟩
  · rw [List.countP_append]
    simpa [quiet] using recorded.counted
  · intro candidateId member
    exact recorded.tried candidateId (earlier candidateId member)
  · intro candidateId member
    exact admitted candidateId (earlier candidateId member)

theorem Recorded.execute {maximum : Nat}
    (recorded : Recorded exclusions maximum progress log)
    (few : progress.executionAttempts < maximum + progress.formatRetryAllowance)
    {earlier : Log}
    (checked : log = earlier ++ [.checked progress.candidateId progress.policyExcluded])
    (allowed : progress.candidateId ∉ progress.policyExcluded)
    (inTried : progress.candidateId ∈ progress.tried)
    (renewable : Renewable log progress.candidateId) :
    Recorded exclusions maximum
      { progress with executionAttempts := progress.executionAttempts + 1 }
      (log ++ [.executed progress.candidateId]) := by
  have counted := recorded.counted
  have allowance := recorded.allowance
  obtain ⟨past, split, admitted⟩ := recorded.exclusions
  refine ⟨recorded.orderly.execute (by omega) checked allowed renewable, ?_, allowance,
    ?_, past, split, ?_⟩
  · rw [List.countP_append]
    simpa [Entry.isExecution] using counted
  · intro candidateId member
    rcases List.mem_append.mp member with before | now
    · exact recorded.tried candidateId before
    · cases List.mem_singleton.mp now
      exact inTried
  · intro candidateId member
    rcases List.mem_append.mp member with before | now
    · exact admitted candidateId before
    · cases List.mem_singleton.mp now
      exact ⟨progress.policyExcluded, by simp, allowed⟩

/-- A first failure is reported once, so the candidate has not been executed before. -/
theorem Renewable.firstFailure {candidateId : String}
    (renewable : Renewable log candidateId)
    (first : .firstFailure candidateId ∉ log ++ [.executed candidateId]) :
    Renewable (log ++ [.executed candidateId] ++ [.firstFailure candidateId])
      candidateId := by
  apply renewable_of_firstFailure
  intro executed
  obtain ⟨front, middle, split⟩ := List.append_of_mem executed
  apply first
  rw [split]
  simp [(renewable front middle split).1]

theorem attemptHandoff_performs (parentInvocationId : String)
    (metadata : CandidateMetadata) :
    (attemptHandoff request progress parentInvocationId metadata).Performs Silent := by
  unfold attemptHandoff
  apply Program.performs_bind (Program.performs_request.mpr trivial)
  intro handoffId
  apply Program.performs_bind
  · exact Program.performs_ite (Program.performs_request.mpr trivial)
      Program.performs_pure
  · intro handoff
    exact Program.performs_pure

theorem contractFailures_guarantees {maximum : Nat} {model schemaHash : String}
    {capability : AgentCapability}
    (recorded : Recorded exclusions maximum progress log) :
    Program.Guarantees (Step pool) (Orderly maximum) log
      (FailoverAction.contractFailures progress.candidateId model capability schemaHash)
      fun failures after => failures = 1 ∧ .firstFailure progress.candidateId ∉ log ∧
          after = log ++ [.firstFailure progress.candidateId] ∨
        failures ≠ 1 ∧ after = log := by
  apply Program.guarantees_request recorded.orderly
  intro failures after reported
  obtain ⟨number, rfl⟩ : ∃ number : Nat, number = failures := ⟨failures, rfl⟩
  rcases reported_cases reported with ⟨first, fresh, same⟩ | ⟨notFirst, same⟩
  · rw [same]
    exact ⟨recorded.orderly.silent rfl,
      Or.inl ⟨Option.some.inj first, fresh, rfl⟩⟩
  · rw [same]
    exact ⟨recorded.orderly, Or.inr ⟨fun one => notFirst (congrArg some one), rfl⟩⟩

/-- When the same candidate is to repair its answer, a first failure of it has just
been logged. -/
theorem retriesSame_guarantees {maximum : Nat} {model : String}
    {attempted : AgentAttemptResult}
    (recorded : Recorded exclusions maximum progress log) :
    Program.Guarantees (Step pool) (Orderly maximum) log
      (retriesSame py coordinator request progress model attempted) fun retry after =>
        Recorded exclusions maximum progress after ∧
        (after = log ∧ (retry = true → attempted.consecutiveFailures = some 1) ∨
          attempted.consecutiveFailures = none ∧
            .firstFailure progress.candidateId ∉ log ∧
            after = log ++ [.firstFailure progress.candidateId]) := by
  unfold retriesSame
  by_cases invalid : attempted.classification = "invalid_output" ∧
      contractSchemaHash py request ≠ ""
  · rw [if_pos invalid]
    apply Program.guarantees_bind
    unfold consecutiveFailures
    cases known : attempted.consecutiveFailures with
    | some failures =>
        apply Program.guarantees_pure recorded.orderly
        apply Program.guarantees_pure recorded.orderly
        refine ⟨recorded, Or.inl ⟨rfl, ?_⟩⟩
        intro retried
        rw [(of_decide_eq_true retried).1]
    | none =>
        apply (contractFailures_guarantees recorded).mono
        rintro failures after _ (⟨first, fresh, same⟩ | ⟨notFirst, same⟩)
        · subst same
          have later := recorded.silent
            (show (Entry.firstFailure progress.candidateId).isExecution = false from rfl)
          exact Program.guarantees_pure later.orderly
            ⟨later, Or.inr ⟨rfl, fresh, rfl⟩⟩
        · subst same
          apply Program.guarantees_pure recorded.orderly
          refine ⟨recorded, Or.inl ⟨rfl, ?_⟩⟩
          intro retried
          exact absurd (of_decide_eq_true retried).1 notFirst
  · rw [if_neg invalid]
    apply Program.guarantees_pure recorded.orderly
    refine ⟨recorded, Or.inl ⟨rfl, ?_⟩⟩
    intro retried
    cases retried

/-- How a pass through the loop may go on. -/
def GoesOn (coordinator : ProviderFailoverCoordinator) (known : List String)
    (exclusions : List (Finset String)) (before : Nat) (ended : Turn) (after : Log) :
    Prop :=
  ∀ next, ended = .continued next →
    Recorded exclusions (maxAttempts coordinator) next after ∧
    Ready coordinator next after ∧
    (next.candidateId ≠ "" →
      rank coordinator known next
        (insert (canonicalId coordinator next.candidateId) next.tried) < before)

/-- What is logged by an execution. -/
theorem executeAttempt_guarantees {attempt : AttemptRequest}
    (recorded : Recorded exclusions (maxAttempts coordinator) progress log)
    (few : progress.executionAttempts <
      maxAttempts coordinator + progress.formatRetryAllowance)
    {earlier : Log}
    (checked : log = earlier ++ [.checked progress.candidateId progress.policyExcluded])
    (allowed : progress.candidateId ∉ progress.policyExcluded)
    (inTried : progress.candidateId ∈ progress.tried)
    (renewable : Renewable log progress.candidateId)
    (own : ∀ slot, attempt.adapter = some slot →
      slot.candidateId = progress.candidateId) :
    Program.Guarantees (Step pool) (Orderly (maxAttempts coordinator)) log
      (FailoverAction.executeAttempt attempt) fun attempted after =>
        Recorded exclusions (maxAttempts coordinator)
          { progress with executionAttempts := progress.executionAttempts + 1 } after ∧
        (attempted.consecutiveFailures = some 1 →
          Renewable after progress.candidateId) ∧
        (.firstFailure progress.candidateId ∉ after →
          Renewable (after ++ [.firstFailure progress.candidateId])
            progress.candidateId) := by
  apply Program.guarantees_request recorded.orderly
  intro attempted after stepped
  obtain ⟨given, rfl⟩ : ∃ given : AgentAttemptResult, given = attempted :=
    ⟨attempted, rfl⟩
  have counted := recorded.counted
  cases present : attempt.adapter with
  | none =>
      have same : after = log := by
        simpa only [Step, present] using stepped
      rw [same]
      refine ⟨recorded.orderly, ⟨recorded.orderly, ?_, recorded.allowance,
        recorded.tried, recorded.exclusions⟩, fun _ => renewable,
        fun _ => renewable.silent rfl⟩
      exact Nat.le_succ_of_le counted
  | some slot =>
      have report : Reported (log ++ [.executed slot.candidateId]) slot.candidateId
          given.consecutiveFailures after := by
        simpa only [Step, present] using stepped
      rw [own slot present] at report
      have executed := recorded.execute few checked allowed inTried renewable
      rcases reported_cases report with ⟨first, fresh, same⟩ | ⟨notFirst, same⟩
      · subst same
        have reported := executed.silent
          (show (Entry.firstFailure progress.candidateId).isExecution = false from rfl)
        refine ⟨reported.orderly, reported, fun _ => renewable.firstFailure fresh, ?_⟩
        intro missing
        exact absurd (List.mem_append_right _ List.mem_cons_self) missing
      · subst same
        refine ⟨executed.orderly, executed, fun first => absurd first notFirst, ?_⟩
        exact renewable.firstFailure

theorem execute_guarantees (registered : Registered coordinator pool
      request.orderedFallbacks) (closed : ¬ Readmits exclusions)
    (recorded : Recorded exclusions (maxAttempts coordinator) progress log)
    (few : progress.executionAttempts <
      maxAttempts coordinator + progress.formatRetryAllowance)
    {earlier : Log}
    (checked : log = earlier ++ [.checked progress.candidateId progress.policyExcluded])
    (allowed : progress.candidateId ∉ progress.policyExcluded)
    (inTried : progress.candidateId ∈ progress.tried)
    (renewable : Renewable log progress.candidateId)
    (canonical : canonicalId coordinator progress.candidateId = progress.candidateId)
    {slot : Option AgentSlot}
    (own : ∀ present, slot = some present →
      present.candidateId = progress.candidateId) :
    Program.Guarantees (Step pool) (Orderly (maxAttempts coordinator)) log
      (execute py coordinator request
        { progress with executionAttempts := progress.executionAttempts + 1 } slot)
      (GoesOn coordinator (pool ++ request.orderedFallbacks) exclusions
        (rank coordinator (pool ++ request.orderedFallbacks) progress
          progress.tried)) := by
  have orderly := recorded.orderly
  have allowance := recorded.allowance
  unfold execute
  apply Program.guarantees_bind
  refine Program.Guarantees.mono
    (guarantees_silent (Program.performs_request.mpr (by trivial)) orderly) ?_
  rintro parentInvocationId _ _ ⟨rfl, _⟩
  apply Program.guarantees_bind
  apply (guarantees_silent (attemptHandoff_performs _ _) orderly).mono
  rintro handoff _ _ ⟨rfl, _⟩
  apply Program.guarantees_bind
  refine Program.Guarantees.mono
    (guarantees_silent (Program.performs_request.mpr (by trivial)) orderly) ?_
  rintro renderedPrompt _ _ ⟨rfl, _⟩
  apply Program.guarantees_bind
  refine Program.Guarantees.mono
    (guarantees_silent (Program.performs_request.mpr (by trivial)) orderly) ?_
  rintro workspaceBeforeDigest _ _ ⟨rfl, _⟩
  apply Program.guarantees_bind
  apply (executeAttempt_guarantees recorded few checked allowed inTried renewable
    own).mono
  rintro attempted middle _ ⟨executed, renewed, failing⟩
  by_cases succeeded : attempted.success = true
  · rw [if_pos succeeded]
    apply Program.guarantees_pure executed.orderly
    intro next same
    cases same
  · rw [if_neg succeeded]
    apply Program.guarantees_bind
    apply (retriesSame_guarantees executed).mono
    rintro retry after _ ⟨kept, told⟩
    have again : retry = true → Renewable after progress.candidateId := by
      intro retried
      rcases told with ⟨same, first⟩ | ⟨_, fresh, same⟩
      · rw [same]
        exact renewed (first retried)
      · rw [same]
        exact failing fresh
    apply Program.guarantees_bind
    refine Program.Guarantees.mono (advance_guarantees registered closed ?_ ?_) ?_
    · refine ⟨kept.orderly, kept.counted, ?_, kept.tried, kept.exclusions⟩
      cases retry with
      | true => exact Nat.le_refl 1
      | false => exact allowance
    · intro retried
      exact ⟨again retried, canonical⟩
    · rintro next final orderly ⟨recorded, ready, bound, _⟩
      apply Program.guarantees_pure orderly
      intro other same
      cases same
      refine ⟨recorded, ready, fun _ => ?_⟩
      simp only [rank] at bound ⊢
      omega

/-- One pass through the loop. -/
theorem turn_guarantees (registered : Registered coordinator pool
      request.orderedFallbacks) (closed : ¬ Readmits exclusions)
    (recorded : Recorded exclusions (maxAttempts coordinator) progress log)
    (ready : Ready coordinator progress log) (present : progress.candidateId ≠ "")
    (few : progress.executionAttempts <
      maxAttempts coordinator + progress.formatRetryAllowance) :
    Program.Guarantees (Step pool) (Orderly (maxAttempts coordinator)) log
      (turn py coordinator request progress)
      (GoesOn coordinator (pool ++ request.orderedFallbacks) exclusions
        (rank coordinator (pool ++ request.orderedFallbacks) progress
          (insert (canonicalId coordinator progress.candidateId) progress.tried))) := by
  have tried : Recorded exclusions (maxAttempts coordinator)
      { progress with
        candidateId := canonicalId coordinator progress.candidateId
        tried := insert (canonicalId coordinator progress.candidateId)
          progress.tried } log :=
    ⟨recorded.orderly, recorded.counted, recorded.allowance,
      fun candidateId executed =>
        Finset.mem_insert_of_mem (recorded.tried candidateId executed),
      recorded.exclusions⟩
  unfold turn
  apply Program.guarantees_bind
  apply Program.guarantees_request recorded.orderly
  intro ineligible after stepped
  obtain ⟨given, rfl⟩ : ∃ given : Option Row, given = ineligible := ⟨ineligible, rfl⟩
  obtain ⟨refused, rfl⟩ := stepped
  have checked := tried.silent
    (show (Entry.checked (canonicalId coordinator progress.candidateId)
      progress.policyExcluded).isExecution = false from rfl)
  refine ⟨checked.orderly, ?_⟩
  cases given with
  | some payload =>
      apply Program.guarantees_bind
      refine Program.Guarantees.mono (guarantees_silent
        (Program.performs_request.mpr (by trivial)) checked.orderly) ?_
      rintro _ _ _ ⟨rfl, _⟩
      apply Program.guarantees_bind
      refine Program.Guarantees.mono (advance_guarantees registered closed ?_ ?_) ?_
      · exact ⟨checked.orderly, checked.counted, checked.allowance, checked.tried,
          checked.exclusions⟩
      · intro retried
        cases retried
      · rintro next final orderly ⟨recorded, ready, _, less⟩
        apply Program.guarantees_pure orderly
        intro other same
        cases same
        exact ⟨recorded, ready, less rfl⟩
  | none =>
      apply execute_guarantees registered closed checked few rfl
      · intro excluded
        exact refused excluded rfl
      · exact Finset.mem_insert_self _ _
      · exact (ready present).silent rfl
      · exact canonicalId_canonicalId registered _
      · intro slot found
        simp only [canonicalId, found, Option.map_some, Option.getD_some]

theorem loop_guarantees (registered : Registered coordinator pool
      request.orderedFallbacks) (closed : ¬ Readmits exclusions) (fuel : Nat)
    (recorded : Recorded exclusions (maxAttempts coordinator) progress log)
    (ready : Ready coordinator progress log)
    (enough : progress.candidateId ≠ "" →
      rank coordinator (pool ++ request.orderedFallbacks) progress
        (insert (canonicalId coordinator progress.candidateId) progress.tried) + 1 <
          fuel)
    (positive : 0 < fuel) :
    Program.Guarantees (Step pool) (Orderly (maxAttempts coordinator)) log
      (loop py coordinator request fuel progress)
      fun outcome _ => outcome ≠ none := by
  induction fuel generalizing progress log with
  | zero => exact absurd positive (lt_irrefl 0)
  | succ fuel inductionHypothesis =>
      rw [loop]
      by_cases going : progress.candidateId ≠ "" ∧ progress.executionAttempts <
          maxAttempts coordinator + progress.formatRetryAllowance
      · rw [if_pos going]
        have bound := enough going.1
        apply Program.guarantees_bind
        apply (turn_guarantees registered closed recorded ready going.1 going.2).mono
        intro ended after orderly goesOn
        cases ended with
        | finished outcome =>
            exact Program.guarantees_pure orderly (by simp)
        | continued next =>
            obtain ⟨kept, again, less⟩ := goesOn next rfl
            apply inductionHypothesis kept again
            · intro present
              have smaller := less present
              omega
            · omega
      · rw [if_neg going]
        exact Program.guarantees_pure recorded.orderly (by simp)

end Passes

/-! ## Orderly stages -/

section Stages

variable {py : Python} {policyExcluded : Finset String}
  {relaxationTiers : List (String × Finset String)}

/-- With these exclusions and tiers every stage is orderly and ends, whatever its
strategy, its fallbacks and its attempts are. -/
def Conforms (py : Python) (policyExcluded : Finset String)
    (relaxationTiers : List (String × Finset String)) : Prop :=
  ∀ (coordinator : ProviderFailoverCoordinator) (request : FailoverRequest)
    (pool : List String) (fuel : Nat),
    request.policyExcluded = policyExcluded →
    request.relaxationTiers = relaxationTiers →
    Registered coordinator pool request.orderedFallbacks →
    maxAttempts coordinator + relaxationTiers.length +
      (pool ++ request.orderedFallbacks).length + 2 < fuel →
    Program.Guarantees (Step pool) (Orderly (maxAttempts coordinator)) []
      (executeWithFailover py coordinator request fuel) fun outcome _ => outcome ≠ none

theorem conforms_of_not_readmits
    (closed : ¬ Readmits (policyExcluded :: relaxationTiers.map Prod.snd)) :
    Conforms py policyExcluded relaxationTiers := by
  rintro coordinator request pool fuel rfl rfl registered enough
  unfold executeWithFailover
  apply loop_guarantees registered closed fuel
  · constructor
    · constructor
      · exact Nat.zero_le _
      · intro front candidateId back split
        simp at split
      · intro front candidateId back split
        simp at split
    · exact Nat.le_refl 0
    · exact Nat.zero_le 1
    · intro candidateId executed
      cases executed
    · refine ⟨[], rfl, ?_⟩
      intro candidateId executed
      cases executed
  · intro _
    apply renewable_of_notMem
    intro executed
    cases executed
  · intro _
    have few : ((pool ++ request.orderedFallbacks).toFinset \
        insert (canonicalId coordinator request.candidateId) ∅).card ≤
          (pool ++ request.orderedFallbacks).length :=
      (Finset.card_le_card Finset.sdiff_subset).trans (List.toFinset_card_le _)
    simp only [rank]
    omega
  · omega

end Stages

end Execraft.Orchestrate.ProviderFailoverCoordinator
