import Execraft.ProjectExecution.EngineRecovery
import Execraft.ProjectExecution.PlanLimits

/-!
# The shared parts of reconciliations and cycles

What an operation knows when it plans, and what it leaves behind when it saves,
for any surroundings.
-/

namespace Execraft.ProjectExecution

open Foundation Foundation.Json ProjectExecutionEngine Surroundings
open AutomaticExecutionPlanner

/-! ## Occupied Tasks -/

section Occupied

variable {py : Python} {definition : ProjectExecutionDefinition}
  {runtime : ProjectExecutionRuntimeState} {taskId : String}

theorem mem_reservedTasks {intentId : String}
    (unresolved : Unresolved runtime.intents taskId intentId) (named : taskId ≠ "")
    (unseen : observedOutcome py runtime taskId = .notStarted) :
    taskId ∈ reservedTasks py runtime := by
  obtain ⟨row, stored, isOpen, task⟩ := unresolved
  unfold reservedTasks
  apply List.mem_filter.mpr
  constructor
  · rw [List.mem_mergeSort, List.mem_dedup]
    apply List.mem_filter.mpr
    constructor
    · apply List.mem_map.mpr
      refine ⟨row, ?_, intentTask_of_task task⟩
      apply List.mem_filter.mpr
      constructor
      · exact List.mem_map_of_mem (Dict.mem_entries_iff.mpr stored)
      · exact isOpen
    · exact decide_eq_true named
  · exact decide_eq_true unseen

theorem mem_occupied_of_reserved (reserved : taskId ∈ reservedTasks py runtime) :
    taskId ∈ occupiedTasks py definition runtime := by
  rw [occupiedTasks, List.mem_dedup]
  exact List.mem_append_right _ reserved

theorem mem_occupied_of_running (listed : taskId ∈ definition.taskIdList)
    (running : observedOutcome py runtime taskId = .running) :
    taskId ∈ occupiedTasks py definition runtime := by
  rw [occupiedTasks, List.mem_dedup]
  apply List.mem_append_left
  exact List.mem_filter.mpr ⟨listed, decide_eq_true running⟩

theorem reservedTasks_congr {after : ProjectExecutionRuntimeState}
    (same : SameTasks runtime after) :
    observedOutcome py after taskId = observedOutcome py runtime taskId := by
  rw [observedOutcome, same.observedTasks]
  rfl

end Occupied

/-! ## Quiet sequences -/

section Sequences

variable {Env : Type} {surroundings : Surroundings Env}
  {always : World Env → Prop} {world : World Env} {py : Python}
  {definition : ProjectExecutionDefinition}

/-- Gates and Milestones. -/
theorem guarantees_evaluations {Value : Type}
    {next : ProjectExecutionRuntimeState → Action Value}
    {returns : Value → World Env → Prop} (runtime : ProjectExecutionRuntimeState)
    (calm : surroundings.Calm always world)
    (rest : ∀ after env, SameTasks runtime after →
      surroundings.Later world.env env →
      Program.Guarantees surroundings.Step always { world with env := env }
        (next after) returns) :
    Program.Guarantees surroundings.Step always world
      (do
        let runtime ← evaluateGates py definition runtime
        let runtime ← evaluateMilestones py definition runtime
        next runtime) returns := by
  apply Program.guarantees_bind
  apply (guarantees_sameTasks performs_evaluateGates
    (fun _ yields => evaluateGates_sameTasks yields) calm).mono
  intro gates middle _ evaluated
  obtain ⟨env, moved, same, gatesKept⟩ := evaluated
  rw [same]
  apply Program.guarantees_bind
  apply (guarantees_sameTasks performs_evaluateMilestones
    (fun _ yields => evaluateMilestones_sameTasks yields) (calm.later moved)).mono
  intro milestones final _ evaluated
  obtain ⟨after, again, sameAfter, milestonesKept⟩ := evaluated
  rw [sameAfter]
  exact rest milestones after (gatesKept.trans milestonesKept) (moved.trans again)

/-- Eligibility, ready Tasks and Phases. -/
theorem guarantees_refresh (runtime : ProjectExecutionRuntimeState)
    (calm : surroundings.Calm always world) :
    Program.Guarantees surroundings.Step always world
      (refresh py definition runtime)
      fun result final => ∃ env, surroundings.Later world.env env ∧
        final = { world with env := env } ∧ SameTasks runtime result.1 := by
  apply (guarantees_quiet performs_refresh calm).mono
  intro result final _ finished
  obtain ⟨env, moved, same, yields⟩ := finished
  exact ⟨env, moved, same, refresh_sameTasks yields⟩

/-- The definition and the intents, then Gates and Milestones. -/
theorem guarantees_recovery {Value : Type}
    {next : ProjectExecutionRuntimeState → Action Value}
    {returns : Value → World Env → Prop} {stable : Env → Prop}
    {told : String → TaskOutcome → Env → Prop}
    (remembers : Remembers surroundings stable told) (now : stable world.env)
    (calm : surroundings.Calm always world) (runtime : ProjectExecutionRuntimeState)
    (rest : ∀ after env, surroundings.Later world.env env →
      Recovered py (fun taskId outcome => told taskId outcome env) runtime.intents
        after.intents →
      Program.Guarantees surroundings.Step always { world with env := env }
        (next after) returns) :
    Program.Guarantees surroundings.Step always world
      (do
        let runtime ← syncDefinition py definition runtime
        let runtime ← reconcileStartIntents py runtime
        let runtime ← evaluateGates py definition runtime
        let runtime ← evaluateMilestones py definition runtime
        next runtime) returns := by
  apply Program.guarantees_bind
  apply (guarantees_sameTasks performs_syncDefinition
    (fun _ yields => syncDefinition_sameTasks yields) calm).mono
  intro synced first _ finished
  obtain ⟨env, moved, same, syncKept⟩ := finished
  have standing := remembers.stableLater now moved
  rw [same]
  apply Program.guarantees_bind
  apply (guarantees_reconcileStartIntents remembers standing (calm.later moved)
    synced).mono
  intro reconciled second _ finished
  obtain ⟨next, toNext, sameNext, recovered⟩ := finished
  have nextStanding := remembers.stableLater standing toNext
  have whole := moved.trans toNext
  rw [sameNext]
  apply guarantees_evaluations reconciled (calm.later whole)
  intro after last kept toLast
  apply rest after last (whole.trans toLast)
  rw [kept.intents, ← syncKept.intents]
  constructor
  · intro intentId old stored
    obtain ⟨row, found, settled⟩ := recovered.rows intentId old stored
    refine ⟨row, found, settled.mono ?_⟩
    intro taskId outcome known
    exact remembers.toldLater nextStanding toLast known
  · exact recovered.keys

/-! ## The plan of a cycle -/

/-- What a cycle knows when it has planned. -/
structure Planned (py : Python) (definition : ProjectExecutionDefinition)
    (told : String → TaskOutcome → Prop) (runtime : ProjectExecutionRuntimeState)
    (taskIds : List String) : Prop where
  observed : ∀ taskId ∈ definition.taskIdList,
    told taskId (observedOutcome py runtime taskId)
  limits : PlanLimits py definition runtime taskIds

/-- The part of a cycle in front of its plan: what the observation tells may
rest on the recovered intents. -/
theorem guarantees_prepareCycle {stable : Env → Prop}
    {told : String → TaskOutcome → Env → Prop}
    {stableWith : Dict Row → Env → Prop}
    {toldWith : Dict Row → String → TaskOutcome → Env → Prop}
    (remembers : Remembers surroundings stable told) (now : stable world.env)
    (remembersWith : ∀ intents,
      Remembers surroundings (stableWith intents) (toldWith intents))
    (calm : surroundings.Calm always world) (runtime : ProjectExecutionRuntimeState)
    (recovers : ∀ intents env, surroundings.Later world.env env →
      Recovered py (fun taskId outcome => told taskId outcome env) runtime.intents
        intents → stableWith intents env) :
    Program.Guarantees surroundings.Step always world
      (prepareCycle py definition runtime)
      fun result final => ∃ env, surroundings.Later world.env env ∧
        final = { world with env := env } ∧
        Recovered py (fun taskId outcome => told taskId outcome env)
          runtime.intents result.1.intents ∧
        stableWith result.1.intents env ∧
        Planned py definition
          (fun taskId outcome => toldWith result.1.intents taskId outcome env)
          result.1 result.2.taskIds := by
  apply guarantees_recovery remembers now calm runtime
  intro evaluated env moved recovered
  have standing := recovers evaluated.intents env moved recovered
  have remembersNow := remembersWith evaluated.intents
  have calmNow := calm.later moved
  apply Program.guarantees_bind
  apply (guarantees_observeTasks remembersNow standing calmNow evaluated).mono
  intro observed second _ finished
  obtain ⟨afterObserve, toObserve, sameObserve, intentsKept, known⟩ := finished
  have toSecond := moved.trans toObserve
  rw [sameObserve]
  apply Program.guarantees_bind
  apply (guarantees_sameTasks performs_applyFailurePolicy
    (fun _ yields => applyFailurePolicy_sameTasks yields)
    (calmNow.later toObserve)).mono
  intro guarded third _ finished
  obtain ⟨afterPolicy, toPolicy, samePolicy, policyKept⟩ := finished
  rw [samePolicy]
  apply Program.guarantees_bind
  apply (guarantees_refresh guarded (calm.later (toSecond.trans toPolicy))).mono
  intro refreshed fourth _ finished
  obtain ⟨last, toLast, sameLast, refreshKept⟩ := finished
  have whole := (toSecond.trans toPolicy).trans toLast
  have sinceEvaluated := (toObserve.trans toPolicy).trans toLast
  have kept := policyKept.trans refreshKept
  have intentsSame : refreshed.1.intents = evaluated.intents :=
    kept.intents.trans intentsKept
  rw [sameLast]
  apply Program.guarantees_bind
  apply (guarantees_quiet Program.performs_ofOutcome (calm.later whole)).mono
  intro plan final _ finished
  obtain ⟨ending, toEnding, sameEnding, planned⟩ := finished
  rw [Program.yields_ofOutcome] at planned
  rw [sameEnding]
  apply Program.guarantees_pure (calm.later whole ending toEnding)
  have standingEnd := remembersNow.stableLater standing
    (sinceEvaluated.trans toEnding)
  have standingObserve := remembersNow.stableLater standing toObserve
  refine ⟨ending, whole.trans toEnding, rfl, ?_, ?_, ?_, plan_limits planned⟩
  · rw [intentsSame]
    constructor
    · intro intentId old stored
      obtain ⟨row, found, settled⟩ := recovered.rows intentId old stored
      refine ⟨row, found, settled.mono ?_⟩
      intro taskId outcome answered
      exact remembers.toldLater (remembers.stableLater now moved)
        (sinceEvaluated.trans toEnding) answered
    · exact recovered.keys
  · rw [intentsSame]
    exact standingEnd
  · intro taskId listed
    rw [intentsSame, reservedTasks_congr kept]
    exact remembersNow.toldLater standingObserve
      ((toPolicy.trans toLast).trans toEnding) (known taskId listed)

/-! ## What reconciliation leaves behind -/

/-- A reconciliation saves once: the recovered intents. -/
theorem guarantees_reconcile {stable : Env → Prop}
    {told : String → TaskOutcome → Env → Prop}
    (remembers : Remembers surroundings stable told) (now : stable world.env)
    (calm : surroundings.Calm always world) (runtime : ProjectExecutionRuntimeState)
    (saves : ∀ after env, surroundings.Later world.env env →
      Recovered py (fun taskId outcome => told taskId outcome env) runtime.intents
        after.intents →
      always { world with
        durable := after
        env := env
        log := world.log ++ [.saved after] }) :
    Program.Guarantees surroundings.Step always world
      (reconcile py definition runtime) fun _ _ => True := by
  apply guarantees_recovery remembers now calm runtime
  intro evaluated env moved recovered
  have calmNow := calm.later moved
  apply Program.guarantees_bind
  apply (guarantees_quiet performs_eligibilityOfTasks calmNow).mono
  intro eligibility second _ finished
  obtain ⟨afterEligibility, toEligibility, sameEligibility, _⟩ := finished
  rw [sameEligibility]
  apply Program.guarantees_bind
  apply (guarantees_sameTasks (performs_recordReadyTasks eligibility)
    (fun _ yields => recordReadyTasks_sameTasks yields)
    (calmNow.later toEligibility)).mono
  intro recorded third _ finished
  obtain ⟨afterReady, toReady, sameReady, readyKept⟩ := finished
  have sinceReady := toEligibility.trans toReady
  rw [sameReady]
  apply Program.guarantees_bind
  apply (guarantees_quiet performs_observeTasks (calmNow.later sinceReady)).mono
  intro observed fourth _ finished
  obtain ⟨afterObserve, toObserve, sameObserve, yields⟩ := finished
  have observeKept := observeTasks_intents yields
  have sinceObserve := sinceReady.trans toObserve
  rw [sameObserve]
  apply Program.guarantees_bind
  apply (guarantees_quiet performs_projectPhases (calmNow.later sinceObserve)).mono
  intro phases fifth _ finished
  obtain ⟨afterPhases, toPhases, samePhases, _⟩ := finished
  have sincePhases := sinceObserve.trans toPhases
  rw [samePhases]
  apply Program.guarantees_bind
  apply (guarantees_sameTasks (performs_recordPhaseTransitions phases)
    (fun _ yields => recordPhaseTransitions_sameTasks yields)
    (calmNow.later sincePhases)).mono
  intro transitioned sixth _ finished
  obtain ⟨afterTransitions, toTransitions, sameTransitions, transitionsKept⟩ :=
    finished
  have sinceTransitions := sincePhases.trans toTransitions
  rw [sameTransitions]
  apply Program.guarantees_bind
  apply (guarantees_quiet performs_now (calmNow.later sinceTransitions)).mono
  intro time seventh _ finished
  obtain ⟨last, toLast, sameLast, _⟩ := finished
  have sinceLast := sinceTransitions.trans toLast
  have intentsKept : transitioned.intents = evaluated.intents := by
    rw [transitionsKept.intents, observeKept, readyKept.intents]
  have saved : ∀ after env, surroundings.Later last env →
      after.intents = evaluated.intents → always { world with
        durable := after
        env := env
        log := world.log ++ [.saved after] } := by
    intro after final toFinal sameIntents
    apply saves after final (moved.trans (sinceLast.trans toFinal))
    rw [sameIntents]
    constructor
    · intro intentId old stored
      obtain ⟨row, found, settled⟩ := recovered.rows intentId old stored
      refine ⟨row, found, settled.mono ?_⟩
      intro taskId outcome answered
      exact remembers.toldLater (remembers.stableLater now moved)
        (sinceLast.trans toFinal) answered
    · exact recovered.keys
  rw [sameLast]
  apply Program.guarantees_bind
  apply (guarantees_save (calmNow.later sinceLast) _ ?_).mono
  · intro _ final safe _
    exact Program.guarantees_pure safe trivial
  · intro final toFinal
    exact saved _ final toFinal intentsKept

/-! ## The end of a start -/

/-- The port has refused the start. -/
def Refused (reply : Except String TaskStartResult) : Prop :=
  ∃ result, reply = .ok result ∧ result.accepted = false ∧
    result.alreadyStarted = false

/-- The intent stays unresolved unless its Task was seen to have begun or the
start was refused. -/
def Settled (told : String → TaskOutcome → Prop) (taskId : String)
    (reply : Except String TaskStartResult) (row : Row) : Prop :=
  StartOf taskId row ∧ (unresolvedStart row = true ∨
    (∃ outcome, outcome ≠ TaskOutcome.notStarted ∧ told taskId outcome) ∨
      Refused reply)

theorem open_of_status {taskId : String} {row : Row} {status : String}
    (start : StartOf taskId row) (stored : row.get "status" .null = .string status)
    (unfinished : Json.string status ∉ RESOLVED_INTENT_STATES) :
    unresolvedStart row = true := by
  rw [unresolvedStart_iff, stored]
  exact ⟨start.kind, unfinished⟩

theorem guarantees_settleStart {stable : Env → Prop}
    {told : String → TaskOutcome → Env → Prop}
    (remembers : Remembers surroundings stable told) (now : stable world.env)
    (calm : surroundings.Calm always world) {intent : Row} {taskId : String}
    (start : StartOf taskId intent) (reply : Except String TaskStartResult) :
    Program.Guarantees surroundings.Step always world
      (settleStart intent taskId reply)
      fun result final => ∃ env, surroundings.Later world.env env ∧
        final = { world with env := env } ∧
        Settled (fun taskId outcome => told taskId outcome env) taskId reply
          result.1 := by
  -- Both branches ask for the outcome and for the time, then build a row.
  have asks : ∀ {Value : Type} (build : TaskOutcome → String → Action Value)
      (returns : Value → World Env → Prop),
      (∀ outcome time env, surroundings.Later world.env env →
        told taskId outcome env → Program.Guarantees surroundings.Step always
          { world with env := env } (build outcome time) returns) →
      Program.Guarantees surroundings.Step always world
        (do
          let outcome ← Action.outcome taskId
          let time ← Action.now
          build outcome time) returns := by
    intro Value build returns rest
    apply Program.guarantees_bind
    apply (guarantees_outcome calm taskId).mono
    intro outcome middle _ answered
    obtain ⟨env, view, moved, same, shown, answer⟩ := answered
    have standing := remembers.stableLater now moved
    have known : told taskId outcome env := by
      rw [answer]
      exact remembers.learns env view taskId standing shown
    rw [same]
    apply Program.guarantees_bind
    apply (guarantees_quiet performs_now (calm.later moved)).mono
    intro time final _ finished
    obtain ⟨after, again, sameAfter, _⟩ := finished
    rw [sameAfter]
    exact rest outcome time after (moved.trans again)
      (remembers.toldLater standing again known)
  cases reply with
  | error message =>
      apply asks
      intro outcome time env moved known
      by_cases seen : outcome ≠ .notStarted
      · rw [if_pos seen]
        apply Program.guarantees_pure (calm env moved)
        refine ⟨env, moved, rfl, start.update (by simp) (by simp), ?_⟩
        exact Or.inr (Or.inl ⟨outcome, seen, known⟩)
      · rw [if_neg seen]
        apply Program.guarantees_pure (calm env moved)
        have kept : StartOf taskId (intent.update [("status", .string "uncertain"),
            ("action_error", .string message), ("reconciled_at", .string time)]) :=
          start.update (by simp) (by simp)
        refine ⟨env, moved, rfl, kept, Or.inl ?_⟩
        exact open_of_status kept (Row.get_update_cons_self (by simp) _ _)
          (by decide)
  | ok result =>
      apply Program.guarantees_bind
      apply asks
      intro outcome time env moved known
      by_cases seen : outcome ≠ .notStarted
      · rw [if_pos seen]
        apply Program.guarantees_pure (calm env moved)
        apply Program.guarantees_pure (calm env moved)
        refine ⟨env, moved, rfl, start.update (by simp) (by simp), ?_⟩
        exact Or.inr (Or.inl ⟨outcome, seen, known⟩)
      · rw [if_neg seen]
        by_cases taken : result.accepted ∨ result.alreadyStarted
        · rw [if_pos taken]
          apply Program.guarantees_pure (calm env moved)
          apply Program.guarantees_pure (calm env moved)
          have kept : StartOf taskId (intent.update [("status", .string "pending"),
              ("action_acknowledged_at", .string time),
              ("message", .string result.message)]) :=
            start.update (by simp) (by simp)
          refine ⟨env, moved, rfl, kept, Or.inl ?_⟩
          exact open_of_status kept (Row.get_update_cons_self (by simp) _ _)
            (by decide)
        · rw [if_neg taken]
          apply Program.guarantees_pure (calm env moved)
          apply Program.guarantees_pure (calm env moved)
          rw [not_or, Bool.not_eq_true, Bool.not_eq_true] at taken
          refine ⟨env, moved, rfl, start.update (by simp) (by simp), ?_⟩
          exact Or.inr (Or.inr ⟨result, rfl, taken.1, taken.2⟩)

end Sequences

end Execraft.ProjectExecution
