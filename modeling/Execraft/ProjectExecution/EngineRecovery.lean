import Execraft.ProjectExecution.EngineWorld

/-!
# Recovery and observation

What `reconcile_start_intents` and `_observe_tasks` make of the answers of a
port that may change while they ask it, and what a cycle knows when it plans.
-/

namespace Execraft.ProjectExecution

open Foundation Foundation.Json ProjectExecutionEngine Surroundings

/-- What an answer tells for good: `told` holds of every answer when it is given
and stays while the surroundings move. -/
structure Remembers {Env : Type} (surroundings : Surroundings Env)
    (stable : Env → Prop) (told : String → TaskOutcome → Env → Prop) : Prop where
  stays : ∀ env after, stable env → surroundings.moves env after → stable after
  learns : ∀ env view taskId, stable env → surroundings.shows env view →
    told taskId (view.outcome taskId) env
  keeps : ∀ env after taskId outcome, stable env → told taskId outcome env →
    surroundings.moves env after → told taskId outcome after

namespace Remembers

variable {Env : Type} {surroundings : Surroundings Env} {stable : Env → Prop}
  {told : String → TaskOutcome → Env → Prop}

theorem stableLater (remembers : Remembers surroundings stable told)
    {env after : Env} (now : stable env) (moved : surroundings.Later env after) :
    stable after := by
  induction moved with
  | refl => exact now
  | tail _ moves inductionHypothesis =>
      exact remembers.stays _ _ inductionHypothesis moves

theorem toldLater (remembers : Remembers surroundings stable told)
    {env after : Env} (now : stable env) (moved : surroundings.Later env after)
    {taskId : String} {outcome : TaskOutcome} (known : told taskId outcome env) :
    told taskId outcome after := by
  induction moved with
  | refl => exact known
  | tail earlier moves inductionHypothesis =>
      have standing := remembers.stableLater now earlier
      exact remembers.keeps _ _ _ _ standing inductionHypothesis moves

end Remembers

/-! ## Recovered intents -/

/-- What becomes of an intent, with the answers that were told. -/
inductive Reconciled (py : Python) (told : String → TaskOutcome → Prop)
    (old : Row) : Row → Prop where
  | untouched : unresolvedStart old = false → Reconciled py told old old
  | kept {row : Row} : unresolvedStart old = true → unresolvedStart row = true →
      row.get "task_id" .null = old.get "task_id" .null →
        told (intentTask py old) .notStarted → Reconciled py told old row
  | closed {row : Row} {outcome : TaskOutcome} : unresolvedStart old = true →
      unresolvedStart row = false → outcome ≠ .notStarted →
        told (intentTask py old) outcome → Reconciled py told old row

theorem Reconciled.mono {py : Python} {told other : String → TaskOutcome → Prop}
    (stronger : ∀ taskId outcome, told taskId outcome → other taskId outcome)
    {old row : Row} (reconciled : Reconciled py told old row) :
    Reconciled py other old row := by
  cases reconciled with
  | untouched closed => exact Reconciled.untouched closed
  | kept isOpen stillOpen task answered =>
      exact Reconciled.kept isOpen stillOpen task (stronger _ _ answered)
  | closed isOpen closed different answered =>
      exact Reconciled.closed isOpen closed different (stronger _ _ answered)

structure Recovered (py : Python) (told : String → TaskOutcome → Prop)
    (before after : Dict Row) : Prop where
  rows : ∀ intentId old, before.get? intentId = some old →
    ∃ row, after.get? intentId = some row ∧ Reconciled py told old row
  keys : ∀ intentId, before.get? intentId = none → after.get? intentId = none

/-- The same while the loop is at work: done for `front` and nothing else. -/
structure RecoveredUpTo (py : Python) (told : String → TaskOutcome → Prop)
    (before : Dict Row) (front : List (String × Row)) (current : Dict Row) :
    Prop where
  settled : ∀ entry ∈ front,
    ∃ row, current.get? entry.1 = some row ∧ Reconciled py told entry.2 row
  others : ∀ intentId, intentId ∉ front.map Prod.fst →
    current.get? intentId = before.get? intentId

namespace Recovered

variable {py : Python} {told : String → TaskOutcome → Prop}
  {before after : Dict Row}

/-- An unresolved intent was unresolved before, and its Task told not started. -/
theorem came (recovered : Recovered py told before after) {intentId : String}
    {row : Row} (stored : after.get? intentId = some row)
    (isOpen : unresolvedStart row = true) :
    ∃ old, before.get? intentId = some old ∧ unresolvedStart old = true ∧
      row.get "task_id" .null = old.get "task_id" .null ∧
        told (intentTask py old) .notStarted := by
  cases found : before.get? intentId with
  | none =>
      rw [recovered.keys intentId found] at stored
      cases stored
  | some old =>
      obtain ⟨current, again, reconciled⟩ := recovered.rows intentId old found
      rw [stored, Option.some.injEq] at again
      rw [← again] at reconciled
      cases reconciled with
      | untouched closed =>
          rw [closed] at isOpen
          cases isOpen
      | kept wasOpen _ task answered => exact ⟨old, rfl, wasOpen, task, answered⟩
      | closed _ closed _ _ =>
          rw [closed] at isOpen
          cases isOpen

theorem wellKeyed (recovered : Recovered py told before after)
    (keyed : WellKeyed before) : WellKeyed after := by
  intro intentId row stored isOpen
  obtain ⟨old, wasStored, wasOpen, task, _⟩ := recovered.came stored isOpen
  rw [task]
  exact keyed intentId old wasStored wasOpen

theorem unresolved_before (recovered : Recovered py told before after)
    {taskId intentId : String} (unresolved : Unresolved after taskId intentId) :
    Unresolved before taskId intentId ∧ told taskId .notStarted := by
  obtain ⟨row, stored, isOpen, names⟩ := unresolved
  obtain ⟨old, wasStored, wasOpen, task, answered⟩ := recovered.came stored isOpen
  rw [task] at names
  rw [intentTask_of_task names] at answered
  exact ⟨⟨old, wasStored, wasOpen, names⟩, answered⟩

theorem single (recovered : Recovered py told before after)
    (single : Single before) : Single after := by
  intro taskId first second unresolved again
  exact single taskId first second (recovered.unresolved_before unresolved).1
    (recovered.unresolved_before again).1

/-- An unresolved intent stays unresolved or its Task was told to have begun. -/
theorem unresolved_after (recovered : Recovered py told before after)
    {taskId intentId : String} (unresolved : Unresolved before taskId intentId) :
    Unresolved after taskId intentId ∨
      ∃ outcome, outcome ≠ TaskOutcome.notStarted ∧ told taskId outcome := by
  obtain ⟨old, wasStored, wasOpen, names⟩ := unresolved
  obtain ⟨row, stored, reconciled⟩ := recovered.rows intentId old wasStored
  cases reconciled with
  | untouched closed =>
      rw [closed] at wasOpen
      cases wasOpen
  | kept _ isOpen task _ =>
      rw [← task] at names
      exact Or.inl ⟨row, stored, isOpen, names⟩
  | closed _ _ different answered =>
      rw [intentTask_of_task names] at answered
      exact Or.inr ⟨_, different, answered⟩

end Recovered

/-! ## The loop over the intents -/

section Loops

variable {Env : Type} {surroundings : Surroundings Env} {stable : Env → Prop}
  {told : String → TaskOutcome → Env → Prop} {always : World Env → Prop}
  {world : World Env} {py : Python}

theorem resolved_closed {row : Row} {time value : String} :
    unresolvedStart (row.update
      [("status", .string "resolved"), ("resolved_at", .string time),
        ("observed_outcome", .string value)]) = false := by
  rw [← Bool.not_eq_true, unresolvedStart_iff]
  intro both
  apply both.2
  rw [Row.get_update_cons_self (by simp)]
  decide

theorem uncertain_open {row : Row} {time reason : String}
    (isOpen : unresolvedStart row = true) :
    unresolvedStart (row.update
      [("status", .string "uncertain"), ("reconciled_at", .string time),
        ("reason", .string reason)]) = true := by
  rw [unresolvedStart_iff] at isOpen ⊢
  rw [Row.get_update_of_notMem (by simp), Row.get_update_cons_self (by simp)]
  exact ⟨isOpen.1, by decide⟩

/-- One intent and the world after it. -/
theorem guarantees_reconcileIntent
    (remembers : Remembers surroundings stable told) (now : stable world.env)
    (calm : surroundings.Calm always world) (reconciling : Reconciling)
    (intentId : String) (old : Row)
    (stored : reconciling.1.get? intentId = some old) :
    Program.Guarantees surroundings.Step always world
      (reconcileIntent py reconciling (intentId, old))
      fun result final => ∃ env, surroundings.Later world.env env ∧
        final = { world with env := env } ∧
        (∃ row, result.1.get? intentId = some row ∧
          Reconciled py (fun taskId outcome => told taskId outcome env) old row) ∧
        ∀ other, other ≠ intentId →
          result.1.get? other = reconciling.1.get? other := by
  unfold reconcileIntent
  by_cases closed : ¬ unresolvedStart old = true
  · simp only [closed]
    apply Program.guarantees_pure calm.now
    refine ⟨world.env, Relation.ReflTransGen.refl, rfl, ⟨old, stored, ?_⟩, ?_⟩
    · exact Reconciled.untouched (Bool.not_eq_true _ ▸ closed)
    · intro other _
      rfl
  · have isOpen : unresolvedStart old = true := not_not.mp closed
    simp only [isOpen]
    apply Program.guarantees_bind
    apply (guarantees_outcome calm (intentTask py old)).mono
    intro outcome middle _ answered
    obtain ⟨env, view, moved, same, shown, answer⟩ := answered
    rw [same]
    have standing := remembers.stableLater now moved
    have known : told (intentTask py old) outcome env := by
      rw [answer]
      exact remembers.learns env view _ standing shown
    have closes : ∀ (row : String → Row) (changed : List String),
        (∀ env time, told (intentTask py old) outcome env → Reconciled py
          (fun taskId outcome => told taskId outcome env) old (row time)) →
        Program.Guarantees surroundings.Step always { world with env := env }
          (do
            let time ← Action.now
            pure (reconciling.1.set intentId (row time), changed) :
              Action Reconciling)
          fun result final => ∃ env, surroundings.Later world.env env ∧
            final = { world with env := env } ∧
            (∃ row, result.1.get? intentId = some row ∧
              Reconciled py (fun taskId outcome => told taskId outcome env) old
                row) ∧
            ∀ other, other ≠ intentId →
              result.1.get? other = reconciling.1.get? other := by
      intro row changed reconciled
      apply Program.guarantees_bind
      apply (guarantees_quiet performs_now (calm.later moved)).mono
      intro time final safe finished
      obtain ⟨after, again, sameAfter, _⟩ := finished
      rw [sameAfter]
      apply Program.guarantees_pure (calm.later moved after again)
      refine ⟨after, moved.trans again, rfl, ⟨row time, ?_, ?_⟩, ?_⟩
      · exact Dict.get?_set_self _ _ _
      · exact reconciled after time (remembers.toldLater standing again known)
      · intro other different
        exact Dict.get?_set_ne _ different _
    by_cases seen : outcome ≠ .notStarted
    · rw [if_pos seen]
      apply closes
      intro after time answered
      exact Reconciled.closed isOpen resolved_closed seen answered
    · rw [if_neg seen]
      rw [not_not] at seen
      rw [seen] at known closes
      by_cases certain : old.get "status" .null ≠ .string "uncertain"
      · rw [if_pos certain]
        apply closes
        intro after time answered
        exact Reconciled.kept isOpen (uncertain_open isOpen)
          (Row.get_update_of_notMem (by simp) _) answered
      · rw [if_neg certain]
        apply Program.guarantees_pure (calm env moved)
        refine ⟨env, moved, rfl, ⟨old, stored, ?_⟩, ?_⟩
        · exact Reconciled.kept isOpen isOpen rfl known
        · intro other _
          rfl

/-- `reconcile_start_intents` in moving surroundings. -/
theorem guarantees_reconcileStartIntents
    (remembers : Remembers surroundings stable told) (now : stable world.env)
    (calm : surroundings.Calm always world)
    (runtime : ProjectExecutionRuntimeState) :
    Program.Guarantees surroundings.Step always world
      (reconcileStartIntents py runtime)
      fun result final => ∃ env, surroundings.Later world.env env ∧
        final = { world with env := env } ∧
        Recovered py (fun taskId outcome => told taskId outcome env)
          runtime.intents result.intents := by
  have loop : Program.Guarantees surroundings.Step always world
      (runtime.intents.entries.foldlM (reconcileIntent py) (runtime.intents, []))
      fun reconciling final => ∃ env, surroundings.Later world.env env ∧
        final = { world with env := env } ∧
        RecoveredUpTo py (fun taskId outcome => told taskId outcome env)
          runtime.intents runtime.intents.entries reconciling.1 := by
    apply Program.guarantees_foldlM
      (motive := fun front (reconciling : Reconciling) (final : World Env) =>
        ∃ env, surroundings.Later world.env env ∧
          final = { world with env := env } ∧
          RecoveredUpTo py (fun taskId outcome => told taskId outcome env)
            runtime.intents front reconciling.1)
    · intro front entry back reconciling middle shape passed
      obtain ⟨env, moved, same, upTo⟩ := passed
      have distinct := runtime.intents.unique
      rw [shape, List.map_append, List.map_cons] at distinct
      have notBefore : entry.1 ∉ front.map Prod.fst := by
        intro again
        have apart := (List.nodup_append.mp distinct).2.2
        exact apart entry.1 again entry.1 List.mem_cons_self rfl
      have stored : reconciling.1.get? entry.1 = some entry.2 := by
        rw [upTo.others entry.1 notBefore, ← Dict.mem_entries_iff, shape]
        exact List.mem_append_right _ List.mem_cons_self
      have standing := remembers.stableLater now moved
      rw [same]
      apply (guarantees_reconcileIntent remembers standing (calm.later moved)
        reconciling entry.1 entry.2 stored).mono
      intro result final _ finished
      obtain ⟨after, again, sameAfter, itself, kept⟩ := finished
      refine ⟨after, moved.trans again, sameAfter, ?_, ?_⟩
      · intro passedEntry member
        rcases List.mem_append.mp member with earlier | last
        · obtain ⟨row, found, reconciled⟩ := upTo.settled passedEntry earlier
          have different : passedEntry.1 ≠ entry.1 := by
            intro sameId
            apply notBefore
            rw [← sameId]
            exact List.mem_map_of_mem earlier
          refine ⟨row, ?_, ?_⟩
          · rw [kept passedEntry.1 different, found]
          · apply reconciled.mono
            intro taskId outcome known
            exact remembers.toldLater standing again known
        · rw [List.mem_singleton.mp last]
          exact itself
      · intro intentId outside
        rw [List.map_append, List.mem_append, not_or] at outside
        have different : intentId ≠ entry.1 := by
          intro sameId
          apply outside.2
          rw [sameId]
          exact List.mem_cons_self
        rw [kept intentId different, upTo.others intentId outside.1]
    · intro front reconciling final passed
      obtain ⟨env, moved, same, _⟩ := passed
      rw [same]
      exact calm env moved
    · refine ⟨world.env, Relation.ReflTransGen.refl, rfl, ?_, ?_⟩
      · intro entry member
        cases member
      · intro intentId _
        rfl
  apply Program.guarantees_bind
  apply loop.mono
  intro reconciling middle _ finished
  obtain ⟨env, moved, same, upTo⟩ := finished
  rw [same]
  apply Program.guarantees_bind
  apply (guarantees_quiet (performs_appendIf _ _ _) (calm.later moved)).mono
  intro _ final _ appended
  obtain ⟨after, again, sameAfter, _⟩ := appended
  rw [sameAfter]
  apply Program.guarantees_pure (calm.later moved after again)
  refine ⟨after, moved.trans again, rfl, ?_, ?_⟩
  · intro intentId old stored
    obtain ⟨row, found, reconciled⟩ :=
      upTo.settled (intentId, old) (Dict.mem_entries_iff.mpr stored)
    refine ⟨row, found, reconciled.mono ?_⟩
    intro taskId outcome known
    exact remembers.toldLater (remembers.stableLater now moved) again known
  · intro intentId missing
    have outside : intentId ∉ runtime.intents.entries.map Prod.fst := by
      intro member
      obtain ⟨entry, stored, sameId⟩ := List.mem_map.mp member
      have found : runtime.intents.get? entry.1 = some entry.2 :=
        Dict.mem_entries_iff.mp stored
      rw [sameId, missing] at found
      cases found
    rw [upTo.others intentId outside, missing]

/-! ## The loop over the Tasks -/

theorem observedOutcome_observe {runtime : ProjectExecutionRuntimeState}
    {observed : Dict Row} {taskId : String} {outcome : TaskOutcome} {state : Json} :
    AutomaticExecutionPlanner.observedOutcome py
      { runtime with
        observedTasks := observed.set taskId
          [("outcome", .string outcome.value), ("execution_state", state)] }
      taskId = outcome := by
  simp [AutomaticExecutionPlanner.observedOutcome, Python.text]

theorem observedOutcome_congr {before after : ProjectExecutionRuntimeState}
    {taskId : String}
    (same : after.observedTasks.get? taskId = before.observedTasks.get? taskId) :
    AutomaticExecutionPlanner.observedOutcome py after taskId =
      AutomaticExecutionPlanner.observedOutcome py before taskId := by
  rw [AutomaticExecutionPlanner.observedOutcome, same]
  rfl

/-- One Task and the world after it. -/
theorem guarantees_observeTask (calm : surroundings.Calm always world)
    (previous observed : Dict Row) (task : ProjectTask)
    (remembers : Remembers surroundings stable told) (now : stable world.env) :
    Program.Guarantees surroundings.Step always world
      (observeTask py previous observed task)
      fun result final => ∃ env, surroundings.Later world.env env ∧
        final = { world with env := env } ∧
        (∀ runtime : ProjectExecutionRuntimeState, told task.taskId
          (AutomaticExecutionPlanner.observedOutcome py
            { runtime with observedTasks := result } task.taskId) env) ∧
        ∀ other, other ≠ task.taskId → result.get? other = observed.get? other := by
  apply Program.guarantees_bind
  apply (guarantees_describe calm task.taskId).mono
  intro summary middle _ answered
  obtain ⟨env, view, moved, same, shown, answer⟩ := answered
  have standing := remembers.stableLater now moved
  have known := remembers.learns env view task.taskId standing shown
  rw [← answer] at known
  have quiet : ∀ (changed : Bool) (eventType : String) (data : Row) (env : Env),
      surroundings.Later world.env env →
      Program.Guarantees surroundings.Step always { world with env := env }
        (Action.appendIf changed eventType data)
        fun _ final => ∃ after, surroundings.Later env after ∧
          final = { world with env := after } := by
    intro changed eventType data env moved
    apply (guarantees_quiet (performs_appendIf _ _ _) (calm.later moved)).mono
    intro _ final _ finished
    obtain ⟨after, again, sameAfter, _⟩ := finished
    exact ⟨after, again, sameAfter⟩
  rw [same]
  apply Program.guarantees_bind
  apply (quiet _ _ _ env moved).mono
  intro _ second _ finished
  obtain ⟨next, toNext, sameNext⟩ := finished
  rw [sameNext]
  apply Program.guarantees_bind
  apply (quiet _ _ _ next (moved.trans toNext)).mono
  intro _ third _ finished
  obtain ⟨last, toLast, sameLast⟩ := finished
  have whole := (moved.trans toNext).trans toLast
  rw [sameLast]
  apply Program.guarantees_pure (calm last whole)
  refine ⟨last, whole, rfl, ?_, ?_⟩
  · intro runtime
    rw [observedOutcome_observe]
    exact remembers.toldLater standing (toNext.trans toLast) known
  · intro other different
    exact Dict.get?_set_ne _ different _

/-- `_observe_tasks` in moving surroundings. -/
theorem guarantees_observeTasks {definition : ProjectExecutionDefinition}
    (remembers : Remembers surroundings stable told) (now : stable world.env)
    (calm : surroundings.Calm always world)
    (runtime : ProjectExecutionRuntimeState) :
    Program.Guarantees surroundings.Step always world
      (observeTasks py definition runtime)
      fun result final => ∃ env, surroundings.Later world.env env ∧
        final = { world with env := env } ∧ result.intents = runtime.intents ∧
        ∀ taskId ∈ definition.taskIdList, told taskId
          (AutomaticExecutionPlanner.observedOutcome py result taskId) env := by
  have loop : Program.Guarantees surroundings.Step always world
      (definition.tasks.foldlM (observeTask py runtime.observedTasks) Dict.empty)
      fun observed final => ∃ env, surroundings.Later world.env env ∧
        final = { world with env := env } ∧
        ∀ task ∈ definition.tasks, told task.taskId
          (AutomaticExecutionPlanner.observedOutcome py
            { runtime with observedTasks := observed } task.taskId) env := by
    apply Program.guarantees_foldlM
      (motive := fun front (observed : Dict Row) (final : World Env) =>
        ∃ env, surroundings.Later world.env env ∧
          final = { world with env := env } ∧
          ∀ task ∈ front, told (ProjectTask.taskId task)
            (AutomaticExecutionPlanner.observedOutcome py
              { runtime with observedTasks := observed } task.taskId) env)
    · intro front task back observed middle _ passed
      obtain ⟨env, moved, same, known⟩ := passed
      have standing := remembers.stableLater now moved
      rw [same]
      apply (guarantees_observeTask (calm.later moved) _ observed task remembers
        standing).mono
      intro result final _ finished
      obtain ⟨after, again, sameAfter, itself, others⟩ := finished
      refine ⟨after, moved.trans again, sameAfter, ?_⟩
      intro passedTask member
      by_cases sameId : passedTask.taskId = task.taskId
      · rw [sameId]
        exact itself runtime
      · have earlier : passedTask ∈ front := by
          rcases List.mem_append.mp member with before | last
          · exact before
          · rw [List.mem_singleton.mp last] at sameId
            exact absurd rfl sameId
        have unchanged : AutomaticExecutionPlanner.observedOutcome py
            { runtime with observedTasks := result } passedTask.taskId =
            AutomaticExecutionPlanner.observedOutcome py
              { runtime with observedTasks := observed } passedTask.taskId :=
          observedOutcome_congr (others passedTask.taskId sameId)
        rw [unchanged]
        exact remembers.toldLater standing again (known passedTask earlier)
    · intro front observed final passed
      obtain ⟨env, moved, same, _⟩ := passed
      rw [same]
      exact calm env moved
    · refine ⟨world.env, Relation.ReflTransGen.refl, rfl, ?_⟩
      intro task member
      cases member
  apply Program.guarantees_bind
  apply loop.mono
  intro observed final _ finished
  obtain ⟨env, moved, same, known⟩ := finished
  rw [same]
  apply Program.guarantees_pure (calm env moved)
  refine ⟨env, moved, rfl, rfl, ?_⟩
  intro taskId member
  obtain ⟨task, listed, sameId⟩ := List.mem_map.mp member
  rw [← sameId]
  exact known task listed

end Loops

end Execraft.ProjectExecution
