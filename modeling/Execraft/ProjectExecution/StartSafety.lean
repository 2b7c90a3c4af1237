import Execraft.ProjectExecution.EngineCycle

/-!
# Safety of starts

With a port whose answers change only between operations and with starts, every
operation keeps at most one unresolved intent a Task, wherever it is cut off.
-/

namespace Execraft.ProjectExecution

open Foundation Foundation.Json ProjectExecutionEngine Surroundings
open AutomaticExecutionPlanner

/-- A port whose answers are constant; a start may change them to allowed ones. -/
def constantPort (allowed : TaskView → Prop) : Surroundings TaskView where
  moves env after := after = env
  shows env view := view = env
  starts _ _ _ after := allowed after

/-- Each start follows a save of a pending intent that was made for it. -/
def Requested (log : List LogEntry) : Prop :=
  ∀ front taskId back, log = front ++ .started taskId :: back →
    ∃ earlier suffix runtime row, front = earlier ++ [.drew suffix, .saved runtime] ∧
      runtime.intents.get? (newIntentId taskId suffix) = some row ∧
        PendingStart taskId row

theorem Requested.append {log : List LogEntry} (requested : Requested log)
    {entry : LogEntry} (other : ∀ taskId, entry ≠ .started taskId) :
    Requested (log ++ [entry]) := by
  intro front taskId back shape
  rcases List.append_eq_append_iff.mp shape with
    ⟨between, frontShape, backShape⟩ | ⟨between, logShape, entryShape⟩
  · cases between with
    | nil =>
        have same := (List.cons.inj backShape).1
        exact absurd same (other taskId)
    | cons head tail =>
        have short := congrArg List.length backShape
        simp at short
  · cases between with
    | nil =>
        have same := (List.cons.inj entryShape).1
        exact absurd same.symm (other taskId)
    | cons head tail =>
        have first := (List.cons.inj entryShape).1
        rw [← first] at logShape
        exact requested front taskId tail logShape

theorem Requested.started {log : List LogEntry} (requested : Requested log)
    {taskId suffix : String} {runtime : ProjectExecutionRuntimeState} {row : Row}
    (stored : runtime.intents.get? (newIntentId taskId suffix) = some row)
    (pending : PendingStart taskId row) :
    Requested (log ++ [.drew suffix] ++ [.saved runtime] ++ [.started taskId]) := by
  intro front other back shape
  have before : Requested (log ++ [.drew suffix] ++ [.saved runtime]) := by
    apply Requested.append
    · apply requested.append
      intro named
      simp
    · intro named
      simp
  rcases List.append_eq_append_iff.mp shape with
    ⟨between, frontShape, backShape⟩ | ⟨between, logShape, entryShape⟩
  · cases between with
    | nil =>
        have same := LogEntry.started.inj (List.cons.inj backShape).1
        refine ⟨log, suffix, runtime, row, ?_, ?_, ?_⟩
        · rw [frontShape]
          simp
        · rw [← same]
          exact stored
        · rw [← same]
          exact pending
    | cons head tail =>
        have short := congrArg List.length backShape
        simp at short
  · cases between with
    | nil =>
        have same := LogEntry.started.inj (List.cons.inj entryShape).1
        refine ⟨log, suffix, runtime, row, ?_, ?_, ?_⟩
        · rw [List.append_nil] at logShape
          rw [← logShape]
          simp
        · rw [same]
          exact stored
        · rw [same]
          exact pending
    | cons head tail =>
        have first := (List.cons.inj entryShape).1
        rw [← first] at logShape
        exact before front other tail logShape

/-! ## The invariant -/

/-- What holds of the intents; the guarded Tasks have an unresolved one. -/
structure SoundIntents (guarded : String → Prop) (intents : Dict Row) : Prop where
  keyed : WellKeyed intents
  single : Single intents
  held : ∀ taskId, guarded taskId → ∃ intentId, Unresolved intents taskId intentId

/-- The invariant.  Guarded Tasks are reported not started and not started
again. -/
structure Sound (guarded : String → Prop) (world : World TaskView) : Prop where
  intents : SoundIntents guarded world.durable.intents
  unseen : ∀ taskId, guarded taskId → world.env.outcome taskId = .notStarted
  requested : Requested world.log
  spared : ∀ taskId, guarded taskId → .started taskId ∉ world.log

section Operations

variable {py : Python} {guarded : String → Prop} {allowed : TaskView → Prop}
  {world : World TaskView} {definition : ProjectExecutionDefinition}

theorem later_constant {env after : TaskView}
    (moved : (constantPort allowed).Later env after) : after = env := by
  induction moved with
  | refl => rfl
  | tail _ moves inductionHypothesis => exact moves.trans inductionHypothesis

theorem calm_constant {always : World TaskView → Prop} (now : always world) :
    (constantPort allowed).Calm always world := by
  intro env moved
  rw [later_constant moved]
  exact now

/-- The answers of a constant port are remembered. -/
theorem remembers_constant :
    Remembers (constantPort allowed) (fun _ => True)
      fun taskId outcome env => outcome = env.outcome taskId where
  stays := by
    intro _ _ _ _
    trivial
  learns := by
    intro env view taskId _ shown
    rw [shown]
  keeps := by
    intro env after taskId outcome _ known moved
    rw [moved]
    exact known

theorem guarantees_still {α : Type} {program : Action α}
    {always : World TaskView → Prop} (performs : program.Performs Effect.Quiet)
    (now : always world) :
    Program.Guarantees (constantPort allowed).Step always world program
      fun value final => final = world ∧ program.Yields anyAnswers value := by
  apply (guarantees_quiet performs (calm_constant now)).mono
  intro value final _ finished
  obtain ⟨env, moved, same, yields⟩ := finished
  rw [later_constant moved] at same
  exact ⟨same, yields⟩

theorem Sound.drew (sound : Sound guarded world) (suffix : String) :
    Sound guarded { world with log := world.log ++ [.drew suffix] } where
  intents := sound.intents
  unseen := sound.unseen
  requested := by
    apply sound.requested.append
    intro taskId
    simp
  spared := by
    intro taskId holds member
    rcases List.mem_append.mp member with earlier | last
    · exact sound.spared taskId holds earlier
    · simp at last

theorem Sound.saved (sound : Sound guarded world)
    {runtime : ProjectExecutionRuntimeState}
    (intents : SoundIntents guarded runtime.intents) :
    Sound guarded { world with
      durable := runtime
      log := world.log ++ [.saved runtime] } where
  intents := intents
  unseen := sound.unseen
  requested := by
    apply sound.requested.append
    intro taskId
    simp
  spared := by
    intro taskId holds member
    rcases List.mem_append.mp member with earlier | last
    · exact sound.spared taskId holds earlier
    · simp at last

theorem guarantees_saving {runtime : ProjectExecutionRuntimeState}
    (sound : Sound guarded world) (intents : SoundIntents guarded runtime.intents) :
    Program.Guarantees (constantPort allowed).Step (Sound guarded) world
      (Action.save runtime) fun _ final => final = { world with
        durable := runtime
        log := world.log ++ [.saved runtime] } := by
  apply (guarantees_save (calm_constant sound) runtime ?_).mono
  · intro _ final _ finished
    obtain ⟨env, moved, same⟩ := finished
    rw [later_constant moved] at same
    exact same
  · intro env moved
    rw [later_constant moved]
    exact sound.saved intents

/-- Recovery keeps the intents sound. -/
theorem SoundIntents.recover {before after : Dict Row}
    (sound : SoundIntents guarded before) {view : TaskView}
    (unseen : ∀ taskId, guarded taskId → view.outcome taskId = .notStarted)
    (recovered : Recovered py (fun taskId outcome => outcome = view.outcome taskId)
      before after) : SoundIntents guarded after where
  keyed := recovered.wellKeyed sound.keyed
  single := recovered.single sound.single
  held := by
    intro taskId holds
    obtain ⟨intentId, unresolved⟩ := sound.held taskId holds
    rcases recovered.unresolved_after unresolved with
      still | ⟨outcome, different, answer⟩
    · exact ⟨intentId, still⟩
    · rw [answer, unseen taskId holds] at different
      exact absurd rfl different

/-! ## One start -/

/-- When a start may be made: the Task has no other unresolved intent than the
one that is retried. -/
def Startable (intents : Dict Row) (taskId : String) :
    Option (String × Row) → Prop
  | none => ∀ intentId, ¬ Unresolved intents taskId intentId
  | some retried => intents.get? retried.1 = some retried.2 ∧
      unresolvedStart retried.2 = true ∧
        retried.2.get "task_id" .null = .string taskId

theorem Startable.retries {intents : Dict Row} {taskId : String}
    {retryOf : Option (String × Row)} (startable : Startable intents taskId retryOf) :
    Retries intents taskId retryOf := by
  cases retryOf with
  | none => trivial
  | some retried => exact startable

theorem SoundIntents.of_others {before after : Dict Row} {taskId intentId : String}
    (sound : SoundIntents guarded before) (free : ¬ guarded taskId)
    (keyed : WellKeyed after) (others : OthersKept taskId before after)
    (only : Only after taskId intentId) : SoundIntents guarded after where
  keyed := keyed
  single := sound.single.of_othersKept others only
  held := by
    intro other holds
    have different : other ≠ taskId := by
      intro same
      rw [same] at holds
      exact free holds
    obtain ⟨held, unresolved⟩ := sound.held other holds
    exact ⟨held, (others other different held).mpr unresolved⟩

theorem guarantees_startWithIntent
    (views : ∀ view, allowed view → ∀ taskId, guarded taskId →
      view.outcome taskId = .notStarted)
    (sound : Sound guarded world) {runtime : ProjectExecutionRuntimeState}
    (intents : SoundIntents guarded runtime.intents) {taskId : String}
    (free : ¬ guarded taskId) {retryOf : Option (String × Row)}
    (startable : Startable runtime.intents taskId retryOf) :
    Program.Guarantees (constantPort allowed).Step (Sound guarded) world
      (startWithIntent taskId runtime retryOf)
      fun result final => Sound guarded final ∧
        SoundIntents guarded result.1.intents ∧
        OthersKept taskId runtime.intents result.1.intents := by
  apply Program.guarantees_bind
  apply (guarantees_hex (calm_constant sound) ?_).mono
  · intro suffix drawn _ finished
    obtain ⟨env, moved, width, same⟩ := finished
    rw [later_constant moved] at same
    rw [same]
    have soundDrawn := sound.drew suffix
    apply Program.guarantees_bind
    apply (guarantees_still performs_now soundDrawn).mono
    intro createdAt timed _ finished
    rw [finished.1]
    -- The new intent, alone for its Task.
    have keyed : WellKeyed (addIntent runtime.intents (newIntentId taskId suffix)
        (newIntent (newIntentId taskId suffix) taskId createdAt) retryOf) :=
      intents.keyed.addIntent width
    have others : OthersKept taskId runtime.intents (addIntent runtime.intents
        (newIntentId taskId suffix)
        (newIntent (newIntentId taskId suffix) taskId createdAt) retryOf) :=
      intents.keyed.othersKept_addIntent width startable.retries
    have only : Only (addIntent runtime.intents (newIntentId taskId suffix)
        (newIntent (newIntentId taskId suffix) taskId createdAt) retryOf) taskId
        (newIntentId taskId suffix) := by
      apply only_addIntent
      cases retryOf with
      | none => exact startable
      | some retried =>
          obtain ⟨stored, isOpen, task⟩ := startable
          exact intents.single.only ⟨retried.2, stored, isOpen, task⟩
    obtain ⟨row, stored, pending⟩ := addIntent_pending runtime.intents
      (newIntentId taskId suffix) taskId createdAt retryOf
    generalize addIntent runtime.intents (newIntentId taskId suffix)
      (newIntent (newIntentId taskId suffix) taskId createdAt) retryOf = added
      at keyed others only stored
    have soundAdded := intents.of_others free keyed others only
    simp only [stored, Option.getD_some]
    apply Program.guarantees_bind
    apply (guarantees_saving soundDrawn soundAdded).mono
    intro _ saved soundSaved finished
    rw [finished] at soundSaved ⊢
    apply Program.guarantees_bind
    apply (guarantees_still (performs_append _ _) soundSaved).mono
    intro _ appended _ finished
    rw [finished.1]
    apply Program.guarantees_bind
    have starts : ∀ view, allowed view → Sound guarded
        { durable := { runtime with intents := added }
          env := view
          log := world.log ++ [.drew suffix] ++
            [.saved { runtime with intents := added }] ++ [.started taskId] } := by
      intro view permitted
      constructor
      · exact soundAdded
      · exact views view permitted
      · exact sound.requested.started stored pending
      · intro other holds member
        rcases List.mem_append.mp member with earlier | last
        · exact soundSaved.spared other holds earlier
        · rw [List.mem_singleton, LogEntry.started.injEq] at last
          rw [last] at holds
          exact free holds
    apply (guarantees_start (calm_constant soundSaved) taskId ?_).mono
    · intro reply started soundStarted finished
      obtain ⟨env, view, moved, permitted, same⟩ := finished
      rw [same] at soundStarted ⊢
      apply Program.guarantees_bind
      apply (guarantees_settleStart remembers_constant trivial
        (calm_constant soundStarted) pending.toStartOf reply).mono
      intro settled resolved soundResolved finished
      obtain ⟨after, moved, same, start, _⟩ := finished
      rw [same] at soundResolved ⊢
      have soundSettled : SoundIntents guarded
          (added.set (newIntentId taskId suffix) settled.1) :=
        soundAdded.of_others free (keyed.set width start)
          (keyed.othersKept_set width start) only.set
      apply Program.guarantees_bind
      apply (guarantees_saving soundResolved soundSettled).mono
      intro _ stored soundStored finished
      rw [finished] at soundStored ⊢
      apply Program.guarantees_bind
      apply (guarantees_still (performs_appendIf _ _ _) soundStored).mono
      intro _ final soundFinal finished
      rw [finished.1]
      apply Program.guarantees_pure soundStored
      exact ⟨soundStored, soundSettled,
        others.trans (keyed.othersKept_set width start)⟩
    · intro env reply view moved permitted
      exact starts view permitted
  · intro env suffix moved _
    rw [later_constant moved]
    exact sound.drew suffix

/-! ## The starts of a cycle -/

theorem guarantees_startPlanned
    (views : ∀ view, allowed view → ∀ taskId, guarded taskId →
      view.outcome taskId = .notStarted) (cycleId : String) (taskIds : List String)
    (sound : Sound guarded world) (runtime : ProjectExecutionRuntimeState)
    (intents : SoundIntents guarded runtime.intents) (started : List String)
    (distinct : taskIds.Nodup) (free : ∀ taskId ∈ taskIds, ¬ guarded taskId)
    (startable : ∀ taskId ∈ taskIds, Startable runtime.intents taskId none) :
    Program.Guarantees (constantPort allowed).Step (Sound guarded) world
      (startPlanned cycleId taskIds runtime started)
      fun result final => Sound guarded final ∧
        SoundIntents guarded result.1.intents := by
  induction taskIds generalizing world runtime started with
  | nil => exact Program.guarantees_pure sound ⟨sound, intents⟩
  | cons head tail inductionHypothesis =>
      apply Program.guarantees_bind
      apply (guarantees_startWithIntent views sound intents
        (free head List.mem_cons_self) (startable head List.mem_cons_self)).mono
      intro result middle _ finished
      obtain ⟨soundMiddle, intentsMiddle, others⟩ := finished
      have ends : ∀ (eventType : String) (data : Row) (row : Row),
          Program.Guarantees (constantPort allowed).Step (Sound guarded) middle
            (do
              let _ ← Action.append eventType data
              pure (result.1, started, [row]) :
                Action (ProjectExecutionRuntimeState × List String × List Row))
            fun result final => Sound guarded final ∧
              SoundIntents guarded result.1.intents := by
        intro eventType data row
        apply Program.guarantees_bind
        apply (guarantees_still (performs_append _ _) soundMiddle).mono
        intro _ final _ same
        rw [same.1]
        exact Program.guarantees_pure soundMiddle ⟨soundMiddle, intentsMiddle⟩
      obtain ⟨after, outcome⟩ := result
      cases outcome with
      | error failure => exact ends _ _ _
      | ok answer =>
          dsimp only
          split
          · apply inductionHypothesis soundMiddle after intentsMiddle
            · exact (List.nodup_cons.mp distinct).2
            · intro taskId member
              exact free taskId (List.mem_cons_of_mem _ member)
            · intro taskId member intentId unresolved
              have different : taskId ≠ head := by
                intro same
                rw [same] at member
                exact (List.nodup_cons.mp distinct).1 member
              rw [others taskId different] at unresolved
              exact startable taskId (List.mem_cons_of_mem _ member) intentId
                unresolved
          · exact ends _ _ _

/-- A Task with an unresolved intent is occupied when a cycle has planned. -/
theorem occupied_of_unresolved {runtime : ProjectExecutionRuntimeState}
    {before : Dict Row} {view : TaskView} {taskIds : List String}
    (recovered : Recovered py (fun taskId outcome => outcome = view.outcome taskId)
      before runtime.intents)
    (planned : Planned py definition
      (fun taskId outcome => outcome = view.outcome taskId) runtime taskIds)
    {taskId intentId : String} (listed : taskId ∈ definition.taskIdList)
    (named : taskId ≠ "") (unresolved : Unresolved runtime.intents taskId intentId) :
    taskId ∈ occupiedTasks py definition runtime := by
  have told := (recovered.unresolved_before unresolved).2
  have observed := planned.observed taskId listed
  rw [← told] at observed
  exact mem_occupied_of_reserved (mem_reservedTasks unresolved named observed)

theorem guarantees_automaticCycle
    (views : ∀ view, allowed view → ∀ taskId, guarded taskId →
      view.outcome taskId = .notStarted)
    (named : ∀ taskId ∈ definition.taskIdList, taskId ≠ "")
    (sound : Sound guarded world) {runtime : ProjectExecutionRuntimeState}
    (intents : SoundIntents guarded runtime.intents) :
    Program.Guarantees (constantPort allowed).Step (Sound guarded) world
      (automaticCycle py definition runtime) fun _ _ => True := by
  unfold automaticCycle
  split
  · exact Program.guarantees_raise sound
  · apply Program.guarantees_bind
    apply (guarantees_prepareCycle remembers_constant trivial
      (fun _ => remembers_constant)
      (calm_constant sound) runtime ?_).mono
    · intro prepared final _ finished
      obtain ⟨env, moved, same, recovered, _, planned⟩ := finished
      rw [later_constant moved] at same recovered planned
      rw [same]
      have recoveredSound := intents.recover sound.unseen recovered
      have occupied : ∀ taskId ∈ prepared.2.taskIds, ∀ intentId,
          ¬ Unresolved prepared.1.intents taskId intentId := by
        intro taskId member intentId unresolved
        have listed := planned.limits.listed taskId member
        apply planned.limits.free taskId member
        exact occupied_of_unresolved recovered planned listed (named taskId listed)
          unresolved
      apply Program.guarantees_bind
      apply (guarantees_hex (calm_constant sound) ?_).mono
      · intro suffix drawn soundDrawn finished
        obtain ⟨_, moved, _, same⟩ := finished
        rw [later_constant moved] at same
        rw [same] at soundDrawn ⊢
        apply Program.guarantees_bind
        apply (guarantees_still (performs_append _ _) soundDrawn).mono
        intro _ appended _ finished
        rw [finished.1]
        apply Program.guarantees_bind
        have starts : Program.Guarantees (constantPort allowed).Step
            (Sound guarded) { world with log := world.log ++ [.drew suffix] }
            (startUnlessHeld ("automatic-" ++ suffix) prepared.2.taskIds prepared.1)
            fun result final => Sound guarded final ∧
              SoundIntents guarded result.1.intents := by
          unfold startUnlessHeld
          split
          · exact Program.guarantees_pure soundDrawn ⟨soundDrawn, recoveredSound⟩
          · apply guarantees_startPlanned views _ _ soundDrawn prepared.1
              recoveredSound []
            · exact planned.limits.nodup
            · intro taskId member holds
              obtain ⟨intentId, unresolved⟩ := recoveredSound.held taskId holds
              exact occupied taskId member intentId unresolved
            · intro taskId member
              exact occupied taskId member
        apply starts.mono
        intro result started _ finished
        obtain ⟨soundStarted, intentsStarted⟩ := finished
        apply guarantees_evaluations result.1 (calm_constant soundStarted)
        intro evaluated later kept moved
        rw [later_constant moved]
        apply Program.guarantees_bind
        apply (guarantees_still performs_observeTasks soundStarted).mono
        intro observed watched _ finished
        obtain ⟨same, yields⟩ := finished
        rw [same]
        apply Program.guarantees_bind
        apply (guarantees_refresh observed (calm_constant soundStarted)).mono
        intro refreshed calmed _ finished
        obtain ⟨_, moved, same, refreshKept⟩ := finished
        rw [later_constant moved] at same
        have sameIntents : refreshed.1.intents = result.1.intents := by
          rw [refreshKept.intents, observeTasks_intents yields, kept.intents]
        rw [same]
        apply Program.guarantees_bind
        apply (guarantees_still performs_now soundStarted).mono
        intro completedAt timed _ finished
        rw [finished.1]
        apply Program.guarantees_bind
        apply (guarantees_saving soundStarted ?_).mono
        · intro _ saved soundSaved _
          apply Program.guarantees_bind
          apply (guarantees_still (performs_append _ _) soundSaved).mono
          intro _ ending soundEnding _
          exact Program.guarantees_pure soundEnding trivial
        · rw [← sameIntents] at intentsStarted
          exact intentsStarted
      · intro env suffix moved _
        rw [later_constant moved]
        exact sound.drew suffix
    · intro _ _ _ _
      trivial

/-! ## Other operations -/

theorem guarantees_startTask
    (views : ∀ view, allowed view → ∀ taskId, guarded taskId →
      view.outcome taskId = .notStarted)
    (assisted : ∀ taskId, guarded taskId → definition.mode = .automatic)
    (sound : Sound guarded world) {runtime : ProjectExecutionRuntimeState}
    (intents : SoundIntents guarded runtime.intents) (taskId : String)
    (retryUncertain : Bool) :
    Program.Guarantees (constantPort allowed).Step (Sound guarded) world
      (startTask py definition taskId retryUncertain runtime) fun _ _ => True := by
  unfold startTask
  cases mode : definition.mode with
  | observe => exact Program.guarantees_raise sound
  | automatic => exact Program.guarantees_raise sound
  | assisted =>
      have free : ¬ guarded taskId := by
        intro holds
        rw [assisted taskId holds] at mode
        cases mode
      apply Program.guarantees_bind
      apply (guarantees_sameTasks performs_syncDefinition
        (fun _ yields => syncDefinition_sameTasks yields)
        (calm_constant sound)).mono
      intro synced first _ finished
      obtain ⟨_, moved, same, syncKept⟩ := finished
      rw [later_constant moved] at same
      rw [same]
      apply Program.guarantees_bind
      apply (guarantees_sameTasks performs_evaluateGates
        (fun _ yields => evaluateGates_sameTasks yields)
        (calm_constant sound)).mono
      intro evaluated second _ finished
      obtain ⟨_, moved, same, gatesKept⟩ := finished
      rw [later_constant moved] at same
      rw [same]
      have sameIntents := (syncKept.trans gatesKept).intents
      rw [← sameIntents] at intents
      split
      · exact Program.guarantees_raise sound
      · apply Program.guarantees_bind
        apply (guarantees_still (performs_evaluateTaskEligibility taskId) sound).mono
        intro eligibility third _ finished
        rw [finished.1]
        split
        · exact Program.guarantees_raise sound
        · have starts : ∀ retryOf, Startable evaluated.intents taskId retryOf →
              Program.Guarantees (constantPort allowed).Step (Sound guarded) world
                (startWithIntent taskId evaluated retryOf >>= fun answered =>
                  returned answered.2) fun _ _ => True := by
            intro retryOf startable
            apply Program.guarantees_bind
            apply (guarantees_startWithIntent views sound intents free
              startable).mono
            intro result final soundFinal _
            obtain ⟨after, answer⟩ := result
            cases answer with
            | ok value => exact Program.guarantees_pure soundFinal trivial
            | error failure => exact Program.guarantees_raise soundFinal
          unfold retriedIntent
          cases found : pendingStartIntent evaluated taskId with
          | none =>
              apply starts none
              intro intentId unresolved
              obtain ⟨row, stored, isOpen, task⟩ := unresolved
              have absent := List.find?_eq_none.mp found (intentId, row)
                (Dict.mem_entries_iff.mpr stored)
              simp [isOpen, task] at absent
          | some pending =>
              cases retryUncertain with
              | false => exact Program.guarantees_raise sound
              | true =>
                  apply starts
                  have listed := List.mem_of_find?_eq_some found
                  have holds := List.find?_some found
                  rw [decide_eq_true_eq] at holds
                  exact ⟨Dict.mem_entries_iff.mp listed, holds⟩

/-- A quiet part in front of the rest. -/
theorem guarantees_kept {Value : Type}
    {program : Action ProjectExecutionRuntimeState}
    {next : ProjectExecutionRuntimeState → Action Value}
    {returns : Value → World TaskView → Prop}
    {runtime : ProjectExecutionRuntimeState} (sound : Sound guarded world)
    (intents : SoundIntents guarded runtime.intents)
    (performs : program.Performs Effect.Quiet)
    (frame : ∀ after, program.Yields anyAnswers after → SameTasks runtime after)
    (rest : ∀ after, SoundIntents guarded after.intents →
      Program.Guarantees (constantPort allowed).Step (Sound guarded) world
        (next after) returns) :
    Program.Guarantees (constantPort allowed).Step (Sound guarded) world
      (program >>= next) returns := by
  apply Program.guarantees_bind
  apply (guarantees_still performs sound).mono
  intro after final _ finished
  obtain ⟨same, yields⟩ := finished
  rw [same]
  apply rest
  rw [(frame after yields).intents]
  exact intents

theorem guarantees_saveLast {runtime : ProjectExecutionRuntimeState}
    (sound : Sound guarded world) (intents : SoundIntents guarded runtime.intents) :
    Program.Guarantees (constantPort allowed).Step (Sound guarded) world
      (Action.save runtime) fun _ _ => True := by
  apply (guarantees_saving sound intents).mono
  intro _ _ _ _
  trivial

/-- The definition is brought up to date and the Gates are evaluated. -/
theorem guarantees_gates {Value : Type}
    {next : ProjectExecutionRuntimeState → Action Value}
    {returns : Value → World TaskView → Prop}
    {runtime : ProjectExecutionRuntimeState} (sound : Sound guarded world)
    (intents : SoundIntents guarded runtime.intents)
    (rest : ∀ after, SoundIntents guarded after.intents →
      Program.Guarantees (constantPort allowed).Step (Sound guarded) world
        (next after) returns) :
    Program.Guarantees (constantPort allowed).Step (Sound guarded) world
      (do
        let runtime ← syncDefinition py definition runtime
        let runtime ← evaluateGates py definition runtime
        next runtime) returns := by
  apply guarantees_kept sound intents performs_syncDefinition
    fun _ yields => syncDefinition_sameTasks yields
  intro synced intentsSynced
  apply guarantees_kept sound intentsSynced performs_evaluateGates
    fun _ yields => evaluateGates_sameTasks yields
  exact rest

/-- Every operation keeps the invariant, wherever it is cut off. -/
theorem guarantees_operation
    (views : ∀ view, allowed view → ∀ taskId, guarded taskId →
      view.outcome taskId = .notStarted)
    (assisted : ∀ taskId, guarded taskId → definition.mode = .automatic)
    (named : ∀ taskId ∈ definition.taskIdList, taskId ≠ "")
    (sound : Sound guarded world) (operation : Operation) :
    Program.Guarantees (constantPort allowed).Step (Sound guarded) world
      (operation.program py definition world.durable) fun _ _ => True := by
  have intents := sound.intents
  have ends : ∀ {Value : Type} {program : Action Value},
      Program.Guarantees (constantPort allowed).Step (Sound guarded) world program
        (fun _ _ => True) →
      Program.Guarantees (constantPort allowed).Step (Sound guarded) world
        (do
          let _ ← program
          pure ()) fun _ _ => True := by
    intro Value program guarantees
    apply Program.guarantees_bind
    apply guarantees.mono
    intro _ final safe _
    exact Program.guarantees_pure safe trivial
  cases operation with
  | reconcile =>
      apply ends
      apply guarantees_reconcile remembers_constant trivial (calm_constant sound)
      intro after env moved recovered
      rw [later_constant moved] at recovered ⊢
      exact sound.saved (intents.recover sound.unseen recovered)
  | startTask taskId retryUncertain =>
      apply ends
      exact guarantees_startTask views assisted sound intents taskId retryUncertain
  | automaticCycle =>
      apply ends
      exact guarantees_automaticCycle views named sound intents
  | decideGate gateId actor decision reason =>
      apply guarantees_gates sound intents
      intro evaluated intentsEvaluated
      cases definition.findGate gateId with
      | none => exact Program.guarantees_raise sound
      | some gate =>
          apply guarantees_kept sound intentsEvaluated
            (performs_decide gateId actor decision reason)
            fun _ yields => decide_sameTasks yields
          intro decided intentsDecided
          apply guarantees_kept sound intentsDecided (performs_evaluate gate)
          · intro after yields
            rw [(evaluate_frame yields).1]
            exact ⟨rfl, rfl⟩
          · intro after intentsAfter
            exact guarantees_saveLast sound intentsAfter
  | waiveGate gateId actor reason =>
      apply guarantees_gates sound intents
      intro evaluated intentsEvaluated
      split
      · exact Program.guarantees_raise sound
      · apply guarantees_kept sound intentsEvaluated
          (performs_waive gateId actor reason) fun _ yields => waive_sameTasks yields
        intro waived intentsWaived
        exact guarantees_saveLast sound intentsWaived
  | pause reason =>
      apply Program.guarantees_bind
      apply (guarantees_saving sound ?_).mono
      · intro _ final safe _
        apply (guarantees_still (performs_append _ _) safe).mono
        intro _ _ _ _
        trivial
      · exact intents
  | resume =>
      apply Program.guarantees_bind
      apply (guarantees_saving sound ?_).mono
      · intro _ final safe _
        apply (guarantees_still (performs_append _ _) safe).mono
        intro _ _ _ _
        trivial
      · exact intents

end Operations

end Execraft.ProjectExecution
