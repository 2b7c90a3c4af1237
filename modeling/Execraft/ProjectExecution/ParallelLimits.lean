import Execraft.ProjectExecution.StartSessions

/-!
# Tasks in flight

Tasks that are launched with a delay, run and end while the engine is at work.
Whatever they do, the Tasks in flight stay within the limits of the policy: each
launched one is accounted for by an unresolved intent until it is seen.
-/

namespace Execraft.ProjectExecution

open Foundation Foundation.Json ProjectExecutionEngine Surroundings
open AutomaticExecutionPlanner

/-! ## Progress of Tasks -/

/-- Where a Task truly stands.  A launched one still appears not started. -/
inductive Progress where
  | notStarted
  | launched
  | running
  | terminal
  deriving DecidableEq, Repr

/-- What a Task may do by itself. -/
inductive Progress.Moves : Progress → Progress → Prop where
  | stays (progress : Progress) : Progress.Moves progress progress
  | appears : Progress.Moves .launched .running
  | vanishes : Progress.Moves .launched .terminal
  | ends : Progress.Moves .running .terminal

/-- The outcome that a port may report of a Task. -/
def Progress.Reports : Progress → TaskOutcome → Prop
  | .notStarted, outcome => outcome = .notStarted
  | .launched, outcome => outcome = .notStarted
  | .running, outcome => outcome = .running
  | .terminal, outcome => outcome = .completed ∨ outcome = .failed ∨
      outcome = .cancelled

/-- A start launches its Task or does nothing; a refused one does nothing. -/
structure Starts (before : String → Progress) (taskId : String)
    (reply : Except String TaskStartResult) (after : String → Progress) : Prop where
  others : ∀ other, other ≠ taskId → after other = before other
  itself : after taskId = before taskId ∨
    before taskId = .notStarted ∧ after taskId = .launched
  refused : Refused reply → after taskId = before taskId

/-- Tasks that move on by themselves around every effect. -/
def progressingTasks : Surroundings (String → Progress) where
  moves before after := ∀ taskId, Progress.Moves (before taskId) (after taskId)
  shows status view := ∀ taskId, (status taskId).Reports (view.outcome taskId)
  starts := Starts

/-- Started and not yet terminal. -/
def InFlight (status : String → Progress) (taskId : String) : Prop :=
  status taskId = .launched ∨ status taskId = .running

/-- Every launched Task has an unresolved start intent. -/
def Covered (status : String → Progress) (intents : Dict Row) : Prop :=
  ∀ taskId, status taskId = .launched →
    ∃ intentId, Unresolved intents taskId intentId

section Moves

variable {before after : String → Progress} {taskId : String}

theorem later_progress {motive : Progress → Prop}
    (kept : ∀ old new, Progress.Moves old new → motive new → motive old)
    (moved : progressingTasks.Later before after) (holds : motive (after taskId)) :
    motive (before taskId) := by
  induction moved with
  | refl => exact holds
  | tail _ moves inductionHypothesis =>
      exact inductionHypothesis (kept _ _ (moves taskId) holds)

theorem later_launched (moved : progressingTasks.Later before after)
    (launched : after taskId = .launched) : before taskId = .launched := by
  apply later_progress (motive := fun progress => progress = .launched) _ moved
    launched
  intro old new moves same
  rw [same] at moves
  cases moves
  rfl

theorem later_inFlight (moved : progressingTasks.Later before after)
    (flying : InFlight after taskId) : InFlight before taskId := by
  apply later_progress (motive := fun progress =>
    progress = .launched ∨ progress = .running) _ moved flying
  intro old new moves holds
  cases moves with
  | stays => exact holds
  | appears => exact Or.inl rfl
  | vanishes => exact Or.inl rfl
  | ends => exact Or.inr rfl

theorem Covered.later {intents : Dict Row} (covered : Covered before intents)
    (moved : progressingTasks.Later before after) : Covered after intents := by
  intro taskId launched
  exact covered taskId (later_launched moved launched)

theorem Starts.inFlight {reply : Except String TaskStartResult}
    (starts : Starts before taskId reply after) {other : String}
    (flying : InFlight after other) : InFlight before other ∨ other = taskId := by
  by_cases same : other = taskId
  · exact Or.inr same
  · rw [InFlight, starts.others other same] at flying
    exact Or.inl flying

end Moves

/-! ## Limits -/

/-- The Tasks in flight are no more than the policy allows. -/
structure WithinPolicy (definition : ProjectExecutionDefinition)
    (status : String → Progress) : Prop where
  parallel : ∀ taskIds : List String, taskIds.Nodup →
    (∀ taskId ∈ taskIds, InFlight status taskId) →
      taskIds.length ≤ definition.policy.maximumParallelTasks
  phases : ∀ (phaseId : String) (taskIds : List String), taskIds.Nodup →
    (∀ taskId ∈ taskIds, InFlight status taskId ∧
      phaseByTask definition taskId = some phaseId) →
        taskIds.length ≤ definition.policy.maximumParallelTasksPerPhase

variable {py : Python} {definition : ProjectExecutionDefinition}

theorem WithinPolicy.mono {before after : String → Progress}
    (within : WithinPolicy definition before)
    (fewer : ∀ taskId, InFlight after taskId → InFlight before taskId) :
    WithinPolicy definition after where
  parallel := by
    intro taskIds distinct flying
    apply within.parallel taskIds distinct
    intro taskId member
    exact fewer taskId (flying taskId member)
  phases := by
    intro phaseId taskIds distinct flying
    apply within.phases phaseId taskIds distinct
    intro taskId member
    exact ⟨fewer taskId (flying taskId member).1, (flying taskId member).2⟩

/-- The Tasks in flight while a plan is carried out: those before it, which are
occupied, and those of the plan. -/
theorem WithinPolicy.of_plan {before after : String → Progress}
    {runtime : ProjectExecutionRuntimeState} {planned : List String}
    (within : WithinPolicy definition before)
    (occupied : ∀ taskId, InFlight before taskId →
      taskId ∈ occupiedTasks py definition runtime)
    (limits : PlanLimits py definition runtime planned)
    (more : ∀ taskId, InFlight after taskId →
      InFlight before taskId ∨ taskId ∈ planned) :
    WithinPolicy definition after where
  parallel := by
    intro taskIds distinct flying
    rcases limits.parallel with empty | room
    · apply within.parallel taskIds distinct
      intro taskId member
      rcases more taskId (flying taskId member) with earlier | new
      · exact earlier
      · rw [empty] at new
        cases new
    · have inside : taskIds ⊆ occupiedTasks py definition runtime ++ planned := by
        intro taskId member
        rcases more taskId (flying taskId member) with earlier | new
        · exact List.mem_append_left _ (occupied taskId earlier)
        · exact List.mem_append_right _ new
      exact (distinct.subperm inside).length_le.trans room
  phases := by
    intro phaseId taskIds distinct flying
    rcases limits.phases phaseId with empty | room
    · apply within.phases phaseId taskIds distinct
      intro taskId member
      obtain ⟨flies, phase⟩ := flying taskId member
      rcases more taskId flies with earlier | new
      · exact ⟨earlier, phase⟩
      · have counted : taskId ∈ planned.filter
            (fun other => phaseByTask definition other = some phaseId) :=
          List.mem_filter.mpr ⟨new, decide_eq_true phase⟩
        rw [List.length_eq_zero_iff.mp empty] at counted
        cases counted
    · have inside : taskIds ⊆ (occupiedTasks py definition runtime ++
          planned).filter fun other => phaseByTask definition other = some phaseId := by
        intro taskId member
        obtain ⟨flies, phase⟩ := flying taskId member
        apply List.mem_filter.mpr
        refine ⟨?_, decide_eq_true phase⟩
        rcases more taskId flies with earlier | new
        · exact List.mem_append_left _ (occupied taskId earlier)
        · exact List.mem_append_right _ new
      exact (distinct.subperm inside).length_le.trans room

/-! ## The invariant -/

/-- What holds of intents while Tasks progress. -/
structure SafeIntents (status : String → Progress) (intents : Dict Row) : Prop where
  keyed : WellKeyed intents
  covered : Covered status intents

theorem SafeIntents.later {before after : String → Progress} {intents : Dict Row}
    (safe : SafeIntents before intents)
    (moved : progressingTasks.Later before after) : SafeIntents after intents :=
  ⟨safe.keyed, safe.covered.later moved⟩

/-- The invariant. -/
structure Bounded (definition : ProjectExecutionDefinition)
    (world : World (String → Progress)) : Prop where
  intents : SafeIntents world.env world.durable.intents
  within : WithinPolicy definition world.env
  listed : ∀ taskId, InFlight world.env taskId → taskId ∈ definition.taskIdList

variable {world : World (String → Progress)}

theorem Bounded.calm (bounded : Bounded definition world) :
    progressingTasks.Calm (Bounded definition) world := by
  intro env moved
  constructor
  · exact bounded.intents.later moved
  · apply bounded.within.mono
    intro taskId flying
    exact later_inFlight moved flying
  · intro taskId flying
    exact bounded.listed taskId (later_inFlight moved flying)

/-- A change of the log does not matter. -/
theorem Bounded.logged (bounded : Bounded definition world) (log : List LogEntry) :
    Bounded definition { world with log := log } :=
  ⟨bounded.intents, bounded.within, bounded.listed⟩

theorem Bounded.saved (bounded : Bounded definition world)
    {runtime : ProjectExecutionRuntimeState}
    (safe : SafeIntents world.env runtime.intents) (log : List LogEntry) :
    Bounded definition { world with
      durable := runtime
      log := log } :=
  ⟨safe, bounded.within, bounded.listed⟩

/-! ## What answers tell -/

/-- A Task that was seen to have begun is not launched any more. -/
def Appeared (taskId : String) (outcome : TaskOutcome) (status : String → Progress) :
    Prop :=
  outcome ≠ .notStarted → status taskId ≠ .launched

theorem remembers_appeared :
    Remembers progressingTasks (fun _ => True) Appeared where
  stays := by
    intro _ _ _ _
    trivial
  learns := by
    intro status view taskId _ shown seen launched
    have reports := shown taskId
    rw [launched] at reports
    exact seen reports
  keeps := by
    intro status after taskId outcome _ known moves seen launched
    exact known seen (later_launched (Relation.ReflTransGen.single moves) launched)

/-- A Task in flight was seen running or is waited for. -/
def Noticed (intents : Dict Row) (taskId : String) (outcome : TaskOutcome)
    (status : String → Progress) : Prop :=
  InFlight status taskId → outcome = .running ∨
    outcome = .notStarted ∧ ∃ intentId, Unresolved intents taskId intentId

theorem remembers_noticed (intents : Dict Row) :
    Remembers progressingTasks (fun status => Covered status intents)
      (Noticed intents) where
  stays := by
    intro status after covered moves
    exact covered.later (Relation.ReflTransGen.single moves)
  learns := by
    intro status view taskId covered shown flying
    have reports := shown taskId
    rcases flying with launched | running
    · rw [launched] at reports
      exact Or.inr ⟨reports, covered taskId launched⟩
    · rw [running] at reports
      exact Or.inl reports
  keeps := by
    intro status after taskId outcome _ known moves flying
    exact known (later_inFlight (Relation.ReflTransGen.single moves) flying)

/-- Recovery keeps every launched Task covered. -/
theorem SafeIntents.recover {before after : Dict Row}
    {status : String → Progress} (safe : SafeIntents status before)
    (recovered : Recovered py (fun taskId outcome => Appeared taskId outcome status)
      before after) : SafeIntents status after where
  keyed := recovered.wellKeyed safe.keyed
  covered := by
    intro taskId launched
    obtain ⟨intentId, unresolved⟩ := safe.covered taskId launched
    rcases recovered.unresolved_after unresolved with
      still | ⟨outcome, different, appeared⟩
    · exact ⟨intentId, still⟩
    · exact absurd launched (appeared different)

/-! ## One start -/

/-- The bound that a start may not exceed. -/
def Allows (definition : ProjectExecutionDefinition) (status : String → Progress)
    (taskId : String) : Prop :=
  ∀ after, (∀ other, InFlight after other → InFlight status other ∨ other = taskId) →
    WithinPolicy definition after

theorem guarantees_launch (bounded : Bounded definition world)
    {runtime : ProjectExecutionRuntimeState}
    (safe : SafeIntents world.env runtime.intents) {taskId : String}
    (listed : taskId ∈ definition.taskIdList)
    (grounded : ¬ InFlight world.env taskId)
    (allows : Allows definition world.env taskId) :
    Program.Guarantees progressingTasks.Step (Bounded definition) world
      (startWithIntent taskId runtime none)
      fun result final => Bounded definition final ∧
        SafeIntents final.env result.1.intents ∧
        ∀ other, InFlight final.env other →
          InFlight world.env other ∨ other = taskId := by
  apply Program.guarantees_bind
  apply (guarantees_hex bounded.calm ?_).mono
  · intro suffix drawn _ finished
    obtain ⟨first, toFirst, width, same⟩ := finished
    have boundedDrawn := (bounded.calm.later toFirst).now.logged
      (world.log ++ [.drew suffix])
    rw [same]
    apply Program.guarantees_bind
    apply (guarantees_quiet performs_now boundedDrawn.calm).mono
    intro createdAt timed boundedTimed finished
    obtain ⟨second, toSecond, same, _⟩ := finished
    have untilSecond := toFirst.trans toSecond
    rw [same] at boundedTimed ⊢
    -- The new intent covers the Task before it is started.
    have keyed : WellKeyed (addIntent runtime.intents (newIntentId taskId suffix)
        (newIntent (newIntentId taskId suffix) taskId createdAt) none) :=
      safe.keyed.addIntent width
    have others : OthersKept taskId runtime.intents (addIntent runtime.intents
        (newIntentId taskId suffix)
        (newIntent (newIntentId taskId suffix) taskId createdAt) none) :=
      safe.keyed.othersKept_addIntent width trivial
    obtain ⟨row, stored, pending⟩ := addIntent_pending runtime.intents
      (newIntentId taskId suffix) taskId createdAt none
    generalize addIntent runtime.intents (newIntentId taskId suffix)
      (newIntent (newIntentId taskId suffix) taskId createdAt) none = added
      at keyed others stored
    have itself : Unresolved added taskId (newIntentId taskId suffix) :=
      ⟨row, stored, pending.unresolved, pending.task⟩
    have coversOthers : ∀ (intents : Dict Row) (status : String → Progress),
        OthersKept taskId runtime.intents intents →
        (∀ other, other ≠ taskId → status other = .launched →
          world.env other = .launched) →
        ∀ other, other ≠ taskId → status other = .launched →
          ∃ intentId, Unresolved intents other intentId := by
      intro intents status kept earlier other different launched
      obtain ⟨intentId, unresolved⟩ := safe.covered other
        (earlier other different launched)
      exact ⟨intentId, (kept other different intentId).mpr unresolved⟩
    have safeAdded : ∀ status : String → Progress,
        (∀ other, other ≠ taskId → status other = .launched →
          world.env other = .launched) → SafeIntents status added := by
      intro status earlier
      refine ⟨keyed, ?_⟩
      intro other launched
      by_cases sameTask : other = taskId
      · rw [sameTask]
        exact ⟨_, itself⟩
      · exact coversOthers added status others earlier other sameTask launched
    simp only [stored, Option.getD_some]
    apply Program.guarantees_bind
    apply (guarantees_save boundedTimed.calm _ ?_).mono
    · intro _ saved boundedSaved finished
      obtain ⟨third, toThird, same⟩ := finished
      have untilThird := untilSecond.trans toThird
      rw [same] at boundedSaved ⊢
      apply Program.guarantees_bind
      apply (guarantees_quiet (performs_append _ _) boundedSaved.calm).mono
      intro _ appended boundedAppended finished
      obtain ⟨fourth, toFourth, same, _⟩ := finished
      have untilFourth := untilThird.trans toFourth
      rw [same] at boundedAppended ⊢
      have launches : ∀ status reply after,
          progressingTasks.Later world.env status →
          Starts status taskId reply after →
          Bounded definition
            { durable := { runtime with intents := added }
              env := after
              log := world.log ++ [.drew suffix] ++
                [.saved { runtime with intents := added }] ++ [.started taskId] } := by
        intro status reply after moved starts
        constructor
        · apply safeAdded
          intro other different launched
          have unchanged := starts.others other different
          exact later_launched moved (unchanged.symm.trans launched)
        · apply allows
          intro other flying
          rcases starts.inFlight flying with earlier | sameTask
          · exact Or.inl (later_inFlight moved earlier)
          · exact Or.inr sameTask
        · intro other flying
          rcases starts.inFlight flying with earlier | sameTask
          · exact bounded.listed other (later_inFlight moved earlier)
          · rw [sameTask]
            exact listed
      apply Program.guarantees_bind
      apply (guarantees_start boundedAppended.calm taskId ?_).mono
      · intro reply started boundedStarted finished
        obtain ⟨status, after, toStatus, starts, same⟩ := finished
        have untilStatus := untilFourth.trans toStatus
        rw [same] at boundedStarted ⊢
        apply Program.guarantees_bind
        apply (guarantees_settleStart remembers_appeared trivial
          boundedStarted.calm pending.toStartOf reply).mono
        intro settled resolved boundedResolved finished
        obtain ⟨last, toLast, same, start, account⟩ := finished
        rw [same] at boundedResolved ⊢
        have safeSettled : ∀ final, progressingTasks.Later last final →
            SafeIntents final (added.set (newIntentId taskId suffix) settled.1) := by
          intro final toFinal
          have sinceStart := toLast.trans toFinal
          refine ⟨keyed.set width start, ?_⟩
          intro other launched
          have launchedAfter := later_launched sinceStart launched
          by_cases sameTask : other = taskId
          · rw [sameTask] at launched launchedAfter ⊢
            rcases account with isOpen | ⟨outcome, seen, appeared⟩ | refused
            · refine ⟨newIntentId taskId suffix, ?_⟩
              rw [unresolved_set_self]
              exact ⟨isOpen, start.task⟩
            · exact absurd (later_launched toFinal launched) (appeared seen)
            · have unchanged := (starts.refused refused).symm.trans launchedAfter
              have before := later_launched untilStatus unchanged
              exact absurd (Or.inl before) grounded
          · apply coversOthers _ after
              (others.trans (keyed.othersKept_set width start)) _ other sameTask
              launchedAfter
            intro another different launchedThen
            have unchanged := starts.others another different
            exact later_launched untilStatus (unchanged.symm.trans launchedThen)
        apply Program.guarantees_bind
        apply (guarantees_save boundedResolved.calm _ ?_).mono
        · intro _ stored boundedStored finished
          obtain ⟨fifth, toFifth, same⟩ := finished
          rw [same] at boundedStored ⊢
          apply Program.guarantees_bind
          apply (guarantees_quiet (performs_appendIf _ _ _) boundedStored.calm).mono
          intro _ final boundedFinal finished
          obtain ⟨sixth, toSixth, same, _⟩ := finished
          rw [same] at boundedFinal ⊢
          have sinceStart := toLast.trans (toFifth.trans toSixth)
          apply Program.guarantees_pure boundedFinal
          refine ⟨boundedFinal, safeSettled sixth (toFifth.trans toSixth), ?_⟩
          intro other flying
          rcases starts.inFlight (later_inFlight sinceStart flying) with
            earlier | sameTask
          · exact Or.inl (later_inFlight untilStatus earlier)
          · exact Or.inr sameTask
        · intro env moved
          exact (boundedResolved.calm.later moved).now.saved
            (safeSettled env moved) _
      · intro status reply after toStatus starts
        exact launches status reply after (untilFourth.trans toStatus) starts
    · intro env moved
      apply (boundedTimed.calm.later moved).now.saved
      apply safeAdded
      intro other different launched
      exact later_launched (untilSecond.trans moved) launched
  · intro env suffix moved _
    exact (bounded.calm.later moved).now.logged _

/-! ## The starts of a cycle -/

theorem guarantees_launches (cycleId : String) {status : String → Progress}
    {runtime : ProjectExecutionRuntimeState} {planned : List String}
    (within : WithinPolicy definition status)
    (occupied : ∀ taskId, InFlight status taskId →
      taskId ∈ occupiedTasks py definition runtime)
    (limits : PlanLimits py definition runtime planned)
    (done rest : List String) (shape : planned = done ++ rest)
    (bounded : Bounded definition world) (current : ProjectExecutionRuntimeState)
    (safe : SafeIntents world.env current.intents) (started : List String)
    (flying : ∀ taskId, InFlight world.env taskId →
      InFlight status taskId ∨ taskId ∈ done) :
    Program.Guarantees progressingTasks.Step (Bounded definition) world
      (startPlanned cycleId rest current started)
      fun result final => Bounded definition final ∧
        SafeIntents final.env result.1.intents := by
  induction rest generalizing world current started done with
  | nil => exact Program.guarantees_pure bounded ⟨bounded, safe⟩
  | cons head tail inductionHypothesis =>
      have member : head ∈ planned := by
        rw [shape]
        exact List.mem_append_right _ List.mem_cons_self
      have grounded : ¬ InFlight world.env head := by
        intro flies
        rcases flying head flies with earlier | again
        · exact limits.free head member (occupied head earlier)
        · have distinct := limits.nodup
          rw [shape] at distinct
          have apart := (List.nodup_append.mp distinct).2.2
          exact apart head again head List.mem_cons_self rfl
      have grows : ∀ taskId, InFlight status taskId ∨ taskId ∈ done ∨
          taskId = head → InFlight status taskId ∨ taskId ∈ planned := by
        intro taskId cases
        rcases cases with earlier | again | new
        · exact Or.inl earlier
        · rw [shape]
          exact Or.inr (List.mem_append_left _ again)
        · rw [new]
          exact Or.inr member
      have allows : Allows definition world.env head := by
        intro after more
        apply within.of_plan occupied limits
        intro taskId flies
        apply grows
        rcases more taskId flies with now | new
        · rcases flying taskId now with earlier | again
          · exact Or.inl earlier
          · exact Or.inr (Or.inl again)
        · exact Or.inr (Or.inr new)
      apply Program.guarantees_bind
      apply (guarantees_launch bounded safe (limits.listed head member) grounded
        allows).mono
      intro result middle _ finished
      obtain ⟨boundedMiddle, safeMiddle, more⟩ := finished
      have ends : ∀ (eventType : String) (data : Row) (row : Row),
          Program.Guarantees progressingTasks.Step (Bounded definition) middle
            (do
              let _ ← Action.append eventType data
              pure (result.1, started, [row]) :
                Action (ProjectExecutionRuntimeState × List String × List Row))
            fun result final => Bounded definition final ∧
              SafeIntents final.env result.1.intents := by
        intro eventType data row
        apply Program.guarantees_bind
        apply (guarantees_quiet (performs_append _ _) boundedMiddle.calm).mono
        intro _ final boundedFinal finished
        obtain ⟨env, moved, same, _⟩ := finished
        rw [same] at boundedFinal ⊢
        exact Program.guarantees_pure boundedFinal
          ⟨boundedFinal, safeMiddle.later moved⟩
      obtain ⟨after, outcome⟩ := result
      cases outcome with
      | error failure => exact ends _ _ _
      | ok answer =>
          dsimp only
          split
          · apply inductionHypothesis (done ++ [head]) _ boundedMiddle after
              safeMiddle
            · intro taskId flies
              rcases more taskId flies with now | new
              · rcases flying taskId now with earlier | again
                · exact Or.inl earlier
                · exact Or.inr (List.mem_append_left _ again)
              · rw [new]
                exact Or.inr (List.mem_append_right _ List.mem_cons_self)
            · rw [shape, List.append_assoc, List.singleton_append]
          · exact ends _ _ _

/-! ## Operations -/

/-- A Task in flight is occupied when a cycle has planned. -/
theorem occupied_of_inFlight {runtime : ProjectExecutionRuntimeState}
    {taskIds : List String} {status : String → Progress}
    (planned : Planned py definition
      (fun taskId outcome => Noticed runtime.intents taskId outcome status) runtime
      taskIds)
    {taskId : String} (listed : taskId ∈ definition.taskIdList)
    (named : taskId ≠ "") (flying : InFlight status taskId) :
    taskId ∈ occupiedTasks py definition runtime := by
  rcases planned.observed taskId listed flying with
    running | ⟨unseen, intentId, unresolved⟩
  · exact mem_occupied_of_running listed running
  · exact mem_occupied_of_reserved (mem_reservedTasks unresolved named unseen)

theorem guarantees_boundedCycle
    (named : ∀ taskId ∈ definition.taskIdList, taskId ≠ "")
    (bounded : Bounded definition world) {runtime : ProjectExecutionRuntimeState}
    (safe : SafeIntents world.env runtime.intents) :
    Program.Guarantees progressingTasks.Step (Bounded definition) world
      (automaticCycle py definition runtime) fun _ _ => True := by
  unfold automaticCycle
  split
  · exact Program.guarantees_raise bounded
  · apply Program.guarantees_bind
    apply (guarantees_prepareCycle remembers_appeared trivial remembers_noticed
      bounded.calm runtime ?_).mono
    · intro prepared middle boundedPrepared finished
      obtain ⟨status, moved, same, recovered, _, planned⟩ := finished
      rw [same] at boundedPrepared ⊢
      have safePrepared := (safe.later moved).recover recovered
      have occupied : ∀ taskId, InFlight status taskId →
          taskId ∈ occupiedTasks py definition prepared.1 := by
        intro taskId flying
        have listed := boundedPrepared.listed taskId flying
        exact occupied_of_inFlight planned listed (named taskId listed) flying
      apply Program.guarantees_bind
      apply (guarantees_hex boundedPrepared.calm ?_).mono
      · intro suffix drawn boundedDrawn finished
        obtain ⟨first, toFirst, _, same⟩ := finished
        rw [same] at boundedDrawn ⊢
        apply Program.guarantees_bind
        apply (guarantees_quiet (performs_append _ _) boundedDrawn.calm).mono
        intro _ appended boundedAppended finished
        obtain ⟨second, toSecond, same, _⟩ := finished
        have untilSecond := toFirst.trans toSecond
        rw [same] at boundedAppended ⊢
        apply Program.guarantees_bind
        have launches : Program.Guarantees progressingTasks.Step
            (Bounded definition)
            { world with
              env := second
              log := world.log ++ [.drew suffix] }
            (startUnlessHeld ("automatic-" ++ suffix) prepared.2.taskIds prepared.1)
            fun result final => Bounded definition final ∧
              SafeIntents final.env result.1.intents := by
          have safeSecond := safePrepared.later untilSecond
          unfold startUnlessHeld
          split
          · exact Program.guarantees_pure boundedAppended
              ⟨boundedAppended, safeSecond⟩
          · apply guarantees_launches _ boundedPrepared.within occupied
              planned.limits [] _ rfl boundedAppended prepared.1 safeSecond
            intro taskId flying
            exact Or.inl (later_inFlight untilSecond flying)
        apply launches.mono
        intro result started _ finished
        obtain ⟨boundedStarted, safeStarted⟩ := finished
        apply guarantees_evaluations result.1 boundedStarted.calm
        intro evaluated third kept toThird
        have boundedThird := (boundedStarted.calm.later toThird).now
        apply Program.guarantees_bind
        apply (guarantees_quiet performs_observeTasks boundedThird.calm).mono
        intro observed watched boundedWatched finished
        obtain ⟨fourth, toFourth, same, yields⟩ := finished
        rw [same] at boundedWatched ⊢
        apply Program.guarantees_bind
        apply (guarantees_refresh observed boundedWatched.calm).mono
        intro refreshed calmed boundedCalmed finished
        obtain ⟨fifth, toFifth, same, refreshKept⟩ := finished
        have sameIntents : refreshed.1.intents = result.1.intents := by
          rw [refreshKept.intents, observeTasks_intents yields, kept.intents]
        rw [same] at boundedCalmed ⊢
        apply Program.guarantees_bind
        apply (guarantees_quiet performs_now boundedCalmed.calm).mono
        intro completedAt timed boundedTimed finished
        obtain ⟨sixth, toSixth, same, _⟩ := finished
        have untilSixth := ((toThird.trans toFourth).trans toFifth).trans toSixth
        rw [same] at boundedTimed ⊢
        apply Program.guarantees_bind
        apply (guarantees_save boundedTimed.calm _ ?_).mono
        · intro _ saved boundedSaved _
          apply Program.guarantees_bind
          apply (guarantees_quiet (performs_append _ _) boundedSaved.calm).mono
          intro _ ending boundedEnding _
          exact Program.guarantees_pure boundedEnding trivial
        · intro env toEnv
          apply (boundedTimed.calm.later toEnv).now.saved
          have safeLast := safeStarted.later (untilSixth.trans toEnv)
          rw [← sameIntents] at safeLast
          exact safeLast
      · intro env suffix toEnv _
        exact (boundedPrepared.calm.later toEnv).now.logged _
    · intro intents status moved recovered
      exact ((safe.later moved).recover recovered).covered

/-- A quiet part in front of the rest. -/
theorem guarantees_safely {Value : Type}
    {program : Action ProjectExecutionRuntimeState}
    {next : ProjectExecutionRuntimeState → Action Value}
    {returns : Value → World (String → Progress) → Prop}
    {runtime : ProjectExecutionRuntimeState} (bounded : Bounded definition world)
    (safe : SafeIntents world.env runtime.intents)
    (performs : program.Performs Effect.Quiet)
    (frame : ∀ after, program.Yields anyAnswers after → SameTasks runtime after)
    (rest : ∀ after env,
      Bounded definition { world with env := env } →
      SafeIntents env after.intents →
      Program.Guarantees progressingTasks.Step (Bounded definition)
        { world with env := env } (next after) returns) :
    Program.Guarantees progressingTasks.Step (Bounded definition) world
      (program >>= next) returns := by
  apply Program.guarantees_bind
  apply (guarantees_sameTasks performs frame bounded.calm).mono
  intro after final boundedFinal finished
  obtain ⟨env, moved, same, kept⟩ := finished
  rw [same] at boundedFinal ⊢
  apply rest after env boundedFinal
  rw [kept.intents]
  exact safe.later moved

theorem guarantees_saveSafely {runtime : ProjectExecutionRuntimeState}
    (bounded : Bounded definition world)
    (safe : SafeIntents world.env runtime.intents) :
    Program.Guarantees progressingTasks.Step (Bounded definition) world
      (Action.save runtime) fun _ _ => True := by
  apply (guarantees_save bounded.calm runtime ?_).mono
  · intro _ _ _ _
    trivial
  · intro env moved
    exact (bounded.calm.later moved).now.saved (safe.later moved) _

theorem guarantees_boundedOperation (automatic : definition.mode = .automatic)
    (named : ∀ taskId ∈ definition.taskIdList, taskId ≠ "")
    (bounded : Bounded definition world) (operation : Operation) :
    Program.Guarantees progressingTasks.Step (Bounded definition) world
      (operation.program py definition world.durable) fun _ _ => True := by
  have safe := bounded.intents
  have ends : ∀ {Value : Type} {program : Action Value},
      Program.Guarantees progressingTasks.Step (Bounded definition) world program
        (fun _ _ => True) →
      Program.Guarantees progressingTasks.Step (Bounded definition) world
        (do
          let _ ← program
          pure ()) fun _ _ => True := by
    intro Value program guarantees
    apply Program.guarantees_bind
    apply guarantees.mono
    intro _ final boundedFinal _
    exact Program.guarantees_pure boundedFinal trivial
  have holds : ∀ (held : Bool) (holdReason : String) (eventType : String)
      (data : Row),
      Program.Guarantees progressingTasks.Step (Bounded definition) world
        (do
          let _ ← Action.save { world.durable with
            held := held
            holdReason := holdReason }
          Action.append eventType data) fun _ _ => True := by
    intro held holdReason eventType data
    apply Program.guarantees_bind
    apply (guarantees_save bounded.calm _ ?_).mono
    · intro _ final boundedFinal _
      apply (guarantees_quiet (performs_append _ _) boundedFinal.calm).mono
      intro _ _ _ _
      trivial
    · intro env moved
      apply (bounded.calm.later moved).now.saved
      exact safe.later moved
  cases operation with
  | reconcile =>
      apply ends
      apply guarantees_reconcile remembers_appeared trivial bounded.calm
      intro after env moved recovered
      apply (bounded.calm.later moved).now.saved
      exact (safe.later moved).recover recovered
  | startTask taskId retryUncertain =>
      apply ends
      unfold startTask
      rw [automatic]
      exact Program.guarantees_raise bounded
  | automaticCycle =>
      apply ends
      exact guarantees_boundedCycle named bounded safe
  | decideGate gateId actor decision reason =>
      apply guarantees_safely bounded safe performs_syncDefinition
        fun _ yields => syncDefinition_sameTasks yields
      intro synced first boundedSynced safeSynced
      apply guarantees_safely boundedSynced safeSynced performs_evaluateGates
        fun _ yields => evaluateGates_sameTasks yields
      intro evaluated second boundedEvaluated safeEvaluated
      cases definition.findGate gateId with
      | none => exact Program.guarantees_raise boundedEvaluated
      | some gate =>
          apply guarantees_safely boundedEvaluated safeEvaluated
            (performs_decide gateId actor decision reason)
            fun _ yields => decide_sameTasks yields
          intro decided third boundedDecided safeDecided
          apply guarantees_safely boundedDecided safeDecided
            (performs_evaluate gate)
          · intro after yields
            rw [(evaluate_frame yields).1]
            exact ⟨rfl, rfl⟩
          · intro after env boundedAfter safeAfter
            exact guarantees_saveSafely boundedAfter safeAfter
  | waiveGate gateId actor reason =>
      apply guarantees_safely bounded safe performs_syncDefinition
        fun _ yields => syncDefinition_sameTasks yields
      intro synced first boundedSynced safeSynced
      apply guarantees_safely boundedSynced safeSynced performs_evaluateGates
        fun _ yields => evaluateGates_sameTasks yields
      intro evaluated second boundedEvaluated safeEvaluated
      split
      · exact Program.guarantees_raise boundedEvaluated
      · apply guarantees_safely boundedEvaluated safeEvaluated
          (performs_waive gateId actor reason) fun _ yields => waive_sameTasks yields
        intro waived third boundedWaived safeWaived
        exact guarantees_saveSafely boundedWaived safeWaived
  | pause reason => exact holds _ _ _ _
  | resume => exact holds _ _ _ _

/-! ## Sessions -/

/-- Sessions of a new project in which nothing is in flight at first. -/
def ProgressSessions (py : Python) (definition : ProjectExecutionDefinition)
    (projectId : String) : World (String → Progress) → Prop :=
  progressingTasks.Sessions py progressingTasks.moves
    (fun other _ => other = definition)
    fun world => NewProject projectId world ∧ ∀ taskId, ¬ InFlight world.env taskId

/-- In Automatic mode the Tasks in flight are within the limits of the policy, in
every state that operations, complete or cut off, come to. -/
theorem sessions_withinPolicy (constructs : definition.Constructs py)
    (automatic : definition.mode = .automatic) {projectId : String}
    (reached : ProgressSessions py definition projectId world) :
    WithinPolicy definition world.env := by
  have bounded : Bounded definition world := by
    apply Program.Sessions.invariant _ _ _ reached
    · intro start new
      obtain ⟨⟨fresh, _⟩, grounded⟩ := new
      constructor
      · rw [fresh]
        constructor
        · intro intentId row stored
          cases stored
        · intro taskId launched
          exact absurd (Or.inl launched) (grounded taskId)
      · have none : ∀ taskIds : List String,
            (∀ taskId ∈ taskIds, InFlight start.env taskId) → taskIds = [] := by
          intro taskIds flying
          apply List.eq_nil_iff_forall_not_mem.mpr
          intro taskId member
          exact grounded taskId (flying taskId member)
        constructor
        · intro taskIds _ flying
          rw [none taskIds flying]
          exact Nat.zero_le _
        · intro phaseId taskIds _ flying
          rw [none taskIds fun taskId member => (flying taskId member).1]
          exact Nat.zero_le _
      · intro taskId flying
        exact absurd flying (grounded taskId)
    · intro before opened boundedBefore opens
      obtain ⟨env, moves, same⟩ := opens
      rw [same]
      exact boundedBefore.calm env (Relation.ReflTransGen.single moves)
    · intro before program boundedBefore chosen
      obtain ⟨other, operation, permits, same⟩ := chosen
      rw [same, permits]
      exact guarantees_boundedOperation automatic (taskIds_named constructs)
        boundedBefore operation
  exact bounded.within

/-! ## An instance -/

/-- What a port tells of Tasks that stand like this. -/
def progressView (status : String → Progress) : TaskView :=
  let outcome (taskId : String) : TaskOutcome :=
    match status taskId with
    | .notStarted => .notStarted
    | .launched => .notStarted
    | .running => .running
    | .terminal => .completed
  { describe := fun taskId => ⟨taskId, true, true, true, "", outcome taskId⟩
    evidence := fun taskId =>
      ⟨taskId, outcome taskId, "", "", ⟨"unknown", 0, 0, 0⟩, [], []⟩ }

theorem progressView_shows (status : String → Progress) :
    progressingTasks.shows status (progressView status) := by
  intro taskId
  have outcome : (progressView status).outcome taskId =
      match status taskId with
      | .notStarted => TaskOutcome.notStarted
      | .launched => TaskOutcome.notStarted
      | .running => TaskOutcome.running
      | .terminal => TaskOutcome.completed := rfl
  rw [outcome]
  cases status taskId with
  | notStarted => rfl
  | launched => rfl
  | running => rfl
  | terminal => exact Or.inl rfl

/-- A port that launches every Task that it is asked to start. -/
def launchingPort (world : World (String → Progress)) :
    (effect : Effect) → Reply effect × World (String → Progress)
  | .start taskId => (.ok ⟨true, false, ""⟩, { world with
      env := fun other =>
        if other = taskId ∧ world.env other = .notStarted then .launched
        else world.env other
      log := world.log ++ [.started taskId] })
  | .save runtime => ((), { world with
      durable := runtime
      log := world.log ++ [.saved runtime] })
  | .hex => ("000000000001", { world with log := world.log ++ [.drew "000000000001"] })
  | .describe taskId => ((progressView world.env).describe taskId, world)
  | .outcome taskId => ((progressView world.env).outcome taskId, world)
  | .evidence taskId => ((progressView world.env).evidence taskId, world)
  | .append _ _ => ((), world)
  | .now => ("2026-01-05T00:00:00+00:00", world)

theorem launchingPort_step (world : World (String → Progress)) (effect : Effect) :
    progressingTasks.Step world effect (launchingPort world effect).1
      (launchingPort world effect).2 := by
  have shown := progressView_shows world.env
  refine ⟨world.env, fun taskId => Progress.Moves.stays _, ?_⟩
  cases effect with
  | start taskId =>
      refine ⟨_, ?_, rfl⟩
      constructor
      · intro other different
        exact if_neg fun both => different both.1
      · by_cases fresh : world.env taskId = .notStarted
        · exact Or.inr ⟨fresh, if_pos ⟨rfl, fresh⟩⟩
        · exact Or.inl (if_neg fun both => fresh both.2)
      · intro refused
        obtain ⟨result, same, notAccepted, _⟩ := refused
        rw [← Except.ok.inj same] at notAccepted
        cases notAccepted
  | save runtime => rfl
  | hex =>
      have width : "000000000001".length = 12 := by decide
      exact ⟨width, rfl⟩
  | describe taskId => exact ⟨⟨_, shown, rfl⟩, rfl⟩
  | outcome taskId => exact ⟨⟨_, shown, rfl⟩, rfl⟩
  | evidence taskId => exact ⟨⟨_, shown, rfl⟩, rfl⟩
  | append eventType data => exact ⟨⟨_, shown, trivial⟩, rfl⟩
  | now => exact ⟨⟨_, shown, trivial⟩, rfl⟩

/-- The sample as a new project. -/
def beforeLaunch : World (String → Progress) :=
  ⟨ProjectExecutionRuntimeState.fresh "demo", fun _ => .notStarted, []⟩

/-- The world after its first cycle. -/
def afterLaunch : World (String → Progress) :=
  ((Operation.automaticCycle.program asciiPython ProjectExecutionDefinition.sample
    beforeLaunch.durable).drive launchingPort beforeLaunch).2

theorem sessions_withinPolicy_sample :
    afterLaunch.env "task-a" = .launched ∧
      WithinPolicy ProjectExecutionDefinition.sample afterLaunch.env := by
  have new : ProgressSessions asciiPython ProjectExecutionDefinition.sample "demo"
      beforeLaunch := by
    apply Program.Sessions.start
    refine ⟨⟨rfl, rfl⟩, ?_⟩
    intro taskId flying
    rcases flying with launched | running
    · cases launched
    · cases running
  have reached : ProgressSessions asciiPython ProjectExecutionDefinition.sample
      "demo" afterLaunch := by
    apply Program.Sessions.session new
      ⟨beforeLaunch.env, fun taskId => Progress.Moves.stays _, rfl⟩
      ⟨ProjectExecutionDefinition.sample, Operation.automaticCycle, rfl, rfl⟩
    apply Program.run_drive
    exact launchingPort_step
  constructor
  · decide +kernel
  · exact sessions_withinPolicy ProjectExecutionDefinition.sample_constructs rfl
      reached

end Execraft.ProjectExecution
