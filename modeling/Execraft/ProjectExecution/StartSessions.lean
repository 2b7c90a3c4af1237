import Execraft.ProjectExecution.DefinitionRoundTrip
import Execraft.ProjectExecution.StartSafety

/-!
# Sessions of the engine

Operations of a project one after another, any of them cut off by a crash: what
holds of intents and starts in every state they reach, and when a Task is not
started a second time.
-/

namespace Execraft.ProjectExecution

open Foundation Foundation.Json Surroundings

/-- Sessions with a port whose answers are constant within an operation, except
that a start may change them. -/
def EngineSessions (py : Python) (allowed : TaskView → Prop)
    (permitted : ProjectExecutionDefinition → Operation → Prop) :
    (World TaskView → Prop) → World TaskView → Prop :=
  (constantPort allowed).Sessions py (fun _ view => allowed view) permitted

/-! ## Sessions -/

section Sessions

variable {py : Python}

theorem taskIds_named {definition : ProjectExecutionDefinition}
    (constructs : definition.Constructs py) :
    ∀ taskId ∈ definition.taskIdList, taskId ≠ "" := by
  intro taskId member
  obtain ⟨task, listed, same⟩ := List.mem_map.mp member
  obtain ⟨_, _, _, _, constructed⟩ := constructs.tasks task listed
  obtain ⟨_, idValid, rest⟩ := bind_eq_ok.mp constructed
  obtain ⟨_, _, rest⟩ := bind_eq_ok.mp rest
  obtain ⟨_, _, rest⟩ := bind_eq_ok.mp rest
  have sameTask := Except.ok.inj rest
  rw [← same, ← sameTask]
  exact validateTaskReference_ne_empty idValid

/-- Sessions keep the invariant from any world that satisfies it. -/
theorem sessions_sound {guarded : String → Prop} {allowed : TaskView → Prop}
    {permitted : ProjectExecutionDefinition → Operation → Prop}
    {initial : World TaskView → Prop}
    (views : ∀ view, allowed view → ∀ taskId, guarded taskId →
      view.outcome taskId = .notStarted)
    (constructs : ∀ definition operation, permitted definition operation →
      definition.Constructs py)
    (automatic : ∀ definition operation, permitted definition operation →
      ∀ taskId, guarded taskId → definition.mode = .automatic)
    (start : ∀ world, initial world → Sound guarded world)
    {world : World TaskView}
    (reached : EngineSessions py allowed permitted initial world) :
    Sound guarded world := by
  apply Program.Sessions.invariant start _ _ reached
  · intro before opened sound opens
    obtain ⟨view, permittedView, same⟩ := opens
    rw [same]
    exact ⟨sound.intents, views view permittedView, sound.requested, sound.spared⟩
  · intro before program sound chosen
    obtain ⟨definition, operation, permits, same⟩ := chosen
    rw [same]
    exact guarantees_operation views (automatic definition operation permits)
      (taskIds_named (constructs definition operation permits)) sound operation

theorem newProject_sound {projectId : String} {world : World TaskView}
    (new : NewProject projectId world) : Sound (fun _ => False) world := by
  constructor
  · rw [new.1]
    constructor
    · intro intentId row stored
      cases stored
    · intro taskId first second unresolved
      obtain ⟨row, stored, _⟩ := unresolved
      cases stored
    · intro taskId impossible
      exact impossible.elim
  · intro taskId impossible
    exact impossible.elim
  · intro front taskId back shape
    rw [new.2] at shape
    simp at shape
  · intro taskId impossible
    exact impossible.elim

/-- Any operation with any definition that constructs. -/
def anyOperation (py : Python) (definition : ProjectExecutionDefinition)
    (_ : Operation) : Prop :=
  definition.Constructs py

/-- In every state that the operations of a new project leave behind, complete
or cut off, a Task has at most one unresolved start intent, and every start has
followed the save of a pending intent made for it. -/
theorem sessions_startIntents {projectId : String} {world : World TaskView}
    (reached : EngineSessions py (fun _ => True) (anyOperation py)
      (NewProject projectId) world) :
    (∀ taskId first second, Unresolved world.durable.intents taskId first →
      Unresolved world.durable.intents taskId second → first = second) ∧
    Requested world.log := by
  have sound : Sound (fun _ => False) world := by
    apply sessions_sound _ _ _ _ reached
    · intro view _ taskId impossible
      exact impossible.elim
    · intro definition operation permits
      exact permits
    · intro definition operation _ taskId impossible
      exact impossible.elim
    · intro start new
      exact newProject_sound new
  exact ⟨sound.intents.single, sound.requested⟩

/-! ## No second start -/

/-- The operations of a project in Automatic mode, Gates apart. -/
def automaticOperation (definition other : ProjectExecutionDefinition) :
    Operation → Prop
  | .automaticCycle => other = definition
  | .reconcile => other = definition
  | .pause _ => other = definition
  | .resume => other = definition
  | _ => False

/-- While the port reports only silent outcomes of a Task with an unresolved start
intent, no operation starts it. -/
def NoSecondStart (py : Python) (definition : ProjectExecutionDefinition)
    (silent : TaskOutcome → Prop) : Prop :=
  ∀ projectId world taskId,
    EngineSessions py (fun _ => True) (automaticOperation definition)
      (NewProject projectId) world →
    (∃ intentId, Unresolved world.durable.intents taskId intentId) →
    ∀ final, EngineSessions py (fun view => silent (view.outcome taskId))
      (automaticOperation definition)
      (fun opened => opened.durable = world.durable ∧ opened.log = [] ∧
        silent (opened.env.outcome taskId)) final →
      .started taskId ∉ final.log

theorem automaticOperation_same {definition other : ProjectExecutionDefinition}
    {operation : Operation}
    (permits : automaticOperation definition other operation) :
    other = definition := by
  cases operation with
  | automaticCycle => exact permits
  | reconcile => exact permits
  | pause reason => exact permits
  | resume => exact permits
  | startTask taskId retryUncertain => exact permits.elim
  | decideGate gateId actor decision reason => exact permits.elim
  | waiveGate gateId actor reason => exact permits.elim

/-- A port that does not report the Task unknown either keeps the promise. -/
theorem noSecondStart {definition : ProjectExecutionDefinition}
    (constructs : definition.Constructs py) (automatic : definition.mode = .automatic) :
    NoSecondStart py definition fun outcome =>
      outcome ∉ [TaskOutcome.running, .completed, .failed, .cancelled, .unknown] := by
  intro projectId world taskId reached unresolved final continued
  have notStarted : ∀ outcome : TaskOutcome,
      outcome ∉ [TaskOutcome.running, .completed, .failed, .cancelled, .unknown] →
        outcome = .notStarted := by
    intro outcome silent
    cases outcome with
    | notStarted => rfl
    | running => simp at silent
    | completed => simp at silent
    | failed => simp at silent
    | cancelled => simp at silent
    | unknown => simp at silent
  have fixed : ∀ other operation, automaticOperation definition other operation →
      other.Constructs py := by
    intro other operation permits
    rw [automaticOperation_same permits]
    exact constructs
  have before : Sound (fun _ => False) world := by
    apply sessions_sound _ fixed _ _ reached
    · intro view _ other impossible
      exact impossible.elim
    · intro other operation _ named impossible
      exact impossible.elim
    · intro start new
      exact newProject_sound new
  have after : Sound (fun other => other = taskId) final := by
    apply sessions_sound _ fixed _ _ continued
    · intro view silent other same
      rw [same]
      exact notStarted _ silent
    · intro other operation permits _ _
      rw [automaticOperation_same permits]
      exact automatic
    · intro opened start
      obtain ⟨sameDurable, emptyLog, silent⟩ := start
      constructor
      · rw [sameDurable]
        refine ⟨before.intents.keyed, before.intents.single, ?_⟩
        intro other same
        rw [same]
        exact unresolved
      · intro other same
        rw [same]
        exact notStarted _ silent
      · intro front other back shape
        rw [emptyLog] at shape
        simp at shape
      · intro other _ member
        rw [emptyLog] at member
        cases member
  exact after.spared taskId rfl

end Sessions

/-! ## An unknown outcome -/

/-- Every Task of the project has this outcome. -/
def uniformView (outcome : TaskOutcome) : TaskView where
  describe taskId := ⟨taskId, true, true, true, "", outcome⟩
  evidence taskId := ⟨taskId, outcome, "", "", ⟨"unknown", 0, 0, 0⟩, [], []⟩

/-- A port whose starts raise and leave it at a view. -/
def brokenPort (view : TaskView) (suffix : String) (world : World TaskView) :
    (effect : Effect) → Reply effect × World TaskView
  | .start taskId => (.error "connection lost", { world with
      env := view
      log := world.log ++ [.started taskId] })
  | .save runtime => ((), { world with
      durable := runtime
      log := world.log ++ [.saved runtime] })
  | .hex => (suffix, { world with log := world.log ++ [.drew suffix] })
  | .describe taskId => (world.env.describe taskId, world)
  | .outcome taskId => (world.env.outcome taskId, world)
  | .evidence taskId => (world.env.evidence taskId, world)
  | .append _ _ => ((), world)
  | .now => ("2026-01-05T00:00:00+00:00", world)

theorem brokenPort_step {view : TaskView} {suffix : String}
    (width : suffix.length = 12) {allowed : TaskView → Prop}
    (permitted : allowed view) (world : World TaskView) (effect : Effect) :
    (constantPort allowed).Step world effect (brokenPort view suffix world effect).1
      (brokenPort view suffix world effect).2 := by
  refine ⟨world.env, rfl, ?_⟩
  cases effect with
  | start taskId => exact ⟨view, permitted, rfl⟩
  | save runtime => rfl
  | hex => exact ⟨width, rfl⟩
  | describe taskId => exact ⟨⟨world.env, rfl, rfl⟩, rfl⟩
  | outcome taskId => exact ⟨⟨world.env, rfl, rfl⟩, rfl⟩
  | evidence taskId => exact ⟨⟨world.env, rfl, rfl⟩, rfl⟩
  | append eventType data => exact ⟨⟨world.env, rfl, trivial⟩, rfl⟩
  | now => exact ⟨⟨world.env, rfl, trivial⟩, rfl⟩

/-- A cycle of the sample with the broken port. -/
def brokenCycle (outcome : TaskOutcome) (suffix : String)
    (runtime : ProjectExecutionRuntimeState) : World TaskView :=
  ((Operation.automaticCycle.program asciiPython ProjectExecutionDefinition.sample
    runtime).drive (brokenPort (uniformView outcome) suffix)
      ⟨runtime, uniformView outcome, []⟩).2

/-- The Tasks started, in order. -/
def startedTasks (log : List LogEntry) : List String :=
  log.filterMap fun entry =>
    match entry with
    | .started taskId => some taskId
    | _ => none

theorem started_of_mem_startedTasks {log : List LogEntry} {taskId : String}
    (member : taskId ∈ startedTasks log) : .started taskId ∈ log := by
  obtain ⟨entry, listed, named⟩ := List.mem_filterMap.mp member
  cases entry with
  | drew suffix => cases named
  | saved runtime => cases named
  | started other =>
      cases named
      exact listed

/-- The world after a first cycle, whose start was lost. -/
def afterLostStart : World TaskView :=
  brokenCycle .notStarted "000000000001" (ProjectExecutionRuntimeState.fresh "demo")

theorem brokenCycle_session (outcome : TaskOutcome) (suffix : String)
    (runtime : ProjectExecutionRuntimeState) (width : suffix.length = 12)
    {allowed : TaskView → Prop} (admitted : allowed (uniformView outcome))
    {permitted : ProjectExecutionDefinition → Operation → Prop}
    (permits : permitted ProjectExecutionDefinition.sample .automaticCycle)
    {initial : World TaskView → Prop}
    (start : initial ⟨runtime, uniformView outcome, []⟩) :
    EngineSessions asciiPython allowed permitted initial
      (brokenCycle outcome suffix runtime) := by
  apply Program.Sessions.session (Program.Sessions.start start)
    ⟨uniformView outcome, admitted, rfl⟩ ⟨ProjectExecutionDefinition.sample,
      Operation.automaticCycle, permits, rfl⟩
  apply Program.run_drive
  exact brokenPort_step width admitted

theorem afterLostStart_reached
    {permitted : ProjectExecutionDefinition → Operation → Prop}
    (permits : permitted ProjectExecutionDefinition.sample .automaticCycle) :
    EngineSessions asciiPython (fun _ => True) permitted (NewProject "demo")
      afterLostStart :=
  brokenCycle_session _ _ _ (by decide) trivial permits ⟨rfl, rfl⟩

theorem afterLostStart_unresolved :
    Unresolved afterLostStart.durable.intents "task-a"
      "start-task-a-000000000001" := by
  have stored : (afterLostStart.durable.intents.get?
      "start-task-a-000000000001").any (fun row => unresolvedStart row ∧
        row.get "task_id" .null = .string "task-a") = true := by
    decide +kernel
  obtain ⟨row, found, holds⟩ := Option.any_eq_true _ _ |>.mp stored
  rw [decide_eq_true_eq] at holds
  exact ⟨row, found, holds⟩

/-- After a lost start the next cycle starts the Task again when the port reports
it unknown. -/
theorem not_noSecondStart :
    ¬ NoSecondStart asciiPython ProjectExecutionDefinition.sample fun outcome =>
      outcome ∉ [TaskOutcome.running, .completed, .failed, .cancelled] := by
  intro promise
  have again : startedTasks (brokenCycle .unknown "000000000002"
      afterLostStart.durable).log = ["task-a"] := by
    decide +kernel
  apply promise "demo" afterLostStart "task-a" (afterLostStart_reached rfl)
    ⟨_, afterLostStart_unresolved⟩
  · apply brokenCycle_session .unknown "000000000002" _ (by decide) (by decide) rfl
    exact ⟨rfl, rfl, by decide⟩
  · apply started_of_mem_startedTasks
    rw [again]
    exact List.mem_cons_self

/-- Reported not started, the Task is left alone. -/
theorem noSecondStart_sample :
    .started "task-a" ∉ (brokenCycle .notStarted "000000000002"
      afterLostStart.durable).log := by
  apply noSecondStart ProjectExecutionDefinition.sample_constructs rfl "demo"
    afterLostStart "task-a" (afterLostStart_reached rfl)
    ⟨_, afterLostStart_unresolved⟩
  apply brokenCycle_session .notStarted "000000000002" _ (by decide) (by decide) rfl
  exact ⟨rfl, rfl, by decide⟩

/-- The state after the lost start is one of those in which starts are safe. -/
theorem sessions_startIntents_sample :
    (∀ taskId first second, Unresolved afterLostStart.durable.intents taskId first →
      Unresolved afterLostStart.durable.intents taskId second → first = second) ∧
    Requested afterLostStart.log :=
  sessions_startIntents
    (afterLostStart_reached ProjectExecutionDefinition.sample_constructs)

end Execraft.ProjectExecution
