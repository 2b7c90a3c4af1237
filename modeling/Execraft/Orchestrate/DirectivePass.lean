import Execraft.Orchestrate.DirectiveApplication

/-!
# What one pass over the directives does

Which branch a directive takes depends only on the part of the plan graph that no
directive changes, so the whole batch is decided by the record at its start.
-/

namespace Execraft.Orchestrate

open Foundation Foundation.Json RepositorySync

/-! ## What directives do not change -/

/-- The package without what directives set on it. -/
def WorkPackage.undirected (package : WorkPackage) : WorkPackage :=
  { package with
    runtime := { package.runtime with
      pauseBeforeStart := false
      pauseBeforeStartReason := ""
      pauseBeforeStartRequestedAt := ""
      pauseBeforeStartReachedAt := ""
      decompositionRequired := false
      decompositionRequiredReason := ""
      decompositionRequiredAt := ""
      decompositionRequiredConsumedAt := "" } }

namespace PlanGraph

def undirected (graph : PlanGraph) : PlanGraph :=
  graph.map WorkPackage.undirected

theorem packageById_undirected (graph : PlanGraph) (packageId : String) :
    graph.undirected.packageById packageId =
      (graph.packageById packageId).map WorkPackage.undirected := by
  have lookup : graph.undirected.find? (fun package => package.id = packageId) =
      (graph.find? fun package => package.id = packageId).map WorkPackage.undirected := by
    unfold undirected
    rw [List.find?_map]
    rfl
  unfold packageById
  rw [lookup]
  cases graph.find? fun package => package.id = packageId with
  | none => rfl
  | some package => rfl

theorem dependenciesCompleted_undirected (graph : PlanGraph) (dependencyIds : List String) :
    graph.undirected.dependenciesCompleted dependencyIds =
      graph.dependenciesCompleted dependencyIds := by
  induction dependencyIds with
  | nil => rfl
  | cons head tail inductionHypothesis =>
      rw [dependenciesCompleted, dependenciesCompleted, packageById_undirected,
        inductionHypothesis]
      cases graph.packageById head with
      | error failure => rfl
      | ok dependency => rfl

theorem dependencyReady_undirected (graph : PlanGraph) (packageId : String) :
    graph.undirected.dependencyReady packageId = graph.dependencyReady packageId := by
  unfold dependencyReady
  rw [packageById_undirected]
  cases graph.packageById packageId with
  | error failure => rfl
  | ok package => exact dependenciesCompleted_undirected graph package.dependencies

theorem undirected_modify {packageId : String} {change : WorkPackage → WorkPackage}
    (kept : ∀ package, (change package).undirected = package.undirected)
    (graph : PlanGraph) :
    undirected (modify packageId change graph) = undirected graph := by
  induction graph with
  | nil => rfl
  | cons head tail inductionHypothesis =>
      unfold undirected at inductionHypothesis ⊢
      rw [modify]
      by_cases same : head.id = packageId
      · rw [if_pos same, List.map_cons, List.map_cons, kept head]
      · rw [if_neg same, List.map_cons, List.map_cons, inductionHypothesis]

end PlanGraph

/-! ## Decisions -/

/-- Whether the boundary of a request is reached. -/
def AtBoundary (graph : PlanGraph) (request : RepositorySyncCardRequest)
    (package : WorkPackage) : Prop :=
  if request.mode = "before" then
    package.stage = .prepare ∧ package.status = "pending" ∧
      graph.dependencyReady package.id = .ok true
  else
    package.stage = .completed

instance (graph : PlanGraph) (request : RepositorySyncCardRequest) (package : WorkPackage) :
    Decidable (AtBoundary graph request package) := by
  unfold AtBoundary
  infer_instance

/-- What a directive is about to do. -/
inductive Decision where
  | refuse
  | arm
  | pause (waiting : Row)

variable (py : Python) (manifest : TaskManifest) (now : String)

/-- Which packages a flag may be set on. -/
def MayArm (command : WorkPackageDirectiveCommand) (package : WorkPackage) : Prop :=
  package.stage ≠ .completed ∧
    match command.kind with
    | .pauseBeforeStart =>
        command.enabled = true → package.stage = .prepare ∧ package.status = "pending"
    | .requireDecomposition =>
        (package.parentId = "" ∧ package.executionMode = "standard") ∧
          if command.enabled = true then
            (package.stage = .prepare ∧ package.status = "pending") ∧
              package.runtime.decompositionStatus = ""
          else
            package.stage ≠ .decompose
    | .pauseForRepositorySync => False

instance (command : WorkPackageDirectiveCommand) (package : WorkPackage) :
    Decidable (MayArm command package) := by
  unfold MayArm
  cases command.kind <;> infer_instance

/-- What a synchronization request for this package is about to do. -/
def pauseDecision (graph : PlanGraph) (command : WorkPackageDirectiveCommand)
    (package : WorkPackage) : Decision :=
  match RepositorySyncCardRequest.fromParameters py manifest command.parameters package.id with
  | .error _ => .refuse
  | .ok request =>
      if command.enabled = true ∧ AtBoundary graph request package then
        .pause (boundaryWaiting now command package request)
      else
        .refuse

def directiveDecision (graph : PlanGraph) (command : WorkPackageDirectiveCommand) :
    Decision :=
  match graph.packageById command.packageId with
  | .error _ => .refuse
  | .ok package =>
      if command.kind = .pauseForRepositorySync then
        pauseDecision py manifest now graph command package
      else if MayArm command package then
        .arm
      else
        .refuse

theorem atBoundary_undirected {graph : PlanGraph} {request : RepositorySyncCardRequest}
    {package : WorkPackage} :
    AtBoundary graph.undirected request package.undirected ↔
      AtBoundary graph request package := by
  unfold AtBoundary
  rw [PlanGraph.dependencyReady_undirected]
  rfl

theorem directiveDecision_undirected (graph : PlanGraph)
    (command : WorkPackageDirectiveCommand) :
    directiveDecision py manifest now graph.undirected command =
      directiveDecision py manifest now graph command := by
  unfold directiveDecision
  rw [PlanGraph.packageById_undirected]
  cases graph.packageById command.packageId with
  | error failure => rfl
  | ok package =>
      have boundary : pauseDecision py manifest now graph.undirected command
          package.undirected = pauseDecision py manifest now graph command package := by
        have name : package.undirected.id = package.id := rfl
        unfold pauseDecision
        rw [name]
        cases RepositorySyncCardRequest.fromParameters py manifest command.parameters
            package.id with
        | error message => rfl
        | ok request =>
            dsimp only
            rw [if_congr (and_congr_right fun _ => atBoundary_undirected) rfl rfl]
            rfl
      change (if command.kind = .pauseForRepositorySync then
          pauseDecision py manifest now graph.undirected command package.undirected
        else if MayArm command package then Decision.arm else Decision.refuse) = _
      rw [boundary]

theorem directiveDecision_congr {graph other : PlanGraph}
    (same : graph.undirected = other.undirected) (command : WorkPackageDirectiveCommand) :
    directiveDecision py manifest now graph command =
      directiveDecision py manifest now other command := by
  rw [← directiveDecision_undirected, same, directiveDecision_undirected]

theorem pauseDecision_ne_arm (graph : PlanGraph) (command : WorkPackageDirectiveCommand)
    (package : WorkPackage) : pauseDecision py manifest now graph command package ≠ .arm := by
  unfold pauseDecision
  cases RepositorySyncCardRequest.fromParameters py manifest command.parameters
      package.id with
  | error message => simp
  | ok request =>
      by_cases reached : command.enabled = true ∧ AtBoundary graph request package
      · simp [reached]
      · dsimp only
        rw [if_neg reached]
        simp

/-- A synchronization request never sets a flag. -/
theorem directiveDecision_ne_arm {graph : PlanGraph} {command : WorkPackageDirectiveCommand}
    (sync : command.kind = .pauseForRepositorySync) :
    directiveDecision py manifest now graph command ≠ .arm := by
  unfold directiveDecision
  cases graph.packageById command.packageId with
  | error failure => simp
  | ok package =>
      dsimp only
      rw [if_pos sync]
      exact pauseDecision_ne_arm py manifest now graph command package

/-- The directive asks for a synchronization and its boundary is reached. -/
def ReachesBoundary (graph : PlanGraph) (command : WorkPackageDirectiveCommand) : Prop :=
  command.kind = .pauseForRepositorySync ∧ command.enabled = true ∧
    ∃ package request, graph.packageById command.packageId = .ok package ∧
      RepositorySyncCardRequest.fromParameters py manifest command.parameters package.id =
        .ok request ∧
      AtBoundary graph request package

theorem pauseDecision_eq_pause {graph : PlanGraph} {command : WorkPackageDirectiveCommand}
    {package : WorkPackage} {waiting : Row} :
    pauseDecision py manifest now graph command package = .pause waiting ↔
      ∃ request, RepositorySyncCardRequest.fromParameters py manifest command.parameters
          package.id = .ok request ∧
        command.enabled = true ∧ AtBoundary graph request package ∧
          waiting = boundaryWaiting now command package request := by
  unfold pauseDecision
  cases parsed : RepositorySyncCardRequest.fromParameters py manifest command.parameters
      package.id with
  | error message => simp
  | ok request =>
      by_cases reached : command.enabled = true ∧ AtBoundary graph request package
      · simp [reached, eq_comm]
      · dsimp only
        rw [if_neg reached]
        constructor
        · intro impossible
          cases impossible
        · rintro ⟨other, same, enabled, boundary, _⟩
          cases same
          exact absurd ⟨enabled, boundary⟩ reached

theorem reachesBoundary_iff {graph : PlanGraph} {command : WorkPackageDirectiveCommand} :
    ReachesBoundary py manifest graph command ↔
      ∃ waiting, directiveDecision py manifest now graph command = .pause waiting := by
  unfold ReachesBoundary directiveDecision
  cases found : graph.packageById command.packageId with
  | error failure => simp
  | ok package =>
      dsimp only
      by_cases kind : command.kind = .pauseForRepositorySync
      · rw [if_pos kind]
        constructor
        · rintro ⟨_, enabled, other, request, same, parsed, boundary⟩
          cases same
          exact ⟨_, (pauseDecision_eq_pause py manifest now).mpr
            ⟨request, parsed, enabled, boundary, rfl⟩⟩
        · rintro ⟨waiting, pauses⟩
          obtain ⟨request, parsed, enabled, boundary, _⟩ :=
            (pauseDecision_eq_pause py manifest now).mp pauses
          exact ⟨kind, enabled, package, request, rfl, parsed, boundary⟩
      · rw [if_neg kind]
        constructor
        · intro reaches
          exact absurd reaches.1 kind
        · rintro ⟨waiting, pauses⟩
          by_cases may : MayArm command package
          · rw [if_pos may] at pauses
            cases pauses
          · rw [if_neg may] at pauses
            cases pauses

theorem reachesBoundary_congr {graph other : PlanGraph}
    (same : graph.undirected = other.undirected) {command : WorkPackageDirectiveCommand} :
    ReachesBoundary py manifest graph command ↔
      ReachesBoundary py manifest other command := by
  rw [reachesBoundary_iff py manifest "", reachesBoundary_iff py manifest "",
    directiveDecision_congr py manifest "" same]

/-! ## One directive -/

def armPackage (command : WorkPackageDirectiveCommand) : WorkPackage → WorkPackage :=
  match command.kind with
  | .pauseBeforeStart => armPauseBeforeStart command
  | .requireDecomposition => armRequireDecomposition command
  | .pauseForRepositorySync => id

theorem armPackage_undirected (command : WorkPackageDirectiveCommand)
    (package : WorkPackage) : (armPackage command package).undirected = package.undirected := by
  unfold armPackage
  cases command.kind <;> rfl

theorem armPackage_id (command : WorkPackageDirectiveCommand) (package : WorkPackage) :
    (armPackage command package).id = package.id := by
  unfold armPackage
  cases command.kind <;> rfl

def armRecord (command : WorkPackageDirectiveCommand) (record : TaskExecutionStateRecord) :
    TaskExecutionStateRecord :=
  { record with
    planGraph := record.planGraph.modify command.packageId (armPackage command) }

/-- The record with the waiting slot taken. -/
def pauseRecord (waiting : Row) (record : TaskExecutionStateRecord) :
    TaskExecutionStateRecord :=
  { record with waiting := waiting }

/-- The record that one directive leaves. -/
def afterDirective (record : TaskExecutionStateRecord)
    (command : WorkPackageDirectiveCommand) : TaskExecutionStateRecord :=
  match directiveDecision py manifest now record.planGraph command with
  | .refuse => record
  | .arm => armRecord command record
  | .pause waiting =>
      if record.state = .running then
        Session.moved now .operatorPaused (pauseRecord waiting record)
      else
        pauseRecord waiting record

/-- What one directive writes by itself. -/
def directiveWrites (record : TaskExecutionStateRecord)
    (command : WorkPackageDirectiveCommand) : List Write :=
  match directiveDecision py manifest now record.planGraph command with
  | .refuse => []
  | .arm => []
  | .pause waiting =>
      if record.state = .running then
        Session.transitionWrites now .operatorPaused (pauseRecord waiting record)
      else
        []

def afterAttempt (session : Session) (command : WorkPackageDirectiveCommand) : Session :=
  { record := afterDirective py manifest now session.record command
    writes := session.writes ++ directiveWrites py manifest now session.record command }

/-- An application that changes nothing but what its handler did before it failed. -/
def Application.isRefusal : Application → Prop
  | .applied _ => False
  | .deferred => True
  | .rejected _ => True

theorem require_of {condition : Prop} [Decidable condition] {message : String}
    (holds : condition) (session : Session) :
    require condition message session = (.ok (), session) := by
  unfold require
  rw [if_pos holds]
  rfl

theorem require_of_not {condition : Prop} [Decidable condition] {message : String}
    (fails : ¬condition) (session : Session) :
    require condition message session = (.error (.rejected ⟨message⟩), session) := by
  unfold require
  rw [if_neg fails]
  rfl

theorem within_ok {Value : Type} {operation : Stateful Session OrchestrateError Value}
    {session final : Session} {value : Value}
    (completes : operation session = (.ok value, final)) :
    within operation session = (.ok value, final) := by
  unfold within Stateful.recover
  rw [completes]

theorem within_error {Value : Type} {operation : Stateful Session OrchestrateError Value}
    {session final : Session} {failure : OrchestrateError}
    (fails : operation session = (.error failure, final)) :
    within operation session = (.error (.rejected failure), final) := by
  unfold within Stateful.recover
  rw [fails]
  rfl

/-- The session with a package changed. -/
def Session.withPackage (packageId : String) (update : WorkPackage → WorkPackage)
    (session : Session) : Session :=
  { session with
    record := { session.record with
      planGraph := session.record.planGraph.modify packageId update } }

theorem applyPauseBeforeStart_accepts {command : WorkPackageDirectiveCommand}
    {package : WorkPackage} (kind : command.kind = .pauseBeforeStart)
    (may : MayArm command package) (session : Session) :
    ∃ summary, applyPauseBeforeStart command package session =
      (.ok summary, session.withPackage package.id (armPauseBeforeStart command)) := by
  unfold MayArm at may
  rw [kind] at may
  unfold applyPauseBeforeStart
  by_cases enabled : command.enabled = true
  · rw [if_pos enabled, Stateful.bind_apply, require_of (may.2 enabled)]
    exact ⟨_, rfl⟩
  · rw [if_neg enabled]
    exact ⟨_, rfl⟩

theorem applyPauseBeforeStart_refuses {command : WorkPackageDirectiveCommand}
    {package : WorkPackage} (kind : command.kind = .pauseBeforeStart)
    (unfinished : package.stage ≠ .completed) (mayNot : ¬MayArm command package)
    (session : Session) :
    ∃ error, applyPauseBeforeStart command package session =
      (.error (.rejected error), session) := by
  unfold MayArm at mayNot
  rw [kind] at mayNot
  have blocked : ¬(command.enabled = true →
      package.stage = .prepare ∧ package.status = "pending") :=
    fun allowed => mayNot ⟨unfinished, allowed⟩
  rw [Classical.not_imp] at blocked
  unfold applyPauseBeforeStart
  rw [if_pos blocked.1, Stateful.bind_apply, require_of_not blocked.2]
  exact ⟨_, rfl⟩

theorem applyRequireDecomposition_accepts {command : WorkPackageDirectiveCommand}
    {package : WorkPackage} (kind : command.kind = .requireDecomposition)
    (may : MayArm command package) (session : Session) :
    ∃ summary, applyRequireDecomposition py command package session =
      (.ok summary, session.withPackage package.id (armRequireDecomposition command)) := by
  unfold MayArm at may
  rw [kind] at may
  obtain ⟨_, topLevel, stages⟩ := may
  unfold applyRequireDecomposition
  rw [Stateful.bind_apply, require_of topLevel]
  dsimp only
  by_cases enabled : command.enabled = true
  · rw [if_pos enabled] at stages
    rw [if_pos enabled, Stateful.bind_apply, require_of stages.1]
    dsimp only
    rw [Stateful.bind_apply, require_of stages.2]
    exact ⟨_, rfl⟩
  · rw [if_neg enabled] at stages
    rw [if_neg enabled, Stateful.bind_apply, require_of stages]
    exact ⟨_, rfl⟩

theorem applyRequireDecomposition_refuses {command : WorkPackageDirectiveCommand}
    {package : WorkPackage} (kind : command.kind = .requireDecomposition)
    (unfinished : package.stage ≠ .completed) (mayNot : ¬MayArm command package)
    (session : Session) :
    ∃ error, applyRequireDecomposition py command package session =
      (.error (.rejected error), session) := by
  unfold MayArm at mayNot
  rw [kind] at mayNot
  unfold applyRequireDecomposition
  rw [Stateful.bind_apply]
  by_cases topLevel : package.parentId = "" ∧ package.executionMode = "standard"
  · rw [require_of topLevel]
    dsimp only
    by_cases enabled : command.enabled = true
    · rw [if_pos enabled, Stateful.bind_apply]
      by_cases unstarted : package.stage = .prepare ∧ package.status = "pending"
      · rw [require_of unstarted]
        dsimp only
        have decided : ¬package.runtime.decompositionStatus = "" := fun undecided =>
          mayNot ⟨unfinished, topLevel, by
            rw [if_pos enabled]
            exact ⟨unstarted, undecided⟩⟩
        rw [Stateful.bind_apply, require_of_not decided]
        exact ⟨_, rfl⟩
      · rw [require_of_not unstarted]
        exact ⟨_, rfl⟩
    · have begun : ¬package.stage ≠ .decompose := fun before =>
        mayNot ⟨unfinished, topLevel, by
          rw [if_neg enabled]
          exact before⟩
      rw [if_neg enabled, Stateful.bind_apply, require_of_not begun]
      exact ⟨_, rfl⟩
  · rw [require_of_not topLevel]
    exact ⟨_, rfl⟩

/-! ## Synchronization requests -/

theorem awaitBoundary_reached {request : RepositorySyncCardRequest} {package : WorkPackage}
    {session : Session} (reached : AtBoundary session.record.planGraph request package) :
    awaitBoundary request package session = (.ok (), session) := by
  unfold AtBoundary at reached
  unfold awaitBoundary
  by_cases before : request.mode = "before"
  · rw [if_pos before] at reached
    obtain ⟨prepared, pending, ready⟩ := reached
    rw [if_pos before, Stateful.bind_apply, require_of ⟨prepared, pending⟩]
    dsimp only
    rw [Stateful.read_bind_apply, Stateful.bind_apply,
      within_ok (by rw [Stateful.ofOutcome_apply, ready])]
    rfl
  · rw [if_neg before] at reached
    rw [if_neg before, if_neg (not_not_intro reached)]
    rfl

theorem awaitBoundary_missed {request : RepositorySyncCardRequest} {package : WorkPackage}
    {session : Session} (missed : ¬AtBoundary session.record.planGraph request package) :
    ∃ refusal, awaitBoundary request package session = (.error refusal, session) := by
  unfold AtBoundary at missed
  unfold awaitBoundary
  by_cases before : request.mode = "before"
  · rw [if_pos before] at missed
    rw [if_pos before, Stateful.bind_apply]
    by_cases unstarted : package.stage = .prepare ∧ package.status = "pending"
    · rw [require_of unstarted]
      dsimp only
      rw [Stateful.read_bind_apply, Stateful.bind_apply]
      cases ready : session.record.planGraph.dependencyReady package.id with
      | error failure =>
          rw [within_error (Stateful.ofOutcome_apply _ _)]
          exact ⟨_, rfl⟩
      | ok verdict =>
          rw [within_ok (Stateful.ofOutcome_apply _ _)]
          cases verdict with
          | true => exact absurd ⟨unstarted.1, unstarted.2, ready⟩ missed
          | false => exact ⟨_, rfl⟩
    · rw [require_of_not unstarted]
      exact ⟨_, rfl⟩
  · rw [if_neg before] at missed
    rw [if_neg before, if_pos missed]
    exact ⟨_, rfl⟩

theorem applyPauseForRepositorySync_refuses {command : WorkPackageDirectiveCommand}
    {package : WorkPackage} {session : Session}
    (refuses : pauseDecision py manifest now session.record.planGraph command package =
      .refuse) :
    ∃ refusal, applyPauseForRepositorySync py manifest now command package session =
      (.error refusal, session) := by
  unfold pauseDecision at refuses
  unfold applyPauseForRepositorySync
  cases parsed : RepositorySyncCardRequest.fromParameters py manifest command.parameters
      package.id with
  | error message => exact ⟨_, rfl⟩
  | ok request =>
      rw [parsed] at refuses
      dsimp only at refuses ⊢
      rw [Stateful.bind_apply]
      by_cases enabled : command.enabled = true
      · have missed : ¬AtBoundary session.record.planGraph request package := by
          intro reached
          rw [if_pos ⟨enabled, reached⟩] at refuses
          cases refuses
        obtain ⟨refusal, failed⟩ := awaitBoundary_missed missed
        rw [require_of enabled]
        dsimp only
        rw [Stateful.bind_apply, failed]
        exact ⟨refusal, rfl⟩
      · rw [require_of_not enabled]
        exact ⟨_, rfl⟩

/-- Up to its last step a request whose boundary is reached takes the waiting slot. -/
theorem applyPauseForRepositorySync_reaches {command : WorkPackageDirectiveCommand}
    {package : WorkPackage} {session : Session} {waiting : Row}
    (pauses : pauseDecision py manifest now session.record.planGraph command package =
      .pause waiting) :
    applyPauseForRepositorySync py manifest now command package session =
      (do
        if session.record.state ≠ .operatorPaused then
          within (Session.transitionTo now .operatorPaused)
        return "repository synchronization safe boundary reached" :
          Stateful Session Refusal String)
        { session with record := pauseRecord waiting session.record } := by
  obtain ⟨request, parsed, enabled, reached, shape⟩ :=
    (pauseDecision_eq_pause py manifest now).mp pauses
  unfold applyPauseForRepositorySync
  rw [parsed]
  dsimp only
  rw [Stateful.bind_apply, require_of enabled]
  dsimp only
  rw [Stateful.bind_apply, awaitBoundary_reached reached, shape]
  rfl

/-- Whether the task execution may be paused for its operator, or already is. -/
def Pausable (state : TaskExecutionState) : Prop :=
  state = .running ∨ state = .operatorPaused

theorem applyPauseForRepositorySync_accepts {command : WorkPackageDirectiveCommand}
    {package : WorkPackage} {session : Session} {waiting : Row}
    (pauses : pauseDecision py manifest now session.record.planGraph command package =
      .pause waiting)
    (pausable : Pausable session.record.state) :
    ∃ summary, applyPauseForRepositorySync py manifest now command package session =
      (.ok summary,
        if session.record.state = .running then
          { record := Session.moved now .operatorPaused (pauseRecord waiting session.record)
            writes := session.writes ++
              Session.transitionWrites now .operatorPaused
                (pauseRecord waiting session.record) }
        else
          { session with record := pauseRecord waiting session.record }) := by
  rw [applyPauseForRepositorySync_reaches py manifest now pauses]
  rcases pausable with running | paused
  · have allowed : TaskExecutionState.operatorPaused ∈
        (pauseRecord waiting session.record).state.transitions := by
      rw [operatorPaused_mem_transitions]
      exact running
    have different : session.record.state ≠ .operatorPaused := by
      rw [running]
      decide
    have completes : Session.transitionTo now .operatorPaused
        { session with record := pauseRecord waiting session.record } = _ :=
      Session.transitionTo_allowed allowed
    rw [if_pos different, if_pos running, Stateful.bind_apply, within_ok completes]
    exact ⟨_, rfl⟩
  · have notRunning : session.record.state ≠ .running := by
      rw [paused]
      decide
    rw [if_neg (not_not_intro paused), if_neg notRunning]
    exact ⟨_, rfl⟩

theorem applyPauseForRepositorySync_tooLate {command : WorkPackageDirectiveCommand}
    {package : WorkPackage} {session : Session} {waiting : Row}
    (pauses : pauseDecision py manifest now session.record.planGraph command package =
      .pause waiting)
    (unpausable : ¬Pausable session.record.state) :
    ∃ error, applyPauseForRepositorySync py manifest now command package session =
      (.error (.rejected error),
        { session with record := pauseRecord waiting session.record }) := by
  rw [applyPauseForRepositorySync_reaches py manifest now pauses]
  unfold Pausable at unpausable
  rw [not_or] at unpausable
  have refused : TaskExecutionState.operatorPaused ∉
      (pauseRecord waiting session.record).state.transitions := by
    rw [operatorPaused_mem_transitions]
    exact unpausable.1
  have fails : Session.transitionTo now .operatorPaused
      { session with record := pauseRecord waiting session.record } = _ :=
    Session.transitionTo_refused refused
  rw [if_pos unpausable.2, Stateful.bind_apply, within_error fails]
  exact ⟨_, rfl⟩

/-! ## The branches of one attempt -/

theorem applyWorkPackageDirective_handled {command : WorkPackageDirectiveCommand}
    {package : WorkPackage} {session : Session}
    (found : session.record.planGraph.packageById command.packageId = .ok package)
    (accepting : package.stage ≠ .completed ∨ command.kind = .pauseForRepositorySync) :
    applyWorkPackageDirective py manifest now command session =
      (handlerOf py manifest now command package >>= fun summary =>
        (pure (appliedPayload command package.id summary) : Stateful Session Refusal Row))
        session := by
  unfold applyWorkPackageDirective
  have lookup : within (Stateful.ofOutcome
      (session.record.planGraph.packageById command.packageId)) session =
      (.ok package, session) :=
    within_ok (by rw [Stateful.ofOutcome_apply, found])
  rw [Stateful.read_bind_apply, Stateful.bind_apply, lookup]
  dsimp only
  rw [Stateful.bind_apply, require_of accepting]

theorem attemptDirective_applied {command : WorkPackageDirectiveCommand}
    {package : WorkPackage} {session final : Session} {summary : String}
    (found : session.record.planGraph.packageById command.packageId = .ok package)
    (accepting : package.stage ≠ .completed ∨ command.kind = .pauseForRepositorySync)
    (handled : handlerOf py manifest now command package session = (.ok summary, final)) :
    attemptDirective py manifest now command session =
      (.ok (.applied (appliedPayload command package.id summary)), final) := by
  unfold attemptDirective Stateful.recover
  rw [Stateful.bind_apply, applyWorkPackageDirective_handled py manifest now found accepting,
    Stateful.bind_apply, handled]
  rfl

theorem attemptDirective_failed {command : WorkPackageDirectiveCommand}
    {session final : Session} {refusal : Refusal}
    (failed : applyWorkPackageDirective py manifest now command session =
      (.error refusal, final)) :
    ∃ application, application.isRefusal ∧
      attemptDirective py manifest now command session = (.ok application, final) := by
  unfold attemptDirective Stateful.recover
  rw [Stateful.bind_apply, failed]
  cases refusal with
  | deferred => exact ⟨.deferred, trivial, rfl⟩
  | rejected error => exact ⟨.rejected error.message, trivial, rfl⟩

/-- A directive that is not to be applied changes nothing. -/
theorem attemptDirective_refuse {command : WorkPackageDirectiveCommand} {session : Session}
    (decided : directiveDecision py manifest now session.record.planGraph command = .refuse) :
    ∃ application, application.isRefusal ∧
      attemptDirective py manifest now command session = (.ok application, session) := by
  unfold directiveDecision at decided
  cases found : session.record.planGraph.packageById command.packageId with
  | error failure =>
      have lookup : within (Stateful.ofOutcome
          (session.record.planGraph.packageById command.packageId)) session =
          (.error (.rejected failure), session) :=
        within_error (by rw [Stateful.ofOutcome_apply, found])
      have failed : applyWorkPackageDirective py manifest now command session =
          (.error (.rejected failure), session) := by
        unfold applyWorkPackageDirective
        rw [Stateful.read_bind_apply, Stateful.bind_apply, lookup]
      exact attemptDirective_failed py manifest now failed
  | ok package =>
      rw [found] at decided
      dsimp only at decided
      by_cases accepting :
          package.stage ≠ .completed ∨ command.kind = .pauseForRepositorySync
      · have refuses : ∃ refusal, handlerOf py manifest now command package session =
            (.error refusal, session) := by
          unfold handlerOf
          cases kind : command.kind with
          | pauseForRepositorySync =>
              rw [if_pos kind] at decided
              exact applyPauseForRepositorySync_refuses py manifest now decided
          | pauseBeforeStart =>
              have other : command.kind ≠ .pauseForRepositorySync := by
                rw [kind]
                decide
              have mayNot : ¬MayArm command package := by
                intro may
                rw [if_neg other, if_pos may] at decided
                cases decided
              obtain ⟨error, failed⟩ := applyPauseBeforeStart_refuses kind
                (accepting.resolve_right other) mayNot session
              exact ⟨_, failed⟩
          | requireDecomposition =>
              have other : command.kind ≠ .pauseForRepositorySync := by
                rw [kind]
                decide
              have mayNot : ¬MayArm command package := by
                intro may
                rw [if_neg other, if_pos may] at decided
                cases decided
              obtain ⟨error, failed⟩ := applyRequireDecomposition_refuses py kind
                (accepting.resolve_right other) mayNot session
              exact ⟨_, failed⟩
        obtain ⟨refusal, failed⟩ := refuses
        have whole : applyWorkPackageDirective py manifest now command session =
            (.error refusal, session) := by
          rw [applyWorkPackageDirective_handled py manifest now found accepting,
            Stateful.bind_apply, failed]
        exact attemptDirective_failed py manifest now whole
      · have lookup : within (Stateful.ofOutcome
            (session.record.planGraph.packageById command.packageId)) session =
            (.ok package, session) :=
          within_ok (by rw [Stateful.ofOutcome_apply, found])
        have whole : applyWorkPackageDirective py manifest now command session =
            (.error (.rejected
              ⟨"completed package cannot accept directives: " ++ package.id⟩), session) := by
          unfold applyWorkPackageDirective
          rw [Stateful.read_bind_apply, Stateful.bind_apply, lookup]
          dsimp only
          rw [Stateful.bind_apply, require_of_not accepting]
        exact attemptDirective_failed py manifest now whole

theorem attemptDirective_arm {command : WorkPackageDirectiveCommand} {session : Session}
    (decided : directiveDecision py manifest now session.record.planGraph command = .arm) :
    ∃ payload, attemptDirective py manifest now command session =
      (.ok (.applied payload), { session with record := armRecord command session.record }) := by
  unfold directiveDecision at decided
  cases found : session.record.planGraph.packageById command.packageId with
  | error failure =>
      rw [found] at decided
      cases decided
  | ok package =>
      have name : package.id = command.packageId := (PlanGraph.packageById_mem found).2
      rw [found] at decided
      dsimp only at decided
      by_cases sync : command.kind = .pauseForRepositorySync
      · rw [if_pos sync] at decided
        exact absurd decided (pauseDecision_ne_arm py manifest now _ command package)
      · rw [if_neg sync] at decided
        have may : MayArm command package := by
          by_cases allowed : MayArm command package
          · exact allowed
          · rw [if_neg allowed] at decided
            cases decided
        have handled : ∃ summary, handlerOf py manifest now command package session =
            (.ok summary, session.withPackage package.id (armPackage command)) := by
          unfold handlerOf armPackage
          cases kind : command.kind with
          | pauseForRepositorySync => exact absurd kind sync
          | pauseBeforeStart => exact applyPauseBeforeStart_accepts kind may session
          | requireDecomposition => exact applyRequireDecomposition_accepts py kind may session
        obtain ⟨summary, completed⟩ := handled
        rw [name] at completed
        exact ⟨_, attemptDirective_applied py manifest now found (Or.inl may.1) completed⟩

theorem pauseDecision_of_directiveDecision {graph : PlanGraph}
    {command : WorkPackageDirectiveCommand} {waiting : Row}
    (decided : directiveDecision py manifest now graph command = .pause waiting) :
    ∃ package, graph.packageById command.packageId = .ok package ∧
      command.kind = .pauseForRepositorySync ∧
        pauseDecision py manifest now graph command package = .pause waiting := by
  unfold directiveDecision at decided
  cases found : graph.packageById command.packageId with
  | error failure =>
      rw [found] at decided
      cases decided
  | ok package =>
      rw [found] at decided
      dsimp only at decided
      by_cases sync : command.kind = .pauseForRepositorySync
      · rw [if_pos sync] at decided
        exact ⟨package, rfl, sync, decided⟩
      · rw [if_neg sync] at decided
        by_cases may : MayArm command package
        · rw [if_pos may] at decided
          cases decided
        · rw [if_neg may] at decided
          cases decided

theorem handlerOf_sync {command : WorkPackageDirectiveCommand} (package : WorkPackage)
    (sync : command.kind = .pauseForRepositorySync) :
    handlerOf py manifest now command package =
      applyPauseForRepositorySync py manifest now command package := by
  unfold handlerOf
  rw [sync]

/-- A request that reaches its boundary in time is applied. -/
theorem attemptDirective_pause {command : WorkPackageDirectiveCommand} {session : Session}
    {waiting : Row}
    (decided : directiveDecision py manifest now session.record.planGraph command =
      .pause waiting)
    (pausable : Pausable session.record.state) :
    ∃ payload, attemptDirective py manifest now command session =
      (.ok (.applied payload),
        if session.record.state = .running then
          { record := Session.moved now .operatorPaused (pauseRecord waiting session.record)
            writes := session.writes ++
              Session.transitionWrites now .operatorPaused
                (pauseRecord waiting session.record) }
        else
          { session with record := pauseRecord waiting session.record }) := by
  obtain ⟨package, found, sync, pauses⟩ :=
    pauseDecision_of_directiveDecision py manifest now decided
  obtain ⟨summary, completed⟩ :=
    applyPauseForRepositorySync_accepts py manifest now pauses pausable
  rw [← handlerOf_sync py manifest now package sync] at completed
  exact ⟨_, attemptDirective_applied py manifest now found (Or.inr sync) completed⟩

/-- In any other state it is rejected, but the waiting slot is taken. -/
theorem attemptDirective_tooLate {command : WorkPackageDirectiveCommand}
    {session : Session} {waiting : Row}
    (decided : directiveDecision py manifest now session.record.planGraph command =
      .pause waiting)
    (unpausable : ¬Pausable session.record.state) :
    ∃ error, attemptDirective py manifest now command session =
      (.ok (.rejected error), { session with record := pauseRecord waiting session.record }) := by
  obtain ⟨package, found, sync, pauses⟩ :=
    pauseDecision_of_directiveDecision py manifest now decided
  obtain ⟨error, failed⟩ :=
    applyPauseForRepositorySync_tooLate py manifest now pauses unpausable
  rw [← handlerOf_sync py manifest now package sync] at failed
  unfold attemptDirective Stateful.recover
  rw [Stateful.bind_apply,
    applyWorkPackageDirective_handled py manifest now found (Or.inr sync),
    Stateful.bind_apply, failed]
  exact ⟨_, rfl⟩

/-- What a directive leaves. -/
theorem attemptDirective_session (command : WorkPackageDirectiveCommand)
    (session : Session) :
    ∃ application, attemptDirective py manifest now command session =
      (.ok application, afterAttempt py manifest now session command) := by
  unfold afterAttempt afterDirective directiveWrites
  cases decided : directiveDecision py manifest now session.record.planGraph command with
  | refuse =>
      obtain ⟨application, _, ran⟩ := attemptDirective_refuse py manifest now decided
      refine ⟨application, ?_⟩
      rw [ran, List.append_nil]
  | arm =>
      obtain ⟨payload, ran⟩ := attemptDirective_arm py manifest now decided
      refine ⟨.applied payload, ?_⟩
      rw [ran, List.append_nil]
  | pause waiting =>
      dsimp only
      by_cases pausable : Pausable session.record.state
      · obtain ⟨payload, ran⟩ := attemptDirective_pause py manifest now decided pausable
        refine ⟨.applied payload, ?_⟩
        rw [ran]
        by_cases running : session.record.state = .running
        · rw [if_pos running, if_pos running, if_pos running]
        · rw [if_neg running, if_neg running, if_neg running, List.append_nil]
      · obtain ⟨error, ran⟩ := attemptDirective_tooLate py manifest now decided pausable
        have notRunning : session.record.state ≠ .running :=
          fun running => pausable (Or.inl running)
        refine ⟨.rejected error, ?_⟩
        rw [ran, if_neg notRunning, if_neg notRunning, List.append_nil]

/-! ## The whole batch -/

instance (state : TaskExecutionState) : Decidable (Pausable state) := by
  unfold Pausable
  infer_instance

/-- Whether a directive that meets this record is applied. -/
def Applies (record : TaskExecutionStateRecord) (command : WorkPackageDirectiveCommand) :
    Prop :=
  match directiveDecision py manifest now record.planGraph command with
  | .refuse => False
  | .arm => True
  | .pause _ => Pausable record.state

instance (record : TaskExecutionStateRecord) (command : WorkPackageDirectiveCommand) :
    Decidable (Applies py manifest now record command) := by
  unfold Applies
  cases directiveDecision py manifest now record.planGraph command <;> infer_instance

def afterDirectives (record : TaskExecutionStateRecord)
    (commands : List WorkPackageDirectiveCommand) : TaskExecutionStateRecord :=
  commands.foldl (afterDirective py manifest now) record

theorem afterDirective_undirected (record : TaskExecutionStateRecord)
    (command : WorkPackageDirectiveCommand) :
    (afterDirective py manifest now record command).planGraph.undirected =
      record.planGraph.undirected := by
  unfold afterDirective
  cases directiveDecision py manifest now record.planGraph command with
  | refuse => rfl
  | arm => exact PlanGraph.undirected_modify (armPackage_undirected command) record.planGraph
  | pause waiting =>
      by_cases running : record.state = .running
      · simp [running, Session.moved, pauseRecord]
      · simp [running, pauseRecord]

theorem pausable_afterDirective (record : TaskExecutionStateRecord)
    (command : WorkPackageDirectiveCommand) :
    Pausable (afterDirective py manifest now record command).state ↔
      Pausable record.state := by
  unfold afterDirective
  cases directiveDecision py manifest now record.planGraph command with
  | refuse => exact Iff.rfl
  | arm => exact Iff.rfl
  | pause waiting =>
      by_cases running : record.state = .running
      · simp [running, Session.moved, Pausable]
      · simp [running, pauseRecord]

/-- Whether a directive is applied does not depend on the other ones of its batch. -/
theorem applies_afterDirective (record : TaskExecutionStateRecord)
    (command other : WorkPackageDirectiveCommand) :
    Applies py manifest now (afterDirective py manifest now record command) other ↔
      Applies py manifest now record other := by
  unfold Applies
  rw [directiveDecision_congr py manifest now
    (afterDirective_undirected py manifest now record command)]
  cases directiveDecision py manifest now record.planGraph other with
  | refuse => exact Iff.rfl
  | arm => exact Iff.rfl
  | pause waiting => exact pausable_afterDirective py manifest now record command

theorem attemptDirective_applies (command : WorkPackageDirectiveCommand) (session : Session) :
    ∃ application, attemptDirective py manifest now command session =
        (.ok application, afterAttempt py manifest now session command) ∧
      (application.isRefusal ↔ ¬Applies py manifest now session.record command) ∧
      (ReachesBoundary py manifest session.record.planGraph command →
        application ≠ .deferred) := by
  obtain ⟨application, ran⟩ := attemptDirective_session py manifest now command session
  refine ⟨application, ran, ?_⟩
  rw [reachesBoundary_iff py manifest now]
  unfold Applies
  cases decided : directiveDecision py manifest now session.record.planGraph command with
  | refuse =>
      obtain ⟨other, refusal, same⟩ := attemptDirective_refuse py manifest now decided
      rw [ran, Prod.mk.injEq] at same
      cases same.1
      simp [refusal]
  | arm =>
      obtain ⟨payload, same⟩ := attemptDirective_arm py manifest now decided
      rw [ran, Prod.mk.injEq] at same
      cases same.1
      simp [Application.isRefusal]
  | pause waiting =>
      by_cases pausable : Pausable session.record.state
      · obtain ⟨payload, same⟩ := attemptDirective_pause py manifest now decided pausable
        rw [ran, Prod.mk.injEq] at same
        cases same.1
        simp [Application.isRefusal, pausable]
      · obtain ⟨error, same⟩ := attemptDirective_tooLate py manifest now decided pausable
        rw [ran, Prod.mk.injEq] at same
        cases same.1
        simp [Application.isRefusal, pausable]

def afterAttempts (session : Session) (commands : List WorkPackageDirectiveCommand) :
    Session :=
  commands.foldl (afterAttempt py manifest now) session

theorem afterAttempts_record (session : Session)
    (commands : List WorkPackageDirectiveCommand) :
    (afterAttempts py manifest now session commands).record =
      afterDirectives py manifest now session.record commands := by
  induction commands generalizing session with
  | nil => rfl
  | cons head tail inductionHypothesis =>
      exact inductionHypothesis (afterAttempt py manifest now session head)

/-- Every directive of a batch is decided by the record at its start. -/
theorem attemptDirectives_eq (commands : List WorkPackageDirectiveCommand)
    (session : Session) :
    ∃ outcomes, attemptDirectives py manifest now commands session =
        (.ok outcomes, afterAttempts py manifest now session commands) ∧
      outcomes.map Prod.fst = commands ∧
      ∀ outcome ∈ outcomes, (outcome.2.isRefusal ↔
          ¬Applies py manifest now session.record outcome.1) ∧
        (ReachesBoundary py manifest session.record.planGraph outcome.1 →
          outcome.2 ≠ .deferred) := by
  induction commands generalizing session with
  | nil => exact ⟨[], rfl, rfl, by simp⟩
  | cons head tail inductionHypothesis =>
      obtain ⟨application, first, decided⟩ :=
        attemptDirective_applies py manifest now head session
      obtain ⟨outcomes, rest, names, others⟩ :=
        inductionHypothesis (afterAttempt py manifest now session head)
      have graph := afterDirective_undirected py manifest now session.record head
      refine ⟨(head, application) :: outcomes, ?_, ?_, ?_⟩
      · rw [attemptDirectives, Stateful.bind_apply, first]
        dsimp only
        rw [Stateful.bind_apply, rest]
        rfl
      · rw [List.map_cons, names]
      · rw [List.forall_mem_cons]
        refine ⟨decided, fun outcome member => ?_⟩
        have same := others outcome member
        unfold afterAttempt at same
        rw [applies_afterDirective, reachesBoundary_congr py manifest graph] at same
        exact same

theorem appliedOf_commands {applies : WorkPackageDirectiveCommand → Prop}
    [DecidablePred applies] {outcomes : List (WorkPackageDirectiveCommand × Application)}
    (decided : ∀ outcome ∈ outcomes, outcome.2.isRefusal ↔ ¬applies outcome.1) :
    (appliedOf outcomes).map Prod.fst =
      (outcomes.map Prod.fst).filter fun command => applies command := by
  induction outcomes with
  | nil => rfl
  | cons head tail inductionHypothesis =>
      rw [List.forall_mem_cons] at decided
      obtain ⟨first, others⟩ := decided
      have tailCommands := inductionHypothesis others
      obtain ⟨command, application⟩ := head
      unfold appliedOf at tailCommands ⊢
      cases application with
      | applied payload =>
          have chosen : applies command := not_not.mp fun refused => first.mpr refused
          simp only [List.filterMap_cons, List.map_cons]
          rw [List.filter_cons, if_pos (decide_eq_true chosen), tailCommands]
      | deferred =>
          have refused : ¬applies command := first.mp trivial
          simp only [List.filterMap_cons, List.map_cons]
          rw [List.filter_cons, if_neg (by simpa using refused), tailCommands]
      | rejected error =>
          have refused : ¬applies command := first.mp trivial
          simp only [List.filterMap_cons, List.map_cons]
          rw [List.filter_cons, if_neg (by simpa using refused), tailCommands]

theorem mem_rejectedOf {outcomes : List (WorkPackageDirectiveCommand × Application)}
    {rejected : WorkPackageDirectiveCommand × String} :
    rejected ∈ rejectedOf outcomes ↔ (rejected.1, .rejected rejected.2) ∈ outcomes := by
  unfold rejectedOf
  rw [List.mem_filterMap]
  constructor
  · rintro ⟨⟨command, application⟩, member, chosen⟩
    cases application with
    | applied payload => cases chosen
    | deferred => cases chosen
    | rejected error =>
        cases chosen
        exact member
  · intro member
    exact ⟨_, member, rfl⟩

/-- What a pass writes once every directive of its batch is decided. -/
def resolutionWrites (record : TaskExecutionStateRecord)
    (outcomes : List (WorkPackageDirectiveCommand × Application)) : List Write :=
  (if appliedOf outcomes ≠ [] then
    .save record :: (appliedOf outcomes).flatMap (appliedWrites py)
  else
    []) ++ (rejectedOf outcomes).flatMap rejectedWrites

/-- One whole pass. -/
theorem applyPendingWorkPackageDirectives_eq (commands : List WorkPackageDirectiveCommand)
    (session : Session) :
    ∃ outcomes, applyPendingWorkPackageDirectives py manifest now commands session =
        (.ok (appliedOf outcomes).length,
          { record := afterDirectives py manifest now session.record commands
            writes := (afterAttempts py manifest now session commands).writes ++
              resolutionWrites py
                (afterDirectives py manifest now session.record commands) outcomes }) ∧
      (appliedOf outcomes).map Prod.fst =
        (commands.filter fun command => Applies py manifest now session.record command) ∧
      (∀ rejected ∈ rejectedOf outcomes, rejected.1 ∈ commands ∧
        ¬Applies py manifest now session.record rejected.1) ∧
      ∀ command ∈ commands, ReachesBoundary py manifest session.record.planGraph command →
        ¬Applies py manifest now session.record command →
          ∃ error, (command, error) ∈ rejectedOf outcomes := by
  obtain ⟨outcomes, ran, names, decided⟩ :=
    attemptDirectives_eq py manifest now commands session
  refine ⟨outcomes, ?_, ?_, ?_, ?_⟩
  · unfold applyPendingWorkPackageDirectives resolutionWrites
    rw [Stateful.bind_apply, ran]
    dsimp only
    rw [← afterAttempts_record]
    by_cases some : appliedOf outcomes ≠ []
    · rw [if_pos some, if_pos some]
      simp [Stateful.bind_apply, writeAll]
    · rw [if_neg some, if_neg some]
      simp [Stateful.bind_apply, writeAll]
  · rw [appliedOf_commands fun outcome member => (decided outcome member).1, names]
  · intro rejected member
    have listed := mem_rejectedOf.mp member
    refine ⟨?_, (decided _ listed).1.mp trivial⟩
    rw [← names]
    exact List.mem_map.mpr ⟨_, listed, rfl⟩
  · intro command member reaches refused
    rw [← names] at member
    obtain ⟨⟨_, application⟩, listed, rfl⟩ := List.mem_map.mp member
    have decision := decided _ listed
    have refusal := decision.1.mpr refused
    cases application with
    | applied payload => exact absurd refusal not_false
    | deferred => exact absurd rfl (decision.2 reaches)
    | rejected error => exact ⟨error, mem_rejectedOf.mpr listed⟩

/-! ## Where the waiting slot ends up -/

theorem afterDirectives_undirected (record : TaskExecutionStateRecord)
    (commands : List WorkPackageDirectiveCommand) :
    (afterDirectives py manifest now record commands).planGraph.undirected =
      record.planGraph.undirected := by
  induction commands generalizing record with
  | nil => rfl
  | cons head tail inductionHypothesis =>
      have rest := inductionHypothesis (afterDirective py manifest now record head)
      rw [afterDirective_undirected] at rest
      exact rest

/-- Without a reached boundary only the plan graph changes. -/
theorem afterDirective_of_not_reaches {record : TaskExecutionStateRecord}
    {command : WorkPackageDirectiveCommand}
    (missed : ¬ReachesBoundary py manifest record.planGraph command) :
    (afterDirective py manifest now record command).waiting = record.waiting ∧
      (afterDirective py manifest now record command).state = record.state := by
  rw [reachesBoundary_iff py manifest now] at missed
  unfold afterDirective
  cases decided : directiveDecision py manifest now record.planGraph command with
  | refuse => exact ⟨rfl, rfl⟩
  | arm => exact ⟨rfl, rfl⟩
  | pause waiting => exact absurd ⟨waiting, decided⟩ missed

theorem afterDirectives_of_not_reaches {record : TaskExecutionStateRecord}
    {commands : List WorkPackageDirectiveCommand}
    (missed : ∀ command ∈ commands,
      ¬ReachesBoundary py manifest record.planGraph command) :
    (afterDirectives py manifest now record commands).waiting = record.waiting ∧
      (afterDirectives py manifest now record commands).state = record.state := by
  induction commands generalizing record with
  | nil => exact ⟨rfl, rfl⟩
  | cons head tail inductionHypothesis =>
      rw [List.forall_mem_cons] at missed
      have first := afterDirective_of_not_reaches py manifest now missed.1
      have same := afterDirective_undirected py manifest now record head
      have later : ∀ command ∈ tail, ¬ReachesBoundary py manifest
          (afterDirective py manifest now record head).planGraph command :=
        fun command member =>
          (reachesBoundary_congr py manifest same).not.mpr (missed.2 command member)
      have rest := inductionHypothesis later
      rw [first.1, first.2] at rest
      exact rest

theorem exists_last_of_exists {Element : Type} {holds : Element → Prop}
    {elements : List Element} (some : ∃ element ∈ elements, holds element) :
    ∃ front last back, elements = front ++ last :: back ∧ holds last ∧
      ∀ element ∈ back, ¬holds element := by
  induction elements with
  | nil =>
      obtain ⟨element, member, _⟩ := some
      cases member
  | cons head tail inductionHypothesis =>
      by_cases later : ∃ element ∈ tail, holds element
      · obtain ⟨front, last, back, shape, chosen, none⟩ := inductionHypothesis later
        exact ⟨head :: front, last, back, by rw [shape, List.cons_append], chosen, none⟩
      · obtain ⟨element, member, chosen⟩ := some
        rcases List.mem_cons.mp member with rfl | inTail
        · exact ⟨[], element, tail, rfl, chosen, fun other otherMember holdsOther =>
            later ⟨other, otherMember, holdsOther⟩⟩
        · exact absurd ⟨element, inTail, chosen⟩ later

/-- The last request that reaches its boundary takes the waiting slot. -/
theorem afterDirectives_last {record : TaskExecutionStateRecord}
    {front back : List WorkPackageDirectiveCommand} {last : WorkPackageDirectiveCommand}
    {waiting : Row}
    (pauses : directiveDecision py manifest now record.planGraph last = .pause waiting)
    (none : ∀ command ∈ back, ¬ReachesBoundary py manifest record.planGraph command) :
    (afterDirectives py manifest now record (front ++ last :: back)).waiting = waiting ∧
      (Pausable record.state →
        (afterDirectives py manifest now record (front ++ last :: back)).state =
          .operatorPaused) := by
  have sameFront := afterDirectives_undirected py manifest now record front
  have sameState : Pausable (afterDirectives py manifest now record front).state ↔
      Pausable record.state := by
    clear sameFront
    induction front generalizing record with
    | nil => exact Iff.rfl
    | cons head tail inductionHypothesis =>
        have first := pausable_afterDirective py manifest now record head
        have graph := afterDirective_undirected py manifest now record head
        rw [← directiveDecision_congr py manifest now graph] at pauses
        have later : ∀ command ∈ back, ¬ReachesBoundary py manifest
            (afterDirective py manifest now record head).planGraph command :=
          fun command member =>
            (reachesBoundary_congr py manifest graph).not.mpr (none command member)
        exact (inductionHypothesis pauses later).trans first
  have split : afterDirectives py manifest now record (front ++ last :: back) =
      afterDirectives py manifest now
        (afterDirective py manifest now (afterDirectives py manifest now record front) last)
        back := by
    unfold afterDirectives
    rw [List.foldl_append, List.foldl_cons]
  rw [← directiveDecision_congr py manifest now sameFront] at pauses
  have sameLast := (afterDirective_undirected py manifest now
    (afterDirectives py manifest now record front) last).trans sameFront
  have rest := afterDirectives_of_not_reaches py manifest now fun command member =>
    (reachesBoundary_congr py manifest sameLast).not.mpr (none command member)
  rw [split, rest.1, rest.2]
  unfold afterDirective
  rw [pauses]
  dsimp only
  by_cases running : (afterDirectives py manifest now record front).state = .running
  · rw [if_pos running]
    exact ⟨rfl, fun _ => rfl⟩
  · rw [if_neg running]
    exact ⟨rfl, fun pausable => (sameState.mpr pausable).resolve_left running⟩

theorem boundaryWaiting_records {command : WorkPackageDirectiveCommand} {graph : PlanGraph}
    {waiting : Row}
    (pauses : directiveDecision py manifest now graph command = .pause waiting) :
    RecordsRequest waiting command.id := by
  obtain ⟨package, _, _, decided⟩ := pauseDecision_of_directiveDecision py manifest now pauses
  obtain ⟨request, _, _, _, shape⟩ := (pauseDecision_eq_pause py manifest now).mp decided
  rw [shape]
  exact ⟨by simp [WaitsForSync, boundaryWaiting], by simp [boundaryWaiting]⟩

theorem recordsRequest_unique {waiting : Row} {first second : String}
    (one : RecordsRequest waiting first) (other : RecordsRequest waiting second) :
    first = second := by
  have same := one.2.symm.trans other.2
  exact Json.string.inj same

end Execraft.Orchestrate
