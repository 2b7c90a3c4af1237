import Execraft.Orchestrate.ShardWave

/-!
# The loop of the pipeline

One round applies the pending directives, then works on one wave of shards or on one
package.  A package that waits for an agent is deferred for the rest of the call.
-/

namespace Execraft.Orchestrate

open Foundation Foundation.Json

namespace Pipeline

variable (host : Host)

/-- A fallible operation on plain data. -/
def ofOperation {Value : Type} (outcome : Except OrchestrateError Value) :
    PipelineProgram Value :=
  match outcome with
  | .ok value => pure value
  | .error error => Stateful.raise (.failed error)

/-! ## Before the loop -/

/-- The journal entry of a change of the state. -/
def stateEdge (fromState toState : TaskExecutionState) : List PipelineEvent :=
  if fromState = toState then [] else [.taskTransition fromState toState]

def applyDirectives : PipelineProgram Unit := do
  let moment ← observe host
  let session ← Stateful.read
  let pass := applyPendingWorkPackageDirectives host.py host.manifest moment.now
    moment.directives { record := session.record }
  Stateful.modify fun session =>
    { session with
      record := pass.2.record
      events := session.events ++ stateEdge session.record.state pass.2.record.state }
  let _ ← ofOperation pass.1

def refreshWaits : PipelineProgram Unit := do
  let moment ← observe host
  changeRecord (refreshWaitSummary moment.nextAgentWait)

/-- The package of a one-shot hold is released by a new run. -/
def releaseHold (waiting : Row) (record : TaskExecutionStateRecord) :
    TaskExecutionStateRecord :=
  let packageId := match waiting.get "package_id" (.string "") with
    | .string packageId => packageId
    | _ => ""
  let release : WorkPackage → WorkPackage :=
    if waiting.get "kind" .null = .string DirectiveKind.pauseBeforeStart.value then
      fun package =>
        { package with
          runtime := { package.runtime with
            pauseBeforeStart := false
            pauseBeforeStartReason := ""
            pauseBeforeStartRequestedAt := ""
            pauseBeforeStartReachedAt := "" } }
    else if waiting.get "kind" .null = .string "pause_after_completion" then
      fun package =>
        { package with
          runtime := { package.runtime with
            pauseAfterCompletion := false
            pauseAfterCompletionReason := ""
            pauseAfterCompletionRequestedAt := ""
            pauseAfterCompletionReachedAt := "" } }
    else
      id
  { record with
    planGraph :=
      if packageId = "" then
        record.planGraph
      else
        record.planGraph.modify packageId release
    waiting := [] }

def resumeOperatorPause : PipelineProgram Unit := do
  let session ← Stateful.read
  changeRecord (releaseHold session.record.waiting)
  transitionTo host .running

/-- Go on after low disk; whether the task runs again. -/
def attemptResume : PipelineProgram Bool := do
  let moment ← observe host
  if moment.canResume then
    transitionTo host .recovering
    transitionTo host .running
    return true
  else
    return false

/-- Enter the running state; whether the call goes on. -/
def enterRunning : PipelineProgram Bool := do
  let session ← Stateful.read
  if session.record.state = .pausedLowDisk then
    attemptResume host
  else if session.record.state = .running then
    return true
  else if session.record.state ∈
      [.waitingForAgent, .resourceMaintenance, .recovering, .validatingPlan] then
    transitionTo host .running
    return true
  else
    Stateful.raise (.failed ⟨"orchestrator must be in VALIDATING_PLAN, PAUSED_LOW_DISK, or " ++
      "a resumable in-progress state to run; current state: " ++
      session.record.state.value⟩)

/-- What a call does before its loop; whether it gets there. -/
def beginCall : PipelineProgram Bool := do
  applyDirectives host
  refreshWaits host
  let session ← Stateful.read
  if session.record.state = .operatorPaused ∧
      session.record.waiting.get "kind" .null =
        .string DirectiveKind.pauseForRepositorySync.value then
    return false
  else
    whenever (session.record.state = .operatorPaused) (resumeOperatorPause host)
    let entered ← enterRunning host
    if entered then
      let interrupted ← ShardWave.recoverInterrupted host
      return !interrupted
    else
      return false

/-! ## Pauses -/

/-- Under disk pressure the task is cleaned up; whether it pauses. -/
def handleResourcePressure : PipelineProgram Bool := do
  let moment ← observe host
  if moment.needsCleanup then
    transitionTo host .resourceMaintenance
    let after ← observe host
    if after.needsPause then
      transitionTo host .pausedLowDisk
      return true
    else
      transitionTo host .running
      return false
  else
    return false

/-- The hold before a package is reached. -/
def reachPauseBeforeStart (now : String) (package : WorkPackage)
    (record : TaskExecutionStateRecord) : TaskExecutionStateRecord :=
  { record with
    planGraph := record.planGraph.modify package.id fun package =>
      { package with
        runtime := { package.runtime with
          pauseBeforeStart := false
          pauseBeforeStartReachedAt := now } }
    waiting :=
      [("kind", .string DirectiveKind.pauseBeforeStart.value),
        ("package_id", .string package.id), ("stage", .string package.stage.value),
        ("reason", .string (if package.runtime.pauseBeforeStartReason = "" then
          "Pause before start requested by operator"
        else
          package.runtime.pauseBeforeStartReason)),
        ("reached_at", .string now)] }

def triggerPauseBeforeStart (package : WorkPackage) : PipelineProgram Unit := do
  let moment ← observe host
  if package.runtime.pauseBeforeStartReachedAt = "" then
    changeRecord (reachPauseBeforeStart moment.now package)
    transitionTo host .operatorPaused

/-- The hold after a package is reached. -/
def reachPauseAfterCompletion (now : String) (package : WorkPackage)
    (record : TaskExecutionStateRecord) : TaskExecutionStateRecord :=
  { record with
    planGraph := record.planGraph.modify package.id fun package =>
      { package with
        runtime := { package.runtime with
          pauseAfterCompletion := false
          pauseAfterCompletionReachedAt := now } }
    waiting :=
      [("kind", .string "pause_after_completion"), ("package_id", .string package.id),
        ("stage", .string package.stage.value),
        ("reason", .string (if package.runtime.pauseAfterCompletionReason = "" then
          "Pause after package completion requested by operator"
        else
          package.runtime.pauseAfterCompletionReason)),
        ("requested_at", .string package.runtime.pauseAfterCompletionRequestedAt),
        ("reached_at", .string now)] }

/-- Whether the task pauses after the package. -/
def triggerPauseAfterCompletion (packageId : String) : PipelineProgram Bool := do
  let graph ← currentGraph
  let package ← ofOperation (graph.packageById packageId)
  let moment ← observe host
  if package.stage = .completed ∧ package.runtime.pauseAfterCompletion = true ∧
      package.runtime.pauseAfterCompletionReachedAt = "" then
    changeRecord (reachPauseAfterCompletion moment.now package)
    transitionTo host .operatorPaused
    return true
  else
    return false

/-! ## The choice of a package -/

def plainScope (package : WorkPackage) : List String :=
  package.affectedRepositories.filter fun repository => repository ≠ ""

/-- An empty scope conflicts with every other one. -/
def scopesConflict (first second : List String) : Bool :=
  first = [] ∨ second = [] ∨ (∃ repository ∈ first, repository ∈ second)

def scopeConflictsWithDeferred (graph : PlanGraph) (package : WorkPackage)
    (deferred : List String) : Bool :=
  deferred.any fun packageId =>
    match graph.packageById packageId with
    | .error _ => false
    | .ok other => scopesConflict (plainScope package) (plainScope other)

/-- The next package; one that owns a dirty repository comes first. -/
def selectReadyPackage (record : TaskExecutionStateRecord) (ready : List WorkPackage)
    (deferred : List String) : Option WorkPackage :=
  let candidates := ready.filter fun package =>
    package.id ∉ deferred ∧
      scopeConflictsWithDeferred record.planGraph package deferred = false
  let ownerIds := (parallelDirtyOwners record).map Prod.snd
  match candidates.find? fun package => package.id ∈ ownerIds with
  | some package => some package
  | none => candidates.head?

/-! ## One round -/

/-- How the processing of a package ends. -/
inductive StageEnd where
  | processed
  | waits
  | escalated
  deriving DecidableEq, Repr

/-- The interruptions that the loop expects are no failures. -/
def guarded {Value : Type} (program : PipelineProgram Value) : PipelineProgram StageEnd :=
  fun session =>
    match program session with
    | (.ok _, after) => (.ok .processed, after)
    | (.error .agentWaitRequested, after) => (.ok .waits, after)
    | (.error .stageEscalated, after) => (.ok .escalated, after)
    | (.error (.failed error), after) => (.error (.failed error), after)

/-- More stages than one dispatch can handle. -/
def stageRounds : Nat := 12

/-- A blocked task waits for its agents. -/
def waitWhenBlocked : PipelineProgram Unit := do
  let session ← Stateful.read
  whenever (session.record.agentWaits ≠ [] ∧ session.record.state ≠ .waitingForAgent)
    (transitionTo host .waitingForAgent)

/-- Nothing is ready: the task is complete or it waits. -/
def settleIdle : PipelineProgram Unit := do
  let graph ← currentGraph
  if graph.all (fun package => package.stage = .completed) then
    transitionTo host .finalValidation
    transitionTo host .completed
  else
    waitWhenBlocked host

/-- The package waits, so it is left alone for the rest of the call. -/
def requeue (packageId : String) (deferred : List String) :
    PipelineProgram (Option (List String)) := do
  if host.config.allowCrossPackageProgress = false then
    return none
  else
    let session ← Stateful.read
    whenever (session.record.state = .waitingForAgent) (transitionTo host .running)
    emit (.packageRequeued packageId)
    return some (deferred ++ [packageId])

/-- Process one package; the packages that are deferred from now on, if the loop goes on. -/
def dispatch (packageId : String) (deferred : List String) :
    PipelineProgram (Option (List String)) := do
  emit (.packageSelected packageId)
  let ended ← guarded (onPackage packageId (processPackage host stageRounds))
  match ended with
  | .processed => do
      let paused ← triggerPauseAfterCompletion host packageId
      return if paused then none else some deferred
  | .waits => requeue host packageId deferred
  | .escalated => return none

/-- Work on a wave or on a package. -/
def scheduleReady (ready : List WorkPackage) (deferred : List String) :
    PipelineProgram (Option (List String)) := do
  let launched ← ShardWave.run host ready deferred
  if launched then
    return some deferred
  else
    let session ← Stateful.read
    match selectReadyPackage session.record ready deferred with
    | none => do
        waitWhenBlocked host
        return none
    | some package => dispatch host package.id deferred

def schedule (deferred : List String) : PipelineProgram (Option (List String)) := do
  let graph ← currentGraph
  let ready ← ofOperation graph.readyPackages
  match ready.find? fun package => package.runtime.pauseBeforeStart with
  | some package => do
      triggerPauseBeforeStart host package
      return none
  | none =>
      if ready = [] then
        settleIdle host
        return none
      else
        scheduleReady host ready deferred

/-- One round of the loop; none when the call ends. -/
def round (deferred : List String) : PipelineProgram (Option (List String)) := do
  applyDirectives host
  let session ← Stateful.read
  if session.record.state = .operatorPaused then
    return none
  else
    let paused ← handleResourcePressure host
    if paused then
      return none
    else
      schedule host deferred

/-- Some rounds; whether the loop came to its end. -/
def rounds : Nat → List String → PipelineProgram Bool
  | 0, _ => return false
  | left + 1, deferred => do
      let next ← round host deferred
      match next with
      | none => return true
      | some deferred => rounds left deferred

/-- One call of the pipeline, as far as the number of rounds allows. -/
def runPipeline (bound : Nat) : PipelineProgram Bool := do
  let entered ← beginCall host
  if entered then
    rounds host bound []
  else
    return true

end Pipeline

end Execraft.Orchestrate
