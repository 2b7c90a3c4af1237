import Execraft.Orchestrate.Session
import Execraft.RepositorySync.CardRequest

/-!
# Applying directives

What the orchestrator does with the pending directives at a boundary between two work
packages.  One reading of the clock counts for a whole pass.
-/

namespace Execraft.Orchestrate

open Foundation Foundation.Json RepositorySync

/-- Why a directive was not applied. -/
inductive Refusal where
  | deferred
  | rejected (error : OrchestrateError)

/-- What became of one directive. -/
inductive Application where
  | applied (payload : Row)
  | deferred
  | rejected (error : String)

section

variable (py : Python) (manifest : TaskManifest) (now : String)

def reasonOr (command : WorkPackageDirectiveCommand) (fallback : String) : String :=
  if command.reason = "" then fallback else command.reason

/-- A check of the handlers. -/
def require (condition : Prop) [Decidable condition] (message : String) :
    Stateful Session Refusal Unit :=
  if condition then pure () else Stateful.raise (.rejected ⟨message⟩)

/-- An operation of the orchestrator inside of a handler. -/
def within {Value : Type} (operation : Stateful Session OrchestrateError Value) :
    Stateful Session Refusal Value :=
  Stateful.recover operation fun error => Stateful.raise (.rejected error)

/-! ## The three kinds -/

def armPauseBeforeStart (command : WorkPackageDirectiveCommand)
    (package : WorkPackage) : WorkPackage :=
  { package with
    runtime := { package.runtime with
      pauseBeforeStart := command.enabled
      pauseBeforeStartReason :=
        if command.enabled then
          reasonOr command "Pause before start requested by operator"
        else ""
      pauseBeforeStartRequestedAt := if command.enabled then command.requestedAt else ""
      pauseBeforeStartReachedAt := "" } }

def applyPauseBeforeStart (command : WorkPackageDirectiveCommand) (package : WorkPackage) :
    Stateful Session Refusal String := do
  if command.enabled then
    require (package.stage = .prepare ∧ package.status = "pending")
      ("pause-before-start requires an unstarted package: " ++ package.id)
  Session.changePackage package.id (armPauseBeforeStart command)
  return if command.enabled then "pause before start scheduled"
    else "pause before start removed"

/-- The waiting record of a reached boundary. -/
def boundaryWaiting (command : WorkPackageDirectiveCommand) (package : WorkPackage)
    (request : RepositorySyncCardRequest) : Row :=
  [("kind", .string DirectiveKind.pauseForRepositorySync.value),
    ("package_id", .string package.id),
    ("stage", .string package.stage.value),
    ("reason", .string
      (reasonOr command "Repository synchronization requested from Work Package card")),
    ("requested_at", .string command.requestedAt),
    ("reached_at", .string now),
    ("command_id", .string command.id),
    ("repository_sync", .object request.asParameters)]

/-- Wait until the boundary of a request is reached. -/
def awaitBoundary (request : RepositorySyncCardRequest) (package : WorkPackage) :
    Stateful Session Refusal Unit := do
  if request.mode = "before" then
    require (package.stage = .prepare ∧ package.status = "pending")
      ("sync-before boundary was missed because package " ++ package.id ++
        " already started")
    let session ← Stateful.read
    let ready ← within (Stateful.ofOutcome
      (session.record.planGraph.dependencyReady package.id))
    if ready = false then
      Stateful.raise .deferred
  else if package.stage ≠ .completed then
    Stateful.raise .deferred

def applyPauseForRepositorySync (command : WorkPackageDirectiveCommand)
    (package : WorkPackage) : Stateful Session Refusal String := do
  match RepositorySyncCardRequest.fromParameters py manifest command.parameters package.id with
  | .error message => Stateful.raise (.rejected ⟨message⟩)
  | .ok request =>
      require (command.enabled = true)
        ("repository synchronization pause requests cannot be disabled; " ++
          "supersede the request instead")
      awaitBoundary request package
      Session.change fun record =>
        { record with waiting := boundaryWaiting now command package request }
      let session ← Stateful.read
      if session.record.state ≠ .operatorPaused then
        within (Session.transitionTo now .operatorPaused)
      return "repository synchronization safe boundary reached"

def armRequireDecomposition (command : WorkPackageDirectiveCommand)
    (package : WorkPackage) : WorkPackage :=
  { package with
    runtime := { package.runtime with
      decompositionRequired := command.enabled
      decompositionRequiredReason :=
        if command.enabled then reasonOr command "Decomposition required by operator"
        else ""
      decompositionRequiredAt := if command.enabled then command.requestedAt else ""
      decompositionRequiredConsumedAt := "" } }

def applyRequireDecomposition (command : WorkPackageDirectiveCommand)
    (package : WorkPackage) : Stateful Session Refusal String := do
  require (package.parentId = "" ∧ package.executionMode = "standard")
    ("mandatory decomposition requires a top-level standard package: " ++ package.id)
  if command.enabled then
    require (package.stage = .prepare ∧ package.status = "pending")
      ("mandatory decomposition requires an unstarted package: " ++ package.id)
    require (package.runtime.decompositionStatus = "")
      ("package " ++ package.id ++ " already has decomposition status " ++
        py.repr package.runtime.decompositionStatus)
  else
    require (package.stage ≠ .decompose)
      ("decomposition has already started for package " ++ package.id)
  Session.changePackage package.id (armRequireDecomposition command)
  return if command.enabled then "mandatory decomposition scheduled"
    else "mandatory decomposition removed"

/-! ## One pass -/

/-- The handler of a directive, chosen by its kind; it returns a summary. -/
def handlerOf (command : WorkPackageDirectiveCommand) (package : WorkPackage) :
    Stateful Session Refusal String :=
  match command.kind with
  | .pauseBeforeStart => applyPauseBeforeStart command package
  | .pauseForRepositorySync => applyPauseForRepositorySync py manifest now command package
  | .requireDecomposition => applyRequireDecomposition py command package

def appliedPayload (command : WorkPackageDirectiveCommand) (packageId summary : String) :
    Row :=
  [("command_id", .string command.id), ("package_id", .string packageId),
    ("kind", .string command.kind.value), ("enabled", .bool command.enabled),
    ("reason", .string command.reason), ("requested_at", .string command.requestedAt),
    ("requested_by", .string command.requestedBy), ("summary", .string summary)]

def applyWorkPackageDirective (command : WorkPackageDirectiveCommand) :
    Stateful Session Refusal Row := do
  let session ← Stateful.read
  let package ← within (Stateful.ofOutcome
    (session.record.planGraph.packageById command.packageId))
  require (package.stage ≠ .completed ∨ command.kind = .pauseForRepositorySync)
    ("completed package cannot accept directives: " ++ package.id)
  let summary ← handlerOf py manifest now command package
  return appliedPayload command package.id summary

def attemptDirective (command : WorkPackageDirectiveCommand) :
    Stateful Session OrchestrateError Application :=
  Stateful.recover
    (do
      let payload ← applyWorkPackageDirective py manifest now command
      return Application.applied payload)
    fun refusal =>
      match refusal with
      | .deferred => pure .deferred
      | .rejected error => pure (.rejected error.message)

def attemptDirectives : List WorkPackageDirectiveCommand →
    Stateful Session OrchestrateError (List (WorkPackageDirectiveCommand × Application))
  | [] => pure []
  | command :: rest => do
      let application ← attemptDirective py manifest now command
      let others ← attemptDirectives rest
      return (command, application) :: others

def appliedOf (outcomes : List (WorkPackageDirectiveCommand × Application)) :
    List (WorkPackageDirectiveCommand × Row) :=
  outcomes.filterMap fun outcome =>
    match outcome.2 with
    | .applied payload => some (outcome.1, payload)
    | _ => none

def rejectedOf (outcomes : List (WorkPackageDirectiveCommand × Application)) :
    List (WorkPackageDirectiveCommand × String) :=
  outcomes.filterMap fun outcome =>
    match outcome.2 with
    | .rejected error => some (outcome.1, error)
    | _ => none

/-- What is written for an applied directive. -/
def appliedWrites (applied : WorkPackageDirectiveCommand × Row) : List Write :=
  [.append "work_package_directive_applied" applied.2,
    .resolve applied.1.id .applied
      (py.text (applied.2.get "summary" (.string "applied"))) ""]

/-- What is written for a rejected directive. -/
def rejectedWrites (rejected : WorkPackageDirectiveCommand × String) : List Write :=
  [.append "work_package_directive_rejected"
      [("command_id", .string rejected.1.id), ("package_id", .string rejected.1.packageId),
        ("kind", .string rejected.1.kind.value), ("enabled", .bool rejected.1.enabled),
        ("error", .string rejected.2)],
    .resolve rejected.1.id .rejected "" rejected.2]

def writeAll (effects : List Write) : Stateful Session OrchestrateError Unit :=
  Stateful.modify fun session => { session with writes := session.writes ++ effects }

def applyPendingWorkPackageDirectives (commands : List WorkPackageDirectiveCommand) :
    Stateful Session OrchestrateError Nat := do
  let outcomes ← attemptDirectives py manifest now commands
  let applied := appliedOf outcomes
  if applied ≠ [] then
    Session.save
    writeAll (applied.flatMap (appliedWrites py))
  writeAll ((rejectedOf outcomes).flatMap rejectedWrites)
  return applied.length

end

/-! ## The release of a boundary -/

/-- Whether a waiting record is that of a reached synchronization boundary. -/
def WaitsForSync (waiting : Row) : Prop :=
  waiting.get "kind" .null = .string DirectiveKind.pauseForRepositorySync.value

/-- Whether a waiting record belongs to the request of this identity. -/
def RecordsRequest (waiting : Row) (commandId : String) : Prop :=
  WaitsForSync waiting ∧ waiting.get "command_id" (.string "") = .string commandId

def acknowledgement (commandId packageId syncPackageId reachedAt : String) : Row :=
  [("command_id", .string commandId), ("package_id", .string packageId),
    ("sync_package_id", .string syncPackageId), ("reached_at", .string reachedAt),
    ("already_acknowledged", .bool false)]

def notOwned : OrchestrateError :=
  ⟨"operator pause is not owned by a repository synchronization request"⟩

def acknowledgeRepositorySyncBoundary (py : Python) (now commandId syncPackageId : String) :
    Stateful Session OrchestrateError Row := do
  let session ← Stateful.read
  let waiting := session.record.waiting
  if waiting = [] ∧ session.record.state = .running then
    return [("command_id", .string commandId), ("sync_package_id", .string syncPackageId),
      ("already_acknowledged", .bool true)]
  else if waiting = [] ∧ session.record.state = .operatorPaused then
    match session.record.planGraph.packageById syncPackageId with
    | .error _ => Stateful.raise notOwned
    | .ok syncPackage =>
        if syncPackage.kind ≠ .repositorySync then
          Stateful.raise notOwned
        else
          let payload := acknowledgement commandId "" syncPackageId "" ++
            [("recovered_missing_ownership", .bool true)]
          Session.transitionTo now .running
          Session.append "repository_sync_boundary_acknowledged" payload
          return payload
  else if session.record.state ≠ .operatorPaused then
    Stateful.raise ⟨"repository synchronization boundary can only be acknowledged " ++
      "from operator_paused state"⟩
  else if waiting.get "kind" .null ≠
      .string DirectiveKind.pauseForRepositorySync.value then
    Stateful.raise notOwned
  else if py.text (waiting.get "command_id" (.string "")) ≠ commandId then
    Stateful.raise ⟨"repository synchronization boundary command identity changed"⟩
  else
    let payload := acknowledgement commandId
      (py.text (waiting.get "package_id" (.string ""))) syncPackageId
      (py.text (waiting.get "reached_at" (.string "")))
    Session.change fun record => { record with waiting := [] }
    Session.transitionTo now .running
    Session.append "repository_sync_boundary_acknowledged" payload
    return payload

end Execraft.Orchestrate
