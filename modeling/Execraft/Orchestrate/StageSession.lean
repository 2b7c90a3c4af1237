import Execraft.Foundation.Stateful
import Execraft.Orchestrate.AgentSelection
import Execraft.Orchestrate.WaitSummary

/-!
# Processing one work package

The package under processing is held apart from the plan graph of the record.  Every
interaction with the surroundings reads the next moment.
-/

namespace Execraft.Orchestrate

open Foundation Foundation.Json

/-- The journal entries that the results about the stages speak of. -/
inductive StageEvent where
  | invocationStarted (agentId : String) (capability : AgentCapability)
      (stage : WorkPackageStage)
  | reviewResult (agentId verdict : String)
  | verificationPassed
  | verificationFailed
  | stageTransition (fromStage toStage : WorkPackageStage)
  | humanInterventionRequired
  | taskTransition (fromState toState : TaskExecutionState)
  | transitionRefused (fromState toState : TaskExecutionState)
  deriving DecidableEq, Repr

def StageEvent.transition? : StageEvent → Option (WorkPackageStage × WorkPackageStage)
  | .stageTransition fromStage toStage => some (fromStage, toStage)
  | _ => none

/-- The entries that tell how a package came along. -/
def StageEvent.isMilestone : StageEvent → Bool
  | .stageTransition _ _ | .verificationPassed | .verificationFailed => true
  | _ => false

structure StageSession where
  package : WorkPackage
  record : TaskExecutionStateRecord
  events : List StageEvent := []
  clock : Nat := 0

/-- How the processing of a package is interrupted. -/
inductive StageSignal where
  | agentWaitRequested
  | stageEscalated
  | failed (error : OrchestrateError)

abbrev StageProgram (Value : Type) := Stateful StageSession StageSignal Value

namespace StageSession

/-- The plan graph with the package under processing in its place. -/
def graph (session : StageSession) : PlanGraph :=
  session.record.planGraph.put session.package

def milestones (session : StageSession) : List StageEvent :=
  session.events.filter StageEvent.isMilestone

/-- The stage transitions in the journal. -/
def transitions (session : StageSession) : List (WorkPackageStage × WorkPackageStage) :=
  session.events.filterMap StageEvent.transition?

theorem ids_graph (session : StageSession) :
    session.graph.map WorkPackage.id = session.record.planGraph.map WorkPackage.id :=
  PlanGraph.ids_modify (fun _ _ => rfl) _

end StageSession

section Operations

variable (host : Host)

/-- The answers of the next moment. -/
def observe : StageProgram Moment :=
  fun session =>
    (.ok (host.surroundings session.clock),
      { session with clock := session.clock + 1 })

def changePackage (update : WorkPackage → WorkPackage) : StageProgram Unit :=
  Stateful.modify fun session => { session with package := update session.package }

def changeRuntime (update : PackageRuntime → PackageRuntime) : StageProgram Unit :=
  changePackage fun package => { package with runtime := update package.runtime }

def changeRecord (update : TaskExecutionStateRecord → TaskExecutionStateRecord) :
    StageProgram Unit :=
  Stateful.modify fun session => { session with record := update session.record }

def emit (event : StageEvent) : StageProgram Unit :=
  Stateful.modify fun session => { session with events := session.events ++ [event] }

/-- A program for the case that the condition holds. -/
def whenever (condition : Prop) [Decidable condition] (program : StageProgram Unit) :
    StageProgram Unit :=
  if condition then program else pure ()

def currentPackage : StageProgram WorkPackage := do
  let session ← Stateful.read
  return session.package

theorem ensures_observe {session : StageSession}
    {returns : Moment → StageSession → Prop}
    {raises : StageSignal → StageSession → Prop} :
    Stateful.Ensures (observe host) session returns raises ↔
      returns (host.surroundings session.clock) (observe host session).2 :=
  Iff.rfl

theorem ensures_currentPackage {session : StageSession}
    {returns : WorkPackage → StageSession → Prop}
    {raises : StageSignal → StageSession → Prop} :
    Stateful.Ensures currentPackage session returns raises ↔
      returns session.package session :=
  Iff.rfl

def moveTask (newState : TaskExecutionState) : StageProgram Unit := do
  let moment ← observe host
  let session ← Stateful.read
  match validateTaskExecutionTransition session.record.state newState with
  | .error error => do
      emit (.transitionRefused session.record.state newState)
      Stateful.raise (.failed error)
  | .ok _ => do
      changeRecord fun record =>
        { record with
          state := newState
          lastTransitionAt := moment.now }
      emit (.taskTransition session.record.state newState)

/-- Ask for an operator. -/
def requestIntervention : StageProgram Unit := do
  emit .humanInterventionRequired
  moveTask host .humanRequired

/-- Ask for an operator and leave the stage. -/
def escalate {Value : Type} : StageProgram Value := do
  requestIntervention host
  Stateful.raise .stageEscalated

/-! ## Agent waits -/

def refreshWaits : StageProgram Unit := do
  let moment ← observe host
  Stateful.modify fun session =>
    let refreshed := refreshWaitSummary moment.nextAgentWait
      { session.record with planGraph := session.graph }
    { session with
      record := { session.record with
        agentWaits := refreshed.agentWaits
        waiting := refreshed.waiting } }

def dropAgentWait (packageId : String) (record : TaskExecutionStateRecord) :
    TaskExecutionStateRecord :=
  { record with agentWaits := record.agentWaits.filter fun wait => wait.1 ≠ packageId }

def clearAgentWait : StageProgram Unit := do
  let session ← Stateful.read
  let packageId := session.package.id
  if packageId ∈ session.record.agentWaits.map Prod.fst ∨
      session.record.waiting.get "package_id" .null = .string packageId then
    changeRecord (dropAgentWait packageId)
    refreshWaits host

/-! ## Stages -/

def advancePackageStage (newStage : WorkPackageStage) : StageProgram Unit := do
  let package ← currentPackage
  changePackage fun package => { package with stage := newStage }
  if package.stage ≠ newStage then
    changeRecord (dropAgentWait package.id)
    refreshWaits host
    emit (.stageTransition package.stage newStage)

/-- How many packages are completed. -/
def PlanGraph.completedCount (graph : PlanGraph) : Nat :=
  graph.countP fun package => package.stage = .completed

/-- The owners of the repositories that a parallel wave wrote to. -/
def parallelDirtyOwners (record : TaskExecutionStateRecord) : List (String × String) :=
  (membersOf (record.scheduler.get "parallel_dirty_owners" .null)).filterMap fun owner =>
    match owner.2 with
    | .string packageId => some (owner.1, packageId)
    | _ => none

def setParallelDirtyOwners (owners : List (String × String))
    (record : TaskExecutionStateRecord) : TaskExecutionStateRecord :=
  let others := record.scheduler.filter fun entry => entry.1 ≠ "parallel_dirty_owners"
  { record with
    scheduler :=
      if owners = [] then
        others
      else
        others ++ [("parallel_dirty_owners",
          .object (owners.map fun owner => (owner.1, .string owner.2)))] }

def releaseParallelDirtyOwnership (packageId : String)
    (record : TaskExecutionStateRecord) : TaskExecutionStateRecord :=
  let owners := parallelDirtyOwners record
  let updated := owners.filter fun owner => owner.2 ≠ packageId
  if updated ≠ owners then setParallelDirtyOwners updated record else record

def markPackageCompleted : StageProgram Unit := do
  let package ← currentPackage
  changePackage fun package =>
    { package with
      stage := .completed
      status := "completed" }
  let session ← Stateful.read
  changeRecord fun record =>
    releaseParallelDirtyOwnership package.id
      { record with completedPackages := session.graph.completedCount }
  emit (.stageTransition package.stage .completed)

/-! ## Agents -/

def selectAgent (capability : AgentCapability) (excluded : List String)
    (preferenceRole : String) : StageProgram (Option String) := do
  let moment ← observe host
  let package ← currentPackage
  return selectAgentForCapability host.slots moment package capability excluded
    preferenceRole

def ineligibilityReason (agentId : String) (capability : AgentCapability)
    (excluded : List String) : StageProgram String := do
  let moment ← observe host
  return agentIneligibilityReason host.slots moment agentId capability excluded

end Operations

/-! ## What work inside of a stage leaves alone -/

/-- How far a package has come. -/
structure Progress where
  id : String
  kind : WorkPackageKind
  parentId : String
  dependencies : List String
  executionMode : String
  stage : WorkPackageStage
  status : String
  verificationAttempts : Int
  reviewCycles : Int
  reviewRecoveryCycles : Int
  decompositionStatus : String
  decompositionOriginStage : String
  decompositionRequired : Bool

def WorkPackage.progress (package : WorkPackage) : Progress :=
  { id := package.id
    kind := package.kind
    parentId := package.parentId
    dependencies := package.dependencies
    executionMode := package.executionMode
    stage := package.stage
    status := package.status
    verificationAttempts := package.runtime.verificationAttempts
    reviewCycles := package.runtime.reviewCycles
    reviewRecoveryCycles := package.runtime.reviewRecoveryCycles
    decompositionStatus := package.runtime.decompositionStatus
    decompositionOriginStage := package.runtime.decompositionOriginStage
    decompositionRequired := package.runtime.decompositionRequired }

/-- Only roles, summaries, waits and the state of the task have changed. -/
structure Steady (before after : StageSession) : Prop where
  progress : after.package.progress = before.package.progress
  milestones : after.milestones = before.milestones
  planGraph : after.record.planGraph = before.record.planGraph
  completedPackages : after.record.completedPackages = before.record.completedPackages
  totalPackages : after.record.totalPackages = before.record.totalPackages

namespace Steady

theorem refl (session : StageSession) : Steady session session :=
  ⟨rfl, rfl, rfl, rfl, rfl⟩

theorem trans {first second third : StageSession} (one : Steady first second)
    (two : Steady second third) : Steady first third :=
  ⟨two.progress.trans one.progress, two.milestones.trans one.milestones,
    two.planGraph.trans one.planGraph, two.completedPackages.trans one.completedPackages,
    two.totalPackages.trans one.totalPackages⟩

theorem stage {before after : StageSession} (steady : Steady before after) :
    after.package.stage = before.package.stage :=
  congrArg Progress.stage steady.progress

end Steady

/-- A program that is steady from every session on. -/
abbrev IsSteady {Value : Type} (program : StageProgram Value) : Prop :=
  Stateful.Within Steady program

section IsSteady

variable {host : Host} {Value Other : Type}

theorem isSteady_pure (value : Value) : IsSteady (pure value) :=
  Stateful.within_pure Steady.refl

theorem isSteady_raise (signal : StageSignal) :
    IsSteady (Stateful.raise signal : StageProgram Value) :=
  Stateful.within_raise Steady.refl

theorem isSteady_read : IsSteady (Stateful.read : StageProgram StageSession) :=
  Stateful.within_read Steady.refl

theorem isSteady_bind {first : StageProgram Value} {next : Value → StageProgram Other}
    (begins : IsSteady first) (goes : ∀ value, IsSteady (next value)) :
    IsSteady (first >>= next) := by
  have transitive : ∀ first second third, Steady first second → Steady second third →
      Steady first third := fun _ _ _ => Steady.trans
  exact Stateful.within_bind transitive begins goes

theorem isSteady_ite {condition : Prop} [Decidable condition]
    {program other : StageProgram Value} (first : IsSteady program)
    (second : IsSteady other) : IsSteady (if condition then program else other) :=
  Stateful.within_ite first second

theorem isSteady_whenever {condition : Prop} [Decidable condition]
    {program : StageProgram Unit} (steady : IsSteady program) :
    IsSteady (whenever condition program) :=
  isSteady_ite steady (isSteady_pure ())

theorem isSteady_observe : IsSteady (observe host) :=
  fun _ => ⟨rfl, rfl, rfl, rfl, rfl⟩

theorem isSteady_currentPackage : IsSteady currentPackage :=
  isSteady_bind isSteady_read fun _ => isSteady_pure _

theorem isSteady_changePackage {update : WorkPackage → WorkPackage}
    (kept : ∀ package : WorkPackage, (update package).progress = package.progress) :
    IsSteady (changePackage update) :=
  fun session => ⟨kept session.package, rfl, rfl, rfl, rfl⟩

theorem milestones_emit (event : StageEvent) (session : StageSession) :
    (emit event session).2.milestones =
      session.milestones ++ [event].filter StageEvent.isMilestone :=
  List.filter_append _ _

theorem isSteady_emit {event : StageEvent} (silent : event.isMilestone = false) :
    IsSteady (emit event) := by
  intro session
  refine ⟨rfl, ?_, rfl, rfl, rfl⟩
  rw [milestones_emit, List.filter_cons_of_neg (by rw [silent]; exact Bool.false_ne_true),
    List.filter_nil, List.append_nil]

theorem isSteady_changeRecord
    {update : TaskExecutionStateRecord → TaskExecutionStateRecord}
    (planGraph : ∀ record, (update record).planGraph = record.planGraph)
    (completed : ∀ record, (update record).completedPackages = record.completedPackages)
    (total : ∀ record, (update record).totalPackages = record.totalPackages) :
    IsSteady (changeRecord update) :=
  fun session =>
    ⟨rfl, rfl, planGraph session.record, completed session.record, total session.record⟩

theorem isSteady_moveTask (newState : TaskExecutionState) :
    IsSteady (moveTask host newState) := by
  refine isSteady_bind isSteady_observe fun moment =>
    isSteady_bind isSteady_read fun session => ?_
  cases validateTaskExecutionTransition session.record.state newState with
  | error error => exact isSteady_bind (isSteady_emit rfl) fun _ => isSteady_raise _
  | ok _ =>
      exact isSteady_bind
        (isSteady_changeRecord (fun _ => rfl) (fun _ => rfl) (fun _ => rfl))
        fun _ => isSteady_emit rfl

theorem isSteady_requestIntervention : IsSteady (requestIntervention host) :=
  isSteady_bind (isSteady_emit rfl) fun _ => isSteady_moveTask _

theorem isSteady_escalate : IsSteady (escalate host : StageProgram Value) :=
  isSteady_bind isSteady_requestIntervention fun _ => isSteady_raise _

theorem isSteady_refreshWaits : IsSteady (refreshWaits host) :=
  isSteady_bind isSteady_observe fun _ => fun _ => ⟨rfl, rfl, rfl, rfl, rfl⟩

theorem isSteady_clearAgentWait : IsSteady (clearAgentWait host) :=
  isSteady_bind isSteady_read fun _ =>
    isSteady_ite
      (isSteady_bind (isSteady_changeRecord (fun _ => rfl) (fun _ => rfl) fun _ => rfl)
        fun _ => isSteady_refreshWaits)
      (isSteady_pure _)

theorem isSteady_selectAgent {capability : AgentCapability} {excluded : List String}
    {role : String} : IsSteady (selectAgent host capability excluded role) :=
  isSteady_bind isSteady_observe fun _ =>
    isSteady_bind isSteady_currentPackage fun _ => isSteady_pure _

theorem isSteady_ineligibilityReason {agentId : String} {capability : AgentCapability}
    {excluded : List String} :
    IsSteady (ineligibilityReason host agentId capability excluded) :=
  isSteady_bind isSteady_observe fun _ => isSteady_pure _

end IsSteady

end Execraft.Orchestrate
