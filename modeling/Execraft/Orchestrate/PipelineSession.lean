import Execraft.Orchestrate.DirectiveApplication
import Execraft.Orchestrate.PackageStage

/-!
# Driving a whole plan

One call of the pipeline works on the record of the task execution.  What it does to one
package is a program for that package, taken out of the plan graph and put back.
-/

namespace Execraft.Orchestrate

open Foundation Foundation.Json

/-- The journal of one call; the entries about a package carry its identity. -/
inductive PipelineEvent where
  | inPackage (packageId : String) (event : StageEvent)
  | taskTransition (fromState toState : TaskExecutionState)
  | transitionRefused (fromState toState : TaskExecutionState)
  | packageSelected (packageId : String)
  | packageRequeued (packageId : String)
  | waveStarted (packageIds : List String)
  | waveFinished (packageIds : List String)
  | waveInterrupted
  | humanInterventionRequired
  deriving DecidableEq, Repr

structure PipelineSession where
  record : TaskExecutionStateRecord
  events : List PipelineEvent := []
  clock : Nat := 0

abbrev PipelineProgram (Value : Type) := Stateful PipelineSession StageSignal Value

namespace Pipeline

variable (host : Host)

def observe : PipelineProgram Moment :=
  fun session =>
    (.ok (host.surroundings session.clock),
      { session with clock := session.clock + 1 })

def changeRecord (update : TaskExecutionStateRecord → TaskExecutionStateRecord) :
    PipelineProgram Unit :=
  Stateful.modify fun session => { session with record := update session.record }

def emit (event : PipelineEvent) : PipelineProgram Unit :=
  Stateful.modify fun session => { session with events := session.events ++ [event] }

def whenever (condition : Prop) [Decidable condition] (program : PipelineProgram Unit) :
    PipelineProgram Unit :=
  if condition then program else pure ()

def transitionTo (newState : TaskExecutionState) : PipelineProgram Unit := do
  let moment ← observe host
  let session ← Stateful.read
  match validateTaskExecutionTransition session.record.state newState with
  | .error error => do
      emit (.transitionRefused session.record.state newState)
      Stateful.raise (.failed error)
  | .ok _ => do
      changeRecord fun record =>
        { record with
          state := newState
          lastTransitionAt := moment.now }
      emit (.taskTransition session.record.state newState)

/-- The package taken out of the record for a program of its own. -/
def focus (session : PipelineSession) (package : WorkPackage) : StageSession :=
  { package := package
    record := session.record
    clock := session.clock }

/-- The record with the package back in its plan graph. -/
def unfocus (packageId : String) (session : PipelineSession) (after : StageSession) :
    PipelineSession :=
  { record := { after.record with planGraph := after.graph }
    events := session.events ++ after.events.map (.inPackage packageId)
    clock := after.clock }

/-- Run a program for one package of the plan. -/
def onPackage {Value : Type} (packageId : String) (program : StageProgram Value) :
    PipelineProgram Value :=
  fun session =>
    match session.record.planGraph.packageById packageId with
    | .error error => (.error (.failed error), session)
    | .ok package =>
        let ended := program (focus session package)
        (ended.1, unfocus packageId session ended.2)

def currentGraph : PipelineProgram PlanGraph := do
  let session ← Stateful.read
  return session.record.planGraph

/-- One program after the other. -/
def eachOf {Element : Type} (program : Element → PipelineProgram Unit) :
    List Element → PipelineProgram Unit
  | [] => pure ()
  | element :: rest => do
      program element
      eachOf program rest

end Pipeline

end Execraft.Orchestrate
