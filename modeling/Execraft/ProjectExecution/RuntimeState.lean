import Execraft.Foundation.Dict
import Execraft.ProjectExecution.Models

/-!
# Durable runtime state

`ProjectExecutionRuntimeState` with the dictionaries that its rows are.
-/

namespace Execraft.ProjectExecution

open Foundation Foundation.Json

/-! ## Rows -/

/-- A mutable `dict[str, Any]`. -/
abbrev Row := List (String × Json)

namespace Row

/-- `row.get(name, default)`. -/
def get (row : Row) (name : String) (default : Json) : Json :=
  (getEntry name row).getD default

/-- `row[name] = value`. -/
def set (row : Row) (name : String) (value : Json) : Row :=
  setEntry name value row

/-- `row.update(changes)`. -/
def update (row changes : Row) : Row :=
  changes.foldl (fun row change => row.set change.1 change.2) row

@[simp]
theorem get_set_self (row : Row) (name : String) (value default : Json) :
    (row.set name value).get name default = value := by
  rw [get, set, getEntry_setEntry_self]
  rfl

theorem get_set_ne (row : Row) {name other : String} (different : other ≠ name)
    (value default : Json) :
    (row.set name value).get other default = row.get other default := by
  rw [get, set, getEntry_setEntry_ne different]
  rfl

@[simp]
theorem get_nil (name : String) (default : Json) : get [] name default = default :=
  rfl

@[simp]
theorem get_cons (key name : String) (value default : Json) (rest : Row) :
    get ((key, value) :: rest) name default =
      if key = name then value else get rest name default := by
  rw [get, getEntry]
  by_cases same : key = name
  · rw [if_pos same, if_pos same]
    rfl
  · rw [if_neg same, if_neg same]
    rfl

/-- Assigning the text that is there changes nothing. -/
theorem set_of_get {row : Row} {name text : String}
    (stored : row.get name .null = .string text) : row.set name (.string text) = row := by
  unfold get at stored
  cases found : getEntry name row with
  | none =>
      rw [found] at stored
      cases stored
  | some value =>
      rw [found] at stored
      rw [set, ← stored]
      exact setEntry_of_getEntry found

/-- A text that is there does not depend on the default. -/
theorem get_of_get_null {row : Row} {name text : String}
    (stored : row.get name .null = .string text) (default : Json) :
    row.get name default = .string text := by
  unfold get at stored ⊢
  cases found : getEntry name row with
  | none =>
      rw [found] at stored
      cases stored
  | some value =>
      rw [found] at stored
      exact stored

theorem get_update_of_notMem {row changes : Row} {name : String}
    (untouched : name ∉ changes.map Prod.fst) (default : Json) :
    (row.update changes).get name default = row.get name default := by
  induction changes generalizing row with
  | nil => rfl
  | cons head tail inductionHypothesis =>
      rw [List.map_cons, List.mem_cons, not_or] at untouched
      rw [update, List.foldl_cons]
      have rest := @inductionHypothesis (row.set head.1 head.2) untouched.2
      rw [update] at rest
      rw [rest, get_set_ne row untouched.1]

theorem get_update_cons_self {row changes : Row} {name : String}
    (untouched : name ∉ changes.map Prod.fst) (value default : Json) :
    (row.update ((name, value) :: changes)).get name default = value := by
  have later : ((row.set name value).update changes).get name default =
      (row.set name value).get name default :=
    get_update_of_notMem untouched default
  rw [get_set_self] at later
  exact later

end Row

/-- `row.get(name) or {}`, kept when it is a dictionary. -/
def subRow (row : Row) (name : String) : Option Row :=
  let value := row.get name .null
  if truthy value then
    match value with
    | .object fields => some fields
    | _ => none
  else some []

/-! ## Stored values of enumerations -/

inductive GateState where
  | waiting
  | ready
  | evaluating
  | awaitingDecision
  | passed
  | failed
  | waived
  | cancelled
  deriving DecidableEq, Repr

def GateState.value : GateState → String
  | waiting => "waiting"
  | ready => "ready"
  | evaluating => "evaluating"
  | awaitingDecision => "awaiting_decision"
  | passed => "passed"
  | failed => "failed"
  | waived => "waived"
  | cancelled => "cancelled"

inductive PhaseState where
  | planned
  | ready
  | active
  | complete
  | cancelled
  deriving DecidableEq, Repr

def PhaseState.value : PhaseState → String
  | planned => "planned"
  | ready => "ready"
  | active => "active"
  | complete => "complete"
  | cancelled => "cancelled"

/-! ## The state -/

structure ProjectExecutionRuntimeState where
  projectId : String
  definitionRevision : Int
  definitionDigest : String
  mode : String
  held : Bool
  holdReason : String
  gates : Dict Row
  milestoneAchievements : Dict Row
  cancelledPhases : List String
  cancelledGates : List String
  cancelledMilestones : List String
  observedTasks : Dict Row
  intents : Dict Row
  executor : Row

namespace ProjectExecutionRuntimeState

/-- The state of a project without a state file. -/
def fresh (projectId : String) : ProjectExecutionRuntimeState where
  projectId := projectId
  definitionRevision := 0
  definitionDigest := ""
  mode := ExecutionMode.assisted.value
  held := false
  holdReason := ""
  gates := Dict.empty
  milestoneAchievements := Dict.empty
  cancelledPhases := []
  cancelledGates := []
  cancelledMilestones := []
  observedTasks := Dict.empty
  intents := Dict.empty
  executor := []

/-- `runtime.gates[gate_id] = row`. -/
def setGate (runtime : ProjectExecutionRuntimeState) (gateId : String) (row : Row) :
    ProjectExecutionRuntimeState :=
  { runtime with gates := runtime.gates.set gateId row }

/-- `runtime.gates.get(gate_id, {})`. -/
def gateRow (runtime : ProjectExecutionRuntimeState) (gateId : String) : Row :=
  (runtime.gates.get? gateId).getD []

/-- `runtime.intents[intent_id] = intent`. -/
def setIntent (runtime : ProjectExecutionRuntimeState) (intentId : String)
    (intent : Row) : ProjectExecutionRuntimeState :=
  { runtime with intents := runtime.intents.set intentId intent }

@[simp]
theorem gateRow_setGate_self (runtime : ProjectExecutionRuntimeState)
    (gateId : String) (row : Row) : (runtime.setGate gateId row).gateRow gateId = row := by
  simp [gateRow, setGate]

theorem gateRow_setGate_ne (runtime : ProjectExecutionRuntimeState)
    {gateId other : String} (different : other ≠ gateId) (row : Row) :
    (runtime.setGate gateId row).gateRow other = runtime.gateRow other := by
  simp only [gateRow, setGate, runtime.gates.get?_set_ne different]

/-- Writing back the row that is there changes nothing. -/
theorem setGate_of_get? {runtime : ProjectExecutionRuntimeState} {gateId : String}
    {row : Row} (found : runtime.gates.get? gateId = some row) :
    runtime.setGate gateId row = runtime := by
  rw [setGate, Dict.set_of_get? found]

theorem gateRow_of_get? {runtime : ProjectExecutionRuntimeState} {gateId : String}
    {row : Row} (found : runtime.gates.get? gateId = some row) :
    runtime.gateRow gateId = row := by
  rw [gateRow, found, Option.getD_some]

end ProjectExecutionRuntimeState

end Execraft.ProjectExecution
