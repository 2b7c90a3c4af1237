import Execraft.Orchestrate.DirectiveApplication

/-!
# The waiting slot

One slot of the record shows the next provider wait or the boundary that an operator
asked for.
-/

namespace Execraft.Orchestrate

open Foundation Foundation.Json

/-- The kinds of the boundaries that belong to an operator. -/
def operatorPauseKinds : List String :=
  [DirectiveKind.pauseBeforeStart.value, DirectiveKind.pauseForRepositorySync.value,
    "pause_after_completion"]

def isAgentWaitSummary (waiting : Row) : Bool :=
  if waiting = [] ∨ truthy (waiting.get "kind" .null) = true then
    false
  else
    truthy (waiting.get "package_id" .null) &&
      (truthy (waiting.get "capability" .null) ||
        truthy (waiting.get "next_check_at" .null) ||
        truthy (waiting.get "candidates" .null) ||
        truthy (waiting.get "attempts" .null))

/-- The members of a wait; anything but a mapping counts as empty. -/
def membersOf : Json → Row
  | .object fields => fields
  | _ => []

/-- The provider waits of packages that are there and unfinished. -/
def liveAgentWaits (graph : PlanGraph) (agentWaits : Row) : Row :=
  agentWaits.filter fun wait =>
    match graph.packageById wait.1 with
    | .error _ => false
    | .ok package =>
        package.stage ≠ .completed &&
          !truthy ((membersOf wait.2).get "kind" .null)

/-- The reconciled waits and slot; `nextAgentWait` chooses the wait that ends first. -/
def reconcileWaitSummary (nextAgentWait : Row → Row) (agentWaits currentWaiting : Row)
    (projectState : TaskExecutionState) (graph : PlanGraph) : Row × Row :=
  let live := liveAgentWaits graph agentWaits
  let currentIsAgent := isAgentWaitSummary currentWaiting
  if live = [] then
    let operatorPause := operatorPauseKinds.any fun kind =>
      currentWaiting.get "kind" .null = .string kind
    if currentIsAgent = true ∨ projectState = .waitingForAgent ∨
        (operatorPause = true ∧ projectState ≠ .operatorPaused) then
      (live, [])
    else
      (live, currentWaiting)
  else if currentWaiting = [] ∨ currentIsAgent = true ∨ projectState = .waitingForAgent then
    (live, nextAgentWait live)
  else
    (live, currentWaiting)

def refreshWaitSummary (nextAgentWait : Row → Row) (record : TaskExecutionStateRecord) :
    TaskExecutionStateRecord :=
  let summary := reconcileWaitSummary nextAgentWait record.agentWaits record.waiting
    record.state record.planGraph
  { record with
    agentWaits := summary.1
    waiting := summary.2 }

theorem isAgentWaitSummary_of_waitsForSync {waiting : Row} (sync : WaitsForSync waiting) :
    isAgentWaitSummary waiting = false := by
  unfold isAgentWaitSummary
  rw [if_pos (Or.inr (by rw [sync]; rfl))]

/-- Housekeeping leaves the boundary of a synchronization alone. -/
theorem refreshWaitSummary_keeps {nextAgentWait : Row → Row}
    {record : TaskExecutionStateRecord} (sync : WaitsForSync record.waiting)
    (paused : record.state = .operatorPaused) :
    (refreshWaitSummary nextAgentWait record).waiting = record.waiting := by
  have notAgent := isAgentWaitSummary_of_waitsForSync sync
  have nonempty : record.waiting ≠ [] := by
    intro empty
    rw [WaitsForSync, empty] at sync
    cases sync
  unfold refreshWaitSummary reconcileWaitSummary
  dsimp only
  rw [notAgent, paused]
  by_cases none : liveAgentWaits record.planGraph record.agentWaits = []
  · rw [if_pos none, if_neg (by simp)]
  · rw [if_neg none, if_neg (by simp [nonempty])]

end Execraft.Orchestrate
