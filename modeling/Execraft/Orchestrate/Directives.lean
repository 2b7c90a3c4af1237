import Execraft.Foundation.Keyed
import Execraft.Foundation.Outcome
import Execraft.Foundation.Python
import Execraft.Orchestrate.PlanGraph

/-!
# The directive queue

Requests of operators for single work packages, kept beside the state of the task
execution until it applies them.
-/

namespace Execraft.Orchestrate

open Foundation

inductive DirectiveKind where
  | pauseBeforeStart
  | pauseForRepositorySync
  | requireDecomposition
  deriving DecidableEq, Repr

inductive DirectiveStatus where
  | pending
  | applied
  | rejected
  | superseded
  deriving DecidableEq, Repr

namespace DirectiveKind

def value : DirectiveKind → String
  | pauseBeforeStart => "pause_before_start"
  | pauseForRepositorySync => "pause_for_repository_sync"
  | requireDecomposition => "require_decomposition"

def ofValue? (text : String) : Option DirectiveKind :=
  [pauseBeforeStart, pauseForRepositorySync, requireDecomposition].find? fun kind =>
    kind.value = text

end DirectiveKind

structure WorkPackageDirectiveError where
  message : String
  deriving DecidableEq, Repr

/-- One request of an operator. -/
structure WorkPackageDirectiveCommand where
  id : String
  packageId : String
  kind : DirectiveKind
  enabled : Bool
  reason : String := ""
  requestedAt : String := ""
  requestedBy : String := "operator"
  status : DirectiveStatus := .pending
  resolvedAt : String := ""
  result : String := ""
  error : String := ""
  parameters : Row := []

namespace WorkPackageDirectiveCommand

/-- A new command; `commandId` and `now` are the identity and the time it receives. -/
def create (py : Python) (commandId now packageId kind : String) (enabled : Bool)
    (reason requestedBy : String) (parameters : Row) :
    Except WorkPackageDirectiveError WorkPackageDirectiveCommand :=
  if stripString packageId = "" then
    .error ⟨"package_id is required"⟩
  else
    match DirectiveKind.ofValue? (stripString kind) with
    | none =>
        .error ⟨"unsupported Work Package directive kind: " ++ py.repr (stripString kind)⟩
    | some directive =>
        .ok {
          id := commandId
          packageId := stripString packageId
          kind := directive
          enabled := enabled
          reason := stripString reason
          requestedAt := now
          requestedBy :=
            if stripString requestedBy = "" then "operator" else stripString requestedBy
          parameters := parameters }

theorem create_eq_ok {py : Python} {commandId now packageId kind : String} {enabled : Bool}
    {reason requestedBy : String} {parameters : Row} {command : WorkPackageDirectiveCommand}
    (created : create py commandId now packageId kind enabled reason requestedBy parameters =
      .ok command) :
    command.id = commandId ∧ command.status = .pending := by
  unfold create at created
  by_cases missing : stripString packageId = ""
  · rw [if_pos missing] at created
    cases created
  · rw [if_neg missing] at created
    cases known : DirectiveKind.ofValue? (stripString kind) with
    | none =>
        rw [known] at created
        cases created
    | some directive =>
        rw [known] at created
        cases created
        exact ⟨rfl, rfl⟩

end WorkPackageDirectiveCommand

abbrev WorkPackageDirectiveQueue := List WorkPackageDirectiveCommand

namespace WorkPackageDirectiveQueue

def ids (queue : WorkPackageDirectiveQueue) : List String :=
  queue.map WorkPackageDirectiveCommand.id

def historyLimit : Nat := 200

/-- The pending commands and the last resolved ones. -/
def retained (commands : WorkPackageDirectiveQueue) : WorkPackageDirectiveQueue :=
  let pending := commands.filter fun item => item.status = .pending
  let resolved := commands.filter fun item => item.status ≠ .pending
  let retainedIds :=
    (pending ++ resolved.drop (resolved.length - historyLimit)).map
      WorkPackageDirectiveCommand.id
  commands.filter fun item => item.id ∈ retainedIds

/-- A pending command gives way to a newer one for its package and kind. -/
def supersedeBy (command : WorkPackageDirectiveCommand) (now : String)
    (item : WorkPackageDirectiveCommand) : WorkPackageDirectiveCommand :=
  if item.status = .pending ∧ item.packageId = command.packageId ∧
      item.kind = command.kind then
    { item with
      status := .superseded
      resolvedAt := now
      result := "superseded by " ++ command.id }
  else
    item

def enqueue (command : WorkPackageDirectiveCommand) (now : String)
    (queue : WorkPackageDirectiveQueue) : WorkPackageDirectiveQueue :=
  retained (queue.map (supersedeBy command now) ++ [command])

def pending (queue : WorkPackageDirectiveQueue) : List WorkPackageDirectiveCommand :=
  queue.filter fun item => item.status = .pending

def resolveItem (commandId : String) (status : DirectiveStatus)
    (result error now : String) (item : WorkPackageDirectiveCommand) :
    WorkPackageDirectiveCommand :=
  if item.id = commandId ∧ item.status = .pending then
    { item with
      status := status
      resolvedAt := now
      result := stripString result
      error := stripString error }
  else
    item

/-- The queue with one command resolved, when it is still pending. -/
def resolve (commandId : String) (status : DirectiveStatus) (result error now : String)
    (queue : WorkPackageDirectiveQueue) : WorkPackageDirectiveQueue :=
  if ∃ item ∈ queue, item.id = commandId ∧ item.status = .pending then
    retained (queue.map (resolveItem commandId status result error now))
  else
    queue

/-! ## What the operations keep -/

theorem retained_sublist (commands : WorkPackageDirectiveQueue) :
    List.Sublist (retained commands) commands :=
  List.filter_sublist

theorem mem_retained_of_pending {commands : WorkPackageDirectiveQueue}
    {item : WorkPackageDirectiveCommand} (member : item ∈ commands)
    (waiting : item.status = .pending) : item ∈ retained commands := by
  refine List.mem_filter.mpr ⟨member, decide_eq_true ?_⟩
  rw [List.map_append, List.mem_append]
  refine Or.inl (List.mem_map.mpr ⟨item, ?_, rfl⟩)
  exact List.mem_filter.mpr ⟨member, decide_eq_true waiting⟩

theorem supersedeBy_id (command : WorkPackageDirectiveCommand) (now : String)
    (item : WorkPackageDirectiveCommand) : (supersedeBy command now item).id = item.id := by
  unfold supersedeBy
  by_cases stale : item.status = .pending ∧ item.packageId = command.packageId ∧
      item.kind = command.kind
  · rw [if_pos stale]
  · rw [if_neg stale]

theorem resolveItem_id (commandId : String) (status : DirectiveStatus)
    (result error now : String) (item : WorkPackageDirectiveCommand) :
    (resolveItem commandId status result error now item).id = item.id := by
  unfold resolveItem
  by_cases chosen : item.id = commandId ∧ item.status = .pending
  · rw [if_pos chosen]
  · rw [if_neg chosen]

theorem nodup_ids_enqueue {command : WorkPackageDirectiveCommand} {now : String}
    {queue : WorkPackageDirectiveQueue} (unique : queue.ids.Nodup)
    (fresh : command.id ∉ queue.ids) : (enqueue command now queue).ids.Nodup := by
  have shape : ((queue.map (supersedeBy command now) ++ [command]).map
      WorkPackageDirectiveCommand.id) = queue.ids ++ [command.id] := by
    rw [List.map_append, List.map_map]
    congr 1
    exact List.map_congr_left fun item _ => supersedeBy_id command now item
  have whole : (queue.ids ++ [command.id]).Nodup :=
    List.nodup_append.mpr ⟨unique, List.nodup_singleton _, by
      intro left leftMember right rightMember same
      rw [List.mem_singleton] at rightMember
      rw [same, rightMember] at leftMember
      exact fresh leftMember⟩
  rw [← shape] at whole
  exact ((retained_sublist _).map _).nodup whole

theorem nodup_ids_resolve {commandId : String} {status : DirectiveStatus}
    {result error now : String} {queue : WorkPackageDirectiveQueue}
    (unique : queue.ids.Nodup) :
    (resolve commandId status result error now queue).ids.Nodup := by
  unfold resolve
  by_cases present : ∃ item ∈ queue, item.id = commandId ∧ item.status = .pending
  · rw [if_pos present]
    have shape : ((queue.map (resolveItem commandId status result error now)).map
        WorkPackageDirectiveCommand.id) = queue.ids := by
      rw [List.map_map]
      exact List.map_congr_left fun item _ =>
        resolveItem_id commandId status result error now item
    rw [← shape] at unique
    exact ((retained_sublist _).map _).nodup unique
  · rw [if_neg present]
    exact unique

/-- A command of the queue after a new one was enqueued was there before, with the status it
had or superseded, or is the new one. -/
theorem mem_enqueue {command item : WorkPackageDirectiveCommand} {now : String}
    {queue : WorkPackageDirectiveQueue} (member : item ∈ enqueue command now queue)
    (current : item.status ≠ .superseded) : item ∈ queue ∨ item = command := by
  have listed := (retained_sublist _).subset member
  rw [List.mem_append, List.mem_singleton] at listed
  rcases listed with old | new
  · obtain ⟨before, present, shape⟩ := List.mem_map.mp old
    unfold supersedeBy at shape
    by_cases stale : before.status = .pending ∧ before.packageId = command.packageId ∧
        before.kind = command.kind
    · rw [if_pos stale] at shape
      rw [← shape] at current
      exact absurd rfl current
    · rw [if_neg stale] at shape
      rw [← shape]
      exact Or.inl present
  · exact Or.inr new

/-- A command of the queue after a resolution was there before, or is the resolved one. -/
theorem mem_resolve {commandId : String} {status : DirectiveStatus}
    {result error now : String} {queue : WorkPackageDirectiveQueue}
    {item : WorkPackageDirectiveCommand}
    (member : item ∈ resolve commandId status result error now queue) :
    item ∈ queue ∨ ∃ before ∈ queue, before.id = commandId ∧ before.status = .pending ∧
      item = resolveItem commandId status result error now before := by
  unfold resolve at member
  by_cases present : ∃ other ∈ queue, other.id = commandId ∧ other.status = .pending
  · rw [if_pos present] at member
    obtain ⟨before, old, shape⟩ :=
      List.mem_map.mp ((retained_sublist _).subset member)
    by_cases chosen : before.id = commandId ∧ before.status = .pending
    · exact Or.inr ⟨before, old, chosen.1, chosen.2, shape.symm⟩
    · unfold resolveItem at shape
      rw [if_neg chosen] at shape
      rw [← shape]
      exact Or.inl old
  · rw [if_neg present] at member
    exact Or.inl member

end WorkPackageDirectiveQueue

end Execraft.Orchestrate
