import Execraft.ProjectExecution.EngineFrame

/-!
# Unresolved start intents

Which unresolved start intents a runtime state holds, and how a new intent, a
retried one and a resolved one change that.
-/

namespace Execraft.ProjectExecution

open Foundation Foundation.Json ProjectExecutionEngine

/-- Under the identifier stands a start intent of the Task that is neither
resolved, failed nor superseded. -/
def Unresolved (intents : Dict Row) (taskId intentId : String) : Prop :=
  ∃ row, intents.get? intentId = some row ∧ unresolvedStart row = true ∧
    row.get "task_id" .null = .string taskId

/-- A start intent of the Task. -/
structure StartOf (taskId : String) (row : Row) : Prop where
  kind : row.get "kind" .null = .string "start_task"
  task : row.get "task_id" .null = .string taskId

/-- Unresolved start intents name their Task in their identifier. -/
def WellKeyed (intents : Dict Row) : Prop :=
  ∀ intentId row, intents.get? intentId = some row → unresolvedStart row = true →
    ∃ taskId suffix, intentId = newIntentId taskId suffix ∧ suffix.length = 12 ∧
      row.get "task_id" .null = .string taskId

/-- No other unresolved start intent of the Task. -/
def Only (intents : Dict Row) (taskId intentId : String) : Prop :=
  ∀ other, Unresolved intents taskId other → other = intentId

/-- At most one unresolved start intent a Task. -/
def Single (intents : Dict Row) : Prop :=
  ∀ taskId first second, Unresolved intents taskId first →
    Unresolved intents taskId second → first = second

/-- The unresolved start intents of other Tasks are the same. -/
def OthersKept (taskId : String) (before after : Dict Row) : Prop :=
  ∀ other, other ≠ taskId → ∀ intentId,
    Unresolved after other intentId ↔ Unresolved before other intentId

theorem OthersKept.trans {taskId : String} {before middle after : Dict Row}
    (first : OthersKept taskId before middle)
    (second : OthersKept taskId middle after) :
    OthersKept taskId before after := by
  intro other different intentId
  rw [second other different intentId, first other different intentId]

/-! ## Rows -/

theorem unresolvedStart_iff {row : Row} :
    unresolvedStart row = true ↔ row.get "kind" .null = .string "start_task" ∧
      row.get "status" .null ∉ RESOLVED_INTENT_STATES := by
  unfold unresolvedStart
  simp

theorem intentTask_of_task {py : Python} {row : Row} {taskId : String}
    (task : row.get "task_id" .null = .string taskId) :
    intentTask py row = taskId := by
  rw [intentTask, Row.get_of_get_null task]
  rfl

theorem StartOf.update {taskId : String} {row changes : Row}
    (start : StartOf taskId row) (kindKept : "kind" ∉ changes.map Prod.fst)
    (taskKept : "task_id" ∉ changes.map Prod.fst) :
    StartOf taskId (row.update changes) := by
  constructor
  · rw [Row.get_update_of_notMem kindKept]
    exact start.kind
  · rw [Row.get_update_of_notMem taskKept]
    exact start.task

theorem StartOf.set {taskId name : String} {row : Row} (start : StartOf taskId row)
    (value : Json) (kindKept : "kind" ≠ name) (taskKept : "task_id" ≠ name) :
    StartOf taskId (row.set name value) := by
  constructor
  · rw [Row.get_set_ne row kindKept]
    exact start.kind
  · rw [Row.get_set_ne row taskKept]
    exact start.task

theorem newIntent_startOf (intentId taskId createdAt : String) :
    StartOf taskId (newIntent intentId taskId createdAt) := by
  constructor
  · simp [newIntent]
  · simp [newIntent]

/-! ## Identifiers -/

theorem newIntentId_inj {taskId other suffix ending : String}
    (sameLength : suffix.length = ending.length)
    (same : newIntentId taskId suffix = newIntentId other ending) :
    taskId = other := by
  have characters := congrArg String.toList same
  simp only [newIntentId, String.toList_append, List.append_assoc] at characters
  have tails := List.append_cancel_left characters
  rw [← List.append_assoc, ← List.append_assoc] at tails
  have fronts := (List.append_inj' tails sameLength).1
  exact String.toList_injective (List.append_inj' fronts rfl).1

/-! ## Setting a row -/

section Set

variable {intents : Dict Row} {taskId suffix : String} {row : Row}

theorem unresolved_set_self {intentId : String} :
    Unresolved (intents.set intentId row) taskId intentId ↔
      unresolvedStart row = true ∧ row.get "task_id" .null = .string taskId := by
  unfold Unresolved
  rw [intents.get?_set_self intentId row]
  constructor
  · intro unresolved
    obtain ⟨found, same, holds⟩ := unresolved
    rw [Option.some.inj same]
    exact holds
  · intro holds
    exact ⟨row, rfl, holds⟩

theorem unresolved_set_ne {intentId other : String} (different : other ≠ intentId) :
    Unresolved (intents.set intentId row) taskId other ↔
      Unresolved intents taskId other := by
  unfold Unresolved
  rw [intents.get?_set_ne different]

theorem WellKeyed.eq_of_unresolved (keyed : WellKeyed intents)
    (width : suffix.length = 12) {other : String}
    (unresolved : Unresolved intents other (newIntentId taskId suffix)) :
    other = taskId := by
  obtain ⟨found, stored, isOpen, task⟩ := unresolved
  obtain ⟨named, ending, sameId, sameWidth, names⟩ := keyed _ found stored isOpen
  rw [names] at task
  have sameTask := newIntentId_inj (width.trans sameWidth.symm) sameId
  rw [sameTask]
  exact (Json.string.inj task).symm

theorem WellKeyed.set (keyed : WellKeyed intents) (width : suffix.length = 12)
    (start : StartOf taskId row) :
    WellKeyed (intents.set (newIntentId taskId suffix) row) := by
  intro intentId found stored isOpen
  by_cases same : intentId = newIntentId taskId suffix
  · rw [same, Dict.get?_set_self, Option.some.injEq] at stored
    rw [← stored]
    exact ⟨taskId, suffix, same, width, start.task⟩
  · rw [Dict.get?_set_ne _ same] at stored
    exact keyed intentId found stored isOpen

theorem WellKeyed.othersKept_set (keyed : WellKeyed intents)
    (width : suffix.length = 12) (start : StartOf taskId row) :
    OthersKept taskId intents (intents.set (newIntentId taskId suffix) row) := by
  intro other different intentId
  by_cases same : intentId = newIntentId taskId suffix
  · rw [same, unresolved_set_self]
    constructor
    · intro holds
      rw [start.task] at holds
      exact absurd (Json.string.inj holds.2).symm different
    · intro unresolved
      exact absurd (keyed.eq_of_unresolved width unresolved) different
  · exact unresolved_set_ne same

theorem Only.set {intentId : String} (only : Only intents taskId intentId) :
    Only (intents.set intentId row) taskId intentId := by
  intro other unresolved
  by_cases same : other = intentId
  · exact same
  · rw [unresolved_set_ne same] at unresolved
    exact only other unresolved

end Set

theorem Single.of_othersKept {taskId intentId : String} {before after : Dict Row}
    (single : Single before) (others : OthersKept taskId before after)
    (only : Only after taskId intentId) : Single after := by
  intro named first second unresolved again
  by_cases same : named = taskId
  · rw [same] at unresolved again
    rw [only first unresolved, only second again]
  · rw [others named same] at unresolved again
    exact single named first second unresolved again

theorem Single.only {intents : Dict Row} (single : Single intents)
    {taskId intentId : String} (unresolved : Unresolved intents taskId intentId) :
    Only intents taskId intentId := by
  intro other again
  exact single taskId other intentId again unresolved

/-! ## A new intent -/

/-- A pending start intent of the Task. -/
structure PendingStart (taskId : String) (row : Row) : Prop extends
    StartOf taskId row where
  status : row.get "status" .null = .string "pending"

theorem PendingStart.unresolved {taskId : String} {row : Row}
    (pending : PendingStart taskId row) : unresolvedStart row = true := by
  rw [unresolvedStart_iff, pending.kind, pending.status]
  constructor
  · rfl
  · decide

/-- The intent that is retried is the unresolved one of the Task. -/
def Retries (intents : Dict Row) (taskId : String) :
    Option (String × Row) → Prop
  | none => True
  | some (oldId, old) => intents.get? oldId = some old ∧
      unresolvedStart old = true ∧ old.get "task_id" .null = .string taskId

theorem superseded_not_unresolved (old : Row) (intentId : String) :
    unresolvedStart ((old.set "status" (.string "superseded")).set
      "superseded_by" (.string intentId)) = false := by
  rw [← Bool.not_eq_true, unresolvedStart_iff]
  intro both
  apply both.2
  rw [Row.get_set_ne _ (by decide), Row.get_set_self]
  decide

/-- What stands under the identifier of a new intent. -/
theorem addIntent_pending (intents : Dict Row) (intentId taskId createdAt : String)
    (retryOf : Option (String × Row)) :
    ∃ row, (addIntent intents intentId (newIntent intentId taskId createdAt)
        retryOf).get? intentId = some row ∧ PendingStart taskId row := by
  have start := newIntent_startOf intentId taskId createdAt
  have status : (newIntent intentId taskId createdAt).get "status" .null =
      .string "pending" := by
    simp [newIntent]
  cases retryOf with
  | none =>
      refine ⟨_, Dict.get?_set_self _ _ _, ?_⟩
      exact ⟨start, status⟩
  | some retried =>
      refine ⟨_, Dict.get?_set_self _ _ _, ?_⟩
      refine ⟨start.set _ (by decide) (by decide), ?_⟩
      rw [Row.get_set_ne _ (by decide), status]

section Supersede

variable {intents : Dict Row} {taskId oldId : String} {old row : Row}

/-- A resolved row in the place of a row of the Task. -/
theorem WellKeyed.resolve (keyed : WellKeyed intents)
    (closed : unresolvedStart row = false) : WellKeyed (intents.set oldId row) := by
  intro intentId found stored isOpen
  by_cases same : intentId = oldId
  · rw [same, Dict.get?_set_self, Option.some.injEq] at stored
    rw [← stored, closed] at isOpen
    cases isOpen
  · rw [Dict.get?_set_ne _ same] at stored
    exact keyed intentId found stored isOpen

theorem othersKept_resolve (stored : intents.get? oldId = some old)
    (task : old.get "task_id" .null = .string taskId)
    (closed : unresolvedStart row = false) :
    OthersKept taskId intents (intents.set oldId row) := by
  intro other different intentId
  by_cases same : intentId = oldId
  · rw [same, unresolved_set_self, closed]
    constructor
    · intro holds
      cases holds.1
    · intro unresolved
      obtain ⟨found, again, _, names⟩ := unresolved
      rw [stored, Option.some.injEq] at again
      rw [← again, task] at names
      exact absurd (Json.string.inj names).symm different
  · exact unresolved_set_ne same

end Supersede

section AddIntent

variable {intents : Dict Row} {taskId suffix createdAt : String}
  {retryOf : Option (String × Row)}

theorem WellKeyed.addIntent (keyed : WellKeyed intents) (width : suffix.length = 12) :
    WellKeyed (addIntent intents (newIntentId taskId suffix)
      (newIntent (newIntentId taskId suffix) taskId createdAt) retryOf) := by
  have start := newIntent_startOf (newIntentId taskId suffix) taskId createdAt
  cases retryOf with
  | none => exact keyed.set width start
  | some retried =>
      apply WellKeyed.set _ width (start.set _ (by decide) (by decide))
      exact keyed.resolve (superseded_not_unresolved _ _)

theorem WellKeyed.othersKept_addIntent (keyed : WellKeyed intents)
    (width : suffix.length = 12) (retries : Retries intents taskId retryOf) :
    OthersKept taskId intents (ProjectExecutionEngine.addIntent intents
      (newIntentId taskId suffix)
      (newIntent (newIntentId taskId suffix) taskId createdAt) retryOf) := by
  have start := newIntent_startOf (newIntentId taskId suffix) taskId createdAt
  cases retryOf with
  | none => exact keyed.othersKept_set width start
  | some retried =>
      have closed := superseded_not_unresolved retried.2 (newIntentId taskId suffix)
      apply (othersKept_resolve retries.1 retries.2.2 closed).trans
      apply WellKeyed.othersKept_set (keyed.resolve closed) width
      exact start.set _ (by decide) (by decide)

/-- After a new intent it is the only unresolved one of its Task, when before
there was none but the one that it retries. -/
theorem only_addIntent
    (unique : match retryOf with
      | none => ∀ other, ¬ Unresolved intents taskId other
      | some retried => Only intents taskId retried.1) :
    Only (addIntent intents (newIntentId taskId suffix)
      (newIntent (newIntentId taskId suffix) taskId createdAt) retryOf) taskId
      (newIntentId taskId suffix) := by
  cases retryOf with
  | none =>
      apply Only.set
      intro other unresolved
      exact absurd unresolved (unique other)
  | some retried =>
      apply Only.set
      intro other unresolved
      by_cases same : other = retried.1
      · rw [same, unresolved_set_self, superseded_not_unresolved] at unresolved
        cases unresolved.1
      · rw [unresolved_set_ne same] at unresolved
        exact absurd (unique other unresolved) same

end AddIntent

end Execraft.ProjectExecution
