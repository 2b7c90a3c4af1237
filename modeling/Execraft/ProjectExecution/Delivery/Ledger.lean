import Execraft.ProjectExecution.Delivery.Repository
import Execraft.ProjectExecution.Delivery.RoundTrip

/-!
# What the delivery file records

A ledger holds candidates and operations that satisfy the rules of delivery.
Every file that the repository writes is the file of a ledger.
-/

namespace Execraft.ProjectExecution.Delivery

open Foundation Foundation.Json

variable {py : Interpreter}

/-- Candidates and operations under their identities, with at most one unresolved
operation for a key and increasing sequence numbers. -/
structure Ledger (py : Interpreter) where
  candidates : Dict (DeliveryCandidate py)
  operations : Dict (DeliveryOperation py)
  nextSequence : Int
  positive : 1 ≤ nextSequence
  candidateIds : ∀ id candidate, candidates.get? id = some candidate →
    candidate.candidateId = id
  operationIds : ∀ id operation, operations.get? id = some operation →
    operation.operationId.value = id
  below : ∀ id operation, operations.get? id = some operation →
    operation.sequence < nextSequence
  distinct : ∀ id operation other another, operations.get? id = some operation →
    operations.get? other = some another →
      operation.sequence = another.sequence → operation = another
  single : ∀ id operation other another, operations.get? id = some operation →
    operations.get? other = some another → operation.key = another.key →
      operation.state.terminal = false → another.state.terminal = false →
        operation = another

namespace Ledger

def empty : Ledger py where
  candidates := Dict.empty
  operations := Dict.empty
  nextSequence := 1
  positive := le_refl 1
  candidateIds _ _ found := by cases found
  operationIds _ _ found := by cases found
  below _ _ found := by cases found
  distinct _ _ _ _ found := by cases found
  single _ _ _ _ found := by cases found

variable (repository : DeliveryRepository py) (ledger : Ledger py)

/-- The state that the repository keeps for the ledger. -/
def state : DeliveryRuntimeState py where
  projectId := repository.projectId
  candidates := ledger.candidates.map DeliveryCandidate.asMapping
  operations := ledger.operations.map DeliveryOperation.asMapping
  nextSequence := ledger.nextSequence
  positive := ledger.positive

end Ledger

/-! ## Reading what was written -/

theorem recordsField_rows {name : String} {raw : List (String × Json)}
    {dict : Dict Row} (stored : getField name .null raw =
      DeliveryRuntimeState.rows dict) :
    DeliveryRuntimeState.recordsField name raw = DeliveryRuntimeState.rows dict := by
  unfold DeliveryRuntimeState.recordsField
  rw [stored]
  cases shape : dict.entries with
  | nil => simp [DeliveryRuntimeState.rows, truthy, shape]
  | cons head tail => simp [DeliveryRuntimeState.rows, truthy, shape]

theorem recordsOf_rows (entries : List (String × Row)) :
    DeliveryRuntimeState.recordsOf
      (entries.map fun entry => (entry.1, Json.object entry.2)) = some entries := by
  induction entries with
  | nil => rfl
  | cons head tail inductionHypothesis =>
      unfold DeliveryRuntimeState.recordsOf at inductionHypothesis ⊢
      rw [List.map_cons, List.mapM_cons, inductionHypothesis]
      rfl

theorem DeliveryRuntimeState.fromMapping_asMapping (state : DeliveryRuntimeState py) :
    DeliveryRuntimeState.fromMapping py (.object state.asMapping) = .ok state := by
  have candidates : recordsField "candidates" state.asMapping =
      rows state.candidates :=
    recordsField_rows (by simp [asMapping])
  have operations : recordsField "operations" state.asMapping =
      rows state.operations :=
    recordsField_rows (by simp [asMapping])
  have schemaVersion : getField "schema_version" (.int 0) state.asMapping =
      .int DELIVERY_RUNTIME_SCHEMA_VERSION := by simp [asMapping]
  have nextSequence : getField "next_sequence" (.int 1) state.asMapping =
      .int state.nextSequence := by simp [asMapping]
  have projectId : getField "project_id" (.string "") state.asMapping =
      .string state.projectId.value := by simp [asMapping]
  simp only [fromMapping, candidates, operations, rows, recordsOf_rows,
    Dict.ofItems_entries, schemaVersion, nextSequence, projectId, text_string, new,
    DeliveryCandidate.intOr, Python.toInt, read_projectIdentifier, refuseIf, ne_eq,
    not_true_eq_false, if_false, dif_pos state.positive, bind, Except.bind]

namespace Ledger

variable (repository : DeliveryRepository py) (ledger : Ledger py)

theorem checkCandidates :
    forM (ledger.state repository).candidates.entries
      (DeliveryRepository.checkCandidate py) = .ok () := by
  rw [forM_eq_ok]
  intro entry member
  obtain ⟨⟨id, candidate⟩, stored, same⟩ := List.mem_map.mp member
  have identity := ledger.candidateIds id candidate (Dict.mem_entries_iff.mp stored)
  rw [← same]
  simp [DeliveryRepository.checkCandidate, identity, refuseIf, bind, Except.bind]

theorem checkOperation_stored {entry : String × Row}
    (member : entry ∈ (ledger.state repository).operations.entries) (maximum : Int) :
    ∃ operation id, ledger.operations.get? id = some operation ∧
      DeliveryRepository.checkOperation py maximum entry =
        .ok (max maximum operation.sequence) := by
  obtain ⟨⟨id, operation⟩, stored, same⟩ := List.mem_map.mp member
  have found := Dict.mem_entries_iff.mp stored
  have identity := ledger.operationIds id operation found
  refine ⟨operation, id, found, ?_⟩
  rw [← same]
  simp [DeliveryRepository.checkOperation, identity, refuseIf, bind, Except.bind]

theorem checkOperations :
    ∃ maximum, (ledger.state repository).operations.entries.foldlM
        (DeliveryRepository.checkOperation py) 0 = .ok maximum ∧
      maximum < ledger.nextSequence := by
  have general : ∀ entries : List (String × Row),
      (∀ entry ∈ entries, entry ∈ (ledger.state repository).operations.entries) →
        ∀ start, start < ledger.nextSequence →
          ∃ maximum, entries.foldlM (DeliveryRepository.checkOperation py) start =
            .ok maximum ∧ maximum < ledger.nextSequence := by
    intro entries
    induction entries with
    | nil =>
        intro _ start small
        exact ⟨start, rfl, small⟩
    | cons head tail inductionHypothesis =>
        intro members start small
        obtain ⟨operation, id, found, checked⟩ := ledger.checkOperation_stored repository
          (members head List.mem_cons_self) start
        have bound := ledger.below id operation found
        obtain ⟨maximum, rest, last⟩ := inductionHypothesis
          (fun entry member => members entry (List.mem_cons_of_mem head member))
          (max start operation.sequence) (by omega)
        refine ⟨maximum, ?_, last⟩
        rw [List.foldlM_cons, bind_eq_ok]
        exact ⟨_, checked, rest⟩
  have first := ledger.positive
  exact general _ (fun _ member => member) 0 (by omega)

/-- The repository reads the file of a ledger. -/
theorem loadUnlocked_written :
    repository.loadUnlocked (DeliveryRepository.written (ledger.state repository)) =
      .ok (ledger.state repository) := by
  obtain ⟨maximum, folded, small⟩ := ledger.checkOperations repository
  have candidates := ledger.checkCandidates repository
  have parsed := DeliveryRuntimeState.fromMapping_asMapping (ledger.state repository)
  have project : (ledger.state repository).projectId = repository.projectId := rfl
  have next : (ledger.state repository).nextSequence = ledger.nextSequence := rfl
  simp only [DeliveryRepository.loadUnlocked, DeliveryRepository.written, parsed,
    DeliveryRepository.readable, project, next, candidates, folded, refuseIf, ne_eq,
    not_true_eq_false, if_false, bind, Except.bind, if_neg (not_le.mpr small)]

end Ledger

/-- The file holds what the ledger records. -/
def Holds (repository : DeliveryRepository py) (file : DeliveryFile)
    (ledger : Ledger py) : Prop :=
  repository.loadUnlocked file = .ok (ledger.state repository)

theorem holds_none (repository : DeliveryRepository py) :
    Holds repository none Ledger.empty := by
  have start : DeliveryRuntimeState.new py repository.projectId.value Dict.empty
      Dict.empty 1 DELIVERY_RUNTIME_SCHEMA_VERSION =
        .ok (Ledger.empty.state repository) := by
    simp only [DeliveryRuntimeState.new, read_projectIdentifier, refuseIf, ne_eq,
      not_true_eq_false, if_false, bind, Except.bind]
    rfl
  exact start

/-! ## How ledgers change -/

/-- Operations stay, keep their key and sequence number, and do not change once
they are terminal. -/
def Evolves (before after : Ledger py) : Prop :=
  ∀ id operation, before.operations.get? id = some operation →
    ∃ later, after.operations.get? id = some later ∧
      later.key = operation.key ∧ later.sequence = operation.sequence ∧
        (operation.state.terminal = true → later = operation)

theorem Evolves.refl (ledger : Ledger py) : Evolves ledger ledger := by
  intro id operation found
  exact ⟨operation, found, rfl, rfl, fun _ => rfl⟩

theorem Evolves.trans {first second third : Ledger py} (early : Evolves first second)
    (late : Evolves second third) : Evolves first third := by
  intro id operation found
  obtain ⟨middle, foundMiddle, key, sequence, settled⟩ := early id operation found
  obtain ⟨last, foundLast, lastKey, lastSequence, lastSettled⟩ :=
    late id middle foundMiddle
  refine ⟨last, foundLast, lastKey.trans key, lastSequence.trans sequence, ?_⟩
  intro terminal
  have same := settled terminal
  rw [same] at lastSettled
  exact lastSettled terminal

namespace Ledger

variable (ledger : Ledger py)

def addCandidate (candidate : DeliveryCandidate py) : Ledger py where
  __ := ledger
  candidates := ledger.candidates.set candidate.candidateId candidate
  candidateIds := by
    intro id other found
    by_cases same : id = candidate.candidateId
    · rw [same, Dict.get?_set_self, Option.some.injEq] at found
      rw [← found, same]
    · rw [Dict.get?_set_ne _ same] at found
      exact ledger.candidateIds id other found

/-- A pending operation with the next sequence number, for a key whose operations
are all resolved. -/
def addOperation (operation : DeliveryOperation py)
    (next : operation.sequence = ledger.nextSequence)
    (resolved : ∀ id other, ledger.operations.get? id = some other →
      other.key = operation.key → other.state.terminal = true) : Ledger py where
  __ := ledger
  operations := ledger.operations.set operation.operationId.value operation
  nextSequence := ledger.nextSequence + 1
  positive := Int.le_add_one ledger.positive
  operationIds := by
    intro id other found
    by_cases same : id = operation.operationId.value
    · rw [same, Dict.get?_set_self, Option.some.injEq] at found
      rw [← found, same]
    · rw [Dict.get?_set_ne _ same] at found
      exact ledger.operationIds id other found
  below := by
    intro id other found
    by_cases same : id = operation.operationId.value
    · rw [same, Dict.get?_set_self, Option.some.injEq] at found
      rw [← found, next]
      omega
    · rw [Dict.get?_set_ne _ same] at found
      have bound := ledger.below id other found
      omega
  distinct := by
    intro id one other another found otherFound sequences
    by_cases same : id = operation.operationId.value
    · rw [same, Dict.get?_set_self, Option.some.injEq] at found
      by_cases otherSame : other = operation.operationId.value
      · rw [otherSame, Dict.get?_set_self, Option.some.injEq] at otherFound
        rw [← found, ← otherFound]
      · rw [Dict.get?_set_ne _ otherSame] at otherFound
        have bound := ledger.below other another otherFound
        rw [← found] at sequences
        omega
    · rw [Dict.get?_set_ne _ same] at found
      have bound := ledger.below id one found
      by_cases otherSame : other = operation.operationId.value
      · rw [otherSame, Dict.get?_set_self, Option.some.injEq] at otherFound
        rw [← otherFound] at sequences
        omega
      · rw [Dict.get?_set_ne _ otherSame] at otherFound
        exact ledger.distinct id one other another found otherFound sequences
  single := by
    intro id one other another found otherFound keys open_ otherOpen
    by_cases same : id = operation.operationId.value
    · rw [same, Dict.get?_set_self, Option.some.injEq] at found
      by_cases otherSame : other = operation.operationId.value
      · rw [otherSame, Dict.get?_set_self, Option.some.injEq] at otherFound
        rw [← found, ← otherFound]
      · rw [Dict.get?_set_ne _ otherSame] at otherFound
        rw [← found] at keys
        have terminal := resolved other another otherFound keys.symm
        rw [terminal] at otherOpen
        cases otherOpen
    · rw [Dict.get?_set_ne _ same] at found
      by_cases otherSame : other = operation.operationId.value
      · rw [otherSame, Dict.get?_set_self, Option.some.injEq] at otherFound
        rw [← otherFound] at keys
        have terminal := resolved id one found keys
        rw [terminal] at open_
        cases open_
      · rw [Dict.get?_set_ne _ otherSame] at otherFound
        exact ledger.single id one other another found otherFound keys open_ otherOpen

/-- The operation under this identity with a new state; its key and its sequence
number stay, and it stays terminal. -/
def replaceOperation (current operation : DeliveryOperation py)
    (found : ledger.operations.get? operation.operationId.value = some current)
    (key : operation.key = current.key) (sequence : operation.sequence = current.sequence)
    (kept : current.state.terminal = true → operation.state.terminal = true) :
    Ledger py where
  __ := ledger
  operations := ledger.operations.set operation.operationId.value operation
  operationIds := by
    intro id other stored
    by_cases same : id = operation.operationId.value
    · rw [same, Dict.get?_set_self, Option.some.injEq] at stored
      rw [← stored, same]
    · rw [Dict.get?_set_ne _ same] at stored
      exact ledger.operationIds id other stored
  below := by
    intro id other stored
    by_cases same : id = operation.operationId.value
    · rw [same, Dict.get?_set_self, Option.some.injEq] at stored
      rw [← stored, sequence]
      exact ledger.below _ current found
    · rw [Dict.get?_set_ne _ same] at stored
      exact ledger.below id other stored
  distinct := by
    intro id one other another stored otherStored sequences
    by_cases same : id = operation.operationId.value
    · rw [same, Dict.get?_set_self, Option.some.injEq] at stored
      by_cases otherSame : other = operation.operationId.value
      · rw [otherSame, Dict.get?_set_self, Option.some.injEq] at otherStored
        rw [← stored, ← otherStored]
      · rw [Dict.get?_set_ne _ otherSame] at otherStored
        rw [← stored, sequence] at sequences
        have equal := ledger.distinct _ current other another found otherStored sequences
        have identity := ledger.operationIds other another otherStored
        have currentIdentity := ledger.operationIds _ current found
        rw [← equal, currentIdentity] at identity
        exact absurd identity.symm otherSame
    · rw [Dict.get?_set_ne _ same] at stored
      by_cases otherSame : other = operation.operationId.value
      · rw [otherSame, Dict.get?_set_self, Option.some.injEq] at otherStored
        rw [← otherStored, sequence] at sequences
        have equal := ledger.distinct id one _ current stored found sequences
        have identity := ledger.operationIds id one stored
        have currentIdentity := ledger.operationIds _ current found
        rw [equal, currentIdentity] at identity
        exact absurd identity.symm same
      · rw [Dict.get?_set_ne _ otherSame] at otherStored
        exact ledger.distinct id one other another stored otherStored sequences
  single := by
    have open_ : operation.state.terminal = false → current.state.terminal = false := by
      intro unresolved
      cases resolved : current.state.terminal with
      | false => rfl
      | true =>
          rw [kept resolved] at unresolved
          cases unresolved
    intro id one other another stored otherStored keys oneOpen anotherOpen
    by_cases same : id = operation.operationId.value
    · rw [same, Dict.get?_set_self, Option.some.injEq] at stored
      by_cases otherSame : other = operation.operationId.value
      · rw [otherSame, Dict.get?_set_self, Option.some.injEq] at otherStored
        rw [← stored, ← otherStored]
      · rw [Dict.get?_set_ne _ otherSame] at otherStored
        rw [← stored, key] at keys
        rw [← stored] at oneOpen
        have equal := ledger.single _ current other another found otherStored keys
          (open_ oneOpen) anotherOpen
        have identity := ledger.operationIds other another otherStored
        have currentIdentity := ledger.operationIds _ current found
        rw [← equal, currentIdentity] at identity
        exact absurd identity.symm otherSame
    · rw [Dict.get?_set_ne _ same] at stored
      by_cases otherSame : other = operation.operationId.value
      · rw [otherSame, Dict.get?_set_self, Option.some.injEq] at otherStored
        rw [← otherStored, key] at keys
        rw [← otherStored] at anotherOpen
        have equal := ledger.single id one _ current stored found keys oneOpen
          (open_ anotherOpen)
        have identity := ledger.operationIds id one stored
        have currentIdentity := ledger.operationIds _ current found
        rw [equal, currentIdentity] at identity
        exact absurd identity.symm same
      · rw [Dict.get?_set_ne _ otherSame] at otherStored
        exact ledger.single id one other another stored otherStored keys oneOpen
          anotherOpen

end Ledger

end Execraft.ProjectExecution.Delivery
