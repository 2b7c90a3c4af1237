import Execraft.ProjectExecution.Delivery.Ledger

/-!
# Histories of the delivery repository

Whatever calls a repository has served, its file can be read, and it records at
most one unresolved operation for a key, increasing sequence numbers, and terminal
operations that never change again.
-/

namespace Execraft.ProjectExecution.Delivery

open Foundation Foundation.Json

variable {py : Interpreter} {repository : DeliveryRepository py}
variable {file after : DeliveryFile} {ledger : Ledger py}

/-! ## Reading a ledger -/

@[simp]
theorem Ledger.state_candidates (id : String) :
    (ledger.state repository).candidates.get? id =
      (ledger.candidates.get? id).map DeliveryCandidate.asMapping :=
  Dict.get?_map _ _ _

@[simp]
theorem Ledger.state_operations (id : String) :
    (ledger.state repository).operations.get? id =
      (ledger.operations.get? id).map DeliveryOperation.asMapping :=
  Dict.get?_map _ _ _

theorem Ledger.mem_state_operations {id : String} {operation : DeliveryOperation py}
    (found : ledger.operations.get? id = some operation) :
    (id, operation.asMapping) ∈ (ledger.state repository).operations.entries := by
  rw [Dict.mem_entries_iff, Ledger.state_operations, found]
  rfl

/-- Operations are determined by their mapping forms. -/
theorem asMapping_injective {first second : DeliveryOperation py}
    (same : first.asMapping = second.asMapping) : first = second := by
  have read := DeliveryOperation.fromMapping_asMapping first
  rw [same, DeliveryOperation.fromMapping_asMapping, Except.ok.injEq] at read
  exact read.symm

/-! ## What a call does -/

theorem state_addCandidate (candidate : DeliveryCandidate py) :
    { ledger.state repository with
      candidates := (ledger.state repository).candidates.set
        candidate.candidateId candidate.asMapping } =
      (ledger.addCandidate candidate).state repository := by
  have stored := Dict.set_map DeliveryCandidate.asMapping ledger.candidates
    candidate.candidateId candidate
  rw [Ledger.state, Ledger.state, DeliveryRuntimeState.mk.injEq]
  exact ⟨rfl, stored, rfl, rfl⟩

theorem state_operations_set (repository : DeliveryRepository py)
    (ledger later : Ledger py) (operation : DeliveryOperation py)
    (candidates : later.candidates = ledger.candidates)
    (operations : later.operations =
      ledger.operations.set operation.operationId.value operation) :
    { ledger.state repository with
      nextSequence := later.nextSequence
      positive := later.positive
      operations := (ledger.state repository).operations.set
        operation.operationId.value operation.asMapping } =
      later.state repository := by
  have stored := Dict.set_map DeliveryOperation.asMapping ledger.operations
    operation.operationId.value operation
  rw [Ledger.state, Ledger.state, DeliveryRuntimeState.mk.injEq, candidates, operations]
  exact ⟨rfl, rfl, stored, rfl⟩

theorem recordCandidate_ok (holds : Holds repository file ledger)
    {candidate : DeliveryCandidate py} {answer : DeliveryCandidate py × Bool}
    (done : repository.recordCandidate file candidate = .ok (answer, after)) :
    ∃ later : Ledger py, Holds repository after later ∧
      later.operations = ledger.operations := by
  obtain ⟨_, checked⟩ := unit_bind_eq_ok.mp done
  obtain ⟨state, loaded, decided⟩ := bind_eq_ok.mp checked
  cases holds.symm.trans loaded
  split at decided
  · obtain ⟨persisted, _, compared⟩ := bind_eq_ok.mp decided
    obtain ⟨_, same⟩ := unit_bind_eq_ok.mp compared
    cases same
    exact ⟨ledger, holds, rfl⟩
  · cases decided
    refine ⟨ledger.addCandidate candidate, ?_, rfl⟩
    rw [state_addCandidate]
    exact Ledger.loadUnlocked_written repository _

/-- A begun operation is new, and all operations of its key were resolved. -/
theorem beginOperation_ok (holds : Holds repository file ledger)
    {operation persisted : DeliveryOperation py}
    (done : repository.beginOperation file operation = .ok (persisted, after)) :
    operation.state = .pending ∧
      persisted = operation.withSequence ledger.nextSequence ledger.positive ∧
      ledger.operations.get? operation.operationId.value = none ∧
      (∀ id other, ledger.operations.get? id = some other →
        other.key = operation.key → other.state.terminal = true) ∧
      ∃ later : Ledger py, Holds repository after later ∧
        later.operations =
          ledger.operations.set operation.operationId.value persisted := by
  obtain ⟨pending, checked⟩ := unit_bind_eq_ok.mp done
  obtain ⟨state, loaded, decided⟩ := bind_eq_ok.mp checked
  cases holds.symm.trans loaded
  obtain ⟨absent, known⟩ := unit_bind_eq_ok.mp decided
  obtain ⟨_, scanned⟩ := unit_bind_eq_ok.mp known
  obtain ⟨each, built⟩ := unit_bind_eq_ok.mp scanned
  obtain ⟨made, constructed, finished⟩ := bind_eq_ok.mp built
  have shape := operation.new_sequence ledger.positive
  cases shape.symm.trans constructed
  rw [Except.ok.injEq, Prod.mk.injEq] at finished
  obtain ⟨rfl, rfl⟩ := finished
  rw [refuseIf_eq_ok, not_not] at pending
  rw [conflictIf_eq_ok, not_not, Ledger.state_operations,
    Option.map_eq_none_iff] at absent
  have resolved : ∀ id other, ledger.operations.get? id = some other →
      other.key = operation.key → other.state.terminal = true := by
    intro id other found keys
    have passed := forM_eq_ok.mp each _ (ledger.mem_state_operations found)
    rw [DeliveryRepository.checkUnresolved, DeliveryOperation.fromMapping_asMapping,
      bind_eq_ok] at passed
    obtain ⟨existing, same, unresolved⟩ := passed
    cases same
    rw [conflictIf_eq_ok, not_and, Bool.not_eq_false] at unresolved
    exact unresolved keys
  have sequence : (operation.withSequence ledger.nextSequence ledger.positive).sequence =
      ledger.nextSequence := rfl
  refine ⟨pending, rfl, absent, resolved, ledger.addOperation _ sequence resolved, ?_, rfl⟩
  have written := state_operations_set repository ledger
    (ledger.addOperation _ sequence resolved)
    (operation.withSequence ledger.nextSequence ledger.positive) rfl rfl
  have loaded := (ledger.addOperation _ sequence resolved).loadUnlocked_written repository
  rw [← written] at loaded
  exact loaded.trans (congrArg Except.ok written)

theorem allowed_terminal {before after : DeliveryOperationState}
    (next : after ∈ DeliveryRepository.allowed before)
    (terminal : before.terminal = true) : after.terminal = true := by
  cases before with
  | pending => cases terminal
  | uncertain => cases terminal
  | succeeded =>
      rw [List.mem_singleton.mp next]
      rfl
  | failed =>
      rw [List.mem_singleton.mp next]
      rfl

/-- An update keeps the identity of an operation, and repeats terminal ones. -/
theorem updateOperation_ok (holds : Holds repository file ledger)
    {operation answer : DeliveryOperation py}
    (done : repository.updateOperation file operation = .ok (answer, after)) :
    answer = operation ∧
      ∃ current, ledger.operations.get? operation.operationId.value = some current ∧
        operation.key = current.key ∧ operation.sequence = current.sequence ∧
        (current.state.terminal = true → operation = current) ∧
        ∃ later : Ledger py, Holds repository after later ∧
          later.operations =
            ledger.operations.set operation.operationId.value operation := by
  obtain ⟨state, loaded, decided⟩ := bind_eq_ok.mp done
  cases holds.symm.trans loaded
  split at decided
  · cases decided
  · rename_i row stored
    rw [Ledger.state_operations] at stored
    obtain ⟨current, found, mapped⟩ := Option.map_eq_some_iff.mp stored
    obtain ⟨parsed, read, compared⟩ := bind_eq_ok.mp decided
    rw [← mapped, DeliveryOperation.fromMapping_asMapping, Except.ok.injEq] at read
    rw [← read] at compared
    obtain ⟨identity, immutable⟩ := unit_bind_eq_ok.mp compared
    obtain ⟨settled, transition⟩ := unit_bind_eq_ok.mp immutable
    obtain ⟨next, finished⟩ := unit_bind_eq_ok.mp transition
    rw [Except.ok.injEq, Prod.mk.injEq] at finished
    obtain ⟨rfl, rfl⟩ := finished
    rw [refuseIf_eq_ok, not_or, not_not, not_not] at identity
    rw [conflictIf_eq_ok, not_and, not_not] at settled
    rw [conflictIf_eq_ok, not_not] at next
    refine ⟨rfl, current, found, identity.1.symm, identity.2.symm, ?_, ?_⟩
    · intro terminal
      exact (asMapping_injective (settled terminal)).symm
    · have kept := allowed_terminal next
      refine ⟨ledger.replaceOperation current operation found identity.1.symm
        identity.2.symm kept, ?_, rfl⟩
      have written := state_operations_set repository ledger
        (ledger.replaceOperation current operation found identity.1.symm
          identity.2.symm kept) operation rfl rfl
      have reload := (ledger.replaceOperation current operation found identity.1.symm
        identity.2.symm kept).loadUnlocked_written repository
      rw [← written] at reload
      exact reload.trans (congrArg Except.ok written)

/-! ## Calls that succeed -/

theorem getCandidate_holds (holds : Holds repository file ledger) (id : String) :
    repository.getCandidate file id = .ok (ledger.candidates.get? id) := by
  rw [DeliveryRepository.getCandidate, bind_eq_ok]
  refine ⟨_, holds, ?_⟩
  cases found : ledger.candidates.get? id with
  | none => simp [found]
  | some candidate => simp [found, Except.map]

theorem operations_holds (holds : Holds repository file ledger) :
    repository.operations file = .ok ((ledger.operations.entries.map Prod.snd).mergeSort
      fun first second => first.sequence ≤ second.sequence) := by
  have parsed : ∀ entries : List (String × DeliveryOperation py),
      (entries.map fun entry => (entry.1, entry.2.asMapping)).mapM
        (fun entry => DeliveryOperation.fromMapping py (.object entry.2)) =
          .ok (entries.map Prod.snd) := by
    intro entries
    induction entries with
    | nil => rfl
    | cons head tail inductionHypothesis =>
        rw [List.map_cons, List.mapM_cons, inductionHypothesis,
          DeliveryOperation.fromMapping_asMapping]
        rfl
  rw [DeliveryRepository.operations, bind_eq_ok]
  refine ⟨_, holds, ?_⟩
  rw [bind_eq_ok]
  exact ⟨_, parsed ledger.operations.entries, rfl⟩

/-- A candidate under a new identity is recorded. -/
theorem recordCandidate_new (holds : Holds repository file ledger)
    {candidate : DeliveryCandidate py}
    (own : candidate.projectId = repository.projectId)
    (absent : ledger.candidates.get? candidate.candidateId = none) :
    ∃ answer after, repository.recordCandidate file candidate = .ok (answer, after) ∧
      Holds repository after (ledger.addCandidate candidate) := by
  refine ⟨(candidate, true),
    DeliveryRepository.written ((ledger.addCandidate candidate).state repository),
    ?_, Ledger.loadUnlocked_written repository _⟩
  rw [DeliveryRepository.recordCandidate, unit_bind_eq_ok]
  refine ⟨refuseIf_eq_ok.mpr (not_not.mpr own), ?_⟩
  rw [bind_eq_ok]
  refine ⟨_, holds, ?_⟩
  rw [Ledger.state_candidates, absent]
  exact congrArg (fun state => Except.ok ((candidate, true), DeliveryRepository.written
    state)) (state_addCandidate candidate)

/-- A pending operation under a new identity begins when all operations of its key
are resolved. -/
theorem beginOperation_resolved (holds : Holds repository file ledger)
    {operation : DeliveryOperation py} (pending : operation.state = .pending)
    (absent : ledger.operations.get? operation.operationId.value = none)
    (known : ledger.candidates.get? operation.candidateId.value ≠ none)
    (resolved : ∀ id other, ledger.operations.get? id = some other →
      other.key = operation.key → other.state.terminal = true) :
    ∃ after, ∃ later : Ledger py, repository.beginOperation file operation =
        .ok (operation.withSequence ledger.nextSequence ledger.positive, after) ∧
      Holds repository after later ∧ later.candidates = ledger.candidates ∧
        later.operations = ledger.operations.set operation.operationId.value
          (operation.withSequence ledger.nextSequence ledger.positive) := by
  have sequence : (operation.withSequence ledger.nextSequence ledger.positive).sequence =
      ledger.nextSequence := rfl
  have written := state_operations_set repository ledger
    (ledger.addOperation _ sequence resolved)
    (operation.withSequence ledger.nextSequence ledger.positive) rfl rfl
  refine ⟨DeliveryRepository.written
    ((ledger.addOperation _ sequence resolved).state repository),
    ledger.addOperation _ sequence resolved, ?_,
    Ledger.loadUnlocked_written repository _, rfl, rfl⟩
  rw [DeliveryRepository.beginOperation, unit_bind_eq_ok]
  refine ⟨refuseIf_eq_ok.mpr (not_not.mpr pending), ?_⟩
  rw [bind_eq_ok]
  refine ⟨_, holds, ?_⟩
  rw [unit_bind_eq_ok, conflictIf_eq_ok, Ledger.state_operations, absent]
  refine ⟨by simp, ?_⟩
  rw [unit_bind_eq_ok, refuseIf_eq_ok, Ledger.state_candidates, Option.map_eq_none_iff]
  refine ⟨known, ?_⟩
  rw [unit_bind_eq_ok, forM_eq_ok]
  refine ⟨?_, ?_⟩
  · intro entry member
    obtain ⟨⟨id, other⟩, stored, same⟩ := List.mem_map.mp member
    rw [← same, DeliveryRepository.checkUnresolved, bind_eq_ok]
    refine ⟨other, DeliveryOperation.fromMapping_asMapping other, ?_⟩
    rw [conflictIf_eq_ok]
    rintro ⟨keys, unresolved⟩
    rw [resolved id other (Dict.mem_entries_iff.mp stored) keys] at unresolved
    cases unresolved
  · rw [bind_eq_ok]
    exact ⟨_, operation.new_sequence ledger.positive,
      congrArg (fun state => Except.ok (operation.withSequence ledger.nextSequence
        ledger.positive, DeliveryRepository.written state)) written⟩

/-- An unresolved operation takes any later state. -/
theorem updateOperation_unresolved (holds : Holds repository file ledger)
    {current operation : DeliveryOperation py}
    (found : ledger.operations.get? operation.operationId.value = some current)
    (key : operation.key = current.key) (sequence : operation.sequence = current.sequence)
    (unresolved : current.state.terminal = false)
    (next : operation.state ∈ DeliveryRepository.allowed current.state) :
    ∃ after, ∃ later : Ledger py,
      repository.updateOperation file operation = .ok (operation, after) ∧
        Holds repository after later ∧ later.candidates = ledger.candidates ∧
          later.operations =
            ledger.operations.set operation.operationId.value operation := by
  have written := state_operations_set repository ledger
    (ledger.replaceOperation current operation found key sequence
      (allowed_terminal next)) operation rfl rfl
  refine ⟨DeliveryRepository.written
    ((ledger.replaceOperation current operation found key sequence
      (allowed_terminal next)).state repository), _, ?_,
    Ledger.loadUnlocked_written repository _, rfl, rfl⟩
  rw [DeliveryRepository.updateOperation, bind_eq_ok]
  refine ⟨_, holds, ?_⟩
  rw [Ledger.state_operations, found]
  dsimp only [Option.map_some]
  rw [DeliveryOperation.fromMapping_asMapping, bind_eq_ok]
  refine ⟨current, rfl, ?_⟩
  rw [unit_bind_eq_ok, refuseIf_eq_ok]
  refine ⟨by simp [key, sequence], ?_⟩
  rw [unit_bind_eq_ok, conflictIf_eq_ok]
  refine ⟨by simp [unresolved], ?_⟩
  rw [unit_bind_eq_ok, conflictIf_eq_ok, not_not]
  exact ⟨next, congrArg (fun state => Except.ok (operation,
    DeliveryRepository.written state)) written⟩

/-! ## Calls -/

/-- A locked call that may rewrite the file. -/
inductive Call (py : Interpreter) where
  | recordCandidate (candidate : DeliveryCandidate py)
  | beginOperation (operation : DeliveryOperation py)
  | updateOperation (operation : DeliveryOperation py)

/-- The file after a call; a call that raises leaves it as it was. -/
def fileAfter {α : Type} (file : DeliveryFile) : Attempt (α × DeliveryFile) → DeliveryFile
  | .ok (_, after) => after
  | .error _ => file

def serve (repository : DeliveryRepository py) (file : DeliveryFile) :
    Call py → DeliveryFile
  | .recordCandidate candidate =>
      fileAfter file (repository.recordCandidate file candidate)
  | .beginOperation operation =>
      fileAfter file (repository.beginOperation file operation)
  | .updateOperation operation =>
      fileAfter file (repository.updateOperation file operation)

/-- The file after calls that were served in this order. -/
def serveAll (repository : DeliveryRepository py) (file : DeliveryFile)
    (calls : List (Call py)) : DeliveryFile :=
  calls.foldl (serve repository) file

theorem evolves_of_operations {later : Ledger py}
    (same : later.operations = ledger.operations) : Evolves ledger later := by
  intro id operation found
  rw [← same] at found
  exact ⟨operation, found, rfl, rfl, fun _ => rfl⟩

theorem evolves_set {later : Ledger py} {operation : DeliveryOperation py}
    (stored : later.operations =
      ledger.operations.set operation.operationId.value operation)
    (kept : ∀ current,
      ledger.operations.get? operation.operationId.value = some current →
        operation.key = current.key ∧ operation.sequence = current.sequence ∧
          (current.state.terminal = true → operation = current)) :
    Evolves ledger later := by
  intro id current found
  rw [stored]
  by_cases same : id = operation.operationId.value
  · rw [same] at found ⊢
    obtain ⟨key, sequence, settled⟩ := kept current found
    exact ⟨operation, Dict.get?_set_self _ _ _, key, sequence, settled⟩
  · refine ⟨current, ?_, rfl, rfl, fun _ => rfl⟩
    rw [Dict.get?_set_ne _ same]
    exact found

/-- One call takes the file of a ledger to the file of a ledger. -/
theorem holds_serve (holds : Holds repository file ledger) (call : Call py) :
    ∃ later, Holds repository (serve repository file call) later ∧
      Evolves ledger later := by
  cases call with
  | recordCandidate candidate =>
      cases done : repository.recordCandidate file candidate with
      | error failure =>
          rw [serve, done]
          exact ⟨ledger, holds, Evolves.refl ledger⟩
      | ok answer =>
          rw [serve, done]
          obtain ⟨later, held, same⟩ := recordCandidate_ok holds done
          exact ⟨later, held, evolves_of_operations same⟩
  | beginOperation operation =>
      cases done : repository.beginOperation file operation with
      | error failure =>
          rw [serve, done]
          exact ⟨ledger, holds, Evolves.refl ledger⟩
      | ok answer =>
          rw [serve, done]
          obtain ⟨_, shape, fresh, _, later, held, stored⟩ := beginOperation_ok holds done
          have identity : answer.1.operationId = operation.operationId := by
            rw [shape]
            rfl
          rw [← identity] at stored fresh
          refine ⟨later, held, evolves_set stored ?_⟩
          intro current found
          rw [fresh] at found
          cases found
  | updateOperation operation =>
      cases done : repository.updateOperation file operation with
      | error failure =>
          rw [serve, done]
          exact ⟨ledger, holds, Evolves.refl ledger⟩
      | ok answer =>
          rw [serve, done]
          obtain ⟨_, current, found, key, sequence, settled, later, held, stored⟩ :=
            updateOperation_ok holds done
          refine ⟨later, held, evolves_set stored ?_⟩
          intro other otherFound
          rw [found, Option.some.injEq] at otherFound
          rw [← otherFound]
          exact ⟨key, sequence, settled⟩

theorem holds_serveAll (holds : Holds repository file ledger) (calls : List (Call py)) :
    ∃ later, Holds repository (serveAll repository file calls) later ∧
      Evolves ledger later := by
  induction calls generalizing file ledger with
  | nil => exact ⟨ledger, holds, Evolves.refl ledger⟩
  | cons call rest inductionHypothesis =>
      obtain ⟨middle, first, early⟩ := holds_serve holds call
      obtain ⟨later, held, late⟩ := inductionHypothesis first
      exact ⟨later, held, early.trans late⟩

/-! ## Every reachable file -/

/-- The operation stands in the state under its identity. -/
def Recorded (state : DeliveryRuntimeState py) (operation : DeliveryOperation py) :
    Prop :=
  ∃ row, state.operations.get? operation.operationId.value = some row ∧
    DeliveryOperation.fromMapping py (.object row) = .ok operation

theorem recorded_iff {operation : DeliveryOperation py} :
    Recorded (ledger.state repository) operation ↔
      ledger.operations.get? operation.operationId.value = some operation := by
  constructor
  · intro recorded
    obtain ⟨row, stored, read⟩ := recorded
    rw [Ledger.state_operations] at stored
    obtain ⟨other, found, mapped⟩ := Option.map_eq_some_iff.mp stored
    rw [← mapped, DeliveryOperation.fromMapping_asMapping, Except.ok.injEq] at read
    rw [found, read]
  · intro found
    refine ⟨operation.asMapping, ?_, DeliveryOperation.fromMapping_asMapping operation⟩
    rw [Ledger.state_operations, found]
    rfl

/-- After any calls the file can be read, every row in it is an operation under its
own identity, at most one operation of a key is unresolved, sequence numbers are
distinct and below the next one, and whatever calls follow, each operation keeps its
key and number, and its row too once it is terminal. -/
theorem serveAll_invariant (repository : DeliveryRepository py)
    (calls laterCalls : List (Call py)) :
    ∃ state, repository.loadUnlocked (serveAll repository none calls) = .ok state ∧
      (∀ id row, state.operations.get? id = some row →
        ∃ operation, DeliveryOperation.fromMapping py (.object row) = .ok operation ∧
          operation.operationId.value = id) ∧
      (∀ first second, Recorded state first → Recorded state second →
        first.key = second.key → first.state.terminal = false →
          second.state.terminal = false → first = second) ∧
      (∀ first second, Recorded state first → Recorded state second →
        first.sequence = second.sequence → first = second) ∧
      (∀ operation, Recorded state operation →
        operation.sequence < state.nextSequence) ∧
      ∃ laterState, repository.loadUnlocked
          (serveAll repository none (calls ++ laterCalls)) = .ok laterState ∧
        ∀ operation, Recorded state operation →
          ∃ later, Recorded laterState later ∧
            later.operationId = operation.operationId ∧ later.key = operation.key ∧
            later.sequence = operation.sequence ∧
            (operation.state.terminal = true →
              laterState.operations.get? operation.operationId.value =
                state.operations.get? operation.operationId.value) := by
  obtain ⟨ledger, holds, _⟩ := holds_serveAll (holds_none repository) calls
  obtain ⟨laterLedger, laterHolds, evolves⟩ := holds_serveAll holds laterCalls
  have joined : serveAll repository none (calls ++ laterCalls) =
      serveAll repository (serveAll repository none calls) laterCalls :=
    List.foldl_append
  refine ⟨ledger.state repository, holds, ?_, ?_, ?_, ?_,
    laterLedger.state repository, ?_, ?_⟩
  · intro id row stored
    rw [Ledger.state_operations] at stored
    obtain ⟨operation, found, mapped⟩ := Option.map_eq_some_iff.mp stored
    refine ⟨operation, ?_, ledger.operationIds id operation found⟩
    rw [← mapped, DeliveryOperation.fromMapping_asMapping]
  · intro first second firstRecorded secondRecorded keys firstOpen secondOpen
    exact ledger.single _ first _ second (recorded_iff.mp firstRecorded)
      (recorded_iff.mp secondRecorded) keys firstOpen secondOpen
  · intro first second firstRecorded secondRecorded sequences
    exact ledger.distinct _ first _ second (recorded_iff.mp firstRecorded)
      (recorded_iff.mp secondRecorded) sequences
  · intro operation recorded
    exact ledger.below _ operation (recorded_iff.mp recorded)
  · rw [joined]
    exact laterHolds
  · intro operation recorded
    obtain ⟨later, found, key, sequence, settled⟩ :=
      evolves _ operation (recorded_iff.mp recorded)
    have identity := laterLedger.operationIds _ later found
    refine ⟨later, ?_, Checked.ext identity, key, sequence, ?_⟩
    · rw [recorded_iff, identity]
      exact found
    · intro terminal
      rw [Ledger.state_operations, Ledger.state_operations, found,
        recorded_iff.mp recorded, settled terminal]

end Execraft.ProjectExecution.Delivery
