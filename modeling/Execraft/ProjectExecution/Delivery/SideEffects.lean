import Execraft.ProjectExecution.Delivery.Service
import Mathlib.Data.List.Count

/-!
# External deliveries

Callers deliver the same candidate to the same target through the same provider in
any interleaving.  A caller delivers only what it has begun, and an operation is
begun only when all operations of its key are resolved.  Nothing stops a caller from
beginning after the operation of another caller was resolved.
-/

namespace Execraft.ProjectExecution.Delivery

open Foundation Foundation.Json Program

variable {py : Interpreter} {repository : DeliveryRepository py}

/-! ## The protocol of a caller -/

/-- The key of the operation that a delivery belongs to. -/
def operationKey (key : DeliveryKey) : DeliveryKey :=
  (stripString key.1, key.2.1, stripString key.2.2)

/-- A caller delivers for the key of the operation that it has begun, once. -/
def deliveryProtocol :
    Protocol (DeliveryEffect py) DeliveryReply (Option DeliveryKey)
  | role, .beginOperation operation, reply =>
      match reply with
      | .ok _ => some (some operation.key)
      | .error _ => some role
  | role, .deliver providerId request, _ =>
      if role = some (operationKey (request.key providerId)) then some none else none
  | role, _, _ => some role

/-- Effects that neither begin nor deliver. -/
def DeliveryEffect.Idle : DeliveryEffect py → Prop
  | .beginOperation _ => False
  | .deliver _ _ => False
  | _ => True

theorem deliveryProtocol_idle (role : Option DeliveryKey) (effect : DeliveryEffect py)
    (reply : DeliveryReply effect) (idle : effect.Idle) :
    deliveryProtocol role effect reply = some role := by
  cases effect with
  | beginOperation operation => exact idle.elim
  | deliver providerId request => exact idle.elim
  | _ => rfl

section Obeys

variable {role : Option DeliveryKey}

/-- The rule for programs without begins and deliveries. -/
theorem obeys_idle {Value : Type} {program : DeliveryAction py Value}
    (performs : program.Performs DeliveryEffect.Idle) :
    Obeys deliveryProtocol (fun _ _ => True) role program
      fun _ later => later = role :=
  obeys_of_performs (deliveryProtocol_idle role) performs

theorem idle_candidate (candidateId : String) :
    (DeliveryService.candidate candidateId : DeliveryAction py _).Performs
      DeliveryEffect.Idle := by
  refine performs_bind (performs_request.mpr trivial) ?_
  intro found
  split
  · exact performs_raise
  · exact performs_ofOutcome
  · exact performs_pure

theorem idle_operation (id : String) :
    (DeliveryService.operation id : DeliveryAction py _).Performs
      DeliveryEffect.Idle := by
  refine performs_bind (performs_request.mpr trivial) ?_
  intro found
  split
  · exact performs_raise
  · exact performs_ofOutcome
  · exact performs_pure

theorem idle_markUncertain (operation : DeliveryOperation py) (diagnostic : String) :
    (DeliveryService.markUncertain operation diagnostic).Performs
      DeliveryEffect.Idle := by
  refine performs_bind performs_ofOutcome fun replaced => ?_
  refine performs_bind (performs_request.mpr trivial) fun updated => ?_
  refine performs_bind performs_ofOutcome fun uncertain => ?_
  split_ifs
  · exact performs_bind (performs_request.mpr trivial) fun _ => performs_pure
  · exact performs_pure

theorem idle_resolve (operation : DeliveryOperation py) (result : DeliveryResult py) :
    (DeliveryService.resolve operation result).Performs DeliveryEffect.Idle := by
  refine performs_bind (performs_request.mpr trivial) fun completedAt => ?_
  refine performs_bind performs_ofOutcome fun replaced => ?_
  refine performs_bind (performs_request.mpr trivial) fun updated => ?_
  refine performs_bind performs_ofOutcome fun resolved => ?_
  exact performs_bind (performs_request.mpr trivial) fun _ => performs_pure

theorem idle_reconcile (id provider : String) :
    (DeliveryService.reconcile id provider : DeliveryAction py _).Performs
      DeliveryEffect.Idle := by
  refine performs_bind (idle_operation id) fun operation => ?_
  split_ifs
  · exact performs_pure
  · refine performs_bind performs_ofOutcome fun providerId => ?_
    split_ifs
    · exact performs_ofOutcome
    · refine performs_bind (idle_candidate _) fun candidate => ?_
      refine performs_bind (performs_request.mpr trivial) fun answer => ?_
      unfold DeliveryService.settle
      split
      · exact idle_markUncertain _ _
      · exact idle_markUncertain _ _
      · exact idle_resolve _ _

theorem identifier_value {label text : String}
    {checked : Checked (identifier py label)}
    (read : (identifier py label).read (.string text) = .ok checked) :
    checked.value = stripString text := by
  rw [Check.read_eq_ok, identifier_run, attempt_eq_ok, validateAssetId_eq_ok] at read
  rw [read.1, Python.textOr_string]

/-- A new operation has the key of its arguments. -/
theorem new_key {operationId candidateId providerId state requestedAt completedAt
    diagnostic : String} {sequence : Int} {target : DeliveryTarget py}
    {result : Option (DeliveryResult py)} {operation : DeliveryOperation py}
    (built : DeliveryOperation.new py operationId sequence candidateId target
      providerId state requestedAt completedAt result diagnostic = .ok operation) :
    operation.key = operationKey (candidateId, target.targetId.value, providerId) := by
  obtain ⟨_, _, sequenceChecked⟩ := bind_eq_ok.mp built
  split_ifs at sequenceChecked with positive
  · obtain ⟨candidate, candidateRead, rest⟩ := bind_eq_ok.mp sequenceChecked
    obtain ⟨provider, providerRead, stated⟩ := bind_eq_ok.mp rest
    split at stated
    · cases stated
    · obtain ⟨_, _, afterRequested⟩ := bind_eq_ok.mp stated
      obtain ⟨_, _, afterCompleted⟩ := bind_eq_ok.mp afterRequested
      obtain ⟨_, _, checked⟩ := bind_eq_ok.mp afterCompleted
      split at checked
      · cases checked
      · cases checked
        rw [DeliveryOperation.key, operationKey, identifier_value candidateRead,
          identifier_value providerRead]
  · cases sequenceChecked

theorem obeys_deliverBegun (providerId : String) (candidate : DeliveryCandidate py)
    (target : DeliveryTarget py) (operation : DeliveryOperation py)
    (begun : role = some (operationKey
      (candidate.candidateId, target.targetId.value, providerId))) :
    Obeys deliveryProtocol (fun _ _ => True) role
      (DeliveryService.deliverBegun providerId candidate target operation)
      fun _ _ => True := by
  apply obeys_bind
  apply obeys_request
  intro _ _
  refine ⟨role, rfl, ?_⟩
  apply obeys_bind
  apply obeys_request
  intro answer _
  refine ⟨none, if_pos begun, ?_⟩
  split
  · apply obeys_bind
    apply (obeys_idle (idle_markUncertain _ _)).mono
    intro uncertain later _
    exact obeys_raise
  · exact (obeys_idle (idle_resolve _ _)).mono fun _ _ _ => trivial

theorem obeys_attemptDelivery (candidate : DeliveryCandidate py)
    (target : DeliveryTarget py) (providerId : String) (key : DeliveryKey) :
    Obeys deliveryProtocol (fun _ _ => True) role
      (DeliveryService.attemptDelivery candidate target providerId key)
      fun _ _ => True := by
  refine obeys_bind (obeys_request fun requestedAt _ => ⟨role, rfl, ?_⟩)
  refine obeys_bind (obeys_request fun suffix _ => ⟨role, rfl, ?_⟩)
  refine obeys_bind (obeys_ofOutcome fun id _ => ?_)
  refine obeys_bind (obeys_ofOutcome fun pending built => ?_)
  have keys := new_key built
  apply obeys_bind
  apply obeys_request
  intro begun _
  cases begun with
  | ok operation =>
      exact ⟨some pending.key, rfl,
        obeys_deliverBegun _ _ _ _ (congrArg some keys)⟩
  | error failure =>
      refine ⟨role, rfl, ?_⟩
      unfold DeliveryService.afterBegin
      split
      · rename_i same
        cases same
      · refine obeys_bind (obeys_request fun latest _ => ⟨role, rfl, ?_⟩)
        refine obeys_bind (obeys_ofOutcome fun concurrent _ => ?_)
        split
        · exact obeys_raise
        · exact obeys_pure trivial
      · exact obeys_raise

theorem obeys_deliver (candidateId : String) (target : DeliveryTarget py)
    (provider : String) (retryFailed : Bool) :
    Obeys deliveryProtocol (fun _ _ => True) role
      (DeliveryService.deliver candidateId target provider retryFailed)
      fun _ _ => True := by
  apply obeys_bind
  apply (obeys_idle (idle_candidate candidateId)).mono
  intro candidate later same
  rw [same]
  refine obeys_bind (obeys_ofOutcome fun providerId _ => ?_)
  refine obeys_bind (obeys_request fun latest _ => ⟨role, rfl, ?_⟩)
  refine obeys_bind (obeys_ofOutcome fun known _ => ?_)
  have attempt : Obeys deliveryProtocol (fun _ _ => True) role
      (DeliveryService.attemptDelivery candidate target providerId
        (candidateId, target.targetId.value, providerId)) fun _ _ => True :=
    obeys_attemptDelivery candidate target providerId _
  have observe : ∀ id, Obeys deliveryProtocol (fun _ _ => True) role
      (DeliveryService.reconcile id provider : DeliveryAction py _) fun _ _ => True :=
    fun id => (obeys_idle (idle_reconcile id provider)).mono fun _ _ _ => trivial
  unfold DeliveryService.afterLatest
  split
  · exact attempt
  · split
    · exact obeys_pure trivial
    · exact observe _
    · exact observe _
    · split_ifs
      · exact attempt
      · exact obeys_pure trivial

end Obeys

/-! ## The invariant -/

/-- Some operation of the ledger has the key. -/
def Ledger.Known (ledger : Ledger py) (key : DeliveryKey) : Prop :=
  ∃ id operation, ledger.operations.get? id = some operation ∧ operation.key = key

theorem Evolves.known {before after : Ledger py} (evolves : Evolves before after)
    {key : DeliveryKey} (known : before.Known key) : after.Known key := by
  obtain ⟨id, operation, found, same⟩ := known
  obtain ⟨later, foundLater, keys, _⟩ := evolves id operation found
  exact ⟨id, later, foundLater, keys.trans same⟩

/-- Deliveries and callers about to deliver for a key: together at most one, and
only when the ledger knows the key. -/
structure Delivering {Caller : Type} (repository : DeliveryRepository py)
    (key : DeliveryKey) (world : DeliveryWorld) (roles : Caller → Option DeliveryKey) :
    Prop where
  ledger : ∃ ledger : Ledger py, Holds repository world.file ledger ∧
    ((∃ caller, roles caller = some key) ∨ key ∈ world.delivered.map operationKey →
      ledger.Known key)
  alone : ∀ caller other, roles caller = some key → roles other = some key →
    caller = other
  unspent : ∀ caller, roles caller = some key →
    key ∉ world.delivered.map operationKey
  once : (world.delivered.map operationKey).count key ≤ 1

/-- The operations that can be read from the file. -/
def recordedOperations (repository : DeliveryRepository py) (file : DeliveryFile) :
    List (DeliveryOperation py) :=
  match repository.operations file with
  | .ok operations => operations
  | .error _ => []

theorem mem_recordedOperations {file : DeliveryFile} {ledger : Ledger py}
    (holds : Holds repository file ledger) {id : String}
    {operation : DeliveryOperation py}
    (found : ledger.operations.get? id = some operation) :
    operation ∈ recordedOperations repository file := by
  rw [recordedOperations, operations_holds holds]
  apply List.mem_mergeSort.mpr
  exact List.mem_map.mpr ⟨(id, operation), Dict.mem_entries_iff.mpr found, rfl⟩

/-- No operation of the key is resolved when one is about to begin. -/
def KeyUnsettled (repository : DeliveryRepository py) (key : DeliveryKey)
    (world : DeliveryWorld) : DeliveryEffect py → Prop
  | .beginOperation operation =>
      operation.key = operationKey key →
        ∀ other ∈ recordedOperations repository world.file,
          other.key = operation.key → other.state.terminal = false
  | _ => True

instance (repository : DeliveryRepository py) (key : DeliveryKey)
    (world : DeliveryWorld) (effect : DeliveryEffect py) :
    Decidable (KeyUnsettled repository key world effect) :=
  match effect with
  | .beginOperation operation =>
      inferInstanceAs (Decidable (operation.key = operationKey key →
        ∀ other ∈ recordedOperations repository world.file,
          other.key = operation.key → other.state.terminal = false))
  | .getCandidate _ => .isTrue trivial
  | .getOperation _ => .isTrue trivial
  | .latestOperation _ => .isTrue trivial
  | .updateOperation _ => .isTrue trivial
  | .deliver _ _ => .isTrue trivial
  | .reconcile _ _ => .isTrue trivial
  | .append _ _ => .isTrue trivial
  | .now => .isTrue trivial
  | .hex => .isTrue trivial

section Steps

variable {Caller : Type} [DecidableEq Caller] {key : DeliveryKey}
variable {world after : DeliveryWorld} {roles : Caller → Option DeliveryKey}
variable {caller : Caller}

omit [DecidableEq Caller] in
/-- Whatever happens to the file, the ledger behind it evolves. -/
theorem Delivering.of_evolves (delivering : Delivering repository key world roles)
    {file : DeliveryFile}
    (evolves : ∀ ledger : Ledger py, Holds repository world.file ledger →
      ∃ later, Holds repository file later ∧ Evolves ledger later) :
    Delivering repository key { world with file := file } roles := by
  obtain ⟨⟨ledger, holds, known⟩, alone, unspent, once⟩ := delivering
  obtain ⟨later, held, kept⟩ := evolves ledger holds
  exact ⟨⟨later, held, fun present => kept.known (known present)⟩, alone, unspent, once⟩

/-- A caller may take up another key. -/
theorem Delivering.other_role (delivering : Delivering repository key world roles)
    {later : Option DeliveryKey} (other : later ≠ some key) :
    Delivering repository key world (Function.update roles caller later) := by
  have credited : ∀ holder, Function.update roles caller later holder = some key →
      roles holder = some key := by
    intro holder role
    by_cases same : holder = caller
    · rw [same, Function.update_self] at role
      exact absurd role other
    · rwa [Function.update_of_ne same] at role
  obtain ⟨⟨ledger, holds, known⟩, alone, unspent, once⟩ := delivering
  refine ⟨⟨ledger, holds, ?_⟩, ?_, ?_, once⟩
  · intro present
    apply known
    rcases present with ⟨holder, role⟩ | delivered
    · exact Or.inl ⟨holder, credited holder role⟩
    · exact Or.inr delivered
  · intro first second firstRole secondRole
    exact alone first second (credited first firstRole) (credited second secondRole)
  · intro holder role
    exact unspent holder (credited holder role)

/-- Before an operation begins no caller is about to deliver for its key, and
nobody has delivered. -/
theorem Delivering.begin (delivering : Delivering repository key world roles)
    {operation persisted : DeliveryOperation py} {file : DeliveryFile}
    (same : operation.key = key)
    (unsettled : ∀ other ∈ recordedOperations repository world.file,
      other.key = operation.key → other.state.terminal = false)
    (begun : repository.beginOperation world.file operation = .ok (persisted, file)) :
    Delivering repository key { world with file := file }
      (Function.update roles caller (some operation.key)) := by
  obtain ⟨⟨ledger, holds, known⟩, alone, unspent, once⟩ := delivering
  obtain ⟨_, shape, fresh, resolved, later, held, stored⟩ := beginOperation_ok holds begun
  have unknown : ¬ ledger.Known key := by
    intro present
    obtain ⟨id, other, found, keys⟩ := present
    have terminal := resolved id other found (keys.trans same.symm)
    have open_ := unsettled other (mem_recordedOperations holds found)
      (keys.trans same.symm)
    rw [terminal] at open_
    cases open_
  have nobody : ∀ holder, roles holder ≠ some key := by
    intro holder role
    exact unknown (known (Or.inl ⟨holder, role⟩))
  have nothing : key ∉ world.delivered.map operationKey := by
    intro delivered
    exact unknown (known (Or.inr delivered))
  have only : ∀ holder,
      Function.update roles caller (some operation.key) holder = some key →
        holder = caller := by
    intro holder role
    by_contra different
    rw [Function.update_of_ne different] at role
    exact nobody holder role
  refine ⟨⟨later, held, ?_⟩, ?_, ?_, once⟩
  · intro _
    refine ⟨operation.operationId.value, persisted, ?_, ?_⟩
    · rw [stored]
      exact Dict.get?_set_self _ _ _
    · rw [shape]
      exact same
  · intro first second firstRole secondRole
    rw [only first firstRole, only second secondRole]
  · intro _ _
    exact nothing

/-- A delivery uses up what its caller has begun. -/
theorem Delivering.deliver (delivering : Delivering repository key world roles)
    {delivery : DeliveryKey} (role : roles caller = some (operationKey delivery)) :
    Delivering repository key { world with delivered := delivery :: world.delivered }
      (Function.update roles caller none) := by
  by_cases same : operationKey delivery = key
  · rw [same] at role
    obtain ⟨⟨ledger, holds, known⟩, alone, unspent, once⟩ := delivering
    have nobody : ∀ holder, Function.update roles caller none holder ≠ some key := by
      intro holder held
      by_cases atCaller : holder = caller
      · rw [atCaller, Function.update_self] at held
        cases held
      · rw [Function.update_of_ne atCaller] at held
        exact atCaller (alone holder caller held role)
    have fresh := unspent caller role
    refine ⟨⟨ledger, holds, fun _ => known (Or.inl ⟨caller, role⟩)⟩, ?_, ?_, ?_⟩
    · intro first _ firstRole
      exact absurd firstRole (nobody first)
    · intro holder held
      exact absurd held (nobody holder)
    · rw [List.map_cons, same, List.count_cons_self,
        List.count_eq_zero_of_not_mem fresh]
  · have idle : Delivering repository key world (Function.update roles caller none) :=
      delivering.other_role (by simp)
    obtain ⟨⟨ledger, holds, known⟩, alone, unspent, once⟩ := idle
    have delivered : key ∈ (delivery :: world.delivered).map operationKey ↔
        key ∈ world.delivered.map operationKey := by
      rw [List.map_cons, List.mem_cons]
      constructor
      · intro member
        rcases member with atHead | inTail
        · exact absurd atHead.symm same
        · exact inTail
      · exact Or.inr
    refine ⟨⟨ledger, holds, ?_⟩, alone, ?_, ?_⟩
    · intro present
      rw [delivered] at present
      exact known present
    · intro holder held
      rw [delivered]
      exact unspent holder held
    · rw [List.map_cons, List.count_cons_of_ne same]
      exact once

/-- One permitted effect of one caller. -/
theorem Delivering.step {target : DeliveryKey}
    (delivering : Delivering repository (operationKey target) world roles)
    {effect : DeliveryEffect py} {reply : DeliveryReply effect}
    {later : Option DeliveryKey} (unsettled : KeyUnsettled repository target world effect)
    (performed : DeliveryStep repository world effect reply after)
    (moved : deliveryProtocol (roles caller) effect reply = some later) :
    Delivering repository (operationKey target) after
      (Function.update roles caller later) := by
  cases effect with
  | beginOperation operation =>
      obtain ⟨answered, changed⟩ := performed
      cases begun : repository.beginOperation world.file operation with
      | error failure =>
          rw [begun] at answered changed
          rw [answered] at moved
          cases moved
          rw [changed, Function.update_eq_self]
          exact delivering
      | ok result =>
          obtain ⟨persisted, file⟩ := result
          rw [begun] at answered changed
          rw [answered] at moved
          cases moved
          rw [changed]
          by_cases same : operation.key = operationKey target
          · exact delivering.begin same (unsettled same) begun
          · apply Delivering.other_role
            · apply delivering.of_evolves
              intro ledger holds
              have served := holds_serve holds (.beginOperation operation)
              rw [serve, begun] at served
              exact served
            · intro equal
              exact same (Option.some.inj equal)
  | updateOperation operation =>
      obtain ⟨_, changed⟩ := performed
      cases moved
      rw [changed, Function.update_eq_self]
      apply delivering.of_evolves
      intro ledger holds
      exact holds_serve holds (.updateOperation operation)
  | deliver providerId request =>
      cases performed
      rw [deliveryProtocol] at moved
      split_ifs at moved with role
      cases moved
      exact delivering.deliver role
  | getCandidate candidateId =>
      cases moved
      rw [performed.2, Function.update_eq_self]
      exact delivering
  | getOperation operationId =>
      cases moved
      rw [performed.2, Function.update_eq_self]
      exact delivering
  | latestOperation key =>
      cases moved
      rw [performed.2, Function.update_eq_self]
      exact delivering
  | reconcile providerId request =>
      cases moved
      cases performed
      rw [Function.update_eq_self]
      exact delivering
  | append eventType data =>
      cases moved
      cases performed
      rw [Function.update_eq_self]
      exact delivering
  | now =>
      cases moved
      cases performed
      rw [Function.update_eq_self]
      exact delivering
  | hex =>
      cases moved
      cases performed
      rw [Function.update_eq_self]
      exact delivering

end Steps

/-! ## All interleavings -/

/-- The arguments of one `deliver` call. -/
structure DeliverCall (py : Interpreter) where
  candidateId : String
  target : DeliveryTarget py
  provider : String
  retryFailed : Bool

def DeliverCall.program (call : DeliverCall py) :
    DeliveryAction py (DeliveryOperation py) :=
  DeliveryService.deliver call.candidateId call.target call.provider call.retryFailed

/-- The callers in front of their first effect. -/
def deliveries {Caller : Type} (file : DeliveryFile) (calls : Caller → DeliverCall py) :
    Configuration (DeliveryEffect py) DeliveryReply Failure (DeliveryOperation py)
      DeliveryWorld Caller :=
  ⟨⟨file, []⟩, fun caller => (calls caller).program⟩

/-- Deliveries of any callers in any interleaving: at most one for a key, as long as
no caller begins an operation of the key after another one of it was resolved. -/
theorem delivered_atMostOnce {Caller : Type} [DecidableEq Caller]
    (repository : DeliveryRepository py) (history : List (Call py)) (key : DeliveryKey)
    (calls : Caller → DeliverCall py)
    {final : Configuration (DeliveryEffect py) DeliveryReply Failure
      (DeliveryOperation py) DeliveryWorld Caller}
    (turns : Turns (DeliveryStep repository) (KeyUnsettled repository key)
      (deliveries (serveAll repository none history) calls) final) :
    final.world.delivered.count key ≤ 1 := by
  obtain ⟨ledger, holds, _⟩ := holds_serveAll (holds_none repository) history
  have start : Delivering repository (operationKey key)
      ⟨serveAll repository none history, []⟩ fun _ : Caller => none := by
    refine ⟨⟨ledger, holds, ?_⟩, ?_, ?_, by simp⟩
    · intro present
      rcases present with ⟨caller, role⟩ | delivered
      · cases role
      · cases delivered
    · intro caller _ role
      cases role
    · intro caller role
      cases role
  obtain ⟨roles, delivering⟩ := Turns.invariant
    (fun world roles =>
      Delivering repository (operationKey key) world roles)
    (fun _ _ _ _ _ _ _ holds unsettled performed moved =>
      holds.step unsettled performed moved)
    (fun _ _ _ _ _ _ _ => trivial) start
    (fun caller => obeys_deliver _ _ _ _) turns
  exact List.count_le_count_map.trans delivering.once

/-! ## One delivery, effect by effect -/

section Effects

variable {candidate : DeliveryCandidate py} {target : DeliveryTarget py}
variable {providerId : String}

/-- The reads in front of a first attempt. -/
theorem deliver_reads {candidateId provider : String} {retryFailed : Bool}
    (candidate : DeliveryCandidate py)
    (read : (identifier py "delivery provider id").run (.string provider) =
      .ok providerId) :
    ∃ first second,
      DeliveryService.deliver candidateId target provider retryFailed =
        .perform (.getCandidate candidateId) first ∧
      first (.ok (some candidate)) = .perform
        (.latestOperation (candidateId, target.targetId.value, providerId)) second ∧
      second (.ok none) = DeliveryService.attemptDelivery candidate target providerId
        (candidateId, target.targetId.value, providerId) := by
  refine ⟨_, fun latest => ofOutcome latest >>= DeliveryService.afterLatest provider
    candidate target providerId (candidateId, target.targetId.value, providerId)
    retryFailed, rfl, ?_, rfl⟩
  exact congrArg (fun outcome => (ofOutcome outcome : DeliveryAction py String) >>=
    fun providerId =>
      DeliveryAction.latestOperation (candidateId, target.targetId.value, providerId) >>=
        fun latest => ofOutcome latest >>= DeliveryService.afterLatest provider candidate
          target providerId (candidateId, target.targetId.value, providerId)
          retryFailed) read

/-- The intent of a new operation. -/
theorem attemptDelivery_begins (key : DeliveryKey) {requestedAt suffix : String}
    {id : Checked (identifier py "delivery operation id")}
    {pending : DeliveryOperation py}
    (named : DeliveryService.operationId py candidate.candidateId suffix = .ok id)
    (built : DeliveryOperation.new py id.value 1 candidate.candidateId target providerId
      DeliveryOperationState.pending.value requestedAt "" none "" = .ok pending) :
    ∃ first second,
      DeliveryService.attemptDelivery candidate target providerId key =
        .perform .now first ∧
      first requestedAt = .perform .hex second ∧
      second suffix = .perform (.beginOperation pending)
        (DeliveryService.afterBegin candidate target providerId key) := by
  refine ⟨_, _, rfl, rfl, ?_⟩
  have begins : (ofOutcome (DeliveryOperation.new py id.value 1 candidate.candidateId
      target providerId DeliveryOperationState.pending.value requestedAt "" none "") >>=
        fun pending => DeliveryAction.beginOperation pending >>=
          DeliveryService.afterBegin candidate target providerId key) =
      .perform (.beginOperation pending)
        (DeliveryService.afterBegin candidate target providerId key) := by
    rw [built]
    rfl
  rw [← begins]
  exact congrArg (fun outcome => ofOutcome outcome >>= fun id =>
    ofOutcome (DeliveryOperation.new py (Checked.value id) 1 candidate.candidateId
      target providerId DeliveryOperationState.pending.value requestedAt "" none "") >>=
        fun pending => DeliveryAction.beginOperation pending >>=
          DeliveryService.afterBegin candidate target providerId key) named

/-- The delivery of a begun operation. -/
theorem afterBegin_delivers (candidate : DeliveryCandidate py)
    (target : DeliveryTarget py) (providerId : String) (key : DeliveryKey)
    (operation : DeliveryOperation py) (result : DeliveryResult py) :
    ∃ data first second,
      DeliveryService.afterBegin candidate target providerId key (.ok operation) =
        .perform (.append "project_delivery_started" data) first ∧
      first () = .perform
        (.deliver providerId ⟨operation.operationId, candidate, target⟩) second ∧
      second (.ok result) = DeliveryService.resolve operation result :=
  ⟨_, _, _, rfl, rfl, rfl⟩

/-- The record of a success. -/
theorem resolve_records {operation done : DeliveryOperation py}
    {result : DeliveryResult py} {completedAt : String}
    (succeeded : result.outcome = .succeeded)
    (built : DeliveryOperation.new py operation.operationId.value operation.sequence
      operation.candidateId.value operation.target operation.providerId.value
      DeliveryOperationState.succeeded.value operation.requestedAt.value completedAt
      (some result) "" = .ok done) :
    ∃ first second,
      DeliveryService.resolve operation result = .perform .now first ∧
        first completedAt = .perform (.updateOperation done) second := by
  obtain ⟨outcome, references, message⟩ := result
  cases succeeded
  refine ⟨_, fun updated => ofOutcome updated >>= fun resolved =>
    DeliveryAction.append "project_delivery_succeeded"
      (DeliveryService.eventData resolved ++
        [("references", stringArray references.value),
          ("message", .string message.value)]) >>= fun _ => pure resolved, rfl, ?_⟩
  exact congrArg (fun outcome => ofOutcome outcome >>= fun replaced =>
    DeliveryAction.updateOperation replaced >>= fun updated =>
      ofOutcome updated >>= fun resolved =>
        DeliveryAction.append "project_delivery_succeeded"
          (DeliveryService.eventData resolved ++
            [("references", stringArray references.value),
              ("message", .string message.value)]) >>= fun _ => pure resolved) built

end Effects

/-! ## A late caller -/

/-- Whatever callers there are, at most one of them delivers for a key. -/
def DeliversAtMostOnce (py : Interpreter) : Prop :=
  ∀ (repository : DeliveryRepository py) (history : List (Call py)) (key : DeliveryKey)
    (Caller : Type) [DecidableEq Caller] (calls : Caller → DeliverCall py)
    (final : Configuration (DeliveryEffect py) DeliveryReply Failure
      (DeliveryOperation py) DeliveryWorld Caller),
    (∀ caller, (calls caller).retryFailed = false) →
      Turns (DeliveryStep repository) (fun _ _ => True)
        (deliveries (serveAll repository none history) calls) final →
        final.world.delivered.count key ≤ 1

section Sample

/-- An interpreter that knows the digests of the sample's two contents. -/
def sampleInterpreter : Interpreter where
  __ := asciiPython
  sha256 content :=
    if content.size = 101 then
      "0c1c4e77eb312c7d43ea20fc51c54a9a500a029455d49f68ec34f47f83c981ad"
    else "f423b8bff273c3abce1def6e7d1f17c536753822b28999f9fc6f817198332b2f"
  floats := ⟨id, fun _ => rfl⟩
  otherTimestamps _ := none

def sampleRepository : DeliveryRepository sampleInterpreter :=
  ⟨⟨"demo", by decide +kernel⟩⟩

/-- A stored candidate of an achieved Milestone. -/
def sampleHistory : List (Call sampleInterpreter) :=
  match DeliveryCandidate.fromBaseline sampleInterpreter "demo" "v1"
    [("achieved_at", .string "2026-01-01T00:00:00+00:00"),
      ("definition_revision", .int 1),
      ("delivery", .object [("policy", .string "candidate")])]
    "2026-01-01T00:00:00+00:00" with
  | .ok candidate => [.recordCandidate candidate]
  | .error _ => []

def sampleTarget : DeliveryTarget sampleInterpreter :=
  ⟨⟨"registry", by decide +kernel⟩, ⟨"", by decide +kernel⟩⟩

def sampleCandidateId : String := "v1-f423b8bff273c3abce1def6e"

def sampleCall : DeliverCall sampleInterpreter :=
  ⟨sampleCandidateId, sampleTarget, "s3", false⟩

def sampleResult : DeliveryResult sampleInterpreter :=
  ⟨.succeeded, ⟨[], by decide +kernel⟩, ⟨"", by decide +kernel⟩⟩

/-- A provider that succeeds, and fresh suffixes. -/
def sampleHandle (world : DeliveryWorld) :
    (effect : DeliveryEffect sampleInterpreter) → DeliveryReply effect × DeliveryWorld
  | .getCandidate candidateId =>
      (sampleRepository.getCandidate world.file candidateId, world)
  | .getOperation operationId =>
      (sampleRepository.getOperation world.file operationId, world)
  | .latestOperation key => (sampleRepository.latestOperation world.file key, world)
  | .beginOperation operation =>
      ((sampleRepository.beginOperation world.file operation).map Prod.fst,
        { world with
          file := fileAfter world.file
            (sampleRepository.beginOperation world.file operation) })
  | .updateOperation operation =>
      ((sampleRepository.updateOperation world.file operation).map Prod.fst,
        { world with
          file := fileAfter world.file
            (sampleRepository.updateOperation world.file operation) })
  | .deliver providerId request =>
      (.ok sampleResult,
        { world with delivered := request.key providerId :: world.delivered })
  | .reconcile _ _ => (.ok none, world)
  | .append _ _ => ((), world)
  | .now => ("2026-01-02T00:00:00+00:00", world)
  | .hex =>
      (if world.delivered = [] then "0000000000000000" else "1111111111111111", world)

theorem sampleHandle_step (world : DeliveryWorld)
    (effect : DeliveryEffect sampleInterpreter) :
    DeliveryStep sampleRepository world effect (sampleHandle world effect).1
      (sampleHandle world effect).2 := by
  cases effect with
  | beginOperation operation => exact ⟨rfl, rfl⟩
  | updateOperation operation => exact ⟨rfl, rfl⟩
  | getCandidate candidateId => exact ⟨rfl, rfl⟩
  | getOperation operationId => exact ⟨rfl, rfl⟩
  | latestOperation key => exact ⟨rfl, rfl⟩
  | deliver providerId request => rfl
  | reconcile providerId request => rfl
  | append eventType data => rfl
  | now => rfl
  | hex => rfl

/-- Two callers with the same arguments. -/
def sampleStart : Configuration (DeliveryEffect sampleInterpreter) DeliveryReply Failure
    (DeliveryOperation sampleInterpreter) DeliveryWorld Bool :=
  deliveries (serveAll sampleRepository none sampleHistory) fun _ => sampleCall

def sampleKey : DeliveryKey := (sampleCandidateId, "registry", "s3")

/-- One caller reads that nothing was attempted, the other one delivers and succeeds,
then the first one goes on. -/
def lateSchedule : List Bool :=
  [true, true] ++ List.replicate 9 false ++ List.replicate 5 true

/-- The history leaves the candidate and nothing else. -/
theorem sampleHistory_holds : ∃ candidate : DeliveryCandidate sampleInterpreter,
    candidate.candidateId = sampleCandidateId ∧
      Holds sampleRepository (serveAll sampleRepository none sampleHistory)
        (Ledger.empty.addCandidate candidate) := by
  have evaluated : (DeliveryCandidate.fromBaseline sampleInterpreter "demo" "v1"
      [("achieved_at", .string "2026-01-01T00:00:00+00:00"),
        ("definition_revision", .int 1),
        ("delivery", .object [("policy", .string "candidate")])]
      "2026-01-01T00:00:00+00:00").toOption.map (fun candidate =>
        (candidate.candidateId, candidate.projectId.value)) =
          some (sampleCandidateId, "demo") := by
    decide +kernel
  obtain ⟨candidate, built, same⟩ := exists_ok_of_toOption evaluated
  rw [Prod.mk.injEq] at same
  obtain ⟨identity, project⟩ := same
  have own : candidate.projectId = sampleRepository.projectId := Checked.ext project
  obtain ⟨answer, after, recorded, holds⟩ :=
    recordCandidate_new (holds_none sampleRepository) own rfl
  refine ⟨candidate, identity, ?_⟩
  rw [sampleHistory, built]
  change Holds sampleRepository
    (fileAfter none (sampleRepository.recordCandidate none candidate)) _
  rw [recorded]
  exact holds

section Alone

variable {guard : DeliveryWorld → DeliveryEffect sampleInterpreter → Prop}
variable [∀ world effect, Decidable (guard world effect)]
variable {programs : Bool → DeliveryAction sampleInterpreter
  (DeliveryOperation sampleInterpreter)}
variable {world : DeliveryWorld} {ledger : Ledger sampleInterpreter}
variable {candidate : DeliveryCandidate sampleInterpreter}

/-- A caller reads the candidate and that nothing was attempted yet. -/
theorem follow_reads (caller : Bool) (schedule : List Bool) (lenient : ∀ world effect,
      (∀ operation, effect ≠ .beginOperation operation) → guard world effect)
    (holds : Holds sampleRepository world.file ledger)
    (known : ledger.candidates.get? sampleCandidateId = some candidate)
    (unattempted : ledger.operations.entries = [])
    (present : programs caller = sampleCall.program) :
    follow sampleHandle guard (caller :: caller :: schedule)
        ⟨world, programs⟩ =
      follow sampleHandle guard schedule
        ⟨world, Function.update programs caller (DeliveryService.attemptDelivery
          candidate sampleTarget "s3" sampleKey)⟩ := by
  have found : sampleHandle world (.getCandidate sampleCandidateId) =
      (.ok (some candidate), world) := by
    rw [sampleHandle, getCandidate_holds holds, known]
  have latest : sampleHandle world (.latestOperation sampleKey) = (.ok none, world) := by
    rw [sampleHandle, DeliveryRepository.latestOperation, operations_holds holds,
      unattempted, List.map_nil, List.mergeSort_nil]
    rfl
  have provider : (identifier sampleInterpreter "delivery provider id").run
      (.string "s3") = .ok "s3" := by
    rw [identifier_run]
    decide +kernel
  obtain ⟨first, second, reads, looks, attempts⟩ :=
    deliver_reads candidate provider
  refine (follow_turn (present.trans reads) (lenient _ _ (by simp)) found).trans ?_
  refine (follow_update looks (lenient _ _ (by simp)) latest).trans ?_
  rw [attempts]
  rfl

/-- The suffix that the next operation of the sample takes. -/
def sampleSuffix (world : DeliveryWorld) : String :=
  if world.delivered = [] then "0000000000000000" else "1111111111111111"

/-- The intent of an attempt passes its checks. -/
theorem samplePending (identity : candidate.candidateId = sampleCandidateId)
    (world : DeliveryWorld) :
    ∃ id pending, DeliveryService.operationId sampleInterpreter candidate.candidateId
        (sampleSuffix world) = .ok id ∧
      DeliveryOperation.new sampleInterpreter id.value 1 candidate.candidateId
        sampleTarget "s3" DeliveryOperationState.pending.value
        "2026-01-02T00:00:00+00:00" "" none "" = .ok pending ∧
      pending.operationId.value =
        sampleCandidateId ++ "-delivery-" ++ sampleSuffix world ∧
      pending.state = .pending ∧ pending.key = sampleKey := by
  have evaluated : ∀ suffix ∈ ["0000000000000000", "1111111111111111"],
      (DeliveryService.operationId sampleInterpreter sampleCandidateId suffix >>=
        fun id => DeliveryOperation.new sampleInterpreter id.value 1 sampleCandidateId
          sampleTarget "s3" DeliveryOperationState.pending.value
          "2026-01-02T00:00:00+00:00" "" none "").toOption.map
            (fun pending => (pending.operationId.value, pending.state, pending.key)) =
        some (sampleCandidateId ++ "-delivery-" ++ suffix, .pending, sampleKey) := by
    decide +kernel
  have listed : sampleSuffix world ∈ ["0000000000000000", "1111111111111111"] := by
    unfold sampleSuffix
    split_ifs <;> simp
  obtain ⟨pending, built, same⟩ := exists_ok_of_toOption (evaluated _ listed)
  obtain ⟨id, named, constructed⟩ := bind_eq_ok.mp built
  simp only [Prod.mk.injEq] at same
  rw [identity]
  exact ⟨id, pending, named, constructed, same⟩

/-- An attempt begins when all operations are resolved, and delivers. -/
theorem follow_attempt (caller : Bool) (schedule : List Bool) (lenient : ∀ world effect,
      (∀ operation, effect ≠ .beginOperation operation) → guard world effect)
    (begins : ∀ operation, guard world (.beginOperation operation))
    (holds : Holds sampleRepository world.file ledger)
    (identity : candidate.candidateId = sampleCandidateId)
    (known : ledger.candidates.get? sampleCandidateId = some candidate)
    (absent : ledger.operations.get?
      (sampleCandidateId ++ "-delivery-" ++ sampleSuffix world) = none)
    (resolved : ∀ id other, ledger.operations.get? id = some other →
      other.state.terminal = true)
    (present : programs caller = DeliveryService.attemptDelivery candidate sampleTarget
      "s3" sampleKey) :
    ∃ after, ∃ operation : DeliveryOperation sampleInterpreter,
      ∃ later : Ledger sampleInterpreter,
        operation.operationId.value =
          sampleCandidateId ++ "-delivery-" ++ sampleSuffix world ∧
        operation.state = .pending ∧ operation.key = sampleKey ∧
        Holds sampleRepository after later ∧ later.candidates = ledger.candidates ∧
        later.operations =
          ledger.operations.set operation.operationId.value operation ∧
        follow sampleHandle guard
            (caller :: caller :: caller :: caller :: caller :: schedule)
            ⟨world, programs⟩ =
          follow sampleHandle guard schedule
            ⟨⟨after, sampleKey :: world.delivered⟩, Function.update programs caller
              (DeliveryService.resolve operation sampleResult)⟩ := by
  obtain ⟨id, pending, named, built, labelled, fresh, keyed⟩ :=
    samplePending identity world
  have candidateKnown : ledger.candidates.get? pending.candidateId.value ≠ none := by
    have same : pending.candidateId.value = sampleCandidateId :=
      congrArg Prod.fst keyed
    rw [same, known]
    simp
  rw [← labelled] at absent
  obtain ⟨after, later, begun, held, candidates, operations⟩ :=
    beginOperation_resolved holds fresh absent candidateKnown
      (fun id other found _ => resolved id other found)
  refine ⟨after, pending.withSequence ledger.nextSequence ledger.positive, later,
    labelled, fresh, keyed, held, candidates, operations, ?_⟩
  obtain ⟨first, second, asks, draws, intends⟩ :=
    attemptDelivery_begins sampleKey named built
  obtain ⟨data, third, fourth, reports, delivers, resolves⟩ :=
    afterBegin_delivers candidate sampleTarget "s3" sampleKey
      (pending.withSequence ledger.nextSequence ledger.positive) sampleResult
  have beginning : sampleHandle world (.beginOperation pending) =
      (.ok (pending.withSequence ledger.nextSequence ledger.positive),
        { world with file := after }) := by
    rw [sampleHandle, begun]
    rfl
  refine (follow_turn (present.trans asks) (lenient _ _ (by simp)) rfl).trans ?_
  refine (follow_update draws (lenient _ _ (by simp)) rfl).trans ?_
  refine (follow_update intends (begins pending) beginning).trans ?_
  refine (follow_update reports (lenient _ _ (by simp)) rfl).trans ?_
  refine (follow_update delivers (lenient _ _ (by simp)) rfl).trans ?_
  rw [resolves, DeliveryRequest.key, identity]
  rfl

/-- The success of a pending operation. -/
def sampleDone (operation : DeliveryOperation sampleInterpreter) :
    DeliveryOperation sampleInterpreter :=
  { operation with
    state := .succeeded
    completedAt := ⟨"2026-01-02T00:00:00+00:00", by decide +kernel⟩
    result := some sampleResult
    diagnostic := ⟨"", by decide +kernel⟩
    consistent := by decide +kernel }

/-- The success of a delivered operation is recorded. -/
theorem follow_record (caller : Bool) (schedule : List Bool) (lenient : ∀ world effect,
      (∀ operation, effect ≠ .beginOperation operation) → guard world effect)
    (holds : Holds sampleRepository world.file ledger)
    {operation : DeliveryOperation sampleInterpreter}
    (found : ledger.operations.get? operation.operationId.value = some operation)
    (pending : operation.state = .pending)
    (present : programs caller = DeliveryService.resolve operation sampleResult) :
    ∃ after, ∃ later : Ledger sampleInterpreter, ∃ program,
      Holds sampleRepository after later ∧ later.candidates = ledger.candidates ∧
      later.operations =
        ledger.operations.set operation.operationId.value (sampleDone operation) ∧
      follow sampleHandle guard (caller :: caller :: schedule) ⟨world, programs⟩ =
        follow sampleHandle guard schedule
          ⟨{ world with file := after }, Function.update programs caller program⟩ := by
  have unresolved : operation.state.terminal = false := by
    rw [pending]
    rfl
  have next : (sampleDone operation).state ∈
      DeliveryRepository.allowed operation.state := by
    rw [pending]
    change DeliveryOperationState.succeeded ∈ _
    decide
  have stored : ledger.operations.get? (sampleDone operation).operationId.value =
      some operation := found
  obtain ⟨after, later, updated, held, candidates, operations⟩ :=
    updateOperation_unresolved holds stored rfl rfl unresolved next
  obtain ⟨first, second, asks, records⟩ :=
    resolve_records (rfl : sampleResult.outcome = .succeeded)
      (sampleDone operation).new_self
  refine ⟨after, later, second (.ok (sampleDone operation)), held, candidates,
    operations, ?_⟩
  have recording : sampleHandle world (.updateOperation (sampleDone operation)) =
      (.ok (sampleDone operation), { world with file := after }) := by
    rw [sampleHandle, updated]
    rfl
  refine (follow_turn (present.trans asks) (lenient _ _ (by simp)) rfl).trans ?_
  exact follow_update records (lenient _ _ (by simp)) recording

end Alone

/-- Nothing but a begin is guarded. -/
theorem keyUnsettled_lenient (repository : DeliveryRepository py) (key : DeliveryKey)
    (world : DeliveryWorld) (effect : DeliveryEffect py)
    (other : ∀ operation, effect ≠ .beginOperation operation) :
    KeyUnsettled repository key world effect := by
  cases effect with
  | beginOperation operation => exact absurd rfl (other operation)
  | _ => trivial

theorem sampleLedger_known {candidate : DeliveryCandidate sampleInterpreter}
    (identity : candidate.candidateId = sampleCandidateId) :
    (Ledger.empty.addCandidate candidate).candidates.get? sampleCandidateId =
      some candidate := by
  rw [← identity]
  exact Dict.get?_set_self _ _ _

theorem follow_lateSchedule :
    (follow sampleHandle (fun _ _ => True) lateSchedule sampleStart).map
      (fun final => final.world.delivered) = some [sampleKey, sampleKey] := by
  obtain ⟨candidate, identity, found⟩ := sampleHistory_holds
  have holds : Holds sampleRepository sampleStart.world.file
      (Ledger.empty.addCandidate candidate) := found
  have known := sampleLedger_known identity
  have lenient : ∀ (world : DeliveryWorld) (effect : DeliveryEffect sampleInterpreter),
      (∀ operation, effect ≠ .beginOperation operation) → True :=
    fun _ _ _ => trivial
  let attempt := DeliveryService.attemptDelivery candidate sampleTarget "s3" sampleKey
  -- Both callers read before either begins.
  have first := follow_reads true (List.replicate 9 false ++ List.replicate 5 true)
    lenient holds known rfl (rfl : sampleStart.programs true = sampleCall.program)
  have second := follow_reads false (List.replicate 7 false ++ List.replicate 5 true)
    lenient holds known rfl
    (rfl : Function.update sampleStart.programs true attempt false = sampleCall.program)
  -- The early caller delivers and records its success.
  obtain ⟨begunFile, operation, begun, labelled, pending, _, begunHolds, begunKnown,
    begunOperations, third⟩ :=
    follow_attempt false (List.replicate 2 false ++ List.replicate 5 true) lenient
      (fun _ => trivial) holds identity known rfl (fun _ _ found => by cases found)
      (Function.update_self false attempt
        (Function.update sampleStart.programs true attempt))
  have stored : begun.operations.get? operation.operationId.value = some operation := by
    rw [begunOperations]
    exact Dict.get?_set_self _ _ _
  have begunWorld : Holds sampleRepository
      (DeliveryWorld.mk begunFile [sampleKey]).file begun := begunHolds
  obtain ⟨doneFile, done, program, doneHolds, doneKnown, doneOperations, fourth⟩ :=
    follow_record false (List.replicate 5 true) lenient begunWorld stored pending
      (Function.update_self false _ _)
  have doneWorld : Holds sampleRepository
      (DeliveryWorld.mk doneFile [sampleKey]).file done := doneHolds
  -- The late caller finds all operations resolved.
  have only : ∀ id other, done.operations.get? id = some other →
      id = operation.operationId.value ∧ other = sampleDone operation := by
    intro id other present
    rw [doneOperations, begunOperations] at present
    by_cases same : id = operation.operationId.value
    · rw [same, Dict.get?_set_self, Option.some.injEq] at present
      exact ⟨same, present.symm⟩
    · rw [Dict.get?_set_ne _ same, Dict.get?_set_ne _ same] at present
      cases present
  have absent : done.operations.get?
      (sampleCandidateId ++ "-delivery-" ++ sampleSuffix ⟨doneFile, [sampleKey]⟩) =
        none := by
    rw [Option.eq_none_iff_forall_ne_some]
    intro other present
    have clash := (only _ other present).1
    rw [labelled] at clash
    have different : sampleCandidateId ++ "-delivery-" ++ "1111111111111111" ≠
        sampleCandidateId ++ "-delivery-" ++ "0000000000000000" := by
      decide
    exact different clash
  have lateKnown : done.candidates.get? sampleCandidateId = some candidate := by
    rw [doneKnown, begunKnown]
    exact known
  obtain ⟨lastFile, late, final, _, _, _, _, _, _, fifth⟩ :=
    follow_attempt true [] lenient (fun _ => trivial) doneWorld identity lateKnown absent
      (fun id other present => by rw [(only id other present).2]; rfl)
      (by simp [attempt] : Function.update (Function.update (Function.update
        (Function.update sampleStart.programs true attempt) false attempt) false
          (DeliveryService.resolve operation sampleResult)) false program true = attempt)
  have whole := first.trans (second.trans (third.trans (fourth.trans fifth)))
  exact congrArg (Option.map fun final => final.world.delivered) whole

/-- The late caller delivers once more. -/
theorem not_deliversAtMostOnce : ¬ ∀ py, DeliversAtMostOnce py := by
  intro claim
  obtain ⟨final, followed, delivered⟩ := Option.map_eq_some_iff.mp follow_lateSchedule
  have once := claim sampleInterpreter sampleRepository sampleHistory sampleKey Bool
    (fun _ => sampleCall) final (fun _ => rfl) (turns_follow sampleHandle_step followed)
  rw [delivered] at once
  revert once
  decide

theorem follow_early :
    (follow sampleHandle (KeyUnsettled sampleRepository sampleKey)
      (List.replicate 7 true) sampleStart).map (fun final => final.world.delivered) =
        some [sampleKey] := by
  obtain ⟨candidate, identity, found⟩ := sampleHistory_holds
  have holds : Holds sampleRepository sampleStart.world.file
      (Ledger.empty.addCandidate candidate) := found
  have known := sampleLedger_known identity
  have lenient := keyUnsettled_lenient sampleRepository sampleKey
  have begins : ∀ operation, KeyUnsettled sampleRepository sampleKey sampleStart.world
      (.beginOperation operation) := by
    intro operation _ other member
    rw [recordedOperations, operations_holds holds] at member
    cases List.mem_mergeSort.mp member
  have first := follow_reads true (List.replicate 5 true) lenient holds known rfl
    (rfl : sampleStart.programs true = sampleCall.program)
  obtain ⟨file, operation, ledger, _, _, _, _, _, _, second⟩ :=
    follow_attempt true [] lenient begins holds identity known rfl
      (fun _ _ present => by cases present) (Function.update_self true _ _)
  exact congrArg (Option.map fun final => final.world.delivered) (first.trans second)

/-- A caller on its own delivers once. -/
theorem delivered_atMostOnce_sample :
    ∃ final, follow sampleHandle (KeyUnsettled sampleRepository sampleKey)
        (List.replicate 7 true) sampleStart = some final ∧
      final.world.delivered = [sampleKey] ∧
        final.world.delivered.count sampleKey ≤ 1 := by
  obtain ⟨final, followed, delivered⟩ := Option.map_eq_some_iff.mp follow_early
  exact ⟨final, followed, delivered,
    delivered_atMostOnce sampleRepository sampleHistory sampleKey (fun _ => sampleCall)
      (turns_follow sampleHandle_step followed)⟩

end Sample

end Execraft.ProjectExecution.Delivery
