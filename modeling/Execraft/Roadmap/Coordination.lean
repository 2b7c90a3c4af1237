import Execraft.Foundation.Handlers
import Execraft.Foundation.Python
import Execraft.Foundation.Revisions

/-!
# Mutations of a Roadmap and the Project Execution

`RoadmapCanonicalCoordinator`: one edit of two documents, with an intent that is stored before
the first of them is written.  Other editors save the documents at any time.
-/

namespace Execraft.Roadmaps.Coordination

open Foundation

/-! ## Documents -/

inductive DocumentId where
  | projectExecution
  | roadmap (roadmapId : String)
  deriving DecidableEq

inductive DocumentState where
  | before
  | applied
  | converged
  | divergent
  deriving DecidableEq, Repr

def DocumentState.text : DocumentState → String
  | before => "before"
  | applied => "applied"
  | converged => "converged"
  | divergent => "divergent"

/-- `_document_state`. -/
def documentState (revision : Nat) (digest : String) (beforeRevision : Nat)
    (beforeDigest desiredDigest : String) : DocumentState :=
  if revision = beforeRevision ∧ digest = beforeDigest then .before
  else if digest = desiredDigest ∧ revision ≥ beforeRevision + 1 then
    if revision = beforeRevision + 1 then .applied else .converged
  else .divergent

/-! ## Intents -/

inductive IntentPhase where
  | prepared
  | projectExecutionApplied
  | roadmapApplied
  | complete
  | aborted
  deriving DecidableEq, Repr

/-- Nothing is left to write. -/
def IntentPhase.Terminal : IntentPhase → Prop
  | complete => True
  | aborted => True
  | _ => False

instance (phase : IntentPhase) : Decidable phase.Terminal :=
  match phase with
  | .complete | .aborted => .isTrue trivial
  | .prepared | .projectExecutionApplied | .roadmapApplied => .isFalse id

/-- The content of a document is its mapping without the revision. -/
structure CanonicalRoadmapIntent (Content : Type) where
  operationId : String
  projectId : String
  roadmapId : String
  operation : String
  expectedRoadmapRevision : Nat
  expectedProjectExecutionRevision : Nat
  beforeRoadmapDigest : String
  beforeProjectExecutionDigest : String
  desiredRoadmap : Content
  desiredProjectExecution : Content
  phase : IntentPhase := .prepared
  roadmapRevision : Nat := 0
  projectExecutionRevision : Nat := 0
  deriving DecidableEq

/-- An entry of the audit journal. -/
structure JournalRow where
  operationId : String
  projectId : String
  roadmapId : String
  operation : String
  phase : IntentPhase
  reason : String
  roadmapRevision : Nat
  projectExecutionRevision : Nat
  deriving DecidableEq

section Intents

variable {Content : Type}

/-- What `__post_init__` checks of values that are not fixed by their types. -/
def CanonicalRoadmapIntent.problem (intent : CanonicalRoadmapIntent Content) : Option String :=
  if stripString intent.operationId = "" then
    some "coordination operation_id is required"
  else if stripString intent.operation = "" then
    some "coordination operation name is required"
  else if intent.expectedRoadmapRevision < 1 then
    some "coordination Roadmap revision must be positive"
  else if intent.expectedProjectExecutionRevision < 1 then
    some "coordination Project Execution revision must be positive"
  else none

def CanonicalRoadmapIntent.row (intent : CanonicalRoadmapIntent Content) (reason : String) :
    JournalRow where
  operationId := intent.operationId
  projectId := intent.projectId
  roadmapId := intent.roadmapId
  operation := intent.operation
  phase := intent.phase
  reason := reason
  roadmapRevision := intent.roadmapRevision
  projectExecutionRevision := intent.projectExecutionRevision

end Intents

/-! ## Effects -/

inductive Fault where
  /-- The document has another revision than the expected one. -/
  | conflict (message : String)
  | other (message : String)
  deriving DecidableEq

inductive Effect (Content : Type) where
  | loadPending
  | savePending (intent : CanonicalRoadmapIntent Content)
  | appendJournal (row : JournalRow)
  | unlinkPending
  /-- `uuid.uuid4().hex` -/
  | newOperationId
  | load (document : DocumentId)
  | save (document : DocumentId) (desired : Content) (expectedRevision : Nat)

abbrev Answer {Content : Type} : Effect Content → Type
  | .loadPending => Option (CanonicalRoadmapIntent Content)
  | .savePending _ => Unit
  | .appendJournal _ => Unit
  | .unlinkPending => Unit
  | .newOperationId => String
  | .load _ => Versioned Content
  | .save _ _ _ => Versioned Content

abbrev Reply {Content : Type} (effect : Effect Content) : Type :=
  Except Fault (Answer effect)

inductive CoordinationFailure where
  | fault (fault : Fault)
  | roadmapConflict (message : String)
  | projectExecutionConflict (message : String)
  | coordination (message : String)
  | coordinationConflict (message : String)
  deriving DecidableEq

abbrev Coordinating (Content Value : Type) : Type :=
  Program (Effect Content) Reply CoordinationFailure Value

def ask {Content : Type} (effect : Effect Content) : Coordinating Content (Answer effect) := do
  match ← Program.request effect with
  | .ok answer => pure answer
  | .error fault => .raise (.fault fault)

/-! ## The coordinator -/

section Coordinator

variable {Content : Type} (digest : Content → String)

/-- The state of the Roadmap for an intent. -/
def roadmapState (intent : CanonicalRoadmapIntent Content) (current : Versioned Content) :
    DocumentState :=
  documentState current.revision (digest current.content) intent.expectedRoadmapRevision
    intent.beforeRoadmapDigest (digest intent.desiredRoadmap)

def executionState (intent : CanonicalRoadmapIntent Content) (current : Versioned Content) :
    DocumentState :=
  documentState current.revision (digest current.content)
    intent.expectedProjectExecutionRevision intent.beforeProjectExecutionDigest
    (digest intent.desiredProjectExecution)

/-- `_finalize`. -/
def finalize (intent : CanonicalRoadmapIntent Content) (phase : IntentPhase)
    (reason : String) : Coordinating Content Unit := do
  let terminal := { intent with phase := phase }
  ask (.savePending terminal)
  ask (.appendJournal (terminal.row reason))
  ask .unlinkPending

def complete (intent : CanonicalRoadmapIntent Content) : Coordinating Content Unit :=
  finalize intent .complete ""

def abort (intent : CanonicalRoadmapIntent Content) (reason : String) :
    Coordinating Content Unit :=
  finalize intent .aborted reason

/-- The part of `_apply_locked` for the Project Execution. -/
def applyExecution (intent : CanonicalRoadmapIntent Content) (current : Versioned Content) :
    Coordinating Content (CanonicalRoadmapIntent Content × Versioned Content) := do
  if executionState digest intent current = .before then
    match ← Program.request (.save .projectExecution intent.desiredProjectExecution
      intent.expectedProjectExecutionRevision) with
    | .ok saved => do
        let applied :=
          { intent with
            phase := .projectExecutionApplied
            projectExecutionRevision := saved.revision }
        ask (.savePending applied)
        pure (applied, saved)
    | .error (.conflict message) => do
        let probe ← ask (.load (.roadmap intent.roadmapId))
        if roadmapState digest intent probe = .before then do
          abort intent message
          .raise (.projectExecutionConflict message)
        else .raise (.projectExecutionConflict message)
    | .error (.other message) => .raise (.fault (.other message))
  else do
    let applied :=
      { intent with
        phase := .projectExecutionApplied
        projectExecutionRevision := current.revision }
    ask (.savePending applied)
    pure (applied, current)

/-- The part of `_apply_locked` for the Roadmap. -/
def applyRoadmap (intent : CanonicalRoadmapIntent Content) :
    Coordinating Content (Versioned Content) := do
  let current ← ask (.load (.roadmap intent.roadmapId))
  match roadmapState digest intent current with
  | .divergent =>
      .raise (.coordinationConflict ("cannot automatically reconcile canonical Roadmap " ++
        "mutation after Project Execution was applied because the Roadmap changed"))
  | .before =>
      ask (.save (.roadmap intent.roadmapId) intent.desiredRoadmap
        intent.expectedRoadmapRevision)
  | _ => pure current

/-- `_apply_locked`. -/
def applyLocked (intent : CanonicalRoadmapIntent Content) :
    Coordinating Content (Versioned Content × Versioned Content) := do
  let currentExecution ← ask (.load .projectExecution)
  let currentRoadmap ← ask (.load (.roadmap intent.roadmapId))
  let execution := executionState digest intent currentExecution
  let roadmap := roadmapState digest intent currentRoadmap
  if execution = .divergent ∨ roadmap = .divergent then
    .raise (.coordinationConflict (s!"cannot automatically reconcile canonical Roadmap " ++
      s!"mutation {intent.operationId}: Project Execution is {execution.text}, Roadmap is " ++
      s!"{roadmap.text}; refresh and resolve the pending intent"))
  else do
    let (applied, savedExecution) ← applyExecution digest intent currentExecution
    let savedRoadmap ← applyRoadmap digest applied
    let final :=
      { applied with
        phase := .roadmapApplied
        roadmapRevision := savedRoadmap.revision
        projectExecutionRevision := savedExecution.revision }
    ask (.savePending final)
    complete final
    pure (savedRoadmap, savedExecution)

variable (projectId : String)

/-- `_reconcile_locked`. -/
def reconcile : Coordinating Content Bool := do
  match ← ask .loadPending with
  | none => pure false
  | some intent =>
      if intent.projectId ≠ projectId then
        .raise (.coordinationConflict
          "pending Roadmap coordination intent belongs to another project")
      else
        match intent.phase with
        | .complete => do
            complete intent
            pure true
        | .aborted => do
            abort intent "recovered terminal aborted intent"
            pure true
        | _ => do
            let _ ← applyLocked digest intent
            pure true

/-- What an editor asks the coordinator for. -/
structure Mutation (Content : Type) where
  roadmapId : String
  currentRoadmap : Versioned Content
  desiredRoadmap : Content
  currentProjectExecution : Versioned Content
  desiredProjectExecution : Content
  operation : String

/-- The intent of a mutation. -/
def Mutation.intent (mutation : Mutation Content) (operationId : String) :
    CanonicalRoadmapIntent Content where
  operationId := operationId
  projectId := projectId
  roadmapId := mutation.roadmapId
  operation := mutation.operation
  expectedRoadmapRevision := mutation.currentRoadmap.revision
  expectedProjectExecutionRevision := mutation.currentProjectExecution.revision
  beforeRoadmapDigest := digest mutation.currentRoadmap.content
  beforeProjectExecutionDigest := digest mutation.currentProjectExecution.content
  desiredRoadmap := mutation.desiredRoadmap
  desiredProjectExecution := mutation.desiredProjectExecution

def coordinate (mutation : Mutation Content) :
    Coordinating Content (Versioned Content × Versioned Content) := do
  let _ ← reconcile digest projectId
  let durableRoadmap ← ask (.load (.roadmap mutation.roadmapId))
  let durableExecution ← ask (.load .projectExecution)
  if durableRoadmap.revision ≠ mutation.currentRoadmap.revision then
    .raise (.roadmapConflict (s!"roadmap changed since it was loaded; refresh before saving " ++
      s!"(expected revision {mutation.currentRoadmap.revision}, current " ++
      s!"{durableRoadmap.revision})"))
  else if durableExecution.revision ≠ mutation.currentProjectExecution.revision then
    .raise (.projectExecutionConflict (s!"Project Execution changed since the Roadmap " ++
      s!"projection was loaded; refresh before editing canonical project assets (expected " ++
      s!"revision {mutation.currentProjectExecution.revision}, current " ++
      s!"{durableExecution.revision})"))
  else if digest durableRoadmap.content ≠ digest mutation.currentRoadmap.content then
    .raise (.roadmapConflict
      "roadmap content changed without the expected revision; refresh before saving")
  else if digest durableExecution.content ≠
      digest mutation.currentProjectExecution.content then
    .raise (.coordinationConflict
      "Project Execution content changed without the expected revision")
  else do
    let operationId ← ask .newOperationId
    let intent := mutation.intent digest projectId operationId
    match intent.problem with
    | some message => .raise (.coordination message)
    | none => do
        ask (.savePending intent)
        applyLocked digest intent

/-! ## Operators -/

inductive SafeAction where
  | finalizeTerminal
  | acceptApplied
  | retryRollForward
  | abort
  deriving DecidableEq, Repr

structure RoadmapCoordinationStatus (Content : Type) where
  pending : Option (CanonicalRoadmapIntent Content) := none
  roadmap : DocumentState := .divergent
  projectExecution : DocumentState := .divergent
  safeActions : List SafeAction := []

def DocumentState.Desired (state : DocumentState) : Prop :=
  state = .applied ∨ state = .converged

instance (state : DocumentState) : Decidable state.Desired :=
  inferInstanceAs (Decidable (_ ∨ _))

def safeActions (phase : IntentPhase) (roadmap execution : DocumentState) : List SafeAction :=
  if phase.Terminal then [.finalizeTerminal]
  else if roadmap.Desired ∧ execution.Desired then [.acceptApplied]
  else if roadmap = .before ∧ execution = .before then [.retryRollForward, .abort]
  else if roadmap ≠ .divergent ∧ execution ≠ .divergent then [.retryRollForward]
  else []

/-- A document that cannot be loaded counts as divergent. -/
def stateOf (document : DocumentId) (state : Versioned Content → DocumentState) :
    Coordinating Content DocumentState := do
  match ← Program.request (.load document) with
  | .ok current => pure (state current)
  | .error _ => pure .divergent

/-- `_status_locked`. -/
def status : Coordinating Content (RoadmapCoordinationStatus Content) := do
  match ← ask .loadPending with
  | none => pure {}
  | some intent =>
      if intent.projectId ≠ projectId then
        .raise (.coordinationConflict
          "pending Roadmap coordination intent belongs to another project")
      else do
        let roadmap ← stateOf (.roadmap intent.roadmapId) (roadmapState digest intent)
        let execution ← stateOf .projectExecution (executionState digest intent)
        pure
          { pending := some intent
            roadmap := roadmap
            projectExecution := execution
            safeActions := safeActions intent.phase roadmap execution }

def resolve (action : SafeAction) :
    Coordinating Content (RoadmapCoordinationStatus Content) := do
  let current ← status digest projectId
  if current.pending.isNone then
    .raise (.coordination "no pending Roadmap coordination intent")
  else if action ∉ current.safeActions then
    .raise (.coordinationConflict
      "coordination action is not safe for the current durable state")
  else
    match ← ask .loadPending with
    | none => pure {}
    | some intent => do
        match action with
        | .retryRollForward => do
            let _ ← applyLocked digest intent
            status digest projectId
        | .acceptApplied => do
            complete intent
            status digest projectId
        | .finalizeTerminal =>
            match intent.phase with
            | .complete => do
                complete intent
                status digest projectId
            | .aborted => do
                abort intent "recovered terminal aborted intent"
                status digest projectId
            | _ =>
                .raise (.coordinationConflict
                  "coordination intent is no longer terminal; refresh status")
        | .abort => do
            abort intent
              "operator aborted coordination before either durable side changed"
            status digest projectId

end Coordinator

/-! ## Files -/

/-- What happened to the files, in order. -/
inductive Event (Content : Type) where
  | stored (intent : CanonicalRoadmapIntent Content)
  /-- A document was written, by an intent or by another editor. -/
  | wrote (writer : Option (CanonicalRoadmapIntent Content)) (document : DocumentId)
      (old new : Versioned Content)
  | recorded (row : JournalRow)

structure World (Content : Type) where
  documents : DocumentId → Option (Versioned Content)
  pending : Option (CanonicalRoadmapIntent Content) := none
  history : List (Event Content) := []

section World

variable {Content : Type}

def World.write (world : World Content) (writer : Option (CanonicalRoadmapIntent Content))
    (document : DocumentId) (old : Versioned Content) (content : Content) : World Content :=
  let new : Versioned Content := { revision := old.revision + 1, content := content }
  { world with
    documents := Function.update world.documents document (some new)
    history := world.history ++ [.wrote writer document old new] }

def World.store (world : World Content) (intent : CanonicalRoadmapIntent Content) :
    World Content :=
  { world with
    pending := some intent
    history := world.history ++ [.stored intent] }

def World.record (world : World Content) (row : JournalRow) : World Content :=
  { world with history := world.history ++ [.recorded row] }

/-- Another editor saves a document that it has loaded. -/
inductive Edits : World Content → World Content → Prop where
  | edit (world : World Content) (document : DocumentId) (old : Versioned Content)
      (content : Content) (present : world.documents document = some old) :
      Edits world (world.write none document old content)

/-- An effect as it takes place when nothing disturbs it. -/
def Performed (world : World Content) :
    (effect : Effect Content) → Reply effect → World Content → Prop
  | .loadPending, reply, after => reply = .ok world.pending ∧ after = world
  | .savePending intent, reply, after => reply = .ok () ∧ after = world.store intent
  | .appendJournal row, reply, after => reply = .ok () ∧ after = world.record row
  | .unlinkPending, reply, after => reply = .ok () ∧ after = { world with pending := none }
  | .newOperationId, reply, after => after = world ∧ ∃ operationId, reply = .ok operationId ∧
      ∀ intent, Event.stored intent ∈ world.history → intent.operationId ≠ operationId
  | .load document, reply, after => after = world ∧
      match world.documents document with
      | some current => reply = .ok current
      | none => ∃ message, reply = .error (.other message)
  | .save document desired expectedRevision, reply, after =>
      match world.documents document with
      | some current =>
          if current.revision = expectedRevision then
            reply = .ok { revision := current.revision + 1, content := desired } ∧
              after = world.write world.pending document current desired
          else after = world ∧ ∃ message, reply = .error (.conflict message)
      | none => after = world ∧ ∃ message, reply = .error (.other message)

/-- Surroundings of the coordinator: whether others edit the documents, and whether effects
may fail. -/
structure Surroundings where
  edited : Prop
  faulty : Prop

/-- What others do before an effect. -/
def Surroundings.Moves (surroundings : Surroundings) (world after : World Content) : Prop :=
  after = world ∨ surroundings.edited ∧ Relation.ReflTransGen Edits world after

/-- An effect that fails may have taken place all the same. -/
def Surroundings.Step (surroundings : Surroundings) (world : World Content)
    (effect : Effect Content) (reply : Reply effect) (after : World Content) : Prop :=
  ∃ middle, surroundings.Moves world middle ∧
    (Performed middle effect reply after ∨
      surroundings.faulty ∧ (∃ message, reply = .error (.other message)) ∧
        (after = middle ∨ ∃ other, Performed middle effect other after))

end World

end Execraft.Roadmaps.Coordination
