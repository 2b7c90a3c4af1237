import Execraft.Foundation.FreshName
import Execraft.Roadmap.Coordination

/-!
# What single effects keep

What holds of the documents, of the pending intent and of the journal wherever the
coordinator stands, and that each effect keeps it.
-/

namespace Execraft.Roadmaps.Coordination

open Foundation Foundation.Program

variable {Content : Type}

/-! ## What an intent is about -/

namespace CanonicalRoadmapIntent

variable (intent : CanonicalRoadmapIntent Content)

/-- What stays the same while the intent is applied. -/
def plan : CanonicalRoadmapIntent Content :=
  { intent with
    phase := .prepared
    roadmapRevision := 0
    projectExecutionRevision := 0 }

def Targets (document : DocumentId) : Prop :=
  document = .projectExecution ∨ document = .roadmap intent.roadmapId

def expected : DocumentId → Nat
  | .projectExecution => intent.expectedProjectExecutionRevision
  | .roadmap _ => intent.expectedRoadmapRevision

def beforeDigest : DocumentId → String
  | .projectExecution => intent.beforeProjectExecutionDigest
  | .roadmap _ => intent.beforeRoadmapDigest

def desired : DocumentId → Content
  | .projectExecution => intent.desiredProjectExecution
  | .roadmap _ => intent.desiredRoadmap

variable {intent} {other : CanonicalRoadmapIntent Content}

theorem of_plan {Value : Type} (read : CanonicalRoadmapIntent Content → Value)
    (ignores : ∀ intent, read intent.plan = read intent) (same : intent.plan = other.plan) :
    read intent = read other :=
  (ignores intent).symm.trans ((congrArg read same).trans (ignores other))

theorem operationId_of_plan (same : intent.plan = other.plan) :
    intent.operationId = other.operationId :=
  of_plan operationId (fun _ => rfl) same

theorem projectId_of_plan (same : intent.plan = other.plan) :
    intent.projectId = other.projectId :=
  of_plan projectId (fun _ => rfl) same

theorem roadmapId_of_plan (same : intent.plan = other.plan) :
    intent.roadmapId = other.roadmapId :=
  of_plan roadmapId (fun _ => rfl) same

theorem targets_of_plan (same : intent.plan = other.plan) : intent.Targets = other.Targets :=
  of_plan Targets (fun _ => rfl) same

theorem expected_of_plan (same : intent.plan = other.plan) : intent.expected = other.expected :=
  of_plan expected (fun _ => rfl) same

theorem beforeDigest_of_plan (same : intent.plan = other.plan) :
    intent.beforeDigest = other.beforeDigest :=
  of_plan beforeDigest (fun _ => rfl) same

theorem desired_of_plan (same : intent.plan = other.plan) : intent.desired = other.desired :=
  of_plan desired (fun _ => rfl) same

end CanonicalRoadmapIntent

/-! ## Histories -/

def saveOf (document : DocumentId) :
    Event Content → Option (Versioned Content × Versioned Content)
  | .wrote _ written old new => if written = document then some (old, new) else none
  | _ => none

/-- The saves of one document. -/
def saves (document : DocumentId) (history : List (Event Content)) :
    List (Versioned Content × Versioned Content) :=
  history.filterMap (saveOf document)

/-- An intent replaced what it had been made for by what it had been made for. -/
structure Overwrites (digest : Content → String) (intent : CanonicalRoadmapIntent Content)
    (document : DocumentId) (old new : Versioned Content) : Prop where
  target : intent.Targets document
  revision : old.revision = intent.expected document
  before : digest old.content = intent.beforeDigest document
  desired : new.content = intent.desired document

/-- The document has got the content that the intent asks for. -/
def Had (digest : Content → String) (history : List (Event Content))
    (intent : CanonicalRoadmapIntent Content) (document : DocumentId) : Prop :=
  ∃ writer old new, Event.wrote writer document old new ∈ history ∧
    digest new.content = digest (intent.desired document) ∧
      intent.expected document < new.revision

/-- No intent of the operation has written the document. -/
def Unwritten (history : List (Event Content)) (operationId : String)
    (document : DocumentId) : Prop :=
  ∀ writer old new, Event.wrote (some writer) document old new ∈ history →
    writer.operationId ≠ operationId

/-- The document has not changed since the intent was made, or it has a later revision. -/
def AtLeast (digest : Content → String) (world : World Content)
    (intent : CanonicalRoadmapIntent Content) (document : DocumentId) : Prop :=
  ∃ current, world.documents document = some current ∧
    intent.expected document ≤ current.revision ∧
      (current.revision = intent.expected document →
        digest current.content = intent.beforeDigest document)

/-- The intent was made when the documents were there. -/
def Opened (digest : Content → String) (start world : World Content)
    (intent : CanonicalRoadmapIntent Content) : Prop :=
  ∀ document, intent.Targets document →
    (∃ first, start.documents document = some first ∧
      first.revision ≤ intent.expected document) ∧
        AtLeast digest world intent document

/-- The operation has an entry in the journal. -/
def Journaled (history : List (Event Content)) (operationId : String) : Prop :=
  ∃ row, Event.recorded row ∈ history ∧ row.operationId = operationId

section Sound

variable (digest : Content → String) (projectId : String) (start : World Content)

structure Sound (world : World Content) : Prop where
  chains : ∀ document,
    Chain (start.documents document) (saves document world.history) (world.documents document)
  stored : ∀ intent, world.pending = some intent → Event.stored intent ∈ world.history
  plans : ∀ intent other, Event.stored intent ∈ world.history →
    Event.stored other ∈ world.history → intent.operationId = other.operationId →
      intent.plan = other.plan
  project : ∀ intent, Event.stored intent ∈ world.history → intent.projectId = projectId
  opened : ∀ intent, Event.stored intent ∈ world.history →
    Opened digest start world intent
  overwrites : ∀ intent document old new,
    Event.wrote (some intent) document old new ∈ world.history →
      Event.stored intent ∈ world.history ∧ Overwrites digest intent document old new
  settled : ∀ intent other, Event.stored intent ∈ world.history → intent.phase.Terminal →
    world.pending = some other → other.operationId = intent.operationId →
      other.phase = intent.phase
  agrees : ∀ intent other, Event.stored intent ∈ world.history →
    Event.stored other ∈ world.history → intent.phase.Terminal → other.phase.Terminal →
      intent.operationId = other.operationId → intent.phase = other.phase
  aborted : ∀ intent, Event.stored intent ∈ world.history → intent.phase = .aborted →
    ∀ document, Unwritten world.history intent.operationId document
  completed : ∀ intent, Event.stored intent ∈ world.history → intent.phase = .complete →
    ∀ document, intent.Targets document → Had digest world.history intent document
  ordered : ∀ intent roadmapId old new,
    Event.wrote (some intent) (.roadmap roadmapId) old new ∈ world.history →
      Had digest world.history intent .projectExecution
  recorded : ∀ row, Event.recorded row ∈ world.history → ∃ intent,
    Event.stored intent ∈ world.history ∧ intent.phase.Terminal ∧
      intent.operationId = row.operationId ∧ intent.phase = row.phase
  accounted : ∀ intent, Event.stored intent ∈ world.history →
    (∃ other, world.pending = some other ∧ other.operationId = intent.operationId) ∨
      Journaled world.history intent.operationId

variable {digest projectId start} {world after : World Content}
  {intent other : CanonicalRoadmapIntent Content} {document : DocumentId}
  {old new : Versioned Content}

theorem sound_start (pending : start.pending = none) (history : start.history = []) :
    Sound digest projectId start start := by
  have none : ∀ event : Event Content, event ∉ start.history := fun event => by
    rw [history]
    exact List.not_mem_nil
  constructor
  · intro document
    rw [history]
    rfl
  · intro intent isPending
    rw [pending] at isPending
    cases isPending
  · exact fun _ _ stored => absurd stored (none _)
  · exact fun _ stored => absurd stored (none _)
  · exact fun _ stored => absurd stored (none _)
  · exact fun _ _ _ _ wrote => absurd wrote (none _)
  · exact fun _ _ stored => absurd stored (none _)
  · exact fun _ _ stored => absurd stored (none _)
  · exact fun _ stored => absurd stored (none _)
  · exact fun _ stored => absurd stored (none _)
  · exact fun _ _ _ _ wrote => absurd wrote (none _)
  · exact fun _ stored => absurd stored (none _)
  · exact fun _ stored => absurd stored (none _)

theorem mem_saves : (old, new) ∈ saves document world.history ↔
    ∃ writer, Event.wrote writer document old new ∈ world.history := by
  rw [saves, List.mem_filterMap]
  constructor
  · intro found
    obtain ⟨event, member, isSave⟩ := found
    cases event with
    | wrote writer written before later =>
        obtain ⟨same, pair⟩ := Option.ite_none_right_eq_some.mp isSave
        cases pair
        rw [same] at member
        exact ⟨writer, member⟩
    | stored intent => cases isSave
    | recorded row => cases isSave
  · intro found
    obtain ⟨writer, member⟩ := found
    exact ⟨_, member, if_pos rfl⟩

/-- A write is followed by the next revision, and no later document has an earlier one. -/
theorem Sound.revisions (sound : Sound digest projectId start world)
    {writer : Option (CanonicalRoadmapIntent Content)}
    (wrote : Event.wrote writer document old new ∈ world.history) :
    new.revision = old.revision + 1 ∧ ∃ current, world.documents document = some current ∧
      new.revision ≤ current.revision :=
  (sound.chains document).revisions (mem_saves.mpr ⟨writer, wrote⟩)

/-- A document at the expected revision has not been written by the operation. -/
theorem Sound.unwritten (sound : Sound digest projectId start world)
    (stored : Event.stored intent ∈ world.history)
    (present : world.documents document = some new)
    (revision : new.revision = intent.expected document) :
    Unwritten world.history intent.operationId document := by
  intro writer before later wrote same
  obtain ⟨isStored, overwrites⟩ := sound.overwrites writer document before later wrote
  obtain ⟨next, current, isCurrent, bound⟩ := sound.revisions wrote
  have expected := overwrites.revision
  rw [CanonicalRoadmapIntent.expected_of_plan (sound.plans writer intent isStored stored same)]
    at expected
  rw [present] at isCurrent
  rw [← Option.some.inj isCurrent] at bound
  omega

/-- A document beyond the expected revision has been written since. -/
theorem Sound.had (sound : Sound digest projectId start world)
    (stored : Event.stored intent ∈ world.history) (target : intent.Targets document)
    (present : world.documents document = some new)
    (same : digest new.content = digest (intent.desired document))
    (beyond : intent.expected document < new.revision) :
    Had digest world.history intent document := by
  obtain ⟨⟨first, isFirst, early⟩, -⟩ := sound.opened intent stored document target
  have chain := sound.chains document
  rw [present] at chain
  rcases chain.saved with unchanged | ⟨before, member⟩
  · rw [isFirst] at unchanged
    rw [Option.some.inj unchanged] at early
    omega
  · obtain ⟨writer, wrote⟩ := mem_saves.mp member
    exact ⟨writer, before, new, wrote, same, beyond⟩

/-! ## Later worlds -/

section Histories

variable {history later : List (Event Content)} {operationId : String}

theorem Had.mono (had : Had digest history intent document) (sub : history ⊆ later) :
    Had digest later intent document := by
  obtain ⟨writer, before, next, wrote, same, beyond⟩ := had
  exact ⟨writer, before, next, sub wrote, same, beyond⟩

theorem Had.of_plan (had : Had digest history intent document)
    (same : intent.plan = other.plan) : Had digest history other document := by
  rw [Had, ← CanonicalRoadmapIntent.desired_of_plan same,
    ← CanonicalRoadmapIntent.expected_of_plan same]
  exact had

theorem AtLeast.of_plan (atLeast : AtLeast digest world intent document)
    (same : intent.plan = other.plan) : AtLeast digest world other document := by
  rw [AtLeast, ← CanonicalRoadmapIntent.beforeDigest_of_plan same,
    ← CanonicalRoadmapIntent.expected_of_plan same]
  exact atLeast

theorem Opened.of_plan (opened : Opened digest start world intent)
    (same : intent.plan = other.plan) : Opened digest start world other := by
  intro document target
  rw [← CanonicalRoadmapIntent.targets_of_plan same] at target
  obtain ⟨first, atLeast⟩ := opened document target
  rw [CanonicalRoadmapIntent.expected_of_plan same] at first
  exact ⟨first, atLeast.of_plan same⟩

end Histories

/-- A document written under its next revision is at least what it was. -/
theorem AtLeast.write (atLeast : AtLeast digest world intent document)
    {written : DocumentId} (present : world.documents written = some old)
    (writer : Option (CanonicalRoadmapIntent Content)) (content : Content) :
    AtLeast digest (world.write writer written old content) intent document := by
  obtain ⟨current, isCurrent, early, same⟩ := atLeast
  by_cases here : document = written
  · rw [here] at isCurrent early ⊢
    rw [present] at isCurrent
    rw [← Option.some.inj isCurrent] at early
    refine ⟨_, Function.update_self _ _ _, Nat.le_succ_of_le early, fun equal => ?_⟩
    exact absurd equal (Nat.ne_of_gt (Nat.lt_succ_of_le early))
  · exact ⟨current, (Function.update_of_ne here _ _).trans isCurrent, early, same⟩

theorem Opened.write (opened : Opened digest start world intent)
    {written : DocumentId} (present : world.documents written = some old)
    (writer : Option (CanonicalRoadmapIntent Content)) (content : Content) :
    Opened digest start (world.write writer written old content) intent := fun document target =>
  ⟨(opened document target).1, (opened document target).2.write present writer content⟩

/-! ## Events -/

section Events

variable {writer by_ : Option (CanonicalRoadmapIntent Content)} {written : DocumentId}
  {before next : Versioned Content} {content : Content} {row entry : JournalRow}

@[simp]
theorem stored_write : Event.stored intent ∈ (world.write by_ written before content).history ↔
    Event.stored intent ∈ world.history := by
  simp [World.write]

@[simp]
theorem wrote_write :
    Event.wrote writer document old new ∈
        (world.write by_ written before content).history ↔
      Event.wrote writer document old new ∈ world.history ∨
        writer = by_ ∧ document = written ∧ old = before ∧
          new = { revision := before.revision + 1, content := content } := by
  simp [World.write]

@[simp]
theorem recorded_write :
    Event.recorded row ∈ (world.write by_ written before content).history ↔
      Event.recorded row ∈ world.history := by
  simp [World.write]

@[simp]
theorem stored_store : Event.stored intent ∈ (world.store other).history ↔
    Event.stored intent ∈ world.history ∨ intent = other := by
  simp [World.store]

@[simp]
theorem wrote_store : Event.wrote writer document old new ∈ (world.store other).history ↔
    Event.wrote writer document old new ∈ world.history := by
  simp [World.store]

@[simp]
theorem recorded_store : Event.recorded row ∈ (world.store other).history ↔
    Event.recorded row ∈ world.history := by
  simp [World.store]

@[simp]
theorem stored_record : Event.stored intent ∈ (world.record row).history ↔
    Event.stored intent ∈ world.history := by
  simp [World.record]

@[simp]
theorem wrote_record : Event.wrote writer document old new ∈ (world.record row).history ↔
    Event.wrote writer document old new ∈ world.history := by
  simp [World.record]

@[simp]
theorem recorded_record : Event.recorded entry ∈ (world.record row).history ↔
    Event.recorded entry ∈ world.history ∨ entry = row := by
  simp [World.record]

theorem subset_write :
    world.history ⊆ (world.write by_ written before content).history :=
  List.subset_append_left _ _

theorem subset_store : world.history ⊆ (world.store other).history :=
  List.subset_append_left _ _

theorem subset_record : world.history ⊆ (world.record row).history :=
  List.subset_append_left _ _

theorem documents_write : (world.write by_ written before content).documents =
    Function.update world.documents written
      (some { revision := before.revision + 1, content := content }) :=
  rfl

theorem chain_write (present : world.documents written = some before)
    (chain : Chain (start.documents document) (saves document world.history)
      (world.documents document)) :
    Chain (start.documents document)
      (saves document (world.write by_ written before content).history)
      ((world.write by_ written before content).documents document) := by
  have front : saves document (world.write by_ written before content).history =
      saves document world.history ++ saves document [Event.wrote by_ written before
        { revision := before.revision + 1, content := content }] :=
    List.filterMap_append
  rw [front]
  by_cases here : written = document
  · have last : saves document [Event.wrote by_ written before
        { revision := before.revision + 1, content := content }] =
          [(before, { revision := before.revision + 1, content := content })] :=
      List.filterMap_cons_some (if_pos here)
    rw [last]
    rw [← here] at chain ⊢
    rw [present] at chain
    rw [documents_write, Function.update_self]
    exact chain.save rfl
  · have none : saves document [Event.wrote by_ written before
        { revision := before.revision + 1, content := content }] = [] :=
      List.filterMap_cons_none (if_neg here)
    rw [none, List.append_nil, documents_write, Function.update_of_ne (Ne.symm here)]
    exact chain

end Events

/-! ## Writes -/

/-- What is asked of the intent that writes a document. -/
structure Writes (digest : Content → String) (world : World Content)
    (intent : CanonicalRoadmapIntent Content) (document : DocumentId)
    (old new : Versioned Content) : Prop where
  stored : Event.stored intent ∈ world.history
  overwrites : Overwrites digest intent document old new
  unaborted : ∀ other, Event.stored other ∈ world.history →
    intent.operationId = other.operationId → other.phase ≠ .aborted
  ordered : ∀ roadmapId, document = .roadmap roadmapId →
    Had digest world.history intent .projectExecution

theorem Sound.write (sound : Sound digest projectId start world)
    (present : world.documents document = some old)
    {writer : Option (CanonicalRoadmapIntent Content)} {content : Content}
    (writes : ∀ intent, writer = some intent → Writes digest world intent document old
      { revision := old.revision + 1, content := content }) :
    Sound digest projectId start (world.write writer document old content) where
  chains := fun other => chain_write present (sound.chains other)
  stored := fun intent isPending => subset_write (sound.stored intent isPending)
  plans := fun intent other isStored otherStored =>
    sound.plans intent other (stored_write.mp isStored) (stored_write.mp otherStored)
  project := fun intent isStored => sound.project intent (stored_write.mp isStored)
  opened := fun intent isStored =>
    (sound.opened intent (stored_write.mp isStored)).write present writer content
  overwrites := fun intent written before later wrote => by
    rw [stored_write]
    rcases wrote_write.mp wrote with earlier | ⟨isWriter, isDocument, isOld, isNew⟩
    · exact sound.overwrites intent written before later earlier
    · rw [isDocument, isOld, isNew]
      exact ⟨(writes intent isWriter.symm).stored, (writes intent isWriter.symm).overwrites⟩
  settled := fun intent other isStored => sound.settled intent other (stored_write.mp isStored)
  agrees := fun intent other isStored otherStored =>
    sound.agrees intent other (stored_write.mp isStored) (stored_write.mp otherStored)
  aborted := fun intent isStored isAborted written by_ before later wrote => by
    rw [stored_write] at isStored
    rcases wrote_write.mp wrote with earlier | ⟨isWriter, -, -, -⟩
    · exact sound.aborted intent isStored isAborted written by_ before later earlier
    · exact fun same => (writes by_ isWriter.symm).unaborted intent isStored same isAborted
  completed := fun intent isStored isComplete written target =>
    (sound.completed intent (stored_write.mp isStored) isComplete written target).mono
      subset_write
  ordered := fun intent roadmapId before later wrote => by
    rcases wrote_write.mp wrote with earlier | ⟨isWriter, isDocument, -, -⟩
    · exact (sound.ordered intent roadmapId before later earlier).mono subset_write
    · exact ((writes intent isWriter.symm).ordered roadmapId isDocument.symm).mono subset_write
  recorded := fun row isRecorded => by
    obtain ⟨intent, isStored, found⟩ := sound.recorded row (recorded_write.mp isRecorded)
    exact ⟨intent, subset_write isStored, found⟩
  accounted := fun intent isStored => by
    rcases sound.accounted intent (stored_write.mp isStored) with waits | ⟨row, found, same⟩
    · exact Or.inl waits
    · exact Or.inr ⟨row, subset_write found, same⟩

/-! ## Intents and the journal -/

/-- What is asked of an intent that is stored in place of the pending one. -/
structure Succeeds (digest : Content → String) (projectId : String) (start world : World Content)
    (intent : CanonicalRoadmapIntent Content) : Prop where
  plans : ∀ other, Event.stored other ∈ world.history →
    intent.operationId = other.operationId → intent.plan = other.plan
  project : intent.projectId = projectId
  opened : Opened digest start world intent
  settled : ∀ other, Event.stored other ∈ world.history → other.phase.Terminal →
    intent.operationId = other.operationId → intent.phase = other.phase
  aborted : intent.phase = .aborted →
    ∀ document, Unwritten world.history intent.operationId document
  completed : intent.phase = .complete →
    ∀ document, intent.Targets document → Had digest world.history intent document
  replaces : ∀ other, world.pending = some other → other.operationId = intent.operationId

theorem Sound.store (sound : Sound digest projectId start world)
    (succeeds : Succeeds digest projectId start world intent) :
    Sound digest projectId start (world.store intent) where
  chains := fun document => by
    have same : saves document (world.store intent).history = saves document world.history :=
      List.filterMap_append.trans (List.append_nil _)
    rw [same]
    exact sound.chains document
  stored := fun other isPending => by
    rw [← Option.some.inj isPending]
    exact stored_store.mpr (Or.inr rfl)
  plans := fun first second firstStored secondStored same => by
    rcases stored_store.mp firstStored with before | here
    · rcases stored_store.mp secondStored with earlier | last
      · exact sound.plans first second before earlier same
      · rw [last] at same ⊢
        exact (succeeds.plans first before same.symm).symm
    · rcases stored_store.mp secondStored with earlier | last
      · rw [here] at same ⊢
        exact succeeds.plans second earlier same
      · rw [here, last]
  project := fun other isStored => by
    rcases stored_store.mp isStored with earlier | here
    · exact sound.project other earlier
    · rw [here]
      exact succeeds.project
  opened := fun other isStored => by
    rcases stored_store.mp isStored with earlier | here
    · exact sound.opened other earlier
    · rw [here]
      exact succeeds.opened
  overwrites := fun writer document before later wrote => by
    obtain ⟨isStored, overwrites⟩ :=
      sound.overwrites writer document before later (wrote_store.mp wrote)
    exact ⟨subset_store isStored, overwrites⟩
  settled := fun other pending isStored terminal isPending same => by
    rw [← Option.some.inj isPending] at same ⊢
    rcases stored_store.mp isStored with earlier | here
    · exact succeeds.settled other earlier terminal same
    · rw [here]
  agrees := fun first second firstStored secondStored firstEnds secondEnds same => by
    rcases stored_store.mp firstStored with before | here
    · rcases stored_store.mp secondStored with earlier | last
      · exact sound.agrees first second before earlier firstEnds secondEnds same
      · rw [last] at same ⊢
        exact (succeeds.settled first before firstEnds same.symm).symm
    · rcases stored_store.mp secondStored with earlier | last
      · rw [here] at same ⊢
        exact succeeds.settled second earlier secondEnds same
      · rw [here, last]
  aborted := fun other isStored isAborted document writer before later wrote => by
    rw [wrote_store] at wrote
    rcases stored_store.mp isStored with earlier | here
    · exact sound.aborted other earlier isAborted document writer before later wrote
    · rw [here] at isAborted ⊢
      exact succeeds.aborted isAborted document writer before later wrote
  completed := fun other isStored isComplete document target => by
    rcases stored_store.mp isStored with earlier | here
    · exact (sound.completed other earlier isComplete document target).mono subset_store
    · rw [here] at isComplete target ⊢
      exact (succeeds.completed isComplete document target).mono subset_store
  ordered := fun writer roadmapId before later wrote =>
    (sound.ordered writer roadmapId before later (wrote_store.mp wrote)).mono subset_store
  recorded := fun row isRecorded => by
    obtain ⟨other, isStored, found⟩ := sound.recorded row (recorded_store.mp isRecorded)
    exact ⟨other, subset_store isStored, found⟩
  accounted := fun other isStored => by
    rcases stored_store.mp isStored with earlier | here
    · rcases sound.accounted other earlier with ⟨pending, isPending, same⟩ | ⟨row, found, same⟩
      · exact Or.inl ⟨intent, rfl, (succeeds.replaces pending isPending).symm.trans same⟩
      · exact Or.inr ⟨row, subset_store found, same⟩
    · exact Or.inl ⟨intent, rfl, congrArg _ here.symm⟩

theorem Sound.record (sound : Sound digest projectId start world) {reason : String}
    (isStored : Event.stored intent ∈ world.history) (terminal : intent.phase.Terminal) :
    Sound digest projectId start (world.record (intent.row reason)) where
  chains := fun document => by
    have same : saves document (world.record (intent.row reason)).history =
        saves document world.history :=
      List.filterMap_append.trans (List.append_nil _)
    rw [same]
    exact sound.chains document
  stored := fun other isPending => subset_record (sound.stored other isPending)
  plans := fun first second firstStored secondStored =>
    sound.plans first second (stored_record.mp firstStored) (stored_record.mp secondStored)
  project := fun other otherStored => sound.project other (stored_record.mp otherStored)
  opened := fun other otherStored => sound.opened other (stored_record.mp otherStored)
  overwrites := fun writer document before later wrote => by
    obtain ⟨writerStored, overwrites⟩ :=
      sound.overwrites writer document before later (wrote_record.mp wrote)
    exact ⟨subset_record writerStored, overwrites⟩
  settled := fun first second firstStored =>
    sound.settled first second (stored_record.mp firstStored)
  agrees := fun first second firstStored secondStored =>
    sound.agrees first second (stored_record.mp firstStored) (stored_record.mp secondStored)
  aborted := fun other otherStored isAborted document writer before later wrote =>
    sound.aborted other (stored_record.mp otherStored) isAborted document writer before later
      (wrote_record.mp wrote)
  completed := fun other otherStored isComplete document target =>
    (sound.completed other (stored_record.mp otherStored) isComplete document target).mono
      subset_record
  ordered := fun writer roadmapId before later wrote =>
    (sound.ordered writer roadmapId before later (wrote_record.mp wrote)).mono subset_record
  recorded := fun row isRecorded => by
    rcases recorded_record.mp isRecorded with earlier | here
    · obtain ⟨other, otherStored, found⟩ := sound.recorded row earlier
      exact ⟨other, subset_record otherStored, found⟩
    · rw [here]
      exact ⟨intent, subset_record isStored, terminal, rfl, rfl⟩
  accounted := fun other otherStored => by
    rcases sound.accounted other (stored_record.mp otherStored) with waits | ⟨row, found, same⟩
    · exact Or.inl waits
    · exact Or.inr ⟨row, subset_record found, same⟩

theorem Sound.unlink (sound : Sound digest projectId start world)
    (recorded : ∀ intent, world.pending = some intent →
      Journaled world.history intent.operationId) :
    Sound digest projectId start { world with pending := none } where
  chains := sound.chains
  stored := fun _ isPending => by cases isPending
  plans := sound.plans
  project := sound.project
  opened := sound.opened
  overwrites := sound.overwrites
  settled := fun _ _ _ _ isPending => by cases isPending
  agrees := sound.agrees
  aborted := sound.aborted
  completed := sound.completed
  ordered := sound.ordered
  recorded := sound.recorded
  accounted := fun other isStored => by
    rcases sound.accounted other isStored with ⟨pending, isPending, same⟩ | found
    · rw [← same]
      exact Or.inr (recorded pending isPending)
    · exact Or.inr found

/-! ## Edits by others -/

/-- What edits by others leave alone. -/
structure Edited (digest : Content → String) (world after : World Content) : Prop where
  pending : after.pending = world.pending
  subset : world.history ⊆ after.history
  stored : ∀ intent, Event.stored intent ∈ after.history → Event.stored intent ∈ world.history
  unwritten : ∀ operationId document, Unwritten world.history operationId document →
    Unwritten after.history operationId document
  atLeast : ∀ intent document, AtLeast digest world intent document →
    AtLeast digest after intent document

theorem Edited.refl (digest : Content → String) (world : World Content) :
    Edited digest world world :=
  ⟨rfl, List.Subset.refl _, fun _ => id, fun _ _ => id, fun _ _ => id⟩

theorem Edited.trans {middle last : World Content} (front : Edited digest world middle)
    (back : Edited digest middle last) : Edited digest world last where
  pending := back.pending.trans front.pending
  subset := List.Subset.trans front.subset back.subset
  stored := fun intent isStored => front.stored intent (back.stored intent isStored)
  unwritten := fun operationId document unwritten =>
    back.unwritten operationId document (front.unwritten operationId document unwritten)
  atLeast := fun intent document atLeast =>
    back.atLeast intent document (front.atLeast intent document atLeast)

theorem Edits.edited (edits : Edits world after) : Edited digest world after := by
  cases edits with
  | edit document old content present =>
      refine ⟨rfl, subset_write, fun _ => stored_write.mp, ?_, ?_⟩
      · intro operationId written unwritten writer before later wrote
        rcases wrote_write.mp wrote with earlier | ⟨isWriter, -, -, -⟩
        · exact unwritten writer before later earlier
        · cases isWriter
      · exact fun intent written atLeast => atLeast.write present none content

theorem Edits.sound (edits : Edits world after) (sound : Sound digest projectId start world) :
    Sound digest projectId start after := by
  cases edits with
  | edit document old content present =>
      refine sound.write present fun intent isWriter => ?_
      cases isWriter

theorem Surroundings.Moves.sound {surroundings : Surroundings}
    (moves : surroundings.Moves world after) (sound : Sound digest projectId start world) :
    Sound digest projectId start after := by
  rcases moves with same | ⟨-, edits⟩
  · rw [same]
    exact sound
  · induction edits with
    | refl => exact sound
    | tail _ last inductionHypothesis => exact last.sound inductionHypothesis

theorem Surroundings.Moves.edited {surroundings : Surroundings}
    (moves : surroundings.Moves world after) : Edited digest world after := by
  rcases moves with same | ⟨-, edits⟩
  · rw [same]
    exact Edited.refl digest world
  · induction edits with
    | refl => exact Edited.refl digest world
    | tail _ last inductionHypothesis => exact inductionHypothesis.trans last.edited

/-! ## When nothing disturbs -/

def storedIds (history : List (Event Content)) : List String :=
  history.filterMap fun event => match event with
    | .stored intent => some intent.operationId
    | _ => none

theorem ne_of_notMem_storedIds {history : List (Event Content)} {operationId : String}
    (fresh : operationId ∉ storedIds history)
    (stored : Event.stored intent ∈ history) : intent.operationId ≠ operationId := by
  intro same
  apply fresh
  rw [← same]
  exact List.mem_filterMap.mpr ⟨_, stored, rfl⟩

/-- An effect that succeeds where it can. -/
def handle (world : World Content) : (effect : Effect Content) → Reply effect × World Content
  | .loadPending => (.ok world.pending, world)
  | .savePending intent => (.ok (), world.store intent)
  | .appendJournal row => (.ok (), world.record row)
  | .unlinkPending => (.ok (), { world with pending := none })
  | .newOperationId =>
      let taken := storedIds world.history
      (.ok (firstFree taken toString taken.length 0), world)
  | .load document =>
      match world.documents document with
      | some current => (.ok current, world)
      | none => (.error (.other "missing"), world)
  | .save document desired expectedRevision =>
      match world.documents document with
      | some current =>
          if current.revision = expectedRevision then
            (.ok { revision := current.revision + 1, content := desired },
              world.write world.pending document current desired)
          else (.error (.conflict "changed"), world)
      | none => (.error (.other "missing"), world)

theorem performed_handle (world : World Content) (effect : Effect Content) :
    Performed world effect (handle world effect).1 (handle world effect).2 := by
  cases effect with
  | loadPending => exact ⟨rfl, rfl⟩
  | savePending intent => exact ⟨rfl, rfl⟩
  | appendJournal row => exact ⟨rfl, rfl⟩
  | unlinkPending => exact ⟨rfl, rfl⟩
  | newOperationId =>
      exact ⟨rfl, _, rfl, fun _ => ne_of_notMem_storedIds (firstFree_notMem toString_injective 0)⟩
  | load document =>
      dsimp only [Performed, handle]
      cases world.documents document with
      | none => exact ⟨rfl, _, rfl⟩
      | some current => exact ⟨rfl, rfl⟩
  | save document desired expectedRevision =>
      dsimp only [Performed, handle]
      cases world.documents document with
      | none => exact ⟨rfl, _, rfl⟩
      | some current =>
          by_cases revision : current.revision = expectedRevision
          · simp only [if_pos revision, and_self]
          · simp only [if_neg revision, true_and]
            exact ⟨_, rfl⟩

theorem step_handle (surroundings : Surroundings) (world : World Content)
    (effect : Effect Content) :
    surroundings.Step world effect (handle world effect).1 (handle world effect).2 :=
  ⟨world, Or.inl rfl, Or.inl (performed_handle world effect)⟩

end Sound

end Execraft.Roadmaps.Coordination
