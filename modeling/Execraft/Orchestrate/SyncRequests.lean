import Execraft.Orchestrate.DirectivePass
import Execraft.Orchestrate.WaitSummary
import Mathlib.Logic.Relation

/-!
# No applied synchronization request is lost

Runs of operators, of the driver and of the coordinator over one task execution: what
the queue reports as applied against what the waiting slot records.
-/

namespace Execraft.Orchestrate

open Foundation Foundation.Json RepositorySync

/-- The command that a write resolves, and how. -/
def Write.resolution? : Write → Option (String × DirectiveStatus)
  | .resolve commandId status _ _ => some (commandId, status)
  | _ => none

structure SyncWorld where
  record : TaskExecutionStateRecord
  queue : WorkPackageDirectiveQueue := []
  /-- The resolutions that the last pass has yet to write. -/
  inFlight : List Write := []
  /-- The commands with a card intent. -/
  intents : List String := []
  /-- The identities that were given to commands. -/
  issued : List String := []

/-- Whether the record is stopped at the boundary of a synchronization. -/
def StopsForSync (record : TaskExecutionStateRecord) : Prop :=
  record.state = .operatorPaused ∧ WaitsForSync record.waiting

variable (py : Python) (manifest : TaskManifest)

/-- One pass of the driver over the pending directives. -/
inductive Passes : SyncWorld → SyncWorld → Prop where
  | pass (world : SyncWorld) (now : String) (applied : Nat) (final : Session)
      (idle : world.inFlight = [])
      (ran : applyPendingWorkPackageDirectives py manifest now world.queue.pending
        { record := world.record } = (.ok applied, final)) :
      Passes world { world with
        record := final.record
        inFlight := final.writes.filter fun write => write.resolution?.isSome }

/-- Everything else that happens between and during passes. -/
inductive Moves : SyncWorld → SyncWorld → Prop where
  | enqueue (world : SyncWorld) (commandId now packageId kind : String) (enabled : Bool)
      (reason requestedBy : String) (parameters : Row)
      (command : WorkPackageDirectiveCommand)
      (created : WorkPackageDirectiveCommand.create py commandId now packageId kind enabled
        reason requestedBy parameters = .ok command)
      (fresh : commandId ∉ world.issued) :
      Moves world { world with
        queue := world.queue.enqueue command now
        issued := commandId :: world.issued }
  | resolve (world : SyncWorld) (now commandId : String) (status : DirectiveStatus)
      (result error : String) (rest : List Write)
      (next : world.inFlight = .resolve commandId status result error :: rest) :
      Moves world { world with
        queue := world.queue.resolve commandId status result error now
        inFlight := rest }
  | refresh (world : SyncWorld) (nextAgentWait : Row → Row) (idle : world.inFlight = []) :
      Moves world { world with
        record := refreshWaitSummary nextAgentWait world.record }
  | prepareIntent (world : SyncWorld) (commandId : String) (idle : world.inFlight = [])
      (stopped : world.record.state = .operatorPaused)
      (recorded : RecordsRequest world.record.waiting commandId) :
      Moves world { world with
        intents := commandId :: world.intents }
  | acknowledge (world : SyncWorld) (now commandId syncPackageId : String)
      (idle : world.inFlight = []) (prepared : commandId ∈ world.intents) :
      Moves world { world with
        record := (acknowledgeRepositorySyncBoundary py now commandId syncPackageId
          { record := world.record }).2.record }
  /-- The driver goes on; it returns at once where it is stopped for a synchronization. -/
  | work (world : SyncWorld) (record : TaskExecutionStateRecord)
      (idle : world.inFlight = []) (released : ¬StopsForSync world.record) :
      Moves world { world with record := record }

/-- A task execution before anything was asked of it. -/
def SyncWorld.start (record : TaskExecutionStateRecord) : SyncWorld :=
  { record := record }

/-- What the queue reports as applied waits in the slot until a card intent exists. -/
def RequestsKept (world : SyncWorld) : Prop :=
  ∀ command ∈ world.queue, command.kind = .pauseForRepositorySync →
    command.status = .applied → command.id ∉ world.intents →
      world.record.state = .operatorPaused ∧ RecordsRequest world.record.waiting command.id

/-- A pass that starts in a pausable state meets at most one request at its boundary, and
none while the slot records an applied request without a card intent. -/
def SafePass (world : SyncWorld) : Prop :=
  Pausable world.record.state →
    (∀ first ∈ world.queue.pending, ∀ second ∈ world.queue.pending,
      ReachesBoundary py manifest world.record.planGraph first →
      ReachesBoundary py manifest world.record.planGraph second → first.id = second.id) ∧
    ∀ command ∈ world.queue.pending,
      ReachesBoundary py manifest world.record.planGraph command →
      world.record.state = .operatorPaused →
      ∀ recorded ∈ world.queue, recorded.status = .applied →
        RecordsRequest world.record.waiting recorded.id → recorded.id ∈ world.intents

/-- Any run. -/
abbrev SyncRun : SyncWorld → SyncWorld → Prop :=
  Relation.ReflTransGen fun world next => Moves py world next ∨ Passes py manifest world next

/-- A run all of whose passes are safe. -/
abbrev SafeRun : SyncWorld → SyncWorld → Prop :=
  Relation.ReflTransGen fun world next =>
    Moves py world next ∨ (Passes py manifest world next ∧ SafePass py manifest world)

/-! ## The invariant -/

structure SyncWorld.Sound (world : SyncWorld) : Prop where
  unique : world.queue.ids.Nodup
  known : ∀ commandId ∈ world.queue.ids, commandId ∈ world.issued
  /-- Resolutions in flight are of known commands, and final. -/
  resolves : ∀ commandId status, (commandId, status) ∈
      world.inFlight.filterMap Write.resolution? →
    commandId ∈ world.issued ∧ status ≠ .pending
  kept : RequestsKept world
  /-- A request that is about to be reported as applied is recorded already. -/
  coming : ∀ command ∈ world.queue, command.kind = .pauseForRepositorySync →
    command.status = .pending →
      (command.id, .applied) ∈ world.inFlight.filterMap Write.resolution? →
        world.record.state = .operatorPaused ∧
          RecordsRequest world.record.waiting command.id

theorem sound_start (record : TaskExecutionStateRecord) : (SyncWorld.start record).Sound where
  unique := List.nodup_nil
  known := by simp [SyncWorld.start, WorkPackageDirectiveQueue.ids]
  resolves := by simp [SyncWorld.start]
  kept := by simp [RequestsKept, SyncWorld.start]
  coming := by simp [SyncWorld.start]

theorem sound_idle {world : SyncWorld} (idle : world.inFlight = [])
    (unique : world.queue.ids.Nodup)
    (known : ∀ commandId ∈ world.queue.ids, commandId ∈ world.issued)
    (kept : RequestsKept world) : world.Sound where
  unique := unique
  known := known
  resolves := by simp [idle]
  kept := kept
  coming := by simp [idle]

theorem sound_enqueue {world : SyncWorld} {command : WorkPackageDirectiveCommand}
    {now : String} (sound : world.Sound) (fresh : command.id ∉ world.issued)
    (waiting : command.status = .pending) :
    SyncWorld.Sound { world with
      queue := world.queue.enqueue command now
      issued := command.id :: world.issued } := by
  have new : command.id ∉ world.queue.ids := fun member =>
    fresh (sound.known command.id member)
  refine ⟨WorkPackageDirectiveQueue.nodup_ids_enqueue sound.unique new, ?_, ?_, ?_, ?_⟩
  · intro commandId member
    obtain ⟨item, present, rfl⟩ := List.mem_map.mp member
    have listed := (WorkPackageDirectiveQueue.retained_sublist _).subset present
    rw [List.mem_append, List.mem_singleton] at listed
    rcases listed with old | rfl
    · obtain ⟨before, there, shape⟩ := List.mem_map.mp old
      rw [← shape, WorkPackageDirectiveQueue.supersedeBy_id]
      exact List.mem_cons_of_mem _ (sound.known _ (List.mem_map_of_mem there))
    · exact List.mem_cons_self
  · intro commandId status member
    have old := sound.resolves commandId status member
    exact ⟨List.mem_cons_of_mem _ old.1, old.2⟩
  · intro item member sync applied uncoordinated
    have current : item.status ≠ .superseded := by
      rw [applied]
      decide
    rcases WorkPackageDirectiveQueue.mem_enqueue member current with old | rfl
    · exact sound.kept item old sync applied uncoordinated
    · rw [waiting] at applied
      cases applied
  · intro item member sync pending comes
    have current : item.status ≠ .superseded := by
      rw [pending]
      decide
    rcases WorkPackageDirectiveQueue.mem_enqueue member current with old | rfl
    · exact sound.coming item old sync pending comes
    · exact absurd (sound.resolves _ _ comes).1 fresh

theorem sound_resolve {world : SyncWorld} {now commandId : String}
    {status : DirectiveStatus} {result error : String} {rest : List Write}
    (sound : world.Sound)
    (next : world.inFlight = .resolve commandId status result error :: rest) :
    SyncWorld.Sound { world with
      queue := world.queue.resolve commandId status result error now
      inFlight := rest } := by
  have resolutions : world.inFlight.filterMap Write.resolution? =
      (commandId, status) :: rest.filterMap Write.resolution? := by
    rw [next]
    rfl
  have final := (sound.resolves commandId status (by
    rw [resolutions]
    exact List.mem_cons_self)).2
  refine ⟨WorkPackageDirectiveQueue.nodup_ids_resolve sound.unique, ?_, ?_, ?_, ?_⟩
  · intro other member
    obtain ⟨item, present, rfl⟩ := List.mem_map.mp member
    rcases WorkPackageDirectiveQueue.mem_resolve present with old |
      ⟨before, there, _, _, shape⟩
    · exact sound.known _ (List.mem_map_of_mem old)
    · rw [shape, WorkPackageDirectiveQueue.resolveItem_id]
      exact sound.known _ (List.mem_map_of_mem there)
  · intro other otherStatus member
    refine sound.resolves other otherStatus ?_
    rw [resolutions]
    exact List.mem_cons_of_mem _ member
  · intro item member sync applied uncoordinated
    rcases WorkPackageDirectiveQueue.mem_resolve member with old |
      ⟨before, there, name, pending, shape⟩
    · exact sound.kept item old sync applied uncoordinated
    · rw [WorkPackageDirectiveQueue.resolveItem, if_pos ⟨name, pending⟩] at shape
      rw [shape] at sync applied
      have status' : status = .applied := applied
      have id' : item.id = before.id := by rw [shape]
      rw [id']
      refine sound.coming before there sync pending ?_
      rw [resolutions, name, status']
      exact List.mem_cons_self
  · intro item member sync pending comes
    rcases WorkPackageDirectiveQueue.mem_resolve member with old |
      ⟨before, there, name, wasPending, shape⟩
    · refine sound.coming item old sync pending ?_
      rw [resolutions]
      exact List.mem_cons_of_mem _ comes
    · rw [WorkPackageDirectiveQueue.resolveItem, if_pos ⟨name, wasPending⟩] at shape
      rw [shape] at pending
      exact absurd pending final

/-! ## Passes -/

theorem resolutions_afterAttempts (now : String) (session : Session)
    (commands : List WorkPackageDirectiveCommand) :
    (afterAttempts py manifest now session commands).writes.filterMap Write.resolution? =
      session.writes.filterMap Write.resolution? := by
  induction commands generalizing session with
  | nil => rfl
  | cons head tail inductionHypothesis =>
      have none : (directiveWrites py manifest now session.record head).filterMap
          Write.resolution? = [] := by
        unfold directiveWrites
        cases directiveDecision py manifest now session.record.planGraph head with
        | refuse => rfl
        | arm => rfl
        | pause waiting =>
            by_cases running : session.record.state = .running
            · simp [running, Session.transitionWrites, Write.resolution?]
            · simp [running]
      have rest := inductionHypothesis (afterAttempt py manifest now session head)
      rw [afterAttempt, List.filterMap_append, none, List.append_nil] at rest
      exact rest

theorem resolutions_resolutionWrites (record : TaskExecutionStateRecord)
    (outcomes : List (WorkPackageDirectiveCommand × Application)) :
    (resolutionWrites py record outcomes).filterMap Write.resolution? =
      (((appliedOf outcomes).map Prod.fst).map fun command => (command.id, .applied)) ++
        (rejectedOf outcomes).map fun rejected => (rejected.1.id, .rejected) := by
  have appliedPart : ∀ applied : List (WorkPackageDirectiveCommand × Row),
      (applied.flatMap (appliedWrites py)).filterMap Write.resolution? =
        (applied.map Prod.fst).map fun command => (command.id, DirectiveStatus.applied) := by
    intro applied
    induction applied with
    | nil => rfl
    | cons head tail inductionHypothesis =>
        rw [List.flatMap_cons, List.filterMap_append, inductionHypothesis]
        rfl
  have rejectedPart : ∀ rejected : List (WorkPackageDirectiveCommand × String),
      (rejected.flatMap rejectedWrites).filterMap Write.resolution? =
        rejected.map fun item => (item.1.id, DirectiveStatus.rejected) := by
    intro rejected
    induction rejected with
    | nil => rfl
    | cons head tail inductionHypothesis =>
        rw [List.flatMap_cons, List.filterMap_append, inductionHypothesis]
        rfl
  unfold resolutionWrites
  rw [List.filterMap_append, rejectedPart]
  by_cases some : appliedOf outcomes = []
  · rw [if_neg (not_not_intro some), some]
    rfl
  · rw [if_pos some, ← appliedPart]
    rfl

theorem filterMap_resolutions (writes : List Write) :
    (writes.filter fun write => write.resolution?.isSome).filterMap Write.resolution? =
      writes.filterMap Write.resolution? := by
  rw [List.filterMap_filter]
  refine List.filterMap_congr fun write _ => ?_
  cases resolution : write.resolution? with
  | none => rfl
  | some value => rfl

theorem mem_pending {queue : WorkPackageDirectiveQueue}
    {command : WorkPackageDirectiveCommand} :
    command ∈ queue.pending ↔ command ∈ queue ∧ command.status = .pending := by
  simp [WorkPackageDirectiveQueue.pending]

theorem eq_of_same_id {queue : WorkPackageDirectiveQueue} (unique : queue.ids.Nodup)
    {first second : WorkPackageDirectiveCommand} (one : first ∈ queue) (other : second ∈ queue)
    (same : first.id = second.id) : first = second :=
  List.inj_on_of_nodup_map unique one other same

/-- A pass over the pending commands that never reaches two boundaries at once. -/
theorem sound_pass {world next : SyncWorld} (sound : world.Sound)
    (safe : SafePass py manifest world) (passes : Passes py manifest world next) :
    next.Sound := by
  obtain ⟨now, applied, final, idle, ran⟩ := passes
  obtain ⟨outcomes, whole, appliedCommands, rejectedCommands, _⟩ :=
    applyPendingWorkPackageDirectives_eq py manifest now world.queue.pending
      { record := world.record }
  rw [ran, Prod.mk.injEq] at whole
  have finalShape := whole.2
  have resolutions : (final.writes.filter fun write =>
      write.resolution?.isSome).filterMap Write.resolution? =
      ((world.queue.pending.filter fun command =>
        Applies py manifest now world.record command).map fun command =>
          (command.id, DirectiveStatus.applied)) ++
        (rejectedOf outcomes).map fun rejected => (rejected.1.id, .rejected) := by
    rw [filterMap_resolutions, finalShape, List.filterMap_append, resolutions_afterAttempts,
      resolutions_resolutionWrites, appliedCommands]
    rfl
  have record : final.record =
      afterDirectives py manifest now world.record world.queue.pending := by
    rw [finalShape]
  -- The request at its boundary, if there is one, is the only one there.
  have reached : ∀ command ∈ world.queue.pending,
      ReachesBoundary py manifest world.record.planGraph command →
        Pausable world.record.state →
          final.record.state = .operatorPaused ∧
            RecordsRequest final.record.waiting command.id := by
    intro command member reaches pausable
    obtain ⟨front, last, back, shape, lastReaches, none⟩ :=
      exists_last_of_exists ⟨command, member, reaches⟩
    have lastMember : last ∈ world.queue.pending := by
      rw [shape]
      exact List.mem_append_right _ List.mem_cons_self
    have same := (safe pausable).1 command member last lastMember reaches lastReaches
    obtain ⟨waiting, pauses⟩ := (reachesBoundary_iff py manifest now).mp lastReaches
    have ends : (afterDirectives py manifest now world.record
        (front ++ last :: back)).waiting = waiting ∧ _ :=
      afterDirectives_last py manifest now pauses none
    rw [record, shape, ends.1, same]
    exact ⟨ends.2 pausable, boundaryWaiting_records py manifest now pauses⟩
  have untouched : (∀ command ∈ world.queue.pending,
      ¬ReachesBoundary py manifest world.record.planGraph command) →
        final.record.waiting = world.record.waiting ∧
          final.record.state = world.record.state := by
    intro none
    rw [record]
    exact afterDirectives_of_not_reaches py manifest now none
  refine ⟨sound.unique, sound.known, ?_, ?_, ?_⟩
  · intro commandId status member
    rw [resolutions, List.mem_append, List.mem_map, List.mem_map] at member
    rcases member with ⟨command, chosen, shape⟩ | ⟨rejected, chosen, shape⟩
    · cases shape
      have listed := (mem_pending.mp (List.mem_filter.mp chosen).1).1
      exact ⟨sound.known _ (List.mem_map_of_mem listed), by decide⟩
    · cases shape
      have listed := (mem_pending.mp (rejectedCommands rejected chosen).1).1
      exact ⟨sound.known _ (List.mem_map_of_mem listed), by decide⟩
  · intro command member sync wasApplied uncoordinated
    have before := sound.kept command member sync wasApplied uncoordinated
    have none : ∀ other ∈ world.queue.pending,
        ¬ReachesBoundary py manifest world.record.planGraph other := by
      intro other otherMember reaches
      exact uncoordinated ((safe (Or.inr before.1)).2 other otherMember reaches before.1
        command member wasApplied before.2)
    have kept := untouched none
    change final.record.state = .operatorPaused ∧
      RecordsRequest final.record.waiting command.id
    rw [kept.1, kept.2]
    exact before
  · intro command member sync pending comes
    change (command.id, DirectiveStatus.applied) ∈ (final.writes.filter fun write =>
      write.resolution?.isSome).filterMap Write.resolution? at comes
    rw [resolutions, List.mem_append, List.mem_map, List.mem_map] at comes
    rcases comes with ⟨other, chosen, shape⟩ | ⟨rejected, chosen, shape⟩
    · obtain ⟨otherMember, applies⟩ := List.mem_filter.mp chosen
      have otherListed := mem_pending.mp otherMember
      have same : other = command :=
        eq_of_same_id sound.unique otherListed.1 member (Prod.mk.inj shape).1
      rw [same] at otherMember applies
      have decided := of_decide_eq_true applies
      unfold Applies at decided
      cases decision : directiveDecision py manifest now world.record.planGraph command with
      | refuse =>
          rw [decision] at decided
          exact absurd decided not_false
      | arm => exact absurd decision (directiveDecision_ne_arm py manifest now sync)
      | pause waiting =>
          rw [decision] at decided
          exact reached command otherMember
            ((reachesBoundary_iff py manifest now).mpr ⟨waiting, decision⟩) decided
    · cases (Prod.mk.inj shape).2

/-! ## The other moves -/

/-- A boundary is not released for any other request. -/
theorem acknowledge_other {now commandId syncPackageId recorded : String}
    {session : Session} (stopped : session.record.state = .operatorPaused)
    (records : RecordsRequest session.record.waiting recorded)
    (different : recorded ≠ commandId) :
    (acknowledgeRepositorySyncBoundary py now commandId syncPackageId session).2 =
      session := by
  obtain ⟨sync, name⟩ := records
  have nonempty : session.record.waiting ≠ [] := by
    intro empty
    rw [WaitsForSync, empty] at sync
    cases sync
  have kind : session.record.waiting.get "kind" .null =
      .string DirectiveKind.pauseForRepositorySync.value := sync
  unfold acknowledgeRepositorySyncBoundary
  rw [Stateful.read_bind_apply]
  dsimp only
  rw [if_neg fun both => nonempty both.1, if_neg fun both => nonempty both.1,
    if_neg (not_not_intro stopped), if_neg (not_not_intro kind), if_pos (by
      rw [name]
      exact different)]
  rfl

theorem kept_of_released {world : SyncWorld} (released : ¬StopsForSync world.record)
    (kept : RequestsKept world) (record : TaskExecutionStateRecord) :
    RequestsKept { world with record := record } := by
  intro command member sync applied uncoordinated
  have before := kept command member sync applied uncoordinated
  exact absurd ⟨before.1, before.2.1⟩ released

theorem sound_move {world next : SyncWorld} (sound : world.Sound)
    (moves : Moves py world next) : next.Sound := by
  cases moves with
  | enqueue commandId now packageId kind enabled reason requestedBy parameters command
      created fresh =>
      obtain ⟨name, waiting⟩ := WorkPackageDirectiveCommand.create_eq_ok created
      rw [← name] at fresh ⊢
      exact sound_enqueue sound fresh waiting
  | resolve now commandId status result error rest next => exact sound_resolve sound next
  | refresh nextAgentWait idle =>
      refine sound_idle idle sound.unique sound.known ?_
      intro command member sync applied uncoordinated
      have before := sound.kept command member sync applied uncoordinated
      refine ⟨before.1, ?_⟩
      change RecordsRequest (refreshWaitSummary nextAgentWait world.record).waiting command.id
      rw [refreshWaitSummary_keeps before.2.1 before.1]
      exact before.2
  | prepareIntent commandId idle stopped recorded =>
      refine sound_idle idle sound.unique sound.known ?_
      intro command member sync applied uncoordinated
      exact sound.kept command member sync applied fun coordinated =>
        uncoordinated (List.mem_cons_of_mem _ coordinated)
  | acknowledge now commandId syncPackageId idle prepared =>
      refine sound_idle idle sound.unique sound.known ?_
      intro command member sync applied uncoordinated
      have before := sound.kept command member sync applied uncoordinated
      have different : command.id ≠ commandId := fun same => uncoordinated (by
        rw [same]
        exact prepared)
      have unchanged : (acknowledgeRepositorySyncBoundary py now commandId syncPackageId
          { record := world.record }).2 = { record := world.record } :=
        acknowledge_other py before.1 before.2 different
      rw [unchanged]
      exact before
  | work record idle released =>
      exact sound_idle idle sound.unique sound.known
        (kept_of_released released sound.kept record)

theorem sound_run {world final : SyncWorld} (sound : world.Sound)
    (run : SafeRun py manifest world final) : final.Sound := by
  induction run with
  | refl => exact sound
  | tail _ step inductionHypothesis =>
      rcases step with moves | ⟨passes, safe⟩
      · exact sound_move py inductionHypothesis moves
      · exact sound_pass py manifest inductionHypothesis safe passes

/-- In every run of safe passes each request that the queue reports as applied waits in the
slot of the paused task execution until a card intent for it exists. -/
theorem appliedRequests_kept (record : TaskExecutionStateRecord) (world : SyncWorld)
    (run : SafeRun py manifest (SyncWorld.start record) world) : RequestsKept world :=
  (sound_run py manifest (sound_start record) run).kept

/-! ## Two requests at once -/

/-- The world after a pass. -/
def passOver (now : String) (world : SyncWorld) : SyncWorld :=
  let final := (applyPendingWorkPackageDirectives py manifest now world.queue.pending
    { record := world.record }).2
  { world with
    record := final.record
    inFlight := final.writes.filter fun write => write.resolution?.isSome }

/-- The world after the resolutions in flight were written. -/
def delivered (now : String) (world : SyncWorld) : SyncWorld :=
  { world with
    queue := world.inFlight.foldl (fun queue write =>
      match write with
      | .resolve commandId status result error =>
          queue.resolve commandId status result error now
      | _ => queue) world.queue
    inFlight := [] }

/-- A pass never fails. -/
theorem passes_passOver (now : String) {world : SyncWorld} (idle : world.inFlight = []) :
    Passes py manifest world (passOver py manifest now world) := by
  obtain ⟨outcomes, ran, _⟩ := applyPendingWorkPackageDirectives_eq py manifest now
    world.queue.pending { record := world.record }
  have shape := congrArg Prod.snd ran
  unfold passOver
  rw [shape]
  exact Passes.pass world now _ _ idle ran

theorem moves_delivered (now : String) (world : SyncWorld)
    (resolutions : ∀ write ∈ world.inFlight, write.resolution?.isSome) :
    Relation.ReflTransGen (Moves py) world (delivered now world) := by
  cases world with
  | mk record queue inFlight intents issued =>
      unfold delivered
      dsimp only at resolutions ⊢
      induction inFlight generalizing queue with
      | nil => exact .refl
      | cons head tail inductionHypothesis =>
          rw [List.forall_mem_cons] at resolutions
          cases head with
          | save saved => cases resolutions.1
          | append event payload => cases resolutions.1
          | resolve commandId status result error =>
              exact .head (Moves.resolve _ now commandId status result error tail rfl)
                (inductionHypothesis _ resolutions.2)

theorem moves_delivered_passOver (now : String) (world : SyncWorld) :
    Relation.ReflTransGen (Moves py) (passOver py manifest now world)
      (delivered now (passOver py manifest now world)) := by
  apply moves_delivered
  intro write member
  exact (List.mem_filter.mp member).2

def syncManifest : TaskManifest :=
  { id := "T1"
    repositories := [{ id := "api", baseBranch := "main", taskBranch := "task" }] }

/-- A pending request for a synchronization in front of a package. -/
def syncCommand (packageId : String) : WorkPackageDirectiveCommand :=
  { id := "sync-" ++ packageId
    packageId := packageId
    kind := .pauseForRepositorySync
    enabled := true
    requestedAt := "t"
    parameters := [("repositories", .array [.string "api"])] }

/-- A running task execution whose packages are all ready. -/
def readyRecord (packageIds : List String) : TaskExecutionStateRecord :=
  { state := .running
    planGraph := packageIds.map fun packageId => { id := packageId, title := packageId } }

/-- The running task execution with a request for each of two packages. -/
def twoRequests : SyncWorld :=
  { record := readyRecord ["A", "B"]
    queue := [syncCommand "A", syncCommand "B"]
    issued := ["sync-B", "sync-A"] }

/-- The running task execution with one request. -/
def oneRequest : SyncWorld :=
  { record := readyRecord ["A", "B"]
    queue := [syncCommand "A"]
    issued := ["sync-A"] }

theorem moves_oneRequest :
    Moves asciiPython (SyncWorld.start (readyRecord ["A", "B"])) oneRequest :=
  Moves.enqueue _ "sync-A" "t" "A" "pause_for_repository_sync" true "" "operator"
    (syncCommand "A").parameters (syncCommand "A") rfl List.not_mem_nil

theorem moves_twoRequests : Moves asciiPython oneRequest twoRequests :=
  Moves.enqueue _ "sync-B" "t" "B" "pause_for_repository_sync" true "" "operator"
    (syncCommand "B").parameters (syncCommand "B") rfl (by decide)

/-- One request is applied, and the slot of the paused task execution records it. -/
theorem appliedRequests_kept_oneRequest :
    let final := delivered "now" (passOver asciiPython syncManifest "now" oneRequest)
    (∃ command ∈ final.queue, command.status = .applied) ∧ RequestsKept final := by
  have applied : (delivered "now" (passOver asciiPython syncManifest "now"
      oneRequest)).queue[0]? = some { syncCommand "A" with
        status := .applied
        resolvedAt := "now"
        result := "repository synchronization safe boundary reached" } := by rfl
  have safe : SafePass asciiPython syncManifest oneRequest := by
    intro _
    constructor
    · intro first firstMember second secondMember _ _
      rw [List.mem_singleton.mp firstMember, List.mem_singleton.mp secondMember]
    · intro command member _ stopped
      cases stopped
  have run : SafeRun asciiPython syncManifest (SyncWorld.start (readyRecord ["A", "B"]))
      (delivered "now" (passOver asciiPython syncManifest "now" oneRequest)) := by
    refine .trans (.tail (.single (Or.inl moves_oneRequest)) (Or.inr
      ⟨passes_passOver asciiPython syncManifest "now" rfl, safe⟩)) ?_
    exact Relation.ReflTransGen.mono (fun _ _ moves => Or.inl moves) _ _
      (moves_delivered_passOver asciiPython syncManifest "now" oneRequest)
  exact ⟨⟨_, List.mem_of_getElem? applied, rfl⟩,
    appliedRequests_kept asciiPython syncManifest _ _ run⟩

/-- Two packages are ready and a synchronization was asked for in front of both: one pass
applies both requests, and the slot records only the second one. -/
theorem appliedRequest_lost :
    ∃ world, SyncRun asciiPython syncManifest (SyncWorld.start (readyRecord ["A", "B"]))
      world ∧ ¬RequestsKept world := by
  refine ⟨delivered "now" (passOver asciiPython syncManifest "now" twoRequests), ?_, ?_⟩
  · refine .trans (.tail (.tail (.single (Or.inl moves_oneRequest))
      (Or.inl moves_twoRequests)) (Or.inr
        (passes_passOver asciiPython syncManifest "now" rfl))) ?_
    exact Relation.ReflTransGen.mono (fun _ _ moves => Or.inl moves) _ _
      (moves_delivered_passOver asciiPython syncManifest "now" twoRequests)
  · intro kept
    have first : (delivered "now" (passOver asciiPython syncManifest "now"
        twoRequests)).queue[0]? = some { syncCommand "A" with
          status := .applied
          resolvedAt := "now"
          result := "repository synchronization safe boundary reached" } := by rfl
    have second : (delivered "now" (passOver asciiPython syncManifest "now"
        twoRequests)).record.waiting.get "command_id" (.string "") = .string "sync-B" := by
      rfl
    have recorded := (kept _ (List.mem_of_getElem? first) rfl rfl List.not_mem_nil).2.2
    rw [second] at recorded
    exact absurd (Json.string.inj recorded) (by decide)

end Execraft.Orchestrate
