import Execraft.Roadmap.CoordinationRuns

/-!
# Mutations under concurrent edits and crashes

Calls one after another, each cut off anywhere: no update is lost, and the journal tells the
truth.
-/

namespace Execraft.Roadmaps.Coordination

open Foundation Foundation.Program

variable {Content : Type} {digest : Content → String} {projectId : String}
  {start world : World Content} {surroundings : Surroundings}

/-! ## Calls in sequence -/

inductive Call (Content : Type) where
  | reconcile
  | coordinate (mutation : Mutation Content)
  | status
  | resolve (action : SafeAction)

def Call.program (digest : Content → String) (projectId : String) :
    Call Content → Coordinating Content Unit
  | .reconcile => do
      let _ ← Coordination.reconcile digest projectId
      pure ()
  | .coordinate mutation => do
      let _ ← Coordination.coordinate digest projectId mutation
      pure ()
  | .status => do
      let _ ← Coordination.status digest projectId
      pure ()
  | .resolve action => do
      let _ ← Coordination.resolve digest projectId action
      pure ()

theorem guarantees_call (sound : Sound digest projectId start world) (call : Call Content) :
    Guarantees surroundings.Step (Sound digest projectId start) world
      (call.program digest projectId) fun _ _ => True := by
  have ends : ∀ middle : World Content, Sound digest projectId start middle →
      Guarantees surroundings.Step (Sound digest projectId start) middle
        (pure () : Coordinating Content Unit) fun _ _ => True := fun _ there =>
    guarantees_pure there trivial
  cases call with
  | reconcile =>
      exact guarantees_bind ((guarantees_reconcile sound).mono fun _ _ there _ => ends _ there)
  | coordinate mutation =>
      exact guarantees_bind
        ((guarantees_coordinate sound mutation).mono fun _ _ there _ => ends _ there)
  | status =>
      exact guarantees_bind ((guarantees_status sound).mono fun _ _ there _ => ends _ there)
  | resolve action =>
      exact guarantees_bind
        ((guarantees_resolve sound action).mono fun _ _ there _ => ends _ there)

/-- The worlds met by the calls of a coordinator one after another, each cut off anywhere. -/
def Reached (surroundings : Surroundings) (digest : Content → String) (projectId : String)
    (start : World Content) : World Content → Prop :=
  Sessions surroundings.Step surroundings.Moves
    (fun _ program => ∃ call : Call Content, program = call.program digest projectId)
    fun world => world = start ∧ start.pending = none ∧ start.history = []

theorem sound_of_reached (reached : Reached surroundings digest projectId start world) :
    Sound digest projectId start world := by
  have begins : ∀ middle : World Content,
      (middle = start ∧ start.pending = none ∧ start.history = []) →
        Sound digest projectId start middle := by
    intro middle begins
    rw [begins.1]
    exact sound_start begins.2.1 begins.2.2
  have opens : ∀ middle opened : World Content, Sound digest projectId start middle →
      surroundings.Moves middle opened → Sound digest projectId start opened :=
    fun _ _ sound moves => moves.sound sound
  have each : ∀ (middle : World Content) (program : Coordinating Content Unit),
      Sound digest projectId start middle →
        (∃ call : Call Content, program = call.program digest projectId) →
          Guarantees surroundings.Step (Sound digest projectId start) middle program
            fun _ _ => True := by
    intro middle program sound isCall
    obtain ⟨call, same⟩ := isCall
    rw [same]
    exact guarantees_call sound call
  exact Sessions.invariant begins opens each reached

/-! ## No lost update -/

/-- No two writes of one document belong to one operation. -/
def Event.Apart : Event Content → Event Content → Prop
  | .wrote (some first) document _ _, .wrote (some second) other _ _ =>
      document = other → first.operationId ≠ second.operationId
  | _, _ => True

theorem Sound.apart (sound : Sound digest projectId start world) :
    world.history.Pairwise Event.Apart := by
  have ordered : ∀ document : DocumentId, world.history.Pairwise fun earlier later =>
      ∀ first, saveOf document earlier = some first → ∀ second,
        saveOf document later = some second → first.2.revision ≤ second.1.revision :=
    fun document => List.pairwise_filterMap.mp (sound.chains document).pairwise
  refine List.pairwise_iff_forall_sublist.mpr fun {earlier later} sub => ?_
  have members := sub.subset
  have isEarlier : earlier ∈ world.history := members (List.mem_cons_self ..)
  have isLater : later ∈ world.history :=
    members (List.mem_cons_of_mem _ (List.mem_cons_self ..))
  unfold Event.Apart
  split
  · next first document old new second other before next =>
      intro same identity
      rw [← same] at isLater sub
      obtain ⟨firstStored, firstOverwrites⟩ := sound.overwrites first document old new isEarlier
      obtain ⟨secondStored, secondOverwrites⟩ :=
        sound.overwrites second document before next isLater
      have apart := List.pairwise_iff_forall_sublist.mp (ordered document) sub (old, new)
        (if_pos rfl) (before, next) (if_pos rfl)
      obtain ⟨revision, -⟩ := sound.revisions isEarlier
      have expected := CanonicalRoadmapIntent.expected_of_plan
        (sound.plans first second firstStored secondStored identity)
      have firstRevision := firstOverwrites.revision
      have secondRevision := secondOverwrites.revision
      rw [expected] at firstRevision
      dsimp only at apart
      omega
  · trivial

/-- Wherever the coordinator has been cut off, whatever has failed and whoever else has edited
the documents: every save replaces what the one before left, an intent replaces exactly the
content and the revision that it was made for, and no operation writes a document twice. -/
theorem no_lost_update (digest : Content → String) (projectId : String)
    (start world : World Content)
    (reached : Reached ⟨True, True⟩ digest projectId start world) :
    (∀ document, Chain (start.documents document) (saves document world.history)
      (world.documents document)) ∧
      (∀ intent document old new,
        Event.wrote (some intent) document old new ∈ world.history →
          Overwrites digest intent document old new ∧ new.revision = old.revision + 1) ∧
        world.history.Pairwise Event.Apart := by
  have sound := sound_of_reached reached
  refine ⟨sound.chains, fun intent document old new wrote => ?_, sound.apart⟩
  exact ⟨(sound.overwrites intent document old new wrote).2, (sound.revisions wrote).1⟩

/-! ## Two documents -/

def sampleMutation : Mutation Nat where
  roadmapId := "main"
  currentRoadmap := { revision := 1, content := 20 }
  desiredRoadmap := 21
  currentProjectExecution := { revision := 1, content := 10 }
  desiredProjectExecution := 11
  operation := "move gate"

def sampleStart : World Nat where
  documents := fun document => match document with
    | .projectExecution => some { revision := 1, content := 10 }
    | .roadmap roadmapId =>
        if roadmapId = "main" then some { revision := 1, content := 20 } else none

/-- The process dies when it has written the first of the two documents. -/
def sampleCrash : World Nat :=
  ((Call.coordinate sampleMutation).program toString "P").driveFor handle 8 sampleStart

theorem sampleCrash_reached : Reached ⟨True, True⟩ toString "P" sampleStart sampleCrash :=
  Sessions.session (Sessions.start ⟨rfl, rfl, rfl⟩) (Or.inl rfl) ⟨_, rfl⟩
    (run_driveFor (step_handle _) 8 _ _)

example : (sampleCrash.documents .projectExecution).map Versioned.content = some 11 := by
  decide

example : (sampleCrash.documents (.roadmap "main")).map Versioned.content = some 20 := by
  decide

example : sampleCrash.pending.map CanonicalRoadmapIntent.phase = some .prepared := by
  decide

theorem sampleCrash_keeps :
    sampleCrash.history.Pairwise Event.Apart ∧
      Chain (some { revision := 1, content := 10 })
        (saves .projectExecution sampleCrash.history)
          (sampleCrash.documents .projectExecution) := by
  obtain ⟨chains, -, apart⟩ :=
    no_lost_update toString "P" sampleStart sampleCrash sampleCrash_reached
  exact ⟨apart, chains .projectExecution⟩

/-! ## A truthful journal -/

/-- Every intent that was ever stored is pending or has an entry in the journal, and its
entries tell the truth: what was aborted has written nothing, what is complete has found its
content in both documents, and the Roadmap is written last. -/
theorem journal_truthful (digest : Content → String) (projectId : String)
    (start world : World Content)
    (reached : Reached ⟨True, True⟩ digest projectId start world) :
    (∀ intent, Event.stored intent ∈ world.history →
      (∃ other, world.pending = some other ∧ other.plan = intent.plan) ∨
        Journaled world.history intent.operationId) ∧
      (∀ row, Event.recorded row ∈ world.history → ∃ intent,
        Event.stored intent ∈ world.history ∧ intent.operationId = row.operationId ∧
          match row.phase with
          | .aborted => ∀ document, Unwritten world.history row.operationId document
          | .complete => ∀ document, intent.Targets document →
              Had digest world.history intent document
          | _ => False) ∧
        (∀ row other, Event.recorded row ∈ world.history → Event.recorded other ∈ world.history →
          row.operationId = other.operationId → row.phase = other.phase) ∧
          ∀ intent roadmapId old new,
            Event.wrote (some intent) (.roadmap roadmapId) old new ∈ world.history →
              Had digest world.history intent .projectExecution := by
  have sound := sound_of_reached reached
  refine ⟨fun intent isStored => ?_, fun row isRecorded => ?_,
    fun row other isRow isOther same => ?_, sound.ordered⟩
  · rcases sound.accounted intent isStored with ⟨other, isPending, same⟩ | journaled
    · exact Or.inl ⟨other, isPending,
        sound.plans other intent (sound.stored other isPending) isStored same⟩
    · exact Or.inr journaled
  · obtain ⟨intent, isStored, terminal, identity, phase⟩ := sound.recorded row isRecorded
    refine ⟨intent, isStored, identity, ?_⟩
    rw [← phase, ← identity]
    cases isPhase : intent.phase with
    | aborted => exact sound.aborted intent isStored isPhase
    | complete => exact sound.completed intent isStored isPhase
    | prepared | projectExecutionApplied | roadmapApplied =>
        rw [isPhase] at terminal
        exact terminal
  · obtain ⟨first, firstStored, firstEnds, firstIs, firstPhase⟩ := sound.recorded row isRow
    obtain ⟨second, secondStored, secondEnds, secondIs, secondPhase⟩ :=
      sound.recorded other isOther
    rw [← firstPhase, ← secondPhase]
    exact sound.agrees first second firstStored secondStored firstEnds secondEnds
      (firstIs.trans (same.trans secondIs.symm))

def sampleIntent : CanonicalRoadmapIntent Nat :=
  sampleMutation.intent toString "P" "0"

theorem sampleCrash_accounted :
    (∃ other, sampleCrash.pending = some other ∧ other.plan = sampleIntent.plan) ∨
      Journaled sampleCrash.history "0" := by
  obtain ⟨accounted, -⟩ :=
    journal_truthful toString "P" sampleStart sampleCrash sampleCrash_reached
  have stored : Event.stored sampleIntent ∈ sampleCrash.history := List.Mem.head _
  exact accounted sampleIntent stored

end Execraft.Roadmaps.Coordination
