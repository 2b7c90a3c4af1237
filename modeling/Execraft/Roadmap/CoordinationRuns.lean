import Execraft.Roadmap.CoordinationSteps

/-!
# What the coordinator keeps

The invariant holds wherever the coordinator stands, whoever else edits the documents and
whatever fails.
-/

namespace Execraft.Roadmaps.Coordination

open Foundation Foundation.Program

variable {Content : Type} {digest : Content → String} {projectId : String}
  {start world after : World Content} {intent next : CanonicalRoadmapIntent Content}
  {document : DocumentId} {current : Versioned Content} {surroundings : Surroundings}

/-! ## States of documents -/

/-- The state of either document for an intent. -/
def CanonicalRoadmapIntent.state (digest : Content → String)
    (intent : CanonicalRoadmapIntent Content) (document : DocumentId)
    (current : Versioned Content) : DocumentState :=
  documentState current.revision (digest current.content) (intent.expected document)
    (intent.beforeDigest document) (digest (intent.desired document))

theorem state_cases (digest : Content → String) (intent : CanonicalRoadmapIntent Content)
    (document : DocumentId) (current : Versioned Content) :
    intent.state digest document current = .before ∧
        current.revision = intent.expected document ∧
          digest current.content = intent.beforeDigest document ∨
      (intent.state digest document current).Desired ∧
        digest current.content = digest (intent.desired document) ∧
          intent.expected document < current.revision ∨
      intent.state digest document current = .divergent := by
  unfold CanonicalRoadmapIntent.state documentState
  split
  · next unchanged => exact Or.inl ⟨rfl, unchanged⟩
  · split
    · next written =>
        refine Or.inr (Or.inl ⟨?_, written⟩)
        split
        · exact Or.inl rfl
        · exact Or.inr rfl
    · exact Or.inr (Or.inr rfl)

/-- What the state of a document tells of the past. -/
def Seen (digest : Content → String) (world : World Content)
    (intent : CanonicalRoadmapIntent Content) (document : DocumentId)
    (state : DocumentState) : Prop :=
  (state = .before → Unwritten world.history intent.operationId document) ∧
    (state.Desired → Had digest world.history intent document)

theorem Seen.edited {state : DocumentState} (seen : Seen digest world intent document state)
    (edited : Edited digest world after) : Seen digest after intent document state :=
  ⟨fun isBefore => edited.unwritten _ _ (seen.1 isBefore),
    fun desired => (seen.2 desired).mono edited.subset⟩

theorem Sound.seen (sound : Sound digest projectId start world)
    (stored : Event.stored intent ∈ world.history) (target : intent.Targets document)
    (present : world.documents document = some current) :
    Seen digest world intent document (intent.state digest document current) := by
  rcases state_cases digest intent document current with
    ⟨isBefore, revision, -⟩ | ⟨desired, same, beyond⟩ | divergent
  · refine ⟨fun _ => sound.unwritten stored present revision, fun desired => ?_⟩
    rw [isBefore] at desired
    rcases desired with wrong | wrong <;> cases wrong
  · refine ⟨fun isBefore => ?_, fun _ => sound.had stored target present same beyond⟩
    rw [isBefore] at desired
    rcases desired with wrong | wrong <;> cases wrong
  · rw [divergent]
    refine ⟨nofun, fun desired => ?_⟩
    rcases desired with wrong | wrong <;> cases wrong

/-- A target that has neither been left alone nor diverged holds the desired content. -/
theorem DocumentState.desired_of_ne {state : DocumentState} (changed : state ≠ .before)
    (agrees : state ≠ .divergent) : state.Desired := by
  cases state with
  | before => exact absurd rfl changed
  | applied => exact Or.inl rfl
  | converged => exact Or.inr rfl
  | divergent => exact absurd rfl agrees

/-! ## Effects -/

theorem guarantees_effect {effect : Effect Content}
    {returns : Reply effect → World Content → Prop} (sound : Sound digest projectId start world)
    (performs : ∀ middle reply after, Edited digest world middle →
      Sound digest projectId start middle → Performed middle effect reply after →
        Sound digest projectId start after ∧ returns reply after)
    (fails : ∀ message after, Sound digest projectId start after →
      returns (.error (.other message)) after) :
    Guarantees surroundings.Step (Sound digest projectId start) world
      (request effect : Coordinating Content (Reply effect)) returns := by
  refine guarantees_request sound fun reply after stepped => ?_
  obtain ⟨middle, moves, answered⟩ := stepped
  have there := moves.sound sound
  have edited : Edited digest world middle := moves.edited
  rcases answered with performed | ⟨-, ⟨message, failed⟩, undone⟩
  · exact performs middle reply after edited there performed
  · have later : Sound digest projectId start after := by
      rcases undone with same | ⟨other, performed⟩
      · rw [same]
        exact there
      · exact (performs middle other after edited there performed).1
    rw [failed]
    exact ⟨later, fails message after later⟩

theorem guarantees_ask {effect : Effect Content}
    {returns : Answer effect → World Content → Prop} (sound : Sound digest projectId start world)
    (performs : ∀ middle reply after, Edited digest world middle →
      Sound digest projectId start middle → Performed middle effect reply after →
        Sound digest projectId start after ∧
        ∀ answer, reply = .ok answer → returns answer after) :
    Guarantees surroundings.Step (Sound digest projectId start) world (ask effect) returns := by
  apply guarantees_bind
  refine guarantees_effect sound (fun middle reply after edited there performed => ?_)
    fun message after later => guarantees_raise later
  obtain ⟨later, holds⟩ := performs middle reply after edited there performed
  cases reply with
  | ok answer => exact ⟨later, guarantees_pure later (holds answer rfl)⟩
  | error fault => exact ⟨later, guarantees_raise later⟩

theorem loaded_of_performed {reply : Reply (.load document : Effect Content)}
    (performed : Performed world (.load document) reply after) :
    after = world ∧ ∀ current, reply = .ok current → world.documents document = some current := by
  obtain ⟨same, replies⟩ := performed
  refine ⟨same, fun current answered => ?_⟩
  cases present : world.documents document with
  | none =>
      rw [present] at replies
      obtain ⟨message, failed⟩ := replies
      rw [failed] at answered
      cases answered
  | some found =>
      rw [present] at replies
      rw [show reply = .ok found from replies] at answered
      rw [Except.ok.inj answered]

theorem guarantees_load {returns : Versioned Content → World Content → Prop}
    (sound : Sound digest projectId start world)
    (loads : ∀ middle current, Edited digest world middle → Sound digest projectId start middle →
      middle.documents document = some current → returns current middle) :
    Guarantees surroundings.Step (Sound digest projectId start) world (ask (.load document))
      returns := by
  refine guarantees_ask sound fun middle reply after edited there performed => ?_
  obtain ⟨same, loaded⟩ := loaded_of_performed performed
  rw [same]
  exact ⟨there, fun current answered => loads middle current edited there (loaded current answered)⟩

theorem guarantees_loadPending
    {returns : Option (CanonicalRoadmapIntent Content) → World Content → Prop}
    (sound : Sound digest projectId start world)
    (loads : ∀ middle, Edited digest world middle → Sound digest projectId start middle →
      returns middle.pending middle) :
    Guarantees surroundings.Step (Sound digest projectId start) world (ask .loadPending)
      returns := by
  refine guarantees_ask sound fun middle reply after edited there performed => ?_
  obtain ⟨replies, same⟩ := performed
  rw [same, replies]
  refine ⟨there, fun answer answered => ?_⟩
  rw [← Except.ok.inj answered]
  exact loads middle edited there

/-! ## The pending intent -/

/-- The coordinator holds an intent that is pending. -/
structure Holds (digest : Content → String) (projectId : String) (start world : World Content)
    (intent : CanonicalRoadmapIntent Content) : Prop where
  sound : Sound digest projectId start world
  pending : world.pending = some intent

theorem Holds.stored (holds : Holds digest projectId start world intent) :
    Event.stored intent ∈ world.history :=
  holds.sound.stored intent holds.pending

theorem Holds.edited (holds : Holds digest projectId start world intent)
    (edited : Edited digest world after) (sound : Sound digest projectId start after) :
    Holds digest projectId start after intent :=
  ⟨sound, edited.pending.trans holds.pending⟩

theorem Holds.succeeds (holds : Holds digest projectId start world intent)
    (same : next.plan = intent.plan)
    (keeps : intent.phase.Terminal → next.phase = intent.phase)
    (aborted : next.phase = .aborted → ∀ document, intent.Targets document →
      Unwritten world.history intent.operationId document)
    (completed : next.phase = .complete → ∀ document, intent.Targets document →
      Had digest world.history intent document) :
    Succeeds digest projectId start world next where
  plans := fun other stored identity => by
    rw [CanonicalRoadmapIntent.operationId_of_plan same] at identity
    exact same.trans (holds.sound.plans intent other holds.stored stored identity)
  project := (CanonicalRoadmapIntent.projectId_of_plan same).trans
    (holds.sound.project intent holds.stored)
  opened := (holds.sound.opened intent holds.stored).of_plan same.symm
  settled := fun other stored terminal identity => by
    rw [CanonicalRoadmapIntent.operationId_of_plan same] at identity
    have phase := holds.sound.settled other intent stored terminal holds.pending identity
    rw [← phase] at terminal ⊢
    exact keeps terminal
  aborted := fun isAborted document writer old new wrote identity => by
    rw [CanonicalRoadmapIntent.operationId_of_plan same] at identity
    obtain ⟨stored, overwrites⟩ := holds.sound.overwrites writer document old new wrote
    have target := overwrites.target
    rw [CanonicalRoadmapIntent.targets_of_plan
      (holds.sound.plans writer intent stored holds.stored identity)] at target
    exact aborted isAborted document target writer old new wrote identity
  completed := fun isComplete document target => by
    rw [CanonicalRoadmapIntent.targets_of_plan same] at target
    exact (completed isComplete document target).of_plan same.symm
  replaces := fun other pending => by
    rw [holds.pending] at pending
    rw [← Option.some.inj pending, CanonicalRoadmapIntent.operationId_of_plan same]

/-- The intent replaces what it was made for. -/
theorem Holds.write (holds : Holds digest projectId start world intent)
    (unfinished : ¬intent.phase.Terminal) (target : intent.Targets document)
    (present : world.documents document = some current)
    (revision : current.revision = intent.expected document)
    (ordered : ∀ roadmapId, document = .roadmap roadmapId →
      Had digest world.history intent .projectExecution) :
    Sound digest projectId start
      (world.write world.pending document current (intent.desired document)) := by
  rw [holds.pending]
  refine holds.sound.write present fun writer isWriter => ?_
  rw [← Option.some.inj isWriter]
  obtain ⟨-, found, isFound, -, before⟩ :=
    holds.sound.opened intent holds.stored document target
  rw [present] at isFound
  rw [← Option.some.inj isFound] at before
  refine ⟨holds.stored, ⟨target, revision, before revision, rfl⟩, ?_, ordered⟩
  intro other stored identity isAborted
  have terminal : other.phase.Terminal := by
    rw [isAborted]
    trivial
  have phase := holds.sound.settled other intent stored terminal holds.pending identity
  rw [← phase] at terminal
  exact unfinished terminal

theorem had_write {writer : Option (CanonicalRoadmapIntent Content)}
    (revision : current.revision = intent.expected document) :
    Had digest (world.write writer document current (intent.desired document)).history
      intent document :=
  ⟨writer, current, _, wrote_write.mpr (Or.inr ⟨rfl, rfl, rfl, rfl⟩), rfl,
    Nat.lt_succ_of_le (le_of_eq revision.symm)⟩

theorem guarantees_savePending (holds : Holds digest projectId start world intent)
    (same : next.plan = intent.plan)
    (keeps : intent.phase.Terminal → next.phase = intent.phase)
    (aborted : next.phase = .aborted → ∀ document, intent.Targets document →
      Unwritten world.history intent.operationId document)
    (completed : next.phase = .complete → ∀ document, intent.Targets document →
      Had digest world.history intent document) :
    Guarantees surroundings.Step (Sound digest projectId start) world (ask (.savePending next))
      fun _ after => Holds digest projectId start after next ∧ world.history ⊆ after.history := by
  refine guarantees_ask holds.sound fun middle reply after edited there performed => ?_
  rw [performed.2]
  have succeeds : Succeeds digest projectId start middle next :=
    (holds.edited edited there).succeeds same keeps
      (fun isAborted document target =>
        edited.unwritten _ _ (aborted isAborted document target))
      fun isComplete document target => (completed isComplete document target).mono edited.subset
  have later := there.store succeeds
  exact ⟨later, fun _ _ => ⟨⟨later, rfl⟩, List.Subset.trans edited.subset subset_store⟩⟩

/-- The pending intent goes on to the next phase. -/
theorem guarantees_advance (holds : Holds digest projectId start world intent)
    (unfinished : ¬intent.phase.Terminal) (same : next.plan = intent.plan)
    (open_ : ¬next.phase.Terminal) :
    Guarantees surroundings.Step (Sound digest projectId start) world (ask (.savePending next))
      fun _ after => Holds digest projectId start after next ∧ world.history ⊆ after.history := by
  refine guarantees_savePending holds same (fun terminal => absurd terminal unfinished)
    (fun isAborted => absurd ?_ open_) fun isComplete => absurd ?_ open_
  · rw [isAborted]
    trivial
  · rw [isComplete]
    trivial

theorem guarantees_finalize {phase : IntentPhase} {reason : String}
    (holds : Holds digest projectId start world intent) (terminal : phase.Terminal)
    (keeps : intent.phase.Terminal → phase = intent.phase)
    (aborted : phase = .aborted → ∀ document, intent.Targets document →
      Unwritten world.history intent.operationId document)
    (completed : phase = .complete → ∀ document, intent.Targets document →
      Had digest world.history intent document) :
    Guarantees surroundings.Step (Sound digest projectId start) world (finalize intent phase reason)
      fun _ after => Sound digest projectId start after ∧ after.pending = none := by
  have same : { intent with phase := phase }.plan = intent.plan := rfl
  unfold finalize
  apply guarantees_bind
  refine (guarantees_savePending holds same keeps aborted completed).mono fun _ first _ saved => ?_
  apply guarantees_bind
  refine guarantees_ask saved.1.sound fun middle reply second edited there performed => ?_
  have here := saved.1.edited edited there
  rw [performed.2]
  have recorded : Sound digest projectId start (middle.record
      ({ intent with phase := phase }.row reason)) :=
    there.record here.stored terminal
  refine ⟨recorded, fun _ _ => guarantees_ask recorded
    fun third reply final moved later unlinked => ?_⟩
  rw [unlinked.2]
  have last : Sound digest projectId start { third with pending := none } := by
    refine later.unlink fun other isPending => ?_
    rw [moved.pending] at isPending
    rw [← Option.some.inj (here.pending.symm.trans isPending)]
    exact ⟨_, moved.subset (recorded_record.mpr (Or.inr rfl)), rfl⟩
  exact ⟨last, fun _ _ => ⟨last, rfl⟩⟩

theorem guarantees_complete (holds : Holds digest projectId start world intent)
    (keeps : intent.phase.Terminal → intent.phase = .complete)
    (completed : ∀ document, intent.Targets document → Had digest world.history intent document) :
    Guarantees surroundings.Step (Sound digest projectId start) world (complete intent)
      fun _ after => Sound digest projectId start after ∧ after.pending = none :=
  guarantees_finalize holds trivial (fun terminal => (keeps terminal).symm)
    nofun fun _ => completed

theorem guarantees_abort {reason : String} (holds : Holds digest projectId start world intent)
    (keeps : intent.phase.Terminal → intent.phase = .aborted)
    (aborted : ∀ document, intent.Targets document →
      Unwritten world.history intent.operationId document) :
    Guarantees surroundings.Step (Sound digest projectId start) world (abort intent reason)
      fun _ after => Sound digest projectId start after ∧ after.pending = none :=
  guarantees_finalize holds trivial (fun terminal => (keeps terminal).symm)
    (fun _ => aborted) nofun

/-! ## Applying an intent -/

theorem targets_execution : intent.Targets .projectExecution :=
  Or.inl rfl

theorem targets_roadmap : intent.Targets (.roadmap intent.roadmapId) :=
  Or.inr rfl

/-- The desired content of a target is saved, or there is a conflict. -/
theorem guarantees_save {returns : Reply (.save document (intent.desired document)
      (intent.expected document) : Effect Content) → World Content → Prop}
    (holds : Holds digest projectId start world intent) (unfinished : ¬intent.phase.Terminal)
    (target : intent.Targets document)
    (ordered : ∀ roadmapId, document = .roadmap roadmapId →
      Had digest world.history intent .projectExecution)
    (saves : ∀ saved after, Holds digest projectId start after intent →
      Had digest after.history intent document → world.history ⊆ after.history →
        returns (.ok saved) after)
    (conflicts : ∀ message after, Edited digest world after → Sound digest projectId start after →
      returns (.error (.conflict message)) after)
    (fails : ∀ message after, Sound digest projectId start after →
      returns (.error (.other message)) after) :
    Guarantees surroundings.Step (Sound digest projectId start) world
      (request (.save document (intent.desired document) (intent.expected document)) :
        Coordinating Content _) returns := by
  refine guarantees_effect holds.sound (fun middle reply after edited there performed => ?_) fails
  have here := holds.edited edited there
  unfold Performed at performed
  cases present : middle.documents document with
  | none =>
      simp only [present] at performed
      obtain ⟨same, message, failed⟩ := performed
      rw [same, failed]
      exact ⟨there, fails message middle there⟩
  | some current =>
      simp only [present] at performed
      by_cases revision : current.revision = intent.expected document
      · rw [if_pos revision] at performed
        have written := here.write unfinished target present revision fun roadmapId isRoadmap =>
          (ordered roadmapId isRoadmap).mono edited.subset
        rw [performed.1, performed.2]
        exact ⟨written, saves _ _ ⟨written, here.pending⟩ (had_write revision)
          (List.Subset.trans edited.subset subset_write)⟩
      · rw [if_neg revision] at performed
        obtain ⟨same, message, failed⟩ := performed
        rw [same, failed]
        exact ⟨there, conflicts message middle edited there⟩

/-- The Project Execution has got the desired content, and the pending intent says so. -/
structure Applied (digest : Content → String) (projectId : String) (start world : World Content)
    (intent applied : CanonicalRoadmapIntent Content) : Prop where
  holds : Holds digest projectId start world applied
  plan : applied.plan = intent.plan
  unfinished : ¬applied.phase.Terminal
  had : Had digest world.history applied .projectExecution

theorem guarantees_applyExecution (holds : Holds digest projectId start world intent)
    (unfinished : ¬intent.phase.Terminal)
    (seen : Seen digest world intent .projectExecution (executionState digest intent current))
    (agrees : executionState digest intent current ≠ .divergent) :
    Guarantees surroundings.Step (Sound digest projectId start) world
      (applyExecution digest intent current)
      fun result after => Applied digest projectId start after intent result.1 := by
  have advances : ∀ (middle : World Content) (saved : Versioned Content),
      Holds digest projectId start middle intent →
      Had digest middle.history intent .projectExecution →
      Guarantees surroundings.Step (Sound digest projectId start) middle
        (do
          let applied :=
            { intent with
              phase := .projectExecutionApplied
              projectExecutionRevision := saved.revision }
          ask (.savePending applied)
          pure (applied, saved))
        fun result after => Applied digest projectId start after intent result.1 := by
    intro middle saved here had
    have same : { intent with
        phase := .projectExecutionApplied
        projectExecutionRevision := saved.revision }.plan = intent.plan := rfl
    apply guarantees_bind
    refine (guarantees_advance here unfinished same id).mono fun _ after there stored => ?_
    exact guarantees_pure there ⟨stored.1, rfl, id, (had.mono stored.2).of_plan same.symm⟩
  unfold applyExecution
  refine guarantees_ite (fun isBefore => ?_) fun changed => ?_
  · apply guarantees_bind
    refine guarantees_save holds unfinished targets_execution (fun _ wrong => nomatch wrong)
      (fun saved after there had _ => advances after saved there had) ?_
      fun message after there => guarantees_raise there
    -- the Project Execution has been saved by another editor in between
    intro message after edited there
    have here := holds.edited edited there
    apply guarantees_bind
    refine guarantees_load there fun middle probe moved later present => ?_
    have last := here.edited moved later
    refine guarantees_ite (fun unchanged => ?_) fun _ => guarantees_raise later
    apply guarantees_bind
    refine (guarantees_abort last (fun terminal => absurd terminal unfinished)
      fun document target => ?_).mono fun _ _ final _ => guarantees_raise final
    rcases target with isExecution | isRoadmap
    · rw [isExecution]
      exact moved.unwritten _ _ (edited.unwritten _ _ (seen.1 isBefore))
    · rw [isRoadmap]
      exact (later.seen last.stored targets_roadmap present).1 unchanged
  · exact advances world current holds (seen.2 (DocumentState.desired_of_ne changed agrees))

theorem guarantees_applyRoadmap (holds : Holds digest projectId start world intent)
    (unfinished : ¬intent.phase.Terminal)
    (had : Had digest world.history intent .projectExecution) :
    Guarantees surroundings.Step (Sound digest projectId start) world (applyRoadmap digest intent)
      fun _ after => Holds digest projectId start after intent ∧
        Had digest after.history intent (.roadmap intent.roadmapId) ∧
          world.history ⊆ after.history := by
  unfold applyRoadmap
  apply guarantees_bind
  refine guarantees_load holds.sound fun middle current edited there present => ?_
  have here := holds.edited edited there
  have seen := there.seen here.stored targets_roadmap present
  cases state : roadmapState digest intent current with
  | divergent => exact guarantees_raise there
  | before =>
      apply guarantees_bind
      exact guarantees_save here unfinished targets_roadmap
        (fun _ _ => had.mono edited.subset)
        (fun saved after later written subset =>
          guarantees_pure later.sound ⟨later, written, List.Subset.trans edited.subset subset⟩)
        (fun message after _ later => guarantees_raise later)
        fun message after later => guarantees_raise later
  | applied => exact guarantees_pure there ⟨here, seen.2 (Or.inl state), edited.subset⟩
  | converged => exact guarantees_pure there ⟨here, seen.2 (Or.inr state), edited.subset⟩

theorem guarantees_applyLocked (holds : Holds digest projectId start world intent)
    (unfinished : ¬intent.phase.Terminal) :
    Guarantees surroundings.Step (Sound digest projectId start) world (applyLocked digest intent)
      fun _ after => Sound digest projectId start after ∧ after.pending = none := by
  unfold applyLocked
  apply guarantees_bind
  refine guarantees_load holds.sound fun first currentExecution edited there present => ?_
  have here := holds.edited edited there
  have seen := there.seen here.stored targets_execution present
  apply guarantees_bind
  refine guarantees_load there fun second currentRoadmap moved later _ => ?_
  have last := here.edited moved later
  refine guarantees_ite (fun _ => guarantees_raise later) fun agree => ?_
  apply guarantees_bind
  refine (guarantees_applyExecution last unfinished (seen.edited moved)
    fun divergent => agree (Or.inl divergent)).mono fun result third _ applied => ?_
  apply guarantees_bind
  refine (guarantees_applyRoadmap applied.holds applied.unfinished applied.had).mono
    fun savedRoadmap fourth _ written => ?_
  obtain ⟨kept, hadRoadmap, subset⟩ := written
  have same : { result.1 with
      phase := .roadmapApplied
      roadmapRevision := savedRoadmap.revision
      projectExecutionRevision := result.2.revision }.plan = result.1.plan := rfl
  apply guarantees_bind
  refine (guarantees_advance kept applied.unfinished same id).mono fun _ fifth _ stored => ?_
  apply guarantees_bind
  refine (guarantees_complete stored.1 (fun terminal => terminal.elim)
    fun document target => ?_).mono fun _ final settled done => guarantees_pure settled done
  rcases target with isExecution | isRoadmap
  · rw [isExecution]
    exact (applied.had.of_plan same.symm).mono (List.Subset.trans subset stored.2)
  · rw [isRoadmap]
    exact (hadRoadmap.of_plan same.symm).mono stored.2

/-! ## Calls -/

theorem guarantees_reconcile (sound : Sound digest projectId start world) :
    Guarantees surroundings.Step (Sound digest projectId start) world (reconcile digest projectId)
      fun _ after => Sound digest projectId start after ∧ after.pending = none := by
  unfold reconcile
  apply guarantees_bind
  refine guarantees_loadPending sound fun middle edited there => ?_
  cases pending : middle.pending with
  | none => exact guarantees_pure there ⟨there, pending⟩
  | some intent =>
      have holds : Holds digest projectId start middle intent := ⟨there, pending⟩
      refine guarantees_ite (fun _ => guarantees_raise there) fun _ => ?_
      cases phase : intent.phase with
      | complete =>
          apply guarantees_bind
          exact (guarantees_complete holds (fun _ => phase)
            (there.completed intent holds.stored phase)).mono
              fun _ _ settled done => guarantees_pure settled done
      | aborted =>
          apply guarantees_bind
          exact (guarantees_abort holds (fun _ => phase)
            fun document _ => there.aborted intent holds.stored phase document).mono
              fun _ _ settled done => guarantees_pure settled done
      | prepared | projectExecutionApplied | roadmapApplied =>
          have unfinished : ¬intent.phase.Terminal := by
            rw [phase]
            exact id
          apply guarantees_bind
          exact (guarantees_applyLocked holds unfinished).mono
            fun _ _ settled done => guarantees_pure settled done

/-- A document as an intent expects it has been there from the beginning. -/
theorem Sound.opens (sound : Sound digest projectId start world)
    (present : world.documents document = some current)
    (revision : current.revision = intent.expected document)
    (before : digest current.content = intent.beforeDigest document) :
    (∃ first, start.documents document = some first ∧
      first.revision ≤ intent.expected document) ∧ AtLeast digest world intent document := by
  have chain := sound.chains document
  rw [present] at chain
  obtain ⟨first, isFirst, early⟩ := chain.exists_first
  rw [revision] at early
  exact ⟨⟨first, isFirst, early⟩, current, present, le_of_eq revision.symm, fun _ => before⟩

/-- The intent of a mutation is new. -/
theorem succeeds_mutation (idle : world.pending = none) {mutation : Mutation Content}
    {operationId : String}
    (fresh : ∀ intent, Event.stored intent ∈ world.history → intent.operationId ≠ operationId)
    (opened : Opened digest start world (mutation.intent digest projectId operationId)) :
    Succeeds digest projectId start world (mutation.intent digest projectId operationId) where
  plans := fun other stored identity => absurd identity.symm (fresh other stored)
  project := rfl
  opened := opened
  settled := fun other stored _ identity => absurd identity.symm (fresh other stored)
  aborted := nofun
  completed := nofun
  replaces := fun other pending => by
    rw [idle] at pending
    cases pending

theorem guarantees_coordinate (sound : Sound digest projectId start world)
    (mutation : Mutation Content) :
    Guarantees surroundings.Step (Sound digest projectId start) world
      (coordinate digest projectId mutation)
      fun _ after => Sound digest projectId start after := by
  unfold coordinate
  apply guarantees_bind
  refine (guarantees_reconcile sound).mono fun _ first _ reconciled => ?_
  obtain ⟨soundFirst, idle⟩ := reconciled
  apply guarantees_bind
  refine guarantees_load soundFirst fun second roadmap toSecond soundSecond isRoadmap => ?_
  apply guarantees_bind
  refine guarantees_load soundSecond fun third execution toThird soundThird isExecution => ?_
  refine guarantees_ite (fun _ => guarantees_raise soundThird) fun sameRoadmap => ?_
  refine guarantees_ite (fun _ => guarantees_raise soundThird) fun sameExecution => ?_
  refine guarantees_ite (fun _ => guarantees_raise soundThird) fun sameRoadmapContent => ?_
  refine guarantees_ite (fun _ => guarantees_raise soundThird) fun sameExecutionContent => ?_
  rw [not_not] at sameRoadmap sameExecution sameRoadmapContent sameExecutionContent
  apply guarantees_bind
  refine guarantees_ask soundThird fun fourth reply after toFourth soundFourth performed => ?_
  obtain ⟨same, operationId, isFresh, fresh⟩ := performed
  rw [same, isFresh]
  refine ⟨soundFourth, fun given isGiven => ?_⟩
  rw [← Except.ok.inj isGiven]
  have opens : ∀ last, Edited digest third last →
      Opened digest start last (mutation.intent digest projectId operationId) := by
    intro last toLast document target
    rcases target with isTarget | isTarget
    · have revision : execution.revision =
          (mutation.intent digest projectId operationId).expected document := by
        rw [isTarget, sameExecution]
        rfl
      rw [← isTarget] at isExecution
      obtain ⟨early, atLeast⟩ := soundThird.opens isExecution revision <| by
        rw [isTarget, sameExecutionContent]
        rfl
      exact ⟨early, toLast.atLeast _ _ atLeast⟩
    · have revision : roadmap.revision =
          (mutation.intent digest projectId operationId).expected document := by
        rw [isTarget, sameRoadmap]
        rfl
      have isTarget : document = .roadmap mutation.roadmapId := isTarget
      rw [← isTarget] at isRoadmap
      obtain ⟨early, atLeast⟩ := soundSecond.opens isRoadmap revision <| by
        rw [isTarget, sameRoadmapContent]
        rfl
      exact ⟨early, (toThird.trans toLast).atLeast _ _ atLeast⟩
  dsimp only
  cases problem : (mutation.intent digest projectId operationId).problem with
  | some message => exact guarantees_raise soundFourth
  | none =>
      apply guarantees_bind
      refine guarantees_ask soundFourth fun fifth reply final toFifth soundFifth stored => ?_
      have idleFifth : fifth.pending = none := by
        rw [toFifth.pending, toFourth.pending, toThird.pending, toSecond.pending, idle]
      have later := soundFifth.store <| succeeds_mutation idleFifth
        (fun intent isStored => fresh intent (toFifth.stored intent isStored))
        (opens fifth (toFourth.trans toFifth))
      rw [stored.2]
      refine ⟨later, fun _ _ => ?_⟩
      exact (guarantees_applyLocked ⟨later, rfl⟩ id).mono fun _ _ _ done => done.1

theorem guarantees_stateOf {returns : DocumentState → World Content → Prop}
    {state : Versioned Content → DocumentState} (sound : Sound digest projectId start world)
    (loads : ∀ middle current, Edited digest world middle → Sound digest projectId start middle →
      middle.documents document = some current → returns (state current) middle)
    (fails : ∀ after, Edited digest world after → Sound digest projectId start after →
      returns .divergent after) :
    Guarantees surroundings.Step (Sound digest projectId start) world (stateOf document state)
      returns := by
  apply guarantees_bind
  refine guarantees_request sound fun reply after stepped => ?_
  obtain ⟨middle, moves, answered⟩ := stepped
  have there := moves.sound sound
  rcases answered with performed | ⟨-, ⟨message, failed⟩, undone⟩
  · obtain ⟨same, loaded⟩ := loaded_of_performed performed
    rw [same]
    refine ⟨there, ?_⟩
    cases reply with
    | ok current =>
        exact guarantees_pure there (loads middle current moves.edited there (loaded current rfl))
    | error fault => exact guarantees_pure there (fails middle moves.edited there)
  · have same : after = middle := by
      rcases undone with same | ⟨other, performed⟩
      · exact same
      · exact (loaded_of_performed performed).1
    rw [same, failed]
    exact ⟨there, guarantees_pure there (fails middle moves.edited there)⟩

/-- What the status tells of the pending intent. -/
structure Tells (digest : Content → String) (projectId : String) (start world : World Content)
    (status : RoadmapCoordinationStatus Content) (intent : CanonicalRoadmapIntent Content) :
    Prop where
  holds : Holds digest projectId start world intent
  roadmap : Seen digest world intent (.roadmap intent.roadmapId) status.roadmap
  execution : Seen digest world intent .projectExecution status.projectExecution
  safeActions : status.safeActions =
    safeActions intent.phase status.roadmap status.projectExecution

theorem guarantees_status (sound : Sound digest projectId start world) :
    Guarantees surroundings.Step (Sound digest projectId start) world (status digest projectId)
      fun status after => Sound digest projectId start after ∧
        ∀ intent, status.pending = some intent →
          Tells digest projectId start after status intent := by
  unfold status
  apply guarantees_bind
  refine guarantees_loadPending sound fun first toFirst soundFirst => ?_
  cases pending : first.pending with
  | none => exact guarantees_pure soundFirst ⟨soundFirst, nofun⟩
  | some intent =>
      have holds : Holds digest projectId start first intent := ⟨soundFirst, pending⟩
      refine guarantees_ite (fun _ => guarantees_raise soundFirst) fun _ => ?_
      have undecided : ∀ (world : World Content) (document : DocumentId),
          Seen digest world intent document .divergent := fun _ _ =>
        ⟨nofun, fun desired => by rcases desired with wrong | wrong <;> cases wrong⟩
      have rest : ∀ (second : World Content) (roadmap : DocumentState),
          Holds digest projectId start second intent →
            Seen digest second intent (.roadmap intent.roadmapId) roadmap →
          Guarantees surroundings.Step (Sound digest projectId start) second
            (stateOf .projectExecution (executionState digest intent) >>= fun execution =>
              pure
                { pending := some intent
                  roadmap := roadmap
                  projectExecution := execution
                  safeActions := safeActions intent.phase roadmap execution })
            fun status after => Sound digest projectId start after ∧
              ∀ other, status.pending = some other →
                Tells digest projectId start after status other := by
        intro second roadmap there seen
        apply guarantees_bind
        refine guarantees_stateOf there.sound (fun third current toThird soundThird present => ?_)
          fun third toThird soundThird => ?_
        · have last := there.edited toThird soundThird
          refine guarantees_pure soundThird ⟨soundThird, fun other same => ?_⟩
          rw [← Option.some.inj same]
          exact ⟨last, seen.edited toThird, soundThird.seen last.stored targets_execution present,
            rfl⟩
        · refine guarantees_pure soundThird ⟨soundThird, fun other same => ?_⟩
          rw [← Option.some.inj same]
          exact ⟨there.edited toThird soundThird, seen.edited toThird, undecided _ _, rfl⟩
      apply guarantees_bind
      refine guarantees_stateOf soundFirst (fun second current toSecond soundSecond present => ?_)
        fun second toSecond soundSecond => ?_
      · have there := holds.edited toSecond soundSecond
        exact rest second _ there (soundSecond.seen there.stored targets_roadmap present)
      · exact rest second _ (holds.edited toSecond soundSecond) (undecided _ _)

theorem mem_safeActions_iff {phase : IntentPhase} {roadmap execution : DocumentState}
    {action : SafeAction} :
    action ∈ safeActions phase roadmap execution ↔
      match action with
      | .finalizeTerminal => phase.Terminal
      | .acceptApplied => ¬phase.Terminal ∧ roadmap.Desired ∧ execution.Desired
      | .retryRollForward => ¬phase.Terminal ∧ ¬(roadmap.Desired ∧ execution.Desired) ∧
          roadmap ≠ .divergent ∧ execution ≠ .divergent
      | .abort => ¬phase.Terminal ∧ roadmap = .before ∧ execution = .before := by
  cases phase <;> cases roadmap <;> cases execution <;> cases action <;> decide

theorem guarantees_resolve (sound : Sound digest projectId start world) (action : SafeAction) :
    Guarantees surroundings.Step (Sound digest projectId start) world
      (resolve digest projectId action)
      fun _ after => Sound digest projectId start after := by
  have ends : ∀ {middle : World Content}, Sound digest projectId start middle →
      Guarantees surroundings.Step (Sound digest projectId start) middle (status digest projectId)
        fun _ after => Sound digest projectId start after := fun there =>
    (guarantees_status there).mono fun _ _ _ done => done.1
  unfold resolve
  apply guarantees_bind
  refine (guarantees_status sound).mono fun current first soundFirst told => ?_
  refine guarantees_ite (fun _ => guarantees_raise soundFirst) fun some_ => ?_
  refine guarantees_ite (fun _ => guarantees_raise soundFirst) fun safe => ?_
  rw [not_not] at safe
  obtain ⟨intent, isPending⟩ :=
    Option.ne_none_iff_exists'.mp (mt Option.isNone_iff_eq_none.mpr some_)
  have tells := told.2 intent isPending
  rw [tells.safeActions, mem_safeActions_iff] at safe
  apply guarantees_bind
  refine guarantees_loadPending soundFirst fun second toSecond soundSecond => ?_
  have holds := tells.holds.edited toSecond soundSecond
  rw [holds.pending]
  cases action with
  | retryRollForward =>
      apply guarantees_bind
      exact (guarantees_applyLocked holds safe.1).mono fun _ _ _ done => ends done.1
  | acceptApplied =>
      apply guarantees_bind
      refine (guarantees_complete holds (fun terminal => absurd terminal safe.1)
        fun document target => ?_).mono fun _ _ _ done => ends done.1
      rcases target with isTarget | isTarget
      · rw [isTarget]
        exact (tells.execution.2 safe.2.2).mono toSecond.subset
      · rw [isTarget]
        exact (tells.roadmap.2 safe.2.1).mono toSecond.subset
  | finalizeTerminal =>
      dsimp only
      cases phase : intent.phase with
      | complete =>
          apply guarantees_bind
          exact (guarantees_complete holds (fun _ => phase)
            (soundSecond.completed intent holds.stored phase)).mono
              fun _ _ _ done => ends done.1
      | aborted =>
          apply guarantees_bind
          exact (guarantees_abort holds (fun _ => phase)
            fun document _ => soundSecond.aborted intent holds.stored phase document).mono
              fun _ _ _ done => ends done.1
      | prepared | projectExecutionApplied | roadmapApplied => exact guarantees_raise soundSecond
  | abort =>
      apply guarantees_bind
      refine (guarantees_abort holds (fun terminal => absurd terminal safe.1)
        fun document target => ?_).mono fun _ _ _ done => ends done.1
      rcases target with isTarget | isTarget
      · rw [isTarget]
        exact toSecond.unwritten _ _ (tells.execution.1 safe.2.2)
      · rw [isTarget]
        exact toSecond.unwritten _ _ (tells.roadmap.1 safe.2.1)

end Execraft.Roadmaps.Coordination
