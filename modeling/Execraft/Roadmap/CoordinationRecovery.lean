import Execraft.Roadmap.CoordinationSafety

/-!
# Recovery of mutations

What reconciliation does with whatever was left behind, when nobody else edits the documents
meanwhile and nothing fails.
-/

namespace Execraft.Roadmaps.Coordination

open Foundation Foundation.Program

variable {Content : Type} {digest : Content → String} {projectId : String}
  {start world final : World Content} {intent next : CanonicalRoadmapIntent Content}
  {document : DocumentId} {current : Versioned Content}

def quiet : Surroundings :=
  ⟨False, False⟩

theorem performed_of_quiet {effect : Effect Content} {reply : Reply effect}
    {after : World Content} (stepped : quiet.Step world effect reply after) :
    Performed world effect reply after := by
  obtain ⟨middle, moves, answered⟩ := stepped
  have same : middle = world := moves.resolve_right fun edited => edited.1
  rw [same] at answered
  exact answered.resolve_right fun broken => broken.1

/-! ## Effects -/

section Effects

variable {returns : Unit → World Content → Prop}
  {raises : CoordinationFailure → World Content → Prop}

/-- What a program comes to. -/
abbrev Comes {Value : Type} (world : World Content) (program : Coordinating Content Value)
    (returns : Value → World Content → Prop)
    (raises : CoordinationFailure → World Content → Prop) : Prop :=
  Ensures quiet.Step (fun _ => True) world program returns raises

theorem comes_ask {effect : Effect Content} {returns : Answer effect → World Content → Prop}
    {answer : Answer effect} (replies : ∀ reply after, Performed world effect reply after →
      reply = .ok answer ∧ after = final) (holds : returns answer final) :
    Comes world (ask effect) returns raises := by
  apply ensures_bind
  refine ensures_request trivial fun reply after stepped => ?_
  obtain ⟨isReply, isAfter⟩ := replies reply after (performed_of_quiet stepped)
  rw [isReply, isAfter]
  exact ⟨trivial, ensures_pure trivial holds⟩

theorem comes_load {returns : Versioned Content → World Content → Prop}
    (present : world.documents document = some current) (holds : returns current world) :
    Comes world (ask (.load document)) returns raises := by
  refine comes_ask (fun reply after performed => ?_) holds
  obtain ⟨same, replies⟩ := performed
  rw [present] at replies
  exact ⟨replies, same⟩

theorem comes_save {returns : Versioned Content → World Content → Prop} {desired : Content}
    (present : world.documents document = some current)
    (holds : returns { revision := current.revision + 1, content := desired }
      (world.write world.pending document current desired)) :
    Comes world (ask (.save document desired current.revision)) returns raises := by
  refine comes_ask (fun reply after performed => ?_) holds
  unfold Performed at performed
  simp only [present, if_pos] at performed
  exact performed

theorem comes_finalize {phase : IntentPhase} {reason : String}
    (holds : ∀ after, after.documents = world.documents → after.pending = none →
      Event.recorded ({ intent with phase := phase }.row reason) ∈ after.history →
        returns () after) :
    Comes world (finalize intent phase reason) returns raises := by
  unfold finalize
  apply ensures_bind
  refine comes_ask (fun _ _ performed => performed) ?_
  apply ensures_bind
  refine comes_ask (fun _ _ performed => performed) ?_
  refine comes_ask (fun _ _ performed => performed) ?_
  exact holds _ rfl rfl (recorded_record.mpr (Or.inr rfl))

end Effects

/-! ## Applying an intent -/

/-- A target once the intent has been applied. -/
def CanonicalRoadmapIntent.settle (digest : Content → String)
    (intent : CanonicalRoadmapIntent Content) (document : DocumentId)
    (current : Versioned Content) : Versioned Content :=
  if intent.state digest document current = .before then
    { revision := current.revision + 1, content := intent.desired document }
  else current

theorem settle_of_before (isBefore : intent.state digest document current = .before) :
    intent.settle digest document current =
      { revision := current.revision + 1, content := intent.desired document } :=
  if_pos isBefore

theorem settle_of_changed (changed : intent.state digest document current ≠ .before) :
    intent.settle digest document current = current :=
  if_neg changed

theorem not_desired_before : ¬DocumentState.before.Desired := by
  decide

theorem revision_of_before (isBefore : intent.state digest document current = .before) :
    current.revision = intent.expected document := by
  rcases state_cases digest intent document current with
    ⟨-, revision, -⟩ | ⟨desired, -⟩ | divergent
  · exact revision
  · rw [isBefore] at desired
    exact absurd desired not_desired_before
  · rw [isBefore] at divergent
    cases divergent

/-- Once the intent has been applied, a target that does not diverge has the desired content. -/
theorem digest_settle (agrees : intent.state digest document current ≠ .divergent) :
    digest (intent.settle digest document current).content =
        digest (intent.desired document) ∧
      intent.expected document < (intent.settle digest document current).revision := by
  rcases state_cases digest intent document current with
    ⟨isBefore, revision, -⟩ | ⟨desired, written⟩ | divergent
  · rw [settle_of_before isBefore]
    exact ⟨rfl, Nat.lt_succ_of_le (le_of_eq revision.symm)⟩
  · rw [settle_of_changed]
    · exact written
    · intro isBefore
      rw [isBefore] at desired
      exact not_desired_before desired
  · exact absurd divergent agrees

theorem settle_of_plan (same : next.plan = intent.plan) :
    next.settle digest = intent.settle digest := by
  unfold CanonicalRoadmapIntent.settle CanonicalRoadmapIntent.state
  rw [CanonicalRoadmapIntent.expected_of_plan same,
    CanonicalRoadmapIntent.beforeDigest_of_plan same,
    CanonicalRoadmapIntent.desired_of_plan same]

theorem state_of_plan (same : next.plan = intent.plan) :
    next.state digest = intent.state digest := by
  unfold CanonicalRoadmapIntent.state
  rw [CanonicalRoadmapIntent.expected_of_plan same,
    CanonicalRoadmapIntent.beforeDigest_of_plan same,
    CanonicalRoadmapIntent.desired_of_plan same]

section Applying

variable {raises : CoordinationFailure → World Content → Prop}

theorem comes_applyExecution
    {returns : CanonicalRoadmapIntent Content × Versioned Content → World Content → Prop}
    (present : world.documents .projectExecution = some current)
    (holds : ∀ applied after, applied.plan = intent.plan →
      after.documents = Function.update world.documents .projectExecution
        (some (intent.settle digest .projectExecution current)) →
          returns (applied, intent.settle digest .projectExecution current) after) :
    Comes world (applyExecution digest intent current) returns raises := by
  unfold applyExecution
  refine ensures_ite (fun isBefore => ?_) fun changed => ?_
  · have state : intent.state digest .projectExecution current = .before := isBefore
    rw [settle_of_before state] at holds
    have revision : current.revision = intent.expectedProjectExecutionRevision :=
      revision_of_before state
    apply ensures_bind
    refine ensures_request trivial fun reply after stepped => ?_
    have performed := performed_of_quiet stepped
    unfold Performed at performed
    simp only [present, if_pos revision] at performed
    rw [performed.1, performed.2]
    refine ⟨trivial, ?_⟩
    apply ensures_bind
    refine comes_ask (fun _ _ performed => performed) ?_
    exact ensures_pure trivial (holds _ _ rfl rfl)
  · have state : intent.state digest .projectExecution current ≠ .before := changed
    rw [settle_of_changed state, ← present, Function.update_eq_self] at holds
    apply ensures_bind
    refine comes_ask (fun _ _ performed => performed) ?_
    exact ensures_pure trivial (holds _ _ rfl rfl)

theorem comes_applyRoadmap {returns : Versioned Content → World Content → Prop}
    (present : world.documents (.roadmap intent.roadmapId) = some current)
    (agrees : roadmapState digest intent current ≠ .divergent)
    (holds : ∀ after, after.documents = Function.update world.documents
      (.roadmap intent.roadmapId)
        (some (intent.settle digest (.roadmap intent.roadmapId) current)) →
          returns (intent.settle digest (.roadmap intent.roadmapId) current) after) :
    Comes world (applyRoadmap digest intent) returns raises := by
  have unchanged : roadmapState digest intent current ≠ .before → returns current world := by
    intro changed
    have state : intent.state digest (.roadmap intent.roadmapId) current ≠ .before := changed
    rw [settle_of_changed state, ← present, Function.update_eq_self] at holds
    exact holds world rfl
  unfold applyRoadmap
  apply ensures_bind
  refine comes_load present ?_
  cases state : roadmapState digest intent current with
  | divergent => exact absurd state agrees
  | before =>
      have isBefore : intent.state digest (.roadmap intent.roadmapId) current = .before := state
      rw [settle_of_before isBefore] at holds
      have revision : current.revision = intent.expectedRoadmapRevision :=
        revision_of_before isBefore
      rw [← revision]
      exact comes_save present (holds _ rfl)
  | applied | converged =>
      refine ensures_pure trivial (unchanged ?_)
      rw [state]
      exact nofun

/-- A target is not as the intent left or found it. -/
def Diverges (digest : Content → String) (world : World Content)
    (intent : CanonicalRoadmapIntent Content) : Prop :=
  ∃ document current, intent.Targets document ∧ world.documents document = some current ∧
    intent.state digest document current = .divergent

/-- All that the intent asks for is done. -/
structure Finished (digest : Content → String) (world : World Content)
    (intent : CanonicalRoadmapIntent Content) (final : World Content) : Prop where
  pending : final.pending = none
  journaled : ∃ row, Event.recorded row ∈ final.history ∧
    row.operationId = intent.operationId ∧ row.phase = .complete
  targets : ∀ document, intent.Targets document → ∃ current,
    world.documents document = some current ∧
      final.documents document = some (intent.settle digest document current) ∧
        digest (intent.settle digest document current).content =
          digest (intent.desired document)
  others : ∀ document, ¬intent.Targets document →
    final.documents document = world.documents document

theorem comes_applyLocked {returns : Versioned Content × Versioned Content → World Content → Prop}
    {execution roadmap : Versioned Content}
    (isExecution : world.documents .projectExecution = some execution)
    (isRoadmap : world.documents (.roadmap intent.roadmapId) = some roadmap)
    (holds : ∀ result after, Finished digest world intent after → returns result after)
    (fails : ∀ failure, Diverges digest world intent → raises failure world) :
    Comes world (applyLocked digest intent) returns raises := by
  unfold applyLocked
  apply ensures_bind
  refine comes_load isExecution ?_
  apply ensures_bind
  refine comes_load isRoadmap ?_
  refine ensures_ite (fun diverges => ensures_raise trivial (fails _ ?_)) fun agree => ?_
  · rcases diverges with here | here
    · exact ⟨_, execution, targets_execution, isExecution, here⟩
    · exact ⟨_, roadmap, targets_roadmap, isRoadmap, here⟩
  have executionAgrees : intent.state digest .projectExecution execution ≠ .divergent :=
    fun diverges => agree (Or.inl diverges)
  have roadmapAgrees : intent.state digest (.roadmap intent.roadmapId) roadmap ≠ .divergent :=
    fun diverges => agree (Or.inr diverges)
  apply ensures_bind
  refine comes_applyExecution isExecution fun applied middle same written => ?_
  have isId := CanonicalRoadmapIntent.roadmapId_of_plan same
  have other : DocumentId.roadmap intent.roadmapId ≠ .projectExecution := nofun
  have there : middle.documents (.roadmap applied.roadmapId) = some roadmap := by
    rw [isId, written, Function.update_of_ne other]
    exact isRoadmap
  have agrees : roadmapState digest applied roadmap ≠ .divergent := by
    have state : applied.state digest = intent.state digest := state_of_plan same
    intro diverges
    apply roadmapAgrees
    rw [← diverges]
    exact (congrFun (congrFun state (.roadmap intent.roadmapId)) roadmap).symm
  apply ensures_bind
  refine comes_applyRoadmap there agrees fun after replaced => ?_
  rw [settle_of_plan same, isId, written] at replaced
  apply ensures_bind
  refine comes_ask (fun _ _ performed => performed) ?_
  apply ensures_bind
  refine comes_finalize fun last documents pending recorded => ?_
  have isLast : last.documents = _ := documents.trans replaced
  refine ensures_pure trivial (holds _ last ⟨pending, ⟨_, recorded, ?_, rfl⟩, ?_, ?_⟩)
  · exact CanonicalRoadmapIntent.operationId_of_plan same
  · intro document target
    rcases target with isTarget | isTarget
    · rw [isTarget, isLast, Function.update_of_ne other.symm, Function.update_self]
      exact ⟨execution, isExecution, rfl, (digest_settle executionAgrees).1⟩
    · rw [isTarget, isLast, Function.update_self]
      exact ⟨roadmap, isRoadmap, rfl, (digest_settle roadmapAgrees).1⟩
  · intro document outside
    rw [isLast, Function.update_of_ne fun isTarget => outside (Or.inr isTarget),
      Function.update_of_ne fun isTarget => outside (Or.inl isTarget)]

end Applying

/-! ## Reconciliation -/

/-- How a reconciliation ends: with nothing to do, with the intent finished or cleared away,
or with documents that it must not touch. -/
def Recovers (digest : Content → String) (world : World Content) :
    Ending CoordinationFailure Bool → World Content → Prop
  | .cut, _ => True
  | .returned false, final => world.pending = none ∧ final = world
  | .returned true, final => ∃ intent, world.pending = some intent ∧
      if intent.phase.Terminal then
        final.documents = world.documents ∧ final.pending = none ∧
          ∃ row, Event.recorded row ∈ final.history ∧ row.operationId = intent.operationId ∧
            row.phase = intent.phase
      else Finished digest world intent final
  | .raised _, final => final = world ∧ ∃ intent, world.pending = some intent ∧
      ¬intent.phase.Terminal ∧ Diverges digest world intent

theorem comes_reconcile (sound : Sound digest projectId start world) :
    Comes world (reconcile digest projectId)
      (fun value => Recovers digest world (.returned value))
      fun failure => Recovers digest world (.raised failure) := by
  unfold reconcile
  apply ensures_bind
  refine comes_ask (fun _ _ performed => performed) ?_
  cases pending : world.pending with
  | none => exact ensures_pure trivial ⟨pending, rfl⟩
  | some intent =>
      have stored := sound.stored intent pending
      refine ensures_ite (fun foreign => absurd (sound.project intent stored) foreign) fun _ => ?_
      have cleared : ∀ {phase : IntentPhase} {reason : String}, intent.phase = phase →
          phase.Terminal → Comes world (finalize intent phase reason >>= fun _ => pure true)
            (fun value => Recovers digest world (.returned value))
            fun failure => Recovers digest world (.raised failure) := by
        intro phase reason isPhase terminal
        apply ensures_bind
        refine comes_finalize fun after documents unlinked recorded => ensures_pure trivial ?_
        refine ⟨intent, pending, ?_⟩
        rw [isPhase, if_pos terminal]
        exact ⟨documents, unlinked, _, recorded, rfl, rfl⟩
      cases phase : intent.phase with
      | complete => exact cleared phase trivial
      | aborted => exact cleared phase trivial
      | prepared | projectExecutionApplied | roadmapApplied =>
          have unfinished : ¬intent.phase.Terminal := by
            rw [phase]
            exact id
          have opened := sound.opened intent stored
          obtain ⟨-, execution, isExecution, -⟩ := opened _ targets_execution
          obtain ⟨-, roadmap, isRoadmap, -⟩ := opened _ targets_roadmap
          apply ensures_bind
          refine comes_applyLocked isExecution isRoadmap (fun result after finished => ?_)
            fun failure diverges => ⟨rfl, intent, pending, unfinished, diverges⟩
          refine ensures_pure trivial ⟨intent, pending, ?_⟩
          rw [if_neg unfinished]
          exact finished

/-- Whatever the calls before left behind: where nobody else edits the documents and nothing
fails, a reconciliation comes to an end.  It finishes the pending intent from the documents
that hold its before image or its content, and touches nothing where one diverges. -/
theorem reconcile_recovers (digest : Content → String) (projectId : String)
    (start world : World Content)
    (reached : Reached ⟨True, True⟩ digest projectId start world) :
    (∃ ending final, Run quiet.Step world (reconcile digest projectId) ending final ∧
      ending ≠ .cut) ∧
      ∀ ending final, Run quiet.Step world (reconcile digest projectId) ending final →
        Recovers digest world ending final := by
  constructor
  · exact exists_run (fun middle effect => ⟨_, _, step_handle quiet middle effect⟩) _ world
  · intro ending final run
    obtain ⟨-, returned, raised⟩ := comes_reconcile (sound_of_reached reached) ending final run
    cases ending with
    | cut => trivial
    | returned value => exact returned value rfl
    | raised failure => exact raised failure rfl

theorem sampleCrash_agrees : ¬Diverges toString sampleCrash sampleIntent := by
  intro diverges
  obtain ⟨document, current, target, present, divergent⟩ := diverges
  rcases target with isTarget | isTarget
  · rw [isTarget] at present divergent
    have found : sampleCrash.documents .projectExecution =
      some { revision := 2, content := 11 } := rfl
    rw [found] at present
    rw [← Option.some.inj present] at divergent
    exact absurd divergent (by decide)
  · rw [isTarget] at present divergent
    have found : sampleCrash.documents (.roadmap "main") =
      some { revision := 1, content := 20 } := rfl
    rw [show sampleIntent.roadmapId = "main" from rfl, found] at present
    rw [← Option.some.inj present] at divergent
    exact absurd divergent (by decide)

/-- The reconciliation finishes what was cut off. -/
theorem sampleCrash_recovers : ∃ final,
    Run quiet.Step sampleCrash (reconcile toString "P") (.returned true) final ∧
      final.pending = none ∧
        (final.documents (.roadmap "main")).map Versioned.revision = some 2 := by
  obtain ⟨⟨ending, final, run, ended⟩, recovers⟩ :=
    reconcile_recovers toString "P" sampleStart sampleCrash sampleCrash_reached
  have recovered := recovers ending final run
  have pending : sampleCrash.pending = some sampleIntent := rfl
  cases ending with
  | cut => exact absurd rfl ended
  | raised failure =>
      obtain ⟨-, intent, isPending, -, diverges⟩ := recovered
      rw [← Option.some.inj (pending.symm.trans isPending)] at diverges
      exact absurd diverges sampleCrash_agrees
  | returned value =>
      cases value with
      | false => cases pending.symm.trans recovered.1
      | true =>
          obtain ⟨intent, isPending, finished⟩ := recovered
          rw [← Option.some.inj (pending.symm.trans isPending)] at finished
          have finished : Finished toString sampleCrash sampleIntent final := finished
          obtain ⟨current, present, settled, -⟩ :=
            finished.targets (.roadmap "main") (Or.inr rfl)
          refine ⟨final, run, finished.pending, ?_⟩
          rw [settled, ← Option.some.inj present]
          rfl

end Execraft.Roadmaps.Coordination
