import Execraft.Foundation.Overwriting
import Execraft.Orchestrate.SyncRequests

/-!
# Rejected directives and interrupted passes

When a pass leaves the record as if its rejected directives had not been there, and when
it may be cut off after any of its writes and run again.
-/

namespace Execraft.Orchestrate

open Foundation Foundation.Json RepositorySync

/-- Commands that wait in a queue. -/
structure PendingBatch where
  commands : List WorkPackageDirectiveCommand
  pending : ∀ command ∈ commands, command.status = .pending
  unique : WorkPackageDirectiveQueue.ids commands |>.Nodup

variable (py : Python) (manifest : TaskManifest) (now : String)

/-- A pass over these commands. -/
def directivePass (record : TaskExecutionStateRecord)
    (commands : List WorkPackageDirectiveCommand) : Session :=
  (applyPendingWorkPackageDirectives py manifest now commands { record := record }).2

/-- The files before a pass. -/
def filesBefore (record : TaskExecutionStateRecord)
    (commands : List WorkPackageDirectiveCommand) : Durable :=
  { saved := record
    journal := []
    queue := commands }

/-- What a pass should guarantee. -/
structure PassFaithful (record : TaskExecutionStateRecord)
    (commands : List WorkPackageDirectiveCommand) : Prop where
  /-- A rejected command leaves no trace in the record. -/
  rejected : ∀ now, ∀ command ∈ commands,
    (command.id, .rejected) ∈ (directivePass py manifest now record commands).writes.filterMap
      Write.resolution? →
    (directivePass py manifest now record commands).record =
      (directivePass py manifest now record
        (commands.filter fun other => other.id ≠ command.id)).record
  /-- A pass that was cut off and is run again ends as an uninterrupted one. -/
  restarted : ∀ now front,
    front <+: (directivePass py manifest now record commands).writes →
    ∀ files, files = (filesBefore record commands).performAll now front →
      (directivePass py manifest now files.saved files.queue.pending).record =
        (directivePass py manifest now record commands).record
  /-- A boundary that was released after the crash is not reached by the same command. -/
  once : ∀ now later syncPackageId front,
    front <+: (directivePass py manifest now record commands).writes →
    ∀ files, files = (filesBefore record commands).performAll now front →
    ∀ command ∈ commands, ∀ payload resumed,
      acknowledgeRepositorySyncBoundary py later command.id syncPackageId
        { record := files.saved } = (.ok payload, resumed) →
      ¬RecordsRequest (directivePass py manifest later resumed.record
        files.queue.pending).record.waiting command.id

/-! ## The writes of a pass -/

theorem directivePass_eq (record : TaskExecutionStateRecord)
    (commands : List WorkPackageDirectiveCommand) :
    ∃ outcomes,
      (directivePass py manifest now record commands).record =
        afterDirectives py manifest now record commands ∧
      (directivePass py manifest now record commands).writes =
        (afterAttempts py manifest now { record := record } commands).writes ++
          resolutionWrites py (afterDirectives py manifest now record commands) outcomes ∧
      (appliedOf outcomes).map Prod.fst =
        (commands.filter fun command => Applies py manifest now record command) ∧
      (∀ rejected ∈ rejectedOf outcomes, rejected.1 ∈ commands ∧
        ¬Applies py manifest now record rejected.1) ∧
      ∀ command ∈ commands, ReachesBoundary py manifest record.planGraph command →
        ¬Applies py manifest now record command →
          ∃ error, (command, error) ∈ rejectedOf outcomes := by
  obtain ⟨outcomes, ran, applied, rejected, reaching⟩ :=
    applyPendingWorkPackageDirectives_eq py manifest now commands { record := record }
  have final := congrArg Prod.snd ran
  refine ⟨outcomes, ?_, ?_, applied, rejected, reaching⟩
  · exact congrArg Session.record final
  · exact congrArg Session.writes final

theorem directivePass_record (record : TaskExecutionStateRecord)
    (commands : List WorkPackageDirectiveCommand) :
    (directivePass py manifest now record commands).record =
      afterDirectives py manifest now record commands :=
  (directivePass_eq py manifest now record commands).choose_spec.1

/-- What a pass resolves, in order. -/
theorem resolutions_directivePass {record : TaskExecutionStateRecord}
    {commands : List WorkPackageDirectiveCommand}
    {outcomes : List (WorkPackageDirectiveCommand × Application)}
    (written : (directivePass py manifest now record commands).writes =
      (afterAttempts py manifest now { record := record } commands).writes ++
        resolutionWrites py (afterDirectives py manifest now record commands) outcomes)
    (applied : (appliedOf outcomes).map Prod.fst =
      commands.filter fun command => Applies py manifest now record command) :
    (directivePass py manifest now record commands).writes.filterMap Write.resolution? =
      ((commands.filter fun command => Applies py manifest now record command).map
        fun command => (command.id, DirectiveStatus.applied)) ++
          (rejectedOf outcomes).map fun rejected => (rejected.1.id, .rejected) := by
  rw [written, List.filterMap_append, resolutions_afterAttempts, resolutions_resolutionWrites,
    applied]
  rfl

/-! ## The files after some of the writes -/

theorem pending_resolve {queue : WorkPackageDirectiveQueue} {commandId : String}
    {status : DirectiveStatus} {result error : String} (final : status ≠ .pending) :
    (queue.resolve commandId status result error now).pending =
      queue.pending.filter fun command => command.id ≠ commandId := by
  have mapped : ((queue.map
      (WorkPackageDirectiveQueue.resolveItem commandId status result error now)).filter
        fun item => item.status = .pending) =
      (queue.filter fun item => item.status = .pending).filter
        fun command => command.id ≠ commandId := by
    induction queue with
    | nil => rfl
    | cons head tail inductionHypothesis =>
        rw [List.map_cons, List.filter_cons, inductionHypothesis, List.filter_cons]
        by_cases chosen : head.id = commandId ∧ head.status = .pending
        · have resolved : WorkPackageDirectiveQueue.resolveItem commandId status result error
              now head = { head with
                status := status
                resolvedAt := now
                result := stripString result
                error := stripString error } := if_pos chosen
          rw [resolved]
          simp [final, chosen]
        · have same : WorkPackageDirectiveQueue.resolveItem commandId status result error now
              head = head := if_neg chosen
          rw [same]
          by_cases waiting : head.status = .pending
          · have different : head.id ≠ commandId := fun name => chosen ⟨name, waiting⟩
            simp [waiting, different]
          · simp [waiting]
  unfold WorkPackageDirectiveQueue.resolve
  by_cases present : ∃ item ∈ queue, item.id = commandId ∧ item.status = .pending
  · rw [if_pos present]
    have kept : ∀ commands : WorkPackageDirectiveQueue,
        (WorkPackageDirectiveQueue.retained commands).pending = commands.pending := by
      intro commands
      unfold WorkPackageDirectiveQueue.pending WorkPackageDirectiveQueue.retained
      rw [List.filter_filter]
      refine List.filter_congr fun item member => ?_
      by_cases waiting : item.status = .pending
      · have retained : item ∈ WorkPackageDirectiveQueue.retained commands :=
          WorkPackageDirectiveQueue.mem_retained_of_pending member waiting
        have chosen := (List.mem_filter.mp retained).2
        simp [waiting, chosen]
      · simp [waiting]
    rw [kept]
    exact mapped
  · rw [if_neg present]
    refine (List.filter_eq_self.mpr fun command member => ?_).symm
    obtain ⟨listed, waiting⟩ := mem_pending.mp member
    have different : command.id ≠ commandId := fun name =>
      present ⟨command, listed, name, waiting⟩
    simpa using different

/-- The commands that still wait after some writes. -/
theorem pending_performAll {writes : List Write}
    (final : ∀ resolution ∈ writes.filterMap Write.resolution?, resolution.2 ≠ .pending)
    (files : Durable) :
    (files.performAll now writes).queue.pending =
      files.queue.pending.filter fun command =>
        command.id ∉ (writes.filterMap Write.resolution?).map Prod.fst := by
  induction writes generalizing files with
  | nil => simp [Durable.performAll]
  | cons head tail inductionHypothesis =>
      have step : files.performAll now (head :: tail) =
          (files.perform now head).performAll now tail := rfl
      cases head with
      | save record =>
          rw [step, inductionHypothesis (by simpa [Write.resolution?] using final)]
          rfl
      | append event payload =>
          rw [step, inductionHypothesis (by simpa [Write.resolution?] using final)]
          rfl
      | resolve commandId status result error =>
          have shape : (Write.resolve commandId status result error :: tail).filterMap
              Write.resolution? = (commandId, status) :: tail.filterMap Write.resolution? :=
            rfl
          rw [shape, List.forall_mem_cons] at final
          rw [step, inductionHypothesis final.2, shape, List.map_cons]
          have resolved : (files.perform now (.resolve commandId status result
              error)).queue.pending = _ := pending_resolve now final.1
          rw [resolved, List.filter_filter]
          refine List.filter_congr fun command _ => ?_
          by_cases same : command.id = commandId
          · simp [same]
          · simp [same]

/-- The record that is on disk after writes of which none saves it. -/
theorem saved_performAll {writes : List Write}
    (none : ∀ write ∈ writes, ∀ record, write ≠ .save record) (files : Durable) :
    (files.performAll now writes).saved = files.saved := by
  induction writes generalizing files with
  | nil => rfl
  | cons head tail inductionHypothesis =>
      rw [List.forall_mem_cons] at none
      have rest := inductionHypothesis none.2 (files.perform now head)
      have first : (files.perform now head).saved = files.saved := by
        cases head with
        | save record => exact absurd rfl (none.1 record)
        | append event payload => rfl
        | resolve commandId status result error => rfl
      exact rest.trans first

/-! ## Passes that reach no boundary -/

/-- Of two flags set on packages the second hides the first or they do not interfere. -/
theorem armRecord_overwriting : Overwriting armRecord where
  again := by
    intro command record
    unfold armRecord
    rw [PlanGraph.modify_modify (armPackage_id command)]
    congr 2
    funext package
    unfold armPackage
    cases command.kind <;> rfl
  pairs := by
    intro first second
    by_cases same : first.packageId = second.packageId
    · by_cases kind : first.kind = second.kind
      · refine Or.inl fun record => ?_
        unfold armRecord
        rw [same, PlanGraph.modify_modify (armPackage_id first)]
        congr 2
        funext package
        unfold armPackage
        rw [kind]
        cases kinds : second.kind with
        | pauseBeforeStart => rfl
        | requireDecomposition => rfl
        | pauseForRepositorySync => rfl
      · refine Or.inr fun record => ?_
        unfold armRecord
        rw [same, PlanGraph.modify_modify (armPackage_id first), PlanGraph.modify_modify (armPackage_id second)]
        congr 2
        funext package
        unfold armPackage
        cases firstKind : first.kind <;> cases secondKind : second.kind <;>
          first | rfl | exact absurd (firstKind.trans secondKind.symm) kind
    · refine Or.inr fun record => ?_
      unfold armRecord
      rw [PlanGraph.modify_comm same (armPackage_id first) (armPackage_id second)]

theorem afterDirectives_armed {record : TaskExecutionStateRecord}
    {commands : List WorkPackageDirectiveCommand}
    (missed : ∀ command ∈ commands,
      ¬ReachesBoundary py manifest record.planGraph command) :
    afterDirectives py manifest now record commands =
      updateAll armRecord
        (commands.filter fun command => Applies py manifest now record command) record := by
  induction commands generalizing record with
  | nil => rfl
  | cons head tail inductionHypothesis =>
      rw [List.forall_mem_cons] at missed
      have graph := afterDirective_undirected py manifest now record head
      have later : ∀ command ∈ tail, ¬ReachesBoundary py manifest
          (afterDirective py manifest now record head).planGraph command :=
        fun command member =>
          (reachesBoundary_congr py manifest graph).not.mpr (missed.2 command member)
      have rest := inductionHypothesis later
      have sameApplies : (tail.filter fun command =>
          Applies py manifest now (afterDirective py manifest now record head) command) =
            tail.filter fun command => Applies py manifest now record command :=
        List.filter_congr fun command _ =>
          decide_eq_decide.mpr (applies_afterDirective py manifest now record head command)
      rw [sameApplies] at rest
      have whole : afterDirectives py manifest now record (head :: tail) =
          afterDirectives py manifest now (afterDirective py manifest now record head) tail :=
        rfl
      rw [whole, rest]
      have first := missed.1
      rw [reachesBoundary_iff py manifest now] at first
      cases decided : directiveDecision py manifest now record.planGraph head with
      | refuse =>
          have refused : ¬Applies py manifest now record head := by
            unfold Applies
            rw [decided]
            exact not_false
          have unchanged : afterDirective py manifest now record head = record := by
            unfold afterDirective
            rw [decided]
          rw [unchanged, List.filter_cons, if_neg (by simpa using refused)]
      | arm =>
          have accepted : Applies py manifest now record head := by
            unfold Applies
            rw [decided]
            exact trivial
          have armed : afterDirective py manifest now record head =
              armRecord head record := by
            unfold afterDirective
            rw [decided]
          rw [armed, List.filter_cons, if_pos (decide_eq_true accepted)]
          rfl
      | pause waiting => exact absurd ⟨waiting, decided⟩ first

/-- Which directives are applied is decided by the plan graph and the state. -/
theorem applies_congr {record other : TaskExecutionStateRecord}
    (graph : record.planGraph.undirected = other.planGraph.undirected)
    (state : Pausable record.state ↔ Pausable other.state)
    (command : WorkPackageDirectiveCommand) :
    Applies py manifest now record command ↔ Applies py manifest now other command := by
  unfold Applies
  rw [directiveDecision_congr py manifest now graph]
  cases directiveDecision py manifest now other.planGraph command with
  | refuse => exact Iff.rfl
  | arm => exact Iff.rfl
  | pause waiting => exact state

theorem pausable_afterDirectives (record : TaskExecutionStateRecord)
    (commands : List WorkPackageDirectiveCommand) :
    Pausable (afterDirectives py manifest now record commands).state ↔
      Pausable record.state := by
  induction commands generalizing record with
  | nil => exact Iff.rfl
  | cons head tail inductionHypothesis =>
      exact (inductionHypothesis (afterDirective py manifest now record head)).trans
        (pausable_afterDirective py manifest now record head)

/-- Resolving the first commands of a list leaves the last ones of it. -/
theorem unresolved_suffix {commands : List WorkPackageDirectiveCommand}
    (unique : (commands.map WorkPackageDirectiveCommand.id).Nodup) {front others : List String}
    (resolved : front <+: commands.map WorkPackageDirectiveCommand.id ++ others) :
    ∃ taken, commands = taken ++ commands.filter fun command => command.id ∉ front := by
  induction commands generalizing front with
  | nil => exact ⟨[], rfl⟩
  | cons head tail inductionHypothesis =>
      rw [List.map_cons, List.nodup_cons] at unique
      cases front with
      | nil => exact ⟨[], by simp⟩
      | cons first rest =>
          rw [List.map_cons, List.cons_append, List.cons_prefix_cons] at resolved
          obtain ⟨taken, shape⟩ := inductionHypothesis unique.2 resolved.2
          refine ⟨head :: taken, ?_⟩
          have dropped : ((head :: tail).filter fun command => command.id ∉ first :: rest) =
              tail.filter fun command => command.id ∉ rest := by
            rw [List.filter_cons, if_neg (by simp [resolved.1])]
            refine List.filter_congr fun command member => ?_
            have different : command.id ≠ first := by
              rw [resolved.1]
              intro same
              exact unique.1 (same ▸ List.mem_map_of_mem member)
            simp [different]
          rw [dropped, List.cons_append, ← shape]

/-- Only the first of the writes of a pass without reached boundaries saves the record. -/
theorem directivePass_writes {record : TaskExecutionStateRecord}
    {commands : List WorkPackageDirectiveCommand}
    (missed : ∀ command ∈ commands,
      ¬ReachesBoundary py manifest record.planGraph command) :
    (afterAttempts py manifest now { record := record } commands).writes = [] := by
  have general : ∀ (session : Session), (∀ command ∈ commands,
      ¬ReachesBoundary py manifest session.record.planGraph command) →
        (afterAttempts py manifest now session commands).writes = session.writes := by
    clear missed
    induction commands with
    | nil => exact fun _ _ => rfl
    | cons head tail inductionHypothesis =>
        intro session missed
        rw [List.forall_mem_cons] at missed
        have graph := afterDirective_undirected py manifest now session.record head
        have rest := inductionHypothesis (afterAttempt py manifest now session head)
          fun command member =>
            (reachesBoundary_congr py manifest graph).not.mpr (missed.2 command member)
        have silent : directiveWrites py manifest now session.record head = [] := by
          have first := missed.1
          rw [reachesBoundary_iff py manifest now] at first
          unfold directiveWrites
          cases decided : directiveDecision py manifest now session.record.planGraph head with
          | refuse => rfl
          | arm => rfl
          | pause waiting => exact absurd ⟨waiting, decided⟩ first
        have step : (afterAttempt py manifest now session head).writes = session.writes := by
          unfold afterAttempt
          rw [silent, List.append_nil]
        exact rest.trans step
  exact general { record := record } missed

theorem notSave_of_mem {outcomes : List (WorkPackageDirectiveCommand × Application)}
    {write : Write}
    (member : write ∈ (appliedOf outcomes).flatMap (appliedWrites py) ++
      (rejectedOf outcomes).flatMap rejectedWrites) (record : TaskExecutionStateRecord) :
    write ≠ .save record := by
  rw [List.mem_append, List.mem_flatMap, List.mem_flatMap] at member
  rcases member with ⟨applied, _, written⟩ | ⟨rejected, _, written⟩
  · unfold appliedWrites at written
    rcases List.mem_pair.mp written with rfl | rfl <;> simp
  · unfold rejectedWrites at written
    rcases List.mem_pair.mp written with rfl | rfl <;> simp

/-- What is on disk when a pass without reached boundaries is cut off: nothing of it, or its
whole record. -/
theorem saved_cutOff {record : TaskExecutionStateRecord}
    {commands : List WorkPackageDirectiveCommand}
    (missed : ∀ command ∈ commands,
      ¬ReachesBoundary py manifest record.planGraph command) {front : List Write}
    (cut : front <+: (directivePass py manifest now record commands).writes) :
    (front = [] ∧ ((filesBefore record commands).performAll now front).saved = record) ∨
      ((filesBefore record commands).performAll now front).saved =
        (directivePass py manifest now record commands).record := by
  obtain ⟨outcomes, final, written, applied, _, _⟩ :=
    directivePass_eq py manifest now record commands
  rw [written, directivePass_writes py manifest now missed, List.nil_append] at cut
  unfold resolutionWrites at cut
  by_cases some : appliedOf outcomes = []
  · rw [if_neg (not_not_intro some), List.nil_append] at cut
    have none : ∀ write ∈ front, ∀ other, write ≠ .save other := by
      intro write member other
      refine notSave_of_mem py (List.mem_append_right _ (cut.subset member)) other
    have unchanged : (directivePass py manifest now record commands).record = record := by
      have empty : (commands.filter fun command =>
          Applies py manifest now record command) = [] := by
        rw [← applied, some]
        rfl
      rw [final, afterDirectives_armed py manifest now missed, empty]
      rfl
    refine Or.inr ?_
    rw [saved_performAll now none, unchanged]
    rfl
  · rw [if_pos some] at cut
    cases front with
    | nil => exact Or.inl ⟨rfl, rfl⟩
    | cons first rest =>
        rw [List.cons_append, List.cons_prefix_cons] at cut
        have none : ∀ write ∈ rest, ∀ other, write ≠ .save other :=
          fun write member other => notSave_of_mem py (cut.2.subset member) other
        refine Or.inr ?_
        have step : (filesBefore record commands).performAll now (first :: rest) =
            ((filesBefore record commands).perform now first).performAll now rest := rfl
        rw [step, saved_performAll now none, cut.1, final]
        rfl

theorem resolutions_final {record : TaskExecutionStateRecord}
    {commands : List WorkPackageDirectiveCommand} {front : List Write}
    (cut : front <+: (directivePass py manifest now record commands).writes) :
    ∀ resolution ∈ front.filterMap Write.resolution?, resolution.2 ≠ .pending := by
  obtain ⟨outcomes, _, written, applied, _, _⟩ :=
    directivePass_eq py manifest now record commands
  intro resolution member
  have whole := (cut.filterMap Write.resolution?).subset member
  rw [resolutions_directivePass py manifest now written applied, List.mem_append,
    List.mem_map, List.mem_map] at whole
  rcases whole with ⟨command, _, rfl⟩ | ⟨rejected, _, rfl⟩
  · exact (by decide : DirectiveStatus.applied ≠ .pending)
  · exact (by decide : DirectiveStatus.rejected ≠ .pending)

theorem pending_filesBefore (record : TaskExecutionStateRecord) (batch : PendingBatch) :
    (filesBefore record batch.commands).queue.pending = batch.commands :=
  List.filter_eq_self.mpr fun command member => decide_eq_true (batch.pending command member)

/-- The commands that still wait when a pass is cut off. -/
theorem pending_cutOff {record : TaskExecutionStateRecord} {batch : PendingBatch}
    {front : List Write}
    (cut : front <+: (directivePass py manifest now record batch.commands).writes) :
    ((filesBefore record batch.commands).performAll now front).queue.pending =
      batch.commands.filter fun command =>
        command.id ∉ (front.filterMap Write.resolution?).map Prod.fst := by
  rw [pending_performAll now (resolutions_final py manifest now cut),
    pending_filesBefore]

/-- A pass without reached boundaries may be cut off anywhere. -/
theorem restarted_of_missed {record : TaskExecutionStateRecord} {batch : PendingBatch}
    (missed : ∀ command ∈ batch.commands,
      ¬ReachesBoundary py manifest record.planGraph command) {front : List Write}
    (cut : front <+: (directivePass py manifest now record batch.commands).writes)
    {files : Durable} (cutOff : files = (filesBefore record batch.commands).performAll now front) :
    (directivePass py manifest now files.saved files.queue.pending).record =
      (directivePass py manifest now record batch.commands).record := by
  have waiting := pending_cutOff py manifest now cut
  rw [← cutOff] at waiting
  rcases saved_cutOff py manifest now missed cut with ⟨nothing, saved⟩ | saved
  · rw [← cutOff] at saved
    rw [nothing] at waiting
    have all : files.queue.pending = batch.commands := by
      rw [waiting]
      exact List.filter_eq_self.mpr fun command _ => by simp
    rw [saved, all]
  · rw [← cutOff] at saved
    obtain ⟨outcomes, final, written, applied, _, _⟩ :=
      directivePass_eq py manifest now record batch.commands
    have graph : files.saved.planGraph.undirected = record.planGraph.undirected := by
      rw [saved, final]
      exact afterDirectives_undirected py manifest now record batch.commands
    have state : Pausable files.saved.state ↔ Pausable record.state := by
      rw [saved, final]
      exact pausable_afterDirectives py manifest now record batch.commands
    have missedAgain : ∀ command ∈ files.queue.pending,
        ¬ReachesBoundary py manifest files.saved.planGraph command := by
      intro command member
      rw [waiting] at member
      rw [reachesBoundary_congr py manifest graph]
      exact missed command (List.mem_filter.mp member).1
    -- What is applied again is a last part of what was applied.
    have resolvedIds := (cut.filterMap Write.resolution?).map Prod.fst
    rw [resolutions_directivePass py manifest now written applied, List.map_append,
      List.map_map] at resolvedIds
    have uniqueApplied : ((batch.commands.filter fun command =>
        Applies py manifest now record command).map
          WorkPackageDirectiveCommand.id).Nodup :=
      (List.filter_sublist.map _).nodup batch.unique
    obtain ⟨taken, shape⟩ := unresolved_suffix uniqueApplied resolvedIds
    have again : (files.queue.pending.filter fun command =>
        Applies py manifest now files.saved command) =
          (batch.commands.filter fun command =>
            Applies py manifest now record command).filter fun command =>
              command.id ∉ (front.filterMap Write.resolution?).map Prod.fst := by
      rw [waiting, List.filter_filter, List.filter_filter]
      refine List.filter_congr fun command _ => ?_
      rw [Bool.and_comm]
      congr 1
      exact decide_eq_decide.mpr (applies_congr py manifest now graph state command)
    rw [directivePass_record, afterDirectives_armed py manifest now missedAgain, again, saved,
      final, afterDirectives_armed py manifest now missed]
    have suffix := armRecord_overwriting.updateAll_suffix taken
      ((batch.commands.filter fun command =>
        Applies py manifest now record command).filter fun command =>
          command.id ∉ (front.filterMap Write.resolution?).map Prod.fst) record
    rw [← shape] at suffix
    exact suffix

/-! ## Released boundaries -/

/-- A released boundary leaves an empty slot and the plan graph as it was. -/
theorem acknowledge_eq_ok {later commandId syncPackageId : String}
    {session resumed : Session} {payload : Row}
    (released : acknowledgeRepositorySyncBoundary py later commandId syncPackageId session =
      (.ok payload, resumed)) :
    resumed.record.waiting = [] ∧ resumed.record.planGraph = session.record.planGraph := by
  unfold acknowledgeRepositorySyncBoundary at released
  rw [Stateful.read_bind_apply] at released
  dsimp only at released
  by_cases idle : session.record.waiting = [] ∧ session.record.state = .running
  · rw [if_pos idle] at released
    cases released
    exact ⟨idle.1, rfl⟩
  · rw [if_neg idle] at released
    by_cases unowned : session.record.waiting = [] ∧ session.record.state = .operatorPaused
    · rw [if_pos unowned] at released
      cases found : session.record.planGraph.packageById syncPackageId with
      | error failure =>
          rw [found] at released
          cases released
      | ok syncPackage =>
          rw [found] at released
          dsimp only at released
          by_cases other : syncPackage.kind ≠ .repositorySync
          · rw [if_pos other] at released
            cases released
          · rw [if_neg other] at released
            have allowed : TaskExecutionState.running ∈ session.record.state.transitions := by
              rw [unowned.2]
              decide
            rw [Stateful.bind_apply, Session.transitionTo_allowed allowed] at released
            cases released
            exact ⟨unowned.1, rfl⟩
    · rw [if_neg unowned] at released
      by_cases running : session.record.state ≠ .operatorPaused
      · rw [if_pos running] at released
        cases released
      · rw [if_neg running] at released
        by_cases foreign : session.record.waiting.get "kind" .null ≠
            .string DirectiveKind.pauseForRepositorySync.value
        · rw [if_pos foreign] at released
          cases released
        · rw [if_neg foreign] at released
          by_cases other : py.text (session.record.waiting.get "command_id" (.string "")) ≠
              commandId
          · rw [if_pos other] at released
            cases released
          · rw [if_neg other] at released
            have allowed : TaskExecutionState.running ∈
                ({ session.record with waiting := [] }).state.transitions := by
              change TaskExecutionState.running ∈ session.record.state.transitions
              rw [not_not.mp running]
              decide
            have moves : Session.transitionTo later .running
                { session with record := { session.record with waiting := [] } } = _ :=
              Session.transitionTo_allowed allowed
            rw [Stateful.bind_apply, Session.change_apply] at released
            dsimp only at released
            rw [Stateful.bind_apply, moves] at released
            cases released
            exact ⟨rfl, rfl⟩

/-- The boundary of the request in the slot can be released. -/
theorem acknowledge_recorded {later commandId syncPackageId : String} {session : Session}
    (stopped : session.record.state = .operatorPaused)
    (records : RecordsRequest session.record.waiting commandId) :
    ∃ payload resumed, acknowledgeRepositorySyncBoundary py later commandId syncPackageId
        session = (.ok payload, resumed) ∧ resumed.record.state = .running := by
  obtain ⟨sync, name⟩ := records
  have kind : session.record.waiting.get "kind" .null =
      .string DirectiveKind.pauseForRepositorySync.value := sync
  have nonempty : session.record.waiting ≠ [] := by
    intro empty
    rw [empty] at kind
    cases kind
  have allowed : TaskExecutionState.running ∈
      ({ session.record with waiting := [] }).state.transitions := by
    change TaskExecutionState.running ∈ session.record.state.transitions
    rw [stopped]
    decide
  have moves : Session.transitionTo later .running
      { session with record := { session.record with waiting := [] } } = _ :=
    Session.transitionTo_allowed allowed
  unfold acknowledgeRepositorySyncBoundary
  rw [Stateful.read_bind_apply]
  dsimp only
  rw [if_neg fun both => nonempty both.1, if_neg fun both => nonempty both.1,
    if_neg (not_not_intro stopped), if_neg (not_not_intro kind), if_neg (by
      rw [name]
      exact not_not_intro rfl)]
  rw [Stateful.bind_apply, Session.change_apply]
  dsimp only
  rw [Stateful.bind_apply, moves]
  exact ⟨_, _, rfl, rfl⟩

/-! ## Which passes are faithful -/

/-- A rejected command is not applied. -/
theorem not_applies_of_rejected {record : TaskExecutionStateRecord} {batch : PendingBatch}
    {command : WorkPackageDirectiveCommand} (member : command ∈ batch.commands)
    (rejected : (command.id, DirectiveStatus.rejected) ∈
      (directivePass py manifest now record batch.commands).writes.filterMap
        Write.resolution?) :
    ¬Applies py manifest now record command := by
  obtain ⟨outcomes, _, written, applied, refused, _⟩ :=
    directivePass_eq py manifest now record batch.commands
  rw [resolutions_directivePass py manifest now written applied, List.mem_append,
    List.mem_map, List.mem_map] at rejected
  rcases rejected with ⟨other, _, shape⟩ | ⟨other, listed, shape⟩
  · cases (Prod.mk.inj shape).2
  · obtain ⟨present, notApplied⟩ := refused other listed
    have same : other.1 = command :=
      eq_of_same_id batch.unique present member (Prod.mk.inj shape).1
    rw [← same]
    exact notApplied

theorem passFaithful_of_missed {record : TaskExecutionStateRecord} {batch : PendingBatch}
    (missed : ∀ command ∈ batch.commands,
      ¬ReachesBoundary py manifest record.planGraph command) :
    PassFaithful py manifest record batch.commands where
  rejected := by
    intro now command member rejected
    have refused := not_applies_of_rejected py manifest now member rejected
    have others : ∀ other ∈ batch.commands.filter fun other => other.id ≠ command.id,
        ¬ReachesBoundary py manifest record.planGraph other :=
      fun other otherMember => missed other (List.mem_filter.mp otherMember).1
    rw [directivePass_record, directivePass_record,
      afterDirectives_armed py manifest now missed,
      afterDirectives_armed py manifest now others, List.filter_filter]
    congr 1
    refine List.filter_congr fun other otherMember => ?_
    by_cases same : other.id = command.id
    · have equal := eq_of_same_id batch.unique otherMember member same
      simp [equal, refused]
    · simp [same]
  restarted := by
    intro now front cut files cutOff
    exact restarted_of_missed py manifest now missed cut cutOff
  once := by
    intro now later syncPackageId front cut files cutOff command _ payload resumed released
    obtain ⟨empty, unchanged⟩ := acknowledge_eq_ok py released
    have waiting := pending_cutOff py manifest now cut
    rw [← cutOff] at waiting
    have graph : resumed.record.planGraph.undirected = record.planGraph.undirected := by
      rw [unchanged]
      rcases saved_cutOff py manifest now missed cut with ⟨_, saved⟩ | saved
      · rw [← cutOff] at saved
        change files.saved.planGraph.undirected = record.planGraph.undirected
        rw [saved]
      · rw [← cutOff] at saved
        change files.saved.planGraph.undirected = record.planGraph.undirected
        rw [saved, directivePass_record]
        exact afterDirectives_undirected py manifest now record batch.commands
    have missedAgain : ∀ other ∈ files.queue.pending,
        ¬ReachesBoundary py manifest resumed.record.planGraph other := by
      intro other member
      rw [waiting] at member
      rw [reachesBoundary_congr py manifest graph]
      exact missed other (List.mem_filter.mp member).1
    rw [directivePass_record,
      (afterDirectives_of_not_reaches py manifest later missedAgain).1, empty]
    rintro ⟨sync, _⟩
    cases sync

/-- A request that reaches its boundary in time is armed again after its release. -/
theorem not_once {record : TaskExecutionStateRecord} {batch : PendingBatch}
    {front back : List WorkPackageDirectiveCommand} {last : WorkPackageDirectiveCommand}
    (shape : batch.commands = front ++ last :: back)
    (reaches : ReachesBoundary py manifest record.planGraph last)
    (none : ∀ command ∈ back, ¬ReachesBoundary py manifest record.planGraph command)
    (pausable : Pausable record.state) : ¬PassFaithful py manifest record batch.commands := by
  intro faithful
  let now := "now"
  have member : last ∈ batch.commands := by
    rw [shape]
    exact List.mem_append_right _ List.mem_cons_self
  obtain ⟨waiting, pauses⟩ := (reachesBoundary_iff py manifest now).mp reaches
  obtain ⟨outcomes, final, written, applied, _, _⟩ :=
    directivePass_eq py manifest now record batch.commands
  have ends : (afterDirectives py manifest now record (front ++ last :: back)).waiting =
      waiting ∧ _ := afterDirectives_last py manifest now pauses none
  rw [← shape] at ends
  have accepted : appliedOf outcomes ≠ [] := by
    intro empty
    have listed : last ∈ batch.commands.filter fun command =>
        Applies py manifest now record command := by
      refine List.mem_filter.mpr ⟨member, decide_eq_true ?_⟩
      unfold Applies
      rw [pauses]
      exact pausable
    rw [← applied, empty] at listed
    cases listed
  -- The crash is right behind the save.
  let cut := (afterAttempts py manifest now { record := record } batch.commands).writes ++
    [.save (afterDirectives py manifest now record batch.commands)]
  have early : cut <+: (directivePass py manifest now record batch.commands).writes := by
    rw [written]
    unfold resolutionWrites
    rw [if_pos accepted, List.cons_append]
    refine ⟨(appliedOf outcomes).flatMap (appliedWrites py) ++
      (rejectedOf outcomes).flatMap rejectedWrites, ?_⟩
    rw [List.append_assoc, List.singleton_append]
  have unresolved : cut.filterMap Write.resolution? = [] := by
    rw [List.filterMap_append, resolutions_afterAttempts]
    rfl
  have waits := pending_cutOff py manifest now early
  rw [unresolved] at waits
  have all : ((filesBefore record batch.commands).performAll now cut).queue.pending =
      batch.commands := by
    rw [waits]
    exact List.filter_eq_self.mpr fun command _ => by simp
  have saved : ((filesBefore record batch.commands).performAll now cut).saved =
      afterDirectives py manifest now record batch.commands := by
    rw [Durable.performAll_append]
    rfl
  have stopped : ({ record := ((filesBefore record batch.commands).performAll now
      cut).saved } : Session).record.state = .operatorPaused := by
    change ((filesBefore record batch.commands).performAll now cut).saved.state = _
    rw [saved]
    exact ends.2 pausable
  have records : RecordsRequest ({ record := ((filesBefore record batch.commands).performAll
      now cut).saved } : Session).record.waiting last.id := by
    change RecordsRequest ((filesBefore record batch.commands).performAll now
      cut).saved.waiting last.id
    rw [saved, ends.1]
    exact boundaryWaiting_records py manifest now pauses
  obtain ⟨payload, resumed, released, running⟩ :
      ∃ payload resumed, acknowledgeRepositorySyncBoundary py now last.id "" _ =
        (.ok payload, resumed) ∧ resumed.record.state = .running :=
    acknowledge_recorded py stopped records
  refine faithful.once now now "" cut early _ rfl last member payload resumed released ?_
  have graph : resumed.record.planGraph.undirected = record.planGraph.undirected := by
    rw [(acknowledge_eq_ok py released).2]
    change ((filesBefore record batch.commands).performAll now
      cut).saved.planGraph.undirected = _
    rw [saved]
    exact afterDirectives_undirected py manifest now record batch.commands
  rw [directivePass_record, all, shape]
  rw [← directiveDecision_congr py manifest now graph] at pauses
  have again : (afterDirectives py manifest now resumed.record
      (front ++ last :: back)).waiting = waiting ∧ _ :=
    afterDirectives_last py manifest now pauses fun command backMember =>
      (reachesBoundary_congr py manifest graph).not.mpr (none command backMember)
  rw [again.1]
  exact boundaryWaiting_records py manifest now pauses

/-- A request that reaches its boundary too late is rejected, and leaves its trace. -/
theorem not_rejected {record : TaskExecutionStateRecord} {batch : PendingBatch}
    {front back : List WorkPackageDirectiveCommand} {last : WorkPackageDirectiveCommand}
    (shape : batch.commands = front ++ last :: back)
    (reaches : ReachesBoundary py manifest record.planGraph last)
    (none : ∀ command ∈ back, ¬ReachesBoundary py manifest record.planGraph command)
    (unpausable : ¬Pausable record.state) :
    ¬PassFaithful py manifest record batch.commands := by
  intro faithful
  have member : last ∈ batch.commands := by
    rw [shape]
    exact List.mem_append_right _ List.mem_cons_self
  -- A reading of the clock that the slot does not show already.
  obtain ⟨now, fresh⟩ : ∃ now, record.waiting.get "reached_at" .null ≠ .string now := by
    by_cases blank : record.waiting.get "reached_at" .null = .string ""
    · exact ⟨"now", by rw [blank]; simp⟩
    · exact ⟨"", blank⟩
  obtain ⟨waiting, pauses⟩ := (reachesBoundary_iff py manifest now).mp reaches
  obtain ⟨outcomes, _, written, applied, _, reaching⟩ :=
    directivePass_eq py manifest now record batch.commands
  have refused : ¬Applies py manifest now record last := by
    unfold Applies
    rw [pauses]
    exact unpausable
  obtain ⟨error, listed⟩ := reaching last member reaches refused
  have rejected : (last.id, DirectiveStatus.rejected) ∈
      (directivePass py manifest now record batch.commands).writes.filterMap
        Write.resolution? := by
    rw [resolutions_directivePass py manifest now written applied]
    exact List.mem_append_right _ (List.mem_map.mpr ⟨_, listed, rfl⟩)
  have same := faithful.rejected now last member rejected
  have unique := batch.unique
  rw [shape] at unique same
  have without : ((front ++ last :: back).filter fun other => other.id ≠ last.id) =
      front ++ back := by
    unfold WorkPackageDirectiveQueue.ids at unique
    rw [List.map_append, List.map_cons, List.nodup_middle, List.nodup_cons,
      ← List.map_append] at unique
    have kept : ∀ other ∈ front ++ back, other.id ≠ last.id := fun other otherMember equal =>
      unique.1 (equal ▸ List.mem_map_of_mem otherMember)
    rw [List.filter_append, List.filter_cons, if_neg (by simp), ← List.filter_append]
    exact List.filter_eq_self.mpr fun other otherMember =>
      decide_eq_true (kept other otherMember)
  rw [without, directivePass_record, directivePass_record] at same
  have slots := congrArg TaskExecutionStateRecord.waiting same
  have ends : (afterDirectives py manifest now record (front ++ last :: back)).waiting =
      waiting ∧ _ := afterDirectives_last py manifest now pauses none
  rw [ends.1] at slots
  by_cases earlier : ∃ command ∈ front ++ back,
      ReachesBoundary py manifest record.planGraph command
  · obtain ⟨before, other, after, split, otherReaches, noneAfter⟩ :=
      exists_last_of_exists earlier
    obtain ⟨otherWaiting, otherPauses⟩ :=
      (reachesBoundary_iff py manifest now).mp otherReaches
    have otherEnds : (afterDirectives py manifest now record
        (before ++ other :: after)).waiting = otherWaiting ∧ _ :=
      afterDirectives_last py manifest now otherPauses noneAfter
    rw [split, otherEnds.1] at slots
    have one := boundaryWaiting_records py manifest now pauses
    rw [slots] at one
    have equal := recordsRequest_unique one (boundaryWaiting_records py manifest now otherPauses)
    have otherMember : other ∈ front ++ back := by
      rw [split]
      exact List.mem_append_right _ List.mem_cons_self
    rw [← without] at otherMember
    exact of_decide_eq_true (List.mem_filter.mp otherMember).2 equal.symm
  · have missed : ∀ command ∈ front ++ back,
        ¬ReachesBoundary py manifest record.planGraph command :=
      fun command commandMember commandReaches => earlier ⟨command, commandMember, commandReaches⟩
    rw [(afterDirectives_of_not_reaches py manifest now missed).1] at slots
    obtain ⟨package, _, _, decided⟩ := pauseDecision_of_directiveDecision py manifest now pauses
    obtain ⟨request, _, _, _, filled⟩ := (pauseDecision_eq_pause py manifest now).mp decided
    apply fresh
    rw [← slots, filled]
    simp [boundaryWaiting]

/-- A pass is faithful exactly when no synchronization request of its batch reaches its
boundary. -/
theorem passFaithful_iff (record : TaskExecutionStateRecord) (batch : PendingBatch) :
    PassFaithful py manifest record batch.commands ↔
      ∀ command ∈ batch.commands, ¬ReachesBoundary py manifest record.planGraph command := by
  constructor
  · intro faithful
    by_contra some
    have reaching : ∃ command ∈ batch.commands,
        ReachesBoundary py manifest record.planGraph command := by
      simpa using some
    obtain ⟨front, last, back, shape, reaches, none⟩ := exists_last_of_exists reaching
    by_cases pausable : Pausable record.state
    · exact not_once py manifest shape reaches none pausable faithful
    · exact not_rejected py manifest shape reaches none pausable faithful
  · exact passFaithful_of_missed py manifest

/-- A task execution that needs a human rejects a request whose boundary is reached, but only
after the request took the waiting slot. -/
theorem rejectedRequest_leavesTrace :
    ¬PassFaithful asciiPython syncManifest
      { readyRecord ["A"] with state := .humanRequired } [syncCommand "A"] := by
  let batch : PendingBatch :=
    { commands := [syncCommand "A"]
      pending := fun command member => by rw [List.mem_singleton.mp member]; rfl
      unique := List.nodup_singleton _ }
  have shape : batch.commands = [] ++ syncCommand "A" :: [] := rfl
  refine not_rejected asciiPython syncManifest shape ?_ ?_ ?_
  · rw [reachesBoundary_iff asciiPython syncManifest "now"]
    exact ⟨_, rfl⟩
  · intro command member
    cases member
  · rintro (running | paused)
    · cases running
    · cases paused

end Execraft.Orchestrate
