import Execraft.Orchestrate.Pipeline
import Execraft.Orchestrate.WaveRuns

/-!
# A call of the pipeline is a run of the plan

Directives, pauses, waves and dispatches, one after the other: each of them is made of
steps of the plan, so what these steps keep, every call keeps.
-/

namespace Execraft.Orchestrate

open Foundation

/-! ## Directives -/

section Directives

variable {config : OrchestrationConfig} (py : Python)
  (manifest : RepositorySync.TaskManifest) (now : String)

theorem mayArm_of_decision {graph : PlanGraph} {command : WorkPackageDirectiveCommand}
    (decided : directiveDecision py manifest now graph command = .arm) :
    ∃ package, graph.packageById command.packageId = .ok package ∧
      MayArm command package := by
  unfold directiveDecision at decided
  cases found : graph.packageById command.packageId with
  | error error =>
      rw [found] at decided
      cases decided
  | ok package =>
      rw [found] at decided
      dsimp only at decided
      by_cases sync : command.kind = .pauseForRepositorySync
      · rw [if_pos sync] at decided
        exact absurd decided (pauseDecision_ne_arm py manifest now graph command package)
      · rw [if_neg sync] at decided
        by_cases may : MayArm command package
        · exact ⟨package, rfl, may⟩
        · rw [if_neg may] at decided
          cases decided

/-- One directive is at most one step. -/
theorem step_afterDirective (session : PipelineSession)
    (command : WorkPackageDirectiveCommand) :
    PlanStep config session
      { session with record := afterDirective py manifest now session.record command } := by
  unfold afterDirective
  cases decided : directiveDecision py manifest now session.record.planGraph command with
  | refuse => exact .calm (Calm.refl session)
  | arm =>
      obtain ⟨package, found, may⟩ := mayArm_of_decision py manifest now decided
      exact .directed command package found may rfl rfl rfl
  | pause waiting =>
      refine .calm ?_
      dsimp only
      split
      · exact ⟨rfl, rfl, rfl⟩
      · exact ⟨rfl, rfl, rfl⟩

theorem run_afterDirectives (commands : List WorkPackageDirectiveCommand)
    (session : PipelineSession) :
    PlanRun config session
      { session with record := afterDirectives py manifest now session.record commands } := by
  induction commands generalizing session with
  | nil => exact .refl
  | cons command rest inductionHypothesis =>
      exact .head (step_afterDirective py manifest now session command)
        (inductionHypothesis _)

end Directives

section Calls

variable {host : Host} {Value Other : Type}

/-- The program makes some steps of a plan that can be run. -/
def Runs (host : Host) (program : PipelineProgram Value) : Prop :=
  ∀ session : PipelineSession, Planned session.record.planGraph →
    Stateful.Ensures program session (fun _ => PlanRun host.config session)
      fun _ => PlanRun host.config session

theorem runs_ofCalm {program : PipelineProgram Value} (calm : IsCalm program) :
    Runs host program := by
  intro session _
  exact (calm.ensures session).mono (fun _ _ still => .single (.calm still))
    fun _ _ still => .single (.calm still)

theorem runs_bind {first : PipelineProgram Value} {next : Value → PipelineProgram Other}
    (begins : Runs host first) (goes : ∀ value, Runs host (next value)) :
    Runs host (first >>= next) := by
  intro session planned
  rw [Stateful.ensures_bind]
  refine (begins session planned).mono (fun value middle run => ?_) fun _ _ run => run
  exact (goes value middle (PlanRun.planned run planned)).mono
    (fun _ _ further => run.trans further) fun _ _ further => run.trans further

theorem runs_ite {condition : Prop} [Decidable condition]
    {program other : PipelineProgram Value} (first : Runs host program)
    (second : Runs host other) : Runs host (if condition then program else other) := by
  intro session planned
  exact Stateful.ensures_ite (fun _ => first session planned) fun _ => second session planned

theorem isCalm_ofOperation (outcome : Except OrchestrateError Value) :
    IsCalm (Pipeline.ofOperation outcome) := by
  cases outcome with
  | ok value => exact isCalm_pure value
  | error error => exact isCalm_raise _

/-! ## Before the loop -/

theorem stateEdge_silent (fromState toState : TaskExecutionState) :
    (Pipeline.stateEdge fromState toState).filter PipelineEvent.isMilestone = [] := by
  unfold Pipeline.stateEdge
  split <;> rfl

theorem runs_applyDirectives : Runs host (Pipeline.applyDirectives host) := by
  refine runs_bind (runs_ofCalm isCalm_observe) fun moment => ?_
  intro session planned
  let record := afterDirectives host.py host.manifest moment.now session.record
    moment.directives
  obtain ⟨outcomes, pass, _⟩ := applyPendingWorkPackageDirectives_eq host.py host.manifest
    moment.now moment.directives { record := session.record }
  have directed : PlanRun host.config session { session with record := record } :=
    run_afterDirectives host.py host.manifest moment.now moment.directives session
  have written : Calm { session with record := record }
      { session with
        record := record
        events := session.events ++
          Pipeline.stateEdge session.record.state record.state } := by
    refine ⟨rfl, rfl, ?_⟩
    show (session.events ++ _).filter PipelineEvent.isMilestone = _
    rw [List.filter_append, stateEdge_silent, List.append_nil]
    rfl
  have run := directed.tail (.calm written)
  rw [Stateful.ensures_bind, Stateful.ensures_read]
  dsimp only
  rw [pass, Stateful.ensures_bind, Stateful.ensures_modify]
  exact run

theorem isCalm_refreshWaits : IsCalm (Pipeline.refreshWaits host) :=
  isCalm_bind isCalm_observe fun _ => isCalm_changeRecord (fun _ => rfl) fun _ => rfl

theorem progress_releaseHold (waiting : Row) (record : TaskExecutionStateRecord) :
    (Pipeline.releaseHold waiting record).planGraph.map WorkPackage.progress =
      record.planGraph.map WorkPackage.progress := by
  have keeps : ∀ (packageId : String) (release : WorkPackage → WorkPackage),
      (∀ package, (release package).progress = package.progress) →
        (if packageId = "" then record.planGraph
          else record.planGraph.modify packageId release).map WorkPackage.progress =
        record.planGraph.map WorkPackage.progress := by
    intro packageId release kept
    split
    · rfl
    · exact PlanGraph.map_modify WorkPackage.progress release kept record.planGraph
  refine keeps _ _ fun package => ?_
  split
  · rfl
  · split
    · rfl
    · rfl

theorem isCalm_resumeOperatorPause : IsCalm (Pipeline.resumeOperatorPause host) :=
  isCalm_bind isCalm_read fun _ =>
    isCalm_bind (isCalm_changeRecord (progress_releaseHold _) fun _ => rfl) fun _ =>
      isCalm_transitionTo _

theorem isCalm_attemptResume : IsCalm (Pipeline.attemptResume host) :=
  isCalm_bind isCalm_observe fun _ =>
    isCalm_ite
      (isCalm_bind (isCalm_transitionTo _) fun _ =>
        isCalm_bind (isCalm_transitionTo _) fun _ => isCalm_pure _)
      (isCalm_pure _)

theorem isCalm_enterRunning : IsCalm (Pipeline.enterRunning host) :=
  isCalm_bind isCalm_read fun _ =>
    isCalm_ite isCalm_attemptResume
      (isCalm_ite (isCalm_pure _)
        (isCalm_ite (isCalm_bind (isCalm_transitionTo _) fun _ => isCalm_pure _)
          (isCalm_raise _)))

theorem isCalm_recoverInterrupted : IsCalm (ShardWave.recoverInterrupted host) :=
  isCalm_bind isCalm_read fun _ =>
    isCalm_ite
      (isCalm_bind (isCalm_emit rfl) fun _ =>
        isCalm_bind (isCalm_emit rfl) fun _ =>
          isCalm_bind (isCalm_setActiveParallelWave false) fun _ =>
            isCalm_bind (isCalm_transitionTo _) fun _ => isCalm_pure _)
      (isCalm_pure _)

theorem runs_beginCall : Runs host (Pipeline.beginCall host) := by
  refine runs_bind runs_applyDirectives fun _ => runs_ofCalm ?_
  exact isCalm_bind isCalm_refreshWaits fun _ =>
    isCalm_bind isCalm_read fun _ =>
      isCalm_ite (isCalm_pure _)
        (isCalm_bind (isCalm_whenever isCalm_resumeOperatorPause) fun _ =>
          isCalm_bind isCalm_enterRunning fun _ =>
            isCalm_ite
              (isCalm_bind isCalm_recoverInterrupted fun _ => isCalm_pure _)
              (isCalm_pure _))

/-! ## Pauses -/

theorem isCalm_handleResourcePressure : IsCalm (Pipeline.handleResourcePressure host) :=
  isCalm_bind isCalm_observe fun _ =>
    isCalm_ite
      (isCalm_bind (isCalm_transitionTo _) fun _ =>
        isCalm_bind isCalm_observe fun _ =>
          isCalm_ite (isCalm_bind (isCalm_transitionTo _) fun _ => isCalm_pure _)
            (isCalm_bind (isCalm_transitionTo _) fun _ => isCalm_pure _))
      (isCalm_pure _)

theorem progress_reachPauseBeforeStart (now : String) (package : WorkPackage)
    (record : TaskExecutionStateRecord) :
    (Pipeline.reachPauseBeforeStart now package record).planGraph.map WorkPackage.progress =
      record.planGraph.map WorkPackage.progress := by
  unfold Pipeline.reachPauseBeforeStart
  refine PlanGraph.map_modify WorkPackage.progress _ ?_ record.planGraph
  exact fun _ => rfl

theorem progress_reachPauseAfterCompletion (now : String) (package : WorkPackage)
    (record : TaskExecutionStateRecord) :
    (Pipeline.reachPauseAfterCompletion now package record).planGraph.map
        WorkPackage.progress =
      record.planGraph.map WorkPackage.progress := by
  unfold Pipeline.reachPauseAfterCompletion
  refine PlanGraph.map_modify WorkPackage.progress _ ?_ record.planGraph
  exact fun _ => rfl

theorem isCalm_triggerPauseBeforeStart (package : WorkPackage) :
    IsCalm (Pipeline.triggerPauseBeforeStart host package) :=
  isCalm_bind isCalm_observe fun _ =>
    isCalm_ite
      (isCalm_bind
        (isCalm_changeRecord (progress_reachPauseBeforeStart _ package) fun _ => rfl)
        fun _ => isCalm_transitionTo _)
      (isCalm_pure _)

theorem isCalm_triggerPauseAfterCompletion (packageId : String) :
    IsCalm (Pipeline.triggerPauseAfterCompletion host packageId) :=
  isCalm_bind isCalm_currentGraph fun _ =>
    isCalm_bind (isCalm_ofOperation _) fun _ =>
      isCalm_bind isCalm_observe fun _ =>
        isCalm_ite
          (isCalm_bind
            (isCalm_changeRecord (progress_reachPauseAfterCompletion _ _) fun _ => rfl)
            fun _ => isCalm_bind (isCalm_transitionTo _) fun _ => isCalm_pure _)
          (isCalm_pure _)

/-! ## One round -/

theorem isCalm_waitWhenBlocked : IsCalm (Pipeline.waitWhenBlocked host) :=
  isCalm_bind isCalm_read fun _ => isCalm_whenever (isCalm_transitionTo _)

theorem isCalm_settleIdle : IsCalm (Pipeline.settleIdle host) :=
  isCalm_bind isCalm_currentGraph fun _ =>
    isCalm_ite (isCalm_bind (isCalm_transitionTo _) fun _ => isCalm_transitionTo _)
      isCalm_waitWhenBlocked

theorem isCalm_requeue (packageId : String) (deferred : List String) :
    IsCalm (Pipeline.requeue host packageId deferred) :=
  isCalm_ite (isCalm_pure _)
    (isCalm_bind isCalm_read fun _ =>
      isCalm_bind (isCalm_whenever (isCalm_transitionTo _)) fun _ =>
        isCalm_bind (isCalm_emit rfl) fun _ => isCalm_pure _)

/-- The processing of an unfinished package is a step of the plan. -/
theorem step_processPackage (rounds : Nat) {packageId : String} {package : WorkPackage}
    {session : PipelineSession} (planned : Planned session.record.planGraph)
    (found : session.record.planGraph.packageById packageId = .ok package)
    (unfinished : package.stage ≠ .completed) :
    PlanStep host.config session
      (Pipeline.onPackage packageId (processPackage host rounds) session).2 := by
  have sound := planned.sound package (PlanGraph.packageById_mem found).1
  have run : Stateful.Ensures (processPackage host rounds) (Pipeline.focus session package)
      _ _ := run_processPackage rounds unfinished sound.1
  rw [onPackage_found found]
  refine .staged packageId package _ found ?_ rfl
  unfold Stateful.Ensures at run
  cases ran : processPackage host rounds (Pipeline.focus session package) with
  | mk outcome final =>
      rw [ran] at run
      cases outcome with
      | ok _ => exact run
      | error _ => exact run

theorem guarded_state (program : PipelineProgram Value) (session : PipelineSession) :
    (Pipeline.guarded program session).2 = (program session).2 := by
  unfold Pipeline.guarded
  cases program session with
  | mk outcome after =>
      cases outcome with
      | ok _ => rfl
      | error signal => cases signal <;> rfl

theorem run_dispatch {packageId : String} {deferred : List String} {package : WorkPackage}
    {session : PipelineSession} (planned : Planned session.record.planGraph)
    (found : session.record.planGraph.packageById packageId = .ok package)
    (unfinished : package.stage ≠ .completed) :
    Stateful.Ensures (Pipeline.dispatch host packageId deferred) session
      (fun _ => PlanRun host.config session) fun _ => PlanRun host.config session := by
  let selected : PipelineSession :=
    { session with events := session.events ++ [.packageSelected packageId] }
  have announced : Calm session selected := isCalm_emit rfl session
  show Stateful.Ensures (Pipeline.guarded
    (Pipeline.onPackage packageId (processPackage host Pipeline.stageRounds)) >>= fun ended =>
      _) selected _ _
  have step : PlanStep host.config selected (Pipeline.guarded
      (Pipeline.onPackage packageId (processPackage host Pipeline.stageRounds)) selected).2 := by
    rw [guarded_state]
    exact step_processPackage Pipeline.stageRounds planned found unfinished
  rw [Stateful.ensures_bind]
  refine (Stateful.ensures_of_final step).mono (fun ended middle made => ?_)
    fun _ _ made => .head (.calm announced) (.single made)
  have after : ∀ {program : PipelineProgram (Option (List String))}, IsCalm program →
      Stateful.Ensures program middle (fun _ => PlanRun host.config session)
        fun _ => PlanRun host.config session := by
    intro program calm
    exact (calm.ensures middle).mono
      (fun _ _ still => .head (.calm announced) (.head made (.single (.calm still))))
      fun _ _ still => .head (.calm announced) (.head made (.single (.calm still)))
  cases ended with
  | processed =>
      exact after (isCalm_bind (isCalm_triggerPauseAfterCompletion packageId) fun _ =>
        isCalm_pure _)
  | waits => exact after (isCalm_requeue packageId deferred)
  | escalated => exact after (isCalm_pure _)

theorem selectReadyPackage_mem {record : TaskExecutionStateRecord} {ready : List WorkPackage}
    {deferred : List String} {package : WorkPackage}
    (selected : Pipeline.selectReadyPackage record ready deferred = some package) :
    package ∈ ready := by
  unfold Pipeline.selectReadyPackage at selected
  dsimp only at selected
  split at selected
  · next other found =>
      cases selected
      exact (List.mem_filter.mp (List.mem_of_find?_eq_some found)).1
  · exact (List.mem_filter.mp (List.mem_of_mem_head? selected)).1

/-- The queue lists no package twice. -/
theorem nodup_readyPackages {graph : PlanGraph} {ready : List WorkPackage}
    (read : graph.readyPackages = .ok ready)
    (unique : (graph.map WorkPackage.id).Nodup) : (ready.map WorkPackage.id).Nodup := by
  have sublist : ∀ {candidates selected : List WorkPackage},
      graph.selectReady candidates = .ok selected → selected.Sublist candidates := by
    intro candidates
    induction candidates with
    | nil =>
        intro selected chosen
        cases chosen
        exact List.Sublist.refl _
    | cons head tail inductionHypothesis =>
        intro selected chosen
        rw [PlanGraph.selectReady, bind_eq_ok] at chosen
        obtain ⟨takes, _, rest⟩ := chosen
        rw [bind_eq_ok] at rest
        obtain ⟨others, chosenOthers, result⟩ := rest
        have shape : (if takes then head :: others else others) = selected :=
          Except.ok.inj result
        have shorter := inductionHypothesis chosenOthers
        rw [← shape]
        cases takes with
        | true => exact shorter.cons_cons head
        | false => exact shorter.cons head
  unfold PlanGraph.readyPackages at read
  rw [bind_eq_ok] at read
  obtain ⟨selected, chosen, sorted⟩ := read
  rw [← Except.ok.inj sorted]
  have ordered := (List.perm_insertionSort PlanGraph.ReadyBefore selected).map WorkPackage.id
  exact ordered.nodup_iff.mpr (unique.sublist ((sublist chosen).map _))

theorem run_scheduleReady {ready : List WorkPackage} {deferred : List String}
    {session : PipelineSession} (planned : Planned session.record.planGraph)
    (read : session.record.planGraph.readyPackages = .ok ready) :
    Stateful.Ensures (Pipeline.scheduleReady host ready deferred) session
      (fun _ => PlanRun host.config session) fun _ => PlanRun host.config session := by
  unfold Pipeline.scheduleReady
  rw [Stateful.ensures_bind]
  refine (run_shardWave (nodup_readyPackages read planned.unique)).mono
    (fun launched middle ended => ?_) fun _ _ run => run
  obtain ⟨run, still⟩ := ended
  refine Stateful.ensures_ite (fun _ => run) fun idle => ?_
  have calm := still (eq_false_of_ne_true idle)
  rw [Stateful.ensures_bind, Stateful.ensures_read]
  cases selected : Pipeline.selectReadyPackage middle.record ready deferred with
  | none =>
      have waits : IsCalm (Pipeline.waitWhenBlocked host >>= fun _ =>
          (pure none : PipelineProgram (Option (List String)))) :=
        isCalm_bind isCalm_waitWhenBlocked fun _ => isCalm_pure _
      exact (waits.ensures middle).mono (fun _ _ further => run.tail (.calm further))
        fun _ _ further => run.tail (.calm further)
  | some package =>
      dsimp only
      -- the package has come no further since the queue was read
      have queued := (PlanGraph.mem_readyPackages read).mp (selectReadyPackage_mem selected)
      obtain ⟨member, _, _, ready, unfinished⟩ := queued
      obtain ⟨other, found, _⟩ := PlanGraph.dependencyReady_eq_true.mp ready
      have same : other = package := by
        have listed := PlanGraph.packageById_mem found
        exact List.inj_on_of_nodup_map planned.unique listed.1 member listed.2
      have grown : middle.record.planGraph.map WorkPackage.progress =
          session.record.planGraph.map WorkPackage.progress ++ [] := by
        rw [calm.progress, List.append_nil]
      obtain ⟨kept, present, equal⟩ := PlanGraph.packageById_progress grown found
      have working : kept.stage ≠ .completed := by
        rw [show kept.stage = other.stage from congrArg Progress.stage equal, same]
        exact unfinished
      exact (run_dispatch (PlanRun.planned run planned) present working).mono
        (fun _ _ further => run.trans further) fun _ _ further => run.trans further

theorem runs_schedule (deferred : List String) : Runs host (Pipeline.schedule host deferred) := by
  intro session planned
  show Stateful.Ensures (Pipeline.ofOperation session.record.planGraph.readyPackages >>=
    fun ready => _) session _ _
  cases read : session.record.planGraph.readyPackages with
  | error error => exact Relation.ReflTransGen.refl
  | ok ready =>
      show Stateful.Ensures (pure ready >>= fun ready => _) session _ _
      rw [Stateful.ensures_bind, Stateful.ensures_pure]
      cases ready.find? fun package => package.runtime.pauseBeforeStart with
      | some package =>
          exact runs_ofCalm (isCalm_bind (isCalm_triggerPauseBeforeStart package) fun _ =>
            isCalm_pure _) session planned
      | none =>
          refine Stateful.ensures_ite (fun _ => ?_) fun _ => run_scheduleReady planned read
          exact runs_ofCalm (isCalm_bind isCalm_settleIdle fun _ => isCalm_pure _) session
            planned

theorem runs_round (deferred : List String) : Runs host (Pipeline.round host deferred) :=
  runs_bind runs_applyDirectives fun _ =>
    runs_bind (runs_ofCalm isCalm_read) fun _ =>
      runs_ite (runs_ofCalm (isCalm_pure _))
        (runs_bind (runs_ofCalm isCalm_handleResourcePressure) fun _ =>
          runs_ite (runs_ofCalm (isCalm_pure _)) (runs_schedule deferred))

theorem runs_rounds (left : Nat) (deferred : List String) :
    Runs host (Pipeline.rounds host left deferred) := by
  induction left generalizing deferred with
  | zero => exact runs_ofCalm (isCalm_pure _)
  | succ left inductionHypothesis =>
      refine runs_bind (runs_round deferred) fun next => ?_
      cases next with
      | none => exact runs_ofCalm (isCalm_pure _)
      | some deferred => exact inductionHypothesis deferred

/-- Every call of the pipeline is a run of the plan. -/
theorem runs_runPipeline (bound : Nat) : Runs host (Pipeline.runPipeline host bound) :=
  runs_bind runs_beginCall fun _ =>
    runs_ite (runs_rounds bound []) (runs_ofCalm (isCalm_pure _))

end Calls

theorem final_runPipeline (host : Host) (bound : Nat) {session : PipelineSession}
    (planned : Planned session.record.planGraph) :
    PlanRun host.config session (Pipeline.runPipeline host bound session).2 := by
  have run : Stateful.Ensures (Pipeline.runPipeline host bound) session _ _ :=
    runs_runPipeline bound session planned
  unfold Stateful.Ensures at run
  cases ran : Pipeline.runPipeline host bound session with
  | mk outcome after =>
      rw [ran] at run
      cases outcome with
      | ok _ => exact run
      | error _ => exact run

end Execraft.Orchestrate
