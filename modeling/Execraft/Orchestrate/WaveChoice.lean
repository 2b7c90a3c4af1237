import Execraft.Orchestrate.StageEdges
import Execraft.Orchestrate.WaveRuns

/-!
# What the choice of a wave leaves behind

The candidates of a wave are compatible with each other.  The roles that are assigned
while the queue is probed stay assigned when the candidate, or the whole wave, is dropped.
-/

namespace Execraft.Orchestrate

open Foundation

/-- Ready packages as they stand in the plan graph. -/
structure ReadyQueue (graph : PlanGraph) where
  packages : List WorkPackage
  unique : (packages.map WorkPackage.id).Nodup
  stored : ∀ package ∈ packages, graph.packageById package.id = .ok package

/-- The agents that a package records. -/
structure AgentRoles where
  agentId : String
  reviewerId : String
  finalReviewerId : String
  lastFixerId : String
  deriving DecidableEq

def WorkPackage.roles (package : WorkPackage) : AgentRoles :=
  { agentId := package.runtime.agentId
    reviewerId := package.runtime.reviewerId
    finalReviewerId := package.runtime.finalReviewerId
    lastFixerId := package.runtime.lastFixerId }

def PlanGraph.rolesOf (graph : PlanGraph) (packageId : String) :
    Except OrchestrateError AgentRoles :=
  (graph.packageById packageId).map WorkPackage.roles

namespace ShardWave

/-! ## Compatible candidates -/

/-- Candidates that may be at work at once. -/
structure Compatible (config : OrchestrationConfig) (wave : List ParallelShardCandidate) :
    Prop where
  bounded : wave.length ≤ maxWorkers config
  agents : (wave.map ParallelShardCandidate.agentId).Nodup
  groups : (wave.map ParallelShardCandidate.concurrencyGroup).Nodup
  conflictKeys : wave.Pairwise fun left right =>
    ∀ key ∈ left.conflictKeys, key ∉ right.conflictKeys
  repositories : wave.Pairwise fun left right =>
    ∀ repository ∈ left.repositoryScope, repository ∈ right.repositoryScope →
      (left.readOnly = true ∧ right.readOnly = true) ∨
        config.parallelRequireDisjointRepositoriesForWrites = false
  chosen : chooseParallelCandidates config wave = wave

section Compatible

variable {config : OrchestrationConfig} {wave : List ParallelShardCandidate}
  {left right candidate : ParallelShardCandidate}

theorem compatible_nil : Compatible config [] where
  bounded := Nat.zero_le _
  agents := List.nodup_nil
  groups := List.nodup_nil
  conflictKeys := List.Pairwise.nil
  repositories := List.Pairwise.nil
  chosen := rfl

theorem conflictKeys_of_parallelConflict
    (clear : parallelConflict config left right = false) :
    ∀ key ∈ left.conflictKeys, key ∉ right.conflictKeys := by
  intro key owned shared
  unfold parallelConflict at clear
  rw [if_pos (List.any_eq_true.mpr ⟨key, owned, decide_eq_true shared⟩)] at clear
  cases clear

theorem repositories_of_parallelConflict
    (clear : parallelConflict config left right = false) :
    ∀ repository ∈ left.repositoryScope, repository ∈ right.repositoryScope →
      (left.readOnly = true ∧ right.readOnly = true) ∨
        config.parallelRequireDisjointRepositoriesForWrites = false := by
  intro repository owned shared
  have overlap : left.repositoryScope.any
      (fun repository => repository ∈ right.repositoryScope) = true :=
    List.any_eq_true.mpr ⟨repository, owned, decide_eq_true shared⟩
  unfold parallelConflict at clear
  split at clear
  · cases clear
  · rw [overlap, if_neg (by decide)] at clear
    split at clear
    · rename_i readOnly
      rw [Bool.and_eq_true] at readOnly
      exact Or.inl readOnly
    · exact Or.inr clear

theorem choose_append_singleton (selected : List ParallelShardCandidate)
    (candidate : ParallelShardCandidate) :
    chooseParallelCandidates config (selected ++ [candidate]) =
      if joins config (chooseParallelCandidates config selected) candidate then
        chooseParallelCandidates config selected ++ [candidate]
      else
        chooseParallelCandidates config selected :=
  List.foldl_append

theorem Compatible.choose (compatible : Compatible config wave)
    (candidate : ParallelShardCandidate) :
    chooseParallelCandidates config (wave ++ [candidate]) =
      if joins config wave candidate then wave ++ [candidate] else wave := by
  rw [choose_append_singleton, compatible.chosen]

/-- A candidate joins exactly when the chooser takes it as well. -/
theorem Compatible.length_choose_iff (compatible : Compatible config wave)
    (candidate : ParallelShardCandidate) :
    (chooseParallelCandidates config (wave ++ [candidate])).length = wave.length + 1 ↔
      joins config wave candidate = true := by
  rw [compatible.choose]
  cases joins config wave candidate with
  | true =>
      rw [if_pos rfl, List.length_append]
      exact iff_of_true rfl rfl
  | false =>
      rw [if_neg Bool.false_ne_true]
      exact iff_of_false (by omega) Bool.false_ne_true

theorem joins_eq_true : joins config wave candidate = true ↔
    wave.length < maxWorkers config ∧
      (∀ other ∈ wave, other.agentId ≠ candidate.agentId) ∧
      (∀ other ∈ wave, other.concurrencyGroup ≠ candidate.concurrencyGroup) ∧
      candidate.capability ∈ config.parallelShardStages ∧
      ∀ other ∈ wave, parallelConflict config candidate other = false := by
  unfold joins
  simp [and_assoc]

theorem nodup_map_append_singleton {Key : Type} {key : ParallelShardCandidate → Key}
    (distinct : (wave.map key).Nodup) (fresh : ∀ other ∈ wave, key other ≠ key candidate) :
    ((wave ++ [candidate]).map key).Nodup := by
  rw [List.map_append, List.nodup_append]
  refine ⟨distinct, List.nodup_singleton _, ?_⟩
  intro first member second last same
  obtain ⟨other, present, rfl⟩ := List.mem_map.mp member
  rw [List.map_singleton, List.mem_singleton] at last
  exact fresh other present (same.trans last)

theorem pairwise_append_singleton
    {related : ParallelShardCandidate → ParallelShardCandidate → Prop}
    (pairwise : wave.Pairwise related) (last : ∀ other ∈ wave, related other candidate) :
    (wave ++ [candidate]).Pairwise related := by
  rw [List.pairwise_append]
  refine ⟨pairwise, List.pairwise_singleton _ _, ?_⟩
  intro other member final present
  rw [List.mem_singleton.mp present]
  exact last other member

theorem Compatible.join (compatible : Compatible config wave)
    (joined : joins config wave candidate = true) :
    Compatible config (wave ++ [candidate]) := by
  obtain ⟨room, agents, groups, _, clear⟩ := joins_eq_true.mp joined
  refine ⟨?_, nodup_map_append_singleton compatible.agents agents,
    nodup_map_append_singleton compatible.groups groups,
    pairwise_append_singleton compatible.conflictKeys fun other member => ?_,
    pairwise_append_singleton compatible.repositories fun other member => ?_, ?_⟩
  · rw [List.length_append]
    exact room
  · intro key owned shared
    exact conflictKeys_of_parallelConflict (clear other member) key shared owned
  · intro repository owned shared
    have allowed :=
      repositories_of_parallelConflict (clear other member) repository shared owned
    exact allowed.imp And.symm id
  · rw [compatible.choose, if_pos joined]

end Compatible

/-! ## The offers to a queue -/

/-- A package of the queue with the part that it is offered in the wave. -/
structure Offer where
  package : WorkPackage
  candidate : ParallelShardCandidate
  joined : Bool

namespace Offer

/-- The agent that the package records for its part. -/
def recordedAgent (offer : Offer) : String :=
  match offer.candidate.capability with
  | .implement => offer.package.runtime.agentId
  | .review => offer.package.runtime.reviewerId
  | _ => offer.package.runtime.lastFixerId

/-- The package has had this part before. -/
def Recorded (offer : Offer) : Prop :=
  offer.recordedAgent = offer.candidate.agentId

def assigned (offer : Offer) : WorkPackage :=
  assignInWave offer.candidate.capability offer.candidate.agentId offer.package

theorem roles_assigned_iff (offer : Offer) :
    offer.assigned.roles = offer.package.roles ↔ offer.Recorded := by
  unfold assigned assignInWave Recorded recordedAgent WorkPackage.roles
  cases offer.candidate.capability <;> simp [eq_comm]

end Offer

variable (host : Host)

/-- The part that the package may have beside the candidates that are built already. -/
def candidateFor (moment : Moment) (built : List ParallelShardCandidate)
    (package : WorkPackage) : Option ParallelShardCandidate :=
  match parallelCapability host.config package with
  | none => none
  | some capability =>
      (selectAgentForCapability host.slots moment package capability
        (waveExclusions host.slots capability (busyAgents host.slots built) package)
        "").map fun agentId =>
          { packageId := package.id
            capability := capability
            agentId := agentId
            readOnly := decide (capability = .review)
            repositoryScope := repositoryScope package
            conflictKeys := package.conflictKeys
            concurrencyGroup := concurrencyGroup host.slots agentId }

/-- The moments that pass while the package is probed. -/
def probeTime (package : WorkPackage) : Nat :=
  if (parallelCapability host.config package).isSome then 1 else 0

/-- The offers to the queue in its order, as long as the wave has room. -/
def offers : List WorkPackage → List ParallelShardCandidate → Nat → List Offer
  | [], _, _ => []
  | package :: rest, built, clock =>
      let later := clock + probeTime host package
      match candidateFor host (host.surroundings clock) built package with
      | none => offers rest built later
      | some candidate =>
          let joined := joins host.config built candidate
          let grown := if joined then built ++ [candidate] else built
          { package, candidate, joined } ::
            if maxWorkers host.config ≤ grown.length then []
            else offers rest grown later

/-- The candidates that join. -/
def joiners (made : List Offer) : List ParallelShardCandidate :=
  (made.filter Offer.joined).map Offer.candidate

theorem candidateFor_packageId {moment : Moment} {built : List ParallelShardCandidate}
    {package : WorkPackage} {candidate : ParallelShardCandidate}
    (offered : candidateFor host moment built package = some candidate) :
    candidate.packageId = package.id := by
  unfold candidateFor at offered
  cases capable : parallelCapability host.config package with
  | none =>
      rw [capable] at offered
      cases offered
  | some capability =>
      rw [capable] at offered
      obtain ⟨agentId, _, rfl⟩ := Option.map_eq_some_iff.mp offered
      rfl

theorem offers_sublist (rest : List WorkPackage) (built : List ParallelShardCandidate)
    (clock : Nat) : ((offers host rest built clock).map Offer.package).Sublist rest := by
  induction rest generalizing built clock with
  | nil => exact List.Sublist.refl _
  | cons package rest inductionHypothesis =>
      rw [offers]
      cases candidateFor host (host.surroundings clock) built package with
      | none => exact (inductionHypothesis built _).cons package
      | some candidate =>
          refine List.Sublist.cons_cons package ?_
          generalize (if joins host.config built candidate = true then built ++ [candidate]
            else built) = grown
          by_cases full : maxWorkers host.config ≤ grown.length
          · rw [if_pos full]
            exact List.nil_sublist rest
          · rw [if_neg full]
            exact inductionHypothesis _ _

theorem packageId_of_mem_offers {rest : List WorkPackage}
    {built : List ParallelShardCandidate} {clock : Nat} {offer : Offer}
    (member : offer ∈ offers host rest built clock) :
    offer.candidate.packageId = offer.package.id := by
  induction rest generalizing built clock with
  | nil => cases member
  | cons package rest inductionHypothesis =>
      rw [offers] at member
      cases offered : candidateFor host (host.surroundings clock) built package with
      | none =>
          rw [offered] at member
          exact inductionHypothesis member
      | some candidate =>
          rw [offered] at member
          dsimp only at member
          generalize (if joins host.config built candidate = true then built ++ [candidate]
            else built) = grown at member
          rcases List.mem_cons.mp member with rfl | later
          · exact candidateFor_packageId host offered
          · by_cases full : maxWorkers host.config ≤ grown.length
            · rw [if_pos full] at later
              cases later
            · rw [if_neg full] at later
              exact inductionHypothesis later

/-! ## The run -/

/-- The package after the probe. -/
def probed (offered : Option ParallelShardCandidate) (package : WorkPackage) :
    WorkPackage :=
  match offered with
  | none => package
  | some candidate => assignInWave candidate.capability candidate.agentId package

/-- What one probe answers and leaves behind. -/
theorem ensures_probe (built : List ParallelShardCandidate) (session : StageSession) :
    Stateful.Ensures (parallelCandidate host (busyAgents host.slots built)) session
      (fun chosen after =>
        chosen = candidateFor host (host.surroundings session.clock) built
          session.package ∧
        after = { session with
          package := probed chosen session.package
          clock := session.clock + probeTime host session.package })
      (fun _ _ => False) := by
  unfold parallelCandidate candidateFor probeTime
  rw [Stateful.ensures_bind, ensures_currentPackage]
  cases capable : parallelCapability host.config session.package with
  | none => exact ⟨rfl, rfl⟩
  | some capability =>
      dsimp only
      rw [Stateful.ensures_bind]
      show Stateful.Ensures _ { session with clock := session.clock + 1 } _ _
      cases selectAgentForCapability host.slots (host.surroundings session.clock)
        session.package capability (waveExclusions host.slots capability
          (busyAgents host.slots built) session.package) "" with
      | none => exact ⟨rfl, rfl⟩
      | some agentId => exact ⟨rfl, rfl⟩

theorem probed_id (offered : Option ParallelShardCandidate) (package : WorkPackage) :
    (probed offered package).id = package.id := by
  cases offered with
  | none => rfl
  | some candidate =>
      exact congrArg Progress.id
        (assignInWave_progress candidate.capability candidate.agentId package)

/-- One probe changes its package only. -/
theorem ensures_probeStored (built : List ParallelShardCandidate)
    {session : PipelineSession} {package : WorkPackage}
    (stored : session.record.planGraph.packageById package.id = .ok package) :
    Stateful.Ensures (Pipeline.onPackage package.id
        (parallelCandidate host (busyAgents host.slots built))) session
      (fun chosen after =>
        chosen = candidateFor host (host.surroundings session.clock) built package ∧
        after.clock = session.clock + probeTime host package ∧
        after.record.planGraph.packageById package.id = .ok (probed chosen package) ∧
        ∀ packageId, packageId ≠ package.id →
          after.record.planGraph.packageById packageId =
            session.record.planGraph.packageById packageId)
      (fun _ _ => False) := by
  refine (ensures_onPackage stored
    (ensures_probe host built (Pipeline.focus session package))).mono ?_ ?_
  · rintro chosen after ⟨final, rfl, offered, rfl⟩
    have graph : (Pipeline.unfocus package.id session
        { Pipeline.focus session package with
          package := probed chosen package
          clock := session.clock + probeTime host package }).record.planGraph =
        PlanGraph.modify package.id (fun _ => probed chosen package)
          session.record.planGraph := by
      show PlanGraph.modify (probed chosen package).id _ _ = _
      rw [probed_id]
      rfl
    have kept : ∀ other : WorkPackage, other.id = package.id →
        (probed chosen package).id = package.id := fun _ _ => probed_id chosen package
    refine ⟨offered, rfl, ?_, fun packageId different => ?_⟩
    · refine (congrArg (PlanGraph.packageById · package.id) graph).trans ?_
      exact PlanGraph.packageById_modify_self kept stored
    · refine (congrArg (PlanGraph.packageById · packageId) graph).trans ?_
      exact PlanGraph.packageById_modify_ne kept different _
  · rintro signal after ⟨_, _, impossible⟩
    exact impossible

/-- The packages hold what they were offered; the others are as before. -/
structure Leaves (made : List Offer) (before after : PipelineSession) : Prop where
  offered : ∀ offer ∈ made,
    after.record.planGraph.packageById offer.package.id = .ok offer.assigned
  others : ∀ packageId, (∀ offer ∈ made, offer.package.id ≠ packageId) →
    after.record.planGraph.packageById packageId =
      before.record.planGraph.packageById packageId

theorem Leaves.cons {made : List Offer} {offer : Offer} {before middle after : PipelineSession}
    (leaves : Leaves made middle after)
    (apart : ∀ other ∈ made, other.package.id ≠ offer.package.id)
    (changed : middle.record.planGraph.packageById offer.package.id = .ok offer.assigned)
    (kept : ∀ packageId, packageId ≠ offer.package.id →
      middle.record.planGraph.packageById packageId =
        before.record.planGraph.packageById packageId) :
    Leaves (offer :: made) before after := by
  refine ⟨?_, fun packageId absent => ?_⟩
  · intro other member
    rcases List.mem_cons.mp member with rfl | later
    · exact (leaves.others _ apart).trans changed
    · exact leaves.offered other later
  · have different := absent offer List.mem_cons_self
    rw [leaves.others packageId fun other member =>
      absent other (List.mem_cons_of_mem _ member)]
    exact kept packageId different.symm

theorem leaves_nil (session : PipelineSession) : Leaves [] session session :=
  ⟨fun _ member => absurd member List.not_mem_nil, fun _ _ => rfl⟩

theorem ensures_gather (rest : List WorkPackage) (built : List ParallelShardCandidate)
    (session : PipelineSession) (compatible : Compatible host.config built)
    (unique : (rest.map WorkPackage.id).Nodup)
    (stored : ∀ package ∈ rest,
      session.record.planGraph.packageById package.id = .ok package) :
    Stateful.Ensures (gatherCandidates host rest built) session
      (fun wave after =>
        wave = built ++ joiners (offers host rest built session.clock) ∧
        Compatible host.config wave ∧
        Leaves (offers host rest built session.clock) session after)
      (fun _ _ => False) := by
  induction rest generalizing built session with
  | nil =>
      refine ⟨(List.append_nil built).symm, compatible, ⟨?_, fun _ _ => rfl⟩⟩
      exact fun _ member => absurd member List.not_mem_nil
  | cons package rest inductionHypothesis =>
      rw [List.map_cons, List.nodup_cons] at unique
      rw [gatherCandidates, Stateful.ensures_bind, offers]
      have first := stored package List.mem_cons_self
      refine (ensures_probeStored host built first).mono ?_ fun _ _ impossible => impossible
      rintro chosen middle ⟨offered, clock, changed, kept⟩
      -- the packages that are still to come are as they were
      have waiting : ∀ other ∈ rest,
          middle.record.planGraph.packageById other.id = .ok other := by
        intro other member
        rw [kept other.id fun same => unique.1 (List.mem_map.mpr ⟨other, member, same⟩)]
        exact stored other (List.mem_cons_of_mem _ member)
      have untouched : ∀ (wave : List ParallelShardCandidate) (time : Nat),
          ∀ offer ∈ offers host rest wave time, offer.package.id ≠ package.id := by
        intro wave time offer member same
        have present := (offers_sublist host rest wave time).subset
          (List.mem_map_of_mem member)
        exact unique.1 (List.mem_map.mpr ⟨offer.package, present, same⟩)
      rw [← offered, ← clock]
      cases chosen with
      | none =>
          refine (inductionHypothesis built middle compatible unique.2 waiting).mono ?_
            fun _ _ impossible => impossible
          rintro wave after ⟨shape, sound, leaves⟩
          refine ⟨shape, sound, leaves.offered, fun packageId absent => ?_⟩
          rw [leaves.others packageId absent]
          by_cases same : packageId = package.id
          · rw [same, changed, first]
            rfl
          · exact kept packageId same
      | some candidate =>
          have shape : (if (chooseParallelCandidates host.config
              (built ++ [candidate])).length = built.length + 1 then built ++ [candidate]
                else built) =
              if joins host.config built candidate then built ++ [candidate] else built :=
            if_congr (compatible.length_choose_iff candidate) rfl rfl
          dsimp only
          rw [shape]
          generalize growth : (if joins host.config built candidate = true then
            built ++ [candidate] else built) = grown
          have sound : Compatible host.config grown := by
            rw [← growth]
            cases joined : joins host.config built candidate with
            | true => exact compatible.join joined
            | false => exact compatible
          have gathered : ∀ made, grown ++ joiners made = built ++ joiners
              (⟨package, candidate, joins host.config built candidate⟩ :: made) := by
            intro made
            rw [← growth]
            unfold joiners
            cases joins host.config built candidate with
            | true => exact List.append_assoc built [candidate] _
            | false => rfl
          refine Stateful.ensures_ite (fun full => ?_) fun room => ?_
          · rw [if_pos full]
            refine ⟨?_, sound, (leaves_nil middle).cons ?_ changed kept⟩
            · exact (List.append_nil grown).symm.trans (gathered [])
            · exact fun _ member => absurd member List.not_mem_nil
          · rw [if_neg room]
            refine (inductionHypothesis grown middle sound unique.2 waiting).mono ?_
              fun _ _ impossible => impossible
            rintro wave after ⟨rfl, compatible, leaves⟩
            exact ⟨gathered _, compatible, leaves.cons (untouched _ _) changed kept⟩

/-! ## The wave -/

/-- The roles of the packages that are not dispatched are as before. -/
def RolesKept (wave : List ParallelShardCandidate) (before after : PipelineSession) : Prop :=
  ∀ packageId, packageId ∉ wave.map ParallelShardCandidate.packageId →
    after.record.planGraph.rolesOf packageId = before.record.planGraph.rolesOf packageId

/-- The packages of the queue that may be probed. -/
def probedPackages (ready : List WorkPackage) (deferred : List String) : List WorkPackage :=
  if host.config.parallelShardsEnabled = false ∨ maxWorkers host.config < 2 then []
  else ready.filter fun package => package.id ∉ deferred

/-- Whoever is offered a part has had it before, or joins a wave of at least two. -/
def Harmless (made : List Offer) : Prop :=
  ∀ offer ∈ made, offer.Recorded ∨ (offer.joined = true ∧ 2 ≤ (joiners made).length)

variable {graph : PlanGraph}

theorem nodup_probedPackages (queue : ReadyQueue graph) (deferred : List String) :
    ((probedPackages host queue.packages deferred).map WorkPackage.id).Nodup := by
  unfold probedPackages
  split
  · exact List.nodup_nil
  · exact queue.unique.sublist (List.filter_sublist.map _)

/-- The wave consists of the candidates that join, if there are two of them. -/
theorem ensures_build (session : PipelineSession)
    (queue : ReadyQueue session.record.planGraph) (deferred : List String) :
    Stateful.Ensures (buildParallelWave host queue.packages deferred) session
      (fun wave after =>
        wave = (if 2 ≤ (joiners (offers host (probedPackages host queue.packages deferred)
          [] session.clock)).length then joiners (offers host (probedPackages host
            queue.packages deferred) [] session.clock) else []) ∧
        Compatible host.config wave ∧
        Leaves (offers host (probedPackages host queue.packages deferred) [] session.clock)
          session after)
      (fun _ _ => False) := by
  have unique := nodup_probedPackages host queue deferred
  unfold buildParallelWave
  unfold probedPackages at unique ⊢
  refine Stateful.ensures_ite (fun off => ?_) fun on => ?_
  · rw [if_pos off]
    exact ⟨rfl, compatible_nil, leaves_nil session⟩
  · rw [if_neg on] at unique ⊢
    rw [Stateful.ensures_bind]
    refine (ensures_gather host _ [] session compatible_nil unique
      fun package member => queue.stored package (List.mem_filter.mp member).1).mono ?_
      fun _ _ impossible => impossible
    rintro wave after ⟨shape, compatible, leaves⟩
    rw [List.nil_append] at shape
    rw [← shape]
    refine ⟨rfl, ?_, leaves⟩
    show Compatible host.config (if 2 ≤ wave.length then wave else [])
    split
    · exact compatible
    · exact compatible_nil

theorem stored_of_mem_offers {session : PipelineSession}
    (queue : ReadyQueue session.record.planGraph) (deferred : List String) {clock : Nat}
    {offer : Offer}
    (member : offer ∈ offers host (probedPackages host queue.packages deferred) [] clock) :
    session.record.planGraph.packageById offer.package.id = .ok offer.package := by
  have probed := (offers_sublist host _ [] clock).subset (List.mem_map_of_mem member)
  unfold probedPackages at probed
  split at probed
  · cases probed
  · exact queue.stored _ (List.mem_filter.mp probed).1

theorem eq_of_mem_offers (queue : ReadyQueue graph) (deferred : List String) {clock : Nat}
    {offer other : Offer}
    (member : offer ∈ offers host (probedPackages host queue.packages deferred) [] clock)
    (present : other ∈ offers host (probedPackages host queue.packages deferred) [] clock)
    (same : offer.package.id = other.package.id) : offer = other := by
  have unique := (nodup_probedPackages host queue deferred).sublist
    ((offers_sublist host _ [] clock).map WorkPackage.id)
  rw [List.map_map] at unique
  exact List.inj_on_of_nodup_map unique member present same

theorem rolesKept_iff_harmless {made : List Offer} {wave : List ParallelShardCandidate}
    {before after : PipelineSession}
    (shape : wave = if 2 ≤ (joiners made).length then joiners made else [])
    (leaves : Leaves made before after)
    (stored : ∀ offer ∈ made,
      before.record.planGraph.packageById offer.package.id = .ok offer.package)
    (named : ∀ offer ∈ made, offer.candidate.packageId = offer.package.id)
    (apart : ∀ offer ∈ made, ∀ other ∈ made, offer.package.id = other.package.id →
      offer = other) :
    RolesKept wave before after ↔ Harmless made := by
  have roles : ∀ offer ∈ made,
      (after.record.planGraph.rolesOf offer.package.id =
        before.record.planGraph.rolesOf offer.package.id ↔ offer.Recorded) := by
    intro offer member
    unfold PlanGraph.rolesOf
    rw [leaves.offered offer member, stored offer member, ← offer.roles_assigned_iff]
    exact ⟨Except.ok.inj, congrArg Except.ok⟩
  constructor
  · intro kept offer member
    by_cases joined : offer.joined = true ∧ 2 ≤ (joiners made).length
    · exact Or.inr joined
    · refine Or.inl ((roles offer member).mp (kept _ fun dispatched => joined ?_))
      rw [shape] at dispatched
      split at dispatched
      · rename_i enough
        obtain ⟨candidate, chosen, same⟩ := List.mem_map.mp dispatched
        obtain ⟨other, picked, rfl⟩ := List.mem_map.mp chosen
        obtain ⟨present, joins⟩ := List.mem_filter.mp picked
        rw [named other present] at same
        rw [← apart other present offer member same]
        exact ⟨joins, enough⟩
      · cases dispatched
  · intro harmless packageId absent
    by_cases offered : ∃ offer ∈ made, offer.package.id = packageId
    · obtain ⟨offer, member, rfl⟩ := offered
      rcases harmless offer member with recorded | ⟨joined, enough⟩
      · exact (roles offer member).mpr recorded
      · refine absurd (List.mem_map.mpr ⟨offer.candidate, ?_, named offer member⟩) absent
        rw [shape, if_pos enough]
        exact List.mem_map_of_mem (List.mem_filter.mpr ⟨member, joined⟩)
    · unfold PlanGraph.rolesOf
      rw [leaves.others packageId fun offer member same => offered ⟨offer, member, same⟩]

/-- The wave is always compatible; the roles of the packages outside of it stay exactly
when every offer is harmless. -/
theorem buildParallelWave_compatible_rolesKept_iff (session : PipelineSession)
    (queue : ReadyQueue session.record.planGraph) (deferred : List String) :
    ∃ wave after, buildParallelWave host queue.packages deferred session = (.ok wave, after) ∧
      Compatible host.config wave ∧
      (RolesKept wave session after ↔
        Harmless (offers host (probedPackages host queue.packages deferred) []
          session.clock)) := by
  have ensured := ensures_build host session queue deferred
  unfold Stateful.Ensures at ensured
  cases ran : buildParallelWave host queue.packages deferred session with
  | mk outcome after =>
      rw [ran] at ensured
      cases outcome with
      | error signal => exact ensured.elim
      | ok wave =>
          obtain ⟨shape, compatible, leaves⟩ := ensured
          refine ⟨wave, after, rfl, compatible, rolesKept_iff_harmless shape leaves ?_ ?_ ?_⟩
          · exact fun offer member => stored_of_mem_offers host queue deferred member
          · exact fun offer member => packageId_of_mem_offers host member
          · exact fun offer member other present =>
              eq_of_mem_offers host queue deferred member present

/-! ## A wave that is dropped -/

/-- Two agents that write, and shards of which only one may write at a time. -/
def twoWriters : Host where
  py := asciiPython
  config := {}
  slots := ["first", "second"].map fun agentId =>
    { candidateId := agentId
      capabilities := [.implement] }
  surroundings _ := approvingMoment

def writingShard (packageId : String) : WorkPackage :=
  { id := packageId
    title := packageId
    parentId := "feature"
    parallelSafe := true
    stage := .implement
    affectedRepositories := ["app"] }

def crowdedStart : PipelineSession :=
  { record :=
      { state := .running
        planGraph := [writingShard "feature__a", writingShard "feature__b"] } }

def crowdedQueue : ReadyQueue crowdedStart.record.planGraph where
  packages := crowdedStart.record.planGraph
  unique := by decide
  stored := by
    intro package member
    rcases List.mem_cons.mp member with rfl | later
    · rfl
    · rw [List.mem_singleton.mp later]
      rfl

/-- Nothing is dispatched, but both shards record an agent. -/
theorem crowdedQueue_assigns :
    ¬∀ (host : Host) (session : PipelineSession)
        (queue : ReadyQueue session.record.planGraph) (deferred : List String),
      ∃ wave after,
        buildParallelWave host queue.packages deferred session = (.ok wave, after) ∧
        Compatible host.config wave ∧ RolesKept wave session after := by
  intro conforms
  obtain ⟨wave, after, ran, _, kept⟩ :=
    conforms twoWriters crowdedStart crowdedQueue []
  have built : buildParallelWave twoWriters crowdedQueue.packages [] crowdedStart =
      (.ok [], { crowdedStart with
        record := { crowdedStart.record with
          planGraph := [assignInWave .implement "first" (writingShard "feature__a"),
            assignInWave .implement "second" (writingShard "feature__b")] }
        clock := 2 }) := by
    rfl
  rw [built, Prod.mk.injEq, Except.ok.injEq] at ran
  have unchanged := kept "feature__a" (by rw [← ran.1]; exact List.not_mem_nil)
  rw [← ran.2] at unchanged
  revert unchanged
  decide

end ShardWave

end Execraft.Orchestrate
