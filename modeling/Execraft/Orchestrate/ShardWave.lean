import Execraft.Orchestrate.PipelineSession

/-!
# Parallel shard waves

Shards of a decomposed package that do not get into each other's way are worked on at
once, each writer in a worktree of its own.  The results are applied in the order in
which they come in.
-/

namespace Execraft.Orchestrate

open Foundation Foundation.Json

structure ParallelShardCandidate where
  packageId : String
  capability : AgentCapability
  agentId : String
  readOnly : Bool
  repositoryScope : List String
  conflictKeys : List String
  concurrencyGroup : String

namespace ShardWave

variable (host : Host)

/-! ## The choice of a wave -/

def maxWorkers (config : OrchestrationConfig) : Nat :=
  max 1 config.parallelShardMaxWorkers

def concurrencyGroup (slots : List AgentSlot) (agentId : String) : String :=
  match slots.find? fun slot => slot.candidateId = agentId with
  | none => ""
  | some slot =>
      if slot.concurrencyGroup = "" then slot.candidateId else slot.concurrencyGroup

def repositoryScope (package : WorkPackage) : List String :=
  distinct (package.affectedRepositories.filter fun repository => repository ≠ "")

def parallelConflict (config : OrchestrationConfig)
    (left right : ParallelShardCandidate) : Bool :=
  if left.conflictKeys.any (fun key => key ∈ right.conflictKeys) then
    true
  else if left.repositoryScope.any (fun repository => repository ∈ right.repositoryScope) =
      false then
    false
  else if left.readOnly && right.readOnly then
    false
  else
    config.parallelRequireDisjointRepositoriesForWrites

/-- Whether the candidate may join the ones that are selected already. -/
def joins (config : OrchestrationConfig) (selected : List ParallelShardCandidate)
    (candidate : ParallelShardCandidate) : Bool :=
  decide (selected.length < maxWorkers config) &&
    selected.all (fun other => other.agentId ≠ candidate.agentId) &&
    selected.all (fun other => other.concurrencyGroup ≠ candidate.concurrencyGroup) &&
    decide (candidate.capability ∈ config.parallelShardStages) &&
    selected.all (fun other => !parallelConflict config candidate other)

def chooseParallelCandidates (config : OrchestrationConfig)
    (candidates : List ParallelShardCandidate) : List ParallelShardCandidate :=
  candidates.foldl (fun selected candidate =>
    if joins config selected candidate then selected ++ [candidate] else selected) []

def capabilityForParallelStage (package : WorkPackage) : Option AgentCapability :=
  match package.stage with
  | .prepare => if package.executionMode = "standard_shard" then some .implement else none
  | .implement => some .implement
  | .review => some .review
  | .fixReview => some .fixReview
  | _ => none

/-- The capability with which the package may take part in a wave. -/
def parallelCapability (config : OrchestrationConfig) (package : WorkPackage) :
    Option AgentCapability :=
  if package.parentId = "" ∨ package.parallelSafe = false then
    none
  else
    match capabilityForParallelStage package with
    | none => none
    | some capability =>
        if capability ∉ config.parallelShardStages ∨
            (capability ≠ .review ∧ (repositoryScope package).length ≠ 1) then
          none
        else
          some capability

/-- The agents that a shard may not have in a wave. -/
def waveExclusions (slots : List AgentSlot) (capability : AgentCapability)
    (excluded : List String) (package : WorkPackage) : List String :=
  excluded ++
    (if capability = .review ∧ package.runtime.agentId ≠ "" then
      [package.runtime.agentId]
    else
      []) ++
    if capability = .review then
      (slots.filter fun slot => !slot.satisfiesReadOnly).map AgentSlot.candidateId
    else
      []

/-- The package with the agent of its part in a wave. -/
def assignInWave (capability : AgentCapability) (agentId : String) (package : WorkPackage) :
    WorkPackage :=
  { package with
    runtime :=
      match capability with
      | .implement => { package.runtime with agentId := agentId }
      | .review => { package.runtime with reviewerId := agentId }
      | _ => { package.runtime with lastFixerId := agentId } }

def parallelCandidate (excluded : List String) :
    StageProgram (Option ParallelShardCandidate) := do
  let package ← currentPackage
  match parallelCapability host.config package with
  | none => return none
  | some capability =>
      let agent ← selectAgent host capability
        (waveExclusions host.slots capability excluded package) ""
      match agent with
      | none => return none
      | some agentId =>
          changePackage (assignInWave capability agentId)
          return some
            { packageId := package.id
              capability := capability
              agentId := agentId
              readOnly := decide (capability = .review)
              repositoryScope := repositoryScope package
              conflictKeys := package.conflictKeys
              concurrencyGroup := concurrencyGroup host.slots agentId }

/-- The agents that the candidates of a wave keep busy. -/
def busyAgents (slots : List AgentSlot) (built : List ParallelShardCandidate) :
    List String :=
  built.map ParallelShardCandidate.agentId ++
    (slots.map AgentSlot.candidateId).filter fun agentId =>
      built.any fun candidate => candidate.concurrencyGroup = concurrencyGroup slots agentId

def gatherCandidates : List WorkPackage → List ParallelShardCandidate →
    PipelineProgram (List ParallelShardCandidate)
  | [], built => return built
  | package :: rest, built => do
      let candidate ← Pipeline.onPackage package.id
        (parallelCandidate host (busyAgents host.slots built))
      match candidate with
      | none => gatherCandidates rest built
      | some candidate =>
          let proposed := chooseParallelCandidates host.config (built ++ [candidate])
          let grown :=
            if proposed.length = built.length + 1 then built ++ [candidate] else built
          if maxWorkers host.config ≤ grown.length then
            return grown
          else
            gatherCandidates rest grown

/-- The wave of this round; fewer than two candidates are none. -/
def buildParallelWave (ready : List WorkPackage) (deferred : List String) :
    PipelineProgram (List ParallelShardCandidate) := do
  if host.config.parallelShardsEnabled = false ∨ maxWorkers host.config < 2 then
    return []
  else
    let built ← gatherCandidates host
      (ready.filter fun package => package.id ∉ deferred) []
    return if 2 ≤ built.length then built else []

/-! ## The start of a wave -/

/-- The packages of the wave that have not begun. -/
def startingPackages (graph : PlanGraph) (wave : List ParallelShardCandidate) :
    List String :=
  (wave.map ParallelShardCandidate.packageId).filter fun packageId =>
    match graph.packageById packageId with
    | .error _ => false
    | .ok package => package.stage = .prepare

/-- The candidate whose worktree cannot be prepared, if there is one. -/
def firstUnprepared : List ParallelShardCandidate → PipelineProgram (Option String)
  | [] => return none
  | candidate :: rest => do
      if candidate.readOnly then
        firstUnprepared rest
      else
        let moment ← Pipeline.observe host
        if moment.isolationProblem.isSome then
          return some candidate.packageId
        else
          firstUnprepared rest

/-- The first candidate whose prompt is too long, if there is one. -/
def firstOverBudget : List ParallelShardCandidate → PipelineProgram (Option String)
  | [] => return none
  | candidate :: rest => do
      let moment ← Pipeline.observe host
      if moment.contextBudgetExceeded then
        return some candidate.packageId
      else
        firstOverBudget rest

/-- The owners with the writers of a wave. -/
def ownersOfWave (owners : List (String × String)) (wave : List ParallelShardCandidate) :
    List (String × String) :=
  wave.foldl (fun owners candidate =>
    if candidate.readOnly then
      owners
    else
      candidate.repositoryScope.foldl (fun owners repository =>
        owners.filter (fun owner => owner.1 ≠ repository) ++
          [(repository, candidate.packageId)]) owners) owners

def setActiveParallelWave (active : Bool) (record : TaskExecutionStateRecord) :
    TaskExecutionStateRecord :=
  let others := record.scheduler.filter fun entry => entry.1 ≠ "parallel_wave"
  { record with
    scheduler := if active then others ++ [("parallel_wave", .object [])] else others }

def activeParallelWave (record : TaskExecutionStateRecord) : Bool :=
  record.scheduler.any fun entry => entry.1 = "parallel_wave"

def beginWave (wave : List ParallelShardCandidate) : PipelineProgram Unit := do
  let session ← Stateful.read
  Pipeline.changeRecord
    (setParallelDirtyOwners (ownersOfWave (parallelDirtyOwners session.record) wave))
  Pipeline.changeRecord (setActiveParallelWave true)
  Pipeline.emit (.waveStarted (wave.map ParallelShardCandidate.packageId))

/-- One invocation of an agent of the wave begins. -/
def beginInvocation (candidate : ParallelShardCandidate) : PipelineProgram Unit :=
  Pipeline.onPackage candidate.packageId do
    let package ← currentPackage
    emit (.invocationStarted candidate.agentId candidate.capability package.stage)

/-! ## The results of a wave -/

def recordAttempt (candidate : ParallelShardCandidate) (status : String) :
    StageProgram Unit := do
  let package ← currentPackage
  appendAgentAttempt
    [("stage", .string package.stage.value),
      ("capability", .string candidate.capability.value),
      ("agent_id", .string candidate.agentId), ("status", .string status),
      ("parallel", .bool true)]

/-- Project the answer of an agent of the wave to its package. -/
def applyParallelSuccess (candidate : ParallelShardCandidate) (payload : AgentPayload) :
    StageProgram Unit := do
  let result : AgentResult := ⟨candidate.agentId, payload⟩
  recordAttempt candidate "completed"
  recordAgentExecution candidate.capability candidate.agentId
  match candidate.capability with
  | .implement => do
      applyImplementationResult host result
      advancePackageStage host .fastVerify
  | .fixReview => do
      applyImplementationResult host result
      advancePackageStage host .regressionVerify
  | _ => do
      let review ← reviewResult host result
      let package ← currentPackage
      if package.executionMode = "review_shard" then
        completeReviewShard review.1 review.2 result
      else if review.1 = "changes_required" then
        queueReviewFixes host review.2
      else
        advancePackageStage host .finalReview

/-- A failure of the program is noticed by nobody. -/
def swallow (program : StageProgram Unit) : StageProgram Unit :=
  Stateful.recover program fun _ => pure ()

/-- Bring the changes of a worktree to the repository; whether that succeeded. -/
def applyParallelIsolatedDelta (candidate : ParallelShardCandidate) : StageProgram Bool :=
  do
  if candidate.readOnly then
    return true
  else
    let moment ← observe host
    if moment.sourceChanged then
      swallow (requestIntervention host)
      return false
    else
      changePackage fun package =>
        { package with writeScope := package.writeScope ++ moment.expandedScope }
      return decide (moment.deltaProblem = none)

/-- What cannot be projected after the agent has answered fails the whole call. -/
def projected (program : StageProgram Unit) : StageProgram Unit :=
  Stateful.recover program fun _ => Stateful.raise (.failed ⟨"parallel agent invocation " ++
    "completed but orchestration result projection failed"⟩)

/-- A failed invocation; the repository of a writer is released when it is clean. -/
def applyParallelFailure (candidate : ParallelShardCandidate) : StageProgram Unit := do
  recordAttempt candidate "failed"
  let moment ← observe host
  if candidate.readOnly = false ∧
      (∀ repository ∈ candidate.repositoryScope, repository ∉ moment.dirtyRepositories) then
    changeRecord (releaseParallelDirtyOwnership candidate.packageId)

/-- What is done with an answer that is valid. -/
def receiveAnswer (candidate : ParallelShardCandidate) (payload : AgentPayload) :
    StageProgram Unit := do
  let applied ← applyParallelIsolatedDelta host candidate
  if applied then
    projected (applyParallelSuccess host candidate payload)
  else
    applyParallelFailure host candidate

/-- An invocation without an answer. -/
def receiveNothing (candidate : ParallelShardCandidate) (sourceChanged : Bool) :
    StageProgram Unit := do
  if candidate.readOnly = false ∧ sourceChanged = true then
    requestIntervention host
  else
    recordAttempt candidate "failed"
    changeRecord (releaseParallelDirtyOwnership candidate.packageId)

def receiveResult (candidate : ParallelShardCandidate) : StageProgram Unit := do
  let moment ← observe host
  match moment.attempt with
  | .success payload =>
      if moment.invalidOutput then
        applyParallelFailure host candidate
      else
        receiveAnswer host candidate payload
  | _ => receiveNothing host candidate moment.sourceChanged

/-- The results of a wave in the order in which they come in. -/
def receiveResults : Nat → List ParallelShardCandidate → PipelineProgram Unit
  | 0, _ => pure ()
  | left + 1, remaining => do
      let moment ← Pipeline.observe host
      let index := moment.completes % remaining.length
      match remaining[index]? with
      | none => pure ()
      | some candidate => do
          Pipeline.onPackage candidate.packageId (receiveResult host candidate)
          receiveResults left (remaining.eraseIdx index)

/-! ## The wave -/

/-- The packages of the wave that have not begun are started. -/
def startPackages (starting : List String) : PipelineProgram Unit := do
  Pipeline.eachOf (fun packageId =>
    Pipeline.onPackage packageId (validateCleanStart host)) starting
  Pipeline.eachOf (fun packageId =>
    Pipeline.onPackage packageId (advancePackageStage host .implement)) starting

/-- The package that keeps the wave from being launched, if there is one. -/
def launchProblem (wave : List ParallelShardCandidate) : PipelineProgram (Option String) :=
  do
  let unprepared ← firstUnprepared host wave
  match unprepared with
  | some packageId => return some packageId
  | none =>
      let overBudget ← firstOverBudget host wave
      return overBudget.bind fun _ => wave.head?.map ParallelShardCandidate.packageId

def launchWave (wave : List ParallelShardCandidate) : PipelineProgram Unit := do
  beginWave wave
  Pipeline.eachOf beginInvocation wave
  receiveResults host wave.length wave
  Pipeline.changeRecord (setActiveParallelWave false)
  Pipeline.emit (.waveFinished (wave.map ParallelShardCandidate.packageId))

/-- Work on a wave of shards; whether there was one. -/
def run (ready : List WorkPackage) (deferred : List String) : PipelineProgram Bool := do
  let wave ← buildParallelWave host ready deferred
  if wave = [] then
    return false
  else
    let graph ← Pipeline.currentGraph
    startPackages host (startingPackages graph wave)
    let problem ← launchProblem host wave
    match problem with
    | some packageId => do
        Pipeline.onPackage packageId (requestIntervention host)
        return true
    | none => do
        launchWave host wave
        return true

/-- A wave that a former call did not finish asks for an operator. -/
def recoverInterrupted : PipelineProgram Bool := do
  let session ← Stateful.read
  if activeParallelWave session.record then
    Pipeline.emit .waveInterrupted
    Pipeline.emit .humanInterventionRequired
    Pipeline.changeRecord (setActiveParallelWave false)
    Pipeline.transitionTo host .humanRequired
    return true
  else
    return false

end ShardWave

end Execraft.Orchestrate
