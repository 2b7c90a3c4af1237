import Execraft.Orchestrate.Verification

/-!
# Decomposition

A package enters its decomposition from any stage; a planner keeps it whole, or splits
it into shards on which it then depends.
-/

namespace Execraft.Orchestrate

open Foundation Foundation.Json

/-! ## The shards -/

/-- How a shard begins: its stage, its execution mode, and whether it only reads. -/
def childExecution (originStage : String) : WorkPackageStage × String × Bool :=
  if originStage = WorkPackageStage.review.value ∨
      originStage = WorkPackageStage.finalReview.value then
    (.review, "review_shard", true)
  else if originStage = WorkPackageStage.fixReview.value then
    (.fixReview, "fix_shard", false)
  else
    (.prepare, "standard_shard", false)

def riskForComplexity (complexity : Int) : String :=
  if 80 ≤ complexity then
    "critical"
  else if 60 ≤ complexity then
    "high"
  else if 35 ≤ complexity then
    "medium"
  else
    "low"

/-- The texts without their later repetitions. -/
def distinct (texts : List String) : List String :=
  texts.reverse.dedup.reverse

/-- The stage from which a package was decomposed, by name. -/
def decompositionOrigin (package : WorkPackage) : String :=
  if package.runtime.decompositionOriginStage = "" then
    package.stage.value
  else
    package.runtime.decompositionOriginStage

/-- The shard of a proposal; `extra` is its advantage in priority. -/
def shardPackage (parent : WorkPackage) (generatedBy : String) (extra : Int)
    (proposal : ShardProposal) : WorkPackage :=
  let execution := childExecution (decompositionOrigin parent)
  { id := parent.id ++ "__" ++ proposal.key
    title := proposal.title
    dependencies := distinct (parent.dependencies ++
      proposal.dependsOn.map fun key => parent.id ++ "__" ++ key)
    requirements := proposal.requirements
    acceptanceCriteria := proposal.acceptanceCriteria
    affectedRepositories := proposal.repositories
    stage := execution.1
    status := "pending"
    risk := riskForComplexity proposal.complexity
    priority := parent.priority + extra
    complexity := proposal.complexity
    verificationProfile := parent.verificationProfile
    agentPreferences := parent.agentPreferences
    skillPreferences := parent.skillPreferences
    executionMode := execution.2.1
    parentId := parent.id
    parallelSafe :=
      proposal.parallelSafe && (execution.2.2 || decide (proposal.repositories.length = 1))
    readScope := proposal.readScope
    writeScope :=
      if execution.2.2 = false ∧ proposal.writeScope = [] then
        proposal.repositories.map fun repository => repository ++ "/**"
      else
        proposal.writeScope
    conflictKeys := proposal.conflictKeys
    runtime :=
      { agentPreferenceBindingRoles := parent.runtime.agentPreferenceBindingRoles
        reviewFindings := proposal.reviewFindings
        shardKey := proposal.key
        generatedBy := generatedBy } }

/-- The shards of a plan; earlier ones come before later ones. -/
def shardPackages (parent : WorkPackage) (generatedBy : String) :
    List ShardProposal → List WorkPackage
  | [] => []
  | proposal :: rest =>
      shardPackage parent generatedBy (rest.length + 1) proposal ::
        shardPackages parent generatedBy rest

/-! ## Into the decomposition and out of it -/

section Decompose

variable (host : Host)

/-- The capability whose work a decomposition would split. -/
def stageCapability : WorkPackageStage → Option AgentCapability
  | .prepare | .implement => some .implement
  | .review | .finalReview => some .review
  | .fixReview => some .fixReview
  | _ => none

def inferredComplexity (py : Python) (package : WorkPackage) : Int :=
  let risk : Int := match py.lowerString (stripString package.risk) with
    | "low" => 25
    | "high" => 75
    | "critical" => 90
    | _ => 50
  let verification : Int :=
    match py.lowerString (stripString package.verificationProfile) with
    | "cheap" => 0
    | "focused" => 2
    | "integration" => 6
    | "full" => 10
    | _ => 3
  let repositories : Int := min 10 (((package.affectedRepositories.length - 1) * 3 : Nat))
  let contract : Int :=
    min 10 ((package.requirements.length + package.acceptanceCriteria.length : Nat))
  max 1 (min 100 (risk + repositories + contract + verification))

def complexityScore (py : Python) (package : WorkPackage) : Int :=
  if package.complexity ≠ 0 then
    max 1 (min 100 package.complexity)
  else
    inferredComplexity py package

/-- Whether nothing has been executed yet that a decomposition would undo. -/
def mayAutoDecompose (config : OrchestrationConfig) (package : WorkPackage) : Bool :=
  package.kind ≠ .repositorySync ∧ config.autoDecomposeEnabled = true ∧
    package.parentId = "" ∧ package.executionMode = "standard" ∧
    package.runtime.decompositionStatus = "" ∧ package.stage ≠ .decompose ∧
    (match stageCapability package.stage with
      | none => false
      | some capability =>
          decide ((package.runtime.agentHistory.get? capability.value).getD [] = [])) = true

def shouldAutoDecompose (moment : Moment) (package : WorkPackage) : Bool :=
  mayAutoDecompose host.config package &&
    (decide (host.config.decomposeComplexityThreshold ≤ complexityScore host.py package) ||
      (host.config.decomposeWhenNoEligibleProvider && !moment.eligibleForComplexity))

/-- The package remembers from which stage it is decomposed. -/
def markDecompositionOrigin (package : WorkPackage) : WorkPackage :=
  let origin := if package.stage = .prepare then .implement else package.stage
  { package with
    runtime := { package.runtime with
      decompositionOriginStage := WorkPackageStage.value origin } }

def enterDecomposition : StageProgram Unit := do
  changePackage markDecompositionOrigin
  advancePackageStage host .decompose

/-- The operator's request for a decomposition is fulfilled. -/
def consumeMandatoryDecomposition (now : String) (runtime : PackageRuntime) :
    PackageRuntime :=
  if runtime.decompositionRequired then
    { runtime with
      decompositionRequired := false
      decompositionRequiredConsumedAt := now }
  else
    runtime

/-- A planner that was not tried yet, the persisted one first. -/
def choosePlanner (attempted : List String) : StageProgram String := do
  let package ← currentPackage
  let persisted := package.runtime.decompositionAgentId
  if persisted ≠ "" ∧ persisted ∉ attempted then
    return persisted
  else
    selected host .decompose attempted ""

/-- Ask planners for a valid plan; the number bounds the invalid ones. -/
def planDecomposition : Nat → List String →
    StageProgram (Option (String × DecompositionAnswer))
  | 0, _ => return none
  | attempts + 1, attempted => do
      let planner ← choosePlanner host attempted
      if planner = "" then
        return none
      else
        changeRuntime fun runtime => { runtime with decompositionAgentId := planner }
        let result ← callAgent host .decompose true planner attempted []
        let moment ← observe host
        match moment.decomposition with
        | .invalid =>
            changeRuntime fun runtime => { runtime with decompositionAgentId := "" }
            planDecomposition attempts (attempted ++ [result.executedBy])
        | answer => return some (result.executedBy, answer)

/-- The stage to which a package returns that was kept whole. -/
def originStage (package : WorkPackage) : Option WorkPackageStage :=
  WorkPackageStage.ofValue?
    (if package.runtime.decompositionOriginStage = "" then
      WorkPackageStage.implement.value
    else
      package.runtime.decompositionOriginStage)

def atomicRuntime (now planner reason : String) (runtime : PackageRuntime) :
    PackageRuntime :=
  consumeMandatoryDecomposition now
    { runtime with
      decompositionReason := reason
      decompositionAgentId := planner
      decompositionStatus := "atomic"
      decompositionPlanHash := "" }

def keepAtomic (planner reason : String) : StageProgram Unit := do
  let moment ← observe host
  changeRuntime (atomicRuntime moment.now planner reason)
  let package ← currentPackage
  match originStage package with
  | none => Stateful.raise (.failed ⟨"not a valid WorkPackageStage"⟩)
  | some origin =>
      whenever (origin = .implement) (validateCleanStart host)
      advancePackageStage host origin

/-- The package that waits for its shards. -/
def aggregatePackage (now planner reason planHash : String) (children : List WorkPackage)
    (package : WorkPackage) : WorkPackage :=
  let shardIds := children.map WorkPackage.id
  { package with
    executionMode := "aggregate"
    dependencies := distinct (package.dependencies ++ shardIds)
    runtime := consumeMandatoryDecomposition now
      { package.runtime with
        decompositionReason := reason
        decompositionAgentId := planner
        decompositionStatus := "expanded"
        decompositionPlanHash := planHash
        shardIds := shardIds } }

def aggregateStage (origin : WorkPackageStage) : WorkPackageStage :=
  if origin = .review ∨ origin = .finalReview then .finalReview else .regressionVerify

def notePlanner (planner reason : String) (runtime : PackageRuntime) : PackageRuntime :=
  { runtime with
    decompositionReason := reason
    decompositionAgentId := planner }

def addPackages (children : List WorkPackage) (record : TaskExecutionStateRecord) :
    TaskExecutionStateRecord :=
  { record with
    planGraph := record.planGraph ++ children
    totalPackages := record.planGraph.length + children.length }

def insertShards (planner reason planHash : String) (proposals : List ShardProposal) :
    StageProgram Unit := do
  let moment ← observe host
  let session ← Stateful.read
  let children := shardPackages session.package planner proposals
  if children.any (fun child => session.graph.any fun other => other.id = child.id) then
    changeRuntime (notePlanner planner reason)
    Stateful.raise (.failed ⟨"generated shard IDs already exist"⟩)
  else
    changePackage (aggregatePackage moment.now planner reason planHash children)
    changeRecord (addPackages children)
    let package ← currentPackage
    match originStage package with
    | none => Stateful.raise (.failed ⟨"not a valid WorkPackageStage"⟩)
    | some origin => advancePackageStage host (aggregateStage origin)

def runDecomposition : StageProgram Unit := do
  let planned ← planDecomposition host (maxAttempts host) []
  match planned with
  | none => waitForAgentAvailability host
  | some (_, .invalid) => waitForAgentAvailability host
  | some (planner, .keepAtomic reason) => keepAtomic host planner reason
  | some (planner, .shard reason planHash proposals _ _) =>
      insertShards host planner reason planHash proposals

end Decompose

end Execraft.Orchestrate
