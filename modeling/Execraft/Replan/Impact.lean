import Execraft.Orchestrate.PlanGraph
import Mathlib.Data.List.Sort

/-!
# The impact of a new plan graph

How a candidate graph is compared with the runtime state, and the state that
results from it.
-/

namespace Execraft.Replan

open Foundation Foundation.Json Orchestrate

/-- `sorted(texts)`. -/
def sorted (texts : List String) : List String :=
  texts.insertionSort (· ≤ ·)

/-! ## Contracts -/

/-- The members of a package that an author declares. -/
structure Contract where
  id : String
  title : String
  dependencies : List String
  requirements : List String
  acceptanceCriteria : List (String × String)
  affectedRepositories : List String
  risk : String
  priority : Int
  complexity : Int
  verificationProfile : String
  agentPreferences : Dict (List String)
  skillPreferences : Dict (List String)
  parallelSafe : Bool
  readScope : List String
  writeScope : List String
  conflictKeys : List String

/-- `_contract_mapping`. -/
def contractMapping (package : WorkPackage) (generated : List String) : Contract where
  id := package.id
  title := package.title
  dependencies := package.dependencies.filter (· ∉ generated)
  requirements := package.requirements
  acceptanceCriteria := package.acceptanceCriteria.map fun criterion =>
    (criterion.id, criterion.description)
  affectedRepositories := package.affectedRepositories
  risk := package.risk
  priority := package.priority
  complexity := package.complexity
  verificationProfile := package.verificationProfile
  agentPreferences := package.agentPreferences
  skillPreferences := package.skillPreferences
  parallelSafe := package.parallelSafe
  readScope := package.readScope
  writeScope := package.writeScope
  conflictKeys := package.conflictKeys

/-- Which members are not equal. -/
def Contract.differences (old new : Contract) : List (String × Bool) :=
  [("id", old.id ≠ new.id),
    ("title", old.title ≠ new.title),
    ("dependencies", old.dependencies ≠ new.dependencies),
    ("requirements", old.requirements ≠ new.requirements),
    ("acceptance_criteria", old.acceptanceCriteria ≠ new.acceptanceCriteria),
    ("affected_repositories", old.affectedRepositories ≠ new.affectedRepositories),
    ("risk", old.risk ≠ new.risk),
    ("priority", old.priority ≠ new.priority),
    ("complexity", old.complexity ≠ new.complexity),
    ("verification_profile", old.verificationProfile ≠ new.verificationProfile),
    ("agent_preferences", !old.agentPreferences.sameItems new.agentPreferences),
    ("skill_preferences", !old.skillPreferences.sameItems new.skillPreferences),
    ("parallel_safe", old.parallelSafe ≠ new.parallelSafe),
    ("read_scope", old.readScope ≠ new.readScope),
    ("write_scope", old.writeScope ≠ new.writeScope),
    ("conflict_keys", old.conflictKeys ≠ new.conflictKeys)]

/-- `_changed_contract_fields`. -/
def changedContractFields (old : WorkPackage) (new : Option WorkPackage)
    (generated : List String) : List String :=
  match new with
  | none => ["removed"]
  | some new =>
      sorted (((contractMapping old generated).differences
        (contractMapping new [])).filterMap fun field =>
          if field.2 then some field.1 else none)

/-- `_is_active_package`. -/
def isActivePackage (package : WorkPackage) : Bool :=
  package.stage ∉ [WorkPackageStage.prepare, .completed] ||
    package.status = "running" || package.lastInvocationId ≠ "" ||
    package.lastImplementation ≠ [] || package.lastVerification ≠ [] ||
    package.lastReview ≠ []

/-! ## Impacts -/

inductive Classification where
  | completedRemoved
  | completedChanged
  | completedPreserved
  | activePreserved
  | activeChangedInPlace
  | activeRemoved
  | activeBadReplacement
  | activeExistingReplacement
  | activeSuperseded
  | pendingRemoved
  | pendingChanged
  | pendingPreserved
  | generatedPreserved
  | generatedRetired
  deriving DecidableEq, Repr

structure PackageImpact where
  packageId : String
  classification : Classification
  summary : String
  replacementId : String
  changedFields : List String

structure ReplanImpact where
  currentRevision : Int
  candidateRevision : Int
  packages : List PackageImpact
  addedPackages : List String
  removedPackages : List String
  completedPackages : List String
  activePackages : List String
  pendingPackages : List String
  requiresCleanWorkspace : List String
  blockers : List String
  warnings : List String

/-- The authored packages. -/
def authored (graph : PlanGraph) : PlanGraph :=
  graph.filter fun package => package.parentId = ""

/-- The packages that the runtime generated. -/
def generated (graph : PlanGraph) : PlanGraph :=
  graph.filter fun package => package.parentId ≠ ""

/-- `generated_by_parent.get(parent_id, [])`. -/
def shardsOf (graph : PlanGraph) (parentId : String) : PlanGraph :=
  (generated graph).filter fun package => package.parentId = parentId

/-- What the comparison of one package looks at. -/
structure Comparison where
  candidate : Dict WorkPackage
  runtime : Dict WorkPackage
  mapping : Dict String

/-- The impact on a completed package; a blocked one comes with its blocker. -/
def completedImpact (packageId : String) (new : Option WorkPackage)
    (changed : List String) : PackageImpact × List String :=
  match new with
  | none =>
      let blocker := "completed package " ++ packageId ++
        " cannot be removed; retain it and add remediation work"
      (⟨packageId, .completedRemoved, blocker, "", changed⟩, [blocker])
  | some _ =>
      if changed ≠ [] then
        let blocker := "completed package " ++ packageId ++
          " changed semantic contract (" ++ ", ".intercalate changed ++
          "); keep it unchanged and add a remediation package with a new ID"
        (⟨packageId, .completedChanged, blocker, "", changed⟩, [blocker])
      else
        (⟨packageId, .completedPreserved,
          "completed state and evidence will be preserved", "", []⟩, [])

/-- The impact on a started package. -/
def activeImpact (comparison : Comparison) (packageId : String)
    (new : Option WorkPackage) (changed : List String) : PackageImpact × List String :=
  if new.isSome ∧ changed = [] then
    (⟨packageId, .activePreserved,
      "started package is unchanged and keeps runtime/evidence state", "", []⟩, [])
  else
    let replacement := stripString ((comparison.mapping.get? packageId).getD "")
    if new.isSome then
      let blocker := "started package " ++ packageId ++ " cannot change in place; " ++
        "remove the old ID and map it to a new replacement package"
      (⟨packageId, .activeChangedInPlace, blocker, replacement, changed⟩, [blocker])
    else if replacement = "" then
      let blocker := "started package " ++ packageId ++
        " was removed without an explicit replacement mapping"
      (⟨packageId, .activeRemoved, blocker, "", changed⟩, [blocker])
    else if comparison.candidate.get? replacement |>.isNone then
      let blocker := "replacement " ++ replacement ++ " for started package " ++
        packageId ++ " is not present in the candidate graph"
      (⟨packageId, .activeBadReplacement, blocker, replacement, changed⟩, [blocker])
    else if comparison.runtime.get? replacement |>.isSome then
      let blocker := "replacement " ++ replacement ++ " for started package " ++
        packageId ++ " must use a genuinely new package ID"
      (⟨packageId, .activeExistingReplacement, blocker, replacement, changed⟩, [blocker])
    else
      (⟨packageId, .activeSuperseded,
        "started package and generated descendants remain in the revision " ++
          "snapshot and are replaced after workspace safety checks",
        replacement, changed⟩, [])

/-- The impact on a package that has not been started. -/
def pendingImpact (packageId : String) (new : Option WorkPackage)
    (changed : List String) : PackageImpact :=
  match new with
  | none => ⟨packageId, .pendingRemoved, "unstarted package will be removed", "", []⟩
  | some _ =>
      if changed ≠ [] then
        ⟨packageId, .pendingChanged,
          "unstarted package will be replaced by candidate definition", "", changed⟩
      else
        ⟨packageId, .pendingPreserved, "unstarted package is unchanged", "", []⟩

/-- The impact on one authored package and its blocker, if there is one. -/
def packageImpact (comparison : Comparison) (graph : PlanGraph) (old : WorkPackage) :
    PackageImpact × List String :=
  let new := comparison.candidate.get? old.id
  let changed := changedContractFields old new
    ((shardsOf graph old.id).map WorkPackage.id)
  if old.stage = .completed then completedImpact old.id new changed
  else if isActivePackage old then activeImpact comparison old.id new changed
  else (pendingImpact old.id new changed, [])

/-- The impact on the shards of one parent. -/
def shardImpacts (graph : PlanGraph) (impacts : List PackageImpact)
    (parentId : String) : List PackageImpact :=
  let disposition := (impacts.find? (·.packageId = parentId)).map
    PackageImpact.classification
  ((shardsOf graph parentId).insertionSort fun first second =>
      first.id ≤ second.id).filterMap fun child =>
    if disposition = some .completedPreserved ∨ disposition = some .activePreserved then
      some ⟨child.id, .generatedPreserved,
        "runtime-generated shard remains attached to unchanged parent " ++ parentId,
        "", []⟩
    else if disposition = some .activeSuperseded then
      some ⟨child.id, .generatedRetired,
        "runtime-generated shard is retired with superseded parent " ++ parentId,
        "", []⟩
    else none

/-- What one entry of the package mapping gets wrong. -/
def mappingBlockers (comparison : Comparison) (old : Dict WorkPackage)
    (active : List String) (entry : String × String) : List String :=
  (if old.get? entry.1 |>.isNone then
      ["package mapping references unknown old package " ++ entry.1]
    else if entry.1 ∉ active then
      ["package mapping may only supersede a started package: " ++ entry.1]
    else []) ++
  (if comparison.candidate.get? entry.2 |>.isNone then
      ["package mapping references missing replacement package " ++ entry.2]
    else []) ++
  (if comparison.runtime.get? entry.2 |>.isSome then
      ["package mapping replacement must use a new package ID: " ++ entry.2]
    else []) ++
  (if entry.1 = entry.2 then
      ["package mapping for " ++ entry.1 ++ " must use a new package ID"]
    else [])

/-- Shards whose parent is missing. -/
def orphanBlockers (graph : PlanGraph) (old : Dict WorkPackage) : List String :=
  ((generated graph).insertionSort fun first second =>
      first.id ≤ second.id).filterMap fun child =>
    if old.get? child.parentId |>.isNone then
      some ("runtime-generated package " ++ child.id ++ " references missing parent " ++
        child.parentId ++ "; repair orchestration state before replanning")
    else none

/-- A blocker that lists identities, unless there are none. -/
def listBlocker (text : String) (ids : List String) : List String :=
  if ids = [] then [] else [text ++ ", ".intercalate ids]

/-- `analyze_impact`. -/
def analyzeImpact (state : TaskExecutionStateRecord) (candidateGraph : PlanGraph)
    (mapping : Dict String) (currentRevision : Int)
    (historicalPackageIds : List String) : ReplanImpact :=
  let graph := state.planGraph
  let comparison : Comparison := ⟨candidateGraph.byId, graph.byId, mapping⟩
  let old := (authored graph).byId
  let packages := old.entries.map Prod.snd
  let generatedIds := (generated graph).map WorkPackage.id
  let newIds := comparison.candidate.keys
  let historicalIds := (historicalPackageIds.map stripString).filter (· ≠ "")
  let collisions := sorted (newIds.filter (· ∈ generatedIds))
  let historicalCollisions := sorted (newIds.filter fun id =>
    id ∈ historicalIds ∧ id ∉ comparison.runtime.keys)
  let results := packages.map (packageImpact comparison graph)
  let impacts := results.map Prod.fst
  let started := packages.filter (·.stage ≠ .completed)
  let completed := (packages.filter (·.stage = .completed)).map WorkPackage.id
  let active := (started.filter (isActivePackage ·)).map WorkPackage.id
  let pending := (started.filter (!isActivePackage ·)).map WorkPackage.id
  let parents := sorted ((generated graph).map WorkPackage.parentId).eraseDups
  let blockers :=
    orphanBlockers graph old ++
    listBlocker "candidate reuses runtime-generated package IDs: " collisions ++
    listBlocker "candidate reuses retired/historical package IDs: "
      historicalCollisions ++
    (results.map Prod.snd).flatten ++
    (mapping.entries.map (mappingBlockers comparison old active)).flatten
  { currentRevision := currentRevision
    candidateRevision := currentRevision + 1
    packages := impacts ++ (parents.map (shardImpacts graph impacts)).flatten
    addedPackages := sorted (newIds.filter (· ∉ old.keys))
    removedPackages := sorted (old.keys.filter (· ∉ newIds))
    completedPackages := sorted completed
    activePackages := sorted active
    pendingPackages := sorted pending
    requiresCleanWorkspace := sorted ((impacts.filter fun impact =>
      impact.classification = .activeSuperseded).map PackageImpact.packageId)
    blockers := blockers.eraseDups
    warnings :=
      if graph = [] then
        ["orchestration state has no packages; candidate becomes the initial runtime graph"]
      else [] }

/-! ## Reconciliation -/

/-- The packages whose records are kept. -/
def preservedIds (impact : ReplanImpact) : List String :=
  (impact.packages.filter fun package =>
    package.classification = .completedPreserved ∨
      package.classification = .activePreserved).map PackageImpact.packageId

/-- What one candidate package becomes. -/
def reconciled (graph : PlanGraph) (preserved : List String) (candidate : WorkPackage) :
    PlanGraph :=
  if candidate.id ∈ preserved then
    (graph.byId.get? candidate.id).toList ++ shardsOf graph candidate.id
  else [candidate]

def reconciledGraph (state : TaskExecutionStateRecord) (graph : PlanGraph)
    (impact : ReplanImpact) : PlanGraph :=
  (graph.map (reconciled state.planGraph (preservedIds impact))).flatten

/-- `scheduler.pop(key, None)`. -/
def popKeys (names : List String) (row : Row) : Row :=
  row.filter fun field => field.1 ∉ names

/-- `reconcile_state` at two readings of the clock. -/
def reconcileState (state : TaskExecutionStateRecord) (graph : PlanGraph)
    (impact : ReplanImpact) (mapping : Dict String) (replannedAt now : String) :
    TaskExecutionStateRecord :=
  let packages := reconciledGraph state graph impact
  { state with
    planGraph := packages
    totalPackages := packages.length
    completedPackages := (packages.filter (·.stage = .completed)).length
    waiting :=
      if state.waiting.get "kind" .null = .string "pause_for_repository_sync" then
        state.waiting
      else []
    agentWaits := []
    scheduler :=
      (popKeys ["active_assignments", "assignments", "parallel_wave"]
        state.scheduler).set "last_replan" (.object
          [("revision", .int impact.candidateRevision),
            ("at", .string replannedAt),
            ("superseded", .object ((mapping.entries.filter fun entry =>
              entry.1 ∈ impact.activePackages).map fun entry =>
                (entry.1, .string entry.2)))])
    errorMessage := ""
    state :=
      if state.state ∈ [TaskExecutionState.initializing, .validatingPlan,
          .operatorPaused] then
        state.state
      else .running
    lastTransitionAt := now }

end Execraft.Replan
