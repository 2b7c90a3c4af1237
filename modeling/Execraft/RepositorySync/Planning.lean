import Execraft.Foundation.Dict
import Execraft.Foundation.FreshName
import Execraft.ProjectExecution.RuntimeState
import Execraft.RepositorySync.Spec

/-!
# Inserting synchronization packages

The three rewrites of a plan graph: a synchronization package in front of a
package, behind a package, and behind everything.
-/

namespace Execraft.RepositorySync

open Foundation Foundation.Json

/-- A package as the YAML document has it. -/
abbrev Row := ProjectExecution.Row

variable (py : Python)

/-! ## The declarative contract -/

def DECLARATIVE_PACKAGE_FIELDS : List String :=
  ["id", "title", "dependencies", "requirements", "acceptance_criteria",
    "affected_repositories", "kind", "repository_sync", "risk", "priority",
    "complexity", "verification_profile", "agent_preferences", "skill_preferences",
    "parallel_safe", "read_scope", "write_scope", "conflict_keys"]

def DECLARATIVE_ACCEPTANCE_CRITERION_FIELDS : List String := ["id", "description"]

def LEGACY_RUNTIME_PACKAGE_FIELDS : List String :=
  ["stage", "status", "agent_id", "reviewer_id", "final_reviewer_id",
    "last_fixer_id", "agent_history", "verification_attempts", "review_cycles",
    "review_findings", "review_recovery_cycles", "review_recovery_fingerprint",
    "review_recovery_origin_stage", "implementation_summary", "last_implementation",
    "last_verification", "last_review", "last_agent_attempts", "last_invocation_id",
    "execution_mode", "parent_id", "shard_key", "generated_by",
    "decomposition_status", "decomposition_origin_stage", "decomposition_reason",
    "decomposition_agent_id", "decomposition_plan_hash", "shard_ids",
    "operator_paused", "operator_pause_reason", "operator_paused_at",
    "pause_before_start", "pause_before_start_reason",
    "pause_before_start_requested_at", "pause_before_start_reached_at",
    "pause_after_completion", "pause_after_completion_reason",
    "pause_after_completion_requested_at", "pause_after_completion_reached_at",
    "decomposition_required", "decomposition_required_reason",
    "decomposition_required_at", "decomposition_required_consumed_at"]

def LEGACY_RUNTIME_ACCEPTANCE_CRITERION_FIELDS : List String :=
  ["verified", "evidence"]

/-- Drop the members with these names. -/
def dropFields (names : List String) (row : Row) : Row :=
  row.filter fun field => field.1 ∉ names

def canonicalCriterion : Json → Json
  | .object criterion =>
      .object (dropFields LEGACY_RUNTIME_ACCEPTANCE_CRITERION_FIELDS criterion)
  | criterion => criterion

/-- A package without its runtime fields. -/
def canonicalPackage (package : Row) : Row :=
  let declared := dropFields LEGACY_RUNTIME_PACKAGE_FIELDS package
  match declared.get "acceptance_criteria" .null with
  | .array criteria =>
      declared.set "acceptance_criteria" (.array (criteria.map canonicalCriterion))
  | _ => declared

/-- Was the package stored as completed? -/
def legacyCompleted (package : Row) : Bool :=
  py.lowerString (stripString (py.text (package.get "stage" (.string "")))) =
      "completed" ||
    py.lowerString (stripString (py.text (package.get "status" (.string "")))) =
      "completed"

/-- The identity that the projection reports for the package at an index. -/
def legacyId (package : Row) (index : Nat) : String :=
  let id := stripString (py.text (package.get "id" (.int index)))
  if id = "" then toString index else id

/-- The packages under one key, and the completed ones among them. -/
def canonicalPackages (packages : List Json) : List Json × List String :=
  (packages.map fun package =>
      match package with
      | .object package => .object (canonicalPackage package)
      | other => other,
    packages.zipIdx.filterMap fun item =>
      match item.1 with
      | .object package =>
          if legacyCompleted py package then some (legacyId py package (item.2 + 1))
          else none
      | _ => none)

/-- The graph with the packages under one key projected. -/
def canonicalizeKey (graph : Row × List String) (key : String) : Row × List String :=
  match graph.1.get key .null with
  | .array packages =>
      (graph.1.set key (.array (canonicalPackages py packages).1),
        graph.2 ++ (canonicalPackages py packages).2)
  | _ => graph

/-- `canonicalize_legacy_plan_graph_mapping`. -/
def canonicalizeLegacyPlanGraph (raw : Row) : Row × List String :=
  let graph := ["work_packages", "packages"].foldl (canonicalizeKey py) (raw, [])
  (graph.1, graph.2.eraseDups)

/-! ## Packages -/

/-- `str(package.get("id", "")).strip()`. -/
def packageId (package : Row) : String :=
  stripString (py.text (package.get "id" (.string "")))

/-- `package.get("dependencies") or []`, as a loop meets it. -/
def dependencyItems (package : Row) : Option (List Json) :=
  let value := package.get "dependencies" .null
  if truthy value then iterate value else some []

/-- The stripped dependencies that are not empty. -/
def trimmedDependencies (package : Row) : Attempt (List String) :=
  match dependencyItems package with
  | none => .error "object is not iterable"
  | some items =>
      .ok ((items.map fun item => stripString (py.text item)).filter (· ≠ ""))

/-- The package at each place; all of them have to be mappings. -/
def packageRows (raw : Row) : Attempt (List Row) :=
  match raw.get "work_packages" .null with
  | .array packages =>
      packages.mapM fun package =>
        match package with
        | .object row => .ok row
        | _ => .error "every work package must be a mapping"
  | _ => .error "PLAN.graph.yaml work_packages must be a list"

/-- `raw["work_packages"]` after its packages were rewritten in place. -/
def withPackages (raw : Row) (packages : List Row) : Row :=
  raw.set "work_packages" (.array (packages.map Json.object))

/-- The last place of the package with this identity. -/
def targetIndex (targetId : String) (packages : List Row) : Option Nat :=
  packages.zipIdx.foldl
    (fun found item => if packageId py item.1 = targetId then some item.2 else found)
    none

/-- The identities in use. -/
def existingIds (packages : List Row) : List String :=
  (packages.map (packageId py)).filter (· ≠ "")

/-- `_next_sync_package_id`. -/
def nextSyncPackageId (existing : List String) (targetId explicit : String) :
    Attempt String :=
  let requested := stripString explicit
  if requested ≠ "" then do
    rejectIf (requested ∈ existing) ("sync package ID already exists: " ++ requested)
    rejectIf (requested = targetId)
      "sync package ID must differ from the target package ID"
    .ok requested
  else
    let base := targetId ++ "-SYNC"
    if base ∈ existing then
      .ok (firstFree existing (fun index => base ++ "-" ++ toString index)
        existing.length 2)
    else .ok base

/-! ## The synchronization package -/

/-- What an operator asks for. -/
structure SyncRequest where
  repositories : List String
  sourceBranches : List (String × String)
  remote : String
  conflictPolicy : String
  syncPackageId : String
  verificationProfile : String

/-- The selected repositories and the source branches. -/
def selection (request : SyncRequest) : Attempt (List String × Dict String) := do
  let selected :=
    ((request.repositories.map stripString).filter (· ≠ "")).eraseDups
  rejectIf (selected = [])
    "at least one repository must be selected for synchronization"
  let branches := Dict.ofItems (request.sourceBranches.map fun item =>
    (stripString item.1, stripString item.2))
  let unknown := (branches.keys.filter (· ∉ selected)).mergeSort
  rejectIf (unknown ≠ [])
    ("source-branch overrides reference repositories outside the selected set: " ++
      ", ".intercalate unknown)
  .ok (selected, branches)

/-- `str(value).strip() or default`. -/
def orDefault (value default : String) : String :=
  if stripString value = "" then default else stripString value

/-- The `spec_mapping` of `_sync_package_mapping`. -/
def syncSpecMapping (selected : List String) (branches : Dict String)
    (request : SyncRequest) : Json :=
  .object
    [("strategy", .string "merge"),
      ("remote", .string (orDefault request.remote "origin")),
      ("conflict_policy", .string (orDefault request.conflictPolicy "ai_resolve")),
      ("require_independent_review", .bool true),
      ("repositories", .object (selected.map fun repository =>
        (repository, .object (
          match branches.get? repository with
          | some branch =>
              if branch = "" then [] else [("source_branch", .string branch)]
          | none => []))))]

def syncPackage (packageId targetId : String) (dependencies selected : List String)
    (spec : RepositorySyncSpec) (request : SyncRequest) : Row :=
  [("id", .string packageId),
    ("title", .string ("Synchronize upstream repositories around " ++ targetId)),
    ("kind", .string "repository_sync"),
    ("dependencies", .array (dependencies.map Json.string)),
    ("requirements", .array
      [.string ("Fetch and pin the selected authoritative upstream branches " ++
          "before mutating task worktrees."),
        .string ("Merge the pinned upstream commits into the task branches " ++
          "without rebasing or rewriting task history."),
        .string ("Resolve merge and compatibility conflicts within the declared " ++
          "repository scope."),
        .string ("Preserve durable synchronization evidence and leave no " ++
          "unresolved Git operation.")]),
    ("acceptance_criteria", .array
      [.object [("id", .string "upstream_integrated"),
          ("description", .string ("Every selected pinned upstream commit is an " ++
            "ancestor of the resulting task branch."))],
        .object [("id", .string "conflicts_resolved"),
          ("description", .string ("No unresolved merge conflict or unrelated " ++
            "Git operation remains."))],
        .object [("id", .string "verification_passed"),
          ("description", .string ("Configured post-synchronization verification " ++
            "and independent review pass."))]]),
    ("affected_repositories", .array (selected.map Json.string)),
    ("repository_sync", .object spec.asMapping),
    ("risk", .string "high"),
    ("verification_profile", .string
      (orDefault request.verificationProfile "integration")),
    ("parallel_safe", .bool false)]

/-- `_sync_package_mapping`. -/
def syncPackageMapping (packageId targetId : String) (dependencies : List String)
    (selected : List String) (branches : Dict String) (request : SyncRequest) :
    Attempt Row := do
  let spec ← RepositorySyncSpec.fromMapping py
    (syncSpecMapping selected branches request)
  .ok (syncPackage packageId targetId dependencies selected spec request)

/-! ## The rewrites -/

/-- The rewritten graph and what was inserted. -/
structure RepositorySyncInsertion where
  graph : Row
  syncPackageId : String
  targetPackageId : String
  repositories : List String

/-- The packages of the projected graph and the place of the target. -/
def locate (raw : Row) (targetId : String) : Attempt (List Row × Nat) := do
  let packages ← packageRows raw
  match targetIndex py targetId packages with
  | none => .error ("target work package does not exist: " ++ targetId)
  | some index => .ok (packages, index)

/-- `build_sync_before_definition`. -/
def buildSyncBefore (planGraph : Row) (beforePackageId : String)
    (request : SyncRequest) : Attempt RepositorySyncInsertion := do
  let targetId := stripString beforePackageId
  rejectIf (targetId = "") "--before package ID cannot be empty"
  let (selected, branches) ← selection request
  let raw := (canonicalizeLegacyPlanGraph py planGraph).1
  let (packages, index) ← locate py raw targetId
  let target := packages.getD index []
  let packageId ← nextSyncPackageId (existingIds py packages) targetId
    request.syncPackageId
  let dependencies ← trimmedDependencies py target
  let sync ← syncPackageMapping py packageId targetId dependencies selected branches
    request
  let rewired := target.set "dependencies" (.array [.string packageId])
  .ok ⟨withPackages raw ((packages.set index rewired).insertIdx index sync),
    packageId, targetId, selected⟩

/-- One package behind the target: an incomplete direct dependent waits for the
synchronization instead. -/
def rewire (targetId packageId : String) (completed : List String) (package : Row) :
    Attempt Row := do
  let dependencies ← trimmedDependencies py package
  if targetId ∉ dependencies then .ok package
  else if RepositorySync.packageId py package ∈ completed then .ok package
  else
    .ok (package.set "dependencies" (.array (dependencies.map fun item =>
      .string (if item = targetId then packageId else item))))

/-- The completed packages that the caller names, or those of the legacy fields. -/
def completedIds (given : Option (List String)) (legacy : List String) : List String :=
  match given with
  | some ids => (ids.map stripString).filter (· ≠ "")
  | none => legacy

/-- `build_sync_after_definition`. -/
def buildSyncAfter (planGraph : Row) (afterPackageId : String) (request : SyncRequest)
    (completedPackageIds : Option (List String)) : Attempt RepositorySyncInsertion := do
  let targetId := stripString afterPackageId
  rejectIf (targetId = "") "after package ID cannot be empty"
  let (selected, branches) ← selection request
  let (raw, legacy) := canonicalizeLegacyPlanGraph py planGraph
  let completed := completedIds completedPackageIds legacy
  let (packages, index) ← locate py raw targetId
  let packageId ← nextSyncPackageId (existingIds py packages) targetId
    request.syncPackageId
  let sync ← syncPackageMapping py packageId targetId [targetId] selected branches
    request
  let rewired ← packages.zipIdx.mapM fun item =>
    if item.2 = index then .ok item.1
    else rewire py targetId packageId completed item.1
  .ok ⟨withPackages raw (rewired.insertIdx (index + 1) sync), packageId, targetId,
    selected⟩

/-- A package of the final synchronization with its dependencies. -/
def finalPackage : Json → Attempt (Row × List String)
  | .object package => do
      rejectIf (packageId py package = "") "every work package must have an ID"
      let dependencies ← trimmedDependencies py package
      .ok (package, dependencies)
  | _ => .error "every work package must be a mapping"

/-- The packages of the final synchronization; there has to be one. -/
def finalPackages (raw : Row) : Attempt (List (Row × List String)) :=
  match raw.get "work_packages" .null with
  | .array (head :: tail) => (head :: tail).mapM (finalPackage py)
  | _ => .error "final synchronization requires at least one existing work package"

/-- The packages on which no package depends, sorted. -/
def terminalIds (existing dependencies : List String) : List String :=
  (existing.eraseDups.filter (· ∉ dependencies)).mergeSort

/-- `build_final_sync_definition`. -/
def buildFinalSync (planGraph : Row) (request : SyncRequest) :
    Attempt RepositorySyncInsertion := do
  let (selected, branches) ← selection request
  let raw := (canonicalizeLegacyPlanGraph py planGraph).1
  let scanned ← finalPackages py raw
  let packages := scanned.map Prod.fst
  let existing := existingIds py packages
  let terminal := terminalIds existing (scanned.map Prod.snd).flatten
  match terminal.getLast? with
  | none => .error "cannot identify terminal work packages for final synchronization"
  | some targetId => do
      let packageId ← nextSyncPackageId existing "FINAL" request.syncPackageId
      let sync ← syncPackageMapping py packageId "final completion" terminal selected
        branches request
      .ok ⟨withPackages raw (packages ++ [sync]), packageId, targetId, selected⟩

end Execraft.RepositorySync
