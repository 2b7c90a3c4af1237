import Execraft.Orchestrate.PlanNormalization

/-!
# Reading plan graphs

`plan_graph_from_mapping`: the work packages that a machine-readable plan declares.
-/

namespace Execraft.Orchestrate

open Foundation Foundation.Json Foundation.Text RepositorySync

/-- Why an entry of a plan is not read. -/
inductive ReadFailure where
  /-- A `TypeError`, `ValueError` or `OrchestrateError`, which the reader reports. -/
  | reported (message : String)
  /-- An `OverflowError`, which nobody catches. -/
  | escaped
  deriving DecidableEq, Repr

abbrev Reading := Except ReadFailure

def reject {Value : Type} (message : String) : Reading Value :=
  .error (.reported message)

def reporting {Value : Type} (attempt : Attempt Value) : Reading Value :=
  attempt.mapError ReadFailure.reported

/-- The interpreter, with the message of an `int(...)` that fails. -/
structure PlanInterpreter extends Python where
  intFailure : Json → String

variable (py : PlanInterpreter)

/-! ## Members -/

/-- `_derive_id`. -/
def deriveId (title : String) : String :=
  let kept := title.toList.filter fun character =>
    isNameStart character || isSpace character || character = '_' || character = '-'
  let derived := (strip kept).map fun character =>
    if isSpace character || character = '-' then '_' else character.toLower
  let short := String.ofList (derived.take 64)
  if short = "" then "package" else short

/-- The name of the type of a value. -/
def typeName : Json → String
  | .null => "NoneType"
  | .bool _ => "bool"
  | .int _ => "int"
  | .float _ => "float"
  | .nonFinite _ => "float"
  | .string _ => "str"
  | .array _ => "list"
  | .object _ => "dict"

/-- The items of `raw.get(name) or []`. -/
def itemsOr (raw : Row) (name : String) : Reading (List Json) :=
  let value := raw.get name .null
  if truthy value then
    match iterate value with
    | some items => .ok items
    | none => reject ("'" ++ typeName value ++ "' object is not iterable")
  else .ok []

def textsOr (raw : Row) (name : String) : Reading (List String) := do
  let items ← itemsOr raw name
  .ok (items.map py.text)

def textOf (raw : Row) (name default : String) : String :=
  py.text (raw.get name (.string default))

/-- `int(raw.get(name, 0))`. -/
def integerMember (raw : Row) (name : String) : Reading Int :=
  let value := raw.get name (.int 0)
  match value, py.toInt value with
  | _, some integer => .ok integer
  | .nonFinite .nan, none => reject (py.intFailure value)
  | .nonFinite _, none => .error .escaped
  | _, none => reject (py.intFailure value)

def readCriterion : Json → Reading AcceptanceCriterion
  | .string text =>
      let description := stripString text
      let id := deriveId description
      if description = "" ∨ id = "" then
        reject "acceptance criterion requires id and description"
      else .ok ⟨id, description, false, ""⟩
  | .object fields =>
      let row : Row := fields
      let description := stripString (textOf py row "description" "")
      let declared := row.get "id" .null
      let id := stripString
        (if truthy declared then py.text declared else deriveId description)
      if description = "" ∨ id = "" then
        reject "acceptance criterion requires id and description"
      else .ok ⟨id, description, truthy (row.get "verified" (.bool false)),
        textOf py row "evidence" ""⟩
  | _ => reject "acceptance criterion must be a string or mapping"

/-- The identities of the execution roles. -/
def executionRoles : List String :=
  ["decompose", "implement", "review", "fix_review", "final_review"]

/-- `normalize_ranked_ids`. -/
def normalizeRankedIds (label : String) : Json → Reading (List String)
  | .array values => .ok (values.foldl (fun result value =>
      let id := stripString (py.text value)
      if id = "" ∨ id ∈ result then result else result ++ [id]) [])
  | _ => reject (label ++ " must be a list")

/-- `normalize_role_mapping`. -/
def normalizeRoleMapping (label : String) : Json → Reading (Dict (List String))
  | .null => .ok Dict.empty
  | .object fields =>
      fields.foldlM (fun normalized field => do
        let role := stripString field.1
        if role ∉ executionRoles then
          reject ("unsupported execution role " ++ py.repr role ++ "; expected one of " ++
            ", ".intercalate executionRoles)
        let values ← normalizeRankedIds py (label ++ " for " ++ py.repr role) field.2
        .ok (if values = [] then normalized else normalized.set role values)) Dict.empty
  | _ => reject (label ++ " must be a mapping")

def readStage (text : String) : Reading WorkPackageStage :=
  match WorkPackageStage.ofValue? text with
  | some stage => .ok stage
  | none => reject (py.repr text ++ " is not a valid WorkPackageStage")

def readKind (text : String) : Reading WorkPackageKind :=
  match WorkPackageKind.ofValue? text with
  | some kind => .ok kind
  | none => reject (py.repr text ++ " is not a valid WorkPackageKind")

/-! ## Packages -/

def rejectWhen (bad : Prop) [Decidable bad] (message : String) : Reading Unit :=
  if bad then reject message else .ok ()

/-- `WorkPackage.__post_init__`; the role mappings are normalized already. -/
def postInit (package : WorkPackage) : Reading Unit := do
  let name := py.repr package.id
  rejectWhen (¬ (0 ≤ package.complexity ∧ package.complexity ≤ 100))
    ("work package " ++ name ++ " complexity must be between 0 and 100")
  rejectWhen (package.runtime.reviewRecoveryCycles < 0)
    ("work package " ++ name ++ " review_recovery_cycles cannot be negative")
  match package.kind, package.repositorySync with
  | .repositorySync, none =>
      reject ("repository-sync package " ++ name ++
        " requires repository_sync configuration")
  | .repositorySync, some spec => do
      let selected := spec.repositoryIds
      let affected := package.affectedRepositories
      rejectWhen (¬ (selected ⊆ affected ∧ affected ⊆ selected) ∨
          selected.length ≠ affected.length)
        ("repository-sync package " ++ name ++ " affected_repositories must exactly " ++
          "match repository_sync repositories")
      rejectWhen (package.executionMode ≠ "standard")
        ("repository-sync package " ++ name ++ " must use execution_mode='standard'")
      rejectWhen (package.parallelSafe = true ∨ package.parentId ≠ "" ∨
          package.runtime.shardKey ≠ "")
        ("repository-sync package " ++ name ++ " cannot be a parallel shard")
      rejectWhen (package.runtime.decompositionRequired = true ∨
          package.runtime.decompositionStatus ≠ "")
        ("repository-sync package " ++ name ++ " cannot request decomposition")
  | .development, some _ =>
      reject ("work package " ++ name ++
        " declares repository_sync but kind is not repository_sync")
  | .development, none => .ok ()

def readSync (raw : Row) : Reading (Option RepositorySyncSpec) :=
  if textOf py raw "kind" "development" = WorkPackageKind.repositorySync.value then do
    let spec ← reporting (RepositorySyncSpec.fromMapping py.toPython
      (raw.get "repository_sync" .null))
    .ok (some spec)
  else .ok none

/-- The runtime members that a plan can declare; all others keep their defaults. -/
def readRuntime (raw : Row) (shardIds : List String) : PackageRuntime where
  shardKey := textOf py raw "shard_key" ""
  generatedBy := textOf py raw "generated_by" ""
  decompositionStatus := textOf py raw "decomposition_status" ""
  decompositionOriginStage := textOf py raw "decomposition_origin_stage" ""
  decompositionReason := textOf py raw "decomposition_reason" ""
  decompositionAgentId := textOf py raw "decomposition_agent_id" ""
  decompositionPlanHash := textOf py raw "decomposition_plan_hash" ""
  shardIds

/-- The package that one entry declares. -/
def readPackage (raw : Row) : Reading WorkPackage := do
  let criteriaRaw ← itemsOr raw "acceptance_criteria"
  let acceptanceCriteria ← criteriaRaw.mapM (readCriterion py)
  let stage ← readStage py (textOf py raw "stage" "prepare")
  let dependencies ← textsOr py raw "dependencies"
  let requirements ← textsOr py raw "requirements"
  let affectedRepositories ← textsOr py raw "affected_repositories"
  let kind ← readKind py (textOf py raw "kind" "development")
  let repositorySync ← readSync py raw
  let priority ← integerMember py raw "priority"
  let complexity ← integerMember py raw "complexity"
  let agentPreferences ← normalizeRoleMapping py "agent preferences"
    (raw.get "agent_preferences" .null)
  let skillPreferences ← normalizeRoleMapping py "skill preferences"
    (raw.get "skill_preferences" .null)
  let readScope ← textsOr py raw "read_scope"
  let writeScope ← textsOr py raw "write_scope"
  let conflictKeys ← textsOr py raw "conflict_keys"
  let shardIds ← textsOr py raw "shard_ids"
  let package : WorkPackage :=
    { id := stripString (textOf py raw "id" "")
      title := stripString (textOf py raw "title" "")
      dependencies, requirements, acceptanceCriteria, affectedRepositories, kind
      repositorySync, stage
      status := textOf py raw "status"
        (if stage = .completed then "completed" else "pending")
      risk := textOf py raw "risk" "medium"
      priority, complexity
      verificationProfile := textOf py raw "verification_profile" "targeted"
      agentPreferences, skillPreferences
      executionMode := textOf py raw "execution_mode" "standard"
      parentId := textOf py raw "parent_id" ""
      parallelSafe := truthy (raw.get "parallel_safe" (.bool false))
      readScope, writeScope, conflictKeys
      runtime := readRuntime py raw shardIds }
  postInit py package
  rejectWhen (package.id = "" ∨ package.title = "") "work package requires id and title"
  .ok package

/-- The packages that were read, and the messages about the others. -/
def readEntries : Nat → List Json → Reading (List WorkPackage × List String)
  | _, [] => .ok ([], [])
  | index, .object raw :: rest =>
      match readPackage py raw with
      | .ok package => do
          let others ← readEntries (index + 1) rest
          .ok (package :: others.1, others.2)
      | .error (.reported message) => do
          let others ← readEntries (index + 1) rest
          .ok (others.1,
            ("work package " ++ toString index ++ ": " ++ message) :: others.2)
      | .error .escaped => .error .escaped
  | index, _ :: rest => do
      let others ← readEntries (index + 1) rest
      .ok (others.1,
        ("work package " ++ toString index ++ " must be a mapping") :: others.2)

/-- `data.get("work_packages") or data.get("packages") or []`. -/
def packageEntries (data : Row) : Json :=
  if truthy (data.get "work_packages" .null) then data.get "work_packages" .null
  else if truthy (data.get "packages" .null) then data.get "packages" .null
  else .array []

def planGraphFromMapping (data : Row) : Reading (PlanGraph × NormalizationReport) :=
  match packageEntries data with
  | .array entries => do
      let read ← readEntries py 1 entries
      let normalized := normalizeWorkPackages read.1
      .ok (normalized.1,
        { normalized.2 with errors := read.2 ++ normalized.2.errors })
  | _ => .ok ([], { errors := ["work_packages must be a list"] })

end Execraft.Orchestrate
