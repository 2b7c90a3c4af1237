import Execraft.ProjectExecution.RuntimeState
import Execraft.RepositorySync.Worktrees

/-!
# Synchronization requests from work package cards

What an operator asks for at the boundary of a work package, read from the parameters
of a directive.
-/

namespace Execraft.RepositorySync

open Foundation Foundation.Json ProjectExecution

/-! ## Selected repositories -/

/-- The repository that a manifest has under an identity; the last one counts. -/
def TaskManifest.repository? (manifest : TaskManifest) (repositoryId : String) :
    Option RepositorySpec :=
  manifest.repositories.reverse.find? fun repository => repository.id = repositoryId

def TaskManifest.taskOwned (manifest : TaskManifest) (repositoryId : String) : Bool :=
  match manifest.repository? repositoryId with
  | some repository => repository.mutability = "task_owned"
  | none => false

/-- The texts without surrounding blanks, the empty ones and repetitions left out. -/
def distinctNames : List String → List String → List String
  | _, [] => []
  | seen, text :: rest =>
      let name := stripString text
      if name = "" ∨ name ∈ seen then
        distinctNames seen rest
      else
        name :: distinctNames (name :: seen) rest

def validateSyncRepositorySelection (manifest : TaskManifest) (repositories : List String) :
    Attempt (List String) := do
  let selected := distinctNames [] repositories
  rejectIf (selected = []) "at least one repository must be selected for synchronization"
  let unknown := selected.filter fun repositoryId =>
    (manifest.repository? repositoryId).isNone
  rejectIf (unknown ≠ [])
    ("repository synchronization references repositories outside TASK.yaml: " ++
      String.intercalate ", " unknown)
  let immutable := selected.filter fun repositoryId => !manifest.taskOwned repositoryId
  rejectIf (immutable ≠ [])
    ("repository synchronization may select only task_owned repositories: " ++
      String.intercalate ", " immutable)
  return selected

/-! ## Requests -/

structure RepositorySyncCardRequest where
  packageId : String
  mode : String
  repositories : List String
  sourceBranches : List (String × String)
  remote : String
  conflictPolicy : String
  syncPackageId : String
  autoResume : Bool
  deriving DecidableEq, Repr

namespace RepositorySyncCardRequest

variable (py : Python)

def allowedModes : List String := ["before", "after"]

/-- The source branches by repository, both without surrounding blanks. -/
def overridesOf (sourceBranches : List (String × String)) : List (String × String) :=
  sourceBranches.foldl (fun overrides entry =>
    if stripString entry.1 = "" then overrides
    else setEntry (stripString entry.1) (stripString entry.2) overrides) []

/-- `text.strip() or fallback`. -/
def strippedOr (text fallback : String) : String :=
  if stripString text = "" then fallback else stripString text

/-- The declaration that the parser of synchronization specs checks. -/
def declaration (selected : List String) (overrides : List (String × String))
    (remote conflictPolicy : String) : Json :=
  .object
    [("strategy", .string "merge"),
      ("remote", .string (strippedOr remote "origin")),
      ("conflict_policy", .string (strippedOr conflictPolicy "ai_resolve")),
      ("repositories", .object (selected.map fun repositoryId =>
        (repositoryId,
          match getEntry repositoryId overrides with
          | some branch =>
              if branch = "" then .object []
              else .object [("source_branch", .string branch)]
          | none => .object [])))]

def create (manifest : TaskManifest) (packageId mode : String) (repositories : List String)
    (sourceBranches : List (String × String))
    (remote conflictPolicy syncPackageId : String) (autoResume : Bool) :
    Attempt RepositorySyncCardRequest := do
  let package := stripString packageId
  let normalizedMode := py.lowerString (stripString mode)
  rejectIf (package = "") "package_id is required"
  rejectIf (normalizedMode ∉ allowedModes)
    "repository-sync card mode must be 'before' or 'after'"
  let selected ← validateSyncRepositorySelection manifest repositories
  let overrides := overridesOf sourceBranches
  let unknown := ((overrides.map Prod.fst).filter fun repositoryId =>
    repositoryId ∉ selected).insertionSort (· ≤ ·)
  rejectIf (unknown ≠ [])
    ("source branch overrides reference unselected repositories: " ++
      String.intercalate ", " unknown)
  let spec ← RepositorySyncSpec.fromMapping py
    (declaration selected overrides remote conflictPolicy)
  return {
    packageId := package
    mode := normalizedMode
    repositories := selected
    sourceBranches := (spec.targets.filter fun target => target.sourceBranch ≠ "").map
      fun target => (target.repositoryId, target.sourceBranch)
    remote := spec.remote
    conflictPolicy := spec.conflictPolicy
    syncPackageId := stripString syncPackageId
    autoResume := autoResume }

/-- A value that has to be a list of texts. -/
def textsOf : Json → Attempt (List String)
  | .array elements => elements.mapM fun element =>
      match element with
      | .string text => .ok text
      | _ => .error "repository-sync directive repositories must be a list of strings"
  | _ => .error "repository-sync directive repositories must be a list of strings"

/-- A value that has to map texts to texts. -/
def branchesOf : Json → Attempt (List (String × String))
  | .object fields => fields.mapM fun field =>
      match field.2 with
      | .string text => .ok (field.1, text)
      | _ =>
          .error "repository-sync directive source_branches must map strings to strings"
  | _ => .error "repository-sync directive source_branches must map strings to strings"

def fromParameters (manifest : TaskManifest) (parameters : ProjectExecution.Row)
    (packageId : String) : Attempt RepositorySyncCardRequest := do
  let repositories ← textsOf (parameters.get "repositories" (.array []))
  let sourceBranches ← branchesOf (parameters.get "source_branches" (.object []))
  match parameters.get "auto_resume" (.bool true) with
  | .bool autoResume =>
      create py manifest packageId
        (py.text (parameters.get "mode" (.string "before")))
        repositories sourceBranches
        (py.text (parameters.get "remote" (.string "origin")))
        (py.text (parameters.get "conflict_policy" (.string "ai_resolve")))
        (py.text (parameters.get "sync_package_id" (.string "")))
        autoResume
  | _ => .error "repository-sync directive auto_resume must be a boolean"

def asParameters (request : RepositorySyncCardRequest) : ProjectExecution.Row :=
  [("mode", .string request.mode),
    ("repositories", .array (request.repositories.map .string)),
    ("source_branches", .object (request.sourceBranches.map fun branch =>
      (branch.1, .string branch.2))),
    ("remote", .string request.remote),
    ("conflict_policy", .string request.conflictPolicy),
    ("sync_package_id", .string request.syncPackageId),
    ("auto_resume", .bool request.autoResume)]

/-- An accepted request is for one of the two sides of its package. -/
theorem mode_of_create {manifest : TaskManifest} {packageId mode : String}
    {repositories : List String} {sourceBranches : List (String × String)}
    {remote conflictPolicy syncPackageId : String} {autoResume : Bool}
    {request : RepositorySyncCardRequest}
    (created : create py manifest packageId mode repositories sourceBranches remote
      conflictPolicy syncPackageId autoResume = .ok request) :
    request.mode = "before" ∨ request.mode = "after" := by
  unfold create at created
  dsimp only at created
  rw [unit_bind_eq_ok] at created
  have checked := created.2
  rw [unit_bind_eq_ok, rejectIf_eq_ok, not_not] at checked
  obtain ⟨allowed, rest⟩ := checked
  rw [bind_eq_ok] at rest
  obtain ⟨selected, _, rest⟩ := rest
  rw [unit_bind_eq_ok] at rest
  have parsed := rest.2
  rw [bind_eq_ok] at parsed
  obtain ⟨spec, _, result⟩ := parsed
  have shape := Except.ok.inj result
  rw [← shape]
  simpa [allowedModes] using allowed

theorem mode_of_fromParameters {manifest : TaskManifest}
    {parameters : ProjectExecution.Row} {packageId : String}
    {request : RepositorySyncCardRequest}
    (read : fromParameters py manifest parameters packageId = .ok request) :
    request.mode = "before" ∨ request.mode = "after" := by
  unfold fromParameters at read
  rw [bind_eq_ok] at read
  obtain ⟨repositories, _, rest⟩ := read
  rw [bind_eq_ok] at rest
  obtain ⟨sourceBranches, _, created⟩ := rest
  cases resumption : parameters.get "auto_resume" (.bool true) with
  | bool autoResume =>
      rw [resumption] at created
      exact mode_of_create py created
  | null => simp [resumption] at created
  | int number => simp [resumption] at created
  | float text => simp [resumption] at created
  | nonFinite kind => simp [resumption] at created
  | string text => simp [resumption] at created
  | array elements => simp [resumption] at created
  | object fields => simp [resumption] at created

end RepositorySyncCardRequest

end Execraft.RepositorySync
