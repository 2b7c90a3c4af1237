import Execraft.Foundation.Python
import Execraft.Foundation.Outcome
import Mathlib.Data.List.Infix

/-!
# Repository synchronization specs

Which upstream branches a synchronization package merges.
-/

namespace Execraft.RepositorySync

open Foundation Foundation.Json

/-- A computation that may raise an error with a message. -/
abbrev Attempt := Except String

def rejectIf (bad : Prop) [Decidable bad] (message : String) : Attempt Unit :=
  if bad then .error message else .ok ()

@[simp]
theorem rejectIf_eq_ok {bad : Prop} [Decidable bad] {message : String}
    {result : Unit} : rejectIf bad message = .ok result ↔ ¬ bad := by
  unfold rejectIf
  by_cases holds : bad
  · simp [holds]
  · simp [holds]

variable (py : Python)

/-! ## Names -/

/-- A character of `[A-Za-z0-9]`. -/
def isNameStart (character : Char) : Bool :=
  ('A' ≤ character && character ≤ 'Z') || ('a' ≤ character && character ≤ 'z') ||
    ('0' ≤ character && character ≤ '9')

/-- A full match of `[A-Za-z0-9][A-Za-z0-9...]*`. -/
def matchesName (others : List Char) (text : String) : Bool :=
  match text.toList with
  | [] => false
  | head :: tail =>
      isNameStart head && tail.all fun character =>
        isNameStart character || others.contains character

def validateRemoteName (label : String) : Json → Attempt String
  | .string text =>
      if matchesName ['.', '_', '-'] (stripString text) then .ok (stripString text)
      else .error ("invalid " ++ label ++ ": " ++ py.repr text)
  | _ => .error (label ++ " must be a string")

/-- `validate_branch_name`. -/
def validateBranchName (label branch : String) : Attempt String :=
  let value := stripString branch
  if matchesName ['.', '_', '/', '-'] value = false ∨
      ['.', '.'] <:+: value.toList ∨ ['/', '/'] <:+: value.toList ∨
      ['/'] <:+ value.toList ∨ ['.'] <:+ value.toList ∨ ['-'] <+: value.toList then
    .error ("invalid " ++ label ++ ": " ++ py.repr branch)
  else .ok value

/-! ## Targets -/

/-- One repository and the upstream branch to merge from. -/
structure RepositorySyncTarget where
  repositoryId : String
  sourceBranch : String
  remote : String
  deriving DecidableEq, Repr

namespace RepositorySyncTarget

/-- The source branch and the remote that a value declares. -/
def declared (repository defaultRemote : String) : Json → Attempt (String × String)
  | .null => do
      let remote ← validateRemoteName py ("remote for " ++ repository)
        (.string defaultRemote)
      .ok ("", remote)
  | .string text => do
      let remote ← validateRemoteName py ("remote for " ++ repository)
        (.string defaultRemote)
      .ok (stripString text, remote)
  | .object fields =>
      match (lookup "source_branch" fields).getD (.string "") with
      | .string source => do
          let remote ← validateRemoteName py ("remote for " ++ repository)
            ((lookup "remote" fields).getD (.string defaultRemote))
          .ok (stripString source, remote)
      | _ => .error ("source_branch for " ++ py.repr repository ++ " must be a string")
  | _ =>
      .error ("repository sync target " ++ py.repr repository ++
        " must be a string, mapping, or null")

def fromValue (repositoryId : String) (value : Json) (defaultRemote : String) :
    Attempt RepositorySyncTarget := do
  let repository := stripString repositoryId
  rejectIf (repository = "") "repository sync target ID cannot be empty"
  let (sourceBranch, remote) ← declared py repository defaultRemote value
  if sourceBranch = "" then .ok ⟨repository, "", remote⟩
  else
    let _ ← validateBranchName py
      ("repository sync source branch for " ++ repository) sourceBranch
    .ok ⟨repository, sourceBranch, remote⟩

def asMapping (target : RepositorySyncTarget) : List (String × Json) :=
  ("remote", .string target.remote) ::
    if target.sourceBranch = "" then []
    else [("source_branch", .string target.sourceBranch)]

end RepositorySyncTarget

/-! ## Specs -/

structure RepositorySyncSpec where
  targets : List RepositorySyncTarget
  strategy : String
  conflictPolicy : String
  remote : String
  requireIndependentReview : Bool
  deriving DecidableEq, Repr

namespace RepositorySyncSpec

/-- One item of a repository list. -/
def listedTarget (defaultRemote : String) : Json → Attempt RepositorySyncTarget
  | .string repository =>
      RepositorySyncTarget.fromValue py repository .null defaultRemote
  | .object fields =>
      let id := (lookup "id" fields).getD .null
      let repository := (lookup "repository" fields).getD .null
      let chosen := if truthy id then id else if truthy repository then repository
        else .string ""
      RepositorySyncTarget.fromValue py (stripString (py.text chosen)) (.object fields)
        defaultRemote
  | _ =>
      .error "repository_sync repositories list must contain strings or mappings"

def readTargets (defaultRemote : String) : Json → Attempt (List RepositorySyncTarget)
  | .object repositories =>
      repositories.mapM fun repository =>
        RepositorySyncTarget.fromValue py repository.1 repository.2 defaultRemote
  | .array repositories => repositories.mapM (listedTarget py defaultRemote)
  | _ => .error "repository_sync repositories must be a non-empty mapping or list"

/-- No repository is selected twice. -/
def checkTargets : List String → List RepositorySyncTarget → Attempt Unit
  | _, [] => .ok ()
  | seen, target :: rest =>
      if target.repositoryId ∈ seen then
        .error ("duplicate repository_sync target: " ++ target.repositoryId)
      else checkTargets (target.repositoryId :: seen) rest

def fromMapping : Json → Attempt RepositorySyncSpec
  | .object raw => do
      let strategy := py.lowerString (stripString (py.text
        ((lookup "strategy" raw).getD (.string "merge"))))
      rejectIf (strategy ≠ "merge") ("repository_sync strategy must be 'merge'; " ++
        "automatic rebase is intentionally unsupported")
      let conflictPolicy := py.lowerString (stripString (py.text
        ((lookup "conflict_policy" raw).getD (.string "ai_resolve"))))
      rejectIf (conflictPolicy ∉ ["ai_resolve", "human"])
        "repository_sync conflict_policy must be ai_resolve or human"
      let remote ← validateRemoteName py "repository_sync remote"
        ((lookup "remote" raw).getD (.string "origin"))
      match (lookup "require_independent_review" raw).getD (.bool true) with
      | .bool requireIndependentReview => do
          let targets ← readTargets py remote ((lookup "repositories" raw).getD .null)
          rejectIf (targets = [])
            "repository_sync must select at least one repository"
          checkTargets [] targets
          .ok ⟨targets, strategy, conflictPolicy, remote, requireIndependentReview⟩
      | _ =>
          .error "repository_sync require_independent_review must be a boolean"
  | _ => .error "repository_sync must be a mapping"

def repositoryIds (spec : RepositorySyncSpec) : List String :=
  spec.targets.map RepositorySyncTarget.repositoryId

def asMapping (spec : RepositorySyncSpec) : List (String × Json) :=
  [("strategy", .string spec.strategy), ("remote", .string spec.remote),
    ("conflict_policy", .string spec.conflictPolicy),
    ("require_independent_review", .bool spec.requireIndependentReview),
    ("repositories", .object (spec.targets.map fun target =>
      (target.repositoryId, .object target.asMapping)))]

end RepositorySyncSpec

end Execraft.RepositorySync
