import Execraft.Foundation.Text.Lines
import Execraft.Orchestrate.ScopeExpansion

/-!
# Deltas of isolated worktrees

`_apply_parallel_isolated_delta`: the scope of a shard is checked against the names that
the difference prints, and a patch with the same changes is applied.  A renamed file is
printed under its new name only, and unusual names are printed quoted.
-/

namespace Execraft.Orchestrate

open Foundation Foundation.Text

variable {File : Type}

/-! ## Changes -/

/-- The files of a worktree, with their contents and modes. -/
abbrev Worktree (File : Type) := String → Option File

/-- A change as the difference of two trees presents it. -/
inductive FileChange (File : Type) where
  | added (path : String) (file : File)
  | modified (path : String) (file : File)
  | deleted (path : String)
  | renamed (oldPath newPath : String) (file : File)

namespace FileChange

/-- The path that `git diff --name-only` names. -/
def reported : FileChange File → String
  | added path _ => path
  | modified path _ => path
  | deleted path => path
  | renamed _ newPath _ => newPath

/-- The tree with the change of the binary patch. -/
def apply (tree : Worktree File) : FileChange File → Worktree File
  | added path file => Function.update tree path (some file)
  | modified path file => Function.update tree path (some file)
  | deleted path => Function.update tree path none
  | renamed oldPath newPath file =>
      Function.update (Function.update tree oldPath none) newPath (some file)

end FileChange

def applyPatch (changes : List (FileChange File)) (source : Worktree File) :
    Worktree File :=
  changes.foldl FileChange.apply source

/-- The names that the code reads from the printed ones, where `printed` is how git
writes a path. -/
def changedNames (printed : String → String) (changes : List (FileChange File)) :
    List String :=
  let output := changes.flatMap fun change => (printed change.reported).toList ++ ['\n']
  let lines := ((splitlines output).map strip).filter fun line => line ≠ []
  ((lines.map fun line => String.ofList (slashes line)).dedup).insertionSort (· ≤ ·)

/-! ## Application -/

/-- An isolated run of a shard, and the source worktree that its changes go to. -/
structure IsolatedRun (File : Type) where
  readOnly : Bool
  /-- The path of the isolated worktree; empty without one. -/
  isolationPath : String
  repositoryId : String
  /-- Is the source worktree as it was when the shard started? -/
  sourceUnchanged : Bool
  changes : List (FileChange File)
  /-- The directories of the isolated worktree. -/
  isDirectory : String → Bool
  changedLines : String → Nat
  /-- Does the patch apply to the source worktree? -/
  applicable : Bool

structure DeltaOutcome (File : Type) where
  package : WorkPackage
  source : Worktree File
  result : Except OrchestrateError Unit

section Application

variable (py : Python) (policy : ScopePolicy) (printed : String → String)

/-- The validation of the changed names. -/
def IsolatedRun.moment (run : IsolatedRun File) : ValidationMoment where
  isDirectory _ := run.isDirectory
  validation := .isolated run.repositoryId ((changedNames printed run.changes).map
    fun name => ⟨run.repositoryId, name, run.changedLines name⟩)

/-- The names that are still outside of the scope, with their categories. -/
def violationDetail (assessments : List ScopePathAssessment)
    (remaining : List ChangedPath) : String :=
  ", ".intercalate ((remaining.take 20).map fun path =>
    path.relative ++ " [" ++
      (((assessments.find? fun item => item.relativePath = path.relative).map
        ScopePathAssessment.category).getD "") ++ "]")

/-- `_validate_candidate_paths`. -/
def validateCandidatePaths (moment : ValidationMoment) (package : WorkPackage) :
    WorkPackage × Except OrchestrateError Unit :=
  let appended := appendExactScopePaths (requested py policy moment package) package
  match appended.2 with
  | .error error => (appended.1, .error error)
  | .ok _ =>
      let remaining := (violations moment package).filter fun path =>
        outsideScope moment.isDirectory appended.1 path.repositoryId path
      if remaining = [] then (appended.1, .ok ())
      else (appended.1, .error ⟨"parallel shard modified paths outside write_scope: " ++
        violationDetail (scopeAssessments py policy moment package) remaining⟩)

def applyParallelIsolatedDelta (run : IsolatedRun File) (package : WorkPackage)
    (source : Worktree File) : DeltaOutcome File :=
  if run.readOnly = true ∨ run.isolationPath = "" then ⟨package, source, .ok ()⟩
  else if run.sourceUnchanged = false then
    ⟨package, source, .error ⟨"source repository changed while an isolated parallel " ++
      "shard was running: " ++ run.repositoryId⟩⟩
  else
    let validated := validateCandidatePaths py policy (run.moment printed) package
    match validated.2 with
    | .error error => ⟨validated.1, source, .error error⟩
    | .ok _ =>
        if run.changes = [] then ⟨validated.1, source, .ok ()⟩
        else if run.applicable = false then
          ⟨validated.1, source, .error ⟨"git apply failed"⟩⟩
        else ⟨validated.1, applyPatch run.changes source, .ok ()⟩

end Application

/-! ## What the check covers -/

section Checked

variable {py : Python} {policy : ScopePolicy} {printed : String → String}
  {run : IsolatedRun File} {package : WorkPackage}

/-- The scope that a validation of the names leads to authorizes what the earlier one
did, and what the declarations of the admitted names cover. -/
theorem authorized_validated {moment : ValidationMoment}
    (accepted : (validateCandidatePaths py policy moment package).2 = .ok ())
    {isDirectory : String → String → Bool} {repositoryId path : String} :
    Authorized isDirectory (validateCandidatePaths py policy moment package).1.writeScope
        repositoryId path ↔
      Authorized isDirectory package.writeScope repositoryId path ∨
        ∃ approvedId approvedPath,
          Approved (requested py policy moment package) approvedId approvedPath ∧
            EntryCovers isDirectory (exactDeclaration approvedId approvedPath)
              repositoryId path := by
  unfold validateCandidatePaths at accepted ⊢
  dsimp only at accepted ⊢
  cases appended : (appendExactScopePaths (requested py policy moment package)
      package).2 with
  | error failure =>
      rw [appended] at accepted
      cases accepted
  | ok additions =>
      have same : ∀ remaining : List ChangedPath, ∀ failure,
          (if remaining = [] then
            ((appendExactScopePaths (requested py policy moment package) package).1,
              (.ok () : Except OrchestrateError Unit))
          else ((appendExactScopePaths (requested py policy moment package) package).1,
            .error failure)).1 =
            (appendExactScopePaths (requested py policy moment package) package).1 := by
        intro remaining failure
        split_ifs <;> rfl
      dsimp only
      rw [same, authorized_appendExactScopePaths appended]

/-- An accepted name is authorized. -/
theorem authorized_changedName
    (accepted : (validateCandidatePaths py policy (run.moment printed) package).2 = .ok ())
    {name : String} (named : name ∈ changedNames printed run.changes) :
    Authorized (fun _ => run.isDirectory)
      (validateCandidatePaths py policy (run.moment printed) package).1.writeScope
      run.repositoryId name := by
  by_cases before : Authorized (fun _ => run.isDirectory) package.writeScope
      run.repositoryId name
  · exact (authorized_validated accepted).mpr (Or.inl before)
  · have violation : (⟨run.repositoryId, name, run.changedLines name⟩ : ChangedPath) ∈
        violations (run.moment printed) package := by
      unfold violations IsolatedRun.moment
      dsimp only
      rw [List.mem_filter, List.mem_map]
      refine ⟨⟨⟨run.repositoryId, name, run.changedLines name⟩,
        List.mem_map_of_mem named, rfl⟩, ?_⟩
      unfold Authorized at before
      unfold outsideScope
      rw [Bool.eq_false_iff.mpr before]
      rfl
    unfold validateCandidatePaths at accepted ⊢
    dsimp only at accepted ⊢
    cases appended : (appendExactScopePaths
        (requested py policy (run.moment printed) package) package).2 with
    | error failure =>
        rw [appended] at accepted
        cases accepted
    | ok additions =>
        rw [appended] at accepted
        dsimp only at accepted ⊢
        split_ifs at accepted ⊢ with none
        have outside := List.filter_eq_nil_iff.mp none _ violation
        rw [outsideScope, Bool.not_eq_true, Bool.not_eq_false'] at outside
        exact outside

end Checked

/-! ## Which changes stay inside of the scope -/

section Scope

variable (py : Python) (policy : ScopePolicy) (printed : String → String)
  (run : IsolatedRun File) (package : WorkPackage) (source : Worktree File)

/-- Every path that changes in the source worktree is in the scope of the package. -/
def StaysInScope : Prop :=
  let outcome := applyParallelIsolatedDelta py policy printed run package source
  ∀ path, outcome.source path ≠ source path →
    Authorized (fun _ => run.isDirectory) outcome.package.writeScope run.repositoryId path

/-- Every path that the patch changes and that no printed name shows is in the scope, or
covered by the declaration of a printed name that is admitted. -/
def HiddenInScope : Prop :=
  ∀ path, applyPatch run.changes source path ≠ source path →
    (∀ name ∈ changedNames printed run.changes, normalizePath name ≠ normalizePath path) →
    Authorized (fun _ => run.isDirectory) package.writeScope run.repositoryId path ∨
      ∃ approvedId approvedPath,
        Approved (requested py policy (run.moment printed) package) approvedId
            approvedPath ∧
          EntryCovers (fun _ => run.isDirectory) (exactDeclaration approvedId approvedPath)
            run.repositoryId path

end Scope

theorem authorized_normalized {isDirectory : String → String → Bool}
    {writeScope : List String} {repositoryId path other : String}
    (same : normalizePath path = normalizePath other) :
    Authorized isDirectory writeScope repositoryId path ↔
      Authorized isDirectory writeScope repositoryId other := by
  unfold Authorized pathMatchesScope
  rw [same]

/-- An isolated write that is applied stays in scope exactly when the paths do that the
printed names hide. -/
theorem isolatedDelta_inScope_iff (py : Python) (policy : ScopePolicy)
    (printed : String → String) (run : IsolatedRun File) (package : WorkPackage)
    (source : Worktree File)
    (applied : (applyParallelIsolatedDelta py policy printed run package source).result =
      .ok ()) :
    StaysInScope py policy printed run package source ↔
      run.readOnly = true ∨ run.isolationPath = "" ∨
        HiddenInScope py policy printed run package source := by
  unfold StaysInScope HiddenInScope
  unfold applyParallelIsolatedDelta at applied ⊢
  by_cases skipped : run.readOnly = true ∨ run.isolationPath = ""
  · rw [if_pos skipped]
    have done : run.readOnly = true ∨ run.isolationPath = "" ∨
        HiddenInScope py policy printed run package source :=
      skipped.elim Or.inl fun empty => Or.inr (Or.inl empty)
    exact ⟨fun _ => done, fun _ path changed => absurd rfl changed⟩
  rw [if_neg skipped] at applied ⊢
  by_cases moved : run.sourceUnchanged = false
  · rw [if_pos moved] at applied
    cases applied
  rw [if_neg moved] at applied ⊢
  dsimp only at applied ⊢
  cases accepted : (validateCandidatePaths py policy (run.moment printed) package).2 with
  | error failure =>
      rw [accepted] at applied
      cases applied
  | ok result =>
      rw [accepted] at applied
      dsimp only at applied ⊢
      have shown : ∀ path, (∃ name ∈ changedNames printed run.changes,
          normalizePath name = normalizePath path) →
          Authorized (fun _ => run.isDirectory)
            (validateCandidatePaths py policy (run.moment printed) package).1.writeScope
            run.repositoryId path := by
        rintro path ⟨name, named, same⟩
        exact (authorized_normalized same).mp (authorized_changedName accepted named)
      have both : (∀ path, applyPatch run.changes source path ≠ source path →
          Authorized (fun _ => run.isDirectory)
            (validateCandidatePaths py policy (run.moment printed) package).1.writeScope
            run.repositoryId path) ↔
          run.readOnly = true ∨ run.isolationPath = "" ∨
            HiddenInScope py policy printed run package source := by
        constructor
        · intro inScope
          refine Or.inr (Or.inr ?_)
          intro path changed _
          exact (authorized_validated accepted).mp (inScope path changed)
        · intro condition path changed
          rw [not_or] at skipped
          have hidden := (condition.resolve_left skipped.1).resolve_left skipped.2
          by_cases visible : ∃ name ∈ changedNames printed run.changes,
              normalizePath name = normalizePath path
          · exact shown path visible
          · rw [authorized_validated accepted]
            apply hidden path changed
            intro name named same
            exact visible ⟨name, named, same⟩
      by_cases nothing : run.changes = []
      · rw [if_pos nothing]
        rw [nothing] at both
        exact both
      · rw [if_neg nothing] at applied ⊢
        by_cases failed : run.applicable = false
        · rw [if_pos failed] at applied
          cases applied
        · rw [if_neg failed]
          exact both

/-! ## A rename into the scope -/

/-- A shard that may write below `src`. -/
def srcShard : WorkPackage :=
  { id := "shard", title := "Shard", parentId := "parent"
    affectedRepositories := ["core"], writeScope := ["core/src/*"] }

/-- An isolated run with these changes, in a repository without further directories. -/
def isolatedRun (changes : List (FileChange Nat)) : IsolatedRun Nat where
  readOnly := false
  isolationPath := "isolation"
  repositoryId := "core"
  sourceUnchanged := true
  changes
  isDirectory _ := false
  changedLines _ := 1
  applicable := true

/-- A change of a file in scope is applied and stays there. -/
theorem modification_inScope :
    StaysInScope asciiPython { denyPatterns := defaultDenyPatterns } id
      (isolatedRun [.modified "src/app.py" 1]) srcShard (fun _ => none) := by
  apply (isolatedDelta_inScope_iff asciiPython { denyPatterns := defaultDenyPatterns } id
    (isolatedRun [.modified "src/app.py" 1]) srcShard (fun _ => none) (by decide +kernel)).mpr
  refine Or.inr (Or.inr ?_)
  intro path changed hidden
  have named : path = "src/app.py" := by
    by_contra other
    apply changed
    show Function.update (fun _ => none) "src/app.py" (some 1) path = none
    exact Function.update_of_ne other _ _
  rw [named] at hidden
  exact absurd rfl (hidden "src/app.py" (by decide +kernel))

/-- A file renamed into the scope is deleted outside of it. -/
theorem rename_outOfScope :
    (applyParallelIsolatedDelta asciiPython { denyPatterns := defaultDenyPatterns } id
        (isolatedRun [.renamed "secret/keys.py" "src/keys.py" 1]) srcShard
        (fun path => if path = "secret/keys.py" then some 0 else none)).result = .ok () ∧
      ¬ StaysInScope asciiPython { denyPatterns := defaultDenyPatterns } id
        (isolatedRun [.renamed "secret/keys.py" "src/keys.py" 1]) srcShard
        (fun path => if path = "secret/keys.py" then some 0 else none) := by
  refine ⟨by decide +kernel, ?_⟩
  intro inScope
  have authorized := inScope "secret/keys.py" (by decide +kernel)
  exact absurd authorized (by unfold Authorized; decide +kernel)

end Execraft.Orchestrate
