import Execraft.Orchestrate.ScopeExactness

/-!
# Automatic scope expansion over the life of a package

`_auto_expand_declared_write_scope` and `_validate_candidate_paths`: every validation
may add exact paths to the write scope, which the next one reads.  Under which
conditions the expansion stays beside the declared files, off the protected paths and
within the limit.
-/

namespace Execraft.Orchestrate

open Foundation Foundation.Text

/-! ## Validations -/

/-- A changed path with the number of its changed lines. -/
structure ChangedPath where
  repositoryId : String
  relative : String
  changedLines : Nat
  deriving DecidableEq, Repr

inductive Validation where
  /-- The dirty paths of the workspace, against a generated shard. -/
  | workspace (dirty : List ChangedPath)
  /-- The changed paths of an isolated worktree of one repository. -/
  | isolated (repositoryId : String) (changed : List ChangedPath)

/-- A validation, and the directories there are when it happens. -/
structure ValidationMoment where
  isDirectory : String → String → Bool
  validation : Validation

def ChangedPath.qualified (path : ChangedPath) : String :=
  path.repositoryId ++ ":" ++ path.relative

/-- Whether exact generated-shard scope applies to the package. -/
def enforcesDeclaredWriteScope (package : WorkPackage) : Bool :=
  package.parentId ≠ "" && package.writeScope ≠ [] && package.executionMode ≠ "review_shard"

def outsideScope (isDirectory : String → String → Bool) (package : WorkPackage)
    (repositoryId : String) (path : ChangedPath) : Bool :=
  !pathMatchesScope (isDirectory repositoryId) path.relative
    (repositoryScopePatterns repositoryId package.writeScope)

/-- The changed paths outside of the write scope. -/
def violations (moment : ValidationMoment) (package : WorkPackage) : List ChangedPath :=
  match moment.validation with
  | .workspace dirty =>
      if enforcesDeclaredWriteScope package then
        dirty.filter fun path => package.affectedRepositories.contains path.repositoryId &&
          outsideScope moment.isDirectory package path.repositoryId path
      else []
  | .isolated repositoryId changed =>
      (changed.map fun path => { path with repositoryId }).filter
        (outsideScope moment.isDirectory package repositoryId)

section Expansion

variable (py : Python) (policy : ScopePolicy)

/-- The patterns that a classification reads, in normal form. -/
def normalizedPatterns (repositoryId : String) (writeScope : List String) : List String :=
  ((repositoryScopePatterns repositoryId writeScope).filter fun item =>
    stripString item ≠ "").map normalizePath

def assess (package : WorkPackage) (path : ChangedPath) : ScopePathAssessment :=
  classifyScopePath py policy path.qualified
    (repositoryScopePatterns path.repositoryId package.writeScope) path.changedLines

def scopeAssessments (moment : ValidationMoment) (package : WorkPackage) :
    List ScopePathAssessment :=
  (violations moment package).map (assess py policy package)

/-- The safe paths, if they are within the limits of one validation. -/
def admitted (moment : ValidationMoment) (package : WorkPackage) : List ScopePathAssessment :=
  let safe := (scopeAssessments py policy moment package).filter
    ScopePathAssessment.autoExpandable
  if policy.enabled = true ∧ safe.length ≤ policy.maxFiles ∧
      safe.foldl (fun total item => total + item.changedLines) 0 ≤ policy.maxChangedLines then
    safe
  else []

/-- The package behind a validation. -/
def validate (package : WorkPackage) (moment : ValidationMoment) : WorkPackage :=
  (appendExactScopePaths
    ((admitted py policy moment package).map ScopePathAssessment.qualifiedPath)
    package).1

def validateAll (package : WorkPackage) (moments : List ValidationMoment) : WorkPackage :=
  moments.foldl (validate py policy) package

end Expansion

/-! ## What an expansion appends -/

/-- The declarations of qualified paths. -/
def declarations (qualifiedPaths : List String) : List String :=
  qualifiedPaths.filterMap fun qualified =>
    (partitionColon qualified).map fun parts => exactDeclaration parts.1 parts.2

/-- The declarations that a write scope does not hold yet. -/
def newDeclarations (writeScope qualifiedPaths : List String) : List String :=
  ((declarations qualifiedPaths).filter fun raw => raw ∉ writeScope).dedup

/-- New entries, once each, stand behind the old ones. -/
theorem appendExactScopePaths_extends (qualifiedPaths : List String)
    (package : WorkPackage) :
    ∃ added, (appendExactScopePaths qualifiedPaths package).1.writeScope =
        package.writeScope ++ added ∧ added.Nodup ∧
      ∀ raw ∈ added, raw ∈ declarations qualifiedPaths ∧ raw ∉ package.writeScope := by
  induction qualifiedPaths generalizing package with
  | nil => exact ⟨[], by simp [appendExactScopePaths]⟩
  | cons qualified rest inductionHypothesis =>
      have listed : ∀ raw ∈ declarations rest, raw ∈ declarations (qualified :: rest) := by
        intro raw member
        unfold declarations at member ⊢
        rw [List.filterMap_cons]
        split
        · exact member
        · exact List.mem_cons_of_mem _ member
      rw [appendExactScopePaths]
      cases parsed : partitionColon qualified with
      | none => exact ⟨[], by simp⟩
      | some parts =>
          dsimp only
          by_cases foreign : parts.1 ∉ package.affectedRepositories
          · rw [if_pos foreign]
            exact ⟨[], by simp⟩
          rw [if_neg foreign]
          by_cases present : exactDeclaration parts.1 parts.2 ∈ package.writeScope
          · rw [if_pos present]
            obtain ⟨added, shape, distinct, new⟩ := inductionHypothesis package
            exact ⟨added, shape, distinct, fun raw member =>
              ⟨listed raw (new raw member).1, (new raw member).2⟩⟩
          · rw [if_neg present]
            obtain ⟨added, shape, distinct, new⟩ := inductionHypothesis
              { package with
                writeScope := package.writeScope ++ [exactDeclaration parts.1 parts.2] }
            refine ⟨exactDeclaration parts.1 parts.2 :: added, ?_, ?_, ?_⟩
            · rw [shape]
              simp
            · refine List.nodup_cons.mpr ⟨?_, distinct⟩
              intro repeated
              exact (new _ repeated).2 (by simp)
            · intro raw member
              rcases List.mem_cons.mp member with rfl | later
              · refine ⟨?_, present⟩
                simp [declarations, parsed]
              · obtain ⟨declared, fresh⟩ := new raw later
                refine ⟨listed raw declared, fun old => fresh ?_⟩
                exact List.mem_append_left _ old

section Steps

variable {py : Python} {policy : ScopePolicy} {package : WorkPackage} {moment : ValidationMoment}

/-- The paths that a validation asks to append. -/
def requested (py : Python) (policy : ScopePolicy) (moment : ValidationMoment)
    (package : WorkPackage) : List String :=
  (admitted py policy moment package).map ScopePathAssessment.qualifiedPath

theorem validate_extends (py : Python) (policy : ScopePolicy) (moment : ValidationMoment)
    (package : WorkPackage) :
    ∃ added, (validate py policy package moment).writeScope =
        package.writeScope ++ added ∧ added.Nodup ∧
      ∀ raw ∈ added, raw ∈ newDeclarations package.writeScope
        (requested py policy moment package) := by
  obtain ⟨added, shape, distinct, new⟩ := appendExactScopePaths_extends
    (requested py policy moment package) package
  refine ⟨added, shape, distinct, ?_⟩
  intro raw member
  obtain ⟨declared, fresh⟩ := new raw member
  exact List.mem_dedup.mpr (List.mem_filter.mpr ⟨declared, decide_eq_true fresh⟩)

theorem validate_length (py : Python) (policy : ScopePolicy) (moment : ValidationMoment)
    (package : WorkPackage) :
    (validate py policy package moment).writeScope.length ≤ package.writeScope.length +
      (newDeclarations package.writeScope (requested py policy moment package)).length := by
  obtain ⟨added, shape, distinct, new⟩ := validate_extends py policy moment package
  rw [shape, List.length_append]
  have bound := (List.subperm_of_subset distinct new).length_le
  omega

theorem validateAll_left (py : Python) (policy : ScopePolicy) (package : WorkPackage)
    (moments : List ValidationMoment) :
    package.writeScope <+: (validateAll py policy package moments).writeScope := by
  induction moments using List.reverseRecOn with
  | nil => exact List.prefix_refl _
  | append_singleton front last inductionHypothesis =>
      unfold validateAll at inductionHypothesis ⊢
      rw [List.foldl_append, List.foldl_cons, List.foldl_nil]
      obtain ⟨added, shape, _⟩ := validate_extends py policy last
        (front.foldl (validate py policy) package)
      rw [shape]
      exact inductionHypothesis.trans (List.prefix_append _ _)

end Steps

/-! ## Adjacency -/

/-- The path lies in the directory of a file that the scope declares. -/
def LiesBeside (writeScope : List String) (repositoryId relative : String) : Prop :=
  isAdjacentSource relative (normalizedPatterns repositoryId writeScope) = true

theorem mem_normalizedPatterns {repositoryId pattern : String} {writeScope : List String} :
    pattern ∈ normalizedPatterns repositoryId writeScope ↔
      ∃ raw ∈ writeScope, ∃ item, scopePattern repositoryId raw = some item ∧ item ≠ "" ∧
        stripString item ≠ "" ∧ pattern = normalizePath item := by
  unfold normalizedPatterns
  rw [List.mem_map]
  constructor
  · rintro ⟨item, member, rfl⟩
    obtain ⟨listed, visible⟩ := List.mem_filter.mp member
    obtain ⟨nonempty, raw, inScope, declared⟩ := mem_repositoryScopePatterns.mp listed
    exact ⟨raw, inScope, item, declared, nonempty, of_decide_eq_true visible, rfl⟩
  · rintro ⟨raw, inScope, item, declared, nonempty, visible, rfl⟩
    refine ⟨item, List.mem_filter.mpr ⟨?_, decide_eq_true visible⟩, rfl⟩
    exact mem_repositoryScopePatterns.mpr ⟨nonempty, raw, inScope, declared⟩

/-- A path beside two scopes together is beside one of them. -/
theorem liesBeside_append {first second : List String} {repositoryId relative : String} :
    LiesBeside (first ++ second) repositoryId relative ↔
      LiesBeside first repositoryId relative ∨ LiesBeside second repositoryId relative := by
  unfold LiesBeside isAdjacentSource
  simp only [List.any_eq_true]
  constructor
  · rintro ⟨pattern, listed, adjacent⟩
    obtain ⟨raw, member, rest⟩ := mem_normalizedPatterns.mp listed
    rcases List.mem_append.mp member with inFirst | inSecond
    · exact Or.inl ⟨pattern, mem_normalizedPatterns.mpr ⟨raw, inFirst, rest⟩, adjacent⟩
    · exact Or.inr ⟨pattern, mem_normalizedPatterns.mpr ⟨raw, inSecond, rest⟩, adjacent⟩
  · rintro (⟨pattern, listed, adjacent⟩ | ⟨pattern, listed, adjacent⟩)
    · obtain ⟨raw, member, rest⟩ := mem_normalizedPatterns.mp listed
      exact ⟨pattern, mem_normalizedPatterns.mpr
        ⟨raw, List.mem_append_left _ member, rest⟩, adjacent⟩
    · obtain ⟨raw, member, rest⟩ := mem_normalizedPatterns.mp listed
      exact ⟨pattern, mem_normalizedPatterns.mpr
        ⟨raw, List.mem_append_right _ member, rest⟩, adjacent⟩

/-- A path classified as adjacent source lies beside a file of the scope. -/
theorem adjacent_liesBeside {py : Python} {policy : ScopePolicy} {package : WorkPackage}
    {path : ChangedPath}
    (adjacent : (assess py policy package path).category = "adjacent_source") :
    LiesBeside package.writeScope path.repositoryId
      (assess py policy package path).relativePath := by
  unfold assess classifyScopePath at adjacent ⊢
  dsimp only at adjacent ⊢
  split at adjacent
  · exact absurd adjacent (by dsimp only; decide)
  · rename_i notDenied
    split at adjacent
    · rename_i category reason safe
      dsimp only at adjacent
      subst adjacent
      unfold safeCategory at safe
      split_ifs at safe with documentation test metadata beside
      · simp at safe
      · simp at safe
      · simp at safe
      · exact (Bool.and_eq_true _ _ ▸ beside).2
    · exact absurd adjacent (by dsimp only; decide)

/-! ## Runs of validations -/

section Runs

variable {py : Python} {policy : ScopePolicy}

/-- The validation adds the path, which no entry declares yet, to the write scope. -/
def Adds (py : Python) (policy : ScopePolicy) (package : WorkPackage) (moment : ValidationMoment)
    (path : ChangedPath) : Prop :=
  path ∈ violations moment package ∧
    assess py policy package path ∈ admitted py policy moment package ∧
      ∃ raw ∈ declarations [path.qualified], raw ∉ package.writeScope

/-- While these validations happen, adjacent source lies beside the files that `package`
declares, no protected path becomes authorized, and not more paths are added than the
limit allows. -/
structure Bounded (py : Python) (policy : ScopePolicy) (package : WorkPackage)
    (moments : List ValidationMoment) : Prop where
  beside : ∀ front moment back, moments = front ++ moment :: back →
    ∀ path, Adds py policy (validateAll py policy package front) moment path →
      (assess py policy (validateAll py policy package front) path).category =
          "adjacent_source" →
        LiesBeside package.writeScope path.repositoryId
          (assess py policy (validateAll py policy package front) path).relativePath
  unprotected : ∀ front moment back, moments = front ++ moment :: back →
    ∀ repositoryId path, deniedBy policy (normalizePath path) ≠ none →
      Authorized moment.isDirectory
        (validateAll py policy package (front ++ [moment])).writeScope repositoryId path →
      Authorized moment.isDirectory package.writeScope repositoryId path
  total : (validateAll py policy package moments).writeScope.length ≤
    package.writeScope.length + policy.maxFiles

/-- What a validation behind others may meet: the acquired paths and the new ones are
within the limit and cover no protected path, and no new path lies beside acquired
files alone. -/
structure Meets (py : Python) (policy : ScopePolicy) (declared current : WorkPackage)
    (moment : ValidationMoment) : Prop where
  room : current.writeScope.length +
      (newDeclarations current.writeScope
        (requested py policy moment current)).length ≤
    declared.writeScope.length + policy.maxFiles
  beside : ∀ path, Adds py policy current moment path →
    (assess py policy current path).category = "adjacent_source" →
      LiesBeside (current.writeScope.drop declared.writeScope.length) path.repositoryId
          (assess py policy current path).relativePath →
        LiesBeside declared.writeScope path.repositoryId
          (assess py policy current path).relativePath
  unprotected : ∀ raw, raw ∈ current.writeScope.drop declared.writeScope.length ∨
      raw ∈ newDeclarations current.writeScope (requested py policy moment current) →
    ∀ repositoryId path, deniedBy policy (normalizePath path) ≠ none →
      EntryCovers moment.isDirectory raw repositoryId path →
        Authorized moment.isDirectory declared.writeScope repositoryId path

/-- The declared entries stand in front of the acquired ones. -/
theorem writeScope_split {declared current : WorkPackage}
    (extending : declared.writeScope <+: current.writeScope) :
    declared.writeScope ++ current.writeScope.drop declared.writeScope.length =
      current.writeScope := by
  obtain ⟨acquired, shape⟩ := extending
  rw [← shape, List.drop_left]

theorem Meets.authorized {declared current : WorkPackage} {moment : ValidationMoment}
    (meets : Meets py policy declared current moment)
    (extending : declared.writeScope <+: current.writeScope) {repositoryId path : String}
    (denied : deniedBy policy (normalizePath path) ≠ none)
    (authorized : Authorized moment.isDirectory
      (validate py policy current moment).writeScope repositoryId path) :
    Authorized moment.isDirectory declared.writeScope repositoryId path := by
  obtain ⟨raw, member, covers⟩ := authorized_iff.mp authorized
  obtain ⟨added, shape, _, new⟩ := validate_extends py policy moment current
  rw [shape, ← writeScope_split extending] at member
  rcases List.mem_append.mp member with old | fresh
  · rcases List.mem_append.mp old with planned | acquired
    · exact authorized_iff.mpr ⟨raw, planned, covers⟩
    · exact meets.unprotected raw (Or.inl acquired) repositoryId path denied covers
  · exact meets.unprotected raw (Or.inr (new raw fresh)) repositoryId path denied covers

theorem Meets.liesBeside {declared current : WorkPackage} {moment : ValidationMoment}
    (meets : Meets py policy declared current moment)
    (extending : declared.writeScope <+: current.writeScope) {path : ChangedPath}
    (adds : Adds py policy current moment path)
    (adjacent : (assess py policy current path).category = "adjacent_source") :
    LiesBeside declared.writeScope path.repositoryId
      (assess py policy current path).relativePath := by
  have beside := adjacent_liesBeside adjacent
  rw [← writeScope_split extending, liesBeside_append] at beside
  rcases beside with planned | acquired
  · exact planned
  · exact meets.beside path adds adjacent acquired

/-- `_DEFAULT_DENY_PATTERNS`. -/
def defaultDenyPatterns : List String :=
  [".github/**", "**/.github/**", "PLAN.md", "BRIEF.md", "TASK.yaml", "**/PLAN.md",
    "**/BRIEF.md", "**/TASK.yaml", "pyproject.toml", "**/pyproject.toml",
    "package-lock.json", "**/package-lock.json", "Cargo.lock", "**/Cargo.lock",
    "**/security/**"]

/-- A generated shard that declares one source file. -/
def sourceShard : WorkPackage :=
  { id := "shard", title := "Shard", parentId := "parent"
    affectedRepositories := ["core"], writeScope := ["core/src/app.py"] }

/-- A validation of one changed file, in a repository whose paths are all files. -/
def changedFile (relative : String) (changedLines : Nat) : ValidationMoment :=
  ⟨fun _ _ => false, .workspace [⟨"core", relative, changedLines⟩]⟩

end Runs

end Execraft.Orchestrate
