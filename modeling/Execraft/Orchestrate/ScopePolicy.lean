import Execraft.Foundation.Python
import Execraft.Foundation.Text.Glob
import Execraft.Foundation.Text.PosixPath
import Execraft.Orchestrate.StateRecord

/-!
# Write scopes

`scope_policy`: which paths a declared write scope covers, and which changed paths
outside of it are safe to add to it.
-/

namespace Execraft.Orchestrate

open Foundation Foundation.Text

/-! ## Paths -/

/-- `value` without leading `./`. -/
def dropCurrent : List Char → List Char
  | '.' :: '/' :: rest => dropCurrent rest
  | text => text

/-- Forward slashes for backslashes. -/
def slashes (text : List Char) : List Char :=
  text.map fun character => if character = '\\' then '/' else character

/-- `_normalize_path`. -/
def normalizePath (value : String) : String :=
  String.ofList ((dropCurrent (slashes (strip value.toList))).dropWhile (· = '/'))

/-- `_contains_glob`. -/
def containsGlob (value : String) : Bool :=
  value.toList.any isGlobMeta

/-- The text without its trailing characters of this kind. -/
def rstripOf (kind : Char → Bool) (text : String) : List Char :=
  (text.toList.reverse.dropWhile kind).reverse

/-- The text in front of the first colon and the one behind it. -/
def partitionColon (text : String) : Option (String × String) :=
  match text.toList.dropWhile (· ≠ ':') with
  | ':' :: rest =>
      some (String.ofList (text.toList.takeWhile (· ≠ ':')), String.ofList rest)
  | _ => none

/-! ## Matching -/

/-- What one entry of a write scope declares in a repository. -/
def scopePattern (repositoryId raw : String) : Option String :=
  let front := rstripOf (· = '/') repositoryId ++ ['/']
  let pattern := normalizePath (stripString raw)
  if front <+: pattern.toList then
    some (String.ofList (pattern.toList.drop front.length))
  else
    match partitionColon pattern with
    | some (declaredRepository, remainder) =>
        if declaredRepository = repositoryId then some remainder else none
    | none => some pattern

def repositoryScopePatterns (repositoryId : String) (writeScope : List String) :
    List String :=
  writeScope.foldl (fun patterns raw =>
    match scopePattern repositoryId raw with
    | some pattern =>
        if pattern = "" ∨ pattern ∈ patterns then patterns else patterns ++ [pattern]
    | none => patterns) []

/-- Whether a pattern, which names a directory, covers what is below it. -/
def directoryDeclared (isDirectory : String → Bool) (rawPattern pattern : String) : Bool :=
  (slashes (rstripOf isSpace rawPattern)).getLast? = some '/' || isDirectory pattern

/-- One pattern of `path_matches_scope`, for a path in normal form.  `isDirectory`
answers for the repository; without one it is constantly false. -/
def patternCovers (isDirectory : String → Bool) (relative rawPattern : String) : Bool :=
  let pattern := normalizePath rawPattern
  if pattern = "" then false
  else if containsGlob pattern then fnmatchcase relative pattern
  else
    relative = pattern ||
      (directoryDeclared isDirectory rawPattern pattern &&
        (rstripOf (· = '/') pattern ++ ['/']).isPrefixOf relative.toList)

def pathMatchesScope (isDirectory : String → Bool) (relativePath : String)
    (patterns : List String) : Bool :=
  patterns.any (patternCovers isDirectory (normalizePath relativePath))

/-! ## Classification -/

/-- Bounded policy for automatic exact-path scope expansion. -/
structure ScopePolicy where
  enabled : Bool := true
  maxFiles : Nat := 8
  maxChangedLines : Nat := 800
  allowTests : Bool := true
  allowVerificationDocs : Bool := true
  allowPackageMetadata : Bool := true
  allowAdjacentSource : Bool := true
  denyPatterns : List String

structure ScopePathAssessment where
  qualifiedPath : String
  repositoryId : String
  relativePath : String
  category : String
  autoExpandable : Bool
  reason : String
  changedLines : Nat
  deriving DecidableEq, Repr

/-- `_is_adjacent_source`. -/
def isAdjacentSource (relativePath : String) (patterns : List String) : Bool :=
  patterns.any fun pattern =>
    let declared := rstripOf (· = '/') pattern
    pattern ≠ "" && !containsGlob pattern && pathSuffix declared ≠ [] &&
      pathParent declared = pathParent relativePath.toList

section Classification

variable (py : Python) (policy : ScopePolicy)

/-- The first deny pattern that the path matches. -/
def deniedBy (relative : String) : Option String :=
  policy.denyPatterns.find? fun pattern => fnmatchcase relative pattern

def lowerChars (text : List Char) : String :=
  py.lowerString (String.ofList text)

/-- Test or test-support path. -/
def isTestPath (relative : String) : Bool :=
  let filename := lowerChars py (pathName relative.toList)
  ((pathParts relative.toList).map (lowerChars py)).contains "tests" ||
    "test_".toList.isPrefixOf filename.toList ||
    "_test.py".toList.isSuffixOf filename.toList ||
    ["conftest.py", "pytest.ini"].contains filename

def isVerificationDoc (relative : String) : Bool :=
  match (pathParts relative.toList).map (lowerChars py) with
  | first :: second :: _ => first = "docs" && second = "verification"
  | _ => false

def isPackageMetadata (relative : String) : Bool :=
  ["__init__.py", "__init__.pyi", "py.typed"].contains
    (lowerChars py (pathName relative.toList))

/-- The category and the reason that make a path safe. -/
def safeCategory (relative : String) (patterns : List String) :
    Option (String × String) :=
  if policy.allowVerificationDocs && isVerificationDoc py relative then
    some ("verification_docs", "durable verification evidence")
  else if policy.allowTests && isTestPath py relative then
    some ("tests", "test or test-support path")
  else if policy.allowPackageMetadata && isPackageMetadata py relative then
    some ("package_metadata", "package registration metadata")
  else if policy.allowAdjacentSource && isAdjacentSource relative patterns then
    some ("adjacent_source", "same source directory as an explicitly declared file")
  else none

def classifyScopePath (qualifiedPath : String) (patterns : List String)
    (changedLines : Nat) : ScopePathAssessment :=
  let parts := (partitionColon qualifiedPath).getD ("", qualifiedPath)
  let relative := normalizePath parts.2
  let normalized := (patterns.filter fun item => stripString item ≠ "").map normalizePath
  match deniedBy policy relative with
  | some pattern =>
      ⟨qualifiedPath, parts.1, relative, "protected", false,
        "matches protected pattern " ++ py.repr pattern, changedLines⟩
  | none =>
      match safeCategory py policy relative normalized with
      | some (category, reason) =>
          ⟨qualifiedPath, parts.1, relative, category, true, reason, changedLines⟩
      | none =>
          ⟨qualifiedPath, parts.1, relative, "cross_boundary", false,
            "outside safe supporting and adjacent-source categories", changedLines⟩

end Classification

/-! ## Expansion -/

/-- The declaration of one repository-qualified path. -/
def exactDeclaration (repositoryId relative : String) : String :=
  repositoryId ++ "/" ++ relative

/-- The package with the exact paths added to its write scope, and the additions; what
was added before an error stays. -/
def appendExactScopePaths :
    List String → WorkPackage → WorkPackage × Except OrchestrateError (List String)
  | [], package => (package, .ok [])
  | qualified :: rest, package =>
      match partitionColon qualified with
      | none =>
          (package,
            .error ⟨"cannot approve path outside affected repositories: " ++ qualified⟩)
      | some parts =>
          if parts.1 ∉ package.affectedRepositories then
            (package,
              .error ⟨"cannot approve path outside affected repositories: " ++ qualified⟩)
          else
            let declared := exactDeclaration parts.1 parts.2
            if declared ∈ package.writeScope then appendExactScopePaths rest package
            else
              let expanded := appendExactScopePaths rest
                { package with writeScope := package.writeScope ++ [declared] }
              (expanded.1, expanded.2.map (declared :: ·))

/-- The package with the repositories of the recovered paths, and the new ones. -/
def acquireRepositories (repositories : List String) :
    List String → WorkPackage → WorkPackage × Except OrchestrateError (List String)
  | [], package => (package, .ok [])
  | qualified :: rest, package =>
      match partitionColon qualified with
      | none =>
          (package, .error ⟨"cannot recover path from an unknown repository: " ++ qualified⟩)
      | some parts =>
          if parts.1 ∉ repositories then
            (package,
              .error ⟨"cannot recover path from an unknown repository: " ++ qualified⟩)
          else if parts.1 ∈ package.affectedRepositories then
            acquireRepositories repositories rest package
          else
            let acquired := acquireRepositories repositories rest
              { package with
                affectedRepositories := package.affectedRepositories ++ [parts.1] }
            (acquired.1, acquired.2.map (parts.1 :: ·))

/-- `append_recovered_scope_paths`: the added paths and the added repositories. -/
def appendRecoveredScopePaths (repositories qualifiedPaths : List String)
    (package : WorkPackage) :
    WorkPackage × Except OrchestrateError (List String × List String) :=
  let acquired := acquireRepositories repositories qualifiedPaths package
  match acquired.2 with
  | .error error => (acquired.1, .error error)
  | .ok addedRepositories =>
      let expanded := appendExactScopePaths qualifiedPaths acquired.1
      match expanded.2 with
      | .error error => (expanded.1, .error error)
      | .ok addedPaths =>
          (if addedRepositories = [] then expanded.1
            else { expanded.1 with parallelSafe := false },
            .ok (addedPaths, addedRepositories))

end Execraft.Orchestrate
