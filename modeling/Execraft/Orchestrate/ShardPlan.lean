import Execraft.Foundation.Graph.DepthFirst
import Execraft.Orchestrate.Decomposition

/-!
# Checking the plan of a decomposition

`validate_decomposition_payload`: what a planner proposes becomes shards when it covers
the package, stays inside of it and has no cycle.
-/

namespace Execraft.Orchestrate.Sharding

open Foundation Foundation.Json Foundation.Text Foundation.Graph

structure DecompositionPolicy where
  maximumShardComplexity : Int := 55
  maximumShards : Int := 8

/-- The interpreter, with the digest of a plan's canonical text. -/
structure ShardInterpreter extends Python where
  planHash : String → String → String → List WorkPackage → String

/-- Fail with a message when something is wrong. -/
def refuse (wrong : Prop) [Decidable wrong] (message : String) : Except String Unit :=
  if wrong then .error message else .ok ()

def sortedTexts (texts : List String) : List String :=
  texts.insertionSort (· ≤ ·)

def sortedNumbers (numbers : List Int) : List Int :=
  numbers.insertionSort (· ≤ ·)

/-- `repr` of a list of integers. -/
def reprNumbers (numbers : List Int) : String :=
  "[" ++ ", ".intercalate (numbers.map toString) ++ "]"

/-! ## Members -/

section Members

variable (py : ShardInterpreter)

/-- `repr` of a list of texts. -/
def reprTexts (texts : List String) : String :=
  "[" ++ ", ".intercalate (texts.map py.repr) ++ "]"

/-- `str(raw.get(name, "")).strip()`. -/
def strippedText (raw : Row) (name : String) : String :=
  stripString (py.text (raw.get name (.string "")))

/-- `_SHARD_ID.fullmatch`. -/
def isShardId (text : String) : Bool :=
  match text.toList with
  | [] => false
  | head :: rest =>
      head.isAlphanum ∧ rest.length ≤ 47 ∧
        rest.all fun character => character.isAlphanum ∨ character = '_' ∨ character = '-'

/-- `_string_list`. -/
def stringList : Json → Except String (List String)
  | .null => .ok []
  | .array elements =>
      .ok ((elements.map fun element => stripString (py.text element)).filter (· ≠ ""))
  | _ => .error "expected a list"

/-- An absolute path, or one that leaves its directory. -/
def isOutside (scope : String) : Bool :=
  let normalized := scope.toList.map fun character =>
    if character = '\\' then '/' else character
  normalized.head? = some '/' ∨ ['.', '.'] ∈ normalized.splitOn '/'

/-- `_scope_list`. -/
def scopeList (value : Json) (label : String) : Except String (List String) := do
  let scopes ← stringList py value
  match scopes.find? isOutside with
  | some scope => .error (label ++
      " entries must be relative and cannot traverse parents: " ++ py.repr scope)
  | none => .ok scopes

/-- One element of a set of integers. -/
def integerElement (label : String) : Json → Except String Int
  | .bool _ => .error (label ++ " must contain integers")
  | element =>
      match py.toInt element with
      | some number => .ok number
      | none => .error (label ++ " must contain integers")

/-- `_integer_set`. -/
def integerSet (value : Json) (label : String) : Except String (List Int) :=
  match value with
  | .null => .ok []
  | .array elements => do
      let numbers ← elements.mapM (integerElement py label)
      return numbers.eraseDups
  | _ => .error (label ++ " must be a list")

end Members

/-! ## Shards -/

/-- A shard of the payload after its checks. -/
structure ShardItem where
  id : String
  title : String
  complexity : Int
  repositories : List String
  requirementIndexes : List Int
  criterionIds : List String
  findingIndexes : List Int
  dependsOn : List String
  readScope : List String
  writeScope : List String
  conflictKeys : List String
  parallelSafe : Bool

/-- The indexes that do not name one of some items, counted from one. -/
def invalidIndexes (indexes : List Int) (count : Nat) : List Int :=
  sortedNumbers (indexes.filter fun index => index < 1 ∨ (count : Int) < index)

section Shards

variable (py : ShardInterpreter) (policy : DecompositionPolicy) (parent : WorkPackage)

/-- `int(raw.get("complexity", 0))` within its bounds. -/
def readComplexity (id : String) (raw : Row) : Except String Int :=
  match py.toInt (raw.get "complexity" (.int 0)) with
  | none => .error ("shard " ++ id ++ " complexity must be an integer")
  | some complexity =>
      if 1 ≤ complexity ∧ complexity ≤ policy.maximumShardComplexity then .ok complexity
      else .error ("shard " ++ id ++ " complexity " ++ toString complexity ++
        " exceeds allowed 1.." ++ toString policy.maximumShardComplexity)

/-- The repositories of a shard: some of the package's. -/
def readRepositories (id : String) (raw : Row) : Except String (List String) := do
  let repositories ← stringList py (raw.get "affected_repositories" .null)
  refuse (repositories = []) ("shard " ++ id ++ " requires affected_repositories")
  let unknown := (repositories.filter (· ∉ parent.affectedRepositories)).eraseDups
  refuse (unknown ≠ []) ("shard " ++ id ++ " references repositories outside the parent: " ++
    ", ".intercalate (sortedTexts unknown))
  return repositories

/-- Indexes of some items of the package. -/
def readIndexes (id name kind : String) (count : Nat) (raw : Row) :
    Except String (List Int) := do
  let indexes ← integerSet py (raw.get name .null) name
  let invalid := invalidIndexes indexes count
  refuse (invalid ≠ []) ("shard " ++ id ++ " has invalid " ++ kind ++ " indexes: " ++
    reprNumbers invalid)
  return indexes

def readCriterionIds (id : String) (raw : Row) : Except String (List String) := do
  let listed ← stringList py (raw.get "acceptance_criterion_ids" .null)
  let criterionIds := listed.eraseDups
  let invalid := sortedTexts (criterionIds.filter
    (· ∉ parent.acceptanceCriteria.map AcceptanceCriterion.id))
  refuse (invalid ≠ []) ("shard " ++ id ++ " has unknown acceptance criteria: " ++
    reprTexts py invalid)
  return criterionIds

/-- One shard of the payload; `seen` are the identities in front of it. -/
def readShard (index : Nat) (seen : List String) (raw : Row) : Except String ShardItem := do
  let id := strippedText py raw "id"
  refuse (isShardId id = false) ("shard " ++ toString index ++
    " id must match '^[a-zA-Z0-9][a-zA-Z0-9_-]\x7b0,47\x7d$'")
  refuse (id ∈ seen) ("duplicate shard id: " ++ id)
  let title := strippedText py raw "title"
  refuse (title = "") ("shard " ++ id ++ " requires a title")
  let complexity ← readComplexity py policy id raw
  let repositories ← readRepositories py parent id raw
  let requirementIndexes ← readIndexes py id "requirement_indexes" "requirement"
    parent.requirements.length raw
  let criterionIds ← readCriterionIds py parent id raw
  let findingIndexes ← readIndexes py id "finding_indexes" "finding"
    parent.runtime.reviewFindings.length raw
  let dependsOn ← stringList py (raw.get "depends_on" .null)
  let readScope ← scopeList py (raw.get "read_scope" .null) "read_scope"
  let writeScope ← scopeList py (raw.get "write_scope" .null) "write_scope"
  let conflictKeys ← stringList py (raw.get "conflict_keys" .null)
  return {
    id, title, complexity, repositories, requirementIndexes, criterionIds, findingIndexes
    dependsOn, readScope, writeScope, conflictKeys
    parallelSafe := truthy (raw.get "parallel_safe" (.bool false)) }

/-- The shards of the payload, numbered from `index` on. -/
def readShards : Nat → List String → List Json → Except String (List ShardItem)
  | _, _, [] => .ok []
  | index, seen, .object fields :: rest => do
      let item ← readShard py policy parent index seen fields
      let others ← readShards (index + 1) (item.id :: seen) rest
      return item :: others
  | index, _, _ :: _ => .error ("shard " ++ toString index ++ " must be a mapping")

/-! ## Coverage -/

/-- The numbers from one to a count that some sets leave out. -/
def missingIndexes (count : Nat) (covered : List (List Int)) : List Int :=
  ((List.range count).map fun (index : Nat) => (index : Int) + 1).filter (· ∉ covered.flatten)

/-- Nothing of the package is left out. -/
def checkCoverage (items : List ShardItem) : Except String Unit := do
  let requirements := missingIndexes parent.requirements.length
    (items.map ShardItem.requirementIndexes)
  refuse (requirements ≠ []) ("decomposition does not cover parent requirement indexes: " ++
    reprNumbers requirements)
  let criteria := sortedTexts (((parent.acceptanceCriteria.map
    AcceptanceCriterion.id).eraseDups).filter
      (· ∉ (items.map ShardItem.criterionIds).flatten))
  refuse (criteria ≠ []) ("decomposition does not cover parent acceptance criteria: " ++
    reprTexts py criteria)
  let findings := missingIndexes parent.runtime.reviewFindings.length
    (items.map ShardItem.findingIndexes)
  refuse (parent.runtime.reviewFindings ≠ [] ∧ findings ≠ [])
    ("decomposition does not cover unresolved finding indexes: " ++ reprNumbers findings)

/-! ## Order -/

/-- A shard waits for other shards only. -/
def checkDependencies (ids : List String) (item : ShardItem) : Except String Unit := do
  let unknown := (item.dependsOn.filter (· ∉ ids)).eraseDups
  refuse (unknown ≠ []) ("shard " ++ item.id ++ " depends on unknown shards: " ++
    ", ".intercalate (sortedTexts unknown))
  refuse (item.id ∈ item.dependsOn) ("shard " ++ item.id ++ " cannot depend on itself")

/-- What the shard of an identity waits for. -/
def localDependencies (items : List ShardItem) (id : String) : List String :=
  ((items.find? fun item => item.id = id).elim [] ShardItem.dependsOn).eraseDups

/-- `_validate_local_acyclic`. -/
def validateLocalAcyclic (items : List ShardItem) : Except String Unit :=
  match searchAll (localDependencies items) (items.length + 1) (items.map ShardItem.id) with
  | .ok _ => .ok ()
  | .error (.cycle path) =>
      .error ("cycle detected in shard dependencies at " ++ path.getLast?.getD "")
  | .error .exhausted => .error "maximum recursion depth exceeded"

/-! ## Children -/

/-- The items that indexes name, counted from one and in order. -/
def itemsAt (items : List String) (indexes : List Int) : List String :=
  (sortedNumbers indexes).map fun index => items.getD (index - 1).toNat ""

/-- The criterion of an identity without evidence; the last one of an identity counts. -/
def criterionOf (criterionId : String) : AcceptanceCriterion where
  id := criterionId
  description := (parent.acceptanceCriteria.reverse.find? fun criterion =>
    criterion.id = criterionId).elim "" AcceptanceCriterion.description

/-- What a shard takes over from the package. -/
def proposalOf (item : ShardItem) : ShardProposal where
  key := item.id
  title := item.title
  complexity := item.complexity
  repositories := item.repositories
  requirements := itemsAt parent.requirements item.requirementIndexes
  acceptanceCriteria := (sortedTexts item.criterionIds).map (criterionOf parent)
  reviewFindings := itemsAt parent.runtime.reviewFindings item.findingIndexes
  dependsOn := item.dependsOn
  readScope := item.readScope
  writeScope := item.writeScope
  conflictKeys := item.conflictKeys
  parallelSafe := item.parallelSafe

/-- A package refuses a complexity that is no percentage. -/
def checkChild (child : WorkPackage) : Except String Unit :=
  refuse (¬ (0 ≤ child.complexity ∧ child.complexity ≤ 100))
    ("work package " ++ py.repr child.id ++ " complexity must be between 0 and 100")

/-- The decision of a planner; `shardPackages` makes the shards of the proposals. -/
structure ValidatedDecomposition where
  decision : String
  reason : String
  proposals : List ShardProposal := []
  planHash : String := ""

/-- The shards of a payload that decides to shard. -/
def validateShards (payload : Row) : Except String (List ShardProposal) :=
  match payload.get "shards" .null with
  | .array elements => do
      refuse (¬ (2 ≤ elements.length ∧ (elements.length : Int) ≤ policy.maximumShards))
        ("decomposition must contain 2.." ++ toString policy.maximumShards ++ " shards")
      let items ← readShards py policy parent 1 [] elements
      checkCoverage py parent items
      items.forM (checkDependencies (items.map ShardItem.id))
      validateLocalAcyclic items
      return items.map (proposalOf parent)
  | _ => .error "decomposition shards must be a list"

/-- `validate_decomposition_payload`. -/
def validateDecompositionPayload (payload : Row) (generatedBy : String) :
    Except String ValidatedDecomposition := do
  let decision := py.lowerString (strippedText py payload "decision")
  let reason := strippedText py payload "reason"
  refuse (decision ∉ ["shard", "keep_atomic"])
    "decomposition decision must be shard or keep_atomic"
  refuse (reason = "") "decomposition reason is required"
  if decision = "keep_atomic" then
    return { decision, reason }
  else
    let proposals ← validateShards py policy parent payload
    let children := shardPackages parent generatedBy proposals
    children.forM (checkChild py)
    return {
      decision, reason, proposals
      planHash := py.planHash parent.id (decompositionOrigin parent) reason children }

end Shards

end Execraft.Orchestrate.Sharding
