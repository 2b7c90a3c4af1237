import Execraft.Foundation.Json.Text
import Execraft.Foundation.Outcome
import Execraft.Foundation.Text.Joining
import Execraft.ProjectExecution.RuntimeState

/-!
# Contracts of agent output

The checker for the part of JSON Schema that agent contracts use, the
representations of a contract that are accepted beside the declared one, and the
search for a contract object in the text of an agent.
-/

namespace Execraft.Orchestrate

open Foundation Foundation.Json Foundation.Text

abbrev Payload := ProjectExecution.Row

/-! ## Vocabulary -/

def contractKeys : List String :=
  ["ok", "status", "summary", "verdict", "findings", "acceptance_evidence",
    "resolved_findings", "decision", "reason", "shards"]

def wrapperKeys : List String := ["review", "result", "output", "response"]

def reviewFindingAliases : List String := ["findions", "issues", "blocking_findings"]

def approvedVerdicts : List String := ["approved", "approve", "accepted", "pass", "passed"]

def changesRequiredVerdicts : List String :=
  ["changes_required", "changes-required", "request_changes", "changes requested",
    "rejected", "reject"]

/-- Why no payload is returned. -/
inductive OutputFailure where
  | structuredOutputError (message : String)
  | typeError
  deriving DecidableEq, Repr

/-- The interpreter, with the conversions that reports of findings go through. -/
structure OutputInterpreter extends Python where
  /-- `str.upper`. -/
  upper : String → String
  /-- The shortest text of the float that a decimal literal is rounded to. -/
  round : String → String
  upper_stripped : ∀ text, stripString text = text → stripString (upper text) = upper text
  upper_eq_empty : ∀ text, upper text = "" ↔ text = ""
  /-- Only texts can look blank. -/
  visible : ∀ value, (∀ text, value ≠ .string text) → stripString (str value) ≠ ""

/-- `name in payload`. -/
def Payload.has (payload : Payload) (name : String) : Bool :=
  (getEntry name payload).isSome

/-- `payload.get(first) or payload.get(second) or ... or default`. -/
def Payload.firstOf (payload : Payload) (names : List String) (default : Json) : Json :=
  ((names.map fun name => payload.get name .null).find? truthy).getD default

/-- `payload.pop(name, None)` for each of the names. -/
def dropKeys (payload : Payload) (names : List String) : Payload :=
  payload.filter fun field => field.1 ∉ names

/-! ## Validation -/

def typeNameOf : Json → String
  | .null => "null"
  | .bool _ => "boolean"
  | .object _ => "object"
  | .array _ => "array"
  | .string _ => "string"
  | .int _ => "integer"
  | .float _ => "number"
  | .nonFinite _ => "number"

def matchesType (value : Json) (expected : String) : Bool :=
  if expected = "number" then
    typeNameOf value = "integer" ∨ typeNameOf value = "number"
  else if expected ∈ ["object", "array", "string", "boolean", "integer", "null"] then
    typeNameOf value = expected
  else true

section Validation

variable (py : Python)

/-- `repr(value)`. -/
def reprOf : Json → String
  | .string text => py.repr text
  | value => py.str value

/-- `value in elements`. -/
def containsValue (elements : List Json) (value : Json) : Bool :=
  elements.any fun element => Python.identical value element || py.equals value element

def constErrors (schema : Payload) (value : Json) (path : String) : List String :=
  match getEntry "const" schema with
  | some expected =>
      if py.equals value expected then []
      else [path ++ ": expected constant " ++ reprOf py expected]
  | none => []

def enumErrors (schema : Payload) (value : Json) (path : String) : List String :=
  match schema.get "enum" .null with
  | .array allowed =>
      if containsValue py allowed value then []
      else [path ++ ": value " ++ reprOf py value ++ " is not one of " ++
        reprOf py (.array allowed)]
  | _ => []

/-- The check of a length against one of its limits. -/
def limitErrors (schema : Payload) (keyword : String) (violates : Int → Bool)
    (message : String) (path : String) : List String :=
  match Python.integerOf (schema.get keyword .null) with
  | some limit =>
      if violates limit then [path ++ ": " ++ message ++ toString limit] else []
  | none => []

def textErrors (schema : Payload) (text path : String) : List String :=
  limitErrors schema "minLength" (fun minimum => (text.length : Int) < minimum)
      "string shorter than minLength=" path ++
    limitErrors schema "maxLength" (fun maximum => maximum < (text.length : Int))
      "string longer than maxLength=" path

/-- Keys of a decoded object are texts, so that no other required key is there. -/
def requiredErrors (schema fields : Payload) (path : String) : List String :=
  match schema.get "required" .null with
  | .array required =>
      required.flatMap fun key =>
        let present :=
          match key with
          | .string name => fields.has name
          | _ => false
        if present then []
        else [path ++ ": missing required property " ++ reprOf py key]
  | _ => []

/-- The declared properties. -/
def knownKeys (schema : Payload) : List String :=
  match schema.get "properties" .null with
  | .object properties => properties.map Prod.fst
  | _ => []

def unexpectedErrors (schema fields : Payload) (path : String) : List String :=
  if schema.get "additionalProperties" .null = .bool false then
    (fields.filter fun field => field.1 ∉ knownKeys schema).map fun field =>
      path ++ ": unexpected property " ++ py.repr field.1
  else []

/-- Is an element equal to one in front of it? -/
def repeats : List Json → List Json → Bool
  | _, [] => false
  | front, head :: tail =>
      front.any (py.equals head ·) || repeats (front ++ [head]) tail

def elementErrors (schema : Payload) (elements : List Json) (path : String) : List String :=
  limitErrors schema "minItems" (fun minimum => (elements.length : Int) < minimum)
      "array shorter than minItems=" path ++
    limitErrors schema "maxItems" (fun maximum => maximum < (elements.length : Int))
      "array longer than maxItems=" path ++
    if schema.get "uniqueItems" .null = .bool true ∧ repeats py [] elements then
      [path ++ ": array items are not unique"]
    else []

mutual

/-- `_validate_value`: the errors that it appends.  The sub-schemas are met on a walk
over the members of the schema. -/
def validateValue : Json → Json → String → List String
  | .object schema, value, path =>
      let expected := ProjectExecution.Row.get schema "type" .null
      if truthy expected ∧ ¬ matchesType value (py.text expected) then
        [path ++ ": expected " ++ py.text expected ++ ", got " ++ typeNameOf value]
      else
        constErrors py schema value path ++ enumErrors py schema value path ++
          match value with
          | .string text => textErrors schema text path
          | .object fields =>
              requiredErrors py schema fields path ++
                validateProperties schema fields path ++
                unexpectedErrors py schema fields path ++
                validateAdditional (knownKeys schema) schema fields path
          | .array elements =>
              elementErrors py schema elements path ++ validateItems schema elements path
          | _ => []
  | _, _, _ => []

/-- The walk to `properties`. -/
def validateProperties : List (String × Json) → Payload → String → List String
  | [], _, _ => []
  | (keyword, child) :: rest, fields, path =>
      if keyword = "properties" then validateMembers child fields path
      else validateProperties rest fields path

def validateMembers : Json → Payload → String → List String
  | .object properties, fields, path => validateEach properties fields path
  | _, _, _ => []

def validateEach : List (String × Json) → Payload → String → List String
  | [], _, _ => []
  | (key, child) :: rest, fields, path =>
      (match getEntry key fields with
      | some value => validateValue child value (path ++ "." ++ key)
      | none => []) ++ validateEach rest fields path

/-- The walk to `additionalProperties`. -/
def validateAdditional :
    List String → List (String × Json) → Payload → String → List String
  | _, [], _, _ => []
  | known, (keyword, child) :: rest, fields, path =>
      if keyword = "additionalProperties" then
        fields.flatMap fun field =>
          if field.1 ∈ known then []
          else validateValue child field.2 (path ++ "." ++ field.1)
      else validateAdditional known rest fields path

/-- The walk to `items`. -/
def validateItems : List (String × Json) → List Json → String → List String
  | [], _, _ => []
  | (keyword, child) :: rest, elements, path =>
      if keyword = "items" then
        elements.zipIdx.flatMap fun item =>
          validateValue child item.1 (path ++ "[" ++ toString item.2 ++ "]")
      else validateItems rest elements path

end

/-- `validate_structured_object`. -/
def validateStructuredObject (payload : Option Payload) (schema : Payload) : List String :=
  validateValue py (.object schema) ((payload.map Json.object).getD .null) "$"

end Validation

variable (py : OutputInterpreter)

/-! ## Reviews -/

/-- `review_output_schema`. -/
def reviewOutputSchema : Payload :=
  let texts : Json := .object [("type", .string "array"),
    ("items", .object [("type", .string "string"), ("minLength", .int 1)])]
  [("type", .string "object"),
    ("additionalProperties", .bool false),
    ("required", .array [.string "verdict", .string "findings", .string "observations",
      .string "summary"]),
    ("properties", .object [
      ("verdict", .object [("enum", .array [.string "approved", .string "changes_required"])]),
      ("findings", texts),
      ("observations", texts),
      ("summary", .object [("type", .string "string"), ("minLength", .int 1)])])]

/-- `str(value).strip()`. -/
def strippedText (value : Json) : String :=
  stripString (py.text value)

/-- What `_format_review_finding` reads of a finding. -/
structure FindingFields where
  identity : String
  severity : String
  repository : String
  path : String
  line : Option String
  requirement : String
  evidence : String
  requiredFix : String
  deriving DecidableEq, Repr

def findingFields (finding : Payload) : FindingFields where
  identity := strippedText py (finding.firstOf ["id", "finding_id"] (.string ""))
  severity := py.upper (strippedText py (finding.firstOf ["severity"] (.string "")))
  repository := strippedText py (finding.firstOf ["repository", "repo"] (.string ""))
  path := strippedText py (finding.firstOf ["file", "path"] (.string ""))
  line :=
    let line := finding.get "line" .null
    if line = .null ∨ line = .string "" then none else some (py.text line)
  requirement :=
    strippedText py
      (finding.firstOf ["requirement", "title", "message", "description"] (.string ""))
  evidence := strippedText py (finding.firstOf ["evidence"] (.string ""))
  requiredFix := strippedText py (finding.firstOf ["required_fix", "fix"] (.string ""))

namespace FindingFields

variable (fields : FindingFields)

def location : String :=
  match fields.line with
  | some line =>
      if fields.path ≠ "" then fields.path ++ ":" ++ line else "line " ++ line
  | none => fields.path

def heading : String := joinParts " " [fields.identity, fields.severity]

def scope : String := joinParts "/" [fields.repository, fields.location]

def parts : List String :=
  [fields.heading, fields.scope, fields.requirement, fields.evidence, fields.requiredFix]

end FindingFields

/-- `_format_review_finding`. -/
def formatReviewFinding (finding : Payload) : String :=
  joinParts " | " (findingFields py finding).parts

/-- The text of an entry of a list of findings or observations. -/
def reviewItemText : Json → String
  | .object finding => formatReviewFinding py finding
  | item => strippedText py item

/-- One pass of the loop of `_normalize_review_items`. -/
def addReviewItem (normalized : List String) (item : Json) : List String :=
  let text := reviewItemText py item
  if text ≠ "" ∧ text ∉ normalized then normalized ++ [text] else normalized

/-- `_normalize_review_items`. -/
def normalizeReviewItems (items : List Json) : List String :=
  items.foldl (addReviewItem py) []

/-- `_canonical_review_verdict`. -/
def canonicalReviewVerdict (value : Json) : String :=
  let normalized := py.lowerString (py.textOr value)
  if normalized ∈ approvedVerdicts then "approved"
  else if normalized ∈ changesRequiredVerdicts then "changes_required"
  else normalized

/-- The verdict of a review, out of its wrapper. -/
def verdictValue (payload : Payload) : Json :=
  match payload.get "verdict" .null with
  | .object verdict => Payload.firstOf verdict ["decision", "verdict", "status"] .null
  | value => value

def verdictReason (payload : Payload) : String :=
  match payload.get "verdict" .null with
  | .object verdict =>
      strippedText py
        (Payload.firstOf verdict ["reason", "summary", "rationale"] (.string ""))
  | _ => ""

def reviewVerdict (payload : Payload) : String :=
  canonicalReviewVerdict py (verdictValue payload)

/-- The aliases that hold a list with elements. -/
def aliasLists (payload : Payload) : List (List Json) :=
  reviewFindingAliases.filterMap fun key =>
    match payload.get key .null with
    | .array (head :: tail) => some (head :: tail)
    | _ => none

def texts (items : List String) : Json :=
  .array (items.map Json.string)

def refuse {Value : Type} (message : String) : Except OutputFailure Value :=
  .error (.structuredOutputError message)

/-- The findings of a review, taken from an alias where the canonical field is empty. -/
def canonicalFindings (payload : Payload) : Except OutputFailure Json :=
  let findings := payload.get "findings" .null
  match aliasLists payload with
  | [] => .ok findings
  | first :: others =>
      if findings = .null ∨ findings = .array [] then
        if others.any fun other => ! py.equals (.array other) (.array first) then
          refuse "ambiguous review findings: multiple aliases contain different values"
        else .ok (.array first)
      else
        match findings with
        | .array elements =>
            if (first :: others).any fun other =>
                ! py.equals (.array other) (.array elements) then
              refuse "contradictory review findings: canonical and alias fields differ"
            else .ok findings
        | _ => .ok findings

/-- `if condition: payload[name] = value`. -/
def setWhen (payload : Payload) (condition : Bool) (name : String) (value : Json) :
    Payload :=
  if condition then payload.set name value else payload

def isList : Json → Bool
  | .array _ => true
  | _ => false

/-- The items of a list in normal form; anything else as it is. -/
def normalItems : Json → Json
  | .array items => texts (normalizeReviewItems py items)
  | value => value

/-- `normalized[name] = _normalize_review_items(value)` where the value is a list. -/
def setItems (payload : Payload) (name : String) (value : Json) : Payload :=
  setWhen payload (isList value) name (normalItems py value)

/-- The members that `normalize_review_payload` returns, of a payload with these
findings. -/
def normalReview (payload : Payload) (findings : Json) : Payload :=
  let verdict := reviewVerdict py payload
  let observations := payload.get "observations" .null
  let summary := payload.get "summary" .null
  let reason := verdictReason py payload
  let normalized := dropKeys payload ["ok"]
  let normalized := setWhen normalized (verdict ≠ "") "verdict" (.string verdict)
  let normalized :=
    setWhen normalized (findings ≠ payload.get "findings" .null) "findings" findings
  let normalized := dropKeys normalized reviewFindingAliases
  let normalized := setItems py normalized "findings" findings
  let normalized := setItems py normalized "observations" observations
  let normalized := setWhen normalized (observations = .null) "observations" (.array [])
  setWhen normalized
    ((summary = .null ∨ strippedText py summary = "") ∧ reason ≠ "") "summary"
    (.string reason)

/-- Is this a list with elements? -/
def holdsElements : Json → Bool
  | .array (_ :: _) => true
  | _ => false

/-- `normalize_review_payload`. -/
def normalizeReviewPayload (payload : Payload) : Except OutputFailure Payload :=
  let modelOk := payload.get "ok" .null
  if modelOk ≠ .null ∧ modelOk ≠ .bool true then
    refuse "review model-level ok must be true when present"
  else do
    let findings ← canonicalFindings py payload
    let verdict := reviewVerdict py payload
    let normalized := normalReview py payload findings
    let blocking := normalized.get "findings" .null
    if verdict = "changes_required" ∧ blocking = .array [] then
      refuse "review verdict changes_required requires at least one non-empty finding"
    else if verdict = "approved" ∧ holdsElements blocking then
      refuse "review verdict approved contradicts non-empty blocking findings"
    else return normalized

/-! ## Other contracts -/

/-- `properties.get(name)` of a schema, `none` where the schema declares none. -/
def declares (schema : Payload) (names : List String) : Bool :=
  match schema.get "properties" .null with
  | .object properties => names.all fun name => Payload.has properties name
  | _ => false

def isReviewSchema (schema : Payload) : Bool :=
  declares schema ["verdict", "findings", "summary"]

def isScopeRecoverySchema (schema : Payload) : Bool :=
  declares schema ["status", "summary", "retain_paths", "discard_paths", "removed_paths"]

def isImplementationSchema (schema : Payload) : Bool :=
  match schema.get "properties" .null with
  | .object properties =>
      match ProjectExecution.Row.get properties "acceptance_evidence" .null with
      | .object evidence =>
          Payload.has properties "status" ∧
            ProjectExecution.Row.get evidence "type" .null = .string "array"
      | _ => false
  | _ => false

def isDecompositionSchema (schema : Payload) : Bool :=
  declares schema ["decision", "reason", "shards"]

/-- `_normalize_implementation_payload`. -/
def normalizeImplementationPayload (payload schema : Payload) : Payload :=
  let normalized : Payload :=
    match payload.get "acceptance_evidence" .null with
    | .object evidence =>
        payload.set "acceptance_evidence" (.array (evidence.map fun entry =>
          .object [("criterion_id", .string entry.1),
            ("evidence", .string (py.text entry.2))]))
    | _ => payload
  let required : Bool :=
    match schema.get "required" .null with
    | .array required => containsValue py.toPython required (.string "summary")
    | _ => false
  if required ∧ strippedText py (normalized.get "summary" (.string "")) = "" then
    normalized.set "summary"
      (.string (strippedText py (normalized.get "implementation_summary" (.string ""))))
  else normalized

/-- `list(item.get(name) or [])`. -/
def listOr (item : Payload) (name : String) : Except OutputFailure Json :=
  let value := item.get name .null
  if truthy value then
    match iterate value with
    | some elements => .ok (.array elements)
    | none => .error .typeError
  else .ok (.array [])

def normalizeShard : Json → Except OutputFailure Json
  | .object item => do
      let shard : Payload := item
      let shard := shard.set "finding_indexes" (← listOr item "finding_indexes")
      let shard := shard.set "read_scope" (← listOr item "read_scope")
      let shard := shard.set "write_scope" (← listOr item "write_scope")
      let shard := shard.set "conflict_keys" (← listOr item "conflict_keys")
      return .object (shard.set "parallel_safe"
        (.bool (truthy (ProjectExecution.Row.get item "parallel_safe" (.bool false)))))
  | item => .ok item

/-- `_normalize_decomposition_payload`. -/
def normalizeDecompositionPayload (payload : Payload) : Except OutputFailure Payload := do
  match payload.get "shards" .null with
  | .array shards => return payload.set "shards" (.array (← shards.mapM normalizeShard))
  | _ => return payload

/-- `_normalize_scope_recovery_payload`. -/
def normalizeScopeRecoveryPayload (payload : Payload) : Except OutputFailure Payload := do
  let modelOk := payload.get "ok" .null
  if modelOk ≠ .null ∧ modelOk ≠ .bool true then
    refuse "scope-recovery model-level ok must be true when present"
  let normalized := dropKeys payload ["ok"]
  return ["retain_paths", "discard_paths", "removed_paths"].foldl
    (fun normalized key =>
      if ProjectExecution.Row.get normalized key .null = .null then
        ProjectExecution.Row.set normalized key (.array [])
      else normalized) normalized

/-- `_normalize_contract_variant` of a payload. -/
def normalizeContractVariant (payload schema : Payload) : Except OutputFailure Payload :=
  if isReviewSchema schema then normalizeReviewPayload py payload
  else if isScopeRecoverySchema schema then normalizeScopeRecoveryPayload payload
  else if isImplementationSchema schema then
    .ok (normalizeImplementationPayload py payload schema)
  else if isDecompositionSchema schema then normalizeDecompositionPayload payload
  else .ok payload

/-! ## Objects in a text -/

/-- An object found in a text: where it begins, how long it is and what it holds. -/
structure Candidate where
  offset : Nat
  consumed : Nat
  value : Payload
  deriving Repr

/-- `decoder.raw_decode(text)` where it gives an object. -/
def rawDecodeObject (text : List Char) : Option (Nat × Payload) :=
  match decodeValue py.round (text.length + 1) text with
  | some (.object fields, rest) => some (text.length - rest.length, fields)
  | _ => none

/-- The objects that begin at an opening brace. -/
def objectCandidates : Nat → List Char → List Candidate
  | _, [] => []
  | offset, head :: rest =>
      if head = '{' then
        match rawDecodeObject py (head :: rest) with
        | some (consumed, value) =>
            ⟨offset, consumed, value⟩ :: objectCandidates (offset + 1) rest
        | none => objectCandidates (offset + 1) rest
      else objectCandidates (offset + 1) rest

def Candidate.score (preferred : List String) (candidate : Candidate) : List Nat :=
  [(candidate.value.filter fun field => field.1 ∈ preferred).length,
    (candidate.value.filter fun field => field.1 ∈ contractKeys).length,
    candidate.consumed, candidate.offset]

/-- `max(candidates, key=score)`: the first of the best. -/
def bestCandidate (preferred : List String) : List Candidate → Option Candidate
  | [] => none
  | head :: tail =>
      some (tail.foldl
        (fun best candidate =>
          if best.score preferred < candidate.score preferred then candidate else best)
        head)

/-- `_decode_exact_object`. -/
def decodeExactObject (text : List Char) : Option Payload :=
  match decode py.round text with
  | some (.object fields) => some fields
  | _ => none

def namesContract (payload : Payload) : Bool :=
  payload.any fun field => field.1 ∈ contractKeys

/-- The member under a wrapper key that is a contract. -/
def wrappedContract (payload : Payload) : Option Payload :=
  wrapperKeys.findSome? fun key =>
    match payload.get key .null with
    | .object nested => if namesContract nested then some nested else none
    | _ => none

/-- `_unwrap_known_wrapper`. -/
def unwrapKnownWrapper (payload : Payload) : Payload :=
  if namesContract payload then payload else (wrappedContract payload).getD payload

/-- The object of a text that `extract_structured_object` selects. -/
def selectedObject (preferredKeys : List String) (text : String) : Option Payload :=
  let stripped := stripString text
  if stripped = "" then none
  else
    match decodeExactObject py stripped.toList with
    | some fields => some fields
    | none =>
        (bestCandidate (preferredKeys.filter (· ≠ ""))
          (objectCandidates py 0 stripped.toList)).map Candidate.value

/-- `extract_structured_object`. -/
def extractStructuredObject (preferredKeys : List String) (text : String) :
    Option Payload :=
  (selectedObject py preferredKeys text).map unwrapKnownWrapper

/-! ## The result of an agent -/

/-- One representation of the contract: its normal form without errors, or errors. -/
def contractAttempt (payload schema : Payload) :
    Except OutputFailure (Except (List String) Payload) :=
  match normalizeContractVariant py payload schema with
  | .ok normalized =>
      match validateStructuredObject py.toPython (some normalized) schema with
      | [] => .ok (.ok normalized)
      | errors => .ok (.error errors)
  | .error (.structuredOutputError message) => .ok (.error [message])
  | .error .typeError => .error .typeError

def publicPayload (payload : Payload) : Payload :=
  payload.filter fun field => ! "_execraft_".toList.isPrefixOf field.1.toList

/-- `tuple(str(item) for item in (schema.get("required") or []))`. -/
def requiredKeys (schema : Payload) : List String :=
  match schema.get "required" .null with
  | .array required => required.map py.text
  | _ => []

/-- The texts that are tried, the most recent first and each once. -/
def candidateTextsOf (payload : Payload) (candidateTexts : List String) : List String :=
  let visible := fun text => stripString text ≠ ""
  let message :=
    match payload.get "final_message" .null with
    | .string message => [message].filter visible
    | _ => []
  let recorded :=
    match payload.get "structured_output_candidates" .null with
    | .array candidates =>
        candidates.reverse.filterMap fun candidate =>
          match candidate with
          | .string text => if visible text then some text else none
          | _ => none
    | _ => []
  (message ++ recorded ++ candidateTexts.filter visible).eraseDups

/-- The loop over the texts; the errors are those of the last object that was read. -/
def tryTexts (schema : Payload) (errors : List String) :
    List String → Except OutputFailure Payload
  | [] => refuse ("; ".intercalate (errors.take 4))
  | text :: rest => do
      match extractStructuredObject py (requiredKeys py schema) text with
      | none => tryTexts schema errors rest
      | some parsed =>
          match ← contractAttempt py parsed schema with
          | .ok normalized => return normalized
          | .error errors => tryTexts schema errors rest

/-- `normalize_structured_result`. -/
def normalizeStructuredResult (payload schema : Payload) (candidateTexts : List String) :
    Except OutputFailure Payload := do
  let direct := publicPayload payload
  match ← contractAttempt py direct schema with
  | .ok normalized => return normalized
  | .error errors =>
      tryTexts py schema errors (candidateTextsOf direct candidateTexts)

end Execraft.Orchestrate
