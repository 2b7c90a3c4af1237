import Execraft.Foundation.Attempts
import Execraft.Foundation.Text.Infix
import Execraft.Orchestrate.SupervisorDecision

/-!
# Compiling an answer of the Supervisor

The answer is a mapping, JSON in the final message, or prose.  The compiler tries the
mappings first, then the texts as prose; the first source that gives a decision counts.
-/

namespace Execraft.Orchestrate

open Foundation Foundation.Json Foundation.Text

/-- The interpreter, with what the compiler asks of texts. -/
structure SupervisorInterpreter extends OutputInterpreter where
  casefold : String → String
  /-- `\d` of a regular expression. -/
  isDecimal : Char → Bool

/-! ## Vocabulary -/

/-- `_DECISION_ALIASES`. -/
def decisionAliases : List (String × SupervisorDecisionKind) :=
  [("resolved", .resolved), ("resolve", .resolved), ("continue", .resolved),
    ("recover", .resolved), ("recovered", .resolved), ("recover_and_continue", .resolved),
    ("repair", .resolved), ("repair_and_continue", .resolved),
    ("accept_with_exception", .resolved), ("override_and_continue", .resolved),
    ("delegate", .delegate), ("delegation", .delegate), ("ask_human", .askHuman),
    ("ask_operator", .askHuman), ("human_required", .askHuman),
    ("operator_decision", .askHuman), ("blocked", .blocked), ("block", .blocked),
    ("pause", .blocked), ("stop", .blocked)]

/-- `_HIGH_IMPACT_DECISIONS`. -/
def highImpactDecisions : List String :=
  ["cancel", "cancel_package", "replan", "rollback", "rollback_completed_work",
    "rewrite_history", "delete", "discard_intentional_work", "custom"]

/-- `text[:count]`. -/
def takeText (count : Nat) (text : String) : String :=
  String.ofList (text.toList.take count)

/-- `needle in text`. -/
def containsText (needle text : String) : Bool :=
  needle.toList <:+: text.toList

/-- `payload.get(first) or payload.get(second) or ...`: the last one where none counts. -/
def orGet (payload : Payload) : List String → Json
  | [] => .null
  | [name] => payload.get name .null
  | name :: rest =>
      if truthy (payload.get name .null) then payload.get name .null
      else orGet payload rest

/-- The first member that is not null, `None` where there is none. -/
def firstGiven (payload : Payload) (names : List String) : Json :=
  ((names.map fun name => payload.get name .null).find? fun value => value ≠ .null).getD .null

/-! ## Lines of prose -/

/-- Does a character match a small letter of a pattern that ignores case? -/
def matchesLetter (letter character : Char) : Bool :=
  character = letter ∨ character = letter.toUpper ∨
    (letter = 'i' ∧ character ∈ ['\u0130', '\u0131']) ∨
    (letter = 's' ∧ character = '\u017f') ∨ (letter = 'k' ∧ character = '\u212a')

/-- The text behind a keyword, upper and lower case alike. -/
def behindKeyword : List Char → List Char → Option (List Char)
  | [], text => some text
  | _ :: _, [] => none
  | letter :: keyword, character :: text =>
      if matchesLetter letter character then behindKeyword keyword text else none

/-- `keyword: value`: the stripped value. -/
def lineField (keywords : List String) (line : List Char) : Option String :=
  keywords.findSome? fun keyword =>
    match behindKeyword keyword.toList (line.dropWhile isSpace) with
    | none => none
    | some rest =>
        match rest.dropWhile isSpace with
        | ':' :: value => if value = [] then none else some (stripString (String.ofList value))
        | _ => none

def decisionLine : List Char → Option String := lineField ["decision", "verdict", "action"]

def classificationLine : List Char → Option String := lineField ["classification"]

def resumeLine : List Char → Option String :=
  lineField ["resume_stage", "resume stage", "resume"]

def summaryLine : List Char → Option String := lineField ["summary", "rationale", "reason"]

section Prose

variable (py : SupervisorInterpreter)

/-- The text behind the mark of a list item. -/
def behindMark (text : List Char) : Option (List Char) :=
  match text with
  | '-' :: rest => some rest
  | '*' :: rest => some rest
  | _ =>
      match text.takeWhile py.isDecimal, text.dropWhile py.isDecimal with
      | _ :: _, '.' :: rest => some rest
      | _ :: _, ')' :: rest => some rest
      | _, _ => none

/-- `_BULLET`: the stripped text of a list item. -/
def bullet (line : List Char) : Option String :=
  match behindMark py (line.dropWhile isSpace) with
  | some (space :: head :: rest) =>
      if isSpace space then some (stripString (String.ofList (head :: rest))) else none
  | _ => none

/-! ## Texts -/

/-- `_scalar_text`. -/
def scalarText : Json → String
  | .null => ""
  | .array _ => ""
  | .object _ => ""
  | value => stripString (py.text value)

/-- `_string_list`. -/
def stringList : Json → List String
  | .string text =>
      let lines := (splitlines text.toList).filterMap (bullet py)
      if lines ≠ [] then lines
      else if stripString text ≠ "" then [stripString text] else []
  | .array elements => ((elements.map (scalarText py)).filter (· ≠ "")).eraseDups
  | _ => []

def isTokenCharacter (character : Char) : Bool :=
  ('a' ≤ character ∧ character ≤ 'z') ∨ ('0' ≤ character ∧ character ≤ '9')

/-- Each run of other characters becomes one underscore. -/
def collapseRuns (keeps : Char → Bool) : Bool → List Char → List Char
  | _, [] => []
  | inRun, character :: rest =>
      if keeps character then character :: collapseRuns keeps false rest
      else if inRun then collapseRuns keeps true rest
      else '_' :: collapseRuns keeps true rest

/-- `strip("_")`. -/
def stripUnderscores (text : List Char) : List Char :=
  ((text.dropWhile (· = '_')).reverse.dropWhile (· = '_')).reverse

/-- `_decision_token`. -/
def decisionToken (value : String) : String :=
  String.ofList
    (stripUnderscores (collapseRuns isTokenCharacter false (py.casefold value).toList))

/-- `_safe_option_id`. -/
def safeOptionId (value : String) : String :=
  let keeps := fun character : Char =>
    character.isAlphanum ∨ character = '_' ∨ character = '-'
  let token := py.lowerString (String.ofList
    (stripUnderscores (collapseRuns keeps false (stripString value).toList)))
  match token.toList with
  | [] => ""
  | head :: _ => takeText 64 (if head.isDigit then "option_" ++ token else token)

/-- `_normalize_risk`. -/
def normalizeRisk (value : Json) : String :=
  let token := decisionToken py (scalarText py value)
  if token ∈ ["routine", "destructive", "product", "external", "unknown"] then token
  else "unknown"

/-- `_infer_decision_from_text`. -/
def inferDecisionFromText (text : String) : String :=
  let lowered := py.casefold text
  if ["ask the operator", "ask human", "operator decision", "human decision"].any
      fun token => containsText token lowered then "ask_human"
  else if containsText "delegate" lowered then "delegate"
  else if ["blocked", "cannot safely proceed", "remain paused"].any
      fun token => containsText token lowered then "blocked"
  else if ["recover", "resolved", "resume", "continue", "repair"].any
      fun token => containsText token lowered then "resolved"
  else ""

/-- `_infer_decision_text`. -/
def inferDecisionText (data : Payload) : String :=
  inferDecisionFromText py (" ".intercalate
    (stringList py (data.get "instructions" .null) ++
      [scalarText py (data.get "summary" .null), scalarText py (data.get "reason" .null)]))

/-! ## Questions -/

/-- `_default_approval_question`. -/
def defaultApprovalQuestion (context action : String) : Payload :=
  [("question", .string ("The Supervisor proposes to " ++ action ++
      ". Should Execraft allow a fresh supervised recovery round with this direction?")),
    ("context", .string (takeText 8000 context)),
    ("recommended_option", .string ""),
    ("options", .array [
      .object [("id", .string "approve_direction"),
        ("label", .string "Approve this recovery direction"),
        ("consequence", .string ("The decision is recorded and supplied to a fresh bounded " ++
          "Supervisor round; normal orchestrator safety checks still apply.")),
        ("risk", .string "unknown")],
      .object [("id", .string "keep_paused"),
        ("label", .string "Keep the task paused"),
        ("consequence", .string
          "No additional Supervisor recovery action is authorized."),
        ("risk", .string "routine")]])]

/-- `_high_impact_question`. -/
def highImpactQuestion (data : Payload) (token : String) : Payload :=
  let summary := scalarText py (orGet data ["summary", "reason", "rationale"])
  defaultApprovalQuestion (if summary ≠ "" then summary else token)
    (token.map fun character => if character = '_' then ' ' else character)

/-- An option as the compiler leaves it. -/
structure NormalOption where
  id : String
  label : String
  consequence : String
  risk : String
  weight : Option Int

/-- One option of a question, where it has a label. -/
def normalizeOption (index : Nat) (item : Payload) : Option NormalOption :=
  let label := scalarText py (orGet item ["label", "name", "id"])
  if label = "" then none
  else
    let named := scalarText py (item.get "id" .null)
    let id := safeOptionId py (if named ≠ "" then named else "option_" ++ toString index)
    some {
      id := if id = "stop" then "do_not_proceed" else id
      label := takeText 300 label
      consequence := takeText 1200 (scalarText py (orGet item ["consequence", "description"]))
      risk := normalizeRisk py (item.get "risk" .null)
      weight :=
        match item.get "weight" .null with
        | .int weight => if 0 ≤ weight ∧ weight ≤ 100 then some weight else none
        | _ => none }

def normalizeOptions : Nat → List Json → List NormalOption
  | _, [] => []
  | index, .object item :: rest =>
      (normalizeOption py index item).toList ++ normalizeOptions (index + 1) rest
  | index, _ :: rest => normalizeOptions (index + 1) rest

/-- Do the weights sum up to a hundred and favour the recommendation? -/
def weightsValid (options : List NormalOption) (recommended : String) : Bool :=
  let weights := options.filterMap NormalOption.weight
  weights.length = options.length ∧ weights.foldr (· + ·) 0 = 100 ∧
    (recommended = "" ∨
      ((options.find? fun option => option.id = recommended).bind NormalOption.weight) =
        weights.max?)

def NormalOption.asMapping (weighted : Bool) (option : NormalOption) : Json :=
  .object ([("id", .string option.id), ("label", .string option.label),
    ("consequence", .string option.consequence), ("risk", .string option.risk)] ++
    match option.weight with
    | some weight => if weighted then [("weight", .int weight)] else []
    | none => [])

/-- `_normalize_human_question`. -/
def normalizeHumanQuestion (raw : Json) (summary : String) : Payload :=
  match raw with
  | .object fields =>
      let fields : Payload := fields
      let asked := scalarText py (fields.get "question" .null)
      let question := if asked ≠ "" then asked else "How should the Supervisor proceed?"
      let given := scalarText py (fields.get "context" .null)
      let context := if given ≠ "" then given else summary
      let options :=
        match fields.get "options" .null with
        | .array elements => normalizeOptions py 1 (elements.take 6)
        | _ => []
      if options.length < 2 then defaultApprovalQuestion context question
      else
        let named := safeOptionId py (scalarText py (fields.get "recommended_option" .null))
        let recommended := if named ∈ options.map NormalOption.id then named else ""
        [("question", .string (takeText 2000 question)),
          ("context", .string (takeText 8000 context)),
          ("options", .array (options.map
            (NormalOption.asMapping (weightsValid options recommended)))),
          ("recommended_option", .string recommended)]
  | _ => defaultApprovalQuestion summary "proposed recovery"

/-! ## Evidence and paths -/

/-- The criteria with their evidence, and what was passed over. -/
def rawEvidence (raw : Json) : List (Json × Json) × List String :=
  match raw with
  | .null => ([], [])
  | .object fields => (fields.map fun field => (.string field.1, field.2), [])
  | .array elements =>
      (elements.filterMap fun element =>
        match element with
        | .object item =>
            some (orGet item ["criterion_id", "id"], orGet item ["evidence", "value"])
        | _ => none,
      elements.filterMap fun element =>
        match element with
        | .object _ => none
        | _ => some "non-object acceptance_evidence entry ignored")
  | _ => ([], ["non-object acceptance_evidence ignored"])

/-- One more criterion with its evidence. -/
def mergeEvidence (state : List (String × String) × List String) (item : Json × Json) :
    List (String × String) × List String :=
  let criterionId := takeText 256 (scalarText py item.1)
  let evidence := takeText 8000 (scalarText py item.2)
  if criterionId = "" ∨ evidence = "" then
    (state.1, state.2 ++ ["incomplete acceptance_evidence entry ignored"])
  else
    match getEntry criterionId state.1 with
    | none => (setEntry criterionId evidence state.1, state.2)
    | some previous =>
        let name := "duplicate acceptance criterion " ++ py.repr criterionId
        if evidence ≠ previous then
          (setEntry criterionId
            (takeText 8000 (previous ++ "\n\nAdditional evidence: " ++ evidence)) state.1,
            state.2 ++ [name ++ " merged losslessly"])
        else (state.1, state.2 ++ [name ++ " deduplicated"])

/-- `_normalize_evidence`. -/
def normalizeEvidence (raw : Json) : Json × List String :=
  let items := rawEvidence raw
  let merged := (items.1.take 256).foldl (mergeEvidence py) ([], items.2)
  (.array ((merged.1.take 128).map fun entry =>
    .object [("criterion_id", .string entry.1), ("evidence", .string entry.2)]), merged.2)

/-- `text.replace(":", "/", 1)`. -/
def replaceColon (text : List Char) : List Char :=
  match text.takeWhile (· ≠ ':'), text.dropWhile (· ≠ ':') with
  | front, _ :: rest => front ++ '/' :: rest
  | front, [] => front

/-- The candidate that a path without a repository stands for. -/
def pathAlias (candidatePaths : List String) (value : String) : String :=
  ((candidatePaths.filter fun item =>
    ':' ∈ item.toList ∧ replaceColon item.toList = value.toList).getLast?).getD ""

/-- The repository-qualified path that a value names, or why it is ignored. -/
def canonicalPath (candidatePaths : List String) (label value : String) :
    Except String String :=
  let canonical := if ':' ∈ value.toList then value else pathAlias candidatePaths value
  if ':' ∉ canonical.toList then
    .error (label ++ " entry " ++ py.repr value ++
      " ignored because it is not repository-qualified")
  else if SupervisorDecision.isQualified canonical.toList = false then
    .error ("invalid " ++ label ++ " entry " ++ py.repr value ++ " ignored")
  else if candidatePaths ≠ [] ∧ canonical ∉ candidatePaths then
    .error (label ++ " entry " ++ py.repr value ++
      " ignored because it is outside the incident candidate set")
  else .ok canonical

/-- `_normalize_paths`. -/
def normalizePaths (raw : Json) (candidatePaths : List String) (label : String) :
    List String × List String :=
  ((stringList py raw).take 512).foldl (fun state value =>
    match canonicalPath py candidatePaths label value with
    | .error warning => (state.1, state.2 ++ [warning])
    | .ok canonical =>
        if canonical ∈ state.1 then state else (state.1 ++ [canonical], state.2)) ([], [])

/-! ## One mapping -/

/-- The mapping with a nested decision laid over it. -/
def mergedPayload (raw : Payload) : Payload :=
  match raw.get "supervisor_decision" .null with
  | .object nested => raw.update nested
  | _ => raw

/-- The text that states the decision: the first of three members, or what the prose of
the mapping suggests. -/
def decisionText (data : Payload) : String :=
  let stated := scalarText py (orGet data ["decision", "verdict", "action"])
  if stated ≠ "" then stated else inferDecisionText py data

/-- The kind that the text stands for; high-impact decisions go to the operator. -/
def decisionKind (requireHuman : Bool) (token : String) : Option SupervisorDecisionKind :=
  if token ∈ highImpactDecisions then
    some (if requireHuman then .askHuman else .blocked)
  else getEntry token decisionAliases

/-- The mapping with its decision, and the warning about a high-impact one. -/
def settleDecision (requireHuman : Bool) (data : Payload) :
    Except String (Payload × SupervisorDecisionKind × List String) :=
  let token := decisionToken py (decisionText py data)
  match decisionKind requireHuman token with
  | none => .error ("unrecognized Supervisor decision " ++ py.repr (decisionText py data))
  | some kind =>
      let decided := data.set "decision" (.string kind.value)
      if token ∈ highImpactDecisions then
        if requireHuman then
          .ok (decided.set "human_question" (.object (highImpactQuestion py data token)), kind,
            ["high-impact Supervisor decision " ++ py.repr token ++
              " converted to an audited operator approval"])
        else
          .ok (decided, kind, ["high-impact Supervisor decision " ++ py.repr token ++
            " preserved as blocked because no executable state mutation exists"])
      else .ok (decided, kind, [])

/-- The classification, and the warning about an unknown one. -/
def settleClassification (data : Payload) : Payload × List String :=
  let text := scalarText py (data.get "classification" .null)
  match IncidentClass.ofValue text with
  | some incident => (data.set "classification" (.string incident.value), [])
  | none =>
      (data.set "classification" (.string IncidentClass.unknown.value),
        if text = "" then []
        else ["unknown incident classification " ++ py.repr text ++
          " normalized to 'unknown'"])

/-- The actions, and a summary taken from them where none is given. -/
def settleSummary (data : Payload) (text : String) : Except String Payload :=
  let instructions := stringList py
    (firstGiven data ["actions_taken", "instructions", "steps", "actions"])
  let stated := scalarText py (orGet data ["summary", "rationale", "reason"])
  let summary := if stated ≠ "" then stated else instructions.head?.getD text
  if summary = "" then .error "Supervisor decision requires a semantic summary"
  else
    .ok ((data.set "actions_taken" (.array ((instructions.take 32).map Json.string))).set
      "summary" (.string (takeText 12000 summary)))

def resumeStages : List String :=
  ["prepare", "decompose", "implement", "regression_verify", "ready_to_commit"]

/-- The resume stage, and the warning about an unsupported one. -/
def settleResume (data : Payload) : Payload × List String :=
  let resume := scalarText py (orGet data ["resume_stage", "resume"])
  let normalized := (py.lowerString resume).map fun character =>
    if character = '-' ∨ character = ' ' then '_' else character
  if normalized ∈ resumeStages then (data.set "resume_stage" (.string normalized), [])
  else
    (data.set "resume_stage" (.string ""),
      if resume = "" then []
      else ["unsupported advisory resume stage " ++ py.repr resume ++ " ignored"])

def settleEvidence (data : Payload) : Payload × List String :=
  let evidence := normalizeEvidence py (data.get "acceptance_evidence" .null)
  ((data.set "acceptance_evidence" evidence.1).set "implementation_summary"
    (.string (takeText 12000 (scalarText py (data.get "implementation_summary" .null)))),
    evidence.2)

/-- The retained and the discarded paths; all other candidates of a resolved incident are
retained, and no other decision keeps paths. -/
def settlePaths (kind : SupervisorDecisionKind) (candidatePaths : List String)
    (data : Payload) : Payload × List String :=
  let retain := normalizePaths py (data.get "retain_paths" .null) candidatePaths "retain_paths"
  let discard := normalizePaths py (data.get "discard_paths" .null) candidatePaths
    "discard_paths"
  let overlap := retain.1.filter fun path => path ∈ discard.1
  let discarded := discard.1.filter fun path => path ∉ overlap
  let inferred := if kind = .resolved then
    candidatePaths.filter fun path => path ∉ retain.1 ∧ path ∉ discarded else []
  let warnings := retain.2 ++ discard.2 ++
    (if overlap = [] then [] else
      ["paths listed in both retain_paths and discard_paths were treated as retained: " ++
        ", ".intercalate (overlap.mergeSort (· ≤ ·))]) ++
    (if inferred = [] then [] else
      ["resolved decision omitted workspace classifications; remaining incident " ++
        "candidates were inferred as retained"]) ++
    (if kind ≠ .resolved ∧ (retain.1 ≠ [] ∨ discarded ≠ []) then
      ["retain_paths/discard_paths ignored because decision " ++ py.repr kind.value ++
        " is not 'resolved'"] else [])
  let keeps := fun paths : List String => if kind = .resolved then paths else []
  ((data.set "retain_paths" (.array ((keeps (retain.1 ++ inferred)).map Json.string))).set
    "discard_paths" (.array ((keeps discarded).map Json.string)), warnings)

def settleDelegations (data : Payload) : Payload :=
  let isArray := fun value : Json =>
    match value with
    | .array _ => true
    | _ => false
  let delegations := data.get "delegations" .null
  let chosen := if delegations = .null then data.get "delegate" .null else delegations
  data.set "delegations" (if isArray chosen then chosen else .array [])

/-- Only a decision for the operator carries a question. -/
def settleQuestion (kind : SupervisorDecisionKind) (data : Payload) : Payload :=
  data.set "human_question"
    (if kind = .askHuman then
      .object (normalizeHumanQuestion py (data.get "human_question" .null)
        (py.text (data.get "summary" .null)))
    else .null)

/-- `_normalize_mapping`. -/
def normalizeMapping (candidatePaths : List String) (requireHuman : Bool) (raw : Payload) :
    Except String (Payload × List String) := do
  let merged := mergedPayload raw
  if merged.get "ok" .null = .bool false then
    .error "Supervisor explicitly reported ok=false"
  else
    let data := merged.set "ok" (.bool true)
    let (decided, kind, highImpact) ← settleDecision py requireHuman data
    let (classified, unknown) := settleClassification py decided
    let summarized ← settleSummary py classified (decisionText py data)
    let (resumed, resume) := settleResume py summarized
    let (evident, evidence) := settleEvidence py resumed
    let (located, paths) := settlePaths py kind candidatePaths evident
    return (settleQuestion py kind (settleDelegations located),
      highImpact ++ unknown ++ resume ++ evidence ++ paths)

/-! ## Prose -/

/-- The members that the lines of a text state. -/
structure ProseFields where
  decision : String := ""
  classification : String := ""
  resumeStage : String := ""
  summaryParts : List String := []
  bullets : List String := []

def readLine (fields : ProseFields) (line : List Char) : ProseFields :=
  match decisionLine line, classificationLine line, resumeLine line, summaryLine line,
      bullet py line with
  | some text, _, _, _, _ => { fields with decision := text }
  | none, some text, _, _, _ => { fields with classification := text }
  | none, none, some text, _, _ => { fields with resumeStage := text }
  | none, none, none, some text, _ =>
      { fields with summaryParts := fields.summaryParts ++ [text] }
  | none, none, none, none, some text =>
      { fields with bullets := fields.bullets ++ [text] }
  | none, none, none, none, none => fields

/-- The text behind a gap that a line break opens: white space up to its last line
break, where it has one. -/
def behindGap (text : List Char) : Option (List Char) :=
  let space := text.takeWhile isSpace
  if '\n' ∈ space then
    some ((space.reverse.takeWhile (· ≠ '\n')).reverse ++ text.dropWhile isSpace)
  else none

/-- `re.split(r"\n\s*\n", text)` with the fuel of its length. -/
def paragraphs : Nat → List Char → List (List Char)
  | 0, text => [text]
  | _ + 1, [] => [[]]
  | fuel + 1, character :: rest =>
      match (if character = '\n' then behindGap rest else none) with
      | some behind => [] :: paragraphs fuel behind
      | none =>
          match paragraphs fuel rest with
          | [] => [[character]]
          | head :: tail => (character :: head) :: tail

/-- The summary of a text: its summary lines, or its first paragraph. -/
def proseSummary (text : String) (fields : ProseFields) : String :=
  let stated := stripString (" ".intercalate fields.summaryParts)
  if stated ≠ "" then stated
  else
    (((paragraphs text.length text.toList).map fun part =>
      stripString (String.ofList part)).find? (· ≠ "")).getD (stripString text)

/-- `_parse_freeform_decision`. -/
def parseFreeformDecision (text : String) : Except String Payload :=
  let fields := (splitlines text.toList).foldl (readLine py) {}
  let decision :=
    if fields.decision ≠ "" then fields.decision else inferDecisionFromText py text
  if decision = "" then
    .error "plain-text Supervisor response has no recognizable decision"
  else
    .ok [("decision", .string decision), ("classification", .string fields.classification),
      ("summary", .string (takeText 12000 (proseSummary text fields))),
      ("instructions", .array (fields.bullets.map Json.string)),
      ("resume_stage", .string fields.resumeStage)]

/-! ## The compiler -/

structure Compilation where
  decision : SupervisorDecision
  warnings : List String := []
  source : String := "mapping"

def preferredKeys : List String :=
  ["decision", "summary", "classification", "instructions", "actions_taken",
    "human_question", "resume_stage"]

/-- The stripped candidate paths, each once. -/
def incidentPaths (candidatePaths : List String) : List String :=
  ((candidatePaths.map stripString).filter (· ≠ "")).eraseDups

/-- The texts of the answer, the newest first and each once. -/
def answerTexts (result : Payload) : List String :=
  let message :=
    match result.get "final_message" .null with
    | .string message => [message]
    | _ => []
  let recorded :=
    match result.get "structured_output_candidates" .null with
    | .array candidates => candidates.reverse.filterMap fun candidate =>
        match candidate with
        | .string text => some text
        | _ => none
    | _ => []
  (((message ++ recorded).map stripString).filter (· ≠ "")).eraseDups

/-- The mappings of the answer by authority: the structured payload, the public members,
the objects in the texts. -/
def answerMappings (result : Payload) : List (String × Payload) :=
  let structured :=
    match result.get "_execraft_structured_payload" .null with
    | .object fields => [("structured", fields)]
    | _ => []
  let members := publicPayload result
  let direct :=
    if ["decision", "summary", "classification", "instructions"].any members.has then
      [("mapping", members)]
    else []
  structured ++ direct ++ (answerTexts result).filterMap fun text =>
    (extractStructuredObject py.toOutputInterpreter preferredKeys text).map
      fun parsed => ("embedded_json", parsed)

/-- A decision from one mapping. -/
def compileMapping (candidatePaths : List String) (requireHuman : Bool)
    (source : String × Payload) : Except String Compilation := do
  let (normalized, warnings) ← normalizeMapping py candidatePaths requireHuman source.2
  let decision ← SupervisorDecision.fromMapping py.toPython normalized
  return { decision := decision, warnings := warnings, source := source.1 }

/-- A decision from the prose of a text. -/
def compileText (candidatePaths : List String) (requireHuman : Bool) (text : String) :
    Except String Compilation := do
  let mapping ← parseFreeformDecision py text
  let compiled ← compileMapping py candidatePaths requireHuman ("freeform", mapping)
  return { compiled with
    warnings := compiled.warnings ++
      ["compiled Supervisor decision from free-form text"] }

/-- The sources of a decision in the order in which they are tried. -/
def decisionAttempts (result : Payload) (candidatePaths : List String)
    (requireHuman : Bool) : List (Except String Compilation) :=
  let paths := incidentPaths candidatePaths
  ((answerMappings py result).map fun source =>
      (compileMapping py paths requireHuman source).mapError
        fun error => source.1 ++ ": " ++ error) ++
    (answerTexts result).map fun text =>
      (compileText py paths requireHuman text).mapError fun error => "freeform: " ++ error

/-- `compile_supervisor_decision`. -/
def compileSupervisorDecision (result : Payload) (candidatePaths : List String)
    (requireHuman : Bool) : Except String Compilation :=
  (firstOk (decisionAttempts py result candidatePaths requireHuman)).mapError fun errors =>
    "Supervisor result has no usable semantic decision: " ++
      (if errors = [] then "no decision payload or final message was returned"
      else "; ".intercalate (errors.drop (errors.length - 4)))

end Prose

end Execraft.Orchestrate
