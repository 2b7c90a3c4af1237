import Execraft.Orchestrate.AgentSelection
import Execraft.Orchestrate.StructuredOutput

/-!
# Decisions of the Supervisor

The strict decision object: what a decision, its delegations and its question to the
operator must hold to be built from a mapping.
-/

namespace Execraft.Orchestrate

open Foundation Foundation.Json Foundation.Text

inductive SupervisorDecisionKind where
  | resolved
  | delegate
  | askHuman
  | blocked
  deriving DecidableEq, Repr

def SupervisorDecisionKind.value : SupervisorDecisionKind → String
  | resolved => "resolved"
  | delegate => "delegate"
  | askHuman => "ask_human"
  | blocked => "blocked"

def SupervisorDecisionKind.ofValue (text : String) : Option SupervisorDecisionKind :=
  [resolved, delegate, askHuman, blocked].find? fun kind => kind.value = text

inductive IncidentClass where
  | workspaceScope
  | evidenceMismatch
  | reviewExhausted
  | commitTransaction
  | testFailure
  | stateInconsistency
  | agentFailure
  | requirementAmbiguity
  | externalDependency
  | unknown
  deriving DecidableEq, Repr

namespace IncidentClass

def value : IncidentClass → String
  | workspaceScope => "workspace_scope"
  | evidenceMismatch => "evidence_mismatch"
  | reviewExhausted => "review_exhausted"
  | commitTransaction => "commit_transaction"
  | testFailure => "test_failure"
  | stateInconsistency => "state_inconsistency"
  | agentFailure => "agent_failure"
  | requirementAmbiguity => "requirement_ambiguity"
  | externalDependency => "external_dependency"
  | unknown => "unknown"

def ofValue (text : String) : Option IncidentClass :=
  [workspaceScope, evidenceMismatch, reviewExhausted, commitTransaction, testFailure,
    stateInconsistency, agentFailure, requirementAmbiguity, externalDependency,
    unknown].find? fun incident => incident.value = text

end IncidentClass

inductive HumanDecisionRisk where
  | routine
  | destructive
  | product
  | external
  | unknown
  deriving DecidableEq, Repr

namespace HumanDecisionRisk

def value : HumanDecisionRisk → String
  | routine => "routine"
  | destructive => "destructive"
  | product => "product"
  | external => "external"
  | unknown => "unknown"

def ofValue (text : String) : Option HumanDecisionRisk :=
  [routine, destructive, product, external, unknown].find? fun risk => risk.value = text

end HumanDecisionRisk

/-- `AgentCapability(text)`, where it does not raise. -/
def AgentCapability.ofValue (text : String) : Option AgentCapability :=
  [plan, decompose, implement, review, fixReview, brief, close, verify, supervise].find?
    fun capability => capability.value = text

/-- `WorkPackageStage(text)`, where it does not raise. -/
def WorkPackageStage.ofValue (text : String) : Option WorkPackageStage :=
  [prepare, decompose, implement, fastVerify, targetedVerify, review, fixReview,
    regressionVerify, finalReview, fullVerify, readyToCommit, completed].find?
      fun stage => stage.value = text

/-! ## Parts -/

section Parts

variable (py : Python)

/-- `_text`. -/
def boundedText (value : Json) (label : String) (maximum : Nat) (required : Bool) :
    Except String String :=
  let text := py.textOr value
  if required ∧ text = "" then .error (label ++ " is required")
  else if maximum < text.length then
    .error (label ++ " exceeds the " ++ toString maximum ++ "-character limit")
  else .ok text

/-- `str(raw.get(name, default)).strip()`. -/
def strippedMember (raw : Payload) (name default : String) : String :=
  stripString (py.text (raw.get name (.string default)))

structure SupervisorDelegation where
  task : String
  capability : AgentCapability
  agentId : String := ""
  skillIds : List String := []
  readOnly : Bool := false
  deriving DecidableEq, Repr

def SupervisorDelegation.fromMapping (raw : Payload) : Except String SupervisorDelegation := do
  let task ← boundedText py (raw.get "task" (.string "")) "delegation.task" 8000 true
  match AgentCapability.ofValue (strippedMember py raw "capability" "") with
  | none => .error ("unsupported delegation capability: " ++
      reprOf py (raw.get "capability" .null))
  | some capability =>
      if capability ∉ [.implement, .review, .fixReview] then
        .error ("supervisor cannot delegate capability " ++ py.repr capability.value)
      else
        match raw.get "skills" (.array []) with
        | .array skills =>
            if 16 < skills.length then
              .error "delegation.skills cannot contain more than 16 entries"
            else
              match raw.get "read_only" (.bool (capability = .review)) with
              | .bool readOnly =>
                  if capability = .review ∧ readOnly = false then
                    .error "review delegations must be read_only"
                  else
                    .ok { task := task
                          capability := capability
                          agentId := strippedMember py raw "agent_id" ""
                          skillIds := ((skills.map fun item =>
                            stripString (py.text item)).filter (· ≠ "")).eraseDups
                          readOnly := readOnly }
              | _ => .error "delegation.read_only must be a boolean"
        | _ => .error "delegation.skills must be a list"

structure HumanDecisionOption where
  id : String
  label : String
  consequence : String := ""
  weight : Option Int := none
  risk : HumanDecisionRisk := .unknown
  deriving DecidableEq, Repr

/-- The weight of an option, where it has one. -/
def optionWeight (raw : Payload) (optionId : String) : Except String (Option Int) :=
  let label := "human decision option " ++ py.repr optionId ++ " weight must be "
  match raw.get "weight" .null with
  | .null => .ok none
  | .bool _ => .error (label ++ "an integer")
  | value =>
      match py.toInt value with
      | none => .error (label ++ "an integer")
      | some weight =>
          if 0 ≤ weight ∧ weight ≤ 100 then .ok (some weight)
          else .error (label ++ "between 0 and 100")

def HumanDecisionOption.fromMapping (raw : Payload) : Except String HumanDecisionOption := do
  let id ← boundedText py (raw.get "id" (.string "")) "human decision option id" 64 true
  let name := "human decision option " ++ py.repr id
  let label ← boundedText py (raw.get "label" (.string "")) (name ++ " label") 300 true
  if py.isidentifier (id.map fun character => if character = '-' then '_' else character) =
      false then
    .error ("invalid human decision option id: " ++ py.repr id)
  else if id = "stop" then
    .error "human decision option id 'stop' is reserved"
  else
    let weight ← optionWeight py raw id
    match HumanDecisionRisk.ofValue (strippedMember py raw "risk" "unknown") with
    | none => .error ("unsupported human decision option risk: " ++
        reprOf py (raw.get "risk" .null))
    | some risk =>
        let consequence ← boundedText py (raw.get "consequence" (.string ""))
          (name ++ " consequence") 1200 false
        return { id := id
                 label := label
                 consequence := consequence
                 weight := weight
                 risk := risk }

structure HumanDecisionRequest where
  question : String
  context : String
  options : List HumanDecisionOption
  recommendedOption : String := ""
  deriving DecidableEq, Repr

/-- The mappings of a list, all of whose elements are mappings. -/
def mappingsOf (elements : List Json) : Option (List Payload) :=
  elements.mapM fun element =>
    match element with
    | .object fields => some fields
    | _ => none

/-- The weights are those of all options, sum up to a hundred and favour the
recommendation. -/
def checkWeights (options : List HumanDecisionOption) (recommended : String) :
    Except String Unit :=
  let supplied := options.filterMap HumanDecisionOption.weight
  if supplied = [] then .ok ()
  else if supplied.length ≠ options.length then
    .error "human_question options must either all declare weight or all omit it"
  else if supplied.foldr (· + ·) 0 ≠ 100 then
    .error "human_question option weights must sum to 100"
  else if recommended ≠ "" ∧ ((options.filter fun option =>
      option.id = recommended).getLast?.bind HumanDecisionOption.weight) ≠ supplied.max? then
    .error "recommended_option must reference a highest-weight option"
  else .ok ()

def HumanDecisionRequest.fromMapping (raw : Payload) :
    Except String HumanDecisionRequest := do
  let question ← boundedText py (raw.get "question" (.string "")) "human_question.question"
    2000 true
  let context ← boundedText py (raw.get "context" (.string "")) "human_question.context"
    8000 false
  match raw.get "options" (.array []) with
  | .array elements =>
      if elements.length < 2 ∨ 6 < elements.length then
        .error "human_question.options must contain 2 to 6 options"
      else
        let options ← (elements.filterMap fun element =>
          match element with
          | .object fields => some fields
          | _ => none).mapM (HumanDecisionOption.fromMapping py)
        let recommended := strippedMember py raw "recommended_option" ""
        let ids := options.map HumanDecisionOption.id
        if options.length ≠ elements.length then
          .error "every human_question option must be an object"
        else if ¬ ids.Nodup then
          .error "human_question option IDs must be unique"
        else if recommended ≠ "" ∧ recommended ∉ ids then
          .error "recommended_option must reference a declared option"
        else
          checkWeights options recommended
          return { question := question
                   context := context
                   options := options
                   recommendedOption := recommended }
  | _ => .error "human_question.options must contain 2 to 6 options"

end Parts

/-! ## The decision -/

structure SupervisorDecision where
  decision : SupervisorDecisionKind
  classification : IncidentClass
  summary : String
  actionsTaken : List String := []
  resumeStage : Option WorkPackageStage := none
  delegations : List SupervisorDelegation := []
  humanQuestion : Option HumanDecisionRequest := none
  acceptanceEvidence : List (String × String) := []
  implementationSummary : String := ""
  retainPaths : List String := []
  discardPaths : List String := []
  deriving DecidableEq, Repr

namespace SupervisorDecision

variable (py : Python)

/-- A list member within its bound. -/
def listMember (raw : Payload) (name : String) (maximum : Nat) :
    Except String (List Json) :=
  match raw.get name (.array []) with
  | .array elements =>
      if maximum < elements.length then
        .error (name ++ " cannot contain more than " ++ toString maximum ++ " entries")
      else .ok elements
  | _ => .error (name ++ " must be a list")

def parseResumeStage (raw : Payload) : Except String (Option WorkPackageStage) :=
  let text := strippedMember py raw "resume_stage" ""
  if text = "" then .ok none
  else
    match WorkPackageStage.ofValue text with
    | none => .error ("unsupported resume_stage: " ++ py.repr text)
    | some .completed => .error "supervisor cannot mark a package completed directly"
    | some stage => .ok (some stage)

def parseDelegations (raw : Payload) : Except String (List SupervisorDelegation) := do
  let elements ← listMember raw "delegations" 32
  let delegations ← (elements.filterMap fun element =>
    match element with
    | .object fields => some fields
    | _ => none).mapM (SupervisorDelegation.fromMapping py)
  if delegations.length ≠ elements.length then
    .error "every delegation must be an object"
  else
    return delegations

def parseQuestion (raw : Payload) : Except String (Option HumanDecisionRequest) :=
  match raw.get "human_question" .null with
  | .object fields =>
      if strippedMember py fields "question" "" ≠ "" then
        (HumanDecisionRequest.fromMapping py fields).map some
      else .ok none
  | _ => .ok none

/-- The criteria with their evidence as a mapping or a list gives them. -/
def evidenceItems (raw : Payload) : Except String (List (Json × Json)) :=
  match raw.get "acceptance_evidence" (.object []) with
  | .object fields => .ok (fields.map fun field => (.string field.1, field.2))
  | .array elements =>
      match mappingsOf elements with
      | none => .error "every acceptance_evidence entry must be an object"
      | some items => .ok (items.map fun item =>
          (item.get "criterion_id" (.string ""), item.get "evidence" (.string "")))
  | _ => .error "acceptance_evidence must be an object or list"

def parseEvidence (raw : Payload) : Except String (List (String × String)) := do
  let items ← evidenceItems raw
  let evidence ← items.foldlM (fun evidence item => do
    let id ← boundedText py item.1 "acceptance criterion id" 256 true
    if id ∈ evidence.map Prod.fst then
      .error ("duplicate acceptance criterion id: " ++ py.repr id)
    else
      let text ← boundedText py item.2 "acceptance evidence" 8000 true
      return evidence ++ [(id, text)]) []
  if 128 < evidence.length then
    .error "acceptance_evidence exceeds 128 entries"
  else
    return evidence

/-- A path behind the repository it is in. -/
def isQualified (path : List Char) : Bool :=
  let relative := (path.dropWhile (· ≠ ':')).tail
  path.takeWhile (· ≠ ':') ≠ [] ∧ ':' ∈ path ∧ relative ≠ [] ∧ relative.head? ≠ some '/'

def qualifiedPaths (raw : Payload) (name : String) : Except String (List String) := do
  let elements ← listMember raw name 512
  elements.foldlM (fun normalized item =>
    let value := stripString (py.text item)
    if value ∈ normalized then .ok normalized
    else if isQualified value.toList = false ∨ 4096 < value.length then
      .error (name ++ " contains an invalid repository-qualified path: " ++ py.repr value)
    else .ok (normalized ++ [value])) []

/-- What belongs to one kind of decision stands with that kind only. -/
def checkKind (decision : SupervisorDecision) : Except String SupervisorDecision :=
  if decision.decision = .delegate ∧ decision.delegations = [] then
    .error "delegate decision requires at least one delegation"
  else if decision.decision = .askHuman ∧ decision.humanQuestion = none then
    .error "ask_human decision requires human_question"
  else if decision.decision ≠ .askHuman ∧ decision.humanQuestion ≠ none then
    .error "human_question is valid only with ask_human"
  else if decision.decision ≠ .delegate ∧ decision.delegations ≠ [] then
    .error "delegations are valid only with delegate"
  else if decision.decision ≠ .resolved ∧
      (decision.retainPaths ≠ [] ∨ decision.discardPaths ≠ []) then
    .error "retain_paths and discard_paths are valid only with resolved"
  else .ok decision

def parseKind (raw : Payload) : Except String SupervisorDecisionKind :=
  if raw.get "ok" .null ≠ .bool true then
    .error "supervisor decision must set ok=true"
  else
    match SupervisorDecisionKind.ofValue (strippedMember py raw "decision" "") with
    | none =>
        .error "supervisor decision must be resolved, delegate, ask_human, or blocked"
    | some decision => .ok decision

def parseClassification (raw : Payload) : Except String IncidentClass :=
  match IncidentClass.ofValue (strippedMember py raw "classification" "unknown") with
  | none => .error ("unsupported supervisor classification: " ++
      reprOf py (raw.get "classification" .null))
  | some classification => .ok classification

/-- `SupervisorDecision.from_mapping`. -/
def fromMapping (raw : Payload) : Except String SupervisorDecision := do
  let decision ← parseKind py raw
  let classification ← parseClassification py raw
  let summary ← boundedText py (raw.get "summary" (.string "")) "supervisor summary" 12000
    true
  let actions ← listMember raw "actions_taken" 32
  let actionsTaken ← actions.mapM fun item =>
    boundedText py item "actions_taken item" 4000 true
  let resumeStage ← parseResumeStage py raw
  let delegations ← parseDelegations py raw
  let question ← parseQuestion py raw
  let evidence ← parseEvidence py raw
  let implementationSummary ← boundedText py (raw.get "implementation_summary" (.string ""))
    "implementation_summary" 12000 false
  let retain ← qualifiedPaths py raw "retain_paths"
  let discard ← qualifiedPaths py raw "discard_paths"
  let overlap := retain.filter fun path => path ∈ discard
  if overlap ≠ [] then
    .error ("supervisor cannot both retain and discard paths: " ++
      ", ".intercalate (overlap.mergeSort (· ≤ ·)))
  else
    checkKind
      { decision := decision
        classification := classification
        summary := summary
        actionsTaken := actionsTaken
        resumeStage := resumeStage
        delegations := delegations
        humanQuestion := question
        acceptanceEvidence := evidence
        implementationSummary := implementationSummary
        retainPaths := retain
        discardPaths := discard }

end SupervisorDecision

end Execraft.Orchestrate
