import Execraft.Orchestrate.PlanGraph

/-!
# Acceptance evidence

What a journal proves about the criteria of an aggregate package: the verification and
the review that are found in it, together with the assessments of the shards.
-/

namespace Execraft.Orchestrate

open Foundation Foundation.Json Foundation.Text

/-! ## The journal -/

structure JournalEntry where
  sequence : Int
  eventType : String
  payload : Row

/-- `EventJournal.append`. -/
def appendEntry (journal : List JournalEntry) (eventType : String) (payload : Row) :
    List JournalEntry :=
  journal ++
    [⟨((journal.getLast?.map JournalEntry.sequence).getD 0) + 1, eventType, payload⟩]

namespace JournalEntry

/-- `after < entry.sequence < before`. -/
def between (after before : Int) (entry : JournalEntry) : Bool :=
  after < entry.sequence ∧ entry.sequence < before

/-- `_VERIFICATION_TERMINAL_EVENTS`. -/
def isTerminal (entry : JournalEntry) : Bool :=
  entry.eventType ∈ ["verification_passed", "verification_passed_with_accepted_baseline",
    "verification_failed"]

def isCommandRun (entry : JournalEntry) : Bool :=
  entry.eventType = "verification_command_run"

def isReviewResult (entry : JournalEntry) : Bool :=
  entry.eventType = "review_result"

variable (py : Python) (entry : JournalEntry)

/-- `str(entry.payload.get(name, default))`. -/
def member (name default : String) : String :=
  py.text (entry.payload.get name (.string default))

/-- The member, stripped and in lower case. -/
def token (name default : String) : String :=
  py.lowerString (stripString (entry.member py name default))

def isApproval : Bool :=
  entry.isReviewResult ∧ py.lowerString (entry.member py "verdict" "") = "approved"

/-- The result of an agent in one of the capabilities. -/
def isResultOf (capabilities : List String) : Bool :=
  entry.eventType = "agent_result_persisted" ∧
    entry.member py "capability" "" ∈ capabilities

/-- A result that changes the package. -/
def isMutation : Bool :=
  entry.isResultOf py ["implement", "fix_review"]

end JournalEntry

/-- `max(sequences, default=default)`. -/
def largestSequence (entries : List JournalEntry) (default : Int) : Int :=
  (entries.map JournalEntry.sequence).max?.getD default

section Evidence

variable (py : Python)

/-! ## Verification -/

/-- A terminal event that accepts the verification. -/
def acceptsVerification (event : JournalEntry) : Bool :=
  event.eventType = "verification_passed" ∨
    (event.eventType = "verification_passed_with_accepted_baseline" ∧
      event.token py "effective_status" "" ∈ ["", "passed_with_accepted_baseline"])

/-- `_latest_accepted_verification_event`. -/
def latestAcceptedVerificationEvent (entries : List JournalEntry) (after before : Int) :
    Option JournalEntry :=
  match (entries.filter fun entry => entry.between after before ∧ entry.isTerminal).getLast? with
  | none => none
  | some latest => if acceptsVerification py latest then some latest else none

structure VerificationEvidence where
  entries : List JournalEntry
  status : String
  acceptedBaselineMatches : List Row

/-- `raw or []`, where it can be looped over. -/
def itemsOrNone (raw : Json) : Except String (List Json) :=
  if truthy raw then
    match iterate raw with
    | some items => .ok items
    | none => .error "TypeError"
  else .ok []

/-- The mappings among some values. -/
def mappingItems (items : List Json) : List Row :=
  items.filterMap fun item =>
    match item with
    | .object fields => some fields
    | _ => none

/-- `_collect_verification_evidence`. -/
def collectVerificationEvidence (entries : List JournalEntry) (after before : Int) :
    Except String (Option VerificationEvidence) :=
  let terminal := entries.filter fun entry => entry.between after before ∧ entry.isTerminal
  match latestAcceptedVerificationEvent py entries after before with
  | some event =>
      let previous := largestSequence (entries.filter fun entry =>
        entry.between after event.sequence ∧ entry.isTerminal) after
      let commands := entries.filter fun entry =>
        entry.between previous event.sequence ∧ entry.isCommandRun
      if commands.isEmpty then .ok none
      else do
        let matched ← itemsOrNone (event.payload.get "accepted_baseline_matches" .null)
        return some {
          entries := commands
          status := event.token py "effective_status" "passed"
          acceptedBaselineMatches := mappingItems matched }
  | none =>
      if terminal.isEmpty then
        -- Older journals have no terminal events: all commands must have passed.
        let commands := entries.filter fun entry =>
          entry.between after before ∧ entry.isCommandRun
        if commands.isEmpty ∨ ¬ commands.all fun entry => entry.token py "status" "" = "passed"
        then .ok none
        else .ok (some ⟨commands, "passed", []⟩)
      else .ok none

/-! ## The bundle -/

structure CommandRecord where
  repositoryId : String
  command : String
  status : String
  returncode : Int
  stdoutFingerprint : String
  deriving DecidableEq, Repr

/-- What the bundle reports of one command. -/
def commandRecord (entry : JournalEntry) : Except String CommandRecord :=
  match py.toInt (entry.payload.get "returncode" (.int 0)) with
  | none => .error "ValueError"
  | some returncode => .ok {
      repositoryId := entry.member py "repository_id" ""
      command := entry.member py "command" ""
      status := entry.member py "status" ""
      returncode := returncode
      stdoutFingerprint := entry.member py "stdout_fingerprint" "" }

structure AcceptanceEvidenceBundle where
  criterionIds : List String
  verificationProfile : String
  verificationCommands : List CommandRecord
  verificationSequences : List Int
  verificationStatus : String
  acceptedBaselineMatches : List Row
  reviewSequence : Int
  reviewerId : String
  reviewStage : String
  reviewArtifact : Row
  childEvidence : List Row
  legacyObservations : List String

/-- The criteria without evidence. -/
def unprovenCriteria (package : WorkPackage) : List AcceptanceCriterion :=
  package.acceptanceCriteria.filter fun criterion =>
    criterion.verified = false ∨ stripString criterion.evidence = ""

/-- `_is_aggregate_package`. -/
def isAggregatePackage (package : WorkPackage) (children : List Row) : Bool :=
  package.executionMode = "aggregate" ∨ package.runtime.shardIds ≠ [] ∨
    children.isEmpty = false

/-- A shard is completed and what it commits is there. -/
def childSatisfied (child : Row) : Bool :=
  child.get "completed" .null = .bool true ∧
    child.get "commit_satisfied" .null = .bool true

def childId (child : Row) : String :=
  stripString (py.text (child.get "package_id" (.string "")))

/-- There are assessments, of exactly the declared shards where any is declared, and all
are satisfied. -/
def childrenSatisfied (package : WorkPackage) (children : List Row) : Bool :=
  let expected := package.runtime.shardIds
  let evidenced := children.map (childId py)
  children.isEmpty = false ∧
    (expected = [] ∨ (evidenced ⊆ expected ∧ expected ⊆ evidenced)) ∧
    children.all childSatisfied

/-- The entries of one package. -/
def entriesOf (package : WorkPackage) (journal : List JournalEntry) :
    List JournalEntry :=
  journal.filter fun entry => entry.member py "package_id" "" = package.id

/-- The latest approved review. -/
def latestApproval (entries : List JournalEntry) : Option JournalEntry :=
  entries.reverse.find? fun entry => entry.isApproval py

/-- The sequence of the last change before the review. -/
def mutationSequence (entries : List JournalEntry) (review : JournalEntry) : Int :=
  largestSequence (entries.filter fun entry =>
    entry.sequence < review.sequence ∧ entry.isMutation py) 0

/-- The latest result of a reviewer before the review. -/
def reviewArtifactEntry (entries : List JournalEntry) (review : JournalEntry) :
    Option JournalEntry :=
  entries.reverse.find? fun entry =>
    entry.sequence < review.sequence ∧ entry.isResultOf py ["review"]

/-- The artifact of a result, where it names its path. -/
def artifactOf (entry : JournalEntry) : Option Row :=
  match entry.payload.get "artifact" .null with
  | .object fields =>
      let fields : Row := fields
      if stripString (py.text (fields.get "path" (.string ""))) = "" then none else some fields
  | _ => none

/-- The findings that an approval comes with. -/
def legacyObservations (review : JournalEntry) : Except String (List String) := do
  let items ← itemsOrNone (review.payload.get "findings" .null)
  return (items.map fun item => stripString (py.text item)).filter (· ≠ "")

/-- The bundle from its sources. -/
def evidenceBundle (package : WorkPackage) (children : List Row) (review reviewed : JournalEntry)
    (artifact : Row) (verification : Option VerificationEvidence)
    (findings : List String) (commands : List CommandRecord) : AcceptanceEvidenceBundle where
  criterionIds := (unprovenCriteria package).map AcceptanceCriterion.id
  verificationProfile := package.verificationProfile
  verificationCommands := commands
  verificationSequences := (verification.elim [] VerificationEvidence.entries).map
    JournalEntry.sequence
  verificationStatus := verification.elim "passed" VerificationEvidence.status
  acceptedBaselineMatches := verification.elim [] VerificationEvidence.acceptedBaselineMatches
  reviewSequence := review.sequence
  reviewerId := reviewed.member py "agent_id" ""
  reviewStage := reviewed.member py "stage" "review"
  reviewArtifact := artifact
  childEvidence := children
  legacyObservations := findings

/-- `collect_acceptance_evidence`; the error is that of a value that the journal should
not hold. -/
def collectAcceptanceEvidence (package : WorkPackage) (journal : List JournalEntry)
    (requireVerification : Bool) (children : List Row) :
    Except String (Option AcceptanceEvidenceBundle) :=
  if (unprovenCriteria package).isEmpty ∨ isAggregatePackage package children = false ∨
      childrenSatisfied py package children = false then .ok none
  else
    let entries := entriesOf py package journal
    match latestApproval py entries with
    | none => .ok none
    | some review => do
        let verification ← collectVerificationEvidence py entries
          (mutationSequence py entries review) review.sequence
        if requireVerification ∧ verification.isNone then .ok none
        else
          match reviewArtifactEntry py entries review with
          | none => .ok none
          | some reviewed =>
              match artifactOf py reviewed with
              | none => .ok none
              | some artifact => do
                  let findings ← legacyObservations py review
                  let commands ← (verification.elim [] VerificationEvidence.entries).mapM
                    (commandRecord py)
                  return some (evidenceBundle py package children review reviewed artifact
                    verification findings commands)

end Evidence

end Execraft.Orchestrate
