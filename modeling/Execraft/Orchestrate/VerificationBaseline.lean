import Execraft.Foundation.Outcome
import Execraft.Orchestrate.FailureFingerprints
import Execraft.Orchestrate.PlanGraph

/-!
# Accepted verification baselines

An operator accepts the failures of some commands for one package; later results of these
commands pass while they report no other failures.
-/

namespace Execraft.Orchestrate.Baseline

open Foundation Foundation.Json

section Persisted

variable (py : BaselineInterpreter)

/-- `str(data.get(name, "")).strip()` -/
def strippedMember (data : Row) (name : String) : String :=
  stripString (py.text (data.get name (.string "")))

/-- `int(data.get(name, 0) or 0)` -/
def integerMember (data : Row) (name : String) : Except String Int :=
  let value := data.get name (.int 0)
  if truthy value = false then .ok 0
  else
    match py.toInt value with
    | some number => .ok number
    | none => .error (name ++ " is not an integer")

/-- The mappings among some values. -/
def mappings (values : List Json) : List Row :=
  values.filterMap fun value =>
    match value with
    | .object fields => some fields
    | _ => none

namespace FailureFingerprint

def asMapping (item : FailureFingerprint) : Row :=
  [("identifier", .string item.identifier), ("signature", .string item.signature),
    ("excerpt", .string item.excerpt)]

def fromMapping (data : Row) : FailureFingerprint where
  identifier := strippedMember py data "identifier"
  signature := strippedMember py data "signature"
  excerpt := strippedMember py data "excerpt"

end FailureFingerprint

/-- `_failure_from_persisted_mapping`. -/
def failureFromPersistedMapping (schema : Int) (data : Row) : Option FailureFingerprint :=
  let parsed := FailureFingerprint.fromMapping py data
  let identity := canonicalTestIdentity parsed.identifier
  if identity = "" then none
  else if 2 ≤ schema ∧ parsed.signature ≠ "" then
    some ⟨identity, parsed.signature, parsed.excerpt⟩
  else if parsed.excerpt ≠ "" then some (fingerprint py identity parsed.excerpt)
  else if parsed.signature = "" then none
  else some ⟨identity, parsed.signature, ""⟩

/-- One round of `_deduplicate_failure_fingerprints`. -/
def canonicalFailure (item : FailureFingerprint) : Option FailureFingerprint :=
  let identity := canonicalTestIdentity item.identifier
  if identity = "" then none else some { item with identifier := identity }

/-- `_deduplicate_failure_fingerprints`. -/
def deduplicateFailureFingerprints (failures : List FailureFingerprint) :
    List FailureFingerprint :=
  richest (failures.filterMap canonicalFailure)

/-- The failures that some rows persist, or those of an excerpt. -/
def persistedFailures (schema : Int) (rows : List Row) (excerpt : String) :
    List FailureFingerprint :=
  let parsed := rows.filterMap (failureFromPersistedMapping py schema)
  if parsed = [] then extractFailureFingerprints py excerpt
  else deduplicateFailureFingerprints parsed

/-- `failure_fingerprints_from_mapping`. -/
def failureFingerprintsFromMapping (data : Row) : Except String (List FailureFingerprint) :=
  let excerpt := py.text (data.get "relevant_excerpt" (.string ""))
  match data.get "failures" .null with
  | .array raw => do
      let schema ← integerMember py data "failure_fingerprint_schema"
      return persistedFailures py schema (mappings raw) excerpt
  | _ => .ok (extractFailureFingerprints py excerpt)

end Persisted

/-! ## Results -/

structure VerificationResult where
  command : String
  returncode : Int := 0
  durationSeconds : String := "0.0"
  repositoryId : String := ""
  stdoutFingerprint : String := ""
  relevantExcerpt : String := ""
  status : String := ""
  failures : List Row := []
  failureFingerprintSchema : Int := 2

def VerificationResult.asMapping (result : VerificationResult) : Row :=
  [("command", .string result.command), ("repository_id", .string result.repositoryId),
    ("returncode", .int result.returncode), ("duration_seconds", .float result.durationSeconds),
    ("stdout_fingerprint", .string result.stdoutFingerprint),
    ("relevant_excerpt", .string result.relevantExcerpt),
    ("status", .string (if result.status ≠ "" then result.status
      else if result.returncode = 0 then "passed" else "failed")),
    ("failures", .array (result.failures.map Json.object)),
    ("failure_fingerprint_schema", .int result.failureFingerprintSchema)]

section Acceptance

variable (py : BaselineInterpreter)

/-- `failure_fingerprints_for_result`. -/
def failureFingerprintsForResult (result : VerificationResult) : List FailureFingerprint :=
  persistedFailures py result.failureFingerprintSchema result.failures result.relevantExcerpt

/-- `command_baseline_entry`. -/
def commandBaselineEntry (repositoryId command : String)
    (failures : List FailureFingerprint) : Row :=
  [("repository_id", .string repositoryId), ("command", .string command),
    ("command_digest", .string (commandDigest py command)),
    ("failures", .array (failures.map fun item => .object item.asMapping))]

/-- The entries for some failed commands, unless one of them is not identified. -/
def baselineEntries : List Row → Except String (Option (List Row))
  | [] => .ok (some [])
  | row :: rest => do
      let command := strippedMember py row "command"
      let repositoryId := strippedMember py row "repository_id"
      let failures ← failureFingerprintsFromMapping py row
      if command = "" ∨ failures = [] then
        return none
      else
        let entries ← baselineEntries rest
        return entries.map fun others =>
          commandBaselineEntry py repositoryId command failures :: others

/-- `build_baseline_acceptance`. -/
def buildBaselineAcceptance (packageId profile : String) (failedCommands : List Row)
    (acceptedBy acceptedAt incidentId authorizationText : String) :
    Except String (Option Row) := do
  match ← baselineEntries py failedCommands with
  | none => return none
  | some [] => return none
  | some commands =>
      return some
        [("schema_version", .int 1), ("fingerprint_schema", .int 2),
          ("package_id", .string packageId), ("profile", .string profile),
          ("accepted_by", .string acceptedBy), ("accepted_at", .string acceptedAt),
          ("incident_id", .string incidentId),
          ("authorization_text",
            .string (String.ofList (authorizationText.toList.take 4000))),
          ("expires_on", .string "package_completion"),
          ("commands", .array (commands.map Json.object))]

/-- `iterate`, and the error for what cannot be looped over. -/
def elements (value : Json) : Except String (List Json) :=
  match iterate value with
  | some values => .ok values
  | none => .error "object is not iterable"

/-- Whether an entry is the one of a command. -/
def isEntryOf (repositoryId command : String) (entry : Row) : Bool :=
  strippedMember py entry "repository_id" = repositoryId ∧
    strippedMember py entry "command_digest" = commandDigest py command ∧
      strippedMember py entry "command" = stripString command

/-- `_accepted_command`. -/
def acceptedCommand (acceptance : Row) (repositoryId command : String) :
    Except String (Option Row) := do
  let commands ← elements (acceptance.get "commands" (.array []))
  return (mappings commands).find? (isEntryOf py repositoryId command)

/-- The tests of an entry with their signatures. -/
def acceptedFailures (acceptance entry : Row) : Except String (List FailureFingerprint) := do
  let rows ← elements (entry.get "failures" (.array []))
  match mappings rows with
  | [] => return []
  | persisted =>
      let schema ← integerMember py acceptance "fingerprint_schema"
      return persisted.filterMap (failureFromPersistedMapping py schema)

structure BaselineMatch where
  accepted : Bool
  repositoryId : String
  commandDigest : String
  observed : List FailureFingerprint := []
  unexpected : List FailureFingerprint := []
  reason : String := ""

/-- What identifies a failure. -/
def FailureFingerprint.pair (item : FailureFingerprint) : String × String :=
  (item.identifier, item.signature)

/-- `match_result_against_baseline`. -/
def matchResultAgainstBaseline (acceptance : Row)
    (packageId profile repositoryId command : String) (result : VerificationResult)
    (packageCompleted : Bool) : Except String BaselineMatch :=
  let rejected (reason : String) : BaselineMatch :=
    { accepted := false, repositoryId, commandDigest := commandDigest py command, reason }
  if acceptance = [] then .ok (rejected "no acceptance")
  else if packageCompleted then .ok (rejected "package completed")
  else if py.text (acceptance.get "package_id" (.string "")) ≠ packageId then
    .ok (rejected "package mismatch")
  else if py.text (acceptance.get "profile" (.string "")) ≠ profile then
    .ok (rejected "profile mismatch")
  else do
    match ← acceptedCommand py acceptance repositoryId command with
    | none => return rejected "command not authorized"
    | some entry =>
        let observed := failureFingerprintsForResult py result
        if observed = [] then
          return rejected "failed command has no individually fingerprinted test failures"
        else
          let known ← acceptedFailures py acceptance entry
          let accepted := (known.filter fun item =>
            item.identifier ≠ "" ∧ item.signature ≠ "").map FailureFingerprint.pair
          let unexpected := observed.filter fun item => item.pair ∉ accepted
          return {
            accepted := unexpected = []
            repositoryId
            commandDigest := commandDigest py command
            observed
            unexpected
            reason :=
              if unexpected = [] then "all observed failures match accepted baseline"
              else "unexpected failure fingerprint" }

/-- Whether an acceptance covers the failures of a row. -/
def coversRow (acceptance row : Row) : Except String Bool := do
  let command := strippedMember py row "command"
  let repositoryId := strippedMember py row "repository_id"
  if command = "" then
    return false
  else
    match ← acceptedCommand py acceptance repositoryId command with
    | none => return false
    | some entry =>
        let observed ← failureFingerprintsFromMapping py row
        if observed = [] then
          return false
        else
          let known ← acceptedFailures py acceptance entry
          return observed.all fun item => item.pair ∈ known.map FailureFingerprint.pair

/-- The rows in turn; the first one that is not covered decides. -/
def coversRows (acceptance : Row) : List Row → Except String Bool
  | [] => .ok true
  | row :: rest => do
      if ← coversRow py acceptance row then
        coversRows acceptance rest
      else
        return false

/-- `acceptance_covers_failed_rows`. -/
def acceptanceCoversFailedRows (acceptance : Row) (packageId profile : String)
    (failedRows : List Row) : Except String Bool :=
  if failedRows = [] ∨ py.text (acceptance.get "package_id" (.string "")) ≠ packageId ∨
      py.text (acceptance.get "profile" (.string "")) ≠ profile then
    .ok false
  else coversRows py acceptance failedRows

end Acceptance

end Execraft.Orchestrate.Baseline
