import Execraft.Orchestrate.BaselineAgreement
import Execraft.Orchestrate.Verification

/-!
# Verification again after a baseline was accepted

A failed verification leaves the rows of its failed commands, the operator accepts their
failures, and the package is verified again.
-/

namespace Execraft.Orchestrate.Baseline

open Foundation Foundation.Json Foundation.Text

/-! ## Commands -/

structure VerificationCommand where
  command : String
  repositoryId : String := ""
  expectedReturncode : Int := 0
  deriving DecidableEq

/-- A tracked failure, and whether it has expired by now. -/
structure KnownFailure where
  testIdentifier : String
  environmentBlocked : Bool := false
  expired : Bool := false

structure VerificationRegistry where
  commands : List VerificationCommand := []
  knownFailures : List KnownFailure := []

/-- `is_known_failure`. -/
def VerificationRegistry.isKnownFailure (registry : VerificationRegistry)
    (testIdentifier : String) : Option KnownFailure :=
  registry.knownFailures.find? fun failure =>
    failure.testIdentifier = testIdentifier ∧ failure.expired = false

/-- What the runner of a command comes to. -/
inductive RunnerOutcome where
  | completed (returncode : Int) (stdout stderr : String)
  | raised (message : String)

section Running

variable (py : BaselineInterpreter)

/-- `run_verification_command`. -/
def runVerificationCommand (command : VerificationCommand) (durationSeconds : String) :
    RunnerOutcome → VerificationResult
  | .completed returncode stdout stderr =>
      resultOfOutput py command.command command.repositoryId returncode durationSeconds
        (if returncode = command.expectedReturncode then "passed" else "failed")
        (stdout ++ stderr)
  | .raised message =>
      resultOfOutput py command.command command.repositoryId (command.expectedReturncode + 1)
        durationSeconds "environment_failure" message

/-- What is kept of a verification that failed. -/
def failedVerification (attempt : Int) (profile : String) (results : List VerificationResult)
    (capturedAt : String) : Row :=
  [("status", .string "failed"), ("attempt", .int attempt), ("profile", .string profile),
    ("commands", .array (results.map fun result => .object result.asMapping)),
    ("failed_commands", .array ((results.filter fun result => result.status ≠ "passed").map
      fun result => .object result.asMapping)),
    ("captured_at", .string capturedAt)]

/-! ## The acceptance of a failed verification -/

/-- The repositories for which a command is configured. -/
def repositoriesOf (configured : List VerificationCommand) (command : String) : List String :=
  ((configured.filter fun other => other.command = command).map
    VerificationCommand.repositoryId).dedup

/-- A row without a repository gets the only one that its command is configured for. -/
def enrichRow (configured : List VerificationCommand) (row : Row) : Row :=
  if strippedMember py row "repository_id" = "" then
    match repositoriesOf configured (py.text (row.get "command" (.string ""))) with
    | [repository] => row.set "repository_id" (.string repository)
    | _ => row
  else row

/-- `enrich_repository_ids`. -/
def enrichRepositoryIds (rows : List Row) (configured : List VerificationCommand) :
    List Row :=
  rows.map (enrichRow py configured)

/-- `failed_verification_rows`. -/
def failedVerificationRows (verification : Row) (configured : List VerificationCommand) :
    Except String (List Row) := do
  match verification.get "failed_commands" .null with
  | .array values => return enrichRepositoryIds py (mappings values) configured
  | _ =>
      let values ← elements (verification.get "commands" (.array []))
      return enrichRepositoryIds py ((mappings values).filter fun row =>
        py.text (row.get "status" (.string "")) ≠ "passed") configured

/-- `build_package_baseline_acceptance`. -/
def buildPackageBaselineAcceptance (packageId : String) (verification : Row)
    (configured : List VerificationCommand) (acceptedAt incidentId authorizationText : String) :
    Except String (Option Row) := do
  if py.text (verification.get "status" (.string "")) ≠ "failed" then
    return none
  else
    let rows ← failedVerificationRows py verification configured
    buildBaselineAcceptance py packageId (py.text (verification.get "profile" (.string "")))
      rows "operator" acceptedAt incidentId authorizationText

/-! ## The checks of a package -/

/-- Whether a command is known to fail in this environment. -/
def knownHere (registry : VerificationRegistry) (command : VerificationCommand) : Bool :=
  (registry.isKnownFailure command.command).any KnownFailure.environmentBlocked

/-- The check of one command of `_run_verification`. -/
def checkCommand (config : OrchestrationConfig) (registry : VerificationRegistry)
    (acceptance : Row) (packageId profile : String) (packageCompleted : Bool)
    (command : VerificationCommand) (result : VerificationResult) :
    Except String CommandResult := do
  let known := knownHere registry command
  let answer (accepted : Bool) : CommandResult :=
    { command := command.command, status := result.status, knownEnvironmentBlocked := known,
      baselineAccepted := accepted }
  if result.status = "passed" then
    return answer false
  else if known = true ∧ config.allowKnownEnvironmentBlockedFailures = true then
    return answer false
  else
    let found ← matchResultAgainstBaseline py acceptance packageId profile
      command.repositoryId command.command result packageCompleted
    return answer found.accepted

/-- The checks of the commands of a package, in their order. -/
def checkCommands (config : OrchestrationConfig) (registry : VerificationRegistry)
    (acceptance : Row) (packageId profile : String) (packageCompleted : Bool)
    (runs : List (VerificationCommand × VerificationResult)) :
    Except String (List CommandResult) :=
  runs.mapM fun run =>
    checkCommand py config registry acceptance packageId profile packageCompleted run.1 run.2

end Running

section Rerun

variable {py : BaselineInterpreter}

/-! ## The failures of one run -/

/-- What a run of a command reports is stable, whether it is read from the whole output or
from its end. -/
theorem stable_of_output {command repositoryId durationSeconds status output : String}
    {returncode : Int} {item : FailureFingerprint}
    (member : item ∈ failureFingerprintsForResult py (resultOfOutput py command repositoryId
      returncode durationSeconds status output)) : Stable item := by
  rw [failureFingerprintsForResult, persistedFailures, failures_resultOfOutput,
    failureFingerprintSchema_resultOfOutput] at member
  by_cases empty : ((extractFailureFingerprints py output).map
      FailureFingerprint.asMapping).filterMap (failureFromPersistedMapping py 2) = []
  · rw [if_pos empty] at member
    exact (extracted_spec member).2
  · rw [if_neg empty] at member
    obtain ⟨source, isSource, -, same⟩ := mem_deduplicate member
    obtain ⟨row, isRow, read⟩ := List.mem_filterMap.mp isSource
    obtain ⟨item, extracted, shape⟩ := List.mem_map.mp isRow
    rw [← shape, reread_extracted extracted] at read
    rw [← same, ← Option.some.inj read, Stable]
    have stable : canonicalTestIdentity item.identifier = item.identifier :=
      (extracted_spec extracted).2
    rw [stable, stable]

theorem stable_of_run {command : VerificationCommand} {durationSeconds : String}
    {outcome : RunnerOutcome} {item : FailureFingerprint}
    (member : item ∈ failureFingerprintsForResult py
      (runVerificationCommand py command durationSeconds outcome)) : Stable item := by
  cases outcome with
  | completed returncode stdout stderr => exact stable_of_output member
  | raised message => exact stable_of_output member

section Run

variable (command : VerificationCommand) (durationSeconds : String) (outcome : RunnerOutcome)

theorem command_run :
    (runVerificationCommand py command durationSeconds outcome).command = command.command := by
  cases outcome <;> rfl

theorem repositoryId_run :
    (runVerificationCommand py command durationSeconds outcome).repositoryId =
      command.repositoryId := by
  cases outcome <;> rfl

end Run

/-! ## The rows of a failed verification -/

/-- The row of a run keeps its repository: a command without one is configured without. -/
theorem enrichRow_run {configured : List VerificationCommand} {command : VerificationCommand}
    (member : command ∈ configured)
    (trimmed : stripString command.repositoryId = command.repositoryId)
    (durationSeconds : String) (outcome : RunnerOutcome) :
    enrichRow py configured
        (runVerificationCommand py command durationSeconds outcome).asMapping =
      (runVerificationCommand py command durationSeconds outcome).asMapping := by
  generalize shape : runVerificationCommand py command durationSeconds outcome = result
  have repository : result.repositoryId = command.repositoryId := by
    rw [← shape, repositoryId_run]
  have named : result.command = command.command := by
    rw [← shape, command_run]
  rw [enrichRow, repositoryId_asMapping, repository, trimmed]
  by_cases blank : command.repositoryId = ""
  · have text : py.text (result.asMapping.get "command" (.string "")) = result.command := rfl
    have own : "" ∈ repositoriesOf configured command.command := by
      rw [repositoriesOf, List.mem_dedup, List.mem_map]
      exact ⟨command, List.mem_filter.mpr ⟨member, decide_eq_true rfl⟩, blank⟩
    have stored : result.asMapping.get "repository_id" .null = .string result.repositoryId :=
      rfl
    rw [if_pos blank, text, named]
    cases repositories : repositoriesOf configured command.command with
    | nil => rfl
    | cons first others =>
        cases others with
        | cons second more => rfl
        | nil =>
            rw [repositories, List.mem_singleton] at own
            rw [repository, blank, own] at stored
            exact ProjectExecution.Row.set_of_get stored
  · rw [if_neg blank]

section Rows

variable {config : OrchestrationConfig} {registry : VerificationRegistry}
  {packageId profile : String} {commands : List VerificationCommand}
  {first second : VerificationCommand → VerificationResult} {acceptance : Row}

/-- The rows of the commands that failed. -/
def failedRows (commands : List VerificationCommand)
    (first : VerificationCommand → VerificationResult) : List Row :=
  (commands.filter fun command => (first command).status ≠ "passed").map fun command =>
    (first command).asMapping

theorem failedVerificationRows_failed {attempt : Int} {capturedAt : String}
    (kept : ∀ command ∈ commands,
      enrichRow py registry.commands (first command).asMapping = (first command).asMapping) :
    failedVerificationRows py
        (failedVerification attempt profile (commands.map first) capturedAt)
        registry.commands = .ok (failedRows commands first) := by
  have listed : (failedVerification attempt profile (commands.map first) capturedAt).get
      "failed_commands" .null = .array ((failedRows commands first).map Json.object) := by
    rw [failedRows, List.map_map]
    show Json.array (((commands.map first).filter _).map _) = _
    rw [List.filter_map, List.map_map]
    rfl
  rw [failedVerificationRows, listed]
  show Except.ok (enrichRepositoryIds py (mappings _) registry.commands) = _
  rw [mappings_object, enrichRepositoryIds]
  refine congrArg Except.ok ((List.map_congr_left fun row member => ?_).trans (List.map_id _))
  obtain ⟨command, isFailed, same⟩ := List.mem_map.mp member
  rw [← same]
  exact kept command (List.mem_of_mem_filter isFailed)

/-- No two commands run the same text in the same repository. -/
def DistinctCommands (commands : List VerificationCommand) : Prop :=
  ∀ one ∈ commands, ∀ other ∈ commands, one.repositoryId = other.repositoryId →
    stripString one.command = stripString other.command → one = other

/-- A run is that of its command. -/
structure Runs (commands : List VerificationCommand)
    (run : VerificationCommand → VerificationResult) : Prop where
  command : ∀ command ∈ commands, (run command).command = command.command
  repositoryId : ∀ command ∈ commands, (run command).repositoryId = command.repositoryId

variable (trimmed : ∀ command ∈ commands,
    stripString command.repositoryId = command.repositoryId)
  (distinct : DistinctCommands commands) (runs : Runs commands first)

include trimmed distinct runs

theorem isRowOf_run {command other : VerificationCommand} (member : command ∈ commands)
    (isOther : other ∈ commands) :
    IsRowOf py command.repositoryId command.command (first other).asMapping ↔
      other = command := by
  rw [IsRowOf, repositoryId_asMapping, command_asMapping, runs.repositoryId other isOther,
    runs.command other isOther, trimmed other isOther]
  constructor
  · exact fun same => distinct other isOther command member same.1 same.2
  · intro same
    rw [same]
    exact ⟨rfl, rfl⟩

/-- A command has a row exactly when it failed. -/
theorem find_failedRows {command : VerificationCommand} (member : command ∈ commands) :
    (failedRows commands first).find? (IsRowOf py command.repositoryId command.command) =
      if (first command).status = "passed" then none else some (first command).asMapping := by
  have same : ∀ other ∈ commands,
      (decide (IsRowOf py command.repositoryId command.command (first other).asMapping)) =
        decide (other = command) := fun other isOther =>
    decide_eq_decide.mpr (isRowOf_run trimmed distinct runs member isOther)
  by_cases passed : (first command).status = "passed"
  · rw [if_pos passed, List.find?_eq_none]
    intro row isRow
    obtain ⟨other, failed, shape⟩ := List.mem_map.mp isRow
    rw [List.mem_filter, decide_eq_true_iff] at failed
    rw [← shape, same other failed.1, decide_eq_true_iff]
    intro equal
    exact failed.2 (equal ▸ passed)
  · rw [if_neg passed]
    have listed : (first command).asMapping ∈ failedRows commands first :=
      List.mem_map_of_mem (List.mem_filter.mpr ⟨member, decide_eq_true passed⟩)
    have own : decide (IsRowOf py command.repositoryId command.command
        (first command).asMapping) = true := (same command member).trans (decide_eq_true rfl)
    have present : ((failedRows commands first).find?
        (IsRowOf py command.repositoryId command.command)).isSome :=
      List.find?_isSome.mpr ⟨_, listed, own⟩
    obtain ⟨row, found⟩ := Option.isSome_iff_exists.mp present
    obtain ⟨other, failed, shape⟩ := List.mem_map.mp (List.mem_of_find?_eq_some found)
    have isRow := List.find?_some found
    rw [← shape, same other (List.mem_of_mem_filter failed), decide_eq_true_iff] at isRow
    rw [found, ← shape, isRow]

omit trimmed distinct runs

/-- Where the failures of the rows are stable, a baseline knows what they name. -/
theorem known_failedRows
    (trimmed : ∀ command ∈ commands, stripString command.repositoryId = command.repositoryId)
    (distinct : DistinctCommands commands) (runs : Runs commands first)
    {command : VerificationCommand} (member : command ∈ commands)
    (stable : ∀ item ∈ failureFingerprintsForResult py (first command), Stable item)
    (observed : List FailureFingerprint) :
    Known py (failedRows commands first) command.repositoryId command.command observed ↔
      (first command).status ≠ "passed" ∧ observed ≠ [] ∧
        ∀ item ∈ observed, item.pair ∈ (failureFingerprintsForResult py (first command)).map
          FailureFingerprint.pair := by
  rw [Known, find_failedRows trimmed distinct runs member]
  by_cases passed : (first command).status = "passed"
  · rw [if_pos passed]
    exact ⟨fun known => absurd known.2 (by simp), fun failed => absurd passed failed.1⟩
  · rw [if_neg passed, and_iff_right passed]
    refine and_congr_right fun _ => ⟨fun known => ?_, fun each => ⟨_, rfl, ?_⟩⟩
    · obtain ⟨row, same, each⟩ := known
      intro item listed
      rw [← Option.some.inj same,
        failuresOf_of_read (failureFingerprintsFromMapping_asMapping _)] at each
      obtain ⟨source, isSource, identity, signature⟩ := each item listed
      have kept : canonicalTestIdentity source.identifier = source.identifier :=
        stable source isSource
      exact List.mem_map.mpr ⟨source, isSource, Prod.ext (kept.symm.trans identity) signature⟩
    · intro item listed
      rw [failuresOf_of_read (failureFingerprintsFromMapping_asMapping _)]
      obtain ⟨source, isSource, same⟩ := List.mem_map.mp (each item listed)
      obtain ⟨identity, signature⟩ := Prod.mk.inj same
      have kept : canonicalTestIdentity source.identifier = source.identifier :=
        stable source isSource
      exact ⟨source, isSource, kept.trans identity, signature⟩

/-! ## The checks -/

/-- Nothing in the records of a built acceptance can fail to be read. -/
theorem exists_match {rows : List Row} (built : Built py packageId profile rows acceptance)
    (repositoryId command : String) (result : VerificationResult) (completed : Bool) :
    ∃ found, matchResultAgainstBaseline py acceptance packageId profile repositoryId command
      result completed = .ok found := by
  unfold matchResultAgainstBaseline
  split_ifs with none finished otherPackage otherProfile
  · exact ⟨_, rfl⟩
  · exact ⟨_, rfl⟩
  · exact ⟨_, rfl⟩
  · exact ⟨_, rfl⟩
  rw [acceptedCommand_built built, ok_bind]
  cases rows.find? (IsRowOf py repositoryId command) with
  | none => exact ⟨_, rfl⟩
  | some row =>
      simp only [Option.map_some, acceptedFailures_built built, ok_bind]
      by_cases empty : failureFingerprintsForResult py result = []
      · rw [if_pos empty]
        exact ⟨_, rfl⟩
      · rw [if_neg empty]
        exact ⟨_, rfl⟩

/-- Whether the check of a command lets its package go on. -/
def LetsPass (py : BaselineInterpreter) (config : OrchestrationConfig)
    (registry : VerificationRegistry) (rows : List Row) (command : VerificationCommand)
    (result : VerificationResult) : Prop :=
  result.status = "passed" ∨
    (knownHere registry command = true ∧ config.allowKnownEnvironmentBlockedFailures = true) ∨
    Known py rows command.repositoryId command.command (failureFingerprintsForResult py result)

theorem checkCommand_spec {rows : List Row} (built : Built py packageId profile rows acceptance)
    (command : VerificationCommand) (result : VerificationResult) :
    ∃ answer, checkCommand py config registry acceptance packageId profile false command result =
        .ok answer ∧
      (answer.blocks config = false ↔ LetsPass py config registry rows command result) := by
  unfold checkCommand
  by_cases passed : result.status = "passed"
  · rw [if_pos passed]
    exact ⟨_, rfl, by simp [CommandResult.blocks, LetsPass, passed]⟩
  by_cases known : knownHere registry command = true ∧
      config.allowKnownEnvironmentBlockedFailures = true
  · rw [if_neg passed, if_pos known]
    exact ⟨_, rfl, by simp [CommandResult.blocks, LetsPass, known]⟩
  rw [if_neg passed, if_neg known]
  obtain ⟨found, isFound⟩ := exists_match built command.repositoryId command.command result false
  have accepted := match_accepts_iff built command.repositoryId command.command result
  rw [isFound, accepts_ok] at accepted
  rw [isFound, ok_bind]
  refine ⟨_, rfl, ?_⟩
  rw [LetsPass, or_iff_right passed, or_iff_right known, ← accepted, CommandResult.blocks,
    decide_eq_false_iff_not]
  simp [passed, known]

theorem checkCommands_spec {rows : List Row}
    (built : Built py packageId profile rows acceptance)
    (runs : List (VerificationCommand × VerificationResult)) :
    ∃ answers, checkCommands py config registry acceptance packageId profile false runs =
        .ok answers ∧
      (answers.any (CommandResult.blocks config) = false ↔
        ∀ run ∈ runs, LetsPass py config registry rows run.1 run.2) := by
  induction runs with
  | nil => exact ⟨[], rfl, fun _ _ member => absurd member List.not_mem_nil, fun _ => rfl⟩
  | cons run rest inductionHypothesis =>
      obtain ⟨answer, isAnswer, here⟩ :
          ∃ answer, checkCommand py config registry acceptance packageId profile false run.1
            run.2 = .ok answer ∧ (answer.blocks config = false ↔
              LetsPass py config registry rows run.1 run.2) :=
        checkCommand_spec built run.1 run.2
      obtain ⟨answers, areAnswers, later⟩ := inductionHypothesis
      unfold checkCommands at areAnswers ⊢
      refine ⟨answer :: answers, ?_, ?_⟩
      · rw [List.mapM_cons, isAnswer, ok_bind, areAnswers]
        rfl
      · rw [List.any_cons, Bool.or_eq_false_iff, List.forall_mem_cons, here, later]

end Rows

end Rerun

/-! ## The same failure again -/

def sampleCommand : VerificationCommand where
  command := "pytest"
  repositoryId := "app"

def sampleRegistry : VerificationRegistry where
  commands := [sampleCommand]

def sampleRun (durationSeconds : String) : VerificationResult :=
  runVerificationCommand asciiBaseline sampleCommand durationSeconds
    (.completed 1 baselineOutput "")

def sampleBuild : Except String (Option Row) :=
  buildPackageBaselineAcceptance asciiBaseline "WP-1"
    (failedVerification 1 "focused" [sampleRun "1.0"] "2024-01-01T00:00:00Z")
    sampleRegistry.commands "2024-01-01T00:00:00Z" "" ""

end Execraft.Orchestrate.Baseline
