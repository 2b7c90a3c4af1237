import Execraft.Orchestrate.BaselineFailures

/-!
# Failures that a baseline masks

A baseline made from the failures of one output accepts those of another one.  No new test
is masked as long as different tests keep different identities, and a pytest node id keeps
only its last two parts between dots.
-/

namespace Execraft.Orchestrate.Baseline

open Foundation Foundation.Json Foundation.Text

section Masking

variable (py : BaselineInterpreter)

/-- The result of a command that printed an output. -/
def resultOfOutput (command repositoryId : String) (returncode : Int)
    (durationSeconds status output : String) : VerificationResult where
  command := command
  returncode := returncode
  durationSeconds := durationSeconds
  repositoryId := repositoryId
  stdoutFingerprint := digest py output 16
  relevantExcerpt := String.ofList (output.toList.drop (output.toList.length - 2000))
  status := status
  failures := (extractFailureFingerprints py output).map FailureFingerprint.asMapping
  failureFingerprintSchema := 2

/-- A report whose test has a name. -/
def Recognised (report : FailureReport) : Prop :=
  canonicalTestIdentity report.identity ≠ ""

instance : DecidablePred Recognised :=
  fun _ => inferInstanceAs (Decidable (_ ≠ _))

/-- The test that a report names: a pytest node id as it stands, and a GoogleTest test
whatever packages its suite is shown in. -/
def FailureReport.test (report : FailureReport) : String :=
  if report.kind = .pytest then report.identity else testIdentity report.identity

def recognisedReports (output : String) : List FailureReport :=
  (reportsOf py output).filter Recognised

def failingTests (output : String) : List String :=
  (recognisedReports py output).map FailureReport.test

/-- A baseline made from the failures of the first output does not accept the second one
when that one names a new test. -/
def AcceptsNoNewTest (baseline later : String) : Prop :=
  ∀ (command : String) (repositoryId laterRepository : String) (returncode laterCode : Int)
    (duration laterDuration status laterStatus : String)
    (packageId laterPackage profile laterProfile : String) (packageCompleted : Bool)
    (acceptedBy acceptedAt incidentId authorizationText : String) (acceptance : Row),
    extractFailureFingerprints py baseline ≠ [] →
    buildBaselineAcceptance py packageId profile
      [(resultOfOutput py command repositoryId returncode duration status baseline).asMapping]
      acceptedBy acceptedAt incidentId authorizationText = .ok (some acceptance) →
    Accepts (matchResultAgainstBaseline py acceptance laterPackage laterProfile laterRepository
      command
      (resultOfOutput py command laterRepository laterCode laterDuration laterStatus later)
      packageCompleted) →
    failingTests py later ⊆ failingTests py baseline

/-- A pytest test has a fingerprint identity of its own. -/
def KeepsApart (reports : List FailureReport) : Prop :=
  ∀ first ∈ reports, ∀ second ∈ reports, first.kind = .pytest →
    ∀ one, reportFingerprint py first = some one →
      ∀ other, reportFingerprint py second = some other →
        one.identifier = other.identifier → first.test = second.test

/-- A baseline never masks a new failure. -/
def NeverMasks (baseline later : String) : Prop :=
  AcceptsNoNewTest py baseline later ∧
    KeepsApart py (reportsOf py baseline ++ reportsOf py later)

/-- No pytest node id ends in the same two parts as another test. -/
def DistinctEndings (baseline later : String) : Prop :=
  ∀ first ∈ recognisedReports py baseline ++ recognisedReports py later,
    ∀ second ∈ recognisedReports py baseline ++ recognisedReports py later,
      first.kind = .pytest → testIdentity first.identity = testIdentity second.identity →
        first.test = second.test

end Masking

section Proofs

variable {py : BaselineInterpreter} {baseline later : String}

theorem mem_recognisedReports {output : String} {report : FailureReport} :
    report ∈ recognisedReports py output ↔ report ∈ reportsOf py output ∧ Recognised report := by
  rw [recognisedReports, List.mem_filter, decide_eq_true_iff]

/-- Exactly the recognised reports have a fingerprint. -/
theorem exists_reportFingerprint {report : FailureReport} (recognised : Recognised report) :
    ∃ item, reportFingerprint py report = some item := by
  unfold reportFingerprint
  rw [if_neg recognised]
  exact ⟨_, rfl⟩

theorem recognised_of_reportFingerprint {report : FailureReport} {item : FailureFingerprint}
    (read : reportFingerprint py report = some item) : Recognised report := by
  unfold reportFingerprint at read
  exact (Option.ite_none_left_eq_some.mp read).1

/-- The test of a recognised report is extracted. -/
theorem exists_extracted {output : String} {report : FailureReport}
    (member : report ∈ recognisedReports py output) :
    ∃ item ∈ extractFailureFingerprints py output,
      item.identifier = testIdentity report.identity := by
  obtain ⟨isReport, recognised⟩ := mem_recognisedReports.mp member
  obtain ⟨item, read⟩ := @exists_reportFingerprint py _ recognised
  have named := (reportFingerprint_spec (visible_reportsOf isReport) read).1
  have listed : item ∈ (reportsOf py output).filterMap (reportFingerprint py) :=
    List.mem_filterMap.mpr ⟨report, isReport, read⟩
  obtain ⟨best, found⟩ := exists_champion? FailureFingerprint.identifier
    FailureFingerprint.rank listed
  have isNamed := (mem_of_champion? found).2
  refine ⟨best, mem_champions.mpr ?_, isNamed.trans named⟩
  rw [isNamed]
  exact found

/-- What is extracted is the test of a recognised report. -/
theorem report_of_extracted {output : String} {item : FailureFingerprint}
    (member : item ∈ extractFailureFingerprints py output) :
    ∃ report ∈ recognisedReports py output, item.identifier = testIdentity report.identity := by
  obtain ⟨listed, -⟩ := mem_of_champion? (mem_champions.mp member)
  obtain ⟨report, isReport, read⟩ := List.mem_filterMap.mp listed
  exact ⟨report, mem_recognisedReports.mpr ⟨isReport, recognised_of_reportFingerprint read⟩,
    (reportFingerprint_spec (visible_reportsOf isReport) read).1⟩

/-! ## The failures of a result -/

/-- What is extracted is kept when it is read again, but for spaces around its excerpt. -/
theorem reread_extracted {output : String} {item : FailureFingerprint}
    (member : item ∈ extractFailureFingerprints py output) :
    failureFromPersistedMapping py 2 item.asMapping =
      some { item with excerpt := stripString item.excerpt } := by
  obtain ⟨signed, stable⟩ := extracted_spec member
  rw [failureFromPersistedMapping_asMapping signed, stable, if_neg signed.named]

section ResultOfOutput

variable {command repositoryId durationSeconds status output : String} {returncode : Int}

@[simp]
theorem failures_resultOfOutput :
    (resultOfOutput py command repositoryId returncode durationSeconds status output).failures =
      (extractFailureFingerprints py output).map FailureFingerprint.asMapping :=
  rfl

@[simp]
theorem failureFingerprintSchema_resultOfOutput :
    (resultOfOutput py command repositoryId returncode durationSeconds status
      output).failureFingerprintSchema = 2 :=
  rfl

end ResultOfOutput

/-- The failures of a result are those that were extracted from its output. -/
theorem failuresForResult_extracted {output : String} {result : VerificationResult}
    (failures : result.failures =
      (extractFailureFingerprints py output).map FailureFingerprint.asMapping)
    (schema : result.failureFingerprintSchema = 2)
    (some : extractFailureFingerprints py output ≠ []) :
    failureFingerprintsForResult py result =
      deduplicateFailureFingerprints ((extractFailureFingerprints py output).map
        fun item => { item with excerpt := stripString item.excerpt }) := by
  have read : result.failures.filterMap (failureFromPersistedMapping py 2) =
      (extractFailureFingerprints py output).map
        fun item => { item with excerpt := stripString item.excerpt } := by
    rw [failures, List.filterMap_map, List.filterMap_eq_map_iff_forall_eq_some]
    intro item member
    rw [Function.comp_apply, reread_extracted member]
  have present : result.failures.filterMap (failureFromPersistedMapping py 2) ≠ [] := by
    rw [read]
    simpa using some
  rw [failureFingerprintsForResult, persistedFailures, schema, if_neg present, read]

theorem observed_of_extracted {output : String} {result : VerificationResult}
    (failures : result.failures =
      (extractFailureFingerprints py output).map FailureFingerprint.asMapping)
    (schema : result.failureFingerprintSchema = 2) {item : FailureFingerprint}
    (member : item ∈ extractFailureFingerprints py output) :
    ∃ observed ∈ failureFingerprintsForResult py result,
      observed.identifier = item.identifier := by
  obtain ⟨signed, stable⟩ := extracted_spec member
  rw [failuresForResult_extracted failures schema (List.ne_nil_of_mem member)]
  have listed : { item with excerpt := stripString item.excerpt } ∈
      (extractFailureFingerprints py output).map
        fun item => { item with excerpt := stripString item.excerpt } :=
    List.mem_map.mpr ⟨item, member, rfl⟩
  have named : canonicalTestIdentity item.identifier ≠ "" := stable.symm ▸ signed.named
  obtain ⟨observed, isObserved, same⟩ := exists_deduplicate listed named
  exact ⟨observed, isObserved, same.trans stable⟩

theorem extracted_of_observed {output : String} {result : VerificationResult}
    (failures : result.failures =
      (extractFailureFingerprints py output).map FailureFingerprint.asMapping)
    (schema : result.failureFingerprintSchema = 2)
    (some : extractFailureFingerprints py output ≠ []) {observed : FailureFingerprint}
    (member : observed ∈ failureFingerprintsForResult py result) :
    ∃ item ∈ extractFailureFingerprints py output,
      observed.identifier = item.identifier := by
  rw [failuresForResult_extracted failures schema some] at member
  obtain ⟨source, isSource, -, same⟩ := mem_deduplicate member
  obtain ⟨item, listed, shape⟩ := List.mem_map.mp isSource
  refine ⟨item, listed, ?_⟩
  rw [← same, ← shape]
  exact (extracted_spec listed).2

/-! ## Masking -/

theorem acceptsNoNewTest_of_distinct (distinct : DistinctEndings py baseline later) :
    AcceptsNoNewTest py baseline later := by
  intro command repositoryId laterRepository returncode laterCode duration laterDuration status
    laterStatus packageId laterPackage profile laterProfile packageCompleted acceptedBy
    acceptedAt incidentId authorizationText acceptance some builds accepted test member
  have built := buildBaselineAcceptance_spec builds
  obtain ⟨samePackage, sameProfile, unfinished⟩ := scope_of_accepts built accepted
  rw [samePackage, sameProfile, unfinished, match_accepts_iff built] at accepted
  obtain ⟨-, row, found, known⟩ := accepted
  obtain ⟨report, isReport, same⟩ := List.mem_map.mp member
  -- The identity of the reported test is observed, hence known, hence extracted before.
  obtain ⟨item, extracted, identity⟩ := exists_extracted isReport
  obtain ⟨observed, isObserved, observedSame⟩ :
      ∃ observed ∈ failureFingerprintsForResult py (resultOfOutput py command laterRepository
        laterCode laterDuration laterStatus later), observed.identifier = item.identifier :=
    observed_of_extracted failures_resultOfOutput failureFingerprintSchema_resultOfOutput
      extracted
  obtain ⟨kept, isKept, keptSame, -⟩ := known observed isObserved
  rw [List.mem_singleton.mp (List.mem_of_find?_eq_some found),
    failuresOf_of_read (failureFingerprintsFromMapping_asMapping _)] at isKept
  obtain ⟨old, oldExtracted, oldSame⟩ := extracted_of_observed failures_resultOfOutput
    failureFingerprintSchema_resultOfOutput some isKept
  obtain ⟨oldReport, isOld, oldIdentity⟩ := report_of_extracted oldExtracted
  have equal : testIdentity oldReport.identity = testIdentity report.identity := by
    rw [← oldIdentity, ← identity, ← observedSame, ← keptSame, oldSame]
    exact (extracted_spec oldExtracted).2.symm
  have sameTest : oldReport.test = report.test := by
    by_cases oldPytest : oldReport.kind = .pytest
    · exact distinct oldReport (List.mem_append_left _ isOld) report
        (List.mem_append_right _ isReport) oldPytest equal
    · by_cases pytest : report.kind = .pytest
      · exact (distinct report (List.mem_append_right _ isReport) oldReport
          (List.mem_append_left _ isOld) pytest equal.symm).symm
      · rw [FailureReport.test, FailureReport.test, if_neg oldPytest, if_neg pytest, equal]
  rw [← same, ← sameTest]
  exact List.mem_map_of_mem isOld

theorem keepsApart_iff :
    KeepsApart py (reportsOf py baseline ++ reportsOf py later) ↔
      DistinctEndings py baseline later := by
  have visible : ∀ report ∈ reportsOf py baseline ++ reportsOf py later,
      Visible report.identity := fun report member =>
    (List.mem_append.mp member).elim visible_reportsOf visible_reportsOf
  have split : ∀ report, report ∈ recognisedReports py baseline ++ recognisedReports py later ↔
      report ∈ reportsOf py baseline ++ reportsOf py later ∧ Recognised report := by
    intro report
    rw [List.mem_append, List.mem_append, mem_recognisedReports, mem_recognisedReports,
      or_and_right]
  constructor
  · intro apart first isFirst second isSecond pytest same
    obtain ⟨firstListed, firstRecognised⟩ := (split first).mp isFirst
    obtain ⟨secondListed, secondRecognised⟩ := (split second).mp isSecond
    obtain ⟨one, readOne⟩ := @exists_reportFingerprint py _ firstRecognised
    obtain ⟨other, readOther⟩ := @exists_reportFingerprint py _ secondRecognised
    refine apart first firstListed second secondListed pytest one readOne other readOther ?_
    rw [(reportFingerprint_spec (visible first firstListed) readOne).1,
      (reportFingerprint_spec (visible second secondListed) readOther).1, same]
  · intro distinct first isFirst second isSecond pytest one readOne other readOther same
    rw [(reportFingerprint_spec (visible first isFirst) readOne).1,
      (reportFingerprint_spec (visible second isSecond) readOther).1] at same
    exact distinct first
      ((split first).mpr ⟨isFirst, recognised_of_reportFingerprint readOne⟩) second
      ((split second).mpr ⟨isSecond, recognised_of_reportFingerprint readOther⟩) pytest same

end Proofs

/-! ## A masked failure -/

def baselineOutput : String :=
  "FAILED a.py::t[1.2.3] - boom"

/-- The old failure, and a new one whose identity is the same. -/
def laterOutput : String :=
  baselineOutput ++ "\nFAILED b.py::u[0.2.3]"

/-- The digests that real interpreters compute of the texts below. -/
def sampleDigests : List (String × String) :=
  [("2.3]\na.py::t[1.2.3] boom",
      "8c162c659cd0ab8e4c0a165c6381daafa7a588ada3c078ad6bc268afd8163e46"),
    ("2.3]\nb.py::u[0.2.3]",
      "99978c638cabab2e5bcdc4c8f4d571427bfbe4adec9e2f849ff67a8f04c18bd4"),
    ("pytest", "2b01214d32c382dbc73bf6b493bedb7926324af27bad3ee888f66774b9b114c8"),
    (baselineOutput, "8c2168aa57d493f9bb792d2e2f449e29752a8746ecd624dbe615aa0a2716a7a9"),
    (laterOutput, "e0258a5b35660c796201e4f011f8f57cf8f2ce771015d33801df97078b6d85f9")]

def sampleDigest (content : ByteArray) : String :=
  ((sampleDigests.find? fun entry => (encodeUtf8 entry.1.toList).data = content.data).map
    Prod.snd).getD "e3b0c44298fc1c149afbf4c8996fb92427ae41e4649b934ca495991b7852b855"

/-- Sixty-four characters without white space. -/
def isDigest (text : List Char) : Bool :=
  text.length = 64 && text.all fun character => !isSpace character

theorem isDigest_sampleDigest (content : ByteArray) :
    isDigest (sampleDigest content).toList = true := by
  have each : sampleDigests.all fun entry => isDigest entry.2.toList := by decide +kernel
  unfold sampleDigest
  cases found : sampleDigests.find? fun entry =>
      (encodeUtf8 entry.1.toList).data = content.data with
  | none =>
      show isDigest
        "e3b0c44298fc1c149afbf4c8996fb92427ae41e4649b934ca495991b7852b855".toList = true
      decide +kernel
  | some entry => exact List.all_eq_true.mp each entry (List.mem_of_find?_eq_some found)

theorem sampleDigest_spec (content : ByteArray) :
    (sampleDigest content).toList.length = 64 ∧
      ∀ character ∈ (sampleDigest content).toList, isSpace character = false := by
  have digest := isDigest_sampleDigest content
  rw [isDigest, Bool.and_eq_true, decide_eq_true_iff, List.all_eq_true] at digest
  refine ⟨digest.1, fun character member => ?_⟩
  have visible := digest.2 character member
  rwa [Bool.not_eq_true'] at visible

def asciiBaseline : BaselineInterpreter :=
  { asciiPython with
    sha256 := sampleDigest
    decimal := Char.isDigit
    wordCharacter := isAsciiWord
    digest_length := fun content => (sampleDigest_spec content).1
    digest_visible := fun content => (sampleDigest_spec content).2 }

def sampleResult (output : String) : VerificationResult :=
  resultOfOutput asciiBaseline "pytest" "app" 1 "1.0" "failed" output

def sampleAcceptance : Except String (Option Row) :=
  buildBaselineAcceptance asciiBaseline "WP-1" "focused"
    [(sampleResult baselineOutput).asMapping] "operator" "2024-01-01T00:00:00Z" "" ""

/-- An acceptance that was built and its answer, read off an evaluation. -/
theorem exists_accepted {built : Except String (Option Row)}
    {check : Row → Except String BaselineMatch}
    (evaluated : built.toOption.map (fun answer => answer.map fun acceptance =>
      (check acceptance).toOption.map BaselineMatch.accepted) = some (some (some true))) :
    ∃ acceptance, built = .ok (some acceptance) ∧ Accepts (check acceptance) := by
  obtain ⟨answer, isBuilt, accepted⟩ := exists_ok_of_toOption evaluated
  obtain ⟨acceptance, same, accepted⟩ := Option.map_eq_some_iff.mp accepted
  rw [same] at isBuilt
  exact ⟨acceptance, isBuilt, exists_ok_of_toOption accepted⟩

def sampleMatch (acceptance : Row) : Except String BaselineMatch :=
  matchResultAgainstBaseline asciiBaseline acceptance "WP-1" "focused" "app" "pytest"
    (sampleResult laterOutput) false

end Execraft.Orchestrate.Baseline
