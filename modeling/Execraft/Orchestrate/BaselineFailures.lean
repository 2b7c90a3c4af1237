import Execraft.Orchestrate.VerificationBaseline

/-!
# What an accepted baseline knows

The identities of tests, the fingerprints that the extraction finds and those that a
baseline keeps of them.
-/

namespace Execraft.Orchestrate.Baseline

open Foundation Foundation.Json Foundation.Text Foundation.Text.Pattern

/-! ## Identities -/

/-- No white space in an identity. -/
def Visible (identity : String) : Prop :=
  ∀ character ∈ identity.toList, isSpace character = false

theorem stripDots_visible {identity : String} (visible : Visible identity) :
    stripDots (strip identity.toList) = stripDots identity.toList := by
  rw [strip_of_stripped (stripped_of_visible visible)]

theorem canonicalTestIdentity_visible {identity : String} (visible : Visible identity) :
    Visible (canonicalTestIdentity identity) := by
  intro character member
  rw [canonicalTestIdentity, String.toList_ofList, stripDots_visible visible] at member
  exact visible character ((trim_sublist _).mem (lastParts_suffix.mem member))

theorem count_canonicalTestIdentity (identity : String) :
    (canonicalTestIdentity identity).toList.count '.' < 2 := by
  rw [canonicalTestIdentity, String.toList_ofList]
  exact count_lastParts (by decide)

/-- An identity of at most two parts only loses the dots at its ends. -/
theorem canonicalTestIdentity_of_count {identity : String} (visible : Visible identity)
    (few : identity.toList.count '.' < 2) :
    canonicalTestIdentity identity = String.ofList (stripDots identity.toList) := by
  have fewer : (stripDots identity.toList).count '.' < 2 :=
    Nat.lt_of_le_of_lt ((trim_sublist _).count_le _) few
  rw [canonicalTestIdentity, stripDots_visible visible, lastParts_of_count fewer]

/-- The identity of a test whose name is reported. -/
def testIdentity (identity : String) : String :=
  canonicalTestIdentity (canonicalTestIdentity identity)

theorem canonicalTestIdentity_testIdentity {identity : String} (visible : Visible identity) :
    canonicalTestIdentity (testIdentity identity) = testIdentity identity := by
  have once := canonicalTestIdentity_visible visible
  have twice : Visible (testIdentity identity) := canonicalTestIdentity_visible once
  have shape : testIdentity identity =
      String.ofList (stripDots (canonicalTestIdentity identity).toList) :=
    canonicalTestIdentity_of_count once (count_canonicalTestIdentity identity)
  rw [canonicalTestIdentity_of_count twice (count_canonicalTestIdentity _)]
  rw [shape, String.toList_ofList, stripDots, stripDots, trim_trim]

/-- A name that is not blank keeps a last part. -/
theorem testIdentity_ne_empty {identity : String} (visible : Visible identity)
    (named : canonicalTestIdentity identity ≠ "") : testIdentity identity ≠ "" := by
  intro blank
  have once := canonicalTestIdentity_visible visible
  rw [testIdentity, canonicalTestIdentity_of_count once (count_canonicalTestIdentity identity),
    String.ofList_eq_empty_iff, stripDots, trim_eq_nil_iff] at blank
  let clean := stripDots identity.toList
  have kept : (canonicalTestIdentity identity).toList = lastParts '.' 2 clean := by
    rw [canonicalTestIdentity, String.toList_ofList, stripDots_visible visible]
  rw [kept] at blank
  have some : lastParts '.' 2 clean ≠ [] := by
    intro empty
    apply named
    rw [← String.toList_inj, kept, empty]
    rfl
  -- The last character is that of the whole name, which is no dot.
  have last : (lastParts '.' 2 clean).getLast some ∈ clean.getLast? := by
    obtain ⟨front, whole⟩ : lastParts '.' 2 clean <:+ clean := lastParts_suffix
    have same : clean.getLast? = (lastParts '.' 2 clean).getLast? :=
      (congrArg List.getLast? whole.symm).trans (List.getLast?_append_of_ne_nil _ some)
    rw [same, List.getLast?_eq_getLast_of_ne_nil some]
    rfl
  have dotless := (trimmed_trim identity.toList).back _ last
  rw [blank _ (List.getLast_mem some)] at dotless
  cases dotless

/-! ## Reported names -/

theorem not_captures_literal (text : String) (index : Nat) (captured : List Char) :
    ¬(literal text).Captures index captured := by
  unfold literal
  induction text.toList with
  | nil => exact id
  | cons head tail inductionHypothesis =>
      rintro (first | rest)
      · exact first
      · exact inductionHypothesis rest

theorem isSpace_of_isTestName (character : Char) :
    isTestName character = true → isSpace character = false := by
  refine asciiLower_cases
    (motive := fun character => isTestName character = true → isSpace character = false)
    (by decide) (fun wide large accepted => ?_) character
  exfalso
  rw [isTestName, Bool.or_eq_true] at accepted
  rcases accepted with letter | mark
  · have bound : wide.toNat ≤ 122 := by
      rcases Bool.or_eq_true _ _ ▸ letter with alpha | digit
      · rcases Bool.or_eq_true _ _ ▸ alpha with upper | lower
        · exact le_trans (of_decide_eq_true upper).2 (by decide)
        · exact of_decide_eq_true (Bool.and_eq_true _ _ ▸ lower).2
      · exact le_trans (of_decide_eq_true (Bool.and_eq_true _ _ ▸ digit).2) (by decide)
    omega
  · have listed : ['_', '.', '/', ':', '+', '-'].all fun mark => mark.toNat < 128 := by decide
    have small := List.all_eq_true.mp listed wide (List.contains_iff_mem.mp mark)
    rw [decide_eq_true_iff] at small
    omega

/-- Characters of one kind, at least one. -/
theorem spans_oneOrMore {accepts : Char → Bool} {text : List Char}
    (taken : (oneOrMore (chars accepts)).Spans text) :
    text ≠ [] ∧ ∀ character ∈ text, accepts character = true :=
  spans_first (fun _ => spans_many) taken

theorem captures_gtestSummaryFailure {index : Nat} {text : List Char}
    (captured : gtestSummaryFailure.Captures index text) :
    ∀ character ∈ text, isTestName character = true := by
  simp only [gtestSummaryFailure, Pattern.sequence, List.foldr, Captures, oneOrMore, char, space,
    atEnd, false_or, or_false] at captured
  rcases captured with ⟨-, first⟩ | ⟨-, second⟩
  · exact (spans_oneOrMore first).2
  · exact (spans_oneOrMore second).2

theorem captures_gtestFailedLine {index : Nat} {text : List Char}
    (captured : gtestFailedLine.Captures index text) :
    ∀ character ∈ text, isTestName character = true := by
  have plain := not_captures_literal "FAILED" index text
  simp only [gtestFailedLine, Pattern.sequence, List.foldr, Captures, oneOrMore, char, space,
    atEnd, Pattern.optional, plain, false_or, or_false] at captured
  exact (spans_oneOrMore captured.2).2

theorem captures_pytestFailedLine {text : List Char}
    (captured : pytestFailedLine.Captures 1 text) :
    ∀ character ∈ text, isSpace character = false := by
  have plain := not_captures_literal "FAILED" 1 text
  simp only [pytestFailedLine, Pattern.sequence, List.foldr, Captures, oneOrMore, char, space,
    atEnd, Pattern.optional, plain, false_or, or_false, true_and] at captured
  have identity := captured.resolve_right fun message => absurd message.1 (by decide)
  intro character member
  have visible := (spans_first (fun _ => spans_few) identity).2 character member
  rwa [Bool.not_eq_true'] at visible

section Reports

variable {py : BaselineInterpreter}

theorem groupText_of_captures {pattern : Pattern} {text : List Char} {found : Position}
    {index : Nat} {holds : Char → Prop} (matched : pattern.matchStart text = some found)
    (each : ∀ captured, pattern.Captures index captured →
      ∀ character ∈ captured, holds character) :
    ∀ character ∈ groupText found index, holds character := by
  rw [groupText]
  cases captured : found.captured index with
  | none => exact fun _ member => absurd member List.not_mem_nil
  | some other => exact each other (matchStart_captured matched captured)

theorem visible_summaryIdentity {text : List Char} {identity : String}
    (named : summaryIdentity text = some identity) : Visible identity := by
  obtain ⟨found, matched, same⟩ := Option.map_eq_some_iff.mp named
  intro character member
  rw [← same, String.toList_ofList, List.mem_append, List.mem_cons] at member
  have each : ∀ index, ∀ character ∈ groupText found index, isTestName character = true :=
    fun index => groupText_of_captures matched fun _ => captures_gtestSummaryFailure
  rcases member with suite | dot | test
  · exact isSpace_of_isTestName _ (each 1 _ suite)
  · rw [dot]
    decide
  · exact isSpace_of_isTestName _ (each 2 _ test)

theorem visible_lineReport {text : List Char} {report : FailureReport}
    (reported : lineReport text = some report) : Visible report.identity := by
  unfold lineReport at reported
  cases matched : gtestFailedLine.matchStart text with
  | some found =>
      rw [matched] at reported
      rw [← Option.some.inj reported]
      intro character member
      rw [String.toList_ofList] at member
      exact isSpace_of_isTestName _
        (groupText_of_captures matched (fun _ => captures_gtestFailedLine) _ member)
  | none =>
      rw [matched] at reported
      obtain ⟨found, pytest, same⟩ := Option.map_eq_some_iff.mp reported
      rw [← same]
      intro character member
      rw [String.toList_ofList] at member
      exact groupText_of_captures pytest (fun _ => captures_pytestFailedLine) _ member

theorem visible_failureReports {fuel : Nat} {lines : List (List Char)} {report : FailureReport}
    (member : report ∈ failureReports py fuel lines) : Visible report.identity := by
  induction fuel generalizing lines with
  | zero => cases member
  | succ fuel inductionHypothesis =>
      cases lines with
      | nil => cases member
      | cons line rest =>
          rw [failureReports] at member
          cases block : blockIdentity py line rest with
          | some identity =>
              rw [block] at member
              rcases List.mem_cons.mp member with first | later
              · rw [first]
                unfold blockIdentity at block
                rw [Option.ite_none_right_eq_some] at block
                exact visible_summaryIdentity block.2
              · exact inductionHypothesis later
          | none =>
              rw [block] at member
              rcases List.mem_append.mp member with own | later
              · exact visible_lineReport (Option.mem_toList.mp own)
              · exact inductionHypothesis later

theorem visible_reportsOf {output : String} {report : FailureReport}
    (member : report ∈ reportsOf py output) : Visible report.identity :=
  visible_failureReports member

end Reports

/-! ## Fingerprints -/

section Fingerprints

variable {py : BaselineInterpreter}

theorem visible_digest (value : String) (length : Nat) : Visible (digest py value length) := by
  intro character member
  rw [digest, String.toList_ofList] at member
  exact py.digest_visible _ character (List.mem_of_mem_take member)

theorem digest_ne_empty (value : String) {length : Nat} (positive : 0 < length) :
    digest py value length ≠ "" := by
  intro empty
  have size := congrArg (fun text => text.toList.length) empty
  simp only [digest, String.toList_ofList, List.length_take, py.digest_length] at size
  have zero : "".toList.length = 0 := rfl
  omega

theorem stripString_of_visible {text : String} (visible : Visible text) :
    stripString text = text := by
  rw [stripString, strip_of_stripped (stripped_of_visible visible), String.ofList_toList]

/-- A fingerprint with a name and a signature that are kept when they are read again. -/
structure Signed (item : FailureFingerprint) : Prop where
  named : item.identifier ≠ ""
  signed : item.signature ≠ ""
  bare : stripString item.signature = item.signature

/-- Its identity is also kept. -/
def Stable (item : FailureFingerprint) : Prop :=
  canonicalTestIdentity item.identifier = item.identifier

theorem signature_fingerprint (identity block : String) :
    (fingerprint py identity block).signature ≠ "" ∧
      stripString (fingerprint py identity block).signature =
        (fingerprint py identity block).signature :=
  ⟨digest_ne_empty _ (by decide), stripString_of_visible (visible_digest _ _)⟩

theorem reportFingerprint_spec {report : FailureReport} {item : FailureFingerprint}
    (visible : Visible report.identity) (read : reportFingerprint py report = some item) :
    item.identifier = testIdentity report.identity ∧ Signed item ∧ Stable item := by
  unfold reportFingerprint at read
  by_cases blank : canonicalTestIdentity report.identity = ""
  · rw [if_pos blank] at read
    cases read
  · rw [if_neg blank] at read
    rw [← Option.some.inj read]
    obtain ⟨signed, bare⟩ := @signature_fingerprint py
      (canonicalTestIdentity report.identity) (String.ofList (['\n'].intercalate report.block))
    exact ⟨rfl, ⟨testIdentity_ne_empty visible blank, signed, bare⟩,
      canonicalTestIdentity_testIdentity visible⟩

/-- What the extraction finds is signed and stable. -/
theorem extracted_spec {output : String} {item : FailureFingerprint}
    (member : item ∈ extractFailureFingerprints py output) : Signed item ∧ Stable item := by
  obtain ⟨listed, -⟩ := mem_of_champion? (mem_champions.mp member)
  obtain ⟨report, isReport, read⟩ := List.mem_filterMap.mp listed
  exact (reportFingerprint_spec (visible_reportsOf isReport) read).2

end Fingerprints

/-! ## Persisted fingerprints -/

section Persisted

variable {py : BaselineInterpreter}

theorem canonicalTestIdentity_stripString (identity : String) :
    canonicalTestIdentity (stripString identity) = canonicalTestIdentity identity := by
  rw [canonicalTestIdentity, stripString, String.toList_ofList, strip_strip]
  rfl

/-- A signed fingerprint that is read again has its canonical identity. -/
theorem failureFromPersistedMapping_asMapping {item : FailureFingerprint}
    (signed : Signed item) :
    failureFromPersistedMapping py 2 item.asMapping =
      if canonicalTestIdentity item.identifier = "" then none
      else some ⟨canonicalTestIdentity item.identifier, item.signature,
        stripString item.excerpt⟩ := by
  have identity : (FailureFingerprint.fromMapping py item.asMapping).identifier =
      stripString item.identifier := rfl
  have signature : (FailureFingerprint.fromMapping py item.asMapping).signature =
      item.signature := signed.bare
  have present : (2 : Int) ≤ 2 ∧ item.signature ≠ "" := ⟨le_rfl, signed.signed⟩
  unfold failureFromPersistedMapping
  simp only [identity, signature, canonicalTestIdentity_stripString, if_pos present]
  rfl

theorem failureFromPersistedMapping_spec {schema : Int} {data : Row}
    {item : FailureFingerprint} (read : failureFromPersistedMapping py schema data = some item) :
    item.signature ≠ "" ∧ stripString item.signature = item.signature := by
  have bare : stripString (FailureFingerprint.fromMapping py data).signature =
      (FailureFingerprint.fromMapping py data).signature := stripString_stripString _
  unfold failureFromPersistedMapping at read
  obtain ⟨-, read⟩ := Option.ite_none_left_eq_some.mp read
  rcases ite_eq_iff.mp read with ⟨current, same⟩ | ⟨-, read⟩
  · rw [← Option.some.inj same]
    exact ⟨current.2, bare⟩
  rcases ite_eq_iff.mp read with ⟨-, same⟩ | ⟨-, read⟩
  · rw [← Option.some.inj same]
    exact signature_fingerprint _ _
  obtain ⟨given, same⟩ := Option.ite_none_left_eq_some.mp read
  rw [← Option.some.inj same]
  exact ⟨given, bare⟩

theorem canonicalFailure_eq_some {item canonical : FailureFingerprint} :
    canonicalFailure item = some canonical ↔
      canonicalTestIdentity item.identifier ≠ "" ∧
        { item with identifier := canonicalTestIdentity item.identifier } = canonical := by
  unfold canonicalFailure
  exact Option.ite_none_left_eq_some.trans (and_congr_right fun _ => Option.some_inj)

theorem mem_deduplicate {failures : List FailureFingerprint} {item : FailureFingerprint}
    (member : item ∈ deduplicateFailureFingerprints failures) :
    ∃ source ∈ failures, canonicalTestIdentity source.identifier ≠ "" ∧
      { source with identifier := canonicalTestIdentity source.identifier } = item := by
  obtain ⟨listed, -⟩ := mem_of_champion? (mem_champions.mp member)
  obtain ⟨source, isSource, read⟩ := List.mem_filterMap.mp listed
  exact ⟨source, isSource, canonicalFailure_eq_some.mp read⟩

/-- A test among some failures stays one without the duplicates. -/
theorem exists_deduplicate {failures : List FailureFingerprint} {source : FailureFingerprint}
    (member : source ∈ failures) (named : canonicalTestIdentity source.identifier ≠ "") :
    ∃ item ∈ deduplicateFailureFingerprints failures,
      item.identifier = canonicalTestIdentity source.identifier := by
  have listed : { source with identifier := canonicalTestIdentity source.identifier } ∈
      failures.filterMap canonicalFailure :=
    List.mem_filterMap.mpr ⟨source, member, canonicalFailure_eq_some.mpr ⟨named, rfl⟩⟩
  obtain ⟨best, found⟩ := exists_champion? FailureFingerprint.identifier
    FailureFingerprint.rank listed
  have isNamed := (mem_of_champion? found).2
  refine ⟨best, mem_champions.mpr ?_, isNamed⟩
  rw [isNamed]
  exact found

theorem persistedFailures_signed {schema : Int} {rows : List Row} {excerpt : String}
    {item : FailureFingerprint} (member : item ∈ persistedFailures py schema rows excerpt) :
    Signed item := by
  unfold persistedFailures at member
  by_cases empty : rows.filterMap (failureFromPersistedMapping py schema) = []
  · rw [if_pos empty] at member
    exact (extracted_spec member).1
  · rw [if_neg empty] at member
    obtain ⟨source, isSource, named, same⟩ := mem_deduplicate member
    obtain ⟨row, -, read⟩ := List.mem_filterMap.mp isSource
    obtain ⟨signed, bare⟩ := failureFromPersistedMapping_spec read
    rw [← same]
    exact ⟨named, signed, bare⟩

theorem failureFingerprintsFromMapping_signed {row : Row} {failures : List FailureFingerprint}
    (read : failureFingerprintsFromMapping py row = .ok failures) :
    ∀ item ∈ failures, Signed item := by
  intro item member
  unfold failureFingerprintsFromMapping at read
  split at read
  · obtain ⟨schema, -, read⟩ := bind_eq_ok.mp read
    rw [← Except.ok.inj read] at member
    exact persistedFailures_signed member
  · rw [← Except.ok.inj read] at member
    exact (extracted_spec member).1

theorem mappings_object (rows : List Row) : mappings (rows.map Json.object) = rows := by
  rw [mappings, List.filterMap_map]
  exact List.filterMap_some

/-- A result and the row that is kept of it have the same failures. -/
theorem failureFingerprintsFromMapping_asMapping (result : VerificationResult) :
    failureFingerprintsFromMapping py result.asMapping =
      .ok (failureFingerprintsForResult py result) := by
  have failures : result.asMapping.get "failures" .null =
      .array (result.failures.map Json.object) := rfl
  have excerpt : result.asMapping.get "relevant_excerpt" (.string "") =
      .string result.relevantExcerpt := rfl
  have number : result.asMapping.get "failure_fingerprint_schema" (.int 0) =
      .int result.failureFingerprintSchema := rfl
  have schema : integerMember py result.asMapping "failure_fingerprint_schema" =
      .ok result.failureFingerprintSchema := by
    rw [integerMember, number]
    by_cases zero : result.failureFingerprintSchema = 0
    · rw [zero]
      rfl
    · have holds : truthy (.int result.failureFingerprintSchema) = true := decide_eq_true zero
      rw [holds]
      rfl
  rw [failureFingerprintsFromMapping, failures, excerpt]
  show integerMember py result.asMapping "failure_fingerprint_schema" >>= _ = _
  rw [schema, ok_bind, mappings_object]
  rfl

end Persisted

/-! ## The entries of a baseline -/

section Entries

variable (py : BaselineInterpreter)

def failuresOf (row : Row) : List FailureFingerprint :=
  (failureFingerprintsFromMapping py row).toOption.getD []

/-- The entry that a baseline gets for a row. -/
def entryOf (row : Row) : Row :=
  commandBaselineEntry py (strippedMember py row "repository_id")
    (strippedMember py row "command") (failuresOf py row)

/-- The failures of a row are identified. -/
structure Identified (row : Row) : Prop where
  command : strippedMember py row "command" ≠ ""
  read : failureFingerprintsFromMapping py row = .ok (failuresOf py row)
  present : failuresOf py row ≠ []

/-- An acceptance of some rows. -/
structure Built (packageId profile : String) (rows : List Row) (acceptance : Row) : Prop where
  some : rows ≠ []
  identified : ∀ row ∈ rows, Identified py row
  commands : acceptance.get "commands" (.array []) =
    .array ((rows.map (entryOf py)).map Json.object)
  packageId : acceptance.get "package_id" (.string "") = .string packageId
  profile : acceptance.get "profile" (.string "") = .string profile
  schema : acceptance.get "fingerprint_schema" (.int 0) = .int 2

/-- The row of a command of a repository. -/
def IsRowOf (repositoryId command : String) (row : Row) : Prop :=
  strippedMember py row "repository_id" = repositoryId ∧
    strippedMember py row "command" = stripString command

instance (repositoryId command : String) (row : Row) :
    Decidable (IsRowOf py repositoryId command row) :=
  inferInstanceAs (Decidable (_ ∧ _))

/-- The first row of a command knows the failures under their canonical identities. -/
def Known (rows : List Row) (repositoryId command : String)
    (observed : List FailureFingerprint) : Prop :=
  observed ≠ [] ∧ ∃ row, rows.find? (IsRowOf py repositoryId command) = some row ∧
    ∀ item ∈ observed, ∃ known ∈ failuresOf py row,
      canonicalTestIdentity known.identifier = item.identifier ∧
        known.signature = item.signature

variable {py} {packageId profile : String} {rows : List Row} {acceptance : Row}

theorem failuresOf_of_read {row : Row} {failures : List FailureFingerprint}
    (read : failureFingerprintsFromMapping py row = .ok failures) :
    failuresOf py row = failures := by
  rw [failuresOf, read]
  rfl

theorem Identified.signed {row : Row} (identified : Identified py row) :
    ∀ item ∈ failuresOf py row, Signed item :=
  failureFingerprintsFromMapping_signed identified.read

theorem baselineEntries_spec {entries : List Row}
    (read : baselineEntries py rows = .ok (some entries)) :
    entries = rows.map (entryOf py) ∧ ∀ row ∈ rows, Identified py row := by
  induction rows generalizing entries with
  | nil =>
      cases read
      exact ⟨rfl, fun _ member => absurd member List.not_mem_nil⟩
  | cons row rest inductionHypothesis =>
      obtain ⟨failures, here, read⟩ := bind_eq_ok.mp read
      rcases ite_eq_iff.mp read with ⟨-, stops⟩ | ⟨identified, read⟩
      · cases stops
      obtain ⟨others, later, read⟩ := bind_eq_ok.mp read
      obtain ⟨tail, known, same⟩ := Option.map_eq_some_iff.mp (Except.ok.inj read)
      rw [known] at later
      obtain ⟨tailEntries, tailIdentified⟩ := inductionHypothesis later
      obtain ⟨command, present⟩ := not_or.mp identified
      have own := failuresOf_of_read here
      refine ⟨?_, List.forall_mem_cons.mpr ⟨⟨command, own ▸ here, own ▸ present⟩,
        tailIdentified⟩⟩
      rw [← same, tailEntries, List.map_cons, entryOf, own]

theorem buildBaselineAcceptance_spec
    {acceptedBy acceptedAt incidentId authorizationText : String}
    (built : buildBaselineAcceptance py packageId profile rows acceptedBy acceptedAt
      incidentId authorizationText = .ok (some acceptance)) :
    Built py packageId profile rows acceptance := by
  obtain ⟨entries, read, built⟩ := bind_eq_ok.mp built
  cases entries with
  | none => cases built
  | some commands =>
      obtain ⟨same, identified⟩ := baselineEntries_spec read
      cases commands with
      | nil => cases built
      | cons first others =>
          rw [← Option.some.inj (Except.ok.inj built)]
          refine ⟨?_, identified, ?_, rfl, rfl, rfl⟩
          · intro empty
            rw [empty] at same
            cases same
          · rw [← same]
            rfl

/-- An entry is that of its row's command. -/
theorem isEntryOf_entryOf {repositoryId command : String} (row : Row) :
    isEntryOf py repositoryId command (entryOf py row) =
      decide (IsRowOf py repositoryId command row) := by
  have repository : strippedMember py (entryOf py row) "repository_id" =
      strippedMember py row "repository_id" := stripString_stripString _
  have named : strippedMember py (entryOf py row) "command" =
      strippedMember py row "command" := stripString_stripString _
  have digests : strippedMember py (entryOf py row) "command_digest" =
      digest py (strippedMember py row "command") 20 := by
    have whole : strippedMember py (entryOf py row) "command_digest" =
        stripString (commandDigest py (strippedMember py row "command")) := rfl
    rw [whole, commandDigest, stripString_of_visible (visible_digest _ _), strippedMember,
      stripString_stripString]
  rw [isEntryOf, repository, named, digests, commandDigest]
  congr 1
  refine propext ⟨fun entry => ⟨entry.1, entry.2.2⟩, fun row => ⟨row.1, ?_, row.2⟩⟩
  rw [row.2]

theorem elements_array (values : List Json) : elements (.array values) = .ok values :=
  rfl

theorem acceptedCommand_built (built : Built py packageId profile rows acceptance)
    (repositoryId command : String) :
    acceptedCommand py acceptance repositoryId command =
      .ok ((rows.find? (IsRowOf py repositoryId command)).map (entryOf py)) := by
  have agrees : isEntryOf py repositoryId command ∘ entryOf py =
      fun row => decide (IsRowOf py repositoryId command row) := by
    funext row
    rw [Function.comp_apply, isEntryOf_entryOf]
  rw [acceptedCommand, built.commands, elements_array, ok_bind, mappings_object,
    List.find?_map, agrees]
  rfl

/-- What the baseline knows of a row's failures. -/
theorem acceptedFailures_built (built : Built py packageId profile rows acceptance)
    (row : Row) :
    acceptedFailures py acceptance (entryOf py row) =
      .ok ((failuresOf py row).filterMap fun item =>
        failureFromPersistedMapping py 2 item.asMapping) := by
  have listed : (entryOf py row).get "failures" (.array []) =
      .array ((failuresOf py row).map fun item => .object item.asMapping) := rfl
  have rowsOf : mappings ((failuresOf py row).map fun item => .object item.asMapping) =
      (failuresOf py row).map FailureFingerprint.asMapping := by
    rw [← mappings_object ((failuresOf py row).map FailureFingerprint.asMapping), List.map_map]
    rfl
  have schema : integerMember py acceptance "fingerprint_schema" = .ok 2 := by
    rw [integerMember, built.schema]
    rfl
  rw [acceptedFailures, listed, elements_array, ok_bind, rowsOf]
  cases shape : failuresOf py row with
  | nil => rfl
  | cons first others =>
      show integerMember py acceptance "fingerprint_schema" >>= _ = _
      rw [schema, ok_bind, List.filterMap_map, Function.comp_def]
      rfl

/-! ## Coverage and matching -/

/-- The failures that an entry yields when it is read. -/
def keptFailures (py : BaselineInterpreter) (failures : List FailureFingerprint) :
    List FailureFingerprint :=
  failures.filterMap fun item => failureFromPersistedMapping py 2 item.asMapping

theorem mem_keptFailures {failures : List FailureFingerprint}
    (signed : ∀ item ∈ failures, Signed item) {kept : FailureFingerprint} :
    kept ∈ keptFailures py failures ↔ ∃ known ∈ failures,
      canonicalTestIdentity known.identifier ≠ "" ∧
        ⟨canonicalTestIdentity known.identifier, known.signature,
          stripString known.excerpt⟩ = kept := by
  rw [keptFailures, List.mem_filterMap]
  refine exists_congr fun known => and_congr_right fun member => ?_
  rw [failureFromPersistedMapping_asMapping (signed known member)]
  exact Option.ite_none_left_eq_some.trans (and_congr_right fun _ => Option.some_inj)

/-- Where the names are not blank, the kept failures are the canonical ones. -/
theorem pair_mem_keptFailures {failures : List FailureFingerprint}
    (signed : ∀ item ∈ failures, Signed item) {item : FailureFingerprint}
    (named : item.identifier ≠ "") :
    item.pair ∈ (keptFailures py failures).map FailureFingerprint.pair ↔
      ∃ known ∈ failures, canonicalTestIdentity known.identifier = item.identifier ∧
        known.signature = item.signature := by
  rw [List.mem_map]
  constructor
  · rintro ⟨kept, isKept, same⟩
    obtain ⟨known, member, -, shape⟩ := (mem_keptFailures signed).mp isKept
    rw [← shape] at same
    exact ⟨known, member, Prod.mk.inj same⟩
  · rintro ⟨known, member, identity, signature⟩
    have present : canonicalTestIdentity known.identifier ≠ "" := identity ▸ named
    refine ⟨_, (mem_keptFailures signed).mpr ⟨known, member, present, rfl⟩, ?_⟩
    exact Prod.ext identity signature

/-- The match asks for what is named and signed; everything that is kept is. -/
theorem filter_keptFailures {failures : List FailureFingerprint}
    (signed : ∀ item ∈ failures, Signed item) :
    (keptFailures py failures).filter (fun item =>
      item.identifier ≠ "" ∧ item.signature ≠ "") = keptFailures py failures := by
  refine List.filter_eq_self.mpr fun kept isKept => ?_
  obtain ⟨known, member, present, shape⟩ := (mem_keptFailures signed).mp isKept
  rw [← shape]
  exact decide_eq_true ⟨present, (signed known member).signed⟩

/-- Known failures are those that the entry of the first row yields. -/
theorem known_iff {repositoryId command : String} {observed : List FailureFingerprint}
    {row : Row} (found : rows.find? (IsRowOf py repositoryId command) = some row)
    (present : observed ≠ []) (signed : ∀ item ∈ failuresOf py row, Signed item)
    (observedSigned : ∀ item ∈ observed, Signed item) :
    Known py rows repositoryId command observed ↔ ∀ item ∈ observed,
      item.pair ∈ (keptFailures py (failuresOf py row)).map FailureFingerprint.pair := by
  constructor
  · intro known item listed
    obtain ⟨-, first, same, each⟩ := known
    rw [found] at same
    rw [pair_mem_keptFailures signed (observedSigned item listed).named,
      Option.some.inj same]
    exact each item listed
  · intro each
    refine ⟨present, row, found, fun item listed => ?_⟩
    exact (pair_mem_keptFailures signed (observedSigned item listed).named).mp
      (each item listed)

/-- The match comes to the answer that the result is accepted. -/
def Accepts (outcome : Except String BaselineMatch) : Prop :=
  ∃ found, outcome = .ok found ∧ found.accepted = true

theorem accepts_ok {found : BaselineMatch} : Accepts (.ok found) ↔ found.accepted = true := by
  constructor
  · rintro ⟨other, same, accepted⟩
    rw [Except.ok.inj same]
    exact accepted
  · exact fun accepted => ⟨found, rfl, accepted⟩

theorem Built.ne_nil (built : Built py packageId profile rows acceptance) :
    acceptance ≠ [] := by
  intro empty
  have schema := built.schema
  rw [empty] at schema
  cases schema

/-- An acceptance is for one unfinished package and one profile. -/
theorem scope_of_accepts (built : Built py packageId profile rows acceptance)
    {otherPackage otherProfile repositoryId command : String} {result : VerificationResult}
    {packageCompleted : Bool}
    (accepted : Accepts (matchResultAgainstBaseline py acceptance otherPackage otherProfile
      repositoryId command result packageCompleted)) :
    otherPackage = packageId ∧ otherProfile = profile ∧ packageCompleted = false := by
  unfold matchResultAgainstBaseline at accepted
  rw [if_neg built.ne_nil, built.packageId, built.profile] at accepted
  cases packageCompleted with
  | true =>
      rw [if_pos rfl] at accepted
      cases (accepts_ok.mp accepted)
  | false =>
      rw [if_neg Bool.false_ne_true] at accepted
      by_cases otherId : py.text (.string packageId) ≠ otherPackage
      · rw [if_pos otherId] at accepted
        cases (accepts_ok.mp accepted)
      rw [if_neg otherId] at accepted
      by_cases otherName : py.text (.string profile) ≠ otherProfile
      · rw [if_pos otherName] at accepted
        cases (accepts_ok.mp accepted)
      exact ⟨(not_not.mp otherId).symm, (not_not.mp otherName).symm, rfl⟩

/-- A result is accepted when its failures are known. -/
theorem match_accepts_iff (built : Built py packageId profile rows acceptance)
    (repositoryId command : String) (result : VerificationResult) :
    Accepts (matchResultAgainstBaseline py acceptance packageId profile repositoryId command
      result false) ↔
        Known py rows repositoryId command (failureFingerprintsForResult py result) := by
  have samePackage : ¬py.text (acceptance.get "package_id" (.string "")) ≠ packageId := by
    rw [built.packageId]
    exact not_not_intro rfl
  have sameProfile : ¬py.text (acceptance.get "profile" (.string "")) ≠ profile := by
    rw [built.profile]
    exact not_not_intro rfl
  unfold matchResultAgainstBaseline
  rw [if_neg built.ne_nil, if_neg Bool.false_ne_true, if_neg samePackage, if_neg sameProfile,
    acceptedCommand_built built, ok_bind]
  cases found : rows.find? (IsRowOf py repositoryId command) with
  | none =>
      constructor
      · intro accepted
        cases (accepts_ok.mp accepted)
      · rintro ⟨-, row, first, -⟩
        rw [found] at first
        cases first
  | some row =>
      have member := List.mem_of_find?_eq_some found
      have signed := (built.identified row member).signed
      show Accepts (if failureFingerprintsForResult py result = [] then _ else _) ↔ _
      by_cases empty : failureFingerprintsForResult py result = []
      · rw [if_pos empty]
        constructor
        · intro accepted
          cases (accepts_ok.mp accepted)
        · exact fun known => absurd empty known.1
      · rw [if_neg empty, acceptedFailures_built built, ok_bind]
        have observedSigned : ∀ item ∈ failureFingerprintsForResult py result, Signed item :=
          fun _ listed => persistedFailures_signed listed
        have known := known_iff found empty signed observedSigned
        have whole := @filter_keptFailures py _ signed
        unfold keptFailures at whole
        refine accepts_ok.trans ?_
        rw [whole, decide_eq_true_iff, known, List.filter_eq_nil_iff]
        refine forall₂_congr fun item listed => ?_
        rw [decide_eq_true_iff, not_not]
        rfl


theorem coversRow_iff (built : Built py packageId profile rows acceptance) {row : Row}
    (identified : Identified py row) :
    coversRow py acceptance row = .ok true ↔
      Known py rows (strippedMember py row "repository_id") (strippedMember py row "command")
        (failuresOf py row) := by
  unfold coversRow
  rw [if_neg identified.command, acceptedCommand_built built, ok_bind]
  cases found : rows.find? (IsRowOf py (strippedMember py row "repository_id")
      (strippedMember py row "command")) with
  | none =>
      constructor
      · intro covered
        cases covered
      · rintro ⟨-, other, first, -⟩
        rw [found] at first
        cases first
  | some first =>
      have signed := (built.identified first (List.mem_of_find?_eq_some found)).signed
      show (failureFingerprintsFromMapping py row >>= _) = _ ↔ _
      rw [identified.read, ok_bind, if_neg identified.present, acceptedFailures_built built,
        ok_bind, known_iff found identified.present signed identified.signed]
      refine (Except.ok.injEq _ _).to_iff.trans ?_
      rw [List.all_eq_true]
      exact forall₂_congr fun item listed => decide_eq_true_iff

theorem coversRows_iff {remaining : List Row} :
    coversRows py acceptance remaining = .ok true ↔
      ∀ row ∈ remaining, coversRow py acceptance row = .ok true := by
  induction remaining with
  | nil => exact ⟨fun _ _ member => absurd member List.not_mem_nil, fun _ => rfl⟩
  | cons row rest inductionHypothesis =>
      rw [coversRows, List.forall_mem_cons, ← inductionHypothesis, bind_eq_ok]
      constructor
      · rintro ⟨covered, here, later⟩
        cases covered with
        | true => exact ⟨here, later⟩
        | false => cases later
      · rintro ⟨here, later⟩
        exact ⟨true, here, later⟩

/-- The rows of an acceptance are covered when it knows the failures of each. -/
theorem covers_iff (built : Built py packageId profile rows acceptance) :
    acceptanceCoversFailedRows py acceptance packageId profile rows = .ok true ↔
      ∀ row ∈ rows, Known py rows (strippedMember py row "repository_id")
        (strippedMember py row "command") (failuresOf py row) := by
  have agrees : ¬(rows = [] ∨ py.text (acceptance.get "package_id" (.string "")) ≠ packageId ∨
      py.text (acceptance.get "profile" (.string "")) ≠ profile) := by
    rw [built.packageId, built.profile]
    rintro (empty | other | other)
    · exact built.some empty
    · exact other rfl
    · exact other rfl
  rw [acceptanceCoversFailedRows, if_neg agrees, coversRows_iff]
  exact forall₂_congr fun row member => coversRow_iff built (built.identified row member)

end Entries

end Execraft.Orchestrate.Baseline
