import Execraft.Orchestrate.BaselineMasking
import Mathlib.Algebra.Order.BigOperators.Group.List

/-!
# Coverage and matching agree

A package is woken when an acceptance covers its failed rows, and runs on when the
acceptance matches the results of these rows.
-/

namespace Execraft.Orchestrate.Baseline

open Foundation Foundation.Json Foundation.Text

section Agreement

variable {py : BaselineInterpreter} {packageId profile : String} {acceptance : Row}

/-! ## Any acceptance -/

/-- The entry of a command knows every failure of a result. -/
def Covers (py : BaselineInterpreter) (acceptance : Row) (repositoryId command : String)
    (observed : List FailureFingerprint) : Prop :=
  ∃ entry, acceptedCommand py acceptance repositoryId command = .ok (some entry) ∧
    observed ≠ [] ∧ ∃ known, acceptedFailures py acceptance entry = .ok known ∧
      ∀ item ∈ observed, item.pair ∈ known.map FailureFingerprint.pair

theorem coversRow_eq_true {row : Row} {observed : List FailureFingerprint}
    (read : failureFingerprintsFromMapping py row = .ok observed) :
    coversRow py acceptance row = .ok true ↔ strippedMember py row "command" ≠ "" ∧
      Covers py acceptance (strippedMember py row "repository_id")
        (strippedMember py row "command") observed := by
  unfold coversRow
  by_cases blank : strippedMember py row "command" = ""
  · rw [if_pos blank]
    exact ⟨nofun, fun covered => absurd blank covered.1⟩
  rw [if_neg blank, bind_eq_ok, and_iff_right blank]
  refine ⟨fun found => ?_, fun covered => ?_⟩
  · obtain ⟨answer, found, covered⟩ := found
    cases answer with
    | none => cases covered
    | some entry =>
        obtain ⟨same, isRead, covered⟩ := bind_eq_ok.mp covered
        rw [read] at isRead
        rw [← Except.ok.inj isRead] at covered
        rcases ite_eq_iff.mp covered with ⟨-, stops⟩ | ⟨present, covered⟩
        · cases stops
        obtain ⟨known, isKnown, covered⟩ := bind_eq_ok.mp covered
        have each := List.all_eq_true.mp (Except.ok.inj covered)
        exact ⟨entry, found, present, known, isKnown,
          fun item member => of_decide_eq_true (each item member)⟩
  · obtain ⟨entry, found, present, known, isKnown, each⟩ := covered
    refine ⟨some entry, found, bind_eq_ok.mpr ⟨observed, read, ?_⟩⟩
    rw [if_neg present, isKnown, ok_bind]
    exact congrArg Except.ok
      (List.all_eq_true.mpr fun item member => decide_eq_true (each item member))

/-- The known failures with a name and a signature; all observed failures have both. -/
theorem pair_mem_filter {known : List FailureFingerprint} {item : FailureFingerprint}
    (signed : Signed item) :
    item.pair ∈ (known.filter fun other =>
      other.identifier ≠ "" ∧ other.signature ≠ "").map FailureFingerprint.pair ↔
        item.pair ∈ known.map FailureFingerprint.pair := by
  rw [List.mem_map, List.mem_map]
  refine exists_congr fun other => and_congr_left fun same => ?_
  rw [List.mem_filter, decide_eq_true_iff]
  obtain ⟨identity, signature⟩ := Prod.mk.inj same
  rw [identity, signature]
  exact and_iff_left ⟨signed.named, signed.signed⟩

theorem accepts_iff_covers {repositoryId command : String} {result : VerificationResult}
    (samePackage : py.text (acceptance.get "package_id" (.string "")) = packageId)
    (sameProfile : py.text (acceptance.get "profile" (.string "")) = profile) :
    Accepts (matchResultAgainstBaseline py acceptance packageId profile repositoryId command
      result false) ↔
        Covers py acceptance repositoryId command (failureFingerprintsForResult py result) := by
  by_cases none : acceptance = []
  · refine ⟨fun accepted => ?_, fun covered => ?_⟩
    · unfold matchResultAgainstBaseline at accepted
      rw [if_pos none] at accepted
      cases (accepts_ok.mp accepted)
    · obtain ⟨entry, found, -⟩ := covered
      rw [none] at found
      cases found
  unfold matchResultAgainstBaseline
  rw [if_neg none, if_neg Bool.false_ne_true, if_neg (not_not_intro samePackage),
    if_neg (not_not_intro sameProfile)]
  constructor
  · rintro ⟨outcome, isOutcome, accepted⟩
    obtain ⟨answer, found, isOutcome⟩ := bind_eq_ok.mp isOutcome
    cases answer with
    | none =>
        rw [← Except.ok.inj isOutcome] at accepted
        cases accepted
    | some entry =>
        rcases ite_eq_iff.mp isOutcome with ⟨-, stops⟩ | ⟨present, isOutcome⟩
        · rw [← Except.ok.inj stops] at accepted
          cases accepted
        obtain ⟨known, isKnown, isOutcome⟩ := bind_eq_ok.mp isOutcome
        rw [← Except.ok.inj isOutcome] at accepted
        have unexpected := List.filter_eq_nil_iff.mp (of_decide_eq_true accepted)
        refine ⟨entry, found, present, known, isKnown, fun item member => ?_⟩
        have expected := unexpected item member
        rw [decide_eq_true_iff, not_not] at expected
        exact (pair_mem_filter (persistedFailures_signed member)).mp expected
  · rintro ⟨entry, found, present, known, isKnown, each⟩
    rw [found, ok_bind]
    show Accepts (if failureFingerprintsForResult py result = [] then _ else _)
    rw [if_neg present, isKnown, ok_bind]
    refine accepts_ok.mpr (decide_eq_true (List.filter_eq_nil_iff.mpr fun item member => ?_))
    rw [decide_eq_true_iff, not_not]
    exact (pair_mem_filter (persistedFailures_signed member)).mpr (each item member)

theorem acceptedCommand_stripString (repositoryId command : String) :
    acceptedCommand py acceptance repositoryId (stripString command) =
      acceptedCommand py acceptance repositoryId command := by
  have same : isEntryOf py repositoryId (stripString command) =
      isEntryOf py repositoryId command := by
    funext entry
    rw [isEntryOf, isEntryOf, commandDigest, commandDigest, stripString_stripString]
  rw [acceptedCommand, acceptedCommand, same]

section Results

variable (result : VerificationResult)

theorem repositoryId_asMapping :
    strippedMember py result.asMapping "repository_id" = stripString result.repositoryId :=
  rfl

theorem command_asMapping :
    strippedMember py result.asMapping "command" = stripString result.command :=
  rfl

end Results

/-- The row of a result is covered when the result has a command and is accepted. -/
theorem coversRow_asMapping {result : VerificationResult}
    (trimmed : stripString result.repositoryId = result.repositoryId)
    (samePackage : py.text (acceptance.get "package_id" (.string "")) = packageId)
    (sameProfile : py.text (acceptance.get "profile" (.string "")) = profile) :
    coversRow py acceptance result.asMapping = .ok true ↔
      stripString result.command ≠ "" ∧
        Accepts (matchResultAgainstBaseline py acceptance packageId profile
          result.repositoryId result.command result false) := by
  rw [coversRow_eq_true (failureFingerprintsFromMapping_asMapping result),
    accepts_iff_covers samePackage sameProfile, repositoryId_asMapping, command_asMapping,
    trimmed, Covers, acceptedCommand_stripString, Covers]

theorem scope_of_match {repositoryId command : String} {result : VerificationResult}
    (accepted : Accepts (matchResultAgainstBaseline py acceptance packageId profile
      repositoryId command result false)) :
    py.text (acceptance.get "package_id" (.string "")) = packageId ∧
      py.text (acceptance.get "profile" (.string "")) = profile := by
  obtain ⟨outcome, isOutcome, accepted⟩ := accepted
  unfold matchResultAgainstBaseline at isOutcome
  rcases ite_eq_iff.mp isOutcome with ⟨-, stops⟩ | ⟨-, isOutcome⟩
  · rw [← Except.ok.inj stops] at accepted
    cases accepted
  rw [if_neg Bool.false_ne_true] at isOutcome
  rcases ite_eq_iff.mp isOutcome with ⟨-, stops⟩ | ⟨samePackage, isOutcome⟩
  · rw [← Except.ok.inj stops] at accepted
    cases accepted
  rcases ite_eq_iff.mp isOutcome with ⟨-, stops⟩ | ⟨sameProfile, -⟩
  · rw [← Except.ok.inj stops] at accepted
    cases accepted
  exact ⟨not_not.mp samePackage, not_not.mp sameProfile⟩

/-- A package is woken exactly when each of its results will be accepted. -/
theorem covers_iff_matches (py : BaselineInterpreter) (acceptance : Row)
    (packageId profile : String) (results : List VerificationResult)
    (trimmed : ∀ result ∈ results, stripString result.repositoryId = result.repositoryId) :
    acceptanceCoversFailedRows py acceptance packageId profile
        (results.map VerificationResult.asMapping) = .ok true ↔
      results ≠ [] ∧ ∀ result ∈ results, stripString result.command ≠ "" ∧
        Accepts (matchResultAgainstBaseline py acceptance packageId profile
          result.repositoryId result.command result false) := by
  unfold acceptanceCoversFailedRows
  by_cases other : results.map VerificationResult.asMapping = [] ∨
      py.text (acceptance.get "package_id" (.string "")) ≠ packageId ∨
      py.text (acceptance.get "profile" (.string "")) ≠ profile
  · rw [if_pos other]
    refine ⟨nofun, fun accepted => ?_⟩
    obtain ⟨some, each⟩ := accepted
    obtain ⟨result, member⟩ := List.exists_mem_of_ne_nil _ some
    obtain ⟨samePackage, sameProfile⟩ := scope_of_match (each result member).2
    rcases other with empty | otherPackage | otherProfile
    · exact absurd (List.map_eq_nil_iff.mp empty) some
    · exact absurd samePackage otherPackage
    · exact absurd sameProfile otherProfile
  · obtain ⟨some, scope⟩ := not_or.mp other
    obtain ⟨samePackage, sameProfile⟩ := not_or.mp scope
    rw [if_neg other, coversRows_iff, List.forall_mem_map,
      and_iff_right (fun empty => some (List.map_eq_nil_iff.mpr empty))]
    exact forall₂_congr fun result member => coversRow_asMapping (trimmed result member)
      (not_not.mp samePackage) (not_not.mp sameProfile)

/-! ## The rows of an acceptance -/

theorem canonicalTestIdentity_sublist (identity : String) :
    (canonicalTestIdentity identity).toList.Sublist identity.toList := by
  rw [canonicalTestIdentity, String.toList_ofList]
  exact lastParts_suffix.sublist.trans ((trim_sublist _).trans (trim_sublist _))

/-- An identity that keeps its length keeps its text. -/
theorem canonicalTestIdentity_of_length {identity : String}
    (long : identity.toList.length ≤ (canonicalTestIdentity identity).toList.length) :
    canonicalTestIdentity identity = identity :=
  String.toList_inj.mp ((canonicalTestIdentity_sublist identity).eq_of_length_le long)

/-- Where every item has a source whose canonical identity it carries, all are stable: an
item that is not has a source with a longer identity. -/
theorem stable_of_sources {failures : List FailureFingerprint}
    (sources : ∀ item ∈ failures, ∃ known ∈ failures,
      canonicalTestIdentity known.identifier = item.identifier) :
    ∀ item ∈ failures, Stable item := by
  let size : FailureFingerprint → Nat := fun item => item.identifier.toList.length
  let bound := (failures.map size).sum
  have bounded : ∀ item ∈ failures, size item ≤ bound := fun item member =>
    List.le_sum_of_mem (List.mem_map_of_mem member)
  suffices each : ∀ room, ∀ item ∈ failures, bound - size item ≤ room → Stable item from
    fun item member => each _ item member le_rfl
  intro room
  induction room with
  | zero =>
      intro item member full
      obtain ⟨known, isKnown, same⟩ := sources item member
      have long : size known ≤ size item := by
        have := bounded known isKnown
        omega
      have kept : canonicalTestIdentity known.identifier = known.identifier :=
        canonicalTestIdentity_of_length (same ▸ long)
      rw [Stable, ← same, kept, kept]
  | succ room inductionHypothesis =>
      intro item member small
      obtain ⟨known, isKnown, same⟩ := sources item member
      by_cases long : size known ≤ size item
      · have kept : canonicalTestIdentity known.identifier = known.identifier :=
          canonicalTestIdentity_of_length (same ▸ long)
        rw [Stable, ← same, kept, kept]
      · have knownBound := bounded known isKnown
        have kept : canonicalTestIdentity known.identifier = known.identifier :=
          inductionHypothesis known isKnown (by omega)
        rw [Stable, ← same, kept, kept]

/-- Rows of one command have no other failures than the first of them. -/
def FirstRowsComplete (py : BaselineInterpreter) (rows : List Row) : Prop :=
  ∀ row ∈ rows, ∀ first,
    rows.find? (IsRowOf py (strippedMember py row "repository_id")
      (strippedMember py row "command")) = some first →
        ∀ item ∈ failuresOf py row,
          item.pair ∈ (failuresOf py first).map FailureFingerprint.pair

def StableRows (py : BaselineInterpreter) (rows : List Row) : Prop :=
  ∀ row ∈ rows, ∀ item ∈ failuresOf py row, Stable item

variable {rows : List Row}

theorem find_stripString (repositoryId command : String) :
    rows.find? (IsRowOf py repositoryId (stripString command)) =
      rows.find? (IsRowOf py repositoryId command) := by
  have same : (fun row => decide (IsRowOf py repositoryId (stripString command) row)) =
      fun row => decide (IsRowOf py repositoryId command row) := by
    funext row
    rw [decide_eq_decide, IsRowOf, IsRowOf, stripString_stripString]
  exact congrArg rows.find? same

/-- The first row of a command is that of its own command. -/
theorem find_first {row first : Row}
    (found : rows.find? (IsRowOf py (strippedMember py row "repository_id")
      (strippedMember py row "command")) = some first) :
    rows.find? (IsRowOf py (strippedMember py first "repository_id")
      (strippedMember py first "command")) = some first := by
  have isFirst : IsRowOf py (strippedMember py row "repository_id")
      (strippedMember py row "command") first := by
    simpa using List.find?_some found
  have stripped : stripString (strippedMember py row "command") =
      strippedMember py row "command" := stripString_stripString _
  rw [isFirst.1, isFirst.2, stripped]
  exact found

theorem exists_first {row : Row} (member : row ∈ rows) :
    ∃ first ∈ rows, rows.find? (IsRowOf py (strippedMember py row "repository_id")
      (strippedMember py row "command")) = some first := by
  have own : IsRowOf py (strippedMember py row "repository_id")
      (strippedMember py row "command") row := ⟨rfl, (stripString_stripString _).symm⟩
  have present : (rows.find? (IsRowOf py (strippedMember py row "repository_id")
      (strippedMember py row "command"))).isSome :=
    List.find?_isSome.mpr ⟨row, member, decide_eq_true own⟩
  obtain ⟨first, found⟩ := Option.isSome_iff_exists.mp present
  exact ⟨first, List.mem_of_find?_eq_some found, found⟩

/-- Every row knows its failures exactly when the identities are stable and the first row
of each command is complete. -/
theorem known_rows_iff (identified : ∀ row ∈ rows, Identified py row) :
    (∀ row ∈ rows, Known py rows (strippedMember py row "repository_id")
      (strippedMember py row "command") (failuresOf py row)) ↔
        StableRows py rows ∧ FirstRowsComplete py rows := by
  constructor
  · intro known
    have firstStable : ∀ row ∈ rows, ∀ first,
        rows.find? (IsRowOf py (strippedMember py row "repository_id")
          (strippedMember py row "command")) = some first →
            ∀ item ∈ failuresOf py first, Stable item := by
      intro row member first found
      refine stable_of_sources fun item listed => ?_
      obtain ⟨-, other, isOther, each⟩ := known first (List.mem_of_find?_eq_some found)
      rw [find_first found] at isOther
      obtain ⟨source, isSource, same, -⟩ := each item listed
      exact ⟨source, Option.some.inj isOther ▸ isSource, same⟩
    -- What a row observes is one of the stable failures of the first row of its command.
    have observes : ∀ row ∈ rows, ∀ first,
        rows.find? (IsRowOf py (strippedMember py row "repository_id")
          (strippedMember py row "command")) = some first →
            ∀ item ∈ failuresOf py row, Stable item ∧
              item.pair ∈ (failuresOf py first).map FailureFingerprint.pair := by
      intro row member first found item listed
      obtain ⟨-, other, isOther, each⟩ := known row member
      rw [found] at isOther
      obtain ⟨source, isSource, identity, signature⟩ := each item listed
      rw [← Option.some.inj isOther] at isSource
      have stable : canonicalTestIdentity source.identifier = source.identifier :=
        firstStable row member first found source isSource
      refine ⟨?_, List.mem_map.mpr ⟨source, isSource, Prod.ext ?_ signature⟩⟩
      · rw [Stable, ← identity, stable, stable]
      · exact stable.symm.trans identity
    refine ⟨fun row member item listed => ?_, fun row member first found item listed =>
      (observes row member first found item listed).2⟩
    obtain ⟨first, -, found⟩ := @exists_first py rows row member
    exact (observes row member first found item listed).1
  · rintro ⟨stable, complete⟩ row member
    obtain ⟨first, isFirst, found⟩ := @exists_first py rows row member
    refine ⟨(identified row member).present, first, found, fun item listed => ?_⟩
    obtain ⟨source, isSource, same⟩ := List.mem_map.mp (complete row member first found item
      listed)
    obtain ⟨identity, signature⟩ := Prod.mk.inj same
    exact ⟨source, isSource, (stable first isFirst source isSource).trans identity, signature⟩

/-- An acceptance covers the rows that it was built from, and accepts their results, exactly
when the identities of their failures are stable, the first row of each command has all
failures of the command, and no repository has white space around its name. -/
theorem accepts_own_rows_iff (py : BaselineInterpreter) (packageId profile : String)
    (rows : List Row) (acceptedBy acceptedAt incidentId authorizationText : String)
    (acceptance : Row)
    (builds : buildBaselineAcceptance py packageId profile rows acceptedBy acceptedAt incidentId
      authorizationText = .ok (some acceptance)) :
    (acceptanceCoversFailedRows py acceptance packageId profile rows = .ok true ∧
      ∀ result : VerificationResult, result.asMapping ∈ rows →
        Accepts (matchResultAgainstBaseline py acceptance packageId profile
          result.repositoryId result.command result false)) ↔
      (StableRows py rows ∧ FirstRowsComplete py rows) ∧
        ∀ result : VerificationResult, result.asMapping ∈ rows →
          stripString result.repositoryId = result.repositoryId := by
  have built := buildBaselineAcceptance_spec builds
  rw [covers_iff built, known_rows_iff built.identified]
  refine and_congr_right fun regular => forall₂_congr fun result member => ?_
  rw [match_accepts_iff built]
  constructor
  · rintro ⟨-, row, found, -⟩
    have isRow : IsRowOf py result.repositoryId result.command row := by
      simpa using List.find?_some found
    rw [← isRow.1]
    exact stripString_stripString _
  · intro trimmed
    have known := (known_rows_iff built.identified).mpr regular _ member
    rw [repositoryId_asMapping, command_asMapping, trimmed,
      failuresOf_of_read (failureFingerprintsFromMapping_asMapping result)] at known
    obtain ⟨present, row, found, each⟩ := known
    rw [find_stripString] at found
    exact ⟨present, row, found, each⟩

end Agreement

/-! ## The acceptance of one failure -/

theorem exists_acceptance {built : Except String (Option Row)}
    (evaluated : built.toOption.map Option.isSome = some true) :
    ∃ acceptance, built = .ok (some acceptance) := by
  obtain ⟨answer, isBuilt, present⟩ := exists_ok_of_toOption evaluated
  obtain ⟨acceptance, same⟩ := Option.isSome_iff_exists.mp present
  exact ⟨acceptance, isBuilt.trans (congrArg Except.ok same)⟩

def sampleRow : Row :=
  (sampleResult baselineOutput).asMapping

/-- The acceptance of a failure wakes its package and lets the failure pass. -/
theorem covers_iff_matches_sample : ∃ acceptance, sampleAcceptance = .ok (some acceptance) ∧
    acceptanceCoversFailedRows asciiBaseline acceptance "WP-1" "focused" [sampleRow] =
        .ok true ∧
      Accepts (matchResultAgainstBaseline asciiBaseline acceptance "WP-1" "focused" "app"
        "pytest" (sampleResult baselineOutput) false) := by
  have evaluated : sampleAcceptance.toOption.map (fun answer => answer.map fun acceptance =>
      (acceptanceCoversFailedRows asciiBaseline acceptance "WP-1" "focused"
        [sampleRow]).toOption.map id) = some (some (some true)) := by
    decide +kernel
  obtain ⟨answer, isBuilt, covered⟩ := exists_ok_of_toOption evaluated
  obtain ⟨acceptance, same, covered⟩ := Option.map_eq_some_iff.mp covered
  obtain ⟨whole, isCovered, holds⟩ := exists_ok_of_toOption covered
  have covers := isCovered.trans (congrArg Except.ok holds)
  obtain ⟨-, each⟩ := (covers_iff_matches asciiBaseline acceptance "WP-1" "focused"
    [sampleResult baselineOutput] (by decide)).mp covers
  exact ⟨acceptance, isBuilt.trans (congrArg Except.ok same), covers,
    (each _ (List.mem_singleton_self _)).2⟩

theorem accepts_own_rows_sample : ∃ acceptance, sampleAcceptance = .ok (some acceptance) ∧
    ((acceptanceCoversFailedRows asciiBaseline acceptance "WP-1" "focused" [sampleRow] =
          .ok true ∧
        ∀ result : VerificationResult, result.asMapping ∈ [sampleRow] →
          Accepts (matchResultAgainstBaseline asciiBaseline acceptance "WP-1" "focused"
            result.repositoryId result.command result false)) ↔
      (StableRows asciiBaseline [sampleRow] ∧ FirstRowsComplete asciiBaseline [sampleRow]) ∧
        ∀ result : VerificationResult, result.asMapping ∈ [sampleRow] →
          stripString result.repositoryId = result.repositoryId) := by
  have evaluated : sampleAcceptance.toOption.map Option.isSome = some true := by
    decide +kernel
  obtain ⟨acceptance, builds⟩ := exists_acceptance evaluated
  exact ⟨acceptance, builds, accepts_own_rows_iff asciiBaseline "WP-1" "focused" [sampleRow]
    "operator" "2024-01-01T00:00:00Z" "" "" acceptance builds⟩

end Execraft.Orchestrate.Baseline
