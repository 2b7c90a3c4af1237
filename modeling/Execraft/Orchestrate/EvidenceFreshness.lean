import Execraft.Foundation.Sequenced
import Execraft.Foundation.Outcome
import Execraft.Orchestrate.AcceptanceEvidence

/-!
# When collected evidence is fresh

Evidence is collected up to the latest approval.  What the journal holds behind that
approval is never looked at, so the evidence is fresh exactly when nothing is there.
-/

namespace Execraft.Orchestrate

open Foundation Foundation.Json Foundation.Text

/-! ## Journals -/

/-- The entries are numbered in order, from one on. -/
structure Numbered (journal : List JournalEntry) : Prop where
  ordered : Sequenced JournalEntry.sequence journal
  positive : ∀ entry ∈ journal, 0 < entry.sequence

theorem numbered_nil : Numbered [] :=
  ⟨List.Pairwise.nil, by simp⟩

/-- What is written to the journal has the next number. -/
theorem Numbered.append {journal : List JournalEntry} (numbered : Numbered journal)
    (eventType : String) (payload : Row) : Numbered (appendEntry journal eventType payload) := by
  have above : ∀ entry ∈ journal, entry.sequence <
      ((journal.getLast?.map JournalEntry.sequence).getD 0) + 1 := by
    intro entry member
    cases last : journal.getLast? with
    | none =>
        rw [List.getLast?_eq_none_iff.mp last] at member
        cases member
    | some final =>
        have greatest : Latest JournalEntry.sequence (fun _ => true) journal final :=
          numbered.ordered.latest_of_getLast? (by simpa using last)
        have below := greatest.greatest entry member rfl
        simp only [Option.map_some, Option.getD_some]
        omega
  constructor
  · refine List.pairwise_append.mpr ⟨numbered.ordered, List.pairwise_singleton .., ?_⟩
    intro entry member other isNew
    rw [List.mem_singleton.mp isNew]
    exact above entry member
  · intro entry member
    rcases List.mem_append.mp member with old | isNew
    · exact numbered.positive entry old
    · rw [List.mem_singleton.mp isNew]
      cases last : journal.getLast? with
      | none => simp
      | some final =>
          have positive := numbered.positive final (List.mem_of_getLast? last)
          simp only [Option.map_some, Option.getD_some]
          omega

section Fresh

variable (py : Python)

theorem Numbered.entriesOf {journal : List JournalEntry} (numbered : Numbered journal)
    (package : WorkPackage) : Numbered (entriesOf py package journal) :=
  ⟨numbered.ordered.filter _, fun entry member =>
    numbered.positive entry (List.mem_filter.mp member).1⟩

/-! ## What legitimate evidence is -/

/-- The sequence of the last change before a review, zero where there is none. -/
inductive LastChange (entries : List JournalEntry) (before : Int) : Int → Prop
  | changed {mutation : JournalEntry}
      (latest : Latest JournalEntry.sequence
        (fun entry => entry.sequence < before ∧ entry.isMutation py) entries mutation) :
      LastChange entries before mutation.sequence
  | unchanged
      (none : ∀ entry ∈ entries, entry.isMutation py = true → before ≤ entry.sequence) :
      LastChange entries before 0

/-- The command belongs to the run that an event has ended: no other terminal event
stands between them. -/
structure OwnCommand (entries : List JournalEntry) (after : Int)
    (event entry : JournalEntry) : Prop where
  member : entry ∈ entries
  isCommandRun : entry.isCommandRun = true
  between : entry.between after event.sequence = true
  own : ∀ other ∈ entries, other.isTerminal = true →
    other.between after event.sequence = true → other.sequence < entry.sequence

/-- The outcome of the verification in a window is a pass, with the commands it is based
on.  A journal without terminal events has no outcome but that of its commands. -/
inductive AcceptedOutcome (entries : List JournalEntry) (after before : Int)
    (commands : List JournalEntry) : Prop
  | decided (event : JournalEntry)
      (latest : Latest JournalEntry.sequence
        (fun entry => entry.between after before ∧ entry.isTerminal) entries event)
      (accepted : acceptsVerification py event = true)
      (own : ∀ entry, entry ∈ commands ↔ OwnCommand entries after event entry)
  | undecided
      (none : ∀ entry ∈ entries, entry.between after before = true → entry.isTerminal = false)
      (passed : ∀ entry ∈ commands, entry.token py "status" "" = "passed")
      (all : ∀ entry, entry ∈ commands ↔
        entry ∈ entries ∧ entry.between after before = true ∧ entry.isCommandRun = true)

/-- The bundle rests on the latest review, which is an approval that nothing has changed
since, on an accepted verification of what was reviewed, and on finished shards. -/
structure Legitimate (package : WorkPackage) (journal : List JournalEntry)
    (bundle : AcceptanceEvidenceBundle) : Prop where
  reviewed : ∃ review, Latest JournalEntry.sequence JournalEntry.isReviewResult
      (entriesOf py package journal) review ∧
    review.isApproval py = true ∧ review.sequence = bundle.reviewSequence
  unchanged : ∀ entry ∈ entriesOf py package journal, entry.isMutation py = true →
    ¬ bundle.reviewSequence < entry.sequence
  verified : ∃ after commands,
    LastChange py (entriesOf py package journal) bundle.reviewSequence after ∧
      AcceptedOutcome py (entriesOf py package journal) after bundle.reviewSequence commands ∧
      commands ≠ [] ∧ commands.map JournalEntry.sequence = bundle.verificationSequences ∧
      commands.mapM (commandRecord py) = .ok bundle.verificationCommands
  satisfied : ∀ child ∈ bundle.childEvidence, childSatisfied child = true
  complete : ∀ shardId ∈ package.runtime.shardIds,
    shardId ∈ bundle.childEvidence.map (childId py)

/-- Everything that a bundle needs is there up to the review. -/
structure EvidenceComplete (package : WorkPackage) (journal : List JournalEntry)
    (children : List Row) (review : JournalEntry) : Prop where
  missing : (unprovenCriteria package).isEmpty = false
  aggregate : isAggregatePackage package children = true
  satisfied : childrenSatisfied py package children = true
  verified : ∃ verification commands,
    collectVerificationEvidence py (entriesOf py package journal)
      (mutationSequence py (entriesOf py package journal) review) review.sequence =
        .ok (some verification) ∧
      verification.entries.mapM (commandRecord py) = .ok commands
  reviewed : ∃ reviewed artifact,
    reviewArtifactEntry py (entriesOf py package journal) review = some reviewed ∧
      artifactOf py reviewed = some artifact
  readable : ∃ findings, legacyObservations py review = .ok findings

/-- Behind the review there is neither another review nor a change. -/
def Settled (entries : List JournalEntry) (review : JournalEntry) : Prop :=
  ∀ entry ∈ entries, entry.isReviewResult = true ∨ entry.isMutation py = true →
    entry.sequence ≤ review.sequence

/-! ## Verification -/

variable {py} {entries : List JournalEntry}

theorem lastChange_mutationSequence (review : JournalEntry) :
    LastChange py entries review.sequence (mutationSequence py entries review) := by
  rw [mutationSequence, largestSequence]
  cases greatest : ((entries.filter fun entry =>
      entry.sequence < review.sequence ∧ entry.isMutation py).map
        JournalEntry.sequence).max? with
  | none =>
      rw [Option.getD_none]
      apply LastChange.unchanged
      intro entry member isMutation
      have empty := List.map_eq_nil_iff.mp (List.max?_eq_none_iff.mp greatest)
      have excluded := List.filter_eq_nil_iff.mp empty entry member
      simp only [isMutation, and_true, decide_eq_true_eq] at excluded
      omega
  | some sequence =>
      obtain ⟨listed, largest⟩ := List.max?_eq_some_iff.mp greatest
      obtain ⟨mutation, kept, same⟩ := List.mem_map.mp listed
      obtain ⟨member, here⟩ := List.mem_filter.mp kept
      rw [Option.getD_some, ← same]
      refine LastChange.changed ⟨member, here, ?_⟩
      intro other inEntries accepted
      rw [same]
      exact largest other.sequence
        (List.mem_map_of_mem (List.mem_filter.mpr ⟨inEntries, accepted⟩))

theorem between_iff {after before : Int} {entry : JournalEntry} :
    entry.between after before = true ↔ after < entry.sequence ∧ entry.sequence < before := by
  rw [JournalEntry.between, decide_eq_true_iff]

/-- The commands behind the previous outcome are those of the event. -/
theorem mem_ownCommands {after : Int} {event entry : JournalEntry} :
    entry ∈ entries.filter (fun entry =>
        entry.between (largestSequence (entries.filter fun entry =>
          entry.between after event.sequence ∧ entry.isTerminal) after) event.sequence ∧
          entry.isCommandRun) ↔
      OwnCommand entries after event entry := by
  have above : ∀ number ∈ (entries.filter fun entry =>
      entry.between after event.sequence ∧ entry.isTerminal).map JournalEntry.sequence,
        after < number := by
    intro number listed
    obtain ⟨other, kept, same⟩ := List.mem_map.mp listed
    have inside := of_decide_eq_true (List.mem_filter.mp kept).2
    rw [← same]
    exact (between_iff.mp inside.1).1
  rw [List.mem_filter, decide_eq_true_iff, between_iff, largestSequence,
    max?_getD_lt_iff above]
  constructor
  · rintro ⟨member, ⟨⟨behind, past⟩, before⟩, isRun⟩
    refine ⟨member, isRun, between_iff.mpr ⟨behind, before⟩, ?_⟩
    intro other inEntries isTerminal inside
    exact past other.sequence (List.mem_map_of_mem
      (List.mem_filter.mpr ⟨inEntries, decide_eq_true ⟨inside, isTerminal⟩⟩))
  · rintro ⟨member, isRun, inside, own⟩
    obtain ⟨behind, before⟩ := between_iff.mp inside
    refine ⟨member, ⟨⟨behind, ?_⟩, before⟩, isRun⟩
    intro number listed
    obtain ⟨other, kept, same⟩ := List.mem_map.mp listed
    obtain ⟨inEntries, terminal⟩ := List.mem_filter.mp kept
    have inside := of_decide_eq_true terminal
    rw [← same]
    exact own other inEntries inside.2 inside.1

theorem latestAcceptedVerificationEvent_eq_some {after before : Int} {event : JournalEntry}
    (ordered : Sequenced JournalEntry.sequence entries)
    (found : latestAcceptedVerificationEvent py entries after before = some event) :
    Latest JournalEntry.sequence
        (fun entry => entry.between after before ∧ entry.isTerminal) entries event ∧
      acceptsVerification py event = true := by
  rw [latestAcceptedVerificationEvent] at found
  split at found
  · cases found
  · rename_i latest last
    split at found
    · rename_i accepted
      cases found
      exact ⟨ordered.latest_of_getLast? last, accepted⟩
    · cases found

/-- Collected verification is an accepted outcome with its own commands. -/
theorem collectVerificationEvidence_spec {after before : Int}
    {verification : VerificationEvidence}
    (ordered : Sequenced JournalEntry.sequence entries)
    (collected : collectVerificationEvidence py entries after before =
      .ok (some verification)) :
    AcceptedOutcome py entries after before verification.entries ∧
      verification.entries ≠ [] := by
  rw [collectVerificationEvidence] at collected
  split at collected
  · rename_i event found
    obtain ⟨latest, accepted⟩ := latestAcceptedVerificationEvent_eq_some ordered found
    dsimp only at collected
    split at collected
    · cases collected
    · rename_i present
      obtain ⟨matched, -, result⟩ := bind_eq_ok.mp collected
      cases result
      refine ⟨.decided event latest accepted fun entry => mem_ownCommands, ?_⟩
      intro empty
      exact present (List.isEmpty_iff.mpr empty)
  · dsimp only at collected
    split at collected
    · rename_i quiet
      split at collected
      · cases collected
      · rename_i passed
        rw [not_or, not_not, List.all_eq_true] at passed
        cases collected
        refine ⟨.undecided ?_ ?_ ?_, ?_⟩
        · intro entry member inside
          have excluded := List.filter_eq_nil_iff.mp (List.isEmpty_iff.mp quiet) entry member
          rw [decide_eq_true_iff, not_and, Bool.not_eq_true] at excluded
          exact excluded inside
        · intro entry member
          exact of_decide_eq_true (passed.2 entry member)
        · intro entry
          rw [List.mem_filter, decide_eq_true_iff]
        · intro empty
          exact passed.1 (List.isEmpty_iff.mpr empty)
    · cases collected

/-! ## The bundle -/

variable {package : WorkPackage} {journal : List JournalEntry} {children : List Row}

theorem collectAcceptanceEvidence_eq_some {bundle : AcceptanceEvidenceBundle}
    (collected : collectAcceptanceEvidence py package journal true children =
      .ok (some bundle)) :
    ∃ review verification reviewed artifact findings commands,
      latestApproval py (entriesOf py package journal) = some review ∧
        EvidenceComplete py package journal children review ∧
        collectVerificationEvidence py (entriesOf py package journal)
          (mutationSequence py (entriesOf py package journal) review) review.sequence =
            .ok (some verification) ∧
        verification.entries.mapM (commandRecord py) = .ok commands ∧
        bundle = evidenceBundle py package children review reviewed artifact
          (some verification) findings commands := by
  rw [collectAcceptanceEvidence] at collected
  split at collected
  · cases collected
  · rename_i present
    simp only [not_or, Bool.not_eq_true, Bool.not_eq_false] at present
    dsimp only at collected
    split at collected
    · cases collected
    · rename_i review approved
      obtain ⟨found, verified, collected⟩ := bind_eq_ok.mp collected
      cases found with
      | none => cases collected
      | some verification =>
          dsimp only [Option.isNone_some] at collected
          rw [if_neg (by simp)] at collected
          split at collected
          · cases collected
          · rename_i reviewed ofReviewer
            split at collected
            · cases collected
            · rename_i artifact located
              obtain ⟨findings, readable, collected⟩ := bind_eq_ok.mp collected
              obtain ⟨commands, recorded, result⟩ := bind_eq_ok.mp collected
              cases result
              exact ⟨review, verification, reviewed, artifact, findings, commands, approved,
                ⟨present.1, present.2.1, present.2.2,
                  ⟨verification, commands, verified, recorded⟩,
                  ⟨reviewed, artifact, ofReviewer, located⟩, ⟨findings, readable⟩⟩,
                verified, recorded, rfl⟩

theorem exists_bundle {review : JournalEntry}
    (approved : latestApproval py (entriesOf py package journal) = some review)
    (complete : EvidenceComplete py package journal children review) :
    ∃ bundle, collectAcceptanceEvidence py package journal true children =
        .ok (some bundle) ∧
      bundle.reviewSequence = review.sequence := by
  obtain ⟨verification, commands, verified, recorded⟩ := complete.verified
  obtain ⟨reviewed, artifact, ofReviewer, located⟩ := complete.reviewed
  obtain ⟨findings, readable⟩ := complete.readable
  refine ⟨evidenceBundle py package children review reviewed artifact (some verification)
    findings commands, ?_, rfl⟩
  rw [collectAcceptanceEvidence, if_neg (by
    simp [complete.missing, complete.aggregate, complete.satisfied])]
  dsimp only
  rw [approved]
  dsimp only
  rw [verified, ok_bind, if_neg (by simp), ofReviewer]
  dsimp only
  rw [located]
  dsimp only [Option.elim_some]
  rw [readable, ok_bind, recorded]
  rfl

/-- The review that the collector takes is the latest approval. -/
theorem latestApproval_eq_some (ordered : Sequenced JournalEntry.sequence entries)
    {review : JournalEntry} :
    latestApproval py entries = some review ↔
      Latest JournalEntry.sequence (fun entry => entry.isApproval py) entries review := by
  constructor
  · exact ordered.latest_of_find?
  · intro latest
    cases found : latestApproval py entries with
    | none =>
        have excluded := List.find?_eq_none.mp found review (List.mem_reverse.mpr latest.member)
        exact absurd latest.accepted excluded
    | some other =>
        have chosen := ordered.latest_of_find? found
        rw [ordered.eq_of_number chosen.member latest.member (le_antisymm
          (latest.greatest other chosen.member chosen.accepted)
          (chosen.greatest review latest.member latest.accepted))]

theorem isReviewResult_of_isApproval {entry : JournalEntry}
    (approved : entry.isApproval py = true) : entry.isReviewResult = true :=
  (of_decide_eq_true approved).1

/-- What a bundle says of the shards holds of every bundle. -/
theorem shards_of_childrenSatisfied (satisfied : childrenSatisfied py package children = true) :
    (∀ child ∈ children, childSatisfied child = true) ∧
      ∀ shardId ∈ package.runtime.shardIds, shardId ∈ children.map (childId py) := by
  obtain ⟨-, declared, all⟩ := of_decide_eq_true satisfied
  refine ⟨List.all_eq_true.mp all, ?_⟩
  intro shardId member
  rcases declared with none | ⟨-, covered⟩
  · rw [none] at member
    cases member
  · exact covered member

end Fresh

/-- Every bundle is legitimate exactly when, behind a latest approval with complete
evidence, the journal holds no other review and no change of the package. -/
theorem evidence_legitimate_iff (py : Python) (package : WorkPackage)
    {journal : List JournalEntry} (children : List Row) (numbered : Numbered journal) :
    (∀ bundle, collectAcceptanceEvidence py package journal true children =
        .ok (some bundle) → Legitimate py package journal bundle) ↔
      ∀ review, Latest JournalEntry.sequence (fun entry => entry.isApproval py)
          (entriesOf py package journal) review →
        EvidenceComplete py package journal children review →
        Settled py (entriesOf py package journal) review := by
  have ordered := (numbered.entriesOf py package).ordered
  constructor
  · intro sound review latest complete entry member touches
    obtain ⟨bundle, collected, atReview⟩ :=
      exists_bundle ((latestApproval_eq_some ordered).mpr latest) complete
    have legitimate := sound bundle collected
    rcases touches with isReview | isMutation
    · obtain ⟨final, isFinal, -, same⟩ := legitimate.reviewed
      have below := isFinal.greatest entry member isReview
      rw [same, atReview] at below
      exact below
    · have past := legitimate.unchanged entry member isMutation
      rw [atReview] at past
      exact not_lt.mp past
  · intro settled bundle collected
    obtain ⟨review, verification, reviewed, artifact, findings, commands, approved, complete,
      verified, recorded, result⟩ := collectAcceptanceEvidence_eq_some collected
    have latest := (latestApproval_eq_some ordered).mp approved
    have quiet := settled review latest complete
    obtain ⟨outcome, present⟩ := collectVerificationEvidence_spec ordered verified
    obtain ⟨each, covered⟩ := shards_of_childrenSatisfied complete.satisfied
    rw [result]
    refine ⟨⟨review, ⟨latest.member, isReviewResult_of_isApproval latest.accepted, ?_⟩,
      latest.accepted, rfl⟩, ?_, ?_, each, covered⟩
    · intro other member isReview
      exact quiet other member (Or.inl isReview)
    · intro entry member isMutation
      exact not_lt.mpr (quiet entry member (Or.inr isMutation))
    · exact ⟨_, verification.entries, lastChange_mutationSequence review, outcome, present,
        rfl, recorded⟩

/-- An aggregate package with one shard. -/
def gatheredPackage : WorkPackage where
  id := "P"
  title := "P"
  acceptanceCriteria := [⟨"C", "Done", false, ""⟩]
  executionMode := "aggregate"
  runtime := { shardIds := ["S"] }

def finishedShards : List Row :=
  [[("package_id", .string "S"), ("completed", .bool true), ("commit_satisfied", .bool true)]]

/-- A journal of `gatheredPackage` in which a repair follows the approved review. -/
def repairedJournal : List JournalEntry :=
  [("agent_result_persisted", [("capability", .string "implement")]),
    ("verification_command_run", [("status", .string "passed")]),
    ("verification_passed", []),
    ("agent_result_persisted", [("capability", .string "review"),
      ("artifact", .object [("path", .string "review.json")])]),
    ("review_result", [("verdict", .string "approved")]),
    ("agent_result_persisted", [("capability", .string "fix_review")])].foldl
      (fun journal (event : String × Row) =>
        appendEntry journal event.1 (("package_id", .string "P") :: event.2)) []

theorem repairedJournal_numbered : Numbered repairedJournal :=
  (((((numbered_nil.append _ _).append _ _).append _ _).append _ _).append _ _).append _ _

/-- The repair is not covered by any verification or review, and the evidence of the work
before it is handed out. -/
theorem repairedJournal_collected :
    ¬ ∀ bundle, collectAcceptanceEvidence asciiPython gatheredPackage repairedJournal true
        finishedShards = .ok (some bundle) →
      Legitimate asciiPython gatheredPackage repairedJournal bundle := by
  intro sound
  have evaluated : (collectAcceptanceEvidence asciiPython gatheredPackage repairedJournal true
      finishedShards).toOption.map (fun answer =>
        answer.map AcceptanceEvidenceBundle.reviewSequence) = some (some 5) := by
    decide +kernel
  obtain ⟨answer, collected, atReview⟩ := exists_ok_of_toOption evaluated
  obtain ⟨bundle, same, fifth⟩ := Option.map_eq_some_iff.mp atReview
  rw [same] at collected
  have repair : ∃ entry ∈ entriesOf asciiPython gatheredPackage repairedJournal,
      entry.isMutation asciiPython = true ∧ 5 < entry.sequence := by
    decide +kernel
  obtain ⟨entry, member, isMutation, behind⟩ := repair
  apply (sound bundle collected).unchanged entry member isMutation
  rw [fifth]
  exact behind

theorem evidence_legitimate_iff_sample :
    (∀ bundle, collectAcceptanceEvidence asciiPython gatheredPackage repairedJournal true
        finishedShards = .ok (some bundle) →
      Legitimate asciiPython gatheredPackage repairedJournal bundle) ↔
      ∀ review, Latest JournalEntry.sequence (fun entry => entry.isApproval asciiPython)
          (entriesOf asciiPython gatheredPackage repairedJournal) review →
        EvidenceComplete asciiPython gatheredPackage repairedJournal finishedShards review →
        Settled asciiPython (entriesOf asciiPython gatheredPackage repairedJournal) review :=
  evidence_legitimate_iff asciiPython gatheredPackage finishedShards repairedJournal_numbered

end Execraft.Orchestrate
