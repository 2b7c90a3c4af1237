import Execraft.Orchestrate.ReviewNormalForm

/-!
# No accepted review loses a finding

A review is approved only where nothing speaks against it, and taking it up again
leaves it as it is: which payloads and texts of an agent have this property.
-/

namespace Execraft.Orchestrate

open Foundation Foundation.Json Foundation.Text

variable {py : OutputInterpreter}

/-! ## Findings that a payload holds -/

/-- An entry that says something: a text that is not blank, a mapping with a member, or
any other value. -/
def meansSomething : Json → Bool
  | .object fields => fields ≠ []
  | .string text => stripString text ≠ ""
  | _ => true

/-- A container other than a list with something in it. -/
def holdsOutsideList : Json → Bool
  | .object fields => fields ≠ []
  | .string text => stripString text ≠ ""
  | _ => false

/-- Does a list satisfy this of an element? -/
def listHolds (test : Json → Bool) : Json → Bool
  | .array entries => entries.any test
  | _ => false

def findingKeys : List String := "findings" :: reviewFindingAliases

/-- A finding stands in `findings` or under an alias. -/
def holdsFinding (payload : Payload) : Bool :=
  findingKeys.any fun key =>
    listHolds meansSomething (payload.get key .null) ||
      holdsOutsideList (payload.get key .null)

/-- Findings that normalization passes over: mappings nothing of which is written out,
and aliases that are not lists. -/
def passesOver (py : OutputInterpreter) (payload : Payload) : Bool :=
  (findingKeys.any fun key => listHolds (isUnreadable py) (payload.get key .null)) ||
    reviewFindingAliases.any fun key => holdsOutsideList (payload.get key .null)

/-! ## Equal entries -/

theorem equals_object_iff {left : Json} {fields : List (String × Json)}
    (equal : py.equals left (.object fields) = true) :
    ∃ others, left = .object others ∧ others.length = fields.length := by
  cases left with
  | object others =>
      rw [Python.equals, decide_eq_true_eq] at equal
      exact ⟨others, rfl, equal.1⟩
  | _ => simp [Python.equals, Python.numberEquals, Python.integerOf] at equal

theorem meansSomething_of_equals {left right : Json}
    (equal : (Python.identical left right || py.equals left right) = true)
    (meaningful : meansSomething left = true) : meansSomething right = true := by
  cases right with
  | object fields =>
      have same : py.equals left (.object fields) = true := by
        simpa [Python.identical] using equal
      obtain ⟨others, rfl, long⟩ := equals_object_iff same
      simp only [meansSomething, decide_eq_true_eq] at meaningful ⊢
      intro empty
      rw [empty, List.length_nil, List.length_eq_zero_iff] at long
      exact meaningful long
  | string text =>
      have same : py.equals left (.string text) = true := by
        simpa [Python.identical] using equal
      rwa [equals_string_iff.mp same] at meaningful
  | _ => rfl

theorem mem_of_equalElements {elements others : List Json}
    (equal : py.equalElements elements others = true) {element : Json}
    (member : element ∈ elements) :
    ∃ other ∈ others,
      (Python.identical element other || py.equals element other) = true := by
  induction elements generalizing others with
  | nil => cases member
  | cons head tail inductionHypothesis =>
      cases others with
      | nil => cases equal
      | cons first rest =>
          rw [Python.equalElements, Bool.and_eq_true] at equal
          rcases List.mem_cons.mp member with rfl | later
          · exact ⟨first, List.mem_cons_self, equal.1⟩
          · obtain ⟨other, inside, same⟩ := inductionHypothesis equal.2 later
            exact ⟨other, List.mem_cons_of_mem _ inside, same⟩

/-! ## Where the findings come from -/

theorem mem_aliasLists {payload : Payload} {entries : List Json} :
    entries ∈ aliasLists payload ↔
      entries ≠ [] ∧ ∃ key ∈ reviewFindingAliases, payload.get key .null = .array entries := by
  rw [aliasLists, List.mem_filterMap]
  constructor
  · rintro ⟨key, member, found⟩
    split at found
    next head tail held =>
      cases found
      exact ⟨List.cons_ne_nil head tail, key, member, held⟩
    next => cases found
  · rintro ⟨nonempty, key, member, held⟩
    obtain ⟨head, tail, rfl⟩ := List.exists_cons_of_ne_nil nonempty
    exact ⟨key, member, by rw [held]⟩

theorem refuse_ne_ok {Value : Type} {message : String} {value : Value} :
    refuse message ≠ .ok value := by
  intro same
  cases same

/-- Findings that are a list are the canonical ones or those of an alias, and every
alias equals them. -/
theorem canonicalFindings_array {payload : Payload} {items : List Json}
    (completed : canonicalFindings py payload = .ok (.array items)) :
    (∀ entries ∈ aliasLists payload, py.equals (.array entries) (.array items) = true) ∧
      (payload.get "findings" .null = .array items ∨
        (payload.get "findings" .null = .null ∨ payload.get "findings" .null = .array []) ∧
          items ∈ aliasLists payload) := by
  unfold canonicalFindings at completed
  cases shape : aliasLists payload with
  | nil =>
      rw [shape] at completed
      exact ⟨List.forall_mem_nil _, Or.inl (Except.ok.inj completed)⟩
  | cons first others =>
      rw [shape] at completed
      simp only at completed
      split_ifs at completed with repaired ambiguous
      · exact absurd completed refuse_ne_ok
      · cases completed
        refine ⟨?_, Or.inr ⟨repaired, List.mem_cons_self⟩⟩
        rw [List.forall_mem_cons]
        refine ⟨py.equals_array_self _, ?_⟩
        simpa using ambiguous
      · cases own : payload.get "findings" .null with
        | array elements =>
            rw [own] at completed
            simp only at completed
            split_ifs at completed with contradictory
            · exact absurd completed refuse_ne_ok
            · cases completed
              refine ⟨?_, Or.inl rfl⟩
              simpa using contradictory
        | _ =>
            rw [own] at completed
            cases completed

/-! ## Findings that are passed over -/

theorem meansSomething_of_isUnreadable {item : Json} (unreadable : isUnreadable py item = true) :
    meansSomething item = true := by
  cases item with
  | object finding =>
      rw [isUnreadable, decide_eq_true_eq] at unreadable
      exact decide_eq_true unreadable.1
  | _ => cases unreadable

/-- Only mappings lose what they say. -/
theorem isUnreadable_of_blank {item : Json} (meaningful : meansSomething item = true)
    (blank : reviewItemText py item = "") : isUnreadable py item = true := by
  cases item with
  | object finding =>
      rw [isUnreadable, decide_eq_true_eq]
      exact ⟨of_decide_eq_true meaningful,
        (FindingFields.joinParts_parts_eq_empty_iff _).mp blank⟩
  | string text => exact absurd blank (of_decide_eq_true meaningful)
  | _ => exact absurd blank (py.visible _ (by simp))

theorem listHolds_iff {test : Json → Bool} {value : Json} :
    listHolds test value = true ↔
      ∃ entries, value = .array entries ∧ ∃ entry ∈ entries, test entry = true := by
  cases value <;> simp [listHolds]

/-- Where no finding is left, those that were held have been passed over. -/
theorem holdsFinding_iff_passesOver {payload : Payload} {items : List Json}
    (completed : canonicalFindings py payload = .ok (.array items))
    (blank : ∀ item ∈ items, reviewItemText py item = "") :
    holdsFinding payload = true ↔ passesOver py payload = true := by
  obtain ⟨aliases, source⟩ := canonicalFindings_array completed
  have passed : ∀ item ∈ items, meansSomething item = true → passesOver py payload = true := by
    intro item member meaningful
    have unreadable := isUnreadable_of_blank meaningful (blank item member)
    rw [passesOver, Bool.or_eq_true, List.any_eq_true]
    left
    rcases source with own | ⟨_, listed⟩
    · exact ⟨"findings", by decide, listHolds_iff.mpr ⟨items, own, item, member, unreadable⟩⟩
    · obtain ⟨_, key, known, held⟩ := mem_aliasLists.mp listed
      exact ⟨key, List.mem_cons_of_mem _ known,
        listHolds_iff.mpr ⟨items, held, item, member, unreadable⟩⟩
  constructor
  · intro holds
    obtain ⟨key, member, held⟩ := List.any_eq_true.mp holds
    rw [Bool.or_eq_true] at held
    rcases List.mem_cons.mp member with rfl | known
    · -- The canonical field is the source itself, or it is empty.
      rcases source with own | ⟨empty | empty, _⟩
      · rw [own] at held
        obtain ⟨item, inside, meaningful⟩ : ∃ item ∈ items, meansSomething item = true := by
          simpa [listHolds, holdsOutsideList] using held
        exact passed item inside meaningful
      · simp [empty, listHolds, holdsOutsideList] at held
      · simp [empty, listHolds, holdsOutsideList] at held
    · rcases held with listed | outside
      · obtain ⟨entries, here, entry, inside, meaningful⟩ := listHolds_iff.mp listed
        have equal := aliases entries
          (mem_aliasLists.mpr ⟨List.ne_nil_of_mem inside, key, known, here⟩)
        rw [Python.equals] at equal
        obtain ⟨item, present, same⟩ := mem_of_equalElements equal inside
        exact passed item present (meansSomething_of_equals same meaningful)
      · rw [passesOver, Bool.or_eq_true, List.any_eq_true, List.any_eq_true]
        exact Or.inr ⟨key, known, outside⟩
  · intro passing
    rw [passesOver, Bool.or_eq_true, List.any_eq_true, List.any_eq_true] at passing
    apply List.any_eq_true.mpr
    rcases passing with ⟨key, member, listed⟩ | ⟨key, member, outside⟩
    · obtain ⟨entries, here, entry, inside, unreadable⟩ := listHolds_iff.mp listed
      refine ⟨key, member, ?_⟩
      rw [Bool.or_eq_true]
      exact Or.inl (listHolds_iff.mpr
        ⟨entries, here, entry, inside, meansSomething_of_isUnreadable unreadable⟩)
    · refine ⟨key, List.mem_cons_of_mem _ member, ?_⟩
      rw [Bool.or_eq_true]
      exact Or.inr outside

/-! ## Accepted representations -/

theorem canonicalReviewVerdict_approved :
    canonicalReviewVerdict py (.string "approved") = "approved" := by
  have plain : py.lowerString (py.textOr (.string "approved")) = "approved" := by
    rw [Python.textOr_string]
    exact py.lowerString_ascii (List.all_iff_forall_prop.mp (by decide))
  rw [canonicalReviewVerdict, plain]
  rfl

theorem canonicalReviewVerdict_null : canonicalReviewVerdict py .null = "" := by
  have plain : py.lowerString "" = "" :=
    py.lowerString_ascii (List.all_iff_forall_prop.mp (by decide))
  have blank : py.textOr .null = "" := rfl
  rw [canonicalReviewVerdict, blank, plain]
  rfl

theorem normalizeReviewPayload_eq_ok {payload normalized : Payload} :
    normalizeReviewPayload py payload = .ok normalized ↔
      (payload.get "ok" .null = .null ∨ payload.get "ok" .null = .bool true) ∧
        ∃ findings, canonicalFindings py payload = .ok findings ∧
          normalized = normalReview py payload findings ∧
          ¬ (reviewVerdict py payload = "changes_required" ∧
            normalItems py findings = .array []) ∧
          ¬ (reviewVerdict py payload = "approved" ∧
            holdsElements (normalItems py findings) = true) := by
  have allowed : ¬ (payload.get "ok" .null ≠ .null ∧ payload.get "ok" .null ≠ .bool true) ↔
      payload.get "ok" .null = .null ∨ payload.get "ok" .null = .bool true := by
    tauto
  simp only [normalizeReviewPayload, normalReview_findings]
  rw [← allowed]
  split_ifs with refused
  · exact iff_of_false refuse_ne_ok fun completed => completed.1 refused
  · rw [and_iff_right refused, bind_eq_ok]
    refine exists_congr fun findings => and_congr_right fun _ => ?_
    split_ifs with empty blocked
    · exact iff_of_false refuse_ne_ok fun completed => completed.2.1 empty
    · exact iff_of_false refuse_ne_ok fun completed => completed.2.2 blocked
    · exact ⟨fun completed => ⟨(Except.ok.inj completed).symm, empty, blocked⟩,
        fun completed => congrArg Except.ok completed.1.symm⟩

theorem normalizeContractVariant_review (payload : Payload) :
    normalizeContractVariant py payload reviewOutputSchema = normalizeReviewPayload py payload :=
  rfl

theorem canonicalFindings_ne_typeError {payload : Payload} :
    canonicalFindings py payload ≠ .error .typeError := by
  unfold canonicalFindings
  cases aliasLists payload with
  | nil => simp
  | cons first others =>
      simp only
      split_ifs
      · simp [refuse]
      · simp
      · split
        · split_ifs
          · simp [refuse]
          · simp
        · simp

theorem normalizeReviewPayload_ne_typeError {payload : Payload} :
    normalizeReviewPayload py payload ≠ .error .typeError := by
  simp only [normalizeReviewPayload]
  split_ifs
  · simp [refuse]
  · rw [Ne, bind_eq_error, not_or]
    refine ⟨canonicalFindings_ne_typeError, ?_⟩
    rintro ⟨findings, _, failed⟩
    split_ifs at failed
    · simp [refuse] at failed
    · simp [refuse] at failed
    · cases failed

/-- Every representation of a review is judged. -/
theorem contractAttempt_review (py : OutputInterpreter) (payload : Payload) :
    ∃ outcome, contractAttempt py payload reviewOutputSchema = .ok outcome := by
  rw [contractAttempt, normalizeContractVariant_review]
  cases result : normalizeReviewPayload py payload with
  | ok normalized =>
      simp only
      split
      · exact ⟨_, rfl⟩
      · exact ⟨_, rfl⟩
  | error failure =>
      cases failure with
      | structuredOutputError message => exact ⟨_, rfl⟩
      | typeError => exact absurd result normalizeReviewPayload_ne_typeError

theorem contractAttempt_eq_ok {payload normalized : Payload} :
    contractAttempt py payload reviewOutputSchema = .ok (.ok normalized) ↔
      normalizeReviewPayload py payload = .ok normalized ∧ ReviewShape normalized := by
  rw [contractAttempt, normalizeContractVariant_review]
  cases normalizeReviewPayload py payload with
  | ok candidate =>
      have judged := @validate_review_iff py candidate
      simp only [Except.ok.injEq]
      cases errors : validateStructuredObject py.toPython (some candidate)
          reviewOutputSchema with
      | nil =>
          have shape := judged.mp errors
          simp only [Except.ok.injEq]
          exact ⟨fun same => ⟨same, same ▸ shape⟩, fun same => same.1⟩
      | cons head tail =>
          refine iff_of_false (by simp) ?_
          rintro ⟨rfl, shape⟩
          rw [judged.mpr shape] at errors
          cases errors
  | error failure => cases failure <;> simp

/-! ## Approvals -/

/-- What an accepted approval was made of. -/
theorem approval_of_contractAttempt {payload normalized : Payload}
    (accepted : contractAttempt py payload reviewOutputSchema = .ok (.ok normalized))
    (approved : normalized.get "verdict" .null = .string "approved") :
    reviewVerdict py payload = "approved" ∧
      ∃ items, canonicalFindings py payload = .ok (.array items) ∧
        (∀ item ∈ items, reviewItemText py item = "") ∧
          normalized = normalReview py payload (.array items) := by
  obtain ⟨completed, shape⟩ := contractAttempt_eq_ok.mp accepted
  obtain ⟨_, findings, canonical, rfl, _, unblocked⟩ :=
    normalizeReviewPayload_eq_ok.mp completed
  have verdict : reviewVerdict py payload = "approved" := by
    rw [normalReview_verdict] at approved
    split_ifs at approved with given
    · exact Json.string.inj approved
    · have plain : reviewVerdict py payload = "approved" := by
        rw [reviewVerdict, verdictValue, approved]
        exact canonicalReviewVerdict_approved
      exact plain
  have listed := shape.findings
  rw [normalReview_findings] at listed
  cases findings with
  | array items =>
      refine ⟨verdict, items, canonical, ?_, rfl⟩
      apply normalizeReviewItems_eq_nil_iff.mp
      cases shape : normalizeReviewItems py items with
      | nil => rfl
      | cons head tail =>
          refine absurd ⟨verdict, ?_⟩ unblocked
          rw [normalItems, shape]
          rfl
  | _ =>
      obtain ⟨texts, same, _⟩ := listed
      cases same

/-! ## Taking a review up again -/

theorem get_of_closed {payload : Payload} (closed : ∀ field ∈ payload, field.1 ∈ reviewKeys)
    {name : String} (foreign : name ∉ reviewKeys) : payload.get name .null = .null := by
  rw [ProjectExecution.Row.get]
  cases found : getEntry name payload with
  | none => rfl
  | some value => exact absurd (closed _ (mem_of_getEntry found)) foreign

theorem dropKeys_of_closed {payload : Payload}
    (closed : ∀ field ∈ payload, field.1 ∈ reviewKeys) {names : List String}
    (foreign : ∀ name ∈ names, name ∉ reviewKeys) : dropKeys payload names = payload := by
  rw [dropKeys, List.filter_eq_self]
  intro field member
  exact decide_eq_true fun listed => foreign field.1 listed (closed field member)

theorem set_of_get {payload : Payload} {name : String} {value : Json}
    (held : payload.get name .null = value) (notNull : value ≠ .null) :
    payload.set name value = payload := by
  rw [ProjectExecution.Row.get] at held
  cases found : getEntry name payload with
  | none =>
      rw [found] at held
      exact absurd held.symm notNull
  | some stored =>
      rw [found] at held
      rw [← held]
      exact setEntry_of_getEntry found

theorem aliases_foreign : ∀ name ∈ reviewFindingAliases, name ∉ reviewKeys := by
  decide

/-- Normalizing an approval again only concerns its observations. -/
theorem normalReview_of_approval (py : OutputInterpreter) {payload : Payload}
    (shape : ReviewShape payload)
    (approved : payload.get "verdict" .null = .string "approved")
    (clean : payload.get "findings" .null = .array []) {observations : List String}
    (observed : payload.get "observations" .null = texts observations) :
    normalizeReviewPayload py payload = .ok
      (payload.set "observations"
        (texts (normalizeReviewItems py (observations.map Json.string)))) := by
  have verdict : reviewVerdict py payload = "approved" := by
    rw [reviewVerdict, verdictValue, approved]
    exact canonicalReviewVerdict_approved
  have noReason : verdictReason py payload = "" := by
    rw [verdictReason, approved]
  have noAliases : aliasLists payload = [] := by
    rw [List.eq_nil_iff_forall_not_mem]
    intro entries member
    obtain ⟨_, key, known, held⟩ := mem_aliasLists.mp member
    rw [get_of_closed shape.closed (aliases_foreign key known)] at held
    cases held
  have canonical : canonicalFindings py payload = .ok (.array []) := by
    rw [canonicalFindings, noAliases, clean]
  refine normalizeReviewPayload_eq_ok.mpr ⟨?_, .array [], canonical, ?_, ?_, ?_⟩
  · exact Or.inl (get_of_closed shape.closed (by decide))
  · have judged : setWhen payload (decide ("approved" ≠ "")) "verdict"
        (.string "approved") = payload := by
      rw [setWhen, if_pos (by decide)]
      exact set_of_get approved (by simp)
    have listed : setItems py payload "findings" (.array []) = payload := by
      rw [setItems, setWhen, if_pos (by decide)]
      exact set_of_get clean (by simp [normalItems, texts])
    simp only [normalReview, verdict, noReason, observed, clean]
    rw [dropKeys_of_closed shape.closed (by decide), judged]
    simp only [ne_eq, not_true_eq_false, decide_false, and_false, setWhen_false]
    rw [dropKeys_of_closed shape.closed aliases_foreign, listed]
    rfl
  · rw [verdict]
    rintro ⟨same, _⟩
    exact absurd same (by decide)
  · rintro ⟨_, blocking⟩
    cases blocking

theorem texts_injective {items others : List String} (same : texts items = texts others) :
    items = others :=
  List.map_injective_iff.mpr (fun _ _ equal => Json.string.inj equal) (Json.array.inj same)

theorem areTexts_normalReviewItems (items : List Json) :
    AreTexts (texts (normalizeReviewItems py items)) :=
  ⟨normalizeReviewItems py items, rfl, fun empty => (mem_normalizeReviewItems.mp empty).1 rfl⟩

/-- The observations of an accepted review, as they were given. -/
theorem observations_of_contractAttempt {payload normalized : Payload}
    (accepted : contractAttempt py payload reviewOutputSchema = .ok (.ok normalized)) :
    ∃ items, normalized.get "observations" .null = texts (normalizeReviewItems py items) ∧
      (listHolds (trailsOff py) (payload.get "observations" .null) = false ↔
        ∀ item ∈ items, trailsOff py item = false) := by
  obtain ⟨completed, shape⟩ := contractAttempt_eq_ok.mp accepted
  obtain ⟨_, findings, _, rfl, _⟩ := normalizeReviewPayload_eq_ok.mp completed
  have listed := shape.observations
  rw [normalReview_observations] at listed ⊢
  cases given : payload.get "observations" .null with
  | null => exact ⟨[], rfl, by simp [listHolds]⟩
  | array items =>
      rw [if_neg (by simp)]
      exact ⟨items, rfl, by simp [listHolds]⟩
  | _ =>
      rw [given] at listed
      obtain ⟨texts, same, _⟩ := listed
      cases same

theorem ReviewShape.set_observations {payload : Payload} (shape : ReviewShape payload)
    {value : Json} (listed : AreTexts value) :
    ReviewShape (payload.set "observations" value) := by
  refine ⟨?_, ?_, ?_, ?_, ?_⟩
  · intro field member
    have key := List.mem_map_of_mem (f := Prod.fst) member
    rcases mem_keys_setEntry.mp key with new | old
    · rw [new]
      decide
    · obtain ⟨stored, inside, same⟩ := List.mem_map.mp old
      rw [← same]
      exact shape.closed stored inside
  · rw [ProjectExecution.Row.get_set_ne payload (by decide)]
    exact shape.verdict
  · rw [ProjectExecution.Row.get_set_ne payload (by decide)]
    exact shape.findings
  · rw [ProjectExecution.Row.get_set_self]
    exact listed
  · rw [ProjectExecution.Row.get_set_ne payload (by decide)]
    exact shape.summary

theorem publicPayload_of_closed {payload : Payload}
    (closed : ∀ field ∈ payload, field.1 ∈ reviewKeys) : publicPayload payload = payload := by
  have visible : ∀ name ∈ reviewKeys,
      (! "_execraft_".toList.isPrefixOf name.toList) = true := by
    decide
  rw [publicPayload, List.filter_eq_self]
  exact fun field member => visible field.1 (closed field member)

/-- An approval stays as it is exactly when none of its observations trails off. -/
theorem normalizeStructuredResult_of_approval {payload normalized : Payload}
    (accepted : contractAttempt py payload reviewOutputSchema = .ok (.ok normalized))
    (approved : normalized.get "verdict" .null = .string "approved")
    (candidateTexts : List String) :
    normalizeStructuredResult py normalized reviewOutputSchema candidateTexts =
        .ok normalized ↔
      listHolds (trailsOff py) (payload.get "observations" .null) = false := by
  obtain ⟨_, findings, _, blank, same⟩ := approval_of_contractAttempt accepted approved
  obtain ⟨items, observed, given⟩ := observations_of_contractAttempt accepted
  have shape := (contractAttempt_eq_ok.mp accepted).2
  have clean : normalized.get "findings" .null = .array [] := by
    rw [same, normalReview_findings, normalItems, normalizeReviewItems_eq_nil_iff.mpr blank]
    rfl
  have again := normalReview_of_approval py shape approved clean observed
  have accepts := contractAttempt_eq_ok.mpr
    ⟨again, shape.set_observations (areTexts_normalReviewItems _)⟩
  have run : normalizeStructuredResult py normalized reviewOutputSchema candidateTexts =
      .ok (normalized.set "observations" (texts (normalizeReviewItems py
        ((normalizeReviewItems py items).map Json.string)))) := by
    rw [normalizeStructuredResult, publicPayload_of_closed shape.closed, accepts]
    rfl
  rw [run, given, Except.ok.injEq]
  have visible : "" ∉ normalizeReviewItems py items := fun empty =>
    (mem_normalizeReviewItems.mp empty).1 rfl
  calc normalized.set "observations" (texts (normalizeReviewItems py
          ((normalizeReviewItems py items).map Json.string))) = normalized
      ↔ normalizeReviewItems py ((normalizeReviewItems py items).map Json.string) =
          normalizeReviewItems py items := by
        constructor
        · intro unchanged
          rw [← unchanged, ProjectExecution.Row.get_set_self] at observed
          exact texts_injective observed
        · intro unchanged
          rw [unchanged]
          exact set_of_get observed (by simp [texts])
    _ ↔ ∀ text ∈ normalizeReviewItems py items, stripString text = text :=
        normalizeReviewItems_texts_iff py (nodup_normalizeReviewItems items) visible
    _ ↔ ∀ item ∈ items, trailsOff py item = false := by
        constructor
        · intro stripped item member
          apply (reviewItemText_stripped_iff item).mp
          by_cases blank : reviewItemText py item = ""
          · rw [blank]
            rfl
          · exact stripped _ (mem_normalizeReviewItems.mpr ⟨blank, item, member, rfl⟩)
        · intro ends text listed
          obtain ⟨_, item, member, rfl⟩ := mem_normalizeReviewItems.mp listed
          exact (reviewItemText_stripped_iff item).mpr (ends item member)

/-! ## The choice among the representations -/

/-- Is a representation accepted? -/
def wellFormed (py : OutputInterpreter) (payload : Payload) : Bool :=
  match contractAttempt py payload reviewOutputSchema with
  | .ok (.ok _) => true
  | _ => false

/-- The objects of the texts, the most recent first. -/
def textObjects (py : OutputInterpreter) (payload : Payload)
    (candidateTexts : List String) : List Payload :=
  (candidateTextsOf (publicPayload payload) candidateTexts).filterMap
    (selectedObject py (requiredKeys py reviewOutputSchema))

/-- The object that the result is taken from. -/
def sourceObject (py : OutputInterpreter) (payload : Payload)
    (candidateTexts : List String) : Option Payload :=
  if wellFormed py (publicPayload payload) then some (publicPayload payload)
  else (textObjects py payload candidateTexts).find? fun object =>
    wellFormed py (unwrapKnownWrapper object)

/-- The objects of more recent texts, which were refused. -/
def newerObjects (py : OutputInterpreter) (payload : Payload)
    (candidateTexts : List String) : List Payload :=
  if wellFormed py (publicPayload payload) then []
  else (textObjects py payload candidateTexts).takeWhile fun object =>
    ! wellFormed py (unwrapKnownWrapper object)

theorem wellFormed_iff {payload : Payload} :
    wellFormed py payload = true ↔
      ∃ normalized, contractAttempt py payload reviewOutputSchema = .ok (.ok normalized) := by
  rw [wellFormed]
  split
  next normalized accepted => exact iff_of_true rfl ⟨normalized, accepted⟩
  next refused => exact iff_of_false (by simp) fun accepted => refused _ accepted.choose_spec

theorem contractAttempt_of_refused {payload : Payload}
    (refused : wellFormed py payload = false) :
    ∃ errors, contractAttempt py payload reviewOutputSchema = .ok (.error errors) := by
  obtain ⟨outcome, judged⟩ := contractAttempt_review py payload
  cases outcome with
  | error errors => exact ⟨errors, judged⟩
  | ok normalized =>
      rw [wellFormed_iff.mpr ⟨normalized, judged⟩] at refused
      cases refused

/-- What is accepted names a member of the contract itself. -/
theorem unwrap_of_wellFormed {payload : Payload} (accepted : wellFormed py payload = true) :
    unwrapKnownWrapper payload = payload := by
  obtain ⟨normalized, judged⟩ := wellFormed_iff.mp accepted
  obtain ⟨completed, shape⟩ := contractAttempt_eq_ok.mp judged
  obtain ⟨_, findings, _, rfl, _⟩ := normalizeReviewPayload_eq_ok.mp completed
  have verdict := shape.verdict
  rw [normalReview_verdict] at verdict
  have named : namesContract payload = true := by
    rw [namesContract, List.any_eq_true]
    cases found : getEntry "verdict" payload with
    | some value =>
        exact ⟨_, mem_of_getEntry found,
          decide_eq_true (show "verdict" ∈ contractKeys by decide)⟩
    | none =>
        have missing : payload.get "verdict" .null = .null := by
          rw [ProjectExecution.Row.get, found]
          rfl
        have silent : reviewVerdict py payload = "" := by
          rw [reviewVerdict, verdictValue, missing]
          exact canonicalReviewVerdict_null
        rw [silent, missing, if_neg (by simp)] at verdict
        rcases verdict with impossible | impossible <;> cases impossible
  rw [unwrapKnownWrapper, if_pos named]

theorem tryTexts_eq_ok {errors candidates : List String} {returned : Payload} :
    tryTexts py reviewOutputSchema errors candidates = .ok returned ↔
      ∃ source,
        (candidates.filterMap (selectedObject py (requiredKeys py reviewOutputSchema))).find?
            (fun object => wellFormed py (unwrapKnownWrapper object)) = some source ∧
          contractAttempt py (unwrapKnownWrapper source) reviewOutputSchema =
            .ok (.ok returned) := by
  induction candidates generalizing errors with
  | nil =>
      refine iff_of_false refuse_ne_ok ?_
      rintro ⟨source, found, _⟩
      cases found
  | cons text rest inductionHypothesis =>
      rw [tryTexts, extractStructuredObject]
      cases selected : selectedObject py (requiredKeys py reviewOutputSchema) text with
      | none =>
          rw [List.filterMap_cons_none selected]
          exact inductionHypothesis
      | some object =>
          rw [List.filterMap_cons_some selected, Option.map_some]
          cases judged : wellFormed py (unwrapKnownWrapper object) with
          | true =>
              obtain ⟨normalized, accepted⟩ := wellFormed_iff.mp judged
              simp only [List.find?_cons, judged, accepted, ok_bind, Option.some.injEq, exists_eq_left',
                Except.ok.injEq]
              exact ⟨Except.ok.inj, congrArg Except.ok⟩
          | false =>
              obtain ⟨errors, refused⟩ := contractAttempt_of_refused judged
              simp only [List.find?_cons, judged, refused, ok_bind]
              exact inductionHypothesis

theorem normalizeStructuredResult_eq_ok {payload returned : Payload}
    {candidateTexts : List String} :
    normalizeStructuredResult py payload reviewOutputSchema candidateTexts = .ok returned ↔
      ∃ source, sourceObject py payload candidateTexts = some source ∧
        contractAttempt py (unwrapKnownWrapper source) reviewOutputSchema =
          .ok (.ok returned) := by
  rw [normalizeStructuredResult, sourceObject]
  cases judged : wellFormed py (publicPayload payload) with
  | true =>
      obtain ⟨normalized, accepted⟩ := wellFormed_iff.mp judged
      rw [if_pos rfl]
      simp only [accepted, ok_bind, Option.some.injEq, exists_eq_left',
        unwrap_of_wellFormed judged, Except.ok.injEq]
      exact ⟨Except.ok.inj, congrArg Except.ok⟩
  | false =>
      obtain ⟨errors, refused⟩ := contractAttempt_of_refused judged
      rw [if_neg (by simp)]
      simp only [refused, ok_bind]
      exact tryTexts_eq_ok

theorem wellFormed_of_sourceObject {payload source : Payload}
    {candidateTexts : List String}
    (chosen : sourceObject py payload candidateTexts = some source) :
    wellFormed py (unwrapKnownWrapper source) = true := by
  rw [sourceObject] at chosen
  split_ifs at chosen with direct
  · cases chosen
    rw [unwrap_of_wellFormed direct]
    exact direct
  · have fits := List.find?_some chosen
    exact fits

/-! ## No finding is lost -/

/-- An approval is returned only where neither the object it is taken from nor the
contract in it held a finding and no more recent text rejected; it satisfies the schema
and is left as it is when it is normalized again. -/
def LosesNoFinding (py : OutputInterpreter) (payload : Payload)
    (candidateTexts : List String) : Prop :=
  ∀ returned,
    normalizeStructuredResult py payload reviewOutputSchema candidateTexts = .ok returned →
    returned.get "verdict" .null = .string "approved" →
    ∃ source, sourceObject py payload candidateTexts = some source ∧
      holdsFinding source = false ∧ holdsFinding (unwrapKnownWrapper source) = false ∧
      (∀ object ∈ newerObjects py payload candidateTexts,
        reviewVerdict py (unwrapKnownWrapper object) ≠ "changes_required") ∧
      validateStructuredObject py.toPython (some returned) reviewOutputSchema = [] ∧
      ∀ laterTexts, normalizeStructuredResult py returned reviewOutputSchema laterTexts =
        .ok returned

/-- The accepted object, where it approves, holds no finding that is passed over and no
observation that trails off; a wrapper around it holds no finding at all; and no rejection
was refused in front of it. -/
def ReadsEveryFinding (py : OutputInterpreter) (payload : Payload)
    (candidateTexts : List String) : Prop :=
  ∀ source, sourceObject py payload candidateTexts = some source →
    reviewVerdict py (unwrapKnownWrapper source) = "approved" →
    passesOver py (unwrapKnownWrapper source) = false ∧
      listHolds (trailsOff py)
        ((unwrapKnownWrapper source).get "observations" .null) = false ∧
      (source = unwrapKnownWrapper source ∨ holdsFinding source = false) ∧
      ∀ object ∈ newerObjects py payload candidateTexts,
        reviewVerdict py (unwrapKnownWrapper object) ≠ "changes_required"

theorem losesNoFinding_iff (py : OutputInterpreter) (payload : Payload)
    (candidateTexts : List String) :
    LosesNoFinding py payload candidateTexts ↔
      ReadsEveryFinding py payload candidateTexts := by
  constructor
  · intro keeps source chosen verdict
    obtain ⟨returned, accepted⟩ := wellFormed_iff.mp (wellFormed_of_sourceObject chosen)
    have completed := normalizeStructuredResult_eq_ok.mpr ⟨source, chosen, accepted⟩
    have approved : returned.get "verdict" .null = .string "approved" := by
      obtain ⟨judged, _⟩ := contractAttempt_eq_ok.mp accepted
      obtain ⟨_, findings, _, rfl, _⟩ := normalizeReviewPayload_eq_ok.mp judged
      rw [normalReview_verdict, verdict, if_pos (by decide)]
    obtain ⟨_, items, canonical, blank, _⟩ := approval_of_contractAttempt accepted approved
    obtain ⟨other, same, outer, inner, older, _, again⟩ := keeps returned completed approved
    rw [chosen, Option.some.injEq] at same
    subst same
    refine ⟨?_, ?_, Or.inr outer, older⟩
    · rw [← Bool.not_eq_true, ← holdsFinding_iff_passesOver canonical blank, inner]
      exact Bool.false_ne_true
    · exact (normalizeStructuredResult_of_approval accepted approved []).mp (again [])
  · intro reads returned completed approved
    obtain ⟨source, chosen, accepted⟩ := normalizeStructuredResult_eq_ok.mp completed
    obtain ⟨verdict, items, canonical, blank, _⟩ :=
      approval_of_contractAttempt accepted approved
    obtain ⟨readable, trimmed, wrapper, older⟩ := reads source chosen verdict
    have held : holdsFinding (unwrapKnownWrapper source) = false := by
      rw [← Bool.not_eq_true, holdsFinding_iff_passesOver canonical blank, readable]
      exact Bool.false_ne_true
    refine ⟨source, chosen, ?_, held, older, ?_, ?_⟩
    · rcases wrapper with same | free
      · rw [same]
        exact held
      · exact free
    · exact (validate_review_iff returned).mpr (contractAttempt_eq_ok.mp accepted).2
    · intro laterTexts
      exact (normalizeStructuredResult_of_approval accepted approved laterTexts).mpr trimmed

/-- An interpreter for texts that are upper case already. -/
def plainOutput : OutputInterpreter where
  toPython := { asciiPython with str := fun _ => "None" }
  upper text := text
  round text := text
  upper_stripped _ stripped := stripped
  upper_eq_empty _ := Iff.rfl
  visible _ _ := show stripString "None" ≠ "" by decide

/-- An approval with a finding under a name of its own. -/
def unreadReview : Payload :=
  [("verdict", .string "approved"),
    ("findings", .array [.object [("problem", .string "data loss")]]),
    ("observations", .array []), ("summary", .string "clean")]

theorem unreadReview_losesFinding : ¬ LosesNoFinding plainOutput unreadReview [] := by
  intro keeps
  have completed : normalizeStructuredResult plainOutput unreadReview reviewOutputSchema [] =
      .ok [("verdict", .string "approved"), ("findings", .array []),
        ("observations", .array []), ("summary", .string "clean")] := by
    decide +kernel
  obtain ⟨source, chosen, held, _⟩ := keeps _ completed rfl
  have direct : sourceObject plainOutput unreadReview [] = some unreadReview := by
    decide +kernel
  rw [direct, Option.some.injEq] at chosen
  rw [← chosen] at held
  exact absurd held (by decide)

end Execraft.Orchestrate
