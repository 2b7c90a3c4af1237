import Execraft.Orchestrate.StructuredOutput

/-!
# The normal form of reviews

What the items of a review are written out as, which payloads satisfy the review
schema and what normalization makes of a review.
-/

namespace Execraft.Orchestrate

open Foundation Foundation.Json Foundation.Text

variable {py : OutputInterpreter}

/-! ## Items -/

theorem stripString_eq_iff {text : String} :
    stripString text = text ↔ StartsVisibly text ∧ EndsVisibly text := by
  rw [← stripped_iff]
  constructor
  · intro same
    have stripped := stripped_strip text.toList
    rwa [← String.toList_ofList (l := strip text.toList), ← stripString, same] at stripped
  · intro stripped
    rw [stripString, strip_of_stripped stripped, String.ofList_toList]

theorem strippedText_visibly (value : Json) :
    StartsVisibly (strippedText py value) ∧ EndsVisibly (strippedText py value) :=
  stripString_eq_iff.mp (stripString_stripString _)

/-- Every part but the location begins and ends visibly. -/
theorem findingFields_visibly (py : OutputInterpreter) (finding : Payload) :
    let fields := findingFields py finding
    ∀ text ∈ [fields.identity, fields.severity, fields.repository, fields.path,
      fields.requirement, fields.evidence, fields.requiredFix],
      StartsVisibly text ∧ EndsVisibly text := by
  intro fields
  have upper : StartsVisibly fields.severity ∧ EndsVisibly fields.severity :=
    stripString_eq_iff.mp (py.upper_stripped _ (stripString_stripString _))
  simp only [List.forall_mem_cons]
  exact ⟨strippedText_visibly _, upper, strippedText_visibly _, strippedText_visibly _,
    strippedText_visibly _, strippedText_visibly _, strippedText_visibly _,
    List.forall_mem_nil _⟩

namespace FindingFields

/-- None of the fields says anything. -/
def isBlank (fields : FindingFields) : Bool :=
  fields.identity = "" ∧ fields.severity = "" ∧ fields.repository = "" ∧
    fields.path = "" ∧ fields.line = none ∧ fields.requirement = "" ∧
    fields.evidence = "" ∧ fields.requiredFix = ""

/-- The location is the last part, and white space stands at its end. -/
def trailsOff (fields : FindingFields) : Bool :=
  fields.requirement = "" ∧ fields.evidence = "" ∧ fields.requiredFix = "" ∧
    fields.location.toList.getLast?.any isSpace

theorem location_eq_empty_iff (fields : FindingFields) :
    fields.location = "" ↔ fields.path = "" ∧ fields.line = none := by
  unfold location
  cases fields.line with
  | none => simp
  | some line => split_ifs with path <;> simp

theorem joinParts_parts_eq_empty_iff (fields : FindingFields) :
    joinParts " | " fields.parts = "" ↔ fields.isBlank = true := by
  simp only [joinParts_eq_empty_iff, parts, heading, scope, List.forall_mem_cons,
    location_eq_empty_iff, isBlank, decide_eq_true_eq, List.not_mem_nil, false_implies,
    implies_true, and_true]
  tauto

theorem startsVisibly_location {fields : FindingFields}
    (path : StartsVisibly fields.path) : StartsVisibly fields.location := by
  unfold location
  cases fields.line with
  | none => exact path
  | some line =>
      split_ifs with given
      · obtain ⟨head, tail, shape⟩ := List.exists_cons_of_ne_nil (toList_ne_nil given)
        intro first member
        apply path first
        rw [String.toList_append, String.toList_append, shape] at member
        rw [shape]
        exact member
      · intro first member
        rw [String.toList_append] at member
        cases member
        decide

theorem endsVisibly_scope_iff {fields : FindingFields}
    (repository : EndsVisibly fields.repository) :
    EndsVisibly fields.scope ↔ EndsVisibly fields.location := by
  rw [scope, endsVisibly_joinParts_cons, joinParts_singleton]
  split_ifs with empty
  · rw [empty]
    exact iff_of_true repository (by simp [EndsVisibly])
  · exact Iff.rfl

end FindingFields

theorem endsVisibly_iff {text : String} :
    EndsVisibly text ↔ text.toList.getLast?.any isSpace = false := by
  unfold EndsVisibly
  cases text.toList.getLast? with
  | none => simp
  | some last => simp

/-- The text of a finding keeps white space at its end exactly when it trails off. -/
theorem formatReviewFinding_stripped_iff (finding : Payload) :
    stripString (formatReviewFinding py finding) = formatReviewFinding py finding ↔
      (findingFields py finding).trailsOff = false := by
  have each := findingFields_visibly py finding
  unfold formatReviewFinding
  generalize findingFields py finding = fields at each ⊢
  simp only [List.forall_mem_cons, List.not_mem_nil, false_implies, implies_true,
    and_true] at each
  obtain ⟨identity, severity, repository, path, requirement, evidence, requiredFix⟩ := each
  have front : StartsVisibly (joinParts " | " fields.parts) := by
    apply startsVisibly_joinParts
    have location := FindingFields.startsVisibly_location path.1
    simp only [FindingFields.parts, List.forall_mem_cons]
    exact ⟨startsVisibly_joinParts (by simp [identity.1, severity.1]),
      startsVisibly_joinParts (by simp [repository.1, location]), requirement.1,
      evidence.1, requiredFix.1, List.forall_mem_nil _⟩
  have heading : EndsVisibly fields.heading :=
    endsVisibly_joinParts (by simp [identity.2, severity.2])
  rw [stripString_eq_iff, and_iff_right front, FindingFields.parts,
    endsVisibly_joinParts_cons, endsVisibly_joinParts_cons]
  have following : joinParts " | "
      [fields.requirement, fields.evidence, fields.requiredFix] = "" ↔
        fields.requirement = "" ∧ fields.evidence = "" ∧ fields.requiredFix = "" := by
    simp [joinParts_eq_empty_iff]
  by_cases last : joinParts " | "
      [fields.requirement, fields.evidence, fields.requiredFix] = ""
  · have trails : fields.trailsOff = fields.location.toList.getLast?.any isSpace := by
      simp [FindingFields.trailsOff, following.mp last]
    rw [if_pos last, FindingFields.endsVisibly_scope_iff repository.2,
      joinParts_of_empty _ last, trails, ← endsVisibly_iff]
    by_cases scope : fields.scope = ""
    · have nowhere : fields.location = "" :=
        joinParts_eq_empty_iff.mp scope _ (by simp)
      rw [if_pos scope]
      exact iff_of_true heading (by simp [nowhere, EndsVisibly])
    · rw [if_neg scope]
  · have ends : EndsVisibly (joinParts " | "
        [fields.requirement, fields.evidence, fields.requiredFix]) :=
      endsVisibly_joinParts (by simp [requirement.2, evidence.2, requiredFix.2])
    have trails : fields.trailsOff = false := by
      rw [FindingFields.trailsOff, decide_eq_false_iff_not]
      intro off
      exact last (following.mpr ⟨off.1, off.2.1, off.2.2.1⟩)
    rw [if_neg last, trails]
    refine iff_of_true ?_ rfl
    split_ifs
    · exact heading
    · exact ends

/-- An item whose text keeps white space at its end. -/
def trailsOff (py : OutputInterpreter) : Json → Bool
  | .object finding => (findingFields py finding).trailsOff
  | _ => false

theorem reviewItemText_stripped_iff (item : Json) :
    stripString (reviewItemText py item) = reviewItemText py item ↔
      trailsOff py item = false := by
  cases item with
  | object finding => exact formatReviewFinding_stripped_iff finding
  | _ => exact iff_of_true (stripString_stripString _) rfl

/-- A mapping with members none of which is written out. -/
def isUnreadable (py : OutputInterpreter) : Json → Bool
  | .object finding => finding ≠ [] ∧ (findingFields py finding).isBlank
  | _ => false

/-! ## Lists of items -/

theorem mem_foldl_addReviewItem {items : List Json} {start : List String} {text : String} :
    text ∈ items.foldl (addReviewItem py) start ↔
      text ∈ start ∨ text ≠ "" ∧ ∃ item ∈ items, reviewItemText py item = text := by
  induction items generalizing start with
  | nil => simp
  | cons head tail inductionHypothesis =>
      rw [List.foldl_cons, inductionHypothesis, List.exists_mem_cons_iff, addReviewItem]
      by_cases fresh : reviewItemText py head ≠ "" ∧ reviewItemText py head ∉ start
      · rw [if_pos fresh, List.mem_append, List.mem_singleton]
        constructor
        · rintro ((old | rfl) | ⟨nonempty, later⟩)
          · exact Or.inl old
          · exact Or.inr ⟨fresh.1, Or.inl rfl⟩
          · exact Or.inr ⟨nonempty, Or.inr later⟩
        · rintro (old | ⟨nonempty, rfl | later⟩)
          · exact Or.inl (Or.inl old)
          · exact Or.inl (Or.inr rfl)
          · exact Or.inr ⟨nonempty, later⟩
      · rw [if_neg fresh]
        constructor
        · rintro (old | ⟨nonempty, later⟩)
          · exact Or.inl old
          · exact Or.inr ⟨nonempty, Or.inr later⟩
        · rintro (old | ⟨nonempty, rfl | later⟩)
          · exact Or.inl old
          · exact Or.inl (by_contra fun absent => fresh ⟨nonempty, absent⟩)
          · exact Or.inr ⟨nonempty, later⟩

theorem mem_normalizeReviewItems {items : List Json} {text : String} :
    text ∈ normalizeReviewItems py items ↔
      text ≠ "" ∧ ∃ item ∈ items, reviewItemText py item = text := by
  rw [normalizeReviewItems, mem_foldl_addReviewItem]
  simp

theorem normalizeReviewItems_eq_nil_iff {items : List Json} :
    normalizeReviewItems py items = [] ↔ ∀ item ∈ items, reviewItemText py item = "" := by
  rw [List.eq_nil_iff_forall_not_mem]
  constructor
  · intro none item member
    by_contra nonempty
    exact none _ (mem_normalizeReviewItems.mpr ⟨nonempty, item, member, rfl⟩)
  · intro blank text listed
    obtain ⟨nonempty, item, member, rfl⟩ := mem_normalizeReviewItems.mp listed
    exact nonempty (blank item member)

theorem nodup_normalizeReviewItems (items : List Json) :
    (normalizeReviewItems py items).Nodup := by
  have general : ∀ start : List String, start.Nodup →
      (items.foldl (addReviewItem py) start).Nodup := by
    induction items with
    | nil => exact fun start nodup => nodup
    | cons head tail inductionHypothesis =>
        intro start nodup
        apply inductionHypothesis
        rw [addReviewItem]
        split_ifs with fresh
        · rw [← List.concat_eq_append]
          exact nodup.concat fresh.2
        · exact nodup
  exact general [] List.nodup_nil

/-- Normal items stay as they are exactly when no white space is left at their ends. -/
theorem normalizeReviewItems_texts_iff (py : OutputInterpreter) {items : List String}
    (nodup : items.Nodup)
    (nonempty : "" ∉ items) :
    normalizeReviewItems py (items.map Json.string) = items ↔
      ∀ text ∈ items, stripString text = text := by
  constructor
  · intro same text member
    rw [← same] at member
    obtain ⟨_, item, listed, rfl⟩ := mem_normalizeReviewItems.mp member
    obtain ⟨text, _, rfl⟩ := List.mem_map.mp listed
    exact stripString_stripString _
  · intro stripped
    have general : ∀ back front : List String, (front ++ back).Nodup →
        (∀ text ∈ back, text ≠ "" ∧ stripString text = text) →
        (back.map Json.string).foldl (addReviewItem py) front = front ++ back := by
      intro back
      induction back with
      | nil =>
          intro front _ _
          exact (List.append_nil front).symm
      | cons head tail inductionHypothesis =>
          intro front distinct each
          have known : reviewItemText py (.string head) = head :=
            (each head List.mem_cons_self).2
          have fresh : head ∉ front := fun member =>
            List.disjoint_of_nodup_append distinct member List.mem_cons_self
          rw [List.map_cons, List.foldl_cons, addReviewItem, known,
            if_pos ⟨(each head List.mem_cons_self).1, fresh⟩,
            inductionHypothesis (front ++ [head]) (by simpa using distinct)
              fun text member => each text (List.mem_cons_of_mem _ member),
            List.append_assoc, List.singleton_append]
    exact general items [] nodup fun text member =>
      ⟨fun empty => nonempty (empty ▸ member), stripped text member⟩

/-! ## The schema -/

def reviewKeys : List String := ["verdict", "findings", "observations", "summary"]

/-- A list of texts, none of them empty. -/
def AreTexts (value : Json) : Prop :=
  ∃ items : List String, value = texts items ∧ "" ∉ items

/-- What the review schema asks of a payload. -/
structure ReviewShape (payload : Payload) : Prop where
  closed : ∀ field ∈ payload, field.1 ∈ reviewKeys
  verdict : payload.get "verdict" .null = .string "approved" ∨
    payload.get "verdict" .null = .string "changes_required"
  findings : AreTexts (payload.get "findings" .null)
  observations : AreTexts (payload.get "observations" .null)
  summary : ∃ text, payload.get "summary" .null = .string text ∧ text ≠ ""

/-- The schema of a text that is not empty. -/
def textSchema : Json :=
  .object [("type", .string "string"), ("minLength", .int 1)]

/-- The schema of a list of such texts. -/
def textsSchema : Json :=
  .object [("type", .string "array"), ("items", textSchema)]

theorem validate_textSchema (value : Json) (path : String) :
    validateValue py.toPython textSchema value path = [] ↔
      ∃ text, value = .string text ∧ text ≠ "" := by
  cases value with
  | string text =>
      have long : 1 ≤ (text.length : Int) ↔ ¬ text = "" := by
        rw [← String.length_eq_zero_iff]
        omega
      simpa [textSchema, validateValue, truthy, matchesType, typeNameOf, Python.text,
        constErrors, enumErrors, textErrors, limitErrors, getEntry, Python.integerOf]
        using long
  | _ => simp [textSchema, validateValue, truthy, matchesType, typeNameOf, Python.text]

theorem areTexts_array_iff {elements : List Json} :
    AreTexts (.array elements) ↔
      ∀ element ∈ elements, ∃ text, element = .string text ∧ text ≠ "" := by
  constructor
  · rintro ⟨items, same, nonempty⟩ element member
    have listed : elements = items.map Json.string := Json.array.inj same
    rw [listed] at member
    obtain ⟨text, inside, rfl⟩ := List.mem_map.mp member
    exact ⟨text, rfl, fun empty => nonempty (empty ▸ inside)⟩
  · intro each
    induction elements with
    | nil => exact ⟨[], rfl, List.not_mem_nil⟩
    | cons head tail inductionHypothesis =>
        obtain ⟨headEach, tailEach⟩ := List.forall_mem_cons.mp each
        obtain ⟨text, rfl, visible⟩ := headEach
        obtain ⟨items, same, nonempty⟩ := inductionHypothesis tailEach
        refine ⟨text :: items, ?_, ?_⟩
        · rw [Json.array.inj same]
          rfl
        · rw [List.mem_cons, not_or]
          exact ⟨visible.symm, nonempty⟩

theorem forall_mem_zipIdx {elements : List Json} {holds : Json → Prop} :
    (∀ item ∈ elements.zipIdx, holds item.1) ↔ ∀ element ∈ elements, holds element := by
  conv_rhs => rw [← List.zipIdx_map_fst 0 elements]
  exact List.forall_mem_map.symm

theorem validate_textsSchema (value : Json) (path : String) :
    validateValue py.toPython textsSchema value path = [] ↔ AreTexts value := by
  cases value with
  | array elements =>
      rw [areTexts_array_iff, ← forall_mem_zipIdx]
      simp [textsSchema, validateValue, truthy, matchesType, typeNameOf, Python.text,
        constErrors, enumErrors, elementErrors, validateItems, limitErrors, getEntry,
        Python.integerOf, validate_textSchema]
  | _ =>
      simp [textsSchema, validateValue, truthy, matchesType, typeNameOf, Python.text,
        AreTexts, texts]

theorem equals_string_iff {text : String} {value : Json} :
    py.equals value (.string text) = true ↔ value = .string text := by
  cases value <;> simp [Python.equals, Python.numberEquals, Python.integerOf]

theorem containsValue_texts_iff (py : OutputInterpreter) {allowed : List String} {value : Json} :
    containsValue py.toPython (allowed.map Json.string) value = true ↔
      ∃ text ∈ allowed, value = .string text := by
  simp [containsValue, Python.identical, equals_string_iff]

/-- The schema of one of some texts. -/
def enumSchema (allowed : List String) : Json :=
  .object [("enum", .array (allowed.map Json.string))]

theorem validate_enumSchema (allowed : List String) (value : Json) (path : String) :
    validateValue py.toPython (enumSchema allowed) value path = [] ↔
      ∃ text ∈ allowed, value = .string text := by
  have walk : validateValue py.toPython (enumSchema allowed) value path =
      enumErrors py.toPython [("enum", .array (allowed.map Json.string))] value path := by
    cases value <;>
      simp [enumSchema, validateValue, truthy, constErrors, getEntry, textErrors,
        limitErrors, Python.integerOf, requiredErrors, validateProperties,
        unexpectedErrors, validateAdditional, elementErrors, validateItems]
  rw [walk, ← containsValue_texts_iff py, enumErrors, ProjectExecution.Row.get_cons,
    if_pos rfl]
  simp

/-- The schema of an object without other properties. -/
def closedSchema (required : List String) (properties : List (String × Json)) : Payload :=
  [("type", .string "object"), ("additionalProperties", .bool false),
    ("required", .array (required.map Json.string)), ("properties", .object properties)]

theorem validateEach_eq_nil_iff {properties : List (String × Json)} {fields : Payload}
    {path : String} :
    validateEach py.toPython properties fields path = [] ↔
      ∀ property ∈ properties, ∀ value, getEntry property.1 fields = some value →
        validateValue py.toPython property.2 value (path ++ "." ++ property.1) = [] := by
  induction properties with
  | nil => simp [validateEach]
  | cons head tail inductionHypothesis =>
      rw [validateEach, List.append_eq_nil_iff, inductionHypothesis, List.forall_mem_cons]
      cases getEntry head.1 fields with
      | none => simp
      | some value => simp

section Closed

variable {required : List String} {properties : List (String × Json)} {payload : Payload}

theorem requiredErrors_closedSchema_iff {path : String} :
    requiredErrors py.toPython (closedSchema required properties) payload path = [] ↔
      ∀ key ∈ required, payload.has key = true := by
  have listed : (closedSchema required properties).get "required" .null =
      .array (required.map Json.string) := rfl
  rw [requiredErrors, listed]
  simp

theorem unexpectedErrors_closedSchema_iff {path : String} :
    unexpectedErrors py.toPython (closedSchema required properties) payload path = [] ↔
      ∀ field ∈ payload, field.1 ∈ properties.map Prod.fst := by
  have known : knownKeys (closedSchema required properties) = properties.map Prod.fst :=
    rfl
  have closed : (closedSchema required properties).get "additionalProperties" .null =
      .bool false := rfl
  rw [unexpectedErrors, if_pos closed, known, List.map_eq_nil_iff, List.filter_eq_nil_iff]
  simp only [decide_eq_true_eq, not_not]

theorem validate_closedSchema :
    validateStructuredObject py.toPython (some payload)
        (closedSchema required properties) =
      requiredErrors py.toPython (closedSchema required properties) payload "$" ++
        validateEach py.toPython properties payload "$" ++
          unexpectedErrors py.toPython (closedSchema required properties) payload "$" := by
  rw [validateStructuredObject, Option.map_some, Option.getD_some, closedSchema,
    validateValue, if_neg (by simp [truthy, matchesType, typeNameOf, Python.text])]
  simp [constErrors, enumErrors, getEntry, validateProperties, validateMembers,
    validateAdditional, validateValue]

theorem validate_closedSchema_iff :
    validateStructuredObject py.toPython (some payload)
        (closedSchema required properties) = [] ↔
      (∀ key ∈ required, payload.has key = true) ∧
        (∀ property ∈ properties, ∀ value, getEntry property.1 payload = some value →
          validateValue py.toPython property.2 value ("$" ++ "." ++ property.1) = []) ∧
          ∀ field ∈ payload, field.1 ∈ properties.map Prod.fst := by
  rw [validate_closedSchema, List.append_eq_nil_iff, List.append_eq_nil_iff,
    requiredErrors_closedSchema_iff, unexpectedErrors_closedSchema_iff,
    validateEach_eq_nil_iff, and_assoc]

end Closed

/-- A member that is there and passes. -/
theorem get_holds_iff {payload : Payload} {key : String} (holds : Json → Prop)
    (notNull : ¬ holds .null) :
    holds (payload.get key .null) ↔
      payload.has key = true ∧
        ∀ value, getEntry key payload = some value → holds value := by
  rw [ProjectExecution.Row.get, Payload.has]
  cases getEntry key payload with
  | none => simpa using notNull
  | some value => simp

theorem not_areTexts_null : ¬ AreTexts .null := by
  rintro ⟨items, same, _⟩
  cases same

theorem validate_review_iff (payload : Payload) :
    validateStructuredObject py.toPython (some payload) reviewOutputSchema = [] ↔
      ReviewShape payload := by
  have closed : reviewOutputSchema = closedSchema reviewKeys
      [("verdict", enumSchema ["approved", "changes_required"]),
        ("findings", textsSchema), ("observations", textsSchema),
        ("summary", textSchema)] := rfl
  rw [closed, validate_closedSchema_iff]
  simp only [reviewKeys, List.forall_mem_cons, List.not_mem_nil, false_implies,
    implies_true, and_true, validate_enumSchema, validate_textsSchema,
    validate_textSchema, List.map_cons, List.map_nil]
  constructor
  · rintro ⟨present, each, closed⟩
    obtain ⟨verdict, findings, observations, summary⟩ := present
    obtain ⟨verdictEach, findingsEach, observationsEach, summaryEach⟩ := each
    have known := (get_holds_iff _ (by simp)).mpr ⟨verdict, verdictEach⟩
    exact ⟨closed, by simpa using known,
      (get_holds_iff AreTexts not_areTexts_null).mpr ⟨findings, findingsEach⟩,
      (get_holds_iff AreTexts not_areTexts_null).mpr ⟨observations, observationsEach⟩,
      (get_holds_iff _ (by simp)).mpr ⟨summary, summaryEach⟩⟩
  · intro shape
    have verdict := (get_holds_iff (fun value =>
      ∃ text ∈ ["approved", "changes_required"], value = .string text)
      (by simp)).mp (by simpa using shape.verdict)
    have findings := (get_holds_iff AreTexts not_areTexts_null).mp shape.findings
    have observations := (get_holds_iff AreTexts not_areTexts_null).mp shape.observations
    have summary := (get_holds_iff (fun value =>
      ∃ text, value = .string text ∧ text ≠ "") (by simp)).mp shape.summary
    exact ⟨⟨verdict.1, findings.1, observations.1, summary.1⟩,
      ⟨verdict.2, findings.2, observations.2, summary.2⟩, shape.closed⟩

/-! ## Members of the normal form -/

theorem get_dropKeys {payload : Payload} {names : List String} {name : String}
    (absent : name ∉ names) :
    (dropKeys payload names).get name .null = payload.get name .null := by
  induction payload with
  | nil => rfl
  | cons head tail inductionHypothesis =>
      obtain ⟨key, value⟩ := head
      rw [dropKeys, List.filter_cons, ProjectExecution.Row.get_cons]
      split_ifs with kept here here
      · rw [ProjectExecution.Row.get_cons, if_pos here]
      · rw [ProjectExecution.Row.get_cons, if_neg here]
        exact inductionHypothesis
      · simp [here, absent] at kept
      · exact inductionHypothesis

theorem setWhen_false (payload : Payload) (name : String) (value : Json) :
    setWhen payload false name value = payload :=
  rfl

theorem get_setWhen_self (payload : Payload) (condition : Bool) (name : String)
    (value : Json) :
    (setWhen payload condition name value).get name .null =
      if condition then value else payload.get name .null := by
  rw [setWhen]
  split_ifs
  · exact ProjectExecution.Row.get_set_self payload name value .null
  · rfl

theorem get_setWhen_ne (payload : Payload) (condition : Bool) {name other : String}
    (different : other ≠ name) (value : Json) :
    (setWhen payload condition name value).get other .null = payload.get other .null := by
  rw [setWhen]
  split_ifs
  · exact ProjectExecution.Row.get_set_ne payload different value .null
  · rfl

theorem get_setItems_self {payload : Payload} {name : String} {value : Json}
    (held : isList value = false → payload.get name .null = value) :
    (setItems py payload name value).get name .null = normalItems py value := by
  rw [setItems, get_setWhen_self]
  split_ifs with list
  · rfl
  · rw [Bool.not_eq_true] at list
    rw [held list]
    cases value <;> first | rfl | cases list

theorem get_setItems_ne (payload : Payload) {name other : String}
    (different : other ≠ name) (value : Json) :
    (setItems py payload name value).get other .null = payload.get other .null :=
  get_setWhen_ne _ _ different _

variable (payload : Payload) (findings : Json)

theorem normalReview_verdict :
    (normalReview py payload findings).get "verdict" .null =
      if reviewVerdict py payload ≠ "" then .string (reviewVerdict py payload)
      else payload.get "verdict" .null := by
  simp only [normalReview]
  rw [get_setWhen_ne _ _ (by decide), get_setWhen_ne _ _ (by decide),
    get_setItems_ne _ (by decide), get_setItems_ne _ (by decide),
    get_dropKeys (by decide), get_setWhen_ne _ _ (by decide), get_setWhen_self,
    get_dropKeys (by decide)]
  simp only [decide_eq_true_eq]

theorem normalReview_findings :
    (normalReview py payload findings).get "findings" .null = normalItems py findings := by
  simp only [normalReview]
  rw [get_setWhen_ne _ _ (by decide), get_setWhen_ne _ _ (by decide),
    get_setItems_ne _ (by decide)]
  apply get_setItems_self
  intro _
  rw [get_dropKeys (by decide), get_setWhen_self, get_setWhen_ne _ _ (by decide),
    get_dropKeys (by decide)]
  by_cases same : findings = payload.get "findings" .null
  · simp [same]
  · simp [same]

theorem normalReview_observations :
    (normalReview py payload findings).get "observations" .null =
      if payload.get "observations" .null = .null then .array []
      else normalItems py (payload.get "observations" .null) := by
  simp only [normalReview]
  rw [get_setWhen_ne _ _ (by decide), get_setWhen_self, get_setItems_self]
  · simp only [decide_eq_true_eq]
  · intro _
    rw [get_setItems_ne _ (by decide), get_dropKeys (by decide),
      get_setWhen_ne _ _ (by decide), get_setWhen_ne _ _ (by decide),
      get_dropKeys (by decide)]

end Execraft.Orchestrate
