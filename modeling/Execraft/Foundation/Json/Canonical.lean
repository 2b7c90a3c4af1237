import Execraft.Foundation.Json.RoundTrip

/-!
# Canonical texts of documents

`json.dumps` with sorted keys and without NaN.  A document that was read and can
be written so is canonical, hence it reads back as itself.
-/

namespace Foundation.Json

/-- The rounding of decimal literals: the shortest text of a float denotes that
float. -/
structure FloatText where
  round : String → String
  stable : ∀ text, round (round text) = round text

/-- A literal of a finite float. -/
def isFloatLiteral (text : String) : Bool :=
  match numberToken text.toList with
  | some (_, suffix, rest) => suffix ≠ [] ∧ rest = []
  | none => false

mutual

/-- What `allow_nan=False` lets pass. -/
def finite : Json → Bool
  | .float text => isFloatLiteral text
  | .nonFinite _ => false
  | .array elements => finiteElements elements
  | .object fields => finiteMembers fields
  | _ => true

def finiteElements : List Json → Bool
  | [] => true
  | head :: tail => finite head && finiteElements tail

def finiteMembers : List (String × Json) → Bool
  | [] => true
  | (_, value) :: tail => finite value && finiteMembers tail

end

/-- `json.dumps(value, sort_keys=True, allow_nan=False)` with the compact
separators. -/
def canonicalText (value : Json) : Option (List Char) :=
  if finite value then some (encode (sortKeys value)) else none

/-! ## Finite documents -/

theorem finiteElements_iff {elements : List Json} :
    finiteElements elements = true ↔ ∀ element ∈ elements, finite element = true := by
  induction elements with
  | nil => simp [finiteElements]
  | cons head tail inductionHypothesis =>
      rw [finiteElements, Bool.and_eq_true, inductionHypothesis,
        List.forall_mem_cons]

theorem finiteMembers_iff {fields : List (String × Json)} :
    finiteMembers fields = true ↔ ∀ field ∈ fields, finite field.2 = true := by
  induction fields with
  | nil => simp [finiteMembers]
  | cons head tail inductionHypothesis =>
      rw [finiteMembers, Bool.and_eq_true, inductionHypothesis,
        List.forall_mem_cons]

theorem Canonical.finite {round : String → String} {document : Json}
    (canonical : Canonical round document) : Json.finite document = true := by
  induction canonical with
  | null => rfl
  | bool value => rfl
  | int value => rfl
  | float shape fractional fixed =>
      simp [Json.finite, isFloatLiteral, shape, fractional]
  | string text => rfl
  | array _ inductionHypothesis =>
      exact finiteElements_iff.mpr inductionHypothesis
  | object _ _ inductionHypothesis =>
      exact finiteMembers_iff.mpr inductionHypothesis

/-! ## Sorted documents -/

theorem sortElements_eq {elements : List Json}
    (sorted : ∀ element ∈ elements, sortKeys element = element) :
    sortElements elements = elements := by
  induction elements with
  | nil => rfl
  | cons head tail inductionHypothesis =>
      rw [List.forall_mem_cons] at sorted
      rw [sortElements, sorted.1, inductionHypothesis sorted.2]

theorem sortMembers_eq {fields : List (String × Json)}
    (sorted : ∀ field ∈ fields, sortKeys field.2 = field.2) :
    sortMembers fields = fields := by
  induction fields with
  | nil => rfl
  | cons head tail inductionHypothesis =>
      rw [List.forall_mem_cons] at sorted
      rw [sortMembers, sorted.1, inductionHypothesis sorted.2]

theorem dict_of_keysSorted {fields : List (String × Json)}
    (sorted : KeysSorted fields) : dict fields = .object fields := by
  have appended : insertFields [] fields = [] ++ fields :=
    insertFields_of_keysSorted (by rwa [List.nil_append])
  rw [dict, appended, List.nil_append]

theorem Canonical.sortKeys {round : String → String} {document : Json}
    (canonical : Canonical round document) : Json.sortKeys document = document := by
  induction canonical with
  | null => rfl
  | bool value => rfl
  | int value => rfl
  | float shape fractional fixed => rfl
  | string text => rfl
  | array _ inductionHypothesis =>
      rw [Json.sortKeys, sortElements_eq inductionHypothesis]
  | object sorted _ inductionHypothesis =>
      rw [Json.sortKeys, sortMembers_eq inductionHypothesis,
        dict_of_keysSorted sorted]

/-! ## What the decoder returns -/

section Decoded

variable {round : String → String}

/-- Documents that are canonical as soon as they are finite. -/
def Rounded (round : String → String) (document : Json) : Prop :=
  Json.finite document = true → Canonical round document

theorem rounded_float (stable : ∀ text, round (round text) = round text)
    (text : String) : Rounded round (.float (round text)) := by
  intro finite
  simp only [Json.finite, isFloatLiteral] at finite
  cases shape : numberToken (round text).toList with
  | none =>
      rw [shape] at finite
      cases finite
  | some parts =>
      obtain ⟨whole, suffix, rest⟩ := parts
      rw [shape] at finite
      simp only [decide_eq_true_eq] at finite
      obtain ⟨fractional, finished⟩ := finite
      rw [finished] at shape
      exact .float shape fractional (stable text)

theorem rounded_array {elements : List Json}
    (each : ∀ element ∈ elements, Rounded round element) :
    Rounded round (.array elements) := by
  intro finite
  have finiteEach := finiteElements_iff.mp finite
  exact .array fun element member =>
    each element member (finiteEach element member)

theorem rounded_dict {members : List (String × Json)}
    (each : ∀ field ∈ members, Rounded round field.2) :
    Rounded round (dict members) := by
  intro finite
  have finiteEach := finiteMembers_iff.mp finite
  have empty : KeysSorted [] := List.Pairwise.nil
  refine .object (insertFields_keysSorted empty members) ?_
  intro field member
  rcases mem_insertFields member with nothing | given
  · cases nothing
  · exact each field given (finiteEach field member)

theorem rounded_decodeNumber (stable : ∀ text, round (round text) = round text)
    {text rest : List Char} {document : Json}
    (decoded : decodeNumber round text = some (document, rest)) :
    Rounded round document := by
  unfold decodeNumber at decoded
  split at decoded
  · cases decoded
  · split_ifs at decoded with whole
    · cases decoded
      intro _
      exact .int _
    · cases decoded
      exact rounded_float stable _

variable {value : List Char → Option (Json × List Char)}

theorem rounded_decodeElements
    (each : ∀ text document rest, value text = some (document, rest) →
      Rounded round document)
    {fuel : Nat} {text rest : List Char} {elements : List Json}
    (decoded : decodeElements value fuel text = some (elements, rest)) :
    ∀ element ∈ elements, Rounded round element := by
  induction fuel generalizing text elements with
  | zero => cases decoded
  | succ fuel inductionHypothesis =>
      unfold decodeElements at decoded
      split at decoded
      · cases decoded
      · rename_i head afterHead first
        have headRounded := each _ _ _ first
        split at decoded
        · cases decoded
        · split_ifs at decoded with closing comma
          · cases decoded
            intro element member
            rw [List.mem_singleton.mp member]
            exact headRounded
          · obtain ⟨parts, later, same⟩ := Option.map_eq_some_iff.mp decoded
            cases same
            intro element member
            rcases List.mem_cons.mp member with atHead | inTail
            · rw [atHead]
              exact headRounded
            · exact inductionHypothesis later element inTail

theorem rounded_decodeMembers
    (each : ∀ text document rest, value text = some (document, rest) →
      Rounded round document)
    {fuel : Nat} {text rest : List Char} {fields : List (String × Json)}
    (decoded : decodeMembers value fuel text = some (fields, rest)) :
    ∀ field ∈ fields, Rounded round field.2 := by
  induction fuel generalizing text fields with
  | zero => cases decoded
  | succ fuel inductionHypothesis =>
      unfold decodeMembers at decoded
      split at decoded
      · cases decoded
      · split at decoded
        · cases decoded
        · rename_i head afterHead first
          have headRounded := each _ _ _ first
          split at decoded
          · cases decoded
          · split_ifs at decoded with closing comma
            · cases decoded
              intro field member
              rw [List.mem_singleton.mp member]
              exact headRounded
            · obtain ⟨parts, later, same⟩ := Option.map_eq_some_iff.mp decoded
              cases same
              intro field member
              rcases List.mem_cons.mp member with atHead | inTail
              · rw [atHead]
                exact headRounded
              · exact inductionHypothesis later field inTail

theorem rounded_decodeArray
    (each : ∀ text document rest, value text = some (document, rest) →
      Rounded round document)
    {text rest : List Char} {document : Json}
    (decoded : decodeArray value text = some (document, rest)) :
    Rounded round document := by
  unfold decodeArray at decoded
  split at decoded
  · cases decoded
  · split_ifs at decoded with closing
    · cases decoded
      exact rounded_array (by simp)
    · obtain ⟨parts, elements, same⟩ := Option.map_eq_some_iff.mp decoded
      cases same
      exact rounded_array (rounded_decodeElements each elements)

theorem rounded_decodeObject
    (each : ∀ text document rest, value text = some (document, rest) →
      Rounded round document)
    {text rest : List Char} {document : Json}
    (decoded : decodeObject value text = some (document, rest)) :
    Rounded round document := by
  unfold decodeObject at decoded
  split at decoded
  · cases decoded
  · split_ifs at decoded with closing
    · cases decoded
      intro _
      exact .object (by simp [KeysSorted]) (by simp)
    · obtain ⟨parts, members, same⟩ := Option.map_eq_some_iff.mp decoded
      cases same
      exact rounded_dict (rounded_decodeMembers each members)

theorem rounded_dropLiteral {literal text rest : List Char} {read document : Json}
    (canonical : Rounded round read)
    (decoded : dropLiteral literal read text = some (document, rest)) :
    Rounded round document := by
  unfold dropLiteral at decoded
  split_ifs at decoded with present
  cases decoded
  exact canonical

theorem rounded_nonFinite (literal : NonFinite) :
    Rounded round (.nonFinite literal) := by
  intro finite
  cases finite

theorem rounded_decodeValue (stable : ∀ text, round (round text) = round text)
    {fuel : Nat} {text rest : List Char} {document : Json}
    (decoded : decodeValue round fuel text = some (document, rest)) :
    Rounded round document := by
  induction fuel generalizing text rest document with
  | zero => cases decoded
  | succ fuel inductionHypothesis =>
      have each : ∀ text document rest,
          decodeValue round fuel text = some (document, rest) →
            Rounded round document := by
        intro text document rest inner
        exact inductionHypothesis inner
      cases text with
      | nil => cases decoded
      | cons head tail =>
          rw [decodeValue] at decoded
          split_ifs at decoded
          · obtain ⟨parts, _, same⟩ := Option.map_eq_some_iff.mp decoded
            cases same
            intro _
            exact .string _
          · exact rounded_decodeObject each decoded
          · exact rounded_decodeArray each decoded
          · exact rounded_dropLiteral (fun _ => .null) decoded
          · exact rounded_dropLiteral (fun _ => .bool true) decoded
          · exact rounded_dropLiteral (fun _ => .bool false) decoded
          · exact rounded_dropLiteral (rounded_nonFinite _) decoded
          · exact rounded_dropLiteral (rounded_nonFinite _) decoded
          · cases decoded
            exact rounded_nonFinite _
          · exact rounded_decodeNumber stable decoded

end Decoded

theorem rounded_decode (floats : FloatText) {text : List Char} {document : Json}
    (decoded : decode floats.round text = some document) :
    Rounded floats.round document := by
  unfold decode at decoded
  split at decoded
  · cases decoded
  · rename_i read
    split_ifs at decoded with finished
    cases decoded
    exact rounded_decodeValue floats.stable read

/-- The canonical text of a canonical document reads back as the document. -/
theorem Canonical.canonicalText {round : String → String} {document : Json}
    (canonical : Canonical round document) :
    Json.canonicalText document = some (encode document) := by
  rw [Json.canonicalText, if_pos canonical.finite, canonical.sortKeys]

end Foundation.Json
