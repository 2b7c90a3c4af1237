import Execraft.Foundation.Json.Lexical

/-!
# The characters of an encoded document

An encoder that leaves non-ASCII characters alone writes every such character
exactly when some string of the document has it, and it never writes a control
character.
-/

namespace Foundation.Json

/-- The printing characters of ASCII. -/
def Printable (character : Char) : Prop :=
  32 ≤ character.toNat ∧ character.toNat < 127

instance (character : Char) : Decidable (Printable character) :=
  inferInstanceAs (Decidable (_ ∧ _))

theorem printable_of_isDigit {character : Char}
    (digit : isDigit character = true) : Printable character := by
  have range : '0' ≤ character ∧ character ≤ '9' := by
    simpa [isDigit] using digit
  have lower : ('0' : Char).toNat ≤ character.toNat := range.1
  have upper : character.toNat ≤ ('9' : Char).toNat := range.2
  have zero : ('0' : Char).toNat = 48 := by decide
  have nine : ('9' : Char).toNat = 57 := by decide
  constructor
  · omega
  · omega

theorem printable_of_isNumberChar {character : Char}
    (number : isNumberChar character = true) : Printable character := by
  by_cases digit : isDigit character = true
  · exact printable_of_isDigit digit
  · simp only [isNumberChar, digit, Bool.false_or, Bool.or_eq_true,
      decide_eq_true_eq] at number
    rcases number with (((minus | plus) | point) | lower) | upper
    all_goals
      subst character
      decide

theorem printable_digitChar {digit : Nat} (small : digit < 16) :
    Printable (Nat.digitChar digit) := by
  have checked : ∀ digit : Fin 16, Printable (Nat.digitChar digit) := by
    decide
  exact checked ⟨digit, small⟩

theorem mem_escapeChar {character source : Char}
    (member : character ∈ escapeChar source) :
    Printable character ∨ character = source ∧ 32 ≤ source.toNat := by
  unfold escapeChar at member
  split_ifs at member with quote backslash newline carriage tab feed back control
    <;> simp only [List.mem_cons, List.not_mem_nil, or_false] at member
  iterate 7
    · rcases member with rfl | rfl <;> exact Or.inl (by decide)
  · have high : Printable (Nat.digitChar (source.toNat / 16)) :=
      printable_digitChar (by omega)
    have low : Printable (Nat.digitChar (source.toNat % 16)) :=
      printable_digitChar (by omega)
    rcases member with rfl | rfl | rfl | rfl | rfl | rfl
    · exact Or.inl (by decide)
    · exact Or.inl (by decide)
    · exact Or.inl (by decide)
    · exact Or.inl (by decide)
    · exact Or.inl high
    · exact Or.inl low
  · exact Or.inr ⟨member, by omega⟩

theorem escapeChar_wide {character : Char} (wide : 127 < character.toNat) :
    escapeChar character = [character] := by
  have ne_of_ascii : ∀ ascii : Char, ascii.toNat ≤ 127 → character ≠ ascii := by
    rintro ascii small rfl
    omega
  unfold escapeChar
  simp only [ne_of_ascii '"' (by decide), ne_of_ascii '\\' (by decide),
    ne_of_ascii '\n' (by decide), ne_of_ascii '\r' (by decide),
    ne_of_ascii '\t' (by decide), ne_of_ascii '\x0c' (by decide),
    ne_of_ascii '\x08' (by decide), if_false]
  rw [if_neg (by omega)]

/-- An encoded character is printing ASCII or stands in some string. -/
private theorem mem_encodeString {character : Char} {text : List Char}
    (member : character ∈ encodeString text) :
    Printable character ∨ character ∈ text ∧ 32 ≤ character.toNat := by
  simp only [encodeString, List.mem_cons, List.mem_append, List.mem_flatMap,
    List.not_mem_nil, or_false] at member
  rcases member with rfl | ⟨source, inText, escaped⟩ | rfl
  · exact Or.inl (by decide)
  · rcases mem_escapeChar escaped with printable | ⟨rfl, visible⟩
    · exact Or.inl printable
    · exact Or.inr ⟨inText, visible⟩
  · exact Or.inl (by decide)

private theorem mem_encodeElements {character : Char} {elements : List Json}
    (member : character ∈ encodeElements elements) :
    Printable character ∨ ∃ element ∈ elements, character ∈ encode element := by
  induction elements with
  | nil =>
      rw [encodeElements, List.mem_singleton] at member
      rw [member]
      exact Or.inl (by decide)
  | cons head tail inductionHypothesis =>
      rw [encodeElements, List.mem_cons, List.mem_append] at member
      rcases member with comma | inHead | inTail
      · rw [comma]
        exact Or.inl (by decide)
      · exact Or.inr ⟨head, List.mem_cons_self .., inHead⟩
      · rcases inductionHypothesis inTail with printable | ⟨element, later, found⟩
        · exact Or.inl printable
        · exact Or.inr ⟨element, List.mem_cons_of_mem _ later, found⟩

private theorem mem_encodeMembers {character : Char}
    {fields : List (String × Json)}
    (member : character ∈ encodeMembers fields) :
    Printable character ∨ ∃ field ∈ fields,
      character ∈ encodeString field.1.toList ∨ character ∈ encode field.2 := by
  induction fields with
  | nil =>
      rw [encodeMembers, List.mem_singleton] at member
      rw [member]
      exact Or.inl (by decide)
  | cons head tail inductionHypothesis =>
      obtain ⟨name, value⟩ := head
      rw [encodeMembers, List.mem_cons, List.mem_append, List.mem_cons,
        List.mem_append] at member
      rcases member with comma | inName | colon | inValue | inTail
      · rw [comma]
        exact Or.inl (by decide)
      · exact Or.inr ⟨(name, value), List.mem_cons_self .., Or.inl inName⟩
      · rw [colon]
        exact Or.inl (by decide)
      · exact Or.inr ⟨(name, value), List.mem_cons_self .., Or.inr inValue⟩
      · rcases inductionHypothesis inTail with printable | ⟨field, later, found⟩
        · exact Or.inl printable
        · exact Or.inr ⟨field, List.mem_cons_of_mem _ later, found⟩

private theorem printable_numeral {character : Char} {value : Int}
    (member : character ∈ encodeInt value) : Printable character := by
  have parts := numberToken_parts (numberToken_encodeInt value)
  have chars := numberToken_chars (numberToken_encodeInt value)
  refine printable_of_isNumberChar (chars character ?_)
  rw [← parts] at member
  simpa using member

theorem mem_encode {round : String → String} {document : Json}
    (canonical : Canonical round document) {character : Char}
    (member : character ∈ encode document) :
    Printable character ∨ Mentions character document ∧ 32 ≤ character.toNat := by
  induction document using Json.inductionOn with
  | null =>
      left
      simp only [encode, List.mem_cons, List.not_mem_nil, or_false] at member
      rcases member with rfl | rfl | rfl | rfl <;> decide
  | bool value =>
      left
      cases value with
      | true =>
          simp only [encode, List.mem_cons, List.not_mem_nil, or_false] at member
          rcases member with rfl | rfl | rfl | rfl <;> decide
      | false =>
          simp only [encode, List.mem_cons, List.not_mem_nil, or_false] at member
          rcases member with rfl | rfl | rfl | rfl | rfl <;> decide
  | int value =>
      exact Or.inl (printable_numeral member)
  | float text =>
      cases canonical with
      | float tokenShape fractional fixed =>
          have parts := numberToken_parts tokenShape
          have chars := numberToken_chars tokenShape
          refine Or.inl (printable_of_isNumberChar (chars character ?_))
          rw [encode, ← parts] at member
          simpa using member
  | nonFinite literal =>
      cases canonical
  | string text =>
      rcases mem_encodeString member with printable | ⟨inText, visible⟩
      · exact Or.inl printable
      · exact Or.inr ⟨.string inText, visible⟩
  | array elements inductionHypothesis =>
      cases canonical with
      | array members =>
          have inside : Printable character ∨
              ∃ element ∈ elements, character ∈ encode element := by
            cases elements with
            | nil =>
                simp only [encode, List.mem_cons, List.not_mem_nil,
                  or_false] at member
                rcases member with rfl | rfl
                · exact Or.inl (by decide)
                · exact Or.inl (by decide)
            | cons head tail =>
                rcases List.mem_cons.mp member with rfl | later
                · exact Or.inl (by decide)
                · exact mem_encodeElements (List.mem_cons_of_mem _ later)
          rcases inside with printable | ⟨element, present, found⟩
          · exact Or.inl printable
          · rcases inductionHypothesis element present
              (members element present) found with printable | ⟨mentions, visible⟩
            · exact Or.inl printable
            · exact Or.inr ⟨.element present mentions, visible⟩
  | object fields inductionHypothesis =>
      cases canonical with
      | object sorted members =>
          have inside : Printable character ∨ ∃ field ∈ fields,
              character ∈ encodeString field.1.toList ∨
                character ∈ encode field.2 := by
            cases fields with
            | nil =>
                simp only [encode, List.mem_cons, List.not_mem_nil,
                  or_false] at member
                rcases member with rfl | rfl
                · exact Or.inl (by decide)
                · exact Or.inl (by decide)
            | cons head tail =>
                rcases List.mem_cons.mp member with rfl | later
                · exact Or.inl (by decide)
                · exact mem_encodeMembers (List.mem_cons_of_mem _ later)
          rcases inside with printable | ⟨field, present, found | found⟩
          · exact Or.inl printable
          · rcases mem_encodeString found with printable | ⟨inText, visible⟩
            · exact Or.inl printable
            · exact Or.inr ⟨.name present inText, visible⟩
          · rcases inductionHypothesis field present
              (members field present) found with printable | ⟨mentions, visible⟩
            · exact Or.inl printable
            · exact Or.inr ⟨.member present mentions, visible⟩

/-! ## Characters outside ASCII -/

private theorem encode_subset_encodeElements {element : Json}
    {elements : List Json} (present : element ∈ elements) :
    encode element ⊆ encodeElements elements := by
  intro character member
  induction elements with
  | nil => cases present
  | cons head tail inductionHypothesis =>
      rw [encodeElements, List.mem_cons, List.mem_append]
      rcases List.mem_cons.mp present with rfl | later
      · exact Or.inr (Or.inl member)
      · exact Or.inr (Or.inr (inductionHypothesis later))

private theorem encode_subset_encodeMembers {field : String × Json}
    {fields : List (String × Json)} (present : field ∈ fields) :
    encodeString field.1.toList ++ encode field.2 ⊆ encodeMembers fields := by
  intro character member
  induction fields with
  | nil => cases present
  | cons head tail inductionHypothesis =>
      obtain ⟨name, value⟩ := head
      rw [encodeMembers, List.mem_cons, List.mem_append, List.mem_cons,
        List.mem_append]
      rcases List.mem_cons.mp present with rfl | later
      · rcases List.mem_append.mp member with inName | inValue
        · exact Or.inr (Or.inl inName)
        · exact Or.inr (Or.inr (Or.inr (Or.inl inValue)))
      · exact Or.inr (Or.inr (Or.inr (Or.inr (inductionHypothesis later))))

private theorem wide_mem_encodeString {character : Char}
    (wide : 127 < character.toNat) {text : List Char}
    (member : character ∈ text) : character ∈ encodeString text := by
  simp only [encodeString, List.mem_cons, List.mem_append, List.mem_flatMap]
  exact Or.inr (Or.inl ⟨character, member, by simp [escapeChar_wide wide]⟩)

private theorem mem_object_of_mem_encodeMembers {character : Char}
    (wide : 127 < character.toNat) {field : String × Json}
    {fields : List (String × Json)} (present : field ∈ fields)
    (member : character ∈ encodeMembers fields) :
    character ∈ encode (.object fields) := by
  cases fields with
  | nil => cases present
  | cons head tail =>
      rcases List.mem_cons.mp member with comma | later
      · rw [comma] at wide
        exact absurd wide (by decide)
      · exact List.mem_cons_of_mem _ later

/-- Every wide character of a string is written as it stands. -/
theorem mem_encode_of_mentions {character : Char}
    (wide : 127 < character.toNat) {document : Json}
    (mentions : Mentions character document) : character ∈ encode document := by
  induction mentions with
  | string inText =>
      exact wide_mem_encodeString wide inText
  | @element elements element present _ inductionHypothesis =>
      have found := encode_subset_encodeElements present inductionHypothesis
      cases elements with
      | nil => cases present
      | cons head tail =>
          rcases List.mem_cons.mp found with comma | later
          · rw [comma] at wide
            exact absurd wide (by decide)
          · exact List.mem_cons_of_mem _ later
  | @name fields field present inText =>
      have found := encode_subset_encodeMembers present
        (List.mem_append_left _ (wide_mem_encodeString wide inText))
      exact mem_object_of_mem_encodeMembers wide present found
  | @member fields field present _ inductionHypothesis =>
      have found := encode_subset_encodeMembers present
        (List.mem_append_right _ inductionHypothesis)
      exact mem_object_of_mem_encodeMembers wide present found

theorem mem_encode_iff_mentions {round : String → String} {document : Json}
    (canonical : Canonical round document) {character : Char}
    (wide : 127 < character.toNat) :
    character ∈ encode document ↔ Mentions character document := by
  constructor
  · intro member
    rcases mem_encode canonical member with printable | ⟨mentions, _⟩
    · have narrow := printable.2
      omega
    · exact mentions
  · exact mem_encode_of_mentions wide

theorem control_not_mem_encode {round : String → String} {document : Json}
    (canonical : Canonical round document) {character : Char}
    (control : character.toNat < 32) : character ∉ encode document := by
  intro member
  rcases mem_encode canonical member with printable | ⟨_, visible⟩
  · have lower := printable.1
    omega
  · omega

end Foundation.Json
