import Execraft.Foundation.Json.Characters

/-!
# Fragments of encoded documents

What a decoder makes of a piece that stands between two wide characters of an
encoded document, and of an encoded document behind some other text.  Both
follow from the quoting state in which the piece or the document is read.
-/

namespace Foundation.Json

theorem not_isBareChar_of_wide {character : Char}
    (wide : 127 < character.toNat) : isBareChar character = false := by
  cases bareChar : isBareChar character with
  | false => rfl
  | true =>
      exfalso
      by_cases number : isNumberChar character = true
      · have narrow := (printable_of_isNumberChar number).2
        omega
      · have listed : isBlank character = true ∨
            character ∈ ['{', '}', '[', ']', ',', ':', 'n', 'u', 'l', 't', 'r',
              'e', 'f', 'a', 's', 'N', 'I', 'i', 'y'] := by
          simpa [isBareChar, number] using bareChar
        have narrow : character.toNat ≤ 127 := by
          rcases listed with blank | member
          · simp only [isBlank, Bool.or_eq_true, decide_eq_true_eq] at blank
            rcases blank with ((rfl | rfl) | rfl) | rfl <;> decide
          · exact (List.all_iff_forall_prop.mp (by decide) : ∀ ascii ∈ ['{', '}',
              '[', ']', ',', ':', 'n', 'u', 'l', 't', 'r', 'e', 'f', 'a', 's', 'N',
              'I', 'i', 'y'], ascii.toNat ≤ 127) character member
        omega

theorem quoted_subset (quoting : Quoting) (text : List Char) :
    quoted quoting text ⊆ text := by
  induction text generalizing quoting with
  | nil => cases quoting <;> simp [quoted]
  | cons head tail inductionHypothesis =>
      intro character member
      cases quoting with
      | outside =>
          simp only [quoted] at member
          split at member <;>
            exact List.mem_cons_of_mem _ (inductionHypothesis _ member)
      | inside =>
          simp only [quoted] at member
          split_ifs at member
          · exact List.mem_cons_of_mem _ (inductionHypothesis _ member)
          · rcases List.mem_cons.mp member with rfl | later
            · exact List.mem_cons_self ..
            · exact List.mem_cons_of_mem _ (inductionHypothesis _ later)
          · rcases List.mem_cons.mp member with rfl | later
            · exact List.mem_cons_self ..
            · exact List.mem_cons_of_mem _ (inductionHypothesis _ later)
      | escaped =>
          simp only [quoted] at member
          rcases List.mem_cons.mp member with rfl | later
          · exact List.mem_cons_self ..
          · exact List.mem_cons_of_mem _ (inductionHypothesis _ later)

/-! ## Pieces -/

/-- A wide character of an encoded document leaves the scanner inside a
string. -/
private theorem inside_after_wide {document : Json} {round : String → String}
    (canonical : Canonical round document) {front rest : List Char} {mark : Char}
    (wide : 127 < mark.toNat)
    (split : encode document = (front ++ [mark]) ++ rest) :
    ∃ depth, scan ⟨.outside, 0⟩ (front ++ [mark]) = some ⟨.inside, depth⟩ := by
  have lexes := encode_lexes canonical
  have whole := lexes.balanced 0
  rw [split, List.append_assoc] at whole
  obtain ⟨before, frontScan, restScan⟩ := scan_front whole
  obtain ⟨after, markScan, _⟩ := scan_front restScan
  have notOutside : before.quoting ≠ .outside := by
    intro outside
    have inBare : mark ∈ bare .outside (encode document) := by
      rw [split, List.append_assoc]
      have parts := bare_append frontScan ([mark] ++ rest)
      simp only at parts
      have notQuote : mark ≠ '"' := by
        rintro rfl
        exact absurd wide (by decide)
      rw [parts, outside]
      simp [bare, notQuote]
    have allowed := lexes.bareChars mark inBare
    rw [not_isBareChar_of_wide wide] at allowed
    cases allowed
  have notQuote : mark ≠ '"' := by
    rintro rfl
    exact absurd wide (by decide)
  have notBackslash : mark ≠ '\\' := by
    rintro rfl
    exact absurd wide (by decide)
  refine ⟨before.depth, ?_⟩
  rw [scan_append_of_eq frontScan]
  obtain ⟨quoting, depth⟩ := before
  cases quoting with
  | outside => exact absurd rfl notOutside
  | inside => simp [scan, Cursor.next, notQuote, notBackslash]
  | escaped => simp [scan, Cursor.next]

/-- A proper piece of an encoded document between wide characters never decodes
to a document that has a letter outside the bare characters. -/
theorem not_mentions_of_piece {round : String → String} {document found : Json}
    (canonical : Canonical round document) {before piece after : List Char}
    (split : encode document = before ++ (piece ++ after))
    (opens : before = [] ∨ ∃ front mark, before = front ++ [mark] ∧
      127 < mark.toNat)
    (closes : after = [] ∨ ∃ mark rest, after = mark :: rest ∧
      127 < mark.toNat)
    (proper : before ≠ [] ∨ after ≠ [])
    (decoded : decode round piece = some found) {letter : Char}
    (notBare : isBareChar letter = false) : ¬ Mentions letter found := by
  intro mentions
  have lexes := encode_lexes canonical
  have pieceLexes := decode_lexes decoded
  rcases opens with rfl | ⟨front, mark, rfl, wide⟩
  · -- The piece closes outside quotes, where no wide character may follow.
    rcases closes with rfl | ⟨mark, rest, rfl, wide⟩
    · simp at proper
    · have inBare : mark ∈ bare .outside (encode document) := by
        have parts := bare_append (pieceLexes.balanced 0) (mark :: rest)
        have notQuote : mark ≠ '"' := by
          rintro rfl
          exact absurd wide (by decide)
        rw [split, List.nil_append]
        simp only at parts
        rw [parts]
        simp [bare, notQuote]
      have allowed := lexes.bareChars mark inBare
      rw [not_isBareChar_of_wide wide] at allowed
      cases allowed
  · -- The document reads the piece inside quotes, the decoder outside them.
    obtain ⟨depth, frontScan⟩ := inside_after_wide canonical wide split
    have whole := lexes.balanced 0
    rw [split, scan_append_of_eq frontScan] at whole
    obtain ⟨final, pieceScan, _⟩ := scan_front whole
    obtain ⟨plain, mirrored, _⟩ :=
      scan_opposite (pieceLexes.balanced 0) pieceScan
    have unescaped : '\\' ∉ quoted .outside piece :=
      fun member => plain (quoted_subset _ _ member)
    have quotedLetter := pieceLexes.supplied unescaped letter mentions
    have inBare : letter ∈ bare .outside (encode document) := by
      have outer := bare_append frontScan (piece ++ after)
      have inner := bare_append pieceScan after
      simp only at outer inner
      rw [split, outer, inner, ← mirrored]
      simp [quotedLetter]
    have allowed := lexes.bareChars letter inBare
    rw [notBare] at allowed
    cases allowed

/-! ## Documents behind other text -/

private theorem encodeMembers_ends (fields : List (String × Json)) :
    ∃ inner, encodeMembers fields = inner ++ ['}'] := by
  induction fields with
  | nil => exact ⟨[], rfl⟩
  | cons head tail inductionHypothesis =>
      obtain ⟨inner, shape⟩ := inductionHypothesis
      refine ⟨',' :: (encodeString head.1.toList ++
        ':' :: (encode head.2 ++ inner)), ?_⟩
      simp [encodeMembers, shape]

/-- The text of an object between its braces. -/
theorem encode_object_braces (fields : List (String × Json)) :
    ∃ inner, encode (.object fields) = '{' :: (inner ++ ['}']) := by
  cases fields with
  | nil => exact ⟨[], rfl⟩
  | cons head tail =>
      obtain ⟨inner, shape⟩ := encodeMembers_ends tail
      refine ⟨encodeString head.1.toList ++ ':' :: (encode head.2 ++ inner), ?_⟩
      simp [encode, shape]

/-- An encoded object is not completed by text in front of it. -/
theorem blank_of_decode_append {round : String → String}
    {fields : List (String × Json)}
    (canonical : Canonical round (.object fields)) {front : List Char}
    {found : Json}
    (decoded : decode round (front ++ encode (.object fields)) = some found) :
    ∀ character ∈ front, isBlank character = true := by
  obtain ⟨inner, braces⟩ := encode_object_braces fields
  have balanced := (encode_lexes canonical).balanced 0
  rw [braces] at balanced
  have innerScan : scan ⟨.outside, 1⟩ inner = some ⟨.outside, 1⟩ := by
    have opened : scan ⟨.outside, 1⟩ (inner ++ ['}']) = some ⟨.outside, 0⟩ := by
      simpa [scan, Cursor.next] using balanced
    obtain ⟨⟨quoting, depth⟩, scanned, closed⟩ := scan_front opened
    rw [scanned]
    cases quoting with
    | outside =>
        by_cases ground : depth = 0
        · simp [scan, Cursor.next, ground] at closed
        · have one : depth = 1 := by
            have lowered : depth - 1 = 0 := by
              simpa [scan, Cursor.next, ground] using closed
            omega
          rw [one]
    | inside => simp [scan, Cursor.next] at closed
    | escaped => simp [scan, Cursor.next] at closed
  obtain ⟨before, consumed, after, split, beforeBlank, afterBlank, _, enclosed⟩ :=
    decode_parts decoded
  rw [braces] at split
  have afterEmpty : after = [] := by
    rcases List.eq_nil_or_concat after with empty | ⟨rest, last, shape⟩
    · exact empty
    · have lastBlank := afterBlank last (by simp [shape])
      have ends := congrArg List.getLast? split
      simp [shape, List.getLast?_append, List.getLast?_cons] at ends
      rw [← ends] at lastBlank
      exact absurd lastBlank (by decide)
  subst afterEmpty
  rw [List.append_nil] at split
  rcases enclosed with ⟨opening, closing, body, pair, rfl, bodyBalanced⟩ |
      ⟨most, last, rfl, notBrace⟩
  · have rearranged : (front ++ '{' :: inner) ++ ['}'] =
        (before ++ opening :: body) ++ [closing] := by
      simpa using split
    obtain ⟨fronts, _⟩ := List.append_inj' rearranged rfl
    rcases List.append_eq_append_iff.mp fronts with
      ⟨middle, rfl, rest⟩ | ⟨middle, rfl, rest⟩
    · intro character member
      exact beforeBlank character (by simp [member])
    · cases middle with
      | nil =>
          simpa using beforeBlank
      | cons head middle =>
          exfalso
          have bodyEq : body = middle ++ '{' :: inner := by
            simpa using (List.cons.inj rest).2
          have bodyScan := bodyBalanced 0
          rw [bodyEq] at bodyScan
          obtain ⟨⟨quoting, depth⟩, _, innerBehind⟩ := scan_front bodyScan
          cases quoting with
          | outside =>
              have deeper := scan_deepen innerScan depth
              have reached : scan ⟨.outside, depth⟩ ('{' :: inner) =
                  some ⟨.outside, 1 + depth⟩ := by
                simpa [scan, Cursor.next, Nat.add_comm] using deeper
              rw [reached] at innerBehind
              simp at innerBehind
          | inside =>
              have inside : scan ⟨.inside, depth⟩ inner = some ⟨.outside, 0⟩ := by
                simpa [scan, Cursor.next] using innerBehind
              obtain ⟨_, _, states⟩ := scan_opposite innerScan inside
              simp at states
          | escaped =>
              have inside : scan ⟨.inside, depth⟩ inner = some ⟨.outside, 0⟩ := by
                simpa [scan, Cursor.next] using innerBehind
              obtain ⟨_, _, states⟩ := scan_opposite innerScan inside
              simp at states
  · have ends := congrArg List.getLast? split
    simp [List.getLast?_append, List.getLast?_cons] at ends
    exact absurd ends.symm notBrace

theorem skipBlanks_append {blanks : List Char}
    (allBlank : ∀ character ∈ blanks, isBlank character = true)
    (text : List Char) : skipBlanks (blanks ++ text) = skipBlanks text := by
  rw [skipBlanks, skipBlanks, List.dropWhile_append_of_pos allBlank]

/-- Blanks in front of an encoded document do not change it. -/
theorem decode_blanks_encode {round : String → String} {document : Json}
    (canonical : Canonical round document) {blanks : List Char}
    (allBlank : ∀ character ∈ blanks, isBlank character = true) :
    decode round (blanks ++ encode document) = some document := by
  obtain ⟨opens, decodes⟩ := decodeValue_encode canonical
    ((blanks ++ encode document).length + 1)
    (by rw [List.length_append]; omega)
  have decoded := decodes [] boundary_nil
  rw [List.append_nil] at decoded
  have start := opens.skipBlanks []
  rw [List.append_nil] at start
  rw [decode, skipBlanks_append allBlank, start, decoded]
  simp [skipBlanks]

end Foundation.Json
