import Execraft.Foundation.Json.Text

/-!
# Decoding what was encoded

`decode_encode` is the round trip.  Strings come first, then numbers, whose
token must not run on into the text behind it, and last the documents.
-/

namespace Foundation.Json

/-! ## Strings -/

private theorem hexValue_digitChar :
    ∀ digit < 16, hexValue (Nat.digitChar digit) = some digit := by
  decide

private theorem controlUnit (unit : Nat) :
    ((0 * 16 + 0) * 16 + unit / 16) * 16 + unit % 16 = unit := by
  omega

@[simp]
theorem decodeUnits_quote (rest : List Char) :
    decodeUnits ('"' :: rest) = some ([], rest) := by
  unfold decodeUnits
  simp

theorem decodeUnits_plain {character : Char} (tail : List Char)
    (notQuote : character ≠ '"') (notBackslash : character ≠ '\\')
    (notControl : ¬ character.toNat < 32) :
    decodeUnits (character :: tail) =
      (decodeUnits tail).map fun decoded =>
        (character.toNat :: decoded.1, decoded.2) := by
  conv_lhs => unfold decodeUnits
  simp only [if_neg notQuote, if_neg notBackslash, if_neg notControl]

/-- An escaped character decodes to its one code unit. -/
theorem decodeUnits_escapeChar (character : Char) (tail : List Char) :
    decodeUnits (escapeChar character ++ tail) =
      (decodeUnits tail).map fun decoded =>
        (character.toNat :: decoded.1, decoded.2) := by
  unfold escapeChar
  split_ifs with quote backslash newline carriage tab formFeed backspace control
  all_goals try subst character
  all_goals try (simp [decodeUnits, unescape]; done)
  · have high : hexValue (Nat.digitChar (character.toNat / 16)) =
        some (character.toNat / 16) :=
      hexValue_digitChar _ (by omega)
    have low : hexValue (Nat.digitChar (character.toNat % 16)) =
        some (character.toNat % 16) :=
      hexValue_digitChar _ (by omega)
    have zero : hexValue '0' = some 0 := by decide
    simp only [List.cons_append, List.nil_append, decodeUnits,
      if_neg (by decide : ¬ '\\' = '"'), if_true, zero, high, low,
      controlUnit]
  · exact decodeUnits_plain tail quote backslash control

theorem decodeUnits_flatMap (text rest : List Char) :
    decodeUnits (text.flatMap escapeChar ++ '"' :: rest) =
      some (text.map Char.toNat, rest) := by
  induction text with
  | nil =>
      simp
  | cons head tail inductionHypothesis =>
      rw [List.flatMap_cons, List.append_assoc, decodeUnits_escapeChar,
        inductionHypothesis]
      rfl

private theorem not_surrogate (character : Char) :
    isHighSurrogate character.toNat = false ∧
      isLowSurrogate character.toNat = false := by
  have valid := character.valid
  have same : character.val.toNat = character.toNat := rfl
  simp only [UInt32.isValidChar, Nat.isValidChar, same] at valid
  constructor
  · simp only [isHighSurrogate, Bool.and_eq_false_imp, decide_eq_true_eq,
      decide_eq_false_iff_not]
    omega
  · simp only [isLowSurrogate, Bool.and_eq_false_imp, decide_eq_true_eq,
      decide_eq_false_iff_not]
    omega

theorem joinUnits_map (text : List Char) :
    joinUnits (text.map Char.toNat) = text := by
  induction text with
  | nil =>
      rfl
  | cons head tail inductionHypothesis =>
      cases tail with
      | nil =>
          simp [joinUnits]
      | cons next rest =>
          have step : joinUnits ((head :: next :: rest).map Char.toNat) =
              Char.ofNat head.toNat ::
                joinUnits ((next :: rest).map Char.toNat) := by
            simp only [List.map_cons, joinUnits, (not_surrogate head).1,
              Bool.false_and, Bool.false_eq_true, if_false]
          rw [step, inductionHypothesis, Char.ofNat_toNat]

theorem decodeString_encodeString (text : String) (rest : List Char) :
    decodeString
        (text.toList.flatMap escapeChar ++ '"' :: rest) =
      some (text, rest) := by
  simp [decodeString, decodeUnits_flatMap, joinUnits_map]

/-! ## Numbers -/

/-- The characters a number token is made of. -/
def isNumberChar (character : Char) : Bool :=
  isDigit character || character = '-' || character = '+' ||
    character = '.' || character = 'e' || character = 'E'

/-- The text is empty or starts with a character no number continues with. -/
def Boundary (text : List Char) : Prop :=
  ∀ head tail, text = head :: tail → isNumberChar head = false

theorem boundary_nil : Boundary [] := by
  intro head tail equality
  cases equality

theorem boundary_cons {head : Char} {tail : List Char}
    (outside : isNumberChar head = false) : Boundary (head :: tail) := by
  intro first rest equality
  cases equality
  exact outside

private theorem Boundary.notDigit {head : Char} {tail : List Char}
    (boundary : Boundary (head :: tail)) : isDigit head = false := by
  have outside := boundary head tail rfl
  simp only [isNumberChar, Bool.or_eq_false_iff] at outside
  exact outside.1.1.1.1.1

private theorem Boundary.ne {head : Char} {tail : List Char}
    (boundary : Boundary (head :: tail)) :
    head ≠ '-' ∧ head ≠ '+' ∧ head ≠ '.' ∧ head ≠ 'e' ∧ head ≠ 'E' := by
  have outside := boundary head tail rfl
  simp only [isNumberChar, Bool.or_eq_false_iff, decide_eq_false_iff_not]
    at outside
  obtain ⟨⟨⟨⟨⟨_, minus⟩, plus⟩, point⟩, small⟩, capital⟩ := outside
  exact ⟨minus, plus, point, small, capital⟩

private theorem digitSpan_append (text : List Char) {rest : List Char}
    (boundary : Boundary rest) :
    (text ++ rest).takeWhile isDigit = text.takeWhile isDigit ∧
      (text ++ rest).dropWhile isDigit = text.dropWhile isDigit ++ rest := by
  induction text with
  | nil =>
      cases rest with
      | nil =>
          simp
      | cons head tail =>
          simp [boundary.notDigit]
  | cons head tail inductionHypothesis =>
      by_cases digit : isDigit head = true
      · simp [digit, inductionHypothesis]
      · simp [digit]

private theorem integerPart_append {text whole after rest : List Char}
    (boundary : Boundary rest)
    (scanned : integerPart text = some (whole, after)) :
    integerPart (text ++ rest) = some (whole, after ++ rest) := by
  cases text with
  | nil =>
      simp [integerPart] at scanned
  | cons head tail =>
      simp only [integerPart] at scanned
      simp only [List.cons_append, integerPart, digitSpan_append tail boundary]
      split_ifs at scanned ⊢
      all_goals simp_all

private theorem fractionPart_append (text : List Char) {rest : List Char}
    (boundary : Boundary rest) :
    fractionPart (text ++ rest) =
      ((fractionPart text).1, (fractionPart text).2 ++ rest) := by
  match text with
  | [] =>
      cases rest with
      | nil =>
          rfl
      | cons head tail =>
          cases tail with
          | nil =>
              rfl
          | cons next tail =>
              simp [fractionPart, boundary.ne.2.2.1]
  | [head] =>
      cases rest with
      | nil =>
          rfl
      | cons next tail =>
          simp [fractionPart, boundary.notDigit]
  | head :: next :: tail =>
      simp only [List.cons_append, fractionPart, digitSpan_append tail boundary]
      split_ifs <;> simp

private theorem exponentDigits_append {text rest : List Char}
    (boundary : Boundary rest) :
    exponentDigits (text ++ rest) =
      (exponentDigits text).map fun scanned =>
        (scanned.1, scanned.2 ++ rest) := by
  match text with
  | [] =>
      match rest, boundary with
      | [], _ =>
          rfl
      | [head], boundary =>
          simp [exponentDigits, boundary.notDigit]
      | head :: next :: tail, boundary =>
          simp [exponentDigits, boundary.notDigit, boundary.ne.1,
            boundary.ne.2.1]
  | [head] =>
      cases rest with
      | nil =>
          simp only [List.append_nil, exponentDigits]
          split_ifs <;> simp
      | cons next tail =>
          simp only [List.cons_append, List.nil_append, exponentDigits,
            boundary.notDigit]
          split_ifs <;> simp_all [boundary.notDigit]
  | head :: next :: tail =>
      have inner := digitSpan_append tail boundary
      have outer := digitSpan_append (next :: tail) boundary
      simp only [List.cons_append] at outer
      simp only [List.cons_append, exponentDigits, inner, outer]
      split_ifs <;> simp

private theorem exponentPart_append (text : List Char) {rest : List Char}
    (boundary : Boundary rest) :
    exponentPart (text ++ rest) =
      ((exponentPart text).1, (exponentPart text).2 ++ rest) := by
  cases text with
  | nil =>
      cases rest with
      | nil =>
          rfl
      | cons head tail =>
          simp [exponentPart, boundary.ne.2.2.2.1, boundary.ne.2.2.2.2]
  | cons head tail =>
      simp only [List.cons_append, exponentPart,
        exponentDigits_append boundary]
      split_ifs
      · cases exponentDigits tail <;> simp
      · simp

private theorem signPart_append {text : List Char} (rest : List Char)
    (nonempty : text ≠ []) :
    signPart (text ++ rest) = ((signPart text).1, (signPart text).2 ++ rest) := by
  cases text with
  | nil =>
      exact absurd rfl nonempty
  | cons head tail =>
      simp only [List.cons_append, signPart]
      split_ifs <;> simp

/-- A complete number token is scanned alike in front of a boundary. -/
theorem numberToken_append {text whole suffix rest : List Char}
    (boundary : Boundary rest)
    (scanned : numberToken text = some (whole, suffix, [])) :
    numberToken (text ++ rest) = some (whole, suffix, rest) := by
  have nonempty : text ≠ [] := by
    rintro rfl
    simp [numberToken, signPart, integerPart] at scanned
  unfold numberToken at scanned
  split at scanned
  · cases scanned
  · rename_i integer afterWhole integerScanned
    have extended := integerPart_append boundary integerScanned
    simp only [Option.some.injEq, Prod.mk.injEq] at scanned
    obtain ⟨wholeEq, suffixEq, restEq⟩ := scanned
    simp only [numberToken, signPart_append rest nonempty, extended,
      fractionPart_append afterWhole boundary, exponentPart_append _ boundary,
      wholeEq, suffixEq, restEq, List.nil_append]

private theorem fractionPart_parts (text : List Char) :
    (fractionPart text).1 ++ (fractionPart text).2 = text := by
  match text with
  | [] => rfl
  | [head] => rfl
  | head :: next :: tail =>
      simp only [fractionPart]
      split_ifs <;> simp

private theorem exponentDigits_parts {text digits rest : List Char}
    (scanned : exponentDigits text = some (digits, rest)) :
    digits ++ rest = text := by
  match text with
  | [] => cases scanned
  | [head] =>
      simp only [exponentDigits] at scanned
      split_ifs at scanned
      cases scanned
      rfl
  | head :: next :: tail =>
      simp only [exponentDigits] at scanned
      split_ifs at scanned <;> cases scanned <;>
        simp [List.takeWhile_append_dropWhile]

private theorem exponentPart_parts (text : List Char) :
    (exponentPart text).1 ++ (exponentPart text).2 = text := by
  cases text with
  | nil => rfl
  | cons head tail =>
      simp only [exponentPart]
      split_ifs
      · split
        · rename_i digits rest scanned
          simp [exponentDigits_parts scanned]
        · rfl
      · rfl

private theorem integerPart_parts {text whole rest : List Char}
    (scanned : integerPart text = some (whole, rest)) :
    whole ++ rest = text := by
  cases text with
  | nil => cases scanned
  | cons head tail =>
      simp only [integerPart] at scanned
      split_ifs at scanned with zero digit
      · cases scanned
        simp [zero]
      · cases scanned
        simp [List.takeWhile_append_dropWhile]

private theorem signPart_parts (text : List Char) :
    (signPart text).1 ++ (signPart text).2 = text := by
  cases text with
  | nil => rfl
  | cons head tail =>
      simp only [signPart]
      split_ifs with minus
      · simp [minus]
      · rfl

/-- The parts of a number token are the text it was scanned from. -/
theorem numberToken_parts {text whole suffix rest : List Char}
    (scanned : numberToken text = some (whole, suffix, rest)) :
    whole ++ suffix ++ rest = text := by
  unfold numberToken at scanned
  split at scanned
  · cases scanned
  · rename_i integer afterWhole integerScanned
    simp only [Option.some.injEq, Prod.mk.injEq] at scanned
    obtain ⟨rfl, rfl, rfl⟩ := scanned
    calc
      _ = (signPart text).1 ++ (integer ++
            ((fractionPart afterWhole).1 ++
              ((exponentPart (fractionPart afterWhole).2).1 ++
                (exponentPart (fractionPart afterWhole).2).2))) := by
          simp only [List.append_assoc]
      _ = (signPart text).1 ++ (signPart text).2 := by
          rw [exponentPart_parts, fractionPart_parts,
            integerPart_parts integerScanned]
      _ = text := signPart_parts text

private theorem isDigit_eq (character : Char) :
    isDigit character = character.isDigit := by
  simp [isDigit, Char.isDigit, Char.le_def]

theorem toDigits_isDigit (magnitude : Nat) :
    ∀ character ∈ Nat.toDigits 10 magnitude, isDigit character = true := by
  intro character member
  rw [isDigit_eq]
  exact Nat.isDigit_of_mem_toDigits (by decide) (by decide) member

/-- No decimal numeral but `0` itself starts with a zero. -/
private theorem toDigits_shape (magnitude : Nat) :
    Nat.toDigits 10 magnitude = ['0'] ∨
      ∃ head tail, Nat.toDigits 10 magnitude = head :: tail ∧ head ≠ '0' := by
  induction magnitude using Nat.strongRecOn with
  | ind magnitude inductionHypothesis =>
      by_cases small : magnitude < 10
      · rw [Nat.toDigits_of_lt_base small]
        by_cases zero : magnitude = 0
        · exact Or.inl (by rw [zero]; rfl)
        · refine Or.inr ⟨_, _, rfl, ?_⟩
          have digits : ∀ digit < 10, digit ≠ 0 → Nat.digitChar digit ≠ '0' := by
            decide
          exact digits magnitude small zero
      · have large : 10 ≤ magnitude := by omega
        rw [Nat.toDigits_of_base_le (by decide) large]
        rcases inductionHypothesis (magnitude / 10) (by omega) with
          zero | ⟨head, tail, shape, nonzero⟩
        · exfalso
          have value := Nat.ofDigitChars_ten_toDigits (n := magnitude / 10)
          rw [zero] at value
          have : magnitude / 10 = 0 := by
            rw [← value]
            decide
          omega
        · exact Or.inr ⟨head, _, by rw [shape]; rfl, nonzero⟩

private theorem integerPart_toDigits (magnitude : Nat) :
    integerPart (Nat.toDigits 10 magnitude) =
      some (Nat.toDigits 10 magnitude, []) := by
  rcases toDigits_shape magnitude with zero | ⟨head, tail, shape, nonzero⟩
  · rw [zero]
    rfl
  · have digits := toDigits_isDigit magnitude
    rw [shape] at digits ⊢
    have headDigit : isDigit head = true := digits head (List.mem_cons_self ..)
    have tailDigits : ∀ character ∈ tail, isDigit character = true :=
      fun character member => digits character (List.mem_cons_of_mem _ member)
    have taken : tail.takeWhile isDigit = tail :=
      List.takeWhile_eq_self_iff.mpr tailDigits
    have dropped : tail.dropWhile isDigit = [] :=
      List.dropWhile_eq_nil_iff.mpr tailDigits
    simp only [integerPart, if_neg nonzero, headDigit, if_true, taken, dropped]

private theorem signPart_toDigits (magnitude : Nat) :
    signPart (Nat.toDigits 10 magnitude) =
      ([], Nat.toDigits 10 magnitude) := by
  have digits := toDigits_isDigit magnitude
  cases shape : Nat.toDigits 10 magnitude with
  | nil =>
      rfl
  | cons head tail =>
      rw [shape] at digits
      have headDigit : isDigit head = true := digits head (List.mem_cons_self ..)
      have notMinus : head ≠ '-' := by
        rintro rfl
        exact absurd headDigit (by decide)
      simp [signPart, notMinus]

theorem numberToken_encodeInt (value : Int) :
    numberToken (encodeInt value) = some (encodeInt value, [], []) := by
  cases value with
  | ofNat magnitude =>
      simp only [encodeInt, numberToken, signPart_toDigits,
        integerPart_toDigits]
      rfl
  | negSucc magnitude =>
      simp only [encodeInt, numberToken, signPart, if_true,
        integerPart_toDigits]
      rfl

theorem intOfText_encodeInt (value : Int) :
    intOfText (encodeInt value) = value := by
  cases value with
  | ofNat magnitude =>
      simp [encodeInt, intOfText, signPart_toDigits,
        Nat.ofDigitChars_ten_toDigits]
  | negSucc magnitude =>
      simp [encodeInt, intOfText, signPart, Nat.ofDigitChars_ten_toDigits,
        Int.negSucc_eq]

theorem numberToken_head {text whole suffix rest : List Char}
    (scanned : numberToken text = some (whole, suffix, rest)) :
    ∃ head tail, text = head :: tail ∧
      (head = '-' ∧ (∃ next others, tail = next :: others ∧
        isDigit next = true) ∨ isDigit head = true) := by
  have integerHead : ∀ {text : List Char} (scanned : List Char),
      integerPart text = some (scanned, rest) ∨ integerPart text ≠ none →
        ∃ head tail, text = head :: tail ∧ isDigit head = true := by
    intro text scanned found
    cases text with
    | nil =>
        simp [integerPart] at found
    | cons head tail =>
        refine ⟨head, tail, rfl, ?_⟩
        by_cases zero : head = '0'
        · rw [zero]
          decide
        · by_contra notDigit
          simp [integerPart, zero, notDigit] at found
  have found : integerPart (signPart text).2 ≠ none := by
    intro missing
    simp [numberToken, missing] at scanned
  obtain ⟨next, others, unsigned, digit⟩ :=
    integerHead [] (Or.inr found)
  cases text with
  | nil =>
      simp [signPart] at unsigned
  | cons head tail =>
      refine ⟨head, tail, rfl, ?_⟩
      by_cases minus : head = '-'
      · simp only [signPart, minus, if_true] at unsigned
        exact Or.inl ⟨minus, next, others, unsigned, digit⟩
      · simp only [signPart, minus, if_false, List.cons.injEq] at unsigned
        exact Or.inr (unsigned.1 ▸ digit)

/-- A text that starts with a number token goes to the number decoder. -/
theorem decodeValue_number (round : String → String) (fuel : Nat)
    {text whole suffix rest : List Char}
    (scanned : numberToken text = some (whole, suffix, rest)) :
    decodeValue round (fuel + 1) text = decodeNumber round text := by
  obtain ⟨head, tail, rfl, headShape⟩ := numberToken_head scanned
  have different : ∀ other, isDigit other = false → other ≠ '-' →
      head ≠ other := by
    rintro other notDigit notMinus rfl
    rcases headShape with ⟨minus, _⟩ | digit
    · exact notMinus minus
    · rw [digit] at notDigit
      cases notDigit
  have notInfinity :
      ¬ (head = '-' ∧
        ['I', 'n', 'f', 'i', 'n', 'i', 't', 'y'].isPrefixOf tail = true) := by
    rintro ⟨rfl, infinite⟩
    rcases headShape with ⟨_, next, others, rfl, digit⟩ | digit
    · simp only [List.isPrefixOf, Bool.and_eq_true, beq_iff_eq] at infinite
      rw [← infinite.1] at digit
      exact absurd digit (by decide)
    · exact absurd digit (by decide)
  simp only [decodeValue, if_neg notInfinity,
    if_neg (different '"' (by decide) (by decide)),
    if_neg (different '{' (by decide) (by decide)),
    if_neg (different '[' (by decide) (by decide)),
    if_neg (different 'n' (by decide) (by decide)),
    if_neg (different 't' (by decide) (by decide)),
    if_neg (different 'f' (by decide) (by decide)),
    if_neg (different 'N' (by decide) (by decide)),
    if_neg (different 'I' (by decide) (by decide))]

/-! ## Documents -/

/-- The text is not empty and opens a value: neither a blank nor a bracket
that would close the surrounding list. -/
def Opens (text : List Char) : Prop :=
  ∃ head tail, text = head :: tail ∧ isBlank head = false ∧ head ≠ ']'

theorem Opens.skipBlanks {text : List Char} (opens : Opens text)
    (rest : List Char) : skipBlanks (text ++ rest) = text ++ rest := by
  obtain ⟨head, tail, rfl, notBlank, _⟩ := opens
  simp [Json.skipBlanks, notBlank]

private theorem opens_of_digit {head : Char} {tail : List Char}
    (shape : head = '-' ∨ isDigit head = true) : Opens (head :: tail) := by
  refine ⟨head, tail, rfl, ?_, ?_⟩
  · rcases shape with rfl | digit
    · decide
    · by_contra blank
      simp only [isBlank, Bool.not_eq_false, Bool.or_eq_true,
        decide_eq_true_eq] at blank
      rcases blank with ((rfl | rfl) | rfl) | rfl <;>
        exact absurd digit (by decide)
  · rintro rfl
    rcases shape with minus | digit
    · exact absurd minus (by decide)
    · exact absurd digit (by decide)

private theorem opens_of_numberToken {text whole suffix rest : List Char}
    (scanned : numberToken text = some (whole, suffix, rest)) :
    Opens text := by
  obtain ⟨head, tail, rfl, shape⟩ := numberToken_head scanned
  exact opens_of_digit (shape.imp And.left id)

theorem opens_encode {round : String → String} {document : Json}
    (canonical : Canonical round document) : Opens (encode document) := by
  cases canonical with
  | null =>
      exact ⟨'n', _, rfl, by decide, by decide⟩
  | bool value =>
      cases value with
      | true => exact ⟨'t', _, rfl, by decide, by decide⟩
      | false => exact ⟨'f', _, rfl, by decide, by decide⟩
  | int value =>
      exact opens_of_numberToken (numberToken_encodeInt value)
  | float scanned =>
      exact opens_of_numberToken scanned
  | string text =>
      exact ⟨'"', _, rfl, by decide, by decide⟩
  | @array elements _ =>
      cases elements with
      | nil => exact ⟨'[', _, rfl, by decide, by decide⟩
      | cons head tail => exact ⟨'[', _, rfl, by decide, by decide⟩
  | @object fields _ _ =>
      cases fields with
      | nil => exact ⟨'{', _, rfl, by decide, by decide⟩
      | cons head tail => exact ⟨'{', _, rfl, by decide, by decide⟩

private theorem boundary_encodeElements (tail : List Json)
    (rest : List Char) : Boundary (encodeElements tail ++ rest) := by
  cases tail with
  | nil => exact boundary_cons (by decide)
  | cons head tail => exact boundary_cons (by decide)

private theorem boundary_encodeMembers (tail : List (String × Json))
    (rest : List Char) : Boundary (encodeMembers tail ++ rest) := by
  cases tail with
  | nil => exact boundary_cons (by decide)
  | cons head tail => exact boundary_cons (by decide)

private theorem length_encodeElements (tail : List Json) :
    tail.length < (encodeElements tail).length := by
  induction tail with
  | nil =>
      simp [encodeElements]
  | cons head tail inductionHypothesis =>
      simp only [encodeElements, List.length_cons, List.length_append]
      omega

private theorem length_encodeMembers (tail : List (String × Json)) :
    tail.length < (encodeMembers tail).length := by
  induction tail with
  | nil =>
      simp [encodeMembers]
  | cons head tail inductionHypothesis =>
      simp only [encodeMembers, List.length_cons, List.length_append]
      omega

/-- `value` decodes `document` in front of every boundary. -/
def DecodesTo (value : List Char → Option (Json × List Char))
    (document : Json) : Prop :=
  Opens (encode document) ∧
    ∀ rest, Boundary rest →
      value (encode document ++ rest) = some (document, rest)

private theorem decodeElements_encode
    {value : List Char → Option (Json × List Char)}
    {head : Json} {tail : List Json}
    (decodes : ∀ element ∈ head :: tail, DecodesTo value element)
    {fuel : Nat} (enough : tail.length < fuel) (rest : List Char) :
    decodeElements value fuel (encode head ++ (encodeElements tail ++ rest)) =
      some (head :: tail, rest) := by
  induction tail generalizing head fuel with
  | nil =>
      obtain ⟨fuel, rfl⟩ : ∃ less, fuel = less + 1 := ⟨fuel - 1, by omega⟩
      have decoded := (decodes head (List.mem_cons_self ..)).2
        (']' :: rest) (boundary_cons (by decide))
      simp [encodeElements, decodeElements, decoded, skipBlanks, isBlank]
  | cons next tail inductionHypothesis =>
      obtain ⟨fuel, rfl⟩ : ∃ less, fuel = less + 1 := ⟨fuel - 1, by omega⟩
      have decoded := (decodes head (List.mem_cons_self ..)).2
        (encodeElements (next :: tail) ++ rest) (boundary_encodeElements _ _)
      have inner := @inductionHypothesis next
        (fun element member => decodes element (List.mem_cons_of_mem _ member))
        fuel (by simpa using enough)
      have opens := (decodes next (by simp)).1
      have comma : skipBlanks (encodeElements (next :: tail) ++ rest) =
          ',' :: (encode next ++ (encodeElements tail ++ rest)) := by
        simp [encodeElements, skipBlanks, isBlank]
      simp only [decodeElements, decoded, comma, opens.skipBlanks, inner,
        if_neg (by decide : ¬ ',' = ']'), if_true, Option.map_some]

private theorem decodeName_encode (name : String) {text : List Char}
    (opens : Opens text) (rest : List Char) :
    decodeName (encodeString name.toList ++ ':' :: (text ++ rest)) =
      some (name, text ++ rest) := by
  have decoded := decodeString_encodeString name (':' :: (text ++ rest))
  have colon : skipBlanks (':' :: (text ++ rest)) = ':' :: (text ++ rest) := by
    simp [skipBlanks, isBlank]
  simp only [encodeString, List.cons_append, List.append_assoc,
    List.nil_append, decodeName, if_true, decoded, colon, opens.skipBlanks]

private theorem decodeMembers_encode
    {value : List Char → Option (Json × List Char)}
    {name : String} {member : Json} {tail : List (String × Json)}
    (decodes : ∀ field ∈ (name, member) :: tail, DecodesTo value field.2)
    {fuel : Nat} (enough : tail.length < fuel) (rest : List Char) :
    decodeMembers value fuel
        (encodeString name.toList ++
          ':' :: (encode member ++ (encodeMembers tail ++ rest))) =
      some ((name, member) :: tail, rest) := by
  induction tail generalizing name member fuel with
  | nil =>
      obtain ⟨fuel, rfl⟩ : ∃ less, fuel = less + 1 := ⟨fuel - 1, by omega⟩
      obtain ⟨opens, decoded⟩ := decodes (name, member) (List.mem_cons_self ..)
      have close := decoded ('}' :: rest) (boundary_cons (by decide))
      have brace : skipBlanks ('}' :: rest) = '}' :: rest := by
        simp [skipBlanks, isBlank]
      simp only [encodeMembers, List.cons_append, List.nil_append,
        decodeMembers, decodeName_encode name opens, close, brace, if_true]
  | cons next tail inductionHypothesis =>
      obtain ⟨nextName, nextMember⟩ := next
      obtain ⟨fuel, rfl⟩ : ∃ less, fuel = less + 1 := ⟨fuel - 1, by omega⟩
      obtain ⟨opens, decoded⟩ := decodes (name, member) (List.mem_cons_self ..)
      have inner := @inductionHypothesis nextName nextMember
        (fun field present => decodes field (List.mem_cons_of_mem _ present))
        fuel (by simpa using enough)
      have continued := decoded
        (encodeMembers ((nextName, nextMember) :: tail) ++ rest)
        (boundary_encodeMembers _ _)
      have nameOpens : Opens (encodeString nextName.toList) :=
        ⟨'"', _, rfl, by decide, by decide⟩
      have comma :
          skipBlanks (encodeMembers ((nextName, nextMember) :: tail) ++ rest) =
            ',' :: (encodeString nextName.toList ++
              ':' :: (encode nextMember ++ (encodeMembers tail ++ rest))) := by
        simp [encodeMembers, skipBlanks, isBlank]
      simp only [decodeMembers, decodeName_encode name opens, continued, comma,
        nameOpens.skipBlanks, inner, if_neg (by decide : ¬ ',' = '}'),
        if_true, Option.map_some]

private theorem decodeArray_encode
    {value : List Char → Option (Json × List Char)}
    {elements : List Json}
    (decodes : ∀ element ∈ elements, DecodesTo value element)
    (rest : List Char) {body : List Char}
    (shape : encode (.array elements) = '[' :: body) :
    decodeArray value (body ++ rest) = some (.array elements, rest) := by
  cases elements with
  | nil =>
      simp only [encode, List.cons.injEq, true_and] at shape
      subst shape
      simp [decodeArray, skipBlanks, isBlank]
  | cons head tail =>
      simp only [encode, List.cons.injEq, true_and] at shape
      subst shape
      have opens := (decodes head (List.mem_cons_self ..)).1
      have long : tail.length <
          (encode head ++ (encodeElements tail ++ rest)).length := by
        have := length_encodeElements tail
        simp only [List.length_append]
        omega
      have decoded := decodeElements_encode decodes long rest
      rw [List.append_assoc, decodeArray, opens.skipBlanks]
      obtain ⟨mark, others, equality, _, notClose⟩ := opens
      simp only [equality, List.cons_append, if_neg notClose] at decoded ⊢
      rw [decoded]
      rfl

private theorem decodeObject_encode
    {value : List Char → Option (Json × List Char)}
    {fields : List (String × Json)} (sorted : KeysSorted fields)
    (decodes : ∀ field ∈ fields, DecodesTo value field.2)
    (rest : List Char) {body : List Char}
    (shape : encode (.object fields) = '{' :: body) :
    decodeObject value (body ++ rest) = some (.object fields, rest) := by
  cases fields with
  | nil =>
      simp only [encode, List.cons.injEq, true_and] at shape
      subst shape
      simp [decodeObject, skipBlanks, isBlank]
  | cons head tail =>
      obtain ⟨name, member⟩ := head
      simp only [encode, List.cons.injEq, true_and] at shape
      subst shape
      have long : tail.length <
          (encodeString name.toList ++
            ':' :: (encode member ++ (encodeMembers tail ++ rest))).length := by
        have := length_encodeMembers tail
        simp only [List.length_append, List.length_cons]
        omega
      have decoded := decodeMembers_encode decodes long rest
      have rebuilt : dict ((name, member) :: tail) =
          .object ((name, member) :: tail) := by
        rw [dict, insertFields_of_keysSorted (by simpa using sorted)]
        simp
      have quote : skipBlanks
          ('"' :: (name.toList.flatMap escapeChar ++ '"' ::
            ':' :: (encode member ++ (encodeMembers tail ++ rest)))) =
          '"' :: (name.toList.flatMap escapeChar ++ '"' ::
            ':' :: (encode member ++ (encodeMembers tail ++ rest))) := by
        simp [skipBlanks, isBlank]
      simp only [encodeString, List.cons_append, List.append_assoc,
        List.nil_append] at decoded ⊢
      simp only [decodeObject, quote, if_neg (by decide : ¬ '"' = '}'),
        decoded, Option.map_some, rebuilt]

private theorem length_le_encodeElements {tail : List Json} {element : Json}
    (member : element ∈ tail) :
    (encode element).length ≤ (encodeElements tail).length := by
  induction tail with
  | nil =>
      cases member
  | cons head tail inductionHypothesis =>
      simp only [encodeElements, List.length_cons, List.length_append]
      rcases List.mem_cons.mp member with rfl | later
      · omega
      · have := inductionHypothesis later
        omega

private theorem length_element_lt {elements : List Json} {element : Json}
    (member : element ∈ elements) :
    (encode element).length < (encode (.array elements)).length := by
  cases elements with
  | nil =>
      cases member
  | cons head tail =>
      simp only [encode, List.length_cons, List.length_append]
      rcases List.mem_cons.mp member with rfl | later
      · omega
      · have := length_le_encodeElements later
        omega

private theorem length_le_encodeMembers {tail : List (String × Json)}
    {field : String × Json} (member : field ∈ tail) :
    (encode field.2).length ≤ (encodeMembers tail).length := by
  induction tail with
  | nil =>
      cases member
  | cons head tail inductionHypothesis =>
      obtain ⟨name, value⟩ := head
      simp only [encodeMembers, List.length_cons, List.length_append]
      rcases List.mem_cons.mp member with rfl | later
      · dsimp only
        omega
      · have := inductionHypothesis later
        omega

private theorem length_field_lt {fields : List (String × Json)}
    {field : String × Json} (member : field ∈ fields) :
    (encode field.2).length < (encode (.object fields)).length := by
  cases fields with
  | nil =>
      cases member
  | cons head tail =>
      obtain ⟨name, value⟩ := head
      simp only [encode, List.length_cons, List.length_append]
      rcases List.mem_cons.mp member with rfl | later
      · dsimp only
        omega
      · have := length_le_encodeMembers later
        omega

/-- Every document decodes to itself in front of a boundary, given fuel for
the length of its text. -/
theorem decodeValue_encode {round : String → String} {document : Json}
    (canonical : Canonical round document) :
    ∀ fuel, (encode document).length ≤ fuel →
      DecodesTo (decodeValue round fuel) document := by
  induction document using Json.inductionOn with
  | null =>
      intro fuel enough
      obtain ⟨fuel, rfl⟩ : ∃ less, fuel = less + 1 :=
        ⟨fuel - 1, by simp [encode] at enough; omega⟩
      exact ⟨opens_encode canonical, fun rest _ => by
        simp [encode, decodeValue, dropLiteral]⟩
  | bool value =>
      intro fuel enough
      obtain ⟨fuel, rfl⟩ : ∃ less, fuel = less + 1 :=
        ⟨fuel - 1, by cases value <;> simp [encode] at enough <;> omega⟩
      refine ⟨opens_encode canonical, fun rest _ => ?_⟩
      cases value with
      | true => simp [encode, decodeValue, dropLiteral]
      | false => simp [encode, decodeValue, dropLiteral]
  | int value =>
      intro fuel enough
      have opens := opens_encode canonical
      refine ⟨opens, fun rest boundary => ?_⟩
      obtain ⟨fuel, rfl⟩ : ∃ less, fuel = less + 1 := by
        obtain ⟨head, tail, equality, _⟩ := opens
        rw [equality] at enough
        exact ⟨fuel - 1, by simp at enough; omega⟩
      have scanned := numberToken_append boundary (numberToken_encodeInt value)
      rw [encode, decodeValue_number round fuel scanned, decodeNumber, scanned]
      simp [intOfText_encodeInt]
  | float text =>
      intro fuel enough
      have opens := opens_encode canonical
      refine ⟨opens, fun rest boundary => ?_⟩
      obtain ⟨fuel, rfl⟩ : ∃ less, fuel = less + 1 := by
        obtain ⟨head, tail, equality, _⟩ := opens
        rw [equality] at enough
        exact ⟨fuel - 1, by simp at enough; omega⟩
      cases canonical with
      | float tokenShape fractional fixed =>
          have scanned := numberToken_append boundary tokenShape
          have parts := numberToken_parts tokenShape
          rw [encode, decodeValue_number round fuel scanned, decodeNumber,
            scanned]
          simp only [if_neg fractional, List.append_nil] at parts ⊢
          rw [parts, String.ofList_toList, fixed]
  | nonFinite literal =>
      cases canonical
  | string text =>
      intro fuel enough
      obtain ⟨fuel, rfl⟩ : ∃ less, fuel = less + 1 :=
        ⟨fuel - 1, by simp [encode, encodeString] at enough; omega⟩
      refine ⟨opens_encode canonical, fun rest _ => ?_⟩
      have decoded := decodeString_encodeString text rest
      simp [encode, encodeString, decodeValue, decoded]
  | array elements inductionHypothesis =>
      intro fuel enough
      refine ⟨opens_encode canonical, fun rest _ => ?_⟩
      obtain ⟨body, shape⟩ : ∃ body, encode (.array elements) = '[' :: body := by
        cases elements with
        | nil => exact ⟨_, rfl⟩
        | cons head tail => exact ⟨_, rfl⟩
      obtain ⟨fuel, rfl⟩ : ∃ less, fuel = less + 1 :=
        ⟨fuel - 1, by rw [shape] at enough; simp at enough; omega⟩
      cases canonical with
      | array members =>
          have decodes : ∀ element ∈ elements,
              DecodesTo (decodeValue round fuel) element := by
            intro element member
            refine inductionHypothesis element member
              (members element member) fuel ?_
            have shorter := length_element_lt member
            omega
          have decoded := decodeArray_encode decodes rest shape
          rw [shape, List.cons_append]
          simp only [decodeValue, if_neg (by decide : ¬ '[' = '"'),
            if_neg (by decide : ¬ '[' = '{'), if_true, decoded]
  | object fields inductionHypothesis =>
      intro fuel enough
      refine ⟨opens_encode canonical, fun rest _ => ?_⟩
      obtain ⟨body, shape⟩ : ∃ body, encode (.object fields) = '{' :: body := by
        cases fields with
        | nil => exact ⟨_, rfl⟩
        | cons head tail => exact ⟨_, rfl⟩
      obtain ⟨fuel, rfl⟩ : ∃ less, fuel = less + 1 :=
        ⟨fuel - 1, by rw [shape] at enough; simp at enough; omega⟩
      cases canonical with
      | object sorted members =>
          have decodes : ∀ field ∈ fields,
              DecodesTo (decodeValue round fuel) field.2 := by
            intro field member
            refine inductionHypothesis field member
              (members field member) fuel ?_
            have shorter := length_field_lt member
            omega
          have decoded := decodeObject_encode sorted decodes rest shape
          rw [shape, List.cons_append]
          simp only [decodeValue, if_neg (by decide : ¬ '{' = '"'), if_true,
            decoded]

/-- The decoder inverts the encoder on canonical documents. -/
theorem decode_encode {round : String → String} {document : Json}
    (canonical : Canonical round document) :
    decode round (encode document) = some document := by
  have decodes := decodeValue_encode canonical
    ((encode document).length + 1) (by omega)
  have opened := decodes.1.skipBlanks []
  have decoded := decodes.2 [] boundary_nil
  rw [List.append_nil] at opened decoded
  simp only [decode, opened, decoded]
  rfl

end Foundation.Json
