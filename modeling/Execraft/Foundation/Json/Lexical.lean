import Execraft.Foundation.Json.RoundTrip
import Mathlib.Data.Bool.AllAny

/-!
# What an accepted text looks like

A scanner follows the quotes and the brackets of a text.  Whatever the decoder
accepts leaves the scanner outside quotes at the depth where it began, and the
letters of the decoded strings are letters that stood inside quotes.

Started on the wrong side of a quote, the scanner reads the text inside out:
`scan_opposite` says that both readings can only succeed on a text without
escapes.
-/

namespace Foundation.Json

inductive Quoting where
  | outside
  | inside
  | escaped
  deriving DecidableEq, Repr

structure Cursor where
  quoting : Quoting
  depth : Nat
  deriving DecidableEq, Repr

/-- One character; `none` on a bracket that closes nothing and on an escape
outside quotes. -/
def Cursor.next : Cursor → Char → Option Cursor
  | ⟨.outside, depth⟩, character =>
      if character = '"' then some ⟨.inside, depth⟩
      else if character = '\\' then none
      else if character = '{' ∨ character = '[' then some ⟨.outside, depth + 1⟩
      else if character = '}' ∨ character = ']' then
        if depth = 0 then none else some ⟨.outside, depth - 1⟩
      else some ⟨.outside, depth⟩
  | ⟨.inside, depth⟩, character =>
      if character = '"' then some ⟨.outside, depth⟩
      else if character = '\\' then some ⟨.escaped, depth⟩
      else some ⟨.inside, depth⟩
  | ⟨.escaped, depth⟩, _ => some ⟨.inside, depth⟩

def scan : Cursor → List Char → Option Cursor
  | cursor, [] => some cursor
  | cursor, head :: tail =>
      match cursor.next head with
      | none => none
      | some cursor => scan cursor tail

/-- The characters read inside quotes. -/
def quoted : Quoting → List Char → List Char
  | _, [] => []
  | .outside, head :: tail =>
      if head = '"' then quoted .inside tail else quoted .outside tail
  | .inside, head :: tail =>
      if head = '"' then quoted .outside tail
      else if head = '\\' then head :: quoted .escaped tail
      else head :: quoted .inside tail
  | .escaped, head :: tail => head :: quoted .inside tail

/-- The characters read outside quotes. -/
def bare : Quoting → List Char → List Char
  | _, [] => []
  | .outside, head :: tail =>
      if head = '"' then bare .inside tail else head :: bare .outside tail
  | .inside, head :: tail =>
      if head = '"' then bare .outside tail
      else if head = '\\' then bare .escaped tail
      else bare .inside tail
  | .escaped, _ :: tail => bare .inside tail

theorem scan_append (cursor : Cursor) (front back : List Char) :
    scan cursor (front ++ back) =
      (scan cursor front).bind fun middle => scan middle back := by
  induction front generalizing cursor with
  | nil =>
      rfl
  | cons head tail inductionHypothesis =>
      simp only [List.cons_append, scan]
      cases cursor.next head with
      | none => rfl
      | some next => exact inductionHypothesis next

theorem scan_append_of_eq {cursor middle : Cursor} {front : List Char}
    (scanned : scan cursor front = some middle) (back : List Char) :
    scan cursor (front ++ back) = scan middle back := by
  rw [scan_append, scanned]
  rfl

/-- The front of a text that scans has a cursor of its own. -/
theorem scan_front {cursor final : Cursor} {front back : List Char}
    (scanned : scan cursor (front ++ back) = some final) :
    ∃ middle, scan cursor front = some middle ∧
      scan middle back = some final := by
  rw [scan_append] at scanned
  exact Option.bind_eq_some_iff.mp scanned

/-- Surrounding brackets do not disturb a scan. -/
theorem scan_deepen {cursor final : Cursor} {text : List Char}
    (scanned : scan cursor text = some final) (extra : Nat) :
    scan ⟨cursor.quoting, cursor.depth + extra⟩ text =
      some ⟨final.quoting, final.depth + extra⟩ := by
  induction text generalizing cursor with
  | nil =>
      cases scanned
      rfl
  | cons head tail inductionHypothesis =>
      have step : ∀ next, cursor.next head = some next →
          (Cursor.next ⟨cursor.quoting, cursor.depth + extra⟩ head) =
            some ⟨next.quoting, next.depth + extra⟩ := by
        intro next moved
        obtain ⟨quoting, depth⟩ := cursor
        cases quoting with
        | outside =>
            simp only [Cursor.next] at moved ⊢
            split_ifs at moved ⊢ <;> cases moved
            · rfl
            · simp only [Option.some.injEq, Cursor.mk.injEq, true_and]
              omega
            · omega
            · simp only [Option.some.injEq, Cursor.mk.injEq, true_and]
              omega
            · rfl
        | inside =>
            simp only [Cursor.next] at moved ⊢
            split_ifs at moved ⊢ <;> cases moved <;> rfl
        | escaped =>
            simp only [Cursor.next] at moved ⊢
            cases moved
            rfl
      simp only [scan] at scanned ⊢
      cases moved : cursor.next head with
      | none =>
          rw [moved] at scanned
          cases scanned
      | some next =>
          rw [moved] at scanned
          rw [step next moved]
          exact inductionHypothesis scanned

theorem quoted_append {cursor middle : Cursor} {front : List Char}
    (scanned : scan cursor front = some middle) (back : List Char) :
    quoted cursor.quoting (front ++ back) =
      quoted cursor.quoting front ++ quoted middle.quoting back := by
  induction front generalizing cursor with
  | nil =>
      cases scanned
      simp [quoted]
  | cons head tail inductionHypothesis =>
      obtain ⟨quoting, depth⟩ := cursor
      simp only [scan] at scanned
      cases quoting with
      | outside =>
          simp only [Cursor.next] at scanned
          simp only [List.cons_append, quoted]
          split_ifs at scanned ⊢
          all_goals first
            | cases scanned
            | exact inductionHypothesis scanned
      | inside =>
          simp only [Cursor.next] at scanned
          simp only [List.cons_append, quoted]
          split_ifs at scanned ⊢
          · exact inductionHypothesis scanned
          · exact congrArg _ (inductionHypothesis scanned)
          · exact congrArg _ (inductionHypothesis scanned)
      | escaped =>
          have step := inductionHypothesis scanned
          simp only [List.cons_append, quoted, step]

theorem bare_append {cursor middle : Cursor} {front : List Char}
    (scanned : scan cursor front = some middle) (back : List Char) :
    bare cursor.quoting (front ++ back) =
      bare cursor.quoting front ++ bare middle.quoting back := by
  induction front generalizing cursor with
  | nil =>
      cases scanned
      simp [bare]
  | cons head tail inductionHypothesis =>
      obtain ⟨quoting, depth⟩ := cursor
      simp only [scan] at scanned
      cases quoting with
      | outside =>
          simp only [Cursor.next] at scanned
          simp only [List.cons_append, bare]
          split_ifs at scanned ⊢
          all_goals first
            | cases scanned
            | exact inductionHypothesis scanned
            | exact congrArg _ (inductionHypothesis scanned)
      | inside =>
          simp only [Cursor.next] at scanned
          simp only [List.cons_append, bare]
          split_ifs at scanned ⊢
          all_goals exact inductionHypothesis scanned
      | escaped =>
          have step := inductionHypothesis scanned
          simp only [List.cons_append, bare, step]

/-! ## Reading inside out -/

private theorem scan_opposite_pair (text : List Char) :
    (∀ {depth depth' : Nat} {left right : Cursor},
      scan ⟨.outside, depth⟩ text = some left →
      scan ⟨.inside, depth'⟩ text = some right →
      '\\' ∉ text ∧ quoted .outside text = bare .inside text ∧
        (left.quoting = .outside ∧ right.quoting = .inside ∨
          left.quoting = .inside ∧ right.quoting = .outside)) ∧
    (∀ {depth depth' : Nat} {left right : Cursor},
      scan ⟨.inside, depth⟩ text = some left →
      scan ⟨.outside, depth'⟩ text = some right →
      '\\' ∉ text ∧ quoted .inside text = bare .outside text ∧
        (left.quoting = .outside ∧ right.quoting = .inside ∨
          left.quoting = .inside ∧ right.quoting = .outside)) := by
  induction text with
  | nil =>
      constructor
      · intro depth depth' left right leftScan rightScan
        cases leftScan
        cases rightScan
        simp [quoted, bare]
      · intro depth depth' left right leftScan rightScan
        cases leftScan
        cases rightScan
        simp [quoted, bare]
  | cons head tail inductionHypothesis =>
      obtain ⟨outsideFirst, insideFirst⟩ := inductionHypothesis
      constructor
      · intro depth depth' left right leftScan rightScan
        by_cases quote : head = '"'
        · subst quote
          simp only [scan, Cursor.next, if_true] at leftScan rightScan
          obtain ⟨plain, swapped, opposite⟩ := insideFirst leftScan rightScan
          exact ⟨by simpa using plain, by simpa [quoted, bare] using swapped,
            opposite⟩
        · by_cases backslash : head = '\\'
          · subst backslash
            simp [scan, Cursor.next] at leftScan
          · have inner : ∃ depth, scan ⟨.outside, depth⟩ tail = some left := by
              simp only [scan, Cursor.next, if_neg quote, if_neg backslash]
                at leftScan
              split_ifs at leftScan
              · exact ⟨_, leftScan⟩
              · exact ⟨_, leftScan⟩
              · exact ⟨_, leftScan⟩
            simp only [scan, Cursor.next, if_neg quote, if_neg backslash]
              at rightScan
            obtain ⟨depth, leftScan⟩ := inner
            obtain ⟨plain, swapped, opposite⟩ :=
              outsideFirst leftScan rightScan
            refine ⟨?_, ?_, opposite⟩
            · simpa [Ne.symm backslash] using plain
            · simpa [quoted, bare, quote, backslash] using swapped
      · intro depth depth' left right leftScan rightScan
        by_cases quote : head = '"'
        · subst quote
          simp only [scan, Cursor.next, if_true] at leftScan rightScan
          obtain ⟨plain, swapped, opposite⟩ := outsideFirst leftScan rightScan
          exact ⟨by simpa using plain, by simpa [quoted, bare] using swapped,
            opposite⟩
        · by_cases backslash : head = '\\'
          · subst backslash
            simp [scan, Cursor.next] at rightScan
          · have inner : ∃ depth, scan ⟨.outside, depth⟩ tail = some right := by
              simp only [scan, Cursor.next, if_neg quote, if_neg backslash]
                at rightScan
              split_ifs at rightScan
              · exact ⟨_, rightScan⟩
              · exact ⟨_, rightScan⟩
              · exact ⟨_, rightScan⟩
            simp only [scan, Cursor.next, if_neg quote, if_neg backslash]
              at leftScan
            obtain ⟨depth, rightScan⟩ := inner
            obtain ⟨plain, swapped, opposite⟩ :=
              insideFirst leftScan rightScan
            refine ⟨?_, ?_, opposite⟩
            · simpa [Ne.symm backslash] using plain
            · simpa [quoted, bare, quote, backslash] using swapped

/-- Two scans of one text from opposite sides of a quote stay on opposite
sides, see no escape, and exchange quoted and bare characters. -/
theorem scan_opposite {text : List Char} {depth depth' : Nat}
    {left right : Cursor}
    (leftScan : scan ⟨.outside, depth⟩ text = some left)
    (rightScan : scan ⟨.inside, depth'⟩ text = some right) :
    '\\' ∉ text ∧ quoted .outside text = bare .inside text ∧
      (left.quoting = .outside ∧ right.quoting = .inside ∨
        left.quoting = .inside ∧ right.quoting = .outside) :=
  (scan_opposite_pair text).1 leftScan rightScan

/-! ## Accepted texts -/

/-- The characters that occur in a string or a member name of a document. -/
inductive Mentions (character : Char) : Json → Prop
  | string {text : String} :
      character ∈ text.toList → Mentions character (.string text)
  | element {elements : List Json} {element : Json} :
      element ∈ elements → Mentions character element →
      Mentions character (.array elements)
  | name {fields : List (String × Json)} {field : String × Json} :
      field ∈ fields → character ∈ field.1.toList →
      Mentions character (.object fields)
  | member {fields : List (String × Json)} {field : String × Json} :
      field ∈ fields → Mentions character field.2 →
      Mentions character (.object fields)

/-- The characters of blanks, numbers, punctuation and literals. -/
def isBareChar (character : Char) : Bool :=
  isBlank character || isNumberChar character ||
    ['{', '}', '[', ']', ',', ':', 'n', 'u', 'l', 't', 'r', 'e', 'f', 'a', 's',
      'N', 'I', 'i', 'y'].contains character

/-- A text that leaves the scanner where it was. -/
def Balanced (text : List Char) : Prop :=
  ∀ depth, scan ⟨.outside, depth⟩ text = some ⟨.outside, depth⟩

/-- A balanced text whose quoted part supplies `letters`. -/
structure Lexes (text : List Char) (letters : Char → Prop) : Prop where
  balanced : Balanced text
  bareChars : ∀ character ∈ bare .outside text, isBareChar character = true
  supplied : '\\' ∉ quoted .outside text →
    ∀ character, letters character → character ∈ quoted .outside text

theorem Lexes.mono {text : List Char} {letters fewer : Char → Prop}
    (lexes : Lexes text letters)
    (included : ∀ character, fewer character → letters character) :
    Lexes text fewer :=
  ⟨lexes.balanced, lexes.bareChars, fun plain character letter =>
    lexes.supplied plain character (included character letter)⟩

theorem Lexes.append {front back : List Char} {left right : Char → Prop}
    (first : Lexes front left) (second : Lexes back right) :
    Lexes (front ++ back) (fun character => left character ∨ right character) := by
  have quotedSplit := quoted_append (first.balanced 0) back
  have bareSplit := bare_append (first.balanced 0) back
  simp only at quotedSplit bareSplit
  constructor
  · intro depth
    rw [scan_append_of_eq (first.balanced depth)]
    exact second.balanced depth
  · intro character member
    rw [bareSplit] at member
    rcases List.mem_append.mp member with early | late
    · exact first.bareChars character early
    · exact second.bareChars character late
  · intro plain character letter
    rw [quotedSplit] at plain ⊢
    simp only [List.mem_append, not_or] at plain ⊢
    rcases letter with early | late
    · exact Or.inl (first.supplied plain.1 character early)
    · exact Or.inr (second.supplied plain.2 character late)

/-- A text with neither quotes nor brackets nor escapes. -/
theorem Lexes.plain {text : List Char}
    (bareOnly : ∀ character ∈ text, isBareChar character = true ∧
      character ≠ '{' ∧ character ≠ '}' ∧ character ≠ '[' ∧ character ≠ ']') :
    Lexes text (fun _ => False) := by
  have shape : (∀ depth, scan ⟨.outside, depth⟩ text = some ⟨.outside, depth⟩) ∧
      bare .outside text = text := by
    induction text with
    | nil =>
        exact ⟨fun _ => rfl, rfl⟩
    | cons head tail inductionHypothesis =>
        obtain ⟨headBare, openBrace, closeBrace, openBracket, closeBracket⟩ :=
          bareOnly head (List.mem_cons_self ..)
        obtain ⟨scanned, same⟩ := inductionHypothesis fun character member =>
          bareOnly character (List.mem_cons_of_mem _ member)
        have notQuote : head ≠ '"' := by
          rintro rfl
          exact absurd headBare (by decide)
        have notBackslash : head ≠ '\\' := by
          rintro rfl
          exact absurd headBare (by decide)
        refine ⟨fun depth => ?_, ?_⟩
        · simp [scan, Cursor.next, notQuote, notBackslash, openBrace,
            closeBrace, openBracket, closeBracket, scanned depth]
        · simp [bare, notQuote, same]
  refine ⟨shape.1, ?_, fun _ _ impossible => impossible.elim⟩
  intro character member
  rw [shape.2] at member
  exact (bareOnly character member).1

theorem Lexes.nil : Lexes [] (fun _ => False) :=
  Lexes.plain (by simp)

/-- Wrap a text in a matching pair of brackets. -/
theorem Lexes.wrap {opening closing : Char} {body : List Char}
    {letters : Char → Prop}
    (pair : opening = '{' ∧ closing = '}' ∨ opening = '[' ∧ closing = ']')
    (lexes : Lexes body letters) :
    Lexes (opening :: (body ++ [closing])) letters := by
  have openStep : ∀ depth,
      Cursor.next ⟨.outside, depth⟩ opening = some ⟨.outside, depth + 1⟩ := by
    intro depth
    rcases pair with ⟨rfl, _⟩ | ⟨rfl, _⟩ <;> simp [Cursor.next]
  have closeStep : ∀ depth,
      Cursor.next ⟨.outside, depth + 1⟩ closing = some ⟨.outside, depth⟩ := by
    intro depth
    rcases pair with ⟨_, rfl⟩ | ⟨_, rfl⟩ <;> simp [Cursor.next]
  have notQuotes : opening ≠ '"' ∧ closing ≠ '"' := by
    rcases pair with ⟨rfl, rfl⟩ | ⟨rfl, rfl⟩ <;> decide
  have bareEnds : isBareChar opening = true ∧ isBareChar closing = true := by
    rcases pair with ⟨rfl, rfl⟩ | ⟨rfl, rfl⟩ <;> decide
  have quotedSplit := quoted_append (lexes.balanced 0) [closing]
  have bareSplit := bare_append (lexes.balanced 0) [closing]
  simp only at quotedSplit bareSplit
  constructor
  · intro depth
    simp only [scan, openStep, scan_append_of_eq (lexes.balanced (depth + 1)),
      closeStep]
  · intro character member
    simp only [bare, if_neg notQuotes.1, if_neg notQuotes.2, bareSplit,
      List.mem_cons, List.mem_append, List.not_mem_nil, or_false] at member
    rcases member with rfl | inner | rfl
    · exact bareEnds.1
    · exact lexes.bareChars character inner
    · exact bareEnds.2
  · intro plain character letter
    simp only [quoted, if_neg notQuotes.1, if_neg notQuotes.2, quotedSplit,
      List.append_nil] at plain ⊢
    exact lexes.supplied plain character letter

/-- A text that stays inside quotes. -/
structure StringBody (body : List Char) : Prop where
  stays : ∀ depth, scan ⟨.inside, depth⟩ body = some ⟨.inside, depth⟩
  allQuoted : quoted .inside body = body
  noneBare : bare .inside body = []

private theorem StringBody.nil : StringBody [] :=
  ⟨fun _ => rfl, rfl, rfl⟩

private theorem StringBody.cons {head : Char} {body : List Char}
    (notQuote : head ≠ '"') (notBackslash : head ≠ '\\')
    (rest : StringBody body) : StringBody (head :: body) := by
  constructor
  · intro depth
    simp [scan, Cursor.next, notQuote, notBackslash, rest.stays depth]
  · simp [quoted, notQuote, notBackslash, rest.allQuoted]
  · simp [bare, notQuote, notBackslash, rest.noneBare]

private theorem StringBody.escape (code : Char) {body : List Char}
    (rest : StringBody body) : StringBody ('\\' :: code :: body) := by
  constructor
  · intro depth
    simp [scan, Cursor.next, rest.stays depth]
  · simp [quoted, rest.allQuoted]
  · simp [bare, rest.noneBare]

private theorem hexValue_ne {character : Char} {value : Nat}
    (hex : hexValue character = some value) :
    character ≠ '"' ∧ character ≠ '\\' := by
  constructor
  · rintro rfl
    have missing : hexValue '"' = none := by decide
    rw [missing] at hex
    cases hex
  · rintro rfl
    have missing : hexValue '\\' = none := by decide
    rw [missing] at hex
    cases hex

/-- The decoder's view of a string body: all of it is quoted, and without an
escape it is the string itself. -/
private theorem decodeUnits_body {text : List Char} {units : List Nat}
    {rest : List Char} (decoded : decodeUnits text = some (units, rest)) :
    ∃ body, text = body ++ '"' :: rest ∧ StringBody body ∧
      ('\\' ∉ body → units = body.map Char.toNat) := by
  fun_induction decodeUnits text generalizing units rest with
  | case1 => cases decoded
  | case2 tail =>
      cases decoded
      exact ⟨[], rfl, .nil, fun _ => rfl⟩
  | case3 first second third fourth tail a b c d fourthHex thirdHex secondHex
      firstHex _ inductionHypothesis =>
      obtain ⟨inner, innerDecoded, equality⟩ := Option.map_eq_some_iff.mp decoded
      cases equality
      obtain ⟨body, rfl, stringBody, _⟩ := inductionHypothesis innerDecoded
      refine ⟨'\\' :: 'u' :: first :: second :: third :: fourth :: body, rfl,
        ?_, fun plain => absurd (List.mem_cons_self ..) plain⟩
      exact .escape 'u' <|
        .cons (hexValue_ne firstHex).1 (hexValue_ne firstHex).2 <|
        .cons (hexValue_ne secondHex).1 (hexValue_ne secondHex).2 <|
        .cons (hexValue_ne thirdHex).1 (hexValue_ne thirdHex).2 <|
        .cons (hexValue_ne fourthHex).1 (hexValue_ne fourthHex).2 stringBody
  | case4 => cases decoded
  | case5 code tail _ character _ _ inductionHypothesis =>
      obtain ⟨inner, innerDecoded, equality⟩ := Option.map_eq_some_iff.mp decoded
      cases equality
      obtain ⟨body, rfl, stringBody, _⟩ := inductionHypothesis innerDecoded
      exact ⟨'\\' :: code :: body, rfl, .escape code stringBody,
        fun plain => absurd (List.mem_cons_self ..) plain⟩
  | case6 => cases decoded
  | case7 => cases decoded
  | case8 => cases decoded
  | case9 head tail notQuote notBackslash _ inductionHypothesis =>
      obtain ⟨inner, innerDecoded, equality⟩ := Option.map_eq_some_iff.mp decoded
      cases equality
      obtain ⟨body, rfl, stringBody, plainUnits⟩ :=
        inductionHypothesis innerDecoded
      refine ⟨head :: body, rfl, .cons notQuote notBackslash stringBody, ?_⟩
      intro plain
      rw [plainUnits fun member => plain (List.mem_cons_of_mem _ member)]
      rfl

theorem decodeString_lexes {text rest : List Char} {name : String}
    (decoded : decodeString text = some (name, rest)) :
    ∃ body, text = body ++ '"' :: rest ∧
      Lexes ('"' :: (body ++ ['"'])) (· ∈ name.toList) := by
  obtain ⟨⟨units, after⟩, unitsDecoded, equality⟩ :=
    Option.map_eq_some_iff.mp decoded
  cases equality
  obtain ⟨body, rfl, stringBody, plainUnits⟩ := decodeUnits_body unitsDecoded
  have quotedSplit := quoted_append (stringBody.stays 0) ['"']
  have bareSplit := bare_append (stringBody.stays 0) ['"']
  simp only [stringBody.allQuoted, stringBody.noneBare] at quotedSplit bareSplit
  refine ⟨body, rfl, ?_, ?_, ?_⟩
  · intro depth
    simp only [scan, Cursor.next, if_true,
      scan_append_of_eq (stringBody.stays depth)]
  · intro character member
    simp [bare, bareSplit] at member
  · intro plain character letter
    simp only [quoted, if_true, quotedSplit, List.append_nil] at plain ⊢
    simpa [plainUnits plain, joinUnits_map] using letter

/-! ### Tokens -/

theorem lexes_blanks {blanks : List Char}
    (allBlank : ∀ character ∈ blanks, isBlank character = true) :
    Lexes blanks (fun _ => False) := by
  refine Lexes.plain fun character member => ?_
  have blank := allBlank character member
  refine ⟨by simp [isBareChar, blank], ?_, ?_, ?_, ?_⟩ <;>
    · rintro rfl
      exact absurd blank (by decide)

theorem skipBlanks_lexes (text : List Char) :
    ∃ blanks, text = blanks ++ skipBlanks text ∧
      (∀ character ∈ blanks, isBlank character = true) ∧
      Lexes blanks (fun _ => False) := by
  have allBlank : ∀ character ∈ text.takeWhile isBlank,
      isBlank character = true :=
    fun character member => List.mem_takeWhile_imp member
  exact ⟨text.takeWhile isBlank, List.takeWhile_append_dropWhile.symm,
    allBlank, lexes_blanks allBlank⟩

private theorem number_plain {character : Char}
    (number : isNumberChar character = true) :
    isBareChar character = true ∧ character ≠ '{' ∧ character ≠ '}' ∧
      character ≠ '[' ∧ character ≠ ']' := by
  refine ⟨by simp [isBareChar, number], ?_, ?_, ?_, ?_⟩ <;>
    · rintro rfl
      exact absurd number (by decide)

private theorem digit_number {character : Char}
    (digit : isDigit character = true) : isNumberChar character = true := by
  simp [isNumberChar, digit]

private theorem integerPart_chars {text whole rest : List Char}
    (scanned : integerPart text = some (whole, rest)) :
    ∀ character ∈ whole, isNumberChar character = true := by
  cases text with
  | nil => cases scanned
  | cons head tail =>
      simp only [integerPart] at scanned
      split_ifs at scanned with zero digit
      · cases scanned
        simp only [List.mem_singleton, forall_eq]
        decide
      · cases scanned
        rintro character (_ | ⟨_, member⟩)
        · exact digit_number digit
        · exact digit_number (List.mem_takeWhile_imp member)

private theorem fractionPart_chars (text : List Char) :
    ∀ character ∈ (fractionPart text).1, isNumberChar character = true := by
  match text with
  | [] => simp [fractionPart]
  | [head] => simp [fractionPart]
  | head :: next :: tail =>
      simp only [fractionPart]
      split_ifs with shape
      · obtain ⟨rfl, digit⟩ := shape
        rintro character (_ | ⟨_, _ | ⟨_, member⟩⟩)
        · decide
        · exact digit_number digit
        · exact digit_number (List.mem_takeWhile_imp member)
      · simp

private theorem exponentDigits_chars {text digits rest : List Char}
    (scanned : exponentDigits text = some (digits, rest)) :
    ∀ character ∈ digits, isNumberChar character = true := by
  match text with
  | [] => cases scanned
  | [head] =>
      simp only [exponentDigits] at scanned
      split_ifs at scanned with digit
      cases scanned
      simp [digit_number digit]
  | head :: next :: tail =>
      simp only [exponentDigits] at scanned
      split_ifs at scanned with digit signed
      · cases scanned
        rintro character (_ | ⟨_, member⟩)
        · exact digit_number digit
        · exact digit_number (List.mem_takeWhile_imp member)
      · cases scanned
        rintro character (_ | ⟨_, _ | ⟨_, member⟩⟩)
        · rcases signed.1 with rfl | rfl <;> decide
        · exact digit_number signed.2
        · exact digit_number (List.mem_takeWhile_imp member)

private theorem exponentPart_chars (text : List Char) :
    ∀ character ∈ (exponentPart text).1, isNumberChar character = true := by
  cases text with
  | nil => simp [exponentPart]
  | cons head tail =>
      simp only [exponentPart]
      split_ifs with mark
      · split
        · rename_i digits rest scanned
          rintro character (_ | ⟨_, member⟩)
          · rcases mark with rfl | rfl <;> decide
          · exact exponentDigits_chars scanned character member
        · simp
      · simp

theorem numberToken_chars {text whole suffix rest : List Char}
    (scanned : numberToken text = some (whole, suffix, rest)) :
    ∀ character ∈ whole ++ suffix, isNumberChar character = true := by
  unfold numberToken at scanned
  split at scanned
  · cases scanned
  · rename_i integer afterWhole integerScanned
    simp only [Option.some.injEq, Prod.mk.injEq] at scanned
    obtain ⟨rfl, rfl, rfl⟩ := scanned
    intro character member
    simp only [List.mem_append] at member
    rcases member with (sign | whole) | fraction | exponent
    · cases text with
      | nil => simp [signPart] at sign
      | cons head tail =>
          simp only [signPart] at sign
          split_ifs at sign
          · simp only [List.mem_singleton] at sign
            rw [sign]
            decide
          · cases sign
    · exact integerPart_chars integerScanned character whole
    · exact fractionPart_chars afterWhole character fraction
    · exact exponentPart_chars _ character exponent

/-! ### Documents -/

/-- A bracketed text with a balanced body, or one that ends in no brace. -/
def Enclosed (text : List Char) : Prop :=
  (∃ opening closing body, (opening = '{' ∧ closing = '}' ∨
      opening = '[' ∧ closing = ']') ∧
      text = opening :: (body ++ [closing]) ∧ Balanced body) ∨
    ∃ front last, text = front ++ [last] ∧ last ≠ '}'

/-- What the decoder accepts, and what it leaves. -/
def Accepts (value : List Char → Option (Json × List Char)) : Prop :=
  ∀ text document rest, value text = some (document, rest) →
    ∃ consumed, text = consumed ++ rest ∧
      Lexes consumed (Mentions · document) ∧ Enclosed consumed

private theorem decodeElements_lexes
    {value : List Char → Option (Json × List Char)} (accepts : Accepts value)
    {fuel : Nat} {text rest : List Char} {elements : List Json}
    (decoded : decodeElements value fuel text = some (elements, rest)) :
    ∃ body, text = body ++ ']' :: rest ∧
      Lexes body (fun character =>
        ∃ element ∈ elements, Mentions character element) := by
  induction fuel generalizing text elements rest with
  | zero => cases decoded
  | succ fuel inductionHypothesis =>
      simp only [decodeElements] at decoded
      split at decoded
      · cases decoded
      · rename_i element after valueDecoded
        obtain ⟨consumed, rfl, lexes, _⟩ := accepts _ _ _ valueDecoded
        obtain ⟨blanks, afterEq, _, blanksLex⟩ := skipBlanks_lexes after
        split at decoded
        · cases decoded
        · rename_i mark afterMark markEq
          rw [markEq] at afterEq
          split_ifs at decoded with close comma
          · cases decoded
            refine ⟨consumed ++ blanks, by rw [afterEq, close]; simp, ?_⟩
            refine (lexes.append blanksLex).mono ?_
            rintro character ⟨other, member, mentions⟩
            simp only [List.mem_singleton] at member
            exact Or.inl (member ▸ mentions)
          · obtain ⟨inner, innerDecoded, equality⟩ :=
              Option.map_eq_some_iff.mp decoded
            cases equality
            obtain ⟨body, bodyEq, bodyLex⟩ := inductionHypothesis innerDecoded
            obtain ⟨spaces, spacesEq, _, spacesLex⟩ :=
              skipBlanks_lexes afterMark
            have commaLex : Lexes [','] (fun _ => False) :=
              Lexes.plain (by simp; decide)
            refine ⟨consumed ++ (blanks ++ ([','] ++ (spaces ++ body))), ?_, ?_⟩
            · rw [afterEq, comma, spacesEq, bodyEq]
              simp
            · refine (lexes.append (blanksLex.append (commaLex.append
                (spacesLex.append bodyLex)))).mono ?_
              rintro character ⟨other, member, mentions⟩
              rcases List.mem_cons.mp member with rfl | later
              · exact Or.inl mentions
              · exact Or.inr (Or.inr (Or.inr (Or.inr
                  ⟨other, later, mentions⟩)))

private theorem decodeName_lexes {text rest : List Char} {name : String}
    (decoded : decodeName text = some (name, rest)) :
    ∃ consumed, text = consumed ++ rest ∧
      Lexes consumed (· ∈ name.toList) := by
  cases text with
  | nil => cases decoded
  | cons mark text =>
      simp only [decodeName] at decoded
      split_ifs at decoded with quote
      split at decoded
      · cases decoded
      · rename_i nameText after nameDecoded
        obtain ⟨body, rfl, nameLex⟩ := decodeString_lexes nameDecoded
        obtain ⟨blanks, afterEq, _, blanksLex⟩ := skipBlanks_lexes after
        split at decoded
        · cases decoded
        · rename_i colon afterColon colonEq
          rw [colonEq] at afterEq
          split_ifs at decoded with isColon
          cases decoded
          obtain ⟨spaces, spacesEq, _, spacesLex⟩ := skipBlanks_lexes afterColon
          have colonLex : Lexes [':'] (fun _ => False) :=
            Lexes.plain (by simp; decide)
          refine ⟨('"' :: (body ++ ['"'])) ++ (blanks ++ ([':'] ++ spaces)),
            ?_, ?_⟩
          · rw [quote, afterEq, isColon]
            conv_lhs => rw [spacesEq]
            simp
          · exact (nameLex.append (blanksLex.append
              (colonLex.append spacesLex))).mono fun _ letter => Or.inl letter

private theorem decodeMembers_lexes
    {value : List Char → Option (Json × List Char)} (accepts : Accepts value)
    {fuel : Nat} {text rest : List Char} {fields : List (String × Json)}
    (decoded : decodeMembers value fuel text = some (fields, rest)) :
    ∃ body, text = body ++ '}' :: rest ∧
      Lexes body (fun character =>
        ∃ field ∈ fields, character ∈ field.1.toList ∨
          Mentions character field.2) := by
  induction fuel generalizing text fields rest with
  | zero => cases decoded
  | succ fuel inductionHypothesis =>
      simp only [decodeMembers] at decoded
      split at decoded
      · cases decoded
      · rename_i name afterName nameDecoded
        obtain ⟨nameText, rfl, nameLex⟩ := decodeName_lexes nameDecoded
        split at decoded
        · cases decoded
        · rename_i member after valueDecoded
          obtain ⟨consumed, rfl, lexes, _⟩ := accepts _ _ _ valueDecoded
          obtain ⟨blanks, afterEq, _, blanksLex⟩ := skipBlanks_lexes after
          split at decoded
          · cases decoded
          · rename_i mark afterMark markEq
            rw [markEq] at afterEq
            split_ifs at decoded with close comma
            · cases decoded
              refine ⟨nameText ++ (consumed ++ blanks),
                by rw [afterEq, close]; simp, ?_⟩
              refine (nameLex.append (lexes.append blanksLex)).mono ?_
              rintro character ⟨field, present, letter⟩
              simp only [List.mem_singleton] at present
              subst present
              rcases letter with inName | inMember
              · exact Or.inl inName
              · exact Or.inr (Or.inl inMember)
            · obtain ⟨inner, innerDecoded, equality⟩ :=
                Option.map_eq_some_iff.mp decoded
              cases equality
              obtain ⟨body, bodyEq, bodyLex⟩ := inductionHypothesis innerDecoded
              obtain ⟨spaces, spacesEq, _, spacesLex⟩ :=
                skipBlanks_lexes afterMark
              have commaLex : Lexes [','] (fun _ => False) :=
                Lexes.plain (by simp; decide)
              refine ⟨nameText ++ (consumed ++
                (blanks ++ ([','] ++ (spaces ++ body)))), ?_, ?_⟩
              · rw [afterEq, comma, spacesEq, bodyEq]
                simp
              · refine (nameLex.append (lexes.append (blanksLex.append
                  (commaLex.append (spacesLex.append bodyLex))))).mono ?_
                rintro character ⟨field, present, letter⟩
                rcases List.mem_cons.mp present with rfl | later
                · rcases letter with inName | inMember
                  · exact Or.inl inName
                  · exact Or.inr (Or.inl inMember)
                · exact Or.inr (Or.inr (Or.inr (Or.inr (Or.inr
                    ⟨field, later, letter⟩))))

private theorem mentions_dict {character : Char}
    {members : List (String × Json)} (mentions : Mentions character (dict members)) :
    ∃ field ∈ members, character ∈ field.1.toList ∨
      Mentions character field.2 := by
  cases mentions with
  | name present letter =>
      rcases mem_insertFields present with impossible | member
      · cases impossible
      · exact ⟨_, member, Or.inl letter⟩
  | member present inner =>
      rcases mem_insertFields present with impossible | member
      · cases impossible
      · exact ⟨_, member, Or.inr inner⟩

private theorem decodeArray_lexes
    {value : List Char → Option (Json × List Char)} (accepts : Accepts value)
    {text rest : List Char} {document : Json}
    (decoded : decodeArray value text = some (document, rest)) :
    ∃ body, text = body ++ ']' :: rest ∧ Lexes body (Mentions · document) := by
  obtain ⟨blanks, textEq, _, blanksLex⟩ := skipBlanks_lexes text
  unfold decodeArray at decoded
  split at decoded
  · cases decoded
  · rename_i mark after markEq
    rw [markEq] at textEq
    split_ifs at decoded with close
    · cases decoded
      refine ⟨blanks, by rw [textEq, close], blanksLex.mono ?_⟩
      intro character mentions
      cases mentions with
      | element member _ => cases member
    · obtain ⟨inner, innerDecoded, equality⟩ :=
        Option.map_eq_some_iff.mp decoded
      cases equality
      obtain ⟨body, bodyEq, bodyLex⟩ := decodeElements_lexes accepts innerDecoded
      refine ⟨blanks ++ body, by rw [textEq, bodyEq]; simp, ?_⟩
      refine (blanksLex.append bodyLex).mono ?_
      intro character mentions
      cases mentions with
      | element member inner => exact Or.inr ⟨_, member, inner⟩

private theorem decodeObject_lexes
    {value : List Char → Option (Json × List Char)} (accepts : Accepts value)
    {text rest : List Char} {document : Json}
    (decoded : decodeObject value text = some (document, rest)) :
    ∃ body, text = body ++ '}' :: rest ∧ Lexes body (Mentions · document) := by
  obtain ⟨blanks, textEq, _, blanksLex⟩ := skipBlanks_lexes text
  unfold decodeObject at decoded
  split at decoded
  · cases decoded
  · rename_i mark after markEq
    rw [markEq] at textEq
    split_ifs at decoded with close
    · cases decoded
      refine ⟨blanks, by rw [textEq, close], blanksLex.mono ?_⟩
      intro character mentions
      cases mentions with
      | name present _ => cases present
      | member present _ => cases present
    · obtain ⟨inner, innerDecoded, equality⟩ :=
        Option.map_eq_some_iff.mp decoded
      cases equality
      obtain ⟨body, bodyEq, bodyLex⟩ := decodeMembers_lexes accepts innerDecoded
      refine ⟨blanks ++ body, by rw [textEq, bodyEq]; simp, ?_⟩
      exact (blanksLex.append bodyLex).mono fun _ mentions =>
        Or.inr (mentions_dict mentions)

private theorem dropLiteral_lexes {front : Char} (literal : List Char)
    (last : Char) {document : Json} {text rest : List Char} {found : Json}
    (notBrace : last ≠ '}')
    (plain : ∀ character ∈ front :: (literal ++ [last]),
      isBareChar character = true ∧ character ≠ '{' ∧ character ≠ '}' ∧
        character ≠ '[' ∧ character ≠ ']')
    (silent : ∀ character, ¬ Mentions character document)
    (dropped : dropLiteral (literal ++ [last]) document text =
      some (found, rest)) :
    ∃ consumed, front :: text = consumed ++ rest ∧
      Lexes consumed (Mentions · found) ∧ Enclosed consumed := by
  unfold dropLiteral at dropped
  split_ifs at dropped with present
  cases dropped
  obtain ⟨after, rfl⟩ := List.isPrefixOf_iff_prefix.mp present
  refine ⟨front :: (literal ++ [last]), by simp, ?_, ?_⟩
  · exact (Lexes.plain plain).mono fun character mentions =>
      silent character mentions
  · exact Or.inr ⟨front :: literal, last, rfl, notBrace⟩

private theorem not_mentions_atom {character : Char} {document : Json}
    (atom : document = .null ∨ (∃ value, document = .bool value) ∨
      (∃ value, document = .int value) ∨ (∃ text, document = .float text) ∨
      ∃ literal, document = .nonFinite literal) :
    ¬ Mentions character document := by
  rintro mentions
  rcases atom with rfl | ⟨_, rfl⟩ | ⟨_, rfl⟩ | ⟨_, rfl⟩ | ⟨_, rfl⟩ <;>
    cases mentions

private theorem decodeNumber_lexes {round : String → String}
    {text rest : List Char} {document : Json}
    (decoded : decodeNumber round text = some (document, rest)) :
    ∃ consumed, text = consumed ++ rest ∧
      Lexes consumed (Mentions · document) ∧ Enclosed consumed := by
  unfold decodeNumber at decoded
  split at decoded
  · cases decoded
  · rename_i whole suffix after scanned
    have parts := numberToken_parts scanned
    have chars := numberToken_chars scanned
    have nonempty : whole ++ suffix ≠ [] := by
      intro empty
      obtain ⟨head, tail, rfl, shape⟩ := numberToken_head scanned
      unfold numberToken at scanned
      split at scanned
      · cases scanned
      · rename_i integer afterWhole integerScanned
        simp only [Option.some.injEq, Prod.mk.injEq] at scanned
        obtain ⟨rfl, rfl, rfl⟩ := scanned
        have integerEmpty : integer = [] := by
          simp only [List.append_eq_nil_iff] at empty
          exact empty.1.2
        rw [integerEmpty] at integerScanned
        cases signed : (signPart (head :: tail)).2 with
        | nil =>
            rw [signed] at integerScanned
            cases integerScanned
        | cons first others =>
            rw [signed] at integerScanned
            simp only [integerPart] at integerScanned
            split_ifs at integerScanned <;> simp at integerScanned
    have shape : ∀ atom,
        (∀ character, ¬ Mentions character atom) →
        Lexes (whole ++ suffix) (Mentions · atom) ∧
          Enclosed (whole ++ suffix) := by
      intro atom silent
      refine ⟨(Lexes.plain fun character member =>
        number_plain (chars character member)).mono silent, ?_⟩
      refine Or.inr ⟨(whole ++ suffix).dropLast,
        (whole ++ suffix).getLast nonempty,
        (List.dropLast_append_getLast nonempty).symm, ?_⟩
      exact (number_plain (chars _ (List.getLast_mem nonempty))).2.2.1
    split_ifs at decoded
    · cases decoded
      exact ⟨whole ++ suffix, parts.symm,
        shape _ fun character => not_mentions_atom (by simp)⟩
    · cases decoded
      exact ⟨whole ++ suffix, parts.symm,
        shape _ fun character => not_mentions_atom (by simp)⟩

/-- Everything the decoder accepts is balanced and draws the letters of its
strings from inside quotes. -/
theorem decodeValue_accepts (round : String → String) (fuel : Nat) :
    Accepts (decodeValue round fuel) := by
  induction fuel with
  | zero =>
      intro text document rest decoded
      cases decoded
  | succ fuel inductionHypothesis =>
      intro text document rest decoded
      cases text with
      | nil => cases decoded
      | cons head tail =>
          simp only [decodeValue] at decoded
          split_ifs at decoded with quote brace bracket isNull isTrue isFalse
            isNaN isInfinity isNegative
          · obtain ⟨inner, innerDecoded, equality⟩ :=
              Option.map_eq_some_iff.mp decoded
            cases equality
            obtain ⟨body, rfl, lexes⟩ := decodeString_lexes innerDecoded
            refine ⟨'"' :: (body ++ ['"']), by simp [quote], ?_, ?_⟩
            · refine lexes.mono ?_
              rintro character (letter)
              cases letter with
              | string member => exact member
            · exact Or.inr ⟨'"' :: body, '"', by simp, by decide⟩
          · obtain ⟨body, rfl, lexes⟩ :=
              decodeObject_lexes inductionHypothesis decoded
            refine ⟨'{' :: (body ++ ['}']), by simp [brace],
              lexes.wrap (by simp), ?_⟩
            exact Or.inl ⟨'{', '}', body, by simp, rfl, lexes.balanced⟩
          · obtain ⟨body, rfl, lexes⟩ :=
              decodeArray_lexes inductionHypothesis decoded
            refine ⟨'[' :: (body ++ [']']), by simp [bracket],
              lexes.wrap (by simp), ?_⟩
            exact Or.inl ⟨'[', ']', body, by simp, rfl, lexes.balanced⟩
          · subst isNull
            exact dropLiteral_lexes ['u', 'l'] 'l' (by decide)
              (List.all_iff_forall_prop.mp (by decide +kernel))
              (fun _ => not_mentions_atom (by simp)) decoded
          · subst isTrue
            exact dropLiteral_lexes ['r', 'u'] 'e' (by decide)
              (List.all_iff_forall_prop.mp (by decide +kernel))
              (fun _ => not_mentions_atom (by simp)) decoded
          · subst isFalse
            exact dropLiteral_lexes ['a', 'l', 's'] 'e' (by decide)
              (List.all_iff_forall_prop.mp (by decide +kernel))
              (fun _ => not_mentions_atom (by simp)) decoded
          · subst isNaN
            exact dropLiteral_lexes ['a'] 'N' (by decide)
              (List.all_iff_forall_prop.mp (by decide +kernel))
              (fun _ => not_mentions_atom (by simp)) decoded
          · subst isInfinity
            exact dropLiteral_lexes
              ['n', 'f', 'i', 'n', 'i', 't'] 'y' (by decide)
              (List.all_iff_forall_prop.mp (by decide +kernel))
              (fun _ => not_mentions_atom (by simp)) decoded
          · obtain ⟨minus, present⟩ := isNegative
            subst minus
            have dropped : dropLiteral
                (['I', 'n', 'f', 'i', 'n', 'i', 't'] ++ ['y'])
                (.nonFinite .negativeInfinity) tail = some (document, rest) := by
              rw [← decoded]
              simp only [List.cons_append, List.nil_append, dropLiteral,
                present, if_true]
              rfl
            exact dropLiteral_lexes _ 'y' (by decide)
              (List.all_iff_forall_prop.mp (by decide +kernel))
              (fun _ => not_mentions_atom (by simp)) dropped
          · exact decodeNumber_lexes decoded

/-- A decoded text is a value between blanks. -/
theorem decode_parts {round : String → String} {text : List Char}
    {document : Json} (decoded : decode round text = some document) :
    ∃ before consumed after, text = before ++ (consumed ++ after) ∧
      (∀ character ∈ before, isBlank character = true) ∧
      (∀ character ∈ after, isBlank character = true) ∧
      Lexes consumed (Mentions · document) ∧ Enclosed consumed := by
  unfold decode at decoded
  split at decoded
  · cases decoded
  · rename_i found rest valueDecoded
    split_ifs at decoded with finished
    cases decoded
    obtain ⟨before, textEq, beforeBlank, _⟩ := skipBlanks_lexes text
    obtain ⟨consumed, consumedEq, lexes, enclosed⟩ :=
      decodeValue_accepts round _ _ _ _ valueDecoded
    obtain ⟨after, restEq, afterBlank, _⟩ := skipBlanks_lexes rest
    rw [finished, List.append_nil] at restEq
    exact ⟨before, consumed, after, by rw [textEq, consumedEq, restEq],
      beforeBlank, afterBlank, lexes, enclosed⟩

theorem decode_lexes {round : String → String} {text : List Char}
    {document : Json} (decoded : decode round text = some document) :
    Lexes text (Mentions · document) := by
  obtain ⟨before, consumed, after, rfl, beforeBlank, afterBlank, lexes, _⟩ :=
    decode_parts decoded
  exact ((lexes_blanks beforeBlank).append
    (lexes.append (lexes_blanks afterBlank))).mono
      fun _ mentions => Or.inr (Or.inl mentions)

theorem encode_lexes {round : String → String} {document : Json}
    (canonical : Canonical round document) :
    Lexes (encode document) (Mentions · document) :=
  decode_lexes (decode_encode canonical)

end Foundation.Json
