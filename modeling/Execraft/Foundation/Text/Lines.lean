import Execraft.Foundation.Text.Trim

/-!
# Lines of a text

White space, `strip`, universal newlines and `splitlines` for texts given as
lists of characters.  A text splits after every line boundary, and the carriage
return of a pair `\r\n` does not count on its own.
-/

namespace Foundation.Text

/-- The characters that `str.isspace` accepts. -/
def isSpace (character : Char) : Bool :=
  let code := character.toNat
  (9 ≤ code && code ≤ 13) || (28 ≤ code && code ≤ 32) || code = 0x85 ||
    code = 0xa0 || code = 0x1680 || (0x2000 ≤ code && code ≤ 0x200a) ||
    code = 0x2028 || code = 0x2029 || code = 0x202f || code = 0x205f ||
    code = 0x3000

def strip (text : List Char) : List Char :=
  ((text.dropWhile isSpace).reverse.dropWhile isSpace).reverse

/-- The line boundaries of `str.splitlines`. -/
def isLineBreak (character : Char) : Bool :=
  ['\n', '\r', '\x0b', '\x0c', '\x1c', '\x1d', '\x1e', '\u0085', '\u2028',
    '\u2029'].contains character

/-- Newline translation of a file opened in text mode. -/
def universalNewlines : List Char → List Char
  | [] => []
  | '\r' :: '\n' :: tail => '\n' :: universalNewlines tail
  | head :: tail =>
      (if head = '\r' then '\n' else head) :: universalNewlines tail

def splitlines : List Char → List (List Char)
  | [] => []
  | '\r' :: '\n' :: tail => [] :: splitlines tail
  | head :: tail =>
      if isLineBreak head then [] :: splitlines tail
      else
        match splitlines tail with
        | [] => [[head]]
        | line :: lines => (head :: line) :: lines

/-! ## Stripping -/

theorem strip_eq_nil_iff {text : List Char} :
    strip text = [] ↔ ∀ character ∈ text, isSpace character = true :=
  trim_eq_nil_iff

/-! ## Splitting -/

/-- Texts in which every line boundary is a single character. -/
def NoReturn (text : List Char) : Prop :=
  '\r' ∉ text

theorem universalNewlines_of_noReturn {text : List Char}
    (noReturn : NoReturn text) : universalNewlines text = text := by
  fun_induction universalNewlines text with
  | case1 =>
      rfl
  | case2 tail inductionHypothesis =>
      exact absurd (List.mem_cons_self ..) noReturn
  | case3 head tail notPair inductionHypothesis =>
      have headPlain : head ≠ '\r' := by
        intro equality
        exact noReturn (by simp [equality])
      have tailPlain : NoReturn tail :=
        fun member => noReturn (List.mem_cons_of_mem _ member)
      rw [if_neg headPlain, inductionHypothesis tailPlain]

private theorem ne_return {character : Char}
    (plain : isLineBreak character = false) : character ≠ '\r' := by
  intro equality
  rw [equality] at plain
  exact absurd plain (by decide)

private theorem splitlines_cons {head : Char} (plain : head ≠ '\r')
    (tail : List Char) :
    splitlines (head :: tail) =
      if isLineBreak head then [] :: splitlines tail
      else
        match splitlines tail with
        | [] => [[head]]
        | line :: lines => (head :: line) :: lines := by
  rw [splitlines]
  rintro rest equality
  exact absurd equality plain

theorem splitlines_ne_nil {text : List Char} (nonempty : text ≠ []) :
    splitlines text ≠ [] := by
  fun_induction splitlines text with
  | case1 => exact absurd rfl nonempty
  | case2 => simp
  | case3 => simp
  | case4 => simp
  | case5 => simp

/-- A text ends a line at each of its boundaries. -/
theorem splitlines_append {front : List Char} (noReturn : NoReturn front)
    {mark : Char} (boundary : isLineBreak mark = true) (single : mark ≠ '\r')
    (rest : List Char) :
    splitlines (front ++ mark :: rest) =
      splitlines (front ++ [mark]) ++ splitlines rest := by
  induction front with
  | nil =>
      simp [splitlines_cons single, boundary, splitlines]
  | cons head tail inductionHypothesis =>
      have headPlain : head ≠ '\r' := by
        intro equality
        exact noReturn (by simp [equality])
      have tailPlain : NoReturn tail :=
        fun member => noReturn (List.mem_cons_of_mem _ member)
      have inner := inductionHypothesis tailPlain
      rw [List.cons_append, List.cons_append, splitlines_cons headPlain,
        splitlines_cons headPlain, inner]
      by_cases atBreak : isLineBreak head = true
      · simp [atBreak]
      · rw [if_neg atBreak, if_neg atBreak]
        have nonempty : splitlines (tail ++ [mark]) ≠ [] :=
          splitlines_ne_nil (by simp)
        cases split : splitlines (tail ++ [mark]) with
        | nil => exact absurd split nonempty
        | cons line lines => simp

/-- A text without boundaries is one line. -/
theorem splitlines_plain {text : List Char} (nonempty : text ≠ [])
    (plain : ∀ character ∈ text, isLineBreak character = false) :
    splitlines text = [text] := by
  induction text with
  | nil => exact absurd rfl nonempty
  | cons head tail inductionHypothesis =>
      have headPlain : isLineBreak head = false := plain head (by simp)
      rw [splitlines_cons (ne_return headPlain), headPlain]
      by_cases more : tail = []
      · simp [more, splitlines]
      · rw [inductionHypothesis more
          fun character member => plain character (List.mem_cons_of_mem _ member)]
        simp

/-- A text without boundaries is the first line of what follows it up to the
next boundary. -/
theorem splitlines_line {line : List Char}
    (plain : ∀ character ∈ line, isLineBreak character = false)
    {mark : Char} (boundary : isLineBreak mark = true) (single : mark ≠ '\r')
    (rest : List Char) :
    splitlines (line ++ mark :: rest) = line :: splitlines rest := by
  induction line with
  | nil =>
      simp [splitlines_cons single, boundary]
  | cons head tail inductionHypothesis =>
      have headPlain : isLineBreak head = false := plain head (by simp)
      rw [List.cons_append, splitlines_cons (ne_return headPlain), headPlain,
        inductionHypothesis fun character member =>
          plain character (List.mem_cons_of_mem _ member)]
      simp

/-- No line of a text contains a boundary. -/
theorem plain_of_mem_splitlines {text line : List Char} (member : line ∈ splitlines text) :
    ∀ character ∈ line, isLineBreak character = false := by
  fun_induction splitlines text generalizing line with
  | case1 => cases member
  | case2 tail inductionHypothesis =>
      rcases List.mem_cons.mp member with first | later
      · simp [first]
      · exact inductionHypothesis later
  | case3 head tail _ boundary inductionHypothesis =>
      rcases List.mem_cons.mp member with first | later
      · simp [first]
      · exact inductionHypothesis later
  | case4 head tail _ plain split inductionHypothesis =>
      rw [List.mem_singleton.mp member]
      simpa using plain
  | case5 head tail _ plain first others split inductionHypothesis =>
      rw [split] at inductionHypothesis
      rcases List.mem_cons.mp member with extended | later
      · rw [extended, List.forall_mem_cons]
        exact ⟨by simpa using plain, inductionHypothesis (List.mem_cons_self ..)⟩
      · exact inductionHypothesis (List.mem_cons_of_mem _ later)

/-- Every line followed by a newline. -/
def unlines (lines : List (List Char)) : List Char :=
  lines.flatMap fun line => line ++ ['\n']

theorem splitlines_unlines {lines : List (List Char)}
    (plain : ∀ line ∈ lines, ∀ character ∈ line, isLineBreak character = false) :
    splitlines (unlines lines) = lines := by
  induction lines with
  | nil => rfl
  | cons line rest inductionHypothesis =>
      obtain ⟨here, later⟩ := List.forall_mem_cons.mp plain
      rw [unlines, List.flatMap_cons, List.append_assoc, List.singleton_append,
        splitlines_line here (by decide) (by decide)]
      exact congrArg (line :: ·) (inductionHypothesis later)

/-- Induction along the lines of a text. -/
@[elab_as_elim]
theorem lineInduction {motive : List Char → Prop}
    (plain : ∀ line, (∀ character ∈ line, isLineBreak character = false) →
      motive line)
    (boundary : ∀ line mark rest,
      (∀ character ∈ line, isLineBreak character = false) →
      isLineBreak mark = true → motive rest → motive (line ++ mark :: rest))
    (text : List Char) : motive text := by
  have holds : ∀ line, (∀ character ∈ line, isLineBreak character = false) →
      motive (line ++ text) := by
    induction text with
    | nil =>
        intro line plainLine
        simpa using plain line plainLine
    | cons head tail inductionHypothesis =>
        intro line plainLine
        by_cases atBreak : isLineBreak head = true
        · exact boundary line head tail plainLine atBreak
            (inductionHypothesis [] (by simp))
        · have extended := inductionHypothesis (line ++ [head]) (by
            intro character member
            rcases List.mem_append.mp member with inLine | atHead
            · exact plainLine character inLine
            · rw [List.mem_singleton.mp atHead]
              simpa using atBreak)
          simpa using extended
  exact holds [] (by simp)

/-! ## The pieces between boundaries -/

/-- `piece` stands in `text` between two boundaries or ends of `text`. -/
structure Piece (text before piece after : List Char) : Prop where
  joined : text = before ++ (piece ++ after)
  opens : before = [] ∨ ∃ front mark, before = front ++ [mark] ∧
    isLineBreak mark = true
  closes : after = [] ∨ ∃ mark rest, after = mark :: rest ∧
    isLineBreak mark = true

/-- Every line of a text is one of its pieces. -/
theorem piece_of_mem_splitlines {text line : List Char}
    (noReturn : NoReturn text) (member : line ∈ splitlines text) :
    (∀ character ∈ line, isLineBreak character = false) ∧
      ∃ before after, Piece text before line after := by
  induction text using lineInduction with
  | plain text plainText =>
      by_cases empty : text = []
      · simp [empty, splitlines] at member
      · rw [splitlines_plain empty plainText] at member
        have only : line = text := by simpa using member
        subst only
        exact ⟨plainText, [], [], by simp, Or.inl rfl, Or.inl rfl⟩
  | boundary first mark rest plainFirst atMark inductionHypothesis =>
      have single : mark ≠ '\r' := by
        intro equality
        exact noReturn (by simp [equality])
      have restReturn : NoReturn rest :=
        fun inRest => noReturn (by simp [inRest])
      rw [splitlines_line plainFirst atMark single] at member
      rcases List.mem_cons.mp member with atFirst | later
      · subst atFirst
        exact ⟨plainFirst, [], mark :: rest, by simp, Or.inl rfl,
          Or.inr ⟨mark, rest, rfl, atMark⟩⟩
      · obtain ⟨plainLine, before, after, joined, opens, closes⟩ :=
          inductionHypothesis restReturn later
        refine ⟨plainLine, first ++ mark :: before, after, by simp [joined],
          ?_, closes⟩
        rcases opens with empty | ⟨front, last, shape, boundary⟩
        · exact Or.inr ⟨first, mark, by simp [empty], atMark⟩
        · exact Or.inr ⟨first ++ mark :: front, last, by simp [shape], boundary⟩

/-- The last line of a text, which has no boundary yet. -/
def openLine (text : List Char) : List Char :=
  (text.reverse.takeWhile fun character => !isLineBreak character).reverse

/-- The lines of a text that a boundary has closed. -/
def closedLines (text : List Char) : List Char :=
  (text.reverse.dropWhile fun character => !isLineBreak character).reverse

theorem closedLines_append_openLine (text : List Char) :
    closedLines text ++ openLine text = text := by
  rw [closedLines, openLine, ← List.reverse_append,
    List.takeWhile_append_dropWhile, List.reverse_reverse]

theorem openLine_plain (text : List Char) :
    ∀ character ∈ openLine text, isLineBreak character = false := by
  intro character member
  have kept := List.mem_takeWhile_imp (List.mem_reverse.mp member)
  simpa using kept

theorem closedLines_ends (text : List Char) :
    closedLines text = [] ∨ ∃ front mark, closedLines text = front ++ [mark] ∧
      isLineBreak mark = true := by
  cases shape : text.reverse.dropWhile fun character => !isLineBreak character with
  | nil => exact Or.inl (by simp [closedLines, shape])
  | cons mark front =>
      have notPlain := List.head_dropWhile_not
        (fun character => !isLineBreak character) (l := text.reverse)
        (by simp [shape])
      refine Or.inr ⟨front.reverse, mark, by simp [closedLines, shape], ?_⟩
      simpa [shape] using notPlain

end Foundation.Text
