import Mathlib.Data.List.Infix

/-!
# Shell patterns

Whole texts matched by patterns with `*`, `?` and bracket expressions, where no
character has a special meaning in the text.
-/

namespace Foundation.Text

inductive GlobToken where
  | star
  | single
  /-- A bracket expression, by the bounds of its ranges. -/
  | bracket (negated : Bool) (ranges : List (Char × Char))
  | literal (character : Char)
  deriving DecidableEq, Repr

/-- The ranges of a bracket expression; a hyphen at either end stands for itself. -/
def globRanges : List Char → List (Char × Char)
  | first :: '-' :: last :: rest => (first, last) :: globRanges rest
  | character :: rest => (character, character) :: globRanges rest
  | [] => []

/-- The bracket expression behind an opening bracket, and the text behind it.  A closing
bracket in the first place belongs to the expression. -/
def readBracket (text : List Char) : Option (GlobToken × List Char) :=
  let negated := text.head? = some '!'
  let body := if negated then text.tail else text
  let skipped := if body.head? = some ']' then 1 else 0
  let inside := body.take skipped ++ (body.drop skipped).takeWhile (· ≠ ']')
  match body.drop inside.length with
  | ']' :: rest => some (.bracket negated (globRanges inside), rest)
  | _ => none

/-- The tokens of a pattern that is not longer than the fuel. -/
def readGlob : Nat → List Char → List GlobToken
  | fuel + 1, '*' :: rest => .star :: readGlob fuel rest
  | fuel + 1, '?' :: rest => .single :: readGlob fuel rest
  | fuel + 1, '[' :: rest =>
      match readBracket rest with
      | some (token, behind) => token :: readGlob fuel behind
      | none => .literal '[' :: readGlob fuel rest
  | fuel + 1, character :: rest => .literal character :: readGlob fuel rest
  | _, _ => []

def globTokens (pattern : List Char) : List GlobToken :=
  readGlob pattern.length pattern

def inRanges (ranges : List (Char × Char)) (character : Char) : Bool :=
  ranges.any fun range => range.1 ≤ character && character ≤ range.2

def globAccepts : List GlobToken → List Char → Bool
  | [], text => text.isEmpty
  | .star :: rest, text => text.tails.any fun tail => globAccepts rest tail
  | .single :: _, [] => false
  | .single :: rest, _ :: tail => globAccepts rest tail
  | .bracket _ _ :: _, [] => false
  | .bracket negated ranges :: rest, head :: tail =>
      (inRanges ranges head != negated) && globAccepts rest tail
  | .literal _ :: _, [] => false
  | .literal character :: rest, head :: tail =>
      (head = character) && globAccepts rest tail

/-- `fnmatch.fnmatchcase`. -/
def fnmatchcase (text pattern : String) : Bool :=
  globAccepts (globTokens pattern.toList) text.toList

/-- A character with a special meaning in patterns. -/
def isGlobMeta (character : Char) : Bool :=
  ['*', '?', '['].contains character

/-! ## Patterns without special characters -/

theorem readGlob_plain {fuel : Nat} {pattern : List Char} (enough : pattern.length ≤ fuel)
    (plain : ∀ character ∈ pattern, isGlobMeta character = false) :
    readGlob fuel pattern = pattern.map GlobToken.literal := by
  induction pattern generalizing fuel with
  | nil => cases fuel <;> rfl
  | cons head tail inductionHypothesis =>
      cases fuel with
      | zero => simp at enough
      | succ fuel =>
          have headPlain := plain head List.mem_cons_self
          have rest := inductionHypothesis (Nat.le_of_succ_le_succ enough)
            fun character member => plain character (List.mem_cons_of_mem head member)
          have notStar : head ≠ '*' := by
            rintro rfl
            exact absurd headPlain (by decide)
          have notSingle : head ≠ '?' := by
            rintro rfl
            exact absurd headPlain (by decide)
          have notBracket : head ≠ '[' := by
            rintro rfl
            exact absurd headPlain (by decide)
          rw [List.map_cons, ← rest, readGlob]
          all_goals simpa

theorem globAccepts_literals (pattern text : List Char) :
    globAccepts (pattern.map GlobToken.literal) text = true ↔ text = pattern := by
  induction pattern generalizing text with
  | nil => simp [globAccepts]
  | cons head tail inductionHypothesis =>
      cases text with
      | nil => simp [globAccepts]
      | cons first rest => simp [globAccepts, inductionHypothesis]

/-- A pattern without special characters matches itself alone. -/
theorem fnmatchcase_plain {text pattern : String}
    (plain : ∀ character ∈ pattern.toList, isGlobMeta character = false) :
    fnmatchcase text pattern = true ↔ text = pattern := by
  rw [fnmatchcase, globTokens, readGlob_plain (Nat.le_refl _) plain,
    globAccepts_literals, String.toList_inj]

example : fnmatchcase "a1.py" "a[!a-c]*.py" = true := by decide +kernel

end Foundation.Text
