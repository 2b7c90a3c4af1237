import Mathlib.Data.List.Basic

/-!
# Regular expressions

Backtracking search for texts given as lists of characters: alternatives are tried from
left to right, a greedy repetition tries one more round first, a lazy one tries it last.
-/

namespace Foundation.Text

inductive Pattern where
  | chars (accepts : Char → Bool)
  | empty
  | both (first second : Pattern)
  | either (first second : Pattern)
  | many (repeated : Pattern)
  | few (repeated : Pattern)
  | group (index : Nat) (captured : Pattern)
  | assertion (holds : List Char → List Char → Bool)

/-- A place in a text: what is in front of it (last character first), what follows, and the
groups captured so far (the last one first). -/
structure Position where
  before : List Char
  rest : List Char
  groups : List (Nat × List Char) := []

namespace Position

/-- The text between a place and a later one. -/
def textUntil (first last : Position) : List Char :=
  (last.before.take (last.before.length - first.before.length)).reverse

/-- What a group captured last. -/
def captured (position : Position) (index : Nat) : Option (List Char) :=
  (position.groups.find? fun entry => entry.1 = index).map Prod.snd

end Position

/-! ## Matching -/

section Rounds

variable {Result : Type}

/-- The rounds of a greedy repetition; each one has to move on. -/
def manyRounds (round : Position → (Position → Option Result) → Option Result) :
    Nat → Position → (Position → Option Result) → Option Result
  | 0, position, next => next position
  | fuel + 1, position, next =>
      (round position fun middle =>
        if middle.rest.length < position.rest.length then manyRounds round fuel middle next
        else none).orElse fun _ => next position

/-- The rounds of a lazy repetition. -/
def fewRounds (round : Position → (Position → Option Result) → Option Result) :
    Nat → Position → (Position → Option Result) → Option Result
  | 0, position, next => next position
  | fuel + 1, position, next =>
      (next position).orElse fun _ =>
        round position fun middle =>
          if middle.rest.length < position.rest.length then fewRounds round fuel middle next
          else none

end Rounds

namespace Pattern

/-- Match at a place and go on with `next`.  A repetition cannot run out of rounds: each of
them takes a character of the rest. -/
def run {Result : Type} : Pattern → Position → (Position → Option Result) → Option Result
  | chars accepts, position, next =>
      match position.rest with
      | [] => none
      | head :: tail =>
          if accepts head then
            next { position with before := head :: position.before, rest := tail }
          else
            none
  | empty, position, next => next position
  | both first second, position, next =>
      first.run position fun middle => second.run middle next
  | either first second, position, next =>
      (first.run position next).orElse fun _ => second.run position next
  | many repeated, position, next =>
      manyRounds repeated.run position.rest.length position next
  | few repeated, position, next =>
      fewRounds repeated.run position.rest.length position next
  | group index inner, position, next =>
      inner.run position fun last =>
        next { last with groups := (index, position.textUntil last) :: last.groups }
  | assertion holds, position, next =>
      if holds position.before position.rest then next position else none

/-- `pattern.match(text)`. -/
def matchStart (pattern : Pattern) (text : List Char) : Option Position :=
  pattern.run { before := [], rest := text } some

/-- `pattern.sub`, for patterns that never match an empty text. -/
def substituteFrom (pattern : Pattern) (replacement : Position → List Char) :
    Nat → Position → List Char
  | 0, _ => []
  | fuel + 1, position =>
      match position.rest with
      | [] => []
      | head :: tail =>
          match pattern.run { position with groups := [] } some with
          | some last =>
              replacement last ++ substituteFrom pattern replacement fuel last
          | none =>
              head :: substituteFrom pattern replacement fuel
                { before := head :: position.before, rest := tail }

def substitute (pattern : Pattern) (replacement : Position → List Char) (text : List Char) :
    List Char :=
  substituteFrom pattern replacement (text.length + 1) { before := [], rest := text }

/-! ## Building patterns -/

def char (wanted : Char) : Pattern :=
  chars fun character => character = wanted

/-- The characters of a text, one after the other. -/
def literal (text : String) : Pattern :=
  text.toList.foldr (fun character pattern => both (char character) pattern) empty

/-- One pattern after the other. -/
def sequence (patterns : List Pattern) : Pattern :=
  patterns.foldr both empty

/-- `pattern+`. -/
def oneOrMore (repeated : Pattern) : Pattern :=
  both repeated (many repeated)

/-- `pattern{count,}`. -/
def atLeast : Nat → Pattern → Pattern
  | 0, repeated => many repeated
  | count + 1, repeated => both repeated (atLeast count repeated)

def optional (pattern : Pattern) : Pattern :=
  either pattern empty

/-- `$` without `MULTILINE`. -/
def atEnd : Pattern :=
  assertion fun _ rest => rest = [] ∨ rest = ['\n']

/-! ## Soundness -/

/-- The texts that a pattern takes. -/
inductive Spans : Pattern → List Char → Prop where
  | chars {accepts : Char → Bool} {character : Char} (accepted : accepts character = true) :
      Spans (.chars accepts) [character]
  | empty : Spans .empty []
  | both {first second : Pattern} {front back : List Char} (left : Spans first front)
      (right : Spans second back) : Spans (.both first second) (front ++ back)
  | left {first second : Pattern} {text : List Char} (taken : Spans first text) :
      Spans (.either first second) text
  | right {first second : Pattern} {text : List Char} (taken : Spans second text) :
      Spans (.either first second) text
  | manyNone {repeated : Pattern} : Spans (.many repeated) []
  | manyMore {repeated : Pattern} {front back : List Char} (round : Spans repeated front)
      (rounds : Spans (.many repeated) back) : Spans (.many repeated) (front ++ back)
  | fewNone {repeated : Pattern} : Spans (.few repeated) []
  | fewMore {repeated : Pattern} {front back : List Char} (round : Spans repeated front)
      (rounds : Spans (.few repeated) back) : Spans (.few repeated) (front ++ back)
  | group {index : Nat} {inner : Pattern} {text : List Char} (taken : Spans inner text) :
      Spans (.group index inner) text
  | assertion {holds : List Char → List Char → Bool} : Spans (.assertion holds) []

/-- The texts that the groups of a pattern capture. -/
def Captures : Pattern → Nat → List Char → Prop
  | both first second, index, text => first.Captures index text ∨ second.Captures index text
  | either first second, index, text => first.Captures index text ∨ second.Captures index text
  | many repeated, index, text => repeated.Captures index text
  | few repeated, index, text => repeated.Captures index text
  | group own inner, index, text => (own = index ∧ inner.Spans text) ∨ inner.Captures index text
  | _, _, _ => False

/-- The later place is behind a text of the pattern, with new groups of the pattern. -/
structure Reaches (pattern : Pattern) (first last : Position) : Prop where
  spans : ∃ text, pattern.Spans text ∧ last.before = text.reverse ++ first.before ∧
    first.rest = text ++ last.rest
  groups : ∀ entry ∈ last.groups, entry ∈ first.groups ∨ pattern.Captures entry.1 entry.2

namespace Reaches

variable {pattern other whole : Pattern} {first middle last : Position}

theorem stay (taken : pattern.Spans []) : pattern.Reaches first first :=
  ⟨⟨[], taken, rfl, rfl⟩, fun _ member => Or.inl member⟩

theorem mono (reaches : pattern.Reaches first last)
    (spans : ∀ text, pattern.Spans text → whole.Spans text)
    (captures : ∀ index text, pattern.Captures index text → whole.Captures index text) :
    whole.Reaches first last := by
  obtain ⟨⟨text, taken, before, rest⟩, groups⟩ := reaches
  exact ⟨⟨text, spans text taken, before, rest⟩,
    fun entry member => (groups entry member).imp_right (captures _ _)⟩

theorem append (reaches : pattern.Reaches first middle) (further : other.Reaches middle last)
    (spans : ∀ front back, pattern.Spans front → other.Spans back → whole.Spans (front ++ back))
    (captures : ∀ index text, pattern.Captures index text ∨ other.Captures index text →
      whole.Captures index text) : whole.Reaches first last := by
  obtain ⟨⟨front, left, frontBefore, frontRest⟩, frontGroups⟩ := reaches
  obtain ⟨⟨back, right, backBefore, backRest⟩, backGroups⟩ := further
  refine ⟨⟨front ++ back, spans _ _ left right, ?_, ?_⟩, ?_⟩
  · rw [backBefore, frontBefore, List.reverse_append, List.append_assoc]
  · rw [frontRest, backRest, List.append_assoc]
  · intro entry member
    rcases backGroups entry member with old | new
    · exact (frontGroups entry old).imp_right fun own => captures _ _ (Or.inl own)
    · exact Or.inr (captures _ _ (Or.inr new))

/-- What a group captures is the text of its pattern. -/
theorem capture {index : Nat} (reaches : pattern.Reaches first last) :
    (group index pattern).Reaches first
      { last with groups := (index, first.textUntil last) :: last.groups } := by
  obtain ⟨⟨text, taken, before, rest⟩, groups⟩ := reaches
  have between : first.textUntil last = text := by
    rw [Position.textUntil, before]
    simp
  refine ⟨⟨text, .group taken, before, rest⟩, ?_⟩
  intro entry member
  rcases List.mem_cons.mp member with own | old
  · rw [own, between]
    exact Or.inr (Or.inl ⟨rfl, taken⟩)
  · exact (groups entry old).imp_right Or.inr

end Reaches

/-- A search continues only behind texts of its pattern. -/
def SoundRound {Result : Type} (pattern : Pattern)
    (round : Position → (Position → Option Result) → Option Result) : Prop :=
  ∀ position next result, round position next = some result →
    ∃ last, pattern.Reaches position last ∧ next last = some result

section Sound

variable {Result : Type} {pattern : Pattern}
variable {round : Position → (Position → Option Result) → Option Result}

theorem orElse_eq_some {first : Option Result} {second : Unit → Option Result}
    {result : Result} (found : first.orElse second = some result) :
    first = some result ∨ second () = some result := by
  cases first with
  | none => exact Or.inr found
  | some value => exact Or.inl found

theorem ite_eq_some {condition : Prop} [Decidable condition] {value : Option Result}
    {result : Result} (found : (if condition then value else none) = some result) :
    value = some result := by
  by_cases holds : condition
  · rwa [if_pos holds] at found
  · rw [if_neg holds] at found
    cases found

theorem manyRounds_sound (sound : SoundRound pattern round) (fuel : Nat) :
    SoundRound (many pattern) (manyRounds round fuel) := by
  induction fuel with
  | zero => exact fun position _ _ found => ⟨position, .stay .manyNone, found⟩
  | succ fuel inductionHypothesis =>
      intro position next result found
      rcases orElse_eq_some found with more | stops
      · obtain ⟨middle, reaches, continues⟩ := sound _ _ _ more
        obtain ⟨last, further, reached⟩ :=
          inductionHypothesis _ _ _ (ite_eq_some continues)
        exact ⟨last, reaches.append further (fun _ _ => .manyMore)
          fun _ _ either => either.elim id id, reached⟩
      · exact ⟨position, .stay .manyNone, stops⟩

theorem fewRounds_sound (sound : SoundRound pattern round) (fuel : Nat) :
    SoundRound (few pattern) (fewRounds round fuel) := by
  induction fuel with
  | zero => exact fun position _ _ found => ⟨position, .stay .fewNone, found⟩
  | succ fuel inductionHypothesis =>
      intro position next result found
      rcases orElse_eq_some found with stops | more
      · exact ⟨position, .stay .fewNone, stops⟩
      · obtain ⟨middle, reaches, continues⟩ := sound _ _ _ more
        obtain ⟨last, further, reached⟩ :=
          inductionHypothesis _ _ _ (ite_eq_some continues)
        exact ⟨last, reaches.append further (fun _ _ => .fewMore)
          fun _ _ either => either.elim id id, reached⟩

theorem run_sound (pattern : Pattern) :
    SoundRound pattern (fun position (next : Position → Option Result) =>
      pattern.run position next) := by
  induction pattern with
  | chars accepts =>
      intro position next result found
      change (match position.rest with | [] => none | head :: tail => _) = _ at found
      split at found
      · cases found
      · rename_i head tail rest
        by_cases accepted : accepts head = true
        · rw [if_pos accepted] at found
          exact ⟨{ position with before := head :: position.before, rest := tail },
            ⟨⟨[head], .chars accepted, rfl, rest⟩, fun _ member => Or.inl member⟩, found⟩
        · rw [if_neg accepted] at found
          cases found
  | empty => exact fun position _ _ found => ⟨position, .stay .empty, found⟩
  | both first second firstSound secondSound =>
      intro position next result found
      obtain ⟨middle, reaches, continues⟩ := firstSound _ _ _ found
      obtain ⟨last, further, reached⟩ := secondSound _ _ _ continues
      exact ⟨last, reaches.append further (fun _ _ => .both) fun _ _ => id, reached⟩
  | either first second firstSound secondSound =>
      intro position next result found
      rcases orElse_eq_some found with left | right
      · obtain ⟨last, reaches, reached⟩ := firstSound _ _ _ left
        exact ⟨last, reaches.mono (fun _ => .left) fun _ _ => Or.inl, reached⟩
      · obtain ⟨last, reaches, reached⟩ := secondSound _ _ _ right
        exact ⟨last, reaches.mono (fun _ => .right) fun _ _ => Or.inr, reached⟩
  | many repeated sound =>
      exact fun position => manyRounds_sound sound _ position
  | few repeated sound =>
      exact fun position => fewRounds_sound sound _ position
  | group index inner sound =>
      intro position next result found
      obtain ⟨last, reaches, reached⟩ := sound _ _ _ found
      exact ⟨_, reaches.capture, reached⟩
  | assertion holds =>
      intro position next result found
      exact ⟨position, .stay .assertion, ite_eq_some found⟩

end Sound

/-- A match starts with a text of the pattern, and its groups are texts of their
patterns. -/
theorem matchStart_sound {pattern : Pattern} {text : List Char} {last : Position}
    (found : pattern.matchStart text = some last) :
    pattern.Reaches { before := [], rest := text } last := by
  obtain ⟨reached, reaches, same⟩ := run_sound pattern _ _ _ found
  cases same
  exact reaches

theorem matchStart_captured {pattern : Pattern} {text captured : List Char} {last : Position}
    {index : Nat} (found : pattern.matchStart text = some last)
    (capture : last.captured index = some captured) : pattern.Captures index captured := by
  obtain ⟨entry, first, same⟩ := Option.map_eq_some_iff.mp capture
  rcases (matchStart_sound found).groups entry (List.mem_of_find?_eq_some first) with
    old | own
  · cases old
  · have named : entry.1 = index := by simpa using List.find?_some first
    rw [← named, ← same]
    exact own

/-- A character is found in front of the rest. -/
theorem run_char {Result : Type} {wanted : Char} {position : Position}
    {next : Position → Option Result} {result : Result}
    (found : (char wanted).run position next = some result) :
    ∃ tail, position.rest = wanted :: tail ∧
      next { position with before := wanted :: position.before, rest := tail } =
        some result := by
  rw [char, run] at found
  cases shape : position.rest with
  | nil =>
      rw [shape] at found
      cases found
  | cons head tail =>
      rw [shape] at found
      obtain ⟨same, found⟩ := Option.ite_none_right_eq_some.mp found
      rw [of_decide_eq_true same] at found ⊢
      exact ⟨tail, rfl, found⟩

theorem prefix_of_run_literal {Result : Type} (text : String) {position : Position}
    {next : Position → Option Result} {result : Result}
    (found : (literal text).run position next = some result) :
    text.toList <+: position.rest := by
  rw [literal] at found
  generalize text.toList = letters at found ⊢
  induction letters generalizing position with
  | nil => exact List.nil_prefix
  | cons head tail inductionHypothesis =>
      rw [List.foldr_cons, run] at found
      obtain ⟨rest, shape, found⟩ := run_char found
      rw [shape, List.cons_prefix_cons]
      exact ⟨rfl, inductionHypothesis found⟩

/-! ## Repeated characters -/

theorem spans_chars {accepts : Char → Bool} {text : List Char}
    (taken : (chars accepts).Spans text) : ∀ character ∈ text, accepts character = true := by
  cases taken with
  | chars accepted =>
      intro character member
      rw [List.mem_singleton.mp member]
      exact accepted

theorem spans_many {accepts : Char → Bool} {text : List Char}
    (taken : (many (chars accepts)).Spans text) :
    ∀ character ∈ text, accepts character = true := by
  generalize shape : many (chars accepts) = pattern at taken
  induction taken with
  | manyNone => exact fun _ member => absurd member List.not_mem_nil
  | manyMore round rounds _ inductionHypothesis =>
      cases shape
      intro character member
      rcases List.mem_append.mp member with front | back
      · exact spans_chars round character front
      · exact inductionHypothesis rfl character back
  | _ => cases shape

theorem spans_few {accepts : Char → Bool} {text : List Char}
    (taken : (few (chars accepts)).Spans text) :
    ∀ character ∈ text, accepts character = true := by
  generalize shape : few (chars accepts) = pattern at taken
  induction taken with
  | fewNone => exact fun _ member => absurd member List.not_mem_nil
  | fewMore round rounds _ inductionHypothesis =>
      cases shape
      intro character member
      rcases List.mem_append.mp member with front | back
      · exact spans_chars round character front
      · exact inductionHypothesis rfl character back
  | _ => cases shape

/-- A first character and further ones, all of the same kind. -/
theorem spans_first {accepts : Char → Bool} {others : Pattern} {text : List Char}
    (further : ∀ back, others.Spans back → ∀ character ∈ back, accepts character = true)
    (taken : (both (chars accepts) others).Spans text) :
    text ≠ [] ∧ ∀ character ∈ text, accepts character = true := by
  cases taken with
  | both left right =>
      constructor
      · cases left with
        | chars accepted => exact List.cons_ne_nil _ _
      · intro character member
        rcases List.mem_append.mp member with front | back
        · exact spans_chars left character front
        · exact further _ right character back

end Pattern

end Foundation.Text
