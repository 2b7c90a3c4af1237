import Execraft.Foundation.Text.Lines

/-!
# Stripped texts and lower case

`str.strip` and `str.lower` are idempotent, and lowering a stripped text leaves
it stripped.  The case table is that of the interpreter's Unicode version; what
the versions share is carried by the structure.
-/

namespace Foundation.Text

/-! ## Stripping -/

/-- No white space at either end. -/
structure Stripped (text : List Char) : Prop where
  front : ∀ head ∈ text.head?, isSpace head = false
  back : ∀ last ∈ text.getLast?, isSpace last = false

theorem stripped_nil : Stripped [] :=
  ⟨by simp, by simp⟩

theorem stripped_iff_trimmed {text : List Char} : Stripped text ↔ Trimmed isSpace text :=
  ⟨fun stripped => ⟨stripped.front, stripped.back⟩,
    fun trimmed => ⟨trimmed.front, trimmed.back⟩⟩

theorem stripped_strip (text : List Char) : Stripped (strip text) :=
  stripped_iff_trimmed.mpr (trimmed_trim text)

theorem strip_of_stripped {text : List Char} (stripped : Stripped text) :
    strip text = text :=
  trim_of_trimmed (stripped_iff_trimmed.mp stripped)

theorem strip_strip (text : List Char) : strip (strip text) = strip text :=
  strip_of_stripped (stripped_strip text)

theorem stripped_of_visible {text : List Char}
    (visible : ∀ character ∈ text, isSpace character = false) : Stripped text :=
  ⟨fun head member => visible head (List.mem_of_mem_head? member),
    fun last member => visible last (List.mem_of_getLast? member)⟩

/-! ## Lower case -/

/-- The lower-case mapping of single characters. -/
structure CaseTable where
  mapping : Char → List Char
  ascii : ∀ character, character.toNat < 128 →
    mapping character = [character.toLower]
  nonempty : ∀ character, mapping character ≠ []
  stable : ∀ character, ∀ lowered ∈ mapping character,
    mapping lowered = [lowered]
  visible : ∀ character, isSpace character = false →
    ∀ lowered ∈ mapping character, isSpace lowered = false
  sigma : mapping 'Σ' = ['σ']
  finalSigma : mapping 'ς' = ['ς']

/-- `str.lower`: a capital sigma at the end of a word has a form of its own,
and `final` decides on the text before and after it whether it stands there. -/
def lowerFrom (table : CaseTable) (final : List Char → List Char → Bool) :
    List Char → List Char → List Char
  | _, [] => []
  | before, head :: tail =>
      (if head = 'Σ' then [if final before tail then 'ς' else 'σ']
        else table.mapping head) ++
        lowerFrom table final (before ++ [head]) tail

def lower (table : CaseTable) (final : List Char → List Char → Bool)
    (text : List Char) : List Char :=
  lowerFrom table final [] text

section Lower

variable (table : CaseTable) (final : List Char → List Char → Bool)

theorem CaseTable.stable_sigma : table.mapping 'σ' = ['σ'] :=
  table.stable 'Σ' 'σ' (by simp [table.sigma])

/-- Lowered characters are fixed by the table and no capital sigma. -/
private theorem mem_lowerFrom {before text : List Char} {lowered : Char}
    (member : lowered ∈ lowerFrom table final before text) :
    table.mapping lowered = [lowered] ∧ lowered ≠ 'Σ' := by
  induction text generalizing before with
  | nil => cases member
  | cons head tail inductionHypothesis =>
      rw [lowerFrom] at member
      rcases List.mem_append.mp member with atHead | inTail
      · by_cases sigma : head = 'Σ'
        · rw [if_pos sigma, List.mem_singleton] at atHead
          rw [atHead]
          split
          · exact ⟨table.finalSigma, by decide⟩
          · exact ⟨table.stable_sigma, by decide⟩
        · rw [if_neg sigma] at atHead
          have fixed := table.stable head lowered atHead
          refine ⟨fixed, ?_⟩
          rintro rfl
          rw [table.sigma] at fixed
          exact absurd fixed (by decide)
      · exact inductionHypothesis inTail

private theorem lowerFrom_of_fixed {text : List Char}
    (fixed : ∀ character ∈ text,
      table.mapping character = [character] ∧ character ≠ 'Σ')
    (before : List Char) : lowerFrom table final before text = text := by
  induction text generalizing before with
  | nil => rfl
  | cons head tail inductionHypothesis =>
      obtain ⟨headFixed, notSigma⟩ := fixed head (List.mem_cons_self ..)
      rw [lowerFrom, if_neg notSigma, headFixed, inductionHypothesis
        fun character member => fixed character (List.mem_cons_of_mem _ member)]
      rfl

theorem lower_lower (text : List Char) :
    lower table final (lower table final text) = lower table final text :=
  lowerFrom_of_fixed table final (fun _ member => mem_lowerFrom table final member) []

/-- Small ASCII letters, digits and punctuation are left as they are. -/
theorem lower_ascii {text : List Char}
    (small : ∀ character ∈ text,
      character.toNat < 128 ∧ character.toLower = character) :
    lower table final text = text := by
  apply lowerFrom_of_fixed
  intro character member
  obtain ⟨narrow, fixed⟩ := small character member
  refine ⟨?_, ?_⟩
  · rw [table.ascii character narrow, fixed]
  · rintro rfl
    exact absurd narrow (by decide)

/-- An ASCII character at the start stays at the start. -/
theorem head?_lower {head : Char} (narrow : head.toNat < 128) (tail : List Char) :
    (lower table final (head :: tail)).head? = some head.toLower := by
  have plain : head ≠ 'Σ' := by
    intro sigma
    rw [sigma] at narrow
    exact absurd narrow (by decide)
  rw [lower, lowerFrom, if_neg plain, table.ascii head narrow]
  rfl

private theorem lowerHead {head : Char} (visible : isSpace head = false)
    (before tail : List Char) :
    let lowered := if head = 'Σ' then [if final before tail then 'ς' else 'σ']
      else table.mapping head
    lowered ≠ [] ∧ ∀ character ∈ lowered, isSpace character = false := by
  intro lowered
  by_cases sigma : head = 'Σ'
  · have one : lowered = [if final before tail then 'ς' else 'σ'] :=
      if_pos sigma
    rw [one]
    refine ⟨by simp, ?_⟩
    intro character member
    rw [List.mem_singleton.mp member]
    split <;> decide
  · have mapped : lowered = table.mapping head := if_neg sigma
    rw [mapped]
    exact ⟨table.nonempty head, table.visible head visible⟩

private theorem lowerFrom_back {text : List Char}
    (back : ∀ last ∈ text.getLast?, isSpace last = false) (before : List Char) :
    ∀ last ∈ (lowerFrom table final before text).getLast?,
      isSpace last = false := by
  induction text generalizing before with
  | nil =>
      intro last atEnd
      cases atEnd
  | cons head tail inductionHypothesis =>
      intro last atEnd
      rw [lowerFrom, List.getLast?_append] at atEnd
      cases tailEnd : (lowerFrom table final (before ++ [head]) tail).getLast? with
      | some inner =>
          rw [tailEnd, Option.some_or] at atEnd
          cases tail with
          | nil => cases tailEnd
          | cons next rest =>
              apply inductionHypothesis (by simpa using back) (before ++ [head])
              rw [tailEnd]
              exact atEnd
      | none =>
          rw [tailEnd, Option.none_or] at atEnd
          have tailEmpty : tail = [] := by
            cases tail with
            | nil => rfl
            | cons next rest =>
                exfalso
                rw [List.getLast?_eq_none_iff, lowerFrom,
                  List.append_eq_nil_iff] at tailEnd
                by_cases sigma : next = 'Σ'
                · rw [if_pos sigma] at tailEnd
                  cases tailEnd.1
                · rw [if_neg sigma] at tailEnd
                  exact table.nonempty next tailEnd.1
          subst tailEmpty
          obtain ⟨_, visible⟩ := lowerHead table final (back head rfl) before []
          exact visible last (List.mem_of_getLast? atEnd)

theorem lower_stripped {text : List Char} (stripped : Stripped text) :
    Stripped (lower table final text) := by
  refine ⟨?_, lowerFrom_back table final stripped.back []⟩
  intro first member
  cases text with
  | nil => cases member
  | cons head tail =>
      obtain ⟨nonempty, visible⟩ :=
        lowerHead table final (stripped.front head rfl) [] tail
      rw [lower, lowerFrom, List.head?_append] at member
      obtain ⟨lowered, rest, shape⟩ := List.exists_cons_of_ne_nil nonempty
      rw [shape] at member
      cases member
      exact visible _ (by rw [shape]; exact List.mem_cons_self ..)

end Lower

end Foundation.Text
