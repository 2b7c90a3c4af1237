import Execraft.Foundation.Text.Case

/-!
# Joined texts

Texts joined by a separator with the empty ones left out, and the ends of what
comes out.
-/

namespace Foundation.Text

/-- `separator.join(part for part in parts if part)`. -/
def joinParts (separator : String) (parts : List String) : String :=
  separator.intercalate (parts.filter (· ≠ ""))

variable {separator : String} {parts : List String}

theorem toList_ne_nil {text : String} (nonempty : text ≠ "") : text.toList ≠ [] := by
  intro empty
  exact nonempty (String.toList_eq_nil_iff.mp empty)

theorem joinParts_cons_empty : joinParts separator ("" :: parts) = joinParts separator parts := by
  rw [joinParts, List.filter_cons_of_neg (by simp)]
  rfl

theorem joinParts_eq_empty_iff :
    joinParts separator parts = "" ↔ ∀ part ∈ parts, part = "" := by
  induction parts with
  | nil => simp [joinParts]
  | cons head tail inductionHypothesis =>
      rw [List.forall_mem_cons, ← inductionHypothesis]
      by_cases empty : head = ""
      · rw [empty, joinParts_cons_empty]
        simp
      · rw [joinParts, List.filter_cons_of_pos (by simpa using empty)]
        cases tail.filter (· ≠ "") with
        | nil => simp [empty]
        | cons next rest => simp [empty]

/-- The first character is that of the first part that has one. -/
theorem head?_joinParts (first : String) (nonempty : first ≠ "") :
    (joinParts separator (first :: parts)).toList.head? = first.toList.head? := by
  rw [joinParts, List.filter_cons_of_pos (by simpa using nonempty)]
  cases parts.filter (· ≠ "") with
  | nil => rw [String.intercalate_singleton]
  | cons next rest =>
      obtain ⟨character, others, shape⟩ :=
        List.exists_cons_of_ne_nil (toList_ne_nil nonempty)
      rw [String.intercalate_cons_cons, String.toList_append, String.toList_append, shape]
      rfl

/-- The last character is that of the last part that has one. -/
theorem getLast?_joinParts (first : String) (rest : joinParts separator parts ≠ "") :
    (joinParts separator (first :: parts)).toList.getLast? =
      (joinParts separator parts).toList.getLast? := by
  by_cases empty : first = ""
  · rw [empty, joinParts_cons_empty]
  · rw [joinParts, List.filter_cons_of_pos (by simpa using empty)]
    rw [joinParts] at rest ⊢
    cases shape : parts.filter (· ≠ "") with
    | nil => exact absurd (by rw [shape, String.intercalate_nil]) rest
    | cons next others =>
        rw [shape] at rest
        rw [String.intercalate_cons_cons, String.toList_append, List.getLast?_append,
          List.getLast?_eq_some_getLast (toList_ne_nil rest)]
        rfl

theorem joinParts_singleton (part : String) : joinParts separator [part] = part := by
  by_cases empty : part = ""
  · rw [empty, joinParts_cons_empty]
    rfl
  · rw [joinParts, List.filter_cons_of_pos (by simpa using empty), List.filter_nil,
      String.intercalate_singleton]

theorem joinParts_of_empty (first : String) (rest : joinParts separator parts = "") :
    joinParts separator (first :: parts) = first := by
  have gone : parts.filter (· ≠ "") = [] := by
    rw [List.filter_eq_nil_iff]
    intro part member
    simpa using joinParts_eq_empty_iff.mp rest part member
  rw [joinParts, List.filter_cons, gone]
  by_cases empty : first = ""
  · simp [empty]
  · simp [empty]

/-- No white space at the front. -/
def StartsVisibly (text : String) : Prop :=
  ∀ head ∈ text.toList.head?, isSpace head = false

/-- No white space at the back. -/
def EndsVisibly (text : String) : Prop :=
  ∀ last ∈ text.toList.getLast?, isSpace last = false

theorem stripped_iff {text : String} :
    Stripped text.toList ↔ StartsVisibly text ∧ EndsVisibly text :=
  ⟨fun stripped => ⟨stripped.front, stripped.back⟩, fun ends => ⟨ends.1, ends.2⟩⟩

theorem startsVisibly_joinParts (each : ∀ part ∈ parts, StartsVisibly part) :
    StartsVisibly (joinParts separator parts) := by
  induction parts with
  | nil =>
      intro head member
      cases member
  | cons first rest inductionHypothesis =>
      by_cases empty : first = ""
      · rw [empty, joinParts_cons_empty]
        exact inductionHypothesis fun part member => each part (List.mem_cons_of_mem _ member)
      · intro head member
        rw [head?_joinParts first empty] at member
        exact each first List.mem_cons_self head member

theorem endsVisibly_joinParts_cons (first : String) :
    EndsVisibly (joinParts separator (first :: parts)) ↔
      if joinParts separator parts = "" then EndsVisibly first
      else EndsVisibly (joinParts separator parts) := by
  split_ifs with rest
  · rw [joinParts_of_empty first rest]
  · rw [EndsVisibly, getLast?_joinParts first rest]
    rfl

theorem endsVisibly_joinParts (each : ∀ part ∈ parts, EndsVisibly part) :
    EndsVisibly (joinParts separator parts) := by
  induction parts with
  | nil =>
      intro last member
      cases member
  | cons first rest inductionHypothesis =>
      rw [endsVisibly_joinParts_cons]
      split_ifs with empty
      · exact each first List.mem_cons_self
      · exact inductionHypothesis fun part member => each part (List.mem_cons_of_mem _ member)

end Foundation.Text
