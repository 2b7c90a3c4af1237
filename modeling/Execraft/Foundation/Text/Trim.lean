import Mathlib.Data.List.TakeWhile

/-!
# Texts without some symbols at their ends
-/

namespace Foundation.Text

section Trim

variable {Symbol : Type} (discards : Symbol → Bool)

/-- Drop symbols at both ends. -/
def trim (text : List Symbol) : List Symbol :=
  ((text.dropWhile discards).reverse.dropWhile discards).reverse

/-- Neither end is to be dropped. -/
structure Trimmed (text : List Symbol) : Prop where
  front : ∀ head ∈ text.head?, discards head = false
  back : ∀ last ∈ text.getLast?, discards last = false

variable {discards} {text : List Symbol}

private theorem head_dropWhile (text : List Symbol) :
    ∀ head ∈ (text.dropWhile discards).head?, discards head = false := by
  intro head member
  cases shape : text.dropWhile discards with
  | nil =>
      rw [shape] at member
      cases member
  | cons first rest =>
      rw [shape] at member
      cases member
      have kept := List.head_dropWhile_not discards (l := text) (by simp [shape])
      simpa [shape] using kept

/-- Dropping symbols at the back keeps the first one. -/
theorem dropWhile_eq_trim_append (discards : Symbol → Bool) (text : List Symbol) :
    ∃ dropped, text.dropWhile discards = trim discards text ++ dropped := by
  obtain ⟨dropped, joined⟩ :=
    List.dropWhile_suffix (l := (text.dropWhile discards).reverse) discards
  have reversed := congrArg List.reverse joined
  refine ⟨dropped.reverse, ?_⟩
  simpa [trim] using reversed.symm

theorem trimmed_trim (text : List Symbol) : Trimmed discards (trim discards text) := by
  refine ⟨?_, ?_⟩
  · intro head member
    obtain ⟨dropped, whole⟩ := dropWhile_eq_trim_append discards text
    apply head_dropWhile text head
    rw [whole, List.head?_append, Option.mem_def.mp member]
    rfl
  · intro last member
    apply head_dropWhile (text.dropWhile discards).reverse last
    simpa [trim, List.getLast?_reverse] using member

theorem trim_of_trimmed (trimmed : Trimmed discards text) : trim discards text = text := by
  have front : text.dropWhile discards = text := by
    cases text with
    | nil => rfl
    | cons head tail =>
        exact List.dropWhile_cons_of_neg (by simp [trimmed.front head rfl])
  have back : text.reverse.dropWhile discards = text.reverse := by
    cases shape : text.reverse with
    | nil => rfl
    | cons last rest =>
        apply List.dropWhile_cons_of_neg
        have atEnd : last ∈ text.getLast? := by
          rw [← List.head?_reverse, shape]
          rfl
        simp [trimmed.back last atEnd]
  rw [trim, front, back, List.reverse_reverse]

theorem trim_trim (text : List Symbol) :
    trim discards (trim discards text) = trim discards text :=
  trim_of_trimmed (trimmed_trim text)

theorem trim_sublist (text : List Symbol) : (trim discards text).Sublist text := by
  obtain ⟨dropped, whole⟩ := dropWhile_eq_trim_append discards text
  have front : (trim discards text).Sublist (text.dropWhile discards) := by
    rw [whole]
    exact List.sublist_append_left _ _
  exact front.trans (List.dropWhile_sublist discards)

theorem trim_eq_nil_iff :
    trim discards text = [] ↔ ∀ symbol ∈ text, discards symbol = true := by
  constructor
  · intro trimmed
    by_contra notAll
    have leftover : text.dropWhile discards ≠ [] := by
      intro empty
      exact notAll (List.dropWhile_eq_nil_iff.mp empty)
    have gone : (text.dropWhile discards).reverse.dropWhile discards = [] := by
      simpa [trim] using trimmed
    have dropped := List.dropWhile_eq_nil_iff.mp gone
      ((text.dropWhile discards).head leftover) (by simp)
    have kept := List.head_dropWhile_not discards leftover
    rw [dropped] at kept
    cases kept
  · intro all
    have gone := List.dropWhile_eq_nil_iff.mpr all
    simp [trim, gone]

end Trim

end Foundation.Text
