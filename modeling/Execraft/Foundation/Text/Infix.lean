import Mathlib.Data.List.Infix

/-!
# Occurrences in concatenated texts

Where a text can occur in a concatenation of which one part does not fit to it.
-/

namespace Foundation.Text

variable {Symbol : Type} {needle text addition : List Symbol}

/-- No end of the needle begins the addition, and the addition does not contain the
needle. -/
def EndsApart (needle addition : List Symbol) : Prop :=
  (∀ back ∈ needle.tails, back = [] ∨ ¬ back <+: addition) ∧ ¬ needle <:+: addition

/-- No beginning of the needle ends the addition, and the addition does not contain
the needle. -/
def StartsApart (needle addition : List Symbol) : Prop :=
  (∀ front ∈ needle.inits, front = [] ∨ ¬ front <:+ addition) ∧ ¬ needle <:+: addition

instance [DecidableEq Symbol] : DecidableRel (@EndsApart Symbol) :=
  fun needle addition => inferInstanceAs (Decidable
    ((∀ back ∈ needle.tails, back = [] ∨ ¬ back <+: addition) ∧ ¬ needle <:+: addition))

instance [DecidableEq Symbol] : DecidableRel (@StartsApart Symbol) :=
  fun needle addition => inferInstanceAs (Decidable
    ((∀ front ∈ needle.inits, front = [] ∨ ¬ front <:+ addition) ∧
      ¬ needle <:+: addition))

theorem infix_append_of_endsApart (apart : EndsApart needle addition) :
    needle <:+: text ++ addition ↔ needle <:+: text := by
  constructor
  · rintro ⟨before, after, split⟩
    rcases List.append_eq_append_iff.mp split with
      ⟨rest, whole, _⟩ | ⟨rest, cut, shape⟩
    · rw [whole]
      exact (List.infix_append before needle rest).trans (List.infix_refl _)
    · -- The needle reaches into the addition.
      rcases List.append_eq_append_iff.mp cut with
        ⟨front, within, needleShape⟩ | ⟨front, within, restShape⟩
      · have back : rest ∈ needle.tails := by
          rw [List.mem_tails, needleShape]
          exact List.suffix_append front rest
        rcases apart.1 rest back with empty | misfit
        · rw [empty, List.append_nil] at needleShape
          rw [within, needleShape]
          exact (List.suffix_append before front).isInfix
        · exact absurd ⟨after, shape.symm⟩ misfit
      · exact absurd ⟨front, after, by rw [shape, restShape]⟩ apart.2
  · intro inside
    exact inside.trans (List.prefix_append text addition).isInfix

theorem infix_append_of_startsApart (apart : StartsApart needle addition) :
    needle <:+: addition ++ text ↔ needle <:+: text := by
  have reversed : EndsApart needle.reverse addition.reverse := by
    constructor
    · intro back member
      rw [List.mem_tails, ← List.reverse_prefix, List.reverse_reverse] at member
      rcases apart.1 back.reverse (List.mem_inits _ _ |>.mpr member) with empty | misfit
      · exact Or.inl (List.reverse_eq_nil_iff.mp empty)
      · right
        intro fits
        exact misfit (by rwa [← List.reverse_prefix, List.reverse_reverse])
    · rw [List.reverse_infix]
      exact apart.2
  rw [← List.reverse_infix, List.reverse_append,
    infix_append_of_endsApart reversed, List.reverse_infix]

end Foundation.Text
