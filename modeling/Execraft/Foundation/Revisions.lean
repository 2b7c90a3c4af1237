import Mathlib.Data.List.Basic
import Mathlib.Order.Nat

/-!
# Documents with revisions

A document that is saved only by who knows its revision, and the chain of its saves.
-/

namespace Foundation

structure Versioned (Content : Type) where
  revision : Nat
  content : Content
  deriving DecidableEq

variable {Content : Type}

/-- Each save replaces the document that the one before left, under the next revision. -/
def Chain (first : Option (Versioned Content)) :
    List (Versioned Content × Versioned Content) → Option (Versioned Content) → Prop
  | [], last => last = first
  | save :: rest, last =>
      first = some save.1 ∧ save.2.revision = save.1.revision + 1 ∧ Chain (some save.2) rest last

variable {first last : Option (Versioned Content)} {old new : Versioned Content}
  {saves : List (Versioned Content × Versioned Content)}

theorem Chain.save (chain : Chain first saves (some old))
    (next : new.revision = old.revision + 1) :
    Chain first (saves ++ [(old, new)]) (some new) := by
  induction saves generalizing first with
  | nil => exact ⟨Eq.symm chain, next, rfl⟩
  | cons head tail inductionHypothesis =>
      obtain ⟨isFirst, revision, rest⟩ := chain
      exact ⟨isFirst, revision, inductionHypothesis rest⟩

/-- A document is never lost, and its revision does not fall. -/
theorem Chain.grows (chain : Chain (some old) saves last) :
    ∃ document, last = some document ∧ old.revision ≤ document.revision := by
  induction saves generalizing old with
  | nil => exact ⟨old, chain, le_refl _⟩
  | cons head tail inductionHypothesis =>
      obtain ⟨isFirst, revision, rest⟩ := chain
      obtain ⟨document, isLast, grown⟩ := inductionHypothesis rest
      refine ⟨document, isLast, ?_⟩
      rw [Option.some.inj isFirst]
      omega

/-- A document was there from the beginning. -/
theorem Chain.exists_first (chain : Chain first saves (some new)) :
    ∃ document, first = some document ∧ document.revision ≤ new.revision := by
  cases first with
  | none =>
      cases saves with
      | nil => cases chain
      | cons head tail => cases chain.1
  | some document =>
      obtain ⟨other, same, grown⟩ := chain.grows
      rw [← Option.some.inj same] at grown
      exact ⟨document, rfl, grown⟩

/-- What a document is now, it was at the beginning or has been saved. -/
theorem Chain.saved (chain : Chain first saves (some new)) :
    first = some new ∨ ∃ document, (document, new) ∈ saves := by
  induction saves generalizing first with
  | nil => exact Or.inl (Eq.symm chain)
  | cons head tail inductionHypothesis =>
      rcases inductionHypothesis chain.2.2 with same | ⟨document, member⟩
      · refine Or.inr ⟨head.1, ?_⟩
        rw [← Option.some.inj same]
        exact List.mem_cons_self ..
      · exact Or.inr ⟨document, List.mem_cons_of_mem _ member⟩

theorem Chain.revisions (chain : Chain first saves last)
    {save : Versioned Content × Versioned Content} (member : save ∈ saves) :
    save.2.revision = save.1.revision + 1 ∧
      ∃ document, last = some document ∧ save.2.revision ≤ document.revision := by
  induction saves generalizing first with
  | nil => cases member
  | cons head tail inductionHypothesis =>
      obtain ⟨-, revision, rest⟩ := chain
      rcases List.mem_cons.mp member with here | later
      · rw [here]
        exact ⟨revision, rest.grows⟩
      · exact inductionHypothesis rest later

/-- No save replaces a document of an earlier revision than the first. -/
theorem Chain.bound (chain : Chain (some old) saves last) :
    ∀ save ∈ saves, old.revision ≤ save.1.revision := by
  induction saves generalizing old with
  | nil => exact fun _ member => absurd member List.not_mem_nil
  | cons head tail inductionHypothesis =>
      obtain ⟨isFirst, revision, rest⟩ := chain
      have same := Option.some.inj isFirst
      refine List.forall_mem_cons.mpr ⟨le_of_eq (congrArg _ same), fun save member => ?_⟩
      have later := inductionHypothesis rest save member
      rw [same]
      omega

/-- Saves that come later replace documents of later revisions. -/
theorem Chain.pairwise (chain : Chain first saves last) :
    saves.Pairwise fun earlier later => earlier.2.revision ≤ later.1.revision := by
  induction saves generalizing first with
  | nil => exact List.Pairwise.nil
  | cons head tail inductionHypothesis =>
      obtain ⟨-, -, rest⟩ := chain
      exact List.pairwise_cons.mpr ⟨rest.bound, inductionHypothesis rest⟩

end Foundation
