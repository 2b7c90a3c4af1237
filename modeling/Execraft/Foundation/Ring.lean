import Mathlib.Algebra.Order.Ring.Int
import Mathlib.Data.List.Basic

/-!
# Choosing in a ring

Candidates stand in a ring.  The heaviest of them may be kept, preferred ones move to the
front, and the choice falls on the one after a cursor.
-/

namespace Foundation

/-! ## The heaviest -/

section Heaviest

variable {Key : Type*}

/-- The largest weight, and `0` where there is none above it. -/
def largestWeight (weighted : List (Key × Int)) : Int :=
  weighted.foldr (fun item best => max item.2 best) 0

/-- Some item has the largest weight. -/
theorem exists_largestWeight {weighted : List (Key × Int)} (nonempty : weighted ≠ [])
    (positive : ∀ item ∈ weighted, 0 < item.2) :
    ∃ item ∈ weighted, item.2 = largestWeight weighted := by
  induction weighted with
  | nil => exact absurd rfl nonempty
  | cons head tail inductionHypothesis =>
      have headPositive := positive head List.mem_cons_self
      by_cases single : tail = []
      · refine ⟨head, List.mem_cons_self, ?_⟩
        rw [single]
        exact (max_eq_left headPositive.le).symm
      · obtain ⟨item, member, weight⟩ := inductionHypothesis single
          fun item member => positive item (List.mem_cons_of_mem _ member)
        rcases le_total head.2 (largestWeight tail) with light | heavy
        · exact ⟨item, List.mem_cons_of_mem _ member, weight.trans (max_eq_right light).symm⟩
        · exact ⟨head, List.mem_cons_self, (max_eq_left heavy).symm⟩

/-- A filter that spares the heaviest items leaves some. -/
theorem filter_ne_nil_of_heaviest {weighted : List (Key × Int)} {keeps : Key × Int → Bool}
    (nonempty : weighted ≠ []) (positive : ∀ item ∈ weighted, 0 < item.2)
    (spares : ∀ item, item.2 = largestWeight weighted → keeps item = true) :
    weighted.filter keeps ≠ [] := by
  obtain ⟨item, member, weight⟩ := exists_largestWeight nonempty positive
  exact List.ne_nil_of_mem (List.mem_filter.mpr ⟨member, spares item weight⟩)

end Heaviest

/-! ## The ring -/

section Ring

variable {Key : Type*} [DecidableEq Key]

/-- The preferred candidates in their own order, then the others. -/
def preferredFirst (preferred candidates : List Key) : List Key :=
  let preferredOrder := preferred.filter fun candidate => candidate ∈ candidates
  preferredOrder ++ candidates.filter fun candidate => candidate ∉ preferredOrder

theorem mem_preferredFirst {preferred candidates : List Key} {candidate : Key} :
    candidate ∈ preferredFirst preferred candidates ↔ candidate ∈ candidates := by
  simp only [preferredFirst, List.mem_append, List.mem_filter, decide_eq_true_eq]
  constructor
  · rintro (⟨-, member⟩ | ⟨member, -⟩)
    · exact member
    · exact member
  · intro member
    by_cases preference : candidate ∈ preferred
    · exact Or.inl ⟨preference, member⟩
    · exact Or.inr ⟨member, fun both => preference both.1⟩

/-- The candidate after the cursor, and the first where the cursor is none of them. -/
def nextInRing (candidates : List Key) (cursor : Option Key) : Option Key :=
  match cursor with
  | none => candidates.head?
  | some current =>
      if current ∈ candidates then
        candidates[(candidates.idxOf current + 1) % candidates.length]?
      else
        candidates.head?

theorem mem_of_nextInRing {candidates : List Key} {cursor : Option Key} {candidate : Key}
    (next : nextInRing candidates cursor = some candidate) : candidate ∈ candidates := by
  cases cursor with
  | none => exact List.mem_of_mem_head? next
  | some current =>
      simp only [nextInRing] at next
      split at next
      · exact List.mem_of_getElem? next
      · exact List.mem_of_mem_head? next

theorem nextInRing_eq_none_iff {candidates : List Key} {cursor : Option Key} :
    nextInRing candidates cursor = none ↔ candidates = [] := by
  constructor
  · intro stopped
    cases cursor with
    | none => exact List.head?_eq_none_iff.mp stopped
    | some current =>
        simp only [nextInRing] at stopped
        split at stopped
        · rename_i member
          have bound := List.getElem?_eq_none_iff.mp stopped
          have positive := List.length_pos_of_mem member
          exact absurd (Nat.mod_lt _ positive) (Nat.not_lt.mpr bound)
        · exact List.head?_eq_none_iff.mp stopped
  · intro empty
    cases cursor with
    | none => simp [nextInRing, empty]
    | some current => simp [nextInRing, empty]

end Ring

end Foundation
