import Mathlib.Data.List.Basic
import Mathlib.Data.List.MinMax
import Mathlib.Order.Defs.LinearOrder

/-!
# Logs whose entries are numbered in order

The number of an entry rises along the log, so that the last entry with a property is the
one with the greatest number.
-/

namespace Foundation

variable {Entry Number : Type*} [LinearOrder Number]

/-- The numbers rise along the log. -/
def Sequenced (number : Entry → Number) (log : List Entry) : Prop :=
  log.Pairwise fun first second => number first < number second

/-- The entry of the log with the property and the greatest number. -/
structure Latest (number : Entry → Number) (accepts : Entry → Bool) (log : List Entry)
    (entry : Entry) : Prop where
  member : entry ∈ log
  accepted : accepts entry = true
  greatest : ∀ other ∈ log, accepts other = true → number other ≤ number entry

namespace Sequenced

variable {number : Entry → Number} {accepts : Entry → Bool} {log : List Entry}

theorem filter (ordered : Sequenced number log) (keeps : Entry → Bool) :
    Sequenced number (log.filter keeps) :=
  List.Pairwise.filter keeps ordered

/-- Two entries of one number are the same. -/
theorem eq_of_number (ordered : Sequenced number log) {first second : Entry}
    (isFirst : first ∈ log) (isSecond : second ∈ log)
    (same : number first = number second) : first = second := by
  induction log with
  | nil => cases isFirst
  | cons head tail inductionHypothesis =>
      obtain ⟨below, rest⟩ := List.pairwise_cons.mp ordered
      rcases List.mem_cons.mp isFirst with atFirst | inFirst
      · rcases List.mem_cons.mp isSecond with atSecond | inSecond
        · rw [atFirst, atSecond]
        · rw [atFirst] at same
          exact absurd same (below second inSecond).ne
      · rcases List.mem_cons.mp isSecond with atSecond | inSecond
        · rw [atSecond] at same
          exact absurd same.symm (below first inFirst).ne
        · exact inductionHypothesis rest inFirst inSecond

theorem latest_of_getLast? (ordered : Sequenced number log) {entry : Entry}
    (last : (log.filter accepts).getLast? = some entry) : Latest number accepts log entry := by
  obtain ⟨front, shape⟩ := List.getLast?_eq_some_iff.mp last
  have kept : entry ∈ log.filter accepts := by
    rw [shape]
    exact List.mem_append_right _ List.mem_cons_self
  obtain ⟨member, here⟩ := List.mem_filter.mp kept
  refine ⟨member, here, ?_⟩
  intro other inLog otherAccepted
  have among : other ∈ front ++ [entry] := by
    rw [← shape]
    exact List.mem_filter.mpr ⟨inLog, otherAccepted⟩
  have rising : Sequenced number (front ++ [entry]) := by
    rw [← shape]
    exact ordered.filter accepts
  rcases List.mem_append.mp among with before | atEnd
  · exact ((List.pairwise_append.mp rising).2.2 other before entry List.mem_cons_self).le
  · rw [List.mem_singleton.mp atEnd]

theorem latest_of_find? (ordered : Sequenced number log) {entry : Entry}
    (found : log.reverse.find? accepts = some entry) : Latest number accepts log entry := by
  apply ordered.latest_of_getLast?
  rw [List.getLast?_eq_head?_reverse, ← List.filter_reverse, List.head?_filter]
  exact found

end Sequenced

/-- The greatest of some numbers behind a bound, or the bound, is below another number
when all of them are. -/
theorem max?_getD_lt_iff {numbers : List Number} {bound limit : Number}
    (above : ∀ number ∈ numbers, bound < number) :
    numbers.max?.getD bound < limit ↔ bound < limit ∧ ∀ number ∈ numbers, number < limit := by
  cases greatest : numbers.max? with
  | none =>
      rw [List.max?_eq_none_iff.mp greatest]
      simp
  | some number =>
      obtain ⟨member, largest⟩ := List.max?_eq_some_iff.mp greatest
      rw [Option.getD_some]
      constructor
      · intro below
        refine ⟨(above number member).trans below, ?_⟩
        intro other inNumbers
        exact (largest other inNumbers).trans_lt below
      · intro both
        exact both.2 number member

end Foundation
