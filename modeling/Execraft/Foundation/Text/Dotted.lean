import Mathlib.Data.List.Basic

/-!
# The last parts of a text

A text is split at a mark, and its last parts are joined again.
-/

namespace Foundation.Text

section Parts

variable {Symbol : Type} [DecidableEq Symbol] (mark : Symbol)

/-- The last parts of a text that has more of them. -/
def lastParts (count : Nat) (text : List Symbol) : List Symbol :=
  let parts := text.splitOn mark
  if parts.length ≤ count then text
  else [mark].intercalate (parts.drop (parts.length - count))

variable {mark} {text part : List Symbol} {count : Nat}

theorem not_mem_of_mem_splitOn (member : part ∈ text.splitOn mark) : mark ∉ part := by
  induction text generalizing part with
  | nil =>
      rw [List.splitOn_nil, List.mem_singleton] at member
      rw [member]
      exact List.not_mem_nil
  | cons head tail inductionHypothesis =>
      rw [List.splitOn_cons_eq_if_modifyHead] at member
      by_cases atMark : head = mark
      · rw [if_pos (beq_iff_eq.mpr atMark)] at member
        rcases List.mem_cons.mp member with first | later
        · rw [first]
          exact List.not_mem_nil
        · exact inductionHypothesis later
      · rw [if_neg (by simpa using atMark)] at member
        cases split : tail.splitOn mark with
        | nil => exact absurd split (List.splitOn_ne_nil mark tail)
        | cons first others =>
            rw [split] at member inductionHypothesis
            rcases List.mem_cons.mp member with same | later
            · rw [same, List.mem_cons, not_or]
              exact ⟨Ne.symm atMark, inductionHypothesis List.mem_cons_self⟩
            · exact inductionHypothesis (List.mem_cons_of_mem _ later)

theorem length_splitOn (mark : Symbol) (text : List Symbol) :
    (text.splitOn mark).length = text.count mark + 1 := by
  induction text with
  | nil => rfl
  | cons head tail inductionHypothesis =>
      rw [List.splitOn_cons_eq_if_modifyHead]
      by_cases atMark : head = mark
      · rw [if_pos (beq_iff_eq.mpr atMark), List.length_cons, inductionHypothesis, atMark,
          List.count_cons_self]
      · rw [if_neg (by simpa using atMark), List.length_modifyHead, inductionHypothesis,
          List.count_cons_of_ne atMark]

omit [DecidableEq Symbol] in
theorem intercalate_drop_suffix (mark : Symbol) (parts : List (List Symbol)) (skipped : Nat) :
    [mark].intercalate (parts.drop skipped) <:+ [mark].intercalate parts := by
  induction parts generalizing skipped with
  | nil => simp only [List.drop_nil, List.suffix_rfl]
  | cons first others inductionHypothesis =>
      cases skipped with
      | zero => exact List.suffix_rfl
      | succ skipped =>
          rw [List.drop_succ_cons]
          refine (inductionHypothesis skipped).trans ?_
          cases others with
          | nil => exact List.nil_suffix
          | cons second rest =>
              rw [List.intercalate_cons_cons, List.append_assoc]
              exact (List.suffix_append _ _).trans (List.suffix_append _ _)

theorem lastParts_suffix : lastParts mark count text <:+ text := by
  unfold lastParts
  by_cases few : (text.splitOn mark).length ≤ count
  · simp only [if_pos few, List.suffix_rfl]
  · rw [if_neg few]
    have suffix := intercalate_drop_suffix mark (text.splitOn mark)
      ((text.splitOn mark).length - count)
    rwa [List.intercalate_splitOn] at suffix

theorem lastParts_of_count (few : text.count mark < count) : lastParts mark count text = text := by
  rw [lastParts, length_splitOn, if_pos (Nat.succ_le_of_lt few)]

/-- The last parts are no more than wanted. -/
theorem count_lastParts (positive : 0 < count) :
    (lastParts mark count text).count mark < count := by
  unfold lastParts
  by_cases few : (text.splitOn mark).length ≤ count
  · rw [if_pos few]
    rw [length_splitOn] at few
    exact few
  · rw [if_neg few]
    let kept := (text.splitOn mark).drop ((text.splitOn mark).length - count)
    have size : kept.length = count := by
      rw [List.length_drop]
      omega
    have free : ∀ part ∈ kept, mark ∉ part :=
      fun part member => not_mem_of_mem_splitOn (List.mem_of_mem_drop member)
    have present : kept ≠ [] := List.length_pos_iff.mp (by omega)
    have split := congrArg List.length (List.splitOn_intercalate mark free present)
    rw [length_splitOn, size] at split
    show ([mark].intercalate kept).count mark < count
    omega

end Parts

end Foundation.Text
