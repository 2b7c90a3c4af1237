import Mathlib.Data.List.Nodup
import Mathlib.Data.List.Perm.Subperm
import Mathlib.Data.List.Range

/-!
# Fresh names

The loop that counts up until a name is free.
-/

namespace Foundation

variable {Name : Type} [DecidableEq Name]

/-- The first free one of `name index`, `name (index + 1)`, ..., after at most
`fuel` steps. -/
def firstFree (taken : List Name) (name : Nat → Name) : Nat → Nat → Name
  | 0, index => name index
  | fuel + 1, index =>
      if name index ∈ taken then firstFree taken name fuel (index + 1) else name index

theorem firstFree_mem {taken : List Name} {name : Nat → Name} {fuel index : Nat}
    (member : firstFree taken name fuel index ∈ taken) :
    ∀ offset, offset ≤ fuel → name (index + offset) ∈ taken := by
  induction fuel generalizing index with
  | zero =>
      intro offset small
      have zero : offset = 0 := by omega
      rw [zero]
      exact member
  | succ fuel inductionHypothesis =>
      rw [firstFree] at member
      by_cases used : name index ∈ taken
      · rw [if_pos used] at member
        intro offset small
        cases offset with
        | zero => exact used
        | succ offset =>
            have later := inductionHypothesis member offset (by omega)
            have same : index + 1 + offset = index + (offset + 1) := by omega
            rwa [same] at later
      · rw [if_neg used] at member
        exact absurd member used

/-- As many steps as there are taken names are enough. -/
theorem firstFree_notMem {taken : List Name} {name : Nat → Name}
    (injective : Function.Injective name) (index : Nat) :
    firstFree taken name taken.length index ∉ taken := by
  intro member
  have used := firstFree_mem member
  have tried : ((List.range (taken.length + 1)).map fun offset =>
      name (index + offset)).Nodup := by
    apply List.Nodup.map _ List.nodup_range
    intro first second same
    have equal := injective same
    omega
  have included : ((List.range (taken.length + 1)).map fun offset =>
      name (index + offset)) ⊆ taken := by
    intro candidate inRange
    obtain ⟨offset, small, same⟩ := List.mem_map.mp inRange
    rw [← same]
    exact used offset (by
      have bound := List.mem_range.mp small
      omega)
  have short := (List.subperm_of_subset tried included).length_le
  rw [List.length_map, List.length_range] at short
  omega

/-- The name is one of those that the loop tries. -/
theorem firstFree_eq (taken : List Name) (name : Nat → Name) (fuel index : Nat) :
    ∃ offset, firstFree taken name fuel index = name (index + offset) := by
  induction fuel generalizing index with
  | zero => exact ⟨0, rfl⟩
  | succ fuel inductionHypothesis =>
      rw [firstFree]
      by_cases used : name index ∈ taken
      · rw [if_pos used]
        obtain ⟨offset, same⟩ := inductionHypothesis (index + 1)
        refine ⟨offset + 1, ?_⟩
        rw [same]
        congr 1
        omega
      · rw [if_neg used]
        exact ⟨0, rfl⟩

/-! ## Numbered names -/

theorem toList_toString (number : Nat) :
    (toString number).toList = Nat.toDigits 10 number := by
  rw [Nat.toString_eq_repr, Nat.repr_eq_ofList_toDigits, String.toList_ofList]

theorem toString_injective : Function.Injective (toString : Nat → String) := by
  intro first second same
  have digits := congrArg String.toList same
  rw [toList_toString, toList_toString] at digits
  have values := congrArg (fun digits => Nat.ofDigitChars 10 digits 0) digits
  rwa [Nat.ofDigitChars_ten_toDigits, Nat.ofDigitChars_ten_toDigits] at values

/-- Different numbers behind one text give different names. -/
theorem numbered_injective (base : String) :
    Function.Injective fun number : Nat => base ++ toString number := by
  intro first second same
  have characters := congrArg String.toList same
  rw [String.toList_append, String.toList_append] at characters
  exact toString_injective (String.toList_inj.mp (List.append_cancel_left characters))

/-- A number ends with a digit. -/
theorem isDigit_of_getLast? {number : Nat} {last : Char}
    (member : last ∈ (toString number).toList.getLast?) : last.isDigit = true := by
  rw [toList_toString] at member
  exact Nat.isDigit_of_mem_toDigits (by decide) (by decide)
    (List.mem_of_getLast? member)

end Foundation
