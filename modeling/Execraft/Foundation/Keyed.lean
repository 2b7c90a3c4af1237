import Mathlib.Data.List.Nodup
import Mathlib.Data.List.Basic

/-!
# Lists with unique keys

Lookup by key in a list of records whose keys are pairwise distinct.
-/

namespace Foundation

variable {Key Value Other : Type} [DecidableEq Key]

theorem find?_key_some {key : Value → Key} {values : List Value} {wanted : Key}
    {value : Value}
    (found : values.find? (fun value => key value = wanted) = some value) :
    value ∈ values ∧ key value = wanted := by
  refine ⟨List.mem_of_find?_eq_some found, ?_⟩
  simpa using List.find?_some found

theorem find?_key_eq_some {key : Value → Key} {values : List Value}
    (unique : (values.map key).Nodup) {wanted : Key} {value : Value} :
    values.find? (fun value => key value = wanted) = some value ↔
      value ∈ values ∧ key value = wanted := by
  constructor
  · exact find?_key_some
  · rintro ⟨member, rfl⟩
    cases found : values.find? (fun other => key other = key value) with
    | none =>
        have missing := List.find?_eq_none.mp found value member
        simp at missing
    | some other =>
        obtain ⟨present, same⟩ := find?_key_some found
        rw [List.inj_on_of_nodup_map unique present member same]

/-- The order of the records does not matter. -/
theorem find?_key_perm {key : Value → Key} {values others : List Value}
    (unique : (values.map key).Nodup) (same : values.Perm others) (wanted : Key) :
    values.find? (fun value => key value = wanted) =
      others.find? fun value => key value = wanted := by
  have otherUnique : (others.map key).Nodup := (same.map key).nodup_iff.mp unique
  apply Option.ext
  intro value
  rw [find?_key_eq_some unique, find?_key_eq_some otherUnique, same.mem_iff]

/-- Lookup in a list of pairs made from records. -/
theorem lookup_map_key (key : Value → Key) (other : Value → Other)
    (values : List Value) (wanted : Key) :
    List.lookup wanted (values.map fun value => (key value, other value)) =
      (values.find? fun value => key value = wanted).map other := by
  induction values with
  | nil => rfl
  | cons head tail inductionHypothesis =>
      rw [List.map_cons, List.lookup_cons, List.find?_cons]
      by_cases same : key head = wanted
      · simp [same]
      · have different : (wanted == key head) = false := by
          simpa using Ne.symm same
        simp [same, different, inductionHypothesis]

end Foundation
