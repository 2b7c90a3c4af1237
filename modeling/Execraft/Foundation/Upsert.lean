import Mathlib.Data.List.Basic
import Mathlib.Data.List.Nodup

/-!
# Lists that are updated by key

A value replaces the first one of its key or comes last.  The newest of the values that
belong together is the one that later updates of its key replace.
-/

namespace Foundation

variable {Key Value : Type} [DecidableEq Key] (key : Value → Key)

def upsert (value : Value) : List Value → List Value
  | [] => [value]
  | first :: rest =>
      if key first = key value then value :: rest else first :: upsert value rest

variable {key} {value other : Value} {values front back : List Value}

theorem upsert_of_absent (absent : key value ∉ values.map key) :
    upsert key value values = values ++ [value] := by
  induction values with
  | nil => rfl
  | cons first rest inductionHypothesis =>
      rw [List.map_cons, List.mem_cons, not_or] at absent
      rw [upsert, if_neg (Ne.symm absent.1), inductionHypothesis absent.2, List.cons_append]

theorem upsert_of_present (same : key other = key value)
    (absent : key value ∉ front.map key) :
    upsert key value (front ++ other :: back) = front ++ value :: back := by
  induction front with
  | nil => rw [List.nil_append, List.nil_append, upsert, if_pos same]
  | cons first rest inductionHypothesis =>
      rw [List.map_cons, List.mem_cons, not_or] at absent
      rw [List.cons_append, upsert, if_neg (Ne.symm absent.1), inductionHypothesis absent.2,
        List.cons_append]

theorem mem_keys_upsert {wanted : Key} :
    wanted ∈ (upsert key value values).map key ↔
      wanted = key value ∨ wanted ∈ values.map key := by
  induction values with
  | nil => rw [upsert, List.map_singleton, List.mem_singleton, List.map_nil,
      or_iff_left List.not_mem_nil]
  | cons first rest inductionHypothesis =>
      rw [upsert]
      by_cases same : key first = key value
      · rw [if_pos same, List.map_cons, List.map_cons, List.mem_cons, List.mem_cons, same]
        exact (or_iff_right_of_imp Or.inl).symm
      · rw [if_neg same, List.map_cons, List.map_cons, List.mem_cons, List.mem_cons,
          inductionHypothesis]
        exact or_left_comm

theorem nodup_upsert (distinct : (values.map key).Nodup) :
    ((upsert key value values).map key).Nodup := by
  induction values with
  | nil => exact List.nodup_singleton _
  | cons first rest inductionHypothesis =>
      rw [List.map_cons, List.nodup_cons] at distinct
      rw [upsert]
      by_cases same : key first = key value
      · rw [if_pos same, List.map_cons, ← same, List.nodup_cons]
        exact distinct
      · rw [if_neg same, List.map_cons, List.nodup_cons, mem_keys_upsert, not_or]
        exact ⟨⟨same, distinct.1⟩, inductionHypothesis distinct.2⟩

/-! ## The newest value -/

/-- The last of the values that belong together. -/
def Newest (belongs : Value → Prop) (values : List Value) (value : Value) : Prop :=
  ∃ front back, values = front ++ value :: back ∧ belongs value ∧
    ∀ later ∈ back, ¬belongs later

variable {belongs : Value → Prop}

theorem newest_iff [DecidablePred belongs] :
    (values.filter fun value => belongs value).getLast? = some value ↔
      Newest belongs values value := by
  constructor
  · intro last
    obtain ⟨kept, shape⟩ := List.getLast?_eq_some_iff.mp last
    obtain ⟨front, back, split, -, tail⟩ := List.filter_eq_append_iff.mp shape
    obtain ⟨skipped, rest, later, others, fits, none⟩ := List.filter_eq_cons_iff.mp tail
    refine ⟨front ++ skipped, rest, ?_, of_decide_eq_true fits, fun item member => ?_⟩
    · rw [split, later, List.append_assoc]
    · have outside := List.filter_eq_nil_iff.mp none item member
      rwa [decide_eq_true_iff] at outside
  · intro newest
    obtain ⟨front, back, shape, fits, none⟩ := newest
    have outside : back.filter (fun value => belongs value) = [] := by
      rw [List.filter_eq_nil_iff]
      intro item member
      rw [decide_eq_true_iff]
      exact none item member
    rw [shape, List.filter_append, List.filter_cons, if_pos (decide_eq_true fits), outside,
      List.getLast?_append, List.getLast?_singleton, Option.some_or]

theorem Newest.mem (newest : Newest belongs values value) : value ∈ values := by
  obtain ⟨front, back, shape, -, -⟩ := newest
  rw [shape]
  exact List.mem_append_right _ (List.mem_cons_self ..)

theorem Newest.fits (newest : Newest belongs values value) : belongs value := by
  obtain ⟨front, back, -, fits, -⟩ := newest
  exact fits

theorem Newest.unique (first : Newest belongs values value)
    (second : Newest belongs values other) : value = other := by
  classical
  exact Option.some.inj ((newest_iff.mpr first).symm.trans (newest_iff.mpr second))

/-- A new value that belongs to the others is the newest. -/
theorem newest_upsert_of_absent (absent : key value ∉ values.map key) (fits : belongs value) :
    Newest belongs (upsert key value values) value := by
  rw [upsert_of_absent absent]
  exact ⟨values, [], rfl, fits, nofun⟩

/-- The newest value is replaced in its place. -/
theorem Newest.upsert (newest : Newest belongs values other)
    (distinct : (values.map key).Nodup) (same : key other = key value) (fits : belongs value) :
    Newest belongs (upsert key value values) value := by
  obtain ⟨front, back, shape, -, none⟩ := newest
  have absent : key value ∉ front.map key := by
    rw [shape, List.map_append, List.map_cons] at distinct
    intro member
    exact (List.nodup_append.mp distinct).2.2 _ member _ (List.mem_cons_self ..) same.symm
  rw [shape, upsert_of_present same absent]
  exact ⟨front, back, rfl, fits, none⟩

end Foundation
