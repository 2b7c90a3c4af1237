import Mathlib.Data.String.Basic
import Mathlib.Data.List.Sort

/-!
# JSON documents

The values that a JSON text denotes.  An object lists its members in the order
of the dictionary; `dict` and `sortKeys` build objects whose keys increase, so
that two of these with the same members are the same value.

A finite float is kept as the text of its shortest decimal representation;
`Canonical` says that every such text is a fixed point of the rounding which a
decoder applies.
-/

namespace Foundation

/-- The literals outside the JSON grammar that lenient decoders accept. -/
inductive NonFinite where
  | nan
  | infinity
  | negativeInfinity
  deriving DecidableEq, Repr

inductive Json where
  | null
  | bool (value : Bool)
  | int (value : Int)
  | float (text : String)
  | nonFinite (literal : NonFinite)
  | string (text : String)
  | array (elements : List Json)
  | object (fields : List (String × Json))
  deriving Repr

namespace Json

/-- Structural induction in which the two nested lists carry their hypotheses
as membership statements. -/
@[elab_as_elim]
theorem inductionOn {motive : Json → Prop}
    (null : motive .null)
    (bool : ∀ value, motive (.bool value))
    (int : ∀ value, motive (.int value))
    (float : ∀ text, motive (.float text))
    (nonFinite : ∀ literal, motive (.nonFinite literal))
    (string : ∀ text, motive (.string text))
    (array :
      ∀ elements, (∀ element ∈ elements, motive element) →
        motive (.array elements))
    (object :
      ∀ fields, (∀ field ∈ fields, motive field.2) →
        motive (.object fields))
    (document : Json) : motive document :=
  @Json.rec motive
    (fun elements => ∀ element ∈ elements, motive element)
    (fun fields => ∀ field ∈ fields, motive field.2)
    (fun field => motive field.2)
    null bool int float nonFinite string array object
    (List.forall_mem_nil _)
    (fun _ _ headHolds tailHolds =>
      List.forall_mem_cons.mpr ⟨headHolds, tailHolds⟩)
    (List.forall_mem_nil _)
    (fun _ _ headHolds tailHolds =>
      List.forall_mem_cons.mpr ⟨headHolds, tailHolds⟩)
    (fun _ _ valueHolds => valueHolds)
    document

/-! ## Decidable equality -/

mutual

private def decideEq : (left right : Json) → Decidable (left = right)
  | .null, right => by
      cases right
      case null => exact isTrue rfl
      all_goals exact isFalse (by simp)
  | .bool value, right => by
      cases right
      case bool other => exact decidable_of_iff (value = other) (by simp)
      all_goals exact isFalse (by simp)
  | .int value, right => by
      cases right
      case int other => exact decidable_of_iff (value = other) (by simp)
      all_goals exact isFalse (by simp)
  | .float text, right => by
      cases right
      case float other => exact decidable_of_iff (text = other) (by simp)
      all_goals exact isFalse (by simp)
  | .nonFinite literal, right => by
      cases right
      case nonFinite other =>
        exact decidable_of_iff (literal = other) (by simp)
      all_goals exact isFalse (by simp)
  | .string text, right => by
      cases right
      case string other => exact decidable_of_iff (text = other) (by simp)
      all_goals exact isFalse (by simp)
  | .array elements, right => by
      cases right
      case array others =>
        exact @decidable_of_iff _ (elements = others) (by simp)
          (decideEqElements elements others)
      all_goals exact isFalse (by simp)
  | .object fields, right => by
      cases right
      case object others =>
        exact @decidable_of_iff _ (fields = others) (by simp)
          (decideEqFields fields others)
      all_goals exact isFalse (by simp)

private def decideEqElements :
    (left right : List Json) → Decidable (left = right)
  | [], [] => isTrue rfl
  | [], _ :: _ => isFalse (by simp)
  | _ :: _, [] => isFalse (by simp)
  | head :: tail, other :: others =>
      @decidable_of_iff _ (head = other ∧ tail = others) (by simp)
        (@instDecidableAnd _ _ (decideEq head other)
          (decideEqElements tail others))

private def decideEqFields :
    (left right : List (String × Json)) → Decidable (left = right)
  | [], [] => isTrue rfl
  | [], _ :: _ => isFalse (by simp)
  | _ :: _, [] => isFalse (by simp)
  | (name, value) :: tail, (otherName, otherValue) :: others =>
      @decidable_of_iff _
        ((name = otherName ∧ value = otherValue) ∧ tail = others)
        (by simp)
        (@instDecidableAnd _ _
          (@instDecidableAnd _ _ (instDecidableEqString name otherName)
            (decideEq value otherValue))
          (decideEqFields tail others))

end

instance : DecidableEq Json := decideEq

/-! ## Members of an object -/

/-- Dictionary assignment on a member list kept in key order. -/
def insertField (name : String) (value : Json) :
    List (String × Json) → List (String × Json)
  | [] => [(name, value)]
  | (head, headValue) :: tail =>
      if name < head then
        (name, value) :: (head, headValue) :: tail
      else if name = head then
        (name, value) :: tail
      else
        (head, headValue) :: insertField name value tail

/-- Build a dictionary by assigning members one after another. -/
def insertFields (fields additions : List (String × Json)) :
    List (String × Json) :=
  additions.foldl (fun dict field => insertField field.1 field.2 dict) fields

/-- The dictionary display `{name: value, ...}`. -/
def dict (members : List (String × Json)) : Json :=
  .object (insertFields [] members)

mutual

/-- What `sort_keys=True` writes. -/
def sortKeys : Json → Json
  | .array elements => .array (sortElements elements)
  | .object fields => dict (sortMembers fields)
  | document => document

def sortElements : List Json → List Json
  | [] => []
  | head :: tail => sortKeys head :: sortElements tail

def sortMembers : List (String × Json) → List (String × Json)
  | [] => []
  | (name, value) :: tail => (name, sortKeys value) :: sortMembers tail

end

/-- Look a member up in a member list. -/
def lookup (name : String) : List (String × Json) → Option Json
  | [] => none
  | (head, value) :: tail => if head = name then some value else lookup name tail

/-- Strictly increasing member names. -/
def KeysSorted (fields : List (String × Json)) : Prop :=
  (fields.map Prod.fst).Pairwise (· < ·)

theorem keysSorted_cons {name : String} {value : Json}
    {tail : List (String × Json)} :
    KeysSorted ((name, value) :: tail) ↔
      (∀ field ∈ tail, name < field.1) ∧ KeysSorted tail := by
  simp [KeysSorted]

theorem mem_insertField {name : String} {value : Json}
    {fields : List (String × Json)} {field : String × Json}
    (member : field ∈ insertField name value fields) :
    field = (name, value) ∨ field ∈ fields := by
  induction fields with
  | nil =>
      simpa [insertField] using member
  | cons head tail inductionHypothesis =>
      simp only [insertField] at member
      split at member
      · simpa using member
      · split at member
        · rcases List.mem_cons.mp member with atHead | inTail
          · exact Or.inl atHead
          · exact Or.inr (List.mem_cons_of_mem _ inTail)
        · rcases List.mem_cons.mp member with atHead | inTail
          · exact Or.inr (by simp [atHead])
          · rcases inductionHypothesis inTail with inserted | old
            · exact Or.inl inserted
            · exact Or.inr (List.mem_cons_of_mem _ old)

theorem insertField_keysSorted {name : String} {value : Json}
    {fields : List (String × Json)} (sorted : KeysSorted fields) :
    KeysSorted (insertField name value fields) := by
  induction fields with
  | nil =>
      simp [insertField, KeysSorted]
  | cons head tail inductionHypothesis =>
      obtain ⟨headBelow, tailSorted⟩ := keysSorted_cons.mp sorted
      simp only [insertField]
      split
      · rename_i before
        refine keysSorted_cons.mpr ⟨?_, sorted⟩
        rintro field (_ | ⟨_, member⟩)
        · exact before
        · exact lt_trans before (headBelow field member)
      · split
        · rename_i same
          subst same
          exact keysSorted_cons.mpr ⟨headBelow, tailSorted⟩
        · rename_i notBefore different
          refine keysSorted_cons.mpr ⟨?_, inductionHypothesis tailSorted⟩
          intro field member
          rcases mem_insertField member with inserted | old
          · subst inserted
            exact lt_of_le_of_ne (not_lt.mp notBefore) (Ne.symm different)
          · exact headBelow field old

theorem insertFields_keysSorted {fields : List (String × Json)}
    (sorted : KeysSorted fields) (additions : List (String × Json)) :
    KeysSorted (insertFields fields additions) := by
  induction additions generalizing fields with
  | nil =>
      exact sorted
  | cons head tail inductionHypothesis =>
      exact inductionHypothesis (insertField_keysSorted sorted)

/-- Assigning a name above every present one appends the member. -/
theorem insertField_above {name : String} {value : Json}
    {fields : List (String × Json)}
    (above : ∀ field ∈ fields, field.1 < name) :
    insertField name value fields = fields ++ [(name, value)] := by
  induction fields with
  | nil =>
      rfl
  | cons head tail inductionHypothesis =>
      have headBelow : head.1 < name := above head (List.mem_cons_self ..)
      have tailBelow : ∀ field ∈ tail, field.1 < name :=
        fun field member => above field (List.mem_cons_of_mem _ member)
      simp only [insertField, not_lt_of_gt headBelow, headBelow.ne',
        if_false, inductionHypothesis tailBelow, List.cons_append]

/-- Filling a dictionary in key order leaves the member list as it was. -/
theorem insertFields_of_keysSorted {initial fields : List (String × Json)}
    (sorted : KeysSorted (initial ++ fields)) :
    insertFields initial fields = initial ++ fields := by
  induction fields generalizing initial with
  | nil =>
      simp [insertFields]
  | cons head tail inductionHypothesis =>
      have above : ∀ field ∈ initial, field.1 < head.1 := by
        have pairs := (List.map_append ▸ sorted :
          (initial.map Prod.fst ++ (head :: tail).map Prod.fst).Pairwise (· < ·))
        intro field member
        exact (List.pairwise_append.mp pairs).2.2 field.1
          (List.mem_map_of_mem member) head.1 (by simp)
      have appended : KeysSorted ((initial ++ [head]) ++ tail) := by
        simpa using sorted
      have step := inductionHypothesis appended
      simp only [insertFields, List.foldl_cons] at step ⊢
      rw [insertField_above above, step]
      simp

@[simp]
theorem lookup_insertField (name : String) (value : Json)
    (fields : List (String × Json)) (wanted : String) :
    lookup wanted (insertField name value fields) =
      if wanted = name then some value else lookup wanted fields := by
  induction fields with
  | nil =>
      simp [insertField, lookup, eq_comm]
  | cons head tail inductionHypothesis =>
      by_cases same : wanted = name
      · subst same
        simp only [insertField]
        split
        · simp [lookup]
        · split
          · simp [lookup]
          · rename_i different
            simp [lookup, Ne.symm different, inductionHypothesis]
      · simp only [insertField]
        split
        · simp [lookup, Ne.symm same]
        · split
          · rename_i equal
            subst equal
            simp [lookup, Ne.symm same]
          · simp [lookup, same, inductionHypothesis]

theorem mem_of_lookup {name : String} {value : Json}
    {fields : List (String × Json)} (found : lookup name fields = some value) :
    (name, value) ∈ fields := by
  induction fields with
  | nil => cases found
  | cons head tail inductionHypothesis =>
      obtain ⟨headName, headValue⟩ := head
      rw [lookup] at found
      by_cases same : headName = name
      · rw [if_pos same] at found
        cases found
        rw [same]
        exact List.mem_cons_self ..
      · rw [if_neg same] at found
        exact List.mem_cons_of_mem _ (inductionHypothesis found)

/-- Assignments never remove a name. -/
theorem lookup_insertFields_isSome {name : String}
    {fields : List (String × Json)} (present : (lookup name fields).isSome)
    (additions : List (String × Json)) :
    (lookup name (insertFields fields additions)).isSome := by
  induction additions generalizing fields with
  | nil => exact present
  | cons head tail inductionHypothesis =>
      apply inductionHypothesis
      rw [lookup_insertField]
      by_cases same : name = head.1
      · simp [same]
      · simpa [same] using present

theorem mem_insertField_self (name : String) (value : Json)
    (fields : List (String × Json)) :
    (name, value) ∈ insertField name value fields := by
  apply mem_of_lookup
  simp

theorem mem_insertField_of_ne {name : String} {value : Json}
    {fields : List (String × Json)} {field : String × Json}
    (member : field ∈ fields) (different : field.1 ≠ name) :
    field ∈ insertField name value fields := by
  induction fields with
  | nil => cases member
  | cons head tail inductionHypothesis =>
      obtain ⟨headName, headValue⟩ := head
      rw [insertField]
      split
      · exact List.mem_cons_of_mem _ member
      · split
        · rename_i same
          rcases List.mem_cons.mp member with rfl | inTail
          · exact absurd same.symm different
          · exact List.mem_cons_of_mem _ inTail
        · rcases List.mem_cons.mp member with rfl | inTail
          · exact List.mem_cons_self ..
          · exact List.mem_cons_of_mem _ (inductionHypothesis inTail)

theorem mem_insertFields {fields additions : List (String × Json)}
    {field : String × Json} (member : field ∈ insertFields fields additions) :
    field ∈ fields ∨ field ∈ additions := by
  induction additions generalizing fields with
  | nil => exact Or.inl member
  | cons head tail inductionHypothesis =>
      rcases inductionHypothesis member with inserted | later
      · rcases mem_insertField inserted with new | old
        · rw [new]
          exact Or.inr List.mem_cons_self
        · exact Or.inl old
      · exact Or.inr (List.mem_cons_of_mem head later)

/-- Members with distinct names all survive their insertion. -/
theorem mem_insertFields_of_mem {fields additions : List (String × Json)}
    (sorted : KeysSorted additions) {field : String × Json}
    (member : field ∈ additions ∨
      field ∈ fields ∧ ∀ other ∈ additions, field.1 ≠ other.1) :
    field ∈ insertFields fields additions := by
  induction additions generalizing fields with
  | nil =>
      rcases member with impossible | ⟨old, _⟩
      · cases impossible
      · exact old
  | cons head tail inductionHypothesis =>
      obtain ⟨headBelow, tailSorted⟩ := keysSorted_cons.mp sorted
      refine inductionHypothesis tailSorted ?_
      rcases member with added | ⟨old, different⟩
      · rcases List.mem_cons.mp added with rfl | later
        · refine Or.inr ⟨mem_insertField_self .., ?_⟩
          intro other inTail
          exact ne_of_lt (headBelow other inTail)
        · exact Or.inl later
      · refine Or.inr ⟨mem_insertField_of_ne old
          (different head (List.mem_cons_self ..)), ?_⟩
        intro other inTail
        exact different other (List.mem_cons_of_mem _ inTail)

end Json
end Foundation
