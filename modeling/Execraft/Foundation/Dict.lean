import Mathlib.Data.List.Basic
import Mathlib.Data.List.Nodup

/-!
# Dictionaries

Dictionaries with text keys that keep the order in which keys were first
assigned, as association lists with distinct keys.
-/

namespace Foundation

variable {Value : Type}

/-- Assignment in an association list: in place, or at the end. -/
def setEntry (name : String) (value : Value) :
    List (String × Value) → List (String × Value)
  | [] => [(name, value)]
  | (key, old) :: rest =>
      if key = name then (key, value) :: rest else (key, old) :: setEntry name value rest

/-- The first value under a key. -/
def getEntry (name : String) : List (String × Value) → Option Value
  | [] => none
  | (key, value) :: rest => if key = name then some value else getEntry name rest

theorem mem_keys_setEntry {name key : String} {value : Value}
    {entries : List (String × Value)} :
    key ∈ (setEntry name value entries).map Prod.fst ↔
      key = name ∨ key ∈ entries.map Prod.fst := by
  induction entries with
  | nil => simp [setEntry]
  | cons head tail inductionHypothesis =>
      obtain ⟨first, old⟩ := head
      rw [setEntry]
      by_cases same : first = name
      · subst same
        rw [if_pos rfl]
        simp
      · rw [if_neg same, List.map_cons, List.mem_cons, inductionHypothesis,
          List.map_cons, List.mem_cons]
        exact or_left_comm

theorem nodup_keys_setEntry {name : String} {value : Value}
    {entries : List (String × Value)} (unique : (entries.map Prod.fst).Nodup) :
    ((setEntry name value entries).map Prod.fst).Nodup := by
  induction entries with
  | nil => simp [setEntry]
  | cons head tail inductionHypothesis =>
      obtain ⟨first, old⟩ := head
      rw [List.map_cons, List.nodup_cons] at unique
      rw [setEntry]
      by_cases same : first = name
      · rw [if_pos same, List.map_cons, List.nodup_cons]
        exact unique
      · rw [if_neg same, List.map_cons, List.nodup_cons]
        refine ⟨?_, inductionHypothesis unique.2⟩
        intro member
        rcases mem_keys_setEntry.mp member with new | old
        · exact same new
        · exact unique.1 old

@[simp]
theorem getEntry_setEntry_self (name : String) (value : Value)
    (entries : List (String × Value)) :
    getEntry name (setEntry name value entries) = some value := by
  induction entries with
  | nil => simp [setEntry, getEntry]
  | cons head tail inductionHypothesis =>
      obtain ⟨first, old⟩ := head
      rw [setEntry]
      by_cases same : first = name
      · rw [if_pos same, getEntry, if_pos same]
      · rw [if_neg same, getEntry, if_neg same, inductionHypothesis]

theorem getEntry_setEntry_ne {name other : String} (different : other ≠ name)
    (value : Value) (entries : List (String × Value)) :
    getEntry other (setEntry name value entries) = getEntry other entries := by
  induction entries with
  | nil => simp [setEntry, getEntry, different.symm]
  | cons head tail inductionHypothesis =>
      obtain ⟨first, old⟩ := head
      rw [setEntry]
      by_cases same : first = name
      · subst same
        rw [if_pos rfl, getEntry, getEntry, if_neg different.symm,
          if_neg different.symm]
      · rw [if_neg same, getEntry, getEntry, inductionHypothesis]

/-- Assigning what is there already changes nothing. -/
theorem setEntry_of_getEntry {name : String} {value : Value}
    {entries : List (String × Value)} (found : getEntry name entries = some value) :
    setEntry name value entries = entries := by
  induction entries with
  | nil => cases found
  | cons head tail inductionHypothesis =>
      obtain ⟨first, old⟩ := head
      rw [getEntry] at found
      rw [setEntry]
      by_cases same : first = name
      · rw [if_pos same, Option.some.injEq] at found
        rw [if_pos same, found]
      · rw [if_neg same] at found
        rw [if_neg same, inductionHypothesis found]

theorem mem_of_getEntry {name : String} {value : Value}
    {entries : List (String × Value)} (found : getEntry name entries = some value) :
    (name, value) ∈ entries := by
  induction entries with
  | nil => cases found
  | cons head tail inductionHypothesis =>
      obtain ⟨first, old⟩ := head
      rw [getEntry] at found
      by_cases same : first = name
      · rw [if_pos same, Option.some.injEq] at found
        rw [← same, ← found]
        exact List.mem_cons_self
      · rw [if_neg same] at found
        exact List.mem_cons_of_mem _ (inductionHypothesis found)

theorem getEntry_of_mem {name : String} {value : Value}
    {entries : List (String × Value)} (unique : (entries.map Prod.fst).Nodup)
    (member : (name, value) ∈ entries) : getEntry name entries = some value := by
  induction entries with
  | nil => cases member
  | cons head tail inductionHypothesis =>
      obtain ⟨first, old⟩ := head
      rw [List.map_cons, List.nodup_cons] at unique
      rw [getEntry]
      rcases List.mem_cons.mp member with atHead | inTail
      · rw [Prod.mk.injEq] at atHead
        rw [if_pos atHead.1.symm, atHead.2]
      · have different : first ≠ name := by
          intro same
          apply unique.1
          rw [same]
          exact List.mem_map.mpr ⟨(name, value), inTail, rfl⟩
        rw [if_neg different]
        exact inductionHypothesis unique.2 inTail

/-- An ordered dictionary with distinct keys. -/
structure Dict (Value : Type) where
  entries : List (String × Value)
  unique : (entries.map Prod.fst).Nodup

namespace Dict

def empty : Dict Value := ⟨[], List.nodup_nil⟩

def get? (dict : Dict Value) (name : String) : Option Value :=
  getEntry name dict.entries

def keys (dict : Dict Value) : List String :=
  dict.entries.map Prod.fst

def set (dict : Dict Value) (name : String) (value : Value) : Dict Value :=
  ⟨setEntry name value dict.entries, nodup_keys_setEntry dict.unique⟩

/-- Add a key unless it is there. -/
def setDefault (dict : Dict Value) (name : String) (value : Value) : Dict Value :=
  match dict.get? name with
  | some _ => dict
  | none => dict.set name value

@[simp]
theorem get?_empty (name : String) : (empty : Dict Value).get? name = none :=
  rfl

@[simp]
theorem get?_set_self (dict : Dict Value) (name : String) (value : Value) :
    (dict.set name value).get? name = some value :=
  getEntry_setEntry_self name value dict.entries

theorem get?_set_ne (dict : Dict Value) {name other : String}
    (different : other ≠ name) (value : Value) :
    (dict.set name value).get? other = dict.get? other :=
  getEntry_setEntry_ne different value dict.entries

theorem set_of_get? {dict : Dict Value} {name : String} {value : Value}
    (found : dict.get? name = some value) : dict.set name value = dict := by
  obtain ⟨entries, unique⟩ := dict
  unfold set
  congr 1
  exact setEntry_of_getEntry found

theorem setDefault_of_get? {dict : Dict Value} {name : String} {value : Value}
    (found : dict.get? name = some value) (default : Value) :
    dict.setDefault name default = dict := by
  rw [setDefault, found]

@[simp]
theorem get?_setDefault_self (dict : Dict Value) (name : String) (value : Value) :
    (dict.setDefault name value).get? name = some ((dict.get? name).getD value) := by
  unfold setDefault
  cases found : dict.get? name with
  | none => simp
  | some old => simp [found]

theorem get?_setDefault_ne (dict : Dict Value) {name other : String}
    (different : other ≠ name) (value : Value) :
    (dict.setDefault name value).get? other = dict.get? other := by
  unfold setDefault
  cases dict.get? name with
  | none => exact get?_set_ne dict different value
  | some old => rfl

theorem mem_entries_iff {dict : Dict Value} {name : String} {value : Value} :
    (name, value) ∈ dict.entries ↔ dict.get? name = some value := by
  constructor
  · exact getEntry_of_mem dict.unique
  · exact mem_of_getEntry

/-! ## Dictionaries from their items -/

theorem setEntry_of_notMem {name : String} {value : Value}
    {entries : List (String × Value)} (fresh : name ∉ entries.map Prod.fst) :
    setEntry name value entries = entries ++ [(name, value)] := by
  induction entries with
  | nil => rfl
  | cons head tail inductionHypothesis =>
      obtain ⟨key, old⟩ := head
      rw [List.map_cons, List.mem_cons, not_or] at fresh
      rw [setEntry, if_neg (Ne.symm fresh.1), inductionHypothesis fresh.2,
        List.cons_append]

/-- `{key: value for key, value in items}`. -/
def ofItems (items : List (String × Value)) : Dict Value :=
  items.foldl (fun dict item => dict.set item.1 item.2) empty

theorem ofItems_entries (dict : Dict Value) : ofItems dict.entries = dict := by
  have general : ∀ (back : List (String × Value)) (front : Dict Value),
      ((front.entries ++ back).map Prod.fst).Nodup →
        (back.foldl (fun dict item => dict.set item.1 item.2) front).entries =
          front.entries ++ back := by
    intro back
    induction back with
    | nil =>
        intro front _
        rw [List.append_nil]
        rfl
    | cons head tail inductionHypothesis =>
        intro front unique
        have fresh : head.1 ∉ front.entries.map Prod.fst := by
          rw [List.map_append, List.map_cons] at unique
          intro member
          exact (List.disjoint_of_nodup_append unique) member List.mem_cons_self
        have appended : (front.set head.1 head.2).entries =
            front.entries ++ [head] := setEntry_of_notMem fresh
        have later := inductionHypothesis (front.set head.1 head.2)
        rw [appended, List.append_assoc, List.singleton_append] at later
        exact later unique
  have whole := general dict.entries empty dict.unique
  obtain ⟨entries, unique⟩ := dict
  unfold ofItems
  generalize List.foldl _ _ _ = built at whole ⊢
  obtain ⟨builtEntries, builtUnique⟩ := built
  cases whole
  rfl

/-! ## Mapping the values -/

variable {Other : Type}

theorem getEntry_map (convert : Value → Other) (name : String)
    (entries : List (String × Value)) :
    getEntry name (entries.map fun entry => (entry.1, convert entry.2)) =
      (getEntry name entries).map convert := by
  induction entries with
  | nil => rfl
  | cons head tail inductionHypothesis =>
      obtain ⟨key, value⟩ := head
      rw [List.map_cons, getEntry, getEntry]
      by_cases same : key = name
      · rw [if_pos same, if_pos same]
        rfl
      · rw [if_neg same, if_neg same, inductionHypothesis]

theorem setEntry_map (convert : Value → Other) (name : String) (value : Value)
    (entries : List (String × Value)) :
    setEntry name (convert value) (entries.map fun entry => (entry.1, convert entry.2)) =
      (setEntry name value entries).map fun entry => (entry.1, convert entry.2) := by
  induction entries with
  | nil => rfl
  | cons head tail inductionHypothesis =>
      obtain ⟨key, old⟩ := head
      rw [List.map_cons, setEntry, setEntry]
      by_cases same : key = name
      · rw [if_pos same, if_pos same]
        rfl
      · rw [if_neg same, if_neg same, inductionHypothesis]
        rfl

/-- The dictionary with converted values. -/
def map (convert : Value → Other) (dict : Dict Value) : Dict Other :=
  ⟨dict.entries.map fun entry => (entry.1, convert entry.2), by
    rw [List.map_map]
    exact dict.unique⟩

@[simp]
theorem get?_map (convert : Value → Other) (dict : Dict Value) (name : String) :
    (dict.map convert).get? name = (dict.get? name).map convert :=
  getEntry_map convert name dict.entries

theorem set_map (convert : Value → Other) (dict : Dict Value) (name : String)
    (value : Value) :
    (dict.map convert).set name (convert value) = (dict.set name value).map convert := by
  unfold set map
  congr 1
  exact setEntry_map convert name value dict.entries

theorem mem_keys_iff {dict : Dict Value} {name : String} :
    name ∈ dict.keys ↔ (dict.get? name).isSome = true := by
  rw [keys, List.mem_map, Option.isSome_iff_exists]
  constructor
  · intro listed
    obtain ⟨entry, member, same⟩ := listed
    rw [← same]
    exact ⟨entry.2, mem_entries_iff.mp member⟩
  · intro found
    obtain ⟨value, found⟩ := found
    exact ⟨(name, value), mem_entries_iff.mpr found, rfl⟩

/-- The last item under a key counts. -/
theorem get?_ofItems (items : List (String × Value)) (name : String) :
    (ofItems items).get? name =
      (items.reverse.find? fun item => item.1 = name).map Prod.snd := by
  have general : ∀ front : Dict Value,
      (items.foldl (fun dict item => dict.set item.1 item.2) front).get? name =
        ((items.reverse.find? fun item => item.1 = name).map Prod.snd).or
          (front.get? name) := by
    induction items with
    | nil => intro front; rfl
    | cons head tail inductionHypothesis =>
        intro front
        rw [List.foldl_cons, inductionHypothesis, List.reverse_cons, List.find?_append]
        cases found : tail.reverse.find? fun item => item.1 = name with
        | some item => rfl
        | none =>
            by_cases same : head.1 = name
            · rw [← same, get?_set_self]
              simp
            · rw [get?_set_ne _ (Ne.symm same)]
              simp [same]
  rw [ofItems, general, get?_empty, Option.or_none]

/-! ## Equality -/

/-- Equality of dictionaries; the order of the keys does not matter. -/
def sameItems [DecidableEq Value] (first second : Dict Value) : Bool :=
  first.entries.all (fun entry => second.get? entry.1 = some entry.2) &&
    second.entries.all (fun entry => first.get? entry.1 = some entry.2)

theorem sameItems_iff [DecidableEq Value] {first second : Dict Value} :
    first.sameItems second = true ↔ ∀ name, first.get? name = second.get? name := by
  rw [sameItems, Bool.and_eq_true, List.all_eq_true, List.all_eq_true]
  constructor
  · intro same name
    cases inFirst : first.get? name with
    | some value =>
        have known := same.1 _ (mem_entries_iff.mpr inFirst)
        exact (of_decide_eq_true known).symm
    | none =>
        cases inSecond : second.get? name with
        | none => rfl
        | some value =>
            have known := of_decide_eq_true (same.2 _ (mem_entries_iff.mpr inSecond))
            rw [inFirst] at known
            cases known
  · intro same
    constructor
    · intro entry member
      apply decide_eq_true
      rw [← same]
      exact mem_entries_iff.mp member
    · intro entry member
      apply decide_eq_true
      rw [same]
      exact mem_entries_iff.mp member

end Dict

end Foundation
