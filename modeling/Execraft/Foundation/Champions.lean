import Execraft.Foundation.Dict
import Mathlib.Data.List.MinMax
import Mathlib.Data.List.Sort
import Mathlib.Data.String.Basic

/-!
# The best value of each name

Values are collected under their names; a later value replaces an earlier one of its name
when it ranks higher.
-/

namespace Foundation

section Champions

variable {Value Rank : Type} [LinearOrder Rank] (name : Value → String) (rank : Value → Rank)

def keepBest (found : Dict Value) (value : Value) : Dict Value :=
  match found.get? (name value) with
  | none => found.set (name value) value
  | some previous =>
      if rank previous < rank value then found.set (name value) value else found

/-- The values of a dictionary, sorted by their keys. -/
def inOrder (found : Dict Value) : List Value :=
  (found.keys.insertionSort (· ≤ ·)).filterMap found.get?

/-- The best value of each name, sorted by name. -/
def champions (values : List Value) : List Value :=
  inOrder (values.foldl (keepBest name rank) Dict.empty)

variable {name rank} {values others : List Value}

theorem get?_keepBest (found : Dict Value) (value : Value) (wanted : String) :
    (keepBest name rank found value).get? wanted =
      if name value = wanted then
        List.argAux (fun new old => rank old < rank new) (found.get? wanted) value
      else found.get? wanted := by
  unfold keepBest
  by_cases same : name value = wanted
  · rw [if_pos same, same]
    cases old : found.get? wanted with
    | none => exact Dict.get?_set_self _ _ _
    | some previous =>
        show (if rank previous < rank value then found.set wanted value else found).get? wanted =
          if rank previous < rank value then some value else some previous
        by_cases better : rank previous < rank value
        · rw [if_pos better, if_pos better, Dict.get?_set_self]
        · rw [if_neg better, if_neg better, old]
  · rw [if_neg same]
    cases found.get? (name value) with
    | none => exact Dict.get?_set_ne _ (Ne.symm same) _
    | some previous =>
        show (if rank previous < rank value then found.set (name value) value
          else found).get? wanted = _
        by_cases better : rank previous < rank value
        · rw [if_pos better, Dict.get?_set_ne _ (Ne.symm same)]
        · rw [if_neg better]

/-- Under each name the first value of the highest rank is kept. -/
theorem get?_foldl_keepBest (found : Dict Value) (wanted : String) :
    (values.foldl (keepBest name rank) found).get? wanted =
      (values.filter fun value => name value = wanted).foldl
        (List.argAux fun new old => rank old < rank new) (found.get? wanted) := by
  induction values generalizing found with
  | nil => rfl
  | cons head tail inductionHypothesis =>
      rw [List.foldl_cons, inductionHypothesis, get?_keepBest]
      by_cases same : name head = wanted
      · rw [if_pos same, List.filter_cons_of_pos (by simpa using same), List.foldl_cons]
      · rw [if_neg same, List.filter_cons_of_neg (by simpa using same)]

/-- The champion of a name. -/
def champion? (name : Value → String) (rank : Value → Rank) (values : List Value)
    (wanted : String) : Option Value :=
  (values.filter fun value => name value = wanted).argmax rank

theorem get?_collected (wanted : String) :
    (values.foldl (keepBest name rank) Dict.empty).get? wanted =
      champion? name rank values wanted :=
  get?_foldl_keepBest Dict.empty wanted

theorem mem_of_champion? {wanted : String} {value : Value}
    (best : champion? name rank values wanted = some value) :
    value ∈ values ∧ name value = wanted := by
  have member := List.argmax_mem (Option.mem_def.mpr best)
  rw [List.mem_filter, decide_eq_true_iff] at member
  exact member

theorem rank_le_of_champion? {wanted : String} {value other : Value}
    (best : champion? name rank values wanted = some value) (member : other ∈ values)
    (named : name other = wanted) : rank other ≤ rank value :=
  List.le_of_mem_argmax (List.mem_filter.mpr ⟨member, decide_eq_true named⟩)
    (Option.mem_def.mpr best)

theorem exists_champion? (name : Value → String) (rank : Value → Rank) {value : Value}
    (member : value ∈ values) :
    ∃ best, champion? name rank values (name value) = some best := by
  refine Option.ne_none_iff_exists'.mp fun none => ?_
  have empty := List.argmax_eq_none.mp none
  have listed : value ∈ values.filter fun other => name other = name value :=
    List.mem_filter.mpr ⟨member, decide_eq_true rfl⟩
  rw [empty] at listed
  cases listed

/-- The first value is the champion of its name when no other one ranks higher. -/
theorem champion?_cons {value : Value}
    (highest : ∀ other ∈ values, name other = name value → rank other ≤ rank value) :
    champion? name rank (value :: values) (name value) = some value := by
  rw [champion?, List.filter_cons_of_pos (by simp), List.argmax_cons]
  cases best : (values.filter fun other => name other = name value).argmax rank with
  | none => rfl
  | some other =>
      obtain ⟨member, named⟩ := mem_of_champion? best
      exact if_neg (not_lt.mpr (highest other member named))

/-! ## The list of the champions -/

theorem mem_champions {value : Value} :
    value ∈ champions name rank values ↔
      champion? name rank values (name value) = some value := by
  rw [champions, inOrder, List.mem_filterMap]
  constructor
  · intro listed
    obtain ⟨wanted, -, found⟩ := listed
    rw [get?_collected] at found
    rw [(mem_of_champion? found).2]
    exact found
  · intro best
    refine ⟨name value, (List.mem_insertionSort _).mpr (Dict.mem_keys_iff.mpr ?_), ?_⟩
    · rw [get?_collected, best]
      rfl
    · rw [get?_collected, best]

/-- The champions of two lists agree exactly when the lists have the same champion under
each name. -/
theorem champions_eq_iff :
    champions name rank values = champions name rank others ↔
      ∀ wanted, champion? name rank values wanted = champion? name rank others wanted := by
  constructor
  · intro same wanted
    have transfer : ∀ {first second : List Value},
        champions name rank first = champions name rank second → ∀ {value},
          champion? name rank first wanted = some value →
            champion? name rank second wanted = some value := by
      intro first second equal value best
      have named := (mem_of_champion? best).2
      rw [← named] at best ⊢
      exact mem_champions.mp (equal ▸ mem_champions.mpr best)
    cases best : champion? name rank values wanted with
    | some value => exact (transfer same best).symm
    | none =>
        cases other : champion? name rank others wanted with
        | none => rfl
        | some value =>
            have back := transfer same.symm other
            rw [best] at back
            cases back
  · intro same
    let first := values.foldl (keepBest name rank) Dict.empty
    let second := others.foldl (keepBest name rank) Dict.empty
    have lookups : first.get? = second.get? := by
      funext wanted
      rw [get?_collected, get?_collected, same]
    have keys : first.keys.Perm second.keys := by
      refine (List.perm_ext_iff_of_nodup first.unique second.unique).mpr fun key => ?_
      show key ∈ first.keys ↔ key ∈ second.keys
      rw [Dict.mem_keys_iff, Dict.mem_keys_iff, lookups]
    have sorted : first.keys.insertionSort (· ≤ ·) = second.keys.insertionSort (· ≤ ·) :=
      (((List.perm_insertionSort _ _).trans keys).trans
        (List.perm_insertionSort _ _).symm).eq_of_pairwise'
          (List.pairwise_insertionSort _ _) (List.pairwise_insertionSort _ _)
    show inOrder first = inOrder second
    rw [inOrder, inOrder, sorted, lookups]

/-! ## Other orders -/

/-- Values that could both be the champion of a name are the same. -/
def Settled (name : Value → String) (rank : Value → Rank) (values : List Value) : Prop :=
  ∀ first ∈ values, ∀ second ∈ values, name first = name second → rank first = rank second →
    (∀ other ∈ values, name other = name first → rank other ≤ rank first) → first = second

theorem champion?_perm (settled : Settled name rank values) (same : values.Perm others)
    {wanted : String} {value : Value} (best : champion? name rank values wanted = some value) :
    champion? name rank others wanted = some value := by
  obtain ⟨member, named⟩ := mem_of_champion? best
  obtain ⟨other, found⟩ := exists_champion? name rank (same.mem_iff.mp member)
  rw [named] at found
  obtain ⟨listed, otherNamed⟩ := mem_of_champion? found
  have there := same.mem_iff.mpr listed
  have equal : rank value = rank other :=
    le_antisymm (rank_le_of_champion? found (same.mem_iff.mp member) named)
      (rank_le_of_champion? best there otherNamed)
  have highest : ∀ third ∈ values, name third = name value → rank third ≤ rank value :=
    fun third isThird isNamed => rank_le_of_champion? best isThird (isNamed.trans named)
  rw [found, settled value member other there (named.trans otherNamed.symm) equal highest]

/-- Without ties the order of the values does not matter. -/
theorem champions_perm (settled : Settled name rank values) (same : values.Perm others) :
    champions name rank others = champions name rank values := by
  rw [champions_eq_iff]
  intro wanted
  cases best : champion? name rank values wanted with
  | some value => exact champion?_perm settled same best
  | none =>
      cases found : champion? name rank others wanted with
      | none => rfl
      | some value =>
          obtain ⟨member, named⟩ := mem_of_champion? found
          obtain ⟨other, present⟩ := exists_champion? name rank (same.mem_iff.mpr member)
          rw [named, best] at present
          cases present

/-- When no order of the sources matters, there are no ties among their values. -/
theorem settled_of_orders {Source : Type} {read : Source → Option Value}
    {sources : List Source}
    (invariant : ∀ order, sources.Perm order →
      champions name rank (order.filterMap read) =
        champions name rank (sources.filterMap read)) :
    Settled name rank (sources.filterMap read) := by
  intro first isFirst second isSecond named equal highest
  -- Each of the two values is the champion once its source is moved to the front.
  have front : ∀ value ∈ sources.filterMap read, name value = name first →
      rank value = rank first →
        champion? name rank (sources.filterMap read) (name first) = some value := by
    intro value member valueNamed ranked
    obtain ⟨source, listed, isRead⟩ := List.mem_filterMap.mp member
    obtain ⟨before, after, split⟩ := List.append_of_mem listed
    have moved : sources.Perm (source :: (before ++ after)) := by
      rw [split]
      exact List.perm_middle
    have values := moved.filterMap read
    rw [List.filterMap_cons_some isRead] at values
    have leads := @champion?_cons _ _ _ name rank ((before ++ after).filterMap read) value
      fun other isOther otherNamed => by
        rw [ranked]
        exact highest other (values.mem_iff.mpr (List.mem_cons_of_mem _ isOther))
          (otherNamed.trans valueNamed)
    have agrees := champions_eq_iff.mp (invariant _ moved) (name first)
    rw [List.filterMap_cons_some isRead, ← valueNamed, leads] at agrees
    rw [← valueNamed]
    exact agrees.symm
  have one := front first isFirst rfl rfl
  rw [front second isSecond named.symm equal.symm] at one
  exact (Option.some.inj one).symm

end Champions

end Foundation
