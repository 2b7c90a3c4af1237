import Execraft.Foundation.Graph.Insertion
import Execraft.RepositorySync.Planning

/-!
# Declarative plans

Plan graphs without runtime fields, the order that their dependencies imply, and
what the rewrites read in them.
-/

namespace Execraft.RepositorySync

open Foundation Foundation.Json Foundation.Graph

variable (py : Python)

/-! ## Plans -/

/-- The dependencies as `plan_graph_from_mapping` reads them. -/
def dependencies (package : Row) : List String :=
  ((dependencyItems package).getD []).map py.text

def node (package : Row) : String × List String :=
  (packageId py package, dependencies py package)

/-- The dependency graph of the packages. -/
def nodes (packages : List Row) : List (String × List String) :=
  packages.map (node py)

/-- The order that the dependencies imply. -/
def Precedes (packages : List Row) (first second : String) : Prop :=
  Relation.TransGen (DependsOn (nodes py packages)) second first

/-- A package with declarative members only. -/
structure DeclarativePackage (package : Row) : Prop where
  fields : ∀ name ∈ package.map Prod.fst, name ∈ DECLARATIVE_PACKAGE_FIELDS
  criteria : ∀ criteria, package.get "acceptance_criteria" .null = .array criteria →
    ∀ criterion, .object criterion ∈ criteria → ∀ name ∈ criterion.map Prod.fst,
      name ∈ DECLARATIVE_ACCEPTANCE_CRITERION_FIELDS
  readable : dependencyItems package ≠ none

/-- An acyclic declarative plan with distinct identities and closed dependencies. -/
structure DeclarativePlan (raw : Row) (packages : List Row) : Prop where
  listed : raw.get "work_packages" .null = .array (packages.map Json.object)
  declarative : ∀ package ∈ packages, DeclarativePackage package
  nonempty : ∀ package ∈ packages, packageId py package ≠ ""
  dag : Dag (nodes py packages)

variable {py}

@[simp]
theorem text_string (text : String) : py.text (.string text) = text :=
  rfl

/-! ## The projection -/

theorem setEntry_self {name : String} {value : Json} {row : Row}
    (found : getEntry name row = some value) : setEntry name value row = row := by
  induction row with
  | nil => cases found
  | cons head tail inductionHypothesis =>
      obtain ⟨key, old⟩ := head
      rw [getEntry] at found
      rw [setEntry]
      by_cases same : key = name
      · rw [if_pos same, Option.some.injEq] at found
        rw [if_pos same, found]
      · rw [if_neg same] at found
        rw [if_neg same, inductionHypothesis found]

theorem set_get_array {name : String} {elements : List Json} {row : Row}
    (found : row.get name .null = .array elements) :
    row.set name (.array elements) = row := by
  apply setEntry_self
  unfold ProjectExecution.Row.get at found
  cases stored : getEntry name row with
  | none =>
      rw [stored] at found
      cases found
  | some value =>
      rw [stored] at found
      exact congrArg some found

theorem dropFields_eq {names : List String} {row : Row}
    (others : ∀ name ∈ row.map Prod.fst, name ∉ names) : dropFields names row = row := by
  apply List.filter_eq_self.mpr
  intro field member
  exact decide_eq_true (others field.1 (List.mem_map_of_mem member))

theorem canonicalPackage_declarative {package : Row}
    (declarative : DeclarativePackage package) : canonicalPackage package = package := by
  have disjoint : ∀ name ∈ DECLARATIVE_PACKAGE_FIELDS,
      name ∉ LEGACY_RUNTIME_PACKAGE_FIELDS := by decide
  have criterionDisjoint : ∀ name ∈ DECLARATIVE_ACCEPTANCE_CRITERION_FIELDS,
      name ∉ LEGACY_RUNTIME_ACCEPTANCE_CRITERION_FIELDS := by decide
  have kept : dropFields LEGACY_RUNTIME_PACKAGE_FIELDS package = package :=
    dropFields_eq fun name member => disjoint name (declarative.fields name member)
  unfold canonicalPackage
  rw [kept]
  dsimp only
  split
  · rename_i criteria found
    have same : criteria.map canonicalCriterion = criteria := by
      have each : ∀ criterion ∈ criteria, canonicalCriterion criterion = criterion := by
        intro criterion member
        cases criterion with
        | object fields =>
            have names := declarative.criteria criteria found fields member
            rw [canonicalCriterion, dropFields_eq fun name known =>
              criterionDisjoint name (names name known)]
        | null => rfl
        | bool value => rfl
        | int value => rfl
        | float text => rfl
        | nonFinite literal => rfl
        | string text => rfl
        | array elements => rfl
      exact (List.map_congr_left each).trans (List.map_id _)
    rw [same, set_get_array found]
  · rfl

theorem get_canonicalizeLegacyPlanGraph {raw : Row} {packages : List Row}
    (listed : raw.get "work_packages" .null = .array (packages.map Json.object))
    (declarative : ∀ package ∈ packages, DeclarativePackage package) :
    (canonicalizeLegacyPlanGraph py raw).1.get "work_packages" .null =
      .array (packages.map Json.object) := by
  have projected : (canonicalPackages py (packages.map Json.object)).1 =
      packages.map Json.object := by
    rw [canonicalPackages, List.map_map]
    apply List.map_congr_left
    intro package member
    exact congrArg Json.object (canonicalPackage_declarative (declarative package member))
  have other : ∀ graph : Row × List String,
      (canonicalizeKey py graph "packages").1.get "work_packages" .null =
        graph.1.get "work_packages" .null := by
    intro graph
    unfold canonicalizeKey
    split
    · exact ProjectExecution.Row.get_set_ne _ (by decide) _ _
    · rfl
  rw [canonicalizeLegacyPlanGraph, List.foldl_cons, List.foldl_cons, List.foldl_nil]
  dsimp only
  rw [other, canonicalizeKey, listed]
  dsimp only
  rw [projected, ProjectExecution.Row.get_set_self]

/-! ## Reading a plan -/

section Reading

variable {raw : Row} {packages : List Row}

theorem packageRows_listed
    (listed : raw.get "work_packages" .null = .array (packages.map Json.object)) :
    packageRows raw = .ok packages := by
  unfold packageRows
  rw [listed]
  dsimp only
  induction packages generalizing raw with
  | nil => rfl
  | cons head tail inductionHypothesis =>
      rw [List.map_cons, List.mapM_cons]
      have rest := @inductionHypothesis [("work_packages", .array (tail.map Json.object))]
        (by simp)
      rw [rest]
      rfl

theorem map_fst_nodes (packages : List Row) :
    (nodes py packages).map Prod.fst = packages.map (packageId py) := by
  rw [nodes, List.map_map]
  rfl

theorem existingIds_plan (plan : DeclarativePlan py raw packages) :
    existingIds py packages = packages.map (packageId py) := by
  apply List.filter_eq_self.mpr
  intro id member
  obtain ⟨package, listed, same⟩ := List.mem_map.mp member
  rw [← same]
  exact decide_eq_true (plan.nonempty package listed)

/-- In a plan the dependencies are identities, so trimming them changes nothing. -/
theorem trimmedDependencies_plan (plan : DeclarativePlan py raw packages)
    {package : Row} (member : package ∈ packages) :
    trimmedDependencies py package = .ok (dependencies py package) := by
  have readable := (plan.declarative package member).readable
  unfold trimmedDependencies
  cases items : dependencyItems package with
  | none => exact absurd items readable
  | some values =>
      have known : ∀ value ∈ values, stripString (py.text value) = py.text value ∧
          py.text value ≠ "" := by
        intro value inValues
        have edge : DependsOn (nodes py packages) (packageId py package)
            (py.text value) := by
          refine ⟨dependencies py package, List.mem_map_of_mem member, ?_⟩
          rw [dependencies, items]
          exact List.mem_map_of_mem inValues
        have target := plan.dag.closed _ _ edge
        rw [map_fst_nodes] at target
        obtain ⟨other, listed, same⟩ := List.mem_map.mp target
        rw [← same]
        exact ⟨stripString_stripString _, plan.nonempty other listed⟩
      have stripped : (values.map fun item => stripString (py.text item)) =
          values.map py.text :=
        List.map_congr_left fun value inValues => (known value inValues).1
      have filtered : (values.map py.text).filter (· ≠ "") = values.map py.text := by
        apply List.filter_eq_self.mpr
        intro text inTexts
        obtain ⟨value, inValues, same⟩ := List.mem_map.mp inTexts
        rw [← same]
        exact decide_eq_true (known value inValues).2
      dsimp only
      rw [stripped, filtered, dependencies, items, Option.getD_some]

/-- The target splits the packages. -/
theorem targetIndex_some {targetId : String} {index : Nat}
    (found : targetIndex py targetId packages = some index) :
    ∃ front target back, packages = front ++ target :: back ∧ index = front.length ∧
      packageId py target = targetId := by
  have general : ∀ (back front : List Row) (start : Option Nat),
      (∀ index, start = some index → ∃ before target after,
        front = before ++ target :: after ∧ index = before.length ∧
          packageId py target = targetId) →
      ∀ index, (back.zipIdx front.length).foldl
        (fun found item =>
          if packageId py item.1 = targetId then some item.2 else found) start =
            some index →
        ∃ before target after, front ++ back = before ++ target :: after ∧
          index = before.length ∧ packageId py target = targetId := by
    intro back
    induction back with
    | nil =>
        intro front start known index folded
        rw [List.append_nil]
        exact known index folded
    | cons head tail inductionHypothesis =>
        intro front start known index folded
        rw [List.zipIdx_cons, List.foldl_cons] at folded
        have longer : front.length + 1 = (front ++ [head]).length := by simp
        rw [longer] at folded
        have next := inductionHypothesis (front ++ [head]) _ ?_ index folded
        · rw [List.append_assoc, List.singleton_append] at next
          exact next
        · intro place started
          dsimp only at started
          split_ifs at started with same
          · cases started
            exact ⟨front, head, [], by simp, rfl, same⟩
          · obtain ⟨before, target, after, shape, length, identity⟩ :=
              known place started
            refine ⟨before, target, after ++ [head], ?_, length, identity⟩
            rw [shape, List.append_assoc, List.cons_append]
  have whole := general packages [] none (by simp) index
  rw [List.nil_append] at whole
  exact whole found

theorem targetIndex_of_mem {targetId : String}
    (member : targetId ∈ packages.map (packageId py)) :
    ∃ index, targetIndex py targetId packages = some index := by
  have general : ∀ (items : List (Row × Nat)) (start : Option Nat),
      start ≠ none ∨ targetId ∈ items.map (fun item => packageId py item.1) →
      ∃ index, items.foldl (fun found item =>
        if packageId py item.1 = targetId then some item.2 else found) start =
          some index := by
    intro items
    induction items with
    | nil =>
        intro start known
        rcases known with started | impossible
        · exact Option.ne_none_iff_exists'.mp started
        · cases impossible
    | cons head tail inductionHypothesis =>
        intro start known
        rw [List.foldl_cons]
        apply inductionHypothesis
        by_cases same : packageId py head.1 = targetId
        · rw [if_pos same]
          exact Or.inl (Option.some_ne_none _)
        · rw [if_neg same]
          rcases known with started | inItems
          · exact Or.inl started
          · rcases List.mem_cons.mp inItems with atHead | inTail
            · exact absurd atHead.symm same
            · exact Or.inr inTail
  apply general
  apply Or.inr
  have same : packages.zipIdx.map (fun item => packageId py item.1) =
      packages.map (packageId py) := by
    have composed := congrArg (List.map (packageId py))
      (List.zipIdx_map_fst 0 packages)
    rwa [List.map_map] at composed
  rw [same]
  exact member

/-- The packages are found as they are, and the target among them. -/
theorem locate_plan (plan : DeclarativePlan py raw packages) {targetId : String}
    {found : List Row × Nat}
    (located : locate py (canonicalizeLegacyPlanGraph py raw).1 targetId = .ok found) :
    ∃ front target back, packages = front ++ target :: back ∧
      found = (packages, front.length) ∧ packageId py target = targetId := by
  unfold locate at located
  rw [packageRows_listed (get_canonicalizeLegacyPlanGraph plan.listed plan.declarative)]
    at located
  rw [ok_bind] at located
  cases index : targetIndex py targetId packages with
  | none =>
      rw [index] at located
      cases located
  | some place =>
      rw [index] at located
      cases located
      obtain ⟨front, target, back, shape, length, identity⟩ := targetIndex_some index
      rw [length]
      exact ⟨front, target, back, shape, rfl, identity⟩

theorem locate_of_mem (plan : DeclarativePlan py raw packages) {targetId : String}
    (member : targetId ∈ packages.map (packageId py)) :
    ∃ found, locate py (canonicalizeLegacyPlanGraph py raw).1 targetId = .ok found := by
  obtain ⟨index, found⟩ := targetIndex_of_mem member
  unfold locate
  rw [packageRows_listed (get_canonicalizeLegacyPlanGraph plan.listed plan.declarative),
    ok_bind, found]
  exact ⟨_, rfl⟩

end Reading

/-! ## The fresh identity -/

theorem stripString_suffix {text suffix : String} (stripped : stripString text = text)
    (nonempty : text ≠ "")
    (visible : ∀ last ∈ suffix.toList.getLast?, Text.isSpace last = false)
    (suffixNonempty : suffix.toList ≠ []) :
    stripString (text ++ suffix) = text ++ suffix := by
  have front := Text.stripped_strip text.toList
  have itself : Text.strip text.toList = text.toList := by
    have same := congrArg String.toList stripped
    rwa [stripString, String.toList_ofList] at same
  rw [itself] at front
  have whole : Text.Stripped (text ++ suffix).toList := by
    rw [String.toList_append]
    refine ⟨?_, ?_⟩
    · intro head member
      apply front.front head
      cases characters : text.toList with
      | nil =>
          have empty : text = "" := by
            rw [← String.ofList_toList (s := text), characters]
          exact absurd empty nonempty
      | cons first rest =>
          rw [characters, List.cons_append] at member
          exact member
    · intro last member
      rw [List.getLast?_append_of_ne_nil _ suffixNonempty] at member
      exact visible last member
  rw [stripString, Text.strip_of_stripped whole, String.ofList_toList]

theorem isSpace_of_isDigit {character : Char} (digit : character.isDigit = true) :
    Text.isSpace character = false := by
  rw [Char.isDigit, Bool.and_eq_true, decide_eq_true_eq, decide_eq_true_eq] at digit
  have low : 48 ≤ character.toNat := digit.1
  have high : character.toNat ≤ 57 := digit.2
  simp only [Text.isSpace, Bool.or_eq_false_iff, Bool.and_eq_false_iff,
    decide_eq_false_iff_not, not_le]
  omega

/-- The identity of the new package is new, trimmed and not empty. -/
theorem nextSyncPackageId_ok {existing : List String} {targetId explicit id : String}
    (stripped : stripString targetId = targetId) (nonempty : targetId ≠ "")
    (chosen : nextSyncPackageId existing targetId explicit = .ok id) :
    id ∉ existing ∧ stripString id = id ∧ id ≠ "" := by
  have baseStripped : stripString (targetId ++ "-SYNC") = targetId ++ "-SYNC" :=
    stripString_suffix stripped nonempty (fun last ending => by cases ending; decide)
      (by decide)
  have baseNonempty : targetId ++ "-SYNC" ≠ "" := by
    intro empty
    have characters := congrArg String.toList empty
    rw [String.toList_append] at characters
    exact absurd (List.append_eq_nil_iff.mp characters).2 (by decide)
  unfold nextSyncPackageId at chosen
  dsimp only at chosen
  split_ifs at chosen with requested used
  · obtain ⟨unused, rest⟩ := unit_bind_eq_ok.mp chosen
    obtain ⟨_, same⟩ := unit_bind_eq_ok.mp rest
    cases same
    rw [rejectIf_eq_ok] at unused
    exact ⟨unused, stripString_stripString explicit, requested⟩
  · cases chosen
    obtain ⟨offset, shape⟩ := firstFree_eq existing
      (fun index => targetId ++ "-SYNC" ++ "-" ++ toString index) existing.length 2
    have fresh : firstFree existing
        (fun index => targetId ++ "-SYNC" ++ "-" ++ toString index)
          existing.length 2 ∉ existing :=
      firstFree_notMem (numbered_injective (targetId ++ "-SYNC" ++ "-")) 2
    have prefixStripped : stripString (targetId ++ "-SYNC" ++ "-") =
        targetId ++ "-SYNC" ++ "-" :=
      stripString_suffix baseStripped baseNonempty
        (fun last ending => by cases ending; decide) (by decide)
    have prefixNonempty : targetId ++ "-SYNC" ++ "-" ≠ "" := by
      intro empty
      have characters := congrArg String.toList empty
      rw [String.toList_append] at characters
      exact absurd (List.append_eq_nil_iff.mp characters).2 (by decide)
    have digits : (toString (2 + offset)).toList ≠ [] := by
      rw [toList_toString]
      exact Nat.toDigits_ne_nil
    refine ⟨fresh, ?_, ?_⟩
    · rw [shape]
      exact stripString_suffix prefixStripped prefixNonempty
        (fun last member => isSpace_of_isDigit (isDigit_of_getLast? member)) digits
    · rw [shape]
      intro empty
      have characters := congrArg String.toList empty
      rw [String.toList_append] at characters
      exact digits (List.append_eq_nil_iff.mp characters).2
  · cases chosen
    exact ⟨used, baseStripped, baseNonempty⟩

/-! ## The new package -/

section NewPackage

variable {id targetId : String} {edges selected : List String}
variable {branches : Dict String} {spec : RepositorySyncSpec} {request : SyncRequest}

theorem syncPackageMapping_eq_ok {sync : Row} :
    syncPackageMapping py id targetId edges selected branches request = .ok sync ↔
      ∃ spec, RepositorySyncSpec.fromMapping py
          (syncSpecMapping selected branches request) = .ok spec ∧
        sync = syncPackage id targetId edges selected spec request := by
  unfold syncPackageMapping
  rw [bind_eq_ok]
  constructor
  · rintro ⟨spec, valid, same⟩
    cases same
    exact ⟨spec, valid, rfl⟩
  · rintro ⟨spec, valid, same⟩
    exact ⟨spec, valid, congrArg Except.ok same.symm⟩

theorem dependencyItems_array {package : Row} {elements : List Json}
    (listed : package.get "dependencies" .null = .array elements) :
    dependencyItems package = some elements := by
  unfold dependencyItems
  rw [listed]
  dsimp only
  by_cases empty : elements = []
  · rw [empty]
    rfl
  · rw [if_pos (by rw [truthy, decide_eq_true empty])]
    rfl

theorem dependencies_strings {package : Row}
    (listed : package.get "dependencies" .null = .array (edges.map Json.string)) :
    dependencies py package = edges := by
  rw [dependencies, dependencyItems_array listed, Option.getD_some, List.map_map]
  exact List.map_id _

theorem node_syncPackage (stripped : stripString id = id) :
    node py (syncPackage id targetId edges selected spec request) = (id, edges) := by
  have identity : packageId py (syncPackage id targetId edges selected spec request) =
      id := stripped
  rw [node, identity, dependencies_strings rfl]

theorem declarativePackage_syncPackage :
    DeclarativePackage (syncPackage id targetId edges selected spec request) where
  fields := by
    intro name member
    have names : (syncPackage id targetId edges selected spec request).map Prod.fst ⊆
        DECLARATIVE_PACKAGE_FIELDS := by
      unfold syncPackage
      simp only [List.map_cons, List.map_nil]
      decide
    exact names member
  criteria := by
    intro criteria listed criterion member name known
    have named : ∀ criterion, Json.object criterion ∈ criteria →
        criterion.map Prod.fst = ["id", "description"] := by
      intro criterion member
      cases listed
      simp only [List.mem_cons, Json.object.injEq, List.not_mem_nil, or_false] at member
      rcases member with same | same | same
      · rw [same]
        rfl
      · rw [same]
        rfl
      · rw [same]
        rfl
    rw [named criterion member] at known
    exact known
  readable := by
    have listed : (syncPackage id targetId edges selected spec request).get
        "dependencies" .null = .array (edges.map Json.string) := rfl
    rw [dependencyItems_array listed]
    exact Option.some_ne_none _

end NewPackage

/-! ## Rewired packages -/

section Rewired

variable {package : Row} {edges : List String}

/-- The package with other dependencies. -/
def withDependencies (package : Row) (edges : List String) : Row :=
  package.set "dependencies" (.array (edges.map Json.string))

theorem packageId_withDependencies :
    packageId py (withDependencies package edges) = packageId py package := by
  unfold packageId withDependencies
  rw [ProjectExecution.Row.get_set_ne _ (by decide)]

theorem node_withDependencies :
    node py (withDependencies package edges) = (packageId py package, edges) := by
  have listed : (withDependencies package edges).get "dependencies" .null =
      .array (edges.map Json.string) := ProjectExecution.Row.get_set_self _ _ _ _
  rw [node, packageId_withDependencies, dependencies_strings listed]

theorem DeclarativePackage.withDependencies (declarative : DeclarativePackage package) :
    DeclarativePackage (withDependencies package edges) where
  fields := by
    intro name member
    rcases mem_keys_setEntry.mp member with same | old
    · rw [same]
      decide
    · exact declarative.fields name old
  criteria := by
    intro criteria listed
    apply declarative.criteria criteria
    rw [← listed]
    exact (ProjectExecution.Row.get_set_ne _ (by decide) _ _).symm
  readable := by
    have listed : (RepositorySync.withDependencies package edges).get "dependencies"
        .null = .array (edges.map Json.string) :=
      ProjectExecution.Row.get_set_self _ _ _ _
    rw [dependencyItems_array listed]
    exact Option.some_ne_none _

end Rewired

end Execraft.RepositorySync
