import Execraft.Foundation.Graph.Insertion
import Execraft.Replan.Impact

/-!
# What a replan without blockers keeps

The reconciled graph mixes old records, their shards and new records.
-/

namespace Execraft.Replan

open Foundation Foundation.Graph Orchestrate

/-! ## Packages by identity -/

section Identities

variable {graph : PlanGraph} {package : WorkPackage} {id : String}

/-- The last package of an identity. -/
theorem get?_byId :
    graph.byId.get? id = graph.reverse.find? fun package => package.id = id := by
  unfold PlanGraph.byId
  rw [Dict.get?_ofItems, ← List.map_reverse, List.find?_map, Option.map_map]
  exact congrFun Option.map_id _

theorem byId_some (found : graph.byId.get? id = some package) :
    package ∈ graph ∧ package.id = id := by
  rw [get?_byId] at found
  have named := List.find?_some found
  exact ⟨List.mem_reverse.mp (List.mem_of_find?_eq_some found), of_decide_eq_true named⟩

theorem byId_isSome :
    (graph.byId.get? id).isSome = true ↔ id ∈ graph.map WorkPackage.id := by
  rw [get?_byId, List.find?_isSome, List.mem_map]
  constructor
  · intro found
    obtain ⟨package, member, same⟩ := found
    exact ⟨package, List.mem_reverse.mp member, of_decide_eq_true same⟩
  · intro found
    obtain ⟨package, member, same⟩ := found
    exact ⟨package, List.mem_reverse.mpr member, decide_eq_true same⟩

theorem mem_keys_byId : id ∈ graph.byId.keys ↔ id ∈ graph.map WorkPackage.id := by
  rw [Dict.mem_keys_iff, byId_isSome]

theorem byId_of_mem (unique : (graph.map WorkPackage.id).Nodup)
    (member : package ∈ graph) : graph.byId.get? package.id = some package := by
  have present : (graph.byId.get? package.id).isSome :=
    byId_isSome.mpr (List.mem_map_of_mem member)
  obtain ⟨other, found⟩ := Option.isSome_iff_exists.mp present
  have known := byId_some found
  rw [found, List.inj_on_of_nodup_map unique known.1 member known.2]

/-- When no generated package has an identity, the authored ones decide. -/
theorem byId_authored (free : id ∉ (generated graph).map WorkPackage.id) :
    (authored graph).byId.get? id = graph.byId.get? id := by
  have general : ∀ packages : PlanGraph, (∀ package ∈ packages, package ∈ graph) →
      (packages.filter fun package => package.parentId = "").find?
          (fun package => package.id = id) =
        packages.find? fun package => package.id = id := by
    intro packages included
    induction packages with
    | nil => rfl
    | cons head tail inductionHypothesis =>
        have rest := inductionHypothesis fun package member =>
          included package (List.mem_cons_of_mem _ member)
        by_cases isAuthored : head.parentId = ""
        · simp only [List.filter_cons, List.find?_cons, isAuthored, decide_true, if_true,
            rest]
        · have other : head.id ≠ id := by
            intro named
            apply free
            rw [← named]
            exact List.mem_map_of_mem (List.mem_filter.mpr
              ⟨included head List.mem_cons_self, decide_eq_true isAuthored⟩)
          simp only [List.filter_cons, List.find?_cons, isAuthored, other, decide_false,
            Bool.false_eq_true, if_false, rest]
  rw [get?_byId, get?_byId, authored, ← List.filter_reverse]
  exact general graph.reverse fun package member => List.mem_reverse.mp member

end Identities

/-! ## No blockers -/

section NoBlockers

variable {state : TaskExecutionStateRecord} {candidate : PlanGraph}
variable {mapping : Dict String} {revision : Int} {historical : List String}

/-- The comparison that the analysis makes. -/
def comparisonOf (state : TaskExecutionStateRecord) (candidate : PlanGraph)
    (mapping : Dict String) : Comparison :=
  ⟨candidate.byId, state.planGraph.byId, mapping⟩

/-- What the absence of blockers says. -/
structure Unblocked (state : TaskExecutionStateRecord) (candidate : PlanGraph)
    (mapping : Dict String) : Prop where
  distinct : ∀ id ∈ candidate.map WorkPackage.id,
    id ∉ (generated state.planGraph).map WorkPackage.id
  packages : ∀ id old, (authored state.planGraph).byId.get? id = some old →
    (packageImpact (comparisonOf state candidate mapping) state.planGraph old).2 = []

theorem eraseDups_eq_nil {texts : List String} (empty : texts.eraseDups = []) :
    texts = [] := by
  apply List.eq_nil_iff_forall_not_mem.mpr
  intro text member
  have listed := List.mem_eraseDups.mpr member
  rw [empty] at listed
  cases listed

theorem sorted_eq_nil {texts : List String} (empty : sorted texts = []) : texts = [] := by
  have same := List.perm_insertionSort (· ≤ ·) texts
  rw [sorted] at empty
  rw [empty] at same
  exact same.nil_eq.symm

theorem listBlocker_eq_nil {text : String} {ids : List String}
    (empty : listBlocker text ids = []) : ids = [] := by
  unfold listBlocker at empty
  split_ifs at empty with none
  exact none

theorem unblocked
    (clear : (analyzeImpact state candidate mapping revision historical).blockers = []) :
    Unblocked state candidate mapping := by
  have all := eraseDups_eq_nil clear
  rw [List.append_eq_nil_iff, List.append_eq_nil_iff, List.append_eq_nil_iff,
    List.append_eq_nil_iff] at all
  obtain ⟨⟨⟨⟨_, collisions⟩, _⟩, packages⟩, _⟩ := all
  constructor
  · intro id isNew isGenerated
    have none := sorted_eq_nil (listBlocker_eq_nil collisions)
    have member : id ∈ candidate.byId.keys.filter
        (· ∈ (generated state.planGraph).map WorkPackage.id) :=
      List.mem_filter.mpr ⟨mem_keys_byId.mpr isNew, decide_eq_true isGenerated⟩
    rw [none] at member
    cases member
  · intro id old found
    apply List.flatten_eq_nil_iff.mp packages
    have listed : old ∈ (authored state.planGraph).byId.entries.map Prod.snd :=
      List.mem_map_of_mem (f := Prod.snd) (Dict.mem_entries_iff.mpr found)
    rw [List.map_map]
    exact List.mem_map_of_mem (f := Prod.snd ∘ _) listed

end NoBlockers

/-! ## Equal contracts -/

/-- Two contracts with equal members. -/
structure SameContract (old new : Contract) : Prop where
  id : old.id = new.id
  title : old.title = new.title
  dependencies : old.dependencies = new.dependencies
  requirements : old.requirements = new.requirements
  acceptanceCriteria : old.acceptanceCriteria = new.acceptanceCriteria
  affectedRepositories : old.affectedRepositories = new.affectedRepositories
  risk : old.risk = new.risk
  priority : old.priority = new.priority
  complexity : old.complexity = new.complexity
  verificationProfile : old.verificationProfile = new.verificationProfile
  agentPreferences : ∀ role,
    old.agentPreferences.get? role = new.agentPreferences.get? role
  skillPreferences : ∀ role,
    old.skillPreferences.get? role = new.skillPreferences.get? role
  parallelSafe : old.parallelSafe = new.parallelSafe
  readScope : old.readScope = new.readScope
  writeScope : old.writeScope = new.writeScope
  conflictKeys : old.conflictKeys = new.conflictKeys

theorem SameContract.refl (contract : Contract) : SameContract contract contract := by
  constructor <;> intros <;> rfl

theorem sameContract_of_differences {old new : Contract}
    (none : ∀ field ∈ old.differences new, field.2 = false) :
    SameContract old new := by
  simp only [Contract.differences, List.forall_mem_cons, decide_eq_false_iff_not,
    not_not, Bool.not_eq_eq_eq_not, Bool.not_false, Dict.sameItems_iff] at none
  obtain ⟨id, title, dependencies, requirements, criteria, repositories, risk, priority,
    complexity, profile, agents, skills, parallel, reads, writes, conflicts, _⟩ := none
  exact ⟨id, title, dependencies, requirements, criteria, repositories, risk, priority,
    complexity, profile, agents, skills, parallel, reads, writes, conflicts⟩

theorem sameContract_of_unchanged {old new : WorkPackage} {generated : List String}
    (unchanged : changedContractFields old (some new) generated = []) :
    SameContract (contractMapping old generated) (contractMapping new []) := by
  apply sameContract_of_differences
  intro field member
  have none := sorted_eq_nil unchanged
  have kept := List.filterMap_eq_nil_iff.mp none field member
  cases different : field.2 with
  | false => rfl
  | true =>
      rw [different] at kept
      cases kept

/-! ## The fate of one package -/

section Fate

variable {comparison : Comparison} {graph : PlanGraph} {old : WorkPackage}

/-- The members of the contract that differ. -/
def changes (comparison : Comparison) (graph : PlanGraph) (old : WorkPackage) :
    List String :=
  changedContractFields old (comparison.candidate.get? old.id)
    ((shardsOf graph old.id).map WorkPackage.id)

/-- A completed or started package that the candidate leaves as it is. -/
structure Kept (comparison : Comparison) (graph : PlanGraph) (old : WorkPackage) :
    Prop where
  started : old.stage = .completed ∨ isActivePackage old = true
  present : (comparison.candidate.get? old.id).isSome = true
  unchanged : changes comparison graph old = []

/-- A package that was neither completed nor started. -/
def Unstarted (package : WorkPackage) : Prop :=
  package.stage ≠ .completed ∧ isActivePackage package = false

/-- A started package with a new replacement in the candidate. -/
structure Superseded (comparison : Comparison) (old : WorkPackage) : Prop where
  running : old.stage ≠ .completed
  started : isActivePackage old = true
  replaced : ∃ replacement,
    replacement = stripString ((comparison.mapping.get? old.id).getD "") ∧
      (comparison.candidate.get? replacement).isSome = true ∧
      (comparison.runtime.get? replacement).isSome = false

theorem packageImpact_packageId :
    (packageImpact comparison graph old).1.packageId = old.id := by
  unfold packageImpact completedImpact activeImpact pendingImpact
  dsimp only
  split_ifs
  all_goals try rfl
  all_goals
    split
    all_goals rfl

/-- The impact of the package is that it is preserved. -/
def Preserves (impact : PackageImpact) : Prop :=
  impact.classification = .completedPreserved ∨
    impact.classification = .activePreserved

instance (impact : PackageImpact) : Decidable (Preserves impact) :=
  inferInstanceAs (Decidable (_ ∨ _))

section Branches

variable {packageId : String} {new : Option WorkPackage} {changed : List String}

theorem completedImpact_preserves :
    Preserves (completedImpact packageId new changed).1 ↔
      new.isSome = true ∧ changed = [] := by
  cases new with
  | none => simp [completedImpact, Preserves]
  | some package =>
      by_cases same : changed = []
      · simp [completedImpact, Preserves, same]
      · simp [completedImpact, Preserves, same]

theorem completedImpact_blockers :
    (completedImpact packageId new changed).2 = [] ↔
      new.isSome = true ∧ changed = [] := by
  cases new with
  | none => simp [completedImpact]
  | some package =>
      by_cases same : changed = []
      · simp [completedImpact, same]
      · simp [completedImpact, same]

theorem activeImpact_preserves :
    Preserves (activeImpact comparison packageId new changed).1 ↔
      new.isSome = true ∧ changed = [] := by
  unfold activeImpact Preserves
  dsimp only
  split_ifs with unchanged
  · simp [unchanged]
  all_goals simpa using unchanged

theorem activeImpact_blockers
    (clear : (activeImpact comparison packageId new changed).2 = []) :
    (new.isSome = true ∧ changed = []) ∨ ∃ replacement,
      replacement = stripString ((comparison.mapping.get? packageId).getD "") ∧
        (comparison.candidate.get? replacement).isSome = true ∧
        (comparison.runtime.get? replacement).isSome = false := by
  unfold activeImpact at clear
  dsimp only at clear
  split_ifs at clear with unchanged changedInPlace unnamed missing known
  · exact Or.inl unchanged
  · refine Or.inr ⟨_, rfl, ?_, ?_⟩
    · exact Option.isSome_iff_ne_none.mpr fun isNone =>
        missing (Option.isNone_iff_eq_none.mpr isNone)
    · exact Bool.eq_false_iff.mpr known

theorem pendingImpact_preserves : ¬ Preserves (pendingImpact packageId new changed) := by
  cases new with
  | none => simp [pendingImpact, Preserves]
  | some package =>
      by_cases same : changed = []
      · simp [pendingImpact, Preserves, same]
      · simp [pendingImpact, Preserves, same]

end Branches

/-- Exactly the kept packages are classified as preserved. -/
theorem preserves_iff_kept :
    Preserves (packageImpact comparison graph old).1 ↔ Kept comparison graph old := by
  unfold packageImpact
  dsimp only
  split_ifs with completed active
  · rw [completedImpact_preserves]
    constructor
    · intro both
      exact ⟨Or.inl completed, both.1, both.2⟩
    · intro kept
      exact ⟨kept.present, kept.unchanged⟩
  · rw [activeImpact_preserves]
    constructor
    · intro both
      exact ⟨Or.inr active, both.1, both.2⟩
    · intro kept
      exact ⟨kept.present, kept.unchanged⟩
  · constructor
    · intro preserved
      exact absurd preserved pendingImpact_preserves
    · intro kept
      rcases kept.started with isCompleted | isActive
      · exact absurd isCompleted completed
      · exact absurd isActive active

/-- A package without a blocker is kept, was not started, or is superseded. -/
theorem fate (clear : (packageImpact comparison graph old).2 = []) :
    Kept comparison graph old ∨ Unstarted old ∨ Superseded comparison old := by
  unfold packageImpact at clear
  dsimp only at clear
  split_ifs at clear with completed active
  · have both := completedImpact_blockers.mp clear
    exact Or.inl ⟨Or.inl completed, both.1, both.2⟩
  · rcases activeImpact_blockers clear with both | replaced
    · exact Or.inl ⟨Or.inr active, both.1, both.2⟩
    · exact Or.inr (Or.inr ⟨completed, active, replaced⟩)
  · exact Or.inr (Or.inl ⟨completed, Bool.eq_false_iff.mpr active⟩)

end Fate

/-! ## The kept packages -/

section KeptPackages

variable {state : TaskExecutionStateRecord} {candidate : PlanGraph}
variable {mapping : Dict String} {revision : Int} {historical : List String}

theorem shardImpacts_not_preserves {graph : PlanGraph} {impacts : List PackageImpact}
    {parentId : String} {impact : PackageImpact}
    (member : impact ∈ shardImpacts graph impacts parentId) : ¬ Preserves impact := by
  obtain ⟨child, _, made⟩ := List.mem_filterMap.mp member
  split_ifs at made
  · cases made
    simp [Preserves]
  · cases made
    simp [Preserves]

/-- The identities whose records are kept. -/
theorem mem_preservedIds {id : String} :
    id ∈ preservedIds (analyzeImpact state candidate mapping revision historical) ↔
      ∃ old, (authored state.planGraph).byId.get? id = some old ∧
        Kept (comparisonOf state candidate mapping) state.planGraph old := by
  constructor
  · intro member
    obtain ⟨impact, listed, same⟩ := List.mem_map.mp member
    obtain ⟨inPackages, preserves⟩ := List.mem_filter.mp listed
    have preserved : Preserves impact := of_decide_eq_true preserves
    rcases List.mem_append.mp inPackages with ofPackage | ofShard
    · rw [List.map_map] at ofPackage
      obtain ⟨old, inOld, made⟩ := List.mem_map.mp ofPackage
      obtain ⟨entry, inEntries, value⟩ := List.mem_map.mp inOld
      have found := Dict.mem_entries_iff.mp (show (entry.1, entry.2) ∈ _ from inEntries)
      have named := (byId_some found).2
      rw [value] at found named
      rw [← made] at preserved same
      have kept := preserves_iff_kept.mp preserved
      refine ⟨old, ?_, kept⟩
      rw [← same]
      have identity : (packageImpact (comparisonOf state candidate mapping)
        state.planGraph old).1.packageId = old.id := packageImpact_packageId
      have goal := found
      rw [← named, ← identity] at goal
      exact goal
    · obtain ⟨group, inGroups, inGroup⟩ := List.mem_flatten.mp ofShard
      obtain ⟨parentId, _, made⟩ := List.mem_map.mp inGroups
      rw [← made] at inGroup
      exact absurd preserved (shardImpacts_not_preserves inGroup)
  · intro kept
    obtain ⟨old, found, kept⟩ := kept
    have named := (byId_some found).2
    refine List.mem_map.mpr ⟨(packageImpact (comparisonOf state candidate mapping)
      state.planGraph old).1, List.mem_filter.mpr ⟨List.mem_append_left _ ?_, ?_⟩, ?_⟩
    · rw [List.map_map]
      have listed : old ∈ (authored state.planGraph).byId.entries.map Prod.snd :=
        List.mem_map_of_mem (f := Prod.snd) (Dict.mem_entries_iff.mpr found)
      exact List.mem_map_of_mem (f := Prod.fst ∘ packageImpact
        (comparisonOf state candidate mapping) state.planGraph) listed
    · exact decide_eq_true (preserves_iff_kept.mpr kept)
    · rw [packageImpact_packageId, named]

/-- A kept package and the candidate package with the same contract. -/
structure KeptAs (state : TaskExecutionStateRecord) (candidate : PlanGraph)
    (old new : WorkPackage) : Prop where
  isAuthored : old ∈ authored state.planGraph
  stored : state.planGraph.byId.get? old.id = some old
  isCandidate : new ∈ candidate
  sameId : new.id = old.id
  started : old.stage = .completed ∨ isActivePackage old = true
  unchanged : changedContractFields old (some new)
    ((shardsOf state.planGraph old.id).map WorkPackage.id) = []

variable (unique : (candidate.map WorkPackage.id).Nodup)
variable (clear :
  (analyzeImpact state candidate mapping revision historical).blockers = [])

include unique clear

theorem mem_preservedIds_iff {new : WorkPackage} (member : new ∈ candidate) :
    new.id ∈ preservedIds (analyzeImpact state candidate mapping revision historical) ↔
      ∃ old, KeptAs state candidate old new := by
  have free := (unblocked clear).distinct new.id (List.mem_map_of_mem member)
  have stored := byId_of_mem unique member
  rw [mem_preservedIds]
  constructor
  · intro kept
    obtain ⟨old, found, kept⟩ := kept
    have known := byId_some found
    have unchanged := kept.unchanged
    rw [changes, comparisonOf, known.2, stored] at unchanged
    rw [byId_authored free] at found
    refine ⟨old, known.1, ?_, member, known.2.symm, kept.started, ?_⟩
    · rw [known.2]
      exact found
    · rw [known.2]
      exact unchanged
  · intro kept
    obtain ⟨old, kept⟩ := kept
    refine ⟨old, ?_, kept.started, ?_, ?_⟩
    · rw [byId_authored free, kept.sameId]
      exact kept.stored
    · rw [comparisonOf, ← kept.sameId, stored]
      rfl
    · rw [changes, comparisonOf, ← kept.sameId, stored, kept.sameId]
      exact kept.unchanged

/-- Where a package of the reconciled graph comes from. -/
theorem mem_reconciledGraph {package : WorkPackage} :
    package ∈ reconciledGraph state candidate
        (analyzeImpact state candidate mapping revision historical) ↔
      ∃ new ∈ candidate,
        ((¬ ∃ old, KeptAs state candidate old new) ∧ package = new) ∨
        ∃ old, KeptAs state candidate old new ∧
          (package = old ∨ package ∈ shardsOf state.planGraph old.id) := by
  unfold reconciledGraph
  rw [List.mem_flatten]
  constructor
  · intro found
    obtain ⟨group, listed, inGroup⟩ := found
    obtain ⟨new, member, made⟩ := List.mem_map.mp listed
    refine ⟨new, member, ?_⟩
    rw [← made, reconciled] at inGroup
    split_ifs at inGroup with preserved
    · obtain ⟨old, kept⟩ := (mem_preservedIds_iff unique clear member).mp preserved
      refine Or.inr ⟨old, kept, ?_⟩
      rw [kept.sameId, kept.stored] at inGroup
      exact List.mem_cons.mp inGroup
    · refine Or.inl ⟨?_, List.mem_singleton.mp inGroup⟩
      exact fun kept => preserved ((mem_preservedIds_iff unique clear member).mpr kept)
  · intro found
    obtain ⟨new, member, fresh | kept⟩ := found
    · refine ⟨_, List.mem_map_of_mem member, ?_⟩
      rw [reconciled, if_neg, fresh.2]
      · exact List.mem_singleton.mpr rfl
      · exact fun preserved =>
          fresh.1 ((mem_preservedIds_iff unique clear member).mp preserved)
    · obtain ⟨old, kept, inGroup⟩ := kept
      refine ⟨_, List.mem_map_of_mem member, ?_⟩
      rw [reconciled, if_pos ((mem_preservedIds_iff unique clear member).mpr ⟨old, kept⟩),
        kept.sameId, kept.stored]
      exact List.mem_cons.mpr inGroup

end KeptPackages

end Execraft.Replan
