import Execraft.Replan.Reconciliation

/-!
# The reconciled graph is a graph

The mixture of old records, shards and new records has distinct identities, closed
dependencies and no cycle, and only started work that was replaced is missing.
-/

namespace Execraft.Replan

open Foundation Foundation.Graph Orchestrate

/-- A runtime graph whose shards belong to authored parents. -/
structure RuntimeGraph (graph : PlanGraph) : Prop where
  dag : Dag graph.nodes
  attached : ∀ shard ∈ generated graph, ∃ parent ∈ authored graph,
    parent.id = shard.parentId

/-- A shard waits only for its siblings and for what its parent waits for. -/
def ShardsFollowParents (graph : PlanGraph) : Prop :=
  ∀ parent ∈ authored graph, ∀ shard ∈ shardsOf graph parent.id,
    ∀ other ∈ shard.dependencies,
      other ∈ parent.dependencies ∨
        other ∈ (shardsOf graph parent.id).map WorkPackage.id

section Graphs

variable {graph : PlanGraph} {package : WorkPackage} {parentId : String}

theorem map_fst_planNodes (graph : PlanGraph) :
    graph.nodes.map Prod.fst = graph.map WorkPackage.id := by
  rw [PlanGraph.nodes, List.map_map]
  rfl

theorem mem_shardsOf : package ∈ shardsOf graph parentId ↔
    package ∈ graph ∧ package.parentId ≠ "" ∧ package.parentId = parentId := by
  rw [shardsOf, generated, List.mem_filter, List.mem_filter, decide_eq_true_eq,
    decide_eq_true_eq, and_assoc]

theorem mem_generated :
    package ∈ generated graph ↔ package ∈ graph ∧ package.parentId ≠ "" := by
  rw [generated, List.mem_filter, decide_eq_true_eq]

theorem mem_authored :
    package ∈ authored graph ↔ package ∈ graph ∧ package.parentId = "" := by
  rw [authored, List.mem_filter, decide_eq_true_eq]

theorem dependsOn_nodes {other : String} (member : package ∈ graph)
    (listed : other ∈ package.dependencies) :
    DependsOn graph.nodes package.id other :=
  ⟨package.dependencies, List.mem_map_of_mem member, listed⟩

/-- The parent of a shard; an authored package stands for itself. -/
def owner (graph : PlanGraph) (id : String) : String :=
  match (generated graph).find? fun package => package.id = id with
  | some shard => shard.parentId
  | none => id

theorem owner_of_free {id : String}
    (free : id ∉ (generated graph).map WorkPackage.id) : owner graph id = id := by
  unfold owner
  cases found : (generated graph).find? fun package => package.id = id with
  | none => rfl
  | some shard =>
      have named := List.find?_some found
      apply absurd _ free
      rw [← of_decide_eq_true named]
      exact List.mem_map_of_mem (List.mem_of_find?_eq_some found)

theorem owner_of_shard (unique : (graph.map WorkPackage.id).Nodup)
    (member : package ∈ shardsOf graph parentId) : owner graph package.id = parentId := by
  obtain ⟨inGraph, nonempty, attached⟩ := mem_shardsOf.mp member
  unfold owner
  cases found : (generated graph).find? fun other => other.id = package.id with
  | none =>
      have nothing := List.find?_eq_none.mp found package
        (mem_generated.mpr ⟨inGraph, nonempty⟩)
      exact absurd (decide_eq_true rfl) nothing
  | some shard =>
      have named := List.find?_some found
      have inGenerated := mem_generated.mp (List.mem_of_find?_eq_some found)
      have same : shard = package := List.inj_on_of_nodup_map unique inGenerated.1
        inGraph (of_decide_eq_true named)
      dsimp only
      rw [same, attached]

end Graphs

section Reconciled

variable {state : TaskExecutionStateRecord} {candidate : PlanGraph}
variable {mapping : Dict String} {revision : Int} {historical : List String}
variable (runtime : RuntimeGraph state.planGraph) (valid : Dag candidate.nodes)
variable (clear :
  (analyzeImpact state candidate mapping revision historical).blockers = [])

theorem candidate_unique (valid : Dag candidate.nodes) :
    (candidate.map WorkPackage.id).Nodup := by
  rw [← map_fst_planNodes]
  exact valid.unique

theorem runtime_unique (runtime : RuntimeGraph state.planGraph) :
    (state.planGraph.map WorkPackage.id).Nodup := by
  rw [← map_fst_planNodes]
  exact runtime.dag.unique

/-- The unchanged contract of a kept package: its dependencies but the shards. -/
theorem KeptAs.dependencies {old new : WorkPackage}
    (kept : KeptAs state candidate old new) {other : String}
    (listed : other ∈ old.dependencies) :
    other ∈ (shardsOf state.planGraph old.id).map WorkPackage.id ∨
      other ∈ new.dependencies := by
  by_cases ofShard : other ∈ (shardsOf state.planGraph old.id).map WorkPackage.id
  · exact Or.inl ofShard
  · have same := (sameContract_of_unchanged kept.unchanged).dependencies
    have inOld : other ∈ (contractMapping old
        ((shardsOf state.planGraph old.id).map WorkPackage.id)).dependencies :=
      List.mem_filter.mpr ⟨listed, decide_eq_true ofShard⟩
    rw [same] at inOld
    exact Or.inr (List.mem_filter.mp inOld).1

/-- The identities of what one candidate package becomes. -/
theorem mem_ids_reconciled {preserved : List String} {new : WorkPackage} {id : String}
    (member : id ∈ (reconciled state.planGraph preserved new).map WorkPackage.id) :
    id = new.id ∨ id ∈ (shardsOf state.planGraph new.id).map WorkPackage.id := by
  obtain ⟨package, inGroup, same⟩ := List.mem_map.mp member
  unfold reconciled at inGroup
  split_ifs at inGroup
  · rcases List.mem_append.mp inGroup with stored | ofShard
    · have known := byId_some (Option.mem_toList.mp stored)
      exact Or.inl (same.symm.trans known.2)
    · rw [← same]
      exact Or.inr (List.mem_map_of_mem ofShard)
  · rw [← same, List.mem_singleton.mp inGroup]
    exact Or.inl rfl

theorem mem_generated_of_mem_shards {id parentId : String}
    (member : id ∈ (shardsOf state.planGraph parentId).map WorkPackage.id) :
    id ∈ (generated state.planGraph).map WorkPackage.id := by
  obtain ⟨shard, ofParent, same⟩ := List.mem_map.mp member
  rw [← same]
  exact List.mem_map_of_mem (List.mem_filter.mp ofParent).1

include runtime valid clear

theorem nodup_reconciledGraph :
    ((reconciledGraph state candidate
      (analyzeImpact state candidate mapping revision historical)).map
        WorkPackage.id).Nodup := by
  have distinct := (unblocked clear).distinct
  unfold reconciledGraph
  rw [List.map_flatten, List.map_map, List.nodup_flatten]
  constructor
  · intro ids listed
    obtain ⟨new, member, made⟩ := List.mem_map.mp listed
    rw [← made]
    dsimp only [Function.comp]
    unfold reconciled
    split_ifs with preserved
    · have shards : ((shardsOf state.planGraph new.id).map WorkPackage.id).Nodup := by
        have sublist : (shardsOf state.planGraph new.id).Sublist state.planGraph :=
          List.filter_sublist.trans List.filter_sublist
        exact List.Nodup.sublist (sublist.map _) (runtime_unique runtime)
      cases stored : state.planGraph.byId.get? new.id with
      | none => exact shards
      | some old =>
          rw [Option.toList_some, List.map_append, List.map_singleton,
            List.singleton_append, List.nodup_cons, (byId_some stored).2]
          refine ⟨?_, shards⟩
          intro ofShard
          exact distinct new.id (List.mem_map_of_mem member)
            (mem_generated_of_mem_shards ofShard)
    · exact List.nodup_singleton _
  · rw [List.pairwise_map]
    have different := List.pairwise_map.mp (candidate_unique valid)
    refine different.imp_of_mem ?_
    intro first second firstNew secondNew otherId id inFirst inSecond
    have freeFirst := distinct first.id (List.mem_map_of_mem firstNew)
    have freeSecond := distinct second.id (List.mem_map_of_mem secondNew)
    rcases mem_ids_reconciled inFirst with isFirst | ofFirst
    · rcases mem_ids_reconciled inSecond with isSecond | ofSecond
      · exact otherId (isFirst.symm.trans isSecond)
      · rw [isFirst] at ofSecond
        exact freeFirst (mem_generated_of_mem_shards ofSecond)
    · rcases mem_ids_reconciled inSecond with isSecond | ofSecond
      · rw [isSecond] at ofFirst
        exact freeSecond (mem_generated_of_mem_shards ofFirst)
      · obtain ⟨shard, inShards, same⟩ := List.mem_map.mp ofFirst
        obtain ⟨other, inOthers, equal⟩ := List.mem_map.mp ofSecond
        have firstOwner := owner_of_shard (runtime_unique runtime) inShards
        have secondOwner := owner_of_shard (runtime_unique runtime) inOthers
        rw [same] at firstOwner
        rw [equal] at secondOwner
        exact otherId (firstOwner.symm.trans secondOwner)

omit runtime in
/-- Every candidate package occurs in the result. -/
theorem candidate_mem_ids {id : String} (member : id ∈ candidate.map WorkPackage.id) :
    id ∈ (reconciledGraph state candidate
      (analyzeImpact state candidate mapping revision historical)).map
        WorkPackage.id := by
  obtain ⟨new, isNew, same⟩ := List.mem_map.mp member
  rw [← same]
  have origin := fun package : WorkPackage =>
    (mem_reconciledGraph (candidate_unique valid) clear :
      package ∈ reconciledGraph state candidate
        (analyzeImpact state candidate mapping revision historical) ↔ _)
  by_cases kept : ∃ old, KeptAs state candidate old new
  · obtain ⟨old, keptAs⟩ := kept
    rw [keptAs.sameId]
    exact List.mem_map_of_mem ((origin old).mpr
      ⟨new, isNew, Or.inr ⟨old, keptAs, Or.inl rfl⟩⟩)
  · exact List.mem_map_of_mem ((origin new).mpr ⟨new, isNew, Or.inl ⟨kept, rfl⟩⟩)

omit runtime valid in
/-- Authored identities of the candidate own themselves. -/
theorem owner_of_candidate {id : String} (member : id ∈ candidate.map WorkPackage.id) :
    owner state.planGraph id = id :=
  owner_of_free ((unblocked clear).distinct id member)

omit runtime in
/-- A dependency that the candidate declares. -/
theorem candidate_edge {new : WorkPackage} {other : String} (isNew : new ∈ candidate)
    (listed : other ∈ new.dependencies) :
    other ∈ (reconciledGraph state candidate
        (analyzeImpact state candidate mapping revision historical)).map
          WorkPackage.id ∧
      DependsOn candidate.nodes new.id (owner state.planGraph other) := by
  have edge := dependsOn_nodes isNew listed
  have known := valid.closed _ _ edge
  rw [map_fst_planNodes] at known
  rw [owner_of_candidate clear known]
  exact ⟨candidate_mem_ids valid clear known, edge⟩

/-- A dependency on a shard of the same parent. -/
theorem shard_edge {old new package : WorkPackage} {other : String}
    (kept : KeptAs state candidate old new) (stored : package ∈ state.planGraph)
    (owned : owner state.planGraph package.id = old.id)
    (listed : other ∈ package.dependencies)
    (ofShard : other ∈ (shardsOf state.planGraph old.id).map WorkPackage.id) :
    other ∈ (reconciledGraph state candidate
        (analyzeImpact state candidate mapping revision historical)).map
          WorkPackage.id ∧
      (DependsOn state.planGraph.nodes package.id other ∧
        owner state.planGraph package.id = owner state.planGraph other) := by
  obtain ⟨shard, inShards, same⟩ := List.mem_map.mp ofShard
  rw [← same] at listed ⊢
  refine ⟨List.mem_map_of_mem ?_, dependsOn_nodes stored listed, ?_⟩
  · exact (mem_reconciledGraph (candidate_unique valid) clear).mpr
      ⟨new, kept.isCandidate, Or.inr ⟨old, kept, Or.inr inShards⟩⟩
  · rw [owned, owner_of_shard (runtime_unique runtime) inShards]

/-- Every edge of the result is one of the candidate between owners, or an old one
inside the shards of one parent. -/
theorem edges_reconciledGraph (follow : ShardsFollowParents state.planGraph)
    {id other : String}
    (edge : DependsOn (reconciledGraph state candidate
      (analyzeImpact state candidate mapping revision historical)).nodes id other) :
    other ∈ (reconciledGraph state candidate
        (analyzeImpact state candidate mapping revision historical)).map
          WorkPackage.id ∧
      (DependsOn candidate.nodes (owner state.planGraph id)
          (owner state.planGraph other) ∨
        (DependsOn state.planGraph.nodes id other ∧
          owner state.planGraph id = owner state.planGraph other)) := by
  have distinct := (unblocked clear).distinct
  obtain ⟨dependencies, listed, inList⟩ := edge
  obtain ⟨package, member, made⟩ := List.mem_map.mp listed
  cases made
  have origin := (mem_reconciledGraph (candidate_unique valid) clear).mp member
  obtain ⟨new, isNew, fresh | ⟨old, kept, place⟩⟩ := origin
  · rw [fresh.2] at inList ⊢
    have declared := candidate_edge valid clear isNew inList
    rw [owner_of_candidate clear (List.mem_map_of_mem isNew)]
    exact ⟨declared.1, Or.inl declared.2⟩
  · have newId : new.id ∈ candidate.map WorkPackage.id := List.mem_map_of_mem isNew
    have oldOwner : owner state.planGraph old.id = old.id := by
      rw [← kept.sameId]
      exact owner_of_candidate clear newId
    have outside : ∀ {source : String}, owner state.planGraph source = old.id →
        other ∈ new.dependencies →
        other ∈ (reconciledGraph state candidate (analyzeImpact state candidate mapping
            revision historical)).map WorkPackage.id ∧
          DependsOn candidate.nodes (owner state.planGraph source)
            (owner state.planGraph other) := by
      intro source owned declared
      rw [owned, ← kept.sameId]
      exact candidate_edge valid clear isNew declared
    rcases place with isOld | ofShard
    · rw [isOld] at inList ⊢
      rcases kept.dependencies inList with inShards | declared
      · have inside := shard_edge runtime valid clear kept
          (mem_authored.mp kept.isAuthored).1 oldOwner inList inShards
        exact ⟨inside.1, Or.inr inside.2⟩
      · have across := outside oldOwner declared
        exact ⟨across.1, Or.inl across.2⟩
    · have owned := owner_of_shard (runtime_unique runtime) ofShard
      have stored := (mem_shardsOf.mp ofShard).1
      have siblings : other ∈ (shardsOf state.planGraph old.id).map WorkPackage.id ∨
          other ∈ new.dependencies := by
        rcases follow old kept.isAuthored package ofShard other inList with
          ofParent | sibling
        · exact kept.dependencies ofParent
        · exact Or.inl sibling
      rcases siblings with inShards | declared
      · have inside := shard_edge runtime valid clear kept stored owned inList inShards
        exact ⟨inside.1, Or.inr inside.2⟩
      · have across := outside owned declared
        exact ⟨across.1, Or.inl across.2⟩

theorem dag_reconciledGraph (follow : ShardsFollowParents state.planGraph) :
    Dag (reconciledGraph state candidate
      (analyzeImpact state candidate mapping revision historical)).nodes where
  unique := by
    rw [map_fst_planNodes]
    exact nodup_reconciledGraph runtime valid clear
  closed := by
    intro id other edge
    rw [map_fst_planNodes]
    exact (edges_reconciledGraph runtime valid clear follow edge).1
  acyclic :=
    acyclic_of_clusters
      (fun _ _ edge => (edges_reconciledGraph runtime valid clear follow edge).2)
      valid.acyclic runtime.dag.acyclic

omit runtime in
/-- A kept package stays with its shards. -/
theorem kept_mem_reconciledGraph {old new : WorkPackage}
    (kept : KeptAs state candidate old new) :
    ∀ package, package = old ∨ package ∈ shardsOf state.planGraph old.id →
      package ∈ reconciledGraph state candidate
        (analyzeImpact state candidate mapping revision historical) := by
  intro package place
  exact (mem_reconciledGraph (candidate_unique valid) clear).mpr
    ⟨new, kept.isCandidate, Or.inr ⟨old, kept, place⟩⟩

/-- A started package whose replacement is new and occurs in the result. -/
structure Replaced (state : TaskExecutionStateRecord) (mapping : Dict String)
    (result : PlanGraph) (package : WorkPackage) : Prop where
  running : package.stage ≠ .completed
  started : isActivePackage package = true
  replaced : ∃ replacement,
    replacement = stripString ((mapping.get? package.id).getD "") ∧
      replacement ∈ result.map WorkPackage.id ∧
      replacement ∉ state.planGraph.map WorkPackage.id

/-- An authored package is kept, was not started, or is replaced. -/
theorem fate_authored {package : WorkPackage}
    (isAuthored : package ∈ authored state.planGraph) :
    (∃ new, KeptAs state candidate package new) ∨ Unstarted package ∨
      Replaced state mapping (reconciledGraph state candidate
        (analyzeImpact state candidate mapping revision historical)) package := by
  have stored := byId_of_mem (runtime_unique runtime) (mem_authored.mp isAuthored).1
  have authoredUnique : ((authored state.planGraph).map WorkPackage.id).Nodup :=
    List.Nodup.sublist (List.filter_sublist.map _) (runtime_unique runtime)
  have found := byId_of_mem authoredUnique isAuthored
  rcases fate ((unblocked clear).packages _ _ found) with kept | unstarted | superseded
  · obtain ⟨new, isNew⟩ := Option.isSome_iff_exists.mp kept.present
    have known := byId_some isNew
    have unchanged := kept.unchanged
    rw [changes, isNew] at unchanged
    exact Or.inl ⟨new, isAuthored, stored, known.1, known.2, kept.started, unchanged⟩
  · exact Or.inr (Or.inl unstarted)
  · obtain ⟨replacement, same, inCandidate, notRuntime⟩ := superseded.replaced
    refine Or.inr (Or.inr ⟨superseded.running, superseded.started, replacement, same,
      candidate_mem_ids valid clear (byId_isSome.mp inCandidate), ?_⟩)
    intro old
    rw [comparisonOf] at notRuntime
    rw [byId_isSome.mpr old] at notRuntime
    cases notRuntime

/-- What is missing from the result was not started, or is replaced, or belongs to
such a package. -/
theorem missing_fate {package : WorkPackage} (member : package ∈ state.planGraph)
    (missing : package.id ∉ (reconciledGraph state candidate
      (analyzeImpact state candidate mapping revision historical)).map
        WorkPackage.id) :
    ∃ origin ∈ authored state.planGraph,
      (package = origin ∨ package ∈ shardsOf state.planGraph origin.id) ∧
        (Unstarted origin ∨
          Replaced state mapping (reconciledGraph state candidate
            (analyzeImpact state candidate mapping revision historical)) origin) := by
  have decided : ∀ origin ∈ authored state.planGraph,
      (package = origin ∨ package ∈ shardsOf state.planGraph origin.id) →
        Unstarted origin ∨
          Replaced state mapping (reconciledGraph state candidate
            (analyzeImpact state candidate mapping revision historical)) origin := by
    intro origin isAuthored place
    rcases fate_authored runtime valid clear isAuthored with kept | others
    · obtain ⟨new, kept⟩ := kept
      exact absurd (List.mem_map_of_mem
        (kept_mem_reconciledGraph valid clear kept package place)) missing
    · exact others
  by_cases isAuthored : package.parentId = ""
  · have listed := mem_authored.mpr ⟨member, isAuthored⟩
    exact ⟨package, listed, Or.inl rfl, decided package listed (Or.inl rfl)⟩
  · obtain ⟨parent, listed, same⟩ :=
      runtime.attached package (mem_generated.mpr ⟨member, isAuthored⟩)
    have ofParent := mem_shardsOf.mpr ⟨member, isAuthored, same.symm⟩
    exact ⟨parent, listed, Or.inr ofParent, decided parent listed (Or.inr ofParent)⟩

/-- A replan without blockers leads from one valid graph to another one, keeps the
records of unchanged completed and started packages, and drops only what was not
started or is replaced. -/
theorem reconcileState_sound (follow : ShardsFollowParents state.planGraph)
    (replannedAt now : String) :
    let result := (reconcileState state candidate
      (analyzeImpact state candidate mapping revision historical) mapping replannedAt
        now).planGraph
    Dag result.nodes ∧
      (∀ old ∈ authored state.planGraph,
        (old.stage = .completed ∨ isActivePackage old = true) →
        ∀ new ∈ candidate, new.id = old.id →
          changedContractFields old (some new)
            ((shardsOf state.planGraph old.id).map WorkPackage.id) = [] →
          old ∈ result ∧ ∀ shard ∈ shardsOf state.planGraph old.id, shard ∈ result) ∧
      ∀ package ∈ state.planGraph, package.id ∉ result.map WorkPackage.id →
        ∃ origin ∈ authored state.planGraph,
          (package = origin ∨ package ∈ shardsOf state.planGraph origin.id) ∧
            (Unstarted origin ∨ Replaced state mapping result origin) := by
  refine ⟨dag_reconciledGraph runtime valid clear follow, ?_, ?_⟩
  · intro old isAuthored started new isNew sameId unchanged
    have stored := byId_of_mem (runtime_unique runtime) (mem_authored.mp isAuthored).1
    have kept : KeptAs state candidate old new :=
      ⟨isAuthored, stored, isNew, sameId, started, unchanged⟩
    have stays := kept_mem_reconciledGraph valid clear kept
    exact ⟨stays old (Or.inl rfl), fun shard ofOld => stays shard (Or.inr ofOld)⟩
  · intro package member missing
    exact missing_fate runtime valid clear member missing

end Reconciled

/-! ## Samples -/

/-- `P` is started; its shard waits for `A` as `P` does. -/
def attachedShard : TaskExecutionStateRecord where
  planGraph :=
    [{ id := "A", title := "A", stage := .completed },
      { id := "P", title := "P", dependencies := ["A", "S"], stage := .implement },
      { id := "S", title := "S", dependencies := ["A"], parentId := "P" }]

/-- The plan of `attachedShard` with one more package. -/
def longerPlan : PlanGraph :=
  [{ id := "A", title := "A" }, { id := "P", title := "P", dependencies := ["A"] },
    { id := "N", title := "N", dependencies := ["P"] }]

theorem attachedShard_runtime : RuntimeGraph attachedShard.planGraph := by
  have first : Dag [("A", [])] := dag_insertLast dag_nil (by decide) (by decide)
  have second : Dag [("S", ["A"]), ("A", [])] :=
    dag_insertLast first (by decide) (by decide)
  have third : Dag [("P", ["A", "S"]), ("S", ["A"]), ("A", [])] :=
    dag_insertLast second (by decide) (by decide)
  refine ⟨third.perm (List.reverse_perm [("A", []), ("S", ["A"]), ("P", ["A", "S"])]
    |>.trans ((List.Perm.swap _ _ _).cons _)), ?_⟩
  intro shard member
  have same : shard = { id := "S", title := "S", dependencies := ["A"], parentId := "P" } :=
    List.mem_singleton.mp member
  rw [same]
  exact ⟨_, List.mem_cons_of_mem _ List.mem_cons_self, rfl⟩

theorem longerPlan_valid : Dag longerPlan.nodes := by
  have first : Dag [("A", [])] := dag_insertLast dag_nil (by decide) (by decide)
  have second : Dag [("P", ["A"]), ("A", [])] :=
    dag_insertLast first (by decide) (by decide)
  have third : Dag [("N", ["P"]), ("P", ["A"]), ("A", [])] :=
    dag_insertLast second (by decide) (by decide)
  exact third.perm (List.reverse_perm [("A", []), ("P", ["A"]), ("N", ["P"])])

theorem attachedShard_follows : ShardsFollowParents attachedShard.planGraph := by
  unfold ShardsFollowParents
  decide

theorem reconcileState_sound_sample :
    Dag (reconcileState attachedShard longerPlan
      (analyzeImpact attachedShard longerPlan Dict.empty 1 []) Dict.empty "" ""
        ).planGraph.nodes :=
  (reconcileState_sound attachedShard_runtime longerPlan_valid (by decide)
    attachedShard_follows "" "").1

/-- `P` is started, and its shard waits for the authored package `Q`. -/
def detachedShard : TaskExecutionStateRecord where
  planGraph :=
    [{ id := "P", title := "P", dependencies := ["S"], stage := .implement },
      { id := "Q", title := "Q" },
      { id := "S", title := "S", dependencies := ["Q"], parentId := "P" }]

theorem detachedShard_runtime : RuntimeGraph detachedShard.planGraph := by
  have empty : Dag ([] : List (String × List String)) := dag_nil
  have first : Dag [("Q", [])] := dag_insertLast empty (by decide) (by decide)
  have second : Dag [("S", ["Q"]), ("Q", [])] :=
    dag_insertLast first (by decide) (by decide)
  have third : Dag [("P", ["S"]), ("S", ["Q"]), ("Q", [])] :=
    dag_insertLast second (by decide) (by decide)
  refine ⟨third.perm ((List.Perm.swap _ _ _).cons _), ?_⟩
  intro shard member
  have same : shard = { id := "S", title := "S", dependencies := ["Q"], parentId := "P" } :=
    List.mem_singleton.mp member
  rw [same]
  exact ⟨_, List.mem_cons_self, rfl⟩

/-- Without `Q` in the candidate, the kept shard waits for a missing package. -/
theorem not_dag_detachedShard :
    RuntimeGraph detachedShard.planGraph ∧
      Dag (PlanGraph.nodes [{ id := "P", title := "P" }]) ∧
      (analyzeImpact detachedShard [{ id := "P", title := "P" }] Dict.empty 1 []).blockers =
        [] ∧
      ¬ Dag (reconcileState detachedShard [{ id := "P", title := "P" }]
        (analyzeImpact detachedShard [{ id := "P", title := "P" }] Dict.empty 1 [])
          Dict.empty "" "").planGraph.nodes := by
  refine ⟨detachedShard_runtime, dag_insertLast dag_nil (by decide) (by decide), ?_, ?_⟩
  · decide
  · intro valid
    have edge : DependsOn (reconcileState detachedShard [{ id := "P", title := "P" }]
        (analyzeImpact detachedShard [{ id := "P", title := "P" }] Dict.empty 1 [])
          Dict.empty "" "").planGraph.nodes "S" "Q" := ⟨["Q"], by decide, by decide⟩
    have known := valid.closed _ _ edge
    revert known
    decide

end Execraft.Replan
