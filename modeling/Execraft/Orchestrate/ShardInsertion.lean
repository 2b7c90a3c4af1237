import Execraft.Orchestrate.ShardPlanSound
import Execraft.Orchestrate.StageEdges
import Execraft.Replan.ReconciledGraph

/-!
# The shards in the plan graph

The package of an accepted plan is expanded into its shards: the graph stays closed and
acyclic, and the other packages keep their order.
-/

namespace Execraft.Orchestrate.Sharding

open Foundation Foundation.Json Foundation.Graph Relation

/-! ## Shards that wait for one another -/

section Siblings

/-- One shard waits for another one, by the identities of their packages. -/
def SiblingDepends (parent : WorkPackage) (items : List ShardItem) : String → String → Prop :=
  Relation.Map (LocallyDepends items) (fun key => parent.id ++ "__" ++ key)
    fun key => parent.id ++ "__" ++ key

variable {policy : DecompositionPolicy} {parent : WorkPackage} {items : List ShardItem}
variable {generatedBy : String}

theorem shardId_injective (parent : WorkPackage) :
    Function.Injective fun key => parent.id ++ "__" ++ key := by
  intro first second same
  have texts := congrArg String.toList same
  rw [String.toList_append, String.toList_append (s := parent.id ++ "__")] at texts
  exact String.toList_inj.mp (List.append_cancel_left texts)

theorem ids_children (parent : WorkPackage) (generatedBy : String) (items : List ShardItem) :
    (shardPackages parent generatedBy (items.map (proposalOf parent))).map WorkPackage.id =
      (items.map ShardItem.id).map fun key => parent.id ++ "__" ++ key := by
  have keys : (items.map (proposalOf parent)).map ShardProposal.key =
      items.map ShardItem.id := List.map_map
  rw [id_shardPackages, keys]

theorem CheckedItems.acyclic_siblings (checked : CheckedItems policy parent items) :
    Acyclic (SiblingDepends parent items) :=
  acyclic_map (shardId_injective parent) checked.acyclic

theorem CheckedItems.siblings_within (checked : CheckedItems policy parent items)
    {id other : String} (depends : SiblingDepends parent items id other) :
    id ∈ (items.map ShardItem.id).map (fun key => parent.id ++ "__" ++ key) ∧
      other ∈ (items.map ShardItem.id).map fun key => parent.id ++ "__" ++ key := by
  obtain ⟨key, otherKey, ⟨item, member, isKey, waits⟩, same, otherSame⟩ := depends
  rw [← same, ← otherSame, ← isKey]
  exact ⟨List.mem_map_of_mem (List.mem_map_of_mem member),
    List.mem_map_of_mem (checked.closed item member waits)⟩

/-- A shard depends on what its package depends on, and on its siblings. -/
theorem dependsOn_children {id other : String} :
    DependsOn (PlanGraph.nodes
        (shardPackages parent generatedBy (items.map (proposalOf parent)))) id other ↔
      (id ∈ (items.map ShardItem.id).map (fun key => parent.id ++ "__" ++ key) ∧
        other ∈ parent.dependencies) ∨ SiblingDepends parent items id other := by
  constructor
  · rintro ⟨dependencies, listed, member⟩
    obtain ⟨child, isChild, same⟩ := List.mem_map.mp listed
    obtain ⟨extra, proposal, proposed, shape⟩ := mem_shardPackages isChild
    obtain ⟨item, isItem, made⟩ := List.mem_map.mp proposed
    rw [shape, ← made] at same
    cases same
    rcases List.mem_append.mp (mem_distinct.mp member) with inherited | sibling
    · exact Or.inl ⟨List.mem_map_of_mem (List.mem_map_of_mem isItem), inherited⟩
    · obtain ⟨key, waits, named⟩ := List.mem_map.mp sibling
      exact Or.inr ⟨item.id, key, ⟨item, isItem, rfl, waits⟩, rfl, named⟩
  · rintro (⟨named, inherited⟩ | ⟨key, otherKey, ⟨item, isItem, isKey, waits⟩, same, other⟩)
    · obtain ⟨key, isKey, same⟩ := List.mem_map.mp named
      obtain ⟨item, isItem, itemKey⟩ := List.mem_map.mp isKey
      obtain ⟨extra, listed⟩ := exists_child generatedBy isItem
      rw [← same, ← itemKey]
      exact Replan.dependsOn_nodes listed
        (mem_distinct.mpr (List.mem_append_left _ inherited))
    · obtain ⟨extra, listed⟩ := exists_child generatedBy isItem
      rw [← same, ← other, ← isKey]
      exact Replan.dependsOn_nodes listed
        (mem_distinct.mpr (List.mem_append_right _ (List.mem_map_of_mem waits)))

end Siblings

/-! ## A package with more dependencies -/

section Widening

theorem put_append {graph more : PlanGraph} {package : WorkPackage}
    (present : package.id ∈ graph.map WorkPackage.id) :
    (graph ++ more).put package = graph.put package ++ more := by
  unfold PlanGraph.put
  induction graph with
  | nil => cases present
  | cons head tail inductionHypothesis =>
      rw [List.cons_append, PlanGraph.modify, PlanGraph.modify]
      by_cases same : head.id = package.id
      · rw [if_pos same, if_pos same, List.cons_append]
      · rw [if_neg same, if_neg same, List.cons_append,
          inductionHypothesis ((List.mem_cons.mp present).resolve_left fun again => same again.symm)]

theorem dependsOn_cons {package : WorkPackage} {graph : PlanGraph} {id other : String} :
    DependsOn (PlanGraph.nodes (package :: graph)) id other ↔
      (id = package.id ∧ other ∈ package.dependencies) ∨ DependsOn graph.nodes id other :=
  Graph.dependsOn_cons

theorem dependsOn_append {graph more : PlanGraph} {id other : String} :
    DependsOn (PlanGraph.nodes (graph ++ more)) id other ↔
      DependsOn graph.nodes id other ∨ DependsOn more.nodes id other := by
  induction graph with
  | nil =>
      constructor
      · exact Or.inr
      · rintro (⟨_, impossible, _⟩ | later)
        · cases impossible
        · exact later
  | cons head tail inductionHypothesis =>
      rw [List.cons_append, dependsOn_cons, dependsOn_cons, inductionHypothesis, or_assoc]

/-- Where a package gets more dependencies, the graph gets them as edges. -/
theorem dependsOn_put {graph : PlanGraph} {package wider : WorkPackage} {more : List String}
    (same : wider.id = package.id)
    (dependencies : ∀ other, other ∈ wider.dependencies ↔
      other ∈ package.dependencies ∨ other ∈ more)
    (present : package.id ∈ graph.map WorkPackage.id) {id other : String} :
    DependsOn (graph.put wider).nodes id other ↔
      DependsOn (graph.put package).nodes id other ∨ (id = package.id ∧ other ∈ more) := by
  unfold PlanGraph.put
  rw [same]
  induction graph with
  | nil => cases present
  | cons head tail inductionHypothesis =>
      rw [PlanGraph.modify, PlanGraph.modify]
      by_cases here : head.id = package.id
      · rw [if_pos here, if_pos here, dependsOn_cons, dependsOn_cons, same, dependencies,
          and_or_left, or_right_comm]
      · rw [if_neg here, if_neg here, dependsOn_cons, dependsOn_cons,
          inductionHypothesis
            ((List.mem_cons.mp present).resolve_left fun again => here again.symm), or_assoc]

end Widening

/-- The package under processing is in its graph. -/
theorem package_mem_graph {session : StageSession}
    (listed : session.package.id ∈ session.graph.map WorkPackage.id) :
    session.package ∈ session.graph := by
  rw [StageSession.ids_graph] at listed
  obtain ⟨old, found⟩ := PlanGraph.packageById_of_mem_ids listed
  exact (PlanGraph.packageById_mem
    (PlanGraph.packageById_modify_self (fun _ _ => rfl) found)).1

/-! ## Insertion -/

section Insertion

variable {host : Host} {py : ShardInterpreter} {policy : DecompositionPolicy}
variable {session : StageSession} {items : List ShardItem} {planner : String}

/-- The shards are behind the old packages, and their package waits for them. -/
structure Inserted (before : StageSession) (children : List WorkPackage)
    (later : StageSession) : Prop where
  fresh : ∀ child ∈ children, child.id ∉ before.graph.map WorkPackage.id
  id : later.package.id = before.package.id
  dependencies : later.package.dependencies =
    distinct (before.package.dependencies ++ children.map WorkPackage.id)
  record : later.record.planGraph = before.record.planGraph ++ children

/-- The graph after the insertion, read from the session before it. -/
theorem Inserted.graph {children : List WorkPackage} {later : StageSession}
    (inserted : Inserted session children later)
    (listed : session.package.id ∈ session.graph.map WorkPackage.id) :
    later.graph = session.record.planGraph.put later.package ++ children := by
  rw [StageSession.ids_graph, ← inserted.id] at listed
  rw [StageSession.graph, inserted.record, put_append listed]

/-- The package is expanded into the shards of a checked plan. -/
theorem Inserted.expansion {later : StageSession} (dag : Dag session.graph.nodes)
    (checked : CheckedItems policy session.package items)
    (inserted : Inserted session
      (shardPackages session.package planner (items.map (proposalOf session.package))) later)
    (listed : session.package.id ∈ session.graph.map WorkPackage.id) :
    Expansion session.graph.nodes later.graph.nodes session.package.id
      ((items.map ShardItem.id).map fun key => session.package.id ++ "__" ++ key)
      (SiblingDepends session.package items) := by
  have recorded : session.package.id ∈ session.record.planGraph.map WorkPackage.id := by
    rw [← StageSession.ids_graph]
    exact listed
  have widened : ∀ other, other ∈ later.package.dependencies ↔
      other ∈ session.package.dependencies ∨
        other ∈ (items.map ShardItem.id).map fun key => session.package.id ++ "__" ++ key := by
    intro other
    rw [inserted.dependencies, mem_distinct, List.mem_append, ids_children]
  constructor
  · rw [Replan.map_fst_planNodes, Replan.map_fst_planNodes, inserted.graph listed,
      List.map_append, ids_children, StageSession.ids_graph]
    congr 1
    exact PlanGraph.ids_modify (fun _ _ => rfl) _
  · rw [Replan.map_fst_planNodes]
    exact listed
  · intro member isMember old
    rw [Replan.map_fst_planNodes] at old
    rw [← ids_children session.package planner] at isMember
    obtain ⟨child, isChild, same⟩ := List.mem_map.mp isMember
    rw [← same] at old
    exact inserted.fresh child isChild old
  · exact checked.distinct.map (shardId_injective session.package)
  · exact fun node other => checked.siblings_within
  · exact checked.acyclic_siblings
  · intro node other
    rw [inserted.graph listed, dependsOn_append,
      dependsOn_put inserted.id widened recorded, dependsOn_children]
    have target : DependsOn session.graph.nodes session.package.id other ↔
        other ∈ session.package.dependencies :=
      dag.dependsOn_iff (List.mem_map_of_mem (package_mem_graph listed))
    rw [target]
    exact or_assoc

/-- A shard has the identity of an old package, and the graph stays as it is. -/
def Collides (before : StageSession) (children : List WorkPackage) (later : StageSession) :
    Prop :=
  (∃ child ∈ children, child.id ∈ before.graph.map WorkPackage.id) ∧
    later.graph.nodes = before.graph.nodes

theorem nodes_put {graph : PlanGraph} {package other : WorkPackage} (id : other.id = package.id)
    (dependencies : other.dependencies = package.dependencies) :
    (graph.put other).nodes = (graph.put package).nodes := by
  unfold PlanGraph.put
  rw [id]
  induction graph with
  | nil => rfl
  | cons head tail inductionHypothesis =>
      rw [PlanGraph.modify, PlanGraph.modify]
      by_cases same : head.id = package.id
      · rw [if_pos same, if_pos same, PlanGraph.nodes, PlanGraph.nodes, List.map_cons,
          List.map_cons, id, dependencies]
      · rw [if_neg same, if_neg same]
        exact congrArg (List.cons _) inductionHypothesis

/-- Moving the package to a stage leaves it in its place. -/
theorem Inserted.advance {children : List WorkPackage} {later : StageSession}
    (inserted : Inserted session children later) {stage : WorkPackageStage} :
    Inserted session children (advancePackageStage host stage later).2 := by
  by_cases same : later.package.stage = stage
  · rw [← same, advancePackageStage_same]
    exact inserted
  · obtain ⟨agentWaits, waiting, shape⟩ := advancePackageStage_apply host same
    rw [shape]
    exact ⟨inserted.fresh, inserted.id, inserted.dependencies, inserted.record⟩

/-- What inserting the shards of a plan leads to. -/
theorem ensures_insertShards {reason planHash : String} {proposals : List ShardProposal} :
    Stateful.Ensures (insertShards host planner reason planHash proposals) session
      (fun _ => Inserted session (shardPackages session.package planner proposals))
      (fun _ later =>
        Collides session (shardPackages session.package planner proposals) later ∨
          Inserted session (shardPackages session.package planner proposals) later) := by
  let children := shardPackages session.package planner proposals
  unfold insertShards
  rw [Stateful.ensures_bind, ensures_observe, Stateful.ensures_bind, Stateful.ensures_read]
  refine Stateful.ensures_ite (fun collision => ?_) fun apart => ?_
  · obtain ⟨child, isChild, known⟩ := List.any_eq_true.mp collision
    obtain ⟨other, isOther, same⟩ := List.any_eq_true.mp known
    refine Or.inl ⟨⟨child, isChild, ?_⟩, nodes_put rfl rfl⟩
    rw [← of_decide_eq_true same]
    exact List.mem_map_of_mem isOther
  have fresh : ∀ child ∈ children, child.id ∉ session.graph.map WorkPackage.id := by
    intro child isChild present
    obtain ⟨other, isOther, same⟩ := List.mem_map.mp present
    refine apart (List.any_eq_true.mpr ⟨child, isChild, ?_⟩)
    exact List.any_eq_true.mpr ⟨other, isOther, decide_eq_true same⟩
  rw [Stateful.ensures_bind]
  show Stateful.Ensures (changeRecord _ >>= fun _ => _) _ _ _
  rw [Stateful.ensures_bind]
  show Stateful.Ensures (currentPackage >>= fun package => _) _ _ _
  rw [Stateful.ensures_bind, ensures_currentPackage]
  have inserted : Inserted session children
      { session with
        package := aggregatePackage (host.surroundings session.clock).now planner reason
          planHash children session.package
        record := addPackages children session.record
        clock := session.clock + 1 } :=
    ⟨fresh, rfl, rfl, rfl⟩
  split
  · exact Or.inr inserted
  · refine Stateful.Ensures.mono (Stateful.ensures_of_final inserted.advance)
      (fun _ _ holds => holds) fun _ _ holds => Or.inr holds

/-- The plan graph with a package expanded into shards. -/
structure Expanded (before : StageSession) (children : List WorkPackage)
    (later : StageSession) : Prop where
  dag : Dag later.graph.nodes
  added : children ⊆ later.graph
  inherits : ∀ child ∈ children, before.package.dependencies ⊆ child.dependencies
  waits : ∀ child ∈ children, DependsOn later.graph.nodes before.package.id child.id
  order : ∀ first ∈ before.graph.map WorkPackage.id, ∀ second ∈ before.graph.map WorkPackage.id,
    (TransGen (DependsOn later.graph.nodes) first second ↔
      TransGen (DependsOn before.graph.nodes) first second)

theorem Inserted.expanded {later : StageSession} (dag : Dag session.graph.nodes)
    (listed : session.package.id ∈ session.graph.map WorkPackage.id)
    (checked : CheckedItems policy session.package items)
    (inserted : Inserted session
      (shardPackages session.package planner (items.map (proposalOf session.package))) later) :
    Expanded session
      (shardPackages session.package planner (items.map (proposalOf session.package))) later := by
  have expansion := inserted.expansion dag checked listed
  refine ⟨expansion.dag dag, ?_, ?_, ?_, ?_⟩
  · rw [inserted.graph listed]
    exact List.subset_append_right _ _
  · intro child isChild dependency member
    obtain ⟨extra, proposal, -, shape⟩ := mem_shardPackages isChild
    rw [shape]
    exact mem_distinct.mpr (List.mem_append_left _ member)
  · intro child isChild
    refine (expansion.edges _ _).mpr (Or.inr (Or.inl ⟨rfl, ?_⟩))
    rw [← ids_children session.package planner]
    exact List.mem_map_of_mem isChild
  · intro first isFirst second isSecond
    rw [← Replan.map_fst_planNodes] at isFirst isSecond
    exact expansion.path_iff dag isFirst isSecond

/-- A plan that is accepted assigns every part of its package and nothing else, and its
shards are inserted into a closed and acyclic plan graph without changing the order of the
packages that were there. -/
theorem decomposition_keepsPlan {payload : Row} {plan : ValidatedDecomposition}
    (dag : Dag session.graph.nodes)
    (listed : session.package.id ∈ session.graph.map WorkPackage.id)
    (accepted : validateDecompositionPayload py policy session.package payload planner =
      .ok plan)
    (shards : plan.decision = "shard") :
    CoversParent session.package (shardPackages session.package planner plan.proposals) ∧
      (∀ child ∈ shardPackages session.package planner plan.proposals,
        StaysInside policy session.package child) ∧
      Stateful.Ensures
        (insertShards host planner plan.reason plan.planHash plan.proposals) session
        (fun _ => Expanded session (shardPackages session.package planner plan.proposals))
        (fun _ later =>
          Collides session (shardPackages session.package planner plan.proposals) later ∨
            Expanded session (shardPackages session.package planner plan.proposals) later) := by
  obtain ⟨items, checked, proposed⟩ := validateDecompositionPayload_spec accepted shards
  rw [proposed]
  refine ⟨checked.covered.children, ?_, ?_⟩
  · intro child isChild
    obtain ⟨extra, proposal, listed, shape⟩ := mem_shardPackages isChild
    obtain ⟨item, isItem, made⟩ := List.mem_map.mp listed
    rw [shape, ← made]
    exact (checked.sound item isItem).child extra
  · refine ensures_insertShards.mono (fun _ _ inserted => ?_) fun _ _ raised => ?_
    · exact inserted.expanded dag listed checked
    · rcases raised with collides | inserted
      · exact Or.inl collides
      · exact Or.inr (inserted.expanded dag listed checked)

end Insertion

/-! ## Two shards -/

section Example

def shardInterpreter : ShardInterpreter :=
  { asciiPython with
    planHash := fun parentId originStage reason _ => parentId ++ originStage ++ reason }

def storagePackage : WorkPackage :=
  { id := "storage"
    title := "Storage"
    dependencies := ["schema"]
    requirements := ["read", "write"]
    acceptanceCriteria := [{ id := "AC-1", description := "Rows are stored." }]
    affectedRepositories := ["app"]
    stage := .decompose }

def storageSession : StageSession where
  package := storagePackage
  record :=
    { planGraph :=
        [{ id := "schema", title := "Schema" }, storagePackage,
          { id := "release", title := "Release", dependencies := ["storage"] }] }

def shardPayload (id : String) (index : Int) (dependsOn : List Json) : Json :=
  .object
    [("id", .string id), ("title", .string id), ("complexity", .int 20),
      ("affected_repositories", .array [.string "app"]),
      ("requirement_indexes", .array [.int index]),
      ("acceptance_criterion_ids", .array [.string "AC-1"]),
      ("depends_on", .array dependsOn), ("parallel_safe", .bool true)]

/-- The writer waits for the reader. -/
def storagePayload : Row :=
  [("decision", .string "shard"), ("reason", .string "two sides"),
    ("shards", .array
      [shardPayload "reader" 1 [], shardPayload "writer" 2 [.string "reader"]])]

def storagePlan : Except String ValidatedDecomposition :=
  validateDecompositionPayload shardInterpreter {} storagePackage storagePayload "planner"

theorem dag_storageSession : Dag storageSession.graph.nodes := by
  have first : Dag [("schema", [])] := dag_insertLast dag_nil (by decide) (by decide)
  have second : Dag [("storage", ["schema"]), ("schema", [])] :=
    dag_insertLast first (by decide) (by decide)
  have third : Dag [("release", ["storage"]), ("storage", ["schema"]), ("schema", [])] :=
    dag_insertLast second (by decide) (by decide)
  exact third.perm (List.reverse_perm
    [("schema", []), ("storage", ["schema"]), ("release", ["storage"])])

/-- The plan of the two shards is accepted, and they are inserted. -/
theorem decomposition_keepsPlan_storage :
    ∃ plan later, storagePlan = .ok plan ∧
      insertShards pairHost "planner" plan.reason plan.planHash plan.proposals
        storageSession = (.ok (), later) ∧
      Expanded storageSession (shardPackages storagePackage "planner" plan.proposals) later := by
  have evaluated : storagePlan.toOption.map (fun plan =>
      (plan.decision, (insertShards pairHost "planner" plan.reason plan.planHash
        plan.proposals storageSession).1.isOk)) = some ("shard", true) := by
    decide +kernel
  obtain ⟨plan, accepted, outcome⟩ := exists_ok_of_toOption evaluated
  obtain ⟨shards, completes⟩ := Prod.mk.inj outcome
  have kept : Stateful.Ensures
      (insertShards pairHost "planner" plan.reason plan.planHash plan.proposals) storageSession
      (fun _ => Expanded storageSession
        (shardPackages storagePackage "planner" plan.proposals)) _ :=
    (decomposition_keepsPlan dag_storageSession (by decide) accepted shards).2.2
  cases ran : insertShards pairHost "planner" plan.reason plan.planHash plan.proposals
      storageSession with
  | mk result later =>
      rw [ran] at completes
      cases result with
      | error signal => cases completes
      | ok value =>
          refine ⟨plan, later, accepted, ran, ?_⟩
          unfold Stateful.Ensures at kept
          rw [ran] at kept
          exact kept

end Example

end Execraft.Orchestrate.Sharding
