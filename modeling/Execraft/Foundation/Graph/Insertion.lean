import Mathlib.Data.Set.Finite.Basic
import Mathlib.Logic.Relation
import Mathlib.Order.WellFounded

/-!
# New nodes in acyclic graphs

Orders implied by a dependency relation when a node is put into it, and when
groups of nodes are contracted.
-/

namespace Foundation.Graph

open Relation

variable {Node Other : Type}

/-- No node depends on itself, however indirectly. -/
def Acyclic (depends : Node → Node → Prop) : Prop :=
  ∀ node, ¬ TransGen depends node node

/-! ## Contraction -/

section Contraction

variable {depends inner : Node → Node → Prop} {image : Node → Other}
variable {contracted : Other → Other → Prop} {first second : Node}

/-- When every edge is an edge of the images or stays inside one image, so does every
path. -/
theorem path_of_clusters
    (edges : ∀ node other, depends node other →
      contracted (image node) (image other) ∨
        (inner node other ∧ image node = image other))
    {node other : Node} (path : TransGen depends node other) :
    TransGen contracted (image node) (image other) ∨
      (TransGen inner node other ∧ image node = image other) := by
  induction path with
  | single edge =>
      rcases edges _ _ edge with outside | ⟨inside, same⟩
      · exact Or.inl (.single outside)
      · exact Or.inr ⟨.single inside, same⟩
  | tail front edge inductionHypothesis =>
      rcases inductionHypothesis with outer | ⟨within, together⟩
      · rcases edges _ _ edge with outside | ⟨_, same⟩
        · exact Or.inl (outer.tail outside)
        · rw [← same]
          exact Or.inl outer
      · rcases edges _ _ edge with outside | ⟨inside, same⟩
        · rw [together]
          exact Or.inl (.single outside)
        · exact Or.inr ⟨within.tail inside, together.trans same⟩

theorem acyclic_of_clusters
    (edges : ∀ node other, depends node other →
      contracted (image node) (image other) ∨
        (inner node other ∧ image node = image other))
    (outside : Acyclic contracted) (inside : Acyclic inner) : Acyclic depends := by
  intro node cycle
  rcases path_of_clusters edges cycle with outer | ⟨within, _⟩
  · exact outside _ outer
  · exact inside _ within

/-- A path that uses one edge only. -/
theorem path_of_edge (different : first ≠ second) {node other : Node}
    (path : TransGen (fun source target => source = first ∧ target = second)
      node other) : node = first ∧ other = second := by
  induction path with
  | single edge => exact edge
  | tail front edge inductionHypothesis =>
      exact absurd (edge.1.symm.trans inductionHypothesis.2) different

/-- Every edge but one between two nodes with the same image is an edge of the
images, so every path is one too. -/
theorem path_of_contraction (different : first ≠ second)
    (edges : ∀ node other, depends node other →
      contracted (image node) (image other) ∨ (node = first ∧ other = second))
    (same : image first = image second) {node other : Node}
    (path : TransGen depends node other) :
    TransGen contracted (image node) (image other) ∨
      (node = first ∧ other = second) := by
  have clusters : ∀ node other, depends node other →
      contracted (image node) (image other) ∨
        ((node = first ∧ other = second) ∧ image node = image other) := by
    intro node other edge
    rcases edges node other edge with kept | collapsed
    · exact Or.inl kept
    · rw [collapsed.1, collapsed.2]
      exact Or.inr ⟨⟨rfl, rfl⟩, same⟩
  rcases path_of_clusters clusters path with outer | ⟨within, _⟩
  · exact Or.inl outer
  · exact Or.inr (path_of_edge different within)

theorem acyclic_of_contraction (different : first ≠ second)
    (edges : ∀ node other, depends node other →
      contracted (image node) (image other) ∨ (node = first ∧ other = second))
    (same : image first = image second) (acyclic : Acyclic contracted) :
    Acyclic depends := by
  intro node cycle
  rcases path_of_contraction different edges same cycle with image | ⟨source, target⟩
  · exact acyclic _ image
  · exact different (source.symm.trans target)

end Contraction

/-! ## Renaming -/

/-- A path between renamed nodes is a renamed path. -/
theorem path_of_map {depends : Node → Node → Prop} {rename : Node → Other}
    (injective : Function.Injective rename) {node other : Other}
    (path : TransGen (Relation.Map depends rename rename) node other) :
    Relation.Map (TransGen depends) rename rename node other := by
  induction path with
  | single edge =>
      obtain ⟨first, second, step, begins, ends⟩ := edge
      exact ⟨first, second, .single step, begins, ends⟩
  | tail front edge inductionHypothesis =>
      obtain ⟨first, middle, path, begins, reached⟩ := inductionHypothesis
      obtain ⟨next, last, step, leaves, ends⟩ := edge
      have same : next = middle := injective (leaves.trans reached.symm)
      rw [same] at step
      exact ⟨first, last, path.tail step, begins, ends⟩

theorem acyclic_map {depends : Node → Node → Prop} {rename : Node → Other}
    (injective : Function.Injective rename) (acyclic : Acyclic depends) :
    Acyclic (Relation.Map depends rename rename) := by
  intro node cycle
  obtain ⟨first, last, path, begins, ends⟩ := path_of_map injective cycle
  have same : first = last := injective (begins.trans ends.symm)
  rw [same] at path
  exact acyclic last path

/-! ## Paths through replaced edges -/

/-- When every edge is at least a path, every path is a path. -/
theorem path_mono {depends later : Node → Node → Prop}
    (edges : ∀ node other, depends node other → TransGen later node other)
    {node other : Node} (path : TransGen depends node other) :
    TransGen later node other := by
  induction path with
  | single edge => exact edges _ _ edge
  | tail _ edge inductionHypothesis => exact inductionHypothesis.trans (edges _ _ edge)

/-! ## Terminal nodes -/

/-- In a finite acyclic graph every node is reached from a node on which nothing
depends. -/
theorem exists_terminal {depends : Node → Node → Prop} (acyclic : Acyclic depends)
    {nodes : List Node} (closed : ∀ node other, depends node other → node ∈ nodes)
    (node : Node) :
    ∃ terminal, ReflTransGen depends terminal node ∧
      ∀ other, ¬ depends other terminal := by
  have wellFounded : WellFounded fun above below : {node // node ∈ nodes} =>
      TransGen depends above.val below.val := by
    have irreflexive : Std.Irrefl fun above below : {node // node ∈ nodes} =>
        TransGen depends above.val below.val :=
      ⟨fun node => acyclic node.val⟩
    have transitive : IsTrans {node // node ∈ nodes} fun above below =>
        TransGen depends above.val below.val :=
      ⟨fun _ _ _ => TransGen.trans⟩
    have finite : Finite {node // node ∈ nodes} := nodes.finite_toSet
    exact Finite.wellFounded_of_trans_of_irrefl _
  have listed : ∀ start : {node // node ∈ nodes},
      ∃ terminal, ReflTransGen depends terminal start.val ∧
        ∀ other, ¬ depends other terminal := by
    intro start
    induction start using wellFounded.induction with
    | _ start inductionHypothesis =>
        by_cases last : ∃ other, depends other start.val
        · obtain ⟨other, edge⟩ := last
          obtain ⟨terminal, path, nothing⟩ := inductionHypothesis
            ⟨other, closed other _ edge⟩ (.single edge)
          exact ⟨terminal, path.tail edge, nothing⟩
        · exact ⟨start.val, .refl, not_exists.mp last⟩
  by_cases last : ∃ other, depends other node
  · obtain ⟨other, edge⟩ := last
    obtain ⟨terminal, path, nothing⟩ := listed ⟨other, closed other _ edge⟩
    exact ⟨terminal, path.tail edge, nothing⟩
  · exact ⟨node, .refl, not_exists.mp last⟩

/-! ## Dependency lists -/

section Lists

variable [DecidableEq Node] {nodes others : List (Node × List Node)}

/-- A node lists another one among its dependencies. -/
def DependsOn (nodes : List (Node × List Node)) (node other : Node) : Prop :=
  ∃ dependencies, (node, dependencies) ∈ nodes ∧ other ∈ dependencies

/-- Distinct nodes whose dependencies are present and without cycles. -/
structure Dag (nodes : List (Node × List Node)) : Prop where
  unique : (nodes.map Prod.fst).Nodup
  closed : ∀ node other, DependsOn nodes node other → other ∈ nodes.map Prod.fst
  acyclic : Acyclic (DependsOn nodes)

omit [DecidableEq Node] in
theorem dag_nil : Dag ([] : List (Node × List Node)) := by
  have noEdge : ∀ node other : Node, ¬ DependsOn [] node other := by
    intro node other edge
    obtain ⟨_, impossible, _⟩ := edge
    cases impossible
  refine ⟨List.nodup_nil, fun node other edge => absurd edge (noEdge node other), ?_⟩
  intro node cycle
  obtain ⟨_, edge, _⟩ := TransGen.head'_iff.mp cycle
  exact noEdge _ _ edge

omit [DecidableEq Node] in
theorem dependsOn_perm (same : nodes.Perm others) :
    DependsOn nodes = DependsOn others := by
  funext node other
  apply propext
  constructor
  · rintro ⟨dependencies, listed, member⟩
    exact ⟨dependencies, same.mem_iff.mp listed, member⟩
  · rintro ⟨dependencies, listed, member⟩
    exact ⟨dependencies, same.mem_iff.mpr listed, member⟩

omit [DecidableEq Node] in
theorem Dag.perm (dag : Dag nodes) (same : nodes.Perm others) : Dag others := by
  have names := same.map Prod.fst
  refine ⟨names.nodup_iff.mp dag.unique, ?_, ?_⟩
  · intro node other edge
    rw [← dependsOn_perm same] at edge
    exact names.mem_iff.mp (dag.closed node other edge)
  · rw [← dependsOn_perm same]
    exact dag.acyclic

omit [DecidableEq Node] in
theorem DependsOn.mem {node other : Node} (edge : DependsOn nodes node other) :
    node ∈ nodes.map Prod.fst := by
  obtain ⟨dependencies, listed, _⟩ := edge
  exact List.mem_map.mpr ⟨_, listed, rfl⟩

omit [DecidableEq Node] in
theorem Dag.path_mem (dag : Dag nodes) {node other : Node}
    (path : TransGen (DependsOn nodes) node other) :
    node ∈ nodes.map Prod.fst ∧ other ∈ nodes.map Prod.fst := by
  constructor
  · obtain ⟨next, edge, _⟩ := TransGen.head'_iff.mp path
    exact edge.mem
  · obtain ⟨last, _, edge⟩ := TransGen.tail'_iff.mp path
    exact dag.closed last other edge

omit [DecidableEq Node] in
/-- A node has exactly the dependencies that it lists. -/
theorem Dag.dependsOn_iff (dag : Dag nodes) {node other : Node}
    {dependencies : List Node} (listed : (node, dependencies) ∈ nodes) :
    DependsOn nodes node other ↔ other ∈ dependencies := by
  constructor
  · intro edge
    obtain ⟨others, stored, member⟩ := edge
    have same : (node, others) = (node, dependencies) :=
      List.inj_on_of_nodup_map dag.unique stored listed rfl
    cases same
    exact member
  · intro member
    exact ⟨dependencies, listed, member⟩

/-! ## In front of a node -/

section Before

variable {target fresh : Node} {dependencies : List Node}
variable {rest : List (Node × List Node)}

/-- The fresh node takes over the dependencies of the target. -/
def insertBefore (target fresh : Node) (dependencies : List Node)
    (rest : List (Node × List Node)) : List (Node × List Node) :=
  (fresh, dependencies) :: (target, [fresh]) :: rest

omit [DecidableEq Node] in
theorem dependsOn_insertBefore {node other : Node} :
    DependsOn (insertBefore target fresh dependencies rest) node other ↔
      (node = fresh ∧ other ∈ dependencies) ∨ (node = target ∧ other = fresh) ∨
        DependsOn rest node other := by
  constructor
  · rintro ⟨listed, member, inList⟩
    rcases List.mem_cons.mp member with atFresh | later
    · cases atFresh
      exact Or.inl ⟨rfl, inList⟩
    · rcases List.mem_cons.mp later with atTarget | inRest
      · cases atTarget
        exact Or.inr (Or.inl ⟨rfl, List.mem_singleton.mp inList⟩)
      · exact Or.inr (Or.inr ⟨listed, inRest, inList⟩)
  · rintro (⟨rfl, member⟩ | ⟨rfl, rfl⟩ | ⟨listed, inRest, member⟩)
    · exact ⟨dependencies, List.mem_cons_self, member⟩
    · exact ⟨[other], List.mem_cons_of_mem _ List.mem_cons_self,
        List.mem_singleton.mpr rfl⟩
    · exact ⟨listed, List.mem_cons_of_mem _ (List.mem_cons_of_mem _ inRest), member⟩

omit [DecidableEq Node] in
theorem dependsOn_cons {node other : Node} :
    DependsOn ((target, dependencies) :: rest) node other ↔
      (node = target ∧ other ∈ dependencies) ∨ DependsOn rest node other := by
  constructor
  · rintro ⟨listed, member, inList⟩
    rcases List.mem_cons.mp member with atTarget | inRest
    · cases atTarget
      exact Or.inl ⟨rfl, inList⟩
    · exact Or.inr ⟨listed, inRest, inList⟩
  · rintro (⟨rfl, member⟩ | ⟨listed, inRest, member⟩)
    · exact ⟨dependencies, List.mem_cons_self, member⟩
    · exact ⟨listed, List.mem_cons_of_mem _ inRest, member⟩

/-- The fresh node stands for the target. -/
def standIn (target fresh node : Node) : Node :=
  if node = fresh then target else node

theorem standIn_fresh (target fresh : Node) : standIn target fresh fresh = target :=
  if_pos rfl

theorem standIn_of_ne {node : Node} (different : node ≠ fresh) :
    standIn target fresh node = node :=
  if_neg different

variable (dag : Dag ((target, dependencies) :: rest))
variable (isFresh : fresh ∉ ((target, dependencies) :: rest).map Prod.fst)

include isFresh in
omit [DecidableEq Node] in
theorem ne_fresh {node : Node}
    (known : node ∈ ((target, dependencies) :: rest).map Prod.fst) : node ≠ fresh := by
  intro same
  rw [same] at known
  exact isFresh known

include dag isFresh

theorem edges_insertBefore (node other : Node)
    (edge : DependsOn (insertBefore target fresh dependencies rest) node other) :
    DependsOn ((target, dependencies) :: rest) (standIn target fresh node)
        (standIn target fresh other) ∨ (node = target ∧ other = fresh) := by
  rcases dependsOn_insertBefore.mp edge with ⟨atFresh, member⟩ | collapsed | inRest
  · have old : DependsOn ((target, dependencies) :: rest) target other :=
      dependsOn_cons.mpr (Or.inl ⟨rfl, member⟩)
    rw [atFresh, standIn_fresh, standIn_of_ne (ne_fresh isFresh (dag.closed _ _ old))]
    exact Or.inl old
  · exact Or.inr collapsed
  · have old : DependsOn ((target, dependencies) :: rest) node other :=
      dependsOn_cons.mpr (Or.inr inRest)
    rw [standIn_of_ne (ne_fresh isFresh old.mem),
      standIn_of_ne (ne_fresh isFresh (dag.closed _ _ old))]
    exact Or.inl old

omit [DecidableEq Node] dag in
theorem target_ne_fresh : target ≠ fresh :=
  ne_fresh isFresh (by rw [List.map_cons]; exact List.mem_cons_self)

omit dag in
theorem standIn_same : standIn target fresh target = standIn target fresh fresh := by
  rw [standIn_fresh, standIn_of_ne (target_ne_fresh isFresh)]

/-- Between the old nodes exactly the old orders hold. -/
theorem path_insertBefore {node other : Node} (nodeOld : node ≠ fresh)
    (otherOld : other ≠ fresh) :
    TransGen (DependsOn (insertBefore target fresh dependencies rest)) node other ↔
      TransGen (DependsOn ((target, dependencies) :: rest)) node other := by
  constructor
  · intro path
    rcases path_of_contraction (target_ne_fresh isFresh)
      (edges_insertBefore dag isFresh) (standIn_same isFresh) path with
      old | ⟨_, atFresh⟩
    · rwa [standIn_of_ne nodeOld, standIn_of_ne otherOld] at old
    · exact absurd atFresh otherOld
  · intro path
    refine path_mono ?_ path
    intro node other edge
    rcases dependsOn_cons.mp edge with ⟨atTarget, member⟩ | inRest
    · have first : DependsOn (insertBefore target fresh dependencies rest) node fresh :=
        dependsOn_insertBefore.mpr (Or.inr (Or.inl ⟨atTarget, rfl⟩))
      have second : DependsOn (insertBefore target fresh dependencies rest) fresh other :=
        dependsOn_insertBefore.mpr (Or.inl ⟨rfl, member⟩)
      exact (TransGen.single first).tail second
    · exact .single (dependsOn_insertBefore.mpr (Or.inr (Or.inr inRest)))

theorem dag_insertBefore : Dag (insertBefore target fresh dependencies rest) := by
  have unique := dag.unique
  rw [List.map_cons, List.nodup_cons] at unique
  refine ⟨?_, ?_, acyclic_of_contraction (target_ne_fresh isFresh)
    (edges_insertBefore dag isFresh) (standIn_same isFresh) dag.acyclic⟩
  · rw [insertBefore, List.map_cons, List.map_cons, List.nodup_cons, List.nodup_cons]
    rw [List.map_cons] at isFresh
    exact ⟨isFresh, unique⟩
  · intro node other edge
    rw [insertBefore, List.map_cons, List.map_cons]
    rcases dependsOn_insertBefore.mp edge with ⟨_, member⟩ | ⟨_, atFresh⟩ | inRest
    · have old := dag.closed target other (dependsOn_cons.mpr (Or.inl ⟨rfl, member⟩))
      rw [List.map_cons] at old
      exact List.mem_cons_of_mem _ old
    · rw [atFresh]
      exact List.mem_cons_self
    · have old := dag.closed node other (dependsOn_cons.mpr (Or.inr inRest))
      rw [List.map_cons] at old
      exact List.mem_cons_of_mem _ old

end Before

/-! ## Behind a node -/

section After

variable {target fresh : Node} {moved : Node → Bool}

/-- The dependencies of a moved node with the fresh node in the target's place. -/
def redirect (target fresh : Node) (moved : Node → Bool) (entry : Node × List Node) :
    Node × List Node :=
  if target ∈ entry.2 ∧ moved entry.1 = true then
    (entry.1, entry.2.map fun other => if other = target then fresh else other)
  else entry

@[simp]
theorem redirect_fst (target fresh : Node) (moved : Node → Bool)
    (entry : Node × List Node) : (redirect target fresh moved entry).1 = entry.1 := by
  unfold redirect
  split_ifs <;> rfl

theorem map_redirect_fst (nodes : List (Node × List Node)) :
    (nodes.map (redirect target fresh moved)).map Prod.fst = nodes.map Prod.fst := by
  rw [List.map_map]
  exact List.map_congr_left fun entry _ => redirect_fst target fresh moved entry

/-- The fresh node waits for the target, and moved dependents for the fresh node. -/
def insertAfter (target fresh : Node) (moved : Node → Bool)
    (nodes : List (Node × List Node)) : List (Node × List Node) :=
  (fresh, [target]) :: nodes.map (redirect target fresh moved)

/-- An edge behind the redirection comes from an old one. -/
theorem dependsOn_redirect {node other : Node}
    (edge : DependsOn (nodes.map (redirect target fresh moved)) node other) :
    DependsOn nodes node other ∨ (other = fresh ∧ DependsOn nodes node target) := by
  obtain ⟨dependencies, listed, member⟩ := edge
  obtain ⟨⟨source, old⟩, stored, same⟩ := List.mem_map.mp listed
  unfold redirect at same
  split_ifs at same with isMoved
  · cases same
    obtain ⟨before, inOld, equal⟩ := List.mem_map.mp member
    by_cases atTarget : before = target
    · rw [if_pos atTarget] at equal
      exact Or.inr ⟨equal.symm, old, stored, isMoved.1⟩
    · rw [if_neg atTarget] at equal
      rw [← equal]
      exact Or.inl ⟨old, stored, inOld⟩
  · cases same
    exact Or.inl ⟨_, stored, member⟩

/-- An old edge stays, or it led to the target and leads to the fresh node now. -/
theorem redirect_dependsOn {node other : Node} (edge : DependsOn nodes node other) :
    DependsOn (nodes.map (redirect target fresh moved)) node other ∨
      (other = target ∧ moved node = true ∧
        DependsOn (nodes.map (redirect target fresh moved)) node fresh) := by
  obtain ⟨dependencies, listed, member⟩ := edge
  have stored : redirect target fresh moved (node, dependencies) ∈
      nodes.map (redirect target fresh moved) :=
    List.mem_map.mpr ⟨(node, dependencies), listed, rfl⟩
  by_cases isMoved : target ∈ dependencies ∧ moved node = true
  · have shape : redirect target fresh moved (node, dependencies) =
        (node, dependencies.map fun other => if other = target then fresh else other) :=
      if_pos isMoved
    rw [shape] at stored
    by_cases atTarget : other = target
    · refine Or.inr ⟨atTarget, isMoved.2, _, stored, ?_⟩
      exact List.mem_map.mpr ⟨target, isMoved.1, if_pos rfl⟩
    · refine Or.inl ⟨_, stored, ?_⟩
      exact List.mem_map.mpr ⟨other, member, if_neg atTarget⟩
  · have shape : redirect target fresh moved (node, dependencies) =
        (node, dependencies) := if_neg isMoved
    rw [shape] at stored
    exact Or.inl ⟨dependencies, stored, member⟩

/-- A moved dependent waits for the fresh node. -/
theorem redirect_moved {node : Node} (edge : DependsOn nodes node target)
    (isMoved : moved node = true) :
    DependsOn (nodes.map (redirect target fresh moved)) node fresh := by
  obtain ⟨dependencies, listed, member⟩ := edge
  have shape : redirect target fresh moved (node, dependencies) =
      (node, dependencies.map fun other => if other = target then fresh else other) :=
    if_pos ⟨member, isMoved⟩
  refine ⟨_, List.mem_map.mpr ⟨(node, dependencies), listed, shape⟩, ?_⟩
  exact List.mem_map.mpr ⟨target, member, if_pos rfl⟩

/-- A moved dependent does not wait for the target itself any more. -/
theorem not_redirect_target {node : Node} (different : fresh ≠ target)
    (isMoved : moved node = true) :
    ¬ DependsOn (nodes.map (redirect target fresh moved)) node target := by
  intro edge
  obtain ⟨dependencies, listed, member⟩ := edge
  obtain ⟨⟨source, old⟩, stored, same⟩ := List.mem_map.mp listed
  unfold redirect at same
  split_ifs at same with both
  · cases same
    obtain ⟨before, _, equal⟩ := List.mem_map.mp member
    by_cases atTarget : before = target
    · rw [if_pos atTarget] at equal
      exact different equal
    · rw [if_neg atTarget] at equal
      exact atTarget equal
  · cases same
    exact both ⟨member, isMoved⟩

variable (dag : Dag nodes) (isFresh : fresh ∉ nodes.map Prod.fst)
variable (known : target ∈ nodes.map Prod.fst)

include dag isFresh known

omit known in
theorem edges_insertAfter (node other : Node)
    (edge : DependsOn (insertAfter target fresh moved nodes) node other) :
    DependsOn nodes (standIn target fresh node) (standIn target fresh other) ∨
      (node = fresh ∧ other = target) := by
  have old : ∀ node ∈ nodes.map Prod.fst, node ≠ fresh := by
    intro node member same
    rw [same] at member
    exact isFresh member
  rcases dependsOn_cons.mp edge with ⟨atFresh, member⟩ | redirected
  · exact Or.inr ⟨atFresh, List.mem_singleton.mp member⟩
  · rcases dependsOn_redirect redirected with kept | ⟨atFresh, toTarget⟩
    · rw [standIn_of_ne (old node kept.mem),
        standIn_of_ne (old other (dag.closed _ _ kept))]
      exact Or.inl kept
    · rw [atFresh, standIn_fresh, standIn_of_ne (old node toTarget.mem)]
      exact Or.inl toTarget

omit dag isFresh known in
/-- Every old order still holds. -/
theorem path_insertAfter {node other : Node}
    (path : TransGen (DependsOn nodes) node other) :
    TransGen (DependsOn (insertAfter target fresh moved nodes)) node other := by
  refine path_mono ?_ path
  intro node other edge
  rcases redirect_dependsOn edge
    with kept | ⟨atTarget, _, toFresh⟩
  · exact .single (dependsOn_cons.mpr (Or.inr kept))
  · have first : DependsOn (insertAfter target fresh moved nodes) node fresh :=
      dependsOn_cons.mpr (Or.inr toFresh)
    have second : DependsOn (insertAfter target fresh moved nodes) fresh other :=
      dependsOn_cons.mpr (Or.inl ⟨rfl, List.mem_singleton.mpr atTarget⟩)
    exact (TransGen.single first).tail second

theorem dag_insertAfter : Dag (insertAfter target fresh moved nodes) := by
  have different : fresh ≠ target := by
    intro same
    rw [same] at isFresh
    exact isFresh known
  have images : standIn target fresh fresh = standIn target fresh target := by
    rw [standIn_fresh, standIn_of_ne (Ne.symm different)]
  refine ⟨?_, ?_, acyclic_of_contraction different
    (edges_insertAfter dag isFresh) images dag.acyclic⟩
  · rw [insertAfter, List.map_cons, map_redirect_fst, List.nodup_cons]
    exact ⟨isFresh, dag.unique⟩
  · intro node other edge
    rw [insertAfter, List.map_cons, map_redirect_fst]
    rcases dependsOn_cons.mp edge with ⟨_, member⟩ | redirected
    · rw [List.mem_singleton.mp member]
      exact List.mem_cons_of_mem _ known
    · rcases dependsOn_redirect redirected with kept | ⟨atFresh, _⟩
      · exact List.mem_cons_of_mem _ (dag.closed _ _ kept)
      · rw [atFresh]
        exact List.mem_cons_self

end After

/-! ## Behind everything -/

section Last

variable {fresh : Node} {terminals : List Node}
variable (dag : Dag nodes) (isFresh : fresh ∉ nodes.map Prod.fst)
variable (known : ∀ node ∈ terminals, node ∈ nodes.map Prod.fst)

include dag isFresh known

omit [DecidableEq Node] in
/-- A node that waits for some of the others keeps the graph acyclic. -/
theorem dag_insertLast : Dag ((fresh, terminals) :: nodes) := by
  refine ⟨?_, ?_, ?_⟩
  · rw [List.map_cons, List.nodup_cons]
    exact ⟨isFresh, dag.unique⟩
  · intro node other edge
    rw [List.map_cons]
    rcases dependsOn_cons.mp edge with ⟨_, member⟩ | old
    · exact List.mem_cons_of_mem _ (known other member)
    · exact List.mem_cons_of_mem _ (dag.closed _ _ old)
  · -- Nothing leads to the fresh node, so a cycle avoids it.
    have target : ∀ node other, DependsOn ((fresh, terminals) :: nodes) node other →
        other ≠ fresh := by
      intro node other edge same
      rw [same] at edge
      rcases dependsOn_cons.mp edge with ⟨_, member⟩ | old
      · exact isFresh (known fresh member)
      · exact isFresh (dag.closed _ _ old)
    have older : ∀ node other,
        TransGen (DependsOn ((fresh, terminals) :: nodes)) node other →
          node ≠ fresh → TransGen (DependsOn nodes) node other := by
      intro node other path
      induction path with
      | single edge =>
          intro nodeOld
          rcases dependsOn_cons.mp edge with ⟨atFresh, _⟩ | old
          · exact absurd atFresh nodeOld
          · exact .single old
      | tail front edge inductionHypothesis =>
          intro nodeOld
          rcases dependsOn_cons.mp edge with ⟨atFresh, _⟩ | old
          · obtain ⟨last, _, into⟩ := TransGen.tail'_iff.mp front
            exact absurd atFresh (target last _ into)
          · exact (inductionHypothesis nodeOld).tail old
    intro node cycle
    by_cases atFresh : node = fresh
    · obtain ⟨last, _, into⟩ := TransGen.tail'_iff.mp cycle
      exact target last node into atFresh
    · exact dag.acyclic node (older node node cycle atFresh)

omit [DecidableEq Node] isFresh known in
/-- When all terminal nodes are waited for, all nodes are. -/
theorem path_insertLast
    (complete : ∀ node ∈ nodes.map Prod.fst,
      (∀ other, ¬ DependsOn nodes other node) → node ∈ terminals)
    {node : Node} (member : node ∈ nodes.map Prod.fst) :
    TransGen (DependsOn ((fresh, terminals) :: nodes)) fresh node := by
  obtain ⟨terminal, path, nothing⟩ :=
    exists_terminal dag.acyclic (fun _ _ edge => edge.mem) node
  have listed : terminal ∈ nodes.map Prod.fst := by
    rcases ReflTransGen.cases_head path with same | ⟨next, edge, _⟩
    · rw [same]
      exact member
    · exact edge.mem
  have first : DependsOn ((fresh, terminals) :: nodes) fresh terminal :=
    dependsOn_cons.mpr (Or.inl ⟨rfl, complete terminal listed nothing⟩)
  have rest : ReflTransGen (DependsOn ((fresh, terminals) :: nodes)) terminal node :=
    path.lift id fun _ _ edge => dependsOn_cons.mpr (Or.inr edge)
  exact TransGen.head' first rest

end Last

end Lists

end Foundation.Graph
