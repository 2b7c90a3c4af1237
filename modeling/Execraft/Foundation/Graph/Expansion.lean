import Execraft.Foundation.Graph.Insertion

/-!
# A node that is expanded into members

A node is split: each member takes over the dependencies of the node, may depend on other
members, and the node waits for all of them.
-/

namespace Foundation.Graph

open Relation

variable {Node : Type} [DecidableEq Node]

/-- The later graph is the earlier one with a node expanded into members. -/
structure Expansion (nodes later : List (Node × List Node)) (target : Node)
    (members : List Node) (inner : Node → Node → Prop) : Prop where
  names : later.map Prod.fst = nodes.map Prod.fst ++ members
  present : target ∈ nodes.map Prod.fst
  fresh : ∀ member ∈ members, member ∉ nodes.map Prod.fst
  distinct : members.Nodup
  within : ∀ node other, inner node other → node ∈ members ∧ other ∈ members
  acyclic : Acyclic inner
  edges : ∀ node other, DependsOn later node other ↔
    DependsOn nodes node other ∨ (node = target ∧ other ∈ members) ∨
      (node ∈ members ∧ DependsOn nodes target other) ∨ inner node other

namespace Expansion

variable {nodes later : List (Node × List Node)} {target : Node} {members : List Node}
variable {inner : Node → Node → Prop}

/-- The edges that disappear when the members are drawn together with their node. -/
def Collapsed (target : Node) (members : List Node) (inner : Node → Node → Prop)
    (node other : Node) : Prop :=
  (node = target ∧ other ∈ members) ∨ inner node other

/-- The node that a member belongs to. -/
def origin (target : Node) (members : List Node) (node : Node) : Node :=
  if node ∈ members then target else node

theorem origin_member {node : Node} (member : node ∈ members) :
    origin target members node = target :=
  if_pos member

variable (expansion : Expansion nodes later target members inner)

include expansion

theorem origin_old {node : Node} (old : node ∈ nodes.map Prod.fst) :
    origin target members node = node :=
  if_neg fun member => expansion.fresh node member old

theorem origin_edge (dag : Dag nodes) {node other : Node}
    (edge : DependsOn later node other) :
    DependsOn nodes (origin target members node) (origin target members other) ∨
      (Collapsed target members inner node other ∧
        origin target members node = origin target members other) := by
  rcases (expansion.edges node other).mp edge with old | ⟨same, member⟩ | ⟨member, old⟩ | inside
  · left
    rw [expansion.origin_old old.mem, expansion.origin_old (dag.closed _ _ old)]
    exact old
  · right
    refine ⟨Or.inl ⟨same, member⟩, ?_⟩
    rw [same, expansion.origin_old expansion.present, origin_member member]
  · left
    rw [origin_member member, expansion.origin_old (dag.closed _ _ old)]
    exact old
  · right
    obtain ⟨first, second⟩ := expansion.within node other inside
    refine ⟨Or.inr inside, ?_⟩
    rw [origin_member first, origin_member second]

omit [DecidableEq Node] in
/-- A collapsed path ends in a member; behind its first edge it stays inside. -/
theorem path_collapsed {node other : Node}
    (path : TransGen (Collapsed target members inner) node other) :
    other ∈ members ∧ (node = target ∨ TransGen inner node other) := by
  have outside : target ∉ members := fun member => expansion.fresh target member expansion.present
  induction path with
  | single edge =>
      rcases edge with ⟨same, member⟩ | inside
      · exact ⟨member, Or.inl same⟩
      · exact ⟨(expansion.within _ _ inside).2, Or.inr (.single inside)⟩
  | tail front edge inductionHypothesis =>
      obtain ⟨inMembers, begins⟩ := inductionHypothesis
      rcases edge with ⟨same, member⟩ | inside
      · rw [same] at inMembers
        exact absurd inMembers outside
      · refine ⟨(expansion.within _ _ inside).2, ?_⟩
        rcases begins with atTarget | path
        · exact Or.inl atTarget
        · exact Or.inr (path.tail inside)

omit [DecidableEq Node] in
theorem acyclic_collapsed : Acyclic (Collapsed target members inner) := by
  intro node cycle
  obtain ⟨member, begins⟩ := expansion.path_collapsed cycle
  rcases begins with same | inside
  · rw [same] at member
    exact expansion.fresh target member expansion.present
  · exact expansion.acyclic node inside

theorem dag (dag : Dag nodes) : Dag later := by
  refine ⟨?_, ?_, ?_⟩
  · rw [expansion.names, List.nodup_append]
    refine ⟨dag.unique, expansion.distinct, ?_⟩
    intro node old member isMember same
    rw [same] at old
    exact expansion.fresh member isMember old
  · intro node other edge
    rw [expansion.names]
    rcases (expansion.edges node other).mp edge with old | ⟨-, member⟩ | ⟨-, old⟩ | inside
    · exact List.mem_append_left _ (dag.closed _ _ old)
    · exact List.mem_append_right _ member
    · exact List.mem_append_left _ (dag.closed _ _ old)
    · exact List.mem_append_right _ (expansion.within _ _ inside).2
  · exact acyclic_of_clusters (fun _ _ edge => expansion.origin_edge dag edge) dag.acyclic
      expansion.acyclic_collapsed

/-- The order between the old nodes is what it was. -/
theorem path_iff (dag : Dag nodes) {node other : Node} (isNode : node ∈ nodes.map Prod.fst)
    (isOther : other ∈ nodes.map Prod.fst) :
    TransGen (DependsOn later) node other ↔ TransGen (DependsOn nodes) node other := by
  constructor
  · intro path
    rcases path_of_clusters (fun _ _ edge => expansion.origin_edge dag edge) path with
      outer | ⟨inside, -⟩
    · rw [expansion.origin_old isNode, expansion.origin_old isOther] at outer
      exact outer
    · exact absurd isOther (expansion.fresh other (expansion.path_collapsed inside).1)
  · exact path_mono fun _ _ edge => .single ((expansion.edges _ _).mpr (Or.inl edge))

end Expansion

end Foundation.Graph
