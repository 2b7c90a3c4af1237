import Execraft.Foundation.Graph.DepthFirst
import Execraft.Foundation.Program
import Execraft.ProjectExecution.Values

/-!
# Directed-graph helpers

`topological_order` and `assert_acyclic` on an adjacency mapping, as instances
of the depth-first search.
-/

namespace Execraft.ProjectExecution

open Foundation Foundation.Graph

/-- A mapping from nodes to the nodes they depend on. -/
abbrev Adjacency := List (String × List String)

/-- `adjacency.get(node, ())`. -/
def Adjacency.get (adjacency : Adjacency) (node : String) : List String :=
  (List.lookup node adjacency).getD []

/-- The search visits fewer nested nodes than the mapping has keys, so that
`exhausted` never shows. -/
def topologicalOrder (adjacency : Adjacency) (label : String) :
    Outcome (List String) :=
  match searchAll adjacency.get (adjacency.length + 1)
      (adjacency.map Prod.fst) with
  | .ok search => .ok search.result
  | .error (.cycle path) =>
      raise (label ++ " must be acyclic: " ++ " -> ".intercalate path)
  | .error .exhausted => raise (label ++ ": maximum recursion depth exceeded")

def assertAcyclic (adjacency : Adjacency) (label : String) : Outcome Unit := do
  let _ ← topologicalOrder adjacency label
  .ok ()

/-- One step from a node to a dependency of it. -/
def Adjacency.Edge (adjacency : Adjacency) (source target : String) : Prop :=
  target ∈ adjacency.get source

def Adjacency.Acyclic (adjacency : Adjacency) : Prop :=
  ∀ node, ¬ Relation.TransGen adjacency.Edge node node

theorem Adjacency.get_ne_nil {adjacency : Adjacency} {node : String}
    (branching : adjacency.get node ≠ []) : node ∈ adjacency.map Prod.fst := by
  unfold Adjacency.get at branching
  cases found : List.lookup node adjacency with
  | none =>
      rw [found] at branching
      exact absurd rfl branching
  | some dependencies =>
      obtain ⟨front, back, shape, _⟩ := List.lookup_eq_some_iff.mp found
      rw [shape]
      simp

theorem topologicalOrder_complete {adjacency : Adjacency} {label : String}
    {order : List String} (ordered : topologicalOrder adjacency label = .ok order) :
    Complete adjacency.get (adjacency.map Prod.fst) order := by
  unfold topologicalOrder at ordered
  split at ordered
  · rename_i search completed
    cases ordered
    exact searchAll_complete completed
  · exact absurd ordered (by simp)
  · exact absurd ordered (by simp)

theorem topologicalOrder_ok_iff {adjacency : Adjacency} {label : String} :
    (∃ order, topologicalOrder adjacency label = .ok order) ↔
      adjacency.Acyclic := by
  have enough : (adjacency.map Prod.fst).length < adjacency.length + 1 := by
    rw [List.length_map]
    omega
  have searched := searchAll_ok_iff
    (fun _ branching => Adjacency.get_ne_nil branching) enough
  unfold Adjacency.Acyclic Adjacency.Edge
  rw [← searched]
  unfold topologicalOrder
  constructor
  · rintro ⟨order, completed⟩
    split at completed
    · rename_i search found
      exact ⟨search, found⟩
    · exact absurd completed (by simp)
    · exact absurd completed (by simp)
  · rintro ⟨search, found⟩
    rw [found]
    exact ⟨search.result, rfl⟩

/-- Some key of the mapping leads to a cycle. -/
def Adjacency.CycleReachable (adjacency : Adjacency) : Prop :=
  ∃ key ∈ adjacency.map Prod.fst, ∃ node,
    Relation.ReflTransGen adjacency.Edge key node ∧
      Relation.TransGen adjacency.Edge node node

/-- Every node of a cycle has dependencies, so it is a key itself. -/
theorem Adjacency.not_cycleReachable_iff {adjacency : Adjacency} :
    ¬ adjacency.CycleReachable ↔ adjacency.Acyclic := by
  constructor
  · intro unreached node cycle
    obtain ⟨next, edge, _⟩ := Relation.TransGen.head'_iff.mp cycle
    exact unreached ⟨node, Adjacency.get_ne_nil (List.ne_nil_of_mem edge), node, .refl, cycle⟩
  · rintro acyclic ⟨key, -, node, -, cycle⟩
    exact acyclic node cycle

theorem topologicalOrder_error {adjacency : Adjacency} {label : String}
    (cyclic : ¬ adjacency.Acyclic) :
    ∃ path, topologicalOrder adjacency label =
      raise (label ++ " must be acyclic: " ++ " -> ".intercalate path) := by
  cases outcome : topologicalOrder adjacency label with
  | ok order => exact absurd (topologicalOrder_ok_iff.mp ⟨order, outcome⟩) cyclic
  | error failure =>
      rw [← outcome]
      have enough : (adjacency.map Prod.fst).length < adjacency.length + 1 := by
        rw [List.length_map]
        omega
      simp only [topologicalOrder]
      cases searched : searchAll adjacency.get (adjacency.length + 1)
          (adjacency.map Prod.fst) with
      | ok search =>
          rw [topologicalOrder, searched] at outcome
          cases outcome
      | error found =>
          obtain ⟨⟨path, rfl⟩, -⟩ := searchAll_error
            (fun _ branching => Adjacency.get_ne_nil branching) enough searched
          exact ⟨path, rfl⟩

/-- Every call returns or raises.  It raises exactly when a key leads to a cycle, and
otherwise lists the nodes that keys lead to, each once and behind its dependencies. -/
theorem topologicalOrder_total (adjacency : Adjacency) (label : String) :
    ((∃ path, topologicalOrder adjacency label =
        raise (label ++ " must be acyclic: " ++ " -> ".intercalate path)) ↔
      adjacency.CycleReachable) ∧
    (¬ adjacency.CycleReachable →
      ∃ order, topologicalOrder adjacency label = .ok order ∧ order.Nodup ∧
        Ordered adjacency.get order ∧
        ∀ node, node ∈ order ↔ ∃ key ∈ adjacency.map Prod.fst,
          Relation.ReflTransGen adjacency.Edge key node) := by
  have ordered : ¬ adjacency.CycleReachable →
      ∃ order, topologicalOrder adjacency label = .ok order := fun unreached =>
    topologicalOrder_ok_iff.mpr (Adjacency.not_cycleReachable_iff.mp unreached)
  refine ⟨⟨?_, ?_⟩, ?_⟩
  · rintro ⟨path, raised⟩
    by_contra unreached
    obtain ⟨order, completed⟩ := ordered unreached
    rw [raised] at completed
    cases completed
  · intro reached
    exact topologicalOrder_error fun acyclic =>
      Adjacency.not_cycleReachable_iff.mpr acyclic reached
  · intro unreached
    obtain ⟨order, completed⟩ := ordered unreached
    have complete := topologicalOrder_complete completed
    exact ⟨order, completed, complete.nodup, complete.ordered, fun node =>
      complete.mem_iff⟩

/-- The rule for a loop in topological order: every node is visited once, behind
its dependencies. -/
theorem yields_topological {Effect Failure Value : Type} {Reply : Effect → Type}
    {answers : (effect : Effect) → Reply effect → Prop} {adjacency : Adjacency}
    {label : String} {order : List String}
    (ordered : topologicalOrder adjacency label = .ok order)
    {visit : Value → String → Program Effect Reply Failure Value}
    {motive : List String → Value → Prop} {initial final : Value}
    (start : motive [] initial)
    (step : ∀ front node value next, node ∉ front →
      (∀ other ∈ front, ∀ reference ∈ adjacency.get other, reference ∈ front) →
      (∀ reference ∈ adjacency.get node, reference ∈ front) → motive front value →
        (visit value node).Yields answers next → motive (front ++ [node]) next)
    (yields : (order.foldlM visit initial).Yields answers final) :
    motive order final := by
  have complete := topologicalOrder_complete ordered
  apply Program.yields_foldlM _ start yields
  intro front node back value next shape holds visited
  have distinct := complete.nodup
  rw [shape] at distinct
  apply step front node value next _ _ _ holds visited
  · intro repeated
    exact (List.nodup_append.mp distinct).2.2 _ repeated _ List.mem_cons_self rfl
  · intro other inFront reference named
    obtain ⟨first, last, split⟩ := List.append_of_mem inFront
    have preceding := complete.ordered first other (last ++ node :: back)
      (by rw [shape, split]; simp) reference named
    rw [split]
    exact List.mem_append_left _ preceding
  · exact complete.ordered front node back shape

@[simp]
theorem assertAcyclic_eq_ok {adjacency : Adjacency} {label : String}
    {result : Unit} :
    assertAcyclic adjacency label = .ok result ↔ adjacency.Acyclic := by
  rw [assertAcyclic, bind_eq_ok]
  constructor
  · rintro ⟨order, completed, _⟩
    exact topologicalOrder_ok_iff.mp ⟨order, completed⟩
  · intro acyclic
    obtain ⟨order, completed⟩ := topologicalOrder_ok_iff.mpr acyclic
    exact ⟨order, completed, rfl⟩

end Execraft.ProjectExecution
