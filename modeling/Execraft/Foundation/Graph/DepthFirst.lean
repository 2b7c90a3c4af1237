import Execraft.Foundation.Outcome
import Mathlib.Data.List.Chain
import Mathlib.Data.List.Nodup
import Mathlib.Data.List.Perm.Subperm
import Mathlib.Logic.Relation

/-!
# Depth-first topological order

A recursive search that lists every node behind its successors and fails on the
first node that it meets again on the path to it.  A complete search succeeds
exactly on acyclic graphs.
-/

namespace Foundation.Graph

variable {Node : Type}

/-- The nodes on the current path, those already left, and the order found. -/
structure Search (Node : Type) where
  visiting : List Node
  visited : List Node
  result : List Node

inductive Failure (Node : Type) where
  | cycle (path : List Node)
  | exhausted
  deriving DecidableEq, Repr

/-! ## Orders -/

/-- Every successor stands in front of its node. -/
def Ordered (successors : Node → List Node) (order : List Node) : Prop :=
  ∀ front node back, order = front ++ node :: back →
    ∀ successor ∈ successors node, successor ∈ front

theorem ordered_nil (successors : Node → List Node) : Ordered successors [] := by
  intro front node back equality
  simp at equality

theorem Ordered.concat {successors : Node → List Node} {order : List Node}
    (ordered : Ordered successors order) {node : Node}
    (below : ∀ successor ∈ successors node, successor ∈ order) :
    Ordered successors (order ++ [node]) := by
  intro front other back equality successor member
  rcases List.eq_nil_or_concat back with rfl | ⟨rest, last, rfl⟩
  · obtain ⟨rfl, same⟩ := List.append_inj' equality rfl
    cases same
    exact below successor member
  · have shape : order ++ [node] = (front ++ other :: rest) ++ [last] := by
      simpa using equality
    obtain ⟨orderShape, _⟩ := List.append_inj' shape rfl
    exact ordered front other rest orderShape successor member

/-- The successors of a listed node are listed. -/
theorem Ordered.closed {successors : Node → List Node} {order : List Node}
    (ordered : Ordered successors order) {node successor : Node}
    (listed : node ∈ order) (member : successor ∈ successors node) :
    successor ∈ order := by
  obtain ⟨front, back, shape⟩ := List.append_of_mem listed
  rw [shape]
  exact List.mem_append_left _ (ordered front node back shape successor member)

/-- What holds of a node when it holds of its successors holds in the order. -/
theorem Ordered.induction {successors : Node → List Node} {order : List Node}
    (ordered : Ordered successors order) {motive : Node → Prop}
    (step : ∀ node ∈ order, (∀ successor ∈ successors node, motive successor) →
      motive node) :
    ∀ node ∈ order, motive node := by
  have prefixes : ∀ front back, order = front ++ back → ∀ node ∈ front,
      motive node := by
    intro front
    induction front using List.reverseRecOn with
    | nil =>
        intro back shape node member
        cases member
    | append_singleton front last inductionHypothesis =>
        intro back shape node member
        rw [List.append_assoc, List.singleton_append] at shape
        have earlier := inductionHypothesis (last :: back) shape
        rcases List.mem_append.mp member with inFront | atLast
        · exact earlier node inFront
        · rw [List.mem_singleton.mp atLast]
          apply step last
          · rw [shape]
            simp
          · intro successor follows
            exact earlier successor (ordered front last back shape successor follows)
  exact prefixes order [] (List.append_nil order).symm

variable [DecidableEq Node]

/-- Following edges from a listed node leads strictly forward in the order. -/
theorem Ordered.idxOf_lt {successors : Node → List Node} {order : List Node}
    (ordered : Ordered successors order) {node reached : Node}
    (listed : node ∈ order)
    (path : Relation.TransGen (fun source target => target ∈ successors source)
      node reached) :
    reached ∈ order ∧ order.idxOf reached < order.idxOf node := by
  have step : ∀ {source target : Node}, source ∈ order →
      target ∈ successors source →
      target ∈ order ∧ order.idxOf target < order.idxOf source := by
    intro source target present edge
    obtain ⟨front, back, shape, first⟩ := List.eq_append_cons_of_mem present
    have inFront := ordered front source back shape target edge
    refine ⟨ordered.closed present edge, ?_⟩
    rw [shape, List.idxOf_append_of_mem inFront, List.idxOf_append_of_notMem first]
    have bound := List.idxOf_lt_length_of_mem inFront
    omega
  induction path with
  | single edge => exact step listed edge
  | tail _ edge inductionHypothesis =>
      obtain ⟨middleListed, before⟩ := inductionHypothesis
      obtain ⟨targetListed, earlier⟩ := step middleListed edge
      exact ⟨targetListed, by omega⟩

theorem Ordered.acyclic {successors : Node → List Node} {order : List Node}
    (ordered : Ordered successors order) {node : Node} (listed : node ∈ order) :
    ¬ Relation.TransGen (fun source target => target ∈ successors source)
      node node := by
  intro cycle
  have backwards := (ordered.idxOf_lt listed cycle).2
  omega

/-! ## The search -/

def Search.enter (search : Search Node) (node : Node) : Search Node :=
  { search with visiting := search.visiting ++ [node] }

def Search.leave (search : Search Node) (node : Node) : Search Node :=
  { visiting := search.visiting.erase node
    visited := search.visited ++ [node]
    result := search.result ++ [node] }

/-- Visit a node behind the path `trail`. -/
def visit (successors : Node → List Node) :
    Nat → List Node → Search Node → Node → Except (Failure Node) (Search Node)
  | 0, _, _, _ => .error .exhausted
  | fuel + 1, trail, search, node =>
      if node ∈ search.visited then .ok search
      else if node ∈ search.visiting then .error (.cycle (trail ++ [node]))
      else do
        let below ← (successors node).foldlM
          (visit successors fuel (trail ++ [node])) (search.enter node)
        .ok (below.leave node)

/-- Search from all roots. -/
def searchAll (successors : Node → List Node) (fuel : Nat) (roots : List Node) :
    Except (Failure Node) (Search Node) :=
  roots.foldlM (visit successors fuel []) ⟨[], [], []⟩

/-! ## Completed visits -/

/-- What holds of a search at every call of `visit`. -/
structure Search.Sound (successors : Node → List Node) (search : Search Node) :
    Prop where
  same : search.visited = search.result
  nodup : search.result.Nodup
  ordered : Ordered successors search.result
  apart : ∀ node ∈ search.visiting, node ∉ search.result

/-- What a completed visit of `nodes` has done to a search. -/
structure Search.Extends (successors : Node → List Node)
    (before after : Search Node) (nodes : List Node) : Prop where
  visiting : after.visiting = before.visiting
  kept : ∀ node ∈ before.result, node ∈ after.result
  listed : ∀ node ∈ nodes, node ∈ after.result
  reached : ∀ node ∈ after.result, node ∈ before.result ∨
    ∃ root ∈ nodes, Relation.ReflTransGen
      (fun source target => target ∈ successors source) root node

/-- A step that keeps searches sound and lists the node it is given. -/
def Lists (successors : Node → List Node)
    (step : Search Node → Node → Except (Failure Node) (Search Node)) : Prop :=
  ∀ before node after, step before node = .ok after →
    before.Sound successors →
    after.Sound successors ∧ before.Extends successors after [node]

omit [DecidableEq Node] in
theorem Lists.foldlM {successors : Node → List Node}
    {step : Search Node → Node → Except (Failure Node) (Search Node)}
    (lists : Lists successors step) {nodes : List Node}
    {before after : Search Node}
    (completed : nodes.foldlM step before = .ok after)
    (sound : before.Sound successors) :
    after.Sound successors ∧ before.Extends successors after nodes := by
  induction nodes generalizing before with
  | nil =>
      cases completed
      exact ⟨sound, rfl, fun _ member => member, by simp, fun _ member =>
        Or.inl member⟩
  | cons head tail inductionHypothesis =>
      rw [List.foldlM_cons] at completed
      obtain ⟨middle, first, rest⟩ := bind_eq_ok.mp completed
      obtain ⟨middleSound, headDone⟩ := lists before head middle first sound
      obtain ⟨afterSound, tailDone⟩ := inductionHypothesis rest middleSound
      refine ⟨afterSound, tailDone.visiting.trans headDone.visiting,
        fun node member => tailDone.kept node (headDone.kept node member), ?_, ?_⟩
      · intro node member
        rcases List.mem_cons.mp member with rfl | inTail
        · exact tailDone.kept node (headDone.listed node (by simp))
        · exact tailDone.listed node inTail
      · intro node member
        rcases tailDone.reached node member with inMiddle | ⟨root, inTail, path⟩
        · rcases headDone.reached node inMiddle with old | ⟨root, atHead, path⟩
          · exact Or.inl old
          · exact Or.inr ⟨root, by simp_all, path⟩
        · exact Or.inr ⟨root, List.mem_cons_of_mem _ inTail, path⟩

omit [DecidableEq Node] in
theorem Search.Sound.enter {successors : Node → List Node}
    {search : Search Node} (sound : search.Sound successors) {node : Node}
    (fresh : node ∉ search.visited) : (search.enter node).Sound successors := by
  refine ⟨sound.same, sound.nodup, sound.ordered, ?_⟩
  intro other member
  rcases List.mem_append.mp member with old | atNode
  · exact sound.apart other old
  · rw [List.mem_singleton.mp atNode]
    exact sound.same ▸ fresh

theorem visit_lists (successors : Node → List Node) (fuel : Nat)
    (trail : List Node) : Lists successors (visit successors fuel trail) := by
  induction fuel generalizing trail with
  | zero =>
      intro before node after completed
      cases completed
  | succ fuel inductionHypothesis =>
      intro before node after completed sound
      rw [visit] at completed
      split_ifs at completed with visited visiting
      · cases completed
        refine ⟨sound, rfl, fun _ member => member, ?_, fun _ member =>
          Or.inl member⟩
        intro other member
        rw [List.mem_singleton.mp member, ← sound.same]
        exact visited
      · obtain ⟨below, descended, left⟩ := bind_eq_ok.mp completed
        cases left
        obtain ⟨belowSound, done⟩ :=
          (inductionHypothesis (trail ++ [node])).foldlM descended
            (sound.enter visited)
        have onPath : node ∈ below.visiting := by
          rw [done.visiting]
          simp [Search.enter]
        have notBelow : node ∉ below.result := belowSound.apart node onPath
        have restored : (below.leave node).visiting = before.visiting := by
          simp only [Search.leave, done.visiting, Search.enter]
          rw [List.erase_append_right _ visiting]
          simp
        refine ⟨⟨?_, ?_, ?_, ?_⟩, restored, ?_, ?_, ?_⟩
        · simp [Search.leave, belowSound.same]
        · simp only [Search.leave]
          exact List.nodup_append.mpr ⟨belowSound.nodup, by simp, by
            intro other inBelow last atNode equality
            rw [equality, List.mem_singleton.mp atNode] at inBelow
            exact notBelow inBelow⟩
        · exact belowSound.ordered.concat done.listed
        · intro other member
          rw [restored] at member
          simp only [Search.leave, List.mem_append, List.mem_singleton, not_or]
          refine ⟨belowSound.apart other ?_, ?_⟩
          · rw [done.visiting]
            simp [Search.enter, member]
          · rintro rfl
            exact visiting member
        · intro other member
          exact List.mem_append_left _ (done.kept other member)
        · intro other member
          rw [List.mem_singleton.mp member]
          simp [Search.leave]
        · intro other member
          rcases List.mem_append.mp member with inBelow | atNode
          · rcases done.reached other inBelow with old | ⟨child, edge, path⟩
            · exact Or.inl old
            · exact Or.inr ⟨node, by simp, .head edge path⟩
          · rw [List.mem_singleton.mp atNode]
            exact Or.inr ⟨node, by simp, .refl⟩

/-! ## Failures -/

/-- On a path to `node`, a failing visit has met a cycle. -/
theorem visit_cycle {successors : Node → List Node} {fuel : Nat}
    {trail path : List Node} {search : Search Node} {node : Node}
    (failed : visit successors fuel trail search node = .error (.cycle path))
    (sound : search.Sound successors)
    (leads : ∀ ancestor ∈ search.visiting, Relation.TransGen
      (fun source target => target ∈ successors source) ancestor node) :
    ∃ meeting, Relation.TransGen
      (fun source target => target ∈ successors source) meeting meeting := by
  induction fuel generalizing trail search node with
  | zero => cases failed
  | succ fuel inductionHypothesis =>
      rw [visit] at failed
      split_ifs at failed with visited visiting
      · exact ⟨node, leads node visiting⟩
      · rcases bind_eq_error.mp failed with inside | ⟨below, _, left⟩
        · obtain ⟨front, child, back, reached, shape, completed, atChild⟩ :=
            foldlM_eq_error inside
          obtain ⟨reachedSound, done⟩ :=
            (visit_lists successors fuel (trail ++ [node])).foldlM completed
              (sound.enter visited)
          apply inductionHypothesis atChild reachedSound
          intro ancestor member
          have edge : child ∈ successors node := by
            rw [shape]
            simp
          rw [done.visiting] at member
          rcases List.mem_append.mp member with onPath | atNode
          · exact (leads ancestor onPath).tail edge
          · rw [List.mem_singleton.mp atNode]
            exact .single edge
        · cases left

/-- The path never outgrows the nodes that have successors. -/
theorem visit_not_exhausted {successors : Node → List Node} {inner : List Node}
    (branching : ∀ node, successors node ≠ [] → node ∈ inner) {fuel : Nat}
    {trail : List Node} {search : Search Node} {node : Node}
    (sound : search.Sound successors)
    (onPath : search.visiting.Nodup ∧ ∀ ancestor ∈ search.visiting,
      ancestor ∈ inner)
    (enough : inner.length < fuel + search.visiting.length) :
    visit successors fuel trail search node ≠ .error .exhausted := by
  induction fuel generalizing trail search node with
  | zero =>
      have bound := (List.subperm_of_subset onPath.1 onPath.2).length_le
      omega
  | succ fuel inductionHypothesis =>
      intro failed
      rw [visit] at failed
      split_ifs at failed with visited visiting
      · cases failed
      · rcases bind_eq_error.mp failed with inside | ⟨below, _, left⟩
        · obtain ⟨front, child, back, reached, shape, completed, atChild⟩ :=
            foldlM_eq_error inside
          obtain ⟨reachedSound, done⟩ :=
            (visit_lists successors fuel (trail ++ [node])).foldlM completed
              (sound.enter visited)
          have nodeInner : node ∈ inner := by
            apply branching
            rw [shape]
            simp
          have path : reached.visiting = search.visiting ++ [node] := done.visiting
          refine inductionHypothesis reachedSound ?_ ?_ atChild
          · rw [path]
            constructor
            · exact List.nodup_append.mpr ⟨onPath.1, by simp, by
                intro other member last atNode equality
                rw [equality, List.mem_singleton.mp atNode] at member
                exact visiting member⟩
            · intro ancestor member
              rcases List.mem_append.mp member with old | atNode
              · exact onPath.2 ancestor old
              · rw [List.mem_singleton.mp atNode]
                exact nodeInner
          · rw [path, List.length_append, List.length_singleton]
            omega
        · cases left

/-! ## Complete searches -/

omit [DecidableEq Node] in
theorem sound_initial (successors : Node → List Node) :
    (⟨[], [], []⟩ : Search Node).Sound successors :=
  ⟨rfl, List.nodup_nil, ordered_nil successors, by simp⟩

/-- What a completed search has found. -/
structure Complete (successors : Node → List Node) (roots order : List Node) :
    Prop where
  nodup : order.Nodup
  ordered : Ordered successors order
  listed : ∀ root ∈ roots, root ∈ order
  reached : ∀ node ∈ order, ∃ root ∈ roots, Relation.ReflTransGen
    (fun source target => target ∈ successors source) root node

theorem searchAll_complete {successors : Node → List Node} {fuel : Nat}
    {roots : List Node} {search : Search Node}
    (completed : searchAll successors fuel roots = .ok search) :
    Complete successors roots search.result := by
  obtain ⟨sound, done⟩ := (visit_lists successors fuel []).foldlM completed
    (sound_initial successors)
  refine ⟨sound.nodup, sound.ordered, done.listed, ?_⟩
  intro node member
  rcases done.reached node member with impossible | found
  · cases impossible
  · exact found

/-- A failing search has met a cycle behind one of its roots, where the fuel suffices. -/
theorem searchAll_error {successors : Node → List Node} {roots : List Node}
    (branching : ∀ node, successors node ≠ [] → node ∈ roots) {fuel : Nat}
    (enough : roots.length < fuel) {failure : Failure Node}
    (failed : searchAll successors fuel roots = .error failure) :
    (∃ path, failure = .cycle path) ∧ ∃ meeting, Relation.TransGen
      (fun source target => target ∈ successors source) meeting meeting := by
  obtain ⟨front, root, back, reached, shape, completed, atRoot⟩ :=
    foldlM_eq_error failed
  obtain ⟨sound, done⟩ := (visit_lists successors fuel []).foldlM completed
    (sound_initial successors)
  have path : reached.visiting = [] := done.visiting
  cases failure with
  | cycle cyclePath => exact ⟨⟨cyclePath, rfl⟩, visit_cycle atRoot sound (by simp [path])⟩
  | exhausted =>
      exfalso
      refine visit_not_exhausted branching sound ?_ ?_ atRoot
      · simp [path]
      · rw [path]
        simpa using enough

/-- With every branching node among the roots, the search succeeds exactly on
acyclic graphs. -/
theorem searchAll_ok_iff {successors : Node → List Node} {roots : List Node}
    (branching : ∀ node, successors node ≠ [] → node ∈ roots) {fuel : Nat}
    (enough : roots.length < fuel) :
    (∃ search, searchAll successors fuel roots = .ok search) ↔
      ∀ node, ¬ Relation.TransGen
        (fun source target => target ∈ successors source) node node := by
  constructor
  · rintro ⟨search, completed⟩ node cycle
    have complete := searchAll_complete completed
    obtain ⟨next, edge, _⟩ := Relation.TransGen.head'_iff.mp cycle
    have isRoot : node ∈ roots := by
      apply branching
      intro empty
      rw [empty] at edge
      cases edge
    exact complete.ordered.acyclic (complete.listed node isRoot) cycle
  · intro acyclic
    cases outcome : searchAll successors fuel roots with
    | ok search => exact ⟨search, rfl⟩
    | error failure =>
        obtain ⟨-, meeting, cycle⟩ := searchAll_error branching enough outcome
        exact absurd cycle (acyclic meeting)

omit [DecidableEq Node] in
/-- A complete search lists what can be reached from its roots. -/
theorem Complete.mem_iff {successors : Node → List Node} {roots order : List Node}
    (complete : Complete successors roots order) {node : Node} :
    node ∈ order ↔ ∃ root ∈ roots, Relation.ReflTransGen
      (fun source target => target ∈ successors source) root node := by
  constructor
  · exact complete.reached node
  · rintro ⟨root, isRoot, path⟩
    induction path with
    | refl => exact complete.listed root isRoot
    | tail _ edge inductionHypothesis =>
        exact complete.ordered.closed inductionHypothesis edge

end Foundation.Graph
