import Mathlib.Logic.Relation

/-!
# Graphs with two sides

A relation on two kinds of nodes, given by its four parts.  When both sides are
acyclic by themselves, every cycle crosses from one side to the other and back.
-/

namespace Foundation.Graph

open Relation

variable {Left Right : Type}

/-- The edges within each side and those from one side to the other. -/
structure Sides (Left Right : Type) where
  left : Left → Left → Prop
  right : Right → Right → Prop
  across : Left → Right → Prop
  back : Right → Left → Prop

namespace Sides

variable (sides : Sides Left Right)

/-- The edges of the whole graph. -/
inductive Step : Left ⊕ Right → Left ⊕ Right → Prop where
  | left {source target : Left} : sides.left source target →
      Step (.inl source) (.inl target)
  | right {source target : Right} : sides.right source target →
      Step (.inr source) (.inr target)
  | across {source : Left} {target : Right} : sides.across source target →
      Step (.inl source) (.inr target)
  | back {source : Right} {target : Left} : sides.back source target →
      Step (.inr source) (.inl target)

/-- A way from the left side across the right side and back. -/
def Crosses (source target : Left) : Prop :=
  ∃ leaving entered returning, ReflTransGen sides.left source leaving ∧
    sides.across leaving entered ∧ ReflTransGen sides.right entered returning ∧
    sides.back returning target

variable {sides}

theorem Step.of_left {source target : Left}
    (path : ReflTransGen sides.left source target) :
    ReflTransGen sides.Step (.inl source) (.inl target) :=
  path.lift Sum.inl fun _ _ => Step.left

theorem Step.of_right {source target : Right}
    (path : ReflTransGen sides.right source target) :
    ReflTransGen sides.Step (.inr source) (.inr target) :=
  path.lift Sum.inr fun _ _ => Step.right

theorem Crosses.steps {source target : Left} (crossing : sides.Crosses source target) :
    TransGen sides.Step (.inl source) (.inl target) := by
  obtain ⟨leaving, entered, returning, before, across, during, back⟩ := crossing
  have leaves : TransGen sides.Step (.inl source) (.inr entered) :=
    TransGen.tail' (Step.of_left before) (Step.across across)
  have returns : TransGen sides.Step (.inr entered) (.inl target) :=
    TransGen.tail' (Step.of_right during) (Step.back back)
  exact leaves.trans returns

/-- Edges of the left side in front of a crossing belong to it. -/
theorem Crosses.after_left {source middle target : Left}
    (path : ReflTransGen sides.left source middle)
    (crossings : TransGen sides.Crosses middle target) :
    TransGen sides.Crosses source target := by
  obtain ⟨first, crossing, rest⟩ := TransGen.head'_iff.mp crossings
  obtain ⟨leaving, entered, returning, before, across, during, back⟩ := crossing
  have extended : sides.Crosses source first :=
    ⟨leaving, entered, returning, path.trans before, across, during, back⟩
  exact TransGen.head' extended rest

/-- Where a path from the left side stands: on the left, behind its crossings,
or on the right, in the middle of one. -/
def Reached (sides : Sides Left Right) (source : Left) : Left ⊕ Right → Prop
  | .inl target => TransGen sides.left source target ∨
      ∃ landed, TransGen sides.Crosses source landed ∧
        ReflTransGen sides.left landed target
  | .inr target => ∃ landed leaving entered,
      ReflTransGen sides.Crosses source landed ∧
      ReflTransGen sides.left landed leaving ∧ sides.across leaving entered ∧
      ReflTransGen sides.right entered target

theorem Reached.of_steps {source : Left} {node : Left ⊕ Right}
    (path : TransGen sides.Step (.inl source) node) :
    sides.Reached source node := by
  induction path with
  | single step =>
      cases step with
      | left edge => exact Or.inl (TransGen.single edge)
      | across edge =>
          exact ⟨source, source, _, ReflTransGen.refl, ReflTransGen.refl, edge,
            ReflTransGen.refl⟩
  | tail _ step inductionHypothesis =>
      cases step with
      | left edge =>
          rcases inductionHypothesis with within | ⟨landed, crossings, within⟩
          · exact Or.inl (within.tail edge)
          · exact Or.inr ⟨landed, crossings, within.tail edge⟩
      | across edge =>
          rcases inductionHypothesis with within | ⟨landed, crossings, within⟩
          · exact ⟨source, _, _, ReflTransGen.refl, within.to_reflTransGen, edge,
              ReflTransGen.refl⟩
          · exact ⟨landed, _, _, crossings.to_reflTransGen, within, edge,
              ReflTransGen.refl⟩
      | right edge =>
          obtain ⟨landed, leaving, entered, crossings, before, across, during⟩ :=
            inductionHypothesis
          exact ⟨landed, leaving, entered, crossings, before, across,
            during.tail edge⟩
      | back edge =>
          obtain ⟨landed, leaving, entered, crossings, before, across, during⟩ :=
            inductionHypothesis
          refine Or.inr ⟨_, ?_, ReflTransGen.refl⟩
          exact TransGen.tail' crossings
            ⟨leaving, entered, _, before, across, during, edge⟩

/-- A path between nodes of the right side stays there or meets the left. -/
theorem right_or_meets_left {source : Right} {node : Left ⊕ Right}
    (path : TransGen sides.Step (.inr source) node) :
    (∃ target, node = .inr target ∧ TransGen sides.right source target) ∨
      ∃ met, TransGen sides.Step (.inr source) (.inl met) ∧
        ReflTransGen sides.Step (.inl met) node := by
  induction path with
  | single step =>
      cases step with
      | right edge => exact Or.inl ⟨_, rfl, TransGen.single edge⟩
      | back edge =>
          exact Or.inr ⟨_, TransGen.single (Step.back edge), ReflTransGen.refl⟩
  | tail path step inductionHypothesis =>
      rcases inductionHypothesis with ⟨target, rfl, within⟩ | ⟨met, before, after⟩
      · cases step with
        | right edge => exact Or.inl ⟨_, rfl, within.tail edge⟩
        | back edge =>
            exact Or.inr ⟨_, path.tail (Step.back edge), ReflTransGen.refl⟩
      · exact Or.inr ⟨met, before, after.tail step⟩

/-- A graph with acyclic sides is acyclic exactly when its crossings are. -/
theorem acyclic_iff (leftAcyclic : ∀ node, ¬ TransGen sides.left node node)
    (rightAcyclic : ∀ node, ¬ TransGen sides.right node node) :
    (∀ node, ¬ TransGen sides.Step node node) ↔
      ∀ node, ¬ TransGen sides.Crosses node node := by
  constructor
  · intro acyclic node cycle
    apply acyclic (.inl node)
    exact cycle.lift' Sum.inl fun _ _ => Crosses.steps
  · intro uncrossed
    have leftSide : ∀ node, ¬ TransGen sides.Step (.inl node) (.inl node) := by
      intro node cycle
      rcases Reached.of_steps cycle with within | ⟨landed, crossings, within⟩
      · exact leftAcyclic node within
      · exact uncrossed landed (Crosses.after_left within crossings)
    intro node cycle
    cases node with
    | inl node => exact leftSide node cycle
    | inr node =>
        rcases right_or_meets_left cycle with
          ⟨target, same, within⟩ | ⟨met, before, after⟩
        · cases same
          exact rightAcyclic node within
        · exact leftSide met (TransGen.trans_right after before)

end Sides

end Foundation.Graph
