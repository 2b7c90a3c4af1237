import Execraft.Replan.ReconciledGraph

/-!
# The executed graph agrees with the published one

Every reconciled package that the candidate also has is the candidate's record or an
old record with the same contract.
-/

namespace Execraft.Replan

open Foundation Foundation.Graph Orchestrate

variable {state : TaskExecutionStateRecord} {candidate : PlanGraph}
variable {mapping : Dict String} {revision : Int} {historical : List String}

theorem filter_of_disjoint {texts others : List String}
    (disjoint : ∀ text ∈ texts, text ∉ others) : texts.filter (· ∉ others) = texts :=
  List.filter_eq_self.mpr fun text member => decide_eq_true (disjoint text member)

/-- The contracts of the reconciled packages are those of the candidate. -/
theorem reconcileState_agrees (valid : Dag candidate.nodes)
    (clear : (analyzeImpact state candidate mapping revision historical).blockers = [])
    (replannedAt now : String) :
    ∀ package ∈ (reconcileState state candidate
      (analyzeImpact state candidate mapping revision historical) mapping replannedAt
        now).planGraph, ∀ new ∈ candidate, package.id = new.id →
      SameContract
          (contractMapping package ((shardsOf state.planGraph new.id).map WorkPackage.id))
          (contractMapping new []) ∧
        (package = new ∨ KeptAs state candidate package new) := by
  have unique := candidate_unique valid
  have distinct := (unblocked clear).distinct
  intro package member new isNew sameId
  obtain ⟨origin, isOrigin, fresh | ⟨old, kept, place⟩⟩ :=
    (mem_reconciledGraph unique clear).mp member
  · have sameOrigin : origin = new := by
      rw [fresh.2] at sameId
      exact List.inj_on_of_nodup_map unique isOrigin isNew sameId
    rw [fresh.2, sameOrigin]
    have free : ∀ other ∈ new.dependencies,
        other ∉ (shardsOf state.planGraph new.id).map WorkPackage.id := by
      intro other listed ofShard
      have known := valid.closed _ _ (dependsOn_nodes isNew listed)
      rw [map_fst_planNodes] at known
      exact distinct other known (mem_generated_of_mem_shards ofShard)
    have same : contractMapping new
        ((shardsOf state.planGraph new.id).map WorkPackage.id) =
          contractMapping new [] := by
      unfold contractMapping
      rw [filter_of_disjoint free, filter_of_disjoint fun _ _ => List.not_mem_nil]
    rw [same]
    exact ⟨SameContract.refl _, Or.inl rfl⟩
  · rcases place with isOld | ofShard
    · have sameOrigin : origin = new := by
        rw [isOld, ← kept.sameId] at sameId
        exact List.inj_on_of_nodup_map unique isOrigin isNew sameId
      rw [isOld, ← sameOrigin, kept.sameId]
      exact ⟨sameContract_of_unchanged kept.unchanged, Or.inr kept⟩
    · exfalso
      apply distinct new.id (List.mem_map_of_mem isNew)
      rw [← sameId]
      exact mem_generated_of_mem_shards (List.mem_map_of_mem ofShard)

/-- A package that was decomposed into the shard `S`. -/
def aggregatePackage : WorkPackage :=
  { id := "P", title := "P", dependencies := ["S"], stage := .regressionVerify,
    executionMode := "aggregate" }

def aggregated : TaskExecutionStateRecord where
  planGraph :=
    [aggregatePackage,
      { id := "S", title := "S", parentId := "P", executionMode := "standard_shard" }]

def declaredPackage : WorkPackage :=
  { id := "P", title := "P" }

theorem declaredPlan_valid : Dag (PlanGraph.nodes [declaredPackage]) :=
  dag_insertLast dag_nil (by decide) (by decide)

theorem reconcileState_agrees_sample :
    SameContract (contractMapping aggregatePackage ["S"])
      (contractMapping declaredPackage []) :=
  (reconcileState_agrees declaredPlan_valid
    (show (analyzeImpact aggregated [declaredPackage] Dict.empty 1 []).blockers = [] by
      decide) "" "" aggregatePackage List.mem_cons_self declaredPackage
        List.mem_cons_self rfl).1

/-- The execution mode is not part of the contract: the aggregate stays one. -/
theorem aggregated_keeps_executionMode :
    RuntimeGraph aggregated.planGraph ∧ Dag (PlanGraph.nodes [declaredPackage]) ∧
      (analyzeImpact aggregated [declaredPackage] Dict.empty 1 []).blockers = [] ∧
      ∃ package ∈ (reconcileState aggregated [declaredPackage]
          (analyzeImpact aggregated [declaredPackage] Dict.empty 1 []) Dict.empty "" ""
            ).planGraph, ∃ new ∈ [declaredPackage],
        package.id = new.id ∧ package.executionMode ≠ new.executionMode := by
  have first : Dag [("S", [])] := dag_insertLast dag_nil (by decide) (by decide)
  have second : Dag [("P", ["S"]), ("S", [])] :=
    dag_insertLast first (by decide) (by decide)
  refine ⟨⟨second, ?_⟩, declaredPlan_valid, by decide, ?_⟩
  · intro shard member
    have same : shard = { id := "S", title := "S", parentId := "P",
                          executionMode := "standard_shard" } :=
      List.mem_singleton.mp member
    rw [same]
    exact ⟨_, List.mem_cons_self, rfl⟩
  · refine ⟨_, List.mem_cons_self, _, List.mem_cons_self, rfl, by decide⟩

end Execraft.Replan
