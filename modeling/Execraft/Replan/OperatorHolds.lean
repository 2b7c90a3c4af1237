import Execraft.Orchestrate.PlanAcceptance
import Execraft.Replan.ReconciledGraph

/-!
# Operator holds across a replan

Which of the records that a replan reports as preserved keep what the operator set on
them.  A package that has not been started is replaced by its candidate, which the
operator has never seen.
-/

namespace Execraft.Replan

open Foundation Foundation.Json Foundation.Graph Orchestrate

/-! ## Holds -/

/-- The two records have the same holds and bind the same preferences. -/
structure SameHolds (old new : WorkPackage) : Prop where
  operatorPaused : new.runtime.operatorPaused = old.runtime.operatorPaused
  pauseBeforeStart : new.runtime.pauseBeforeStart = old.runtime.pauseBeforeStart
  pauseAfterCompletion : new.runtime.pauseAfterCompletion = old.runtime.pauseAfterCompletion
  decompositionRequired :
    new.runtime.decompositionRequired = old.runtime.decompositionRequired
  bindingRoles :
    new.runtime.agentPreferenceBindingRoles = old.runtime.agentPreferenceBindingRoles

theorem SameHolds.refl (package : WorkPackage) : SameHolds package package :=
  ⟨rfl, rfl, rfl, rfl, rfl⟩

/-- The operator holds nothing on the package. -/
structure Unheld (package : WorkPackage) : Prop where
  operatorPaused : package.runtime.operatorPaused = false
  pauseBeforeStart : package.runtime.pauseBeforeStart = false
  pauseAfterCompletion : package.runtime.pauseAfterCompletion = false
  decompositionRequired : package.runtime.decompositionRequired = false
  bindingRoles : package.runtime.agentPreferenceBindingRoles = []

theorem sameHolds_iff_unheld {old new : WorkPackage} (fresh : Unheld new) :
    SameHolds old new ↔ Unheld old := by
  constructor
  · intro same
    exact ⟨same.operatorPaused.symm.trans fresh.operatorPaused,
      same.pauseBeforeStart.symm.trans fresh.pauseBeforeStart,
      same.pauseAfterCompletion.symm.trans fresh.pauseAfterCompletion,
      same.decompositionRequired.symm.trans fresh.decompositionRequired,
      same.bindingRoles.symm.trans fresh.bindingRoles⟩
  · intro free
    exact ⟨fresh.operatorPaused.trans free.operatorPaused.symm,
      fresh.pauseBeforeStart.trans free.pauseBeforeStart.symm,
      fresh.pauseAfterCompletion.trans free.pauseAfterCompletion.symm,
      fresh.decompositionRequired.trans free.decompositionRequired.symm,
      fresh.bindingRoles.trans free.bindingRoles.symm⟩

/-! ## A plan declares no hold -/

section Declared

variable {py : PlanInterpreter}

theorem readPackage_unheld {raw : Row} {package : WorkPackage}
    (read : readPackage py raw = .ok package) : Unheld package := by
  obtain ⟨criteriaRaw, -, read⟩ := bind_eq_ok.mp read
  obtain ⟨acceptanceCriteria, -, read⟩ := bind_eq_ok.mp read
  obtain ⟨stage, -, read⟩ := bind_eq_ok.mp read
  obtain ⟨dependencies, -, read⟩ := bind_eq_ok.mp read
  obtain ⟨requirements, -, read⟩ := bind_eq_ok.mp read
  obtain ⟨affectedRepositories, -, read⟩ := bind_eq_ok.mp read
  obtain ⟨kind, -, read⟩ := bind_eq_ok.mp read
  obtain ⟨repositorySync, -, read⟩ := bind_eq_ok.mp read
  obtain ⟨priority, -, read⟩ := bind_eq_ok.mp read
  obtain ⟨complexity, -, read⟩ := bind_eq_ok.mp read
  obtain ⟨agentPreferences, -, read⟩ := bind_eq_ok.mp read
  obtain ⟨skillPreferences, -, read⟩ := bind_eq_ok.mp read
  obtain ⟨readScope, -, read⟩ := bind_eq_ok.mp read
  obtain ⟨writeScope, -, read⟩ := bind_eq_ok.mp read
  obtain ⟨conflictKeys, -, read⟩ := bind_eq_ok.mp read
  obtain ⟨shardIds, -, read⟩ := bind_eq_ok.mp read
  obtain ⟨_, -, read⟩ := bind_eq_ok.mp read
  obtain ⟨_, -, read⟩ := bind_eq_ok.mp read
  rw [← Except.ok.inj read]
  exact ⟨rfl, rfl, rfl, rfl, rfl⟩

theorem unheld_of_declared {entries : List Json} {packages : List WorkPackage}
    (declared : List.Forall₂ (Declares py) entries packages) :
    ∀ package ∈ packages, Unheld package := by
  induction declared with
  | nil => simp
  | cons here _ inductionHypothesis =>
      intro package member
      obtain ⟨raw, -, read⟩ := here
      rcases List.mem_cons.mp member with same | later
      · rw [same]
        exact readPackage_unheld read
      · exact inductionHypothesis package later

/-- A plan that is read in full names its packages apart and declares no hold. -/
theorem unheld_of_accepted {data : Row} {candidate : PlanGraph}
    {report : NormalizationReport}
    (read : planGraphFromMapping py data = .ok (candidate, report))
    (accepted : report.hasErrors = false) :
    (candidate.map WorkPackage.id).Nodup ∧ ∀ package ∈ candidate, Unheld package := by
  obtain ⟨⟨entries, -, declared⟩, clean⟩ := (planGraphFromMapping_accepts read).mp accepted
  exact ⟨candidate_unique ((normalizeWorkPackages_accepts candidate).mp clean).1.dag,
    unheld_of_declared declared⟩

end Declared

/-! ## Reported as preserved -/

/-- The report says that the package is preserved. -/
def Survives (impact : PackageImpact) : Prop :=
  impact.classification ∈ [.completedPreserved, .activePreserved, .generatedPreserved,
    .pendingPreserved]

instance : DecidablePred Survives := fun impact =>
  inferInstanceAs (Decidable (impact.classification ∈ _))

/-- A package that has not been started and that the candidate leaves as it is. -/
structure Waits (comparison : Comparison) (graph : PlanGraph) (old : WorkPackage) : Prop where
  unstarted : Unstarted old
  present : (comparison.candidate.get? old.id).isSome = true
  unchanged : changes comparison graph old = []

section Branches

variable {comparison : Comparison} {graph : PlanGraph} {old : WorkPackage}
variable {packageId : String} {new : Option WorkPackage} {changed : List String}

theorem completedImpact_survives :
    Survives (completedImpact packageId new changed).1 ↔
      new.isSome = true ∧ changed = [] := by
  cases new with
  | none => simp [completedImpact, Survives]
  | some package =>
      by_cases same : changed = []
      · simp [completedImpact, Survives, same]
      · simp [completedImpact, Survives, same]

theorem activeImpact_survives :
    Survives (activeImpact comparison packageId new changed).1 ↔
      new.isSome = true ∧ changed = [] := by
  unfold activeImpact Survives
  dsimp only
  split_ifs with unchanged
  · simp [unchanged]
  all_goals simpa using unchanged

theorem pendingImpact_survives :
    Survives (pendingImpact packageId new changed) ↔ new.isSome = true ∧ changed = [] := by
  cases new with
  | none => simp [pendingImpact, Survives]
  | some package =>
      by_cases same : changed = []
      · simp [pendingImpact, Survives, same]
      · simp [pendingImpact, Survives, same]

/-- An authored package is preserved when the candidate leaves it as it is. -/
theorem packageImpact_survives :
    Survives (packageImpact comparison graph old).1 ↔
      Kept comparison graph old ∨ Waits comparison graph old := by
  unfold packageImpact
  dsimp only
  split_ifs with completed active
  · rw [completedImpact_survives]
    constructor
    · intro both
      exact Or.inl ⟨Or.inl completed, both.1, both.2⟩
    · rintro (kept | waits)
      · exact ⟨kept.present, kept.unchanged⟩
      · exact absurd completed waits.unstarted.1
  · rw [activeImpact_survives]
    constructor
    · intro both
      exact Or.inl ⟨Or.inr active, both.1, both.2⟩
    · rintro (kept | waits)
      · exact ⟨kept.present, kept.unchanged⟩
      · exact ⟨waits.present, waits.unchanged⟩
  · rw [pendingImpact_survives]
    constructor
    · intro both
      exact Or.inr ⟨⟨completed, Bool.eq_false_iff.mpr active⟩, both.1, both.2⟩
    · rintro (kept | waits)
      · exact ⟨kept.present, kept.unchanged⟩
      · exact ⟨waits.present, waits.unchanged⟩

end Branches

/-- A shard is preserved when its parent is. -/
theorem shardImpacts_survives {graph : PlanGraph} {impacts : List PackageImpact}
    {parentId : String} {impact : PackageImpact}
    (member : impact ∈ shardImpacts graph impacts parentId) (survives : Survives impact) :
    (∃ child ∈ shardsOf graph parentId, impact.packageId = child.id) ∧
      ∃ parent ∈ impacts, parent.packageId = parentId ∧ Preserves parent := by
  obtain ⟨child, listed, made⟩ := List.mem_filterMap.mp member
  have ofParent : child ∈ shardsOf graph parentId :=
    (List.perm_insertionSort _ _).mem_iff.mp listed
  split_ifs at made with preserved superseded
  · cases made
    refine ⟨⟨child, ofParent, rfl⟩, ?_⟩
    have found : ∃ parent, impacts.find? (·.packageId = parentId) = some parent ∧
        Preserves parent := by
      rcases preserved with completed | active
      · obtain ⟨parent, here, same⟩ := Option.map_eq_some_iff.mp completed
        exact ⟨parent, here, Or.inl same⟩
      · obtain ⟨parent, here, same⟩ := Option.map_eq_some_iff.mp active
        exact ⟨parent, here, Or.inr same⟩
    obtain ⟨parent, here, kept⟩ := found
    exact ⟨parent, List.mem_of_find?_eq_some here,
      by simpa using List.find?_some here, kept⟩
  · cases made
    simp [Survives] at survives

/-! ## The records of the result -/

section Records

variable {state : TaskExecutionStateRecord} {candidate : PlanGraph}
variable {mapping : Dict String} {revision : Int} {historical : List String}
variable (distinct : (state.planGraph.map WorkPackage.id).Nodup)

include distinct

theorem eq_of_same_id {first second : WorkPackage} (isFirst : first ∈ state.planGraph)
    (isSecond : second ∈ state.planGraph) (same : first.id = second.id) : first = second :=
  List.inj_on_of_nodup_map distinct isFirst isSecond same

/-- The impact on each authored package is reported. -/
theorem packageImpact_mem {old : WorkPackage} (isAuthored : old ∈ authored state.planGraph) :
    (packageImpact (comparisonOf state candidate mapping) state.planGraph old).1 ∈
      (analyzeImpact state candidate mapping revision historical).packages := by
  have authoredDistinct : ((authored state.planGraph).map WorkPackage.id).Nodup :=
    List.Nodup.sublist (List.filter_sublist.map _) distinct
  have found := byId_of_mem authoredDistinct isAuthored
  have listed : old ∈ (authored state.planGraph).byId.entries.map Prod.snd :=
    List.mem_map_of_mem (f := Prod.snd) (Dict.mem_entries_iff.mpr found)
  apply List.mem_append_left
  rw [List.map_map]
  exact List.mem_map_of_mem (f := Prod.fst ∘ packageImpact
    (comparisonOf state candidate mapping) state.planGraph) listed

omit distinct in
/-- An impact on authored packages is that on one of them. -/
theorem mem_authoredImpacts {impact : PackageImpact}
    (member : impact ∈ (((authored state.planGraph).byId.entries.map Prod.snd).map
      (packageImpact (comparisonOf state candidate mapping) state.planGraph)).map Prod.fst) :
    ∃ old ∈ authored state.planGraph, impact.packageId = old.id ∧
      impact = (packageImpact (comparisonOf state candidate mapping) state.planGraph old).1 := by
  obtain ⟨result, inResults, ofResult⟩ := List.mem_map.mp member
  obtain ⟨old, listed, ofOld⟩ := List.mem_map.mp inResults
  obtain ⟨entry, inEntries, value⟩ := List.mem_map.mp listed
  have found := Dict.mem_entries_iff.mp (show (entry.1, entry.2) ∈ _ from inEntries)
  rw [value] at found
  refine ⟨old, (byId_some found).1, ?_, ?_⟩
  · rw [← ofResult, ← ofOld, packageImpact_packageId]
  · rw [← ofResult, ← ofOld]

/-- A kept package with its counterpart in the candidate. -/
theorem keptAs_of_kept {old : WorkPackage} (isAuthored : old ∈ authored state.planGraph)
    (kept : Kept (comparisonOf state candidate mapping) state.planGraph old) :
    ∃ new, KeptAs state candidate old new := by
  have stored := byId_of_mem distinct (mem_authored.mp isAuthored).1
  obtain ⟨new, isNew⟩ := Option.isSome_iff_exists.mp kept.present
  have known := byId_some isNew
  have unchanged := kept.unchanged
  rw [changes, isNew] at unchanged
  exact ⟨new, isAuthored, stored, known.1, known.2, kept.started, unchanged⟩

/-- What is reported as preserved belongs to a kept package, or waits unchanged. -/
theorem place_of_survives {old : WorkPackage} {impact : PackageImpact}
    (member : old ∈ state.planGraph)
    (reported : impact ∈ (analyzeImpact state candidate mapping revision historical).packages)
    (names : impact.packageId = old.id) (survives : Survives impact) :
    (∃ parent new, KeptAs state candidate parent new ∧
      (old = parent ∨ old ∈ shardsOf state.planGraph parent.id)) ∨
      (old.parentId = "" ∧
        Waits (comparisonOf state candidate mapping) state.planGraph old) := by
  rcases List.mem_append.mp reported with ofPackage | ofShard
  · obtain ⟨other, isAuthored, otherId, same⟩ := mem_authoredImpacts ofPackage
    obtain ⟨inGraph, noParent⟩ := mem_authored.mp isAuthored
    have here : other = old :=
      eq_of_same_id distinct inGraph member (otherId.symm.trans names)
    rw [here] at isAuthored noParent same
    rw [same] at survives
    rcases packageImpact_survives.mp survives with kept | waits
    · obtain ⟨new, keptAs⟩ := keptAs_of_kept distinct isAuthored kept
      exact Or.inl ⟨old, new, keptAs, Or.inl rfl⟩
    · exact Or.inr ⟨noParent, waits⟩
  · obtain ⟨group, inGroups, inGroup⟩ := List.mem_flatten.mp ofShard
    obtain ⟨parentId, -, made⟩ := List.mem_map.mp inGroups
    rw [← made] at inGroup
    obtain ⟨⟨child, ofParent, childId⟩, parentImpact, inImpacts, named, preserves⟩ :=
      shardImpacts_survives inGroup survives
    have here : child = old :=
      eq_of_same_id distinct (mem_shardsOf.mp ofParent).1 member (childId.symm.trans names)
    obtain ⟨parent, isAuthored, parentName, same⟩ := mem_authoredImpacts inImpacts
    rw [same] at preserves
    obtain ⟨new, keptAs⟩ :=
      keptAs_of_kept distinct isAuthored (preserves_iff_kept.mp preserves)
    refine Or.inl ⟨parent, new, keptAs, Or.inr ?_⟩
    rw [← parentName, named, ← here]
    exact ofParent

variable (unique : (candidate.map WorkPackage.id).Nodup)
variable (clear :
  (analyzeImpact state candidate mapping revision historical).blockers = [])

include unique clear

/-- A record of the result is the old record of its identity, or a candidate that
stands for no kept package. -/
theorem record_cases {old record : WorkPackage} (member : old ∈ state.planGraph)
    (listed : record ∈ reconciledGraph state candidate
      (analyzeImpact state candidate mapping revision historical))
    (names : record.id = old.id) :
    record = old ∨
      (record ∈ candidate ∧ ¬ ∃ kept, KeptAs state candidate kept record) := by
  obtain ⟨new, isNew, fresh | ⟨kept, keptAs, place⟩⟩ :=
    (mem_reconciledGraph unique clear).mp listed
  · rw [fresh.2]
    exact Or.inr ⟨isNew, fresh.1⟩
  · have inGraph : record ∈ state.planGraph := by
      rcases place with same | ofKept
      · rw [same]
        exact (mem_authored.mp keptAs.isAuthored).1
      · exact (mem_shardsOf.mp ofKept).1
    exact Or.inl (eq_of_same_id distinct inGraph member names)

/-- The records of a kept package and its shards are the old ones. -/
theorem record_of_kept {old parent new record : WorkPackage} (member : old ∈ state.planGraph)
    (keptAs : KeptAs state candidate parent new)
    (place : old = parent ∨ old ∈ shardsOf state.planGraph parent.id)
    (listed : record ∈ reconciledGraph state candidate
      (analyzeImpact state candidate mapping revision historical))
    (names : record.id = old.id) : record = old := by
  rcases record_cases distinct unique clear member listed names with same | ⟨isNew, fresh⟩
  · exact same
  · exfalso
    rcases place with same | ofParent
    · have here : record = new := List.inj_on_of_nodup_map unique isNew keptAs.isCandidate
        (by rw [names, same, keptAs.sameId])
      exact fresh ⟨parent, here ▸ keptAs⟩
    · have isGenerated : old.id ∈ (generated state.planGraph).map WorkPackage.id :=
        mem_generated_of_mem_shards (List.mem_map_of_mem ofParent)
      rw [← names] at isGenerated
      exact (unblocked clear).distinct record.id (List.mem_map_of_mem isNew) isGenerated

/-- The record of a waiting package is its candidate. -/
theorem record_of_waits {old : WorkPackage} (member : old ∈ state.planGraph)
    (waits : Waits (comparisonOf state candidate mapping) state.planGraph old) :
    ∃ new ∈ candidate, new.id = old.id ∧
      new ∈ reconciledGraph state candidate
        (analyzeImpact state candidate mapping revision historical) := by
  obtain ⟨new, isNew⟩ := Option.isSome_iff_exists.mp waits.present
  have known := byId_some isNew
  refine ⟨new, known.1, known.2, (mem_reconciledGraph unique clear).mpr
    ⟨new, known.1, Or.inl ⟨?_, rfl⟩⟩⟩
  rintro ⟨kept, keptAs⟩
  have here : kept = old := eq_of_same_id distinct (mem_authored.mp keptAs.isAuthored).1
    member (keptAs.sameId.symm.trans known.2)
  rw [here] at keptAs
  rcases keptAs.started with completed | active
  · exact waits.unstarted.1 completed
  · rw [waits.unstarted.2] at active
    cases active

end Records

/-! ## Holds across a replan -/

/-- Each package that is reported as preserved is in the result with its holds. -/
def HoldsKept (state : TaskExecutionStateRecord) (candidate : PlanGraph)
    (mapping : Dict String) (revision : Int) (historical : List String)
    (result : PlanGraph) : Prop :=
  ∀ old ∈ state.planGraph,
    ∀ impact ∈ (analyzeImpact state candidate mapping revision historical).packages,
      impact.packageId = old.id → Survives impact →
        (∃ record ∈ result, record.id = old.id) ∧
          ∀ record ∈ result, record.id = old.id → SameHolds old record

/-- A replan without blockers keeps the holds exactly when the operator holds nothing on
the packages that wait unchanged. -/
theorem holdsKept_iff {py : PlanInterpreter} {data : Row} {candidate : PlanGraph}
    {report : NormalizationReport} {state : TaskExecutionStateRecord}
    {mapping : Dict String} {revision : Int} {historical : List String}
    (read : planGraphFromMapping py data = .ok (candidate, report))
    (accepted : report.hasErrors = false)
    (distinct : (state.planGraph.map WorkPackage.id).Nodup)
    (clear : (analyzeImpact state candidate mapping revision historical).blockers = [])
    (replannedAt now : String) :
    HoldsKept state candidate mapping revision historical
        (reconcileState state candidate
          (analyzeImpact state candidate mapping revision historical) mapping replannedAt
          now).planGraph ↔
      ∀ old ∈ state.planGraph, old.parentId = "" →
        Waits (comparisonOf state candidate mapping) state.planGraph old → Unheld old := by
  obtain ⟨unique, free⟩ := unheld_of_accepted read accepted
  constructor
  · intro keeps old member noParent waits
    have isAuthored := mem_authored.mpr ⟨member, noParent⟩
    obtain ⟨new, isNew, sameId, listed⟩ := record_of_waits distinct unique clear member waits
    have kept := keeps old member _ (packageImpact_mem distinct isAuthored)
      packageImpact_packageId (packageImpact_survives.mpr (Or.inr waits))
    exact (sameHolds_iff_unheld (free new isNew)).mp (kept.2 new listed sameId)
  · intro unheld old member impact reported names survives
    rcases place_of_survives distinct member reported names survives with
      ⟨parent, new, keptAs, place⟩ | ⟨noParent, waits⟩
    · have listed : old ∈ reconciledGraph state candidate
          (analyzeImpact state candidate mapping revision historical) :=
        (mem_reconciledGraph unique clear).mpr
          ⟨new, keptAs.isCandidate, Or.inr ⟨parent, keptAs, place⟩⟩
      refine ⟨⟨old, listed, rfl⟩, ?_⟩
      intro record inResult sameId
      rw [record_of_kept distinct unique clear member keptAs place inResult sameId]
      exact SameHolds.refl old
    · obtain ⟨new, -, sameId, listed⟩ := record_of_waits distinct unique clear member waits
      refine ⟨⟨new, listed, sameId⟩, ?_⟩
      intro record inResult recordId
      rcases record_cases distinct unique clear member inResult recordId with
        same | ⟨isNew, -⟩
      · rw [same]
        exact SameHolds.refl old
      · exact (sameHolds_iff_unheld (free record isNew)).mpr (unheld old member noParent waits)

/-- The plan of one package. -/
def onePackagePlan : Row :=
  [("work_packages", .array [.object
    [("id", .string "A"), ("title", .string "A"),
      ("requirements", .array [.string "R"]),
      ("acceptance_criteria", .array [.object
        [("id", .string "C"), ("description", .string "Done")]])]])]

/-- The package of `onePackagePlan`, which the operator has paused before its start. -/
def pausedPackage : WorkPackage where
  id := "A"
  title := "A"
  requirements := ["R"]
  acceptanceCriteria := [⟨"C", "Done", false, ""⟩]
  runtime := { operatorPaused := true }

def pausedState : TaskExecutionStateRecord where
  planGraph := [pausedPackage]

theorem pausedState_distinct : (pausedState.planGraph.map WorkPackage.id).Nodup := by
  decide

def plainPlanReader : PlanInterpreter where
  toPython := asciiPython
  intFailure _ := "invalid literal"

theorem onePackagePlan_read :
    ∃ candidate report,
      planGraphFromMapping plainPlanReader onePackagePlan = .ok (candidate, report) ∧
        report.hasErrors = false ∧
        (analyzeImpact pausedState candidate Dict.empty 1 []).blockers = [] ∧
        Survives (packageImpact (comparisonOf pausedState candidate Dict.empty)
          pausedState.planGraph pausedPackage).1 ∧
        (reconciledGraph pausedState candidate
          (analyzeImpact pausedState candidate Dict.empty 1 [])).map
            (fun package => (package.id, package.runtime.operatorPaused)) =
          [("A", false)] := by
  have evaluated : (planGraphFromMapping plainPlanReader onePackagePlan).toOption.map
      (fun read => (read.2.hasErrors,
        (analyzeImpact pausedState read.1 Dict.empty 1 []).blockers,
        decide (Survives (packageImpact (comparisonOf pausedState read.1 Dict.empty)
          pausedState.planGraph pausedPackage).1),
        (reconciledGraph pausedState read.1
          (analyzeImpact pausedState read.1 Dict.empty 1 [])).map
            (fun package => (package.id, package.runtime.operatorPaused)))) =
      some (false, [], true, [("A", false)]) := by
    decide +kernel
  obtain ⟨⟨candidate, report⟩, read, parts⟩ := exists_ok_of_toOption evaluated
  simp only [Prod.mk.injEq, decide_eq_true_eq] at parts
  exact ⟨candidate, report, read, parts⟩

/-- The replan reports the paused package as preserved, and nothing pauses it any more. -/
theorem pausedPackage_released :
    ∃ candidate report,
      planGraphFromMapping plainPlanReader onePackagePlan = .ok (candidate, report) ∧
        report.hasErrors = false ∧
        (analyzeImpact pausedState candidate Dict.empty 1 []).blockers = [] ∧
        ¬ HoldsKept pausedState candidate Dict.empty 1 []
          (reconcileState pausedState candidate
            (analyzeImpact pausedState candidate Dict.empty 1 []) Dict.empty "" "").planGraph := by
  obtain ⟨candidate, report, read, accepted, clear, survives, result⟩ := onePackagePlan_read
  refine ⟨candidate, report, read, accepted, clear, ?_⟩
  intro keeps
  have isAuthored : pausedPackage ∈ authored pausedState.planGraph := by
    rw [mem_authored]
    exact ⟨List.mem_cons_self, rfl⟩
  have kept := keeps pausedPackage List.mem_cons_self _
    (packageImpact_mem pausedState_distinct isAuthored) packageImpact_packageId survives
  obtain ⟨record, listed, sameId⟩ := kept.1
  have paused := (kept.2 record listed sameId).operatorPaused
  have here : (record.id, record.runtime.operatorPaused) ∈ [("A", false)] := by
    rw [← result]
    exact List.mem_map_of_mem listed
  cases (Prod.mk.inj (List.mem_singleton.mp here)).2.symm.trans paused

theorem holdsKept_iff_sample :
    ∃ candidate report,
      planGraphFromMapping plainPlanReader onePackagePlan = .ok (candidate, report) ∧
        (HoldsKept pausedState candidate Dict.empty 1 []
          (reconcileState pausedState candidate
            (analyzeImpact pausedState candidate Dict.empty 1 []) Dict.empty "" "").planGraph ↔
          ∀ old ∈ pausedState.planGraph, old.parentId = "" →
            Waits (comparisonOf pausedState candidate Dict.empty) pausedState.planGraph old →
              Unheld old) := by
  obtain ⟨candidate, report, read, accepted, clear, -⟩ := onePackagePlan_read
  exact ⟨candidate, report, read,
    holdsKept_iff read accepted pausedState_distinct clear "" ""⟩

end Execraft.Replan
