import Execraft.Foundation.Graph.DepthFirst
import Execraft.Foundation.Graph.Insertion
import Execraft.Foundation.Text.Infix
import Execraft.Orchestrate.StateRecord

/-!
# Normalization of plan graphs

`PlanGraph.validate_acyclic`, `PlanGraph.validate_completeness` and the report that
`normalize_work_packages` makes of them: which graphs it accepts.
-/

namespace Execraft.Orchestrate

open Foundation Foundation.Graph Foundation.Text

namespace PlanGraph

/-! ## The search for cycles -/

/-- The identities that were entered, and those on the current path. -/
structure Visits where
  visited : List String
  recursionStack : List String

/-- `_visit`.  The path holds distinct packages, so that `fuel` above their number is
never used up. -/
def visitPackage (graph : PlanGraph) :
    Nat → Visits → String → Except OrchestrateError Visits
  | 0, _, _ => .error ⟨"maximum recursion depth exceeded"⟩
  | fuel + 1, visits, packageId =>
      if packageId ∈ visits.recursionStack then
        .error ⟨"cycle detected in work-package graph involving " ++ packageId⟩
      else if packageId ∈ visits.visited then .ok visits
      else do
        let package ← graph.packageById packageId
        let below ← package.dependencies.foldlM
          (fun visits dependencyId => do
            let _ ← graph.packageById dependencyId
            visitPackage graph fuel visits dependencyId)
          ⟨visits.visited ++ [packageId], visits.recursionStack ++ [packageId]⟩
        .ok { below with recursionStack := below.recursionStack.erase packageId }

def validateAcyclic (graph : PlanGraph) : Except OrchestrateError Unit := do
  let _ ← (graph.map WorkPackage.id).foldlM
    (visitPackage graph (graph.length + 1)) ⟨[], []⟩
  .ok ()

/-! ## Findings -/

def duplicateFinding (packageId : String) : String :=
  "duplicate work package id: " ++ packageId

def missingFinding (packageId dependencyId : String) : String :=
  "package " ++ packageId ++ " depends on missing package " ++ dependencyId

def criteriaFinding (packageId : String) : String :=
  "package " ++ packageId ++ " has no acceptance criteria"

def requirementsFinding (packageId : String) : String :=
  "package " ++ packageId ++ " has no requirements"

/-- The findings about one package behind packages with the identities `seen`. -/
def packageFindings (ids seen : List String) (package : WorkPackage) : List String :=
  (if package.id ∈ seen then [duplicateFinding package.id] else []) ++
    ((package.dependencies.filter (· ∉ ids)).map (missingFinding package.id) ++
      ((if package.acceptanceCriteria = [] then [criteriaFinding package.id] else []) ++
        if package.requirements = [] then [requirementsFinding package.id] else []))

def completenessFindings (ids : List String) :
    List String → List WorkPackage → List String
  | _, [] => []
  | seen, package :: rest =>
      packageFindings ids seen package ++
        completenessFindings ids (seen ++ [package.id]) rest

def validateCompleteness (graph : PlanGraph) : List String :=
  completenessFindings (graph.map WorkPackage.id) [] graph

end PlanGraph

/-! ## The report -/

structure NormalizationReport where
  packagesFound : Nat := 0
  cyclesDetected : List String := []
  missingDependencies : List String := []
  missingAcceptanceCriteria : List String := []
  duplicateIds : List String := []
  errors : List String := []

def NormalizationReport.hasErrors (report : NormalizationReport) : Bool :=
  !report.errors.isEmpty || !report.cyclesDetected.isEmpty ||
    !report.missingDependencies.isEmpty || !report.missingAcceptanceCriteria.isEmpty ||
    !report.duplicateIds.isEmpty

/-- `phrase in text`. -/
def Mentions (phrase text : String) : Prop :=
  phrase.toList <:+: text.toList

instance : DecidableRel Mentions := fun phrase text =>
  inferInstanceAs (Decidable (phrase.toList <:+: text.toList))

/-- A finding is filed under the first phrase that its text mentions. -/
def NormalizationReport.file (report : NormalizationReport) (finding : String) :
    NormalizationReport :=
  if Mentions "missing package" finding then
    { report with missingDependencies := report.missingDependencies ++ [finding] }
  else if Mentions "acceptance criteria" finding then
    { report with
      missingAcceptanceCriteria := report.missingAcceptanceCriteria ++ [finding] }
  else if Mentions "duplicate work package id" finding then
    { report with duplicateIds := report.duplicateIds ++ [finding] }
  else report

/-- The message of the search for cycles, when it fails. -/
def cycleMessages (graph : PlanGraph) : List String :=
  match graph.validateAcyclic with
  | .ok _ => []
  | .error failure => [failure.message]

def normalizeWorkPackages (packages : List WorkPackage) :
    PlanGraph × NormalizationReport :=
  (packages, (PlanGraph.validateCompleteness packages).foldl NormalizationReport.file
    { packagesFound := packages.length, cyclesDetected := cycleMessages packages })

/-! ## What the search for cycles finds -/

namespace PlanGraph

section Cycles

variable {graph : PlanGraph}

/-- The dependencies of the package that an identity names. -/
def successors (graph : PlanGraph) (packageId : String) : List String :=
  match graph.packageById packageId with
  | .ok package => package.dependencies
  | .error _ => []

theorem successors_of_ok {packageId : String} {package : WorkPackage}
    (found : graph.packageById packageId = .ok package) :
    graph.successors packageId = package.dependencies := by
  rw [successors, found]

/-- The visits of the package search that a state of the generic search stands for. -/
structure Mirrors (visits : Visits) (search : Search String) : Prop where
  stack : visits.recursionStack = search.visiting
  visited : ∀ packageId, packageId ∈ visits.visited ↔
    packageId ∈ search.visited ∨ packageId ∈ search.visiting

/-- Both searches fail, or both succeed in states that mirror each other. -/
def Agree (found : Except OrchestrateError Visits)
    (searched : Except (Failure String) (Search String)) : Prop :=
  (∃ visits search, found = .ok visits ∧ searched = .ok search ∧ Mirrors visits search) ∨
    (∃ failure, found = .error failure) ∧ ∃ failure, searched = .error failure

theorem agree_foldlM {visitOne : Visits → String → Except OrchestrateError Visits}
    {searchOne : Search String → String → Except (Failure String) (Search String)}
    (lists : Lists graph.successors searchOne) {ids : List String}
    (each : ∀ packageId ∈ ids, ∀ visits search, Mirrors visits search →
      search.Sound graph.successors →
        Agree (visitOne visits packageId) (searchOne search packageId))
    {visits : Visits} {search : Search String} (mirrors : Mirrors visits search)
    (sound : search.Sound graph.successors) :
    Agree (ids.foldlM visitOne visits) (ids.foldlM searchOne search) := by
  induction ids generalizing visits search with
  | nil => exact Or.inl ⟨visits, search, rfl, rfl, mirrors⟩
  | cons head tail inductionHypothesis =>
      rw [List.foldlM_cons, List.foldlM_cons]
      rcases each head List.mem_cons_self visits search mirrors sound with
        ⟨nextVisits, nextSearch, found, searched, next⟩ |
          ⟨⟨failure, found⟩, searchFailure, searched⟩
      · rw [found, searched]
        exact inductionHypothesis
          (fun packageId member => each packageId (List.mem_cons_of_mem head member))
          next (lists search head nextSearch searched sound).1
      · rw [found, searched]
        exact Or.inr ⟨⟨failure, rfl⟩, searchFailure, rfl⟩

theorem visitPackage_agrees (closed : graph.Closed) (fuel : Nat) (trail : List String)
    {packageId : String} (named : packageId ∈ graph.map WorkPackage.id)
    {visits : Visits} {search : Search String} (mirrors : Mirrors visits search)
    (sound : search.Sound graph.successors) :
    Agree (graph.visitPackage fuel visits packageId)
      (visit graph.successors fuel trail search packageId) := by
  induction fuel generalizing trail packageId visits search with
  | zero => exact Or.inr ⟨⟨_, rfl⟩, _, rfl⟩
  | succ fuel inductionHypothesis =>
      rw [visitPackage, visit]
      by_cases onPath : packageId ∈ search.visiting
      · have left : packageId ∉ search.visited := by
          rw [sound.same]
          exact sound.apart packageId onPath
        rw [if_pos (mirrors.stack ▸ onPath), if_neg left, if_pos onPath]
        exact Or.inr ⟨⟨_, rfl⟩, _, rfl⟩
      · rw [if_neg (mirrors.stack ▸ onPath)]
        by_cases left : packageId ∈ search.visited
        · rw [if_pos ((mirrors.visited packageId).mpr (Or.inl left)), if_pos left]
          exact Or.inl ⟨visits, search, rfl, rfl, mirrors⟩
        · have fresh : packageId ∉ visits.visited := by
            rw [mirrors.visited, not_or]
            exact ⟨left, onPath⟩
          rw [if_neg fresh, if_neg left, if_neg onPath]
          obtain ⟨package, found⟩ := packageById_of_mem_ids named
          have inside := (packageById_mem found).1
          rw [found, ok_bind, successors_of_ok found]
          have entered : Mirrors
              ⟨visits.visited ++ [packageId], visits.recursionStack ++ [packageId]⟩
              (search.enter packageId) := by
            constructor
            · rw [mirrors.stack]
              rfl
            · intro other
              simp only [Search.enter, List.mem_append, mirrors.visited other]
              tauto
          have below := agree_foldlM (visit_lists graph.successors fuel _)
            (fun dependencyId member => by
              intro visits search mirrors sound
              have dependencyNamed := closed package inside member
              obtain ⟨dependency, present⟩ := packageById_of_mem_ids dependencyNamed
              have agrees := inductionHypothesis (trail ++ [packageId]) dependencyNamed
                mirrors sound
              exact (show Agree (do
                let _ ← graph.packageById dependencyId
                graph.visitPackage fuel visits dependencyId) _ by
                  rw [present]
                  exact agrees))
            entered (sound.enter left)
          rcases below with
            ⟨belowVisits, belowSearch, visited, searched, belowMirrors⟩ |
              ⟨⟨failure, visited⟩, searchFailure, searched⟩
          · rw [visited, searched]
            have done := ((visit_lists graph.successors fuel _).foldlM searched
              (sound.enter left)).2
            refine Or.inl ⟨_, _, rfl, rfl, ?_, ?_⟩
            · rw [belowMirrors.stack]
              rfl
            · have kept : ∀ other, other ∈ belowSearch.visiting ↔
                  other ∈ search.visiting ∨ other = packageId := by
                intro other
                rw [done.visiting]
                simp [Search.enter]
              have restored : (belowSearch.leave packageId).visiting = search.visiting := by
                simp only [Search.leave, done.visiting, Search.enter]
                rw [List.erase_append_right _ onPath]
                simp
              intro other
              rw [restored]
              simp only [Search.leave, List.mem_append, List.mem_singleton,
                belowMirrors.visited other, kept other]
              tauto
          · rw [visited, searched]
            exact Or.inr ⟨⟨failure, rfl⟩, searchFailure, rfl⟩

theorem dependsOn_successors (unique : (graph.map WorkPackage.id).Nodup)
    {packageId dependencyId : String} :
    DependsOn graph.nodes packageId dependencyId ↔
      dependencyId ∈ graph.successors packageId := by
  constructor
  · rintro ⟨dependencies, listed, member⟩
    obtain ⟨package, inside, same⟩ := List.mem_map.mp listed
    cases same
    have found : graph.packageById package.id = .ok package :=
      packageById_eq_ok.mpr ((find?_key_eq_some unique).mpr ⟨inside, rfl⟩)
    rwa [successors_of_ok found]
  · intro member
    unfold successors at member
    split at member
    · rename_i package found
      obtain ⟨inside, name⟩ := packageById_mem found
      exact ⟨package.dependencies, List.mem_map.mpr ⟨package, inside, by rw [name]⟩, member⟩
    · cases member

/-- On distinct packages with dependencies among them the search fails exactly on
cycles. -/
theorem validateAcyclic_eq_ok (unique : (graph.map WorkPackage.id).Nodup)
    (closed : graph.Closed) :
    graph.validateAcyclic = .ok () ↔ Graph.Acyclic (DependsOn graph.nodes) := by
  have edges : DependsOn graph.nodes = fun source target =>
      target ∈ graph.successors source := by
    funext source target
    exact propext (dependsOn_successors unique)
  have branching : ∀ packageId, graph.successors packageId ≠ [] →
      packageId ∈ graph.map WorkPackage.id := by
    intro packageId branches
    obtain ⟨dependencyId, member⟩ := List.exists_mem_of_ne_nil _ branches
    have listed := ((dependsOn_successors unique).mpr member).mem
    rwa [nodes, List.map_map] at listed
  have enough : (graph.map WorkPackage.id).length < graph.length + 1 := by
    rw [List.length_map]
    omega
  have agrees : Agree
      ((graph.map WorkPackage.id).foldlM (graph.visitPackage (graph.length + 1)) ⟨[], []⟩)
      (searchAll graph.successors (graph.length + 1) (graph.map WorkPackage.id)) := by
    apply agree_foldlM (visit_lists graph.successors _ [])
    · intro packageId named visits search mirrors sound
      exact visitPackage_agrees closed _ [] named mirrors sound
    · exact ⟨rfl, by simp⟩
    · exact sound_initial graph.successors
  rw [Graph.Acyclic, edges, ← searchAll_ok_iff branching enough, validateAcyclic]
  rcases agrees with ⟨visits, search, visited, searched, _⟩ |
      ⟨⟨failure, visited⟩, searchFailure, searched⟩
  · rw [visited, searched]
    exact ⟨fun _ => ⟨search, rfl⟩, fun _ => rfl⟩
  · rw [visited, searched]
    constructor
    · intro accepted
      cases accepted
    · rintro ⟨_, accepted⟩
      cases accepted

end Cycles

end PlanGraph

/-! ## Which findings are errors -/

/-- The identity contains one of the phrases by which findings are told apart. -/
def Misfiled (packageId : String) : Prop :=
  Mentions "missing package" packageId ∨ Mentions "acceptance criteria" packageId ∨
    Mentions "duplicate work package id" packageId

/-- The finding is filed as an error. -/
def Filed (finding : String) : Prop :=
  Mentions "missing package" finding ∨ Mentions "acceptance criteria" finding ∨
    Mentions "duplicate work package id" finding

section Findings

theorem mentions_append {phrase front back : String} (inside : Mentions phrase front) :
    Mentions phrase (front ++ back) := by
  unfold Mentions at inside ⊢
  rw [String.toList_append]
  exact inside.trans (List.prefix_append _ _).isInfix

theorem mentions_prepend {phrase front back : String} (inside : Mentions phrase back) :
    Mentions phrase (front ++ back) := by
  unfold Mentions at inside ⊢
  rw [String.toList_append]
  exact inside.trans (List.suffix_append _ _).isInfix

theorem filed_duplicate (packageId : String) :
    Filed (PlanGraph.duplicateFinding packageId) := by
  have phrase : Mentions "duplicate work package id" "duplicate work package id: " := by
    decide +kernel
  exact Or.inr (Or.inr (mentions_append phrase))

theorem filed_missing (packageId dependencyId : String) :
    Filed (PlanGraph.missingFinding packageId dependencyId) := by
  have phrase : Mentions "missing package" " depends on missing package " := by
    decide +kernel
  exact Or.inl (mentions_append (mentions_prepend phrase))

theorem filed_criteria (packageId : String) :
    Filed (PlanGraph.criteriaFinding packageId) := by
  have phrase : Mentions "acceptance criteria" " has no acceptance criteria" := by
    decide +kernel
  exact Or.inr (Or.inl (mentions_prepend phrase))

theorem mentions_requirementsFinding {phrase : String}
    (starts : StartsApart phrase.toList "package ".toList)
    (ends : EndsApart phrase.toList " has no requirements".toList) {packageId : String} :
    Mentions phrase (PlanGraph.requirementsFinding packageId) ↔
      Mentions phrase packageId := by
  unfold Mentions PlanGraph.requirementsFinding
  rw [String.toList_append, String.toList_append, infix_append_of_endsApart ends,
    infix_append_of_startsApart starts]

/-- Missing requirements are no error, unless the identity says otherwise. -/
theorem filed_requirements (packageId : String) :
    Filed (PlanGraph.requirementsFinding packageId) ↔ Misfiled packageId := by
  unfold Filed Misfiled
  rw [mentions_requirementsFinding (by decide +kernel) (by decide +kernel),
    mentions_requirementsFinding (by decide +kernel) (by decide +kernel),
    mentions_requirementsFinding (by decide +kernel) (by decide +kernel)]

theorem hasErrors_file (report : NormalizationReport) (finding : String) :
    (report.file finding).hasErrors = false ↔
      report.hasErrors = false ∧ ¬ Filed finding := by
  unfold NormalizationReport.file Filed
  split_ifs with missing criteria duplicate <;>
    simp [NormalizationReport.hasErrors, *]

theorem hasErrors_foldl (findings : List String) (report : NormalizationReport) :
    (findings.foldl NormalizationReport.file report).hasErrors = false ↔
      report.hasErrors = false ∧ ∀ finding ∈ findings, ¬ Filed finding := by
  induction findings generalizing report with
  | nil => simp
  | cons head tail inductionHypothesis =>
      rw [List.foldl_cons, inductionHypothesis, hasErrors_file, List.forall_mem_cons,
        and_assoc]

/-- One package gives no finding that is filed. -/
theorem packageFindings_clean {ids seen : List String} {package : WorkPackage} :
    (∀ finding ∈ PlanGraph.packageFindings ids seen package, ¬ Filed finding) ↔
      package.id ∉ seen ∧ package.dependencies ⊆ ids ∧
        package.acceptanceCriteria ≠ [] ∧
          (package.requirements = [] → ¬ Misfiled package.id) := by
  unfold PlanGraph.packageFindings
  simp only [List.forall_mem_append]
  have distinct : (∀ finding ∈ if package.id ∈ seen then
      [PlanGraph.duplicateFinding package.id] else [], ¬ Filed finding) ↔
        package.id ∉ seen := by
    by_cases repeated : package.id ∈ seen
    · simp [repeated, filed_duplicate]
    · simp [repeated]
  have present : (∀ finding ∈ (package.dependencies.filter (· ∉ ids)).map
      (PlanGraph.missingFinding package.id), ¬ Filed finding) ↔
        package.dependencies ⊆ ids := by
    constructor
    · intro clean dependencyId member
      by_contra absent
      exact clean _ (List.mem_map_of_mem (List.mem_filter.mpr
        ⟨member, decide_eq_true absent⟩)) (filed_missing _ _)
    · intro inside finding member
      obtain ⟨dependencyId, listed, _⟩ := List.mem_map.mp member
      obtain ⟨dependency, absent⟩ := List.mem_filter.mp listed
      exact absurd (inside dependency) (of_decide_eq_true absent)
  have criteria : (∀ finding ∈ if package.acceptanceCriteria = [] then
      [PlanGraph.criteriaFinding package.id] else [], ¬ Filed finding) ↔
        package.acceptanceCriteria ≠ [] := by
    by_cases empty : package.acceptanceCriteria = []
    · simp [empty, filed_criteria]
    · simp [empty]
  have requirements : (∀ finding ∈ if package.requirements = [] then
      [PlanGraph.requirementsFinding package.id] else [], ¬ Filed finding) ↔
        (package.requirements = [] → ¬ Misfiled package.id) := by
    by_cases empty : package.requirements = []
    · simp [empty, filed_requirements]
    · simp [empty]
  rw [distinct, present, criteria, requirements]

theorem completenessFindings_clean {ids seen : List String} {packages : List WorkPackage} :
    (∀ finding ∈ PlanGraph.completenessFindings ids seen packages, ¬ Filed finding) ↔
      (∀ package ∈ packages, package.id ∉ seen) ∧
        (packages.map WorkPackage.id).Nodup ∧
          ∀ package ∈ packages, package.dependencies ⊆ ids ∧
            package.acceptanceCriteria ≠ [] ∧
              (package.requirements = [] → ¬ Misfiled package.id) := by
  induction packages generalizing seen with
  | nil => simp [PlanGraph.completenessFindings]
  | cons head tail inductionHypothesis =>
      rw [PlanGraph.completenessFindings, List.forall_mem_append, packageFindings_clean,
        inductionHypothesis]
      simp only [List.forall_mem_cons, List.map_cons, List.nodup_cons, List.mem_append,
        List.mem_singleton, not_or, List.mem_map, not_exists, not_and]
      constructor
      · rintro ⟨⟨first, inside, criteria, requirements⟩, fresh, unique, others⟩
        exact ⟨⟨first, fun package member => (fresh package member).1⟩,
          ⟨fun package member same => (fresh package member).2 same, unique⟩,
          ⟨inside, criteria, requirements⟩, others⟩
      · rintro ⟨⟨first, fresh⟩, ⟨different, unique⟩, ⟨inside, criteria, requirements⟩,
          others⟩
        exact ⟨⟨first, inside, criteria, requirements⟩,
          fun package member => ⟨fresh package member, different package member⟩,
          unique, others⟩

end Findings

/-! ## Accepted plans -/

/-- Distinct packages with acyclic dependencies among them, each with an acceptance
criterion. -/
structure WellFormed (packages : List WorkPackage) : Prop where
  dag : Dag (PlanGraph.nodes packages)
  criteria : ∀ package ∈ packages, package.acceptanceCriteria ≠ []

theorem closed_of_dag {graph : PlanGraph} (dag : Dag graph.nodes) : graph.Closed := by
  intro package member dependencyId listed
  have named := dag.closed package.id dependencyId
    ⟨package.dependencies, List.mem_map_of_mem member, listed⟩
  rwa [PlanGraph.nodes, List.map_map] at named

theorem cycleMessages_eq_nil {graph : PlanGraph} :
    cycleMessages graph = [] ↔ graph.validateAcyclic = .ok () := by
  unfold cycleMessages
  cases graph.validateAcyclic with
  | ok result => simp
  | error failure => simp

/-- A report has no error exactly for well-formed plans in which no package without
requirements has an identity that its finding is misfiled by. -/
theorem normalizeWorkPackages_accepts (packages : List WorkPackage) :
    (normalizeWorkPackages packages).2.hasErrors = false ↔
      WellFormed packages ∧
        ∀ package ∈ packages, package.requirements = [] → ¬ Misfiled package.id := by
  have initial : NormalizationReport.hasErrors
      { packagesFound := packages.length, cyclesDetected := cycleMessages packages } =
        false ↔ PlanGraph.validateAcyclic packages = .ok () := by
    rw [← cycleMessages_eq_nil]
    simp [NormalizationReport.hasErrors]
  rw [normalizeWorkPackages, hasErrors_foldl, initial, PlanGraph.validateCompleteness,
    completenessFindings_clean]
  constructor
  · rintro ⟨acyclic, _, unique, each⟩
    have closed : PlanGraph.Closed packages := fun package member => (each package member).1
    rw [PlanGraph.validateAcyclic_eq_ok unique closed] at acyclic
    refine ⟨⟨⟨?_, ?_, acyclic⟩, fun package member => (each package member).2.1⟩,
      fun package member => (each package member).2.2⟩
    · rw [PlanGraph.nodes, List.map_map]
      exact unique
    · rintro packageId dependencyId ⟨dependencies, listed, member⟩
      obtain ⟨package, inside, same⟩ := List.mem_map.mp listed
      cases same
      rw [PlanGraph.nodes, List.map_map]
      exact closed package inside member
  · rintro ⟨wellFormed, requirements⟩
    have unique : (packages.map WorkPackage.id).Nodup := by
      have names := wellFormed.dag.unique
      rwa [PlanGraph.nodes, List.map_map] at names
    have closed := closed_of_dag wellFormed.dag
    refine ⟨(PlanGraph.validateAcyclic_eq_ok unique closed).mpr wellFormed.dag.acyclic,
      fun _ _ => List.not_mem_nil, unique, ?_⟩
    intro package member
    exact ⟨closed package member, wellFormed.criteria package member,
      requirements package member⟩

end Execraft.Orchestrate
