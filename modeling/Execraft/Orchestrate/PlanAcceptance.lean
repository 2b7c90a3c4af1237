import Execraft.Orchestrate.PlanReader

/-!
# Accepted plans do not deadlock

In every state of an accepted plan with an unfinished package, and no package held
back, some package is ready; and which plans are accepted.
-/

namespace Execraft.Orchestrate

open Foundation Foundation.Graph Foundation.Json RepositorySync

/-! ## The ready queue of an acyclic plan -/

namespace PlanGraph

section Ready

variable {graph : PlanGraph}

theorem dependenciesCompleted_ok {dependencyIds : List String}
    (inside : dependencyIds ⊆ graph.map WorkPackage.id) :
    ∃ ready, graph.dependenciesCompleted dependencyIds = .ok ready := by
  induction dependencyIds with
  | nil => exact ⟨true, rfl⟩
  | cons head tail inductionHypothesis =>
      obtain ⟨named, others⟩ := List.cons_subset.mp inside
      obtain ⟨dependency, found⟩ := packageById_of_mem_ids named
      rw [dependenciesCompleted, found, ok_bind]
      by_cases finished : dependency.stage = .completed
      · rw [if_neg (not_not_intro finished)]
        exact inductionHypothesis others
      · rw [if_pos finished]
        exact ⟨false, rfl⟩

theorem selectable_ok (closed : graph.Closed) {package : WorkPackage}
    (member : package ∈ graph) : ∃ chosen, graph.selectable package = .ok chosen := by
  unfold selectable
  by_cases free : package.status = "pending" ∧ package.runtime.operatorPaused = false
  · obtain ⟨first, found⟩ := packageById_of_mem_ids (List.mem_map_of_mem member)
    obtain ⟨ready, read⟩ := dependenciesCompleted_ok
      (closed first (packageById_mem found).1)
    rw [if_pos free, dependencyReady, found, ok_bind, read, ok_bind]
    exact ⟨_, rfl⟩
  · rw [if_neg free]
    exact ⟨false, rfl⟩

theorem selectReady_ok (closed : graph.Closed) {candidates : List WorkPackage}
    (inside : candidates ⊆ graph) :
    ∃ ready, graph.selectReady candidates = .ok ready := by
  induction candidates with
  | nil => exact ⟨[], rfl⟩
  | cons head tail inductionHypothesis =>
      obtain ⟨member, others⟩ := List.cons_subset.mp inside
      obtain ⟨chosen, decided⟩ := selectable_ok closed member
      obtain ⟨ready, selected⟩ := inductionHypothesis others
      rw [selectReady, decided, ok_bind, selected, ok_bind]
      exact ⟨_, rfl⟩

theorem readyPackages_ok (closed : graph.Closed) :
    ∃ ready, graph.readyPackages = .ok ready := by
  obtain ⟨ready, selected⟩ := selectReady_ok closed (List.Subset.refl graph)
  rw [readyPackages, selected, ok_bind]
  exact ⟨_, rfl⟩

/-- The named package is not completed. -/
def Unfinished (graph : PlanGraph) (packageId : String) : Prop :=
  ∃ package ∈ graph, package.id = packageId ∧ package.stage ≠ .completed

/-- Some unfinished package depends on finished packages only. -/
theorem exists_unfinished (dag : Dag graph.nodes) {package : WorkPackage}
    (member : package ∈ graph) (unfinished : package.stage ≠ .completed) :
    ∃ next ∈ graph, next.stage ≠ .completed ∧
      ∀ dependencyId ∈ next.dependencies, ¬ Unfinished graph dependencyId := by
  have blocks : ∀ node other,
      Unfinished graph node ∧ DependsOn graph.nodes other node →
        node ∈ graph.map WorkPackage.id := by
    rintro node other ⟨⟨blocking, inside, name, _⟩, _⟩
    exact List.mem_map.mpr ⟨blocking, inside, name⟩
  have acyclic : Graph.Acyclic fun node other =>
      Unfinished graph node ∧ DependsOn graph.nodes other node := by
    intro node cycle
    apply dag.acyclic node
    exact Relation.transGen_swap.mp
      (path_mono (fun _ _ edge => .single edge.2) cycle)
  obtain ⟨first, path, free⟩ := exists_terminal acyclic blocks package.id
  have waiting : Unfinished graph first := by
    rcases Relation.ReflTransGen.cases_head path with same | ⟨_, edge, _⟩
    · exact ⟨package, member, same.symm, unfinished⟩
    · exact edge.1
  obtain ⟨next, inside, name, stage⟩ := waiting
  refine ⟨next, inside, stage, ?_⟩
  intro dependencyId listed blocking
  apply free dependencyId
  refine ⟨blocking, next.dependencies, ?_, listed⟩
  rw [← name]
  exact List.mem_map_of_mem inside

end Ready

end PlanGraph

/-- In every state of the plan with an unfinished package and no package held back,
some package is ready, and only packages with completed dependencies are. -/
def NeverDeadlocks (packages : List WorkPackage) : Prop :=
  ∀ graph : PlanGraph, graph.nodes = PlanGraph.nodes packages →
    (∃ package ∈ graph, package.stage ≠ .completed) →
    (∀ package ∈ graph, package.stage ≠ .completed →
      package.status = "pending" ∧ package.runtime.operatorPaused = false) →
    ∃ ready, graph.readyPackages = .ok ready ∧ ready ≠ [] ∧
      ∀ package ∈ ready, package ∈ graph ∧ ∀ dependencyId ∈ package.dependencies,
        ∃ dependency ∈ graph, dependency.id = dependencyId ∧
          dependency.stage = .completed

theorem neverDeadlocks_of_dag {packages : List WorkPackage}
    (dag : Dag (PlanGraph.nodes packages)) : NeverDeadlocks packages := by
  rintro graph same ⟨package, member, unfinished⟩ free
  rw [← same] at dag
  have closed := closed_of_dag dag
  have unique : (graph.map WorkPackage.id).Nodup := by
    have names := dag.unique
    rwa [PlanGraph.nodes, List.map_map] at names
  obtain ⟨ready, read⟩ := PlanGraph.readyPackages_ok closed
  have first : ∀ other ∈ graph, graph.packageById other.id = .ok other := by
    intro other inside
    exact PlanGraph.packageById_eq_ok.mpr ((find?_key_eq_some unique).mpr ⟨inside, rfl⟩)
  refine ⟨ready, read, ?_, ?_⟩
  · obtain ⟨next, inside, stage, settled⟩ :=
      PlanGraph.exists_unfinished dag member unfinished
    have startable : next ∈ ready := by
      rw [PlanGraph.mem_readyPackages read]
      obtain ⟨pending, running⟩ := free next inside stage
      refine ⟨inside, pending, running, ?_, stage⟩
      rw [PlanGraph.dependencyReady_eq_true]
      refine ⟨next, first next inside, ?_⟩
      intro dependencyId listed
      obtain ⟨dependency, found⟩ :=
        PlanGraph.packageById_of_mem_ids (closed next inside listed)
      obtain ⟨present, name⟩ := PlanGraph.packageById_mem found
      refine ⟨dependency, found, ?_⟩
      by_contra waiting
      exact settled dependencyId listed ⟨dependency, present, name, waiting⟩
    exact List.ne_nil_of_mem startable
  · intro chosen listed
    obtain ⟨inside, _, _, dependencies, _⟩ :=
      (PlanGraph.mem_readyPackages read).mp listed
    refine ⟨inside, ?_⟩
    intro dependencyId needed
    obtain ⟨found, lookup, completed⟩ := PlanGraph.dependencyReady_eq_true.mp dependencies
    rw [first chosen inside, Except.ok.injEq] at lookup
    rw [← lookup] at completed
    obtain ⟨dependency, present, stage⟩ := completed dependencyId needed
    obtain ⟨member, name⟩ := PlanGraph.packageById_mem present
    exact ⟨dependency, member, name, stage⟩

/-! ## What is read of a plan -/

section Reading

variable (py : PlanInterpreter)

/-- The entry declares the package. -/
def Declares (entry : Json) (package : WorkPackage) : Prop :=
  ∃ raw, entry = .object raw ∧ readPackage py raw = .ok package

/-- Every entry of the plan is read, as the packages of the graph in their order. -/
def FullyRead (data : Row) (graph : PlanGraph) : Prop :=
  ∃ entries, packageEntries data = .array entries ∧
    List.Forall₂ (Declares py) entries graph

variable {py}

theorem readEntries_messages {index : Nat} {entries : List Json}
    {packages : List WorkPackage} {messages : List String}
    (read : readEntries py index entries = .ok (packages, messages)) :
    messages = [] ↔ List.Forall₂ (Declares py) entries packages := by
  induction entries generalizing index packages messages with
  | nil =>
      cases read
      simp
  | cons entry rest inductionHypothesis =>
      have unread : ∀ message,
          (do
            let others ← readEntries py (index + 1) rest
            .ok (others.1, message :: others.2)) =
              (.ok (packages, messages) : Reading (List WorkPackage × List String)) →
          (∀ package, ¬ Declares py entry package) →
          (messages = [] ↔ List.Forall₂ (Declares py) (entry :: rest) packages) := by
        intro message read unreadable
        obtain ⟨others, _, result⟩ := bind_eq_ok.mp read
        cases result
        constructor
        · intro empty
          cases empty
        · intro declared
          obtain ⟨package, _, first, _⟩ := List.forall₂_cons_left_iff.mp declared
          exact absurd first (unreadable package)
      have notObject : (∀ raw, entry ≠ .object raw) →
          ∀ package, ¬ Declares py entry package := by
        rintro other package ⟨raw, same, _⟩
        exact other raw same
      cases entry with
      | object raw =>
          rw [readEntries] at read
          cases parsed : readPackage py raw with
          | ok package =>
              rw [parsed] at read
              obtain ⟨others, readOthers, result⟩ := bind_eq_ok.mp read
              cases result
              rw [inductionHypothesis readOthers, List.forall₂_cons]
              exact ⟨fun declared => ⟨⟨raw, rfl, parsed⟩, declared⟩, And.right⟩
          | error failure =>
              rw [parsed] at read
              cases failure with
              | reported message =>
                  apply unread _ read
                  rintro package ⟨fields, same, accepted⟩
                  cases same
                  rw [parsed] at accepted
                  cases accepted
              | escaped => cases read
      | null => exact unread _ read (notObject (by simp))
      | bool value => exact unread _ read (notObject (by simp))
      | int value => exact unread _ read (notObject (by simp))
      | float text => exact unread _ read (notObject (by simp))
      | nonFinite literal => exact unread _ read (notObject (by simp))
      | string text => exact unread _ read (notObject (by simp))
      | array elements => exact unread _ read (notObject (by simp))

theorem hasErrors_withErrors (report : NormalizationReport) (messages : List String) :
    NormalizationReport.hasErrors { report with errors := messages ++ report.errors } =
      false ↔ messages = [] ∧ report.hasErrors = false := by
  simp [NormalizationReport.hasErrors, and_assoc]

/-- A mapping is accepted exactly when all of it is read and its packages are. -/
theorem planGraphFromMapping_accepts {data : Row} {graph : PlanGraph}
    {report : NormalizationReport}
    (read : planGraphFromMapping py data = .ok (graph, report)) :
    report.hasErrors = false ↔
      FullyRead py data graph ∧ (normalizeWorkPackages graph).2.hasErrors = false := by
  unfold planGraphFromMapping at read
  split at read
  · rename_i entries listed
    obtain ⟨⟨packages, messages⟩, readAll, result⟩ := bind_eq_ok.mp read
    cases result
    rw [hasErrors_withErrors, readEntries_messages readAll]
    constructor
    · rintro ⟨declared, clean⟩
      exact ⟨⟨entries, listed, declared⟩, clean⟩
    · rintro ⟨⟨others, same, declared⟩, clean⟩
      rw [listed, Json.array.injEq] at same
      rw [same]
      exact ⟨declared, clean⟩
  · rename_i other
    cases read
    constructor
    · intro accepted
      simp [NormalizationReport.hasErrors] at accepted
    · rintro ⟨⟨entries, listed, _⟩, _⟩
      exact absurd listed (other entries)

end Reading

/-! ## Accepted and rejected plans -/

/-- The list is accepted exactly when it is well formed, and then never deadlocks. -/
structure JudgedRightly (packages : List WorkPackage) : Prop where
  accepted : (normalizeWorkPackages packages).2.hasErrors = false ↔ WellFormed packages
  live : (normalizeWorkPackages packages).2.hasErrors = false → NeverDeadlocks packages

/-- The same of a mapping, all of which has to be read. -/
structure ReadRightly (py : PlanInterpreter) (data : Row) (graph : PlanGraph)
    (report : NormalizationReport) : Prop where
  accepted : report.hasErrors = false ↔ FullyRead py data graph ∧ WellFormed graph
  live : report.hasErrors = false → NeverDeadlocks graph

/-- A package without requirements has an identity that makes an error of that. -/
def Accused (packages : List WorkPackage) : Prop :=
  ∃ package ∈ packages, package.requirements = [] ∧ Misfiled package.id

theorem accepted_iff (packages : List WorkPackage) :
    (normalizeWorkPackages packages).2.hasErrors = false ↔
      WellFormed packages ∧ ¬ Accused packages := by
  rw [normalizeWorkPackages_accepts]
  simp only [Accused, not_exists, not_and]

/-- Lists and mappings are judged rightly, unless a well-formed plan has a package
without requirements whose identity contains a phrase of the findings. -/
theorem plans_judged_iff (packages : List WorkPackage) (py : PlanInterpreter) (data : Row) :
    (JudgedRightly packages ↔ ¬ (WellFormed packages ∧ Accused packages)) ∧
      ∀ graph report, planGraphFromMapping py data = .ok (graph, report) →
        (ReadRightly py data graph report ↔
          ¬ (FullyRead py data graph ∧ WellFormed graph ∧ Accused graph)) := by
  constructor
  · constructor
    · rintro judged ⟨wellFormed, accused⟩
      have clean := judged.accepted.mpr wellFormed
      exact ((accepted_iff packages).mp clean).2 accused
    · intro sound
      constructor
      · rw [accepted_iff]
        exact ⟨And.left, fun wellFormed =>
          ⟨wellFormed, fun accused => sound ⟨wellFormed, accused⟩⟩⟩
      · intro clean
        exact neverDeadlocks_of_dag ((accepted_iff packages).mp clean).1.dag
  · intro graph report read
    have accepts := planGraphFromMapping_accepts read
    rw [accepted_iff] at accepts
    constructor
    · rintro judged ⟨fully, wellFormed, accused⟩
      exact (accepts.mp (judged.accepted.mpr ⟨fully, wellFormed⟩)).2.2 accused
    · intro sound
      constructor
      · rw [accepts]
        exact ⟨fun clean => ⟨clean.1, clean.2.1⟩, fun right =>
          ⟨right.1, right.2, fun accused => sound ⟨right.1, right.2, accused⟩⟩⟩
      · intro clean
        exact neverDeadlocks_of_dag (accepts.mp clean).2.1.dag

/-- A plan with one package, which has a criterion and no requirements. -/
def accusedPlan : List WorkPackage :=
  [{ id := "acceptance criteria", title := "Criteria"
     acceptanceCriteria := [⟨"done", "Done", false, ""⟩] }]

/-- The plan is well formed, and the report counts it as a package without criteria. -/
theorem accusedPlan_rejected :
    ¬ ((normalizeWorkPackages accusedPlan).2.hasErrors = false ↔
      WellFormed accusedPlan) := by
  have wellFormed : WellFormed accusedPlan := by
    constructor
    · refine ⟨by decide, ?_, ?_⟩
      · rintro node other ⟨dependencies, listed, member⟩
        cases List.mem_singleton.mp listed
        cases member
      · intro node cycle
        obtain ⟨next, ⟨dependencies, listed, member⟩, _⟩ :=
          Relation.TransGen.head'_iff.mp cycle
        cases List.mem_singleton.mp listed
        cases member
    · intro package member
      rw [List.mem_singleton.mp member]
      exact List.cons_ne_nil _ _
  have accused : Accused accusedPlan :=
    ⟨_, List.mem_cons_self, rfl, Or.inr (Or.inl (List.infix_refl _))⟩
  intro judged
  exact ((accepted_iff accusedPlan).mp (judged.mpr wellFormed)).2 accused

end Execraft.Orchestrate
