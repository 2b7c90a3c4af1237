import Execraft.Foundation.Keyed
import Execraft.Foundation.Outcome
import Execraft.Orchestrate.Transitions

/-!
# Reading and changing the plan graph of a task execution

Lookup by identity, the readiness of a package and the ready queue, and the change of
one package in its place.
-/

namespace Execraft.Orchestrate

open Foundation

namespace PlanGraph

def packageById (graph : PlanGraph) (packageId : String) :
    Except OrchestrateError WorkPackage :=
  match graph.find? fun package => package.id = packageId with
  | some package => .ok package
  | none => .error ⟨"work package not found: " ++ packageId⟩

theorem packageById_eq_ok {graph : PlanGraph} {packageId : String} {package : WorkPackage} :
    graph.packageById packageId = .ok package ↔
      graph.find? (fun package => package.id = packageId) = some package := by
  unfold packageById
  cases found : graph.find? (fun package => package.id = packageId) with
  | none => simp
  | some other => simp

theorem packageById_mem {graph : PlanGraph} {packageId : String} {package : WorkPackage}
    (found : graph.packageById packageId = .ok package) :
    package ∈ graph ∧ package.id = packageId :=
  find?_key_some (packageById_eq_ok.mp found)

/-- Whether the listed dependencies are completed; the first one that is not decides. -/
def dependenciesCompleted (graph : PlanGraph) :
    List String → Except OrchestrateError Bool
  | [] => .ok true
  | dependencyId :: rest => do
      let dependency ← graph.packageById dependencyId
      if dependency.stage ≠ .completed then
        return false
      dependenciesCompleted graph rest

def dependencyReady (graph : PlanGraph) (packageId : String) :
    Except OrchestrateError Bool := do
  let package ← graph.packageById packageId
  graph.dependenciesCompleted package.dependencies

theorem dependenciesCompleted_eq_true {graph : PlanGraph} {dependencyIds : List String} :
    graph.dependenciesCompleted dependencyIds = .ok true ↔
      ∀ dependencyId ∈ dependencyIds, ∃ dependency,
        graph.packageById dependencyId = .ok dependency ∧ dependency.stage = .completed := by
  induction dependencyIds with
  | nil => simp [dependenciesCompleted]
  | cons head tail inductionHypothesis =>
      rw [dependenciesCompleted, bind_eq_ok, List.forall_mem_cons]
      constructor
      · rintro ⟨dependency, found, rest⟩
        by_cases finished : dependency.stage = .completed
        · rw [if_neg (not_not_intro finished)] at rest
          exact ⟨⟨dependency, found, finished⟩, inductionHypothesis.mp rest⟩
        · rw [if_pos finished] at rest
          cases rest
      · rintro ⟨⟨dependency, found, finished⟩, others⟩
        refine ⟨dependency, found, ?_⟩
        rw [if_neg (not_not_intro finished)]
        exact inductionHypothesis.mpr others

theorem dependencyReady_eq_true {graph : PlanGraph} {packageId : String} :
    graph.dependencyReady packageId = .ok true ↔
      ∃ package, graph.packageById packageId = .ok package ∧
        ∀ dependencyId ∈ package.dependencies, ∃ dependency,
          graph.packageById dependencyId = .ok dependency ∧
            dependency.stage = .completed := by
  unfold dependencyReady
  rw [bind_eq_ok]
  constructor
  · rintro ⟨package, found, ready⟩
    exact ⟨package, found, dependenciesCompleted_eq_true.mp ready⟩
  · rintro ⟨package, found, ready⟩
    exact ⟨package, found, dependenciesCompleted_eq_true.mpr ready⟩

/-! ## The ready queue -/

/-- Whether the scheduler may take the package; its dependencies are read last. -/
def selectable (graph : PlanGraph) (package : WorkPackage) :
    Except OrchestrateError Bool :=
  if package.status = "pending" ∧ package.runtime.operatorPaused = false then do
    let ready ← graph.dependencyReady package.id
    return ready && decide (package.stage ≠ .completed)
  else
    .ok false

def selectReady (graph : PlanGraph) : List WorkPackage →
    Except OrchestrateError (List WorkPackage)
  | [] => .ok []
  | package :: rest => do
      let chosen ← graph.selectable package
      let others ← selectReady graph rest
      return if chosen then package :: others else others

/-- Repository synchronization first, then higher priority, then the identity. -/
def ReadyBefore (first second : WorkPackage) : Prop :=
  if first.kind ≠ second.kind then
    first.kind = .repositorySync
  else if first.priority ≠ second.priority then
    second.priority < first.priority
  else
    first.id ≤ second.id

instance : DecidableRel ReadyBefore := fun first second => by
  unfold ReadyBefore
  infer_instance

def readyPackages (graph : PlanGraph) : Except OrchestrateError (List WorkPackage) := do
  let ready ← graph.selectReady graph
  return ready.insertionSort ReadyBefore

theorem selectable_eq_true {graph : PlanGraph} {package : WorkPackage} :
    graph.selectable package = .ok true ↔
      package.status = "pending" ∧ package.runtime.operatorPaused = false ∧
        graph.dependencyReady package.id = .ok true ∧ package.stage ≠ .completed := by
  unfold selectable
  by_cases free : package.status = "pending" ∧ package.runtime.operatorPaused = false
  · rw [if_pos free, bind_eq_ok]
    constructor
    · rintro ⟨ready, read, chosen⟩
      have both : (ready && decide (package.stage ≠ .completed)) = true :=
        Except.ok.inj chosen
      rw [Bool.and_eq_true, decide_eq_true_eq] at both
      rw [both.1] at read
      exact ⟨free.1, free.2, read, both.2⟩
    · rintro ⟨_, _, read, unfinished⟩
      exact ⟨true, read, by simp [unfinished, pure, Except.pure]⟩
  · rw [if_neg free]
    constructor
    · intro chosen
      cases chosen
    · rintro ⟨pending, running, _, _⟩
      exact absurd ⟨pending, running⟩ free

theorem mem_selectReady {graph : PlanGraph} {candidates ready : List WorkPackage}
    (selected : graph.selectReady candidates = .ok ready) {package : WorkPackage} :
    package ∈ ready ↔ package ∈ candidates ∧ graph.selectable package = .ok true := by
  induction candidates generalizing ready with
  | nil =>
      cases selected
      simp
  | cons head tail inductionHypothesis =>
      rw [selectReady, bind_eq_ok] at selected
      obtain ⟨chosen, decided, rest⟩ := selected
      rw [bind_eq_ok] at rest
      obtain ⟨others, selectedOthers, result⟩ := rest
      have tailMembers := inductionHypothesis selectedOthers
      have shape : (if chosen then head :: others else others) = ready :=
        Except.ok.inj result
      rw [← shape, List.mem_cons]
      cases chosen with
      | true =>
          rw [if_pos rfl, List.mem_cons, tailMembers]
          constructor
          · rintro (rfl | member)
            · exact ⟨Or.inl rfl, decided⟩
            · exact ⟨Or.inr member.1, member.2⟩
          · rintro ⟨rfl | member, free⟩
            · exact Or.inl rfl
            · exact Or.inr ⟨member, free⟩
      | false =>
          rw [if_neg Bool.false_ne_true, tailMembers]
          constructor
          · rintro ⟨member, free⟩
            exact ⟨Or.inr member, free⟩
          · rintro ⟨rfl | member, free⟩
            · rw [decided] at free
              cases free
            · exact ⟨member, free⟩

theorem mem_readyPackages {graph : PlanGraph} {ready : List WorkPackage}
    (read : graph.readyPackages = .ok ready) {package : WorkPackage} :
    package ∈ ready ↔ package ∈ graph ∧ package.status = "pending" ∧
      package.runtime.operatorPaused = false ∧
        graph.dependencyReady package.id = .ok true ∧ package.stage ≠ .completed := by
  unfold readyPackages at read
  rw [bind_eq_ok] at read
  obtain ⟨selected, chosen, sorted⟩ := read
  rw [← Except.ok.inj sorted, List.mem_insertionSort, mem_selectReady chosen,
    selectable_eq_true]

/-! ## Changing one package -/

/-- The graph with the first package of this identity changed. -/
def modify (packageId : String) (change : WorkPackage → WorkPackage) :
    PlanGraph → PlanGraph
  | [] => []
  | package :: rest =>
      if package.id = packageId then
        change package :: rest
      else
        package :: modify packageId change rest

/-- The graph with a package put in the place of the one with its identity. -/
def put (package : WorkPackage) (graph : PlanGraph) : PlanGraph :=
  modify package.id (fun _ => package) graph

theorem ids_modify {packageId : String} {change : WorkPackage → WorkPackage}
    (kept : ∀ package : WorkPackage, package.id = packageId →
      (change package).id = packageId) (graph : PlanGraph) :
    (modify packageId change graph).map WorkPackage.id = graph.map WorkPackage.id := by
  induction graph with
  | nil => rfl
  | cons head tail inductionHypothesis =>
      rw [modify]
      by_cases same : head.id = packageId
      · rw [if_pos same, List.map_cons, List.map_cons, kept head same, same]
      · rw [if_neg same, List.map_cons, List.map_cons, inductionHypothesis]

/-- What a change keeps of every package, it keeps of the graph. -/
theorem map_modify {Image : Type} (image : WorkPackage → Image) {packageId : String}
    (change : WorkPackage → WorkPackage)
    (kept : ∀ package : WorkPackage, image (change package) = image package)
    (graph : PlanGraph) : (modify packageId change graph).map image = graph.map image := by
  induction graph with
  | nil => rfl
  | cons package rest inductionHypothesis =>
      unfold modify
      by_cases same : package.id = packageId
      · rw [if_pos same, List.map_cons, List.map_cons, kept]
      · rw [if_neg same, List.map_cons, List.map_cons, inductionHypothesis]

/-- A package of the changed graph is an old one or the changed one. -/
theorem mem_modify {packageId : String} {change : WorkPackage → WorkPackage}
    {graph : PlanGraph} {package : WorkPackage}
    (member : package ∈ modify packageId change graph) :
    package ∈ graph ∨ ∃ before, graph.packageById packageId = .ok before ∧
      package = change before := by
  induction graph with
  | nil => cases member
  | cons head tail inductionHypothesis =>
      rw [modify] at member
      by_cases same : head.id = packageId
      · rw [if_pos same, List.mem_cons] at member
        rcases member with rfl | member
        · refine Or.inr ⟨head, ?_, rfl⟩
          rw [packageById_eq_ok, List.find?_cons, decide_eq_true same]
        · exact Or.inl (List.mem_cons_of_mem _ member)
      · rw [if_neg same, List.mem_cons] at member
        rcases member with rfl | member
        · exact Or.inl List.mem_cons_self
        · rcases inductionHypothesis member with old | ⟨before, found, shape⟩
          · exact Or.inl (List.mem_cons_of_mem _ old)
          · refine Or.inr ⟨before, ?_, shape⟩
            rw [packageById_eq_ok] at found ⊢
            rw [List.find?_cons, decide_eq_false same]
            exact found

theorem packageById_modify_self {packageId : String} {change : WorkPackage → WorkPackage}
    (kept : ∀ package : WorkPackage, package.id = packageId →
      (change package).id = packageId) {graph : PlanGraph} {package : WorkPackage}
    (found : graph.packageById packageId = .ok package) :
    (modify packageId change graph).packageById packageId = .ok (change package) := by
  rw [packageById_eq_ok] at found ⊢
  induction graph with
  | nil => cases found
  | cons head tail inductionHypothesis =>
      rw [modify]
      by_cases same : head.id = packageId
      · rw [List.find?_cons, decide_eq_true same] at found
        have unchanged : head = package := Option.some.inj found
        rw [if_pos same, List.find?_cons, decide_eq_true (kept head same), unchanged]
      · rw [List.find?_cons, decide_eq_false same] at found
        rw [if_neg same, List.find?_cons, decide_eq_false same]
        exact inductionHypothesis found

theorem packageById_modify_ne {packageId otherId : String}
    {change : WorkPackage → WorkPackage}
    (kept : ∀ package : WorkPackage, package.id = packageId →
      (change package).id = packageId) (different : otherId ≠ packageId)
    (graph : PlanGraph) :
    (modify packageId change graph).packageById otherId = graph.packageById otherId := by
  have lookup : (modify packageId change graph).find? (fun package => package.id = otherId) =
      graph.find? (fun package => package.id = otherId) := by
    induction graph with
    | nil => rfl
    | cons head tail inductionHypothesis =>
        rw [modify]
        by_cases same : head.id = packageId
        · have changed : (change head).id ≠ otherId := by
            rw [kept head same]
            exact different.symm
          have unchanged : head.id ≠ otherId := by
            rw [same]
            exact different.symm
          rw [if_pos same, List.find?_cons, decide_eq_false changed, List.find?_cons,
            decide_eq_false unchanged]
        · rw [if_neg same, List.find?_cons, List.find?_cons, inductionHypothesis]
  unfold packageById
  rw [lookup]

theorem modify_modify {packageId : String} {first second : WorkPackage → WorkPackage}
    (kept : ∀ package, (first package).id = package.id) (graph : PlanGraph) :
    modify packageId second (modify packageId first graph) =
      modify packageId (fun package => second (first package)) graph := by
  induction graph with
  | nil => rfl
  | cons head tail inductionHypothesis =>
      rw [modify, modify]
      by_cases same : head.id = packageId
      · rw [if_pos same, if_pos same, modify, if_pos (by rw [kept, same])]
      · rw [if_neg same, if_neg same, modify, if_neg same, inductionHypothesis]

theorem modify_comm {packageId otherId : String} {first second : WorkPackage → WorkPackage}
    (different : packageId ≠ otherId)
    (firstKept : ∀ package, (first package).id = package.id)
    (secondKept : ∀ package, (second package).id = package.id) (graph : PlanGraph) :
    modify otherId second (modify packageId first graph) =
      modify packageId first (modify otherId second graph) := by
  induction graph with
  | nil => rfl
  | cons head tail inductionHypothesis =>
      by_cases one : head.id = packageId
      · have two : head.id ≠ otherId := fun other => different (one.symm.trans other)
        have changed : (first head).id ≠ otherId := by
          rw [firstKept]
          exact two
        simp [modify, one, changed, different]
      · by_cases two : head.id = otherId
        · have changed : (second head).id ≠ packageId := by
            rw [secondKept]
            exact one
          simp [modify, two, different.symm, changed]
        · simp [modify, one, two, inductionHypothesis]

/-! ## Dependencies inside of the graph -/

/-- Every dependency names a package of the graph. -/
def Closed (graph : PlanGraph) : Prop :=
  ∀ package ∈ graph, package.dependencies ⊆ graph.map WorkPackage.id

theorem packageById_of_mem_ids {graph : PlanGraph} {packageId : String}
    (named : packageId ∈ graph.map WorkPackage.id) :
    ∃ package, graph.packageById packageId = .ok package := by
  obtain ⟨package, member, name⟩ := List.mem_map.mp named
  have present : (graph.find? fun package => package.id = packageId).isSome = true :=
    List.find?_isSome.mpr ⟨package, member, decide_eq_true name⟩
  obtain ⟨first, found⟩ := Option.isSome_iff_exists.mp present
  exact ⟨first, packageById_eq_ok.mpr found⟩

end PlanGraph

end Execraft.Orchestrate
