import Execraft.RepositorySync.DeclarativePlans

/-!
# What the insertions keep

Each of the three rewrites of a declarative plan is a declarative plan again, in
which every order between the old packages still holds.
-/

namespace Execraft.RepositorySync

open Foundation Foundation.Json Foundation.Graph

variable {py : Python} {raw : Row} {packages : List Row} {request : SyncRequest}

/-! ## Outcomes -/

/-- A request that is not refused on its own account. -/
structure SyncRequest.Acceptable (py : Python) (existing : List String)
    (targetId : String) (request : SyncRequest) : Prop where
  selected : ∃ chosen, selection request = .ok chosen ∧
    ∃ spec, RepositorySyncSpec.fromMapping py
      (syncSpecMapping chosen.1 chosen.2 request) = .ok spec
  named : ∃ id, nextSyncPackageId existing targetId request.syncPackageId = .ok id

/-- The rewritten graph is a plan with one more package, in which the old orders
hold. -/
structure Inserted (py : Python) (packages : List Row)
    (insertion : RepositorySyncInsertion) (later : List Row) : Prop where
  plan : DeclarativePlan py insertion.graph later
  ids : (later.map (packageId py)).Perm
    (insertion.syncPackageId :: packages.map (packageId py))
  orders : ∀ first second, Precedes py packages first second →
    Precedes py later first second

structure InsertedBefore (py : Python) (packages : List Row) (targetId : String)
    (insertion : RepositorySyncInsertion) (later : List Row) : Prop
    extends Inserted py packages insertion later where
  former : ∀ other, DependsOn (nodes py packages) targetId other →
    Precedes py later other insertion.syncPackageId
  target : ∀ other, DependsOn (nodes py later) targetId other ↔
    other = insertion.syncPackageId
  noOthers : ∀ first ∈ packages.map (packageId py),
    ∀ second ∈ packages.map (packageId py),
      Precedes py later first second → Precedes py packages first second

structure InsertedAfter (py : Python) (packages : List Row) (targetId : String)
    (completed : List String) (insertion : RepositorySyncInsertion)
    (later : List Row) : Prop extends Inserted py packages insertion later where
  behind : DependsOn (nodes py later) insertion.syncPackageId targetId
  unchanged : ∀ package ∈ packages, packageId py package ∈ completed → package ∈ later
  dependents : ∀ id ∉ completed, DependsOn (nodes py packages) id targetId →
    DependsOn (nodes py later) id insertion.syncPackageId ∧
      ¬ DependsOn (nodes py later) id targetId

structure InsertedLast (py : Python) (packages : List Row)
    (insertion : RepositorySyncInsertion) (later : List Row) : Prop
    extends Inserted py packages insertion later where
  ancestors : ∀ id ∈ packages.map (packageId py),
    Precedes py later id insertion.syncPackageId

/-! ## Rewritten graphs -/

/-- A rewritten graph is a plan when its packages and their order are. -/
theorem declarativePlan_withPackages {later : List Row}
    (declarative : ∀ package ∈ later, DeclarativePackage package)
    (nonempty : ∀ package ∈ later, packageId py package ≠ "")
    (dag : Dag (nodes py later)) :
    DeclarativePlan py (withPackages raw later) later where
  listed := ProjectExecution.Row.get_set_self _ _ _ _
  declarative := declarative
  nonempty := nonempty
  dag := dag

theorem precedes_perm {later : List Row} {graph : List (String × List String)}
    (same : (nodes py later).Perm graph) {first second : String} :
    Precedes py later first second ↔
      Relation.TransGen (DependsOn graph) second first := by
  rw [Precedes, dependsOn_perm same]

theorem nonempty_of_ids (plan : DeclarativePlan py raw packages) {later : List Row}
    {id : String} (nonempty : id ≠ "")
    (ids : (later.map (packageId py)).Perm (id :: packages.map (packageId py))) :
    ∀ package ∈ later, packageId py package ≠ "" := by
  intro package member
  have known := ids.mem_iff.mp (List.mem_map_of_mem member)
  rcases List.mem_cons.mp known with isNew | isOld
  · rw [isNew]
    exact nonempty
  · obtain ⟨other, listed, same⟩ := List.mem_map.mp isOld
    rw [← same]
    exact plan.nonempty other listed

/-! ## Before a package -/

section Before

theorem insertIdx_length (front back : List Row) (target sync rewired : Row) :
    ((front ++ target :: back).set front.length rewired).insertIdx front.length sync =
      front ++ sync :: rewired :: back := by
  induction front with
  | nil => rfl
  | cons head tail inductionHypothesis =>
      rw [List.cons_append, List.length_cons, List.set_cons_succ,
        List.insertIdx_succ_cons, inductionHypothesis, List.cons_append]

variable {beforeId : String} {insertion : RepositorySyncInsertion}

/-- The packages of the rewritten graph. -/
theorem buildSyncBefore_shape (plan : DeclarativePlan py raw packages)
    (built : buildSyncBefore py raw beforeId request = .ok insertion) :
    ∃ front target back sync, packages = front ++ target :: back ∧
      packageId py target = stripString beforeId ∧
      insertion.syncPackageId ∉ packages.map (packageId py) ∧
      insertion.syncPackageId ≠ "" ∧
      node py sync = (insertion.syncPackageId, dependencies py target) ∧
      DeclarativePackage sync ∧
      insertion.graph = withPackages (canonicalizeLegacyPlanGraph py raw).1
        (front ++ sync :: withDependencies target [insertion.syncPackageId] :: back) := by
  unfold buildSyncBefore at built
  obtain ⟨named, rest⟩ := unit_bind_eq_ok.mp built
  obtain ⟨⟨selected, branches⟩, chosen, rest⟩ := bind_eq_ok.mp rest
  obtain ⟨found, located, rest⟩ := bind_eq_ok.mp rest
  obtain ⟨front, target, back, shape, same, identity⟩ := locate_plan plan located
  rw [same] at rest
  dsimp only at rest
  have member : target ∈ packages := by
    rw [shape]
    exact List.mem_append_right _ List.mem_cons_self
  have stored : packages.getD front.length [] = target := by
    rw [shape, List.getD_eq_getElem?_getD, List.getElem?_append_right (Nat.le_refl _),
      Nat.sub_self]
    rfl
  rw [existingIds_plan plan, stored, trimmedDependencies_plan plan member] at rest
  obtain ⟨id, fresh, rest⟩ := bind_eq_ok.mp rest
  rw [ok_bind] at rest
  obtain ⟨sync, mapped, done⟩ := bind_eq_ok.mp rest
  obtain ⟨spec, _, isSync⟩ := syncPackageMapping_eq_ok.mp mapped
  rw [rejectIf_eq_ok] at named
  obtain ⟨new, stripped, nonempty⟩ :=
    nextSyncPackageId_ok (stripString_stripString beforeId) named fresh
  cases done
  refine ⟨front, target, back, sync, shape, identity, new, nonempty, ?_, ?_, ?_⟩
  · rw [isSync]
    exact node_syncPackage stripped
  · rw [isSync]
    exact declarativePackage_syncPackage
  · dsimp only
    rw [shape, insertIdx_length]
    rfl

/-- The rewritten graph has the dependencies of the insertion. -/
theorem insertedBefore (plan : DeclarativePlan py raw packages)
    (built : buildSyncBefore py raw beforeId request = .ok insertion) :
    ∃ later, InsertedBefore py packages (stripString beforeId) insertion later := by
  obtain ⟨front, target, back, sync, shape, identity, new, nonempty, syncNode,
    syncDeclared, graph⟩ := buildSyncBefore_shape plan built
  have member : target ∈ packages := by
    rw [shape]
    exact List.mem_append_right _ List.mem_cons_self
  have others : ∀ package ∈ front ++ back, package ∈ packages := by
    intro package inOthers
    rw [shape]
    rcases List.mem_append.mp inOthers with inFront | inBack
    · exact List.mem_append_left _ inFront
    · exact List.mem_append_right _ (List.mem_cons_of_mem _ inBack)
  have old : (nodes py packages).Perm
      ((stripString beforeId, dependencies py target) :: nodes py (front ++ back)) := by
    have split := (@List.perm_middle _ target front back).map (node py)
    rw [← shape, List.map_cons, node, identity] at split
    exact split
  have rewired : (nodes py (front ++ sync ::
      withDependencies target [insertion.syncPackageId] :: back)).Perm
        (insertBefore (stripString beforeId) insertion.syncPackageId
          (dependencies py target) (nodes py (front ++ back))) := by
    have split := ((@List.perm_middle _ sync front
      (withDependencies target [insertion.syncPackageId] :: back)).trans
        (List.perm_middle.cons sync)).map (node py)
    rw [List.map_cons, List.map_cons, syncNode, node_withDependencies, identity] at split
    exact split
  have dag := plan.dag.perm old
  have isFresh : insertion.syncPackageId ∉
      ((stripString beforeId, dependencies py target) ::
        nodes py (front ++ back)).map Prod.fst := by
    intro known
    rw [← (old.map Prod.fst).mem_iff, map_fst_nodes] at known
    exact new known
  have paths : ∀ {first second : String}, Precedes py packages first second ↔
      Relation.TransGen (DependsOn ((stripString beforeId, dependencies py target) ::
        nodes py (front ++ back))) second first := precedes_perm old
  have laterPaths : ∀ {first second : String}, Precedes py (front ++ sync ::
      withDependencies target [insertion.syncPackageId] :: back) first second ↔
        Relation.TransGen (DependsOn (insertBefore (stripString beforeId)
          insertion.syncPackageId (dependencies py target) (nodes py (front ++ back))))
            second first := precedes_perm rewired
  have ne : ∀ id ∈ packages.map (packageId py), id ≠ insertion.syncPackageId := by
    intro id inPackages same
    rw [same] at inPackages
    exact new inPackages
  have inOld : ∀ {first second : String}, Precedes py packages first second →
      first ∈ packages.map (packageId py) ∧ second ∈ packages.map (packageId py) := by
    intro first second path
    have ends := plan.dag.path_mem path
    rw [map_fst_nodes] at ends
    exact ⟨ends.2, ends.1⟩
  have ids : ((front ++ sync :: withDependencies target [insertion.syncPackageId] ::
      back).map (packageId py)).Perm
        (insertion.syncPackageId :: packages.map (packageId py)) := by
    rw [← map_fst_nodes, ← map_fst_nodes]
    exact (rewired.map Prod.fst).trans ((old.map Prod.fst).symm.cons _)
  have laterDag := dag_insertBefore dag isFresh
  refine ⟨front ++ sync :: withDependencies target [insertion.syncPackageId] :: back,
    ⟨?_, ids, ?_⟩, ?_, ?_, ?_⟩
  · rw [graph]
    refine declarativePlan_withPackages ?_ (nonempty_of_ids plan nonempty ids)
      (laterDag.perm rewired.symm)
    intro package inLater
    rcases List.mem_append.mp inLater with inFront | inLater
    · exact plan.declarative package (others package (List.mem_append_left _ inFront))
    · rcases List.mem_cons.mp inLater with isSync | inLater
      · rw [isSync]
        exact syncDeclared
      · rcases List.mem_cons.mp inLater with isTarget | inBack
        · rw [isTarget]
          exact (plan.declarative target member).withDependencies
        · exact plan.declarative package
            (others package (List.mem_append_right _ inBack))
  · intro first second path
    obtain ⟨firstOld, secondOld⟩ := inOld path
    exact laterPaths.mpr ((path_insertBefore dag isFresh (ne second secondOld)
      (ne first firstOld)).mpr (paths.mp path))
  · intro other edge
    rw [dependsOn_perm old, dag.dependsOn_iff List.mem_cons_self] at edge
    exact laterPaths.mpr (.single (dependsOn_insertBefore.mpr (Or.inl ⟨rfl, edge⟩)))
  · intro other
    have listed : (stripString beforeId, [insertion.syncPackageId]) ∈
        insertBefore (stripString beforeId) insertion.syncPackageId
          (dependencies py target) (nodes py (front ++ back)) :=
      List.mem_cons_of_mem _ List.mem_cons_self
    rw [dependsOn_perm rewired, laterDag.dependsOn_iff listed, List.mem_singleton]
  · intro first firstOld second secondOld path
    exact paths.mpr ((path_insertBefore dag isFresh (ne second secondOld)
      (ne first firstOld)).mp (laterPaths.mp path))

/-- The rewrite raises only when the target is missing or the request is refused. -/
theorem buildSyncBefore_accepts (plan : DeclarativePlan py raw packages) :
    (∃ insertion, buildSyncBefore py raw beforeId request = .ok insertion) ↔
      stripString beforeId ∈ packages.map (packageId py) ∧
        request.Acceptable py (packages.map (packageId py)) (stripString beforeId) := by
  constructor
  · rintro ⟨insertion, built⟩
    unfold buildSyncBefore at built
    obtain ⟨_, rest⟩ := unit_bind_eq_ok.mp built
    obtain ⟨⟨selected, branches⟩, chosen, rest⟩ := bind_eq_ok.mp rest
    obtain ⟨found, located, rest⟩ := bind_eq_ok.mp rest
    obtain ⟨front, target, back, shape, same, identity⟩ := locate_plan plan located
    rw [same] at rest
    dsimp only at rest
    rw [existingIds_plan plan] at rest
    obtain ⟨id, fresh, rest⟩ := bind_eq_ok.mp rest
    obtain ⟨edges, _, rest⟩ := bind_eq_ok.mp rest
    obtain ⟨sync, mapped, _⟩ := bind_eq_ok.mp rest
    obtain ⟨spec, valid, _⟩ := syncPackageMapping_eq_ok.mp mapped
    refine ⟨?_, ⟨(selected, branches), chosen, spec, valid⟩, id, fresh⟩
    rw [← identity, shape]
    exact List.mem_map_of_mem (List.mem_append_right _ List.mem_cons_self)
  · rintro ⟨member, ⟨⟨selected, branches⟩, chosen, spec, valid⟩, id, fresh⟩
    obtain ⟨found, located⟩ := locate_of_mem plan member
    obtain ⟨front, target, back, shape, same, identity⟩ := locate_plan plan located
    obtain ⟨package, listed, named⟩ := List.mem_map.mp member
    have nonempty : stripString beforeId ≠ "" := by
      rw [← named]
      exact plan.nonempty package listed
    have inPackages : packages.getD front.length [] ∈ packages := by
      rw [shape, List.getD_eq_getElem?_getD,
        List.getElem?_append_right (Nat.le_refl _), Nat.sub_self]
      exact List.mem_append_right _ List.mem_cons_self
    have checked : rejectIf (stripString beforeId = "")
        "--before package ID cannot be empty" = .ok () := rejectIf_eq_ok.mpr nonempty
    unfold buildSyncBefore
    dsimp only
    rw [checked, ok_bind, chosen, ok_bind]
    dsimp only
    rw [located, ok_bind, same]
    dsimp only
    rw [existingIds_plan plan, fresh, ok_bind, trimmedDependencies_plan plan inPackages,
      ok_bind, syncPackageMapping_eq_ok.mpr ⟨spec, valid, rfl⟩, ok_bind]
    exact ⟨_, rfl⟩

end Before

/-! ## After a package -/

section After

variable {targetId id : String} {completed : List String} {insertion : RepositorySyncInsertion}

/-- What one incomplete dependent becomes. -/
def rewired (py : Python) (targetId id : String) (completed : List String)
    (package : Row) : Row :=
  if targetId ∈ dependencies py package ∧ packageId py package ∉ completed then
    withDependencies package ((dependencies py package).map fun other =>
      if other = targetId then id else other)
  else package

theorem rewire_plan (plan : DeclarativePlan py raw packages) {package : Row}
    (member : package ∈ packages) :
    rewire py targetId id completed package =
      .ok (rewired py targetId id completed package) := by
  unfold rewire
  rw [trimmedDependencies_plan plan member, ok_bind]
  by_cases dependent : targetId ∈ dependencies py package
  · rw [if_neg (not_not.mpr dependent)]
    by_cases done : packageId py package ∈ completed
    · rw [if_pos done, rewired, if_neg fun both => both.2 done]
    · rw [if_neg done, rewired, if_pos ⟨dependent, done⟩, withDependencies,
        List.map_map]
      rfl
  · rw [if_pos dependent, rewired, if_neg fun both => dependent both.1]

theorem node_rewired (package : Row) :
    node py (rewired py targetId id completed package) =
      redirect targetId id (fun name => decide (name ∉ completed)) (node py package) := by
  unfold rewired redirect
  by_cases dependent : targetId ∈ dependencies py package ∧
      packageId py package ∉ completed
  · rw [if_pos dependent, if_pos ⟨dependent.1, decide_eq_true dependent.2⟩,
      node_withDependencies]
    rfl
  · rw [if_neg dependent, if_neg]
    intro both
    exact dependent ⟨both.1, of_decide_eq_true both.2⟩

theorem declarativePackage_rewired {package : Row}
    (declarative : DeclarativePackage package) :
    DeclarativePackage (rewired py targetId id completed package) := by
  unfold rewired
  split_ifs
  · exact declarative.withDependencies
  · exact declarative

/-- The target does not wait for itself, so the rewrite leaves it alone. -/
theorem rewired_target (plan : DeclarativePlan py raw packages) {package : Row}
    (member : package ∈ packages) (identity : packageId py package = targetId) :
    rewired py targetId id completed package = package := by
  apply if_neg
  intro both
  have edge : DependsOn (nodes py packages) targetId targetId := by
    refine ⟨dependencies py package, ?_, both.1⟩
    rw [← identity]
    exact List.mem_map_of_mem member
  exact plan.dag.acyclic targetId (.single edge)

/-- The loop over the packages rewires each of them. -/
theorem mapM_rewire (plan : DeclarativePlan py raw packages) {front back : List Row}
    {target : Row} (shape : packages = front ++ target :: back)
    (identity : packageId py target = targetId) :
    packages.zipIdx.mapM (fun item =>
      if item.2 = front.length then .ok item.1
      else rewire py targetId id completed item.1) =
        .ok (packages.map (rewired py targetId id completed)) := by
  have each : ∀ item ∈ packages.zipIdx,
      (if item.2 = front.length then Except.ok item.1
        else rewire py targetId id completed item.1) =
          .ok (rewired py targetId id completed item.1) := by
    intro item member
    obtain ⟨package, index⟩ := item
    have stored := List.mk_mem_zipIdx_iff_getElem?.mp member
    have listed : package ∈ packages := List.mem_of_getElem? stored
    by_cases isTarget : index = front.length
    · have same : package = target := by
        rw [isTarget, shape, List.getElem?_append_right (Nat.le_refl _),
          Nat.sub_self] at stored
        exact (Option.some.inj stored).symm
      rw [if_pos isTarget, rewired_target plan listed (same ▸ identity)]
    · rw [if_neg isTarget, rewire_plan plan listed]
  rw [mapM_ok each]
  have composed := congrArg (List.map (rewired py targetId id completed))
    (List.zipIdx_map_fst 0 packages)
  rw [List.map_map] at composed
  exact congrArg Except.ok composed

theorem buildSyncAfter_shape (plan : DeclarativePlan py raw packages)
    {afterId : String} {given : Option (List String)}
    (built : buildSyncAfter py raw afterId request given = .ok insertion) :
    ∃ index sync, index ≤ packages.length ∧
      stripString afterId ∈ packages.map (packageId py) ∧
      insertion.syncPackageId ∉ packages.map (packageId py) ∧
      insertion.syncPackageId ≠ "" ∧
      node py sync = (insertion.syncPackageId, [stripString afterId]) ∧
      DeclarativePackage sync ∧
      insertion.graph = withPackages (canonicalizeLegacyPlanGraph py raw).1
        ((packages.map (rewired py (stripString afterId) insertion.syncPackageId
          (completedIds given (canonicalizeLegacyPlanGraph py raw).2))).insertIdx index
            sync) := by
  unfold buildSyncAfter at built
  obtain ⟨named, rest⟩ := unit_bind_eq_ok.mp built
  obtain ⟨⟨selected, branches⟩, chosen, rest⟩ := bind_eq_ok.mp rest
  obtain ⟨found, located, rest⟩ := bind_eq_ok.mp rest
  obtain ⟨front, target, back, shape, same, identity⟩ := locate_plan plan located
  rw [same] at rest
  dsimp only at rest
  rw [existingIds_plan plan] at rest
  obtain ⟨id, fresh, rest⟩ := bind_eq_ok.mp rest
  obtain ⟨sync, mapped, rest⟩ := bind_eq_ok.mp rest
  obtain ⟨spec, _, isSync⟩ := syncPackageMapping_eq_ok.mp mapped
  rw [mapM_rewire plan shape identity, ok_bind] at rest
  rw [rejectIf_eq_ok] at named
  obtain ⟨new, stripped, nonempty⟩ :=
    nextSyncPackageId_ok (stripString_stripString afterId) named fresh
  cases rest
  refine ⟨front.length + 1, sync, ?_, ?_, new, nonempty, ?_, ?_, rfl⟩
  · rw [shape, List.length_append, List.length_cons]
    omega
  · rw [← identity, shape]
    exact List.mem_map_of_mem (List.mem_append_right _ List.mem_cons_self)
  · rw [isSync]
    exact node_syncPackage stripped
  · rw [isSync]
    exact declarativePackage_syncPackage

theorem insertedAfter (plan : DeclarativePlan py raw packages)
    {afterId : String} {given : Option (List String)}
    (built : buildSyncAfter py raw afterId request given = .ok insertion) :
    ∃ later, InsertedAfter py packages (stripString afterId)
      (completedIds given (canonicalizeLegacyPlanGraph py raw).2) insertion later := by
  obtain ⟨index, sync, bound, known, new, nonempty, syncNode, syncDeclared, graph⟩ :=
    buildSyncAfter_shape plan built
  generalize completedIds given (canonicalizeLegacyPlanGraph py raw).2 = completed at *
  generalize stripString afterId = targetId at *
  have inside : index ≤ (packages.map
      (rewired py targetId insertion.syncPackageId completed)).length := by
    rw [List.length_map]
    exact bound
  have shuffled := List.perm_insertIdx sync
    (packages.map (rewired py targetId insertion.syncPackageId completed)) inside
  have graphNodes : (nodes py ((packages.map
      (rewired py targetId insertion.syncPackageId completed)).insertIdx index sync)).Perm
        (insertAfter targetId insertion.syncPackageId
          (fun name => decide (name ∉ completed)) (nodes py packages)) := by
    have mapped := shuffled.map (node py)
    rw [List.map_cons, List.map_map, syncNode] at mapped
    have each : packages.map (node py ∘ rewired py targetId insertion.syncPackageId
        completed) = (nodes py packages).map (redirect targetId insertion.syncPackageId
          fun name => decide (name ∉ completed)) := by
      rw [nodes, List.map_map]
      exact List.map_congr_left fun package _ => node_rewired package
    rw [each] at mapped
    exact mapped
  have ids : (((packages.map
      (rewired py targetId insertion.syncPackageId completed)).insertIdx index sync).map
        (packageId py)).Perm
          (insertion.syncPackageId :: packages.map (packageId py)) := by
    have names := graphNodes.map Prod.fst
    rwa [map_fst_nodes, insertAfter, List.map_cons, map_redirect_fst, map_fst_nodes]
      at names
  have isFresh : insertion.syncPackageId ∉ (nodes py packages).map Prod.fst := by
    rw [map_fst_nodes]
    exact new
  have isKnown : targetId ∈ (nodes py packages).map Prod.fst := by
    rw [map_fst_nodes]
    exact known
  have laterDag : Dag (insertAfter targetId insertion.syncPackageId
      (fun name => decide (name ∉ completed)) (nodes py packages)) :=
    dag_insertAfter plan.dag isFresh isKnown
  have different : insertion.syncPackageId ≠ targetId := by
    intro same
    rw [same] at new
    exact new known
  refine ⟨_, ⟨?_, ids, ?_⟩, ?_, ?_, ?_⟩
  · rw [graph]
    refine declarativePlan_withPackages ?_ (nonempty_of_ids plan nonempty ids)
      (laterDag.perm graphNodes.symm)
    intro package inLater
    rcases List.mem_cons.mp (shuffled.mem_iff.mp inLater) with isSync | isOld
    · rw [isSync]
      exact syncDeclared
    · obtain ⟨old, listed, same⟩ := List.mem_map.mp isOld
      rw [← same]
      exact declarativePackage_rewired (plan.declarative old listed)
  · intro first second path
    exact (precedes_perm graphNodes).mpr (path_insertAfter path)
  · rw [dependsOn_perm graphNodes]
    exact dependsOn_cons.mpr (Or.inl ⟨rfl, List.mem_singleton.mpr rfl⟩)
  · intro package member done
    refine shuffled.mem_iff.mpr (List.mem_cons_of_mem _ (List.mem_map.mpr
      ⟨package, member, ?_⟩))
    exact if_neg fun both => both.2 done
  · intro id incomplete edge
    have isMoved : decide (id ∉ completed) = true := decide_eq_true incomplete
    rw [dependsOn_perm graphNodes]
    refine ⟨dependsOn_cons.mpr (Or.inr (redirect_moved edge isMoved)), ?_⟩
    intro still
    rcases dependsOn_cons.mp still with ⟨isSync, _⟩ | redirected
    · rw [isSync] at edge
      exact isFresh edge.mem
    · exact not_redirect_target different isMoved redirected

/-- The rewrite raises only when the target is missing or the request is refused. -/
theorem buildSyncAfter_accepts (plan : DeclarativePlan py raw packages)
    {afterId : String} {given : Option (List String)} :
    (∃ insertion, buildSyncAfter py raw afterId request given = .ok insertion) ↔
      stripString afterId ∈ packages.map (packageId py) ∧
        request.Acceptable py (packages.map (packageId py)) (stripString afterId) := by
  constructor
  · rintro ⟨insertion, built⟩
    unfold buildSyncAfter at built
    obtain ⟨_, rest⟩ := unit_bind_eq_ok.mp built
    obtain ⟨⟨selected, branches⟩, chosen, rest⟩ := bind_eq_ok.mp rest
    obtain ⟨found, located, rest⟩ := bind_eq_ok.mp rest
    obtain ⟨front, target, back, shape, same, identity⟩ := locate_plan plan located
    rw [same] at rest
    dsimp only at rest
    rw [existingIds_plan plan] at rest
    obtain ⟨id, fresh, rest⟩ := bind_eq_ok.mp rest
    obtain ⟨sync, mapped, _⟩ := bind_eq_ok.mp rest
    obtain ⟨spec, valid, _⟩ := syncPackageMapping_eq_ok.mp mapped
    refine ⟨?_, ⟨(selected, branches), chosen, spec, valid⟩, id, fresh⟩
    rw [← identity, shape]
    exact List.mem_map_of_mem (List.mem_append_right _ List.mem_cons_self)
  · rintro ⟨member, ⟨⟨selected, branches⟩, chosen, spec, valid⟩, id, fresh⟩
    obtain ⟨found, located⟩ := locate_of_mem plan member
    obtain ⟨front, target, back, shape, same, identity⟩ := locate_plan plan located
    obtain ⟨package, listed, named⟩ := List.mem_map.mp member
    have nonempty : stripString afterId ≠ "" := by
      rw [← named]
      exact plan.nonempty package listed
    have checked : rejectIf (stripString afterId = "")
        "after package ID cannot be empty" = .ok () := rejectIf_eq_ok.mpr nonempty
    unfold buildSyncAfter
    dsimp only
    rw [checked, ok_bind, chosen, ok_bind]
    dsimp only
    rw [located, ok_bind, same]
    dsimp only
    rw [existingIds_plan plan, fresh, ok_bind,
      syncPackageMapping_eq_ok.mpr ⟨spec, valid, rfl⟩, ok_bind,
      mapM_rewire plan shape identity, ok_bind]
    exact ⟨_, rfl⟩

end After

/-! ## Behind everything -/

section Last

variable {insertion : RepositorySyncInsertion}

theorem mem_terminalIds {existing edges : List String} {id : String} :
    id ∈ terminalIds existing edges ↔ id ∈ existing ∧ id ∉ edges := by
  rw [terminalIds, List.mem_mergeSort, List.mem_filter, List.mem_eraseDups,
    decide_eq_true_eq]

/-- The packages with their dependencies. -/
theorem finalPackages_plan (plan : DeclarativePlan py raw packages)
    (present : packages ≠ []) :
    finalPackages py (canonicalizeLegacyPlanGraph py raw).1 =
      .ok (packages.map fun package => (package, dependencies py package)) := by
  have each : ∀ package ∈ packages, finalPackage py (.object package) =
      .ok (package, dependencies py package) := by
    intro package listed
    have checked : rejectIf (packageId py package = "")
        "every work package must have an ID" = .ok () :=
      rejectIf_eq_ok.mpr (plan.nonempty package listed)
    rw [finalPackage, checked, ok_bind, trimmedDependencies_plan plan listed]
    rfl
  unfold finalPackages
  rw [get_canonicalizeLegacyPlanGraph plan.listed plan.declarative]
  cases packages with
  | nil => exact absurd rfl present
  | cons head tail =>
      rw [List.map_cons]
      dsimp only
      rw [← List.map_cons, List.mapM_map]
      exact mapM_ok each

/-- The sorted identities on which no package depends. -/
def lastIds (py : Python) (packages : List Row) : List String :=
  terminalIds (packages.map (packageId py)) (packages.map (dependencies py)).flatten

theorem not_dependsOn_iff {id : String} :
    (∀ other, ¬ DependsOn (nodes py packages) other id) ↔
      id ∉ (packages.map (dependencies py)).flatten := by
  constructor
  · intro nothing member
    obtain ⟨edges, inEdges, listed⟩ := List.mem_flatten.mp member
    obtain ⟨package, inPackages, same⟩ := List.mem_map.mp inEdges
    rw [← same] at listed
    exact nothing (packageId py package) ⟨_, List.mem_map_of_mem inPackages, listed⟩
  · intro absent other edge
    obtain ⟨edges, stored, listed⟩ := edge
    obtain ⟨package, inPackages, same⟩ := List.mem_map.mp stored
    cases same
    exact absent (List.mem_flatten.mpr ⟨_, List.mem_map_of_mem inPackages, listed⟩)

/-- A finite acyclic plan with a package has a last one. -/
theorem lastIds_ne_nil (plan : DeclarativePlan py raw packages)
    (present : packages ≠ []) : lastIds py packages ≠ [] := by
  obtain ⟨package, member⟩ := List.exists_mem_of_ne_nil packages present
  obtain ⟨terminal, path, nothing⟩ := exists_terminal plan.dag.acyclic
    (fun _ _ edge => edge.mem) (packageId py package)
  have known : terminal ∈ packages.map (packageId py) := by
    rw [← map_fst_nodes]
    rcases Relation.ReflTransGen.cases_head path with same | ⟨next, edge, _⟩
    · rw [same, map_fst_nodes]
      exact List.mem_map_of_mem member
    · exact edge.mem
  exact List.ne_nil_of_mem (mem_terminalIds.mpr ⟨known, not_dependsOn_iff.mp nothing⟩)

theorem buildFinalSync_shape (plan : DeclarativePlan py raw packages)
    (built : buildFinalSync py raw request = .ok insertion) :
    ∃ sync, insertion.syncPackageId ∉ packages.map (packageId py) ∧
      insertion.syncPackageId ≠ "" ∧
      node py sync = (insertion.syncPackageId, lastIds py packages) ∧
      DeclarativePackage sync ∧
      insertion.graph = withPackages (canonicalizeLegacyPlanGraph py raw).1
        (packages ++ [sync]) := by
  unfold buildFinalSync at built
  obtain ⟨⟨selected, branches⟩, chosen, rest⟩ := bind_eq_ok.mp built
  obtain ⟨scanned, read, rest⟩ := bind_eq_ok.mp rest
  have present : packages ≠ [] := by
    intro empty
    unfold finalPackages at read
    rw [get_canonicalizeLegacyPlanGraph plan.listed plan.declarative, empty] at read
    cases read
  rw [finalPackages_plan plan present] at read
  cases read
  dsimp only at rest
  rw [List.map_map, List.map_map] at rest
  have rows : packages.map (Prod.fst ∘ fun package =>
      (package, dependencies py package)) = packages := List.map_id _
  have edges : packages.map (Prod.snd ∘ fun package =>
      (package, dependencies py package)) = packages.map (dependencies py) := rfl
  rw [rows, edges, existingIds_plan plan] at rest
  split at rest
  · cases rest
  · obtain ⟨id, fresh, rest⟩ := bind_eq_ok.mp rest
    obtain ⟨sync, mapped, done⟩ := bind_eq_ok.mp rest
    obtain ⟨spec, _, isSync⟩ := syncPackageMapping_eq_ok.mp mapped
    have final : stripString "FINAL" = "FINAL" := by decide
    obtain ⟨new, stripped, nonempty⟩ := nextSyncPackageId_ok final (by decide) fresh
    cases done
    refine ⟨sync, new, nonempty, ?_, ?_, rfl⟩
    · rw [isSync]
      exact node_syncPackage stripped
    · rw [isSync]
      exact declarativePackage_syncPackage

theorem insertedLast (plan : DeclarativePlan py raw packages)
    (built : buildFinalSync py raw request = .ok insertion) :
    ∃ later, InsertedLast py packages insertion later := by
  obtain ⟨sync, new, nonempty, syncNode, syncDeclared, graph⟩ :=
    buildFinalSync_shape plan built
  have shuffled : (packages ++ [sync]).Perm (sync :: packages) :=
    List.perm_append_singleton sync packages
  have graphNodes : (nodes py (packages ++ [sync])).Perm
      ((insertion.syncPackageId, lastIds py packages) :: nodes py packages) := by
    have mapped := shuffled.map (node py)
    rw [List.map_cons, syncNode] at mapped
    exact mapped
  have ids : ((packages ++ [sync]).map (packageId py)).Perm
      (insertion.syncPackageId :: packages.map (packageId py)) := by
    have names := graphNodes.map Prod.fst
    rwa [map_fst_nodes, List.map_cons, map_fst_nodes] at names
  have isFresh : insertion.syncPackageId ∉ (nodes py packages).map Prod.fst := by
    rw [map_fst_nodes]
    exact new
  have known : ∀ id ∈ lastIds py packages, id ∈ (nodes py packages).map Prod.fst := by
    intro id member
    rw [map_fst_nodes]
    exact (mem_terminalIds.mp member).1
  have complete : ∀ id ∈ (nodes py packages).map Prod.fst,
      (∀ other, ¬ DependsOn (nodes py packages) other id) → id ∈ lastIds py packages := by
    intro id member nothing
    rw [map_fst_nodes] at member
    exact mem_terminalIds.mpr ⟨member, not_dependsOn_iff.mp nothing⟩
  refine ⟨packages ++ [sync], ⟨?_, ids, ?_⟩, ?_⟩
  · rw [graph]
    refine declarativePlan_withPackages ?_ (nonempty_of_ids plan nonempty ids)
      ((dag_insertLast plan.dag isFresh known).perm graphNodes.symm)
    intro package inLater
    rcases List.mem_cons.mp (shuffled.mem_iff.mp inLater) with isSync | isOld
    · rw [isSync]
      exact syncDeclared
    · exact plan.declarative package isOld
  · intro first second path
    exact (precedes_perm graphNodes).mpr
      (path_mono (fun _ _ edge => .single (dependsOn_cons.mpr (Or.inr edge))) path)
  · intro id member
    rw [← map_fst_nodes] at member
    exact (precedes_perm graphNodes).mpr (path_insertLast plan.dag complete member)

/-- The rewrite raises only for an empty plan or when the request is refused. -/
theorem buildFinalSync_accepts (plan : DeclarativePlan py raw packages) :
    (∃ insertion, buildFinalSync py raw request = .ok insertion) ↔
      packages ≠ [] ∧
        request.Acceptable py (packages.map (packageId py)) "FINAL" := by
  have rows : packages.map (Prod.fst ∘ fun package =>
      (package, dependencies py package)) = packages := List.map_id _
  have edges : packages.map (Prod.snd ∘ fun package =>
      (package, dependencies py package)) = packages.map (dependencies py) := rfl
  constructor
  · rintro ⟨insertion, built⟩
    unfold buildFinalSync at built
    obtain ⟨⟨selected, branches⟩, chosen, rest⟩ := bind_eq_ok.mp built
    obtain ⟨scanned, read, rest⟩ := bind_eq_ok.mp rest
    have present : packages ≠ [] := by
      intro empty
      unfold finalPackages at read
      rw [get_canonicalizeLegacyPlanGraph plan.listed plan.declarative, empty] at read
      cases read
    rw [finalPackages_plan plan present] at read
    cases read
    dsimp only at rest
    rw [List.map_map, rows, existingIds_plan plan] at rest
    split at rest
    · cases rest
    · obtain ⟨id, fresh, rest⟩ := bind_eq_ok.mp rest
      obtain ⟨sync, mapped, _⟩ := bind_eq_ok.mp rest
      obtain ⟨spec, valid, _⟩ := syncPackageMapping_eq_ok.mp mapped
      exact ⟨present, ⟨(selected, branches), chosen, spec, valid⟩, id, fresh⟩
  · rintro ⟨present, ⟨⟨selected, branches⟩, chosen, spec, valid⟩, id, fresh⟩
    have last : ∃ targetId, (lastIds py packages).getLast? = some targetId :=
      ⟨_, List.getLast?_eq_some_getLast (lastIds_ne_nil plan present)⟩
    obtain ⟨targetId, last⟩ := last
    unfold lastIds at last
    unfold buildFinalSync
    dsimp only
    rw [chosen, ok_bind]
    dsimp only
    rw [finalPackages_plan plan present, ok_bind, List.map_map, List.map_map, rows,
      edges, existingIds_plan plan, last]
    dsimp only
    rw [fresh, ok_bind, syncPackageMapping_eq_ok.mpr ⟨spec, valid, rfl⟩, ok_bind]
    exact ⟨_, rfl⟩

end Last

/-! ## All insertions -/

/-- Every insertion into a declarative plan succeeds unless the request is refused,
and gives a declarative plan that keeps the old orders. -/
theorem insertions_keep_plan (plan : DeclarativePlan py raw packages)
    (request : SyncRequest) (packageId : String) (given : Option (List String)) :
    (((∃ insertion, buildSyncBefore py raw packageId request = .ok insertion) ↔
        stripString packageId ∈ packages.map (RepositorySync.packageId py) ∧
          request.Acceptable py (packages.map (RepositorySync.packageId py))
            (stripString packageId)) ∧
      ∀ insertion, buildSyncBefore py raw packageId request = .ok insertion →
        ∃ later, InsertedBefore py packages (stripString packageId) insertion later) ∧
    (((∃ insertion, buildSyncAfter py raw packageId request given = .ok insertion) ↔
        stripString packageId ∈ packages.map (RepositorySync.packageId py) ∧
          request.Acceptable py (packages.map (RepositorySync.packageId py))
            (stripString packageId)) ∧
      ∀ insertion, buildSyncAfter py raw packageId request given = .ok insertion →
        ∃ later, InsertedAfter py packages (stripString packageId)
          (completedIds given (canonicalizeLegacyPlanGraph py raw).2) insertion later) ∧
    (((∃ insertion, buildFinalSync py raw request = .ok insertion) ↔
        packages ≠ [] ∧
          request.Acceptable py (packages.map (RepositorySync.packageId py)) "FINAL") ∧
      ∀ insertion, buildFinalSync py raw request = .ok insertion →
        ∃ later, InsertedLast py packages insertion later) :=
  ⟨⟨buildSyncBefore_accepts plan, fun _ built => insertedBefore plan built⟩,
    ⟨buildSyncAfter_accepts plan, fun _ built => insertedAfter plan built⟩,
    ⟨buildFinalSync_accepts plan, fun _ built => insertedLast plan built⟩⟩

/-- A plan in which `B` waits for `A`. -/
def samplePackages : List Row :=
  [[("id", .string "A")], [("id", .string "B"), ("dependencies", .array [.string "A"])]]

def sampleGraph : Row := [("work_packages", .array (samplePackages.map Json.object))]

def sampleRequest : SyncRequest where
  repositories := ["main"]
  sourceBranches := []
  remote := "origin"
  conflictPolicy := "ai_resolve"
  syncPackageId := ""
  verificationProfile := "integration"

theorem sample_plan : DeclarativePlan asciiPython sampleGraph samplePackages where
  listed := rfl
  declarative := by
    intro package member
    rcases List.mem_cons.mp member with same | member
    · rw [same]
      exact ⟨by decide, (fun _ listed => nomatch listed), by decide⟩
    · rw [List.mem_singleton.mp member]
      exact ⟨by decide, (fun _ listed => nomatch listed), by decide⟩
  nonempty := by decide
  dag := by
    have first : Dag [("A", [])] := dag_insertLast dag_nil (by decide) (by decide)
    have second : Dag [("B", ["A"]), ("A", [])] :=
      dag_insertLast first (by decide) (by decide)
    exact second.perm (List.Perm.swap _ _ _)

theorem insertions_keep_sample :
    ∃ insertion later,
      buildFinalSync asciiPython sampleGraph sampleRequest = .ok insertion ∧
        InsertedLast asciiPython samplePackages insertion later := by
  have kept := insertions_keep_plan sample_plan sampleRequest "B" none
  have built : ∃ insertion,
      buildFinalSync asciiPython sampleGraph sampleRequest = .ok insertion := by
    refine kept.2.2.1.mpr ⟨by decide, ⟨(["main"], Dict.empty), ?_, ?_⟩, "FINAL-SYNC", ?_⟩
    · have chosen : ((sampleRequest.repositories.map stripString).filter
          (· ≠ "")).eraseDups = ["main"] := by decide
      unfold selection
      dsimp only
      have branches : Dict.ofItems (sampleRequest.sourceBranches.map fun item =>
          (stripString item.1, stripString item.2)) = Dict.empty := rfl
      have unknown : ((Dict.empty : Dict String).keys.filter
          (· ∉ ["main"])).mergeSort = [] := List.mergeSort_nil
      rw [chosen, branches, unknown]
      rfl
    · exact ⟨_, rfl⟩
    · rfl
  obtain ⟨insertion, done⟩ := built
  obtain ⟨later, last⟩ := kept.2.2.2 insertion done
  exact ⟨insertion, later, done, last⟩

end Execraft.RepositorySync
