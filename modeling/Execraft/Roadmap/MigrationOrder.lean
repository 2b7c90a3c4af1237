import Execraft.Roadmap.Allocation

/-!
# Migrating one roadmap after another

What one migration does to the catalog, and which identities the items have after any
sequence of migrations.
-/

namespace Execraft.Roadmaps

open Foundation

/-! ## Rows -/

section Rows

variable {catalog : Catalog} {roadmap : Roadmap} {key : ItemKey}

theorem mem_itemKeys : key ∈ itemKeys roadmap ↔
    key.1 = roadmap.id ∧ ∃ item ∈ projectItems roadmap, item.id = key.2 := by
  constructor
  · intro member
    obtain ⟨item, listed, same⟩ := List.mem_map.mp member
    rw [← same]
    exact ⟨rfl, item, listed, rfl⟩
  · intro both
    obtain ⟨sameRoadmap, item, listed, sameItem⟩ := both
    refine List.mem_map.mpr ⟨item, listed, ?_⟩
    rw [← sameRoadmap, sameItem]

theorem mem_legacyRows : key ∈ catalog.legacyRows ↔
    ∃ roadmap ∈ catalog.roadmaps, roadmap.schemaVersion = 1 ∧
      key ∈ itemKeys roadmap := by
  unfold Catalog.legacyRows
  rw [List.mem_insertionSort, List.mem_flatten]
  constructor
  · intro found
    obtain ⟨rows, listed, member⟩ := found
    obtain ⟨roadmap, inFilter, same⟩ := List.mem_map.mp listed
    obtain ⟨inCatalog, isLegacy⟩ := List.mem_filter.mp inFilter
    rw [← same] at member
    exact ⟨roadmap, inCatalog, of_decide_eq_true isLegacy, member⟩
  · intro found
    obtain ⟨roadmap, inCatalog, isLegacy, member⟩ := found
    exact ⟨itemKeys roadmap, List.mem_map_of_mem
      (List.mem_filter.mpr ⟨inCatalog, decide_eq_true isLegacy⟩), member⟩

/-- Sorting keeps the filtered rows in the sorted order of all rows. -/
theorem insertionSort_filter (rows : List ItemKey) (kept : ItemKey → Bool) :
    (rows.filter kept).insertionSort (fun first second => toLex first ≤ toLex second) =
      (rows.insertionSort fun first second => toLex first ≤ toLex second).filter
        kept := by
  have total : Std.Total fun first second : ItemKey => toLex first ≤ toLex second :=
    ⟨fun first second => le_total (toLex first) (toLex second)⟩
  have transitive : IsTrans ItemKey fun first second => toLex first ≤ toLex second :=
    ⟨fun _ _ _ => le_trans⟩
  have antisymmetric : Std.Antisymm fun first second : ItemKey =>
      toLex first ≤ toLex second :=
    ⟨fun _ _ below above => toLex_inj.mp (le_antisymm below above)⟩
  have sorted := List.pairwise_insertionSort
    (fun first second : ItemKey => toLex first ≤ toLex second) rows
  have shuffled := List.perm_insertionSort
    (fun first second : ItemKey => toLex first ≤ toLex second)
  exact ((shuffled _).trans ((shuffled rows).filter kept).symm).eq_of_pairwise'
    (List.pairwise_insertionSort _ _) (sorted.filter kept)

end Rows

/-! ## Plans -/

section Plans

variable {roadmap : Roadmap} {allocation : List (ItemKey × String)}

/-- The identity that the allocation has for an item. -/
def allocatedId (allocation : List (ItemKey × String)) (key : ItemKey) : String :=
  (allocation.lookup key).getD ""

def planOf (allocation : List (ItemKey × String)) (roadmapId : String)
    (item : RoadmapItem) : RoadmapMigrationItem where
  itemId := item.id
  kind := item.kind
  projectAssetId := allocatedId allocation (roadmapId, item.id)
  note := migrationNote item.kind

def plansOf (allocation : List (ItemKey × String)) (roadmap : Roadmap) :
    List RoadmapMigrationItem :=
  (projectItems roadmap).map (planOf allocation roadmap.id)

theorem plannedItem_cases (allocation : List (ItemKey × String)) (roadmapId : String)
    (item : RoadmapItem) :
    plannedItem allocation roadmapId item = .inl (planOf allocation roadmapId item) ∨
      ∃ conflict, plannedItem allocation roadmapId item = .inr conflict := by
  unfold plannedItem planOf allocatedId
  cases found : allocation.lookup (roadmapId, item.id) with
  | none => exact Or.inr ⟨_, rfl⟩
  | some assetId =>
      by_cases empty : assetId = ""
      · exact Or.inr ⟨_, if_pos empty⟩
      · exact Or.inl (if_neg empty)

/-- Without conflicts every item is planned. -/
theorem planned_eq {items : List RoadmapItem} {roadmapId : String}
    (clear : (items.map (plannedItem allocation roadmapId)).filterMap
      Sum.getRight? = []) :
    (items.map (plannedItem allocation roadmapId)).filterMap Sum.getLeft? =
      items.map (planOf allocation roadmapId) := by
  induction items with
  | nil => rfl
  | cons head tail inductionHypothesis =>
      rw [List.map_cons, List.filterMap_cons] at clear
      rw [List.map_cons, List.filterMap_cons, List.map_cons]
      rcases plannedItem_cases allocation roadmapId head with planned | ⟨_, conflict⟩
      · rw [planned] at clear ⊢
        exact congrArg _ (inductionHypothesis clear)
      · rw [conflict] at clear
        cases clear

/-- Items of one roadmap with one identity are the same. -/
theorem item_eq {first second : RoadmapItem} (inFirst : first ∈ roadmap.items)
    (inSecond : second ∈ roadmap.items) (same : first.id = second.id) :
    first = second :=
  List.inj_on_of_nodup_map roadmap.uniqueItems inFirst inSecond same

theorem mem_projectItems {item : RoadmapItem} : item ∈ projectItems roadmap ↔
    item ∈ roadmap.items ∧ isProjectItem item = true := by
  rw [projectItems, List.mem_filter]

/-- Exactly the items that stand for assets have a plan. -/
theorem planFor_plansOf {item : RoadmapItem} (listed : item ∈ roadmap.items) :
    planFor (plansOf allocation roadmap) item.id =
      if isProjectItem item then some (planOf allocation roadmap.id item)
      else none := by
  unfold planFor plansOf
  rw [← List.map_reverse, List.find?_map]
  have only : ∀ other ∈ (projectItems roadmap).reverse, other.id = item.id →
      other = item := by
    intro other member same
    exact item_eq (mem_projectItems.mp (List.mem_reverse.mp member)).1 listed same
  by_cases isProject : isProjectItem item = true
  · rw [if_pos isProject]
    have member : item ∈ (projectItems roadmap).reverse :=
      List.mem_reverse.mpr (mem_projectItems.mpr ⟨listed, isProject⟩)
    cases found : (projectItems roadmap).reverse.find?
        ((fun plan : RoadmapMigrationItem => decide (plan.itemId = item.id)) ∘
          planOf allocation roadmap.id) with
    | none =>
        have nothing := List.find?_eq_none.mp found item member
        exact absurd (decide_eq_true rfl) nothing
    | some other =>
        have named := List.find?_some found
        rw [only other (List.mem_of_find?_eq_some found) (of_decide_eq_true named)]
        rfl
  · rw [if_neg isProject]
    cases found : (projectItems roadmap).reverse.find?
        ((fun plan : RoadmapMigrationItem => decide (plan.itemId = item.id)) ∘
          planOf allocation roadmap.id) with
    | none => rfl
    | some other =>
        have member := List.mem_of_find?_eq_some found
        have named := List.find?_some found
        have same := only other member (of_decide_eq_true named)
        rw [same] at member
        exact absurd (mem_projectItems.mp (List.mem_reverse.mp member)).2 isProject

end Plans

/-! ## One migration -/

section OneMigration

variable {py : Python} {digest : Roadmap → String} {catalog next : Catalog}
variable {roadmap : Roadmap} {allocation : List (ItemKey × String)}

/-- The identities of the items of one roadmap, with their keys. -/
def assigned (allocation : List (ItemKey × String)) (roadmap : Roadmap) :
    List (ItemKey × String) :=
  (itemKeys roadmap).map fun key => (key, allocatedId allocation key)

/-- The catalog without the digests and revisions that migrations ignore. -/
structure Promoted (catalog : Catalog) (roadmap : Roadmap)
    (allocation : List (ItemKey × String)) (next : Catalog) : Prop where
  ids : next.existingIds =
    catalog.existingIds ++ (assigned allocation roadmap).map Prod.snd
  roadmaps : next.roadmaps = catalog.roadmaps.map fun other =>
    if other.id = roadmap.id then migratedRoadmap (plansOf allocation roadmap) roadmap
    else other
  prepared : ∀ id, next.loadPrepared id =
    if id = roadmap.id then none else catalog.loadPrepared id

theorem assetById_none {assetId : String} (free : assetId ∉ catalog.existingIds) :
    catalog.assetById assetId = none := by
  unfold Catalog.assetById
  rw [List.findSome?_eq_none_iff]
  intro kind _
  rw [List.find?_eq_none]
  intro asset member found
  apply free
  rw [← (of_decide_eq_true found).2]
  exact List.mem_map_of_mem member

/-- All planned assets are new, so each of them is created. -/
theorem ensureCanonicalAssets_new {items : List RoadmapItem}
    (ofRoadmap : ∀ item ∈ items, item ∈ roadmap.items)
    (fresh : ∀ item ∈ items.filter isProjectItem,
      allocatedId allocation (roadmap.id, item.id) ∉ catalog.existingIds)
    (distinct : ((items.filter isProjectItem).map fun item =>
      allocatedId allocation (roadmap.id, item.id)).Nodup)
    (promoted : ensureCanonicalAssets (plansOf allocation roadmap) catalog items =
      .ok next) :
    next.roadmaps = catalog.roadmaps ∧ next.markers = catalog.markers ∧
      next.existingIds = catalog.existingIds ++
        (items.filter isProjectItem).map fun item =>
          allocatedId allocation (roadmap.id, item.id) := by
  unfold ensureCanonicalAssets at promoted
  induction items generalizing catalog with
  | nil =>
      cases promoted
      simp
  | cons head tail inductionHypothesis =>
      have rest : ∀ item ∈ tail, item ∈ roadmap.items :=
        fun item member => ofRoadmap item (List.mem_cons_of_mem _ member)
      rw [List.foldlM_cons, planFor_plansOf (ofRoadmap head List.mem_cons_self)]
        at promoted
      obtain ⟨middle, here, later⟩ := bind_eq_ok.mp promoted
      by_cases isProject : isProjectItem head = true
      · rw [if_pos isProject] at here
        rw [List.filter_cons_of_pos isProject] at fresh distinct ⊢
        rw [List.map_cons, List.nodup_cons] at distinct
        dsimp only at here
        unfold ensureCanonicalAsset at here
        have absent : catalog.assetById
            (planOf allocation roadmap.id head).projectAssetId = none :=
          assetById_none (fresh head List.mem_cons_self)
        rw [absent] at here
        dsimp only at here
        rw [if_pos isProject] at here
        cases here
        obtain ⟨roadmaps, markers, ids⟩ := inductionHypothesis rest
          (by
            intro item member known
            unfold Catalog.existingIds at known
            rw [List.map_append, List.map_singleton] at known
            rcases List.mem_append.mp known with old | isHead
            · exact fresh item (List.mem_cons_of_mem _ member) old
            · have same : allocatedId allocation (roadmap.id, item.id) =
                  allocatedId allocation (roadmap.id, head.id) :=
                List.mem_singleton.mp isHead
              apply distinct.1
              rw [← same]
              exact List.mem_map_of_mem (f := fun item : RoadmapItem =>
                allocatedId allocation (roadmap.id, item.id)) member)
          distinct.2 later
        refine ⟨roadmaps, markers, ?_⟩
        rw [ids, Catalog.existingIds, List.map_append, List.map_cons, List.append_assoc]
        rfl
      · rw [if_neg isProject] at here
        rw [List.filter_cons_of_neg isProject] at fresh distinct ⊢
        cases here
        exact inductionHypothesis rest fresh distinct later

theorem lookup_of_mem {key : ItemKey} {id : String}
    (unique : (allocation.map Prod.fst).Nodup) (member : (key, id) ∈ allocation) :
    allocation.lookup key = some id := by
  induction allocation with
  | nil => cases member
  | cons head tail inductionHypothesis =>
      obtain ⟨first, value⟩ := head
      rw [List.map_cons, List.nodup_cons] at unique
      rcases List.mem_cons.mp member with isHead | inTail
      · cases isHead
        rw [List.lookup_cons_self]
      · have different : key ≠ first := by
          intro same
          apply unique.1
          rw [← same]
          exact List.mem_map.mpr ⟨(key, id), inTail, rfl⟩
        rw [List.lookup_cons, beq_eq_false_iff_ne.mpr different]
        exact inductionHypothesis unique.2 inTail

/-- The allocation has every key of a roadmap of version 1. -/
theorem allocatedId_mem (unique : (allocation.map Prod.fst).Nodup) {key : ItemKey}
    (member : key ∈ allocation.map Prod.fst) :
    (key, allocatedId allocation key) ∈ allocation := by
  obtain ⟨entry, listed, same⟩ := List.mem_map.mp member
  have found := lookup_of_mem unique (show (entry.1, entry.2) ∈ allocation from listed)
  rw [← same, allocatedId, found]
  exact listed

theorem itemKeys_nodup (roadmap : Roadmap) : (itemKeys roadmap).Nodup := by
  have ids : ((projectItems roadmap).map RoadmapItem.id).Nodup :=
    List.Nodup.sublist (List.filter_sublist.map _) roadmap.uniqueItems
  have same : (projectItems roadmap).map RoadmapItem.id =
      (itemKeys roadmap).map Prod.snd := by
    rw [itemKeys, List.map_map]
    rfl
  rw [same] at ids
  exact List.Nodup.of_map _ ids

/-- The roadmaps have distinct identities and no migration was interrupted. -/
structure Settled (catalog : Catalog) : Prop where
  unique : (catalog.roadmaps.map Roadmap.id).Nodup
  unprepared : ∀ id, catalog.loadPrepared id = none
  versions : ∀ roadmap ∈ catalog.roadmaps, roadmap.schemaVersion = 1 ∨
    roadmap.schemaVersion = 2

theorem legacyRows_nodup (settled : Settled catalog) : catalog.legacyRows.Nodup := by
  unfold Catalog.legacyRows
  rw [(List.perm_insertionSort _ _).nodup_iff, List.nodup_flatten]
  constructor
  · intro rows listed
    obtain ⟨roadmap, _, same⟩ := List.mem_map.mp listed
    rw [← same]
    exact itemKeys_nodup roadmap
  · rw [List.pairwise_map]
    have distinct := List.pairwise_map.mp settled.unique
    refine (distinct.filter _).imp ?_
    intro first second different key inFirst inSecond
    exact different ((mem_itemKeys.mp inFirst).1.symm.trans (mem_itemKeys.mp inSecond).1)

section Allocated

variable (settled : Settled catalog)
variable (allocated : catalog.globalIdentityAllocation py = .ok allocation)
variable (listed : roadmap ∈ catalog.roadmaps) (isLegacy : roadmap.schemaVersion = 1)

include settled allocated listed isLegacy

theorem assigned_mem {key : ItemKey} (member : key ∈ itemKeys roadmap) :
    (key, allocatedId allocation key) ∈ allocation := by
  have keys := allocate_keys allocated
  apply allocatedId_mem
  · rw [keys]
    exact legacyRows_nodup settled
  · rw [keys]
    exact mem_legacyRows.mpr ⟨roadmap, listed, isLegacy, member⟩

/-- The identities of one roadmap are new and distinct. -/
theorem assigned_fresh :
    (∀ id ∈ (assigned allocation roadmap).map Prod.snd, id ∉ catalog.existingIds) ∧
      ((assigned allocation roadmap).map Prod.snd).Nodup := by
  have values : (assigned allocation roadmap).map Prod.snd =
      (itemKeys roadmap).map (allocatedId allocation) := by
    rw [assigned, List.map_map]
    rfl
  rw [values]
  constructor
  · intro id member
    obtain ⟨key, ofRoadmap, same⟩ := List.mem_map.mp member
    rw [← same]
    exact allocate_notMem allocated _
      (assigned_mem settled allocated listed isLegacy ofRoadmap)
  · apply List.Nodup.map_on _ (itemKeys_nodup roadmap)
    intro first inFirst second inSecond same
    have firstEntry := assigned_mem settled allocated listed isLegacy inFirst
    have secondEntry := assigned_mem settled allocated listed isLegacy inSecond
    have equal := List.inj_on_of_nodup_map (allocate_nodup allocated) firstEntry
      secondEntry same
    exact congrArg Prod.fst equal

end Allocated

/-- What a successful migration does. -/
theorem applyMigration_ok {roadmapId : String} {revision : Int}
    (settled : Settled catalog)
    (applied : applyMigration py digest catalog roadmapId revision = .ok next) :
    (next = catalog ∧ ∀ roadmap ∈ catalog.roadmaps, roadmap.id = roadmapId →
      roadmap.schemaVersion = 2) ∨
    ∃ roadmap ∈ catalog.roadmaps, ∃ allocation, roadmap.id = roadmapId ∧
      roadmap.schemaVersion = 1 ∧
      catalog.globalIdentityAllocation py = .ok allocation ∧
      Promoted catalog roadmap allocation next := by
  unfold applyMigration at applied
  obtain ⟨roadmap, loaded, rest⟩ := bind_eq_ok.mp applied
  unfold Catalog.load at loaded
  cases found : catalog.roadmaps.find? (·.id = roadmapId) with
  | none =>
      rw [found] at loaded
      cases loaded
  | some stored =>
      rw [found] at loaded
      cases loaded
      have member := List.mem_of_find?_eq_some found
      have named := List.find?_some found
      have isRoadmap : roadmap.id = roadmapId := of_decide_eq_true named
      by_cases isCurrent : roadmap.schemaVersion = 2
      · rw [if_pos isCurrent] at rest
        cases rest
        refine Or.inl ⟨rfl, ?_⟩
        intro other inCatalog same
        have equal : other = roadmap := List.inj_on_of_nodup_map settled.unique inCatalog
          member (same.trans isRoadmap.symm)
        rw [equal]
        exact isCurrent
      · have isLegacy : roadmap.schemaVersion = 1 :=
          (settled.versions roadmap member).resolve_right isCurrent
        rw [if_neg isCurrent] at rest
        obtain ⟨_, rest⟩ := unit_bind_eq_ok.mp rest
        obtain ⟨previewed, previewOk, rest⟩ := bind_eq_ok.mp rest
        obtain ⟨clear, rest⟩ := unit_bind_eq_ok.mp rest
        obtain ⟨_, rest⟩ := unit_bind_eq_ok.mp rest
        obtain ⟨promoted, ensured, done⟩ := bind_eq_ok.mp rest
        unfold preview at previewOk
        unfold Catalog.load at previewOk
        rw [found, ok_bind, if_neg isCurrent, settled.unprepared] at previewOk
        dsimp only at previewOk
        obtain ⟨allocation, allocated, same⟩ := bind_eq_ok.mp previewOk
        cases same
        rw [failIf_eq_ok, not_not] at clear
        have plans := planned_eq clear
        dsimp only at ensured done
        rw [plans] at ensured done
        rw [if_neg Bool.false_ne_true] at ensured
        have fresh := assigned_fresh settled allocated member isLegacy
        have values : (assigned allocation roadmap).map Prod.snd =
            (roadmap.items.filter isProjectItem).map fun item =>
              allocatedId allocation (roadmap.id, item.id) := by
          rw [assigned, itemKeys, List.map_map, List.map_map]
          rfl
        rw [values] at fresh
        have isNew : ∀ item ∈ roadmap.items.filter isProjectItem,
            allocatedId allocation (roadmap.id, item.id) ∉ catalog.existingIds :=
          fun item inItems => fresh.1 _ (List.mem_map_of_mem (f := fun item =>
            allocatedId allocation (roadmap.id, item.id)) inItems)
        obtain ⟨roadmaps, markers, ids⟩ := ensureCanonicalAssets_new
          (fun item inRoadmap => inRoadmap) (by exact isNew) fresh.2 ensured
        have isNext := Except.ok.inj done
        rw [← isNext]
        refine Or.inr ⟨roadmap, member, allocation, isRoadmap, isLegacy, allocated,
          ⟨?_, ?_, ?_⟩⟩
        · rw [values]
          exact ids
        · exact congrArg (List.map fun other : Roadmap =>
            if other.id = roadmap.id then
              migratedRoadmap (plansOf allocation roadmap) roadmap
            else other) roadmaps
        · intro id
          unfold Catalog.loadPrepared Catalog.save
          dsimp only
          by_cases isRoadmap : id = roadmap.id
          · rw [if_pos isRoadmap, isRoadmap, Dict.get?_set_self]
          · rw [if_neg isRoadmap, Dict.get?_set_ne _ isRoadmap, markers,
              Dict.get?_set_ne _ isRoadmap]

section AfterMigration

variable (settled : Settled catalog) (listed : roadmap ∈ catalog.roadmaps)
variable (promoted : Promoted catalog roadmap allocation next)

theorem itemKeys_migratedRoadmap (plans : List RoadmapMigrationItem) :
    itemKeys (migratedRoadmap plans roadmap) = itemKeys roadmap := by
  have kind : ∀ item : RoadmapItem,
      isProjectItem (migratedItem plans item) = isProjectItem item := by
    intro item
    unfold migratedItem
    split
    · rfl
    · rfl
  have items : (projectItems (migratedRoadmap plans roadmap)).map RoadmapItem.id =
      (projectItems roadmap).map RoadmapItem.id := by
    unfold projectItems migratedRoadmap
    rw [List.filter_map, List.map_map]
    have same : isProjectItem ∘ migratedItem plans = isProjectItem := funext kind
    rw [same]
    exact List.map_congr_left fun item _ => migratedItem_id plans item
  have pairs := congrArg (List.map fun id => (roadmap.id, id)) items
  rw [List.map_map, List.map_map] at pairs
  exact pairs

include promoted

theorem Promoted.mem_roadmaps {other : Roadmap} (member : other ∈ next.roadmaps) :
    other = migratedRoadmap (plansOf allocation roadmap) roadmap ∨
      (other ∈ catalog.roadmaps ∧ other.id ≠ roadmap.id) := by
  rw [promoted.roadmaps] at member
  obtain ⟨old, inCatalog, same⟩ := List.mem_map.mp member
  split_ifs at same with isRoadmap
  · exact Or.inl same.symm
  · rw [← same]
    exact Or.inr ⟨inCatalog, isRoadmap⟩

theorem Promoted.mem_other {other : Roadmap} (member : other ∈ catalog.roadmaps)
    (different : other.id ≠ roadmap.id) : other ∈ next.roadmaps := by
  rw [promoted.roadmaps]
  exact List.mem_map.mpr ⟨other, member, if_neg different⟩

include settled

theorem Promoted.nextSettled : Settled next where
  unique := by
    have ids : next.roadmaps.map Roadmap.id = catalog.roadmaps.map Roadmap.id := by
      rw [promoted.roadmaps, List.map_map]
      apply List.map_congr_left
      intro other _
      dsimp only [Function.comp]
      split_ifs with isRoadmap
      · exact isRoadmap.symm
      · rfl
    rw [ids]
    exact settled.unique
  unprepared := by
    intro id
    rw [promoted.prepared]
    split_ifs
    · rfl
    · exact settled.unprepared id
  versions := by
    intro other member
    rcases promoted.mem_roadmaps member with isNew | old
    · rw [isNew]
      exact Or.inr rfl
    · exact settled.versions other old.1

include listed

theorem Promoted.projectRows : next.projectRows = catalog.projectRows := by
  unfold Catalog.projectRows
  rw [promoted.roadmaps, List.map_map]
  congr 1
  apply List.map_congr_left
  intro other member
  dsimp only [Function.comp]
  split_ifs with isRoadmap
  · have same : other = roadmap :=
      List.inj_on_of_nodup_map settled.unique member listed isRoadmap
    rw [itemKeys_migratedRoadmap, same]
  · rfl

theorem Promoted.idCount : next.idCount = catalog.idCount := by
  funext itemId
  unfold Catalog.idCount
  rw [promoted.projectRows settled listed]

omit listed settled in
/-- The rows of the other roadmaps remain, in their order. -/
theorem Promoted.legacyRows :
    next.legacyRows = catalog.legacyRows.filter (·.1 ≠ roadmap.id) := by
  unfold Catalog.legacyRows
  rw [← insertionSort_filter, promoted.roadmaps]
  congr 1
  generalize catalog.roadmaps = roadmaps
  induction roadmaps with
  | nil => rfl
  | cons head tail inductionHypothesis =>
      have own : ∀ key ∈ itemKeys head, key.1 = head.id :=
        fun key member => (mem_itemKeys.mp member).1
      by_cases isLegacy : head.schemaVersion = 1
      · by_cases isRoadmap : head.id = roadmap.id
        · have none : (itemKeys head).filter (fun key => key.1 ≠ roadmap.id) = [] := by
            apply List.filter_eq_nil_iff.mpr
            intro key member kept
            exact of_decide_eq_true kept ((own key member).trans isRoadmap)
          simp only [List.map_cons, List.filter_cons, isRoadmap, if_true, migratedRoadmap,
            isLegacy, decide_true, List.flatten_cons, List.filter_append, none,
            List.nil_append]
          exact inductionHypothesis
        · have all : (itemKeys head).filter (fun key => key.1 ≠ roadmap.id) =
              itemKeys head := by
            apply List.filter_eq_self.mpr
            intro key member
            exact decide_eq_true fun same => isRoadmap ((own key member).symm.trans same)
          simp only [List.map_cons, List.filter_cons, isRoadmap, if_false, isLegacy,
            decide_true, if_true, List.flatten_cons, List.filter_append, all]
          exact congrArg _ inductionHypothesis
      · by_cases isRoadmap : head.id = roadmap.id
        · simp only [List.map_cons, List.filter_cons, isRoadmap, if_true, migratedRoadmap,
            isLegacy, decide_false, Bool.false_eq_true, if_false]
          exact inductionHypothesis
        · simp only [List.map_cons, List.filter_cons, isRoadmap, if_false, isLegacy,
            decide_false, Bool.false_eq_true]
          exact inductionHypothesis

end AfterMigration

end OneMigration

end Execraft.Roadmaps
