import Execraft.Roadmap.MigrationOrder

/-!
# Migrations in any order

The identities that the items of a catalog get, for every order in which its roadmaps
are migrated.
-/

namespace Execraft.Roadmaps

open Foundation

/-- One migration after another, each in a catalog that the guard accepts. -/
inductive Migrations (py : Python) (digest : Roadmap → String)
    (guard : Catalog → Prop) (initial : Catalog) : List String → Catalog → Prop where
  | start : Migrations py digest guard initial [] initial
  | next {done : List String} {catalog later : Catalog} {roadmapId : String}
      {revision : Int} (before : Migrations py digest guard initial done catalog)
      (guarded : guard catalog)
      (applied : applyMigration py digest catalog roadmapId revision = .ok later) :
      Migrations py digest guard initial (done ++ [roadmapId]) later

/-- An item has this canonical identity. -/
def Received (catalog : Catalog) (key : ItemKey) (id : String) : Prop :=
  ∃ roadmap ∈ catalog.roadmaps, roadmap.id = key.1 ∧
    ∃ item ∈ projectItems roadmap, item.id = key.2 ∧ item.projectAssetId = id

/-- No remaining item has a plain identity that an earlier migration has taken. -/
def PlainIdsFree (initial catalog : Catalog) : Prop :=
  ∀ key ∈ catalog.legacyRows, catalog.idCount key.2 = 1 →
    key.2 ∈ catalog.existingIds → key.2 ∈ initial.existingIds

/-- What is known of a catalog after some migrations. -/
structure Progress (initial catalog : Catalog) (done : List String)
    (given : List (ItemKey × String)) : Prop where
  settled : Settled catalog
  migrated : ∀ roadmap ∈ catalog.roadmaps, roadmap.id ∈ done →
    roadmap.schemaVersion = 2
  ids : catalog.existingIds = initial.existingIds ++ given.map Prod.snd
  rows : catalog.legacyRows = initial.legacyRows.filter (·.1 ∉ done)
  counts : catalog.idCount = initial.idCount
  complete : ∀ key ∈ initial.legacyRows, key.1 ∈ done → ∃ id, (key, id) ∈ given
  legacy : ∀ entry ∈ given, entry.1 ∈ initial.legacyRows ∧ entry.1.1 ∈ done
  received : ∀ entry ∈ given, Received catalog entry.1 entry.2
  fresh : ∀ entry ∈ given, entry.2 ∉ initial.existingIds
  distinct : (given.map Prod.snd).Nodup

section Runs

variable {py : Python} {digest : Roadmap → String} {guard : Catalog → Prop}
variable {initial catalog next : Catalog} {done : List String}
variable {given : List (ItemKey × String)} {key : ItemKey} {first second : String}

theorem Received.unique (settled : Settled catalog)
    (receivedFirst : Received catalog key first)
    (receivedSecond : Received catalog key second) : first = second := by
  obtain ⟨roadmap, listed, sameRoadmap, item, inItems, sameItem, isFirst⟩ :=
    receivedFirst
  obtain ⟨other, otherListed, otherRoadmap, copy, inOthers, otherItem, isSecond⟩ :=
    receivedSecond
  have equal : roadmap = other := List.inj_on_of_nodup_map settled.unique listed
    otherListed (sameRoadmap.trans otherRoadmap.symm)
  rw [← equal] at inOthers
  have same : item = copy := item_eq (mem_projectItems.mp inItems).1
    (mem_projectItems.mp inOthers).1 (sameItem.trans otherItem.symm)
  rw [← isFirst, ← isSecond, same]

theorem progress_start (settled : Settled initial) : Progress initial initial [] [] where
  settled := settled
  migrated := by
    intro roadmap _ impossible
    cases impossible
  ids := (List.append_nil _).symm
  rows := by
    symm
    apply List.filter_eq_self.mpr
    intro key _
    exact decide_eq_true List.not_mem_nil
  counts := rfl
  complete := by
    intro key _ impossible
    cases impossible
  legacy := by
    intro entry impossible
    cases impossible
  received := by
    intro entry impossible
    cases impossible
  fresh := by
    intro entry impossible
    cases impossible
  distinct := List.nodup_nil

theorem filter_done {rows : List ItemKey} {roadmapId : String} :
    (rows.filter (·.1 ∉ done)).filter (·.1 ≠ roadmapId) =
      rows.filter (·.1 ∉ done ++ [roadmapId]) := by
  rw [List.filter_filter]
  apply List.filter_congr
  intro key _
  by_cases inDone : key.1 ∈ done
  · simp [inDone]
  · simp [inDone]

/-- A roadmap of version 2 is left alone. -/
theorem Progress.skip {roadmapId : String} (progress : Progress initial catalog done given)
    (current : ∀ roadmap ∈ catalog.roadmaps, roadmap.id = roadmapId →
      roadmap.schemaVersion = 2) :
    Progress initial catalog (done ++ [roadmapId]) given := by
  have none : ∀ key ∈ catalog.legacyRows, key.1 ≠ roadmapId := by
    intro key member same
    obtain ⟨roadmap, listed, isLegacy, ofRoadmap⟩ := mem_legacyRows.mp member
    have named := (mem_itemKeys.mp ofRoadmap).1
    have isCurrent := current roadmap listed (named.symm.trans same)
    omega
  refine ⟨progress.settled, ?_, progress.ids, ?_, progress.counts, ?_, ?_,
    progress.received, progress.fresh, progress.distinct⟩
  · intro roadmap listed member
    rcases List.mem_append.mp member with inDone | isLast
    · exact progress.migrated roadmap listed inDone
    · exact current roadmap listed (List.mem_singleton.mp isLast)
  · rw [← filter_done, ← progress.rows]
    symm
    apply List.filter_eq_self.mpr
    intro key member
    exact decide_eq_true (none key member)
  · intro key member inDone
    by_cases earlier : key.1 ∈ done
    · exact progress.complete key member earlier
    · have remains : key ∈ catalog.legacyRows := by
        rw [progress.rows]
        exact List.mem_filter.mpr ⟨member, decide_eq_true earlier⟩
      rcases List.mem_append.mp inDone with old | isLast
      · exact absurd old earlier
      · exact absurd (List.mem_singleton.mp isLast) (none key remains)
  · intro entry member
    have known := progress.legacy entry member
    exact ⟨known.1, List.mem_append_left _ known.2⟩

/-- A migrated roadmap adds the identities of its items. -/
theorem Progress.promote {roadmap : Roadmap} {allocation : List (ItemKey × String)}
    (progress : Progress initial catalog done given)
    (listed : roadmap ∈ catalog.roadmaps) (isLegacy : roadmap.schemaVersion = 1)
    (allocated : catalog.globalIdentityAllocation py = .ok allocation)
    (promoted : Promoted catalog roadmap allocation next) :
    Progress initial next (done ++ [roadmap.id]) (given ++ assigned allocation roadmap) := by
  have settled := progress.settled
  have fresh := assigned_fresh settled allocated listed isLegacy
  have notDone : roadmap.id ∉ done := by
    intro inDone
    have isCurrent := progress.migrated roadmap listed inDone
    omega
  have migratedListed : migratedRoadmap (plansOf allocation roadmap) roadmap ∈
      next.roadmaps := by
    rw [promoted.roadmaps]
    exact List.mem_map.mpr ⟨roadmap, listed, if_pos rfl⟩
  have inRows : ∀ key ∈ itemKeys roadmap, key ∈ initial.legacyRows := by
    intro key member
    have current : key ∈ catalog.legacyRows :=
      mem_legacyRows.mpr ⟨roadmap, listed, isLegacy, member⟩
    rw [progress.rows] at current
    exact (List.mem_filter.mp current).1
  refine ⟨promoted.nextSettled settled, ?_, ?_, ?_, ?_, ?_, ?_, ?_, ?_, ?_⟩
  · intro other member inDone
    rcases promoted.mem_roadmaps member with isNew | old
    · rw [isNew]
      rfl
    · rcases List.mem_append.mp inDone with earlier | isLast
      · exact progress.migrated other old.1 earlier
      · exact absurd (List.mem_singleton.mp isLast) old.2
  · rw [promoted.ids, progress.ids, List.map_append, List.append_assoc]
  · rw [promoted.legacyRows, progress.rows, filter_done]
  · rw [promoted.idCount settled listed, progress.counts]
  · intro key member inDone
    by_cases earlier : key.1 ∈ done
    · obtain ⟨id, known⟩ := progress.complete key member earlier
      exact ⟨id, List.mem_append_left _ known⟩
    · have isLast : key.1 = roadmap.id := by
        rcases List.mem_append.mp inDone with old | isLast
        · exact absurd old earlier
        · exact List.mem_singleton.mp isLast
      have remains : key ∈ catalog.legacyRows := by
        rw [progress.rows]
        exact List.mem_filter.mpr ⟨member, decide_eq_true earlier⟩
      obtain ⟨other, otherListed, _, ofOther⟩ := mem_legacyRows.mp remains
      have same : other = roadmap := List.inj_on_of_nodup_map settled.unique otherListed
        listed ((mem_itemKeys.mp ofOther).1.symm.trans isLast)
      rw [same] at ofOther
      exact ⟨_, List.mem_append_right _ (List.mem_map_of_mem (f := fun key =>
        (key, allocatedId allocation key)) ofOther)⟩
  · intro entry member
    rcases List.mem_append.mp member with old | isNew
    · have known := progress.legacy entry old
      exact ⟨known.1, List.mem_append_left _ known.2⟩
    · obtain ⟨key, ofRoadmap, same⟩ := List.mem_map.mp isNew
      rw [← same]
      refine ⟨inRows key ofRoadmap, List.mem_append_right _ ?_⟩
      exact List.mem_singleton.mpr (mem_itemKeys.mp ofRoadmap).1
  · intro entry member
    rcases List.mem_append.mp member with old | isNew
    · obtain ⟨other, otherListed, sameRoadmap, rest⟩ := progress.received entry old
      have different : other.id ≠ roadmap.id := by
        intro same
        apply notDone
        rw [← same, sameRoadmap]
        exact (progress.legacy entry old).2
      exact ⟨other, promoted.mem_other otherListed different, sameRoadmap, rest⟩
    · obtain ⟨key, ofRoadmap, same⟩ := List.mem_map.mp isNew
      obtain ⟨sameRoadmap, item, inItems, sameItem⟩ := mem_itemKeys.mp ofRoadmap
      have isItem := mem_projectItems.mp inItems
      have plan : migratedItem (plansOf allocation roadmap) item =
          { id := item.id
            kind := item.kind
            projectAssetId := allocatedId allocation (roadmap.id, item.id)
            lane := item.lane
            order := item.order } := by
        unfold migratedItem
        rw [planFor_plansOf isItem.1, if_pos isItem.2]
        rfl
      have keyed : key = (roadmap.id, item.id) := by
        rw [← sameRoadmap, sameItem]
      rw [← same]
      refine ⟨_, migratedListed, sameRoadmap.symm,
        migratedItem (plansOf allocation roadmap) item, ?_, ?_, ?_⟩
      · refine List.mem_filter.mpr ⟨List.mem_map_of_mem isItem.1, ?_⟩
        rw [plan]
        exact isItem.2
      · rw [plan]
        exact sameItem
      · rw [plan, keyed]
  · intro entry member
    rcases List.mem_append.mp member with old | isNew
    · exact progress.fresh entry old
    · have notExisting := fresh.1 entry.2 (List.mem_map_of_mem isNew)
      rw [progress.ids] at notExisting
      exact fun old => notExisting (List.mem_append_left _ old)
  · rw [List.map_append, List.nodup_append']
    refine ⟨progress.distinct, fresh.2, ?_⟩
    intro id old isNew
    have notExisting := fresh.1 id isNew
    rw [progress.ids] at notExisting
    exact notExisting (List.mem_append_right _ old)

/-- After every run of migrations some progress was made. -/
theorem Migrations.progress (settled : Settled initial)
    (run : Migrations py digest guard initial done catalog) :
    ∃ given, Progress initial catalog done given := by
  induction run with
  | start => exact ⟨[], progress_start settled⟩
  | @next done catalog later roadmapId revision before guarded applied
      inductionHypothesis =>
      obtain ⟨given, progress⟩ := inductionHypothesis
      rcases applyMigration_ok progress.settled applied with
        ⟨same, current⟩ | ⟨roadmap, listed, allocation, named, isLegacy, allocated,
          promoted⟩
      · rw [same]
        exact ⟨given, progress.skip current⟩
      · rw [← named]
        exact ⟨_, progress.promote listed isLegacy allocated promoted⟩

/-- The identities given so far are those of the initial allocation. -/
def FromInitial (py : Python) (initial : Catalog) (given : List (ItemKey × String)) :
    Prop :=
  given = [] ∨ ∃ allocation, initial.globalIdentityAllocation py = .ok allocation ∧
    ∀ entry ∈ given, entry ∈ allocation

/-- While no plain identity is taken, the remaining items are allocated what they were
allocated in the beginning. -/
theorem Progress.allocation {allocation : List (ItemKey × String)}
    (settled : Settled initial) (progress : Progress initial catalog done given)
    (fromInitial : FromInitial py initial given) (free : PlainIdsFree initial catalog)
    (allocated : catalog.globalIdentityAllocation py = .ok allocation) :
    ∃ reference, initial.globalIdentityAllocation py = .ok reference ∧
      (∀ entry ∈ given, entry ∈ reference) ∧ ∀ entry ∈ allocation, entry ∈ reference := by
  have rows : ∀ key ∈ catalog.legacyRows, key ∈ initial.legacyRows ∧ key.1 ∉ done := by
    intro key member
    rw [progress.rows] at member
    have both := List.mem_filter.mp member
    exact ⟨both.1, of_decide_eq_true both.2⟩
  rcases fromInitial with nothing | ⟨reference, known, included⟩
  · have sameRows : catalog.legacyRows = initial.legacyRows := by
      rw [progress.rows]
      apply List.filter_eq_self.mpr
      intro key member
      apply decide_eq_true
      intro inDone
      obtain ⟨id, impossible⟩ := progress.complete key member inDone
      rw [nothing] at impossible
      cases impossible
    have sameIds : catalog.existingIds = initial.existingIds := by
      rw [progress.ids, nothing, List.map_nil, List.append_nil]
    refine ⟨allocation, ?_, ?_, fun entry member => member⟩
    · rw [← allocated]
      unfold Catalog.globalIdentityAllocation
      rw [sameRows, sameIds, progress.counts]
    · intro entry impossible
      rw [nothing] at impossible
      cases impossible
  · refine ⟨reference, known, included, ?_⟩
    have keys := allocate_keys known
    have filtered : allocate py initial.idCount catalog.existingIds catalog.existingIds
        (initial.legacyRows.filter fun key => key.1 ∉ done) =
          .ok (reference.filter fun entry => entry.1.1 ∉ done) := by
      refine allocate_filter known ?_ ?_ ?_ ?_
      · rw [progress.ids]
        exact List.subset_append_left _ _
      · intro entry member isKept taken
        rw [progress.ids] at taken
        rcases List.mem_append.mp taken with old | isGiven
        · exact allocate_notMem known entry member old
        · obtain ⟨other, inGiven, same⟩ := List.mem_map.mp isGiven
          have equal : other = entry := List.inj_on_of_nodup_map (allocate_nodup known)
            (included other inGiven) member same
          rw [equal] at inGiven
          exact of_decide_eq_true isKept (progress.legacy entry inGiven).2
      · intro entry member isGone
        have inDone : entry.1.1 ∈ done := not_not.mp (of_decide_eq_false isGone)
        have inRows : entry.1 ∈ initial.legacyRows := by
          rw [← keys]
          exact List.mem_map_of_mem member
        obtain ⟨id, inGiven⟩ := progress.complete entry.1 inRows inDone
        have unique : (reference.map Prod.fst).Nodup := by
          rw [keys]
          exact legacyRows_nodup settled
        have equal : (entry.1, id) = entry :=
          List.inj_on_of_nodup_map unique (included _ inGiven) member rfl
        rw [equal] at inGiven
        rw [progress.ids]
        exact List.mem_append_right _ (List.mem_map_of_mem inGiven)
      · intro key member isKept single
        constructor
        · intro old
          rw [progress.ids]
          exact List.mem_append_left _ old
        · intro taken
          apply free key
          · rw [progress.rows]
            exact List.mem_filter.mpr ⟨member, isKept⟩
          · rw [progress.counts]
            exact single
          · exact taken
    have same : Except.ok allocation = (.ok (reference.filter fun entry =>
        entry.1.1 ∉ done) : Attempt _) := by
      rw [← allocated, ← filtered]
      unfold Catalog.globalIdentityAllocation
      rw [progress.rows, progress.counts]
    rw [Except.ok.inj same]
    exact fun entry member => (List.mem_filter.mp member).1

/-- In a run that keeps the plain identities free, all identities are initial ones. -/
theorem Migrations.fromInitial (settled : Settled initial)
    (run : Migrations py digest (PlainIdsFree initial) initial done catalog) :
    ∃ given, Progress initial catalog done given ∧ FromInitial py initial given := by
  induction run with
  | start => exact ⟨[], progress_start settled, Or.inl rfl⟩
  | @next done catalog later roadmapId revision before guarded applied
      inductionHypothesis =>
      obtain ⟨given, progress, fromInitial⟩ := inductionHypothesis
      rcases applyMigration_ok progress.settled applied with
        ⟨same, current⟩ | ⟨roadmap, listed, allocation, named, isLegacy, allocated,
          promoted⟩
      · rw [same]
        exact ⟨given, progress.skip current, fromInitial⟩
      · obtain ⟨reference, known, old, all⟩ :=
          progress.allocation settled fromInitial guarded allocated
        rw [← named]
        refine ⟨_, progress.promote listed isLegacy allocated promoted,
          Or.inr ⟨reference, known, ?_⟩⟩
        intro entry member
        rcases List.mem_append.mp member with inGiven | isNew
        · exact old entry inGiven
        · obtain ⟨key, ofRoadmap, same⟩ := List.mem_map.mp isNew
          rw [← same]
          exact all _ (assigned_mem progress.settled allocated listed isLegacy ofRoadmap)

/-- Any two runs of migrations give different items different new identities; and when
no run meets a remaining item whose plain identity an earlier migration has taken,
both give an item the same identity. -/
theorem migrations_orderIndependent (settled : Settled initial) :
    (∀ done final, Migrations py digest (fun _ => True) initial done final →
      (∀ key ∈ initial.legacyRows, key.1 ∈ done → ∃ id, Received final key id) ∧
      ∀ key ∈ initial.legacyRows, key.1 ∈ done → ∀ id, Received final key id →
        id ∉ initial.existingIds ∧
          ∀ other ∈ initial.legacyRows, other.1 ∈ done → Received final other id →
            key = other) ∧
    ∀ done final order last,
      Migrations py digest (PlainIdsFree initial) initial done final →
      Migrations py digest (PlainIdsFree initial) initial order last →
      ∀ key ∈ initial.legacyRows, key.1 ∈ done → key.1 ∈ order →
        ∀ first second, Received final key first → Received last key second →
          first = second := by
  constructor
  · intro done final run
    obtain ⟨given, progress⟩ := run.progress settled
    have isGiven : ∀ key ∈ initial.legacyRows, key.1 ∈ done → ∀ id,
        Received final key id → (key, id) ∈ given := by
      intro key member inDone id received
      obtain ⟨known, inGiven⟩ := progress.complete key member inDone
      have same := received.unique progress.settled (progress.received _ inGiven)
      rw [same]
      exact inGiven
    constructor
    · intro key member inDone
      obtain ⟨id, inGiven⟩ := progress.complete key member inDone
      exact ⟨id, progress.received _ inGiven⟩
    · intro key member inDone id received
      have inGiven := isGiven key member inDone id received
      refine ⟨progress.fresh _ inGiven, ?_⟩
      intro other otherMember otherDone otherReceived
      have otherGiven := isGiven other otherMember otherDone id otherReceived
      have equal := List.inj_on_of_nodup_map progress.distinct inGiven otherGiven rfl
      exact congrArg Prod.fst equal
  · intro done final order last run other key member inDone inOrder first second
      receivedFirst receivedSecond
    obtain ⟨given, progress, fromInitial⟩ := run.fromInitial settled
    obtain ⟨others, otherProgress, otherInitial⟩ := other.fromInitial settled
    obtain ⟨id, inGiven⟩ := progress.complete key member inDone
    obtain ⟨otherId, inOthers⟩ := otherProgress.complete key member inOrder
    rw [receivedFirst.unique progress.settled (progress.received _ inGiven),
      receivedSecond.unique otherProgress.settled (otherProgress.received _ inOthers)]
    rcases fromInitial with nothing | ⟨reference, known, included⟩
    · rw [nothing] at inGiven
      cases inGiven
    · rcases otherInitial with nothing | ⟨otherReference, otherKnown, otherIncluded⟩
      · rw [nothing] at inOthers
        cases inOthers
      · rw [known] at otherKnown
        cases otherKnown
        have unique : (reference.map Prod.fst).Nodup := by
          rw [allocate_keys known]
          exact legacyRows_nodup settled
        have equal := List.inj_on_of_nodup_map unique (included _ inGiven)
          (otherIncluded _ inOthers) rfl
        exact congrArg Prod.snd equal

end Runs

/-! ## A plain identity that is taken -/

section Samples

instance (initial catalog : Catalog) : Decidable (PlainIdsFree initial catalog) :=
  inferInstanceAs (Decidable (∀ key ∈ catalog.legacyRows, catalog.idCount key.2 = 1 →
    key.2 ∈ catalog.existingIds → key.2 ∈ initial.existingIds))

instance (catalog : Catalog) (key : ItemKey) (id : String) :
    Decidable (Received catalog key id) :=
  inferInstanceAs (Decidable (∃ roadmap ∈ catalog.roadmaps, roadmap.id = key.1 ∧
    ∃ item ∈ projectItems roadmap, item.id = key.2 ∧ item.projectAssetId = id))

/-- Migrate these roadmaps, all of which have revision 1. -/
def migrateAll (py : Python) (digest : Roadmap → String) (guard : Catalog → Bool)
    (catalog : Catalog) : List String → Option Catalog
  | [] => some catalog
  | roadmapId :: rest =>
      if guard catalog then
        match applyMigration py digest catalog roadmapId 1 with
        | .ok next => migrateAll py digest guard next rest
        | .error _ => none
      else none

theorem migrations_migrateAll {py : Python} {digest : Roadmap → String}
    {guard : Catalog → Bool} {initial final : Catalog} {order : List String}
    (finished : migrateAll py digest guard initial order = some final) :
    Migrations py digest (fun catalog => guard catalog = true) initial order final := by
  have general : ∀ (rest done : List String) (catalog : Catalog),
      Migrations py digest (fun catalog => guard catalog = true) initial done catalog →
      migrateAll py digest guard catalog rest = some final →
      Migrations py digest (fun catalog => guard catalog = true) initial (done ++ rest)
        final := by
    intro rest
    induction rest with
    | nil =>
        intro done catalog run finished
        cases finished
        rw [List.append_nil]
        exact run
    | cons roadmapId rest inductionHypothesis =>
        intro done catalog run finished
        rw [migrateAll] at finished
        split_ifs at finished with guarded
        cases applied : applyMigration py digest catalog roadmapId 1 with
        | error failure =>
            rw [applied] at finished
            cases finished
        | ok next =>
            rw [applied] at finished
            have later := inductionHypothesis (done ++ [roadmapId]) next
              (.next run guarded applied) finished
            rw [List.append_assoc, List.singleton_append] at later
            exact later
  exact general order [] initial .start finished

/-- The digest of the item `a-x` of the roadmap `r`. -/
def digestPython : Python :=
  { asciiPython with
    sha256 := fun content =>
      if content.data.toList = "r\x00a-x".toUTF8.data.toList then
        "ad17afec4c1bfde82f70c3aa505770af35ded3b9de2810ec972aba098df41af2"
      else "" }

def phaseRoadmap (id itemId : String) : Roadmap where
  id := id
  title := id
  schemaVersion := 1
  items := [{ id := itemId, kind := .phase, title := itemId }]
  uniqueItems := List.nodup_singleton _

/-- The item of `r` is called as the item of `a` is when it is namespaced. -/
def crossedCatalog : Catalog where
  assets := []
  roadmaps := [phaseRoadmap "a" "x", phaseRoadmap "c" "x", phaseRoadmap "r" "a-x"]
  markers := Dict.empty

theorem crossedCatalog_settled : Settled crossedCatalog where
  unique := by decide
  unprepared := fun _ => rfl
  versions := by
    intro roadmap member
    simp only [crossedCatalog, List.mem_cons, List.not_mem_nil, or_false] at member
    rcases member with same | same | same
    · rw [same]
      exact Or.inl rfl
    · rw [same]
      exact Or.inl rfl
    · rw [same]
      exact Or.inl rfl

/-- What the item of `r` gets when the roadmaps are migrated in an order. -/
def crossedReceives (guard : Catalog → Bool) (order : List String) (id : String) : Bool :=
  match migrateAll digestPython (fun _ => "") guard crossedCatalog order with
  | some final => decide (Received final ("r", "a-x") id)
  | none => false

theorem migrations_crossedReceives {guard : Catalog → Bool} {order : List String}
    {id : String} (received : crossedReceives guard order id = true) :
    ∃ final, Migrations digestPython (fun _ => "") (fun catalog => guard catalog = true)
      crossedCatalog order final ∧ Received final ("r", "a-x") id := by
  unfold crossedReceives at received
  cases finished : migrateAll digestPython (fun _ => "") guard crossedCatalog order with
  | none =>
      rw [finished] at received
      cases received
  | some final =>
      rw [finished] at received
      exact ⟨final, migrations_migrateAll finished, of_decide_eq_true received⟩

/-- The order of the migrations decides what the item of `r` gets: once `a` is migrated,
its item holds the identity that would be the item's own. -/
theorem migrations_orderDependent :
    ¬ ∀ (py : Python) (digest : Roadmap → String) (initial : Catalog), Settled initial →
      ∀ done final order last, done.Perm order →
        Migrations py digest (fun _ => True) initial done final →
        Migrations py digest (fun _ => True) initial order last →
        ∀ key ∈ initial.legacyRows, ∀ first second, Received final key first →
          Received last key second → first = second := by
  intro independent
  have ownFirst : crossedReceives (fun _ => true) ["r", "a", "c"] "a-x-ad17afec" = true := by
    decide +kernel
  have ownLast : crossedReceives (fun _ => true) ["a", "r", "c"] "r-a-x" = true := by
    decide +kernel
  obtain ⟨final, run, received⟩ := migrations_crossedReceives ownFirst
  obtain ⟨last, otherRun, otherReceived⟩ := migrations_crossedReceives ownLast
  simp only at run otherRun
  have same := independent digestPython (fun _ => "") crossedCatalog crossedCatalog_settled
    ["r", "a", "c"] final ["a", "r", "c"] last (List.Perm.swap _ _ _) run otherRun
    ("r", "a-x") (by decide) _ _ received otherReceived
  exact absurd same (by decide)

/-- The orders in which `r` comes before `a`. -/
theorem migrations_orderIndependent_crossed :
    ∃ final last, Received final ("r", "a-x") "a-x-ad17afec" ∧
      Migrations digestPython (fun _ => "") (PlainIdsFree crossedCatalog) crossedCatalog
        ["c", "r", "a"] last ∧
      ∀ id, Received last ("r", "a-x") id → id = "a-x-ad17afec" := by
  have ownFirst : crossedReceives (fun catalog => decide (PlainIdsFree crossedCatalog catalog))
      ["r", "a", "c"] "a-x-ad17afec" = true := by
    decide +kernel
  have ownSecond : crossedReceives
      (fun catalog => decide (PlainIdsFree crossedCatalog catalog))
      ["c", "r", "a"] "a-x-ad17afec" = true := by
    decide +kernel
  obtain ⟨final, run, received⟩ := migrations_crossedReceives ownFirst
  obtain ⟨last, otherRun, otherReceived⟩ := migrations_crossedReceives ownSecond
  simp only [decide_eq_true_eq] at run otherRun
  refine ⟨final, last, received, otherRun, ?_⟩
  intro id lastReceived
  have same := (migrations_orderIndependent crossedCatalog_settled).2 ["r", "a", "c"] final
    ["c", "r", "a"] last run otherRun ("r", "a-x") (by decide) (by decide) (by decide)
    "a-x-ad17afec" id received lastReceived
  exact same.symm

end Samples

end Execraft.Roadmaps
