import Execraft.Foundation.Dict
import Execraft.Foundation.Outcome
import Execraft.Roadmap.Models
import Mathlib.Data.List.Sort
import Mathlib.Data.Prod.Lex
import Mathlib.Data.String.Basic

/-!
# From roadmaps of version 1 to version 2

The migration promotes the phases, gates and milestones of a roadmap to canonical
assets under identities that it allocates for the whole catalog.
-/

namespace Execraft.Roadmaps

open Foundation

/-- A phase, gate or milestone of the project execution. -/
structure CanonicalAsset where
  kind : RoadmapItemKind
  id : String
  title : String
  description : String
  start : String
  target : String
  criteria : List String
  deriving DecidableEq, Repr

structure RoadmapMigrationItem where
  itemId : String
  kind : RoadmapItemKind
  projectAssetId : String
  action : String := "create"
  note : String := ""
  deriving DecidableEq, Repr

/-- A prepared migration. -/
structure PreparedMigration where
  roadmapId : String
  sourceRevision : Int
  sourceDigest : String
  items : List RoadmapMigrationItem

/-- The marker file of one migration. -/
inductive MigrationMarker where
  | prepared (migration : PreparedMigration)
  | complete (migration : PreparedMigration) (targetRevision : Int)

/-- The durable state of one project. -/
structure Catalog where
  assets : List CanonicalAsset
  roadmaps : List Roadmap
  markers : Dict MigrationMarker

/-- A roadmap and one of its items. -/
abbrev ItemKey := String × String

section Allocation

variable (py : Python)

/-! ## Identities -/

def firstCharacters (count : Nat) (text : String) : String :=
  String.ofList (text.toList.take count)

/-- `text.rstrip("-_")`. -/
def stripSeparators (text : String) : String :=
  String.ofList (text.toList.reverse.dropWhile (· ∈ ['-', '_'])).reverse

/-- `_namespaced_asset_id`. -/
def namespacedAssetId (roadmapId itemId : String) : Attempt String :=
  let raw := roadmapId ++ "-" ++ itemId
  if raw.length ≤ 96 then validateRoadmapId py "migrated project asset id" raw
  else
    let digest := firstCharacters 12 (py.sha256 raw.toUTF8)
    validateRoadmapId py "migrated project asset id"
      (stripSeparators (firstCharacters (96 - digest.length - 1) raw) ++ "-" ++ digest)

/-- `range(8, 33, 4)`. -/
def suffixWidths : List Nat := [8, 12, 16, 20, 24, 28, 32]

/-- The candidate with the first suffix that is not used. -/
def suffixedCandidate (candidate digest : String) (key : ItemKey) (used : List String) :
    List Nat → Attempt String
  | [] =>
      .error (.error ("cannot deterministically allocate canonical ID for " ++ key.1 ++
        "/" ++ key.2))
  | width :: rest => do
      let resolved ← validateRoadmapId py "migrated project asset id"
        (stripSeparators (firstCharacters (96 - width - 1) candidate) ++ "-" ++
          firstCharacters width digest)
      if resolved ∉ used then .ok resolved
      else suffixedCandidate candidate digest key used rest

/-- `_deduplicate_candidate`. -/
def deduplicateCandidate (candidate : String) (key : ItemKey) (used : List String) :
    Attempt String :=
  if candidate ∉ used then .ok candidate
  else
    suffixedCandidate py candidate (py.sha256 (key.1 ++ "\x00" ++ key.2).toUTF8) key used
      suffixWidths

/-- The identity that one item asks for. -/
def candidateId (count : String → Nat) (existing : List String) (key : ItemKey) :
    Attempt String :=
  if count key.2 = 1 ∧ key.2 ∉ existing then .ok key.2
  else namespacedAssetId py key.1 key.2

/-- The loop of `_global_identity_allocation`. -/
def allocate (count : String → Nat) (existing : List String) :
    List String → List ItemKey → Attempt (List (ItemKey × String))
  | _, [] => .ok []
  | used, key :: rest => do
      let candidate ← candidateId py count existing key
      let id ← deduplicateCandidate py candidate key used
      let others ← allocate count existing (used ++ [id]) rest
      .ok ((key, id) :: others)

end Allocation

/-! ## Catalogs -/

def isProjectItem (item : RoadmapItem) : Bool :=
  item.kind ∈ PROJECT_ASSET_KINDS

/-- The items of a roadmap that stand for assets. -/
def projectItems (roadmap : Roadmap) : List RoadmapItem :=
  roadmap.items.filter isProjectItem

def itemKeys (roadmap : Roadmap) : List ItemKey :=
  (projectItems roadmap).map fun item => (roadmap.id, item.id)

namespace Catalog

variable (catalog : Catalog)

def existingIds : List String := catalog.assets.map CanonicalAsset.id

def projectRows : List ItemKey := (catalog.roadmaps.map itemKeys).flatten

/-- `sorted(legacy_rows)`. -/
def legacyRows : List ItemKey :=
  ((catalog.roadmaps.filter (·.schemaVersion = 1)).map itemKeys).flatten.insertionSort
    fun first second => toLex first ≤ toLex second

/-- How many items have an identity. -/
def idCount (itemId : String) : Nat :=
  (catalog.projectRows.map Prod.snd).count itemId

/-- `_global_identity_allocation`. -/
def globalIdentityAllocation (py : Python) : Attempt (List (ItemKey × String)) :=
  allocate py catalog.idCount catalog.existingIds catalog.existingIds catalog.legacyRows

def load (roadmapId : String) : Attempt Roadmap :=
  match catalog.roadmaps.find? (·.id = roadmapId) with
  | some roadmap => .ok roadmap
  | none => .error (.notFound ("roadmap not found: " ++ roadmapId))

/-- `_load_prepared`. -/
def loadPrepared (roadmapId : String) : Option PreparedMigration :=
  match catalog.markers.get? roadmapId with
  | some (.prepared migration) => some migration
  | _ => none

/-- `_asset_by_id`. -/
def assetById (assetId : String) : Option CanonicalAsset :=
  PROJECT_ASSET_KINDS.findSome? fun kind =>
    catalog.assets.find? fun asset => asset.kind = kind ∧ asset.id = assetId

end Catalog

/-! ## Preview -/

structure RoadmapMigrationPreview where
  roadmapId : String
  sourceRevision : Int
  sourceDigest : String
  items : List RoadmapMigrationItem
  conflicts : List String
  resumed : Bool

section Migrator

variable (py : Python) (digest : Roadmap → String)

/-- `_prepared_conflicts`. -/
def preparedConflicts (roadmap : Roadmap) (prepared : PreparedMigration) :
    List String :=
  let sourceItems := (projectItems roadmap).map fun item => (item.id, item.kind)
  let markerItems := prepared.items.map fun item => (item.itemId, item.kind)
  (if prepared.roadmapId ≠ roadmap.id then
      ["migration marker belongs to a different Roadmap"] else []) ++
  (if prepared.sourceRevision ≠ roadmap.revision then
      ["Roadmap revision changed after migration was prepared (" ++
        toString prepared.sourceRevision ++ " -> " ++ toString roadmap.revision ++ ")"]
    else []) ++
  (if prepared.sourceDigest ≠ digest roadmap then
      ["Roadmap content changed after migration was prepared"] else []) ++
  (if sourceItems ⊆ markerItems ∧ markerItems ⊆ sourceItems then []
    else ["Roadmap project assets no longer match the migration marker"])

def migrationNote : RoadmapItemKind → String
  | .gate =>
      "legacy planning Gate promoted to a human-approval Gate so " ++
        "migration cannot silently authorize execution"
  | _ => ""

def kindName : RoadmapItemKind → String
  | .task => "task"
  | .plannedTask => "planned_task"
  | .milestone => "milestone"
  | .phase => "phase"
  | .gate => "gate"

/-- The planned item, or the conflict of an item without an identity. -/
def plannedItem (allocation : List (ItemKey × String)) (roadmapId : String)
    (item : RoadmapItem) : RoadmapMigrationItem ⊕ String :=
  match allocation.lookup (roadmapId, item.id) with
  | some assetId =>
      if assetId = "" then
        .inr ("cannot allocate canonical ID for " ++ kindName item.kind ++ " " ++ item.id)
      else
        .inl
          { itemId := item.id
            kind := item.kind
            projectAssetId := assetId
            note := migrationNote item.kind }
  | none =>
      .inr ("cannot allocate canonical ID for " ++ kindName item.kind ++ " " ++ item.id)

def preview (catalog : Catalog) (roadmapId : String) :
    Attempt RoadmapMigrationPreview := do
  let roadmap ← catalog.load roadmapId
  if roadmap.schemaVersion = 2 then
    .ok ⟨roadmap.id, roadmap.revision, digest roadmap, [], [], false⟩
  else
    match catalog.loadPrepared roadmap.id with
    | some prepared =>
        .ok ⟨roadmap.id, prepared.sourceRevision, prepared.sourceDigest, prepared.items,
          preparedConflicts digest roadmap prepared, true⟩
    | none => do
        let allocation ← catalog.globalIdentityAllocation py
        let planned := (projectItems roadmap).map (plannedItem allocation roadmap.id)
        .ok ⟨roadmap.id, roadmap.revision, digest roadmap,
          planned.filterMap Sum.getLeft?, planned.filterMap Sum.getRight?, false⟩

/-! ## Application -/

/-- `_asset_from_v1_item`. -/
def assetFromV1Item (item : RoadmapItem) (assetId : String) : CanonicalAsset where
  kind := item.kind
  id := assetId
  title := item.title
  description := item.description
  start := item.schedule.start
  target := item.schedule.target
  criteria := if item.kind = .gate then ["human_approval"] else []

/-- `_ensure_canonical_asset`. -/
def ensureCanonicalAsset (catalog : Catalog) (item : RoadmapItem)
    (plan : RoadmapMigrationItem) : Attempt Catalog :=
  let desired := assetFromV1Item item plan.projectAssetId
  match catalog.assetById plan.projectAssetId with
  | some existing =>
      if existing ≠ desired then
        .error (.error ("prepared Roadmap migration conflicts with existing canonical " ++
          kindName item.kind ++ " " ++ plan.projectAssetId))
      else .ok catalog
  | none =>
      if isProjectItem item then
        .ok { catalog with assets := catalog.assets ++ [desired] }
      else
        .error (.error ("unsupported migration item kind: " ++ kindName item.kind))

/-- The plan for an item; the last one of an identity counts. -/
def planFor (plans : List RoadmapMigrationItem) (itemId : String) :
    Option RoadmapMigrationItem :=
  plans.reverse.find? (·.itemId = itemId)

/-- The assets of all planned items. -/
def ensureCanonicalAssets (plans : List RoadmapMigrationItem) (catalog : Catalog)
    (items : List RoadmapItem) : Attempt Catalog :=
  items.foldlM (fun catalog item =>
    match planFor plans item.id with
    | none => .ok catalog
    | some plan => ensureCanonicalAsset catalog item plan) catalog

/-- `_migrated_item`. -/
def migratedItem (plans : List RoadmapMigrationItem) (item : RoadmapItem) :
    RoadmapItem :=
  match planFor plans item.id with
  | none => item
  | some plan =>
      { id := item.id
        kind := item.kind
        projectAssetId := plan.projectAssetId
        lane := item.lane
        order := item.order }

theorem migratedItem_id (plans : List RoadmapMigrationItem) (item : RoadmapItem) :
    (migratedItem plans item).id = item.id := by
  unfold migratedItem
  split
  · rfl
  · rfl

theorem map_migratedItem_id (plans : List RoadmapMigrationItem)
    (items : List RoadmapItem) :
    (items.map (migratedItem plans)).map RoadmapItem.id = items.map RoadmapItem.id := by
  rw [List.map_map]
  exact List.map_congr_left fun item _ => migratedItem_id plans item

/-- The roadmap of version 2, as it is saved. -/
def migratedRoadmap (plans : List RoadmapMigrationItem) (roadmap : Roadmap) : Roadmap :=
  { roadmap with
    revision := roadmap.revision + 1
    schemaVersion := 2
    items := roadmap.items.map (migratedItem plans)
    uniqueItems := by
      rw [map_migratedItem_id]
      exact roadmap.uniqueItems }

/-- The catalog with a roadmap replaced. -/
def Catalog.save (catalog : Catalog) (roadmap : Roadmap) : Catalog :=
  { catalog with
    roadmaps := catalog.roadmaps.map fun other =>
      if other.id = roadmap.id then roadmap else other }

/-- `apply`, when nothing interrupts it. -/
def applyMigration (catalog : Catalog) (roadmapId : String) (expectedRevision : Int) :
    Attempt Catalog := do
  let roadmap ← catalog.load roadmapId
  if roadmap.schemaVersion = 2 then .ok catalog
  else do
    failIf (roadmap.revision ≠ expectedRevision)
      (.conflict ("roadmap revision conflict: expected " ++ toString expectedRevision ++
        ", current " ++ toString roadmap.revision ++ "; refresh before migrating"))
    let preview ← preview py digest catalog roadmapId
    failIf (preview.conflicts ≠ [])
      (.error ("Roadmap migration has conflicts: " ++
        "; ".intercalate preview.conflicts))
    failIf (preview.sourceRevision ≠ expectedRevision)
      (.conflict "prepared Roadmap migration targets a different source revision")
    let migration : PreparedMigration :=
      ⟨preview.roadmapId, preview.sourceRevision, preview.sourceDigest, preview.items⟩
    let prepared :=
      if preview.resumed then catalog
      else { catalog with
        markers := catalog.markers.set roadmap.id (.prepared migration) }
    let promoted ← ensureCanonicalAssets preview.items prepared roadmap.items
    let saved := migratedRoadmap preview.items roadmap
    let written := promoted.save saved
    .ok { written with
      markers := written.markers.set roadmap.id (.complete migration saved.revision) }

end Migrator

end Execraft.Roadmaps
