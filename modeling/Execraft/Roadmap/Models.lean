import Execraft.ProjectExecution.Values

/-!
# Roadmaps

Planning documents whose phases, gates and milestones refer to canonical assets
from schema version 2 on.
-/

namespace Execraft.Roadmaps

open Foundation

inductive RoadmapError where
  | error (message : String)
  | conflict (message : String)
  | notFound (message : String)
  deriving DecidableEq, Repr

/-- A computation that may raise a `RoadmapError`. -/
abbrev Attempt := Except RoadmapError

def failIf (bad : Prop) [Decidable bad] (failure : RoadmapError) : Attempt Unit :=
  if bad then .error failure else .ok ()

@[simp]
theorem failIf_eq_ok {bad : Prop} [Decidable bad] {failure : RoadmapError}
    {result : Unit} : failIf bad failure = .ok result ↔ ¬ bad := by
  unfold failIf
  by_cases holds : bad
  · simp [holds]
  · simp [holds]

/-- `validate_roadmap_id` of a string. -/
def validateRoadmapId (py : Python) (label value : String) : Attempt String :=
  let text := stripString value
  if text = "" ∨ 96 < text.length ∨
      ProjectExecution.hyphenIdentifier py text = false then
    .error (.error ("invalid " ++ label ++ ": " ++ py.repr text))
  else .ok text

inductive RoadmapItemKind where
  | task
  | plannedTask
  | milestone
  | phase
  | gate
  deriving DecidableEq, Repr

/-- `_PROJECT_ASSET_KINDS`. -/
def PROJECT_ASSET_KINDS : List RoadmapItemKind := [.phase, .gate, .milestone]

structure RoadmapSchedule where
  start : String := ""
  target : String := ""
  deriving DecidableEq, Repr

structure RoadmapItem where
  id : String
  kind : RoadmapItemKind
  title : String := ""
  description : String := ""
  taskId : String := ""
  projectAssetId : String := ""
  lane : String := "General"
  order : Int := 0
  schedule : RoadmapSchedule := {}
  deriving DecidableEq, Repr

/-- A roadmap; its items have distinct identities. -/
structure Roadmap where
  id : String
  title : String
  description : String := ""
  revision : Int := 1
  schemaVersion : Nat := 2
  items : List RoadmapItem := []
  uniqueItems : (items.map RoadmapItem.id).Nodup

end Execraft.Roadmaps
