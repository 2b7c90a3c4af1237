import Execraft.ProjectExecution.Validation
import Mathlib.Data.List.Perm.Basic
import Mathlib.Data.List.Sort

/-!
# Saving and reading a definition

The mapping form of every record that a constructor returned is read back as
the same record.  A whole definition comes back with its Tasks sorted, and its
mapping form, hence its digest, is unchanged.
-/

namespace Execraft.ProjectExecution

open Foundation Foundation.Json

variable {py : Python}

/-! ## Member lookups -/

theorem getField_append (name : String) (default : Json)
    (front back : List (String × Json)) :
    getField name default (front ++ back) =
      getField name (getField name default back) front := by
  induction front with
  | nil => rfl
  | cons head tail inductionHypothesis =>
      obtain ⟨headName, value⟩ := head
      rw [List.cons_append, getField_cons, getField_cons, inductionHypothesis]

/-- A member that is left out when its value is the default. -/
@[simp]
theorem getField_ite (name : String) (default : Json) (present : Prop)
    [Decidable present] (fields others : List (String × Json)) :
    getField name default (if present then fields else others) =
      if present then getField name default fields
      else getField name default others := by
  split_ifs <;> rfl

theorem getField_optionalRows_description (description : String)
    (schedule : List (String × Json)) :
    getField "description" (.string "") (optionalRows description schedule) =
      .string description := by
  by_cases empty : description = ""
  · simp [optionalRows, empty]
  · simp [optionalRows, empty]

theorem getField_optionalRows_schedule (description : String)
    (schedule : List (String × Json)) :
    getField "schedule" .null (optionalRows description schedule) =
      if schedule = [] then .null else .object schedule := by
  by_cases empty : description = ""
  · by_cases noSchedule : schedule = []
    · simp [optionalRows, empty, noSchedule]
    · simp [optionalRows, empty, noSchedule]
  · by_cases noSchedule : schedule = []
    · simp [optionalRows, empty, noSchedule]
    · simp [optionalRows, empty, noSchedule]

theorem getField_optionalRows_other {name : String} {default : Json}
    {description : String} {schedule : List (String × Json)}
    (notDescription : name ≠ "description") (notSchedule : name ≠ "schedule") :
    getField name default (optionalRows description schedule) = default := by
  by_cases empty : description = ""
  · by_cases noSchedule : schedule = []
    · simp [optionalRows, empty, noSchedule]
    · simp [optionalRows, empty, noSchedule, notSchedule.symm]
  · by_cases noSchedule : schedule = []
    · simp [optionalRows, empty, noSchedule, notDescription.symm]
    · simp [optionalRows, empty, noSchedule, notDescription.symm,
        notSchedule.symm]

/-! ## Schedules -/

namespace ProjectSchedule

def Constructs (py : Python) (schedule : ProjectSchedule) : Prop :=
  ∃ start target, new py start target = .ok schedule

theorem new_fixed {schedule : ProjectSchedule} (constructs : schedule.Constructs py) :
    new py (.string schedule.start) (.string schedule.target) = .ok schedule := by
  obtain ⟨start, target, constructed⟩ := constructs
  obtain ⟨_, startValid, rest⟩ := bind_eq_ok.mp constructed
  obtain ⟨_, targetValid, rest⟩ := bind_eq_ok.mp rest
  obtain ⟨ordered, finished⟩ := unit_bind_eq_ok.mp rest
  cases finished
  refine bind_eq_ok.mpr ⟨_, isoDate_fixed startValid _, ?_⟩
  refine bind_eq_ok.mpr ⟨_, isoDate_fixed targetValid _, ?_⟩
  exact unit_bind_eq_ok.mpr ⟨ordered, rfl⟩

theorem fromMapping_asMapping {schedule : ProjectSchedule}
    (constructs : schedule.Constructs py) :
    fromMapping py (.object schedule.asMapping) = .ok schedule := by
  have fixed := new_fixed constructs
  by_cases noStart : schedule.start = ""
  · by_cases noTarget : schedule.target = ""
    · simpa [fromMapping, optionalMapping, asMapping, noStart, noTarget]
        using fixed
    · simpa [fromMapping, optionalMapping, asMapping, noStart, noTarget]
        using fixed
  · by_cases noTarget : schedule.target = ""
    · simpa [fromMapping, optionalMapping, asMapping, noStart, noTarget]
        using fixed
    · simpa [fromMapping, optionalMapping, asMapping, noStart, noTarget]
        using fixed

/-- The schedule member of a row, left out when it says nothing. -/
theorem fromMapping_row {schedule : ProjectSchedule}
    (constructs : schedule.Constructs py) :
    fromMapping py (if schedule.asMapping = [] then .null
      else .object schedule.asMapping) = .ok schedule := by
  by_cases silent : schedule.asMapping = []
  · rw [if_pos silent]
    have read := fromMapping_asMapping constructs
    rw [silent] at read
    exact read
  · rw [if_neg silent]
    exact fromMapping_asMapping constructs

end ProjectSchedule

/-! ## Phases -/

namespace ProjectPhase

def Constructs (py : Python) (phase : ProjectPhase) : Prop :=
  phase.schedule.Constructs py ∧
    ∃ id title description entryGates exitGates tasks milestones,
      new py id title description phase.schedule entryGates exitGates tasks
        milestones = .ok phase

theorem fromMapping_asMapping {phase : ProjectPhase}
    (constructs : phase.Constructs py) :
    fromMapping py (.object phase.asMapping) = .ok phase := by
  obtain ⟨scheduleConstructs, id, title, description, entryGates, exitGates,
    tasks, milestones, constructed⟩ := constructs
  obtain ⟨_, idValid, rest⟩ := bind_eq_ok.mp constructed
  obtain ⟨_, titleValid, rest⟩ := bind_eq_ok.mp rest
  obtain ⟨_, descriptionValid, rest⟩ := bind_eq_ok.mp rest
  obtain ⟨_, entryValid, rest⟩ := bind_eq_ok.mp rest
  obtain ⟨_, exitValid, rest⟩ := bind_eq_ok.mp rest
  obtain ⟨_, tasksValid, rest⟩ := bind_eq_ok.mp rest
  obtain ⟨_, milestonesValid, rest⟩ := bind_eq_ok.mp rest
  have scheduleRead := ProjectSchedule.fromMapping_row scheduleConstructs
  generalize schedule_eq : phase.schedule = schedule at *
  cases rest
  refine bind_eq_ok.mpr ⟨_, rfl, ?_⟩
  simp only [asMapping, List.cons_append, List.nil_append, getField_cons,
    getField_optionalRows_description, getField_optionalRows_schedule,
    String.reduceEq, if_true, if_false]
  refine bind_eq_ok.mpr ⟨_, scheduleRead, ?_⟩
  refine bind_eq_ok.mpr ⟨_, assetIds_fixed entryValid, ?_⟩
  refine bind_eq_ok.mpr ⟨_, assetIds_fixed exitValid, ?_⟩
  refine bind_eq_ok.mpr ⟨_, taskIds_fixed tasksValid, ?_⟩
  refine bind_eq_ok.mpr ⟨_, assetIds_fixed milestonesValid, ?_⟩
  refine bind_eq_ok.mpr ⟨_, validateAssetId_fixed idValid _, ?_⟩
  refine bind_eq_ok.mpr ⟨_, boundedText_fixed titleValid, ?_⟩
  refine bind_eq_ok.mpr ⟨_, boundedText_fixed descriptionValid, ?_⟩
  refine bind_eq_ok.mpr ⟨_, assetIds_fixed entryValid, ?_⟩
  refine bind_eq_ok.mpr ⟨_, assetIds_fixed exitValid, ?_⟩
  refine bind_eq_ok.mpr ⟨_, taskIds_fixed tasksValid, ?_⟩
  exact bind_eq_ok.mpr ⟨_, assetIds_fixed milestonesValid, rfl⟩

end ProjectPhase

/-! ## Tasks -/

namespace TaskRequirements

def Constructs (py : Python) (requirements : TaskRequirements) : Prop :=
  ∃ tasks gates, new py tasks gates = .ok requirements

theorem fromMapping_asMapping {requirements : TaskRequirements}
    (constructs : requirements.Constructs py) :
    fromMapping py (.object requirements.asMapping) = .ok requirements := by
  obtain ⟨tasks, gates, constructed⟩ := constructs
  obtain ⟨_, tasksValid, rest⟩ := bind_eq_ok.mp constructed
  obtain ⟨_, gatesValid, rest⟩ := bind_eq_ok.mp rest
  cases rest
  rw [fromMapping, optionalMapping]
  refine unit_bind_eq_ok.mpr ⟨?_, ?_⟩
  · rw [raiseIf_eq_ok, not_not]
    apply unknownNames_eq_nil
    simp [asMapping]
  · simp only [asMapping, getField_cons, String.reduceEq, if_true, if_false]
    refine bind_eq_ok.mpr ⟨_, taskIds_fixed tasksValid, ?_⟩
    refine bind_eq_ok.mpr ⟨_, assetIds_fixed gatesValid, ?_⟩
    refine bind_eq_ok.mpr ⟨_, taskIds_fixed tasksValid, ?_⟩
    exact bind_eq_ok.mpr ⟨_, assetIds_fixed gatesValid, rfl⟩

end TaskRequirements

namespace ProjectTask

def Constructs (py : Python) (task : ProjectTask) : Prop :=
  task.requires.Constructs py ∧
    ∃ taskId phase required,
      new py taskId phase required task.requires = .ok task

theorem fromMapping_asMapping {task : ProjectTask}
    (constructs : task.Constructs py) :
    fromMapping py task.taskId (.object task.asMapping) = .ok task := by
  obtain ⟨requiresConstructs, taskId, phase, required, constructed⟩ := constructs
  obtain ⟨_, idValid, rest⟩ := bind_eq_ok.mp constructed
  obtain ⟨_, phaseValid, rest⟩ := bind_eq_ok.mp rest
  obtain ⟨_, _, rest⟩ := bind_eq_ok.mp rest
  have requiresRead := TaskRequirements.fromMapping_asMapping requiresConstructs
  generalize requires_eq : task.requires = requires at *
  cases rest
  refine bind_eq_ok.mpr ⟨_, rfl, ?_⟩
  simp only [asMapping, getField_cons, String.reduceEq, if_true, if_false]
  refine bind_eq_ok.mpr ⟨_, requiresRead, ?_⟩
  refine bind_eq_ok.mpr ⟨_, validateTaskReference_fixed idValid, ?_⟩
  refine bind_eq_ok.mpr ⟨_, validateAssetId_fixed phaseValid _, ?_⟩
  exact bind_eq_ok.mpr ⟨_, rfl, rfl⟩

end ProjectTask

/-! ## Gates -/

namespace GateCriterion

def Constructs (py : Python) (criterion : GateCriterion) : Prop :=
  ∃ type taskId gateId outcome artifactId,
    new py type taskId gateId outcome artifactId = .ok criterion

/-- An optional reference, checked when present, is its own check's result. -/
private theorem optionalReference_fixed {check : Json → Outcome String}
    (fixed : ∀ value text, check value = .ok text → check (.string text) = .ok text)
    {value : Json} {text : String}
    (valid : optionalReference check value = .ok text) :
    optionalReference check (.string text) = .ok text := by
  unfold optionalReference at valid ⊢
  by_cases empty : text = ""
  · rw [empty]
    rfl
  · have present : truthy (.string text) = true := by
      simp [truthy, empty]
    rw [if_pos present]
    split_ifs at valid with given
    · exact fixed value text valid
    · cases valid
      exact absurd rfl empty

private theorem getField_textRow (name text : String) :
    getField name (.string "") (textRow name text) = .string text := by
  by_cases empty : text = ""
  · simp [textRow, empty]
  · simp [textRow, empty]

private theorem getField_textRow_other {name other : String} {default : Json}
    (different : other ≠ name) (text : String) :
    getField name default (textRow other text) = default := by
  by_cases empty : text = ""
  · simp [textRow, empty]
  · simp [textRow, empty, different]

theorem new_fixed {criterion : GateCriterion} (constructs : criterion.Constructs py) :
    new py (.string criterion.type.value) (.string criterion.taskId)
      (.string criterion.gateId) (.string criterion.outcome)
      (.string criterion.artifactId) = .ok criterion := by
  obtain ⟨type, taskId, gateId, outcome, artifactId, constructed⟩ := constructs
  cases known : CriterionType.ofValue (py.lowerString (py.textOr type)) with
  | none =>
      rw [new, known] at constructed
      exact absurd constructed (by simp)
  | some kind =>
      have typeText : py.lowerString (py.textOr type) = kind.value := by
        simpa [CriterionType.ofValue] using List.find?_some known
      have typeAgain :
          py.lowerString (py.textOr (.string kind.value)) = kind.value := by
        rw [← typeText, py.textOr_lowerString, py.lowerString_lowerString]
      rw [new, known] at constructed
      obtain ⟨_, taskValid, rest⟩ := bind_eq_ok.mp constructed
      obtain ⟨_, gateValid, rest⟩ := bind_eq_ok.mp rest
      obtain ⟨_, artifactValid, rest⟩ := bind_eq_ok.mp rest
      obtain ⟨taskFits, rest⟩ := unit_bind_eq_ok.mp rest
      obtain ⟨gateFits, rest⟩ := unit_bind_eq_ok.mp rest
      obtain ⟨outcomeFits, rest⟩ := unit_bind_eq_ok.mp rest
      obtain ⟨artifactNeeded, rest⟩ := unit_bind_eq_ok.mp rest
      obtain ⟨artifactFits, rest⟩ := unit_bind_eq_ok.mp rest
      cases rest
      -- The default outcome "passed" is a fixed point too.
      have outcomeAgain : py.lowerString (py.textOr (.string
          (if kind = .taskVerification ∧ py.lowerString (py.textOr outcome) = ""
            then "passed" else py.lowerString (py.textOr outcome)))) =
          if kind = .taskVerification ∧ py.lowerString (py.textOr outcome) = ""
            then "passed" else py.lowerString (py.textOr outcome) := by
        split_ifs with missing
        · have stripped : py.textOr (.string "passed") = "passed" := by
            rw [py.textOr_string]
            decide
          rw [stripped]
          exact py.lowerString_ascii (List.all_iff_forall_prop.mp (by decide))
        · rw [py.textOr_lowerString, py.lowerString_lowerString]
      simp only [new, typeAgain, CriterionType.ofValue_value, outcomeAgain]
      have taskAgain := optionalReference_fixed (by
        intro value text valid
        exact validateTaskReference_fixed valid) taskValid
      have gateAgain := optionalReference_fixed (by
        intro value text valid
        exact validateAssetId_fixed valid _) gateValid
      refine bind_eq_ok.mpr ⟨_, taskAgain, ?_⟩
      refine bind_eq_ok.mpr ⟨_, gateAgain, ?_⟩
      refine bind_eq_ok.mpr ⟨_, boundedText_fixed artifactValid, ?_⟩
      refine unit_bind_eq_ok.mpr ⟨taskFits, ?_⟩
      refine unit_bind_eq_ok.mpr ⟨gateFits, ?_⟩
      refine unit_bind_eq_ok.mpr ⟨?_, ?_⟩
      · rw [raiseIf_eq_ok] at outcomeFits ⊢
        rintro ⟨notVerification, present⟩
        rw [if_neg fun missing => notVerification missing.1] at present
        exact outcomeFits ⟨notVerification, present⟩
      · refine unit_bind_eq_ok.mpr ⟨artifactNeeded, ?_⟩
        refine unit_bind_eq_ok.mpr ⟨artifactFits, ?_⟩
        by_cases missing : kind = .taskVerification ∧
            py.lowerString (py.textOr outcome) = ""
        · simp [missing]
        · simp [missing]

theorem fromMapping_asMapping {criterion : GateCriterion}
    (constructs : criterion.Constructs py) :
    fromMapping py (.object criterion.asMapping) = .ok criterion := by
  have fixed := new_fixed constructs
  refine bind_eq_ok.mpr ⟨_, rfl, ?_⟩
  refine unit_bind_eq_ok.mpr ⟨?_, ?_⟩
  · rw [raiseIf_eq_ok, not_not]
    apply unknownNames_eq_nil
    intro field member
    simp only [asMapping, textRow, List.mem_append, List.mem_ite_nil_right,
      List.mem_singleton] at member
    rcases member with rfl | ⟨_, rfl⟩ | ⟨_, rfl⟩ | ⟨_, rfl⟩ | ⟨_, rfl⟩ <;> simp
  · have typeField : getField "type" (.string "") criterion.asMapping =
        .string criterion.type.value := by
      simp [asMapping]
    have taskField : getField "task_id" (.string "") criterion.asMapping =
        .string criterion.taskId := by
      simp [asMapping, getField_append, getField_textRow, getField_textRow_other]
    have gateField : getField "gate_id" (.string "") criterion.asMapping =
        .string criterion.gateId := by
      simp [asMapping, getField_append, getField_textRow, getField_textRow_other]
    have outcomeField : getField "outcome" (.string "") criterion.asMapping =
        .string criterion.outcome := by
      simp [asMapping, getField_append, getField_textRow, getField_textRow_other]
    have artifactField :
        getField "artifact_id" (.string "") criterion.asMapping =
          .string criterion.artifactId := by
      simp [asMapping, getField_append, getField_textRow, getField_textRow_other]
    rw [typeField, taskField, gateField, outcomeField, artifactField]
    exact fixed

end GateCriterion

/-- A list of rows is read back row by row. -/
theorem mapM_read {Row Written : Type} {write : Row → Written}
    {read : Written → Outcome Row}
    {rows : List Row} (each : ∀ row ∈ rows, read (write row) = .ok row) :
    (rows.map write).mapM read = .ok rows := by
  induction rows with
  | nil => rfl
  | cons head tail inductionHypothesis =>
      rw [List.map_cons, List.mapM_cons, each head (List.mem_cons_self ..),
        inductionHypothesis fun row member =>
          each row (List.mem_cons_of_mem _ member)]
      rfl

namespace ProjectGate

def Constructs (py : Python) (gate : ProjectGate) : Prop :=
  gate.schedule.Constructs py ∧
    (∀ criterion ∈ gate.criteria, criterion.Constructs py) ∧
    ∃ id title description,
      new py id title description gate.schedule gate.criteria = .ok gate

theorem fromMapping_asMapping {gate : ProjectGate}
    (constructs : gate.Constructs py) :
    fromMapping py (.object gate.asMapping) = .ok gate := by
  obtain ⟨scheduleConstructs, criteriaConstruct, id, title, description,
    constructed⟩ := constructs
  obtain ⟨_, idValid, rest⟩ := bind_eq_ok.mp constructed
  obtain ⟨_, titleValid, rest⟩ := bind_eq_ok.mp rest
  obtain ⟨_, descriptionValid, rest⟩ := bind_eq_ok.mp rest
  obtain ⟨someCriteria, rest⟩ := unit_bind_eq_ok.mp rest
  obtain ⟨oneApproval, rest⟩ := unit_bind_eq_ok.mp rest
  have scheduleRead := ProjectSchedule.fromMapping_row scheduleConstructs
  have criteriaRead : (gate.criteria.map fun criterion =>
      Json.object criterion.asMapping).mapM (GateCriterion.fromMapping py) =
      .ok gate.criteria :=
    mapM_read fun criterion member =>
      GateCriterion.fromMapping_asMapping (criteriaConstruct criterion member)
  generalize schedule_eq : gate.schedule = schedule at *
  generalize criteria_eq : gate.criteria = criteria at *
  cases rest
  refine bind_eq_ok.mpr ⟨_, rfl, ?_⟩
  simp only [asMapping, List.cons_append, List.nil_append, getField_cons,
    getField_optionalRows_description, getField_optionalRows_schedule,
    String.reduceEq, if_true, if_false]
  have rows : criteriaRows (.object [("all", .array
      (criteria.map fun criterion => .object criterion.asMapping))]) =
      .ok (criteria.map fun criterion => .object criterion.asMapping) := by
    refine unit_bind_eq_ok.mpr ⟨?_, by simp [sequence]⟩
    rw [raiseIf_eq_ok, not_not]
    apply unknownNames_eq_nil
    simp
  refine bind_eq_ok.mpr ⟨_, rows, ?_⟩
  refine bind_eq_ok.mpr ⟨_, criteriaRead, ?_⟩
  refine bind_eq_ok.mpr ⟨_, scheduleRead, ?_⟩
  refine bind_eq_ok.mpr ⟨_, validateAssetId_fixed idValid _, ?_⟩
  refine bind_eq_ok.mpr ⟨_, boundedText_fixed titleValid, ?_⟩
  refine bind_eq_ok.mpr ⟨_, boundedText_fixed descriptionValid, ?_⟩
  refine unit_bind_eq_ok.mpr ⟨someCriteria, ?_⟩
  exact unit_bind_eq_ok.mpr ⟨oneApproval, rfl⟩

end ProjectGate

/-! ## Milestones -/

namespace MilestoneRequirements

def Constructs (py : Python) (requirements : MilestoneRequirements) : Prop :=
  ∃ tasks gates milestones, new py tasks gates milestones = .ok requirements

theorem fromMapping_asMapping {requirements : MilestoneRequirements}
    (constructs : requirements.Constructs py) :
    fromMapping py (.object requirements.asMapping) = .ok requirements := by
  obtain ⟨tasks, gates, milestones, constructed⟩ := constructs
  obtain ⟨_, tasksValid, rest⟩ := bind_eq_ok.mp constructed
  obtain ⟨_, gatesValid, rest⟩ := bind_eq_ok.mp rest
  obtain ⟨_, milestonesValid, rest⟩ := bind_eq_ok.mp rest
  cases rest
  rw [fromMapping, optionalMapping]
  refine unit_bind_eq_ok.mpr ⟨?_, ?_⟩
  · rw [raiseIf_eq_ok, not_not]
    apply unknownNames_eq_nil
    simp [asMapping]
  · simp only [asMapping, getField_cons, String.reduceEq, if_true, if_false]
    refine bind_eq_ok.mpr ⟨_, taskIds_fixed tasksValid, ?_⟩
    refine bind_eq_ok.mpr ⟨_, assetIds_fixed gatesValid, ?_⟩
    refine bind_eq_ok.mpr ⟨_, assetIds_fixed milestonesValid, ?_⟩
    refine bind_eq_ok.mpr ⟨_, taskIds_fixed tasksValid, ?_⟩
    refine bind_eq_ok.mpr ⟨_, assetIds_fixed gatesValid, ?_⟩
    exact bind_eq_ok.mpr ⟨_, assetIds_fixed milestonesValid, rfl⟩

end MilestoneRequirements

namespace ProjectMilestone

def Constructs (py : Python) (milestone : ProjectMilestone) : Prop :=
  milestone.requires.Constructs py ∧
    ∃ id title description start target deliveryPolicy,
      new py id title description start target milestone.requires
        deliveryPolicy = .ok milestone

/-- The start date travels alone in a schedule. -/
private theorem schedule_read {start : String}
    (valid : isoDate py "schedule start" (.string start) = .ok start) :
    ProjectSchedule.fromMapping py
        (if (if start ≠ "" then [("start", Json.string start)] else []) = []
          then .null
          else .object (if start ≠ "" then [("start", .string start)] else [])) =
      .ok ⟨start, ""⟩ := by
  have built : ProjectSchedule.new py (.string start) (.string "") =
      .ok ⟨start, ""⟩ := by
    refine bind_eq_ok.mpr ⟨_, valid, ?_⟩
    refine bind_eq_ok.mpr ⟨_, rfl, ?_⟩
    exact unit_bind_eq_ok.mpr ⟨by simp, rfl⟩
  by_cases empty : start = ""
  · subst empty
    simpa [ProjectSchedule.fromMapping, optionalMapping] using built
  · simpa [ProjectSchedule.fromMapping, optionalMapping, empty] using built

theorem fromMapping_asMapping {milestone : ProjectMilestone}
    (constructs : milestone.Constructs py) :
    fromMapping py (.object milestone.asMapping) = .ok milestone := by
  obtain ⟨requiresConstructs, id, title, description, start, target,
    deliveryPolicy, constructed⟩ := constructs
  obtain ⟨_, idValid, rest⟩ := bind_eq_ok.mp constructed
  obtain ⟨_, titleValid, rest⟩ := bind_eq_ok.mp rest
  obtain ⟨descriptionText, descriptionValid, rest⟩ := bind_eq_ok.mp rest
  obtain ⟨startText, startValid, rest⟩ := bind_eq_ok.mp rest
  obtain ⟨targetText, targetValid, rest⟩ := bind_eq_ok.mp rest
  obtain ⟨inOrder, rest⟩ := unit_bind_eq_ok.mp rest
  cases known : DeliveryPolicy.ofValue deliveryPolicy with
  | none =>
      rw [known] at rest
      exact absurd rest (by simp)
  | some policy =>
      rw [known] at rest
      have requiresRead :=
        MilestoneRequirements.fromMapping_asMapping requiresConstructs
      generalize requires_eq : milestone.requires = requires at *
      cases rest
      refine bind_eq_ok.mpr ⟨_, rfl, ?_⟩
      simp only [asMapping, List.cons_append, List.nil_append, getField_cons,
        String.reduceEq, if_true, if_false, getField_append, getField_ite,
        getField_nil, ite_self, getField_optionalRows_description,
        getField_optionalRows_schedule]
      have delivery : deliveryFields (.object
          [("policy", .string policy.value)]) =
          .ok [("policy", .string policy.value)] := by
        simp [deliveryFields, truthy, mappingOr]
      refine bind_eq_ok.mpr ⟨_, delivery, ?_⟩
      refine bind_eq_ok.mpr ⟨_, schedule_read (isoDate_fixed startValid _), ?_⟩
      refine bind_eq_ok.mpr ⟨_, requiresRead, ?_⟩
      refine bind_eq_ok.mpr ⟨_, validateAssetId_fixed idValid _, ?_⟩
      refine bind_eq_ok.mpr ⟨_, boundedText_fixed titleValid, ?_⟩
      refine bind_eq_ok.mpr ⟨_, boundedText_fixed descriptionValid, ?_⟩
      refine bind_eq_ok.mpr ⟨_, isoDate_fixed startValid _, ?_⟩
      have targetRow : ∀ rows, getField "target"
          (if targetText ≠ "" then Json.string targetText else .string "")
          (optionalRows descriptionText rows) = .string targetText := by
        intro rows
        rw [getField_optionalRows_other (by decide) (by decide)]
        split_ifs with empty
        · rfl
        · rw [not_not.mp empty]
      rw [targetRow]
      refine bind_eq_ok.mpr ⟨_, isoDate_fixed targetValid _, ?_⟩
      refine unit_bind_eq_ok.mpr ⟨inOrder, ?_⟩
      simp [DeliveryPolicy.ofValue_value]

end ProjectMilestone

/-! ## Definitions -/

def ProjectExecutionPolicy.Constructs (policy : ProjectExecutionPolicy) : Prop :=
  ∃ tasks perPhase phases behavior, new tasks perPhase phases behavior = .ok policy

namespace ProjectExecutionDefinition

/-- The definition and all its records come from their constructors. -/
structure Constructs (py : Python) (definition : ProjectExecutionDefinition) :
    Prop where
  phases : ∀ phase ∈ definition.phases, phase.Constructs py
  tasks : ∀ task ∈ definition.tasks, task.Constructs py
  gates : ∀ gate ∈ definition.gates, gate.Constructs py
  milestones : ∀ milestone ∈ definition.milestones, milestone.Constructs py
  policy : definition.policy.Constructs
  constructed : ∃ project revision mode,
    new py project revision mode definition.phases definition.tasks
      definition.gates definition.milestones definition.policy
      definition.schemaVersion = .ok definition

/-- The scalar fields that the constructor returns, and its checks of them. -/
theorem new_eq_ok {project revision mode : Json} {phases : List ProjectPhase}
    {tasks : List ProjectTask} {gates : List ProjectGate}
    {milestones : List ProjectMilestone} {policy : ProjectExecutionPolicy}
    {schemaVersion : Int} {definition : ProjectExecutionDefinition} :
    new py project revision mode phases tasks gates milestones policy
        schemaVersion = .ok definition ↔
      schemaVersion = PROJECT_EXECUTION_SCHEMA_VERSION ∧
      validateProjectId py project = .ok definition.project ∧
      py.toInt revision = some definition.revision ∧ 1 ≤ definition.revision ∧
      ExecutionMode.ofValue mode = some definition.mode ∧
      definition.UniqueIds ∧
      definition = ⟨definition.project, definition.revision, definition.mode,
        phases, tasks, gates, milestones, policy, schemaVersion⟩ := by
  rw [new, unit_bind_eq_ok, raiseIf_eq_ok, not_not]
  refine and_congr_right fun _ => ?_
  rw [bind_eq_ok]
  constructor
  · rintro ⟨projectText, projectValid, rest⟩
    cases number : py.toInt revision with
    | none =>
        rw [number] at rest
        exact absurd rest (by simp)
    | some revisionNumber =>
        rw [number] at rest
        obtain ⟨positive, rest⟩ := unit_bind_eq_ok.mp rest
        rw [raiseIf_eq_ok] at positive
        cases known : ExecutionMode.ofValue mode with
        | none =>
            rw [known] at rest
            exact absurd rest (by simp)
        | some executionMode =>
            rw [known] at rest
            obtain ⟨unique, rest⟩ := unit_bind_eq_ok.mp rest
            cases rest
            exact ⟨projectValid, rfl, Int.not_lt.mp positive, rfl,
              validateUniqueIds_eq_ok.mp unique, rfl⟩
  · rintro ⟨projectValid, number, positive, known, unique, shape⟩
    refine ⟨_, projectValid, ?_⟩
    rw [number]
    refine unit_bind_eq_ok.mpr ⟨by rw [raiseIf_eq_ok]; omega, ?_⟩
    rw [known]
    rw [shape] at unique
    refine unit_bind_eq_ok.mpr ⟨validateUniqueIds_eq_ok.mpr unique, ?_⟩
    exact congrArg _ shape.symm

theorem Constructs.uniqueIds {definition : ProjectExecutionDefinition}
    (constructs : definition.Constructs py) : definition.UniqueIds := by
  obtain ⟨project, revision, mode, constructed⟩ := constructs.constructed
  exact (new_eq_ok.mp constructed).2.2.2.2.2.1

/-- The definition with its Tasks in the order of the file. -/
def sorted (definition : ProjectExecutionDefinition) :
    ProjectExecutionDefinition :=
  { definition with tasks := sortedTasks definition.tasks }

theorem sortedTasks_perm (tasks : List ProjectTask) :
    (sortedTasks tasks).Perm tasks :=
  List.mergeSort_perm ..

theorem sortedTasks_sortedTasks (tasks : List ProjectTask) :
    sortedTasks (sortedTasks tasks) = sortedTasks tasks := by
  apply List.mergeSort_of_pairwise
  apply List.pairwise_mergeSort
  · intro first second third firstBelow secondBelow
    simp only [decide_eq_true_eq] at firstBelow secondBelow ⊢
    exact le_trans firstBelow secondBelow
  · intro first second
    simpa using le_total first.taskId second.taskId

theorem asMapping_sorted (definition : ProjectExecutionDefinition) :
    definition.sorted.asMapping = definition.asMapping := by
  simp only [asMapping, sorted, sortedTasks_sortedTasks]

theorem sorted_uniqueIds {definition : ProjectExecutionDefinition}
    (unique : definition.UniqueIds) : definition.sorted.UniqueIds := by
  refine ⟨unique.phases, unique.gates, unique.milestones, ?_, unique.assets⟩
  exact ((sortedTasks_perm definition.tasks).map _).nodup_iff.mpr unique.tasks

/-- Reading a saved definition gives the definition with its Tasks sorted. -/
theorem fromMapping_asMapping_sorted {definition : ProjectExecutionDefinition}
    (constructs : definition.Constructs py) (valid : Validated definition) :
    fromMapping py (.object definition.asMapping) = .ok definition.sorted := by
  obtain ⟨project, revision, mode, constructed⟩ := constructs.constructed
  obtain ⟨schema, projectValid, _, positive, _, unique, _⟩ :=
    new_eq_ok.mp constructed
  have phasesRead : (definition.phases.map fun phase =>
      Json.object phase.asMapping).mapM (ProjectPhase.fromMapping py) =
      .ok definition.phases :=
    mapM_read fun phase member =>
      ProjectPhase.fromMapping_asMapping (constructs.phases phase member)
  have gatesRead : (definition.gates.map fun gate =>
      Json.object gate.asMapping).mapM (ProjectGate.fromMapping py) =
      .ok definition.gates :=
    mapM_read fun gate member =>
      ProjectGate.fromMapping_asMapping (constructs.gates gate member)
  have milestonesRead : (definition.milestones.map fun milestone =>
      Json.object milestone.asMapping).mapM (ProjectMilestone.fromMapping py) =
      .ok definition.milestones :=
    mapM_read fun milestone member => ProjectMilestone.fromMapping_asMapping
      (constructs.milestones milestone member)
  have tasksRead : ((sortedTasks definition.tasks).map fun task =>
      (task.taskId, Json.object task.asMapping)).mapM
        (fun row => ProjectTask.fromMapping py row.1 row.2) =
      .ok (sortedTasks definition.tasks) :=
    mapM_read fun task member => ProjectTask.fromMapping_asMapping
      (constructs.tasks task ((sortedTasks_perm _).mem_iff.mp member))
  have taskRows : taskFields (.object ((sortedTasks definition.tasks).map
      fun task => (task.taskId, Json.object task.asMapping))) =
      .ok ((sortedTasks definition.tasks).map fun task =>
        (task.taskId, Json.object task.asMapping)) := by
    cases sortedTasks definition.tasks with
    | nil => rfl
    | cons head tail => rfl
  obtain ⟨_, _, _, _, policyConstructed⟩ := constructs.policy
  have policyRead := ProjectExecutionPolicy.fromMapping_asMapping
    (ProjectExecutionPolicy.new_valid policyConstructed)
  refine bind_eq_ok.mpr ⟨_, rfl, ?_⟩
  simp only [asMapping, getField_cons, String.reduceEq, if_true, if_false,
    sequence]
  refine bind_eq_ok.mpr ⟨_, rfl, bind_eq_ok.mpr ⟨_, phasesRead, ?_⟩⟩
  refine bind_eq_ok.mpr ⟨_, rfl, bind_eq_ok.mpr ⟨_, gatesRead, ?_⟩⟩
  refine bind_eq_ok.mpr ⟨_, rfl, bind_eq_ok.mpr ⟨_, milestonesRead, ?_⟩⟩
  refine bind_eq_ok.mpr ⟨_, taskRows, bind_eq_ok.mpr ⟨_, tasksRead, ?_⟩⟩
  simp only [Python.toInt]
  refine bind_eq_ok.mpr ⟨_, policyRead, ?_⟩
  refine bind_eq_ok.mpr ⟨definition.sorted, ?_, ?_⟩
  · exact new_eq_ok.mpr ⟨schema, validateProjectId_fixed projectValid, rfl,
      positive, ExecutionMode.ofValue_value _, sorted_uniqueIds unique, rfl⟩
  · have sortedValid := valid.perm unique.tasks
      (sortedTasks_perm definition.tasks).symm
    refine unit_bind_eq_ok.mpr ⟨?_, rfl⟩
    exact (validateDefinition_eq_ok (sorted_uniqueIds unique).tasks).mpr
      ⟨sortedValid, by simp⟩

/-- A definition that constructs and validates is read back from its own
mapping, equal up to the order of its Tasks, and maps to the same form. -/
theorem definition_reloads {definition : ProjectExecutionDefinition}
    {taskExists : Option (String → Bool)}
    (constructs : definition.Constructs py)
    (valid : validateDefinition py definition taskExists = .ok ()) :
    ∃ reloaded, fromMapping py (.object definition.asMapping) = .ok reloaded ∧
      reloaded.tasks.Perm definition.tasks ∧
      { reloaded with tasks := definition.tasks } = definition ∧
      reloaded.asMapping = definition.asMapping := by
  have validated :=
    ((validateDefinition_eq_ok constructs.uniqueIds.tasks).mp valid).1
  exact ⟨definition.sorted, fromMapping_asMapping_sorted constructs validated,
    sortedTasks_perm _, rfl, asMapping_sorted definition⟩

/-- Two Tasks in one Phase, out of order, with a Gate and a Milestone. -/
def sample : ProjectExecutionDefinition where
  project := "demo"
  revision := 3
  mode := .automatic
  phases := [⟨"build", "Build", "", ⟨"2026-01-05", ""⟩, [], ["review"],
    ["task-b", "task-a"], ["beta"]⟩]
  tasks := [⟨"task-b", "build", true, ⟨["task-a"], []⟩⟩,
    ⟨"task-a", "build", false, ⟨[], []⟩⟩]
  gates := [⟨"review", "Review", "Who signs", ⟨"", ""⟩,
    [⟨.taskVerification, "task-b", "", "passed", ""⟩,
      ⟨.humanApproval, "", "", "", ""⟩]⟩]
  milestones := [⟨"beta", "Beta", "", "2026-01-05", "2026-02-01",
    ⟨["task-b"], ["review"], []⟩, .candidate⟩]
  policy := ⟨4, 2, 1, .hold⟩
  schemaVersion := 1

theorem sample_constructs : sample.Constructs asciiPython where
  phases := by
    intro phase member
    rw [List.mem_singleton.mp member]
    refine ⟨⟨.string "2026-01-05", .null, by decide +kernel⟩,
      .string "build", .string "Build", .null, .null, .array [.string "review"],
      .array [.string "task-b", .string "task-a"], .array [.string "beta"], ?_⟩
    decide +kernel
  tasks := by
    intro task member
    simp only [sample, List.mem_cons, List.not_mem_nil, or_false] at member
    rcases member with rfl | rfl
    · refine ⟨⟨.array [.string "task-a"], .null, by decide +kernel⟩,
        .string "task-b", .string "build", .bool true, ?_⟩
      decide +kernel
    · refine ⟨⟨.null, .null, by decide +kernel⟩,
        .string "task-a", .string "build", .bool false, ?_⟩
      decide +kernel
  gates := by
    intro gate member
    rw [List.mem_singleton.mp member]
    refine ⟨⟨.null, .null, by decide +kernel⟩, ?_, .string "review",
      .string "Review", .string "Who signs", by decide +kernel⟩
    intro criterion inGate
    simp only [List.mem_cons, List.not_mem_nil, or_false] at inGate
    rcases inGate with rfl | rfl
    · refine ⟨.string "Task_Verification", .string "task-b", .null, .null,
        .null, ?_⟩
      decide +kernel
    · refine ⟨.string "human_approval", .null, .null, .null, .null, ?_⟩
      decide +kernel
  milestones := by
    intro milestone member
    rw [List.mem_singleton.mp member]
    refine ⟨⟨.array [.string "task-b"], .array [.string "review"], .null,
      by decide +kernel⟩, .string "beta", .string "Beta", .null,
      .string "2026-01-05", .string "2026-02-01", .string "candidate", ?_⟩
    decide +kernel
  policy := ⟨.int 4, .int 2, .int 1, .string "hold", by decide +kernel⟩
  constructed := ⟨.string "demo", .int 3, .string "automatic",
    by decide +kernel⟩

theorem sample_reloads :
    ∃ reloaded,
      fromMapping asciiPython (.object sample.asMapping) = .ok reloaded ∧
      reloaded.tasks.Perm sample.tasks ∧
      { reloaded with tasks := sample.tasks } = sample ∧
      reloaded.asMapping = sample.asMapping :=
  definition_reloads sample_constructs
    (by decide +kernel : validateDefinition asciiPython sample none = .ok ())

end ProjectExecutionDefinition

end Execraft.ProjectExecution
