import Execraft.Foundation.Outcome
import Execraft.Foundation.Python
import Mathlib.Data.List.Dedup

/-!
# Validators of plain values

The scalar and sequence checks that the Project Execution value objects share.
Each of them accepts its own result again and leaves it as it is.
-/

namespace Execraft.ProjectExecution

open Foundation Foundation.Json

/-- `ProjectExecutionError` and its two subclasses. -/
inductive ProjectExecutionError where
  | error (message : String)
  | notFound (message : String)
  | conflict (message : String)
  deriving DecidableEq, Repr

abbrev Outcome := Except ProjectExecutionError

/-- `raise ProjectExecutionError(message)`. -/
def raise {α : Type} (message : String) : Outcome α :=
  .error (.error message)

@[simp]
theorem raise_ne_ok {α : Type} (message : String) (value : α) :
    raise message = .ok value ↔ False := by
  constructor
  · intro equality
    cases equality
  · exact False.elim

/-- `if bad: raise ProjectExecutionError(message)`. -/
def raiseIf (bad : Prop) [Decidable bad] (message : String) : Outcome Unit :=
  if bad then raise message else .ok ()

@[simp]
theorem raiseIf_eq_ok {bad : Prop} [Decidable bad] {message : String}
    {result : Unit} : raiseIf bad message = .ok result ↔ ¬ bad := by
  unfold raiseIf
  split_ifs with holds
  · simp [holds]
  · simp [holds]

def MAX_ASSET_ID_LENGTH : Nat := 96
def MAX_TITLE_LENGTH : Nat := 500
def MAX_TEXT_LENGTH : Nat := 20000

/-! ## Validators -/

section Validators

variable (py : Python)

/-- Asset and Project identifiers allow hyphens in a Python identifier. -/
def hyphenIdentifier (text : String) : Bool :=
  py.isidentifier (text.map fun character =>
    if character = '-' then '_' else character)

def validateAssetId (label : String) (value : Json) : Outcome String :=
  let text := py.textOr value
  if text = "" ∨ MAX_ASSET_ID_LENGTH < text.length ∨
      hyphenIdentifier py text = false then
    raise ("invalid " ++ label ++ ": " ++ py.repr text)
  else .ok text

/-- A character of `[a-z0-9]`. -/
def isTaskIdStart (character : Char) : Bool :=
  ('a' ≤ character && character ≤ 'z') || ('0' ≤ character && character ≤ '9')

/-- `TASK_ID_RE.fullmatch`. -/
def matchesTaskId (text : String) : Bool :=
  match text.toList with
  | [] => false
  | head :: tail =>
      isTaskIdStart head && tail.all fun character =>
        isTaskIdStart character || character = '.' || character = '_' ||
          character = '-'

/-- `validate_task_id`. -/
def validateTaskId (taskId : String) : Outcome String :=
  let value := stripString taskId
  if matchesTaskId value then .ok value
  else
    raise ("task_id must start with a lowercase letter or digit and contain " ++
      "only lowercase letters, digits, '.', '_' or '-'")

def validateTaskReference (value : Json) : Outcome String :=
  validateTaskId (py.textOr value)

/-- `validate_project_id`, with its error as the constructors raise it. -/
def validateProjectId (value : Json) : Outcome String :=
  let text := stripString (py.text value)
  if text = "" ∨ hyphenIdentifier py text = false then
    raise ("invalid project id: " ++ py.repr text)
  else .ok text

/-- `_text`. -/
def boundedText (label : String) (required : Bool) (limit : Nat)
    (value : Json) : Outcome String :=
  let text := py.textOr value
  if required ∧ text = "" then raise (label ++ " cannot be empty")
  else if limit < text.length then
    raise (label ++ " exceeds " ++ toString limit ++ " characters")
  else .ok text

/-- `_date`. -/
def isoDate (label : String) (value : Json) : Outcome String :=
  let text := py.textOr value
  if text = "" then .ok ""
  else
    match Text.dateFromIsoformat py.otherDates text.toList with
    | some date => .ok (String.ofList date.isoformat)
    | none => raise (label ++ " must be an ISO date (YYYY-MM-DD)")

/-- `_sequence`. -/
def sequence (label : String) : Json → Outcome (List Json)
  | .null => .ok []
  | .array elements => .ok elements
  | .string text =>
      if text = "" then .ok [] else raise (label ++ " must be a list")
  | _ => raise (label ++ " must be a list")

/-- `_ids` with the validator of its items. -/
def ids (validator : Json → Outcome String) (label : String) (raw : Json) :
    Outcome (List String) := do
  let values ← sequence label raw
  let result ← values.mapM validator
  if result.Nodup then .ok result
  else raise (label ++ " cannot contain duplicates")

/-- `_ids(raw, task=True, label=label)`. -/
def taskIds (label : String) (raw : Json) : Outcome (List String) :=
  ids (validateTaskReference py) label raw

/-- `_ids(raw, label=label)`. -/
def assetIds (label : String) (raw : Json) : Outcome (List String) :=
  ids (validateAssetId py "project asset id") label raw

end Validators

/-- `raw.get(name, default)`. -/
def getField (name : String) (default : Json) (fields : List (String × Json)) :
    Json :=
  (lookup name fields).getD default

/-- The sorted names outside `allowed`, joined for a message. -/
def unknownNames (allowed : List String) (fields : List (String × Json)) :
    List String :=
  ((fields.map Prod.fst).filter (· ∉ allowed)).dedup.mergeSort

def stringArray (values : List String) : Json :=
  .array (values.map Json.string)

@[simp]
theorem getField_nil (name : String) (default : Json) :
    getField name default [] = default :=
  rfl

@[simp]
theorem getField_cons (name : String) (default : Json) (head : String)
    (value : Json) (tail : List (String × Json)) :
    getField name default ((head, value) :: tail) =
      if head = name then value else getField name default tail := by
  unfold getField
  rw [lookup]
  split_ifs with same
  · rfl
  · rfl

theorem unknownNames_eq_nil {allowed : List String}
    {fields : List (String × Json)}
    (known : ∀ field ∈ fields, field.1 ∈ allowed) :
    unknownNames allowed fields = [] := by
  have nothing : (fields.map Prod.fst).filter (· ∉ allowed) = [] := by
    apply List.filter_eq_nil_iff.mpr
    intro name member
    obtain ⟨field, inFields, rfl⟩ := List.mem_map.mp member
    simpa using known field inFields
  rw [unknownNames, nothing, List.dedup_nil, List.mergeSort_nil]

/-! ## Validators accept their results -/

section Fixed

variable {py : Python} {label : String} {value : Json} {text : String}

theorem validateAssetId_eq_ok :
    validateAssetId py label value = .ok text ↔
      text = py.textOr value ∧ text ≠ "" ∧ text.length ≤ MAX_ASSET_ID_LENGTH ∧
        hyphenIdentifier py text = true := by
  simp only [validateAssetId]
  split_ifs with rejected
  · simp only [raise_ne_ok, false_iff]
    rintro ⟨rfl, nonempty, short, identifier⟩
    rcases rejected with empty | long | notIdentifier
    · exact nonempty empty
    · omega
    · rw [identifier] at notIdentifier
      cases notIdentifier
  · simp only [not_or, not_lt, Bool.not_eq_false] at rejected
    constructor
    · intro equality
      cases equality
      exact ⟨rfl, rejected⟩
    · rintro ⟨rfl, _⟩
      rfl

theorem validateAssetId_fixed (valid : validateAssetId py label value = .ok text)
    (other : String) : validateAssetId py other (.string text) = .ok text := by
  rw [validateAssetId_eq_ok] at valid ⊢
  obtain ⟨rfl, checks⟩ := valid
  exact ⟨(py.textOr_textOr value).symm, checks⟩

theorem validateTaskId_eq_ok {taskId : String} :
    validateTaskId taskId = .ok text ↔
      text = stripString taskId ∧ matchesTaskId text = true := by
  simp only [validateTaskId]
  split_ifs with matched
  · constructor
    · intro equality
      cases equality
      exact ⟨rfl, matched⟩
    · rintro ⟨rfl, _⟩
      rfl
  · simp only [raise_ne_ok, false_iff]
    rintro ⟨rfl, accepted⟩
    exact matched accepted

theorem validateTaskId_fixed {taskId : String}
    (valid : validateTaskId taskId = .ok text) :
    validateTaskId text = .ok text := by
  rw [validateTaskId_eq_ok] at valid ⊢
  obtain ⟨rfl, matched⟩ := valid
  exact ⟨(stripString_stripString taskId).symm, matched⟩

theorem validateTaskReference_fixed
    (valid : validateTaskReference py value = .ok text) :
    validateTaskReference py (.string text) = .ok text := by
  have stripped : stripString text = text := by
    rw [validateTaskReference, validateTaskId_eq_ok] at valid
    rw [valid.1, stripString_stripString]
  rw [validateTaskReference, py.textOr_string, stripped]
  exact validateTaskId_fixed valid

theorem validateTaskReference_ne_empty
    (valid : validateTaskReference py value = .ok text) : text ≠ "" := by
  rw [validateTaskReference, validateTaskId_eq_ok] at valid
  intro empty
  have matched := valid.2
  rw [empty] at matched
  exact absurd matched (by decide)

theorem validateProjectId_eq_ok :
    validateProjectId py value = .ok text ↔
      text = stripString (py.text value) ∧ text ≠ "" ∧
        hyphenIdentifier py text = true := by
  simp only [validateProjectId]
  split_ifs with rejected
  · simp only [raise_ne_ok, false_iff]
    rintro ⟨rfl, nonempty, identifier⟩
    rcases rejected with empty | notIdentifier
    · exact nonempty empty
    · rw [identifier] at notIdentifier
      cases notIdentifier
  · simp only [not_or, Bool.not_eq_false] at rejected
    constructor
    · intro equality
      cases equality
      exact ⟨rfl, rejected⟩
    · rintro ⟨rfl, _⟩
      rfl

theorem validateProjectId_fixed (valid : validateProjectId py value = .ok text) :
    validateProjectId py (.string text) = .ok text := by
  rw [validateProjectId_eq_ok] at valid ⊢
  obtain ⟨rfl, checks⟩ := valid
  exact ⟨(stripString_stripString _).symm, checks⟩

theorem boundedText_eq_ok {required : Bool} {limit : Nat} :
    boundedText py label required limit value = .ok text ↔
      text = py.textOr value ∧ (required = true → text ≠ "") ∧
        text.length ≤ limit := by
  simp only [boundedText]
  split_ifs with empty long
  · simp only [raise_ne_ok, false_iff]
    rintro ⟨rfl, nonempty, _⟩
    exact nonempty empty.1 empty.2
  · simp only [raise_ne_ok, false_iff]
    rintro ⟨rfl, _, short⟩
    omega
  · constructor
    · intro equality
      cases equality
      exact ⟨rfl, fun required missing => empty ⟨required, missing⟩, by omega⟩
    · rintro ⟨rfl, _⟩
      rfl

theorem boundedText_fixed {required : Bool} {limit : Nat}
    (valid : boundedText py label required limit value = .ok text) :
    boundedText py label required limit (.string text) = .ok text := by
  rw [boundedText_eq_ok] at valid ⊢
  obtain ⟨rfl, checks⟩ := valid
  exact ⟨(py.textOr_textOr value).symm, checks⟩

/-- The texts that `isoDate` returns. -/
theorem isoDate_canonical (valid : isoDate py label value = .ok text) :
    text = "" ∨ ∃ date : Text.Date, text = String.ofList date.isoformat := by
  simp only [isoDate] at valid
  split_ifs at valid with empty
  · cases valid
    exact Or.inl rfl
  · cases parsed : Text.dateFromIsoformat py.otherDates
        (py.textOr value).toList with
    | none =>
        rw [parsed] at valid
        exact absurd valid (by simp)
    | some date =>
        rw [parsed] at valid
        cases valid
        exact Or.inr ⟨date, rfl⟩

theorem isoDate_fixed (valid : isoDate py label value = .ok text)
    (other : String) : isoDate py other (.string text) = .ok text := by
  rcases isoDate_canonical valid with rfl | ⟨date, rfl⟩
  · rfl
  · have stripped := Text.strip_of_stripped (Text.isoformat_stripped date)
    have same : py.textOr (.string (String.ofList date.isoformat)) =
        String.ofList date.isoformat := by
      rw [py.textOr_string, stripString, String.toList_ofList, stripped]
    have nonempty : String.ofList date.isoformat ≠ "" := by
      intro empty
      have nothing := congrArg String.toList empty
      rw [String.toList_ofList] at nothing
      exact Text.isoformat_ne_nil date nothing
    simp only [isoDate, same, if_neg nonempty, String.toList_ofList,
      Text.dateFromIsoformat_isoformat]

theorem mapM_fixed {validator : Json → Outcome String}
    (fixed : ∀ value text, validator value = .ok text →
      validator (.string text) = .ok text)
    {values : List Json} {texts : List String}
    (valid : values.mapM validator = .ok texts) :
    (texts.map Json.string).mapM validator = .ok texts := by
  induction values generalizing texts with
  | nil =>
      cases valid
      rfl
  | cons head tail inductionHypothesis =>
      rw [List.mapM_cons] at valid
      obtain ⟨first, headValid, later⟩ := bind_eq_ok.mp valid
      obtain ⟨rest, tailValid, joined⟩ := bind_eq_ok.mp later
      cases joined
      rw [List.map_cons, List.mapM_cons, fixed head first headValid,
        inductionHypothesis tailValid]
      rfl

theorem ids_fixed {validator : Json → Outcome String}
    (fixed : ∀ value text, validator value = .ok text →
      validator (.string text) = .ok text)
    {texts : List String} (valid : ids validator label value = .ok texts) :
    ids validator label (stringArray texts) = .ok texts := by
  obtain ⟨values, _, mapped⟩ := bind_eq_ok.mp valid
  obtain ⟨result, each, checked⟩ := bind_eq_ok.mp mapped
  split_ifs at checked with nodup
  · cases checked
    have again := mapM_fixed fixed each
    simp only [ids, sequence, stringArray, again, bind, Except.bind,
      if_pos nodup]
  · exact absurd checked (by simp)

theorem taskIds_fixed {texts : List String}
    (valid : taskIds py label value = .ok texts) :
    taskIds py label (stringArray texts) = .ok texts := by
  apply ids_fixed _ valid
  intro item reference accepted
  exact validateTaskReference_fixed accepted

theorem assetIds_fixed {texts : List String}
    (valid : assetIds py label value = .ok texts) :
    assetIds py label (stringArray texts) = .ok texts := by
  apply ids_fixed _ valid
  intro item identifier accepted
  exact validateAssetId_fixed accepted _

end Fixed

end Execraft.ProjectExecution
