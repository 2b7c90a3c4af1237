import Execraft.Foundation.Json.Value
import Execraft.Foundation.Text.Calendar
import Execraft.Foundation.Text.Case
import Mathlib.Data.Bool.AllAny

/-!
# Built-in conversions of Python values

Plain data (what a YAML or JSON document denotes) under the conversions that
constructors apply to it.  The structure `Python` collects what depends on the
interpreter's version and tables; nothing is assumed of it.
-/

namespace Foundation

open Json Text

structure Python where
  casing : CaseTable
  /-- Does a capital sigma between these texts end a word? -/
  finalSigma : List Char → List Char → Bool
  /-- `date.fromisoformat` beyond `YYYY-MM-DD`. -/
  otherDates : List Char → Option Date
  isidentifier : String → Bool
  /-- `str` of a value that is not a string. -/
  str : Json → String
  repr : String → String
  /-- `int` of a value that is neither an integer nor a boolean. -/
  int : Json → Option Int
  /-- Does a float equal an integer? -/
  floatEqualsInt : String → Int → Bool
  /-- `sha256(content).hexdigest()`. -/
  sha256 : ByteArray → String

/-- `bool(value)`. -/
def truthy : Json → Bool
  | .null => false
  | .bool value => value
  | .int value => value ≠ 0
  | .float text => text ≠ "0.0" ∧ text ≠ "-0.0"
  | .nonFinite _ => true
  | .string text => text ≠ ""
  | .array elements => elements ≠ []
  | .object fields => fields ≠ []

/-- The items that a loop over a value meets; numbers and null cannot be looped
over. -/
def iterate : Json → Option (List Json)
  | .array elements => some elements
  | .object fields => some (fields.map fun field => .string field.1)
  | .string text =>
      some (text.toList.map fun character => .string (String.ofList [character]))
  | _ => none

def stripString (text : String) : String :=
  String.ofList (strip text.toList)

theorem stripString_stripString (text : String) :
    stripString (stripString text) = stripString text := by
  simp [stripString, strip_strip]

namespace Python

variable (py : Python)

def text : Json → String
  | .string text => text
  | value => py.str value

/-- `str(value or "").strip()`. -/
def textOr (value : Json) : String :=
  if truthy value then stripString (py.text value) else ""

def lowerString (text : String) : String :=
  String.ofList (lower py.casing py.finalSigma text.toList)

def toInt : Json → Option Int
  | .int value => some value
  | .bool value => some (if value then 1 else 0)
  | value => py.int value

/-- The integer that a boolean or an integer is. -/
def integerOf : Json → Option Int
  | .int value => some value
  | .bool value => some (if value then 1 else 0)
  | _ => none

/-- `==` of a number and another value. -/
def numberEquals (left right : Json) : Bool :=
  match integerOf left, integerOf right with
  | some value, some other => value = other
  | some value, none =>
      match right with
      | .float text => py.floatEqualsInt text value
      | _ => false
  | none, some other =>
      match left with
      | .float text => py.floatEqualsInt text other
      | _ => false
  | none, none => false

/-- Are both the one object that a reader of documents makes of every NaN?  A
container compares its elements by identity before it asks whether they equal. -/
def identical (left right : Json) : Bool :=
  left = .nonFinite .nan ∧ right = .nonFinite .nan

mutual

/-- `==` of plain values: dictionaries are equal whatever their order. -/
def equals : Json → Json → Bool
  | .null, .null => true
  | .string text, .string other => text = other
  | .float text, .float other =>
      text = other ∨ ¬ truthy (.float text) ∧ ¬ truthy (.float other)
  | .nonFinite literal, .nonFinite other => literal = other ∧ literal ≠ .nan
  | .array elements, .array others => equalElements elements others
  | .object fields, .object others =>
      fields.length = others.length ∧ equalMembers fields others
  | left, right => py.numberEquals left right

def equalElements : List Json → List Json → Bool
  | [], [] => true
  | head :: tail, other :: others =>
      (identical head other || equals head other) && equalElements tail others
  | _, _ => false

def equalMembers : List (String × Json) → List (String × Json) → Bool
  | [], _ => true
  | (name, value) :: tail, others =>
      (others.any fun other =>
        name = other.1 ∧ (identical value other.2 || equals value other.2)) &&
        equalMembers tail others

end

theorem identical_or_equals_self (value : Json) :
    (identical value value || py.equals value value) = true := by
  induction value using Json.inductionOn with
  | null => simp [equals]
  | bool value => simp [equals, numberEquals, integerOf]
  | int value => simp [equals, numberEquals, integerOf]
  | float text => simp [equals]
  | nonFinite literal =>
      by_cases notANumber : literal = .nan
      · simp [identical, notANumber]
      · simp [equals, notANumber]
  | string text => simp [equals]
  | array elements each =>
      have same : ∀ elements : List Json,
          (∀ element ∈ elements,
            (identical element element || py.equals element element) = true) →
            py.equalElements elements elements = true := by
        intro elements each
        induction elements with
        | nil => simp [equalElements]
        | cons head tail inductionHypothesis =>
            rw [equalElements, each head List.mem_cons_self, Bool.true_and]
            apply inductionHypothesis
            intro element member
            exact each element (List.mem_cons_of_mem head member)
      rw [equals, same elements each, Bool.or_true]
  | object fields each =>
      have same : ∀ some : List (String × Json), some ⊆ fields →
          py.equalMembers some fields = true := by
        intro some
        induction some with
        | nil => simp [equalMembers]
        | cons head tail inductionHypothesis =>
            intro inside
            have member : head ∈ fields := inside List.mem_cons_self
            rw [equalMembers, inductionHypothesis (List.subset_of_cons_subset inside),
              Bool.and_true, List.any_eq_true]
            exact ⟨head, member, decide_eq_true ⟨rfl, each head member⟩⟩
      simp [equals, same fields (List.Subset.refl fields)]

/-- A list equals itself. -/
theorem equals_array_self (elements : List Json) :
    py.equals (.array elements) (.array elements) = true := by
  simpa [identical] using py.identical_or_equals_self (.array elements)

/-! ## Conversions of their own results -/

theorem textOr_string (text : String) :
    py.textOr (.string text) = stripString text := by
  by_cases empty : text = ""
  · rw [empty]
    rfl
  · simp [textOr, truthy, empty, Python.text]

@[simp]
theorem textOr_textOr (value : Json) :
    py.textOr (.string (py.textOr value)) = py.textOr value := by
  rw [textOr_string]
  by_cases true : truthy value
  · simp [textOr, true, stripString_stripString]
  · simp only [textOr, true]
    rfl

theorem lowerString_lowerString (text : String) :
    py.lowerString (py.lowerString text) = py.lowerString text := by
  simp [lowerString, lower_lower]

/-- Lowering a stripped text and stripping it again changes nothing. -/
theorem textOr_lowerString (value : Json) :
    py.textOr (.string (py.lowerString (py.textOr value))) =
      py.lowerString (py.textOr value) := by
  have stripped : Stripped (py.textOr value).toList := by
    by_cases true : truthy value
    · simp only [textOr, true, if_true, stripString, String.toList_ofList]
      exact stripped_strip _
    · simp only [textOr, true]
      exact stripped_nil
  have lowered := strip_of_stripped
    (lower_stripped py.casing py.finalSigma stripped)
  rw [textOr_string, stripString, lowerString, String.toList_ofList, lowered]

theorem lowerString_ascii {text : String}
    (small : ∀ character ∈ text.toList,
      character.toNat < 128 ∧ character.toLower = character) :
    py.lowerString text = text := by
  rw [lowerString, lower_ascii _ _ small, String.ofList_toList]

end Python

/-! ## An interpreter for ASCII texts -/

theorem toLower_of_wide {character : Char} (wide : 128 ≤ character.toNat) :
    character.toLower = character := by
  apply dif_neg
  rintro ⟨_, upper⟩
  have narrow : character.toNat ≤ 90 := upper
  omega

theorem asciiLower_cases {motive : Char → Prop}
    (ascii : ∀ code : Fin 128, motive (Char.ofNat code))
    (wide : ∀ character : Char, 128 ≤ character.toNat → motive character)
    (character : Char) : motive character := by
  by_cases narrow : character.toNat < 128
  · have same := ascii ⟨character.toNat, narrow⟩
    rwa [Char.ofNat_toNat] at same
  · exact wide character (by omega)

/-- The case table that knows ASCII letters and the capital sigma. -/
def asciiCasing : CaseTable where
  mapping character := if character = 'Σ' then ['σ'] else [character.toLower]
  ascii character narrow := by
    rw [if_neg]
    rintro rfl
    exact absurd narrow (by decide)
  nonempty character := by
    split_ifs <;> simp
  stable character lowered member := by
    induction character using asciiLower_cases with
    | ascii code =>
        exact List.all_iff_forall_prop.mp ((by decide : ∀ code : Fin 128,
          (if Char.ofNat code = 'Σ' then ['σ'] else [(Char.ofNat code).toLower]).all
            fun lowered => (if lowered = 'Σ' then ['σ'] else [lowered.toLower]) =
              [lowered]) code) lowered member
    | wide character wide =>
        rw [toLower_of_wide wide] at member
        split_ifs at member with sigma
        · rw [List.mem_singleton.mp member]
          decide
        · rw [List.mem_singleton.mp member, if_neg sigma, toLower_of_wide wide]
  visible character notSpace lowered member := by
    induction character using asciiLower_cases with
    | ascii code =>
        exact List.all_iff_forall_prop.mp ((by decide : ∀ code : Fin 128,
          isSpace (Char.ofNat code) = false →
            (if Char.ofNat code = 'Σ' then ['σ'] else
              [(Char.ofNat code).toLower]).all fun lowered => isSpace lowered = false)
          code notSpace) lowered member
    | wide character wide =>
        rw [toLower_of_wide wide] at member
        split_ifs at member with sigma
        · rw [List.mem_singleton.mp member]
          decide
        · rw [List.mem_singleton.mp member]
          exact notSpace
  sigma := by decide
  finalSigma := by decide

/-- `str.isidentifier` on ASCII texts. -/
def asciiIdentifier (text : String) : Bool :=
  match text.toList with
  | [] => false
  | head :: tail =>
      (head.isAlpha || head = '_') &&
        tail.all fun character => character.isAlphanum || character = '_'

/-- An interpreter that knows ASCII texts and the digest of one content. -/
def asciiPython : Python where
  casing := asciiCasing
  finalSigma _ _ := false
  otherDates _ := none
  isidentifier := asciiIdentifier
  str _ := ""
  repr text := "'" ++ text ++ "'"
  int _ := none
  floatEqualsInt _ _ := false
  sha256 _ := "e522092be9684abe9ccc6f4b18a2bf271698fbebc580076004a5a4a630d508bf"

end Foundation
