import Execraft.Foundation.Text.Case

/-!
# Calendar dates

Dates of the proleptic Gregorian calendar in the years 1 to 9999, their
`YYYY-MM-DD` texts, and readings of a clock.
-/

namespace Foundation.Text

/-! ## Digits -/

/-- The last `width` decimal digits of a number. -/
def fixedDigits : Nat → Nat → List Char
  | 0, _ => []
  | width + 1, number =>
      fixedDigits width (number / 10) ++ [Nat.digitChar (number % 10)]

def digitValue (character : Char) : Option Nat :=
  if '0' ≤ character ∧ character ≤ '9' then some (character.toNat - 48) else none

theorem digitValue_digitChar (number : Nat) :
    digitValue (Nat.digitChar (number % 10)) = some (number % 10) := by
  have checked : ∀ digit : Fin 10,
      digitValue (Nat.digitChar digit) = some digit.val := by
    decide
  exact checked ⟨number % 10, Nat.mod_lt _ (by decide)⟩

theorem mem_fixedDigits {character : Char} {width number : Nat}
    (member : character ∈ fixedDigits width number) :
    ∃ digit : Nat, digit < 10 ∧ character = Nat.digitChar digit := by
  induction width generalizing number with
  | zero => cases member
  | succ width inductionHypothesis =>
      rw [fixedDigits] at member
      rcases List.mem_append.mp member with front | last
      · exact inductionHypothesis front
      · exact ⟨number % 10, Nat.mod_lt _ (by decide), List.mem_singleton.mp last⟩

/-! ## Dates -/

def isLeapYear (year : Nat) : Bool :=
  year % 4 = 0 && (year % 100 ≠ 0 || year % 400 = 0)

def daysInMonth (year month : Nat) : Nat :=
  if month = 2 then if isLeapYear year then 29 else 28
  else if month = 4 ∨ month = 6 ∨ month = 9 ∨ month = 11 then 30
  else 31

def IsDate (year month day : Nat) : Prop :=
  1 ≤ year ∧ year ≤ 9999 ∧ 1 ≤ month ∧ month ≤ 12 ∧ 1 ≤ day ∧
    day ≤ daysInMonth year month

instance (year month day : Nat) : Decidable (IsDate year month day) :=
  inferInstanceAs (Decidable (_ ∧ _))

/-- `datetime.date`. -/
structure Date where
  year : Nat
  month : Nat
  day : Nat
  isDate : IsDate year month day
  deriving DecidableEq

theorem daysInMonth_le (year month : Nat) : daysInMonth year month ≤ 31 := by
  unfold daysInMonth
  split_ifs <;> omega

/-- `date.isoformat`. -/
def Date.isoformat (date : Date) : List Char :=
  fixedDigits 4 date.year ++ '-' :: (fixedDigits 2 date.month ++
    '-' :: fixedDigits 2 date.day)

theorem isoformat_ne_nil (date : Date) : date.isoformat ≠ [] := by
  simp [Date.isoformat]

theorem isoformat_stripped (date : Date) : Stripped date.isoformat := by
  have digits : ∀ width number, ∀ character ∈ fixedDigits width number,
      isSpace character = false := by
    intro width number character member
    obtain ⟨digit, small, rfl⟩ := mem_fixedDigits member
    exact (by decide : ∀ digit : Fin 10, isSpace (Nat.digitChar digit) = false)
      ⟨digit, small⟩
  apply stripped_of_visible
  intro character member
  simp only [Date.isoformat, List.mem_append, List.mem_cons] at member
  rcases member with year | rfl | month | rfl | day
  · exact digits _ _ character year
  · decide
  · exact digits _ _ character month
  · decide
  · exact digits _ _ character day

/-- The value of a run of digits. -/
def digitsValue (digits : List Char) : Option Nat :=
  digits.foldlM (fun value character =>
    (digitValue character).map fun digit => value * 10 + digit) 0

/-- The date with text `YYYY-MM-DD`. -/
def dateOfIsoformat : List Char → Option Date
  | [a, b, c, d, '-', e, f, '-', g, h] =>
      match digitsValue [a, b, c, d], digitsValue [e, f], digitsValue [g, h] with
      | some year, some month, some day =>
          if isDate : IsDate year month day then some ⟨year, month, day, isDate⟩
          else none
      | _, _, _ => none
  | _ => none

private theorem digitsValue_four {number : Nat} (small : number ≤ 9999) :
    digitsValue (fixedDigits 4 number) = some number := by
  simp only [digitsValue, fixedDigits, List.nil_append, List.cons_append,
    List.foldlM_cons, List.foldlM_nil, digitValue_digitChar, Option.map_some,
    Option.pure_def, Option.bind_eq_bind, Option.bind_some, Option.some.injEq]
  omega

private theorem digitsValue_two {number : Nat} (small : number ≤ 99) :
    digitsValue (fixedDigits 2 number) = some number := by
  simp only [digitsValue, fixedDigits, List.nil_append, List.cons_append,
    List.foldlM_cons, List.foldlM_nil, digitValue_digitChar, Option.map_some,
    Option.pure_def, Option.bind_eq_bind, Option.bind_some, Option.some.injEq]
  omega

theorem dateOfIsoformat_isoformat (date : Date) :
    dateOfIsoformat date.isoformat = some date := by
  obtain ⟨year, month, day, isDate⟩ := date
  have days := daysInMonth_le year month
  obtain ⟨_, yearSmall, _, monthSmall, _, daySmall⟩ := id isDate
  have yearValue := digitsValue_four yearSmall
  have monthValue := digitsValue_two (by omega : month ≤ 99)
  have dayValue := digitsValue_two (by omega : day ≤ 99)
  simp only [fixedDigits, List.nil_append, List.cons_append] at yearValue
  simp only [fixedDigits, List.nil_append, List.cons_append] at monthValue dayValue
  simp only [Date.isoformat, fixedDigits, List.nil_append, List.cons_append,
    dateOfIsoformat, yearValue, monthValue, dayValue]
  rw [dif_pos isDate]

/-- `date.fromisoformat`; `otherForms` reads the texts that only some
interpreter versions accept. -/
def dateFromIsoformat (otherForms : List Char → Option Date)
    (text : List Char) : Option Date :=
  match dateOfIsoformat text with
  | some date => some date
  | none => otherForms text

theorem dateFromIsoformat_isoformat (otherForms : List Char → Option Date)
    (date : Date) :
    dateFromIsoformat otherForms date.isoformat = some date := by
  rw [dateFromIsoformat, dateOfIsoformat_isoformat]

/-! ## Clock readings -/

/-- A UTC reading of the clock to the second. -/
structure Instant where
  date : Date
  hour : Nat
  minute : Nat
  second : Nat
  deriving DecidableEq

/-- `datetime.isoformat` of a UTC time without microseconds. -/
def Instant.isoformat (now : Instant) : List Char :=
  now.date.isoformat ++ 'T' :: (fixedDigits 2 now.hour ++
    ':' :: (fixedDigits 2 now.minute ++ ':' :: (fixedDigits 2 now.second ++
    ['+', '0', '0', ':', '0', '0'])))

end Foundation.Text
