import Execraft.Foundation.Text.Calendar

/-!
# Timestamps

Points in time with an offset from UTC, and their ISO texts as an interpreter
prints them.
-/

namespace Foundation.Text

/-- A time of day, also the size of an offset. -/
structure ClockTime where
  hour : Nat
  minute : Nat
  second : Nat
  microsecond : Nat
  isTime : hour < 24 ∧ minute < 60 ∧ second < 60 ∧ microsecond < 1000000
  deriving DecidableEq

/-- An offset from UTC; there is no negative zero. -/
structure Offset where
  negative : Bool
  size : ClockTime
  signed : negative = true →
    size.hour ≠ 0 ∨ size.minute ≠ 0 ∨ size.second ≠ 0 ∨ size.microsecond ≠ 0
  deriving DecidableEq

/-- `datetime.datetime`. -/
structure DateTime where
  date : Date
  time : ClockTime
  offset : Option Offset
  deriving DecidableEq

/-! ## Printing -/

/-- `.ffffff`, left out when zero. -/
def fraction (microsecond : Nat) : List Char :=
  if microsecond = 0 then [] else '.' :: fixedDigits 6 microsecond

/-- `HH:MM`. -/
def hoursMinutes (time : ClockTime) : List Char :=
  fixedDigits 2 time.hour ++ ':' :: fixedDigits 2 time.minute

/-- `HH:MM:SS[.ffffff]`. -/
def ClockTime.isoformat (time : ClockTime) : List Char :=
  hoursMinutes time ++ ':' :: (fixedDigits 2 time.second ++
    fraction time.microsecond)

/-- `±HH:MM[:SS[.ffffff]]`. -/
def Offset.isoformat (offset : Offset) : List Char :=
  (if offset.negative then '-' else '+') ::
    (if offset.size.second = 0 ∧ offset.size.microsecond = 0 then
      hoursMinutes offset.size
    else offset.size.isoformat)

/-- `datetime.isoformat`. -/
def DateTime.isoformat (point : DateTime) : List Char :=
  point.date.isoformat ++ 'T' :: (point.time.isoformat ++
    match point.offset with
    | none => []
    | some offset => offset.isoformat)

/-! ## Reading -/

def clockTime (hour minute second microsecond : Nat) : Option ClockTime :=
  if isTime : hour < 24 ∧ minute < 60 ∧ second < 60 ∧ microsecond < 1000000 then
    some ⟨hour, minute, second, microsecond, isTime⟩
  else none

/-- A fraction and what follows it. -/
def readFraction : List Char → Option (Nat × List Char)
  | '.' :: a :: b :: c :: d :: e :: f :: rest =>
      (digitsValue [a, b, c, d, e, f]).map fun value => (value, rest)
  | text => some (0, text)

/-- `HH:MM:SS[.ffffff]` and what follows it. -/
def readTime : List Char → Option (ClockTime × List Char)
  | a :: b :: ':' :: c :: d :: ':' :: e :: f :: rest =>
      match digitsValue [a, b], digitsValue [c, d], digitsValue [e, f],
        readFraction rest with
      | some hour, some minute, some second, some (microsecond, rest) =>
          (clockTime hour minute second microsecond).map fun time => (time, rest)
      | _, _, _, _ => none
  | _ => none

/-- `HH:MM[:SS[.ffffff]]`. -/
def readSize : List Char → Option ClockTime
  | [a, b, ':', c, d] =>
      match digitsValue [a, b], digitsValue [c, d] with
      | some hour, some minute => clockTime hour minute 0 0
      | _, _ => none
  | text =>
      match readTime text with
      | some (size, []) => some size
      | _ => none

def signedOffset (negative : Bool) (size : ClockTime) : Offset :=
  if signed : size.hour ≠ 0 ∨ size.minute ≠ 0 ∨ size.second ≠ 0 ∨
      size.microsecond ≠ 0 then
    ⟨negative, size, fun _ => signed⟩
  else ⟨false, size, fun negative => absurd negative (by decide)⟩

/-- An offset, or nothing at the end of the text. -/
def readOffset : List Char → Option (Option Offset)
  | [] => some none
  | '+' :: text => (readSize text).map fun size => some (signedOffset false size)
  | '-' :: text => (readSize text).map fun size => some (signedOffset true size)
  | _ => none

/-- The timestamp with this text, as `isoformat` prints it. -/
def dateTimeOfIsoformat (text : List Char) : Option DateTime :=
  match text.drop 10 with
  | 'T' :: rest =>
      match dateOfIsoformat (text.take 10), readTime rest with
      | some date, some (time, rest) =>
          (readOffset rest).map fun offset => ⟨date, time, offset⟩
      | _, _ => none
  | _ => none

/-- `datetime.fromisoformat`; `otherForms` reads the other texts that it
accepts. -/
def dateTimeFromIsoformat (otherForms : List Char → Option DateTime)
    (text : List Char) : Option DateTime :=
  match dateTimeOfIsoformat text with
  | some point => some point
  | none => otherForms text

/-! ## Reading what was printed -/

theorem length_fixedDigits (width number : Nat) :
    (fixedDigits width number).length = width := by
  induction width generalizing number with
  | zero => rfl
  | succ width inductionHypothesis =>
      rw [fixedDigits, List.length_append, inductionHypothesis]
      rfl

theorem digitsValue_six {number : Nat} (small : number < 1000000) :
    digitsValue (fixedDigits 6 number) = some number := by
  simp only [digitsValue, fixedDigits, List.nil_append, List.cons_append,
    List.foldlM_cons, List.foldlM_nil, digitValue_digitChar, Option.map_some,
    Option.pure_def, Option.bind_eq_bind, Option.bind_some, Option.some.injEq]
  omega

theorem digitsValue_pair {number : Nat} (small : number < 100) :
    digitsValue (fixedDigits 2 number) = some number := by
  simp only [digitsValue, fixedDigits, List.nil_append, List.cons_append,
    List.foldlM_cons, List.foldlM_nil, digitValue_digitChar, Option.map_some,
    Option.pure_def, Option.bind_eq_bind, Option.bind_some, Option.some.injEq]
  omega

/-- Two digits are two characters. -/
theorem fixedDigits_two (number : Nat) :
    ∃ first second, fixedDigits 2 number = [first, second] :=
  ⟨_, _, rfl⟩

theorem readFraction_fraction {microsecond : Nat} (small : microsecond < 1000000)
    {rest : List Char} (noPoint : rest.head? ≠ some '.') :
    readFraction (fraction microsecond ++ rest) = some (microsecond, rest) := by
  unfold fraction
  by_cases zero : microsecond = 0
  · rw [if_pos zero, zero, List.nil_append]
    cases rest with
    | nil => rfl
    | cons head tail =>
        rw [List.head?_cons, ne_eq, Option.some.injEq] at noPoint
        unfold readFraction
        split
        · rename_i shape
          exact absurd (List.cons.inj shape).1 noPoint
        · rfl
  · rw [if_neg zero]
    have value := digitsValue_six small
    simp only [fixedDigits, List.nil_append, List.cons_append] at value ⊢
    simp only [readFraction, value, Option.map_some]

theorem readTime_isoformat (time : ClockTime) {rest : List Char}
    (noPoint : rest.head? ≠ some '.') :
    readTime (time.isoformat ++ rest) = some (time, rest) := by
  obtain ⟨hour, minute, second, microsecond, isTime⟩ := time
  obtain ⟨hourSmall, minuteSmall, secondSmall, microsecondSmall⟩ := id isTime
  have hourValue := digitsValue_pair (by omega : hour < 100)
  have minuteValue := digitsValue_pair (by omega : minute < 100)
  have secondValue := digitsValue_pair (by omega : second < 100)
  have fractionValue := readFraction_fraction microsecondSmall noPoint
  obtain ⟨a, b, hourDigits⟩ := fixedDigits_two hour
  obtain ⟨c, d, minuteDigits⟩ := fixedDigits_two minute
  obtain ⟨e, f, secondDigits⟩ := fixedDigits_two second
  rw [hourDigits] at hourValue
  rw [minuteDigits] at minuteValue
  rw [secondDigits] at secondValue
  have shape : ClockTime.isoformat ⟨hour, minute, second, microsecond, isTime⟩ ++
      rest = a :: b :: ':' :: c :: d :: ':' :: e :: f ::
        (fraction microsecond ++ rest) := by
    simp only [ClockTime.isoformat, hoursMinutes, hourDigits, minuteDigits,
      secondDigits, List.cons_append, List.nil_append]
  rw [shape]
  simp only [readTime, hourValue, minuteValue, secondValue, fractionValue]
  rw [clockTime, dif_pos isTime]
  rfl

theorem readSize_printed (size : ClockTime) :
    readSize (if size.second = 0 ∧ size.microsecond = 0 then hoursMinutes size
      else size.isoformat) = some size := by
  by_cases short : size.second = 0 ∧ size.microsecond = 0
  · rw [if_pos short]
    obtain ⟨hour, minute, second, microsecond, isTime⟩ := size
    obtain ⟨noSecond, noMicrosecond⟩ := short
    cases noSecond
    cases noMicrosecond
    have hourValue := digitsValue_pair (by omega : hour < 100)
    have minuteValue := digitsValue_pair (by omega : minute < 100)
    obtain ⟨a, b, hourDigits⟩ := fixedDigits_two hour
    obtain ⟨c, d, minuteDigits⟩ := fixedDigits_two minute
    rw [hourDigits] at hourValue
    rw [minuteDigits] at minuteValue
    simp only [hoursMinutes, hourDigits, minuteDigits, List.cons_append,
      List.nil_append, readSize, hourValue, minuteValue]
    rw [clockTime, dif_pos isTime]
  · rw [if_neg short]
    have whole := readTime_isoformat size (by simp : ([] : List Char).head? ≠ some '.')
    rw [List.append_nil] at whole
    unfold readSize
    split
    · rename_i a b c d shape
      have long := congrArg List.length shape
      simp only [ClockTime.isoformat, hoursMinutes, List.length_append,
        List.length_cons, List.length_nil, length_fixedDigits] at long
      omega
    · rw [whole]

theorem signedOffset_self (offset : Offset) :
    signedOffset offset.negative offset.size = offset := by
  obtain ⟨negative, size, signed⟩ := offset
  unfold signedOffset
  split
  · rfl
  · rename_i zero
    cases negative with
    | false => rfl
    | true => exact absurd (signed rfl) zero

theorem readOffset_isoformat (offset : Offset) :
    readOffset offset.isoformat = some (some offset) := by
  have size := readSize_printed offset.size
  have itself := signedOffset_self offset
  unfold Offset.isoformat
  cases sign : offset.negative with
  | false =>
      rw [sign] at itself
      simp only [Bool.false_eq_true, if_false, readOffset, size, Option.map_some,
        itself]
  | true =>
      rw [sign] at itself
      simp only [if_true, readOffset, size, Option.map_some, itself]

theorem length_dateIsoformat (date : Date) : date.isoformat.length = 10 := by
  simp [Date.isoformat, length_fixedDigits]

theorem dateTimeOfIsoformat_isoformat (point : DateTime) :
    dateTimeOfIsoformat point.isoformat = some point := by
  obtain ⟨date, time, offset⟩ := point
  have width := length_dateIsoformat date
  have read : ∀ rest : List Char, rest.head? ≠ some '.' →
      dateTimeOfIsoformat (date.isoformat ++ 'T' :: (time.isoformat ++ rest)) =
        (readOffset rest).map fun offset => ⟨date, time, offset⟩ := by
    intro rest noPoint
    have front : (date.isoformat ++ 'T' :: (time.isoformat ++ rest)).take 10 =
        date.isoformat := List.take_left' width
    have back : (date.isoformat ++ 'T' :: (time.isoformat ++ rest)).drop 10 =
        'T' :: (time.isoformat ++ rest) := List.drop_left' width
    simp only [dateTimeOfIsoformat, front, back, dateOfIsoformat_isoformat,
      readTime_isoformat time noPoint]
  cases offset with
  | none =>
      have empty := read [] (by simp)
      exact empty
  | some offset =>
      have noPoint : offset.isoformat.head? ≠ some '.' := by
        unfold Offset.isoformat
        cases offset.negative with
        | false => simp
        | true => simp
      have whole := read offset.isoformat noPoint
      rw [readOffset_isoformat] at whole
      exact whole

theorem dateTimeFromIsoformat_isoformat (otherForms : List Char → Option DateTime)
    (point : DateTime) :
    dateTimeFromIsoformat otherForms point.isoformat = some point := by
  rw [dateTimeFromIsoformat, dateTimeOfIsoformat_isoformat]

/-! ## Printed characters -/

theorem isSpace_fixedDigits {width number : Nat} {character : Char}
    (member : character ∈ fixedDigits width number) :
    isSpace character = false := by
  obtain ⟨digit, small, same⟩ := mem_fixedDigits member
  rw [same]
  exact (by decide : ∀ digit : Fin 10, isSpace (Nat.digitChar digit) = false)
    ⟨digit, small⟩

theorem isSpace_hoursMinutes {time : ClockTime} {character : Char}
    (member : character ∈ hoursMinutes time) : isSpace character = false := by
  simp only [hoursMinutes, List.mem_append, List.mem_cons] at member
  rcases member with hour | rfl | minute
  · exact isSpace_fixedDigits hour
  · decide
  · exact isSpace_fixedDigits minute

theorem isSpace_clockTime {time : ClockTime} {character : Char}
    (member : character ∈ time.isoformat) : isSpace character = false := by
  simp only [ClockTime.isoformat, List.mem_append, List.mem_cons] at member
  rcases member with front | rfl | second | part
  · exact isSpace_hoursMinutes front
  · decide
  · exact isSpace_fixedDigits second
  · unfold fraction at part
    split_ifs at part with zero
    · cases part
    · rcases List.mem_cons.mp part with rfl | digit
      · decide
      · exact isSpace_fixedDigits digit

theorem isSpace_offset {offset : Offset} {character : Char}
    (member : character ∈ offset.isoformat) : isSpace character = false := by
  unfold Offset.isoformat at member
  rcases List.mem_cons.mp member with rfl | size
  · cases offset.negative with
    | false => decide
    | true => decide
  · split_ifs at size with short
    · exact isSpace_hoursMinutes size
    · exact isSpace_clockTime size

/-- A printed timestamp has no blanks around it. -/
theorem dateTime_isoformat_stripped (point : DateTime) :
    Stripped point.isoformat := by
  apply stripped_of_visible
  intro character member
  simp only [DateTime.isoformat, Date.isoformat, List.mem_append,
    List.mem_cons] at member
  rcases member with (year | rfl | month | rfl | day) | rfl | time | offset
  · exact isSpace_fixedDigits year
  · decide
  · exact isSpace_fixedDigits month
  · decide
  · exact isSpace_fixedDigits day
  · decide
  · exact isSpace_clockTime time
  · cases shape : point.offset with
    | none =>
        rw [shape] at offset
        cases offset
    | some size =>
        rw [shape] at offset
        exact isSpace_offset offset

theorem dateTime_isoformat_ne_nil (point : DateTime) : point.isoformat ≠ [] := by
  simp [DateTime.isoformat]

end Foundation.Text
