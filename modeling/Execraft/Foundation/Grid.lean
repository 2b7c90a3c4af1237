import Mathlib.Data.List.Basic

/-!
# Edited lists and rectangular grids

Lists under item assignment, deletion, insertion and slice assignment, and grids of a
fixed shape whose lines are edited in these ways.
-/

namespace Foundation

/-! ## Edited lists -/

section Edits

variable {Item : Type*}

/-- `items[index] = item`; out of range it raises. -/
def assignAt (index : Nat) (item : Item) (items : List Item) : Option (List Item) :=
  if index < items.length then some (items.set index item) else none

/-- `del items[index]`; out of range it raises. -/
def deleteAt (index : Nat) (items : List Item) : Option (List Item) :=
  if index < items.length then some (items.eraseIdx index) else none

/-- `items.insert(index, item)`. -/
def insertAt (index : Nat) (item : Item) (items : List Item) : List Item :=
  items.take index ++ item :: items.drop index

/-- `items[start:stop] = values`. -/
def assignSlice (start stop : Nat) (values items : List Item) : List Item :=
  items.take start ++ values ++ items.drop (max start stop)

theorem length_insertAt (index : Nat) (item : Item) (items : List Item) :
    (insertAt index item items).length = items.length + 1 := by
  simp only [insertAt, List.length_append, List.length_cons, List.length_take,
    List.length_drop]
  omega

theorem mem_insertAt {index : Nat} {item other : Item} {items : List Item} :
    other ∈ insertAt index item items ↔ other = item ∨ other ∈ items := by
  have parts : other ∈ items ↔ other ∈ items.take index ∨ other ∈ items.drop index := by
    rw [← List.mem_append, List.take_append_drop]
  rw [parts, insertAt, List.mem_append, List.mem_cons]
  constructor
  · rintro (before | here | behind)
    · exact Or.inr (Or.inl before)
    · exact Or.inl here
    · exact Or.inr (Or.inr behind)
  · rintro (here | before | behind)
    · exact Or.inr (Or.inl here)
    · exact Or.inl before
    · exact Or.inr (Or.inr behind)

theorem mem_of_mem_assignSlice {start stop : Nat} {item : Item} {values items : List Item}
    (member : item ∈ assignSlice start stop values items) :
    item ∈ values ∨ item ∈ items := by
  rcases List.mem_append.mp member with edited | behind
  · rcases List.mem_append.mp edited with before | here
    · exact Or.inr (List.mem_of_mem_take before)
    · exact Or.inl here
  · exact Or.inr (List.mem_of_mem_drop behind)

/-- A slice that is replaced by as many items keeps the length. -/
theorem length_assignSlice {start stop : Nat} {values items : List Item}
    (forward : start ≤ stop) (within : stop ≤ items.length)
    (fits : values.length = stop - start) :
    (assignSlice start stop values items).length = items.length := by
  simp only [assignSlice, List.length_append, List.length_take, List.length_drop, fits]
  omega

/-- Steps that all succeed, on each item of a list. -/
theorem exists_mapM {Output : Type*} {good : Output → Prop} {step : Item → Option Output}
    {items : List Item}
    (succeeds : ∀ item ∈ items, ∃ output, step item = some output ∧ good output) :
    ∃ outputs, items.mapM step = some outputs ∧ outputs.length = items.length ∧
      ∀ output ∈ outputs, good output := by
  induction items with
  | nil => exact ⟨[], rfl, rfl, by simp⟩
  | cons item rest inductionHypothesis =>
      obtain ⟨output, done, outputGood⟩ := succeeds item List.mem_cons_self
      obtain ⟨outputs, mapped, sameLength, allGood⟩ := inductionHypothesis
        fun other member => succeeds other (List.mem_cons_of_mem _ member)
      refine ⟨output :: outputs, ?_, congrArg (· + 1) sameLength, ?_⟩
      · simp only [List.mapM_cons, done, mapped]
        rfl
      · intro other member
        rcases List.mem_cons.mp member with here | later
        · rw [here]
          exact outputGood
        · exact allGood other later

end Edits

/-! ## Grids -/

section Grid

variable {Cell : Type*} {rows columns : Nat} {allowed : Cell → Prop}

/-- A line of a given length whose cells are all allowed. -/
structure IsLine (columns : Nat) (allowed : Cell → Prop) (line : List Cell) : Prop where
  length : line.length = columns
  allowed : ∀ cell ∈ line, allowed cell

/-- A grid of a given shape whose cells are all allowed. -/
structure IsGrid (rows columns : Nat) (allowed : Cell → Prop) (cells : List (List Cell)) :
    Prop where
  length : cells.length = rows
  lines : ∀ line ∈ cells, IsLine columns allowed line

theorem isLine_replicate {cell : Cell} (good : allowed cell) :
    IsLine columns allowed (List.replicate columns cell) where
  length := List.length_replicate
  allowed := by
    intro other member
    rw [List.eq_of_mem_replicate member]
    exact good

theorem isGrid_replicate {line : List Cell} (good : IsLine columns allowed line) :
    IsGrid rows columns allowed (List.replicate rows line) where
  length := List.length_replicate
  lines := by
    intro other member
    rw [List.eq_of_mem_replicate member]
    exact good

theorem IsLine.assignSlice {line values : List Cell} (isLine : IsLine columns allowed line)
    {start stop : Nat} (forward : start ≤ stop) (within : stop ≤ columns)
    (isValues : IsLine (stop - start) allowed values) :
    IsLine columns allowed (assignSlice start stop values line) where
  length := (length_assignSlice forward (isLine.length ▸ within) isValues.length).trans
    isLine.length
  allowed := by
    intro cell member
    rcases mem_of_mem_assignSlice member with here | elsewhere
    · exact isValues.allowed cell here
    · exact isLine.allowed cell elsewhere

theorem IsLine.set {line : List Cell} (isLine : IsLine columns allowed line) (index : Nat)
    {cell : Cell} (good : allowed cell) : IsLine columns allowed (line.set index cell) where
  length := (List.length_set ..).trans isLine.length
  allowed := by
    intro other member
    rcases List.mem_or_eq_of_mem_set member with old | new
    · exact isLine.allowed other old
    · rw [new]
      exact good

namespace IsGrid

variable {cells : List (List Cell)}

/-- A line of the grid. -/
theorem getElem? (isGrid : IsGrid rows columns allowed cells) {index : Nat}
    (within : index < rows) :
    ∃ line, cells[index]? = some line ∧ IsLine columns allowed line := by
  have bound : index < cells.length := isGrid.length ▸ within
  exact ⟨cells[index], List.getElem?_eq_getElem bound,
    isGrid.lines _ (List.getElem_mem bound)⟩

theorem assignAt (isGrid : IsGrid rows columns allowed cells) {index : Nat}
    (within : index < rows) {line : List Cell} (good : IsLine columns allowed line) :
    ∃ edited, assignAt index line cells = some edited ∧
      IsGrid rows columns allowed edited := by
  refine ⟨_, if_pos (isGrid.length ▸ within), (List.length_set ..).trans isGrid.length, ?_⟩
  intro other member
  rcases List.mem_or_eq_of_mem_set member with old | new
  · exact isGrid.lines other old
  · rw [new]
    exact good

/-- A line is deleted and another one inserted. -/
theorem insertAt_deleteAt (isGrid : IsGrid rows columns allowed cells)
    {deleted : Nat} (within : deleted < rows) (inserted : Nat) {line : List Cell}
    (good : IsLine columns allowed line) :
    ∃ rest, deleteAt deleted cells = some rest ∧
      IsGrid rows columns allowed (insertAt inserted line rest) := by
  have bound : deleted < cells.length := isGrid.length ▸ within
  refine ⟨_, if_pos bound, ?_, ?_⟩
  · rw [length_insertAt, List.length_eraseIdx_of_lt bound, isGrid.length]
    omega
  · intro other member
    rcases mem_insertAt.mp member with new | old
    · rw [new]
      exact good
    · exact isGrid.lines other (List.mem_of_mem_eraseIdx old)

/-- A line is inserted and another one deleted. -/
theorem deleteAt_insertAt (isGrid : IsGrid rows columns allowed cells)
    {deleted : Nat} (within : deleted ≤ rows) (inserted : Nat) {line : List Cell}
    (good : IsLine columns allowed line) :
    ∃ edited, deleteAt deleted (insertAt inserted line cells) = some edited ∧
      IsGrid rows columns allowed edited := by
  have longer : (insertAt inserted line cells).length = rows + 1 := by
    rw [length_insertAt, isGrid.length]
  have bound : deleted < (insertAt inserted line cells).length := by omega
  refine ⟨_, if_pos bound, ?_, ?_⟩
  · rw [List.length_eraseIdx_of_lt bound, longer]
    omega
  · intro other member
    rcases mem_insertAt.mp (List.mem_of_mem_eraseIdx member) with new | old
    · rw [new]
      exact good
    · exact isGrid.lines other old

end IsGrid

end Grid

end Foundation
