import Execraft.Foundation.SafeStep
import Execraft.Orchestrate.TerminalScreen

/-!
# Runs of the terminal screen

No operation fails, the shape of the screen and its cursor are kept, and a snapshot is
determined by its revision.  A pending wrap stays in the last column unless a saved cursor
is restored over it.
-/

namespace Execraft.Orchestrate

open Foundation Foundation.Json Foundation.Text

/-- Neither a C0 control character nor DEL. -/
def Printable (character : Char) : Prop :=
  32 ≤ character.toNat ∧ character.toNat ≠ 127

namespace TerminalScreen

/-- The shape of the cells, the cursor and the scroll region. -/
structure Sound (screen : TerminalScreen) : Prop where
  someRows : 10 ≤ screen.rows
  grid : IsGrid screen.rows screen.columns Printable screen.cells
  rowWithin : screen.cursorRow < screen.rows
  columnWithin : screen.cursorColumn < screen.columns
  region : screen.scrollTop < screen.scrollBottom
  regionWithin : screen.scrollBottom ≤ screen.rows - 1

/-- A pending wrap waits in the last column. -/
def WrapAtEdge (screen : TerminalScreen) : Prop :=
  screen.wrapPending = true → screen.cursorColumn = screen.columns - 1

/-- The size is kept, and the cells change only with the revision. -/
structure Advances (before after : TerminalScreen) : Prop where
  rows : after.rows = before.rows
  columns : after.columns = before.columns
  cells : before.revision < after.revision ∨
    after.revision = before.revision ∧ after.cells = before.cells

theorem Advances.refl (screen : TerminalScreen) : Advances screen screen :=
  ⟨rfl, rfl, Or.inr ⟨rfl, rfl⟩⟩

theorem Advances.trans (first middle last : TerminalScreen)
    (toMiddle : Advances first middle) (toLast : Advances middle last) :
    Advances first last where
  rows := toLast.rows.trans toMiddle.rows
  columns := toLast.columns.trans toMiddle.columns
  cells := by
    rcases toMiddle.cells with before | ⟨same, kept⟩
    · rcases toLast.cells with later | ⟨same, -⟩
      · exact Or.inl (before.trans later)
      · exact Or.inl (same ▸ before)
    · rcases toLast.cells with later | ⟨still, unchanged⟩
      · exact Or.inl (same ▸ later)
      · exact Or.inr ⟨still.trans same, unchanged.trans kept⟩

/-- The screen operations that cannot fail. -/
abbrev Keeps (screen : TerminalScreen) (result : Option TerminalScreen) : Prop :=
  Leads Sound Advances screen result

variable {screen : TerminalScreen}

/-! ## Cells -/

theorem isLine_blanks (count : Nat) : IsLine count Printable (blanks count) :=
  isLine_replicate ⟨by decide, by decide⟩

theorem isGrid_blankScreen (rows columns : Nat) :
    IsGrid rows columns Printable (blankScreen rows columns) :=
  isGrid_replicate (isLine_blanks columns)

theorem Sound.withCells (sound : screen.Sound) {cells : List (List Char)}
    (grid : IsGrid screen.rows screen.columns Printable cells) :
    (screen.withCells cells).Sound :=
  { sound with grid := grid }

/-- Edited cells under a new revision. -/
theorem keeps_withCells_touch (sound : screen.Sound) {cells : List (List Char)}
    (grid : IsGrid screen.rows screen.columns Printable cells) :
    screen.Keeps (some (screen.withCells cells).touch) :=
  leads_some { sound with grid := grid } ⟨rfl, rfl, Or.inl (Nat.lt_succ_self _)⟩

theorem exists_editLine (sound : screen.Sound) {edit : List Char → List Char}
    (keeps : ∀ line, IsLine screen.columns Printable line →
      IsLine screen.columns Printable (edit line)) :
    ∃ cells, screen.editLine edit = some (screen.withCells cells) ∧
      IsGrid screen.rows screen.columns Printable cells := by
  obtain ⟨line, found, isLine⟩ := sound.grid.getElem? sound.rowWithin
  obtain ⟨cells, assigned, grid⟩ := sound.grid.assignAt sound.rowWithin (keeps line isLine)
  refine ⟨cells, ?_, grid⟩
  simp only [editLine, found, assigned, Option.bind_eq_bind, Option.bind_some]
  rfl

theorem keeps_editLine_touch (sound : screen.Sound) {edit : List Char → List Char}
    (keeps : ∀ line, IsLine screen.columns Printable line →
      IsLine screen.columns Printable (edit line)) :
    screen.Keeps ((screen.editLine edit).bind fun edited => some edited.touch) := by
  obtain ⟨cells, edited, grid⟩ := exists_editLine sound keeps
  rw [edited]
  exact keeps_withCells_touch sound grid

/-- Edits of the grid that all succeed. -/
theorem exists_foldlM_grid {rows columns : Nat} {Input : Type}
    (step : List (List Char) → Input → Option (List (List Char))) {inputs : List Input}
    (steps : ∀ input ∈ inputs, ∀ cells, IsGrid rows columns Printable cells →
      ∃ edited, step cells input = some edited ∧ IsGrid rows columns Printable edited)
    {cells : List (List Char)} (grid : IsGrid rows columns Printable cells) :
    ∃ edited, inputs.foldlM step cells = some edited ∧
      IsGrid rows columns Printable edited := by
  induction inputs generalizing cells with
  | nil => exact ⟨cells, rfl, grid⟩
  | cons input rest inductionHypothesis =>
      obtain ⟨edited, done, editedGrid⟩ := steps input List.mem_cons_self cells grid
      obtain ⟨final, finished, finalGrid⟩ := inductionHypothesis
        (fun other member => steps other (List.mem_cons_of_mem _ member)) editedGrid
      refine ⟨final, ?_, finalGrid⟩
      simp only [List.foldlM_cons, done, Option.bind_eq_bind, Option.bind_some, finished]

theorem keeps_deleteThenInsert (sound : screen.Sound) {deleted : Nat}
    (within : deleted < screen.rows) (inserted count : Nat) :
    screen.Keeps (screen.deleteThenInsert deleted inserted count) := by
  obtain ⟨cells, edited, grid⟩ := exists_foldlM_grid
    (fun cells (_ : Nat) => do
      let rest ← deleteAt deleted cells
      return insertAt inserted (blanks screen.columns) rest)
    (fun _ (_ : _ ∈ List.range count) cells grid => by
      obtain ⟨rest, removed, restGrid⟩ :=
        grid.insertAt_deleteAt within inserted (isLine_blanks screen.columns)
      exact ⟨_, by rw [removed]; rfl, restGrid⟩) sound.grid
  rw [deleteThenInsert, edited]
  exact keeps_withCells_touch sound grid

theorem exists_blankRows (sound : screen.Sound) {rows : List Nat}
    (within : ∀ row ∈ rows, row < screen.rows) :
    ∃ cells, screen.blankRows rows = some (screen.withCells cells) ∧
      IsGrid screen.rows screen.columns Printable cells := by
  obtain ⟨cells, edited, grid⟩ := exists_foldlM_grid _
    (fun row member cells grid =>
      grid.assignAt (within row member) (isLine_blanks screen.columns)) sound.grid
  exact ⟨cells, by rw [blankRows, edited]; rfl, grid⟩

/-! ## Scrolling -/

theorem Sound.topWithin (sound : screen.Sound) : screen.scrollTop < screen.rows := by
  have region := sound.region
  have within := sound.regionWithin
  omega

theorem Sound.bottomWithin (sound : screen.Sound) : screen.scrollBottom < screen.rows := by
  have someRows := sound.someRows
  have within := sound.regionWithin
  omega

theorem keeps_scrollUp (sound : screen.Sound) (amount : Nat) :
    screen.Keeps (screen.scrollUp amount) :=
  keeps_deleteThenInsert sound sound.topWithin _ _

theorem keeps_scrollDown (sound : screen.Sound) (amount : Nat) :
    screen.Keeps (screen.scrollDown amount) :=
  keeps_deleteThenInsert sound sound.bottomWithin _ _

/-- A step that leaves the cells and their size alone. -/
theorem advances_of_same {next : TerminalScreen} (rows : next.rows = screen.rows)
    (columns : next.columns = screen.columns) (cells : next.cells = screen.cells)
    (revision : next.revision = screen.revision) : Advances screen next :=
  ⟨rows, columns, Or.inr ⟨revision, cells⟩⟩

theorem keeps_clearWrap (screen : TerminalScreen) (sound : screen.Sound) :
    screen.clearWrap.Sound ∧ Advances screen screen.clearWrap :=
  ⟨{ sound with }, advances_of_same rfl rfl rfl rfl⟩

theorem keeps_linefeed (sound : screen.Sound) : screen.Keeps screen.linefeed := by
  unfold linefeed
  refine Leads.map Advances.trans ?_ keeps_clearWrap
  split
  · exact keeps_scrollUp sound 1
  · refine leads_some { sound with rowWithin := ?_ } (advances_of_same rfl rfl rfl rfl)
    have someRows := sound.someRows
    show min (screen.rows - 1) (screen.cursorRow + 1) < screen.rows
    omega

theorem keeps_reverseLinefeed (sound : screen.Sound) :
    screen.Keeps screen.reverseLinefeed := by
  unfold reverseLinefeed
  refine Leads.map Advances.trans ?_ keeps_clearWrap
  split
  · exact keeps_scrollDown sound 1
  · refine leads_some { sound with rowWithin := ?_ } (advances_of_same rfl rfl rfl rfl)
    have within := sound.rowWithin
    show screen.cursorRow - 1 < screen.rows
    omega

theorem keeps_insertLines (sound : screen.Sound) (amount : Nat) :
    screen.Keeps (screen.insertLines amount) := by
  unfold insertLines
  split
  · obtain ⟨cells, edited, grid⟩ := exists_foldlM_grid
      (fun cells (_ : Nat) => deleteAt (screen.scrollBottom + 1)
        (insertAt screen.cursorRow (blanks screen.columns) cells))
      (fun _ (_ : _ ∈ List.range
          (min amount (screen.scrollBottom - screen.cursorRow + 1))) cells grid =>
        grid.deleteAt_insertAt sound.bottomWithin _ (isLine_blanks screen.columns))
      sound.grid
    rw [edited]
    exact keeps_withCells_touch sound grid
  · exact leads_some sound (Advances.refl screen)

theorem keeps_deleteLines (sound : screen.Sound) (amount : Nat) :
    screen.Keeps (screen.deleteLines amount) := by
  unfold deleteLines
  split
  · exact keeps_deleteThenInsert sound sound.rowWithin _ _
  · exact leads_some sound (Advances.refl screen)

/-! ## Erasing -/

theorem isLine_blankBefore (sound : screen.Sound) {line : List Char}
    (isLine : IsLine screen.columns Printable line) :
    IsLine screen.columns Printable (screen.blankBefore line) :=
  isLine.assignSlice (Nat.zero_le _) sound.columnWithin (isLine_blanks _)

theorem isLine_blankBehind (sound : screen.Sound) {line : List Char}
    (isLine : IsLine screen.columns Printable line) :
    IsLine screen.columns Printable (screen.blankBehind line) := by
  unfold blankBehind
  rw [isLine.length]
  exact isLine.assignSlice sound.columnWithin.le (le_refl _) (isLine_blanks _)

theorem keeps_clearScreen (sound : screen.Sound) : screen.Keeps (some screen.clearScreen) :=
  keeps_withCells_touch sound (isGrid_blankScreen _ _)

theorem exists_blankAbove (sound : screen.Sound) :
    ∃ cells, screen.blankAbove = some (screen.withCells cells) ∧
      IsGrid screen.rows screen.columns Printable cells :=
  exists_blankRows sound fun _ member => (List.mem_range.mp member).trans sound.rowWithin

theorem exists_blankBelow (sound : screen.Sound) :
    ∃ cells, screen.blankBelow = some (screen.withCells cells) ∧
      IsGrid screen.rows screen.columns Printable cells := by
  refine exists_blankRows sound fun row member => ?_
  have bounds := List.mem_range'_1.mp member
  omega

theorem keeps_eraseDisplay (sound : screen.Sound) (mode : Int) :
    screen.Keeps (screen.eraseDisplay mode) := by
  unfold eraseDisplay
  split
  · exact keeps_clearScreen sound
  · split
    · obtain ⟨cells, above, grid⟩ := exists_blankAbove sound
      have aboveSound := sound.withCells grid
      obtain ⟨erased, edited, erasedGrid⟩ := exists_editLine aboveSound
        fun _ isLine => isLine_blankBefore aboveSound isLine
      rw [above]
      simp only [Option.bind_eq_bind, Option.bind_some, edited]
      exact keeps_withCells_touch sound erasedGrid
    · obtain ⟨cells, edited, grid⟩ := exists_editLine sound
        fun _ isLine => isLine_blankBehind sound isLine
      obtain ⟨below, blanked, belowGrid⟩ := exists_blankBelow (sound.withCells grid)
      rw [edited]
      simp only [Option.bind_eq_bind, Option.bind_some, blanked]
      exact keeps_withCells_touch sound belowGrid

theorem keeps_eraseLine (sound : screen.Sound) (mode : Int) :
    screen.Keeps (screen.eraseLine mode) := by
  unfold eraseLine
  refine keeps_editLine_touch sound fun line isLine => ?_
  split
  · exact isLine_blanks _
  · split
    · exact isLine_blankBefore sound isLine
    · exact isLine_blankBehind sound isLine

theorem affected_le (amount : Nat) :
    screen.affected amount ≤ screen.columns - screen.cursorColumn :=
  min_le_right _ _

theorem keeps_deleteCharacters (sound : screen.Sound) (amount : Nat) :
    screen.Keeps (screen.deleteCharacters amount) := by
  unfold deleteCharacters
  refine keeps_editLine_touch sound fun line isLine => ⟨?_, ?_⟩
  · have within := sound.columnWithin
    have few := @affected_le screen amount
    simp only [assignSlice, blanks, List.length_append, List.length_take, List.length_drop,
      List.length_nil, List.length_replicate, isLine.length]
    omega
  · intro cell member
    rcases List.mem_append.mp member with kept | blank
    · rcases mem_of_mem_assignSlice kept with nowhere | old
      · cases nowhere
      · exact isLine.allowed cell old
    · exact (isLine_blanks _).allowed cell blank

theorem keeps_insertCharacters (sound : screen.Sound) (amount : Nat) :
    screen.Keeps (screen.insertCharacters amount) := by
  unfold insertCharacters
  refine keeps_editLine_touch sound fun line isLine => ⟨?_, ?_⟩
  · have within := sound.columnWithin
    simp only [assignSlice, blanks, List.length_append, List.length_take, List.length_drop,
      List.length_replicate, isLine.length]
    omega
  · intro cell member
    rcases mem_of_mem_assignSlice (List.mem_of_mem_take member) with blank | old
    · exact (isLine_blanks _).allowed cell blank
    · exact isLine.allowed cell old

theorem keeps_eraseCharacters (sound : screen.Sound) (amount : Nat) :
    screen.Keeps (screen.eraseCharacters amount) := by
  unfold eraseCharacters
  refine keeps_editLine_touch sound fun line isLine => ?_
  have within := sound.columnWithin
  have few := @affected_le screen amount
  refine isLine.assignSlice (Nat.le_add_right _ _) (by omega) ?_
  rw [Nat.add_sub_cancel_left]
  exact isLine_blanks _

/-! ## Writing -/

theorem keeps_wrap (sound : screen.Sound) : screen.Keeps screen.wrap := by
  unfold wrap
  split
  · have someColumns := sound.columnWithin
    have carried : Sound { screen with cursorColumn := 0 } :=
      { sound with columnWithin := show 0 < screen.columns by omega }
    refine Leads.map Advances.trans
      (Leads.behind Advances.trans ?_ (keeps_linefeed carried)) keeps_clearWrap
    exact advances_of_same rfl rfl rfl rfl
  · exact leads_some sound (Advances.refl screen)

theorem keeps_putCharacter {character : Char} (printable : Printable character)
    (screen : TerminalScreen) (sound : screen.Sound) :
    screen.Keeps (screen.putCharacter character) := by
  obtain ⟨line, found, isLine⟩ := sound.grid.getElem? sound.rowWithin
  have bound : screen.cursorColumn < line.length := isLine.length ▸ sound.columnWithin
  unfold putCharacter
  simp only [found, Option.bind_eq_bind, Option.bind_some, List.getElem?_eq_getElem bound]
  split
  · exact keeps_editLine_touch sound fun line isLine => isLine.set _ printable
  · exact leads_some sound (Advances.refl screen)

theorem keeps_advance (screen : TerminalScreen) (sound : screen.Sound) :
    screen.advance.Sound ∧ Advances screen screen.advance := by
  have within := sound.columnWithin
  unfold advance
  split
  · exact ⟨{ sound with }, advances_of_same rfl rfl rfl rfl⟩
  · refine ⟨{ sound with columnWithin := ?_ }, advances_of_same rfl rfl rfl rfl⟩
    show screen.cursorColumn + 1 < screen.columns
    omega

theorem keeps_write (sound : screen.Sound) {character : Char}
    (printable : Printable character) : screen.Keeps (screen.write character) :=
  Leads.map Advances.trans
    (Leads.bind Advances.trans (keeps_wrap sound) (keeps_putCharacter printable))
    keeps_advance

theorem keeps_reset (sound : screen.Sound) : screen.Keeps (some screen.reset) := by
  have someRows := sound.someRows
  have someColumns := sound.columnWithin
  refine leads_some
    { someRows := someRows
      grid := isGrid_blankScreen _ _
      rowWithin := show 0 < screen.rows by omega
      columnWithin := show 0 < screen.columns by omega
      region := show 0 < screen.rows - 1 by omega
      regionWithin := le_refl _ } ⟨rfl, rfl, Or.inl (Nat.lt_succ_self _)⟩

/-! ## Control sequences -/

theorem keeps_clampCursor (screen : TerminalScreen) (sound : screen.Sound) :
    screen.clampCursor.Sound ∧ Advances screen screen.clampCursor := by
  have rowWithin := sound.rowWithin
  have columnWithin := sound.columnWithin
  refine ⟨{ sound with rowWithin := ?_, columnWithin := ?_ }, advances_of_same rfl rfl rfl rfl⟩
  · show min (screen.rows - 1) screen.cursorRow < screen.rows
    omega
  · show min (screen.columns - 1) screen.cursorColumn < screen.columns
    omega

theorem keeps_restoreCursor (screen : TerminalScreen) (sound : screen.Sound) :
    screen.restoreCursor.Sound ∧ Advances screen screen.restoreCursor := by
  have rowWithin := sound.rowWithin
  have columnWithin := sound.columnWithin
  refine ⟨{ sound with rowWithin := ?_, columnWithin := ?_ }, advances_of_same rfl rfl rfl rfl⟩
  · show min (screen.rows - 1) screen.savedCursor.1 < screen.rows
    omega
  · show min (screen.columns - 1) screen.savedCursor.2 < screen.columns
    omega

theorem keeps_setMode (enabled : Bool) (mode : Int) (sound : screen.Sound) :
    (screen.setMode enabled mode).Sound ∧
      Advances screen (screen.setMode enabled mode) := by
  have someRows := sound.someRows
  have someColumns := sound.columnWithin
  unfold setMode
  split
  · split
    · exact ⟨{ sound with }, rfl, rfl, Or.inl (Nat.lt_succ_self _)⟩
    · exact ⟨sound, Advances.refl screen⟩
  · split
    · refine ⟨{ sound with
        grid := isGrid_blankScreen _ _
        rowWithin := show 0 < screen.rows by omega
        columnWithin := show 0 < screen.columns by omega }, ?_⟩
      exact ⟨rfl, rfl, Or.inl (Nat.lt_succ_self _)⟩
    · exact ⟨sound, Advances.refl screen⟩

theorem keeps_setModes (enabled : Bool) (modes : List Int) (sound : screen.Sound) :
    (modes.foldl (fun screen => screen.setMode enabled) screen).Sound ∧
      Advances screen (modes.foldl (fun screen => screen.setMode enabled) screen) := by
  induction modes generalizing screen with
  | nil => exact ⟨sound, Advances.refl screen⟩
  | cons mode rest inductionHypothesis =>
      obtain ⟨nextSound, along⟩ := keeps_setMode enabled mode sound
      obtain ⟨lastSound, onward⟩ := inductionHypothesis nextSound
      exact ⟨lastSound, Advances.trans _ _ _ along onward⟩

theorem keeps_setScrollRegion (sound : screen.Sound) (top bottom : Int) :
    (screen.setScrollRegion top bottom).Sound ∧
      Advances screen (screen.setScrollRegion top bottom) := by
  have someColumns := sound.columnWithin
  unfold setScrollRegion
  split
  · refine ⟨{ sound with
      rowWithin := ?_
      columnWithin := show 0 < screen.columns by omega
      region := show (top - 1).toNat < (bottom - 1).toNat by omega
      regionWithin := show (bottom - 1).toNat ≤ screen.rows - 1 by omega },
      advances_of_same rfl rfl rfl rfl⟩
    show (top - 1).toNat < screen.rows
    omega
  · exact ⟨sound, Advances.refl screen⟩

theorem cursorTarget_within (sound : screen.Sound) (params : List Int) (final : Char) :
    (screen.cursorTarget params final).1 < screen.rows ∧
      (screen.cursorTarget params final).2 < screen.columns := by
  have rowWithin := sound.rowWithin
  have columnWithin := sound.columnWithin
  have top := sound.topWithin
  have bottom := sound.bottomWithin
  unfold cursorTarget
  split
  all_goals
    dsimp only
    omega

theorem keeps_moveCursor (sound : screen.Sound) (params : List Int) (final : Char) :
    (screen.moveCursor params final).Sound ∧
      Advances screen (screen.moveCursor params final) := by
  have within := cursorTarget_within sound params final
  exact ⟨{ sound with rowWithin := within.1, columnWithin := within.2 },
    advances_of_same rfl rfl rfl rfl⟩

theorem keeps_editCells (sound : screen.Sound) (params : List Int) (final : Char) :
    screen.Keeps (screen.editCells params final) := by
  unfold editCells
  split
  · exact keeps_eraseDisplay sound _
  · exact keeps_eraseLine sound _
  · exact keeps_deleteCharacters sound _
  · exact keeps_insertCharacters sound _
  · exact keeps_eraseCharacters sound _
  · exact keeps_insertLines sound _
  · exact keeps_deleteLines sound _
  · exact keeps_scrollUp sound _
  · exact keeps_scrollDown sound _
  · exact leads_some sound (Advances.refl screen)

theorem keeps_setOther (isPrivate : Bool) (params : List Int) (final : Char)
    (screen : TerminalScreen) (sound : screen.Sound) :
    (screen.setOther isPrivate params final).Sound ∧
      Advances screen (screen.setOther isPrivate params final) := by
  unfold setOther
  split
  · exact keeps_setScrollRegion sound _ _
  · exact ⟨{ sound with }, advances_of_same rfl rfl rfl rfl⟩
  · exact keeps_restoreCursor screen sound
  · split
    · exact keeps_setModes true params sound
    · exact ⟨sound, Advances.refl screen⟩
  · split
    · exact keeps_setModes false params sound
    · exact ⟨sound, Advances.refl screen⟩
  · exact ⟨sound, Advances.refl screen⟩

theorem keeps_control (sound : screen.Sound) (isPrivate : Bool) (params : List Int)
    (final : Char) : screen.Keeps (screen.control isPrivate params final) := by
  obtain ⟨movedSound, along⟩ := keeps_moveCursor sound params final
  exact Leads.map Advances.trans
    (Leads.behind Advances.trans along (keeps_editCells movedSound params final))
    (keeps_setOther isPrivate params final)

theorem keeps_handleCsi (py : Python) (sound : screen.Sound) (raw : List Char)
    (final : Char) : screen.Keeps (screen.handleCsi py raw final) := by
  refine Leads.map Advances.trans (keeps_control sound _ _ final) fun handled sound => ?_
  obtain ⟨clearedSound, cleared⟩ := keeps_clearWrap handled sound
  obtain ⟨clampedSound, clamped⟩ := keeps_clampCursor handled.clearWrap clearedSound
  exact ⟨clampedSound, Advances.trans _ _ _ cleared clamped⟩

/-! ## Consuming characters -/

theorem keeps_consumeNormal (sound : screen.Sound) (character : Char) :
    screen.Keeps (screen.consumeNormal character) := by
  have someColumns := sound.columnWithin
  unfold consumeNormal
  split
  · exact leads_some { sound with } (advances_of_same rfl rfl rfl rfl)
  · exact leads_some { sound with columnWithin := show 0 < screen.columns by omega }
      (advances_of_same rfl rfl rfl rfl)
  · exact keeps_linefeed sound
  · exact keeps_linefeed sound
  · exact keeps_linefeed sound
  · refine leads_some { sound with columnWithin := ?_ } (advances_of_same rfl rfl rfl rfl)
    show screen.cursorColumn - 1 < screen.columns
    omega
  · refine leads_some { sound with columnWithin := ?_ } (advances_of_same rfl rfl rfl rfl)
    show min (screen.columns - 1) ((screen.cursorColumn / 8 + 1) * 8) < screen.columns
    omega
  · split
    · exact leads_some sound (Advances.refl screen)
    · exact keeps_write sound ⟨by omega, by omega⟩

theorem keeps_consumeEscape (sound : screen.Sound) (character : Char) :
    screen.Keeps (screen.consumeEscape character) := by
  have someColumns := sound.columnWithin
  have normal : Sound { screen with state := .normal } := { sound with }
  have along : Advances screen { screen with state := .normal } :=
    advances_of_same rfl rfl rfl rfl
  refine Leads.behind Advances.trans along ?_
  simp only [consumeEscape]
  split
  · exact leads_some { normal with } (advances_of_same rfl rfl rfl rfl)
  · exact leads_some { normal with } (advances_of_same rfl rfl rfl rfl)
  · exact leads_some { normal with } (advances_of_same rfl rfl rfl rfl)
  · exact leads_some { normal with } (advances_of_same rfl rfl rfl rfl)
  · exact leads_some { normal with } (advances_of_same rfl rfl rfl rfl)
  · exact leads_some { normal with } (advances_of_same rfl rfl rfl rfl)
  · exact leads_some { normal with } (advances_of_same rfl rfl rfl rfl)
  · obtain ⟨restoredSound, restored⟩ := keeps_restoreCursor _ normal
    exact leads_some restoredSound restored
  · exact keeps_linefeed normal
  · exact keeps_reverseLinefeed normal
  · refine Leads.behind Advances.trans ?_ (keeps_linefeed
      { normal with columnWithin := show 0 < screen.columns by omega })
    exact advances_of_same rfl rfl rfl rfl
  · exact keeps_reset normal
  · exact leads_some normal (Advances.refl _)

theorem keeps_consumeCsi (py : Python) (sound : screen.Sound) (character : Char) :
    screen.Keeps (screen.consumeCsi py character) := by
  have normal : Sound { screen with sequence := [], state := .normal } := { sound with }
  have along : Advances screen { screen with sequence := [], state := .normal } :=
    advances_of_same rfl rfl rfl rfl
  unfold consumeCsi
  split
  · exact Leads.behind Advances.trans along
      (keeps_handleCsi py normal screen.sequence character)
  · split
    · exact leads_some { sound with } (advances_of_same rfl rfl rfl rfl)
    · exact leads_some normal along

theorem keeps_consumeOsc (sound : screen.Sound) (character : Char) :
    screen.Keeps (some (screen.consumeOsc character)) := by
  unfold consumeOsc
  split
  · exact leads_some { sound with } (advances_of_same rfl rfl rfl rfl)
  · split
    · exact leads_some { sound with } (advances_of_same rfl rfl rfl rfl)
    · dsimp only
      split
      · exact leads_some { sound with } (advances_of_same rfl rfl rfl rfl)
      · split
        · exact leads_some { sound with } (advances_of_same rfl rfl rfl rfl)
        · exact leads_some { sound with } (advances_of_same rfl rfl rfl rfl)

theorem keeps_consume (py : Python) (sound : screen.Sound) (character : Char) :
    screen.Keeps (screen.consume py character) := by
  unfold consume
  split
  · exact keeps_consumeNormal sound character
  · exact keeps_consumeEscape sound character
  · exact keeps_consumeCsi py sound character
  · exact keeps_consumeOsc sound character
  · exact leads_some { sound with } (advances_of_same rfl rfl rfl rfl)

end TerminalScreen

end Execraft.Orchestrate
