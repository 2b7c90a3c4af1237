import Execraft.Foundation.Grid
import Execraft.Foundation.Python

/-!
# The screen of an agent terminal

The part of a VT terminal that command line interfaces use: cells, a cursor, a scroll
region and the control sequences that edit them.  An index out of range fails.
-/

namespace Execraft.Orchestrate

open Foundation Foundation.Json Foundation.Text

inductive ScreenState where
  | normal
  | escape
  | csi
  | osc
  | charset
  deriving DecidableEq, Repr

structure TerminalScreen where
  rows : Nat
  columns : Nat
  cells : List (List Char)
  cursorRow : Nat := 0
  cursorColumn : Nat := 0
  cursorVisible : Bool := true
  savedCursor : Nat × Nat := (0, 0)
  scrollTop : Nat := 0
  scrollBottom : Nat
  state : ScreenState := .normal
  sequence : List Char := []
  oscEscaped : Bool := false
  wrapPending : Bool := false
  revision : Nat := 0
  deriving DecidableEq, Repr

structure TerminalSnapshot where
  content : String
  rows : Nat
  columns : Nat
  cursorRow : Nat
  cursorColumn : Nat
  cursorVisible : Bool
  revision : Nat
  deriving DecidableEq, Repr

namespace TerminalScreen

/-! ## Parts -/

def bounded (value minimum maximum : Int) : Nat :=
  (max minimum (min maximum value)).toNat

/-- `[" "] * count`. -/
def blanks (count : Nat) : List Char :=
  List.replicate count ' '

def blankScreen (rows columns : Nat) : List (List Char) :=
  List.replicate rows (blanks columns)

/-- A new screen of the bounded size. -/
def ofSize (rows columns : Int) : TerminalScreen :=
  let rows := bounded rows 10 300
  let columns := bounded columns 20 500
  { rows := rows
    columns := columns
    cells := blankScreen rows columns
    scrollBottom := rows - 1 }

/-- The integers between semicolons, `0` where there is none. -/
def parameters (py : Python) (raw : List Char) : List Int :=
  if raw = [] then []
  else (raw.splitOn ';').map fun item =>
    if item = [] then 0 else (py.toInt (.string (String.ofList item))).getD 0

variable (screen : TerminalScreen)

def touch : TerminalScreen :=
  { screen with revision := screen.revision + 1 }

def clampCursor : TerminalScreen :=
  { screen with
    cursorRow := min (screen.rows - 1) screen.cursorRow
    cursorColumn := min (screen.columns - 1) screen.cursorColumn }

def clearScreen : TerminalScreen :=
  { screen with cells := blankScreen screen.rows screen.columns }.touch

/-- The screen with other cells. -/
def withCells (cells : List (List Char)) : TerminalScreen :=
  { screen with cells := cells }

/-- The line of the cursor changed. -/
def editLine (edit : List Char → List Char) : Option TerminalScreen := do
  let line ← screen.cells[screen.cursorRow]?
  let cells ← assignAt screen.cursorRow (edit line) screen.cells
  return screen.withCells cells

/-- A blank line goes in behind each of `count` deleted ones. -/
def deleteThenInsert (deleted inserted count : Nat) : Option TerminalScreen := do
  let cells ← (List.range count).foldlM (fun cells _ => do
    let rest ← deleteAt deleted cells
    return insertAt inserted (blanks screen.columns) rest) screen.cells
  return (screen.withCells cells).touch

/-! ## Scrolling -/

def scrollUp (amount : Nat) : Option TerminalScreen :=
  screen.deleteThenInsert screen.scrollTop screen.scrollBottom
    (min amount (screen.scrollBottom - screen.scrollTop + 1))

def scrollDown (amount : Nat) : Option TerminalScreen :=
  screen.deleteThenInsert screen.scrollBottom screen.scrollTop
    (min amount (screen.scrollBottom - screen.scrollTop + 1))

def clearWrap : TerminalScreen :=
  { screen with wrapPending := false }

def linefeed : Option TerminalScreen :=
  (if screen.cursorRow = screen.scrollBottom then screen.scrollUp 1
  else some { screen with
    cursorRow := min (screen.rows - 1) (screen.cursorRow + 1) }).map clearWrap

def reverseLinefeed : Option TerminalScreen :=
  (if screen.cursorRow = screen.scrollTop then screen.scrollDown 1
  else some { screen with cursorRow := screen.cursorRow - 1 }).map clearWrap

def insertLines (amount : Nat) : Option TerminalScreen :=
  if screen.scrollTop ≤ screen.cursorRow ∧ screen.cursorRow ≤ screen.scrollBottom then do
    let cells ← (List.range (min amount (screen.scrollBottom - screen.cursorRow + 1))).foldlM
      (fun cells _ => deleteAt (screen.scrollBottom + 1)
        (insertAt screen.cursorRow (blanks screen.columns) cells)) screen.cells
    return (screen.withCells cells).touch
  else some screen

def deleteLines (amount : Nat) : Option TerminalScreen :=
  if screen.scrollTop ≤ screen.cursorRow ∧ screen.cursorRow ≤ screen.scrollBottom then
    screen.deleteThenInsert screen.cursorRow screen.scrollBottom
      (min amount (screen.scrollBottom - screen.cursorRow + 1))
  else some screen

/-! ## Erasing -/

/-- The cells up to and with the cursor become blank. -/
def blankBefore (line : List Char) : List Char :=
  assignSlice 0 (screen.cursorColumn + 1) (blanks (screen.cursorColumn + 1)) line

/-- The cells from the cursor on become blank. -/
def blankBehind (line : List Char) : List Char :=
  assignSlice screen.cursorColumn line.length
    (blanks (screen.columns - screen.cursorColumn)) line

/-- Each of the rows becomes blank. -/
def blankRows (rows : List Nat) : Option TerminalScreen := do
  let cells ← rows.foldlM
    (fun cells row => assignAt row (blanks screen.columns) cells) screen.cells
  return screen.withCells cells

/-- The rows above the cursor become blank. -/
def blankAbove : Option TerminalScreen :=
  screen.blankRows (List.range screen.cursorRow)

/-- The rows below the cursor become blank. -/
def blankBelow : Option TerminalScreen :=
  screen.blankRows
    (List.range' (screen.cursorRow + 1) (screen.rows - (screen.cursorRow + 1)))

def eraseDisplay (mode : Int) : Option TerminalScreen :=
  if mode = 2 ∨ mode = 3 then some screen.clearScreen
  else if mode = 1 then do
    let above ← screen.blankAbove
    let erased ← above.editLine above.blankBefore
    return erased.touch
  else do
    let erased ← screen.editLine screen.blankBehind
    let below ← erased.blankBelow
    return below.touch

def eraseLine (mode : Int) : Option TerminalScreen := do
  let erased ← screen.editLine
    (if mode = 2 then fun _ => blanks screen.columns
    else if mode = 1 then screen.blankBefore
    else screen.blankBehind)
  return erased.touch

/-- How many of the cells from the cursor on an operation edits. -/
def affected (amount : Nat) : Nat :=
  min amount (screen.columns - screen.cursorColumn)

def deleteCharacters (amount : Nat) : Option TerminalScreen := do
  let count := screen.affected amount
  let edited ← screen.editLine fun line =>
    assignSlice screen.cursorColumn (screen.cursorColumn + count) [] line ++ blanks count
  return edited.touch

def insertCharacters (amount : Nat) : Option TerminalScreen := do
  let count := screen.affected amount
  let edited ← screen.editLine fun line =>
    (assignSlice screen.cursorColumn screen.cursorColumn (blanks count) line).take
      screen.columns
  return edited.touch

def eraseCharacters (amount : Nat) : Option TerminalScreen := do
  let count := screen.affected amount
  let edited ← screen.editLine
    (assignSlice screen.cursorColumn (screen.cursorColumn + count) (blanks count))
  return edited.touch

/-! ## Writing -/

/-- Behind the last column the next character goes to the next line. -/
def wrap : Option TerminalScreen :=
  if screen.wrapPending then { screen with cursorColumn := 0 }.linefeed.map clearWrap
  else some screen

def putCharacter (character : Char) : Option TerminalScreen := do
  let cells ← screen.cells[screen.cursorRow]?
  let present ← cells[screen.cursorColumn]?
  if present ≠ character then
    let written ← screen.editLine fun line => line.set screen.cursorColumn character
    return written.touch
  else
    return screen

def advance : TerminalScreen :=
  if screen.columns - 1 ≤ screen.cursorColumn then { screen with wrapPending := true }
  else { screen with cursorColumn := screen.cursorColumn + 1 }

def write (character : Char) : Option TerminalScreen :=
  (screen.wrap.bind fun wrapped => wrapped.putCharacter character).map advance

def reset : TerminalScreen :=
  { screen.clearScreen with
    cursorRow := 0
    cursorColumn := 0
    cursorVisible := true
    savedCursor := (0, 0)
    scrollTop := 0
    scrollBottom := screen.rows - 1
    wrapPending := false }

/-! ## Control sequences -/

def restoreCursor : TerminalScreen :=
  { screen with
    cursorRow := screen.savedCursor.1
    cursorColumn := screen.savedCursor.2 }.clampCursor

def saveCursor : TerminalScreen :=
  { screen with savedCursor := (screen.cursorRow, screen.cursorColumn) }

/-- One private mode, switched on or off. -/
def setMode (enabled : Bool) (mode : Int) : TerminalScreen :=
  if mode = 25 then
    if screen.cursorVisible ≠ enabled then { screen with cursorVisible := enabled }.touch
    else screen
  else if mode ∈ [47, 1047, 1049] ∧ enabled then
    { screen.clearScreen with cursorRow := 0, cursorColumn := 0 }
  else screen

/-- `value or other`. -/
def orOther (value other : Int) : Int :=
  if value = 0 then other else value

/-- The scroll region between two lines; an empty or too long one is ignored. -/
def setScrollRegion (top bottom : Int) : TerminalScreen :=
  if 1 ≤ top ∧ top < bottom ∧ bottom ≤ screen.rows then
    { screen with
      scrollTop := (top - 1).toNat
      scrollBottom := (bottom - 1).toNat
      cursorRow := (top - 1).toNat
      cursorColumn := 0 }
  else screen

def firstParameter (params : List Int) : Int :=
  params[0]?.getD 0

def amount (params : List Int) : Nat :=
  (max 1 (orOther (firstParameter params) 1)).toNat

/-- Where a control sequence moves the cursor. -/
def cursorTarget (params : List Int) (final : Char) : Nat × Nat :=
  let up := max screen.scrollTop (screen.cursorRow - amount params)
  let down := min screen.scrollBottom (screen.cursorRow + amount params)
  match final with
  | 'A' => (up, screen.cursorColumn)
  | 'B' => (down, screen.cursorColumn)
  | 'C' => (screen.cursorRow,
      min (screen.columns - 1) (screen.cursorColumn + amount params))
  | 'D' => (screen.cursorRow, screen.cursorColumn - amount params)
  | 'E' => (down, 0)
  | 'F' => (up, 0)
  | 'G' | '\x60' => (screen.cursorRow, min (screen.columns - 1) (amount params - 1))
  | 'H' | 'f' =>
      (min (screen.rows - 1) (orOther (params[0]?.getD 1) 1 - 1).toNat,
        min (screen.columns - 1) (orOther (params[1]?.getD 1) 1 - 1).toNat)
  | 'd' => (min (screen.rows - 1) (amount params - 1), screen.cursorColumn)
  | _ => (screen.cursorRow, screen.cursorColumn)

def moveCursor (params : List Int) (final : Char) : TerminalScreen :=
  { screen with
    cursorRow := (screen.cursorTarget params final).1
    cursorColumn := (screen.cursorTarget params final).2 }

/-- How a control sequence edits the cells. -/
def editCells (params : List Int) (final : Char) : Option TerminalScreen :=
  match final with
  | 'J' => screen.eraseDisplay (firstParameter params)
  | 'K' => screen.eraseLine (firstParameter params)
  | 'P' => screen.deleteCharacters (amount params)
  | '@' => screen.insertCharacters (amount params)
  | 'X' => screen.eraseCharacters (amount params)
  | 'L' => screen.insertLines (amount params)
  | 'M' => screen.deleteLines (amount params)
  | 'S' => screen.scrollUp (amount params)
  | 'T' => screen.scrollDown (amount params)
  | _ => some screen

/-- What a control sequence sets otherwise. -/
def setOther (isPrivate : Bool) (params : List Int) (final : Char) : TerminalScreen :=
  match final with
  | 'r' => screen.setScrollRegion (orOther (params[0]?.getD 1) 1)
      (orOther (params[1]?.getD screen.rows) screen.rows)
  | 's' => screen.saveCursor
  | 'u' => screen.restoreCursor
  | 'h' => if isPrivate then params.foldl (fun screen => screen.setMode true) screen
      else screen
  | 'l' => if isPrivate then params.foldl (fun screen => screen.setMode false) screen
      else screen
  | _ => screen

/-- The effect of a control sequence with its parameters.  No final character belongs to
two of the three groups. -/
def control (isPrivate : Bool) (params : List Int) (final : Char) : Option TerminalScreen :=
  ((screen.moveCursor params final).editCells params final).map
    fun edited => edited.setOther isPrivate params final

def handleCsi (py : Python) (raw : List Char) (final : Char) : Option TerminalScreen :=
  let isPrivate := raw.head? = some '?'
  let cleaned := if isPrivate then raw.tail else raw
  (screen.control isPrivate (parameters py cleaned) final).map
    fun handled => handled.clearWrap.clampCursor

/-! ## Consuming characters -/

def consumeNormal (character : Char) : Option TerminalScreen :=
  match character with
  | '\x1b' => some { screen with state := .escape, sequence := [] }
  | '\r' => some { screen with cursorColumn := 0, wrapPending := false }
  | '\n' | '\x0b' | '\x0c' => screen.linefeed
  | '\x08' => some { screen with
      cursorColumn := screen.cursorColumn - 1
      wrapPending := false }
  | '\t' => some { screen with
      cursorColumn := min (screen.columns - 1) ((screen.cursorColumn / 8 + 1) * 8)
      wrapPending := false }
  | _ =>
      if character.toNat < 32 ∨ character.toNat = 127 then some screen
      else screen.write character

def consumeEscape (character : Char) : Option TerminalScreen :=
  let screen := { screen with state := .normal }
  match character with
  | '[' => some { screen with state := .csi, sequence := [] }
  | ']' => some { screen with state := .osc, sequence := [], oscEscaped := false }
  | '(' | ')' | '*' | '+' => some { screen with state := .charset }
  | '7' => some screen.saveCursor
  | '8' => some screen.restoreCursor
  | 'D' => screen.linefeed
  | 'M' => screen.reverseLinefeed
  | 'E' => { screen with cursorColumn := 0 }.linefeed
  | 'c' => some screen.reset
  | _ => some screen

def consumeCsi (py : Python) (character : Char) : Option TerminalScreen :=
  if '@' ≤ character ∧ character ≤ '~' then
    { screen with sequence := [], state := .normal }.handleCsi py screen.sequence character
  else if screen.sequence.length < 128 then
    some { screen with sequence := screen.sequence ++ [character] }
  else
    some { screen with sequence := [], state := .normal }

def consumeOsc (character : Char) : TerminalScreen :=
  if character = '\x07' then { screen with state := .normal, sequence := [] }
  else if screen.oscEscaped ∧ character = '\\' then
    { screen with state := .normal, sequence := [], oscEscaped := false }
  else
    let screen := { screen with oscEscaped := false }
    if character = '\x1b' then { screen with oscEscaped := true }
    else if screen.sequence.length < 4096 then
      { screen with sequence := screen.sequence ++ [character] }
    else screen

def consume (py : Python) (character : Char) : Option TerminalScreen :=
  match screen.state with
  | .normal => screen.consumeNormal character
  | .escape => screen.consumeEscape character
  | .csi => screen.consumeCsi py character
  | .osc => some (screen.consumeOsc character)
  | .charset => some { screen with state := .normal }

def cursor : Nat × Nat × Bool :=
  (screen.cursorRow, screen.cursorColumn, screen.cursorVisible)

/-- One round of the loop of `feed`: a moved cursor is a change of the screen too. -/
def feedCharacter (py : Python) (character : Char) : Option TerminalScreen := do
  let consumed ← screen.consume py character
  if consumed.cursor ≠ screen.cursor ∧ consumed.revision = screen.revision then
    return consumed.touch
  else
    return consumed

/-- The screen behind the text, and whether it changed visibly. -/
def feed (py : Python) (text : List Char) : Option (TerminalScreen × Bool) := do
  let fed ← text.foldlM (fun screen character => screen.feedCharacter py character) screen
  return (fed, fed.revision ≠ screen.revision)

/-- The old cell where both sizes have it, a blank elsewhere. -/
def resizedCell (row column : Nat) : Option Char :=
  if row < screen.rows ∧ column < screen.columns then do
    let cells ← screen.cells[row]?
    cells[column]?
  else some ' '

def resizedCells (rows columns : Nat) : Option (List (List Char)) :=
  (List.range rows).mapM fun row =>
    (List.range columns).mapM fun column => screen.resizedCell row column

def resize (rows columns : Int) : Option TerminalScreen := do
  let newRows := bounded rows 10 300
  let newColumns := bounded columns 20 500
  if newRows = screen.rows ∧ newColumns = screen.columns then
    return screen
  else
    let resized ← screen.resizedCells newRows newColumns
    return { screen with
      rows := newRows
      columns := newColumns
      cells := resized
      cursorRow := min screen.cursorRow (newRows - 1)
      cursorColumn := min screen.cursorColumn (newColumns - 1)
      scrollTop := 0
      scrollBottom := newRows - 1
      wrapPending := false }.touch

/-! ## Snapshots -/

/-- `rstrip()`. -/
def rstrip (line : List Char) : List Char :=
  (line.reverse.dropWhile isSpace).reverse

/-- The stripped lines without the empty ones at the end. -/
def visibleLines : List (List Char) :=
  ((screen.cells.map rstrip).reverse.dropWhile fun line => line = []).reverse

def snapshot : TerminalSnapshot where
  content := String.ofList (['\n'].intercalate screen.visibleLines)
  rows := screen.rows
  columns := screen.columns
  cursorRow := screen.cursorRow
  cursorColumn := screen.cursorColumn
  cursorVisible := screen.cursorVisible
  revision := screen.revision

end TerminalScreen

end Execraft.Orchestrate
