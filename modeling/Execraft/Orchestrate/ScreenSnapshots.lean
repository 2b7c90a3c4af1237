import Execraft.Orchestrate.ScreenRuns
import Mathlib.Data.List.Induction

/-!
# What a run of the screen shows

Feeding and resizing as one sequence of events.  Every state of a run has its shape, and
its revision determines its snapshot.  Pending wraps stay in the last column exactly in
the runs that restore no cursor over one.
-/

namespace Execraft.Orchestrate

open Foundation Foundation.Json Foundation.Text

/-- What happens to a screen between two of its states. -/
inductive ScreenEvent where
  | input (character : Char)
  | resize (rows columns : Int)

/-- A call of `feed` or `resize`. -/
inductive ScreenCall where
  | feed (text : String)
  | resize (rows columns : Int)

def ScreenCall.events : ScreenCall → List ScreenEvent
  | feed text => text.toList.map .input
  | resize rows columns => [.resize rows columns]

def ScreenEvent.call : ScreenEvent → ScreenCall
  | input character => .feed (String.ofList [character])
  | resize rows columns => .resize rows columns

theorem ScreenEvent.events_call (event : ScreenEvent) : event.call.events = [event] := by
  cases event with
  | input character => simp [call, ScreenCall.events]
  | resize rows columns => rfl

theorem ScreenEvent.flatMap_events_call (events : List ScreenEvent) :
    (events.map ScreenEvent.call).flatMap ScreenCall.events = events := by
  induction events with
  | nil => rfl
  | cons event rest inductionHypothesis =>
      rw [List.map_cons, List.flatMap_cons, inductionHypothesis, events_call]
      rfl

namespace TerminalScreen

section Runs

variable (py : Python) (screen : TerminalScreen)

def handle : ScreenEvent → Option TerminalScreen
  | .input character => screen.feedCharacter py character
  | .resize rows columns => screen.resize rows columns

def execute : ScreenCall → Option TerminalScreen
  | .feed text => (screen.feed py text.toList).map Prod.fst
  | .resize rows columns => screen.resize rows columns

/-- The state behind a sequence of calls on a new screen. -/
def run (rows columns : Int) (calls : List ScreenCall) : Option TerminalScreen :=
  calls.foldlM (execute py) (ofSize rows columns)

variable {py screen}

/-- A call is the sequence of its events. -/
theorem execute_eq (call : ScreenCall) :
    screen.execute py call = call.events.foldlM (handle py) screen := by
  cases call with
  | feed text =>
      simp only [execute, feed, ScreenCall.events, List.foldlM_map]
      cases fed : text.toList.foldlM (fun screen character =>
          TerminalScreen.feedCharacter screen py character) screen with
      | none =>
          simp only [handle, fed]
          rfl
      | some next =>
          simp only [handle, fed]
          rfl
  | resize rows columns =>
      simp only [execute, ScreenCall.events, List.foldlM_cons, List.foldlM_nil, handle]
      exact (bind_pure _).symm

theorem foldlM_execute (calls : List ScreenCall) :
    calls.foldlM (execute py) screen =
      (calls.flatMap ScreenCall.events).foldlM (handle py) screen := by
  induction calls generalizing screen with
  | nil => rfl
  | cons call rest inductionHypothesis =>
      rw [List.flatMap_cons, List.foldlM_append, List.foldlM_cons, execute_eq]
      exact congrArg _ (funext fun next => inductionHypothesis)

/-- However the text is split into calls, the run is that of its events. -/
theorem run_eq (rows columns : Int) (calls : List ScreenCall) :
    run py rows columns calls =
      (calls.flatMap ScreenCall.events).foldlM (handle py) (ofSize rows columns) :=
  foldlM_execute calls

end Runs

variable {py : Python} {screen : TerminalScreen}

/-! ## Snapshots -/

/-- The revision grows, or the snapshot stays the same. -/
def Observes (before after : TerminalScreen) : Prop :=
  before.revision < after.revision ∨ after.snapshot = before.snapshot

theorem Observes.refl (screen : TerminalScreen) : Observes screen screen :=
  Or.inr rfl

theorem Observes.trans (first middle last : TerminalScreen)
    (toMiddle : Observes first middle) (toLast : Observes middle last) :
    Observes first last := by
  have revision : ∀ {before after : TerminalScreen}, after.snapshot = before.snapshot →
      after.revision = before.revision := fun same => congrArg TerminalSnapshot.revision same
  rcases toMiddle with grown | same
  · rcases toLast with more | unchanged
    · exact Or.inl (grown.trans more)
    · exact Or.inl (revision unchanged ▸ grown)
  · rcases toLast with more | unchanged
    · exact Or.inl (revision same ▸ more)
    · exact Or.inr (unchanged.trans same)

theorem leads_feedCharacter (sound : screen.Sound) (character : Char) :
    Leads Sound Observes screen (screen.feedCharacter py character) := by
  obtain ⟨consumed, done, consumedSound, along⟩ := keeps_consume py sound character
  simp only [feedCharacter, done, Option.bind_eq_bind, Option.bind_some]
  split
  · rename_i moved
    refine leads_some { consumedSound with } (Or.inl ?_)
    show screen.revision < consumed.revision + 1
    omega
  · rename_i quiet
    refine leads_some consumedSound ?_
    rcases along.cells with grown | ⟨sameRevision, sameCells⟩
    · exact Or.inl grown
    · right
      have sameCursor : consumed.cursor = screen.cursor := by
        by_contra moved
        exact quiet ⟨moved, sameRevision⟩
      simp only [cursor, Prod.mk.injEq] at sameCursor
      simp only [snapshot, visibleLines, sameRevision, sameCells, along.rows, along.columns,
        sameCursor]

/-! ## Resizing -/

theorem bounded_le {value minimum maximum : Int} (ordered : 0 ≤ minimum) :
    minimum ≤ bounded value minimum maximum := by
  simp only [bounded]
  omega

theorem exists_resizedCells (sound : screen.Sound) (rows columns : Nat) :
    ∃ cells, screen.resizedCells rows columns = some cells ∧
      IsGrid rows columns Printable cells := by
  have cell : ∀ row column, ∃ output, screen.resizedCell row column = some output ∧
      Printable output := by
    intro row column
    unfold resizedCell
    split
    · rename_i within
      obtain ⟨cells, found, isLine⟩ := sound.grid.getElem? within.1
      have bound : column < cells.length := isLine.length ▸ within.2
      refine ⟨cells[column], ?_, isLine.allowed _ (List.getElem_mem bound)⟩
      simp only [found, Option.bind_eq_bind, Option.bind_some,
        List.getElem?_eq_getElem bound]
    · exact ⟨' ', rfl, by decide, by decide⟩
  have line : ∀ row ∈ List.range rows, ∃ output,
      (List.range columns).mapM (fun column => screen.resizedCell row column) =
        some output ∧ IsLine columns Printable output := by
    intro row _
    obtain ⟨output, mapped, sameLength, printable⟩ :=
      exists_mapM fun column (_ : column ∈ List.range columns) => cell row column
    exact ⟨output, mapped, sameLength.trans List.length_range, printable⟩
  obtain ⟨cells, mapped, sameLength, lines⟩ := exists_mapM line
  exact ⟨cells, mapped, sameLength.trans List.length_range, lines⟩

theorem leads_resize (sound : screen.Sound) (rows columns : Int) :
    Leads Sound Observes screen (screen.resize rows columns) := by
  have someRows := @bounded_le rows 10 300 (by decide)
  have someColumns := @bounded_le columns 20 500 (by decide)
  simp only [resize]
  split
  · exact leads_some sound (Observes.refl screen)
  · obtain ⟨cells, resized, grid⟩ :=
      exists_resizedCells sound (bounded rows 10 300) (bounded columns 20 500)
    rw [resized]
    refine leads_some
      { someRows := show 10 ≤ bounded rows 10 300 by omega
        grid := grid
        rowWithin := ?_
        columnWithin := ?_
        region := show 0 < bounded rows 10 300 - 1 by omega
        regionWithin := le_refl _ } (Or.inl (Nat.lt_succ_self _))
    · show min screen.cursorRow (bounded rows 10 300 - 1) < bounded rows 10 300
      omega
    · show min screen.cursorColumn (bounded columns 20 500 - 1) < bounded columns 20 500
      omega

/-! ## Runs -/

theorem sound_ofSize (rows columns : Int) : (ofSize rows columns).Sound := by
  have someRows := @bounded_le rows 10 300 (by decide)
  have someColumns := @bounded_le columns 20 500 (by decide)
  exact
    { someRows := show 10 ≤ bounded rows 10 300 by omega
      grid := isGrid_blankScreen _ _
      rowWithin := show 0 < bounded rows 10 300 by omega
      columnWithin := show 0 < bounded columns 20 500 by omega
      region := show 0 < bounded rows 10 300 - 1 by omega
      regionWithin := le_refl _ }

theorem leads_handle (event : ScreenEvent) :
    Safe Sound Observes fun screen => screen.handle py event := by
  intro screen sound
  cases event with
  | input character => exact leads_feedCharacter sound character
  | resize rows columns => exact leads_resize sound rows columns

theorem leads_events (events : List ScreenEvent) :
    Safe Sound Observes fun screen => events.foldlM (handle py) screen :=
  safe_foldlM Observes.refl Observes.trans leads_handle events

/-! ## Pending wraps -/

/-- Behind the step a pending wrap is in the last column, or it was pending there before. -/
def EdgeStep (before after : TerminalScreen) : Prop :=
  after.wrapPending = true → after.cursorColumn = after.columns - 1 ∨
    before.wrapPending = true ∧ after.cursorColumn = before.cursorColumn ∧
      after.columns = before.columns

theorem EdgeStep.wrapAtEdge {before after : TerminalScreen} (step : EdgeStep before after)
    (edge : before.WrapAtEdge) : after.WrapAtEdge := by
  intro pending
  rcases step pending with atEdge | ⟨wasPending, column, columns⟩
  · exact atEdge
  · rw [column, columns]
    exact edge wasPending

theorem edgeStep_of_cleared {next : TerminalScreen} (cleared : next.wrapPending = false) :
    EdgeStep screen next := fun pending =>
  absurd (cleared.symm.trans pending) Bool.false_ne_true

theorem edgeStep_of_same {next : TerminalScreen}
    (wrap : next.wrapPending = screen.wrapPending)
    (column : next.cursorColumn = screen.cursorColumn)
    (columns : next.columns = screen.columns) : EdgeStep screen next := fun pending =>
  Or.inr ⟨wrap ▸ pending, column, columns⟩

theorem wrapPending_map_clearWrap {result : Option TerminalScreen} {next : TerminalScreen}
    (done : result.map clearWrap = some next) : next.wrapPending = false := by
  obtain ⟨moved, -, rfl⟩ := Option.map_eq_some_iff.mp done
  rfl

theorem wrapPending_wrap {next : TerminalScreen} (done : screen.wrap = some next) :
    next.wrapPending = false := by
  unfold wrap at done
  split at done
  · exact wrapPending_map_clearWrap done
  · rename_i settled
    cases done
    exact Bool.not_eq_true _ ▸ settled

theorem wrapPending_putCharacter (sound : screen.Sound) {character : Char}
    {next : TerminalScreen} (done : screen.putCharacter character = some next) :
    next.wrapPending = screen.wrapPending := by
  obtain ⟨line, found, isLine⟩ := sound.grid.getElem? sound.rowWithin
  have bound : screen.cursorColumn < line.length := isLine.length ▸ sound.columnWithin
  unfold putCharacter at done
  simp only [found, Option.bind_eq_bind, Option.bind_some,
    List.getElem?_eq_getElem bound] at done
  split at done
  · obtain ⟨edited, written, touched⟩ := Option.bind_eq_some_iff.mp done
    cases touched
    obtain ⟨other, found', assigned⟩ := Option.bind_eq_some_iff.mp written
    obtain ⟨cells, _, shape⟩ := Option.bind_eq_some_iff.mp assigned
    cases shape
    rfl
  · cases done
    rfl

/-- A written character leaves a pending wrap only in the last column. -/
theorem edgeStep_write (sound : screen.Sound) {character : Char}
    (printable : Printable character) {next : TerminalScreen}
    (done : screen.write character = some next) : EdgeStep screen next := by
  obtain ⟨written, put, rfl⟩ := Option.map_eq_some_iff.mp done
  obtain ⟨wrapped, wrapping, putting⟩ := Option.bind_eq_some_iff.mp put
  obtain ⟨_, sameWrap, wrappedSound, -⟩ := keeps_wrap sound
  cases wrapping.symm.trans sameWrap
  obtain ⟨_, samePut, writtenSound, -⟩ := keeps_putCharacter printable wrapped wrappedSound
  cases putting.symm.trans samePut
  have settled : written.wrapPending = false :=
    (wrapPending_putCharacter wrappedSound putting).trans (wrapPending_wrap wrapping)
  have within := writtenSound.columnWithin
  unfold advance
  split
  · rename_i last
    intro _
    left
    show written.cursorColumn = written.columns - 1
    omega
  · exact edgeStep_of_cleared settled

theorem edgeStep_consumeNormal (sound : screen.Sound) {character : Char}
    {next : TerminalScreen} (done : screen.consumeNormal character = some next) :
    EdgeStep screen next := by
  unfold consumeNormal at done
  split at done
  · cases done
    exact edgeStep_of_same rfl rfl rfl
  · cases done
    exact edgeStep_of_cleared rfl
  · exact edgeStep_of_cleared (wrapPending_map_clearWrap done)
  · exact edgeStep_of_cleared (wrapPending_map_clearWrap done)
  · exact edgeStep_of_cleared (wrapPending_map_clearWrap done)
  · cases done
    exact edgeStep_of_cleared rfl
  · cases done
    exact edgeStep_of_cleared rfl
  · split at done
    · cases done
      exact edgeStep_of_same rfl rfl rfl
    · exact edgeStep_write sound ⟨by omega, by omega⟩ done

theorem edgeStep_consumeEscape {character : Char} (restores : character ≠ '8')
    {next : TerminalScreen} (done : screen.consumeEscape character = some next) :
    EdgeStep screen next := by
  simp only [consumeEscape] at done
  split at done
  case h_8 => exact absurd rfl restores
  case h_9 => exact edgeStep_of_cleared (wrapPending_map_clearWrap done)
  case h_10 => exact edgeStep_of_cleared (wrapPending_map_clearWrap done)
  case h_11 => exact edgeStep_of_cleared (wrapPending_map_clearWrap done)
  case h_12 =>
    cases done
    exact edgeStep_of_cleared rfl
  -- The other characters touch neither the cursor nor the wrap.
  all_goals
    cases done
    exact edgeStep_of_same rfl rfl rfl

theorem edgeStep_consumeCsi {character : Char} {next : TerminalScreen}
    (done : screen.consumeCsi py character = some next) : EdgeStep screen next := by
  unfold consumeCsi at done
  split at done
  · obtain ⟨handled, -, rfl⟩ := Option.map_eq_some_iff.mp done
    exact edgeStep_of_cleared rfl
  · split at done
    · cases done
      exact edgeStep_of_same rfl rfl rfl
    · cases done
      exact edgeStep_of_same rfl rfl rfl

theorem edgeStep_consumeOsc (character : Char) :
    EdgeStep screen (screen.consumeOsc character) := by
  unfold consumeOsc
  split
  · exact edgeStep_of_same rfl rfl rfl
  · split
    · exact edgeStep_of_same rfl rfl rfl
    · dsimp only
      split
      · exact edgeStep_of_same rfl rfl rfl
      · split
        · exact edgeStep_of_same rfl rfl rfl
        · exact edgeStep_of_same rfl rfl rfl

/-- The event restores a saved cursor out of the last column under a pending wrap. -/
def LosesWrap (screen : TerminalScreen) (event : ScreenEvent) : Prop :=
  event = .input '8' ∧ screen.state = .escape ∧ screen.wrapPending = true ∧
    screen.savedCursor.2 < screen.columns - 1

theorem wrapAtEdge_consume (sound : screen.Sound) (edge : screen.WrapAtEdge)
    {character : Char} (kept : ¬ screen.LosesWrap (.input character))
    {next : TerminalScreen} (done : screen.consume py character = some next) :
    next.WrapAtEdge := by
  unfold consume at done
  split at done
  · exact (edgeStep_consumeNormal sound done).wrapAtEdge edge
  · rename_i escape
    by_cases restores : character = '8'
    · -- The cursor goes to the saved one, and the wrap stays as it was.
      rw [restores] at kept done
      cases done
      intro pending
      have saved : ¬ screen.savedCursor.2 < screen.columns - 1 := fun inside =>
        kept ⟨rfl, escape, pending, inside⟩
      show min (screen.columns - 1) screen.savedCursor.2 = screen.columns - 1
      omega
    · exact (edgeStep_consumeEscape restores done).wrapAtEdge edge
  · exact (edgeStep_consumeCsi done).wrapAtEdge edge
  · cases done
    exact (edgeStep_consumeOsc character).wrapAtEdge edge
  · cases done
    exact edge

theorem wrapAtEdge_handle (sound : screen.Sound) (edge : screen.WrapAtEdge)
    {event : ScreenEvent} (kept : ¬ screen.LosesWrap event) {next : TerminalScreen}
    (done : screen.handle py event = some next) : next.WrapAtEdge := by
  cases event with
  | input character =>
      obtain ⟨consumed, consuming, rest⟩ := Option.bind_eq_some_iff.mp done
      have consumedEdge := wrapAtEdge_consume sound edge kept consuming
      split at rest
      · cases rest
        exact consumedEdge
      · cases rest
        exact consumedEdge
  | resize rows columns =>
      simp only [handle, resize] at done
      split at done
      · cases done
        exact edge
      · obtain ⟨cells, -, shape⟩ := Option.bind_eq_some_iff.mp done
        cases shape
        exact fun pending => absurd pending Bool.false_ne_true

/-- A wrap that is lost leaves the cursor inside the line. -/
theorem not_wrapAtEdge_of_losesWrap {event : ScreenEvent} (loses : screen.LosesWrap event)
    {next : TerminalScreen} (done : screen.handle py event = some next) :
    ¬ next.WrapAtEdge := by
  obtain ⟨rfl, escape, pending, inside⟩ := loses
  obtain ⟨consumed, consuming, rest⟩ := Option.bind_eq_some_iff.mp done
  have restored : consumed = { screen with state := .normal }.restoreCursor := by
    simp only [consume, escape] at consuming
    cases consuming
    rfl
  have column : consumed.cursorColumn < consumed.columns - 1 := by
    rw [restored]
    show min (screen.columns - 1) screen.savedCursor.2 < screen.columns - 1
    omega
  have stillPending : consumed.wrapPending = true := by
    rw [restored]
    exact pending
  intro edge
  split at rest
  · cases rest
    exact absurd (edge stillPending) column.ne
  · cases rest
    exact absurd (edge stillPending) column.ne

/-! ## Every state of a run -/

/-- The calls are a beginning of the others, however the text is split. -/
def Begins (front calls : List ScreenCall) : Prop :=
  front.flatMap ScreenCall.events <+: calls.flatMap ScreenCall.events

/-- What is promised of every state of a run, between any two characters. -/
structure Correct (py : Python) (rows columns : Int) (calls : List ScreenCall) : Prop where
  states : ∀ front, Begins front calls →
    ∃ screen, run py rows columns front = some screen ∧ screen.Sound ∧ screen.WrapAtEdge
  snapshots : ∀ left right, Begins left calls → Begins right calls →
    ∀ first second, run py rows columns left = some first →
      run py rows columns right = some second → first.revision = second.revision →
        first.snapshot = second.snapshot

/-- No event of the run loses a pending wrap. -/
def KeepsWraps (py : Python) (rows columns : Int) (calls : List ScreenCall) : Prop :=
  ∀ front event, Begins (front ++ [ScreenEvent.call event]) calls →
    ∀ screen, run py rows columns front = some screen → ¬ screen.LosesWrap event

theorem flatMap_events_concat (front : List ScreenCall) (event : ScreenEvent) :
    (front ++ [event.call]).flatMap ScreenCall.events =
      front.flatMap ScreenCall.events ++ [event] := by
  rw [List.flatMap_append, List.flatMap_cons, List.flatMap_nil, List.append_nil,
    event.events_call]

/-- Along a run a revision shows one snapshot. -/
theorem snapshot_eq_of_begins {rows columns : Int} {left right : List ScreenCall}
    (shorter : left.flatMap ScreenCall.events <+: right.flatMap ScreenCall.events)
    {first second : TerminalScreen} (atLeft : run py rows columns left = some first)
    (atRight : run py rows columns right = some second)
    (same : first.revision = second.revision) : second.snapshot = first.snapshot := by
  obtain ⟨rest, more⟩ := shorter
  rw [run_eq] at atLeft atRight
  rw [← more, List.foldlM_append, atLeft] at atRight
  obtain ⟨_, reachedFirst, firstSound, -⟩ := leads_events _ _ (sound_ofSize rows columns)
  cases atLeft.symm.trans reachedFirst
  obtain ⟨_, reachedSecond, -, observes⟩ := @leads_events py rest first firstSound
  cases atRight.symm.trans reachedSecond
  rcases observes with grown | unchanged
  · exact absurd same grown.ne
  · exact unchanged

/-- While no wrap is lost, every state has its shape and its pending wrap at the edge. -/
theorem wrapAtEdge_of_keepsWraps {rows columns : Int} {calls : List ScreenCall}
    (keeps : KeepsWraps py rows columns calls) {events : List ScreenEvent}
    (begins : events <+: calls.flatMap ScreenCall.events) :
    ∃ screen, events.foldlM (handle py) (ofSize rows columns) = some screen ∧
      screen.Sound ∧ screen.WrapAtEdge := by
  induction events using List.reverseRecOn with
  | nil =>
      exact ⟨_, rfl, sound_ofSize rows columns, fun pending =>
        absurd pending Bool.false_ne_true⟩
  | append_singleton events event inductionHypothesis =>
      obtain ⟨screen, reached, sound, edge⟩ :=
        inductionHypothesis ((List.prefix_append events [event]).trans begins)
      obtain ⟨next, done, nextSound, -⟩ := @leads_handle py event screen sound
      have kept : ¬ screen.LosesWrap event := by
        refine keeps (events.map ScreenEvent.call) event ?_ screen ?_
        · rw [Begins, flatMap_events_concat, ScreenEvent.flatMap_events_call]
          exact begins
        · rw [run_eq, ScreenEvent.flatMap_events_call]
          exact reached
      refine ⟨next, ?_, nextSound, wrapAtEdge_handle sound edge kept done⟩
      rw [List.foldlM_append, reached]
      simpa using done

/-- In every run no operation fails, every state has its shape, and revisions determine
snapshots; pending wraps stay in the last column exactly when no saved cursor is restored
out of it under a pending wrap. -/
theorem correct_iff (py : Python) (rows columns : Int) (calls : List ScreenCall) :
    Correct py rows columns calls ↔ KeepsWraps py rows columns calls := by
  constructor
  · intro correct front event begins screen reached loses
    obtain ⟨next, reachedNext, -, edge⟩ := correct.states _ begins
    rw [run, List.foldlM_append] at reachedNext
    have stepped : screen.handle py event = some next := by
      have executed : screen.execute py event.call = some next := by
        have here : front.foldlM (execute py) (ofSize rows columns) = some screen := reached
        rw [here] at reachedNext
        simpa using reachedNext
      rw [execute_eq, event.events_call] at executed
      simpa using executed
    exact not_wrapAtEdge_of_losesWrap loses stepped edge
  · intro keeps
    constructor
    · intro front begins
      obtain ⟨screen, reached, holds⟩ := wrapAtEdge_of_keepsWraps keeps begins
      exact ⟨screen, (run_eq rows columns front).trans reached, holds⟩
    · intro left right leftBegins rightBegins first second atLeft atRight same
      rcases List.prefix_or_prefix_of_prefix leftBegins rightBegins with shorter | shorter
      · exact (snapshot_eq_of_begins shorter atLeft atRight same).symm
      · exact snapshot_eq_of_begins shorter atRight atLeft same.symm

/-- A full line, then the cursor is restored to the corner where it was saved at first. -/
def staleWrap : List ScreenCall :=
  [.feed "....................\x1b8"]

/-- The wrap is still pending in the first column. -/
theorem staleWrap_incorrect : ¬ Correct asciiPython 10 20 staleWrap := by
  intro correct
  obtain ⟨screen, reached, -, edge⟩ := correct.states staleWrap List.prefix_rfl
  have shown : (run asciiPython 10 20 staleWrap).map (fun screen =>
      (screen.wrapPending, screen.cursorColumn, screen.columns)) = some (true, 0, 20) := by
    decide +kernel
  rw [reached] at shown
  obtain ⟨pending, column, columns⟩ :
      screen.wrapPending = true ∧ screen.cursorColumn = 0 ∧ screen.columns = 20 := by
    simpa using shown
  have atEdge := edge pending
  omega

end TerminalScreen

end Execraft.Orchestrate
