import Execraft.Foundation.CrashPoints
import Execraft.Foundation.Json.Canonical
import Execraft.Orchestrate.StateRecord

/-!
# State checkpoints

A save is recorded in the checkpoint table, with a digest and the last sequence of the
journal, before `state.json` is replaced.  A state is the mapping that `as_mapping` gives;
what `load_state` checks about the task definition comes before what is here.
-/

namespace Execraft.Orchestrate

open Foundation Foundation.Json

/-- A stored row.  The journal sequence is what `int` makes of its column, if it does. -/
structure CheckpointRow where
  sequence : Nat
  savedAt : String
  journalSequence : Option Int
  reason : String
  stateSha256 : String
  stateJson : List Char
  deriving DecidableEq

structure StateCheckpoint where
  sequence : Nat
  savedAt : String
  journalSequence : Int
  reason : String
  stateSha256 : String
  state : Row

/-- How states are written down: the rounding of floats and the digest of a text. -/
structure CheckpointCodec where
  round : String → String
  sha256 : List Char → String

/-- The rows in the order of their sequences, and the last sequence ever given. -/
structure CheckpointTable where
  rows : List CheckpointRow := []
  lastSequence : Nat := 0

/-- What is found at `state.json`; a text that `json.loads` takes is a document. -/
inductive StateProjection where
  | missing
  | unreadable
  | document (content : Json)

inductive CheckpointError where
  | valueError
  | noCheckpoint
  deriving DecidableEq

/-- `json.dumps` with sorted keys and the compact separators. -/
def encodeState (state : Row) : List Char :=
  encode (sortKeys (.object state))

namespace CheckpointCodec

variable (codec : CheckpointCodec)

def digest (state : Row) : String :=
  codec.sha256 (encodeState state)

/-- The state of a row whose text is the text that was digested. -/
def rowState (row : CheckpointRow) : Option Row :=
  match decode codec.round row.stateJson with
  | some (.object state) => if codec.digest state = row.stateSha256 then some state else none
  | _ => none

/-- `_from_row`; whatever is wrong with a row is a `ValueError`. -/
def fromRow (row : CheckpointRow) : Option StateCheckpoint :=
  match codec.rowState row, row.journalSequence with
  | some state, some journalSequence =>
      some
        { sequence := row.sequence
          savedAt := row.savedAt
          journalSequence := journalSequence
          reason := row.reason
          stateSha256 := row.stateSha256
          state := state }
  | _, _ => none

end CheckpointCodec

/-! ## The table -/

namespace CheckpointTable

def retentionOf (configured : Int) : Nat :=
  (max 8 (min 4096 configured)).toNat

def newest (table : CheckpointTable) : Option CheckpointRow :=
  table.rows.getLast?

/-- Insert a row and delete all but the newest ones. -/
def insert (retention : Nat) (table : CheckpointTable) (row : CheckpointRow) :
    CheckpointTable :=
  let rows := table.rows ++ [row]
  { rows := rows.drop (rows.length - retention)
    lastSequence := row.sequence }

section Save

variable (codec : CheckpointCodec) (retention : Nat)

/-- The row that a save inserts. -/
def newRow (table : CheckpointTable) (state : Row) (journalSequence : Int)
    (savedAt reason : String) : CheckpointRow :=
  { sequence := table.lastSequence + 1
    savedAt := savedAt
    journalSequence := some (max 0 journalSequence)
    reason := if reason = "" then "state_update" else reason
    stateSha256 := codec.digest state
    stateJson := encodeState state }

/-- Whether the newest row holds this save already. -/
def repeats (table : CheckpointTable) (state : Row) (journalSequence : Int) :
    Except CheckpointError Bool :=
  match table.newest with
  | none => .ok false
  | some latest =>
      if latest.stateSha256 = codec.digest state then
        match latest.journalSequence with
        | none => .error .valueError
        | some recorded =>
            .ok (decide (recorded = journalSequence) && (codec.fromRow latest).isSome)
      else
        .ok false

/-- `StateCheckpointStore.save`, one transaction; the stripped reason is given. -/
def save (table : CheckpointTable) (state : Row) (journalSequence : Int)
    (savedAt reason : String) : Except CheckpointError CheckpointTable := do
  let repeated ← repeats codec table state journalSequence
  if repeated then
    return table
  else
    return table.insert retention (newRow codec table state journalSequence savedAt reason)

end Save

/-- `latest_valid` on the rows from the newest one on. -/
def latestValid (codec : CheckpointCodec) (maxJournalSequence : Int) :
    List CheckpointRow → Except CheckpointError (Option StateCheckpoint)
  | [] => .ok none
  | row :: rest =>
      match row.journalSequence with
      | none => .error .valueError
      | some recorded =>
          if maxJournalSequence < recorded then latestValid codec maxJournalSequence rest
          else
            match codec.fromRow row with
            | some checkpoint => .ok (some checkpoint)
            | none => latestValid codec maxJournalSequence rest

end CheckpointTable

/-! ## Saving and loading -/

/-- The files of an orchestrator: the projection, the table and the journal. -/
structure StateStores where
  projection : StateProjection := .missing
  table : CheckpointTable := {}
  journalSequence : Nat := 0

/-- The steps that a crash does not divide. -/
inductive StoreRequest where
  | lastSequence
  | saveCheckpoint (state : Row) (journalSequence : Int) (savedAt reason : String)
  | readProjection
  | writeProjection (state : Row)
  | selectRows
  | appendRecovery (reason : String) (checkpoint : StateCheckpoint)

abbrev StoreReply : StoreRequest → Type
  | .lastSequence => Nat
  | .saveCheckpoint .. => Except CheckpointError Unit
  | .readProjection => StateProjection
  | .writeProjection _ => Unit
  | .selectRows => List CheckpointRow
  | .appendRecovery .. => Unit

abbrev StoreProgram (Value : Type) := Program StoreRequest StoreReply CheckpointError Value

def ask (request : StoreRequest) : StoreProgram (StoreReply request) :=
  Program.request request

section Programs

variable (codec : CheckpointCodec) (retention : Nat)

def StateStores.handle (stores : StateStores) :
    (request : StoreRequest) → StoreReply request × StateStores
  | .lastSequence => (stores.journalSequence, stores)
  | .saveCheckpoint state journalSequence savedAt reason =>
      match stores.table.save codec retention state journalSequence savedAt reason with
      | .ok table => (.ok (), { stores with table := table })
      | .error error => (.error error, stores)
  | .readProjection => (stores.projection, stores)
  | .writeProjection state => ((), { stores with projection := .document (.object state) })
  | .selectRows => (stores.table.rows, stores)
  | .appendRecovery _ _ =>
      ((), { stores with journalSequence := stores.journalSequence + 1 })

def StateStores.Step (stores : StateStores) (request : StoreRequest)
    (reply : StoreReply request) (after : StateStores) : Prop :=
  stores.handle codec retention request = (reply, after)

def saveState (state : Row) (savedAt reason : String) : StoreProgram Unit := do
  let journalSequence : Nat ← ask .lastSequence
  let saved ← ask (.saveCheckpoint state journalSequence savedAt reason)
  Program.ofOutcome saved
  ask (.writeProjection state)

/-- The mapping that the projection holds. -/
def StateProjection.mapping : StateProjection → Option Row
  | .document (.object state) => some state
  | _ => none

/-- Why the projection is not taken. -/
def StateProjection.recoveryReason : StateProjection → String
  | .missing => "state projection is missing"
  | .unreadable => "invalid state projection"
  | .document _ => "invalid state projection: state projection must be a JSON object"

/-- The state that is loaded; there is none before the first save. -/
def loadState : StoreProgram (Option Row) := do
  let projection : StateProjection ← ask .readProjection
  match projection.mapping with
  | some state => return some state
  | none => do
      let journalSequence : Nat ← ask .lastSequence
      let rows : List CheckpointRow ← ask .selectRows
      let found ← Program.ofOutcome
        (CheckpointTable.latestValid codec journalSequence rows.reverse)
      match found with
      | some checkpoint => do
          ask (.writeProjection checkpoint.state)
          ask (.appendRecovery projection.recoveryReason checkpoint)
          return some checkpoint.state
      | none =>
          match projection with
          | .missing => return none
          | _ => Program.raise .noCheckpoint

end Programs

end Execraft.Orchestrate
