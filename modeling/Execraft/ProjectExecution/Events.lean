import Execraft.Foundation.Json.Text
import Execraft.Foundation.Text.Bytes
import Execraft.Foundation.Text.Calendar
import Execraft.Foundation.Text.Lines

/-!
# The Project Execution journal

`ProjectEventJournal`: an append-only file of one JSON record a line.  The
writer ends every record with `\n`; the reader splits the decoded file with
`str.splitlines` and drops the lines that it cannot parse.
-/

namespace Execraft.ProjectExecution

open Foundation Foundation.Json Foundation.Text

/-- `PROJECT_EVENT_TYPES`. -/
def projectEventTypes : List String :=
  ["project_execution_started", "project_execution_paused",
    "project_task_ready", "project_task_start_requested",
    "project_task_started", "project_task_completed", "project_task_failed",
    "project_gate_ready", "project_gate_evaluation_started",
    "project_gate_passed", "project_gate_failed",
    "project_gate_decision_required", "project_gate_approved",
    "project_gate_rejected", "project_gate_waived", "project_phase_ready",
    "project_phase_activated", "project_phase_completed",
    "project_milestone_achieved", "project_definition_changed",
    "project_execution_reconciled", "project_automatic_cycle_started",
    "project_automatic_cycle_completed",
    "project_automatic_task_start_failed",
    "project_delivery_candidate_created", "project_delivery_started",
    "project_delivery_succeeded", "project_delivery_failed",
    "project_delivery_uncertain"]

/-- `utc_now`. -/
def utcNow (now : Instant) : String :=
  String.ofList now.isoformat

/-! ## The journal file -/

/-- What stands at the path of the journal. -/
inductive JournalFile where
  | absent
  | regular (content : ByteArray)
  | irregular

/-- The bytes that an append extends: a missing file is created empty. -/
def JournalFile.content : JournalFile → ByteArray
  | .regular content => content
  | _ => ByteArray.empty

inductive JournalError where
  | projectExecution (message : String)
  | unicodeDecode
  deriving DecidableEq, Repr

/-- `_assert_safe_existing_path`. -/
def assertSafeExistingPath (path : String) : JournalFile → Except JournalError Unit
  | .irregular =>
      .error (.projectExecution ("project journal path is unsafe: " ++ path))
  | _ => .ok ()

/-! ## Appending -/

/-- The event that `append` writes and returns: members of `data` replace the
type and the timestamp. -/
def event (eventType timestamp : String) (data : List (String × Json)) :
    List (String × Json) :=
  insertFields
    (insertFields []
      [("type", .string eventType), ("timestamp", .string timestamp)])
    data

/-- One record of the file. -/
def record (event : List (String × Json)) : List Char :=
  encode (.object event) ++ ['\n']

/-- `ProjectEventJournal.append`.  Missing `data` is the empty member list. -/
def append (path : String) (file : JournalFile) (eventType : String)
    (data : List (String × Json)) (now : Instant) :
    Except JournalError (JournalFile × Json) :=
  if eventType ∉ projectEventTypes then
    .error (.projectExecution
      ("unsupported project event type: " ++ eventType))
  else do
    assertSafeExistingPath path file
    let written := event eventType (utcNow now) data
    .ok (.regular (file.content ++ encodeUtf8 (record written)), .object written)

/-- The arguments of one call of `append`. -/
structure AppendCall where
  eventType : String
  data : List (String × Json)
  now : Instant

def AppendCall.event (call : AppendCall) : List (String × Json) :=
  ProjectExecution.event call.eventType (utcNow call.now) call.data

/-- Calls of `append` one after another, with the events they return. -/
def appendAll (path : String) :
    JournalFile → List AppendCall → Except JournalError (JournalFile × List Json)
  | file, [] => .ok (file, [])
  | file, call :: calls => do
      let (file, returned) ← append path file call.eventType call.data call.now
      let (file, others) ← appendAll path file calls
      .ok (file, returned :: others)

/-! ## Reading -/

/-- The row that `read` takes from a line. -/
def readLine (round : String → String) (line : List Char) : Option Json :=
  if strip line = [] then none
  else
    match decode round line with
    | some (.object fields) => some (.object fields)
    | _ => none

def readText (round : String → String) (text : List Char) : List Json :=
  (splitlines text).filterMap (readLine round)

/-- `ProjectEventJournal.read`. -/
def read (round : String → String) (path : String) :
    JournalFile → Except JournalError (List Json)
  | .absent => .ok []
  | .irregular => do
      assertSafeExistingPath path .irregular
      .ok []
  | .regular content =>
      match decodeUtf8 content with
      | none => .error .unicodeDecode
      | some text => .ok (readText round (universalNewlines text))

end Execraft.ProjectExecution
