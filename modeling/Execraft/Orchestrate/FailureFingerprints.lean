import Execraft.Foundation.Champions
import Execraft.Foundation.Python
import Execraft.Foundation.Text.Bytes
import Execraft.Foundation.Text.Dotted
import Execraft.Foundation.Text.Lines
import Execraft.Foundation.Text.Regex
import Mathlib.Data.Prod.Lex

/-!
# Fingerprints of failed tests

`extract_failure_fingerprints`: the failures that GoogleTest, CTest and pytest report in the
output of a command, one fingerprint for each test.
-/

namespace Execraft.Orchestrate.Baseline

open Foundation Foundation.Text Foundation.Text.Pattern

/-- The interpreter, with the character classes of its regular expressions. -/
structure BaselineInterpreter extends Python where
  /-- `\\d` -/
  decimal : Char → Bool
  /-- `\\w` -/
  wordCharacter : Char → Bool
  digest_length : ∀ content, (sha256 content).toList.length = 64
  digest_visible : ∀ content, ∀ character ∈ (sha256 content).toList, isSpace character = false

/-! ## Patterns -/

section Patterns

variable (py : BaselineInterpreter)

def space : Pattern :=
  chars isSpace

/-- `[A-Za-z0-9_./:+-]` -/
def isTestName (character : Char) : Bool :=
  character.isAlphanum || ['_', '.', '/', ':', '+', '-'].contains character

/-- `^-\s+(?P<suite>[A-Za-z0-9_./:+-]+)\s+(?P<test>[A-Za-z0-9_./:+-]+)\s*$` -/
def gtestSummaryFailure : Pattern :=
  sequence [char '-', oneOrMore space, group 1 (oneOrMore (chars isTestName)),
    oneOrMore space, group 2 (oneOrMore (chars isTestName)), many space, atEnd]

/-- `^\[\s*FAILED\s*\]\s+(?P<identity>[A-Za-z0-9_./:+-]+)(?:\s+\([^)]*\))?\s*$` -/
def gtestFailedLine : Pattern :=
  sequence [char '[', many space, literal "FAILED", many space, char ']', oneOrMore space,
    group 1 (oneOrMore (chars isTestName)),
    optional (sequence [oneOrMore space, char '(', many (chars (· ≠ ')')), char ')']),
    many space, atEnd]

/-- `^FAILED\s+(?P<identity>[^\s]+?)(?:\s+-\s+(?P<message>.*))?\s*$` -/
def pytestFailedLine : Pattern :=
  sequence [literal "FAILED", oneOrMore space,
    group 1 (both (chars fun character => !isSpace character)
      (few (chars fun character => !isSpace character))),
    optional (sequence [oneOrMore space, char '-', oneOrMore space,
      group 2 (many (chars (· ≠ '\n')))]),
    many space, atEnd]

/-- `[A-Za-z0-9_]` -/
def isAsciiWord (character : Char) : Bool :=
  character.isAlphanum || character = '_'

/-- `(?<![A-Za-z0-9_])\d{8,}(?![A-Za-z0-9_])` -/
def longInteger : Pattern :=
  sequence [assertion fun before _ => !(before.head?.any isAsciiWord),
    atLeast 8 (chars py.decimal), assertion fun _ rest => !(rest.head?.any isAsciiWord)]

def isHexDigit (character : Char) : Bool :=
  character.isDigit || ('a' ≤ character && character ≤ 'f') ||
    ('A' ≤ character && character ≤ 'F')

/-- `0x[0-9a-fA-F]{6,}` -/
def hexAddress : Pattern :=
  sequence [literal "0x", atLeast 6 (chars isHexDigit)]

/-- `\b` -/
def wordBoundary : Pattern :=
  assertion fun before rest =>
    before.head?.any py.wordCharacter != rest.head?.any py.wordCharacter

/-- A letter whatever its case; the long `s` is one of the forms of `s`. -/
def anyCase (letter : Char) : Pattern :=
  chars fun character =>
    character = letter || character = letter.toUpper || (letter = 's' && character = 'ſ')

def anyCaseLiteral (text : String) : Pattern :=
  sequence (text.toList.map anyCase)

/-- `\b\d+(?:\.\d+)?(?:ms|s|sec|secs|seconds)\b`, ignoring case -/
def duration : Pattern :=
  sequence [wordBoundary py, oneOrMore (chars py.decimal),
    optional (sequence [char '.', oneOrMore (chars py.decimal)]),
    either (anyCaseLiteral "ms") (either (anyCaseLiteral "s") (either (anyCaseLiteral "sec")
      (either (anyCaseLiteral "secs") (anyCaseLiteral "seconds")))),
    wordBoundary py]

/-- `[A-Za-z0-9_.+@%=-]` -/
def isPathCharacter (character : Char) : Bool :=
  isAsciiWord character || ['.', '+', '@', '%', '=', '-'].contains character

/-- `(?:/[A-Za-z0-9_.+@%=-]+)+/([^/\s:]+):(\d+)` -/
def absoluteSourcePath : Pattern :=
  sequence [oneOrMore (both (char '/') (oneOrMore (chars isPathCharacter))), char '/',
    group 1 (oneOrMore (chars fun character =>
      character ≠ '/' && !isSpace character && character ≠ ':')),
    char ':', group 2 (oneOrMore (chars py.decimal))]

/-- The text that a group captured; none is empty. -/
def groupText (position : Position) (index : Nat) : List Char :=
  (position.captured index).getD []

end Patterns

/-! ## Identities and texts -/

/-- `text.strip(".")` -/
def stripDots (text : List Char) : List Char :=
  trim (· = '.') text

/-- `_canonical_test_identity`. -/
def canonicalTestIdentity (identity : String) : String :=
  String.ofList (lastParts '.' 2 (stripDots (strip identity.toList)))

section Fingerprints

variable (py : BaselineInterpreter)

/-- `_digest`. -/
def digest (value : String) (length : Nat) : String :=
  String.ofList ((py.sha256 (encodeUtf8 value.toList)).toList.take length)

/-- `_command_digest`. -/
def commandDigest (command : String) : String :=
  digest py (stripString command) 20

/-- `_normalize_failure_text`. -/
def normalizeFailureText (text : String) : String :=
  let sources := substitute (absoluteSourcePath py)
    (fun found => "<source>/".toList ++ groupText found 1 ++ ':' :: groupText found 2)
    text.toList
  let addresses := substitute hexAddress (fun _ => "<address>".toList) sources
  let integers := substitute (longInteger py) (fun _ => "<volatile-int>".toList) addresses
  let durations := substitute (duration py) (fun _ => "<duration>".toList) integers
  String.ofList (strip (substitute (oneOrMore space) (fun _ => [' ']) durations))

structure FailureFingerprint where
  identifier : String
  signature : String
  excerpt : String := ""
  deriving DecidableEq, Repr

/-- `_fingerprint`. -/
def fingerprint (identity block : String) : FailureFingerprint :=
  let identity := canonicalTestIdentity identity
  let normalized := normalizeFailureText py block
  { identifier := identity
    signature := digest py (identity ++ "\n" ++ normalized) 24
    excerpt := String.ofList (normalized.toList.take 600) }

/-- How rich a diagnostic is. -/
def FailureFingerprint.rank (item : FailureFingerprint) : Nat ×ₗ List Char :=
  toLex (item.excerpt.toList.length, item.excerpt.toList)

/-- The richest fingerprint of each test, sorted by test. -/
def richest (items : List FailureFingerprint) : List FailureFingerprint :=
  champions FailureFingerprint.identifier FailureFingerprint.rank items

end Fingerprints

/-! ## Reports -/

inductive ReportKind where
  | ctest
  | gtest
  | pytest
  deriving DecidableEq, Repr

/-- A failure as the output reports it. -/
structure FailureReport where
  kind : ReportKind
  identity : String
  block : List (List Char)
  deriving DecidableEq

section Reports

variable (py : BaselineInterpreter)

/-- The test of a line `- suite Test` of CTest's summary. -/
def summaryIdentity (line : List Char) : Option String :=
  (gtestSummaryFailure.matchStart line).map fun found =>
    String.ofList (groupText found 1 ++ '.' :: groupText found 2)

/-- `line.strip().lower().startswith("<<< failure message")` -/
def opensMessage (line : List Char) : Bool :=
  "<<< failure message".toList.isPrefixOf
    (lower py.casing py.finalSigma (strip line))

/-- The test of a summary line that a failure message follows. -/
def blockIdentity (line : List Char) (rest : List (List Char)) : Option String :=
  if rest.head?.any (opensMessage py) then summaryIdentity (strip line) else none

/-- The lines of a failure message, and those behind it.  It ends with a line `>>>`, in
front of the next summary line, or with the output. -/
def takeMessage (opening : Bool) : List (List Char) → List (List Char) × List (List Char)
  | [] => ([], [])
  | line :: rest =>
      if ">>>".toList.isPrefixOf (strip line) then ([line], rest)
      else if opening = false ∧ (summaryIdentity (strip line)).isSome then ([], line :: rest)
      else
        let (message, remaining) := takeMessage false rest
        (line :: message, remaining)

/-- What a single line reports. -/
def lineReport (line : List Char) : Option FailureReport :=
  match gtestFailedLine.matchStart line with
  | some found => some ⟨.gtest, String.ofList (groupText found 1), [line]⟩
  | none =>
      (pytestFailedLine.matchStart line).map fun found =>
        ⟨.pytest, String.ofList (groupText found 1), [groupText found 1, groupText found 2]⟩

/-- The reports of some lines; every step takes one of them. -/
def failureReports : Nat → List (List Char) → List FailureReport
  | 0, _ => []
  | _, [] => []
  | fuel + 1, line :: rest =>
      match blockIdentity py line rest with
      | some identity =>
          let (message, remaining) := takeMessage true rest
          ⟨.ctest, identity, strip line :: message⟩ :: failureReports fuel remaining
      | none => (lineReport (strip line)).toList ++ failureReports fuel rest

/-- The fingerprint of a report whose test has a name. -/
def reportFingerprint (report : FailureReport) : Option FailureFingerprint :=
  let identity := canonicalTestIdentity report.identity
  if identity = "" then none
  else
    some (fingerprint py identity (String.ofList (['\n'].intercalate report.block)))

def reportsOf (output : String) : List FailureReport :=
  let lines := splitlines output.toList
  failureReports py lines.length lines

/-- `extract_failure_fingerprints`. -/
def extractFailureFingerprints (output : String) : List FailureFingerprint :=
  richest ((reportsOf py output).filterMap (reportFingerprint py))

end Reports

end Execraft.Orchestrate.Baseline
