import Execraft.Foundation.Dict
import Execraft.Foundation.Text.Truncation
import Execraft.Orchestrate.PlanGraph
import Mathlib.Data.Prod.Lex
import Mathlib.Data.String.Basic
import Mathlib.Order.BooleanAlgebra.Basic

/-!
# Context planning

Blocks of prompt context are deduplicated, ordered and put into a token budget.  Tokens
are estimated from the bytes of a text, at 3.5 bytes each and with two more as framing.
-/

namespace Execraft.Orchestrate

open Foundation Foundation.Json Foundation.Text

structure TokenBudget where
  inputTarget : Nat
  inputHardLimit : Nat
  outputTarget : Nat
  outputHardLimit : Nat
  positive : 0 < inputTarget ∧ 0 < inputHardLimit ∧ 0 < outputTarget ∧ 0 < outputHardLimit
  input : inputTarget ≤ inputHardLimit
  output : outputTarget ≤ outputHardLimit

structure ContextBudgetError where
  message : String

/-! ## Texts -/

/-- The quotient by 3.5 is rounded up. -/
def estimateTokens (text : String) : Nat :=
  if text.utf8ByteSize = 0 then 0
  else max 1 ((2 * text.utf8ByteSize + 6) / 7 + 2)

def boundedSuffix : String := "\n...[bounded by Execraft]"

/-- The text cut to a number of bytes, with the suffix where it fits in. -/
def boundText (text : String) (byteBudget : Nat) (fromEnd : Bool) (suffix : String) :
    String :=
  let shown := if suffix.utf8ByteSize < byteBudget then suffix else ""
  let payload := byteBudget - shown.utf8ByteSize
  let encoded := text.toByteArray
  if fromEnd then
    shown ++ decodeIgnoring (encoded.extract (encoded.size - payload) encoded.size)
  else
    decodeIgnoring (encoded.extract 0 payload) ++ shown

def truncateToTokens (text : String) (maximumTokens : Int) (fromEnd : Bool)
    (suffix : String) : String :=
  if (estimateTokens text : Int) ≤ maximumTokens then text
  else if maximumTokens ≤ 0 then ""
  else
    let byteBudget := (maximumTokens - 2) * 7 / 2
    if byteBudget ≤ 0 then "" else boundText text byteBudget.toNat fromEnd suffix

/-! ## Blocks -/

structure ContextBlock where
  id : String
  type : String
  source : String
  content : String
  scope : String := ""
  priority : Int := 50
  required : Bool := false
  deduplicationKey : String := ""
  truncationPolicy : String := "drop"
  minimumTokens : Int := 64
  metadata : Row := []

namespace ContextBlock

def estimatedTokens (block : ContextBlock) : Nat :=
  estimateTokens block.content

def key (block : ContextBlock) : String :=
  if block.deduplicationKey = "" then
    block.type ++ ":" ++ block.source ++ ":" ++ block.id
  else
    block.deduplicationKey

def asMapping (block : ContextBlock) : Row :=
  [("id", .string block.id), ("type", .string block.type), ("source", .string block.source),
    ("scope", .string block.scope), ("priority", .int block.priority),
    ("required", .bool block.required), ("deduplication_key", .string block.key),
    ("truncation_policy", .string block.truncationPolicy),
    ("estimated_tokens", .int block.estimatedTokens),
    ("content_bytes", .int block.content.utf8ByteSize), ("metadata", .object block.metadata)]

/-- The block with its content bounded to the remaining tokens. -/
def bounded (block : ContextBlock) (remaining : Int) : ContextBlock :=
  { block with
    content := truncateToTokens block.content remaining
      (decide (block.truncationPolicy = "tail")) boundedSuffix
    truncationPolicy := "drop"
    metadata := setEntry "truncated" (.bool true) block.metadata }

/-- What one of two blocks with the same key is preferred for. -/
def preference (block : ContextBlock) : Bool ×ₗ Int ×ₗ Int ×ₗ String :=
  toLex (block.required, toLex (block.priority,
    toLex (-(block.estimatedTokens : Int), block.id)))

/-- The place of a block: required ones first, then by priority. -/
def rank (block : ContextBlock) : Bool ×ₗ Int ×ₗ String ×ₗ String :=
  toLex (!block.required, toLex (-block.priority, toLex (block.type, block.id)))

end ContextBlock

/-- A block that is not included as it is, and why. -/
structure ContextReport where
  block : ContextBlock
  reason : String

def ContextReport.asMapping (report : ContextReport) : Row :=
  report.block.asMapping ++ [("reason", .string report.reason)]

structure PlannedContext where
  included : List ContextBlock
  excluded : List ContextReport
  deduplicated : List ContextReport
  estimatedTokens : Nat
  targetTokens : Nat
  hardLimitTokens : Nat

/-! ## Planning -/

namespace ContextPlanner

/-- The blocks by their keys, and the duplicates so far. -/
structure Unique where
  blocks : Dict ContextBlock := Dict.empty
  duplicates : List ContextReport := []

/-- `_preferred`; the one that was there first wins a tie. -/
def prefersNew (existing block : ContextBlock) : Bool :=
  decide (existing.preference < block.preference)

def admitBlock (unique : Unique) (block : ContextBlock) : Unique :=
  match unique.blocks.get? block.key with
  | none => { unique with blocks := unique.blocks.set block.key block }
  | some existing =>
      let winner := if prefersNew existing block then block else existing
      let loser := if prefersNew existing block then existing else block
      { blocks := unique.blocks.set block.key winner
        duplicates := unique.duplicates ++ [⟨loser, "duplicate of " ++ winner.id⟩] }

def deduplicate (blocks : List ContextBlock) : Unique :=
  blocks.foldl admitBlock {}

/-- The blocks that win their keys. -/
def winners (blocks : List ContextBlock) : List ContextBlock :=
  (deduplicate blocks).blocks.entries.map Prod.snd

def ordered (blocks : List ContextBlock) : List ContextBlock :=
  (winners blocks).mergeSort fun first second => decide (first.rank ≤ second.rank)

structure Filled where
  included : List ContextBlock := []
  excluded : List ContextReport := []
  used : Nat

variable (budget : TokenBudget)

def truncatable (block : ContextBlock) (remaining : Int) : Bool :=
  (block.truncationPolicy = "head" || block.truncationPolicy = "tail") &&
    decide (max 1 block.minimumTokens ≤ remaining)

def place (filled : Filled) (block : ContextBlock) : Except ContextBudgetError Filled :=
  let tokens := block.estimatedTokens
  let taken : Filled :=
    { filled with
      included := filled.included ++ [block]
      used := filled.used + tokens }
  if filled.used + tokens ≤ budget.inputTarget then
    .ok taken
  else if block.required then
    if budget.inputHardLimit < filled.used + tokens then
      .error ⟨"mandatory context exceeds input hard limit: block=" ++ block.id ++ " used=" ++
        toString filled.used ++ " block_tokens=" ++ toString tokens ++ " hard_limit=" ++
          toString budget.inputHardLimit⟩
    else
      .ok taken
  else
    let remaining : Int := budget.inputTarget - filled.used
    if truncatable block remaining then
      .ok
        { included := filled.included ++ [block.bounded remaining]
          excluded := filled.excluded ++ [⟨block, "partially included to target budget"⟩]
          used := filled.used + (block.bounded remaining).estimatedTokens }
    else
      .ok
        { filled with
          excluded := filled.excluded ++ [⟨block, "target token budget exhausted"⟩] }

def plan (blocks : List ContextBlock) (reservedTokens : Int) :
    Except ContextBudgetError PlannedContext := do
  let filled ← (ordered blocks).foldlM (place budget) { used := (max 0 reservedTokens).toNat }
  if budget.inputHardLimit < filled.used then
    .error ⟨"planned context uses " ++ toString filled.used ++
      " estimated tokens; hard limit is " ++ toString budget.inputHardLimit⟩
  else
    return {
      included := filled.included
      excluded := filled.excluded
      deduplicated := (deduplicate blocks).duplicates
      estimatedTokens := filled.used
      targetTokens := budget.inputTarget
      hardLimitTokens := budget.inputHardLimit }

end ContextPlanner

end Execraft.Orchestrate
