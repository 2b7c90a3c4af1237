import Execraft.Foundation.Json.Value
import Mathlib.Data.List.TakeWhile

/-!
# JSON texts

The compact encoder (no blanks, non-ASCII characters written as they are) and a
recursive-descent decoder for the same documents.  The decoder is lenient in the
usual places: blanks between tokens, `NaN` and the infinities, escapes of
unpaired surrogates.

Recursion is on an explicit fuel, which the length of the text always covers.
-/

namespace Foundation.Json

/-! ## Encoding -/

/-- The two-character escapes, and `\u00XX` for the remaining control
characters. -/
def escapeChar (character : Char) : List Char :=
  if character = '"' then ['\\', '"']
  else if character = '\\' then ['\\', '\\']
  else if character = '\n' then ['\\', 'n']
  else if character = '\r' then ['\\', 'r']
  else if character = '\t' then ['\\', 't']
  else if character = '\x0c' then ['\\', 'f']
  else if character = '\x08' then ['\\', 'b']
  else if character.toNat < 32 then
    ['\\', 'u', '0', '0', Nat.digitChar (character.toNat / 16),
      Nat.digitChar (character.toNat % 16)]
  else [character]

def encodeString (text : List Char) : List Char :=
  '"' :: (text.flatMap escapeChar ++ ['"'])

def encodeInt : Int → List Char
  | .ofNat magnitude => Nat.toDigits 10 magnitude
  | .negSucc magnitude => '-' :: Nat.toDigits 10 (magnitude + 1)

def encodeNonFinite : NonFinite → List Char
  | .nan => ['N', 'a', 'N']
  | .infinity => ['I', 'n', 'f', 'i', 'n', 'i', 't', 'y']
  | .negativeInfinity => ['-', 'I', 'n', 'f', 'i', 'n', 'i', 't', 'y']

mutual

def encode : Json → List Char
  | .null => ['n', 'u', 'l', 'l']
  | .bool true => ['t', 'r', 'u', 'e']
  | .bool false => ['f', 'a', 'l', 's', 'e']
  | .int value => encodeInt value
  | .float text => text.toList
  | .nonFinite literal => encodeNonFinite literal
  | .string text => encodeString text.toList
  | .array [] => ['[', ']']
  | .array (head :: tail) => '[' :: (encode head ++ encodeElements tail)
  | .object [] => ['{', '}']
  | .object ((name, value) :: tail) =>
      '{' :: (encodeString name.toList ++ ':' :: (encode value ++ encodeMembers tail))

/-- The elements after the first one, with the closing bracket. -/
def encodeElements : List Json → List Char
  | [] => [']']
  | head :: tail => ',' :: (encode head ++ encodeElements tail)

/-- The members after the first one, with the closing brace. -/
def encodeMembers : List (String × Json) → List Char
  | [] => ['}']
  | (name, value) :: tail =>
      ',' :: (encodeString name.toList ++ ':' :: (encode value ++ encodeMembers tail))

end

/-! ## Decoding -/

def isBlank (character : Char) : Bool :=
  character = ' ' || character = '\t' || character = '\n' || character = '\r'

def skipBlanks (text : List Char) : List Char :=
  text.dropWhile isBlank

def hexValue (character : Char) : Option Nat :=
  if '0' ≤ character ∧ character ≤ '9' then some (character.toNat - 48)
  else if 'a' ≤ character ∧ character ≤ 'f' then some (character.toNat - 87)
  else if 'A' ≤ character ∧ character ≤ 'F' then some (character.toNat - 55)
  else none

def unescape (code : Char) : Option Char :=
  if code = '"' then some '"'
  else if code = '\\' then some '\\'
  else if code = '/' then some '/'
  else if code = 'b' then some '\x08'
  else if code = 'f' then some '\x0c'
  else if code = 'n' then some '\n'
  else if code = 'r' then some '\r'
  else if code = 't' then some '\t'
  else none

/-- The code units of a string body and the text after its closing quote. -/
def decodeUnits : List Char → Option (List Nat × List Char)
  | [] => none
  | head :: rest =>
      if head = '"' then some ([], rest)
      else if head = '\\' then
        match rest with
        | 'u' :: first :: second :: third :: fourth :: rest =>
            match hexValue first, hexValue second, hexValue third,
                hexValue fourth with
            | some a, some b, some c, some d =>
                (decodeUnits rest).map fun decoded =>
                  ((((a * 16 + b) * 16 + c) * 16 + d) :: decoded.1, decoded.2)
            | _, _, _, _ => none
        | code :: rest =>
            match unescape code with
            | some character =>
                (decodeUnits rest).map fun decoded =>
                  (character.toNat :: decoded.1, decoded.2)
            | none => none
        | [] => none
      else if head.toNat < 32 then none
      else
        (decodeUnits rest).map fun decoded =>
          (head.toNat :: decoded.1, decoded.2)

def isHighSurrogate (unit : Nat) : Bool := 0xd800 ≤ unit && unit ≤ 0xdbff

def isLowSurrogate (unit : Nat) : Bool := 0xdc00 ≤ unit && unit ≤ 0xdfff

/-- Join surrogate pairs.  `Char.ofNat` stands in for an unpaired surrogate,
which no `Char` names. -/
def joinUnits : List Nat → List Char
  | [] => []
  | [unit] => [Char.ofNat unit]
  | high :: low :: rest =>
      if isHighSurrogate high && isLowSurrogate low then
        Char.ofNat (0x10000 + (high - 0xd800) * 0x400 + (low - 0xdc00)) ::
          joinUnits rest
      else
        Char.ofNat high :: joinUnits (low :: rest)

def decodeString (text : List Char) : Option (String × List Char) :=
  (decodeUnits text).map fun decoded =>
    (String.ofList (joinUnits decoded.1), decoded.2)

def isDigit (character : Char) : Bool := '0' ≤ character && character ≤ '9'

def signPart : List Char → List Char × List Char
  | [] => ([], [])
  | head :: rest => if head = '-' then (['-'], rest) else ([], head :: rest)

def integerPart : List Char → Option (List Char × List Char)
  | [] => none
  | head :: rest =>
      if head = '0' then some (['0'], rest)
      else if isDigit head then
        some (head :: rest.takeWhile isDigit, rest.dropWhile isDigit)
      else none

def fractionPart : List Char → List Char × List Char
  | [] => ([], [])
  | [head] => ([], [head])
  | head :: next :: rest =>
      if head = '.' ∧ isDigit next then
        (head :: next :: rest.takeWhile isDigit, rest.dropWhile isDigit)
      else ([], head :: next :: rest)

/-- Digits of an exponent behind an optional sign. -/
def exponentDigits : List Char → Option (List Char × List Char)
  | [] => none
  | [head] => if isDigit head then some ([head], []) else none
  | head :: next :: rest =>
      if isDigit head then
        some (head :: (next :: rest).takeWhile isDigit,
          (next :: rest).dropWhile isDigit)
      else if (head = '+' ∨ head = '-') ∧ isDigit next then
        some (head :: next :: rest.takeWhile isDigit, rest.dropWhile isDigit)
      else none

def exponentPart : List Char → List Char × List Char
  | [] => ([], [])
  | head :: rest =>
      if head = 'e' ∨ head = 'E' then
        match exponentDigits rest with
        | some (digits, rest) => (head :: digits, rest)
        | none => ([], head :: rest)
      else ([], head :: rest)

/-- The sign and integer part, the fraction and exponent, and the rest. -/
def numberToken (text : List Char) :
    Option (List Char × List Char × List Char) :=
  match integerPart (signPart text).2 with
  | none => none
  | some (whole, afterWhole) =>
      let (fraction, afterFraction) := fractionPart afterWhole
      let (exponent, rest) := exponentPart afterFraction
      some ((signPart text).1 ++ whole, fraction ++ exponent, rest)

def intOfText (text : List Char) : Int :=
  match signPart text with
  | ([], digits) => (Nat.ofDigitChars 10 digits 0 : Nat)
  | (_, digits) => -(Nat.ofDigitChars 10 digits 0 : Nat)

/-- `round` takes a decimal literal to the shortest text of the float it is
rounded to. -/
def decodeNumber (round : String → String) (text : List Char) :
    Option (Json × List Char) :=
  match numberToken text with
  | none => none
  | some (whole, suffix, rest) =>
      if suffix = [] then some (.int (intOfText whole), rest)
      else some (.float (round (String.ofList (whole ++ suffix))), rest)

def dropLiteral (literal : List Char) (document : Json) (text : List Char) :
    Option (Json × List Char) :=
  if literal.isPrefixOf text then
    some (document, text.drop literal.length)
  else none

/-- The elements from the first one on, up to the closing bracket. -/
def decodeElements (value : List Char → Option (Json × List Char)) :
    Nat → List Char → Option (List Json × List Char)
  | 0, _ => none
  | fuel + 1, text =>
      match value text with
      | none => none
      | some (element, rest) =>
          match skipBlanks rest with
          | [] => none
          | mark :: rest =>
              if mark = ']' then some ([element], rest)
              else if mark = ',' then
                (decodeElements value fuel (skipBlanks rest)).map fun decoded =>
                  (element :: decoded.1, decoded.2)
              else none

/-- A member name, its colon, and the text where the value begins. -/
def decodeName : List Char → Option (String × List Char)
  | [] => none
  | mark :: text =>
      if mark = '"' then
        match decodeString text with
        | none => none
        | some (name, rest) =>
            match skipBlanks rest with
            | [] => none
            | colon :: rest =>
                if colon = ':' then some (name, skipBlanks rest) else none
      else none

/-- The members from the first one on, up to the closing brace. -/
def decodeMembers (value : List Char → Option (Json × List Char)) :
    Nat → List Char → Option (List (String × Json) × List Char)
  | 0, _ => none
  | fuel + 1, text =>
      match decodeName text with
      | none => none
      | some (name, rest) =>
          match value rest with
          | none => none
          | some (member, rest) =>
              match skipBlanks rest with
              | [] => none
              | mark :: rest =>
                  if mark = '}' then some ([(name, member)], rest)
                  else if mark = ',' then
                    (decodeMembers value fuel (skipBlanks rest)).map
                      fun decoded => ((name, member) :: decoded.1, decoded.2)
                  else none

def decodeArray (value : List Char → Option (Json × List Char))
    (text : List Char) : Option (Json × List Char) :=
  match skipBlanks text with
  | [] => none
  | mark :: rest =>
      if mark = ']' then some (.array [], rest)
      else
        (decodeElements value (mark :: rest).length (mark :: rest)).map
          fun decoded => (.array decoded.1, decoded.2)

def decodeObject (value : List Char → Option (Json × List Char))
    (text : List Char) : Option (Json × List Char) :=
  match skipBlanks text with
  | [] => none
  | mark :: rest =>
      if mark = '}' then some (.object [], rest)
      else
        (decodeMembers value (mark :: rest).length (mark :: rest)).map
          fun decoded => (dict decoded.1, decoded.2)

def decodeValue (round : String → String) :
    Nat → List Char → Option (Json × List Char)
  | 0, _ => none
  | _ + 1, [] => none
  | fuel + 1, head :: rest =>
      if head = '"' then
        (decodeString rest).map fun decoded => (.string decoded.1, decoded.2)
      else if head = '{' then decodeObject (decodeValue round fuel) rest
      else if head = '[' then decodeArray (decodeValue round fuel) rest
      else if head = 'n' then dropLiteral ['u', 'l', 'l'] .null rest
      else if head = 't' then dropLiteral ['r', 'u', 'e'] (.bool true) rest
      else if head = 'f' then
        dropLiteral ['a', 'l', 's', 'e'] (.bool false) rest
      else if head = 'N' then dropLiteral ['a', 'N'] (.nonFinite .nan) rest
      else if head = 'I' then
        dropLiteral ['n', 'f', 'i', 'n', 'i', 't', 'y']
          (.nonFinite .infinity) rest
      else if head = '-' ∧
          ['I', 'n', 'f', 'i', 'n', 'i', 't', 'y'].isPrefixOf rest then
        some (.nonFinite .negativeInfinity, rest.drop 8)
      else decodeNumber round (head :: rest)

/-- Decode a whole text, which may have blanks around its document. -/
def decode (round : String → String) (text : List Char) : Option Json :=
  match decodeValue round (text.length + 1) (skipBlanks text) with
  | none => none
  | some (document, rest) =>
      if skipBlanks rest = [] then some document else none

/-! ## Canonical documents -/

/-- Documents that an encoder writes without loss: member names are in strictly
increasing order and every float is the shortest text of its value. -/
inductive Canonical (round : String → String) : Json → Prop
  | null : Canonical round .null
  | bool (value : Bool) : Canonical round (.bool value)
  | int (value : Int) : Canonical round (.int value)
  | float {text : String} {whole suffix : List Char} :
      numberToken text.toList = some (whole, suffix, []) →
      suffix ≠ [] →
      round text = text →
      Canonical round (.float text)
  | string (text : String) : Canonical round (.string text)
  | array {elements : List Json} :
      (∀ element ∈ elements, Canonical round element) →
      Canonical round (.array elements)
  | object {fields : List (String × Json)} :
      KeysSorted fields →
      (∀ field ∈ fields, Canonical round field.2) →
      Canonical round (.object fields)

theorem Canonical.insertField {round : String → String}
    {fields : List (String × Json)} {name : String} {value : Json}
    (canonical : Canonical round (.object fields))
    (valueCanonical : Canonical round value) :
    Canonical round (.object (Json.insertField name value fields)) := by
  cases canonical with
  | object sorted members =>
      refine .object (insertField_keysSorted sorted) ?_
      intro field member
      rcases mem_insertField member with inserted | old
      · rw [inserted]
        exact valueCanonical
      · exact members field old

theorem Canonical.insertFields {round : String → String}
    {fields additions : List (String × Json)}
    (canonical : Canonical round (.object fields))
    (additionsCanonical :
      ∀ field ∈ additions, Canonical round field.2) :
    Canonical round (.object (Json.insertFields fields additions)) := by
  induction additions generalizing fields with
  | nil =>
      exact canonical
  | cons head tail inductionHypothesis =>
      exact inductionHypothesis
        (canonical.insertField (additionsCanonical head (List.mem_cons_self ..)))
        (fun field member =>
          additionsCanonical field (List.mem_cons_of_mem _ member))

theorem Canonical.dict {round : String → String}
    {members : List (String × Json)}
    (membersCanonical : ∀ field ∈ members, Canonical round field.2) :
    Canonical round (Json.dict members) :=
  Canonical.insertFields
    (.object (by simp [KeysSorted]) (by simp)) membersCanonical

example :
    decode id
        (encode (dict [("name", .string "a\"b\n"), ("count", .int (-12)),
          ("flags", .array [.bool true, .null])])) =
      some (dict [("count", .int (-12)),
        ("flags", .array [.bool true, .null]), ("name", .string "a\"b\n")]) := by
  decide +kernel

end Foundation.Json
