import Mathlib.Data.List.Basic

/-!
# Relative paths

Paths without a root by their components, as `PurePosixPath` reads them.
-/

namespace Foundation.Text

/-- The components; empty ones and single dots do not count. -/
def pathParts (text : List Char) : List (List Char) :=
  (text.splitOn '/').filter fun part => part ≠ [] ∧ part ≠ ['.']

/-- The components of the directory that holds the path. -/
def pathParent (text : List Char) : List (List Char) :=
  (pathParts text).dropLast

def pathName (text : List Char) : List Char :=
  (pathParts text).getLast?.getD []

/-- The last dot of the name with what follows it, unless it is the first or the last
character. -/
def pathSuffix (text : List Char) : List Char :=
  let name := pathName text
  let extension := (name.reverse.takeWhile (· ≠ '.')).reverse
  if extension = [] ∨ name.length ≤ extension.length + 1 then []
  else '.' :: extension

end Foundation.Text
