/-
Module: PolicyAudit.Files.Path
Purpose: Paths as texts: their names, their parents, and how they are joined.
Imports: PolicyAudit.Text.Split
Trusted boundary: none
Main exports: Path.names, Path.isAbsolute, Path.endsOpen, Path.parent?, Path.join
-/
import PolicyAudit.Text.Split

namespace PolicyAudit.Path

/-- The names in a path; empty ones do not count. -/
def names (path : String) : List String :=
  ((Text.splitAt '/' path.toList).filter (· ≠ [])).map .ofList

/-- A path that starts at the root. -/
def isAbsolute (path : String) : Bool :=
  path.toList.head? == some '/'

/-- A path that ends in a slash can only lead to a directory. -/
def endsOpen (path : String) : Bool :=
  path.toList.getLast? == some '/'

/-- A path and a name below it. -/
def join (path name : String) : String :=
  path ++ "/" ++ name

/-! ### Parents -/

/-- The start of a path that stays when names are dropped at its end: the root, or the dot for the
place where the path starts. -/
def fixedStart : List Char → List Char
  | '/' :: _ => ['/']
  | ['.'] => ['.']
  | '.' :: '/' :: _ => ['.']
  | _ => []

/-- What stands before the last slash, and the name after it. -/
def splitLast (cs : List Char) : List Char × List Char :=
  let name := (cs.reverse.takeWhile (· ≠ '/')).reverse
  ((cs.take (cs.length - name.length - 1)), name)

/-- Drop slashes and single dots at the end.  Each costs one unit of `fuel`. -/
def trimEnd : Nat → List Char → List Char
  | 0, cs => cs
  | fuel + 1, cs =>
      let (front, name) := splitLast cs
      if cs ≠ [] ∧ (name = [] ∨ name = ['.']) then trimEnd fuel front else cs

/-- The path without its last name.  The root and the empty path have none. -/
def parent? (path : String) : Option String :=
  let cs := path.toList
  let start := fixedStart cs
  let body := trimEnd cs.length (cs.drop start.length)
  if body = [] then
    if start = ['.'] then some "" else none
  else
    some (.ofList (start ++ trimEnd cs.length (splitLast body).1))

/-- A path and the paths above it that are not empty, from the bottom up.  Each costs one unit of
`fuel`. -/
def upward : Nat → String → List String
  | 0, _ => []
  | fuel + 1, path =>
      if path = "" then
        []
      else
        path :: ((parent? path).map (upward fuel)).getD []

end PolicyAudit.Path
