/-
Module: PolicyAudit.Json.Printer
Purpose: Writing JSON trees on one line or indented.
Imports: PolicyAudit.Json.Basic
Trusted boundary: none
Main exports: Json.Spacing, Json.write, Json.compact, Json.pretty
-/
import PolicyAudit.Json.Basic

namespace PolicyAudit.Json

/-! ### Strings -/

/-- One character inside a string.  Only the quote, the backslash and the controls below U+0020
are spelled out. -/
def escaped (c : Char) : List Char :=
  if c = '"' then ['\\', '"']
  else if c = '\\' then ['\\', '\\']
  else if c = '\x08' then ['\\', 'b']
  else if c = '\x0c' then ['\\', 'f']
  else if c = '\n' then ['\\', 'n']
  else if c = '\r' then ['\\', 'r']
  else if c = '\t' then ['\\', 't']
  else if c.toNat < 0x20 then
    ['\\', 'u', '0', '0', Nat.digitChar (c.toNat / 16), Nat.digitChar (c.toNat % 16)]
  else [c]

def writeString (s : String) : List Char :=
  '"' :: (s.toList.flatMap escaped ++ ['"'])

/-! ### Values -/

/-- What stands between the parts of a value. -/
structure Spacing where
  /-- Before an item and before a closing bracket, at a depth. -/
  lineBreak : Nat → List Char
  /-- After the colon of an entry. -/
  afterColon : List Char

namespace Spacing

/-- Nothing between the parts. -/
def none : Spacing where
  lineBreak _ := []
  afterColon := []

/-- A line for each item, two spaces deeper than the line of its list. -/
def indented : Spacing where
  lineBreak depth := '\n' :: List.replicate (2 * depth) ' '
  afterColon := [' ']

end Spacing

mutual

/-- A value at a depth. -/
def write (spacing : Spacing) (depth : Nat) : Json → List Char
  | null => ['n', 'u', 'l', 'l']
  | bool true => ['t', 'r', 'u', 'e']
  | bool false => ['f', 'a', 'l', 's', 'e']
  | number value => value.text
  | string value => writeString value
  | array [] => ['[', ']']
  | array (item :: items) =>
      '[' :: (spacing.lineBreak (depth + 1) ++ write spacing (depth + 1) item ++
        writeItems spacing depth items)
  | object [] => ['\x7b', '\x7d']
  | object ((key, value) :: entries) =>
      '\x7b' :: (spacing.lineBreak (depth + 1) ++ writeString key ++ ':' ::
        (spacing.afterColon ++ write spacing (depth + 1) value ++
          writeEntries spacing depth entries))

/-- The items after the first, and the closing bracket. -/
def writeItems (spacing : Spacing) (depth : Nat) : List Json → List Char
  | [] => spacing.lineBreak depth ++ [']']
  | item :: items =>
      ',' :: (spacing.lineBreak (depth + 1) ++ write spacing (depth + 1) item ++
        writeItems spacing depth items)

/-- The entries after the first, and the closing brace. -/
def writeEntries (spacing : Spacing) (depth : Nat) : List (String × Json) → List Char
  | [] => spacing.lineBreak depth ++ ['\x7d']
  | (key, value) :: entries =>
      ',' :: (spacing.lineBreak (depth + 1) ++ writeString key ++ ':' ::
        (spacing.afterColon ++ write spacing (depth + 1) value ++
          writeEntries spacing depth entries))

end

/-- The value on one line. -/
def compact (value : Json) : String :=
  .ofList (value.write .none 0)

/-- The value with a line for each item. -/
def pretty (value : Json) : String :=
  .ofList (value.write .indented 0)

end PolicyAudit.Json
