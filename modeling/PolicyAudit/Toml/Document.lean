/-
Module: PolicyAudit.Toml.Document
Purpose: TOML documents: their statements, and the table that these build.
Imports: PolicyAudit.Toml.Text, PolicyAudit.Toml.Value
Trusted boundary: none
Main exports: Toml.Statement, Toml.readStatements?, Toml.build?, Toml.read?
-/
import PolicyAudit.Toml.Text
import PolicyAudit.Toml.Value

namespace PolicyAudit.Toml

/-- The entries of a table. -/
abbrev Entries := List (String × Toml)

def findPair? (key : String) : Entries → Option Toml
  | [] => none
  | (k, value) :: rest => if k = key then some value else findPair? key rest

/-- Put an entry at its place, or at the end if there is none with its key. -/
def putPair (key : String) (value : Toml) : Entries → Entries
  | [] => [(key, value)]
  | (k, old) :: rest =>
      if k = key then (k, value) :: rest else (k, old) :: putPair key value rest

/-- Change the last of several tables. -/
def changeLast? (f : Entries → Option Entries) : List Toml → Option (List Toml)
  | [] => none
  | [table origin entries] => (f entries).map fun entries => [table origin entries]
  | [_] => none
  | item :: items => (changeLast? f items).map (item :: ·)

/-! ### Dotted keys -/

/-- Add an entry under dotted keys.  The tables that the dots name have to be made by dotted keys
themselves where the entry goes in, and cannot have headers on the way. -/
def addPair? (value : Toml) : List String → Entries → Option Entries
  | [], _ => none
  | [key], entries =>
      match findPair? key entries with
      | some _ => none
      | none => some (putPair key value entries)
  | key :: keys, entries =>
      match findPair? key entries with
      | none =>
          (addPair? value keys []).map fun inner => putPair key (table .dotted inner) entries
      | some (table .dotted inner) =>
          (addPair? value keys inner).map fun inner => putPair key (table .dotted inner) entries
      | some (table .implied inner) =>
          if keys.length = 1 then
            none
          else
            (addPair? value keys inner).map fun inner =>
              putPair key (table .implied inner) entries
      | some (tables items) =>
          if keys.length = 1 then
            none
          else
            (changeLast? (addPair? value keys) items).map fun items =>
              putPair key (tables items) entries
      | some _ => none

/-! ### Headers -/

/-- Change the table at the keys of a header.  Tables on the way are made where they are missing,
of several the last one counts, and one in braces cannot be entered. -/
def changeAt? (f : Entries → Option Entries) : List String → Entries → Option Entries
  | [], entries => f entries
  | key :: keys, entries =>
      match findPair? key entries with
      | none =>
          (changeAt? f keys []).map fun inner => putPair key (table .implied inner) entries
      | some (table .closed _) => none
      | some (table origin inner) =>
          (changeAt? f keys inner).map fun inner => putPair key (table origin inner) entries
      | some (tables items) =>
          (changeLast? (changeAt? f keys) items).map fun items =>
            putPair key (tables items) entries
      | some _ => none

/-- Open a table under its header, which it can have once. -/
def openTable? (key : String) (entries : Entries) : Option Entries :=
  match findPair? key entries with
  | none => some (putPair key (table .header []) entries)
  | some (table .implied inner) => some (putPair key (table .header inner) entries)
  | some _ => none

/-- Open one more table under a header in double brackets. -/
def openNext? (key : String) (entries : Entries) : Option Entries :=
  match findPair? key entries with
  | none => some (putPair key (tables [table .header []]) entries)
  | some (tables items) => some (putPair key (tables (items ++ [table .header []])) entries)
  | some _ => none

/-! ### Values -/

/-- A character of a plain value. -/
def isAtomChar (c : Char) : Bool :=
  isBareChar c || c == '+' || c == '.' || c == ':'

/-- A plain value.  A date may have its time of day after a space. -/
def readAtom? (cs : List Char) : Option (Toml × List Char) :=
  let front := cs.takeWhile isAtomChar
  let rest := cs.dropWhile isAtomChar
  match date? front, rest with
  | some [], ' ' :: d :: more =>
      if d.isDigit then
        let time := (d :: more).takeWhile isAtomChar
        (ofAtom? (front ++ ' ' :: time)).map fun value => (value, (d :: more).dropWhile isAtomChar)
      else
        (ofAtom? front).map fun value => (value, rest)
  | _, _ => (ofAtom? front).map fun value => (value, rest)

mutual

/-- A value.  Each call spends one unit of `fuel`, and `room` arrays and tables in braces may
still be opened. -/
def readValue? : Nat → Nat → List Char → Option (Toml × List Char)
  | 0, _, _ => none
  | _ + 1, _, [] => none
  | fuel + 1, room, c :: cs =>
      if c = '"' ∨ c = '\'' then
        (readString? c cs).map fun (s, rest) => (text s, rest)
      else if c = '[' then
        if room = 0 then none else
          (readItems? fuel (room - 1) cs).map fun (items, rest) => (array items, rest)
      else if c = '\x7b' then
        if room = 0 then none else
          (readPairs? fuel (room - 1) [] cs).map fun (entries, rest) =>
            (table .closed entries, rest)
      else
        readAtom? (c :: cs)

/-- The items of an array and its closing bracket. -/
def readItems? : Nat → Nat → List Char → Option (List Toml × List Char)
  | 0, _, _ => none
  | fuel + 1, room, cs => do
      match ← skipTrivia false cs with
      | ']' :: rest => some ([], rest)
      | cs => do
          let (item, rest) ← readValue? fuel room cs
          match ← skipTrivia false rest with
          | ',' :: rest => do
              let (items, rest) ← readItems? fuel room rest
              some (item :: items, rest)
          | ']' :: rest => some ([item], rest)
          | _ => none

/-- The entries of a table in braces, added to those before them, and its closing brace. -/
def readPairs? : Nat → Nat → Entries → List Char → Option (Entries × List Char)
  | 0, _, _, _ => none
  | fuel + 1, room, done, cs => do
      match ← skipTrivia false cs with
      | [] => none
      | c :: rest =>
          if c = '\x7d' then
            some (done, rest)
          else do
            let (keys, rest) ← readKeys? ((c :: rest).length + 1) (c :: rest)
            let rest ← Timestamp.readMark? '=' rest
            let (value, rest) ← readValue? fuel room (skipSpaces rest)
            let done ← addPair? value keys done
            match ← skipTrivia false rest with
            | [] => none
            | d :: rest =>
                if d = ',' then readPairs? fuel room done rest
                else if d = '\x7d' then some (done, rest)
                else none

end

/-- At most this many arrays and tables in braces may stand inside one another. -/
def nestingLimit : Nat := 80

/-! ### Statements -/

/-- What a line of a document says. -/
inductive Statement where
  | entry (keys : List String) (value : Toml)
  | header (keys : List String)
  | nextHeader (keys : List String)
deriving Repr

/-- The keys of a header up to its closing bracket. -/
def readHeader? (cs : List Char) : Option (List String × List Char) := do
  let (keys, rest) ← readKeys? (cs.length + 1) cs
  let rest ← Timestamp.readMark? ']' rest
  some (keys, rest)

/-- A statement without the end of its line. -/
def readStatement? (cs : List Char) : Option (Statement × List Char) :=
  match cs with
  | '[' :: '[' :: cs => do
      let (keys, rest) ← readHeader? cs
      let rest ← Timestamp.readMark? ']' rest
      some (.nextHeader keys, rest)
  | '[' :: cs => do
      let (keys, rest) ← readHeader? cs
      some (.header keys, rest)
  | cs => do
      let (keys, rest) ← readKeys? (cs.length + 1) cs
      let rest ← Timestamp.readMark? '=' rest
      let rest := skipSpaces rest
      let (value, rest) ← readValue? (rest.length + 1) nestingLimit rest
      some (.entry keys value, rest)

/-- The statements of a text.  Each spends one unit of `fuel`. -/
def readStatements? : Nat → List Char → Option (List Statement)
  | 0, _ => none
  | fuel + 1, cs => do
      match ← skipTrivia false cs with
      | [] => some []
      | cs => do
          let (statement, rest) ← readStatement? cs
          let rest ← endLine? false rest
          let statements ← readStatements? fuel rest
          some (statement :: statements)

/-- The last key of a header apart from those before it. -/
def splitLast : List String → List String × String
  | [] => ([], "")
  | [key] => ([], key)
  | key :: keys => let (front, last) := splitLast keys; (key :: front, last)

/-- The table that statements build onto `entries`, under the header with the keys `current`. -/
def build? (current : List String) (entries : Entries) : List Statement → Option Entries
  | [] => some entries
  | .entry keys value :: statements => do
      let entries ← changeAt? (addPair? value keys) current entries
      build? current entries statements
  | .header keys :: statements => do
      let (front, last) := splitLast keys
      let entries ← changeAt? (openTable? last) front entries
      build? keys entries statements
  | .nextHeader keys :: statements => do
      let (front, last) := splitLast keys
      let entries ← changeAt? (openNext? last) front entries
      build? keys entries statements

/-- The table that a text holds.  A byte order mark may stand in front. -/
def read? (s : String) : Option Entries := do
  let cs :=
    match s.toList with
    | '\uFEFF' :: cs => cs
    | cs => cs
  let statements ← readStatements? (cs.length + 1) cs
  build? [] [] statements

end PolicyAudit.Toml
