/-
Module: PolicyAudit.Toml.Value
Purpose: TOML values and the plain ones among them.
Imports: PolicyAudit.Decimal.Digits, PolicyAudit.Json.Reader, PolicyAudit.Timestamp
Trusted boundary: none
Main exports: Toml, Toml.Origin, Toml.ofAtom?, Toml.isReadable
-/
import PolicyAudit.Decimal.Digits
import PolicyAudit.Json.Reader
import PolicyAudit.Timestamp

namespace PolicyAudit

/-- How a table came to be, which decides what may still be added to it. -/
inductive Toml.Origin where
  /-- By its own header. -/
  | header
  /-- On the way to the table of another header. -/
  | implied
  /-- By dotted keys. -/
  | dotted
  /-- Written in braces, so nothing can be added. -/
  | closed
deriving Repr, Inhabited, DecidableEq

/-- A TOML value. -/
inductive Toml where
  | text (value : String)
  | integer (value : Int)
  /-- Only whether a number is within the range of floating point matters here. -/
  | float (inRange : Bool)
  | boolean (value : Bool)
  /-- A date, a time of day, or both. -/
  | moment
  | array (items : List Toml)
  /-- The tables of headers in double brackets. -/
  | tables (items : List Toml)
  | table (origin : Toml.Origin) (entries : List (String × Toml))
deriving Repr, Inhabited

namespace Toml

/-! ### Numbers -/

/-- Digits with single underscores between them. -/
def digitRun? (isDigit : Char → Bool) : List Char → Option (List Char)
  | [] => none
  | [c] => if isDigit c then some [c] else none
  | c :: '_' :: cs => if isDigit c then (digitRun? isDigit cs).map (c :: ·) else none
  | c :: d :: cs => if isDigit c then (digitRun? isDigit (d :: cs)).map (c :: ·) else none

/-- The integer that digits to a base write. -/
def ofBase (base : Nat) (ds : List Char) : Int :=
  (ds.foldl (fun value c => base * value + (Json.hexValue? c).getD 0) 0 : Nat)

def isHexDigit (c : Char) : Bool :=
  (Json.hexValue? c).isSome

def isOctalDigit (c : Char) : Bool :=
  '0' ≤ c && c ≤ '7'

def isBinaryDigit (c : Char) : Bool :=
  c == '0' || c == '1'

/-- The sign in front of a number, and the number. -/
def splitSign : List Char → Bool × List Char
  | '-' :: cs => (true, cs)
  | '+' :: cs => (false, cs)
  | cs => (false, cs)

/-- A decimal integer: a zero that stands first stands alone. -/
def decimal? (cs : List Char) : Option (List Char) := do
  let ds ← digitRun? Char.isDigit cs
  match ds with
  | '0' :: _ :: _ => none
  | ds => some ds

def integer? (cs : List Char) : Option Toml :=
  match cs with
  | '0' :: 'x' :: ds => (digitRun? isHexDigit ds).map fun ds => integer (ofBase 16 ds)
  | '0' :: 'o' :: ds => (digitRun? isOctalDigit ds).map fun ds => integer (ofBase 8 ds)
  | '0' :: 'b' :: ds => (digitRun? isBinaryDigit ds).map fun ds => integer (ofBase 2 ds)
  | cs =>
      let (negative, cs) := splitSign cs
      (decimal? cs).map fun ds =>
        integer (if negative then -(ofBase 10 ds) else ofBase 10 ds)

/-- The number `significand * 10 ^ exponent` rounds to a finite floating-point number. -/
def isFinite (significand : Nat) (exponent : Int) : Bool :=
  let size := (Decimal.digits significand).length + exponent
  significand == 0 || size < 309 || (size == 309 &&
    significand * Nat.pow 10 exponent.toNat <
      (Nat.pow 2 1024 - Nat.pow 2 970) * Nat.pow 10 (-exponent).toNat)

def float? (cs : List Char) : Option Toml := do
  let (_, cs) := splitSign cs
  if cs = ['i', 'n', 'f'] ∨ cs = ['n', 'a', 'n'] then
    some (float true)
  else
    let isMark (c : Char) : Bool := c == '.' || c == 'e' || c == 'E'
    let whole ← decimal? (cs.takeWhile (!isMark ·))
    let rest := cs.dropWhile (!isMark ·)
    let (fraction, rest) ←
      match rest with
      | '.' :: rest => do
          let ds ← digitRun? Char.isDigit (rest.takeWhile (!isMark ·))
          some (ds, rest.dropWhile (!isMark ·))
      | rest => some ([], rest)
    let exponent ←
      match rest with
      | [] => if fraction = [] then none else some (0 : Int)
      | mark :: rest =>
          if mark = '.' then
            none
          else do
            let (negative, ds) := splitSign rest
            let ds ← digitRun? Char.isDigit ds
            let n : Int := Decimal.ofDigits ds
            some (if negative then -n else n)
    some (float (isFinite (Decimal.ofDigits (whole ++ fraction)) (exponent - fraction.length)))

/-! ### Dates and times -/

/-- A date, and what follows it. -/
def date? (cs : List Char) : Option (List Char) := do
  let (year, cs) ← Timestamp.readPadded? 4 cs
  let cs ← Timestamp.readMark? '-' cs
  let (month, cs) ← Timestamp.readPadded? 2 cs
  let cs ← Timestamp.readMark? '-' cs
  let (day, cs) ← Timestamp.readPadded? 2 cs
  guard (1 ≤ month ∧ month ≤ 12 ∧ 1 ≤ day ∧ day ≤ Calendar.daysInMonth year month)
  some cs

/-- A time of day, and what follows it; the seconds may be left out. -/
def time? (cs : List Char) : Option (List Char) := do
  let (hour, cs) ← Timestamp.readPadded? 2 cs
  let cs ← Timestamp.readMark? ':' cs
  let (minute, cs) ← Timestamp.readPadded? 2 cs
  guard (hour ≤ 23 ∧ minute ≤ 59)
  match cs with
  | ':' :: cs => do
      let (second, cs) ← Timestamp.readPadded? 2 cs
      guard (second ≤ 60)
      let (_, cs) ← Timestamp.readFraction? cs
      some cs
  | cs => some cs

/-- A date, a time of day, or both with or without an offset. -/
def moment? (cs : List Char) : Option Toml :=
  match date? cs with
  | some [] => some moment
  | some (separator :: rest) =>
      if separator = 'T' ∨ separator = 't' ∨ separator = ' ' then do
        let rest ← time? rest
        if rest.isEmpty ∨ (Timestamp.readOffset? rest).isSome then some moment else none
      else
        none
  | none =>
      match time? cs with
      | some [] => some moment
      | _ => none

/-! ### Plain values -/

/-- The value that a run of letters, digits and marks writes. -/
def ofAtom? (cs : List Char) : Option Toml :=
  if cs = ['t', 'r', 'u', 'e'] then some (boolean true)
  else if cs = ['f', 'a', 'l', 's', 'e'] then some (boolean false)
  else
    match integer? cs with
    | some value => some value
    | none =>
        match float? cs with
        | some value => some value
        | none => moment? cs

/-! ### Reading values -/

mutual

/-- All numbers in the value are in range: integers of 128 bits, finite floating point. -/
def isReadable : Toml → Bool
  | integer value => -Nat.pow 2 127 ≤ value && value < Nat.pow 2 128
  | float inRange => inRange
  | array items => areReadable items
  | tables items => areReadable items
  | table _ entries => entriesReadable entries
  | _ => true

def areReadable : List Toml → Bool
  | [] => true
  | item :: items => isReadable item && areReadable items

def entriesReadable : List (String × Toml) → Bool
  | [] => true
  | (_, value) :: entries => isReadable value && entriesReadable entries

end

def string? : Toml → Option String
  | text value => some value
  | _ => none

def flag? : Toml → Option Bool
  | boolean value => some value
  | _ => none

end Toml

end PolicyAudit
