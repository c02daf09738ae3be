/-
Module: PolicyAudit.Json.Reader
Purpose: Reading JSON texts, with the first fault from left to right.
Imports: PolicyAudit.Json.Basic
Trusted boundary: none
Main exports: Json.readString, Json.readValue, Json.skipValue, Json.readFront, Json.read
-/
import PolicyAudit.Json.Basic

namespace PolicyAudit.Json

/-- How a value is read: kept, or only passed over.  A value passed over has no limits on its
numbers and on halves of character pairs, and no number of it can be cut off by the end. -/
inductive Mode where
  | keep
  | skip
deriving Repr, DecidableEq

/-- The four characters that may stand between the parts of a value. -/
def isGap (c : Char) : Bool :=
  c == ' ' || c == '\n' || c == '\t' || c == '\r'

def skipGap (cs : List Char) : List Char :=
  cs.dropWhile isGap

/-! ### Strings -/

def hexValue? (c : Char) : Option Nat :=
  if c.isDigit then some (c.toNat - 0x30)
  else if 'a' ≤ c ∧ c ≤ 'f' then some (c.toNat - 0x57)
  else if 'A' ≤ c ∧ c ≤ 'F' then some (c.toNat - 0x37)
  else none

/-- The number that four hexadecimal digits write. -/
def unit? (a b c d : Char) : Option Nat := do
  let a ← hexValue? a
  let b ← hexValue? b
  let c ← hexValue? c
  let d ← hexValue? d
  some (((16 * a + b) * 16 + c) * 16 + d)

/-- Fewer than four bytes after `\u` are a text that ends too early, whatever they are. -/
def shortUnit (cs : List Char) : Fault :=
  if (String.ofList cs).utf8ByteSize < 4 then .endOfText else .malformed

def isHighHalf (unit : Nat) : Bool :=
  0xD800 ≤ unit && unit ≤ 0xDBFF

def isLowHalf (unit : Nat) : Bool :=
  0xDC00 ≤ unit && unit ≤ 0xDFFF

/-- The character of a pair of halves. -/
def joinHalves (high low : Nat) : Char :=
  Char.ofNat (0x10000 + (high - 0xD800) * 0x400 + (low - 0xDC00))

/-- The character that a single letter after a backslash stands for. -/
def escapeValue? (c : Char) : Option Char :=
  match c with
  | '"' => some '"'
  | '\\' => some '\\'
  | '/' => some '/'
  | 'b' => some '\x08'
  | 'f' => some '\x0c'
  | 'n' => some '\n'
  | 'r' => some '\r'
  | 't' => some '\t'
  | _ => none

/-- Put a character in front of what the rest of a string reads as. -/
def withChar (c : Char) (rest : Except Fault (List Char × List Char)) :
    Except Fault (List Char × List Char) :=
  rest.map fun (cs, after) => (c :: cs, after)

/-- The characters of a string, from after its opening quote to its closing one. -/
def readString (mode : Mode) : List Char → Except Fault (List Char × List Char)
  | [] => .error .endOfText
  | '"' :: rest => .ok ([], rest)
  | ['\\'] => .error .endOfText
  | '\\' :: 'u' :: a :: b :: c :: d :: rest =>
      match unit? a b c d with
      | none => .error .malformed
      | some high =>
          if mode = .skip then
            withChar '\uFFFD' (readString mode rest)
          else if isLowHalf high then
            .error .malformed
          else if isHighHalf high then
            match rest with
            | [] => .error .endOfText
            | ['\\'] => .error .endOfText
            | '\\' :: 'u' :: a :: b :: c :: d :: rest =>
                match unit? a b c d with
                | none => .error .malformed
                | some low =>
                    if isLowHalf low then
                      withChar (joinHalves high low) (readString mode rest)
                    else
                      .error .malformed
            | '\\' :: 'u' :: short => .error (shortUnit short)
            | _ => .error .malformed
          else
            withChar (Char.ofNat high) (readString mode rest)
  | '\\' :: 'u' :: short => .error (shortUnit short)
  | '\\' :: c :: rest =>
      match escapeValue? c with
      | some e => withChar e (readString mode rest)
      | none => .error .malformed
  | c :: rest =>
      if c.toNat < 0x20 then .error .malformed else withChar c (readString mode rest)

/-! ### Numbers and words -/

/-- A word whose letters are expected one after the other. -/
def readWord : List Char → List Char → Except Fault (List Char)
  | [], rest => .ok rest
  | _ :: _, [] => .error .endOfText
  | e :: es, c :: cs => if c = e then readWord es cs else .error .malformed

def readNumber (mode : Mode) (cs : List Char) : Except Fault (Json × List Char) :=
  match mode with
  | .keep => do
      let (literal, rest) ← Literal.read cs
      .ok (.number (← literal.value), rest)
  | .skip =>
      match Literal.read cs with
      | .ok (_, rest) => .ok (.null, rest)
      | .error _ => .error .malformed

/-- A value that is no list and no object, from its first character on. -/
def readScalar (mode : Mode) (c : Char) (rest : List Char) : Except Fault (Json × List Char) :=
  if c = '"' then do
    let (s, after) ← readString mode rest
    .ok (.string (.ofList s), after)
  else if c = 'n' then do
    .ok (.null, ← readWord ['u', 'l', 'l'] rest)
  else if c = 't' then do
    .ok (.bool true, ← readWord ['r', 'u', 'e'] rest)
  else if c = 'f' then do
    .ok (.bool false, ← readWord ['a', 'l', 's', 'e'] rest)
  else if c = '-' ∨ c.isDigit then
    readNumber mode (c :: rest)
  else
    .error .malformed

/-- The colon after a key. -/
def readColon (cs : List Char) : Except Fault (List Char) :=
  match skipGap cs with
  | [] => .error .endOfText
  | c :: rest => if c = ':' then .ok rest else .error .malformed

/-! ### Values -/

mutual

/-- A value.  Each call spends one unit of `fuel`, and `room` lists and objects may still be
opened. -/
def readValue (mode : Mode) : Nat → Nat → List Char → Except Fault (Json × List Char)
  | 0, _, _ => .error .malformed
  | fuel + 1, room, cs =>
      match skipGap cs with
      | [] => .error .endOfText
      | c :: rest =>
          if c = '[' then
            if room = 0 then
              .error .malformed
            else
              match skipGap rest with
              | [] => .error .endOfText
              | d :: after =>
                  if d = ']' then
                    .ok (.array [], after)
                  else do
                    let (items, after) ← readItems mode fuel (room - 1) rest
                    .ok (.array items, after)
          else if c = '\x7b' then
            if room = 0 then
              .error .malformed
            else
              match skipGap rest with
              | [] => .error .endOfText
              | d :: after =>
                  if d = '\x7d' then
                    .ok (.object [], after)
                  else do
                    let (entries, after) ← readEntries mode fuel (room - 1) rest
                    .ok (.object entries, after)
          else
            readScalar mode c rest

/-- The items of a list that has at least one, and its closing bracket. -/
def readItems (mode : Mode) : Nat → Nat → List Char → Except Fault (List Json × List Char)
  | 0, _, _ => .error .malformed
  | fuel + 1, room, cs => do
      let (item, rest) ← readValue mode fuel room cs
      match skipGap rest with
      | [] => .error .endOfText
      | c :: rest =>
          if c = ',' then do
            let (items, after) ← readItems mode fuel room rest
            .ok (item :: items, after)
          else if c = ']' then
            .ok ([item], rest)
          else
            .error .malformed

/-- The entries of an object that has at least one, and its closing brace. -/
def readEntries (mode : Mode) :
    Nat → Nat → List Char → Except Fault (List (String × Json) × List Char)
  | 0, _, _ => .error .malformed
  | fuel + 1, room, cs =>
      match skipGap cs with
      | [] => .error .endOfText
      | c :: rest =>
          if c = '"' then do
            let (key, rest) ← readString mode rest
            let rest ← readColon rest
            let (value, rest) ← readValue mode fuel room rest
            match skipGap rest with
            | [] => .error .endOfText
            | d :: rest =>
                if d = ',' then do
                  let (entries, after) ← readEntries mode fuel room rest
                  .ok ((.ofList key, value) :: entries, after)
                else if d = '\x7d' then
                  .ok ([(.ofList key, value)], rest)
                else
                  .error .malformed
          else
            .error .malformed

end

/-- At most this many lists and objects may stand inside one another. -/
def nestingLimit : Nat := 127

/-- Fuel for a text: between two calls for values there is at most one for items or entries, and
every such pair passes over a character. -/
def fuelFor (cs : List Char) : Nat := 2 * cs.length + 1

/-- Pass over a value, however deep it is. -/
def skipValue (cs : List Char) : Except Fault (List Char) := do
  let (_, rest) ← readValue .skip (fuelFor cs) cs.length cs
  .ok rest

/-- The value that a text starts with, repeated keys kept, and what follows it. -/
def readFront (text : List Char) : Except Fault (Json × List Char) :=
  readValue .keep (fuelFor text) nestingLimit text

/-- A result together with its text, of which nothing but gaps may be left. -/
def complete {α : Type} (value : α) (rest : List Char) : Except Fault α :=
  if (skipGap rest).isEmpty then .ok value else .error .malformed

/-- The one value that a text holds, repeated keys kept. -/
def read (text : List Char) : Except Fault Json := do
  let (value, rest) ← readFront text
  complete value rest

end PolicyAudit.Json
