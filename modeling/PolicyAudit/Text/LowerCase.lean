/-
Module: PolicyAudit.Text.LowerCase
Purpose: Full Unicode lower-casing, with the rule for a sigma that ends a word.
Imports: PolicyAudit.Text.CaseTables
Trusted boundary: none
Main exports: lowerChar, lowerFrom, lower
-/
import PolicyAudit.Text.CaseTables

namespace PolicyAudit.Text

/-- Membership in a list of closed ranges of code points. -/
def inRanges (ranges : List (Nat × Nat)) (c : Char) : Bool :=
  ranges.any fun range => range.1 ≤ c.toNat && c.toNat ≤ range.2

def LowerRun.covers (run : LowerRun) (c : Char) : Bool :=
  run.first ≤ c.toNat && c.toNat ≤ run.last && (c.toNat - run.first) % run.step == 0

/-- The lower-case form of a character standing alone.  Only the dotted capital I has two
characters in it. -/
def lowerChar (c : Char) : List Char :=
  if c.toNat < 0x80 then
    [c.toLower]
  else if c = 'İ' then
    ['i', '\u0307']
  else
    match lowerRuns.find? (·.covers c) with
    | some run => [Char.ofNat (c.toNat + run.distance).toNat]
    | none => [c]

/-- Past the characters that casing ignores stands a cased one. -/
def casedAhead (cs : List Char) : Bool :=
  match cs.dropWhile (inRanges caseIgnorableRanges) with
  | [] => false
  | c :: _ => inRanges casedRanges c

/-- Lower-casing of a text whose already passed part is `before`, nearest character first.
A capital sigma with a letter before it and none after it takes its final form. -/
def lowerFrom (before : List Char) : List Char → List Char
  | [] => []
  | c :: cs =>
      if c = 'Σ' then
        (if casedAhead before && !casedAhead cs then 'ς' else 'σ') :: lowerFrom (c :: before) cs
      else
        lowerChar c ++ lowerFrom (c :: before) cs

/-- The text in lower case. -/
def lower (s : String) : String :=
  String.ofList (lowerFrom [] s.toList)

/-- The text with ASCII capitals in lower case and all else as it is. -/
def lowerAscii (s : String) : String :=
  String.ofList (s.toList.map Char.toLower)

end PolicyAudit.Text
