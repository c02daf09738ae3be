/-
Module: PolicyAudit.Json.Number
Purpose: JSON numbers: exact 64-bit integers, binary floating point for all else.
Imports: PolicyAudit.Decimal.Shortest
Trusted boundary: none
Main exports: Fault, Number, Number.text, Number.same, Literal, Literal.read, Literal.value
-/
import PolicyAudit.Decimal.Shortest

namespace PolicyAudit.Json

/-- What is wrong with a JSON text or a JSON value. -/
inductive Fault where
  /-- The text ends inside a value. -/
  | endOfText
  /-- Some character cannot stand where it stands. -/
  | malformed
  /-- The value is well-formed and of the wrong shape. -/
  | shape
deriving Repr, Inhabited, DecidableEq

inductive Number where
  | int (value : Int)
  | float (value : Float)
deriving Repr, Inhabited, DecidableEq

namespace Number

/-- Numbers are the same if they are of one kind and equal, so the two zeros of floating point
are the same number. -/
def same : Number → Number → Bool
  | int a, int b => a == b
  | float a, float b => a == b
  | _, _ => false

/-! ### Text -/

/-- A floating-point number is written out in full from `0.00001` to sixteen digits before the
point. -/
def layout : Decimal.Layout where
  pointAbove := -5
  pointUpTo := 16
  whole := ['.', '0']
  exponentSign := ['+']

/-- A finite floating-point number by its sign, its significand and its power of two. -/
def floatText (x : Float) : List Char :=
  let bits := x.toBits
  let exponentField := (bits >>> 52 &&& 0x7FF).toNat
  let fraction := (bits &&& 0xFFFFFFFFFFFFF).toNat
  let sign := if bits >>> 63 = 0 then [] else ['-']
  if exponentField = 0 ∧ fraction = 0 then
    sign ++ ['0', '.', '0']
  else if exponentField = 0 then
    sign ++ layout.write (Decimal.shortest fraction (-1074) false)
  else
    sign ++ layout.write
      (Decimal.shortest (fraction + 0x10000000000000) ((exponentField : Int) - 1075)
        (fraction == 0 && exponentField != 1))

def text : Number → List Char
  | int value => Decimal.signed value
  | float value => floatText value

/-! ### Values -/

/-- Digits join the significand while it fits in 64 bits.  The result is the significand and how
many digits joined it. -/
def gather (significand joined : Nat) : List Char → Nat × Nat
  | [] => (significand, joined)
  | c :: cs =>
      let next := 10 * significand + Decimal.digitValue c
      if next < UInt64.size then gather next (joined + 1) cs else (significand, joined)

/-- Division by a power of ten, in steps of at most 308 places. -/
def shrink (x : Float) (places : Nat) : Float :=
  if places ≤ 308 then
    x / Float.ofScientific 1 false places
  else if x == 0 then
    x
  else
    shrink (x / Float.ofScientific 1 false 308) (places - 308)
termination_by places

/-- The value of `significand * 10 ^ exponent`: the significand is rounded first and scaled then.
There is none above the largest floating-point number. -/
def scaled? (significand : Nat) (exponent : Int) : Option Float :=
  let x := Float.ofNat significand
  if exponent < 0 then
    some (shrink x exponent.natAbs)
  else if exponent ≤ 308 then
    let y := x * Float.ofScientific 1 false exponent.toNat
    if y.isInf then none else some y
  else if significand = 0 then
    some x
  else
    none

def ofScaled (negative : Bool) (significand : Nat) (exponent : Int) : Except Fault Number :=
  match scaled? significand exponent with
  | some x => .ok (float (if negative then -x else x))
  | none => .error .malformed

/-- A number without fraction and exponent is an integer if it fits in 64 bits.  Minus zero is
a floating-point number. -/
def ofWhole (negative : Bool) (significand : Nat) : Number :=
  if !negative then
    int significand
  else if 0 < significand ∧ Int64.minValue.toInt ≤ -significand then
    int (-significand)
  else
    float (-Float.ofNat significand)

end Number

/-- A number as it is written. -/
structure Literal where
  negative : Bool
  whole : List Char
  fraction : Option (List Char)
  exponent : Option Int
deriving Repr, DecidableEq

namespace Literal

/-- At least one digit. -/
def readDigits (cs : List Char) : Except Fault (List Char × List Char) :=
  match cs with
  | [] => .error .endOfText
  | c :: _ =>
      if c.isDigit then
        .ok (cs.takeWhile Char.isDigit, cs.dropWhile Char.isDigit)
      else
        .error .malformed

/-- The digits before the point: a zero that stands first stands alone. -/
def readWhole (cs : List Char) : Except Fault (List Char × List Char) := do
  let (ds, rest) ← readDigits cs
  match ds with
  | '0' :: _ :: _ => .error .malformed
  | _ => .ok (ds, rest)

/-- The exponent part, if there is one. -/
def readExponent : List Char → Except Fault (Option Int × List Char)
  | c :: cs =>
      if c = 'e' ∨ c = 'E' then
        match cs with
        | '-' :: cs => do
            let (ds, rest) ← readDigits cs
            .ok (some (-(Decimal.ofDigits ds : Int)), rest)
        | '+' :: cs => do
            let (ds, rest) ← readDigits cs
            .ok (some (Decimal.ofDigits ds : Int), rest)
        | cs => do
            let (ds, rest) ← readDigits cs
            .ok (some (Decimal.ofDigits ds : Int), rest)
      else
        .ok (none, c :: cs)
  | [] => .ok (none, [])

/-- The digits after the point, if there is one. -/
def readFraction : List Char → Except Fault (Option (List Char) × List Char)
  | '.' :: cs => do
      let (ds, rest) ← readDigits cs
      .ok (some ds, rest)
  | cs => .ok (none, cs)

def readUnsigned (negative : Bool) (cs : List Char) : Except Fault (Literal × List Char) := do
  let (whole, rest) ← readWhole cs
  let (fraction, rest) ← readFraction rest
  let (exponent, rest) ← readExponent rest
  .ok (⟨negative, whole, fraction, exponent⟩, rest)

def read : List Char → Except Fault (Literal × List Char)
  | '-' :: cs => readUnsigned true cs
  | cs => readUnsigned false cs

/-- The number a literal stands for.  Integer digits past 64 bits only count for the exponent,
fraction digits past 64 bits for nothing. -/
def value (literal : Literal) : Except Fault Number :=
  let (significand, joined) := Number.gather 0 0 literal.whole
  let dropped := literal.whole.length - joined
  match literal.fraction, literal.exponent with
  | none, none =>
      if dropped = 0 then
        .ok (.ofWhole literal.negative significand)
      else
        Number.ofScaled literal.negative significand dropped
  | fraction, exponent =>
      let (significand, joined) := Number.gather significand 0 (fraction.getD [])
      Number.ofScaled literal.negative significand ((dropped : Int) - joined + exponent.getD 0)

end Literal

end PolicyAudit.Json
