/-
Module: PolicyAudit.Decimal.Shortest
Purpose: The fewest decimal digits that read back as a given binary floating-point number,
  and their layout.
Imports: PolicyAudit.Decimal.Digits
Trusted boundary: none
Main exports: Shortest, shortest, Layout, Layout.write
-/
import PolicyAudit.Decimal.Digits

namespace PolicyAudit.Decimal

/-- The decimal number `significand * 10 ^ exponent`. -/
structure Shortest where
  significand : Nat
  exponent : Int
deriving Repr, DecidableEq

/-- The least `k` with `num / den < 10 ^ k`, for positive `num` and `den`. -/
def magnitude (num den : Nat) : Int :=
  if den ≤ num then (digits (num / den)).length else 1 - (digits ((den - 1) / num)).length

/-- The reals that round to one floating-point number, over a common denominator. -/
structure Interval where
  low : Nat
  middle : Nat
  high : Nat
  den : Nat
  /-- The ends themselves round to the number. -/
  closed : Bool
deriving Repr

/-- The interval around `m * 2 ^ e`.  Below the least number of a binade the neighbour is only
half as far away. -/
def Interval.around (m : Nat) (e : Int) (leastOfBinade : Bool) : Interval :=
  let scale := Nat.pow 2 (e - 2).toNat
  { low := (4 * m - if leastOfBinade then 1 else 2) * scale
    middle := 4 * m * scale
    high := (4 * m + 2) * scale
    den := Nat.pow 2 (2 - e).toNat
    closed := m % 2 == 0 }

/-- The number `n` on the grid of multiples of `10 ^ step` lies in the interval. -/
def Interval.holds (i : Interval) (n : Nat) (step : Int) : Bool :=
  let point := n * Nat.pow 10 step.toNat * i.den
  let unit := Nat.pow 10 (-step).toNat
  if i.closed then
    i.low * unit ≤ point && point ≤ i.high * unit
  else
    i.low * unit < point && point < i.high * unit

/-- The point of a decimal grid that stands for the interval: one of the two neighbours of its
middle, the nearer if both lie inside, the even one at equal distance. -/
def Interval.onGrid (i : Interval) (step : Int) : Option Nat :=
  let num := i.middle * Nat.pow 10 (-step).toNat
  let den := i.den * Nat.pow 10 step.toNat
  let below := num / den
  match i.holds below step, i.holds (below + 1) step with
  | true, true =>
      let twice := 2 * (num % den)
      if twice < den || (twice == den && below % 2 == 0) then some below else some (below + 1)
  | true, false => some below
  | false, true => some (below + 1)
  | false, false => none

/-- The first hit on grids of more and more digits. -/
def Interval.search (i : Interval) (point : Int) : Nat → Nat → Shortest
  | 0, size =>
      let num := i.middle * Nat.pow 10 (size - point).toNat
      let den := i.den * Nat.pow 10 (point - size).toNat
      ⟨num / den, point - size⟩
  | tries + 1, size =>
      match i.onGrid (point - size) with
      | some n => ⟨n, point - size⟩
      | none => i.search point tries (size + 1)

/-- The fewest digits that read back as `m * 2 ^ e`, for a positive `m`.  Seventeen digits
always do. -/
def shortest (m : Nat) (e : Int) (leastOfBinade : Bool) : Shortest :=
  let i := Interval.around m e leastOfBinade
  i.search (magnitude i.middle i.den) 17 1

/-- Where a number is written out in full and how its exponent looks otherwise. -/
structure Layout where
  /-- The point stands more than this many places after the first digit's left side. -/
  pointAbove : Int
  /-- The point stands at most this many places after it. -/
  pointUpTo : Int
  /-- What a whole number ends in. -/
  whole : List Char
  /-- The sign of an exponent that is not negative. -/
  exponentSign : List Char
deriving Repr

private def dropTrailingZeros (cs : List Char) : List Char :=
  (cs.reverse.dropWhile (· == '0')).reverse

/-- A decimal number without its sign. -/
def Layout.write (layout : Layout) (value : Shortest) : List Char :=
  let all := digits value.significand
  let point : Int := all.length + value.exponent
  let cs := dropTrailingZeros all
  if 0 < point && point ≤ layout.pointUpTo then
    let front := point.toNat
    if cs.length ≤ front then
      cs ++ List.replicate (front - cs.length) '0' ++ layout.whole
    else
      cs.take front ++ '.' :: cs.drop front
  else if layout.pointAbove < point && point ≤ 0 then
    '0' :: '.' :: (List.replicate (-point).toNat '0' ++ cs)
  else
    let exponent := point - 1
    let mantissa :=
      match cs with
      | [] => []
      | [d] => [d]
      | d :: ds => d :: '.' :: ds
    mantissa ++ 'e' ::
      (if exponent < 0 then signed exponent else layout.exponentSign ++ signed exponent)

end PolicyAudit.Decimal
