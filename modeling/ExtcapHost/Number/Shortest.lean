/-
Module: ExtcapHost.Number.Shortest
Purpose: The shortest decimals from which binary numbers can be read back.
Main exports:
  Decimal, shortestDecimal, Binary64.write
-/
import ExtcapHost.Number.Binary64
import ExtcapHost.Text.Integer

namespace ExtcapHost

/-- A decimal by its digits and the place of the point: the point stands after as
many digits as `point` says. -/
structure Decimal where
  digits : List Char
  point : Int
deriving DecidableEq, Repr, Inhabited

namespace Binary64

/-- Quarters of a unit at one scale below, so that the ends of the interval of a
number are whole. -/
def quarters (count : Nat) (scale : Int) : Nat × Nat :=
  let scale := scale - 2
  if 0 ≤ scale then (count * twoTo scale.toNat, 1) else (count, twoTo (-scale).toNat)

/-- The quotients are in order. -/
def notAbove (one two : Nat × Nat) : Bool :=
  one.1 * two.2 ≤ two.1 * one.2

/-- A quotient is nearest to the number with that significand and scale: it lies
between the middles towards both neighbours.  A middle itself belongs to the even
significand. -/
def readsBack (significand : Nat) (scale : Int) (value : Nat × Nat) : Bool :=
  let atPower := significand = twoTo (precision - 1) && leastScale < scale
  let low := quarters (4 * significand - if atPower then 1 else 2) scale
  let high := quarters (4 * significand + 2) scale
  if significand % 2 = 0 then notAbove low value && notAbove value high
  else !notAbove value low && !notAbove high value

/-- The place of the point before the first digit of a positive quotient. -/
def pointOf (value : Nat × Nat) : Int :=
  if value.2 ≤ value.1 then (digitCount (value.1 / value.2) : Int)
  else 1 - (digitCount ((value.2 - 1) / value.1) : Int)

/-- A count of units of a power of ten. -/
def tens (count : Nat) (exponent : Int) : Nat × Nat :=
  if 0 ≤ exponent then (count * tenTo exponent.toNat, 1) else (count, tenTo (-exponent).toNat)

/-- The decimal on one grid that reads back: of the two neighbours of the value
the nearer one, on a tie the even one. -/
def onGrid? (significand : Nat) (scale : Int) (exponent : Int) : Option Nat :=
  let value := quarters (4 * significand) scale
  let below :=
    if 0 ≤ exponent then value.1 / (value.2 * tenTo exponent.toNat)
    else value.1 * tenTo (-exponent).toNat / value.2
  let middle := tens (2 * below + 1) exponent
  let twice := (2 * value.1, value.2)
  let lower := readsBack significand scale (tens below exponent)
  let upper := readsBack significand scale (tens (below + 1) exponent)
  match lower, upper with
  | false, false => none
  | true, false => some below
  | false, true => some (below + 1)
  | true, true =>
      if twice.1 * middle.2 < middle.1 * twice.2 then some below
      else if middle.1 * twice.2 < twice.1 * middle.2 then some (below + 1)
      else if below % 2 = 0 then some below
      else some (below + 1)

/-- The first grid, from one digit to seventeen, on which a decimal reads back. -/
def shortestFrom (significand : Nat) (scale point : Int) : Nat → Nat → Nat × Int
  | 0, _ => (significand, 0)
  | fuel + 1, digits =>
      match onGrid? significand scale (point - digits) with
      | some count => (count, point - digits)
      | none => shortestFrom significand scale point fuel (digits + 1)

/-- The shortest decimal of a finite number that is not zero. -/
def shortestDecimal (significand : Nat) (scale : Int) : Decimal :=
  let (count, exponent) :=
    shortestFrom significand scale (pointOf (quarters (4 * significand) scale)) 17 1
  let digits := Text.writeNatural count
  let kept := (digits.reverse.dropWhile (· = '0')).reverse
  ⟨kept, exponent + digits.length⟩

/-- A decimal with a point.  From one ten-thousandth up to below ten to the
sixteenth it is written in full; beyond, with an exponent of two digits or
more. -/
def layOut (decimal : Decimal) : List Char :=
  let count : Int := decimal.digits.length
  if decimal.point < -3 ∨ 16 < decimal.point then
    let exponent := decimal.point - 1
    let mantissa :=
      match decimal.digits with
      | first :: second :: rest => first :: '.' :: second :: rest
      | digits => digits
    mantissa ++ 'e' :: (if exponent < 0 then '-' else '+') ::
      Text.padLeft 2 '0' (Text.writeNatural exponent.natAbs)
  else if decimal.point ≤ 0 then
    '0' :: '.' :: List.replicate (-decimal.point).toNat '0' ++ decimal.digits
  else if count ≤ decimal.point then
    decimal.digits ++ List.replicate (decimal.point - count).toNat '0' ++ ['.', '0']
  else
    decimal.digits.take decimal.point.toNat ++ '.' :: decimal.digits.drop decimal.point.toNat

/-- The text of a number, with given words for what has no digits. -/
def write (nanWord infinityWord : String) : Binary64 → List Char
  | .nan => nanWord.toList
  | .infinite negative => (if negative then ['-'] else []) ++ infinityWord.toList
  | .finite negative 0 _ => (if negative then ['-'] else []) ++ "0.0".toList
  | .finite negative significand scale =>
      (if negative then ['-'] else []) ++ layOut (shortestDecimal significand scale)

end Binary64

end ExtcapHost
