/-
Module: ExtcapHost.Number.Binary64
Purpose: Binary numbers of 64 bits: rounding, addition, comparison.
Main exports:
  Binary64, Binary64.round, Binary64.ofDecimal, Binary64.add, Binary64.atLeast
-/

namespace ExtcapHost

/-- A binary number of 64 bits.  A finite one is its significand times the power
of two of its scale; it has 53 significant bits, or the least scale. -/
inductive Binary64 where
  | nan
  | infinite (negative : Bool)
  | finite (negative : Bool) (significand : Nat) (scale : Int)
deriving DecidableEq, Repr, Inhabited

namespace Binary64

/-- The number of significant bits. -/
def precision : Nat := 53

/-- The least scale of a finite number. -/
def leastScale : Int := -1074

/-- The greatest scale of a finite number. -/
def greatestScale : Int := 971

/-- Zero. -/
def zero : Binary64 := .finite false 0 leastScale

/-- A power of two. -/
def twoTo (exponent : Nat) : Nat :=
  Nat.pow 2 exponent

/-- A power of ten. -/
def tenTo (exponent : Nat) : Nat :=
  Nat.pow 10 exponent

/-- A quotient to the nearest natural number, ties to the even one. -/
def nearest (numerator denominator : Nat) : Nat :=
  let quotient := numerator / denominator
  let twice := 2 * (numerator % denominator)
  if twice < denominator then quotient
  else if denominator < twice then quotient + 1
  else if quotient % 2 = 0 then quotient
  else quotient + 1

/-- A quotient divided by a power of two, to the nearest natural number. -/
def nearestScaled (numerator denominator : Nat) (scale : Int) : Nat :=
  if 0 ≤ scale then nearest numerator (denominator * twoTo scale.toNat)
  else nearest (numerator * twoTo (-scale).toNat) denominator

/-- The scale at which a positive quotient has as many bits before the point as a
number has significant ones. -/
def scaleOf (numerator denominator : Nat) : Int :=
  let guess := (numerator.log2 : Int) - denominator.log2 - precision
  let reached :=
    if 0 ≤ guess then denominator * twoTo (guess.toNat + precision) ≤ numerator
    else denominator * twoTo precision ≤ numerator * twoTo (-guess).toNat
  if reached then guess + 1 else guess

/-- The number nearest to a quotient, ties to the even one.  What is too great
becomes infinite. -/
def round (negative : Bool) (numerator denominator : Nat) : Binary64 :=
  if numerator = 0 then .finite negative 0 leastScale
  else
    let scale := max leastScale (scaleOf numerator denominator)
    let significand := nearestScaled numerator denominator scale
    let carried := significand = twoTo precision
    let scale := if carried then scale + 1 else scale
    let significand := if carried then twoTo (precision - 1) else significand
    if greatestScale < scale then .infinite negative else .finite negative significand scale

/-- How many decimal digits a natural number has; zero has none. -/
def digitCount (n : Nat) : Nat :=
  if n = 0 then 0 else digitCount (n / 10) + 1
termination_by n
decreasing_by omega

/-- The number nearest to a decimal: digits times a power of ten.  A decimal above
or below all numbers needs no arithmetic. -/
def ofDecimal (negative : Bool) (digits : Nat) (exponent : Int) : Binary64 :=
  if digits = 0 then .finite negative 0 leastScale
  else
    let magnitude := exponent + digitCount digits
    if 400 < magnitude then .infinite negative
    else if magnitude < -400 then .finite negative 0 leastScale
    else if 0 ≤ exponent then round negative (digits * tenTo exponent.toNat) 1
    else round negative digits (tenTo (-exponent).toNat)

/-- A finite number as an integer at the least scale. -/
def units (negative : Bool) (significand : Nat) (scale : Int) : Int :=
  let size : Int := significand * twoTo (scale - leastScale).toNat
  if negative then -size else size

/-- The sum of two numbers, rounded once. -/
def add : Binary64 → Binary64 → Binary64
  | .nan, _ => .nan
  | _, .nan => .nan
  | .infinite one, .infinite two => if one = two then .infinite one else .nan
  | .infinite one, _ => .infinite one
  | _, .infinite two => .infinite two
  | .finite negative significand scale, .finite negative' significand' scale' =>
      let sum := units negative significand scale + units negative' significand' scale'
      round (if sum = 0 then negative && negative' else sum < 0) sum.natAbs
        (twoTo (-leastScale).toNat)

/-- The first number is at least as great as the second.  What is not a number
compares with nothing. -/
def atLeast : Binary64 → Binary64 → Bool
  | .nan, _ => false
  | _, .nan => false
  | .infinite false, _ => true
  | _, .infinite true => true
  | .infinite true, _ => false
  | _, .infinite false => false
  | .finite negative significand scale, .finite negative' significand' scale' =>
      units negative' significand' scale' ≤ units negative significand scale

end Binary64

end ExtcapHost
