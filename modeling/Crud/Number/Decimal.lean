import Crud.Number.Double

/-!
# Decimal numbers and the shortest digits of a double

A decimal is a count of units of a power of ten. `Decimal.nearest` is the double nearest to a
decimal. `Double.shortest` is a decimal of fewest digits among those that read back as the given
double, and of these the nearest to it: for one digit, two digits and so on it tests the two
neighbours of the value on that decimal grid. When no grid of up to seventeen digits has a hit,
the exact decimal expansion of the double is taken.
-/

namespace Crud

/-- A natural number of units of a power of ten. -/
structure Decimal where
  /-- The number of units. -/
  digits : Nat
  /-- The power of ten that is the unit. -/
  exponent : Int
deriving DecidableEq, Repr

/-- How many decimal digits a number has; zero has none. -/
def digitCount (n : Nat) : Nat :=
  if n = 0 then 0 else digitCount (n / 10) + 1
termination_by n
decreasing_by omega

namespace Decimal

/-- The double nearest to a decimal. A decimal far outside the range of doubles is decided by its
size alone, without forming its power of ten. -/
def nearest (negative : Bool) (x : Decimal) : Double :=
  if x.digits = 0 then .zero negative
  else if 400 < x.exponent then .infinity negative
  else if x.exponent + digitCount x.digits < -400 then .zero negative
  else if 0 ≤ x.exponent then .ofRatio negative (x.digits * Nat.pow 10 x.exponent.toNat) 1
  else .ofRatio negative x.digits (Nat.pow 10 (-x.exponent).toNat)

/-- The same decimal with no zero at the end of its digits. -/
def trim (x : Decimal) : Decimal :=
  if x.digits = 0 then ⟨0, 0⟩
  else if x.digits % 10 = 0 then trim ⟨x.digits / 10, x.exponent + 1⟩
  else x
termination_by x.digits
decreasing_by omega

end Decimal

/-- Which of two equally near decimals of one length is taken. -/
inductive Tie where
  /-- The one whose last digit is even. -/
  | toEven
  /-- The larger one. -/
  | up
deriving DecidableEq, Repr

namespace Double

/-- The number of digits before the decimal point of a positive fraction; a fraction below one
tenth has a negative number, as many as there are zeros after its point. -/
def pointPlace (numerator denominator : Nat) : Int :=
  if denominator ≤ numerator then digitCount (numerator / denominator)
  else 1 - digitCount ((denominator + numerator - 1) / numerator - 1)

/-- The neighbours of a positive fraction among the multiples of a power of ten, the nearer one
first. -/
def neighbours (tie : Tie) (numerator denominator : Nat) (unit : Int) : List Decimal :=
  let scaled := if 0 ≤ unit then numerator else numerator * Nat.pow 10 (-unit).toNat
  let step := if 0 ≤ unit then denominator * Nat.pow 10 unit.toNat else denominator
  let below := scaled / step
  let rest := scaled % step
  let belowFirst := 2 * rest < step ∨ 2 * rest = step ∧ tie = .toEven ∧ below % 2 = 0
  if belowFirst then [⟨below, unit⟩, ⟨below + 1, unit⟩] else [⟨below + 1, unit⟩, ⟨below, unit⟩]

/-- The exact decimal expansion of the magnitude of a finite double. -/
def expansion (x : Double) : Decimal :=
  if 0 ≤ x.exponent then ⟨x.significand * Nat.pow 2 x.exponent.toNat, 0⟩
  else ⟨x.significand * Nat.pow 5 (-x.exponent).toNat, x.exponent⟩

/-- A decimal of fewest digits that reads back as the magnitude of a finite double. -/
def shortest (tie : Tie) (x : Double) : Decimal :=
  if x.isZero then ⟨0, 0⟩
  else
    let (numerator, denominator) := x.toRatio
    let place := pointPlace numerator denominator
    let hit (length : Nat) : Option Decimal :=
      (neighbours tie numerator denominator (place - length)).find?
        fun candidate => candidate.nearest x.negative = x
    (((List.range' 1 17).findSome? hit).getD x.expansion).trim

end Double

end Crud
