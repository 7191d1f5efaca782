/-!
# Double-precision numbers

A double is a sign and a magnitude code: the codes count the non-negative doubles in increasing
order, from zero over the subnormal and the normal numbers to infinity, and the codes above
infinity are the values that are not numbers. Every pair is a double, so the type needs no
invariant. All arithmetic is exact on natural numbers up to one rounding to the nearest double,
a tie going to the even significand.
-/

namespace Crud

/-- A binary floating-point number of 64 bits. -/
structure Double where
  /-- The sign, which zero has too. -/
  negative : Bool
  /-- The position among the non-negative doubles. -/
  code : Fin (Nat.pow 2 63)
deriving DecidableEq, Repr

namespace Double

/-- The code of infinity. -/
def infinityCode : Nat := 2047 * Nat.pow 2 52

/-- The double with the given code, or infinity when the code lies above infinity's. -/
def ofCode (negative : Bool) (code : Nat) : Double :=
  ⟨negative, ⟨min code infinityCode,
    Nat.lt_of_le_of_lt (Nat.min_le_right _ _) (by decide)⟩⟩

/-- Zero with a sign. -/
def zero (negative : Bool) : Double := ofCode negative 0

/-- Infinity with a sign. -/
def infinity (negative : Bool) : Double := ofCode negative infinityCode

/-- The quiet value that is not a number. -/
def nan : Double := ⟨false, ⟨infinityCode + Nat.pow 2 51, by decide⟩⟩

/-- The value is not a number. -/
def isNan (x : Double) : Bool := infinityCode < x.code.val

/-- The value is a real number. -/
def isFinite (x : Double) : Bool := x.code.val < infinityCode

/-- The value is zero of either sign. -/
def isZero (x : Double) : Bool := x.code.val == 0

/-- The integer significand of a finite double. -/
def significand (x : Double) : Nat :=
  if x.code.val < Nat.pow 2 52 then x.code.val else Nat.pow 2 52 + x.code.val % Nat.pow 2 52

/-- The power of two that scales the significand of a finite double. -/
def exponent (x : Double) : Int := (max (x.code.val / Nat.pow 2 52) 1 : Nat) - 1075

/-- Numerical equality: a value that is not a number differs from everything, and the two zeros
are equal. -/
def same (x y : Double) : Bool :=
  !x.isNan && !y.isNan && (x == y || (x.isZero && y.isZero))

/-- A value is numerically equal to itself unless it is not a number. -/
theorem same_self (x : Double) : x.same x = !x.isNan := by simp [same]

/-- The fraction divided by a power of two, as a fraction. -/
def shiftDown (numerator denominator : Nat) (power : Int) : Nat × Nat :=
  if 0 ≤ power then (numerator, denominator * Nat.pow 2 power.toNat)
  else (numerator * Nat.pow 2 (-power).toNat, denominator)

/-- The natural number nearest to a fraction, a tie going to the even one. -/
def roundEven (numerator denominator : Nat) : Nat :=
  let quotient := numerator / denominator
  let rest := numerator % denominator
  if 2 * rest < denominator then quotient
  else if denominator < 2 * rest then quotient + 1
  else quotient + quotient % 2

/-- The largest power of two that is at most a positive fraction. -/
def floorLog2 (numerator denominator : Nat) : Int :=
  let guess : Int := numerator.log2 - denominator.log2
  let (scaled, unit) := shiftDown numerator denominator guess
  if unit ≤ scaled then guess else guess - 1

/-- A positive fraction rounded to a significand of at most the given number of bits, or to a
multiple of the least power of two, with the power that scales it. -/
def roundBits (bits : Nat) (least : Int) (numerator denominator : Nat) : Nat × Int :=
  let power := max (floorLog2 numerator denominator - (bits - 1)) least
  let (scaled, unit) := shiftDown numerator denominator power
  (roundEven scaled unit, power)

/-- The double nearest to a fraction. A significand that rounds up to the next power of two
carries into the code of the next binade, and past the last one into infinity. -/
def ofRatio (negative : Bool) (numerator denominator : Nat) : Double :=
  if numerator = 0 then zero negative
  else
    let (significand, power) := roundBits 53 (-1074) numerator denominator
    ofCode negative ((power + 1074).toNat * Nat.pow 2 52 + significand)

/-- The magnitude of a finite double as a fraction. -/
def toRatio (x : Double) : Nat × Nat :=
  if 0 ≤ x.exponent then (x.significand * Nat.pow 2 x.exponent.toNat, 1)
  else (x.significand, Nat.pow 2 (-x.exponent).toNat)

/-- The double nearest to an integer. -/
def ofInt (n : Int) : Double := ofRatio (n < 0) n.natAbs 1

/-- The rounded product of two finite doubles. -/
def mul (x y : Double) : Double :=
  ofRatio (x.negative != y.negative) (x.toRatio.1 * y.toRatio.1) (x.toRatio.2 * y.toRatio.2)

/-- The rounded quotient of two finite doubles, the second not zero. -/
def div (x y : Double) : Double :=
  ofRatio (x.negative != y.negative) (x.toRatio.1 * y.toRatio.2) (x.toRatio.2 * y.toRatio.1)

/-- The double with the opposite sign. -/
def neg (x : Double) : Double := { x with negative := !x.negative }

/-- The value rounded to single precision. -/
def toSingle (x : Double) : Double :=
  if !x.isFinite || x.isZero then x
  else
    let (significand, power) := roundBits 24 (-149) x.toRatio.1 x.toRatio.2
    if power = 104 ∧ significand = Nat.pow 2 24 ∨ 104 < power then infinity x.negative
    else if 0 ≤ power then ofRatio x.negative (significand * Nat.pow 2 power.toNat) 1
    else ofRatio x.negative significand (Nat.pow 2 (-power).toNat)

end Double

end Crud
