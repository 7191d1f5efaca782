import Crud.Json.Basic
import Crud.Number.Reading

/-!
# JSON numbers

The grammar of a number and its value. A number without fraction and exponent is an integer when
it fits into 64 bits. Any other number is a double found in two rounding steps: the leading digits
that fit into 64 bits are rounded to a double, which is then multiplied or divided by a rounded
power of ten. A number whose double would be infinite has no value.
-/

namespace Crud.Json

/-- The parts of a number as written. -/
structure NumberText where
  /-- A minus sign stands in front. -/
  negative : Bool
  /-- The digits before the point. -/
  whole : List Char
  /-- The digits after the point, when there is one. -/
  fraction : Option (List Char)
  /-- The power of ten, when there is one. -/
  power : Option Int

/-- A fraction at the front of a text: nothing unless a point comes first, which at least one
digit has to follow. -/
def takeFraction : List Char → Option (Option (List Char) × List Char)
  | '.' :: rest =>
    let (digits, rest) := takeDigits rest
    if digits.isEmpty then none else some (some digits, rest)
  | chars => some (none, chars)

/-- A power of ten at the front of a text: nothing unless its mark comes first, which an optional
sign and at least one digit have to follow. -/
def takePower : List Char → Option (Option Int × List Char)
  | [] => some (none, [])
  | mark :: rest =>
    if mark = 'e' ∨ mark = 'E' then
      let (negative, rest) := takeSign rest
      let (digits, rest) := takeDigits rest
      if digits.isEmpty then none
      else some (some (if negative then -(digitsValue digits : Int) else digitsValue digits), rest)
    else some (none, mark :: rest)

/-- A number at the front of a text. A whole part of several digits does not start with zero. -/
def takeNumber (chars : List Char) : Option (NumberText × List Char) :=
  let (negative, rest) := match chars with
    | '-' :: rest => (true, rest)
    | chars => (false, chars)
  let (whole, rest) := takeDigits rest
  if whole.isEmpty ∨ (whole.head? = some '0' ∧ 1 < whole.length) then none
  else do
    let (fraction, rest) ← takeFraction rest
    let (power, rest) ← takePower rest
    some (⟨negative, whole, fraction, power⟩, rest)

/-- Append digits to a significand as long as it fits into 64 bits; also the number of digits
appended. -/
def appendDigits (significand : Nat) : List Char → Nat × Nat
  | [] => (significand, 0)
  | digit :: rest =>
    let next := 10 * significand + (digit.toNat - '0'.toNat)
    if next < UInt64.size then
      let (last, count) := appendDigits next rest
      (last, count + 1)
    else (significand, 0)

/-- The greatest power of ten used in one step. -/
def stepLimit : Nat := 308

/-- The double nearest to a power of ten. -/
def powerOfTen (power : Nat) : Double := Decimal.nearest false ⟨1, power⟩

/-- A finite double times a power of ten, one rounding for each step of at most 308 places. There
is no result when it would be infinite. -/
def scale (x : Double) (power : Int) : Option Double :=
  if x.isZero then some x
  else if power.natAbs ≤ stepLimit then
    let scaled := if 0 ≤ power then x.mul (powerOfTen power.natAbs)
      else x.div (powerOfTen power.natAbs)
    if scaled.isFinite then some scaled else none
  else if 0 < power then none
  else scale (x.div (powerOfTen stepLimit)) (power + stepLimit)
termination_by power.natAbs
decreasing_by
  rename_i large negative
  simp only [stepLimit] at *
  omega

namespace NumberText

/-- The double that the number denotes. -/
def toDouble (number : NumberText) : Option Double :=
  let fraction := number.fraction.getD []
  let (significand, kept) := appendDigits 0 number.whole
  let (significand, keptFraction) := appendDigits significand fraction
  let power := number.power.getD 0 + (number.whole.length - kept : Nat) - keptFraction
  (scale (.ofInt significand) power).map fun value =>
    if number.negative then value.neg else value

/-- The value of the number. Minus zero is a double, as no integer has its sign. -/
def toJson (number : NumberText) : Json :=
  let magnitude := digitsValue number.whole
  let asDouble := match number.toDouble with
    | some value => Json.double value
    | none => .unreadable
  if number.fraction.isSome || number.power.isSome then asDouble
  else if number.negative then
    if magnitude ≠ 0 ∧ Int64.minValue.toInt ≤ -(magnitude : Int) then
      .integer (-(magnitude : Int))
    else asDouble
  else if magnitude < UInt64.size then .integer magnitude
  else asDouble

end NumberText

end Crud.Json
