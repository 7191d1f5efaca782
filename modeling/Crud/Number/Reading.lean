import Crud.Number.Decimal
import Crud.Text.Basic
import Crud.Text.Case

/-!
# Reading doubles

The parts of a decimal literal and the double that a text names: a decimal literal with an
optional sign, or one of the names of infinity and of the value that is not a number, in any case.
The value of a literal is the nearest double.
-/

namespace Crud

/-- The value of a string of decimal digits. -/
def digitsValue (digits : List Char) : Nat :=
  digits.foldl (fun value digit => 10 * value + (digit.toNat - '0'.toNat)) 0

/-- An optional sign at the front of a text, and what follows it. -/
def takeSign : List Char → Bool × List Char
  | '+' :: rest => (false, rest)
  | '-' :: rest => (true, rest)
  | chars => (false, chars)

/-- The digits at the front of a text, and what follows them. -/
def takeDigits (chars : List Char) : List Char × List Char :=
  (chars.takeWhile Text.isDigit, chars.dropWhile Text.isDigit)

/-- A power-of-ten suffix, which ends the text; no suffix is the power zero. -/
def exponentPart? : List Char → Option Int
  | [] => some 0
  | mark :: rest =>
    if mark = 'e' ∨ mark = 'E' then
      let (negative, rest) := takeSign rest
      let (digits, rest) := takeDigits rest
      if digits.isEmpty ∨ !rest.isEmpty then none
      else some (if negative then -(digitsValue digits : Int) else digitsValue digits)
    else none

/-- The decimal that a literal without sign denotes: digits with at most one point among or around
them, then an optional power of ten. -/
def Decimal.ofLiteral? (chars : List Char) : Option Decimal :=
  let (whole, rest) := takeDigits chars
  let (fraction, rest) := match rest with
    | '.' :: rest => takeDigits rest
    | rest => ([], rest)
  if whole.isEmpty && fraction.isEmpty then none
  else (exponentPart? rest).map fun power =>
    ⟨digitsValue (whole ++ fraction), power - fraction.length⟩

/-- The double that a text names. -/
def Double.ofText? (text : String) : Option Double :=
  let (negative, chars) := takeSign text.toList
  let name := Text.lower (.ofList chars)
  if name = "inf" ∨ name = "infinity" then some (.infinity negative)
  else if name = "nan" then some .nan
  else (Decimal.ofLiteral? chars).map (·.nearest negative)

end Crud
