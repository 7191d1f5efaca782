import Crud.Number.Decimal
import Crud.Text.Basic

/-!
# Writing doubles

How a double is written is a choice of the format that holds it: where positional notation ends,
whether a whole number keeps a fraction digit, and which of two equally short digit strings is
taken. `NumberStyle` records these choices, and the digits are the same shortest ones for all.
-/

namespace Crud

/-- The choices of one format for writing doubles. -/
structure NumberStyle where
  /-- Which of two equally near digit strings is taken. -/
  tie : Tie
  /-- Positional notation is used when this many digits stand before the point. -/
  positional : Int → Bool
  /-- A whole number is followed by a point and a zero. -/
  wholeFraction : Bool

namespace NumberStyle

/-- That many zeros. -/
def zeros (count : Int) : String := .ofList (List.replicate count.toNat '0')

/-- The digits with the point after as many of them as its place says. -/
def writePositional (style : NumberStyle) (digits : String) (place : Int) : String :=
  if place ≤ 0 then "0." ++ zeros (-place) ++ digits
  else if digits.length ≤ place then
    digits ++ zeros (place - digits.length) ++ if style.wholeFraction then ".0" else ""
  else .ofList (digits.toList.take place.toNat) ++ "." ++
    .ofList (digits.toList.drop place.toNat)

/-- One digit before the point and a signed power of ten. -/
def writeScientific (digits : String) (place : Int) : String :=
  let rest := digits.toList.drop 1
  .ofList (digits.toList.take 1) ++ (if rest.isEmpty then "" else "." ++ .ofList rest) ++
    (if place < 1 then "e-" ++ toString (1 - place) else "e+" ++ toString (place - 1))

/-- A finite double in the style. -/
def write (style : NumberStyle) (x : Double) : String :=
  let decimal := x.shortest style.tie
  let digits := toString decimal.digits
  let place := digits.length + decimal.exponent
  (if x.negative then "-" else "") ++
    if x.isZero then (if style.wholeFraction then "0.0" else "0")
    else if style.positional place then style.writePositional digits place
    else writeScientific digits place

end NumberStyle

end Crud
