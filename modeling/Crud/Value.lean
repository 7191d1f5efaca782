import Crud.Number.Style

/-!
# Values

A value travels beside a statement and is bound to one of its placeholders. Only a fragment shown
on its own and a condition whose values are not masked write a value into the text, as a literal.
-/

namespace Crud

/-- A value that can be bound to a placeholder. -/
inductive Value where
  /-- The null value. -/
  | null
  /-- A truth value. -/
  | bool (value : Bool)
  /-- An integer of 64 bits. -/
  | int (value : Int64)
  /-- A floating-point number. -/
  | real (value : Double)
  /-- A text. -/
  | text (value : String)
  /-- A sequence of bytes. -/
  | bytes (value : List UInt8)
deriving DecidableEq, Repr

namespace Value

/-- Numbers in literals are always positional, and a whole one has no fraction. -/
def numberStyle : NumberStyle where
  tie := .up
  positional _ := true
  wholeFraction := false

/-- The literal of a floating-point number. -/
def realLiteral (value : Double) : String :=
  if value.isNan then "NaN"
  else if value.isFinite then numberStyle.write value
  else if value.negative then "-inf"
  else "inf"

/-- A text between single quotes, in which every single quote is written twice. -/
def quoteText (text : String) : String :=
  "'" ++ .ofList (Text.double '\x27' text.toList) ++ "'"

/-- The upper-case hexadecimal digit of a number below sixteen. -/
def hexDigit (n : Nat) : Char := Char.ofNat (if n < 10 then 48 + n else 55 + n)

/-- The two hexadecimal digits of each byte. -/
def hexDigits (bytes : List UInt8) : List Char :=
  bytes.flatMap fun byte => [hexDigit (byte.toNat / 16), hexDigit (byte.toNat % 16)]

/-- The value as it is written in the text of a statement. -/
def literal : Value → String
  | null => "NULL"
  | bool true => "TRUE"
  | bool false => "FALSE"
  | int value => toString value.toInt
  | real value => realLiteral value
  | text value => quoteText value
  | bytes value => "X'" ++ .ofList (hexDigits value) ++ "'"

/-- The value as bare text: a text itself, and the literal of anything else. -/
def plain : Value → String
  | text value => value
  | value => value.literal

/-- Equality of values, in which floating-point numbers are compared numerically. -/
def same : Value → Value → Bool
  | real left, real right => left.same right
  | left, right => left == right

/-- Numerical equality of value lists, position by position. -/
def sameList : List Value → List Value → Bool
  | [], [] => true
  | left :: lefts, right :: rights => left.same right && sameList lefts rights
  | _, _ => false

end Value

end Crud
