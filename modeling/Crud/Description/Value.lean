import Crud.Fragment
import Crud.Json.Record

/-!
# Written values and fragments

A value is written as the JSON value of its kind: bytes as an array of numbers below 256, and a
floating-point number that is no real number as null. Reading goes by the form alone. An integer
that does not fit into 64 bits with a sign is read as a floating-point number.
-/

namespace Crud

namespace Value

/-- The written form of a value. -/
def toJson : Value → Json
  | null => .null
  | bool value => .bool value
  | int value => .integer value.toInt
  | real value => if value.isFinite then .double value else .null
  | text value => .string value
  | bytes value => .array (value.map fun byte => .integer byte.toNat)

/-- The byte that a JSON value is. -/
def byteOfJson? : Json → Option UInt8
  | .integer value => if 0 ≤ value ∧ value < 256 then some (.ofNat value.toNat) else none
  | _ => none

/-- The value that a JSON value is the written form of. -/
def ofJson? : Json → Option Value
  | .null => some null
  | .bool value => some (bool value)
  | .integer value =>
    if Int64.minValue.toInt ≤ value ∧ value ≤ Int64.maxValue.toInt then some (int (.ofInt value))
    else some (real (.ofInt value))
  | .double value => some (real value)
  | .string value => some (text value)
  | .array items => (items.mapM byteOfJson?).map bytes
  | .object _ => none
  | .unreadable => none

end Value

namespace Fragment

/-- The fields of a written fragment. -/
def fieldNames : List String := ["expr", "values"]

/-- The written form of a fragment. -/
def toJson (fragment : Fragment) : Json :=
  .object [("expr", .string fragment.text), ("values", .array (fragment.values.map Value.toJson))]

/-- The fragment that a JSON value is the written form of. -/
def ofJson? (json : Json) : Option Fragment := do
  match ← json.fields? fieldNames with
  | [text, values] =>
    some
      { text := ← Json.required Json.toString? text
        values := ← Json.withDefault [] (Json.toList? Value.ofJson?) values }
  | _ => none

end Fragment

end Crud
