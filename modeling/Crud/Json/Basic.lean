import Crud.Number.Double

/-!
# JSON values

The data of a JSON text. Members keep their order and may repeat a key. Integers are kept apart
from doubles, since a reader may ask for one or the other. A part of a text can be well formed and
still have no value: a number beyond the range of doubles, or a string or key with half of a
surrogate pair. Such a part is `unreadable`; it does no harm where nothing looks at it.
-/

namespace Crud

/-- A JSON value. -/
inductive Json where
  /-- The null literal. -/
  | null
  /-- One of the two truth literals. -/
  | bool (value : Bool)
  /-- A number written without fraction and exponent. -/
  | integer (value : Int)
  /-- Any other number. -/
  | double (value : Double)
  /-- A string. -/
  | string (value : String)
  /-- Values in order. -/
  | array (items : List Json)
  /-- Members in order. -/
  | object (members : List (String × Json))
  /-- A well-formed part of a text that has no value. -/
  | unreadable
deriving Repr

namespace Json

mutual

/-- Every part of the value is readable, and arrays and objects are nested no deeper than the
given number of levels. -/
def fits : Nat → Json → Bool
  | levels + 1, .array items => itemsFit levels items
  | levels + 1, .object members => membersFit levels members
  | 0, .array _ => false
  | 0, .object _ => false
  | _, .unreadable => false
  | _, _ => true

/-- Every item of an array fits into the levels. -/
def itemsFit : Nat → List Json → Bool
  | _, [] => true
  | levels, item :: rest => fits levels item && itemsFit levels rest

/-- The value of every member of an object fits into the levels. -/
def membersFit : Nat → List (String × Json) → Bool
  | _, [] => true
  | levels, (_, value) :: rest => fits levels value && membersFit levels rest

end

/-- How many levels of arrays and objects a text may have. -/
def levelLimit : Nat := 127

end Json

end Crud
