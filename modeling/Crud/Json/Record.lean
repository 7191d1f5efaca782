import Crud.Json.Basic

/-!
# Reading records and choices

A record is written as an object of its fields or as an array of them in order. An object may have
further members, which nobody looks at, but no field twice. An array may end early and may not
have more items than there are fields. A field that is not written is absent, and the reader of
the record decides whether that is allowed.

A choice between names is written as a string or as an object whose only member has the name as
its key; the value of the member is null for a choice that carries nothing.
-/

namespace Crud.Json

/-- The value of a field: nothing when it is absent, and no answer when it is given twice. -/
def fieldValue? (name : String) (members : List (String × Json)) : Option (Option Json) :=
  match members.filter (·.1 == name) with
  | [] => some none
  | [(_, value)] => some (some value)
  | _ => none

/-- The values of the named fields of a record, in the order of the names. -/
def fields? (names : List String) : Json → Option (List (Option Json))
  | .object members => names.mapM (fieldValue? · members)
  | .array items =>
    if items.length ≤ names.length then
      some (items.map some ++ List.replicate (names.length - items.length) none)
    else none
  | _ => none

/-- A field that has to be given. -/
def required {α : Type} (read : Json → Option α) : Option Json → Option α
  | some value => read value
  | none => none

/-- A field that has a default. -/
def withDefault {α : Type} (default : α) (read : Json → Option α) : Option Json → Option α
  | some value => read value
  | none => some default

/-- A field that may be absent or null. -/
def optional {α : Type} (read : Json → Option α) : Option Json → Option (Option α)
  | none => some none
  | some .null => some none
  | some value => (read value).map some

/-- A string. -/
def toString? : Json → Option String
  | .string value => some value
  | _ => none

/-- A truth value. -/
def toBool? : Json → Option Bool
  | .bool value => some value
  | _ => none

/-- A natural number of 64 bits. -/
def toUInt64? : Json → Option UInt64
  | .integer value => if 0 ≤ value ∧ value < UInt64.size then some (.ofNat value.toNat) else none
  | _ => none

/-- The items of an array, each read in turn. -/
def toList? {α : Type} (read : Json → Option α) : Json → Option (List α)
  | .array items => items.mapM read
  | _ => none

/-- The name of a choice that carries nothing. -/
def toName? : Json → Option String
  | .string name => some name
  | .object [(name, .null)] => some name
  | _ => none

/-- One of the listed choices, by its name. -/
def toChoice? {α : Type} (choices : List α) (name : α → String) (value : Json) : Option α :=
  value.toName?.bind fun written => choices.find? fun choice => name choice == written

/-- A field that is left out of the written record when there is no value. -/
def optionalMember (name : String) : Option Json → List (String × Json)
  | some value => [(name, value)]
  | none => []

end Crud.Json
