import Crud.Clause
import Crud.Description.Value

/-!
# Written conditions and clauses

A condition is written as a record, its operand as a choice with one value, and a clause as an
array in which a bracketed clause is an array again. Since a record may be written as an array too,
an array inside a clause is read as a bracketed clause if it can be, and as a condition otherwise.
-/

namespace Crud

namespace Operand

/-- The written form of an operand. -/
def toJson : Operand → Json
  | absent => .string "none"
  | scalar value => .object [("scalar", value.toJson)]
  | list values => .object [("list", .array (values.map Value.toJson))]
  | range lower upper => .object [("range", .array [lower.toJson, upper.toJson])]
  | fragment part => .object [("expr", part.toJson)]
  | column name => .object [("column", .string name)]
  | named names => .object [("named", .array (names.map .string))]
  | subquery text => .object [("statement", .string text)]

/-- The two bounds of a written range. -/
def rangeOfJson? : Json → Option Operand
  | .array [lower, upper] => do some (range (← Value.ofJson? lower) (← Value.ofJson? upper))
  | _ => none

/-- The operand that a JSON value is the written form of. -/
def ofJson? : Json → Option Operand
  | .string "none" => some absent
  | .object [(name, value)] =>
    match name with
    | "none" => match value with
      | .null => some absent
      | _ => none
    | "scalar" => (Value.ofJson? value).map scalar
    | "list" => (value.toList? Value.ofJson?).map list
    | "range" => rangeOfJson? value
    | "expr" => (Fragment.ofJson? value).map fragment
    | "column" => value.toString?.map column
    | "named" => (value.toList? Json.toString?).map named
    | "statement" => value.toString?.map subquery
    | _ => none
  | _ => none

end Operand

namespace Condition

/-- The fields of a written condition. -/
def fieldNames : List String :=
  ["kind", "column", "operator", "value", "connector", "mask", "modifier"]

/-- The written form of a condition. -/
def toJson (condition : Condition) : Json :=
  .object <|
    [("kind", .string condition.kind.name), ("column", .string condition.column),
      ("operator", .string condition.operator.name), ("value", condition.operand.toJson),
      ("connector", .string condition.connector.name), ("mask", .bool condition.masked)] ++
    Json.optionalMember "modifier" (condition.modifier.map .string)

/-- The condition that a JSON value is the written form of. -/
def ofJson? (json : Json) : Option Condition := do
  match ← json.fields? fieldNames with
  | [kind, column, operator, operand, connector, masked, modifier] =>
    some
      { kind := ← Json.withDefault .plain (Json.toChoice? ConditionKind.all ConditionKind.name) kind
        column := ← Json.required Json.toString? column
        operator := ← Json.withDefault .equal (Json.toChoice? Operator.all Operator.name) operator
        operand := ← Json.withDefault .absent Operand.ofJson? operand
        connector := ← Json.withDefault .and (Json.toChoice? Connector.all Connector.name) connector
        masked := ← Json.withDefault true Json.toBool? masked
        modifier := ← Json.optional Json.toString? modifier }
  | _ => none

end Condition

namespace Clause

/-- The written forms of the elements of a clause. -/
def toItems : Clause → List Json
  | empty => []
  | condition head rest => head.toJson :: rest.toItems
  | group inner rest => .array inner.toItems :: rest.toItems

/-- The written form of a clause. -/
def toJson (clause : Clause) : Json := .array clause.toItems

mutual

/-- The element that a JSON value is the written form of, as what it is put before a clause by. -/
def ofItem? : Json → Option (Clause → Clause)
  | .array items =>
    match ofItems? items with
    | some inner => some (group inner)
    | none => (Condition.ofJson? (.array items)).map condition
  | json => (Condition.ofJson? json).map condition

/-- The clause whose elements have the written forms. -/
def ofItems? : List Json → Option Clause
  | [] => some empty
  | item :: rest => do
    let element ← ofItem? item
    let clause ← ofItems? rest
    some (element clause)

end

/-- The clause that a JSON value is the written form of. The whole of it has to be readable and to
fit into a number of levels, as its elements are read before their form is known. -/
def ofJson? (levels : Nat) (json : Json) : Option Clause :=
  match json with
  | .array items => if json.fits levels then ofItems? items else none
  | _ => none

end Clause

end Crud
