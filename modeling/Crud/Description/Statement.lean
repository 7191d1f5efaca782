import Crud.Description.Clause
import Crud.Json.Printer
import Crud.Json.Reader
import Crud.Statement.Basic

/-!
# Written statements

A statement is written as a record of its parts. All of them are written, and all but the action
may be left out when reading. The lookup for columns is not part of the written form. Binding names
are brought into their form after reading, so names that become equal share one place, with the
last value.
-/

namespace Crud

/-- The written form of a table. -/
def TableRef.toJson (table : TableRef) : Json :=
  .object <| ("table", .string table.table) ::
    Json.optionalMember "alias" (table.aliasName.map .string)

/-- The table that a JSON value is the written form of. -/
def TableRef.ofJson? (json : Json) : Option TableRef := do
  match ← json.fields? ["table", "alias"] with
  | [table, aliasName] =>
    some
      { table := ← Json.required Json.toString? table
        aliasName := ← Json.optional Json.toString? aliasName }
  | _ => none

/-- The written form of what a field shows. -/
def FieldSource.toJson : FieldSource → Json
  | column name => .string name
  | fragment part => part.toJson

/-- What a field shows, by its written form: a column is a string, and anything else is a fragment,
which has to be readable throughout. -/
def FieldSource.ofJson? (levels : Nat) : Json → Option FieldSource
  | .string name => some (column name)
  | json => if json.fits levels then (Fragment.ofJson? json).map fragment else none

/-- The written form of a field. -/
def FieldRef.toJson (field : FieldRef) : Json :=
  .object <| ("field", field.source.toJson) ::
    Json.optionalMember "alias" (field.aliasName.map .string)

/-- The field that a JSON value is the written form of. -/
def FieldRef.ofJson? (levels : Nat) (json : Json) : Option FieldRef := do
  match ← json.fields? ["field", "alias"] with
  | [source, aliasName] =>
    some
      { source := ← Json.required (FieldSource.ofJson? (levels - 1)) source
        aliasName := ← Json.optional Json.toString? aliasName }
  | _ => none

/-- The written form of a grouping column. -/
def GroupEntry.toJson (entry : GroupEntry) : Json :=
  .object <| ("column", .string entry.column) ::
    Json.optionalMember "modifier" (entry.modifier.map .string)

/-- The grouping column that a JSON value is the written form of. -/
def GroupEntry.ofJson? (json : Json) : Option GroupEntry := do
  match ← json.fields? ["column", "modifier"] with
  | [column, modifier] =>
    some
      { column := ← Json.required Json.toString? column
        modifier := ← Json.optional Json.toString? modifier }
  | _ => none

/-- The written form of an order entry. -/
def OrderEntry.toJson (entry : OrderEntry) : Json :=
  .object [("column", .string entry.column), ("direction", .string entry.direction.name)]

/-- The order entry that a JSON value is the written form of. -/
def OrderEntry.ofJson? (json : Json) : Option OrderEntry := do
  match ← json.fields? ["column", "direction"] with
  | [column, direction] =>
    some
      { column := ← Json.required Json.toString? column
        direction := ← Json.withDefault .ascending (Json.toChoice? Direction.all Direction.name)
          direction }
  | _ => none

/-- The written form of a page. -/
def Page.toJson (page : Page) : Json :=
  .object <| ("limit", .integer page.limit.toNat) ::
    Json.optionalMember "offset" (page.offset.map fun offset => .integer offset.toNat)

/-- The page that a JSON value is the written form of. -/
def Page.ofJson? (json : Json) : Option Page := do
  match ← json.fields? ["limit", "offset"] with
  | [limit, offset] =>
    some
      { limit := ← Json.required Json.toUInt64? limit
        offset := ← Json.optional Json.toUInt64? offset }
  | _ => none

/-- The written form of a join. -/
def Join.toJson (join : Join) : Json :=
  .object
    [("table", .string join.table), ("kind", .string join.kind.name),
      ("on", .array (join.conditions.map Condition.toJson))]

/-- The join that a JSON value is the written form of. -/
def Join.ofJson? (json : Json) : Option Join := do
  match ← json.fields? ["table", "kind", "on"] with
  | [table, kind, conditions] =>
    some
      { table := ← Json.required Json.toString? table
        kind := ← Json.withDefault .inner (Json.toChoice? JoinKind.all JoinKind.name) kind
        conditions := ← Json.withDefault [] (Json.toList? Condition.ofJson?) conditions }
  | _ => none

/-- The written form of bindings. -/
def Bindings.toJson (bindings : Bindings) : Json :=
  .object (bindings.entries.map fun (name, value) => (name, value.toJson))

/-- The bindings that a JSON value is the written form of. -/
def Bindings.ofJson? : Json → Option Bindings
  | .object members => do
    let pairs ← members.mapM fun (name, json) => (Value.ofJson? json).map (name, ·)
    some (empty.bindAll (ofPairs pairs).entries)
  | _ => none

namespace Statement

/-- The fields of a written statement. -/
def fieldNames : List String :=
  ["action", "distinct", "table", "field", "where", "having", "group", "order", "limit", "join",
    "values", "bindings"]

/-- The written form of a statement. -/
def toJson (statement : Statement) : Json :=
  .object
    [("action", .string statement.action.name), ("distinct", .bool statement.distinct),
      ("table", .array (statement.tables.map TableRef.toJson)),
      ("field", .array (statement.fields.map FieldRef.toJson)),
      ("where", statement.whereClause.toJson), ("having", statement.havingClause.toJson),
      ("group", .array (statement.groups.map GroupEntry.toJson)),
      ("order", .array (statement.orders.map OrderEntry.toJson)),
      ("limit", (statement.page.map Page.toJson).getD .null),
      ("join", .array (statement.joins.map Join.toJson)),
      ("values", .array (statement.values.map Value.toJson)),
      ("bindings", statement.bindings.toJson)]

/-- The statement that a JSON value is the written form of. -/
def ofJson? (json : Json) : Option Statement := do
  match ← json.fields? fieldNames with
  | [action, distinct, tables, fields, whereClause, havingClause, groups, orders, page, joins,
      values, bindings] =>
    let clause := Clause.ofJson? (Json.levelLimit - 1)
    some
      { action := ← Json.required (Json.toChoice? Action.all Action.name) action
        distinct := ← Json.withDefault false Json.toBool? distinct
        tables := ← Json.withDefault [] (Json.toList? TableRef.ofJson?) tables
        fields := ← Json.withDefault [] (Json.toList? (FieldRef.ofJson? (Json.levelLimit - 2)))
          fields
        whereClause := ← Json.withDefault .empty clause whereClause
        havingClause := ← Json.withDefault .empty clause havingClause
        groups := ← Json.withDefault [] (Json.toList? GroupEntry.ofJson?) groups
        orders := ← Json.withDefault [] (Json.toList? OrderEntry.ofJson?) orders
        page := ← Json.optional Page.ofJson? page
        joins := ← Json.withDefault [] (Json.toList? Join.ofJson?) joins
        values := ← Json.withDefault [] (Json.toList? Value.ofJson?) values
        bindings := ← Json.withDefault .empty Bindings.ofJson? bindings }
  | _ => none

/-- The description of a statement. -/
def describe (statement : Statement) : String := statement.toJson.text

/-- The statement of a description. -/
def ofDescription? (text : String) : Option Statement := do ofJson? (← Json.ofText? text)

end Statement

end Crud
