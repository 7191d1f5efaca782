import Crud.Condition

/-!
# Known columns

A schema lists tables with their columns. It recognises a text of two parts with one point between
them, the first being a table and the second one of its columns. A table may be listed more than
once; its columns are then those of all its entries.
-/

namespace Crud

/-- Tables with their columns. -/
structure Schema where
  /-- The tables with their columns. -/
  tables : List (String × List String) := []
deriving DecidableEq, Repr

namespace Schema

/-- No table is listed. -/
def isEmpty (schema : Schema) : Bool := schema.tables.isEmpty

/-- The text is a table and one of its columns, with a point between them. -/
def recognises (schema : Schema) : ColumnLookup := fun text =>
  match Text.splitOn '.' text.toList with
  | [table, column] =>
    schema.tables.any fun (name, columns) =>
      name == .ofList table && columns.contains (.ofList column)
  | _ => false

end Schema

end Crud
