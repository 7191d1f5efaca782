import Crud.Dialect.Drivers
import Crud.Json.Printer
import Crud.Json.Reader
import Crud.Json.Record
import Crud.Statement.Schema

/-!
# Settings

The settings choose a driver and a prefix for tables, and list known columns. They are written as a
record; every part may be left out.
-/

namespace Crud

/-- A driver, a prefix for tables and known columns. -/
structure Settings where
  /-- The name of the driver. -/
  driver : String := "generic"
  /-- What is put before the name of a table. -/
  tablePrefix : Option String := none
  /-- Tables with their known columns. -/
  knownColumns : SortedMap (List String) := .empty

namespace Settings

/-- The written form of known columns. -/
def columnsToJson (columns : SortedMap (List String)) : Json :=
  .object (columns.entries.map fun (table, names) => (table, .array (names.map .string)))

/-- The known columns that a JSON value is the written form of. The last columns of a table that is
given twice stay. -/
def columnsOfJson? : Json → Option (SortedMap (List String))
  | .object members =>
    let column (member : String × Json) : Option (String × List String) :=
      (Json.toList? Json.toString? member.2).map (member.1, ·)
    (members.mapM column).map SortedMap.ofPairs
  | _ => none

/-- The written form of settings. -/
def toJson (settings : Settings) : Json :=
  .object
    [("driver", .string settings.driver),
      ("table_prefix", (settings.tablePrefix.map .string).getD .null),
      ("known_columns", columnsToJson settings.knownColumns)]

/-- The settings that a JSON value is the written form of. -/
def ofJson? (json : Json) : Option Settings := do
  match ← json.fields? ["driver", "table_prefix", "known_columns"] with
  | [driver, tablePrefix, knownColumns] =>
    some
      { driver := ← Json.withDefault "generic" Json.toString? driver
        tablePrefix := ← Json.optional Json.toString? tablePrefix
        knownColumns := ← Json.withDefault .empty columnsOfJson? knownColumns }
  | _ => none

/-- The settings of a text. -/
def ofText? (text : String) : Option Settings := do ofJson? (← Json.ofText? text)

/-- The lookup for the known columns, if there are any. -/
def lookup (settings : Settings) : Option ColumnLookup :=
  if settings.knownColumns.entries.isEmpty then none
  else some (Schema.mk settings.knownColumns.entries).recognises

/-- The target that the settings choose. -/
def target (settings : Settings) (drivers : Drivers) : Except Error Target :=
  (drivers.target settings.driver).map fun target =>
    match settings.tablePrefix with
    | some tablePrefix => target.withPrefix tablePrefix
    | none => target

end Settings

end Crud
