import Crud.Identifier
import Crud.Statement.Basic

/-!
# Dialects

Databases agree on the shape of a statement but not on quotes, pages, inserts and the operators
they know. A dialect is a record of these differences, every one with a default. An operator is
rendered by the dialect's own rendering if there is one, and by the common one if the dialect
supports the operator.
-/

namespace Crud

/-- The parts of a comparison, ready to be written. -/
structure Operands where
  /-- The column. -/
  column : String
  /-- What it is compared with. -/
  value : String
  /-- The two bounds, when there are two. -/
  range : Option (String × String) := none
  /-- Words after the value of a full-text search. -/
  modifier : Option String := none
deriving DecidableEq, Repr

/-- Assignments, one after the other. -/
def writeAssignments (assignments : List (String × String)) : String :=
  Text.join ", " (assignments.map fun (column, marker) => column ++ " = " ++ marker)

/-- The differences of one database from the others. -/
structure Dialect where
  /-- The name. -/
  name : String
  /-- The character on both sides of a quoted name. -/
  quote : Char := '"'
  /-- What stands for a positional value. -/
  placeholder : String := "?"
  /-- What stands for a named binding. -/
  namedPlaceholder : String → String := fun name => ":" ++ name
  /-- The common rendering may be used for the operator. -/
  supports : Operator → Bool := fun _ => true
  /-- A rendering of its own. -/
  render : Operator → Operands → Option String := fun _ _ => none
  /-- The kind of join exists. -/
  supportsJoin : JoinKind → Bool := fun _ => true
  /-- The clause of a page. -/
  page : Page → String := fun page =>
    "LIMIT " ++ toString page.limit ++
      match page.offset with
      | some offset => " OFFSET " ++ toString offset
      | none => ""
  /-- The insertion of assignments into a table. -/
  insert : String → List (String × String) → String := fun table assignments =>
    "INSERT INTO " ++ table ++ " SET " ++ writeAssignments assignments
  /-- The statement that empties a table. -/
  truncate : String → String := fun table => "TRUNCATE TABLE " ++ table
  /-- The statement that describes a table, given its bare name. -/
  describe : String → String := fun table =>
    "SELECT * FROM information_schema.tables WHERE table_name = " ++ Value.quoteText table

namespace Dialect

/-- A name in the quotes of the dialect. -/
def quoteName (dialect : Dialect) (name : String) : String :=
  .ofList (dialect.quote :: name.toList ++ [dialect.quote])

/-- The dialect without any difference. -/
def generic : Dialect := { name := "generic" }

/-- Backquotes around names, and the offset of a page first. -/
def mysql : Dialect where
  name := "mysql"
  quote := '\x60'
  page page :=
    match page.offset with
    | some offset => "LIMIT " ++ toString offset ++ ", " ++ toString page.limit
    | none => "LIMIT " ++ toString page.limit
  truncate table := "TRUNCATE " ++ table
  describe table := "SHOW TABLE STATUS LIKE " ++ Value.quoteText table

/-- No comparison of texts, no membership in a text and no straight join; a full-text search
without modifier; inserts with a list of columns and a list of values. -/
def sqlite : Dialect where
  name := "sqlite"
  supports operator := operator != .compareText && operator != .inSet
  render operator operands :=
    if operator = .fullText then some (operands.column ++ " MATCH " ++ operands.value) else none
  supportsJoin kind := kind != .straight
  insert table assignments :=
    "INSERT INTO " ++ table ++ " (" ++ Text.join ", " (assignments.map Prod.fst) ++ ") VALUES (" ++
      Text.join ", " (assignments.map Prod.snd) ++ ")"
  truncate table := "DELETE FROM " ++ table
  describe table :=
    "SELECT * FROM sqlite_master WHERE type = 'table' AND name = " ++ Value.quoteText table

/-- The dialects that come with the library. -/
def shipped : List Dialect := [generic, mysql, sqlite]

end Dialect

end Crud
