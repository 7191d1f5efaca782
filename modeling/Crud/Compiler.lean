import Crud.Rendering

/-!
# Compiling statements

A target turns a statement into text by its action. The parts that an action does not use are
ignored, whatever they hold. The values of a statement are never looked at, except in the fields,
whose fragments show them as literals.
-/

namespace Crud.Target

/-- The tables of a statement, of which there has to be one. -/
def requireTables (action : Action) (statement : Statement) : Except Error (List TableRef) :=
  if statement.tables.isEmpty then .error (.missingTable action) else .ok statement.tables

/-- A table with its alias. -/
def tableRef (target : Target) (table : TableRef) : String :=
  match table.aliasName with
  | some name => target.quoter.table table.table ++ " AS " ++ target.quoter.aliasName name
  | none => target.quoter.table table.table

/-- A field with its alias. -/
def field (target : Target) (field : FieldRef) : String :=
  let source := match field.source with
    | .column name => target.quoter.column name
    | .fragment fragment => fragment.inline
  match field.aliasName with
  | some name => source ++ " AS " ++ target.quoter.aliasName name
  | none => source

/-- The fields of a statement, or a star for all. -/
def fields (target : Target) (statement : Statement) : String :=
  if statement.fields.isEmpty then "*" else Text.join ", " (statement.fields.map target.field)

/-- A join. Its conditions are rendered like a clause without groups. -/
def join (target : Target) (join : Join) : Except Error String :=
  if target.dialect.supportsJoin join.kind then do
    let table := join.kind.keyword ++ " " ++ target.quoter.table join.table
    if join.conditions.isEmpty then .ok table
    else .ok (table ++ " ON " ++ (← target.clause (Clause.ofList join.conditions)))
  else .error (.unsupportedJoin join.kind.name target.dialect.name)

/-- The joins of a statement, in order. -/
def joins (target : Target) : List Join → Except Error (List String)
  | [] => .ok []
  | first :: rest => do
    let text ← target.join first
    let more ← target.joins rest
    .ok (text :: more)

/-- A clause after its keyword, unless the clause has no text. -/
def keywordClause (target : Target) (keyword : String) (clause : Clause) :
    Except Error (List String) := do
  let body ← target.clause clause
  .ok (if body = "" then [] else [keyword ++ " " ++ body])

/-- The grouping. Only the modifier of the last column is written. -/
def grouping (target : Target) (groups : List GroupEntry) : List String :=
  match groups.getLast? with
  | none => []
  | some last =>
    let columns := Text.join ", " (groups.map fun group => target.quoter.column group.column)
    let modifier := match last.modifier.bind Text.trimmed? with
      | some modifier => " " ++ modifier
      | none => ""
    ["GROUP BY " ++ columns ++ modifier]

/-- The order. -/
def order (target : Target) (orders : List OrderEntry) : List String :=
  if orders.isEmpty then []
  else
    let entry (entry : OrderEntry) : String :=
      target.quoter.column entry.column ++ " " ++ entry.direction.name
    ["ORDER BY " ++ Text.join ", " (orders.map entry)]

/-- The order and the page of a statement. -/
def orderAndPage (target : Target) (statement : Statement) : List String :=
  target.order statement.orders ++ (statement.page.map target.dialect.page).toList

/-- The statement that reads rows. -/
def select (target : Target) (statement : Statement) : Except Error String := do
  let tables ← requireTables .select statement
  let joins ← target.joins statement.joins
  let rows ← target.keywordClause "WHERE" statement.whereClause
  let groups ← target.keywordClause "HAVING" statement.havingClause
  .ok <| Text.join " " <|
    ["SELECT"] ++ (if statement.distinct then ["DISTINCT"] else []) ++
    [target.fields statement, "FROM", Text.join ", " (tables.map target.tableRef)] ++
    joins ++ rows ++ target.grouping statement.groups ++ groups ++ target.orderAndPage statement

/-- The names of bindings that address rows: the columns of conditions outside groups, and the
bindings that conditions at any depth refer to. -/
def addressingNames (clause : Clause) : List String :=
  clause.topConditions.map (·.column) ++ clause.bindingNames

/-- The assignments of the bindings outside a list of names, in order. -/
def assignments (target : Target) (excluded : List String) (bindings : Bindings) :
    List (String × String) :=
  (bindings.names.filter fun name => !excluded.contains name).map fun name =>
    (target.quoter.column name, target.dialect.namedPlaceholder name)

/-- The first table of a statement. -/
def firstTable (target : Target) (tables : List TableRef) : String :=
  target.quoter.table ((tables.head?.map (·.table)).getD "")

/-- The statement that adds a row, from all bindings. -/
def insert (target : Target) (statement : Statement) : Except Error String := do
  let tables ← requireTables .insert statement
  let assignments := target.assignments [] statement.bindings
  if assignments.isEmpty then .error (.missingBindings .insert)
  else .ok (target.dialect.insert (target.firstTable tables) assignments)

/-- The statement that changes rows, from the bindings that do not address rows. -/
def update (target : Target) (statement : Statement) : Except Error String := do
  let tables ← requireTables .update statement
  let assignments :=
    target.assignments (addressingNames statement.whereClause) statement.bindings
  if assignments.isEmpty then .error (.missingBindings .update)
  else do
    let rows ← target.keywordClause "WHERE" statement.whereClause
    .ok <| Text.join " " <|
      ["UPDATE", target.firstTable tables, "SET " ++ writeAssignments assignments] ++ rows ++
      target.orderAndPage statement

/-- The statement that removes rows. -/
def delete (target : Target) (statement : Statement) : Except Error String := do
  let tables ← requireTables .delete statement
  let rows ← target.keywordClause "WHERE" statement.whereClause
  .ok <| Text.join " " <|
    ["DELETE FROM", target.firstTable tables] ++ rows ++ target.orderAndPage statement

/-- The statement in the form of an action. -/
def assemble (target : Target) : Action → Statement → Except Error String
  | .select => target.select
  | .insert => target.insert
  | .update => target.update
  | .delete => target.delete

/-- The text of a statement. -/
def compile (target : Target) (statement : Statement) : Except Error String :=
  target.assemble statement.action statement

end Crud.Target
