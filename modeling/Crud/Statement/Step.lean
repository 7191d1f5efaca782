import Crud.Statement.Builder
import Crud.Statement.Property

/-!
# Steps and scripts

A step is one operation on a statement as data, and a script is a sequence of steps and nested
scripts. Running a script applies its steps in order and stops at the first error. Steps let a
caller write down how a statement is built, and let a law speak about everything that can be built.
-/

namespace Crud

/-- One operation on a statement. -/
inductive Step where
  /-- Add tables. -/
  | tables (tables : List TableRef)
  /-- Add fields. -/
  | fields (fields : List FieldRef)
  /-- Set named bindings. -/
  | bind (pairs : List (String × Value))
  /-- Set named bindings from two lists. -/
  | bindLists (columns : List String) (values : List Value)
  /-- Replace the named bindings. -/
  | replaceBindings (pairs : List (String × Value))
  /-- Replace the positional values. -/
  | replaceValues (values : List Value)
  /-- Address a row by its key. -/
  | key (column : String) (value : Value)
  /-- Address rows by their keys. -/
  | keys (column : String) (values : List Value)
  /-- Compare a column. -/
  | compare (column : String) (argument : Argument) (operator : Operator) (connector : Connector)
  /-- Match a pattern. -/
  | like (negated : Bool) (column : String) (argument : Argument) (connector : Connector)
  /-- Search text. -/
  | search (columns : List String) (argument : Argument) (modifier : Option String)
      (connector : Connector)
  /-- Compare with two bounds. -/
  | between (negated : Bool) (column : String) (lower upper : Value) (connector : Connector)
  /-- Compare with a subquery. -/
  | subquery (column text : String) (values : List Value) (operator : Operator)
      (connector : Connector)
  /-- Add pieces of text as conditions. -/
  | texts (texts : List String) (values : List Value) (connectors : List Connector)
  /-- Compare a column of a group. -/
  | having (column : String) (argument : Argument) (operator : Operator) (connector : Connector)
  /-- Group by columns. -/
  | grouping (columns : List String) (modifier : Option String)
  /-- Order rows. -/
  | order (entries : List OrderEntry)
  /-- Set the page. -/
  | page (page : Page)
  /-- Drop repeated rows. -/
  | distinct
  /-- Join a table on one condition. -/
  | join (table left : String) (operator : Operator) (right : Option String) (kind : JoinKind)
  /-- Join a table. -/
  | addJoin (join : Join)
  /-- Recognise columns from now on. -/
  | lookup (lookup : ColumnLookup)
  /-- Recognise columns in what is there, and from now on. -/
  | resolveColumns (lookup : ColumnLookup)
  /-- Go on from a copy. -/
  | copy
  /-- Reset a property. -/
  | reset (property : Property)

namespace Step

/-- The statement after a step. -/
def run (statement : Statement) : Step → Except Error Statement
  | tables refs => .ok (statement.addTables refs)
  | fields refs => .ok (statement.addFields refs)
  | bind pairs => .ok (statement.bindAll pairs)
  | bindLists columns values => statement.bindLists columns values
  | replaceBindings pairs => .ok (statement.replaceBindings pairs)
  | replaceValues values => .ok (statement.replaceValues values)
  | key column value => statement.key column value
  | keys column values => statement.keys column values
  | compare column argument operator connector =>
    .ok (statement.compare column argument operator connector)
  | like negated column argument connector => .ok (statement.like negated column argument connector)
  | search columns argument modifier connector =>
    .ok (statement.search columns argument modifier connector)
  | between negated column lower upper connector =>
    .ok (statement.between negated column lower upper connector)
  | subquery column text values operator connector =>
    .ok (statement.compareSubquery column text values operator connector)
  | texts pieces values connectors => .ok (statement.addTexts pieces values connectors)
  | having column argument operator connector =>
    .ok (statement.having column argument operator connector)
  | grouping columns modifier => .ok (statement.addGrouping columns modifier)
  | order entries => .ok (statement.addOrder entries)
  | page wanted => .ok (statement.setPage wanted)
  | distinct => .ok statement.setDistinct
  | join table left operator right kind => statement.join table left operator right kind
  | addJoin added => .ok (statement.addJoin added)
  | lookup recognises => .ok (statement.withLookup recognises)
  | resolveColumns recognises => .ok (statement.resolveColumns recognises)
  | copy => .ok statement.copy
  | reset property => .ok (statement.reset property)

/-- Set one named binding. -/
def set (column : String) (value : Value) : Step := bind [(column, value)]

/-- Add a table. -/
def table (name : String) : Step := tables [⟨name, none⟩]

/-- Add a table with an alias. -/
def tableAs (name aliasName : String) : Step := tables [⟨name, some aliasName⟩]

/-- Add a column as a field. -/
def field (name : String) : Step := fields [⟨.column name, none⟩]

/-- Add a column as a field with an alias. -/
def fieldAs (name aliasName : String) : Step := fields [⟨.column name, some aliasName⟩]

/-- Compare for equality, bound by AND. -/
def equals (column : String) (argument : Argument) : Step := compare column argument .equal .and

/-- Compare for equality, bound by OR. -/
def orEquals (column : String) (argument : Argument) : Step := compare column argument .equal .or

/-- Compare by an operator, bound by AND. -/
def compareBy (operator : Operator) (column : String) (argument : Argument) : Step :=
  compare column argument operator .and

/-- Compare with the members of a list, bound by AND. -/
def inList (column : String) (values : List Value) : Step :=
  compare column (.list values) .inList .and

/-- The column is null, bound by AND. -/
def isNull (column : String) : Step := compare column .absent .isNull .and

/-- The column is not null, bound by AND. -/
def isNotNull (column : String) : Step := compare column .absent .isNotNull .and

/-- Compare a column of a group for equality, bound by AND. -/
def havingEquals (column : String) (argument : Argument) : Step :=
  having column argument .equal .and

/-- Order by a column. -/
def orderBy (column : String) (direction : Direction) : Step := order [⟨column, direction⟩]

/-- Remove the conditions on rows. -/
def resetWhere : Step := reset .whereClause

end Step

/-- A sequence of steps and nested scripts. A nest is a script that is run on the fresh child of the
statement that has been built so far. A builder which discards that child and gives back another
statement in its place is no script. -/
inductive Script where
  /-- No step. -/
  | done
  /-- A step before the rest. -/
  | step (head : Step) (rest : Script)
  /-- A group built by a script of its own on a fresh child, before the rest. -/
  | nest (inner : Script) (connector : Option Connector) (rest : Script)

/-- The statement after the steps of a script, in order. -/
def Script.run (statement : Statement) : Script → Except Error Statement
  | done => .ok statement
  | step head rest =>
    match head.run statement with
    | .ok next => rest.run next
    | .error error => .error error
  | nest inner connector rest =>
    match statement.nest inner.run connector with
    | .ok next => rest.run next
    | .error error => .error error

end Crud
