import Crud.Error
import Crud.Statement.Basic

/-!
# Building statements

The operations that add to a statement. Every condition is added together with the values of its
operand, at the end of its clause and at the end of the positional values. A nested clause is built
on a statement of its own, whose conditions become one group and whose values follow those of the
statement around it.
-/

namespace Crud.Statement

/-- Add tables. -/
def addTables (statement : Statement) (tables : List TableRef) : Statement :=
  { statement with tables := statement.tables ++ tables }

/-- A statement on one table. -/
def onTable (action : Action) (table : String) : Statement :=
  addTables { action } [⟨table, none⟩]

/-- Add fields. -/
def addFields (statement : Statement) (fields : List FieldRef) : Statement :=
  { statement with fields := statement.fields ++ fields }

/-- Set named bindings in order. -/
def bindAll (statement : Statement) (pairs : List (String × Value)) : Statement :=
  { statement with bindings := statement.bindings.bindAll pairs }

/-- Set one named binding. -/
def bind (statement : Statement) (column : String) (value : Value) : Statement :=
  statement.bindAll [(column, value)]

/-- Set named bindings from a list of columns and a list of values. -/
def bindLists (statement : Statement) (columns : List String) (values : List Value) :
    Except Error Statement :=
  if columns.length = values.length then .ok (statement.bindAll (columns.zip values))
  else .error (.mismatchedLengths columns.length values.length)

/-- Replace all named bindings by those of a map that is given as pairs. -/
def replaceBindings (statement : Statement) (pairs : List (String × Value)) : Statement :=
  { statement with bindings := Bindings.empty.bindAll (Bindings.ofPairs pairs).entries }

/-- Replace all positional values. -/
def replaceValues (statement : Statement) (values : List Value) : Statement :=
  { statement with values }

/-- Add a condition on rows with the values of its operand. -/
def addCondition (statement : Statement) (condition : Condition) : Statement :=
  { statement with
    whereClause := statement.whereClause ++ Clause.single condition
    values := statement.values ++ condition.operand.values }

/-- Add a condition on groups with the values of its operand. -/
def addHavingCondition (statement : Statement) (condition : Condition) : Statement :=
  { statement with
    havingClause := statement.havingClause ++ Clause.single condition
    values := statement.values ++ condition.operand.values }

/-- The condition that compares a column with an argument. -/
def comparison (statement : Statement) (column : String) (argument : Argument)
    (operator : Operator) (connector : Connector) : Condition :=
  { column, operator, operand := argument.operandFor statement.lookup operator, connector }

/-- Add a comparison of a column with an argument. -/
def compare (statement : Statement) (column : String) (argument : Argument)
    (operator : Operator) (connector : Connector) : Statement :=
  statement.addCondition (statement.comparison column argument operator connector)

/-- Add a comparison of a column of a group with an argument. -/
def having (statement : Statement) (column : String) (argument : Argument)
    (operator : Operator) (connector : Connector) : Statement :=
  statement.addHavingCondition (statement.comparison column argument operator connector)

/-- Add a match of a column with a pattern, or that there is none. -/
def like (statement : Statement) (negated : Bool) (column : String) (argument : Argument)
    (connector : Connector) : Statement :=
  statement.addCondition
    { kind := .like, column, operator := if negated then .notLike else .like
      operand := argument.toOperand statement.lookup, connector }

/-- Add a full-text search in columns. A list of terms is searched as one text. -/
def search (statement : Statement) (columns : List String) (argument : Argument)
    (modifier : Option String) (connector : Connector) : Statement :=
  statement.addCondition
    { kind := .fullText, column := Text.join ", " columns, operator := .fullText
      operand := argument.joinWords.toOperand statement.lookup, connector, modifier }

/-- Add that a column lies between two bounds, or that it does not. -/
def between (statement : Statement) (negated : Bool) (column : String) (lower upper : Value)
    (connector : Connector) : Statement :=
  statement.addCondition
    { kind := .between, column, operator := if negated then .notBetween else .between
      operand := .range lower upper, connector }

/-- Add a comparison with a subquery and the values of its placeholders. -/
def compareSubquery (statement : Statement) (column text : String) (values : List Value)
    (operator : Operator) (connector : Connector) : Statement :=
  let added := statement.addCondition
    { kind := .subquery, column, operator, operand := .subquery text, connector, masked := false }
  { added with values := added.values ++ values }

/-- Add pieces of text as conditions, with connectors by position and with the values of their
placeholders. -/
def addTexts (statement : Statement) (texts : List String) (values : List Value)
    (connectors : List Connector) : Statement :=
  { statement with
    whereClause := statement.whereClause ++ Clause.ofList (Condition.ofTexts texts connectors)
    values := statement.values ++ values }

/-- Address the rows of a condition by named bindings. A select statement has no keys. -/
def addKey (statement : Statement) (column : String) (operator : Operator)
    (pairs : List (String × Value)) : Except Error Statement :=
  if statement.action = .select then .error (.keyOfSelect column)
  else .ok
    { statement.addCondition
        { kind := .key, column, operator, operand := .named (pairs.map Prod.fst), masked := false }
      with bindings := statement.bindings.setAll pairs }

/-- Address one row by its key, through a binding named like the column. -/
def key (statement : Statement) (column : String) (value : Value) : Except Error Statement :=
  statement.addKey column .equal [(bindingName column, value)]

/-- Address rows by their keys, through bindings named like the column with a running number. -/
def keys (statement : Statement) (column : String) (values : List Value) :
    Except Error Statement :=
  statement.addKey column .inList <|
    values.zipIdx.map fun (value, index) => (bindingName column ++ toString index, value)

/-- The empty statement on which a nested clause is built. It recognises the same columns. -/
def nested (statement : Statement) : Statement := { action := .select, lookup := statement.lookup }

/-- Add the conditions of a statement as a group, if it has any, and its positional values. A given
connector binds the group to what follows. -/
def addGroup (statement inner : Statement) (connector : Option Connector) : Statement :=
  let body := match connector with
    | some connector => inner.whereClause.rebind connector
    | none => inner.whereClause
  { statement with
    whereClause := statement.whereClause ++
      if inner.whereClause.isEmpty then .empty else .group body .empty
    values := statement.values ++ inner.values }

/-- Add a group that is built on a statement of its own. -/
def nest {ε : Type} (statement : Statement) (build : Statement → Except ε Statement)
    (connector : Option Connector) : Except ε Statement :=
  (build statement.nested).map fun inner => statement.addGroup inner connector

/-- Add grouping by columns. -/
def addGrouping (statement : Statement) (columns : List String) (modifier : Option String) :
    Statement :=
  { statement with groups := statement.groups ++ columns.map (⟨·, modifier⟩) }

/-- Add an order. -/
def addOrder (statement : Statement) (entries : List OrderEntry) : Statement :=
  { statement with orders := statement.orders ++ entries }

/-- Set the page. -/
def setPage (statement : Statement) (page : Page) : Statement :=
  { statement with page := some page }

/-- Drop repeated rows. -/
def setDistinct (statement : Statement) : Statement := { statement with distinct := true }

/-- Add a join. -/
def addJoin (statement : Statement) (join : Join) : Statement :=
  { statement with joins := statement.joins ++ [join] }

/-- Add a join with one condition, which has to have a second column. -/
def join (statement : Statement) (table left : String) (operator : Operator)
    (right : Option String) (kind : JoinKind) : Except Error Statement :=
  match right with
  | none => .error (.missingSecondColumn table)
  | some right => .ok (statement.addJoin (Join.on { table, kind } left operator right .and))

/-- A copy to go on from: everything but the conditions on rows. -/
def copy (statement : Statement) : Statement := { statement with whereClause := .empty }

/-- Recognise columns among texts that are given from now on. -/
def withLookup (statement : Statement) (lookup : ColumnLookup) : Statement :=
  { statement with lookup := some lookup }

/-- The positional values that the two clauses account for, the conditions on rows first. -/
def clauseValues (statement : Statement) : List Value :=
  statement.whereClause.values ++ statement.havingClause.values

/-- Recognise columns among the texts that the statement has, and among those given from now on.
The texts it has are only looked at when the positional values are those of its clauses, as
otherwise it is unknown which value belongs to which condition. -/
def resolveColumns (statement : Statement) (lookup : ColumnLookup) : Statement :=
  if Value.sameList statement.clauseValues statement.values then
    let resolved := { statement with
      whereClause := statement.whereClause.resolve lookup
      havingClause := statement.havingClause.resolve lookup
      lookup := some lookup }
    if statement.whereClause.resolvable lookup + statement.havingClause.resolvable lookup = 0 then
      resolved
    else { resolved with values := resolved.clauseValues }
  else statement.withLookup lookup

end Crud.Statement
