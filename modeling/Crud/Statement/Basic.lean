import Crud.Clause
import Crud.Statement.Bindings

/-!
# Statements

A statement describes one action on rows: its tables, fields, conditions, grouping, order, page
and joins, and the values for its placeholders, positional and named. The parts are data; the
modules beside this one build them and the compiler turns them into text.
-/

namespace Crud

/-- A table with an optional alias. -/
structure TableRef where
  /-- The table. -/
  table : String
  /-- The name it goes by in the statement. -/
  aliasName : Option String := none
deriving DecidableEq, Repr

/-- What a selected field shows. -/
inductive FieldSource where
  /-- A column. -/
  | column (name : String)
  /-- A fragment, its values written as literals. -/
  | fragment (fragment : Fragment)
deriving DecidableEq, Repr

/-- A selected field with an optional alias. -/
structure FieldRef where
  /-- What is shown. -/
  source : FieldSource
  /-- The name it goes by in the result. -/
  aliasName : Option String := none
deriving DecidableEq, Repr

/-- A column by which rows are grouped. The modifier of the last one ends the grouping. -/
structure GroupEntry where
  /-- The column. -/
  column : String
  /-- Words after the columns. -/
  modifier : Option String := none
deriving DecidableEq, Repr

/-- A column by which rows are ordered. -/
structure OrderEntry where
  /-- The column. -/
  column : String
  /-- The direction. -/
  direction : Direction := .ascending
deriving DecidableEq, Repr

/-- Which of the rows are wanted. -/
structure Page where
  /-- The greatest number of rows. -/
  limit : UInt64
  /-- The number of rows passed over. -/
  offset : Option UInt64 := none
deriving DecidableEq, Repr

/-- A joined table with the conditions of the join. -/
structure Join where
  /-- The table. -/
  table : String
  /-- How it is combined with the tables before it. -/
  kind : JoinKind := .inner
  /-- The conditions, which stand in no group. -/
  conditions : List Condition := []
deriving DecidableEq, Repr

/-- A description of one action on rows. -/
structure Statement where
  /-- The action. -/
  action : Action
  /-- Repeated rows are dropped. -/
  distinct : Bool := false
  /-- The tables. -/
  tables : List TableRef := []
  /-- The selected fields; none stands for all. -/
  fields : List FieldRef := []
  /-- The conditions on rows. -/
  whereClause : Clause := .empty
  /-- The conditions on groups. -/
  havingClause : Clause := .empty
  /-- The grouping. -/
  groups : List GroupEntry := []
  /-- The order. -/
  orders : List OrderEntry := []
  /-- The page. -/
  page : Option Page := none
  /-- The joins. -/
  joins : List Join := []
  /-- The positional values. -/
  values : List Value := []
  /-- The named bindings. -/
  bindings : Bindings := .empty
  /-- Decides which texts given later name columns. -/
  lookup : Option ColumnLookup := none

/-- Names with aliases by position; a name past the last alias has none. -/
def withAliases {α : Type} (build : String → Option String → α) :
    List String → List String → List α
  | [], _ => []
  | name :: names, [] => build name none :: withAliases build names []
  | name :: names, given :: aliases => build name (some given) :: withAliases build names aliases

/-- Tables with aliases by position. -/
def TableRef.ofLists : List String → List String → List TableRef := withAliases .mk

/-- Fields with aliases by position. -/
def FieldRef.ofLists : List String → List String → List FieldRef :=
  withAliases fun name aliasName => ⟨.column name, aliasName⟩

/-- Order entries with directions by position; a column past the last direction is ascending. -/
def OrderEntry.ofLists : List String → List Direction → List OrderEntry
  | [], _ => []
  | column :: columns, [] => ⟨column, .ascending⟩ :: ofLists columns []
  | column :: columns, direction :: directions => ⟨column, direction⟩ :: ofLists columns directions

/-- Raw conditions with connectors by position; a text past the last connector is bound by AND. -/
def Condition.ofTexts : List String → List Connector → List Condition
  | [], _ => []
  | text :: texts, [] => .ofText text .and :: ofTexts texts []
  | text :: texts, connector :: connectors => .ofText text connector :: ofTexts texts connectors

/-- The join with a condition that compares two columns. -/
def Join.on (join : Join) (left : String) (operator : Operator) (right : String)
    (connector : Connector) : Join :=
  let condition : Condition :=
    { column := left, operator, operand := .column right, connector, masked := false }
  { join with conditions := join.conditions ++ [condition] }

end Crud
