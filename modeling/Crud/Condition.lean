import Crud.Fragment
import Crud.Keyword
import Crud.Text.Blank

/-!
# Conditions

A condition compares a column with an operand and says how it is bound to the condition after it.
Its operand decides which values it adds to the positional values of the statement. An `Argument`
is what a caller compares a column with; a lookup can recognise a text argument as the name of a
column, which then becomes an operand without a value.
-/

namespace Crud

/-- What a condition was made for. -/
inductive ConditionKind where
  /-- Comparing a column; also the conditions of a join. -/
  | plain
  /-- Addressing rows by key through named bindings. -/
  | key
  /-- Matching a pattern. -/
  | like
  /-- Searching text. -/
  | fullText
  /-- Lying between two bounds. -/
  | between
  /-- Comparing with a subquery. -/
  | subquery
  /-- A piece of text that is taken as it stands. -/
  | raw
deriving DecidableEq, Repr

/-- Every kind of condition. -/
def ConditionKind.all : List ConditionKind :=
  [plain, key, like, fullText, between, subquery, raw]

/-- The name of a kind in written descriptions. -/
def ConditionKind.name : ConditionKind → String
  | plain => "where"
  | key => "key"
  | like => "like"
  | fullText => "match"
  | between => "between"
  | subquery => "subselect"
  | raw => "raw"

/-- What a condition compares its column with. -/
inductive Operand where
  /-- Nothing. -/
  | absent
  /-- One value. -/
  | scalar (value : Value)
  /-- Several values, a placeholder for each. -/
  | list (values : List Value)
  /-- A lower and an upper bound, a placeholder for each. -/
  | range (lower upper : Value)
  /-- A fragment, a placeholder for each of its markers. -/
  | fragment (fragment : Fragment)
  /-- Another column. -/
  | column (name : String)
  /-- Named bindings. -/
  | named (names : List String)
  /-- The text of a subquery. -/
  | subquery (text : String)
deriving DecidableEq, Repr

/-- The values that an operand adds to the positional values of a statement. -/
def Operand.values : Operand → List Value
  | scalar value => [value]
  | list values => values
  | range lower upper => [lower, upper]
  | fragment part => part.values
  | absent | column _ | named _ | subquery _ => []

/-- The names of the bindings that an operand refers to. -/
def Operand.bindingNames : Operand → List String
  | named names => names
  | absent | scalar _ | list _ | range _ _ | fragment _ | column _ | subquery _ => []

/-- A comparison of a column with an operand. -/
structure Condition where
  /-- What the condition was made for. -/
  kind : ConditionKind := .plain
  /-- The column, or the whole text of a raw condition. -/
  column : String
  /-- The comparison. -/
  operator : Operator := .equal
  /-- What the column is compared with. -/
  operand : Operand := .absent
  /-- How the condition is bound to the one after it. -/
  connector : Connector := .and
  /-- Placeholders stand for the values. -/
  masked : Bool := true
  /-- Words after the operand of a full-text search. -/
  modifier : Option String := none
deriving DecidableEq, Repr

/-- A piece of text as a condition. -/
def Condition.ofText (text : String) (connector : Connector) : Condition :=
  { kind := .raw, column := text, connector := connector, masked := false }

/-- Decides which texts name columns. -/
abbrev ColumnLookup := String → Bool

/-- What a caller compares a column with. -/
inductive Argument where
  /-- Nothing. -/
  | absent
  /-- One value. -/
  | scalar (value : Value)
  /-- Several values. -/
  | list (values : List Value)
  /-- A fragment. -/
  | fragment (fragment : Fragment)
deriving DecidableEq, Repr

namespace Argument

/-- The words of a text value, and any other value by itself. -/
def wordsOfValue : Value → List Value
  | .text text => (Text.words text).map .text
  | value => [value]

/-- The argument with its texts split into words. -/
def splitWords : Argument → Argument
  | scalar value => list (wordsOfValue value)
  | list values => list (values.flatMap wordsOfValue)
  | argument => argument

/-- The argument with a list joined into one text, a space between its values. -/
def joinWords : Argument → Argument
  | list values => scalar (.text (Text.join " " (values.map Value.plain)))
  | argument => argument

/-- The operand of an argument. A text that the lookup recognises becomes a column. -/
def toOperand (lookup : Option ColumnLookup) : Argument → Operand
  | absent => .absent
  | scalar (.text text) =>
    if lookup.any (· text) then .column text else .scalar (.text text)
  | scalar value => .scalar value
  | list values => .list values
  | fragment part => .fragment part

/-- The operand of an argument for an operator: nothing for a valueless operator, and separate
words for an operator that compares with them. -/
def operandFor (lookup : Option ColumnLookup) (operator : Operator) (argument : Argument) :
    Operand :=
  if operator.valueless then .absent
  else if operator.splitsWords then argument.splitWords.toOperand lookup
  else argument.toOperand lookup

end Argument

/-- The condition with its operand turned into a column, when it is a masked text that the lookup
recognises. Raw text, keys and subqueries are left alone. -/
def Condition.resolved? (lookup : ColumnLookup) (condition : Condition) : Option Condition :=
  if condition.masked = false ∨ condition.kind = .raw ∨ condition.kind = .key ∨
      condition.kind = .subquery then none
  else match condition.operand with
    | .scalar (.text text) =>
      if lookup text then some { condition with operand := .column text } else none
    | _ => none

end Crud
