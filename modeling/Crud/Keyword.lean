/-!
# Keywords

The closed vocabularies of a statement: its action, the operators that compare, the connectors
between conditions, the directions of an order and the kinds of a join. Each keyword has a
canonical name, which written descriptions use; some have a shorthand that is easier to type.
-/

namespace Crud

/-- What a statement does with rows. -/
inductive Action where
  /-- Read rows. -/
  | select
  /-- Add rows. -/
  | insert
  /-- Change rows. -/
  | update
  /-- Remove rows. -/
  | delete
deriving DecidableEq, Repr

namespace Action

/-- Every action. -/
def all : List Action := [select, insert, update, delete]

/-- The canonical name. -/
def name : Action → String
  | select => "select"
  | insert => "insert"
  | update => "update"
  | delete => "delete"

/-- The list of actions is complete. -/
theorem mem_all (action : Action) : action ∈ all := by cases action <;> decide

end Action

/-- How a condition compares its column with its operand. -/
inductive Operator where
  /-- Equality. -/
  | equal
  /-- Difference. -/
  | notEqual
  /-- Strictly greater. -/
  | greater
  /-- Greater or equal. -/
  | greaterOrEqual
  /-- Strictly less. -/
  | less
  /-- Less or equal. -/
  | lessOrEqual
  /-- The column is true. -/
  | isTrue
  /-- The column is false. -/
  | isFalse
  /-- The column is null. -/
  | isNull
  /-- The column is not null. -/
  | isNotNull
  /-- Membership in a list. -/
  | inList
  /-- No membership in a list. -/
  | notInList
  /-- Membership in a comma-separated text. -/
  | inSet
  /-- A match of a regular expression. -/
  | regexp
  /-- No match of a regular expression. -/
  | notRegexp
  /-- Full-text search. -/
  | fullText
  /-- A match of a pattern. -/
  | like
  /-- No match of a pattern. -/
  | notLike
  /-- Equality by comparison of texts. -/
  | compareText
  /-- Between two bounds. -/
  | between
  /-- Not between two bounds. -/
  | notBetween
  /-- Membership in the result of a subquery. -/
  | inSubquery
deriving DecidableEq, Repr

namespace Operator

/-- Every operator, in canonical order. -/
def all : List Operator :=
  [equal, notEqual, greater, greaterOrEqual, less, lessOrEqual, isTrue, isFalse, isNull, isNotNull,
    inList, notInList, inSet, regexp, notRegexp, fullText, like, notLike, compareText, between,
    notBetween, inSubquery]

/-- The canonical name. -/
def name : Operator → String
  | equal => "EQUAL"
  | notEqual => "NOT_EQUAL"
  | greater => "GREATER_THAN"
  | greaterOrEqual => "GREATER_THAN_EQUAL"
  | less => "LESSER_THAN"
  | lessOrEqual => "LESSER_THAN_EQUAL"
  | isTrue => "IS"
  | isFalse => "IS_NOT"
  | isNull => "IS_NULL"
  | isNotNull => "IS_NOT_NULL"
  | inList => "IN"
  | notInList => "NOT_IN"
  | inSet => "FIND_IN_SET"
  | regexp => "REGEXP"
  | notRegexp => "NOT_REGEXP"
  | fullText => "MATCH_AGAINST"
  | like => "LIKE"
  | notLike => "NOT_LIKE"
  | compareText => "STRCMP"
  | between => "BETWEEN"
  | notBetween => "NOT_BETWEEN"
  | inSubquery => "SUB_SELECT"

/-- The shorthand. -/
def shorthand : Operator → String
  | equal => "="
  | notEqual => "!="
  | greater => ">"
  | greaterOrEqual => ">="
  | less => "<"
  | lessOrEqual => "<="
  | isTrue => "is"
  | isFalse => "is_not"
  | isNull => "is_null"
  | isNotNull => "is_not_null"
  | inList => "in"
  | notInList => "not_in"
  | inSet => "find_in_set"
  | regexp => "regexp"
  | notRegexp => "not_regexp"
  | fullText => "match_against"
  | like => "%"
  | notLike => "!%"
  | compareText => "strcmp"
  | between => "<>"
  | notBetween => "!<>"
  | inSubquery => "sub_select"

/-- The operator asks about the column alone and never binds a value. -/
def valueless : Operator → Bool
  | isTrue | isFalse | isNull | isNotNull => true
  | _ => false

/-- The operator compares with the separate words of a text. -/
def splitsWords : Operator → Bool
  | inSet | fullText => true
  | _ => false

/-- The list of operators is complete. -/
theorem mem_all (operator : Operator) : operator ∈ all := by cases operator <;> decide

/-- Different operators have different names. -/
theorem name_injective {left right : Operator} (same : left.name = right.name) : left = right := by
  cases left <;> cases right <;> first | rfl | simp [name] at same

end Operator

/-- How a condition is bound to the one after it. -/
inductive Connector where
  /-- Both hold. -/
  | and
  /-- At least one holds. -/
  | or
  /-- Exactly one holds. -/
  | xor
deriving DecidableEq, Repr

namespace Connector

/-- Every connector. -/
def all : List Connector := [and, or, xor]

/-- The canonical name, which is also its spelling in a statement. -/
def name : Connector → String
  | and => "AND"
  | or => "OR"
  | xor => "XOR"

/-- The shorthand. -/
def shorthand : Connector → String
  | and => "&&"
  | or => "||"
  | xor => "xor"

/-- The list of connectors is complete. -/
theorem mem_all (connector : Connector) : connector ∈ all := by cases connector <;> decide

/-- Different connectors have different names. -/
theorem name_injective {left right : Connector} (same : left.name = right.name) :
    left = right := by
  cases left <;> cases right <;> first | rfl | simp [name] at same

end Connector

/-- The direction of an order. -/
inductive Direction where
  /-- Smallest first. -/
  | ascending
  /-- Greatest first. -/
  | descending
deriving DecidableEq, Repr

namespace Direction

/-- Both directions. -/
def all : List Direction := [ascending, descending]

/-- The canonical name, which is also its spelling in a statement. -/
def name : Direction → String
  | ascending => "ASC"
  | descending => "DESC"

/-- The list of directions is complete. -/
theorem mem_all (direction : Direction) : direction ∈ all := by cases direction <;> decide

end Direction

/-- How a joined table is combined with the tables before it. -/
inductive JoinKind where
  /-- Matching rows only. -/
  | inner
  /-- Every pair of rows. -/
  | cross
  /-- Matching rows, the earlier table being read first. -/
  | straight
  /-- Every row of the earlier table. -/
  | left
  /-- Every row of the earlier table, spelled out. -/
  | leftOuter
  /-- Every row of the joined table. -/
  | right
  /-- Every row of the joined table, spelled out. -/
  | rightOuter
deriving DecidableEq, Repr

namespace JoinKind

/-- Every kind, in canonical order. -/
def all : List JoinKind := [inner, cross, straight, left, leftOuter, right, rightOuter]

/-- The name without its last word. -/
def stem : JoinKind → String
  | inner => "INNER"
  | cross => "CROSS"
  | straight => "STRAIGHT"
  | left => "LEFT"
  | leftOuter => "LEFT_OUTER"
  | right => "RIGHT"
  | rightOuter => "RIGHT_OUTER"

/-- The canonical name. -/
def name (kind : JoinKind) : String := kind.stem ++ "_JOIN"

/-- The spelling in a statement. -/
def keyword : JoinKind → String
  | inner => "INNER JOIN"
  | cross => "CROSS JOIN"
  | straight => "STRAIGHT_JOIN"
  | left => "LEFT JOIN"
  | leftOuter => "LEFT OUTER JOIN"
  | right => "RIGHT JOIN"
  | rightOuter => "RIGHT OUTER JOIN"

/-- The list of kinds is complete. -/
theorem mem_all (kind : JoinKind) : kind ∈ all := by cases kind <;> decide

end JoinKind

/-- A part of a statement that can be asked for by name. -/
inductive Property where
  /-- The tables. -/
  | table
  /-- The selected fields. -/
  | field
  /-- The conditions on rows. -/
  | whereClause
  /-- The conditions on groups. -/
  | havingClause
  /-- The grouping. -/
  | group
  /-- The order. -/
  | order
  /-- The page of rows. -/
  | limit
  /-- The positional values. -/
  | values
  /-- The named bindings. -/
  | bindings
  /-- The joined tables. -/
  | join
  /-- Whether repeated rows are dropped. -/
  | distinct
  /-- The action. -/
  | action
deriving DecidableEq, Repr

namespace Property

/-- Every property, in canonical order. -/
def all : List Property :=
  [table, field, whereClause, havingClause, group, order, limit, values, bindings, join, distinct,
    action]

/-- The canonical name. -/
def name : Property → String
  | table => "table"
  | field => "field"
  | whereClause => "where"
  | havingClause => "having"
  | group => "group"
  | order => "order"
  | limit => "limit"
  | values => "values"
  | bindings => "bindings"
  | join => "join"
  | distinct => "distinct"
  | action => "action"

/-- The list of properties is complete. -/
theorem mem_all (property : Property) : property ∈ all := by cases property <;> decide

end Property

end Crud
