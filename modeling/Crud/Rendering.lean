import Crud.Dialect
import Crud.Error
import Crud.Subquery

/-!
# Rendering conditions

A target is a dialect with a prefix for tables. It renders an operand, a condition and a clause.
Each element of a clause is followed by the connector that binds it to the next one; a group stands
in parentheses, and a group without text leaves no trace. A condition whose operator the dialect
neither renders nor supports is an error, except in a raw condition, whose operator is not looked
at.
-/

namespace Crud

/-- The common rendering of an operator. -/
def commonRendering (operator : Operator) (operands : Operands) : String :=
  let column := operands.column
  let value := operands.value
  let bounds := match operands.range with
    | some (lower, upper) => lower ++ " AND " ++ upper
    | none => value
  match operator with
  | .equal => column ++ " = " ++ value
  | .notEqual => column ++ " != " ++ value
  | .greater => column ++ " > " ++ value
  | .greaterOrEqual => column ++ " >= " ++ value
  | .less => column ++ " < " ++ value
  | .lessOrEqual => column ++ " <= " ++ value
  | .isTrue => column ++ " IS TRUE"
  | .isFalse => column ++ " IS FALSE"
  | .isNull => column ++ " IS NULL"
  | .isNotNull => column ++ " IS NOT NULL"
  | .inList => column ++ " IN(" ++ value ++ ")"
  | .notInList => column ++ " NOT IN(" ++ value ++ ")"
  | .inSet => "FIND_IN_SET(" ++ column ++ ", " ++ value ++ ")"
  | .regexp => column ++ " REGEXP " ++ value
  | .notRegexp => column ++ " NOT REGEXP " ++ value
  | .fullText =>
    "MATCH (" ++ column ++ ") AGAINST (" ++ value ++
      (match operands.modifier with
      | some modifier => " " ++ modifier
      | none => "") ++ ")"
  | .like => column ++ " LIKE " ++ value
  | .notLike => column ++ " NOT LIKE " ++ value
  | .compareText => "STRCMP(" ++ column ++ ", " ++ value ++ ") = 0"
  | .between => column ++ " BETWEEN " ++ bounds
  | .notBetween => column ++ " NOT BETWEEN " ++ bounds
  | .inSubquery => column ++ " IN " ++ value

/-- Texts with the connectors between them. The connector of the last one is not written. -/
def joinConnected : List (String × Connector) → String
  | [] => ""
  | [(text, _)] => text
  | (text, connector) :: next :: rest =>
    text ++ " " ++ connector.name ++ " " ++ joinConnected (next :: rest)

/-- A dialect with a prefix for tables. -/
structure Target where
  /-- The dialect. -/
  dialect : Dialect
  /-- What is put before the name of a table. -/
  tablePrefix : Option String := none

namespace Target

/-- The target with another prefix; the empty prefix is none. -/
def withPrefix (target : Target) (tablePrefix : String) : Target :=
  { target with tablePrefix := if tablePrefix = "" then none else some tablePrefix }

/-- How the target writes names. -/
def quoter (target : Target) : Quoter := ⟨target.dialect.quote, target.tablePrefix⟩

/-- A value: the placeholder, or the literal when values are not masked. -/
def value (target : Target) (masked : Bool) (value : Value) : String :=
  if masked then target.dialect.placeholder else value.literal

/-- What a condition compares its column with. An empty list is null, as no list may be empty. -/
def operand (target : Target) (masked : Bool) : Operand → String
  | .absent => ""
  | .scalar value => target.value masked value
  | .list [] => "NULL"
  | .list values => Text.join ", " (values.map (target.value masked))
  | .range lower upper => target.value masked lower ++ ", " ++ target.value masked upper
  | .fragment fragment =>
    if masked then fragment.masked target.dialect.placeholder else fragment.inline
  | .column name => target.quoter.column name
  | .named [] => "NULL"
  | .named names => Text.join ", " (names.map target.dialect.namedPlaceholder)
  | .subquery text => Subquery.write text

/-- The two bounds of an operand that has two values. -/
def bounds (target : Target) (masked : Bool) : Operand → Option (String × String)
  | .range lower upper => some (target.value masked lower, target.value masked upper)
  | .list [lower, upper] => some (target.value masked lower, target.value masked upper)
  | _ => none

/-- The parts of a condition, ready to be written. The columns of a full-text search are a plain
list, any other list of columns stands in parentheses. -/
def operands (target : Target) (condition : Condition) : Operands where
  column :=
    if condition.operator = .fullText then target.quoter.column condition.column
    else target.quoter.comparedColumn condition.column
  value := target.operand condition.masked condition.operand
  range := target.bounds condition.masked condition.operand
  modifier := condition.modifier.bind Text.trimmed?

/-- A condition. -/
def condition (target : Target) (condition : Condition) : Except Error String :=
  if condition.kind = .raw then .ok (Text.trim condition.column)
  else
    let operands := target.operands condition
    match target.dialect.render condition.operator operands with
    | some text => .ok text
    | none =>
      if target.dialect.supports condition.operator then
        .ok (commonRendering condition.operator operands)
      else .error (.unsupportedOperator condition.operator target.dialect.name)

/-- Raw text is only trimmed. -/
theorem condition_of_raw (target : Target) {condition : Condition} (raw : condition.kind = .raw) :
    target.condition condition = .ok (Text.trim condition.column) :=
  if_pos raw

/-- A condition that is not raw is a matter for its operator. -/
theorem condition_of_ne_raw (target : Target) {condition : Condition}
    (notRaw : condition.kind ≠ .raw) :
    target.condition condition =
      match target.dialect.render condition.operator (target.operands condition) with
      | some text => .ok text
      | none =>
        if target.dialect.supports condition.operator then
          .ok (commonRendering condition.operator (target.operands condition))
        else .error (.unsupportedOperator condition.operator target.dialect.name) :=
  if_neg notRaw

/-- The rendered elements of a clause with their connectors. -/
def elements (target : Target) : Clause → Except Error (List (String × Connector))
  | .empty => .ok []
  | .condition head rest => do
    let text ← target.condition head
    let more ← target.elements rest
    .ok ((text, head.connector) :: more)
  | .group inner rest => do
    let body := joinConnected (← target.elements inner)
    let more ← target.elements rest
    .ok (if body = "" then more else ("(" ++ body ++ ")", inner.lastConnector) :: more)

/-- A clause, without the keyword before it. -/
def clause (target : Target) (clause : Clause) : Except Error String :=
  (target.elements clause).map joinConnected

end Target

end Crud
