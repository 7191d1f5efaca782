import Crud.Rendering

/-!
# Queries on one table

Short statements about one table that need no description: an aggregate of a column, the number of
rows, emptying, dropping and describing the table.
-/

namespace Crud

/-- A function over the values of a column. -/
inductive Aggregate where
  /-- The greatest value. -/
  | max
  /-- The smallest value. -/
  | min
  /-- The mean value. -/
  | avg
  /-- The sum of the values. -/
  | sum
deriving DecidableEq, Repr

namespace Aggregate

/-- Every aggregate. -/
def all : List Aggregate := [max, min, avg, sum]

/-- The name of the function. -/
def function : Aggregate → String
  | max => "MAX"
  | min => "MIN"
  | avg => "AVG"
  | sum => "SUM"

/-- The name of the result. -/
def resultName : Aggregate → String
  | max => "max"
  | min => "min"
  | avg => "avg"
  | sum => "sum"

/-- The name in messages. -/
def title : Aggregate → String
  | max => "Max"
  | min => "Min"
  | avg => "Avg"
  | sum => "Sum"

end Aggregate

/-- A query on one table. -/
inductive TableQuery where
  /-- The aggregate of a column. -/
  | aggregate (aggregate : Aggregate)
  /-- The number of rows. -/
  | size
  /-- Empty the table. -/
  | truncate
  /-- Drop the table. -/
  | drop
  /-- Describe the table. -/
  | describe
deriving DecidableEq, Repr

namespace TableQuery

/-- Every query. -/
def all : List TableQuery := Aggregate.all.map aggregate ++ [size, truncate, drop, describe]

/-- The name by which a query is asked for. -/
def name : TableQuery → String
  | aggregate function => function.resultName
  | size => "size"
  | truncate => "truncate"
  | drop => "drop"
  | describe => "show"

end TableQuery

namespace Target

/-- The aggregate of a column of a table. -/
def aggregate (target : Target) (aggregate : Aggregate) (table column : String) : String :=
  "SELECT " ++ aggregate.function ++ "(" ++ target.quoter.column column ++ ") AS " ++
    aggregate.resultName ++ " FROM " ++ target.quoter.table table

/-- The number of rows of a table. -/
def size (target : Target) (table : String) : String :=
  "SELECT COUNT(*) AS count FROM " ++ target.quoter.table table

/-- Empty a table. -/
def truncate (target : Target) (table : String) : String :=
  target.dialect.truncate (target.quoter.table table)

/-- Drop a table. -/
def drop (target : Target) (table : String) : String := "DROP TABLE " ++ target.quoter.table table

/-- Describe a table, by its bare name after the prefix. -/
def describe (target : Target) (table : String) : String :=
  target.dialect.describe (target.tablePrefix.getD "" ++ Text.trim table)

/-- A query on a table, and on a column if the query asks for one. -/
def tableQuery (target : Target) (table : String) (column : Option String) :
    TableQuery → Except Aggregate String
  | .aggregate function =>
    match column with
    | some column => .ok (target.aggregate function table column)
    | none => .error function
  | .size => .ok (target.size table)
  | .truncate => .ok (target.truncate table)
  | .drop => .ok (target.drop table)
  | .describe => .ok (target.describe table)

end Target

end Crud
