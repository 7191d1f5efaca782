import Crud.Condition

/-!
# Clauses

A clause is a sequence of conditions and bracketed clauses. It is one inductive type, with one
constructor for each kind of first element and the rest of the sequence beside it, so that every
function on clauses is a plain structural recursion over nesting and length at once.
-/

namespace Crud

/-- A sequence of conditions and bracketed clauses. -/
inductive Clause where
  /-- No element. -/
  | empty
  /-- A condition before the rest. -/
  | condition (head : Condition) (rest : Clause)
  /-- A bracketed clause before the rest. -/
  | group (inner rest : Clause)
deriving DecidableEq, Repr

namespace Clause

/-- The clause has no element. -/
def isEmpty : Clause → Bool
  | empty => true
  | _ => false

/-- The elements of two clauses in order. -/
def append : Clause → Clause → Clause
  | empty, after => after
  | condition head rest, after => condition head (rest.append after)
  | group inner rest, after => group inner (rest.append after)

instance : Append Clause := ⟨append⟩

/-- The clause of one condition. -/
def single (head : Condition) : Clause := condition head empty

/-- The clause of conditions without groups. -/
def ofList (conditions : List Condition) : Clause := conditions.foldr condition empty

/-- The elements, each as a clause of its own. -/
def elements : Clause → List Clause
  | empty => []
  | condition head rest => condition head empty :: rest.elements
  | group inner rest => group inner empty :: rest.elements

/-- The conditions that stand in no group. -/
def topConditions : Clause → List Condition
  | empty => []
  | condition head rest => head :: rest.topConditions
  | group _ rest => rest.topConditions

/-- Every condition at any depth, in reading order. -/
def conditions : Clause → List Condition
  | empty => []
  | condition head rest => head :: rest.conditions
  | group inner rest => inner.conditions ++ rest.conditions

/-- The number of conditions at any depth. -/
def size : Clause → Nat
  | empty => 0
  | condition _ rest => rest.size + 1
  | group inner rest => inner.size + rest.size

/-- The positional values of the conditions at any depth, in reading order. -/
def values : Clause → List Value
  | empty => []
  | condition head rest => head.operand.values ++ rest.values
  | group inner rest => inner.values ++ rest.values

/-- The connector that binds the clause, as a group, to what follows it: that of the last
condition of its last element. An empty clause is bound by AND. -/
def lastConnector : Clause → Connector
  | empty => .and
  | condition head rest => if rest.isEmpty then head.connector else rest.lastConnector
  | group inner rest => if rest.isEmpty then inner.lastConnector else rest.lastConnector

/-- Going from the clause to its last element, and on through groups, ends in a condition. -/
def endsInCondition : Clause → Bool
  | empty => false
  | condition _ rest => if rest.isEmpty then true else rest.endsInCondition
  | group inner rest => if rest.isEmpty then inner.endsInCondition else rest.endsInCondition

/-- The clause with another connector on the condition in which it ends, if it ends in one. -/
def rebind (connector : Connector) : Clause → Clause
  | empty => empty
  | condition head rest =>
    if rest.isEmpty then condition { head with connector := connector } rest
    else condition head (rest.rebind connector)
  | group inner rest =>
    if rest.isEmpty then group (inner.rebind connector) rest
    else group inner (rest.rebind connector)

/-- The clause with every condition resolved that the lookup recognises. -/
def resolve (lookup : ColumnLookup) : Clause → Clause
  | empty => empty
  | condition head rest => condition ((head.resolved? lookup).getD head) (rest.resolve lookup)
  | group inner rest => group (inner.resolve lookup) (rest.resolve lookup)

/-- The number of conditions that `resolve` turns. -/
def resolvable (lookup : ColumnLookup) : Clause → Nat
  | empty => 0
  | condition head rest =>
    (if (head.resolved? lookup).isSome then 1 else 0) + rest.resolvable lookup
  | group inner rest => inner.resolvable lookup + rest.resolvable lookup

/-- The names of the bindings that conditions at any depth refer to. -/
def bindingNames : Clause → List String
  | empty => []
  | condition head rest => head.operand.bindingNames ++ rest.bindingNames
  | group inner rest => inner.bindingNames ++ rest.bindingNames

end Clause

end Crud
