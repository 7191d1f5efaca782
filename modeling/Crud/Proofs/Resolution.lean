import Crud.Proofs.PositionalValues

/-!
# Resolved clauses and statements

A lookup that is attached to a statement turns every text that it recognises into a column, and the
positional values are computed anew. Resolving goes through clauses condition by condition, so it
commutes with everything that puts clauses together, and the resolved statement grows by resolved
conditions.
-/

namespace Crud

/-- The operand, or a column if it is a text that the lookup recognises. -/
def Operand.resolve (lookup : ColumnLookup) : Operand → Operand
  | scalar (.text text) => if lookup text then column text else scalar (.text text)
  | operand => operand

/-- The operand of the condition may be taken for a column. -/
def Condition.mayResolve (condition : Condition) : Bool :=
  condition.masked && condition.kind != .raw && condition.kind != .key &&
    condition.kind != .subquery

/-- The condition with its operand resolved, if it may be. -/
def Condition.resolve (lookup : ColumnLookup) (condition : Condition) : Condition :=
  { condition with
    operand :=
      if condition.mayResolve then condition.operand.resolve lookup else condition.operand }

namespace Argument

/-- The values that a caller gives with an argument. -/
def values : Argument → List Value
  | absent => []
  | scalar value => [value]
  | list values => values
  | fragment part => part.values

/-- With a lookup, an argument becomes the resolved operand. -/
theorem toOperand_resolve (lookup : ColumnLookup) (argument : Argument) :
    argument.toOperand (some lookup) = (argument.toOperand none).resolve lookup := by
  cases argument with
  | scalar value => cases value <;> rfl
  | _ => rfl

/-- With a lookup, an argument under an operator becomes the resolved operand. -/
theorem operandFor_resolve (lookup : ColumnLookup) (operator : Operator) (argument : Argument) :
    argument.operandFor (some lookup) operator =
      (argument.operandFor none operator).resolve lookup := by
  unfold operandFor
  split
  · rfl
  · split
    · exact toOperand_resolve lookup _
    · exact toOperand_resolve lookup _

end Argument

/-- The value is a floating-point number that is not a number. -/
def Value.isNan : Value → Bool
  | real value => value.isNan
  | _ => false

/-- A value that is no NaN is the same as itself. -/
theorem Value.same_self {value : Value} (number : value.isNan = false) :
    value.same value = true := by
  cases value with
  | real value =>
    rw [same, Double.same_self, Bool.not_eq_true']
    exact number
  | _ => exact beq_self_eq_true _

/-- Values without a NaN are the same as themselves. -/
theorem Value.sameList_self {values : List Value}
    (numbers : ∀ value ∈ values, value.isNan = false) : sameList values values = true := by
  induction values with
  | nil => rfl
  | cons head rest ih =>
    rw [List.forall_mem_cons] at numbers
    rw [sameList, same_self numbers.1, ih numbers.2]
    rfl

namespace Condition

variable (lookup : ColumnLookup) (condition : Condition)

/-- What becomes of a condition when its clause is resolved. -/
theorem resolved?_getD : (condition.resolved? lookup).getD condition =
    condition.resolve lookup := by
  unfold resolved? resolve
  by_cases barred : condition.masked = false ∨ condition.kind = .raw ∨ condition.kind = .key ∨
      condition.kind = .subquery
  · have may : condition.mayResolve = false := by
      rcases barred with barred | barred | barred | barred <;> simp [mayResolve, barred]
    rw [if_pos barred, may]
    rfl
  · have may : condition.mayResolve = true := by
      simp only [not_or, Bool.not_eq_false] at barred
      simp [mayResolve, barred]
    rw [if_neg barred, may, if_pos rfl]
    match found : condition.operand with
    | .scalar (.text text) =>
      simp only [Operand.resolve]
      split
      · rfl
      · exact congrArg (fun operand => { condition with operand }) found
    | .scalar .null | .scalar (.bool _) | .scalar (.int _) | .scalar (.real _)
    | .scalar (.bytes _) | .absent | .list _ | .range _ _ | .fragment _ | .column _ | .named _
    | .subquery _ => exact congrArg (fun operand => { condition with operand }) found

variable {condition}

/-- A condition that may not be resolved stays as it is. -/
theorem resolve_of_not_mayResolve (barred : condition.mayResolve = false) :
    condition.resolve lookup = condition := by
  rw [resolve, barred]
  rfl

end Condition

/-- Resolving an operand loses its values or leaves it as it is. -/
theorem Operand.values_resolve_eq_nil (lookup : ColumnLookup) {operand : Operand}
    (none : operand.values = []) : (operand.resolve lookup).values = [] := by
  unfold resolve
  split
  · cases none
  · exact none

namespace Clause

variable (lookup : ColumnLookup)

/-- A condition in front of a clause is resolved with it. -/
theorem resolve_condition (head : Condition) (rest : Clause) :
    (condition head rest).resolve lookup =
      condition (head.resolve lookup) (rest.resolve lookup) := by
  rw [resolve, Condition.resolved?_getD]

/-- A clause of one condition is resolved to that of the resolved one. -/
theorem resolve_single (head : Condition) :
    (single head).resolve lookup = single (head.resolve lookup) :=
  resolve_condition lookup head empty

/-- Clauses are resolved one behind the other. -/
theorem resolve_append (before after : Clause) :
    (before ++ after).resolve lookup = before.resolve lookup ++ after.resolve lookup := by
  induction before with
  | empty => rfl
  | condition head rest ih => exact congrArg (condition _) ih
  | group inner rest _ ih => exact congrArg (group _) ih

/-- Resolving adds no element and removes none. -/
theorem isEmpty_resolve (clause : Clause) : (clause.resolve lookup).isEmpty = clause.isEmpty := by
  cases clause <;> rfl

/-- Whether an operand may be resolved does not depend on the connector. -/
theorem resolve_rebind (connector : Connector) (clause : Clause) :
    (clause.rebind connector).resolve lookup = (clause.resolve lookup).rebind connector := by
  induction clause with
  | empty => rfl
  | condition head rest ih =>
    rw [resolve_condition, rebind, rebind, isEmpty_resolve]
    split
    · rw [resolve_condition]
      rfl
    · rw [resolve_condition, ih]
  | group inner rest ihInner ihRest =>
    rw [resolve, rebind, rebind, isEmpty_resolve]
    split
    · rw [resolve, ihInner]
    · rw [resolve, ihRest]

/-- A bracketed clause is resolved in its brackets. -/
theorem resolve_bracketed (clause : Clause) (connector : Option Connector) :
    (clause.bracketed connector).resolve lookup =
      (clause.resolve lookup).bracketed connector := by
  unfold bracketed
  rw [isEmpty_resolve]
  split
  · rfl
  · cases connector with
    | none => rfl
    | some connector => exact congrArg (group · empty) (resolve_rebind lookup connector clause)

/-- Resolving adds no value. -/
theorem values_resolve_eq_nil {clause : Clause} (none : clause.values = []) :
    (clause.resolve lookup).values = [] := by
  induction clause with
  | empty => rfl
  | condition head rest ih =>
    rw [values, List.append_eq_nil_iff] at none
    rw [resolve_condition, values, ih none.2, List.append_nil, Condition.resolve]
    show (if _ then _ else _ : Operand).values = []
    split
    · exact Operand.values_resolve_eq_nil lookup none.1
    · exact none.1
  | group inner rest ihInner ihRest =>
    rw [values, List.append_eq_nil_iff] at none
    rw [resolve, values, ihInner none.1, ihRest none.2]
    rfl

/-- A clause of which nothing is resolved stays as it is. -/
theorem resolve_of_resolvable_eq_zero {clause : Clause} (nothing : clause.resolvable lookup = 0) :
    clause.resolve lookup = clause := by
  induction clause with
  | empty => rfl
  | condition head rest ih =>
    rw [resolvable, Nat.add_eq_zero_iff] at nothing
    cases found : head.resolved? lookup with
    | none => rw [resolve, found, ih nothing.2, Option.getD_none]
    | some resolved => simp [found] at nothing
  | group inner rest ihInner ihRest =>
    rw [resolvable, Nat.add_eq_zero_iff] at nothing
    rw [resolve, ihInner nothing.1, ihRest nothing.2]

end Clause

namespace Statement

/-- The statement as it would be if its lookup had been attached from the start and its values came
in the order of its clauses. -/
def lookedUp (lookup : ColumnLookup) (statement : Statement) : Statement :=
  let resolved := { statement with
    whereClause := statement.whereClause.resolve lookup
    havingClause := statement.havingClause.resolve lookup
    lookup := some lookup }
  { resolved with values := resolved.clauseValues }

variable (lookup : ColumnLookup) (statement : Statement)

/-- Conditions on rows can be added before or after, unless values of groups would stand between
them and the values before. -/
theorem lookedUp_appendRows {rows : Clause}
    (order : statement.havingClause.values = [] ∨ rows.values = []) :
    (statement.appendRows rows).lookedUp lookup =
      (statement.lookedUp lookup).appendRows (rows.resolve lookup) := by
  have sameValues : (statement.whereClause.resolve lookup ++ rows.resolve lookup).values ++
      (statement.havingClause.resolve lookup).values =
      (statement.whereClause.resolve lookup).values ++
        (statement.havingClause.resolve lookup).values ++ (rows.resolve lookup).values := by
    rw [Clause.values_append]
    rcases order with none | none
    · rw [Clause.values_resolve_eq_nil lookup none, List.append_nil, List.append_nil]
    · rw [Clause.values_resolve_eq_nil lookup none, List.append_nil, List.append_nil]
  simp only [lookedUp, appendRows, clauseValues, Clause.resolve_append]
  rw [sameValues]

/-- Conditions on groups can be added before the lookup is attached, or the resolved ones after it.
-/
theorem lookedUp_appendGroups (groups : Clause) :
    (statement.appendGroups groups).lookedUp lookup =
      (statement.lookedUp lookup).appendGroups (groups.resolve lookup) := by
  simp only [lookedUp, appendGroups, clauseValues, Clause.resolve_append, Clause.values_append,
    List.append_assoc]

variable {statement}

/-- Resolving a statement whose values are in the order of its clauses. All of them are numerically
equal to themselves, or the order would not be recognised. -/
theorem resolveColumns_eq_lookedUp (ordered : statement.InClauseOrder)
    (numbers : ∀ value ∈ statement.values, value.isNan = false) :
    statement.resolveColumns lookup = statement.lookedUp lookup := by
  unfold InClauseOrder at ordered
  have equal : Value.sameList statement.clauseValues statement.values = true := by
    rw [← ordered]
    exact Value.sameList_self numbers
  rw [resolveColumns, if_pos equal]
  split
  next nothing =>
    -- The values are not computed anew, but neither clause has changed.
    rw [Nat.add_eq_zero_iff] at nothing
    have sameRows := Clause.resolve_of_resolvable_eq_zero lookup nothing.1
    have sameGroups := Clause.resolve_of_resolvable_eq_zero lookup nothing.2
    simp only [lookedUp, clauseValues, sameRows, sameGroups]
    rw [ordered]
    rfl
  next => rfl

end Statement

end Crud
