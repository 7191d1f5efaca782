import Crud.Proofs.Clause
import Crud.Statement.Step

/-!
# How scripts grow a statement

A comparison of rows adds conditions to the clause on rows, and their values to the positional
values; a comparison of groups does the same for the clause on groups. Neither looks at anything of
the statement but its lookup. A script of such comparisons therefore adds the same clause to every
statement with one lookup, however deep its nests are.
-/

namespace Crud

namespace Statement

/-- Add conditions on rows with the values of their operands. -/
def appendRows (statement : Statement) (rows : Clause) : Statement :=
  { statement with
    whereClause := statement.whereClause ++ rows
    values := statement.values ++ rows.values }

/-- Add conditions on groups with the values of their operands. -/
def appendGroups (statement : Statement) (groups : Clause) : Statement :=
  { statement with
    havingClause := statement.havingClause ++ groups
    values := statement.values ++ groups.values }

variable (statement : Statement)

/-- Adding one condition on rows. -/
theorem addCondition_eq (condition : Condition) :
    statement.addCondition condition = statement.appendRows (.single condition) := by
  rw [appendRows, Clause.values_single, addCondition]

/-- Adding one condition on groups. -/
theorem addHavingCondition_eq (condition : Condition) :
    statement.addHavingCondition condition = statement.appendGroups (.single condition) := by
  rw [appendGroups, Clause.values_single, addHavingCondition]

/-- Adding no condition on rows. -/
theorem appendRows_empty : statement.appendRows .empty = statement := by
  rw [appendRows, Clause.append_empty, Clause.values, List.append_nil]

/-- Adding no condition on groups. -/
theorem appendGroups_empty : statement.appendGroups .empty = statement := by
  rw [appendGroups, Clause.append_empty, Clause.values, List.append_nil]

/-- Adding conditions on rows twice. -/
theorem appendRows_appendRows (first second : Clause) :
    (statement.appendRows first).appendRows second = statement.appendRows (first ++ second) := by
  simp only [appendRows, Clause.append_assoc, Clause.values_append, List.append_assoc]

/-- Adding conditions on groups twice. -/
theorem appendGroups_appendGroups (first second : Clause) :
    (statement.appendGroups first).appendGroups second =
      statement.appendGroups (first ++ second) := by
  simp only [appendGroups, Clause.append_assoc, Clause.values_append, List.append_assoc]

end Statement

namespace Clause

/-- The clause that a nest adds: its conditions as one group, bound by the connector if one is
given, and nothing when there are no conditions. -/
def bracketed (clause : Clause) (connector : Option Connector) : Clause :=
  if clause.isEmpty then .empty
  else .group (match connector with
    | some connector => clause.rebind connector
    | none => clause) .empty

/-- Brackets add no operand and lose none. -/
theorem operands_bracketed (clause : Clause) (connector : Option Connector) :
    (clause.bracketed connector).operands = clause.operands := by
  have inside (inner : Clause) : (group inner empty).operands = inner.operands := by
    rw [operands, conditions, conditions, List.append_nil]
    rfl
  unfold bracketed
  split
  · cases clause with
    | empty => rfl
    | condition | group => contradiction
  · cases connector with
    | none => exact inside clause
    | some connector => rw [inside, operands_rebind]

/-- Brackets add no value and lose none. -/
@[simp]
theorem values_bracketed (clause : Clause) (connector : Option Connector) :
    (clause.bracketed connector).values = clause.values := by
  rw [values_eq_flatMap, operands_bracketed, ← values_eq_flatMap]

/-- No condition of the clause hides a value. -/
def HidesNoValue (clause : Clause) : Prop :=
  ∀ condition ∈ clause.conditions, condition.HidesNoValue

/-- A clause without elements hides no value. -/
theorem hidesNoValue_empty : HidesNoValue empty := fun _ listed => nomatch listed

/-- A condition that hides no value, as a clause. -/
theorem hidesNoValue_single {condition : Condition} (honest : condition.HidesNoValue) :
    (single condition).HidesNoValue := by
  simpa only [HidesNoValue, conditions_single, List.forall_mem_singleton] using honest

/-- A clause without values hides none. -/
theorem hidesNoValue_of_values_eq_nil {clause : Clause} (none : clause.values = []) :
    clause.HidesNoValue := by
  rw [values_eq_flatMap, operands, List.flatMap_map, List.flatMap_eq_nil_iff] at none
  exact fun condition listed => Condition.hidesNoValue_of_values_eq_nil (none condition listed)

/-- Two clauses that hide no value, in order. -/
theorem HidesNoValue.append {before after : Clause} (first : before.HidesNoValue)
    (second : after.HidesNoValue) : (before ++ after).HidesNoValue := by
  unfold HidesNoValue
  rw [conditions_append, List.forall_mem_append]
  exact ⟨first, second⟩

/-- Brackets hide no value. -/
theorem HidesNoValue.bracketed {clause : Clause} (honest : clause.HidesNoValue)
    (connector : Option Connector) : (clause.bracketed connector).HidesNoValue := by
  unfold Clause.bracketed
  split
  · exact hidesNoValue_empty
  · unfold HidesNoValue
    rw [conditions, conditions, List.append_nil]
    cases connector with
    | none => exact honest
    | some connector => exact forall_conditions_rebind (fun _ holds => holds) honest

end Clause

/-- Pieces of text are raw conditions. -/
theorem Condition.exists_of_mem_ofTexts {texts : List String} {connectors : List Connector}
    {condition : Condition} (listed : condition ∈ ofTexts texts connectors) :
    ∃ text connector, condition = ofText text connector := by
  induction texts generalizing connectors with
  | nil => contradiction
  | cons text texts ih =>
    cases connectors with
    | nil =>
      rcases List.mem_cons.mp listed with rfl | later
      · exact ⟨text, .and, rfl⟩
      · exact ih later
    | cons connector connectors =>
      rcases List.mem_cons.mp listed with rfl | later
      · exact ⟨text, connector, rfl⟩
      · exact ih later

/-- Pieces of text have no operands as conditions. -/
theorem Clause.operand_of_mem_ofTexts {texts : List String} {connectors : List Connector}
    {operand : Operand}
    (listed : operand ∈ (ofList (Condition.ofTexts texts connectors)).operands) :
    operand = .absent := by
  rw [operands, conditions_ofList] at listed
  obtain ⟨condition, isCondition, rfl⟩ := List.mem_map.mp listed
  obtain ⟨text, connector, rfl⟩ := Condition.exists_of_mem_ofTexts isCondition
  rfl

/-- A nest adds the bracketed conditions of the statement that it builds. -/
theorem Statement.addGroup_appendRows (statement : Statement) (rows : Clause)
    (connector : Option Connector) :
    statement.addGroup (statement.nested.appendRows rows) connector =
      statement.appendRows (rows.bracketed connector) := by
  unfold addGroup appendRows
  rw [Clause.values_bracketed]
  rfl

/-- The step compares a column of rows with an argument or with bounds. -/
def Step.comparesRows : Step → Bool
  | compare .. | like .. | search .. | between .. => true
  | _ => false

/-- The step compares a column of groups with an argument. -/
def Step.comparesGroups : Step → Bool
  | having .. => true
  | _ => false

/-- Every step of the script compares rows, and so does every nest in it. -/
def Script.comparesRows : Script → Bool
  | done => true
  | step head rest => head.comparesRows && rest.comparesRows
  | nest inner _ rest => inner.comparesRows && rest.comparesRows

/-- Every step of the script compares groups, and there is no nest. -/
def Script.comparesGroups : Script → Bool
  | done => true
  | step head rest => head.comparesGroups && rest.comparesGroups
  | nest .. => false

/-- A comparison by an operator hides no value, as an operator that asks about the column alone
drops its argument. -/
theorem Statement.comparison_hidesNoValue (statement : Statement) (column : String)
    (argument : Argument) (operator : Operator) (connector : Connector) :
    (statement.comparison column argument operator connector).HidesNoValue := by
  intro hidden
  have valueless : operator.valueless = true := by
    simpa [Condition.showsOperand, comparison] using hidden
  rw [comparison, Argument.operandFor, if_pos valueless, Operand.values]

namespace Step

/-- The conditions on rows that a comparison adds. They depend on the lookup only. -/
def rows (lookup : Option ColumnLookup) : Step → Clause
  | compare column argument operator connector =>
    .single { column, operator, operand := argument.operandFor lookup operator, connector }
  | like negated column argument connector =>
    .single
      { kind := .like, column, operator := if negated then .notLike else .like
        operand := argument.toOperand lookup, connector }
  | search columns argument modifier connector =>
    .single
      { kind := .fullText, column := Text.join ", " columns, operator := .fullText
        operand := argument.joinWords.toOperand lookup, connector, modifier }
  | between negated column lower upper connector =>
    .single
      { kind := .between, column, operator := if negated then .notBetween else .between
        operand := .range lower upper, connector }
  | _ => .empty

/-- The conditions on groups that a comparison adds. They depend on the lookup only. -/
def groups (lookup : Option ColumnLookup) : Step → Clause
  | having column argument operator connector =>
    .single { column, operator, operand := argument.operandFor lookup operator, connector }
  | _ => .empty

/-- The conditions that a step adds on rows hide no value. -/
theorem rows_hidesNoValue (lookup : Option ColumnLookup) (step : Step) :
    (step.rows lookup).HidesNoValue := by
  cases step with
  | compare column argument operator connector =>
    let statement : Statement := { action := .select, lookup }
    have honest := statement.comparison_hidesNoValue column argument operator connector
    exact Clause.hidesNoValue_single honest
  | like negated =>
    apply Clause.hidesNoValue_single
    apply Condition.hidesNoValue_of_showsOperand
    cases negated <;> rfl
  | search =>
    apply Clause.hidesNoValue_single
    exact Condition.hidesNoValue_of_showsOperand rfl
  | between negated =>
    apply Clause.hidesNoValue_single
    apply Condition.hidesNoValue_of_showsOperand
    cases negated <;> rfl
  | _ => exact Clause.hidesNoValue_empty

/-- The conditions that a step adds on groups hide no value. -/
theorem groups_hidesNoValue (lookup : Option ColumnLookup) (step : Step) :
    (step.groups lookup).HidesNoValue := by
  cases step with
  | having column argument operator connector =>
    let statement : Statement := { action := .select, lookup }
    have honest := statement.comparison_hidesNoValue column argument operator connector
    exact Clause.hidesNoValue_single honest
  | _ => exact Clause.hidesNoValue_empty

/-- A step that compares rows adds its conditions to them, and does nothing else. -/
theorem run_eq_appendRows {step : Step} (compares : step.comparesRows = true)
    (statement : Statement) :
    step.run statement = .ok (statement.appendRows (step.rows statement.lookup)) := by
  cases step with
  | compare | like | search | between =>
    rw [rows, ← Statement.addCondition_eq]
    rfl
  | _ => contradiction

/-- A step that compares groups adds its conditions to them, and does nothing else. -/
theorem run_eq_appendGroups {step : Step} (compares : step.comparesGroups = true)
    (statement : Statement) :
    step.run statement = .ok (statement.appendGroups (step.groups statement.lookup)) := by
  cases step with
  | having =>
    rw [groups, ← Statement.addHavingCondition_eq]
    rfl
  | _ => contradiction

end Step

namespace Script

/-- The conditions on rows that a script of comparisons adds. -/
def rows (lookup : Option ColumnLookup) : Script → Clause
  | done => .empty
  | step head rest => head.rows lookup ++ rest.rows lookup
  | nest inner connector rest => (inner.rows lookup).bracketed connector ++ rest.rows lookup

/-- The conditions on groups that a script of comparisons adds. -/
def groups (lookup : Option ColumnLookup) : Script → Clause
  | done => .empty
  | step head rest => head.groups lookup ++ rest.groups lookup
  | nest _ _ rest => rest.groups lookup

/-- The conditions that a script adds on rows hide no value. -/
theorem rows_hidesNoValue (lookup : Option ColumnLookup) (script : Script) :
    (script.rows lookup).HidesNoValue := by
  induction script with
  | done => exact Clause.hidesNoValue_empty
  | step head rest ih => exact (head.rows_hidesNoValue lookup).append ih
  | nest inner connector rest ihInner ihRest => exact (ihInner.bracketed connector).append ihRest

/-- A step before a script. -/
theorem run_step (statement : Statement) (head : Step) (rest : Script) :
    (step head rest).run statement = head.run statement >>= rest.run := by
  rw [run]
  cases head.run statement <;> rfl

/-- A nest before a script. -/
theorem run_nest (statement : Statement) (inner rest : Script) (connector : Option Connector) :
    (nest inner connector rest).run statement =
      statement.nest inner.run connector >>= rest.run := by
  rw [run]
  cases statement.nest inner.run connector <;> rfl

/-- A step before a script succeeds when both do, one after the other. -/
theorem run_step_eq_ok {head : Step} {rest : Script} {start finish : Statement} :
    (step head rest).run start = .ok finish ↔
      ∃ middle, head.run start = .ok middle ∧ rest.run middle = .ok finish := by
  rw [run]
  cases head.run start <;> simp

/-- A nest before a script succeeds when both do, one after the other. -/
theorem run_nest_eq_ok {inner rest : Script} {connector : Option Connector}
    {start finish : Statement} :
    (nest inner connector rest).run start = .ok finish ↔
      ∃ middle, start.nest inner.run connector = .ok middle ∧ rest.run middle = .ok finish := by
  rw [run]
  cases start.nest inner.run connector <;> simp

/-- A nest adds in brackets what its script adds to the statement of the nest. -/
theorem nest_eq_appendRows {inner : Script} {statement : Statement} {body : Clause}
    (ran : inner.run statement.nested = .ok (statement.nested.appendRows body))
    (connector : Option Connector) :
    statement.nest inner.run connector = .ok (statement.appendRows (body.bracketed connector)) := by
  rw [Statement.nest, ran, Except.map, statement.addGroup_appendRows]

/-- A script that compares rows adds its conditions to them, and does nothing else. -/
theorem run_eq_appendRows {script : Script} (compares : script.comparesRows = true)
    (statement : Statement) :
    script.run statement = .ok (statement.appendRows (script.rows statement.lookup)) := by
  induction script generalizing statement with
  | done => rw [run, rows, statement.appendRows_empty]
  | step head rest ih =>
    rw [comparesRows, Bool.and_eq_true] at compares
    rw [run_step, Step.run_eq_appendRows compares.1, rows, ← statement.appendRows_appendRows]
    exact ih compares.2 _
  | nest inner connector rest ihInner ihRest =>
    rw [comparesRows, Bool.and_eq_true] at compares
    have body := ihInner compares.1 statement.nested
    rw [run_nest, nest_eq_appendRows body, rows, ← statement.appendRows_appendRows]
    exact ihRest compares.2 _

/-- A script that compares groups adds its conditions to them, and does nothing else. -/
theorem run_eq_appendGroups {script : Script} (compares : script.comparesGroups = true)
    (statement : Statement) :
    script.run statement = .ok (statement.appendGroups (script.groups statement.lookup)) := by
  induction script generalizing statement with
  | done => rw [run, groups, statement.appendGroups_empty]
  | step head rest ih =>
    rw [comparesGroups, Bool.and_eq_true] at compares
    rw [run_step, Step.run_eq_appendGroups compares.1, groups,
      ← statement.appendGroups_appendGroups]
    exact ih compares.2 _
  | nest inner connector rest => exact absurd compares (by simp [comparesGroups])

/-- A script that compares rows succeeds on every statement and adds a clause to its rows, which
depends on the lookup only. -/
theorem exists_appendRows {script : Script} (rows : script.comparesRows = true) :
    ∃ added : Option ColumnLookup → Clause, (∀ lookup, (added lookup).HidesNoValue) ∧
      ∀ statement : Statement,
        script.run statement = .ok (statement.appendRows (added statement.lookup)) :=
  ⟨script.rows, script.rows_hidesNoValue, run_eq_appendRows rows⟩

/-- A script that compares groups succeeds on every statement and adds a clause to its groups,
which depends on the lookup only. -/
theorem exists_appendGroups {script : Script} (groups : script.comparesGroups = true) :
    ∃ added : Option ColumnLookup → Clause, ∀ statement : Statement,
      script.run statement = .ok (statement.appendGroups (added statement.lookup)) :=
  ⟨script.groups, run_eq_appendGroups groups⟩

end Script

end Crud
