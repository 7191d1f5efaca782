import Crud.Proofs.PositionalValues

/-!
# Positional values of nests

A nest takes over the conditions on rows that its script adds to a statement of its own, and all
the positional values of that statement. Conditions on groups stay behind with the statement, but
their values come along, as do those given with pieces of text and subqueries. So the values that a
nest adds are those of the conditions of its group, merged with the others, and they are those of
the group exactly when there are no others.
-/

namespace Crud

namespace Interleaved

variable {α : Type} {first second whole : List α}

/-- Merges of two parts are a merge of the whole. -/
theorem append {first' second' whole' : List α} (before : Interleaved first second whole)
    (after : Interleaved first' second' whole') :
    Interleaved (first ++ first') (second ++ second') (whole ++ whole') := by
  induction before with
  | nil => exact after
  | left head _ ih => exact .left head ih
  | right head _ ih => exact .right head ih

/-- A merge is as long as both lists together. -/
theorem length_eq (merged : Interleaved first second whole) :
    whole.length = first.length + second.length := by
  induction merged with
  | nil => rfl
  | left head _ ih =>
    simp only [List.length_cons, ih]
    omega
  | right head _ ih =>
    simp only [List.length_cons, ih]
    omega

/-- A merge is its first list exactly when the second one adds nothing. -/
theorem eq_left_iff (merged : Interleaved first second whole) : whole = first ↔ second = [] := by
  constructor
  · intro same
    have lengths := merged.length_eq
    rw [same] at lengths
    exact List.eq_nil_of_length_eq_zero (by omega)
  · intro none
    induction merged with
    | nil => rfl
    | left head _ ih => rw [ih none]
    | right head _ _ => contradiction

end Interleaved

/-- A nest adds nothing, or one group that is not empty. -/
theorem Clause.bracketed_cases (clause : Clause) (connector : Option Connector) :
    clause.bracketed connector = .empty ∨
      ∃ body : Clause, body.isEmpty = false ∧ clause.bracketed connector = .group body .empty := by
  unfold bracketed
  split
  next => exact .inl rfl
  next some =>
    rw [Bool.not_eq_true] at some
    cases connector with
    | none => exact .inr ⟨clause, some, rfl⟩
    | some connector => exact .inr ⟨_, by rw [isEmpty_rebind, some], rfl⟩

namespace Step

/-- The step adds conditions on rows or on groups and positional values, and does nothing else. -/
def addsConditions : Step → Bool
  | compare .. | like .. | search .. | between .. | having .. | texts .. | subquery .. => true
  | _ => false

/-- The conditions on rows that the step adds. -/
def rowsAdded (lookup : Option ColumnLookup) : Step → Clause
  | texts pieces _ connectors => .ofList (Condition.ofTexts pieces connectors)
  | subquery column text _ operator connector =>
    .single
      { kind := .subquery, column, operator, operand := .subquery text, connector
        masked := false }
  | step => step.rows lookup

/-- The positional values that the step adds beside those of its conditions on rows: those of a
condition on groups, or those given with pieces of text or with a subquery. -/
def otherValues (lookup : Option ColumnLookup) : Step → List Value
  | texts _ values _ | subquery _ _ values _ _ => values
  | step => (step.groups lookup).values

end Step

namespace Script

/-- Every step of the script adds conditions, and so does every step of its nests. -/
def addsConditions : Script → Bool
  | done => true
  | step head rest => head.addsConditions && rest.addsConditions
  | nest inner _ rest => inner.addsConditions && rest.addsConditions

/-- The conditions on rows that a script of conditions adds. -/
def rowsAdded (lookup : Option ColumnLookup) : Script → Clause
  | done => .empty
  | step head rest => head.rowsAdded lookup ++ rest.rowsAdded lookup
  | nest inner connector rest =>
    (inner.rowsAdded lookup).bracketed connector ++ rest.rowsAdded lookup

/-- The positional values that the steps of the script add beside those of their conditions on rows,
the steps of its nests included. -/
def otherValues (lookup : Option ColumnLookup) : Script → List Value
  | done => []
  | step head rest => head.otherValues lookup ++ rest.otherValues lookup
  | nest inner _ rest => inner.otherValues lookup ++ rest.otherValues lookup

/-- The positional values that a script of conditions adds, in the order of its steps. -/
def addedValues (lookup : Option ColumnLookup) : Script → List Value
  | done => []
  | step head rest =>
    (head.rowsAdded lookup).values ++ head.otherValues lookup ++ rest.addedValues lookup
  | nest inner _ rest => inner.addedValues lookup ++ rest.addedValues lookup

/-- The values that a script of conditions adds are those of its conditions on rows and the
others. -/
theorem addedValues_interleaved (lookup : Option ColumnLookup) (script : Script) :
    Interleaved (script.rowsAdded lookup).values (script.otherValues lookup)
      (script.addedValues lookup) := by
  induction script with
  | done => exact .nil
  | step head rest ih =>
    rw [rowsAdded, Clause.values_append]
    have own : Interleaved (head.rowsAdded lookup).values (head.otherValues lookup)
        ((head.rowsAdded lookup).values ++ head.otherValues lookup) :=
      (Interleaved.of_left _).append_right _
    exact own.append ih
  | nest inner connector rest ihInner ihRest =>
    rw [rowsAdded, Clause.values_append, Clause.values_bracketed]
    exact ihInner.append ihRest

end Script

namespace Statement

variable (statement : Statement)

/-- Add conditions on rows, conditions on groups, and positional values. -/
def appendAll (rows groups : Clause) (values : List Value) : Statement :=
  { statement with
    whereClause := statement.whereClause ++ rows
    havingClause := statement.havingClause ++ groups
    values := statement.values ++ values }

/-- Adding nothing. -/
theorem appendAll_empty : statement.appendAll .empty .empty [] = statement := by
  simp only [appendAll, Clause.append_empty, List.append_nil]

/-- Adding twice. -/
theorem appendAll_appendAll (rows groups moreRows moreGroups : Clause)
    (values more : List Value) :
    (statement.appendAll rows groups values).appendAll moreRows moreGroups more =
      statement.appendAll (rows ++ moreRows) (groups ++ moreGroups) (values ++ more) := by
  simp only [appendAll, Clause.append_assoc, List.append_assoc]

/-- Adding conditions on rows with their values. -/
theorem appendRows_eq_appendAll (rows : Clause) :
    statement.appendRows rows = statement.appendAll rows .empty rows.values := by
  rw [appendAll, Clause.append_empty, appendRows]

/-- Adding conditions on groups with their values. -/
theorem appendGroups_eq_appendAll (groups : Clause) :
    statement.appendGroups groups = statement.appendAll .empty groups groups.values := by
  rw [appendAll, Clause.append_empty, appendGroups]

/-- A nest adds the conditions on rows of the statement that it builds in brackets, all its values,
and none of its conditions on groups. -/
theorem addGroup_appendAll (rows groups : Clause) (values : List Value)
    (connector : Option Connector) :
    statement.addGroup (statement.nested.appendAll rows groups values) connector =
      statement.appendAll (rows.bracketed connector) .empty values := by
  unfold addGroup appendAll
  rw [Clause.append_empty]
  rfl

end Statement

/-- A step of conditions adds its conditions and its values, and does nothing else. -/
theorem Step.run_eq_appendAll {step : Step} (adds : step.addsConditions = true)
    (statement : Statement) :
    step.run statement = .ok (statement.appendAll (step.rowsAdded statement.lookup)
      (step.groups statement.lookup)
      ((step.rowsAdded statement.lookup).values ++ step.otherValues statement.lookup)) := by
  cases step with
  | compare | like | search | between =>
    show _ = Except.ok (statement.appendAll _ .empty (_ ++ []))
    rw [run_eq_appendRows rfl, statement.appendRows_eq_appendAll, List.append_nil]
    rfl
  | having =>
    rw [run_eq_appendGroups rfl, statement.appendGroups_eq_appendAll]
    rfl
  | texts pieces values connectors =>
    show _ = Except.ok (statement.appendAll (.ofList _) .empty ((Clause.ofList _).values ++ values))
    rw [Condition.values_ofTexts, Statement.appendAll, Clause.append_empty]
    rfl
  | subquery column text values operator connector =>
    show Except.ok (statement.compareSubquery ..) =
      Except.ok (statement.appendAll (.single _) .empty ([] ++ values))
    rw [Statement.compareSubquery, Statement.appendAll, Clause.append_empty]
    simp only [Statement.addCondition, Operand.values, List.append_nil]
    rfl
  | _ => contradiction

namespace Script

/-- A script of conditions adds its conditions on rows, the conditions on groups of its own steps,
and the values of all its steps, and does nothing else. -/
theorem run_eq_appendAll {script : Script} (adds : script.addsConditions = true)
    (statement : Statement) :
    script.run statement = .ok (statement.appendAll (script.rowsAdded statement.lookup)
      (script.groups statement.lookup) (script.addedValues statement.lookup)) := by
  induction script generalizing statement with
  | done => exact congrArg Except.ok statement.appendAll_empty.symm
  | step head rest ih =>
    rw [Script.addsConditions, Bool.and_eq_true] at adds
    rw [run_step, Step.run_eq_appendAll adds.1, rowsAdded, groups, addedValues,
      ← statement.appendAll_appendAll]
    exact ih adds.2 _
  | nest inner connector rest ihInner ihRest =>
    rw [Script.addsConditions, Bool.and_eq_true] at adds
    have nested : statement.nest inner.run connector = .ok (statement.appendAll
        ((inner.rowsAdded statement.lookup).bracketed connector) .empty
        (inner.addedValues statement.lookup)) := by
      rw [Statement.nest, ihInner adds.1, Except.map, statement.addGroup_appendAll]
      rfl
    rw [run_nest, nested, rowsAdded, groups, addedValues, ← Clause.empty_append (rest.groups _),
      ← statement.appendAll_appendAll]
    exact ihRest adds.2 _

/-- A nest of conditions on rows and on groups, at any depth, succeeds on every statement. It adds
one group to the rows, or nothing, and the positional values of that group merged with the others of
its script: those of the conditions on groups, and those given with pieces of text and subqueries.
These are exactly the values of the group if, and only if, there are no others. Nothing else
changes. -/
theorem nest_adds_values {inner : Script} (adds : inner.addsConditions = true)
    (statement : Statement) (connector : Option Connector) :
    ∃ (finish : Statement) (group : Clause) (added : List Value),
      statement.nest inner.run connector = .ok finish ∧
      (group = .empty ∨ ∃ body : Clause, body.isEmpty = false ∧ group = .group body .empty) ∧
      finish = { statement with
        whereClause := statement.whereClause ++ group
        values := statement.values ++ added } ∧
      Interleaved group.values (inner.otherValues statement.lookup) added ∧
      (added = group.values ↔ inner.otherValues statement.lookup = []) := by
  let rows := inner.rowsAdded statement.lookup
  let added := inner.addedValues statement.lookup
  have ran : statement.nest inner.run connector =
      .ok (statement.appendAll (rows.bracketed connector) .empty added) := by
    rw [Statement.nest, run_eq_appendAll adds, Except.map, ← statement.addGroup_appendAll]
    rfl
  have finished : statement.appendAll (rows.bracketed connector) .empty added =
      { statement with
        whereClause := statement.whereClause ++ rows.bracketed connector
        values := statement.values ++ added } := by
    rw [Statement.appendAll, Clause.append_empty]
  have merged : Interleaved (rows.bracketed connector).values
      (inner.otherValues statement.lookup) added := by
    rw [Clause.values_bracketed]
    exact inner.addedValues_interleaved statement.lookup
  exact ⟨_, rows.bracketed connector, added, ran, rows.bracketed_cases connector, finished, merged,
    merged.eq_left_iff⟩

/-- A condition on a group in a nest is dropped, but its value stays among the positional values,
before those of whatever follows. -/
theorem nested_condition_leaves_value :
    ¬ ∀ (statement : Statement) (inner : Script) (connector : Option Connector),
      inner.addsConditions = true →
      ∃ (finish : Statement) (group : Clause),
        statement.nest inner.run connector = .ok finish ∧
        finish.whereClause = statement.whereClause ++ group ∧
        finish.values = statement.values ++ group.values := by
  intro fits
  obtain ⟨finish, group, ran, rows, values⟩ :=
    fits (.onTable .select "t")
      (.step (.equals "a" (.scalar (.int 1))) <|
        .step (.havingEquals "b" (.scalar (.int 2))) .done) none rfl
  obtain rfl := Except.ok.inj ran
  obtain rfl : group = _ := rows.symm
  exact absurd values (by decide)

/-- A nest with a condition on groups that has no value, a piece of text without values, and a text
that names a column. -/
def sampleFiltered : Script :=
  .step (.equals "role" (.scalar (.text "admin"))) <|
  .nest
    (.step (.having "total" (.scalar (.int 1)) .isNotNull .and) <|
      .step (.between false "age" (.int 18) (.int 65) .or) .done)
    (some .xor) <|
  .step (.texts ["active"] [] [.or]) <|
  .step (.equals "users.id" (.scalar (.text "orders.user"))) .done

/-- The sample adds the values of its group. -/
theorem sampleFiltered_adds_values :
    let statement : Statement :=
      { action := .select, values := [.null], lookup := some fun text => text == "orders.user" }
    sampleFiltered.addsConditions = true ∧ sampleFiltered.otherValues statement.lookup = [] ∧
    ∃ (finish : Statement) (group : Clause) (added : List Value),
      statement.nest sampleFiltered.run (some .or) = .ok finish ∧
      finish.whereClause = statement.whereClause ++ group ∧
      finish.values = statement.values ++ added ∧ added = group.values ∧
      finish.values = [.null, .text "admin", .int 18, .int 65] := by
  intro statement
  have adds : sampleFiltered.addsConditions = true := by decide
  have none : sampleFiltered.otherValues statement.lookup = [] := by decide
  obtain ⟨finish, group, added, ran, -, finished, -, fits⟩ :=
    nest_adds_values adds statement (some .or)
  refine ⟨adds, none, finish, group, added, ran, ?_, ?_, fits.mpr none, ?_⟩
  · rw [finished]
  · rw [finished]
  · obtain rfl := Except.ok.inj ran
    decide

end Script

end Crud
