import Crud.Compiler
import Crud.Proofs.PositionalValues

/-!
# Rows and groups are independent

Comparisons of rows and comparisons of groups go to different clauses, and the text of a statement
has a fixed place for each. Exchanging them changes nothing in the text. The positional values keep
the order of the calls, so they do change places: they fit the placeholders of the text when the
comparisons of rows come first, and otherwise only if their order makes no difference.
-/

namespace Crud

/-- The positional values are no part of the text. -/
theorem Target.compile_replaceValues (target : Target) (statement : Statement)
    (values : List Value) :
    target.compile (statement.replaceValues values) = target.compile statement := by
  unfold compile
  show target.assemble statement.action _ = _
  cases statement.action <;> rfl

namespace Statement

variable (statement : Statement) (rows groups : Clause)

/-- Conditions on groups leave room for conditions on rows: only the positional values tell which
came first. -/
theorem appendRows_appendGroups :
    (statement.appendGroups groups).appendRows rows =
      ((statement.appendRows rows).appendGroups groups).replaceValues
        (statement.values ++ groups.values ++ rows.values) := rfl

end Statement

namespace Script

/-- Comparisons of rows and comparisons of groups can be exchanged. Both orders succeed and give the
same text under every target. The positional values of each order are those of the statement, then
those of the first script, then those of the second; the two lists are equal exactly if it makes no
difference which of the two scripts' values come first. The list of the order with rows first fits
the clauses, if that of the statement did and its groups had no value. -/
theorem exchange_rows_groups {rows groups : Script} (ofRows : rows.comparesRows = true)
    (ofGroups : groups.comparesGroups = true) (statement : Statement) :
    ∃ (rowsFirst groupsFirst : Statement) (rowValues groupValues : List Value),
      (rows.run statement >>= groups.run) = .ok rowsFirst ∧
      (groups.run statement >>= rows.run) = .ok groupsFirst ∧
      (∀ target : Target, target.compile rowsFirst = target.compile groupsFirst) ∧
      rowsFirst.whereClause.values = statement.whereClause.values ++ rowValues ∧
      rowsFirst.havingClause.values = statement.havingClause.values ++ groupValues ∧
      rowsFirst.values = statement.values ++ rowValues ++ groupValues ∧
      groupsFirst.values = statement.values ++ groupValues ++ rowValues ∧
      (rowsFirst.values = groupsFirst.values ↔
        rowValues ++ groupValues = groupValues ++ rowValues) ∧
      (statement.InClauseOrder → statement.havingClause.values = [] →
        rowsFirst.InClauseOrder) := by
  obtain ⟨addedRows, honest, ranRows⟩ := exists_appendRows ofRows
  obtain ⟨addedGroups, ranGroups⟩ := exists_appendGroups ofGroups
  let newRows := addedRows statement.lookup
  let newGroups := addedGroups statement.lookup
  let rowsFirst := (statement.appendRows newRows).appendGroups newGroups
  let groupsFirst := (statement.appendGroups newGroups).appendRows newRows
  -- Neither script changes the lookup, so each adds the same clause before and after the other.
  have first : (rows.run statement >>= groups.run) = .ok rowsFirst := by
    rw [ranRows]
    exact ranGroups (statement.appendRows newRows)
  have second : (groups.run statement >>= rows.run) = .ok groupsFirst := by
    rw [ranGroups]
    exact ranRows (statement.appendGroups newGroups)
  have sameText (target : Target) : target.compile rowsFirst = target.compile groupsFirst := by
    have exchanged : groupsFirst = rowsFirst.replaceValues _ :=
      statement.appendRows_appendGroups newRows newGroups
    rw [exchanged, target.compile_replaceValues]
  have inRows : rowsFirst.whereClause.values = statement.whereClause.values ++ newRows.values :=
    Clause.values_append _ _
  have inGroups :
      rowsFirst.havingClause.values = statement.havingClause.values ++ newGroups.values :=
    Clause.values_append _ _
  have sameValues : rowsFirst.values = groupsFirst.values ↔
      newRows.values ++ newGroups.values = newGroups.values ++ newRows.values := by
    change statement.values ++ newRows.values ++ newGroups.values =
      statement.values ++ newGroups.values ++ newRows.values ↔ _
    rw [List.append_assoc, List.append_assoc, List.append_cancel_left_eq]
  have ordered (before : statement.InClauseOrder) (none : statement.havingClause.values = []) :
      rowsFirst.InClauseOrder := by
    have grown := statement.grownByRows_appendRows (honest statement.lookup)
    exact (before.grownByRows none grown).appendGroups newGroups
  exact ⟨rowsFirst, groupsFirst, newRows.values, newGroups.values, first, second, sameText, inRows,
    inGroups, rfl, rfl, sameValues, ordered⟩

/-- Values that are exchanged change places when they differ: a statement that compares a group
before a row has its values in another order than its placeholders. -/
theorem exchange_moves_values :
    ¬ ∀ (statement : Statement) (rows groups : Script), statement.action = .select →
      rows.comparesRows = true → groups.comparesGroups = true →
      ∃ rowsFirst groupsFirst : Statement,
        (rows.run statement >>= groups.run) = .ok rowsFirst ∧
        (groups.run statement >>= rows.run) = .ok groupsFirst ∧
        (∀ target : Target, target.dialect ∈ Dialect.shipped →
          target.compile rowsFirst = target.compile groupsFirst) ∧
        rowsFirst.values = groupsFirst.values := by
  intro independent
  obtain ⟨rowsFirst, groupsFirst, first, second, -, same⟩ :=
    independent (.onTable .select "t") (.step (.equals "a" (.scalar (.int 1))) .done)
      (.step (.havingEquals "b" (.scalar (.int 2))) .done) rfl rfl rfl
  cases first
  cases second
  exact absurd same (by decide)

/-- A nest of comparisons and a comparison of a group that binds no value are exchanged without a
trace. -/
theorem exchange_valueless_groups :
    let rows : Script := .nest (.step (.equals "a" (.scalar (.int 1))) <|
      .step (.like true "b" (.scalar (.text "x%")) .or) .done) (some .xor) .done
    let groups : Script := .step (.having "c" .absent .isNull .and) .done
    rows.comparesRows = true ∧ groups.comparesGroups = true ∧
    ∃ rowsFirst groupsFirst : Statement,
      (rows.run (.onTable .select "t") >>= groups.run) = .ok rowsFirst ∧
      (groups.run (.onTable .select "t") >>= rows.run) = .ok groupsFirst ∧
      (∀ target : Target, target.compile rowsFirst = target.compile groupsFirst) ∧
      rowsFirst.values = groupsFirst.values := by
  intro rows groups
  obtain ⟨rowsFirst, groupsFirst, rowValues, groupValues, first, second, sameText, -, added, -, -,
    sameValues, -⟩ := exchange_rows_groups (show rows.comparesRows = true by decide)
      (show groups.comparesGroups = true by decide) (.onTable .select "t")
  refine ⟨by decide, by decide, rowsFirst, groupsFirst, first, second, sameText,
    sameValues.mpr ?_⟩
  cases first
  obtain rfl : groupValues = [] := added.symm
  rw [List.append_nil, List.nil_append]

end Script

end Crud
