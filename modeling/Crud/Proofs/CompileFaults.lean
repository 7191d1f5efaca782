import Crud.Compiler
import Crud.Proofs.Clause

/-!
# Faults of a statement

What is wrong with a statement for a target can be listed without rendering anything: a missing
table or binding, a join that the dialect does not have, and every condition whose operator it can
not write. Compiling reports the first fault of the list and succeeds exactly when there is none,
so the order of the list is the precedence of the errors.
-/

namespace Crud

/-- The computation fails with the first of the faults, and succeeds when there is none. -/
def Reports {ε α : Type} (faults : List ε) (outcome : Except ε α) : Prop :=
  match faults with
  | [] => ∃ value, outcome = .ok value
  | first :: _ => outcome = .error first

namespace Reports

variable {ε α β : Type} {faults more : List ε} {outcome : Except ε α}

/-- A value has no faults. -/
theorem ok (value : α) : Reports [] (.ok value : Except ε α) := ⟨value, rfl⟩

/-- The faults of a computation come before those of what follows it. -/
theorem bind {next : α → Except ε β} (before : Reports faults outcome)
    (after : ∀ value, Reports more (next value)) : Reports (faults ++ more) (outcome >>= next) := by
  cases faults with
  | nil =>
    obtain ⟨value, rfl⟩ := before
    exact after value
  | cons first rest =>
    obtain rfl : outcome = .error first := before
    exact rfl

/-- Going on without failing adds no fault. -/
theorem bind_ok (next : α → β) (before : Reports faults outcome) :
    Reports faults (outcome >>= fun value => .ok (next value)) := by
  rw [← List.append_nil faults]
  exact before.bind fun value => .ok (next value)

/-- A function of the value adds no fault. -/
theorem map (next : α → β) (before : Reports faults outcome) :
    Reports faults (outcome.map next) := by
  cases faults with
  | nil =>
    obtain ⟨value, rfl⟩ := before
    exact ⟨next value, rfl⟩
  | cons first rest =>
    obtain rfl : outcome = .error first := before
    exact rfl

/-- A computation behind a check has the fault of the check before its own. -/
theorem guard (bad : Prop) [Decidable bad] (error : ε) (after : Reports more outcome) :
    Reports ((if bad then [error] else []) ++ more) (if bad then .error error else outcome) := by
  by_cases fails : bad
  · rw [if_pos fails, if_pos fails]
    exact rfl
  · rw [if_neg fails, if_neg fails]
    exact after

/-- The error is the first of the faults. -/
theorem eq_error_iff (reports : Reports faults outcome) (error : ε) :
    outcome = .error error ↔ faults.head? = some error := by
  cases faults with
  | nil =>
    obtain ⟨value, rfl⟩ := reports
    simp
  | cons first rest =>
    obtain rfl : outcome = .error first := reports
    simp

/-- There is a value exactly without faults. -/
theorem exists_ok_iff (reports : Reports faults outcome) :
    (∃ value, outcome = .ok value) ↔ faults = [] := by
  cases faults with
  | nil => exact iff_of_true reports rfl
  | cons first rest =>
    obtain rfl : outcome = .error first := reports
    simp

end Reports

namespace Target

variable (target : Target)

/-- The dialect can not write the operator of the condition: it neither renders it nor supports it.
The operator of raw text is not looked at. -/
def offends (condition : Condition) : Bool :=
  condition.kind != .raw &&
    (target.dialect.render condition.operator (target.operands condition)).isNone &&
    !target.dialect.supports condition.operator

/-- The faults of conditions, in order. -/
def conditionFaults (conditions : List Condition) : List Error :=
  (conditions.filter target.offends).map fun condition =>
    .unsupportedOperator condition.operator target.dialect.name

/-- The faults of a join: its kind, then its conditions. -/
def joinFaults (join : Join) : List Error :=
  (if target.dialect.supportsJoin join.kind = false then
    [.unsupportedJoin join.kind.name target.dialect.name] else []) ++
  target.conditionFaults join.conditions

/-- The faults of a statement under an action, in the order in which they are noticed. Conditions at
any depth count, in reading order; the parts that the action does not use have no faults. -/
def faults (action : Action) (statement : Statement) : List Error :=
  (if statement.tables = [] then [.missingTable action] else []) ++
  match action with
  | .select =>
    statement.joins.flatMap target.joinFaults ++
      (target.conditionFaults statement.whereClause.conditions ++
        target.conditionFaults statement.havingClause.conditions)
  | .insert => if statement.bindings.names = [] then [.missingBindings .insert] else []
  | .update =>
    (if ∀ name ∈ statement.bindings.names, name ∈ addressingNames statement.whereClause then
      [.missingBindings .update] else []) ++
    target.conditionFaults statement.whereClause.conditions
  | .delete => target.conditionFaults statement.whereClause.conditions

/-- The faults of conditions come in the order of the conditions. -/
theorem conditionFaults_append (before after : List Condition) :
    target.conditionFaults (before ++ after) =
      target.conditionFaults before ++ target.conditionFaults after := by
  rw [conditionFaults, List.filter_append, List.map_append]
  rfl

/-- A condition fails exactly if the dialect can not write its operator. -/
theorem condition_reports (condition : Condition) :
    Reports (target.conditionFaults [condition]) (target.condition condition) := by
  have passing (passes : target.offends condition = false) :
      target.conditionFaults [condition] = [] := by
    simp [conditionFaults, passes]
  by_cases raw : condition.kind = .raw
  · rw [passing (by simp [offends, raw]), target.condition_of_raw raw]
    exact .ok _
  · rw [target.condition_of_ne_raw raw]
    cases own : target.dialect.render condition.operator (target.operands condition) with
    | some text =>
      rw [passing (by simp [offends, own])]
      exact .ok text
    | none =>
      cases known : target.dialect.supports condition.operator with
      | true =>
        rw [passing (by simp [offends, known])]
        exact .ok _
      | false =>
        have fails : target.offends condition = true := by simp [offends, raw, own, known]
        simp only [conditionFaults, fails, List.filter_cons_of_pos, List.map_cons]
        exact rfl

/-- The elements of a clause are rendered in reading order, groups from the inside. -/
theorem elements_report (clause : Clause) :
    Reports (target.conditionFaults clause.conditions) (target.elements clause) := by
  induction clause with
  | empty => exact .ok []
  | condition head rest ih =>
    have split : target.conditionFaults (Clause.condition head rest).conditions =
        target.conditionFaults [head] ++ target.conditionFaults rest.conditions := by
      rw [← conditionFaults_append]
      rfl
    rw [split]
    exact (target.condition_reports head).bind fun text => ih.bind_ok _
  | group inner rest ihInner ihRest =>
    rw [Clause.conditions, conditionFaults_append]
    exact ihInner.bind fun body => ihRest.bind_ok _

/-- A clause reports the faults of all its conditions. -/
theorem clause_reports (clause : Clause) :
    Reports (target.conditionFaults clause.conditions) (target.clause clause) :=
  (target.elements_report clause).map joinConnected

/-- A clause behind its keyword reports the faults of all its conditions. -/
theorem keywordClause_reports (keyword : String) (clause : Clause) :
    Reports (target.conditionFaults clause.conditions) (target.keywordClause keyword clause) :=
  (target.clause_reports clause).bind_ok _

/-- A join reports its kind before its conditions. -/
theorem join_reports (join : Join) : Reports (target.joinFaults join) (target.join join) := by
  have conditions : Reports (target.conditionFaults join.conditions)
      (target.clause (Clause.ofList join.conditions)) := by
    have reports := target.clause_reports (Clause.ofList join.conditions)
    rwa [Clause.conditions_ofList] at reports
  unfold Target.join joinFaults
  cases known : target.dialect.supportsJoin join.kind with
  | false => exact rfl
  | true =>
    cases none : join.conditions with
    | nil => exact .ok _
    | cons first rest =>
      rw [none] at conditions
      exact conditions.bind_ok _

/-- Joins report their faults in order. -/
theorem joins_report (joins : List Join) :
    Reports (joins.flatMap target.joinFaults) (target.joins joins) := by
  induction joins with
  | nil => exact .ok []
  | cons first rest ih =>
    rw [List.flatMap_cons]
    exact (target.join_reports first).bind fun text => ih.bind_ok _

/-- The check for tables reports that there are none. -/
theorem requireTables_reports (action : Action) (statement : Statement) :
    Reports (if statement.tables = [] then [.missingTable action] else [])
      (requireTables action statement) := by
  unfold requireTables
  cases statement.tables with
  | nil => exact rfl
  | cons first rest => exact .ok _

/-- Nothing is assigned when every binding is excluded. -/
theorem assignments_isEmpty_iff (excluded : List String) (bindings : Bindings) :
    (target.assignments excluded bindings).isEmpty = true ↔
      ∀ name ∈ bindings.names, name ∈ excluded := by
  simp [assignments]

/-- Assembling a statement reports the faults of the statement. -/
theorem assemble_reports (action : Action) (statement : Statement) :
    Reports (target.faults action statement) (target.assemble action statement) := by
  have rows := target.keywordClause_reports "WHERE" statement.whereClause
  have tables := requireTables_reports action statement
  cases action with
  | select =>
    refine tables.bind fun found => (target.joins_report statement.joins).bind fun joins => ?_
    refine rows.bind fun text => ?_
    exact (target.keywordClause_reports "HAVING" statement.havingClause).bind_ok _
  | insert =>
    refine tables.bind fun found => ?_
    have bare : (target.assignments [] statement.bindings).isEmpty = true ↔
        statement.bindings.names = [] := by
      rw [assignments_isEmpty_iff, List.eq_nil_iff_forall_not_mem]
      simp only [List.not_mem_nil]
    have reports := Reports.guard (statement.bindings.names = [])
      (Error.missingBindings .insert) (.ok (target.dialect.insert (target.firstTable found)
        (target.assignments [] statement.bindings)))
    rw [List.append_nil] at reports
    simpa only [bare] using reports
  | update =>
    refine tables.bind fun found => ?_
    simp only [assignments_isEmpty_iff]
    exact Reports.guard _ _ (rows.bind_ok _)
  | delete => exact tables.bind fun found => rows.bind_ok _

/-- Compiling fails exactly when the statement has a fault, and its error is the first fault: no
table, then the joins in order, each with its kind before its conditions, then the conditions on
rows and at last those on groups; or no table, then no binding to assign, then the conditions on
rows. Otherwise it succeeds. -/
theorem compile_reports_first_fault (statement : Statement) :
    (∀ error, target.compile statement = .error error ↔
      (target.faults statement.action statement).head? = some error) ∧
    ((∃ text, target.compile statement = .ok text) ↔
      target.faults statement.action statement = []) := by
  have reports := target.assemble_reports statement.action statement
  exact ⟨fun error => reports.eq_error_iff error, reports.exists_ok_iff⟩

/-- A dialect without regular expressions fails on one inside a group, before the clause on groups
is looked at, and does not mind the unused operator of raw text. -/
example :
    let dialect : Dialect :=
      { name := "plain", supports := fun operator => operator != .regexp && operator != .less }
    let statement : Statement :=
      { action := .select
        tables := [⟨"t", none⟩]
        whereClause :=
          .condition { kind := .raw, column := "a", operator := .less } <|
          .group (.single { column := "b", operator := .regexp, operand := .column "c" }) .empty
        havingClause := .single { column := "d", operator := .less } }
    Target.compile ⟨dialect, none⟩ statement = .error (.unsupportedOperator .regexp "plain") := by
  rfl

end Target

end Crud
