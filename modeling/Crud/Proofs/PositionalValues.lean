import Crud.Proofs.Growth

/-!
# Positional values of reachable statements

Every step that is accounted for adds the same values to the positional values of a statement as
the new conditions have, at the end of both. The positional values of any statement that such steps
build from an empty one are therefore a merge of the values of its two clauses, and they are these
values one after the other when no condition on rows comes after a condition on groups.
-/

namespace Crud

/-- The third list is made of the first two: each keeps its order, and nothing is lost, repeated or
added. -/
inductive Interleaved {α : Type} : List α → List α → List α → Prop where
  /-- Nothing is made of nothing. -/
  | nil : Interleaved [] [] []
  /-- The next element comes from the first list. -/
  | left (head : α) {first second whole : List α} (rest : Interleaved first second whole) :
      Interleaved (head :: first) second (head :: whole)
  /-- The next element comes from the second list. -/
  | right (head : α) {first second whole : List α} (rest : Interleaved first second whole) :
      Interleaved first (head :: second) (head :: whole)

namespace Interleaved

variable {α : Type} {first second whole : List α}

/-- The first list alone. -/
theorem of_left (elements : List α) : Interleaved elements [] elements := by
  induction elements with
  | nil => exact .nil
  | cons head _ ih => exact .left head ih

/-- The second list alone. -/
theorem of_right (elements : List α) : Interleaved [] elements elements := by
  induction elements with
  | nil => exact .nil
  | cons head _ ih => exact .right head ih

/-- More elements at the end of the first list. -/
theorem append_left (merged : Interleaved first second whole) (more : List α) :
    Interleaved (first ++ more) second (whole ++ more) := by
  induction merged with
  | nil => exact of_left more
  | left head _ ih => exact .left head ih
  | right head _ ih => exact .right head ih

/-- More elements at the end of the second list. -/
theorem append_right (merged : Interleaved first second whole) (more : List α) :
    Interleaved first (second ++ more) (whole ++ more) := by
  induction merged with
  | nil => exact of_right more
  | left head _ ih => exact .left head ih
  | right head _ ih => exact .right head ih

end Interleaved

/-- The step adds no positional value of its own and takes none away: every value that it adds is
one of a condition. -/
def Step.accounted : Step → Bool
  | subquery _ _ values _ _ => values.isEmpty
  | texts _ values _ => values.isEmpty
  | replaceValues _ | resolveColumns _ | copy | reset _ => false
  | _ => true

/-- The step adds conditions on rows. -/
def Step.addsRows : Step → Bool
  | compare .. | like .. | search .. | between .. => true
  | subquery .. | texts .. | key .. | keys .. => true
  | _ => false

namespace Script

/-- Every step of the script is accounted for, and every nest compares rows. -/
def accounted : Script → Bool
  | done => true
  | step head rest => head.accounted && rest.accounted
  | nest inner _ rest => inner.comparesRows && rest.accounted

/-- No step adds conditions on rows, and there is no nest. -/
def leavesRows : Script → Bool
  | done => true
  | step head rest => !head.addsRows && rest.leavesRows
  | nest .. => false

/-- After a comparison of groups, no condition on rows is added. -/
def rowsFirst : Script → Bool
  | done => true
  | step head rest => if head.comparesGroups then rest.leavesRows else rest.rowsFirst
  | nest _ _ rest => rest.rowsFirst

end Script

namespace Statement

/-- The second statement is the first one with the conditions and their values added to its rows;
its groups are the same, and nothing is said of anything else. -/
structure GrownByRows (start finish : Statement) (rows : Clause) : Prop where
  /-- The new conditions on rows come last. -/
  whereClause : finish.whereClause = start.whereClause ++ rows
  /-- The conditions on groups are the same. -/
  havingClause : finish.havingClause = start.havingClause
  /-- The new values come last. -/
  values : finish.values = start.values ++ rows.values
  /-- The new conditions hide no value. -/
  honest : rows.HidesNoValue

variable {start finish : Statement}

/-- Adding conditions on rows with their values. -/
theorem grownByRows_appendRows (start : Statement) {rows : Clause} (honest : rows.HidesNoValue) :
    GrownByRows start (start.appendRows rows) rows :=
  ⟨rfl, rfl, rfl, honest⟩

/-- Adding conditions on rows that have no values. -/
theorem GrownByRows.of_valueless {rows : Clause} (none : rows.values = [])
    (whereClause : finish.whereClause = start.whereClause ++ rows)
    (havingClause : finish.havingClause = start.havingClause)
    (values : finish.values = start.values) : GrownByRows start finish rows where
  whereClause := whereClause
  havingClause := havingClause
  values := by rw [values, none, List.append_nil]
  honest := Clause.hidesNoValue_of_values_eq_nil none

/-- Adding no condition. -/
theorem GrownByRows.of_untouched (whereClause : finish.whereClause = start.whereClause)
    (havingClause : finish.havingClause = start.havingClause)
    (values : finish.values = start.values) : GrownByRows start finish .empty :=
  .of_valueless rfl (by rw [whereClause, Clause.append_empty]) havingClause values

/-- Addressing rows by keys adds a condition without values. -/
theorem addKey_grownByRows {column : String} {operator : Operator} {pairs : List (String × Value)}
    (ran : start.addKey column operator pairs = .ok finish) :
    ∃ rows, GrownByRows start finish rows := by
  unfold addKey at ran
  split at ran
  · cases ran
  · cases ran
    exact ⟨_, .of_valueless rfl rfl rfl (List.append_nil _)⟩

end Statement

/-- Pieces of text have no values as conditions. -/
theorem Condition.values_ofTexts (texts : List String) (connectors : List Connector) :
    (Clause.ofList (Condition.ofTexts texts connectors)).values = [] := by
  rw [Clause.values_eq_flatMap, List.flatMap_eq_nil_iff]
  intro operand listed
  rw [Clause.operand_of_mem_ofTexts listed]
  rfl

/-- What a step that is accounted for does to the clauses and the positional values, unless it
compares groups: it adds conditions on rows, or nothing. -/
theorem Step.grownByRows {step : Step} {start finish : Statement}
    (accounted : step.accounted = true) (rows : step.comparesGroups = false)
    (ran : step.run start = .ok finish) :
    ∃ rows, Statement.GrownByRows start finish rows ∧ (step.addsRows = false → rows = .empty) := by
  by_cases comparison : step.comparesRows = true
  · rw [Step.run_eq_appendRows comparison] at ran
    cases ran
    have adds : step.addsRows = true := by cases step <;> first | rfl | contradiction
    have grown := start.grownByRows_appendRows (step.rows_hidesNoValue start.lookup)
    exact ⟨_, grown, fun none => absurd (adds.symm.trans none) (by decide)⟩
  cases step with
  | compare | like | search | between => exact absurd rfl comparison
  | having | replaceValues | resolveColumns | copy | reset => contradiction
  | subquery column text values operator connector =>
    obtain rfl := List.isEmpty_iff.mp accounted
    cases ran
    -- The step appends the values of the operand and those of the subquery, and there are none.
    have sameValues : start.values ++ [] ++ [] = start.values := by
      rw [List.append_nil, List.append_nil]
    exact ⟨_, .of_valueless rfl rfl rfl sameValues, nofun⟩
  | texts pieces values connectors =>
    obtain rfl := List.isEmpty_iff.mp accounted
    cases ran
    exact ⟨_, .of_valueless (Condition.values_ofTexts pieces connectors) rfl rfl
      (List.append_nil _), nofun⟩
  | key column value =>
    obtain ⟨added, grown⟩ := Statement.addKey_grownByRows ran
    exact ⟨added, grown, nofun⟩
  | keys column values =>
    obtain ⟨added, grown⟩ := Statement.addKey_grownByRows ran
    exact ⟨added, grown, nofun⟩
  | bindLists columns values =>
    simp only [run, Statement.bindLists] at ran
    split at ran
    · cases ran
      exact ⟨_, .of_untouched rfl rfl rfl, fun _ => rfl⟩
    · cases ran
  | join table left operator right kind =>
    cases right with
    | none => cases ran
    | some right =>
      cases ran
      exact ⟨_, .of_untouched rfl rfl rfl, fun _ => rfl⟩
  | _ =>
    cases ran
    exact ⟨_, .of_untouched rfl rfl rfl, fun _ => rfl⟩

/-- What a nest that compares rows does: it adds conditions on rows. -/
theorem Script.nest_grownByRows {inner : Script} {connector : Option Connector}
    {start finish : Statement} (rows : inner.comparesRows = true)
    (ran : start.nest inner.run connector = .ok finish) :
    ∃ rows, Statement.GrownByRows start finish rows := by
  have added := Script.run_eq_appendRows rows start.nested
  rw [Script.nest_eq_appendRows added] at ran
  cases ran
  have honest := inner.rows_hidesNoValue start.nested.lookup
  exact ⟨_, start.grownByRows_appendRows (honest.bracketed connector)⟩

namespace Statement

/-- The positional values are a merge of those of the two clauses, and no condition hides one. -/
structure Accounted (statement : Statement) : Prop where
  /-- Every positional value is one of a condition, in the order of its clause. -/
  merged : Interleaved statement.whereClause.values statement.havingClause.values statement.values
  /-- No condition on rows hides a value. -/
  rows : statement.whereClause.HidesNoValue
  /-- No condition on groups hides a value. -/
  groups : statement.havingClause.HidesNoValue

/-- An empty statement is accounted for. -/
theorem accounted_empty (action : Action) : Accounted { action } :=
  ⟨.nil, Clause.hidesNoValue_empty, Clause.hidesNoValue_empty⟩

variable {start finish : Statement}

/-- Conditions on rows keep a statement accounted for. -/
theorem Accounted.grownByRows {rows : Clause} (before : start.Accounted)
    (grown : GrownByRows start finish rows) : finish.Accounted where
  merged := by
    rw [grown.whereClause, grown.havingClause, grown.values, Clause.values_append]
    exact before.merged.append_left rows.values
  rows := by
    rw [grown.whereClause]
    exact before.rows.append grown.honest
  groups := by
    rw [grown.havingClause]
    exact before.groups

/-- Conditions on groups keep a statement accounted for. -/
theorem Accounted.appendGroups {groups : Clause} (before : start.Accounted)
    (honest : groups.HidesNoValue) : (start.appendGroups groups).Accounted where
  merged := by
    rw [Statement.appendGroups, Clause.values_append]
    exact before.merged.append_right groups.values
  rows := before.rows
  groups := before.groups.append honest

/-- The positional values are those of the conditions on rows, then those of the conditions on
groups. -/
def InClauseOrder (statement : Statement) : Prop := statement.values = statement.clauseValues

/-- Conditions on rows keep the order, if no condition on groups has a value. -/
theorem InClauseOrder.grownByRows {rows : Clause} (before : start.InClauseOrder)
    (none : start.havingClause.values = []) (grown : GrownByRows start finish rows) :
    finish.InClauseOrder := by
  unfold InClauseOrder clauseValues at *
  rw [grown.whereClause, grown.havingClause, grown.values, Clause.values_append, before, none,
    List.append_nil, List.append_nil]

/-- A statement that does not grow keeps the order. -/
theorem InClauseOrder.of_grownByNone (before : start.InClauseOrder)
    (grown : GrownByRows start finish .empty) : finish.InClauseOrder := by
  unfold InClauseOrder clauseValues at *
  rw [grown.whereClause, grown.havingClause, grown.values, Clause.append_empty, Clause.values,
    List.append_nil, before]

/-- Conditions on groups keep the order. -/
theorem InClauseOrder.appendGroups (before : start.InClauseOrder) (groups : Clause) :
    (start.appendGroups groups).InClauseOrder := by
  unfold InClauseOrder clauseValues at *
  rw [Statement.appendGroups, Clause.values_append, before, List.append_assoc]

end Statement

/-- A step that is accounted for keeps a statement accounted for. -/
theorem Step.run_accounted {step : Step} {start finish : Statement}
    (accounted : step.accounted = true) (before : start.Accounted)
    (ran : step.run start = .ok finish) : finish.Accounted := by
  cases groups : step.comparesGroups with
  | false =>
    obtain ⟨rows, grown, -⟩ := Step.grownByRows accounted groups ran
    exact before.grownByRows grown
  | true =>
    rw [Step.run_eq_appendGroups groups] at ran
    cases ran
    exact before.appendGroups (step.groups_hidesNoValue start.lookup)

/-- A script that is accounted for keeps a statement accounted for. -/
theorem Script.run_accounted {script : Script} {start finish : Statement}
    (accounted : script.accounted = true) (before : start.Accounted)
    (ran : script.run start = .ok finish) : finish.Accounted := by
  induction script generalizing start with
  | done =>
    cases ran
    exact before
  | step head rest ih =>
    rw [Script.accounted, Bool.and_eq_true] at accounted
    obtain ⟨middle, first, others⟩ := Script.run_step_eq_ok.mp ran
    exact ih accounted.2 (Step.run_accounted accounted.1 before first) others
  | nest inner connector rest _ ih =>
    rw [Script.accounted, Bool.and_eq_true] at accounted
    obtain ⟨middle, first, others⟩ := Script.run_nest_eq_ok.mp ran
    obtain ⟨rows, grown⟩ := Script.nest_grownByRows accounted.1 first
    exact ih accounted.2 (before.grownByRows grown) others

namespace Script

/-- What the script adds comes in the order of the clauses: no condition on groups has a value yet
and the script adds the conditions on rows first, or it adds no condition on rows. -/
def KeepsOrder (script : Script) (statement : Statement) : Prop :=
  script.rowsFirst = true ∧ statement.havingClause.values = [] ∨ script.leavesRows = true

variable {start middle finish : Statement}

/-- A step keeps the positional values in the order of the clauses, and so does what follows it. -/
theorem KeepsOrder.of_step {head : Step} {rest : Script} (keeps : (step head rest).KeepsOrder start)
    (accounted : head.accounted = true) (before : start.InClauseOrder)
    (ran : head.run start = .ok middle) : middle.InClauseOrder ∧ rest.KeepsOrder middle := by
  cases groups : head.comparesGroups with
  | true =>
    rw [Step.run_eq_appendGroups groups] at ran
    cases ran
    -- Groups have values from here on, so the rest has to leave the rows alone.
    have leavesRest : rest.leavesRows = true := by
      obtain ⟨rowsFirst, -⟩ | leaves := keeps
      · simpa only [Script.rowsFirst, groups, ↓reduceIte] using rowsFirst
      · rw [leavesRows, Bool.and_eq_true] at leaves
        exact leaves.2
    exact ⟨before.appendGroups _, .inr leavesRest⟩
  | false =>
    obtain ⟨rows, grown, nothing⟩ := Step.grownByRows accounted groups ran
    obtain ⟨rowsFirst, none⟩ | leaves := keeps
    · have restRowsFirst : rest.rowsFirst = true := by
        simpa only [Script.rowsFirst, groups, Bool.false_eq_true, ↓reduceIte] using rowsFirst
      have stillNone : middle.havingClause.values = [] := by rw [grown.havingClause, none]
      exact ⟨before.grownByRows none grown, .inl ⟨restRowsFirst, stillNone⟩⟩
    · rw [leavesRows, Bool.and_eq_true, Bool.not_eq_true'] at leaves
      obtain rfl := nothing leaves.1
      exact ⟨before.of_grownByNone grown, .inr leaves.2⟩

/-- A nest keeps the positional values in the order of the clauses, and so does what follows it. -/
theorem KeepsOrder.of_nest {inner rest : Script} {connector : Option Connector}
    (keeps : (nest inner connector rest).KeepsOrder start) (rows : inner.comparesRows = true)
    (before : start.InClauseOrder) (ran : start.nest inner.run connector = .ok middle) :
    middle.InClauseOrder ∧ rest.KeepsOrder middle := by
  obtain ⟨added, grown⟩ := nest_grownByRows rows ran
  obtain ⟨rowsFirst, none⟩ | leaves := keeps
  · have stillNone : middle.havingClause.values = [] := by rw [grown.havingClause, none]
    exact ⟨before.grownByRows none grown, .inl ⟨rowsFirst, stillNone⟩⟩
  · rw [leavesRows] at leaves
    contradiction

/-- A script that is accounted for keeps the positional values in the order of the clauses, when
what it adds comes in that order. -/
theorem run_inClauseOrder {script : Script} (accounted : script.accounted = true)
    (before : start.InClauseOrder) (keeps : script.KeepsOrder start)
    (ran : script.run start = .ok finish) : finish.InClauseOrder := by
  induction script generalizing start with
  | done =>
    cases ran
    exact before
  | step head rest ih =>
    rw [Script.accounted, Bool.and_eq_true] at accounted
    obtain ⟨middle, first, others⟩ := run_step_eq_ok.mp ran
    obtain ⟨ordered, keepsRest⟩ := keeps.of_step accounted.1 before first
    exact ih accounted.2 ordered keepsRest others
  | nest inner connector rest _ ih =>
    rw [Script.accounted, Bool.and_eq_true] at accounted
    obtain ⟨middle, first, others⟩ := run_nest_eq_ok.mp ran
    obtain ⟨ordered, keepsRest⟩ := keeps.of_nest accounted.1 before first
    exact ih accounted.2 ordered keepsRest others

end Script

/-- Every statement that a script of accounted steps builds from an empty one has the positional
values of its two clauses, merged; they are in the order of the clauses when no condition on rows
is added after one on groups; and no raw text and no operator that asks about the column alone has
a value. -/
theorem Script.values_interleaved {action : Action} {script : Script} {statement : Statement}
    (accounted : script.accounted = true) (ran : script.run { action } = .ok statement) :
    Interleaved statement.whereClause.values statement.havingClause.values statement.values ∧
    (script.rowsFirst = true →
      statement.values = statement.whereClause.values ++ statement.havingClause.values) ∧
    ∀ condition ∈ statement.whereClause.conditions ++ statement.havingClause.conditions,
      condition.kind = .raw ∨ condition.operator.valueless = true →
        condition.operand.values = [] := by
  have after := Script.run_accounted accounted (Statement.accounted_empty action) ran
  refine ⟨after.merged, fun rowsFirst => ?_, fun condition listed bare => ?_⟩
  · have before : Statement.InClauseOrder { action } := rfl
    exact Script.run_inClauseOrder accounted before (.inl ⟨rowsFirst, rfl⟩) ran
  · have honest : condition.HidesNoValue := by
      obtain inRows | inGroups := List.mem_append.mp listed
      · exact after.rows condition inRows
      · exact after.groups condition inGroups
    apply honest
    obtain raw | valueless := bare
    · simp [Condition.showsOperand, raw]
    · simp [Condition.showsOperand, valueless]

/-- A script with nested comparisons, a text that names a column, a key and a condition on
groups. -/
def Script.sample : Script :=
  .step (.lookup fun text => text == "orders.user") <|
  .step (.equals "active" (.scalar (.bool true))) <|
  .nest
    (.step (.between false "age" (.int 18) (.int 65) .or) <|
      .nest (.step (.compare "tags" (.scalar (.text "new hot")) .inSet .and) .done) none <|
      .step (.isNull "left") .done)
    (some .or) <|
  .step (.equals "users.id" (.scalar (.text "orders.user"))) <|
  .step (.key "id" (.int 7)) <|
  .step (.havingEquals "total" (.scalar (.int 3))) .done

/-- The positional values of the sample script are those of its conditions, in order. -/
theorem Script.sample_values_interleaved :
    sample.accounted = true ∧ sample.rowsFirst = true ∧
    ∃ statement, sample.run { action := .update } = .ok statement ∧
      statement.values = [.bool true, .int 18, .int 65, .text "new", .text "hot", .int 3] ∧
      Interleaved statement.whereClause.values statement.havingClause.values statement.values ∧
      statement.values = statement.whereClause.values ++ statement.havingClause.values ∧
      ∀ condition ∈ statement.whereClause.conditions ++ statement.havingClause.conditions,
        condition.kind = .raw ∨ condition.operator.valueless = true →
          condition.operand.values = [] := by
  have accounted : sample.accounted = true := by decide
  have rowsFirst : sample.rowsFirst = true := by decide
  obtain ⟨statement, ran, values⟩ : ∃ statement, sample.run { action := .update } = .ok statement ∧
      statement.values = [.bool true, .int 18, .int 65, .text "new", .text "hot", .int 3] :=
    ⟨_, rfl, by decide +kernel⟩
  obtain ⟨merged, ordered, bare⟩ := Script.values_interleaved accounted ran
  exact ⟨accounted, rowsFirst, statement, ran, values, merged, ordered rowsFirst, bare⟩

end Crud
