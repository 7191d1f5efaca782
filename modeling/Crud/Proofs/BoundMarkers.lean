import Crud.Proofs.Assignments
import Crud.Proofs.DialectChange
import Crud.Proofs.Growth

/-!
# Markers that are bound

A key adds a condition with markers and binds them in one go, and nothing else adds markers. As long
as the bindings are neither replaced nor reset, every marker in the conditions on rows therefore has
a binding, whatever nests and copies do. A text that does not depend on how a dialect writes markers
without a binding shows none.
-/

namespace Crud

/-- No argument refers to a binding. -/
theorem Argument.bindingNames_toOperand (lookup : Option ColumnLookup) (argument : Argument) :
    (argument.toOperand lookup).bindingNames = [] := by
  unfold toOperand
  split <;> try rfl
  split <;> rfl

/-- No argument refers to a binding, whatever it is compared by. -/
theorem Argument.bindingNames_operandFor (lookup : Option ColumnLookup) (operator : Operator)
    (argument : Argument) : (argument.operandFor lookup operator).bindingNames = [] := by
  unfold operandFor
  split
  · rfl
  · split <;> exact bindingNames_toOperand lookup _

namespace Clause

/-- A condition that is resolved had no marker and gets none. -/
theorem bindingNames_resolved (lookup : ColumnLookup) (condition : Condition) :
    ((condition.resolved? lookup).getD condition).operand.bindingNames =
      condition.operand.bindingNames := by
  unfold Condition.resolved?
  split
  · rfl
  · split
    next text shown =>
      rw [shown]
      split
      · rfl
      · exact congrArg Operand.bindingNames shown
    next => rfl

/-- What is resolved is no marker. -/
theorem bindingNames_resolve (lookup : ColumnLookup) (clause : Clause) :
    (clause.resolve lookup).bindingNames = clause.bindingNames := by
  induction clause with
  | empty => rfl
  | condition head rest ih =>
    rw [resolve, bindingNames, bindingNames_resolved, ih, bindingNames]
  | group inner rest ihInner ihRest =>
    rw [resolve, bindingNames, ihInner, ihRest, bindingNames]

end Clause

namespace Step

/-- The step drops the bindings that there are. -/
def dropsBindings : Step → Bool
  | replaceBindings _ => true
  | reset property => property == .bindings
  | _ => false

/-- The names that a step sets, with their values. -/
def boundPairs : Step → List (String × Value)
  | bind pairs => pairs.map (Prod.map bindingName id)
  | bindLists columns values => (columns.zip values).map (Prod.map bindingName id)
  | replaceBindings pairs => (Bindings.ofPairs pairs).entries.map (Prod.map bindingName id)
  | key column value => [(bindingName column, value)]
  | keys column values =>
    values.zipIdx.map fun (value, index) => (bindingName column ++ toString index, value)
  | _ => []

/-- What a step does to bindings and to the markers that refer to them. -/
structure Binds (step : Step) (start finish : Statement) : Prop where
  /-- The action stays. -/
  action : finish.action = start.action
  /-- The names of the step are set. -/
  bindings : finish.bindings =
    (if step.dropsBindings then .empty else start.bindings).setAll step.boundPairs
  /-- A new marker refers to a name of the step, and a statement that reads rows gets none. -/
  markers : ∀ name ∈ finish.whereClause.bindingNames,
    name ∈ start.whereClause.bindingNames ∨
      start.action ≠ .select ∧ name ∈ step.boundPairs.map Prod.fst

variable {step : Step} {start finish : Statement}

/-- A step that adds no marker and sets no name. -/
theorem Binds.of_untouched (action : finish.action = start.action)
    (keeps : step.dropsBindings = false) (none : step.boundPairs = [])
    (bindings : finish.bindings = start.bindings)
    (markers : finish.whereClause.bindingNames = start.whereClause.bindingNames) :
    step.Binds start finish where
  action := action
  bindings := by
    rw [keeps, none, bindings]
    rfl
  markers name listed := .inl (markers ▸ listed)

/-- A key binds its markers. -/
theorem binds_of_addKey {column : String} {operator : Operator}
    (keeps : step.dropsBindings = false)
    (ran : start.addKey column operator step.boundPairs = .ok finish) :
    step.Binds start finish := by
  unfold Statement.addKey at ran
  split at ran
  · cases ran
  next allowed =>
    cases ran
    refine ⟨rfl, by rw [keeps]; rfl, fun name listed => ?_⟩
    simp only [Statement.addCondition, Clause.bindingNames_append, Clause.bindingNames_single,
      Operand.bindingNames, List.mem_append] at listed
    exact listed.imp_right fun isNew => ⟨allowed, isNew⟩

/-- What a step does to bindings and to markers. -/
theorem binds (ran : step.run start = .ok finish) : step.Binds start finish := by
  -- Conditions other than keys have no markers.
  have plain {condition : Condition} (none : condition.operand.bindingNames = []) :
      (start.whereClause ++ Clause.single condition).bindingNames =
        start.whereClause.bindingNames := by
    rw [Clause.bindingNames_append, Clause.bindingNames_single, none, List.append_nil]
  cases step with
  | bind pairs =>
    cases ran
    exact ⟨rfl, Bindings.bindAll_eq_setAll _ _, fun _ => .inl⟩
  | bindLists columns values =>
    simp only [run, Statement.bindLists] at ran
    split at ran
    · cases ran
      exact ⟨rfl, Bindings.bindAll_eq_setAll _ _, fun _ => .inl⟩
    · cases ran
  | replaceBindings pairs =>
    cases ran
    exact ⟨rfl, Bindings.bindAll_eq_setAll _ _, fun _ => .inl⟩
  | key column value => exact binds_of_addKey rfl ran
  | keys column values => exact binds_of_addKey rfl ran
  | compare column argument operator connector =>
    cases ran
    exact .of_untouched rfl rfl rfl rfl (plain (argument.bindingNames_operandFor _ _))
  | like negated column argument connector =>
    cases ran
    exact .of_untouched rfl rfl rfl rfl (plain (argument.bindingNames_toOperand _))
  | search columns argument modifier connector =>
    cases ran
    exact .of_untouched rfl rfl rfl rfl (plain (argument.joinWords.bindingNames_toOperand _))
  | between | subquery =>
    cases ran
    exact .of_untouched rfl rfl rfl rfl (plain rfl)
  | texts pieces values connectors =>
    cases ran
    have noMarker : (Clause.ofList (Condition.ofTexts pieces connectors)).bindingNames = [] := by
      rw [Clause.bindingNames_eq_flatMap, List.flatMap_eq_nil_iff]
      intro operand listed
      rw [Clause.operand_of_mem_ofTexts listed]
      rfl
    refine .of_untouched rfl rfl rfl rfl ?_
    rw [Statement.addTexts, Clause.bindingNames_append, noMarker, List.append_nil]
  | join table left operator right kind =>
    cases right with
    | none => cases ran
    | some right =>
      cases ran
      exact .of_untouched rfl rfl rfl rfl rfl
  | resolveColumns lookup =>
    cases ran
    unfold Statement.resolveColumns
    split
    · refine .of_untouched ?_ rfl rfl ?_ ?_
      · split <;> rfl
      · split <;> rfl
      · split <;> exact Clause.bindingNames_resolve lookup _
    · exact .of_untouched rfl rfl rfl rfl rfl
  | copy =>
    cases ran
    exact ⟨rfl, rfl, nofun⟩
  | reset property =>
    cases ran
    cases property with
    | whereClause => exact ⟨rfl, rfl, nofun⟩
    | bindings => exact ⟨rfl, rfl, fun _ => .inl⟩
    | _ => exact .of_untouched rfl rfl rfl rfl rfl
  | _ =>
    cases ran
    exact .of_untouched rfl rfl rfl rfl rfl

end Step

/-- Every marker in the conditions on rows has a binding, and a statement that reads rows has no
marker. -/
def Statement.MarkersBound (statement : Statement) : Prop :=
  ∀ name ∈ statement.whereClause.bindingNames,
    statement.action ≠ .select ∧ name ∈ statement.bindings.names

/-- No step of the script drops bindings. What nests do to the bindings of their own statements
does not matter. -/
def Script.keepsBindings : Script → Bool
  | done => true
  | step head rest => !head.dropsBindings && rest.keepsBindings
  | nest _ _ rest => rest.keepsBindings

/-- A step keeps markers bound, unless it drops bindings that something can refer to. -/
theorem Step.run_markersBound {step : Step} {start finish : Statement}
    (keeps : start.action = .select ∨ step.dropsBindings = false) (before : start.MarkersBound)
    (ran : step.run start = .ok finish) : finish.MarkersBound := by
  obtain ⟨action, bindings, markers⟩ := step.binds ran
  intro name listed
  rw [action, bindings, Bindings.mem_names_setAll]
  rcases markers name listed with old | ⟨allowed, isNew⟩
  · obtain ⟨allowed, bound⟩ := before name old
    rw [keeps.resolve_left allowed]
    exact ⟨allowed, .inl bound⟩
  · exact ⟨allowed, .inr isNew⟩

/-- A nest adds no marker, as it is built on a statement that reads rows. -/
theorem Statement.addGroup_markersBound {statement inner : Statement}
    {connector : Option Connector} (before : statement.MarkersBound)
    (none : inner.whereClause.bindingNames = []) :
    (statement.addGroup inner connector).MarkersBound := by
  have same : (statement.addGroup inner connector).whereClause =
      statement.whereClause ++ inner.whereClause.bracketed connector := rfl
  intro name listed
  rw [same, Clause.bindingNames_append, Clause.bindingNames_eq_flatMap (.bracketed ..),
    Clause.operands_bracketed, ← Clause.bindingNames_eq_flatMap, none, List.append_nil] at listed
  exact before name listed

/-- A nest adds the statement that its script builds. -/
theorem Script.exists_of_nest {inner : Script} {connector : Option Connector}
    {start finish : Statement} (ran : start.nest inner.run connector = .ok finish) :
    ∃ body, inner.run start.nested = .ok body ∧ start.addGroup body connector = finish := by
  change (inner.run start.nested).map _ = _ at ran
  cases built : inner.run start.nested with
  | error error =>
    rw [built] at ran
    cases ran
  | ok body =>
    rw [built] at ran
    exact ⟨body, rfl, Except.ok.inj ran⟩

/-- A script keeps the action and keeps markers bound, unless it drops bindings that something can
refer to. -/
theorem Script.run_markersBound {script : Script} {start finish : Statement}
    (keeps : start.action = .select ∨ script.keepsBindings = true) (before : start.MarkersBound)
    (ran : script.run start = .ok finish) :
    finish.action = start.action ∧ finish.MarkersBound := by
  induction script generalizing start finish with
  | done =>
    cases ran
    exact ⟨rfl, before⟩
  | step head rest ih =>
    rw [keepsBindings, Bool.and_eq_true, Bool.not_eq_true'] at keeps
    obtain ⟨middle, first, others⟩ := run_step_eq_ok.mp ran
    have action := (head.binds first).action
    rw [← action]
    have bound := Step.run_markersBound (keeps.imp_right And.left) before first
    exact ih (action ▸ keeps.imp_right And.right) bound others
  | nest inner connector rest ihInner ihRest =>
    obtain ⟨middle, first, others⟩ := run_nest_eq_ok.mp ran
    obtain ⟨body, built, rfl⟩ := exists_of_nest first
    -- The statement of the nest reads rows, so that it has no marker in the end.
    obtain ⟨reads, bound⟩ := ihInner (.inl rfl) (by nofun) built
    have none : body.whereClause.bindingNames = [] :=
      List.eq_nil_iff_forall_not_mem.mpr fun name listed => (bound name listed).1 reads
    have keepsRest : (start.addGroup body connector).action = .select ∨
        rest.keepsBindings = true := keeps
    exact (ihRest keepsRest (Statement.addGroup_markersBound before none) others :)

/-- The target with another way of writing markers. -/
def Target.withMarkers (target : Target) (marker : String → String) : Target :=
  { target with dialect := { target.dialect with namedPlaceholder := marker } }

/-- Targets that differ in markers without a binding write a statement alike if it does not read
rows and its own markers are bound. -/
theorem Statement.MarkersBound.recodes {statement : Statement} (bound : statement.MarkersBound)
    (target : Target) {marker : String → String}
    (same : ∀ name ∈ statement.bindings.names, marker name = target.dialect.namedPlaceholder name)
    {action : Action} (writes : action ≠ .select) :
    target.RecodesStatement id (target.withMarkers marker) action statement where
  quotes _ _ := rfl
  quote := rfl
  tablePrefix := rfl
  fixedPrefix _ _ _ _ := rfl
  placeholder := String.map_id.symm
  frame _ _ _ _ := rfl
  conditions condition written := {
    texts _ _ _ _ := rfl
    markers name used := by
      have listed : name ∈ statement.whereClause.bindingNames := by
        refine Clause.mem_bindingNames_iff.mpr ⟨condition, ?_, used⟩
        cases action with
        | select => contradiction
        | insert => contradiction
        | update | delete => exact written
      exact (same name (bound name listed).2).trans String.map_id.symm
    operator _ := {
      render operands := by
        rw [operands.recoded_id, String.map_id_fun, Option.map_id]
        rfl
      supports := rfl
      name := .inr rfl } }
  joins reads := absurd reads writes
  markers name listed := (same name listed).trans String.map_id.symm
  page _ _ := String.map_id.symm
  insertion _ table assignments := by
    rw [String.map_id_fun, Prod.map_id, List.map_id]
    rfl

/-- Nothing dangles. However a statement is built by a script from an empty one, as long as the
bindings are neither replaced nor reset, every marker in the conditions on rows, at any depth, is
the name of a binding. Adding, changing and removing rows shows no other marker: the text stays the
same, or the error does, when the dialect writes every other marker in another way. A nest is a
script on a fresh child, which selects, so that no row is addressed by a key in there. Nothing is
said of a builder which gives back another statement in the place of that child. -/
theorem markers_bound {action : Action} {script : Script} {final : Statement}
    (keeps : script.keepsBindings = true) (ran : script.run { action } = .ok final) :
    (∀ name ∈ final.whereClause.bindingNames, name ∈ final.bindings.names) ∧
    ∀ (target : Target) (marker : String → String),
      (∀ name ∈ final.bindings.names, marker name = target.dialect.namedPlaceholder name) →
      ∀ written : Action, written ≠ .select →
        (target.withMarkers marker).assemble written final = target.assemble written final := by
  obtain ⟨-, bound⟩ := Script.run_markersBound (.inr keeps) (by nofun) ran
  refine ⟨fun name listed => (bound name listed).2, fun target marker same written writes => ?_⟩
  rw [(bound.recodes target same writes).assemble]
  cases target.assemble written final with
  | error => rfl
  | ok text => exact congrArg Except.ok String.map_id

/-- A key that a copy drops, a nest, and rows that are addressed by other keys. -/
def sampleChanges : Script :=
  .step (.table "users") <|
  .step (.set "name" (.text "ann")) <|
  .step (.key ":id" (.int 7)) <|
  .step .copy <|
  .nest (.step (.equals "role" (.scalar (.text "admin"))) .done) (some .or) <|
  .step (.keys "tenant" [.int 1, .int 2]) .done

/-- The statement that is built: the copy drops a marker and keeps its binding. -/
def sampleChanged : Statement where
  action := .update
  tables := [⟨"users", none⟩]
  whereClause :=
    .group (.single { column := "role", operand := .scalar (.text "admin"), connector := .or }) <|
    .single
      { kind := .key, column := "tenant", operator := .inList
        operand := .named ["tenant0", "tenant1"], masked := false }
  values := [.text "admin"]
  bindings := .ofPairs
    [("name", .text "ann"), ("id", .int 7), ("tenant0", .int 1), ("tenant1", .int 2)]

/-- A marker for the bindings of the changed statement, and a question mark for anything else. -/
def sampleMarker (name : String) : String :=
  if name ∈ sampleChanged.bindings.names then ":" ++ name else "?"

/-- The markers are bound, and another way of writing what is no binding is not seen. -/
theorem sampleChanges_markers_bound :
    sampleChanges.keepsBindings = true ∧
    sampleChanges.run { action := .update } = .ok sampleChanged ∧
    (∀ name ∈ sampleChanged.whereClause.bindingNames, name ∈ sampleChanged.bindings.names) ∧
    (∀ name ∈ sampleChanged.bindings.names,
      sampleMarker name = Dialect.generic.namedPlaceholder name) ∧
    Action.delete ≠ .select ∧
    (Target.withMarkers ⟨.generic, none⟩ sampleMarker).assemble .delete sampleChanged =
      Target.assemble ⟨.generic, none⟩ .delete sampleChanged ∧
    Target.assemble ⟨.generic, none⟩ .delete sampleChanged =
      .ok "DELETE FROM \"users\" WHERE (\"role\" = ?) OR \"tenant\" IN(:tenant0, :tenant1)" := by
  have keeps : sampleChanges.keepsBindings = true := rfl
  have ran : sampleChanges.run { action := .update } = .ok sampleChanged := rfl
  obtain ⟨bound, shown⟩ := markers_bound keeps ran
  have same : ∀ name ∈ sampleChanged.bindings.names,
      sampleMarker name = Dialect.generic.namedPlaceholder name := fun name listed => if_pos listed
  have changes : Action.delete ≠ .select := by decide
  exact ⟨keeps, ran, bound, same, changes, shown ⟨.generic, none⟩ _ same .delete changes, rfl⟩

end Crud
