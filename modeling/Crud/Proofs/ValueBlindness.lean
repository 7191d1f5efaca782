import Crud.Compiler
import Mathlib.Data.List.Forall2

/-!
# Bound values stay out of the text

Two statements of the same shape differ at most in the values that are bound to placeholders: the
positional values, the values of named bindings, and the values in the operands of masked
conditions. Such statements compile to the same text, or fail with the same error, for every target.
The relation is defined from operands up to statements, and every function of the renderer and the
compiler is shown blind to what it leaves open.
-/

namespace Crud

/-- Operands that differ at most in their values. A list keeps its length and a fragment its
text. -/
inductive Operand.SameShape : Operand → Operand → Prop where
  /-- The same operand. -/
  | same (operand : Operand) : SameShape operand operand
  /-- Any two values. -/
  | scalar (left right : Value) : SameShape (.scalar left) (.scalar right)
  /-- Any two lists of one length. -/
  | list {left right : List Value} (length : left.length = right.length) :
      SameShape (.list left) (.list right)
  /-- Any two pairs of bounds. -/
  | range (lower upper lower' upper' : Value) :
      SameShape (.range lower upper) (.range lower' upper')
  /-- Any values for one text with markers. -/
  | fragment (text : String) (left right : List Value) :
      SameShape (.fragment ⟨text, left⟩) (.fragment ⟨text, right⟩)

/-- Conditions that differ at most in the values of a masked operand. -/
inductive Condition.SameShape : Condition → Condition → Prop where
  /-- The same condition, masked or not. -/
  | same (condition : Condition) : SameShape condition condition
  /-- Another operand of the same shape, under a mask. -/
  | masked {condition : Condition} {operand : Operand} (mask : condition.masked = true)
      (shape : condition.operand.SameShape operand) :
      SameShape condition { condition with operand }

/-- Clauses with the same groups and with conditions of the same shape. -/
inductive Clause.SameShape : Clause → Clause → Prop where
  /-- No element. -/
  | empty : SameShape .empty .empty
  /-- Conditions of the same shape before clauses of the same shape. -/
  | condition {left right : Condition} {rest rest' : Clause} (head : left.SameShape right)
      (tail : SameShape rest rest') : SameShape (.condition left rest) (.condition right rest')
  /-- Groups of the same shape before clauses of the same shape. -/
  | group {inner inner' rest rest' : Clause} (body : SameShape inner inner')
      (tail : SameShape rest rest') : SameShape (.group inner rest) (.group inner' rest')

/-- Joins of one table in one way, on conditions of the same shape. -/
structure Join.SameShape (left right : Join) : Prop where
  /-- The same table. -/
  table : left.table = right.table
  /-- The same kind. -/
  kind : left.kind = right.kind
  /-- Conditions of the same shape. -/
  conditions : List.Forall₂ Condition.SameShape left.conditions right.conditions

/-- Statements that are equal except for bound values. Nothing is asked of their positional values,
and of their named bindings only that they have the same names in the same order. -/
structure Statement.SameShape (left right : Statement) : Prop where
  /-- The same action. -/
  action : left.action = right.action
  /-- Repeated rows are dropped from both or from neither. -/
  distinct : left.distinct = right.distinct
  /-- The same tables. -/
  tables : left.tables = right.tables
  /-- The same fields, with the same values in their fragments. -/
  fields : left.fields = right.fields
  /-- Conditions of the same shape on rows. -/
  whereClause : left.whereClause.SameShape right.whereClause
  /-- Conditions of the same shape on groups. -/
  havingClause : left.havingClause.SameShape right.havingClause
  /-- The same grouping. -/
  groups : left.groups = right.groups
  /-- The same order. -/
  orders : left.orders = right.orders
  /-- The same page. -/
  page : left.page = right.page
  /-- Joins of the same shape. -/
  joins : List.Forall₂ Join.SameShape left.joins right.joins
  /-- The same names of bindings in the same order. -/
  names : left.bindings.names = right.bindings.names

/-- Operands of the same shape refer to the same bindings. -/
theorem Operand.SameShape.bindingNames_eq {left right : Operand} (shape : left.SameShape right) :
    left.bindingNames = right.bindingNames := by
  cases shape <;> rfl

/-- Conditions of the same shape have operands of the same shape. -/
theorem Condition.SameShape.operand {left right : Condition} (shape : left.SameShape right) :
    left.operand.SameShape right.operand := by
  cases shape with
  | same => exact .same _
  | masked _ shape => exact shape

namespace Clause.SameShape

/-- Conditions in a row have the same shape as a clause when they have it one by one. -/
theorem ofList {left right : List Condition} (shape : List.Forall₂ Condition.SameShape left right) :
    (Clause.ofList left).SameShape (Clause.ofList right) := by
  induction shape with
  | nil => exact .empty
  | cons head _ ih => exact .condition head ih

variable {left right : Clause}

/-- Clauses of the same shape are empty together. -/
theorem isEmpty_eq (shape : left.SameShape right) : left.isEmpty = right.isEmpty := by
  cases shape <;> rfl

/-- Clauses of the same shape are bound to what follows in the same way. -/
theorem lastConnector_eq (shape : left.SameShape right) :
    left.lastConnector = right.lastConnector := by
  induction shape with
  | empty => rfl
  | condition head tail ih =>
    rw [lastConnector, lastConnector, tail.isEmpty_eq, ih]
    cases head <;> rfl
  | group _ tail ihBody ihTail =>
    rw [lastConnector, lastConnector, tail.isEmpty_eq, ihBody, ihTail]

/-- Clauses of the same shape compare the same columns outside groups. -/
theorem topColumns_eq (shape : left.SameShape right) :
    left.topConditions.map (·.column) = right.topConditions.map (·.column) := by
  induction shape with
  | empty => rfl
  | condition head _ ih =>
    rw [topConditions, topConditions, List.map_cons, List.map_cons, ih]
    cases head <;> rfl
  | group _ _ _ ih => exact ih

/-- Clauses of the same shape refer to the same bindings. -/
theorem bindingNames_eq (shape : left.SameShape right) :
    left.bindingNames = right.bindingNames := by
  induction shape with
  | empty => rfl
  | condition head _ ih =>
    rw [bindingNames, bindingNames, head.operand.bindingNames_eq, ih]
  | group _ _ ihBody ihTail => rw [bindingNames, bindingNames, ihBody, ihTail]

end Clause.SameShape

namespace Target

variable (target : Target)

/-- Under a mask, operands of the same shape have the same text. -/
theorem operand_eq {left right : Operand} (shape : left.SameShape right) :
    target.operand true left = target.operand true right := by
  cases shape with
  | @list left right length =>
    have masks (values : List Value) :
        values.map (target.value true) = List.replicate values.length target.dialect.placeholder :=
      List.map_const'
    cases left with
    | nil => rw [List.length_eq_zero_iff.mp length.symm]
    | cons first rest =>
      cases right with
      | nil => simp at length
      | cons first' rest' =>
        show Text.join ", " _ = Text.join ", " _
        rw [masks, masks, length]
  | _ => rfl

/-- Under a mask, operands of the same shape have the same bounds. -/
theorem bounds_eq {left right : Operand} (shape : left.SameShape right) :
    target.bounds true left = target.bounds true right := by
  cases shape with
  | @list left right length =>
    match left, right, length with
    | [], [], _ => rfl
    | [_], [_], _ => rfl
    | [_, _], [_, _], _ => rfl
    | _ :: _ :: _ :: _, _ :: _ :: _ :: _, _ => rfl
  | _ => rfl

/-- Conditions of the same shape have the same text or the same error. -/
theorem condition_eq {left right : Condition} (shape : left.SameShape right) :
    target.condition left = target.condition right := by
  cases shape with
  | same => rfl
  | @masked operand mask shape =>
    have parts : target.operands left = target.operands { left with operand } := by
      unfold operands
      simp only [mask, target.operand_eq shape, target.bounds_eq shape]
    unfold condition
    rw [parts]

/-- Clauses of the same shape have the same elements or the same error. -/
theorem elements_eq {left right : Clause} (shape : left.SameShape right) :
    target.elements left = target.elements right := by
  induction shape with
  | empty => rfl
  | @condition left right _ _ head _ ih =>
    have connector : left.connector = right.connector := by cases head <;> rfl
    rw [elements, elements, target.condition_eq head, ih, connector]
  | group body _ ihBody ihTail =>
    rw [elements, elements, ihBody, ihTail, body.lastConnector_eq]

/-- Clauses of the same shape have the same text or the same error. -/
theorem clause_eq {left right : Clause} (shape : left.SameShape right) :
    target.clause left = target.clause right := by
  unfold clause
  rw [target.elements_eq shape]

/-- Joins of the same shape have the same text or the same error. -/
theorem join_eq {left right : Join} (shape : left.SameShape right) :
    target.join left = target.join right := by
  have sameEnd {before after : List Condition}
      (conditions : List.Forall₂ Condition.SameShape before after) :
      before.isEmpty = after.isEmpty := by
    cases conditions <;> rfl
  unfold join
  rw [shape.table, shape.kind, sameEnd shape.conditions,
    target.clause_eq (.ofList shape.conditions)]

/-- Lists of joins of the same shape have the same texts or the same error. -/
theorem joins_eq {left right : List Join} (shape : List.Forall₂ Join.SameShape left right) :
    target.joins left = target.joins right := by
  induction shape with
  | nil => rfl
  | cons head _ ih => rw [joins, joins, target.join_eq head, ih]

/-- A keyword before clauses of the same shape gives the same text or the same error. -/
theorem keywordClause_eq (keyword : String) {left right : Clause} (shape : left.SameShape right) :
    target.keywordClause keyword left = target.keywordClause keyword right := by
  unfold keywordClause
  rw [target.clause_eq shape]

section

variable {left right : Statement} (shape : left.SameShape right)

include shape

/-- Statements of the same shape have tables together. -/
theorem requireTables_eq (action : Action) :
    requireTables action left = requireTables action right := by
  unfold requireTables
  rw [shape.tables]

/-- Statements of the same shape end in the same order and page. -/
theorem orderAndPage_eq : target.orderAndPage left = target.orderAndPage right := by
  unfold orderAndPage
  rw [shape.orders, shape.page]

/-- Statements of the same shape address rows by the same names. -/
theorem addressingNames_eq :
    addressingNames left.whereClause = addressingNames right.whereClause := by
  unfold addressingNames
  rw [shape.whereClause.topColumns_eq, shape.whereClause.bindingNames_eq]

/-- Statements of the same shape have the same assignments. -/
theorem assignments_eq (excluded : List String) :
    target.assignments excluded left.bindings = target.assignments excluded right.bindings := by
  unfold assignments
  rw [shape.names]

/-- Statements of the same shape are assembled alike by every action. -/
theorem assemble_eq (action : Action) :
    target.assemble action left = target.assemble action right := by
  cases action with
  | select =>
    show target.select left = target.select right
    unfold select
    rw [requireTables_eq shape, target.joins_eq shape.joins,
      target.keywordClause_eq "WHERE" shape.whereClause,
      target.keywordClause_eq "HAVING" shape.havingClause, target.orderAndPage_eq shape]
    unfold fields
    rw [shape.distinct, shape.fields, shape.groups]
  | insert =>
    show target.insert left = target.insert right
    unfold insert
    rw [requireTables_eq shape, target.assignments_eq shape]
  | update =>
    show target.update left = target.update right
    unfold update
    rw [requireTables_eq shape, addressingNames_eq shape, target.assignments_eq shape,
      target.keywordClause_eq "WHERE" shape.whereClause, target.orderAndPage_eq shape]
  | delete =>
    show target.delete left = target.delete right
    unfold delete
    rw [requireTables_eq shape, target.keywordClause_eq "WHERE" shape.whereClause,
      target.orderAndPage_eq shape]

end

/-- Statements that are equal except for bound values compile to the same text, or fail with the
same error. -/
theorem compile_blind {left right : Statement} (shape : left.SameShape right) :
    target.compile left = target.compile right := by
  unfold compile
  rw [shape.action, target.assemble_eq shape]

end Target

/-- A statement with bound values in a join, a group, bounds, a fragment and a named binding. -/
def Statement.sample (name : Value) (cities : List Value) (lower upper : Value)
    (factors : List Value) : Statement where
  action := .select
  tables := [⟨"orders", none⟩]
  joins := [{
    table := "users"
    conditions := [{ column := "users.name", operand := .scalar name }] }]
  whereClause :=
    .group (.single { column := "city", operator := .inList, operand := .list cities }) <|
      .single { column := "total", operator := .between, operand := .range lower upper }
  havingClause :=
    .single { column := "score", operator := .greater, operand := .fragment ⟨"base * %d", factors⟩ }
  values := [name] ++ cities ++ [lower, upper] ++ factors
  bindings := .ofPairs [("note", name)]

/-- Text that would end a literal changes nothing in the statement it is bound to. -/
theorem Statement.sample_blind :
    (Statement.sample (.text "ann") [.text "Rome", .null] (.int 1) (.int 9) [.int 2]).SameShape
      (Statement.sample (.text "'; DROP TABLE users; --") [.int 0, .text "?"] .null (.bytes [7])
        []) ∧
    Target.compile ⟨.mysql, some "app_"⟩
        (Statement.sample (.text "ann") [.text "Rome", .null] (.int 1) (.int 9) [.int 2]) =
      Target.compile ⟨.mysql, some "app_"⟩
        (Statement.sample (.text "'; DROP TABLE users; --") [.int 0, .text "?"] .null (.bytes [7])
          []) := by
  have shape :
      (Statement.sample (.text "ann") [.text "Rome", .null] (.int 1) (.int 9) [.int 2]).SameShape
        (Statement.sample (.text "'; DROP TABLE users; --") [.int 0, .text "?"] .null (.bytes [7])
          []) :=
    { action := rfl
      distinct := rfl
      tables := rfl
      fields := rfl
      whereClause := .group (.condition (.masked rfl (.list rfl)) .empty)
        (.condition (.masked rfl (.range _ _ _ _)) .empty)
      havingClause := .condition (.masked rfl (.fragment _ _ _)) .empty
      groups := rfl
      orders := rfl
      page := rfl
      joins := .cons ⟨rfl, rfl, .cons (.masked rfl (.scalar _ _)) .nil⟩ .nil
      names := rfl }
  exact ⟨shape, Target.compile_blind ⟨.mysql, some "app_"⟩ shape⟩

end Crud
