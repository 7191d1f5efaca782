import Crud.Description.Statement

/-!
# Alternatives when reading

An element of a clause is written as a bracketed clause or as a condition, and what a field shows
is written as a column or as a fragment. Nothing in the written form says which of the two it is, so
a reader tries both. At most one of them can be read: a condition that is written as an array has
its column in there, and no element of a clause is a string. The order in which the two are tried
therefore never changes what is read, at any depth.
-/

namespace Crud

/-- No JSON value can be read by both readers. -/
def Json.Exclusive {α β : Type} (first : Json → Option α) (second : Json → Option β) : Prop :=
  ∀ json, first json = none ∨ second json = none

/-- Which alternative is tried first, for every JSON value. -/
structure ReadingOrder where
  /-- A bracketed clause is tried before a condition. -/
  groupFirst : Json → Bool
  /-- A column is tried before a fragment. -/
  columnFirst : Json → Bool

namespace ReadingOrder

/-- The first of two alternatives that can be read, tried in turn or the other way round. -/
def tryBoth {α : Type} (inTurn : Bool) (first second : Option α) : Option α :=
  if inTurn then first.or second else second.or first

/-- The order does not matter if one of the alternatives cannot be read. -/
theorem tryBoth_eq {α : Type} {first second : Option α} (exclusive : first = none ∨ second = none)
    (inTurn : Bool) : tryBoth inTurn first second = first.or second := by
  cases inTurn with
  | true => rfl
  | false =>
    rcases exclusive with rfl | rfl
    · exact Option.or_none
    · exact Option.or_none.symm

end ReadingOrder

/-- A field of a record that is written as an array is one of its items. -/
theorem Json.mem_of_fields?_array {names : List String} {items : List Json}
    {values : List (Option Json)} (fields : fields? names (.array items) = some values)
    {value : Json} (given : some value ∈ values) : value ∈ items := by
  rw [fields?] at fields
  split at fields
  next =>
    cases fields
    rcases List.mem_append.mp given with written | absent
    · obtain ⟨item, listed, same⟩ := List.mem_map.mp written
      cases same
      exact listed
    · have nothing := List.eq_of_mem_replicate absent
      contradiction
  next => contradiction

/-- A field that is read as a text is written as that string. -/
theorem Json.eq_string_of_required {value : Option Json} {text : String}
    (read : required toString? value = some text) : value = some (.string text) := by
  cases value with
  | none => contradiction
  | some json =>
    cases json with
    | string written =>
      cases read
      rfl
    | _ => contradiction

/-- The column of a condition is a field of its written form. -/
theorem Condition.exists_column_of_ofJson? {json : Json} {condition : Condition}
    (read : ofJson? json = some condition) :
    ∃ values, json.fields? fieldNames = some values ∧ some (.string condition.column) ∈ values := by
  rw [ofJson?] at read
  obtain ⟨values, isFields, read⟩ := Option.bind_eq_some_iff.mp read
  refine ⟨values, isFields, ?_⟩
  split at read
  next kind column operator operand connector masked modifier =>
    simp only [Option.bind_eq_bind, Option.bind_eq_some_iff, Option.some.injEq] at read
    obtain ⟨_, -, name, isName, _, -, _, -, _, -, _, -, _, -, rfl⟩ := read
    rw [Json.eq_string_of_required isName]
    exact List.mem_cons_of_mem _ List.mem_cons_self
  next => contradiction

/-- A condition that is written as an array has its column in there. -/
theorem Condition.column_mem_of_array {items : List Json} {condition : Condition}
    (read : ofJson? (.array items) = some condition) : .string condition.column ∈ items := by
  obtain ⟨values, isFields, column⟩ := exists_column_of_ofJson? read
  exact Json.mem_of_fields?_array isFields column

namespace Clause

mutual

/-- The element that a JSON value is the written form of, when the alternatives are tried in an
order. -/
def itemIn? (order : ReadingOrder) : Json → Option (Clause → Clause)
  | .array items =>
    ReadingOrder.tryBoth (order.groupFirst (.array items))
      ((itemsIn? order items).map group) ((Condition.ofJson? (.array items)).map condition)
  | json =>
    ReadingOrder.tryBoth (order.groupFirst json) none ((Condition.ofJson? json).map condition)

/-- The clause whose elements have the written forms, when the alternatives are tried in an
order. -/
def itemsIn? (order : ReadingOrder) : List Json → Option Clause
  | [] => some empty
  | item :: rest => do
    let element ← itemIn? order item
    let clause ← itemsIn? order rest
    some (element clause)

end

/-- The bracketed clause that a JSON value is the written form of. -/
def groupIn? (order : ReadingOrder) : Json → Option Clause
  | .array items => itemsIn? order items
  | _ => none

/-- An element is a bracketed clause or a condition, whichever is tried first. -/
theorem itemIn?_eq_tryBoth (order : ReadingOrder) (json : Json) :
    itemIn? order json = ReadingOrder.tryBoth (order.groupFirst json)
      ((groupIn? order json).map group) ((Condition.ofJson? json).map condition) := by
  cases json <;> rfl

/-- A string is no element of a clause. -/
theorem ofItem?_string (text : String) : ofItem? (.string text) = none := rfl

/-- Every element of a clause can be read. -/
theorem ofItem?_ne_none_of_mem {items : List Json} {clause : Clause}
    (read : ofItems? items = some clause) {item : Json} (listed : item ∈ items) :
    ofItem? item ≠ none := by
  induction items generalizing clause with
  | nil => contradiction
  | cons head rest ih =>
    rw [ofItems?] at read
    obtain ⟨element, isElement, read⟩ := Option.bind_eq_some_iff.mp read
    obtain ⟨others, isOthers, -⟩ := Option.bind_eq_some_iff.mp read
    rcases List.mem_cons.mp listed with rfl | later
    · rw [isElement]
      exact Option.some_ne_none element
    · exact ih isOthers later

/-- An array is not the written form of a bracketed clause and of a condition. -/
theorem ofItems?_eq_none_or (items : List Json) :
    ofItems? items = none ∨ Condition.ofJson? (.array items) = none := by
  cases inner : ofItems? items with
  | none => exact .inl rfl
  | some clause =>
    right
    rw [Option.eq_none_iff_forall_ne_some]
    intro condition read
    exact ofItem?_ne_none_of_mem inner (Condition.column_mem_of_array read) (ofItem?_string _)

mutual

/-- An element is the same in every order. -/
theorem itemIn?_eq (order : ReadingOrder) : ∀ json, itemIn? order json = ofItem? json
  | .array items => by
    have exclusive : (ofItems? items).map group = none ∨
        (Condition.ofJson? (.array items)).map condition = none := by
      simpa only [Option.map_eq_none_iff] using ofItems?_eq_none_or items
    rw [itemIn?, itemsIn?_eq order items, ReadingOrder.tryBoth_eq exclusive, ofItem?]
    cases ofItems? items <;> rfl
  | .null | .bool _ | .integer _ | .double _ | .string _ | .object _ | .unreadable =>
    ReadingOrder.tryBoth_eq (.inl rfl) _

/-- The elements are the same in every order. -/
theorem itemsIn?_eq (order : ReadingOrder) : ∀ items, itemsIn? order items = ofItems? items
  | [] => rfl
  | item :: rest => by rw [itemsIn?, itemIn?_eq order item, itemsIn?_eq order rest, ofItems?]

end

/-- A bracketed clause is the same in every order. -/
theorem groupIn?_eq (order : ReadingOrder) (items : List Json) :
    groupIn? order (.array items) = ofItems? items := itemsIn?_eq order items

/-- No JSON value can be read as a bracketed clause and as a condition. -/
theorem exclusive (order : ReadingOrder) : Json.Exclusive (groupIn? order) Condition.ofJson? := by
  intro json
  cases json with
  | array items =>
    rw [groupIn?_eq]
    exact ofItems?_eq_none_or items
  | _ => exact .inl rfl

/-- The clause that a JSON value is the written form of, when the alternatives are tried in an
order. -/
def ofJsonIn? (order : ReadingOrder) (levels : Nat) (json : Json) : Option Clause :=
  match json with
  | .array items => if json.fits levels then itemsIn? order items else none
  | _ => none

/-- A clause is read in any order as in the order of its reader. -/
theorem ofJsonIn?_eq (order : ReadingOrder) (levels : Nat) :
    ofJsonIn? order levels = ofJson? levels := by
  funext json
  cases json with
  | array items => rw [ofJsonIn?, ofJson?, itemsIn?_eq]
  | _ => rfl

end Clause

/-- No JSON value can be read as a column and as a fragment. -/
theorem FieldSource.exclusive : Json.Exclusive Json.toString? Fragment.ofJson? := by
  intro json
  cases json with
  | string name => exact .inr rfl
  | _ => exact .inl rfl

/-- What a field shows, by its written form, when the alternatives are tried in an order. -/
def FieldSource.ofJsonIn? (order : ReadingOrder) (levels : Nat) (json : Json) :
    Option FieldSource :=
  ReadingOrder.tryBoth (order.columnFirst json) (json.toString?.map column)
    (if json.fits levels then (Fragment.ofJson? json).map fragment else none)

/-- What a field shows is read in any order as in the order of its reader. -/
theorem FieldSource.ofJsonIn?_eq (order : ReadingOrder) (levels : Nat) :
    ofJsonIn? order levels = ofJson? levels := by
  funext json
  have exclusive : json.toString?.map column = none ∨
      (if json.fits levels then (Fragment.ofJson? json).map fragment else none) = none := by
    rcases FieldSource.exclusive json with noColumn | noFragment
    · exact .inl (Option.map_eq_none_iff.mpr noColumn)
    · rw [noFragment]
      exact .inr (ite_self none)
  rw [ofJsonIn?, ReadingOrder.tryBoth_eq exclusive]
  cases json <;> rfl

/-- The field that a JSON value is the written form of, when the alternatives are tried in an
order. -/
def FieldRef.ofJsonIn? (order : ReadingOrder) (levels : Nat) (json : Json) : Option FieldRef := do
  match ← json.fields? ["field", "alias"] with
  | [source, aliasName] =>
    some
      { source := ← Json.required (FieldSource.ofJsonIn? order (levels - 1)) source
        aliasName := ← Json.optional Json.toString? aliasName }
  | _ => none

/-- A field is read in any order as in the order of its reader. -/
theorem FieldRef.ofJsonIn?_eq (order : ReadingOrder) (levels : Nat) :
    ofJsonIn? order levels = ofJson? levels := by
  funext json
  rw [ofJsonIn?, FieldSource.ofJsonIn?_eq]
  rfl

namespace Statement

/-- The statement that a JSON value is the written form of, when the alternatives are tried in an
order. -/
def ofJsonIn? (order : ReadingOrder) (json : Json) : Option Statement := do
  match ← json.fields? fieldNames with
  | [action, distinct, tables, fields, whereClause, havingClause, groups, orders, page, joins,
      values, bindings] =>
    let clause := Clause.ofJsonIn? order (Json.levelLimit - 1)
    let field := FieldRef.ofJsonIn? order (Json.levelLimit - 2)
    some
      { action := ← Json.required (Json.toChoice? Action.all Action.name) action
        distinct := ← Json.withDefault false Json.toBool? distinct
        tables := ← Json.withDefault [] (Json.toList? TableRef.ofJson?) tables
        fields := ← Json.withDefault [] (Json.toList? field) fields
        whereClause := ← Json.withDefault .empty clause whereClause
        havingClause := ← Json.withDefault .empty clause havingClause
        groups := ← Json.withDefault [] (Json.toList? GroupEntry.ofJson?) groups
        orders := ← Json.withDefault [] (Json.toList? OrderEntry.ofJson?) orders
        page := ← Json.optional Page.ofJson? page
        joins := ← Json.withDefault [] (Json.toList? Join.ofJson?) joins
        values := ← Json.withDefault [] (Json.toList? Value.ofJson?) values
        bindings := ← Json.withDefault .empty Bindings.ofJson? bindings }
  | _ => none

/-- A statement is the same in every order. -/
theorem ofJsonIn?_eq (order : ReadingOrder) (json : Json) :
    ofJsonIn? order json = ofJson? json := by
  rw [ofJsonIn?, Clause.ofJsonIn?_eq, FieldRef.ofJsonIn?_eq]
  rfl

end Statement

/-- At most one of the two alternatives of an element of a clause can be read, at every depth, and
at most one of those of what a field shows. Whichever is tried first, for each value on its own,
every element, clause, field and statement is read in the same way. -/
theorem ReadingOrder.reading_unambiguous (order : ReadingOrder) :
    Json.Exclusive (Clause.groupIn? order) Condition.ofJson? ∧
    Json.Exclusive Json.toString? Fragment.ofJson? ∧
    (∀ json, Clause.itemIn? order json = tryBoth (order.groupFirst json)
      ((Clause.groupIn? order json).map .group) ((Condition.ofJson? json).map .condition)) ∧
    (∀ json, Clause.itemIn? order json = Clause.ofItem? json) ∧
    (∀ levels json, Clause.ofJsonIn? order levels json = Clause.ofJson? levels json) ∧
    (∀ levels json, FieldSource.ofJsonIn? order levels json = FieldSource.ofJson? levels json) ∧
    (∀ levels json, FieldRef.ofJsonIn? order levels json = FieldRef.ofJson? levels json) ∧
    ∀ json, Statement.ofJsonIn? order json = Statement.ofJson? json := by
  refine ⟨Clause.exclusive order, FieldSource.exclusive, Clause.itemIn?_eq_tryBoth order,
    Clause.itemIn?_eq order, fun levels json => ?clause, fun levels json => ?source,
    fun levels json => ?field, Statement.ofJsonIn?_eq order⟩
  case clause => rw [Clause.ofJsonIn?_eq]
  case source => rw [FieldSource.ofJsonIn?_eq]
  case field => rw [FieldRef.ofJsonIn?_eq]

/-- An array of a condition's fields stands beside a bracketed clause with a bracketed clause. -/
example :
    Clause.ofItems? [.array [.string "raw", .string "a"], .array [.array []]] =
      some (.condition { kind := .raw, column := "a" } (.group (.group .empty .empty) .empty)) :=
  rfl

end Crud
