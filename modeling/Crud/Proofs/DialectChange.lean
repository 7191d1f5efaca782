import Crud.Compiler
import Crud.Proofs.Recoding

/-!
# Changing the dialect

A dialect changes what a statement looks like only where the statement uses what the dialect has of
its own. Without full-text search, comparison of texts, membership in a text and straight joins, a
statement that adds no row is the same for SQLite as for the generic dialect. Without an offset, it
is the same for MySQL, with backquotes in the place of double quotes.
-/

namespace Crud

/-- The conditions that an action writes. -/
def Statement.writtenConditions (statement : Statement) : Action → List Condition
  | .select =>
    statement.joins.flatMap (·.conditions) ++ statement.whereClause.conditions ++
      statement.havingClause.conditions
  | .insert => []
  | .update | .delete => statement.whereClause.conditions

/-- Both targets write the statement alike under an action. -/
structure Target.RecodesStatement (recode : Char → Char) (left right : Target) (action : Action)
    (statement : Statement) : Prop extends left.Recodes recode right where
  /-- The texts outside conditions are not recoded. -/
  frame : ∀ text ∈ statement.frameTexts, Fixed recode text
  /-- The conditions. -/
  conditions : ∀ condition ∈ statement.writtenConditions action,
    left.RecodesCondition recode right condition
  /-- The kinds of joins, or the errors on them. -/
  joins : action = .select → ∀ join ∈ statement.joins,
    right.dialect.supportsJoin join.kind = left.dialect.supportsJoin join.kind ∧
      (left.dialect.supportsJoin join.kind = true ∨ right.dialect.name = left.dialect.name)
  /-- The markers of the bindings. -/
  markers : ∀ name ∈ statement.bindings.names, left.RecodesMarker recode right name
  /-- The page. -/
  page : ∀ page ∈ statement.page, right.dialect.page page = (left.dialect.page page).map recode
  /-- The insertion of a row. -/
  insertion : action = .insert → ∀ table assignments,
    right.dialect.insert (table.map recode)
        (assignments.map (Prod.map (String.map recode) (String.map recode))) =
      (left.dialect.insert table assignments).map recode

/-- Assignments, one after the other. -/
theorem writeAssignments_recoded {recode : Char → Char} (quotes : RecodesQuotes recode)
    (assignments : List (String × String)) :
    writeAssignments (assignments.map (Prod.map (String.map recode) (String.map recode))) =
      (writeAssignments assignments).map recode := by
  rw [writeAssignments, writeAssignments, Text.map_join, Text.map_of_free quotes _ (by decide),
    List.map_map, List.map_map]
  refine congrArg (Text.join ", ") (List.map_congr_left fun assignment _ => ?_)
  simp only [Function.comp_apply, Prod.map_fst, Prod.map_snd, String.map_append,
    Text.map_of_free quotes " = " (by decide)]

/-- A clause after its keyword. -/
theorem Target.Recodes.keywordClause {recode : Char → Char} {left right : Target}
    (alike : left.Recodes recode right) {keyword : String} (plain : '"' ∉ keyword.toList)
    {clause : Clause}
    (same : ∀ condition ∈ clause.conditions, left.RecodesCondition recode right condition) :
    right.keywordClause keyword clause =
      (left.keywordClause keyword clause).map (List.map (String.map recode)) := by
  rw [Target.keywordClause, Target.keywordClause, alike.clause clause same]
  cases left.clause clause with
  | error => rfl
  | ok body =>
    simp only [bind, Except.bind, Except.map, String.map_eq_empty]
    split
    · rfl
    · simp only [List.map_cons, List.map_nil, String.map_append,
        Text.map_of_free alike.quotes _ plain, Text.map_of_free alike.quotes " " (by decide)]

/-- A join. -/
theorem Target.Recodes.join {recode : Char → Char} {left right : Target}
    (alike : left.Recodes recode right) {join : Join} (table : Fixed recode join.table)
    (kind : right.dialect.supportsJoin join.kind = left.dialect.supportsJoin join.kind ∧
      (left.dialect.supportsJoin join.kind = true ∨ right.dialect.name = left.dialect.name))
    (conditions : ∀ condition ∈ join.conditions, left.RecodesCondition recode right condition) :
    right.join join = (left.join join).map (String.map recode) := by
  have body := alike.clause (.ofList join.conditions) <| by
    rwa [Clause.conditions_ofList]
  have keyword : join.kind.keyword.map recode = join.kind.keyword :=
    Text.map_of_free alike.quotes _ (by cases join.kind <;> decide)
  simp only [Target.join, kind.1, body, alike.table table]
  cases known : left.dialect.supportsJoin join.kind with
  | false =>
    have sameName := kind.2.resolve_left (by rw [known]; decide)
    simp only [Bool.false_eq_true, ↓reduceIte, sameName]
    rfl
  | true =>
    simp only [↓reduceIte]
    split
    · simp only [Except.map, String.map_append, keyword,
        Text.map_of_free alike.quotes " " (by decide)]
    · cases left.clause (.ofList join.conditions) with
      | error => rfl
      | ok text =>
        simp only [bind, Except.bind, Except.map, String.map_append, keyword,
          Text.map_of_free alike.quotes " " (by decide),
          Text.map_of_free alike.quotes " ON " (by decide)]

namespace Target.RecodesStatement

variable {recode : Char → Char} {left right : Target} {action : Action} {statement : Statement}
variable (alike : left.RecodesStatement recode right action statement)

include alike

/-- The texts of the parts outside conditions. -/
theorem fixed_parts :
    (∀ table ∈ statement.tables, ∀ text ∈ table.texts, Fixed recode text) ∧
    (∀ field ∈ statement.fields, ∀ text ∈ field.texts, Fixed recode text) ∧
    (∀ entry ∈ statement.groups, ∀ text ∈ entry.texts, Fixed recode text) ∧
    (∀ entry ∈ statement.orders, Fixed recode entry.column) ∧
    (∀ join ∈ statement.joins, Fixed recode join.table) ∧
    ∀ name ∈ statement.bindings.names, Fixed recode name := by
  have frame := alike.frame
  simp only [Statement.frameTexts, List.forall_mem_append, List.forall_mem_flatMap,
    List.forall_mem_map] at frame
  obtain ⟨⟨⟨⟨⟨tables, fields⟩, groups⟩, orders⟩, joins⟩, names⟩ := frame
  exact ⟨tables, fields, groups, orders, joins, names⟩

/-- A text before the quoted name of an alias, if there is one. -/
theorem withAlias {source source' : String} (same : source' = source.map recode)
    {aliasName : Option String} (fixed : ∀ text ∈ aliasName, Fixed recode text) :
    (match aliasName with
      | some name => source' ++ " AS " ++ right.quoter.aliasName name
      | none => source') =
    (match aliasName with
      | some name => source ++ " AS " ++ left.quoter.aliasName name
      | none => source).map recode := by
  cases aliasName with
  | none => exact same
  | some name =>
    simp only [same, alike.toRecodes.aliasName (fixed name rfl), String.map_append,
      Text.map_of_free alike.quotes " AS " (by decide)]

/-- The tables. -/
theorem tables :
    Text.join ", " (statement.tables.map right.tableRef) =
      (Text.join ", " (statement.tables.map left.tableRef)).map recode := by
  obtain ⟨fixed, -⟩ := alike.fixed_parts
  rw [Text.map_join, Text.map_of_free alike.quotes _ (by decide), List.map_map]
  refine congrArg (Text.join ", ") (List.map_congr_left fun table listed => ?_)
  have texts := fixed table listed
  simp only [TableRef.texts, List.forall_mem_cons, Option.mem_toList] at texts
  exact alike.withAlias (alike.toRecodes.table texts.1) texts.2

/-- The fields. -/
theorem fields : right.fields statement = (left.fields statement).map recode := by
  obtain ⟨-, fixed, -⟩ := alike.fixed_parts
  unfold Target.fields
  split
  · exact (Text.map_of_free alike.quotes _ (by decide)).symm
  rw [Text.map_join, Text.map_of_free alike.quotes _ (by decide), List.map_map]
  refine congrArg (Text.join ", ") (List.map_congr_left fun field listed => ?_)
  have texts := fixed field listed
  simp only [FieldRef.texts, List.forall_mem_append, Option.mem_toList] at texts
  refine alike.withAlias ?_ texts.2
  cases shown : field.source with
  | column name =>
    rw [shown] at texts
    exact alike.toRecodes.column (texts.1 name List.mem_cons_self)
  | fragment part =>
    rw [shown] at texts
    exact (Text.map_of_fixed (part.fixed_inline alike.quotes texts.1)).symm

/-- The grouping. -/
theorem grouping :
    right.grouping statement.groups = (left.grouping statement.groups).map (String.map recode) := by
  obtain ⟨-, -, fixed, -⟩ := alike.fixed_parts
  unfold Target.grouping
  cases last : statement.groups.getLast? with
  | none => rfl
  | some entry =>
    have columns : statement.groups.map (fun group => right.quoter.column group.column) =
        (statement.groups.map fun group => left.quoter.column group.column).map
          (String.map recode) := by
      rw [List.map_map]
      exact List.map_congr_left fun group listed =>
        alike.toRecodes.column (fixed group listed _ List.mem_cons_self)
    have modifier : ∀ text ∈ entry.modifier, Fixed recode text := fun text given =>
      fixed entry (List.mem_of_getLast? last) text
        (List.mem_cons_of_mem _ (Option.mem_toList.mpr given))
    have words := Text.fixed_trimmed? modifier
    simp only [List.map_cons, List.map_nil, String.map_append, Text.map_join, columns,
      Text.map_of_free alike.quotes ", " (by decide),
      Text.map_of_free alike.quotes "GROUP BY " (by decide)]
    cases given : entry.modifier.bind Text.trimmed? with
    | none => rw [String.map_eq_empty.mpr rfl]
    | some text =>
      simp only [String.map_append, Text.map_of_fixed (words text given),
        Text.map_of_free alike.quotes " " (by decide)]

/-- The order and the page. -/
theorem orderAndPage :
    right.orderAndPage statement = (left.orderAndPage statement).map (String.map recode) := by
  obtain ⟨-, -, -, fixed, -⟩ := alike.fixed_parts
  have direction (direction : Direction) : direction.name.map recode = direction.name :=
    Text.map_of_free alike.quotes _ (by cases direction <;> decide)
  have order :
      right.order statement.orders = (left.order statement.orders).map (String.map recode) := by
    unfold Target.order
    split
    · rfl
    · simp only [List.map_cons, List.map_nil, String.map_append, Text.map_join, List.map_map,
        Text.map_of_free alike.quotes ", " (by decide),
        Text.map_of_free alike.quotes "ORDER BY " (by decide)]
      refine congrArg (fun entries => ["ORDER BY " ++ Text.join ", " entries])
        (List.map_congr_left fun entry listed => ?_)
      simp only [Function.comp_apply, alike.toRecodes.column (fixed entry listed),
        String.map_append, direction, Text.map_of_free alike.quotes " " (by decide)]
  have page := alike.page
  rw [Target.orderAndPage, Target.orderAndPage, order, List.map_append]
  cases given : statement.page with
  | none => rfl
  | some wanted =>
    simp only [Option.map_some, Option.toList_some, List.map_cons, List.map_nil, page wanted given]

/-- The joins. -/
theorem joinTexts (select : action = .select) :
    right.joins statement.joins =
      (left.joins statement.joins).map (List.map (String.map recode)) := by
  obtain ⟨-, -, -, -, tables, -⟩ := alike.fixed_parts
  have kinds := alike.joins select
  have conditions := alike.conditions
  rw [select] at conditions
  simp only [Statement.writtenConditions, List.forall_mem_append, List.forall_mem_flatMap]
    at conditions
  have each (join : Join) (listed : join ∈ statement.joins) :
      right.join join = (left.join join).map (String.map recode) :=
    alike.toRecodes.join (tables join listed) (kinds join listed) (conditions.1.1 join listed)
  generalize statement.joins = joins at each
  induction joins with
  | nil => rfl
  | cons first rest ih =>
    rw [List.forall_mem_cons] at each
    rw [Target.joins, Target.joins, each.1, ih each.2]
    cases left.join first <;> cases left.joins rest <;> rfl

/-- The first table. -/
theorem firstTable :
    right.firstTable statement.tables = (left.firstTable statement.tables).map recode := by
  obtain ⟨fixed, -⟩ := alike.fixed_parts
  unfold Target.firstTable
  refine alike.toRecodes.table ?_
  cases given : statement.tables with
  | nil => exact Text.fixed_of_free alike.quotes _ (by decide)
  | cons first rest =>
    rw [given, List.forall_mem_cons] at fixed
    exact fixed.1 first.table List.mem_cons_self

/-- The assignments. -/
theorem assignments (excluded : List String) :
    right.assignments excluded statement.bindings =
      (left.assignments excluded statement.bindings).map
        (Prod.map (String.map recode) (String.map recode)) := by
  obtain ⟨-, -, -, -, -, fixed⟩ := alike.fixed_parts
  rw [Target.assignments, Target.assignments, List.map_map]
  refine List.map_congr_left fun name listed => ?_
  have isName := (List.mem_filter.mp listed).1
  exact Prod.ext (alike.toRecodes.column (fixed name isName)) (alike.markers name isName)

/-- Texts with a blank between them. -/
theorem joinWords {parts parts' : List String} (same : parts' = parts.map (String.map recode)) :
    Text.join " " parts' = (Text.join " " parts).map recode := by
  rw [Text.map_join, Text.map_of_free alike.quotes _ (by decide), same]

/-- The statement that reads rows. -/
theorem select (reads : action = .select) :
    right.select statement = (left.select statement).map (String.map recode) := by
  have conditions := alike.conditions
  rw [reads] at conditions
  simp only [Statement.writtenConditions, List.forall_mem_append] at conditions
  obtain ⟨⟨-, rows⟩, groups⟩ := conditions
  rw [Target.select, Target.select, alike.joinTexts reads,
    alike.keywordClause (by decide) rows, alike.keywordClause (by decide) groups]
  unfold requireTables
  split
  · rfl
  cases left.joins statement.joins with
  | error => rfl
  | ok joins =>
    cases left.keywordClause "WHERE" statement.whereClause with
    | error => rfl
    | ok rows =>
      cases left.keywordClause "HAVING" statement.havingClause with
      | error => rfl
      | ok groups =>
        refine congrArg Except.ok (alike.joinWords ?_)
        have words : (if statement.distinct then ["DISTINCT"] else []).map (String.map recode) =
            if statement.distinct then ["DISTINCT"] else [] := by
          split <;> simp (disch := decide) only [List.map_cons, List.map_nil,
            Text.map_of_free alike.quotes]
        simp (disch := decide) only [List.map_append, List.map_cons, List.map_nil, words,
          alike.fields, alike.tables, alike.grouping, alike.orderAndPage,
          Text.map_of_free alike.quotes]

/-- The statement that adds a row. -/
theorem insert (adds : action = .insert) :
    right.insert statement = (left.insert statement).map (String.map recode) := by
  rw [Target.insert, Target.insert, alike.assignments]
  unfold requireTables
  split
  · rfl
  show (if (List.map _ _).isEmpty then _ else _) =
    Except.map _ (if (left.assignments [] statement.bindings).isEmpty then _ else _)
  rw [List.isEmpty_map]
  split
  · rfl
  · rw [alike.firstTable, alike.insertion adds]
    rfl

/-- The statement that changes rows. -/
theorem update (changes : action = .update) :
    right.update statement = (left.update statement).map (String.map recode) := by
  have rows := alike.conditions
  rw [changes] at rows
  rw [Target.update, Target.update, alike.assignments, alike.keywordClause (by decide) rows]
  unfold requireTables
  split
  · rfl
  show (if (List.map _ _).isEmpty then _ else _) =
    Except.map _ (if (left.assignments _ statement.bindings).isEmpty then _ else _)
  rw [List.isEmpty_map]
  split
  · rfl
  cases left.keywordClause "WHERE" statement.whereClause with
  | error => rfl
  | ok rows =>
    refine congrArg Except.ok (alike.joinWords ?_)
    simp (disch := decide) only [List.map_append, List.map_cons, List.map_nil, String.map_append,
      alike.firstTable, writeAssignments_recoded alike.quotes, alike.orderAndPage,
      Text.map_of_free alike.quotes]

/-- The statement that removes rows. -/
theorem delete (removes : action = .delete) :
    right.delete statement = (left.delete statement).map (String.map recode) := by
  have rows := alike.conditions
  rw [removes] at rows
  rw [Target.delete, Target.delete, alike.keywordClause (by decide) rows]
  unfold requireTables
  split
  · rfl
  cases left.keywordClause "WHERE" statement.whereClause with
  | error => rfl
  | ok rows =>
    refine congrArg Except.ok (alike.joinWords ?_)
    simp (disch := decide) only [List.map_append, List.map_cons, List.map_nil,
      alike.firstTable, alike.orderAndPage, Text.map_of_free alike.quotes]

/-- A statement in the form of its action. -/
theorem assemble :
    right.assemble action statement = (left.assemble action statement).map (String.map recode) := by
  cases same : action with
  | select => exact alike.select same
  | insert => exact alike.insert same
  | update => exact alike.update same
  | delete => exact alike.delete same

end Target.RecodesStatement

/-- The conditions of a statement, those of its joins included. -/
def Statement.conditions (statement : Statement) : List Condition :=
  statement.joins.flatMap (·.conditions) ++ statement.whereClause.conditions ++
    statement.havingClause.conditions

/-- The texts of a statement. The values for its placeholders are not among them, as they are not
written. -/
def Statement.texts (statement : Statement) : List String :=
  statement.frameTexts ++ statement.conditions.flatMap Condition.texts

/-- An action writes conditions of the statement. -/
theorem Statement.writtenConditions_subset (statement : Statement) (action : Action) :
    statement.writtenConditions action ⊆ statement.conditions := by
  intro condition written
  cases action with
  | select => exact written
  | insert => contradiction
  | update | delete =>
    exact List.mem_append_left _ (List.mem_append_right _ written)

namespace Dialect

/-- Operators that both dialects write by the common rendering. -/
theorem recodesOperator_of_common {recode : Char → Char} {left right : Dialect}
    {operator : Operator} (known : left.supports operator = true ∧ right.supports operator = true)
    (plain : ∀ operands, left.render operator operands = none ∧
      right.render operator operands = none) :
    left.RecodesOperator recode right operator where
  render operands := by rw [(plain _).1, (plain _).2, Option.map_none]
  supports := known.2.trans known.1.symm
  name := .inl known.1

/-- The operators that SQLite has in the form of the generic dialect. -/
def CommonInSqlite (operator : Operator) : Prop :=
  operator ≠ .fullText ∧ operator ≠ .compareText ∧ operator ≠ .inSet

instance : DecidablePred CommonInSqlite := fun operator =>
  inferInstanceAs (Decidable (operator ≠ .fullText ∧ operator ≠ .compareText ∧ operator ≠ .inSet))

/-- Double quotes become backquotes. -/
def backquoted (char : Char) : Char := if char = '"' then '\x60' else char

/-- Nothing but double quotes becomes a backquote. -/
theorem recodesQuotes_backquoted : RecodesQuotes backquoted := fun _ other => if_neg other

end Dialect

open Dialect

/-- SQLite writes a statement like the generic dialect. -/
theorem Target.recodesStatement_sqlite (tablePrefix : Option String) {statement : Statement}
    (action : statement.action ≠ .insert)
    (operators : ∀ condition ∈ statement.conditions,
      condition.kind = .raw ∨ CommonInSqlite condition.operator)
    (joins : ∀ join ∈ statement.joins, join.kind ≠ .straight) :
    Target.RecodesStatement id ⟨.generic, tablePrefix⟩ ⟨.sqlite, tablePrefix⟩ statement.action
      statement where
  quotes _ _ := rfl
  quote := rfl
  tablePrefix := rfl
  fixedPrefix _ _ _ _ := rfl
  placeholder := String.map_id.symm
  frame _ _ _ _ := rfl
  conditions condition written := {
    texts _ _ _ _ := rfl
    markers _ _ := String.map_id.symm
    operator notRaw := by
      obtain ⟨search, compare, set⟩ :=
        (operators condition (statement.writtenConditions_subset _ written)).resolve_left notRaw
      refine recodesOperator_of_common ⟨rfl, ?_⟩ fun operands => ⟨rfl, if_neg search⟩
      simp only [sqlite, bne_iff_ne.mpr compare, bne_iff_ne.mpr set, Bool.and_self] }
  joins _ join joined := ⟨bne_iff_ne.mpr (joins join joined), .inl rfl⟩
  markers _ _ := String.map_id.symm
  page _ _ := String.map_id.symm
  insertion adds := absurd adds action

/-- MySQL writes a statement like the generic dialect, with backquotes. -/
theorem Target.recodesStatement_mysql (tablePrefix : Option String) {statement : Statement}
    (page : ∀ page ∈ statement.page, page.offset = none)
    (free : ∀ text ∈ statement.texts ++ tablePrefix.toList, '"' ∉ text.toList) :
    Target.RecodesStatement backquoted ⟨.generic, tablePrefix⟩ ⟨.mysql, tablePrefix⟩
      statement.action statement := by
  have fixed : ∀ text ∈ statement.texts ++ tablePrefix.toList, Fixed backquoted text :=
    fun text listed => Text.fixed_of_free recodesQuotes_backquoted text (free text listed)
  simp only [Statement.texts, List.forall_mem_append, List.forall_mem_flatMap, Option.mem_toList]
    at fixed
  obtain ⟨⟨frame, conditions⟩, fixedPrefix⟩ := fixed
  have marker {name : String} (fixed : Fixed backquoted name) :
      Target.RecodesMarker backquoted ⟨.generic, tablePrefix⟩ ⟨.mysql, tablePrefix⟩ name := by
    show ":" ++ name = (":" ++ name).map backquoted
    rw [String.map_append, Text.map_of_fixed fixed,
      Text.map_of_free recodesQuotes_backquoted ":" (by decide)]
  exact {
    quotes := recodesQuotes_backquoted
    quote := rfl
    tablePrefix := rfl
    fixedPrefix
    placeholder := (Text.map_of_free recodesQuotes_backquoted "?" (by decide)).symm
    frame
    conditions := fun condition written => {
      texts := conditions condition (statement.writtenConditions_subset _ written)
      markers := fun name used => marker <|
        conditions condition (statement.writtenConditions_subset _ written) name <| by
          cases shown : condition.operand with
          | named names =>
            rw [shown] at used
            simp only [Condition.texts, shown, Operand.texts, List.mem_cons, List.mem_append]
            exact .inr (.inl used)
          | _ => rw [shown] at used; contradiction
      operator := fun _ => recodesOperator_of_common ⟨rfl, rfl⟩ fun _ => ⟨rfl, rfl⟩ }
    joins := fun _ _ _ => ⟨rfl, .inl rfl⟩
    markers := fun name bound => marker (frame name (List.mem_append_right _ bound))
    page := fun wanted given => by
      have limit : '"' ∉ (toString wanted.limit).toList := by
        rw [show toString wanted.limit = wanted.limit.toNat.repr from rfl, Nat.toList_repr]
        exact Value.quote_not_mem_of_numeric (.toDigits _)
      simp only [mysql, generic, page wanted given, String.map_append,
        Text.map_of_free recodesQuotes_backquoted _ limit,
        Text.map_of_free recodesQuotes_backquoted "LIMIT " (by decide), String.append_empty]
    insertion := fun _ table assignments => by
      show "INSERT INTO " ++ _ ++ " SET " ++ writeAssignments _ =
        ("INSERT INTO " ++ _ ++ " SET " ++ writeAssignments _).map backquoted
      simp (disch := decide) only [String.map_append,
        writeAssignments_recoded recodesQuotes_backquoted,
        Text.map_of_free recodesQuotes_backquoted] }

/-- Changing the dialect changes what the dialect has of its own. A statement that adds no row and
uses neither a full-text search, a comparison of texts, a membership in a text nor a straight join
is the same for SQLite as for the generic dialect, and so is the error. A statement without an
offset, in which no text has a double quote, is the same for MySQL with backquotes, and the error
is the same. -/
theorem Target.compile_of_dialect_changed (tablePrefix : Option String) (statement : Statement) :
    (statement.action ≠ .insert →
      (∀ condition ∈ statement.conditions,
        condition.kind = .raw ∨ CommonInSqlite condition.operator) →
      (∀ join ∈ statement.joins, join.kind ≠ .straight) →
      Target.compile ⟨.sqlite, tablePrefix⟩ statement =
        Target.compile ⟨.generic, tablePrefix⟩ statement) ∧
    ((∀ page ∈ statement.page, page.offset = none) →
      (∀ text ∈ statement.texts ++ tablePrefix.toList, '"' ∉ text.toList) →
      Target.compile ⟨.mysql, tablePrefix⟩ statement =
        (Target.compile ⟨.generic, tablePrefix⟩ statement).map (String.map backquoted)) := by
  constructor
  · intro action operators joins
    have alike := recodesStatement_sqlite tablePrefix action operators joins
    rw [Target.compile, Target.compile, alike.assemble]
    cases Target.assemble ⟨.generic, tablePrefix⟩ statement.action statement with
    | error => rfl
    | ok text => exact congrArg Except.ok String.map_id
  · intro page free
    exact (recodesStatement_mysql tablePrefix page free).assemble

/-- A statement with a fragment among its fields, a join and a page. -/
def sampleListing : Statement where
  action := .select
  tables := [⟨"users", none⟩]
  fields := [⟨.column "users.id", none⟩, ⟨.fragment ⟨"age > %d", [.int 2]⟩, some "old"⟩]
  page := some ⟨5, none⟩
  joins := [Join.on { table := "orders", kind := .left } "users.id" .equal "user_id" .and]

/-- The listing for SQLite is that for the generic dialect, and for MySQL it has backquotes. -/
theorem sampleListing_changes_quotes :
    sampleListing.action ≠ .insert ∧
    (∀ condition ∈ sampleListing.conditions,
      condition.kind = .raw ∨ CommonInSqlite condition.operator) ∧
    (∀ join ∈ sampleListing.joins, join.kind ≠ .straight) ∧
    (∀ page ∈ sampleListing.page, page.offset = none) ∧
    (∀ text ∈ sampleListing.texts ++ ["app_"], '"' ∉ text.toList) ∧
    Target.compile ⟨.sqlite, some "app_"⟩ sampleListing =
      Target.compile ⟨.generic, some "app_"⟩ sampleListing ∧
    Target.compile ⟨.mysql, some "app_"⟩ sampleListing =
      (Target.compile ⟨.generic, some "app_"⟩ sampleListing).map (String.map backquoted) ∧
    Target.compile ⟨.generic, some "app_"⟩ sampleListing =
      .ok ("SELECT \"app_users\".\"id\", age > 2 AS \"old\" FROM \"app_users\" " ++
        "LEFT JOIN \"app_orders\" ON \"app_users\".\"id\" = \"user_id\" LIMIT 5") ∧
    Target.compile ⟨.mysql, some "app_"⟩ sampleListing =
      .ok ("SELECT \x60app_users\x60.\x60id\x60, age > 2 AS \x60old\x60 FROM \x60app_users\x60 " ++
        "LEFT JOIN \x60app_orders\x60 ON \x60app_users\x60.\x60id\x60 = \x60user_id\x60 " ++
        "LIMIT 5") := by
  have action : sampleListing.action ≠ .insert := by decide
  have operators : ∀ condition ∈ sampleListing.conditions,
      condition.kind = .raw ∨ CommonInSqlite condition.operator := by decide
  have joins : ∀ join ∈ sampleListing.joins, join.kind ≠ .straight := by decide
  have page : ∀ page ∈ sampleListing.page, page.offset = none := by decide
  have free : ∀ text ∈ sampleListing.texts ++ ["app_"], '"' ∉ text.toList := by decide
  obtain ⟨sqlite, mysql⟩ := Target.compile_of_dialect_changed (some "app_") sampleListing
  exact ⟨action, operators, joins, page, free, sqlite action operators joins, mysql page free,
    rfl, rfl⟩

end Crud
