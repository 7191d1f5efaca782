import Crud.Proofs.ColumnReferences
import Crud.Proofs.DialectChange
import Crud.Proofs.KeptConditions

/-!
# References to aliased tables

A statement that reads rows writes its columns in fields, conditions, joins, grouping and order, and
each of them stands in its text as the quoter writes it. So does every reference in them to the
alias of a table; but the quoter gives the alias in a reference the prefix of tables, and where the
alias is declared it has none. The two agree exactly without a prefix.
-/

namespace Crud

/-- The texts of an operand that are written as columns. -/
def Operand.columnTexts : Operand → List String
  | column name => [name]
  | absent | scalar _ | list _ | range _ _ | fragment _ | named _ | subquery _ => []

/-- The texts of a condition that are written as columns. -/
def Condition.columnTexts (condition : Condition) : List String :=
  if condition.kind = .raw then []
  else condition.column ::
    if condition.operator.valueless then [] else condition.operand.columnTexts

/-- The texts of what a field shows that are written as columns. -/
def FieldSource.columnTexts : FieldSource → List String
  | column name => [name]
  | fragment _ => []

/-- The texts of a statement that reads rows that are written as columns: those of its fields, of
its conditions and the conditions of its joins, of its grouping and of its order. -/
def Statement.columnTexts (statement : Statement) : List String :=
  statement.fields.flatMap (·.source.columnTexts) ++
    statement.conditions.flatMap Condition.columnTexts ++
    statement.groups.map (·.column) ++ statement.orders.map (·.column)

open Text

/-- The common rendering shows the column. -/
theorem infix_commonRendering_column (operator : Operator) (operands : Operands) :
    operands.column.toList <:+: (commonRendering operator operands).toList := by
  cases operator
  all_goals
    dsimp only [commonRendering]
    with_reducible
      repeat first
        | exact List.infix_rfl
        | exact String.infix_append_right List.infix_rfl _
        | refine String.infix_append_left ?_ _

/-- The common rendering shows the value, unless the operator asks about the column alone or there
are two bounds. -/
theorem infix_commonRendering_value {operator : Operator} (shows : operator.valueless = false)
    {operands : Operands} (single : operands.range = none) :
    operands.value.toList <:+: (commonRendering operator operands).toList := by
  obtain ⟨column, value, range, modifier⟩ := operands
  obtain rfl : range = none := single
  cases operator
  case isTrue | isFalse | isNull | isNotNull => contradiction
  all_goals
    dsimp only [commonRendering]
    with_reducible
      repeat first
        | exact String.infix_append_right List.infix_rfl _
        | refine String.infix_append_left ?_ _

/-- A list of columns stands in the left side of a comparison. -/
theorem Quoter.infix_comparedColumn (quoter : Quoter) (text : String) :
    (quoter.column text).toList <:+: (quoter.comparedColumn text).toList := by
  unfold comparedColumn
  split
  · exact String.infix_append_left (String.infix_append_right List.infix_rfl _) _
  · exact List.infix_rfl

/-- What a dialect renders on its own shows the column and the value. -/
def Dialect.ShowsOperands (dialect : Dialect) : Prop :=
  ∀ operator operands text, dialect.render operator operands = some text →
    operands.column.toList <:+: text.toList ∧ operands.value.toList <:+: text.toList

/-- The dialects of the library show the column and the value. -/
theorem Dialect.showsOperands_of_shipped {dialect : Dialect} (listed : dialect ∈ shipped) :
    dialect.ShowsOperands := by
  intro operator operands text rendered
  simp only [shipped, List.mem_cons, List.not_mem_nil, or_false] at listed
  rcases listed with rfl | rfl | rfl
  · contradiction
  · contradiction
  · change (if operator = .fullText then some (operands.column ++ " MATCH " ++ operands.value)
      else none) = some text at rendered
    split at rendered
    · cases rendered
      exact ⟨String.infix_append_left (String.infix_append_left List.infix_rfl _) _,
        String.infix_append_right List.infix_rfl _⟩
    · contradiction

namespace Target

/-- Every text among the columns stands in the text as the target writes it. -/
def ShowsColumns (target : Target) (columns : List String) (text : String) : Prop :=
  ∀ name ∈ columns, (target.quoter.column name).toList <:+: text.toList

variable {target : Target} (shows : target.dialect.ShowsOperands)

include shows

/-- A condition shows its columns. -/
theorem condition_shows_columns {condition : Condition} {text : String}
    (rendered : target.condition condition = .ok text) :
    target.ShowsColumns condition.columnTexts text := by
  unfold ShowsColumns
  by_cases raw : condition.kind = .raw
  · rw [Condition.columnTexts, if_pos raw]
    nofun
  rw [Condition.columnTexts, if_neg raw, List.forall_mem_cons]
  have left : (target.quoter.column condition.column).toList <:+:
      (target.operands condition).column.toList := by
    unfold operands
    dsimp only
    split
    · exact List.infix_rfl
    · exact target.quoter.infix_comparedColumn condition.column
  have right : ∀ name ∈ condition.operand.columnTexts,
      (target.operands condition).value = target.quoter.column name ∧
        (target.operands condition).range = none := by
    intro name listed
    unfold operands
    cases shown : condition.operand with
    | column other =>
      rw [shown] at listed
      rw [List.mem_singleton.mp listed]
      exact ⟨rfl, rfl⟩
    | _ =>
      rw [shown] at listed
      contradiction
  rw [target.condition_of_ne_raw raw] at rendered
  split at rendered
  next own found =>
    cases rendered
    obtain ⟨column, value⟩ := shows _ _ _ found
    refine ⟨left.trans column, fun name listed => ?_⟩
    split at listed
    · contradiction
    · rw [← (right name listed).1]
      exact value
  next =>
    split at rendered
    · cases rendered
      refine ⟨left.trans (infix_commonRendering_column _ _), fun name listed => ?_⟩
      split at listed
      · contradiction
      next valueless =>
        obtain ⟨value, single⟩ := right name listed
        rw [← value]
        exact infix_commonRendering_value (Bool.not_eq_true _ ▸ valueless) single
    · contradiction

/-- The body of a clause shows the columns of every condition, at any depth. -/
theorem clause_shows_columns {clause : Clause} {body : String}
    (rendered : target.clause clause = .ok body) :
    target.ShowsColumns (clause.conditions.flatMap Condition.columnTexts) body := by
  intro name listed
  obtain ⟨condition, inClause, isColumn⟩ := List.mem_flatMap.mp listed
  obtain ⟨text, own, stands⟩ := shows_of_mem_conditions rendered condition inClause
  exact (condition_shows_columns shows own name isColumn).trans stands

/-- A clause after its keyword shows its columns in every text that has the clause among its words.
-/
theorem keywordClause_shows_columns {keyword : String} {clause : Clause} {words : List String}
    (rendered : target.keywordClause keyword clause = .ok words) {parts : List String}
    (inside : words ⊆ parts) :
    target.ShowsColumns (clause.conditions.flatMap Condition.columnTexts)
      (Text.join " " parts) := by
  intro name listed
  cases ran : target.clause clause with
  | error error =>
    rw [keywordClause, ran] at rendered
    cases rendered
  | ok body =>
    have stands := clause_shows_columns shows ran name listed
    rw [target.keywordClause_of_rendered keyword ran] at rendered
    cases rendered
    by_cases blank : body = ""
    · -- A body without characters shows columns without characters, which stand anywhere.
      rw [blank] at stands
      rw [List.infix_nil.mp stands]
      exact List.nil_infix
    · rw [if_neg blank] at inside
      have word := String.infix_append_right stands (keyword ++ " ")
      exact word.trans (Text.infix_join " " (inside List.mem_cons_self))

/-- A join shows the columns of its conditions. -/
theorem join_shows_columns {join : Join} {text : String} (rendered : target.join join = .ok text) :
    target.ShowsColumns (join.conditions.flatMap Condition.columnTexts) text := by
  intro name listed
  unfold Target.join at rendered
  split at rendered
  · split at rendered
    next none =>
      rw [List.isEmpty_iff.mp none] at listed
      contradiction
    next =>
      cases ran : target.clause (.ofList join.conditions) with
      | error error =>
        rw [ran] at rendered
        cases rendered
      | ok body =>
        rw [ran] at rendered
        cases rendered
        have stands := clause_shows_columns shows ran name (by rwa [Clause.conditions_ofList])
        exact String.infix_append_right stands _
  · contradiction

omit shows

/-- Joins are rendered one by one. -/
theorem exists_of_mem_joins {joins : List Join} {texts : List String}
    (rendered : target.joins joins = .ok texts) :
    ∀ join ∈ joins, ∃ text ∈ texts, target.join join = .ok text := by
  induction joins generalizing texts with
  | nil => nofun
  | cons first rest ih =>
    rw [Target.joins] at rendered
    cases own : target.join first with
    | error error =>
      rw [own] at rendered
      cases rendered
    | ok text =>
      cases others : target.joins rest with
      | error error =>
        rw [own, others] at rendered
        cases rendered
      | ok more =>
        rw [own, others] at rendered
        cases rendered
        rw [List.forall_mem_cons]
        refine ⟨⟨text, List.mem_cons_self, own⟩, fun join listed => ?_⟩
        obtain ⟨found, isText, same⟩ := ih others join listed
        exact ⟨found, List.mem_cons_of_mem _ isText, same⟩

/-- A statement that reads rows is rendered when its joins and clauses are. -/
theorem exists_of_select {statement : Statement} {sql : String}
    (compiled : target.select statement = .ok sql) :
    ∃ joins rows groups, target.joins statement.joins = .ok joins ∧
      target.keywordClause "WHERE" statement.whereClause = .ok rows ∧
      target.keywordClause "HAVING" statement.havingClause = .ok groups ∧
      sql = Text.join " " (["SELECT"] ++ (if statement.distinct then ["DISTINCT"] else []) ++
        [target.fields statement, "FROM",
          Text.join ", " (statement.tables.map target.tableRef)] ++
        joins ++ rows ++ target.grouping statement.groups ++ groups ++
        target.orderAndPage statement) := by
  unfold Target.select requireTables at compiled
  split at compiled
  · cases compiled
  cases joins : target.joins statement.joins with
  | error error =>
    rw [joins] at compiled
    cases compiled
  | ok joined =>
    cases rows : target.keywordClause "WHERE" statement.whereClause with
    | error error =>
      rw [joins, rows] at compiled
      cases compiled
    | ok conditions =>
      cases groups : target.keywordClause "HAVING" statement.havingClause with
      | error error =>
        rw [joins, rows, groups] at compiled
        cases compiled
      | ok conditions' =>
        rw [joins, rows, groups] at compiled
        cases compiled
        exact ⟨joined, conditions, conditions', rfl, rfl, rfl, rfl⟩

/-- A field shows its column. -/
theorem field_shows_columns (field : FieldRef) :
    target.ShowsColumns field.source.columnTexts (target.field field) := by
  intro name listed
  unfold Target.field
  cases shown : field.source with
  | fragment part =>
    rw [shown] at listed
    contradiction
  | column other =>
    rw [shown] at listed
    rw [List.mem_singleton.mp listed]
    cases field.aliasName with
    | none => exact List.infix_rfl
    | some aliasName => exact String.infix_append_left (String.infix_append_left List.infix_rfl _) _

/-- The fields show their columns. -/
theorem fields_show_columns (statement : Statement) :
    target.ShowsColumns (statement.fields.flatMap (·.source.columnTexts))
      (target.fields statement) := by
  intro name listed
  obtain ⟨field, isField, isColumn⟩ := List.mem_flatMap.mp listed
  have some : ¬statement.fields.isEmpty = true := by
    rw [List.isEmpty_iff]
    exact List.ne_nil_of_mem isField
  rw [Target.fields, if_neg some]
  exact (field_shows_columns field name isColumn).trans
    (Text.infix_join ", " (List.mem_map.mpr ⟨field, isField, rfl⟩))

/-- The grouping shows its columns. -/
theorem grouping_shows_columns (groups : List GroupEntry) :
    ∀ name ∈ groups.map (·.column), ∃ word ∈ target.grouping groups,
      (target.quoter.column name).toList <:+: word.toList := by
  intro name listed
  obtain ⟨entry, isEntry, rfl⟩ := List.mem_map.mp listed
  have columns := Text.infix_join ", "
    (List.mem_map.mpr ⟨entry, isEntry, rfl⟩ : target.quoter.column entry.column ∈
      groups.map fun group => target.quoter.column group.column)
  unfold Target.grouping
  cases last : groups.getLast? with
  | none =>
    rw [List.getLast?_eq_none_iff.mp last] at isEntry
    contradiction
  | some final =>
    exact ⟨_, List.mem_cons_self, String.infix_append_left (String.infix_append_right columns _) _⟩

/-- The order shows its columns. -/
theorem order_shows_columns (orders : List OrderEntry) :
    ∀ name ∈ orders.map (·.column), ∃ word ∈ target.order orders,
      (target.quoter.column name).toList <:+: word.toList := by
  intro name listed
  obtain ⟨entry, isEntry, rfl⟩ := List.mem_map.mp listed
  have some : ¬orders.isEmpty = true := by
    rw [List.isEmpty_iff]
    exact List.ne_nil_of_mem isEntry
  rw [Target.order, if_neg some]
  refine ⟨_, List.mem_cons_self, String.infix_append_right ?_ _⟩
  have inside : (target.quoter.column entry.column).toList <:+:
      (target.quoter.column entry.column ++ " " ++ entry.direction.name).toList :=
    String.infix_append_left (String.infix_append_left List.infix_rfl _) _
  exact inside.trans (Text.infix_join ", " (List.mem_map.mpr ⟨entry, isEntry, rfl⟩))

/-- A statement that reads rows declares its tables and shows its columns. -/
theorem select_shows_columns (shows : target.dialect.ShowsOperands) {statement : Statement}
    {sql : String} (compiled : target.select statement = .ok sql) :
    (∀ table ∈ statement.tables, (target.tableRef table).toList <:+: sql.toList) ∧
      target.ShowsColumns statement.columnTexts sql := by
  obtain ⟨joins, rows, groups, joined, conditions, having, rfl⟩ := exists_of_select compiled
  constructor
  · intro table listed
    have inside := Text.infix_join ", " (List.mem_map.mpr ⟨table, listed, rfl⟩ :
      target.tableRef table ∈ statement.tables.map target.tableRef)
    refine inside.trans (Text.infix_join " " ?_)
    simp only [List.mem_append, List.mem_cons]
    tauto
  · simp only [ShowsColumns, Statement.columnTexts, Statement.conditions, List.flatMap_append,
      List.forall_mem_append]
    refine ⟨⟨⟨fun name listed => ?fields, ⟨fun name listed => ?joins, ?rows⟩, ?groups⟩,
      fun name listed => ?grouping⟩, fun name listed => ?order⟩
    case fields =>
      refine (fields_show_columns statement name listed).trans (Text.infix_join " " ?_)
      simp only [List.mem_append, List.mem_cons]
      tauto
    case joins =>
      obtain ⟨condition, inJoins, isColumn⟩ := List.mem_flatMap.mp listed
      obtain ⟨join, isJoin, inJoin⟩ := List.mem_flatMap.mp inJoins
      obtain ⟨word, isWord, rendered⟩ := exists_of_mem_joins joined join isJoin
      have inside := join_shows_columns shows rendered name
        (List.mem_flatMap.mpr ⟨condition, inJoin, isColumn⟩)
      refine inside.trans (Text.infix_join " " ?_)
      simp only [List.mem_append, List.mem_cons]
      tauto
    case rows =>
      refine keywordClause_shows_columns shows conditions fun word isWord => ?_
      simp only [List.mem_append, List.mem_cons]
      tauto
    case groups =>
      refine keywordClause_shows_columns shows having fun word isWord => ?_
      simp only [List.mem_append, List.mem_cons]
      tauto
    case grouping =>
      obtain ⟨word, isWord, inside⟩ := grouping_shows_columns statement.groups name listed
      refine inside.trans (Text.infix_join " " ?_)
      simp only [List.mem_append, List.mem_cons]
      tauto
    case order =>
      obtain ⟨word, isWord, inside⟩ := order_shows_columns statement.orders name listed
      refine inside.trans (Text.infix_join " " ?_)
      simp only [orderAndPage, List.mem_append, List.mem_cons]
      tauto

end Target

namespace Quoter

variable (quoter : Quoter) {name : String} (isName : IsName name.toList)

include isName

omit quoter in
/-- Nothing is trimmed from a name. -/
theorem trim_of_isName : trim name = name := by
  have free : EndsFree isBlank name.toList := endsFree_of_forall fun char listed =>
    isBlank_of_isNameChar (isName.2 char listed)
  rw [trim, stripEnds_eq_self_iff.mpr free, String.ofList_toList]

/-- A name as a table has the prefix. -/
theorem toList_table_of_isName : (quoter.table name).toList = quoter.quotedTable name.toList := by
  rw [table, trim_of_isName isName, Lexeme.ofChars_name isName]
  exact String.toList_ofList

/-- A name as an alias has no prefix. -/
theorem toList_aliasName_of_isName :
    (quoter.aliasName name).toList = quoter.quoted name.toList := by
  rw [aliasName, trim_of_isName isName, Lexeme.ofChars_name isName]
  exact String.toList_ofList

/-- A name is written alike as a table and as an alias exactly without a prefix. -/
theorem table_eq_aliasName_iff :
    quoter.table name = quoter.aliasName name ↔ quoter.tablePrefix.getD "" = "" := by
  rw [← String.toList_inj, quoter.toList_table_of_isName isName,
    quoter.toList_aliasName_of_isName isName, quotedTable, quoted, quoted,
    ← String.toList_eq_nil_iff]
  simp

end Quoter

/-- A statement that reads rows declares an alias without the prefix of tables. Each of its columns
stands in its text, and where a column refers to the alias, between whatever else it holds, there
stands the alias as a table would be written, a point and the column. That is the alias as it is
declared exactly without a prefix. -/
theorem Target.compile_refers_to_alias {target : Target}
    (shipped : target.dialect ∈ Dialect.shipped)
    {statement : Statement} (reads : statement.action = .select) {table aliasName : String}
    (declared : ⟨table, some aliasName⟩ ∈ statement.tables) (isName : IsName aliasName.toList)
    {sql : String} (compiled : target.compile statement = .ok sql) :
    (target.quoter.table table ++ " AS " ++ target.quoter.aliasName aliasName).toList <:+:
      sql.toList ∧
    (∀ text ∈ statement.columnTexts,
      (target.quoter.column text).toList <:+: sql.toList ∧
      ∀ (reference : ColumnReference) (before after : List Char),
        reference.table = aliasName.toList → reference.StandsBetween before after →
        text.toList = before ++ reference.chars ++ after →
        ∃ left right : List ColumnPart,
          (target.quoter.column text).toList =
            left.flatMap target.quoter.part ++
              ((target.quoter.table aliasName).toList ++
                '.' :: target.quoter.part reference.columnPart) ++
              right.flatMap target.quoter.part ∧
          visible (left.flatMap ColumnPart.chars) = visible before ∧
          visible (right.flatMap ColumnPart.chars) = visible after) ∧
    (target.quoter.table aliasName = target.quoter.aliasName aliasName ↔
      target.tablePrefix.getD "" = "") := by
  rw [Target.compile, reads, Target.assemble] at compiled
  obtain ⟨tables, columns⟩ :=
    Target.select_shows_columns (Dialect.showsOperands_of_shipped shipped) compiled
  have declares := tables _ declared
  rw [Target.tableRef] at declares
  refine ⟨declares, fun text listed => ⟨columns text listed, ?_⟩,
    target.quoter.table_eq_aliasName_iff isName⟩
  intro reference before after same stands whole
  obtain ⟨left, right, parts, seenBefore, seenAfter⟩ := ColumnPart.exists_ofText stands
  refine ⟨left, right, ?_, seenBefore, seenAfter⟩
  rw [Quoter.toList_column, whole, parts, target.quoter.toList_table_of_isName isName, ← same]
  simp only [List.flatMap_append, List.flatMap_cons, List.flatMap_nil, List.append_nil, Quoter.part,
    List.cons_append, List.nil_append]

/-- A statement whose columns refer to the alias of its table. -/
def sampleAliased : Statement where
  action := .select
  tables := [⟨"users", some "u"⟩]
  fields := [⟨.column "MAX(u.id)", none⟩]
  orders := [⟨"u.id", .ascending⟩]

/-- The reference of its columns. -/
def sampleReference : ColumnReference where
  table := ['u']
  column := ['i', 'd']
  isName := by decide
  letter := by decide
  isColumn := by decide

/-- Without a prefix the columns refer to the alias as it is declared. -/
theorem sampleAliased_refers_to_alias :
    Dialect.mysql ∈ Dialect.shipped ∧ sampleAliased.action = .select ∧
    ⟨"users", some "u"⟩ ∈ sampleAliased.tables ∧ IsName "u".toList ∧
    Target.compile ⟨.mysql, none⟩ sampleAliased =
      .ok ("SELECT MAX(\x60u\x60.\x60id\x60) FROM \x60users\x60 AS \x60u\x60 " ++
        "ORDER BY \x60u\x60.\x60id\x60 ASC") ∧
    sampleReference.StandsBetween "MAX(".toList [')'] ∧
    "MAX(u.id)".toList = "MAX(".toList ++ sampleReference.chars ++ [')'] ∧
    Quoter.table ⟨'\x60', none⟩ "u" = Quoter.aliasName ⟨'\x60', none⟩ "u" ∧
    ∃ left right : List ColumnPart,
      (Quoter.column ⟨'\x60', none⟩ "MAX(u.id)").toList =
        left.flatMap (Quoter.part ⟨'\x60', none⟩) ++ "\x60u\x60.\x60id\x60".toList ++
          right.flatMap (Quoter.part ⟨'\x60', none⟩) ∧
      visible (left.flatMap ColumnPart.chars) = "MAX(".toList ∧
      visible (right.flatMap ColumnPart.chars) = [')'] := by
  have shipped : Dialect.mysql ∈ Dialect.shipped := by simp [Dialect.shipped]
  have declared : ⟨"users", some "u"⟩ ∈ sampleAliased.tables := by decide
  have isName : IsName "u".toList := by decide
  have compiled : Target.compile ⟨.mysql, none⟩ sampleAliased =
      .ok ("SELECT MAX(\x60u\x60.\x60id\x60) FROM \x60users\x60 AS \x60u\x60 " ++
        "ORDER BY \x60u\x60.\x60id\x60 ASC") := rfl
  have stands : sampleReference.StandsBetween "MAX(".toList [')'] := by
    constructor
    · intro char last
      obtain rfl : '(' = char := Option.some.inj last
      decide
    · intro _ char first
      obtain rfl : ')' = char := Option.some.inj first
      decide
  have whole : "MAX(u.id)".toList = "MAX(".toList ++ sampleReference.chars ++ [')'] := by decide
  obtain ⟨-, columns, alike⟩ :=
    Target.compile_refers_to_alias shipped rfl declared isName compiled
  obtain ⟨left, right, written, before, after⟩ :=
    (columns "MAX(u.id)" (by decide)).2 sampleReference _ _ rfl stands whole
  exact ⟨shipped, rfl, declared, isName, compiled, stands, whole, alike.mpr rfl, left, right,
    written, before, after⟩

/-- With a prefix the columns refer to a table that is not declared. -/
theorem alias_prefixed_in_references :
    Target.compile ⟨.generic, some "app_"⟩ sampleAliased =
      .ok ("SELECT MAX(\"app_u\".\"id\") FROM \"app_users\" AS \"u\" " ++
        "ORDER BY \"app_u\".\"id\" ASC") ∧
    Quoter.table ⟨'"', some "app_"⟩ "u" = "\"app_u\"" ∧
    Quoter.aliasName ⟨'"', some "app_"⟩ "u" = "\"u\"" :=
  ⟨rfl, rfl, rfl⟩

end Crud
