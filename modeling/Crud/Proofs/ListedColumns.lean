import Crud.Proofs.ColumnSegments
import Crud.Proofs.RewrittenColumns
import Crud.Proofs.TableAliases

/-!
# Lists of columns and their tables

A list of columns, each of them by its name alone or with its table, is written column by column,
whatever blanks stand around the commas. A table in front of a column is written as the same table
is where the statement names its tables, prefix and quotes included, so that references fit their
tables.
-/

namespace Crud

/-- A bare name. -/
structure BareName where
  /-- The characters. -/
  chars : List Char
  /-- They are a name. -/
  isName : IsName chars

/-- The text of a name. -/
def BareName.text (name : BareName) : String := .ofList name.chars

/-- An entry of a list of columns. Names that stand beside a point are told from numbers by a
letter. -/
inductive ListedColumn where
  /-- A column by its name alone. -/
  | bare (column : BareName)
  /-- A column of a table. -/
  | qualified (table column : BareName)
      (letter : (table.chars.any Text.isLetter || column.chars.any Text.isLetter) = true)
  /-- All columns of a table. -/
  | every (table : BareName) (letter : table.chars.any Text.isLetter = true)

namespace ListedColumn

/-- The characters of an entry. -/
def chars : ListedColumn → List Char
  | bare column => column.chars
  | qualified table column _ => table.chars ++ '.' :: column.chars
  | every table _ => table.chars ++ ['.', '*']

/-- The characters of an entry are points, stars and characters of names. -/
theorem mem_chars {entry : ListedColumn} {char : Char} (listed : char ∈ entry.chars) :
    char = '.' ∨ char = '*' ∨ isNameChar char = true := by
  cases entry with
  | bare column => exact .inr (.inr (column.isName.2 char listed))
  | qualified table column =>
    rw [chars, List.mem_append, List.mem_cons] at listed
    rcases listed with inTable | point | inColumn
    · exact .inr (.inr (table.isName.2 char inTable))
    · exact .inl point
    · exact .inr (.inr (column.isName.2 char inColumn))
  | every table =>
    rw [chars, List.mem_append, List.mem_cons, List.mem_singleton] at listed
    rcases listed with inTable | point | star
    · exact .inr (.inr (table.isName.2 char inTable))
    · exact .inl point
    · exact .inr (.inl star)

/-- An entry opens and closes nothing. -/
theorem isInert_of_mem {entry : ListedColumn} {char : Char} (listed : char ∈ entry.chars) :
    isInert char = true := by
  obtain rfl | rfl | isName := mem_chars listed
  · decide
  · decide
  · exact isInert_of_isNameChar isName

/-- An entry has no comma. -/
theorem comma_not_mem (entry : ListedColumn) : ',' ∉ entry.chars := by
  intro listed
  obtain point | star | isName := mem_chars listed
  · contradiction
  · contradiction
  · exact absurd isName (by decide)

/-- An entry has no blanks around it. -/
theorem stripEnds_chars (entry : ListedColumn) :
    Text.stripEnds Text.isBlank entry.chars = entry.chars := by
  apply Text.stripEnds_eq_self_iff.mpr
  apply Text.endsFree_of_forall
  intro char listed
  obtain rfl | rfl | isName := mem_chars listed
  · decide
  · decide
  · exact isBlank_of_isNameChar isName

/-- Entries are parts of their list. -/
theorem parted_chars {entries : List ListedColumn} (some : entries ≠ []) :
    Parted .outside (entries.map chars) := by
  have plain : ∀ part ∈ entries.map chars, ¬HasSeparator part := by
    intro part listed
    obtain ⟨entry, -, rfl⟩ := List.mem_map.mp listed
    exact unsplit_iff.mp (unsplit_of_plain entry.comma_not_mem _)
  have closed : ∀ part ∈ entries.map chars, ScanState.outside.scan part = .outside := by
    intro part listed
    obtain ⟨entry, -, rfl⟩ := List.mem_map.mp listed
    exact ScanState.scan_inert ScanState.possible_outside fun _ => isInert_of_mem
  rw [parted_iff]
  exact ⟨mt List.map_eq_nil_iff.mp some, plain,
    fun part listed => closed part ((List.dropLast_subset _) listed)⟩

/-- The pieces of a list of entries with blanks around them are the entries. -/
theorem columnPieces_padded {entries : List ListedColumn} (some : entries ≠ [])
    {padded : List (List Char)} (isPadded : List.Forall₂ Padded (entries.map chars) padded) :
    columnPieces (List.intercalate [','] padded) = entries.map chars := by
  rw [Crud.columnPieces_padded (parted_chars some) isPadded, List.map_map]
  exact List.map_congr_left fun entry _ => entry.stripEnds_chars

end ListedColumn

namespace Target

variable (target : Target)

/-- An entry of a list of columns as the target writes it: columns in quotes, tables as tables. -/
def listedColumn : ListedColumn → String
  | .bare column => target.dialect.quoteName column.text
  | .qualified table column _ =>
    target.quoter.table table.text ++ "." ++ target.dialect.quoteName column.text
  | .every table _ => target.quoter.table table.text ++ ".*"

/-- A column in quotes. -/
theorem toList_quoteName (column : BareName) :
    (target.dialect.quoteName column.text).toList = target.quoter.quoted column.chars := by
  rw [Dialect.quoteName, BareName.text, String.toList_ofList, String.toList_ofList]
  rfl

/-- A table with its prefix, in quotes. -/
theorem toList_table (table : BareName) :
    (target.quoter.table table.text).toList = target.quoter.quotedTable table.chars := by
  have isName : IsName table.text.toList := by
    rw [BareName.text, String.toList_ofList]
    exact table.isName
  rw [target.quoter.toList_table_of_isName isName, BareName.text, String.toList_ofList]

/-- The quoter writes an entry as it stands in a list. -/
theorem piece_chars (entry : ListedColumn) :
    target.quoter.piece entry.chars = (target.listedColumn entry).toList := by
  have point : isNameChar '.' = false := by decide
  cases entry with
  | bare column =>
    rw [listedColumn, toList_quoteName]
    exact target.quoter.piece_of_isName column.isName
  | qualified table column letter =>
    have lexemes : Lexeme.ofChars (table.chars ++ '.' :: column.chars) =
        [.name table.chars, .other '.', .name column.chars] := by
      rw [Lexeme.ofChars_append_other point, Lexeme.ofChars_name table.isName,
        Lexeme.ofChars_name column.isName]
      rfl
    rw [listedColumn, String.toList_append, String.toList_append, toList_table, toList_quoteName,
      ListedColumn.chars, Quoter.piece, lexemes]
    simp only [Quoter.quoteQualified, letter, ↓reduceIte, List.append_nil, List.append_assoc]
    rfl
  | every table letter =>
    have lexemes : Lexeme.ofChars (table.chars ++ ['.', '*']) =
        [.name table.chars, .other '.', .other '*'] := by
      rw [Lexeme.ofChars_append_other point, Lexeme.ofChars_name table.isName]
      rfl
    rw [listedColumn, String.toList_append, toList_table, ListedColumn.chars, Quoter.piece, lexemes]
    simp only [Quoter.quoteQualified, letter, ↓reduceIte]
    rfl

/-- A list of columns is written entry by entry. -/
theorem column_listed {entries : List ListedColumn} (some : entries ≠ [])
    {padded : List (List Char)}
    (isPadded : List.Forall₂ Padded (entries.map ListedColumn.chars) padded) :
    target.quoter.column (.ofList (List.intercalate [','] padded)) =
      Text.join ", " (entries.map target.listedColumn) := by
  have written : (entries.map ListedColumn.chars).map target.quoter.piece =
      (entries.map target.listedColumn).map String.toList := by
    rw [List.map_map, List.map_map]
    exact List.map_congr_left fun entry _ => target.piece_chars entry
  rw [← String.toList_inj, Quoter.toList_column_eq_intercalate, String.toList_ofList,
    ListedColumn.columnPieces_padded some isPadded, written, Text.toList_join]
  rfl

end Target

/-- The dialects of the library insert into the table. -/
theorem Dialect.prefix_insert {dialect : Dialect} (listed : dialect ∈ shipped) (table : String)
    (assignments : List (String × String)) :
    ("INSERT INTO " ++ table).toList <+: (dialect.insert table assignments).toList := by
  simp only [shipped, List.mem_cons, List.not_mem_nil, or_false] at listed
  obtain rfl | rfl | rfl := listed
  · exact String.prefix_append_left (String.prefix_append_left List.prefix_rfl _) _
  · exact String.prefix_append_left (String.prefix_append_left List.prefix_rfl _) _
  · exact String.prefix_append_left (String.prefix_append_left (String.prefix_append_left
      (String.prefix_append_left (String.prefix_append_left List.prefix_rfl _) _) _) _) _

namespace Target

variable (target : Target)

/-- The tables that a statement names, as the target writes tables, with what stands before each of
them in its text. -/
def tableMentions (statement : Statement) : List String :=
  match statement.action, statement.tables with
  | _, [] => []
  | .select, first :: others =>
    ("FROM " ++ target.quoter.table first.table) ::
      others.map (fun table => ", " ++ target.quoter.table table.table) ++
      statement.joins.map fun join => join.kind.keyword ++ " " ++ target.quoter.table join.table
  | .insert, first :: _ => ["INSERT INTO " ++ target.quoter.table first.table]
  | .update, first :: _ => ["UPDATE " ++ target.quoter.table first.table]
  | .delete, first :: _ => ["DELETE FROM " ++ target.quoter.table first.table]

/-- A table with an alias begins with the table. -/
theorem prefix_tableRef (table : TableRef) :
    (target.quoter.table table.table).toList <+: (target.tableRef table).toList := by
  unfold tableRef
  split
  · exact String.prefix_append_left (String.prefix_append_left List.prefix_rfl _) _
  · exact List.prefix_rfl

/-- A join begins with its kind and its table. -/
theorem prefix_join {join : Join} {text : String} (rendered : target.join join = .ok text) :
    (join.kind.keyword ++ " " ++ target.quoter.table join.table).toList <+: text.toList := by
  unfold Target.join at rendered
  split at rendered
  · split at rendered
    · cases rendered
      exact List.prefix_rfl
    · cases ran : target.clause (.ofList join.conditions) with
      | error error =>
        rw [ran] at rendered
        cases rendered
      | ok body =>
        rw [ran] at rendered
        cases rendered
        exact String.prefix_append_left (String.prefix_append_left List.prefix_rfl " ON ") body
  · contradiction

/-- The tables among the words of a statement that reads rows. -/
theorem infix_of_tables {words : List String} {first : TableRef} {others : List TableRef}
    (front back : List String)
    (shape : words =
      front ++ "FROM" :: Text.join ", " ((first :: others).map target.tableRef) :: back) :
    ("FROM " ++ target.quoter.table first.table).toList <:+: (Text.join " " words).toList ∧
    ∀ table ∈ others,
      (", " ++ target.quoter.table table.table).toList <:+: (Text.join " " words).toList := by
  have list : ("FROM" ++ " " ++ Text.join ", " ((first :: others).map target.tableRef)).toList <:+:
      (Text.join " " words).toList := shape ▸ Text.infix_join_pair " " front "FROM" _ back
  constructor
  · have begins := (target.prefix_tableRef first).trans
      (Text.prefix_join ", " (target.tableRef first) (others.map target.tableRef))
    exact (String.prefix_append_right begins "FROM ").isInfix.trans list
  · intro table listed
    obtain ⟨before, after, rfl⟩ := List.append_of_mem listed
    have behind := Text.infix_join_behind ", "
      (List.cons_ne_nil (target.tableRef first) (before.map target.tableRef))
      (target.tableRef table) (after.map target.tableRef)
    rw [List.cons_append, ← List.map_cons, ← List.map_append, ← List.map_cons] at behind
    have begins := String.prefix_append_right (target.prefix_tableRef table) ", "
    exact begins.isInfix.trans ((String.infix_append_right behind _).trans list)

/-- A statement that reads rows names its tables and the tables of its joins. -/
theorem select_names_tables {statement : Statement} {sql : String}
    (compiled : target.select statement = .ok sql) :
    (∀ first others, statement.tables = first :: others →
      ("FROM " ++ target.quoter.table first.table).toList <:+: sql.toList ∧
      ∀ table ∈ others, (", " ++ target.quoter.table table.table).toList <:+: sql.toList) ∧
    ∀ join ∈ statement.joins,
      (join.kind.keyword ++ " " ++ target.quoter.table join.table).toList <:+: sql.toList := by
  obtain ⟨joined, rows, groups, ran, -, -, rfl⟩ := exists_of_select compiled
  constructor
  · intro first others tables
    rw [tables]
    refine target.infix_of_tables
      (["SELECT"] ++ (if statement.distinct then ["DISTINCT"] else []) ++ [target.fields statement])
      (joined ++ rows ++ target.grouping statement.groups ++ groups ++
        target.orderAndPage statement) ?_
    simp only [List.append_assoc, List.cons_append, List.nil_append]
  · intro join listed
    obtain ⟨text, isWord, rendered⟩ := exists_of_mem_joins ran join listed
    refine (target.prefix_join rendered).isInfix.trans (Text.infix_join " " ?_)
    simp only [List.mem_append]
    exact .inl (.inl (.inl (.inl (.inr isWord))))

/-- A statement that adds a row is an insertion into its first table. -/
theorem exists_of_insert {statement : Statement} {sql : String}
    (compiled : target.insert statement = .ok sql) :
    ∃ assignments,
      sql = target.dialect.insert (target.firstTable statement.tables) assignments := by
  unfold Target.insert requireTables at compiled
  split at compiled
  · cases compiled
  · refine ⟨target.assignments [] statement.bindings, ?_⟩
    change (if (target.assignments [] statement.bindings).isEmpty then _ else _) = _ at compiled
    split at compiled
    · cases compiled
    · exact (Except.ok.inj compiled).symm

/-- The text of a statement names its tables as the target writes tables. -/
theorem infix_of_mem_tableMentions (shipped : target.dialect ∈ Dialect.shipped)
    {statement : Statement} {sql : String} (compiled : target.compile statement = .ok sql) :
    ∀ mention ∈ target.tableMentions statement, mention.toList <:+: sql.toList := by
  unfold tableMentions
  split
  next => exact List.forall_mem_nil _
  next first others reads tables =>
    rw [compile, reads] at compiled
    rw [List.forall_mem_append, List.forall_mem_cons, List.forall_mem_map, List.forall_mem_map]
    obtain ⟨declared, joined⟩ := target.select_names_tables compiled
    exact ⟨declared first others tables, joined⟩
  next first others adds tables =>
    rw [compile, adds] at compiled
    obtain ⟨assignments, rfl⟩ := target.exists_of_insert compiled
    rw [List.forall_mem_singleton, tables]
    exact (Dialect.prefix_insert shipped _ assignments).isInfix
  next first others changes tables =>
    obtain ⟨body, -, rfl⟩ := target.exists_body_of_compile (.inl changes) compiled
    rw [List.forall_mem_singleton, opening, changes, tables]
    exact Text.infix_join_pair " " [] "UPDATE" _ _
  next first others removes tables =>
    obtain ⟨body, -, rfl⟩ := target.exists_body_of_compile (.inr removes) compiled
    rw [List.forall_mem_singleton, opening, removes, tables]
    exact Text.infix_join_pair " " [] "DELETE FROM" _ _

/-- A list of columns, with any blanks around its entries, is written entry by entry: a name alone
in quotes, and a table in front of a column as tables are written, with the column in quotes behind
the point or the star as it is. The text of a statement names its tables in the same writing, behind
FROM or a comma, behind the keyword of a join, and behind INSERT INTO, UPDATE and DELETE FROM. -/
theorem listed_columns_fit_tables (shipped : target.dialect ∈ Dialect.shipped) :
    (∀ (entries : List ListedColumn) (padded : List (List Char)), entries ≠ [] →
      List.Forall₂ Padded (entries.map ListedColumn.chars) padded →
      target.quoter.column (.ofList (List.intercalate [','] padded)) =
        Text.join ", " (entries.map target.listedColumn)) ∧
    ∀ (statement : Statement) (sql : String), target.compile statement = .ok sql →
      ∀ mention ∈ target.tableMentions statement, mention.toList <:+: sql.toList :=
  ⟨fun _ _ some isPadded => target.column_listed some isPadded,
    fun _ _ compiled => target.infix_of_mem_tableMentions shipped compiled⟩

end Target

/-- A column whose name is a number. -/
def sampleColumn : BareName := ⟨['7'], by decide⟩

/-- A table whose name begins with a digit. -/
def sampleTable : BareName := ⟨['2', '_', 'u'], by decide⟩

/-- The column alone, behind its table and in front of a column as a table would be, and all columns
of the table. -/
def sampleEntries : List ListedColumn :=
  [.bare sampleColumn, .qualified sampleTable sampleColumn rfl,
    .qualified sampleColumn sampleTable rfl, .every sampleTable rfl]

/-- A statement that reads these columns of two tables and a joined one. -/
def sampleReading : Statement where
  action := .select
  tables := [⟨"2_u", none⟩, ⟨"7", some "n"⟩]
  fields := [⟨.column "7 ,\t2_u.7,7.2_u , 2_u.*", none⟩]
  joins := [{ table := "2_u", kind := .left }]

/-- The columns fit the tables, with a prefix that is no name. -/
theorem sampleReading_fits_tables :
    let target : Target := ⟨.mysql, some "db-1."⟩
    let padded := ["7 ".toList, "\t2_u.7".toList, "7.2_u ".toList, " 2_u.*".toList]
    let columns := "\x607\x60, \x60db-1.2_u\x60.\x607\x60, \x60db-1.7\x60.\x602_u\x60, " ++
      "\x60db-1.2_u\x60.*"
    let sql := "SELECT " ++ columns ++
      " FROM \x60db-1.2_u\x60, \x60db-1.7\x60 AS \x60n\x60 LEFT JOIN \x60db-1.2_u\x60"
    target.dialect ∈ Dialect.shipped ∧ sampleEntries ≠ [] ∧
    List.Forall₂ Padded (sampleEntries.map ListedColumn.chars) padded ∧
    target.quoter.column (.ofList (List.intercalate [','] padded)) = columns ∧
    target.compile sampleReading = .ok sql ∧
    ∀ mention ∈ ["FROM \x60db-1.2_u\x60", ", \x60db-1.7\x60", "LEFT JOIN \x60db-1.2_u\x60"],
      mention.toList <:+: sql.toList := by
  intro target padded columns sql
  have shipped : target.dialect ∈ Dialect.shipped := by simp [target, Dialect.shipped]
  have some : sampleEntries ≠ [] := List.cons_ne_nil _ _
  have blank (char : Char) (isBlank : Text.isBlank char = true) :
      ∀ other ∈ [char], Text.isBlank other = true := List.forall_mem_singleton.mpr isBlank
  have isPadded : List.Forall₂ Padded (sampleEntries.map ListedColumn.chars) padded :=
    .cons ⟨[], [' '], List.forall_mem_nil _, blank ' ' (by decide), rfl⟩ <|
    .cons ⟨['\t'], [], blank '\t' (by decide), List.forall_mem_nil _, rfl⟩ <|
    .cons ⟨[], [' '], List.forall_mem_nil _, blank ' ' (by decide), rfl⟩ <|
    .cons ⟨[' '], [], blank ' ' (by decide), List.forall_mem_nil _, rfl⟩ .nil
  have compiled : target.compile sampleReading = .ok sql := by decide +kernel
  have mentions : target.tableMentions sampleReading =
      ["FROM \x60db-1.2_u\x60", ", \x60db-1.7\x60", "LEFT JOIN \x60db-1.2_u\x60"] := by
    decide +kernel
  have written : Text.join ", " (sampleEntries.map target.listedColumn) = columns := by
    decide +kernel
  obtain ⟨lists, tables⟩ := target.listed_columns_fit_tables shipped
  have named := tables _ _ compiled
  rw [mentions] at named
  exact ⟨shipped, some, isPadded, (lists _ _ some isPadded).trans written, compiled, named⟩

end Crud
