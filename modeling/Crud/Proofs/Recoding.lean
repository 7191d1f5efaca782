import Crud.Proofs.Clause
import Crud.Proofs.ColumnParts
import Crud.Proofs.FragmentMarkers
import Crud.Proofs.JsonNumber
import Crud.Rendering

/-!
# Targets that write alike

Two targets write a statement alike when the text of one is the text of the other with its
characters recoded: every double quote becomes some other character, and all else stays. It is
enough that the statement and the prefix have no character that is recoded, and that the two
dialects write the operators, joins, markers and pages of the statement alike. Each function of the
renderer and the compiler keeps the relation, and errors are the same.
-/

namespace Crud

/-- The recoding leaves every character of the text as it is. -/
def Fixed (recode : Char → Char) (text : String) : Prop :=
  ∀ char ∈ text.toList, recode char = char

/-- Nothing but double quotes is recoded. -/
def RecodesQuotes (recode : Char → Char) : Prop := ∀ char, char ≠ '"' → recode char = char

namespace Text

variable {recode : Char → Char}

/-- A text that is not recoded. -/
theorem map_of_fixed {text : String} (fixed : Fixed recode text) : text.map recode = text := by
  rw [← String.toList_inj, String.toList_map]
  exact (List.map_congr_left fixed).trans (List.map_id _)

/-- Text without double quotes is not recoded. -/
theorem fixed_of_free (quotes : RecodesQuotes recode) (text : String) (free : '"' ∉ text.toList) :
    Fixed recode text :=
  fun char listed => quotes char fun same => free (same ▸ listed)

/-- Text without double quotes stays as it is. -/
theorem map_of_free (quotes : RecodesQuotes recode) (text : String) (free : '"' ∉ text.toList) :
    text.map recode = text :=
  map_of_fixed (fixed_of_free quotes text free)

/-- Trimming leaves a text that is not recoded. -/
theorem fixed_trim {text : String} (fixed : Fixed recode text) : Fixed recode (trim text) := by
  intro char listed
  rw [trim, String.toList_ofList] at listed
  exact fixed char ((stripEnds_sublist _ _).subset listed)

/-- Words that are left of a text that is not recoded. -/
theorem fixed_trimmed? {given : Option String} (fixed : ∀ text ∈ given, Fixed recode text) :
    ∀ text ∈ given.bind trimmed?, Fixed recode text := by
  intro text listed
  obtain ⟨whole, isGiven, trimmed⟩ := Option.bind_eq_some_iff.mp listed
  unfold trimmed? at trimmed
  split at trimmed
  · contradiction
  · exact Option.some.inj trimmed ▸ fixed_trim (fixed whole isGiven)

end Text

/-- The texts of a value. -/
def Value.texts : Value → List String
  | text value => [value]
  | null | bool _ | int _ | real _ | bytes _ => []

/-- The texts of a fragment. -/
def Fragment.texts (fragment : Fragment) : List String :=
  fragment.text :: fragment.values.flatMap Value.texts

/-- The texts of an operand. -/
def Operand.texts : Operand → List String
  | absent => []
  | scalar value => value.texts
  | list values => values.flatMap Value.texts
  | range lower upper => lower.texts ++ upper.texts
  | fragment part => part.texts
  | column name => [name]
  | named names => names
  | subquery text => [text]

/-- The texts of a condition. -/
def Condition.texts (condition : Condition) : List String :=
  condition.column :: (condition.operand.texts ++ condition.modifier.toList)

/-- The texts of a table. -/
def TableRef.texts (table : TableRef) : List String := table.table :: table.aliasName.toList

/-- The texts of what a field shows. -/
def FieldSource.texts : FieldSource → List String
  | column name => [name]
  | fragment part => part.texts

/-- The texts of a field. -/
def FieldRef.texts (field : FieldRef) : List String := field.source.texts ++ field.aliasName.toList

/-- The texts of a grouping column. -/
def GroupEntry.texts (entry : GroupEntry) : List String := entry.column :: entry.modifier.toList

/-- The texts of a statement outside its conditions and positional values: of its tables, fields,
grouping, order, joined tables and the names of its bindings. -/
def Statement.frameTexts (statement : Statement) : List String :=
  statement.tables.flatMap TableRef.texts ++ statement.fields.flatMap FieldRef.texts ++
    statement.groups.flatMap GroupEntry.texts ++ statement.orders.map (·.column) ++
    statement.joins.map (·.table) ++ statement.bindings.names

namespace Value

/-- A number has no double quote. -/
theorem quote_not_mem_of_numeric {chars : List Char} (numeric : Json.Numeric chars) :
    '"' ∉ chars :=
  fun listed => absurd (numeric _ listed) (by decide)

/-- A hexadecimal digit is no double quote. -/
theorem quote_not_mem_hexDigits (bytes : List UInt8) : '"' ∉ hexDigits bytes := by
  have digit : ∀ n < 16, '"' ≠ hexDigit n := by decide
  intro listed
  obtain ⟨byte, -, listed⟩ := List.mem_flatMap.mp listed
  have bound : byte.toNat < 256 := byte.toNat_lt
  rcases List.mem_cons.mp listed with same | listed
  · exact digit _ (by omega) same
  · exact digit _ (by omega) (List.mem_singleton.mp listed)

/-- The literal of a number has no double quote. -/
theorem quote_not_mem_realLiteral (value : Double) : '"' ∉ (realLiteral value).toList := by
  unfold realLiteral
  split
  · decide
  split
  · exact quote_not_mem_of_numeric (Json.numeric_write numberStyle value)
  · split <;> decide

variable {recode : Char → Char} (quotes : RecodesQuotes recode)

include quotes

/-- The literal of a value that is not recoded is not recoded. -/
theorem fixed_literal {value : Value} (fixed : ∀ text ∈ value.texts, Fixed recode text) :
    Fixed recode value.literal := by
  cases value with
  | null => exact Text.fixed_of_free quotes _ (by decide)
  | bool value => exact Text.fixed_of_free quotes _ (by cases value <;> decide)
  | int value => exact Text.fixed_of_free quotes _ (quote_not_mem_of_numeric (.toString_int _))
  | real value => exact Text.fixed_of_free quotes _ (quote_not_mem_realLiteral value)
  | text value =>
    have inside : ∀ char ∈ Text.double '\x27' value.toList, recode char = char := by
      intro char listed
      obtain ⟨original, isOriginal, listed⟩ := List.mem_flatMap.mp listed
      have same : char = original := by
        split at listed <;> simpa using listed
      exact same ▸ fixed value List.mem_cons_self original isOriginal
    intro char listed
    simp only [literal, quoteText, String.toList_append, String.toList_ofList, List.mem_append]
      at listed
    rcases listed with (mark | listed) | mark
    · exact Text.fixed_of_free quotes "'" (by decide) char mark
    · exact inside char listed
    · exact Text.fixed_of_free quotes "'" (by decide) char mark
  | bytes value =>
    refine Text.fixed_of_free quotes _ ?_
    simp only [literal, String.toList_append, String.toList_ofList, List.mem_append, not_or]
    exact ⟨⟨by decide, quote_not_mem_hexDigits value⟩, by decide⟩

end Value

namespace Fragment

variable {recode : Char → Char}

/-- A masked fragment whose text is not recoded is recoded in its markers. -/
theorem map_masked {fragment : Fragment} (fixed : Fixed recode fragment.text)
    (placeholder : String) :
    (fragment.masked placeholder).map recode = fragment.masked (placeholder.map recode) := by
  have inside : ∀ piece ∈ fragment.pieces, recode piece.character = piece.character :=
    fun piece listed => fixed _ (character_mem_of_mem_piecesOf listed)
  rw [masked, String.map_ofList, masked]
  congr 1
  generalize fragment.pieces = pieces at inside
  induction pieces with
  | nil => rfl
  | cons piece rest ih =>
    rw [List.forall_mem_cons] at inside
    cases piece with
    | char char => exact congrArg₂ List.cons inside.1 (ih inside.2)
    | marker letter => simp only [mask, List.map_append, ih inside.2, String.toList_map]

/-- A fragment that is not recoded shows nothing that is recoded. -/
theorem fixed_inline (quotes : RecodesQuotes recode) {fragment : Fragment}
    (fixed : ∀ text ∈ fragment.texts, Fixed recode text) : Fixed recode fragment.inline := by
  rw [texts, List.forall_mem_cons] at fixed
  have inside : ∀ piece ∈ fragment.pieces, recode piece.character = piece.character :=
    fun piece listed => fixed.1 _ (character_mem_of_mem_piecesOf listed)
  have literals : ∀ value ∈ fragment.values, Fixed recode value.literal := fun value listed =>
    Value.fixed_literal quotes fun text isText =>
      fixed.2 text (List.mem_flatMap.mpr ⟨value, listed, isText⟩)
  unfold Fixed
  rw [inline, String.toList_ofList]
  generalize fragment.pieces = pieces at inside
  generalize fragment.values = values at literals
  fun_induction fill pieces values with
  | case1 => exact List.forall_mem_nil _
  | case2 char rest values ih =>
    rw [List.forall_mem_cons] at inside ⊢
    exact ⟨inside.1, ih inside.2 literals⟩
  | case3 letter rest value values ih =>
    rw [List.forall_mem_cons] at inside literals
    rw [List.forall_mem_append]
    exact ⟨literals.1, ih inside.2 literals.2⟩
  | case4 letter rest ih =>
    rw [List.forall_mem_cons] at inside
    rw [List.forall_mem_cons, List.forall_mem_cons]
    exact ⟨quotes _ (by decide), inside.1, ih inside.2 literals⟩

end Fragment

/-- The text of a subquery has the characters with which it is given. -/
theorem Subquery.strip_subset (chars : List Char) : strip chars ⊆ chars := by
  fun_induction strip chars
  next closed ih =>
    intro char listed
    have inTail := (List.dropLast_sublist _).subset (ih listed)
    exact (Text.stripEnds_sublist _ _).subset (List.mem_of_mem_tail inTail)
  next => exact (Text.stripEnds_sublist _ _).subset

/-- The right target has the quotes, the placeholder and the prefix of the left one, recoded. -/
structure Target.Recodes (recode : Char → Char) (left right : Target) : Prop where
  /-- Nothing but double quotes is recoded. -/
  quotes : RecodesQuotes recode
  /-- The quotes around names. -/
  quote : right.dialect.quote = recode left.dialect.quote
  /-- The prefix is the same. -/
  tablePrefix : right.tablePrefix = left.tablePrefix
  /-- The prefix is not recoded. -/
  fixedPrefix : ∀ text ∈ left.tablePrefix, Fixed recode text
  /-- What stands for a positional value. -/
  placeholder : right.dialect.placeholder = left.dialect.placeholder.map recode

/-- The operands with their texts recoded. -/
def Operands.recoded (recode : Char → Char) (operands : Operands) : Operands where
  column := operands.column.map recode
  value := operands.value.map recode
  range := operands.range.map fun bounds => (bounds.1.map recode, bounds.2.map recode)
  modifier := operands.modifier.map (String.map recode)

/-- Operands of which nothing is recoded. -/
theorem Operands.recoded_id (operands : Operands) : operands.recoded id = operands := by
  have pair : (fun bounds : String × String => (bounds.1, bounds.2)) = id := rfl
  simp only [recoded, String.map_id_fun, id_eq, pair, Option.map_id]

/-- Both dialects write the operator alike, or both fail on it with the same error. -/
structure Dialect.RecodesOperator (recode : Char → Char) (left right : Dialect)
    (operator : Operator) : Prop where
  /-- A rendering of its own. -/
  render : ∀ operands, right.render operator (operands.recoded recode) =
    (left.render operator operands).map (String.map recode)
  /-- The common rendering. -/
  supports : right.supports operator = left.supports operator
  /-- The name in an error. -/
  name : left.supports operator = true ∨ right.name = left.name

/-- Both targets write the marker alike. -/
def Target.RecodesMarker (recode : Char → Char) (left right : Target) (name : String) : Prop :=
  right.dialect.namedPlaceholder name = (left.dialect.namedPlaceholder name).map recode

/-- Both targets write the condition alike: its texts are not recoded, and its markers and its
operator are written alike. -/
structure Target.RecodesCondition (recode : Char → Char) (left right : Target)
    (condition : Condition) : Prop where
  /-- Its texts are not recoded. -/
  texts : ∀ text ∈ condition.texts, Fixed recode text
  /-- Its markers. -/
  markers : ∀ name ∈ condition.operand.bindingNames, left.RecodesMarker recode right name
  /-- Its operator, unless it is raw text. -/
  operator : condition.kind ≠ .raw →
    left.dialect.RecodesOperator recode right.dialect condition.operator

namespace Target.Recodes

variable {recode : Char → Char} {left right : Target} (alike : left.Recodes recode right)

include alike

/-- A part of a column text. -/
theorem part (part : ColumnPart) (fixed : ∀ char ∈ part.chars, recode char = char) :
    right.quoter.part part = (left.quoter.part part).map recode := by
  have quoted {name : List Char} (fixed : ∀ char ∈ name, recode char = char) :
      right.quoter.quoted name = (left.quoter.quoted name).map recode := by
    have same : name.map recode = name := (List.map_congr_left fixed).trans (List.map_id _)
    simp only [Quoter.quoted, quoter, alike.quote, List.map_append, List.map_cons, List.map_nil,
      same]
  cases part with
  | text chars => exact ((List.map_congr_left fixed).trans (List.map_id _)).symm
  | column name => exact quoted fixed
  | table name =>
    have prefixes : right.quoter.tablePrefix = left.quoter.tablePrefix := alike.tablePrefix
    show right.quoter.quoted ((right.quoter.tablePrefix.getD "").toList ++ name) = _
    rw [prefixes]
    refine quoted (List.forall_mem_append.mpr ⟨?_, fixed⟩)
    show Fixed recode (left.tablePrefix.getD "")
    cases given : left.tablePrefix with
    | none => exact Text.fixed_of_free alike.quotes _ (by decide)
    | some text => exact alike.fixedPrefix text given

/-- A column text. -/
theorem column {text : String} (fixed : Fixed recode text) :
    right.quoter.column text = (left.quoter.column text).map recode := by
  rw [Quoter.column, Quoter.column, Text.map_join, Text.map_of_free alike.quotes _ (by decide),
    List.map_map]
  refine congrArg (Text.join ", ") (List.map_congr_left fun piece isPiece => ?_)
  rw [Function.comp_apply, String.map_ofList, Quoter.piece_eq, Quoter.piece_eq, List.map_flatMap]
  refine congrArg String.ofList
    (List.flatMap_congr fun part isPart => alike.part part fun char listed => ?_)
  have inPiece : char ∈ piece := by
    rw [← ColumnPart.flatMap_chars_ofPiece piece]
    exact List.mem_flatMap.mpr ⟨part, isPart, listed⟩
  exact fixed char (mem_of_mem_columnPieces isPiece inPiece)

/-- A column on the left of a comparison. -/
theorem comparedColumn {text : String} (fixed : Fixed recode text) :
    right.quoter.comparedColumn text = (left.quoter.comparedColumn text).map recode := by
  unfold Quoter.comparedColumn
  rw [alike.column fixed]
  split
  · rw [String.map_append, String.map_append, Text.map_of_free alike.quotes "(" (by decide),
      Text.map_of_free alike.quotes ")" (by decide)]
  · rfl

/-- A table. -/
theorem table {text : String} (fixed : Fixed recode text) :
    right.quoter.table text = (left.quoter.table text).map recode := by
  have trimmed := Text.fixed_trim fixed
  unfold Quoter.table
  have lexemes := Lexeme.flatMap_chars_ofChars (Text.trim text).toList
  split
  next name found =>
    rw [found, List.flatMap_singleton] at lexemes
    rw [String.map_ofList]
    exact congrArg String.ofList (alike.part (.table name) fun char listed =>
      trimmed char (lexemes ▸ listed))
  next => exact alike.column trimmed

/-- An alias. -/
theorem aliasName {text : String} (fixed : Fixed recode text) :
    right.quoter.aliasName text = (left.quoter.aliasName text).map recode := by
  have trimmed := Text.fixed_trim fixed
  unfold Quoter.aliasName
  have lexemes := Lexeme.flatMap_chars_ofChars (Text.trim text).toList
  split
  next name found =>
    rw [found, List.flatMap_singleton] at lexemes
    rw [String.map_ofList]
    exact congrArg String.ofList (alike.part (.column name) fun char listed =>
      trimmed char (lexemes ▸ listed))
  next => exact (Text.map_of_fixed trimmed).symm

/-- A value. -/
theorem value {masked : Bool} {value : Value} (fixed : ∀ text ∈ value.texts, Fixed recode text) :
    right.value masked value = (left.value masked value).map recode := by
  unfold Target.value
  split
  · exact alike.placeholder
  · exact (Text.map_of_fixed (value.fixed_literal alike.quotes fixed)).symm

/-- Values with commas between them. -/
theorem values {masked : Bool} {values : List Value}
    (fixed : ∀ text ∈ values.flatMap Value.texts, Fixed recode text) :
    Text.join ", " (values.map (right.value masked)) =
      (Text.join ", " (values.map (left.value masked))).map recode := by
  rw [Text.map_join, Text.map_of_free alike.quotes _ (by decide), List.map_map]
  refine congrArg (Text.join ", ") (List.map_congr_left fun value listed => ?_)
  exact alike.value fun text isText => fixed text (List.mem_flatMap.mpr ⟨value, listed, isText⟩)

/-- An operand. -/
theorem operand {masked : Bool} {operand : Operand}
    (fixed : ∀ text ∈ operand.texts, Fixed recode text)
    (markers : ∀ name ∈ operand.bindingNames, left.RecodesMarker recode right name) :
    right.operand masked operand = (left.operand masked operand).map recode := by
  have null : "NULL" = "NULL".map recode := (Text.map_of_free alike.quotes _ (by decide)).symm
  cases operand with
  | absent => exact (String.map_eq_empty.mpr rfl).symm
  | scalar value => exact alike.value fixed
  | list values =>
    cases values with
    | nil => exact null
    | cons first rest => exact alike.values fixed
  | range lower upper =>
    rw [Operand.texts, List.forall_mem_append] at fixed
    simp only [Target.operand, alike.value fixed.1, alike.value fixed.2, String.map_append,
      Text.map_of_free alike.quotes ", " (by decide)]
  | fragment part =>
    simp only [Target.operand]
    split
    · rw [alike.placeholder, Fragment.map_masked (fixed _ List.mem_cons_self)]
    · exact (Text.map_of_fixed (Fragment.fixed_inline alike.quotes fixed)).symm
  | column name => exact alike.column (fixed name List.mem_cons_self)
  | named names =>
    cases names with
    | nil => exact null
    | cons first rest =>
      show Text.join ", " _ = (Text.join ", " _).map recode
      rw [Text.map_join, Text.map_of_free alike.quotes _ (by decide), List.map_map]
      exact congrArg (Text.join ", ") (List.map_congr_left markers)
  | subquery text =>
    have inside : Fixed recode (.ofList (Subquery.strip text.toList)) := by
      intro char listed
      rw [String.toList_ofList] at listed
      exact fixed text List.mem_cons_self char (Subquery.strip_subset _ listed)
    simp only [Target.operand, Subquery.write, String.map_append, Text.map_of_fixed inside,
      Text.map_of_free alike.quotes "(" (by decide),
      Text.map_of_free alike.quotes ")" (by decide)]

/-- The two bounds of an operand. -/
theorem bounds {masked : Bool} {operand : Operand}
    (fixed : ∀ text ∈ operand.texts, Fixed recode text) :
    right.bounds masked operand =
      (left.bounds masked operand).map fun bounds =>
        (bounds.1.map recode, bounds.2.map recode) := by
  have both {lower upper : Value}
      (fixed : ∀ text ∈ lower.texts ++ upper.texts, Fixed recode text) :
      (right.value masked lower, right.value masked upper) =
        ((left.value masked lower).map recode, (left.value masked upper).map recode) := by
    rw [List.forall_mem_append] at fixed
    rw [alike.value fixed.1, alike.value fixed.2]
  match operand with
  | .range lower upper => exact congrArg some (both fixed)
  | .list [lower, upper] =>
    refine congrArg some (both ?_)
    simpa only [Operand.texts, List.flatMap_cons, List.flatMap_nil, List.append_nil] using fixed
  | .list [] | .list [_] | .list (_ :: _ :: _ :: _) => rfl
  | .absent | .scalar _ | .fragment _ | .column _ | .named _ | .subquery _ => rfl

/-- The parts of a condition. -/
theorem operands {condition : Condition} (same : left.RecodesCondition recode right condition) :
    right.operands condition = (left.operands condition).recoded recode := by
  have texts := same.texts
  simp only [Condition.texts, List.forall_mem_cons, List.forall_mem_append] at texts
  obtain ⟨column, operand, modifier⟩ := texts
  have words : (condition.modifier.bind Text.trimmed?).map (String.map recode) =
      condition.modifier.bind Text.trimmed? := by
    have fixed := Text.fixed_trimmed? fun text given => modifier text (Option.mem_toList.mpr given)
    cases left : condition.modifier.bind Text.trimmed? with
    | none => rfl
    | some text => exact congrArg some (Text.map_of_fixed (fixed text left))
  simp only [Target.operands, Operands.recoded, alike.operand operand same.markers,
    alike.bounds operand, words]
  split
  · rw [alike.column column]
  · rw [alike.comparedColumn column]

omit alike

/-- Elements with their connectors. -/
theorem joinConnected (quotes : RecodesQuotes recode) (elements : List (String × Connector)) :
    Crud.joinConnected (elements.map (Prod.map (String.map recode) id)) =
      (Crud.joinConnected elements).map recode := by
  have connector (connector : Connector) : connector.name.map recode = connector.name :=
    Text.map_of_free quotes _ (by cases connector <;> decide)
  fun_induction Crud.joinConnected elements with
  | case1 => exact (String.map_eq_empty.mpr rfl).symm
  | case2 text _ => rfl
  | case3 text _ next rest ih =>
    rw [List.map_cons] at ih
    simp only [List.map_cons, Crud.joinConnected, ih, String.map_append, connector, Prod.map_apply,
      id_eq, Text.map_of_free quotes " " (by decide)]

/-- The common rendering of an operator. -/
theorem commonRendering (quotes : RecodesQuotes recode) (operator : Operator)
    (operands : Operands) :
    Crud.commonRendering operator (operands.recoded recode) =
      (Crud.commonRendering operator operands).map recode := by
  obtain ⟨column, value, range, modifier⟩ := operands
  cases operator
  case fullText =>
    cases modifier <;>
      simp (disch := decide) only [Crud.commonRendering, Operands.recoded, String.map_append,
        Text.map_of_free quotes, Option.map_some, Option.map_none]
  all_goals
    cases range <;>
      simp (disch := decide) only [Crud.commonRendering, Operands.recoded, String.map_append,
        Text.map_of_free quotes, Option.map_some, Option.map_none]

include alike

/-- A condition. -/
theorem condition {condition : Condition} (same : left.RecodesCondition recode right condition) :
    right.condition condition = (left.condition condition).map (String.map recode) := by
  by_cases raw : condition.kind = .raw
  · have fixed := Text.fixed_trim (same.texts _ List.mem_cons_self)
    rw [right.condition_of_raw raw, left.condition_of_raw raw, Except.map, Text.map_of_fixed fixed]
  · obtain ⟨render, supports, name⟩ := same.operator raw
    rw [right.condition_of_ne_raw raw, left.condition_of_ne_raw raw, alike.operands same, render,
      supports]
    cases left.dialect.render condition.operator (left.operands condition) with
    | some text => rfl
    | none =>
      cases known : left.dialect.supports condition.operator with
      | true =>
        simp only [Option.map_none, ↓reduceIte, commonRendering alike.quotes]
        rfl
      | false =>
        have sameName := name.resolve_left (by rw [known]; decide)
        simp only [Option.map_none, Bool.false_eq_true, ↓reduceIte, sameName]
        rfl

/-- The elements of a clause. -/
theorem elements {clause : Clause}
    (same : ∀ condition ∈ clause.conditions, left.RecodesCondition recode right condition) :
    right.elements clause =
      (left.elements clause).map (List.map (Prod.map (String.map recode) id)) := by
  induction clause with
  | empty => rfl
  | condition head rest ih =>
    simp only [Clause.conditions, List.forall_mem_cons] at same
    rw [Target.elements, Target.elements, alike.condition same.1, ih same.2]
    cases left.condition head <;> cases left.elements rest <;> rfl
  | group inner rest ihInner ihRest =>
    simp only [Clause.conditions, List.forall_mem_append] at same
    rw [Target.elements, Target.elements, ihInner same.1, ihRest same.2]
    cases left.elements inner with
    | error => rfl
    | ok body =>
      cases left.elements rest with
      | error => rfl
      | ok more =>
        simp only [bind, Except.bind, Except.map, joinConnected alike.quotes, String.map_eq_empty]
        split
        · rfl
        · simp only [List.map_cons, Prod.map_apply, id_eq, String.map_append,
            Text.map_of_free alike.quotes "(" (by decide),
            Text.map_of_free alike.quotes ")" (by decide)]

/-- A clause. -/
theorem clause (clause : Clause)
    (same : ∀ condition ∈ clause.conditions, left.RecodesCondition recode right condition) :
    right.clause clause = (left.clause clause).map (String.map recode) := by
  rw [Target.clause, Target.clause, alike.elements same]
  cases left.elements clause with
  | error => rfl
  | ok elements => exact congrArg Except.ok (joinConnected alike.quotes elements)

end Target.Recodes

end Crud
