import Crud.Identifier
import Crud.Proofs.Texts
import Crud.Proofs.Trimming

/-!
# Parts of a column text

A column text is written part by part: the name of a column is put in quotes, the name of a table
gets its prefix and quotes, and everything else stays as it is. Which characters belong to which
part depends on the text alone and neither on the quotes nor on the prefix, and the parts of a piece
have the characters of the piece.
-/

namespace Crud

/-- The parts between commas have the characters of the text. -/
theorem mem_of_mem_splitCommasFrom {state : ScanState} {chars part : List Char} {char : Char}
    (isPart : part ∈ splitCommasFrom state chars) (listed : char ∈ part) : char ∈ chars := by
  fun_induction splitCommasFrom state chars generalizing part with
  | case1 => simp_all
  | case2 state head rest comma ih => grind
  | case3 state head rest _ found => simp_all
  | case4 state head rest _ first others found ih => grind

/-- The pieces of a column list have the characters of the list. -/
theorem mem_of_mem_columnPieces {chars piece : List Char} {char : Char}
    (isPiece : piece ∈ columnPieces chars) (listed : char ∈ piece) : char ∈ chars := by
  obtain ⟨part, isPart, rfl⟩ := List.mem_map.mp isPiece
  exact mem_of_mem_splitCommasFrom isPart ((Text.stripEnds_sublist _ _).subset listed)

/-- The lexemes of a text have the characters of the text, in order. -/
theorem Lexeme.flatMap_chars_ofChars (text : List Char) : (ofChars text).flatMap chars = text := by
  fun_induction ofChars text with
  | case1 => rfl
  | case2 head rest isName name lexemes found ih =>
    rw [found] at ih
    rw [List.flatMap_cons] at ih ⊢
    exact congrArg (head :: ·) ih
  | case3 head rest isName none ih => exact congrArg (head :: ·) ih
  | case4 head rest isOther ih => exact congrArg (head :: ·) ih

/-- A part of a column text. -/
inductive ColumnPart where
  /-- Characters that stay as they are. -/
  | text (chars : List Char)
  /-- The name of a column. -/
  | column (name : List Char)
  /-- The name of a table. -/
  | table (name : List Char)
deriving DecidableEq, Repr

namespace ColumnPart

/-- The characters of a part. -/
def chars : ColumnPart → List Char
  | text chars | column chars | table chars => chars

/-- The parts of lexemes. A point between two names, or between a name and a star, makes a table and
a column of them, unless they have no letter. -/
def ofLexemes : List Lexeme → List ColumnPart
  | .name first :: .other '.' :: .name second :: rest =>
    (if first.any Text.isLetter || second.any Text.isLetter then
      [table first, text ['.'], column second]
    else [text first, text ['.'], text second]) ++ ofLexemes rest
  | .name first :: .other '.' :: .other '*' :: rest =>
    [if first.any Text.isLetter then table first else text first, text ['.'], text ['*']] ++
      ofLexemes rest
  | lexeme :: rest => text lexeme.chars :: ofLexemes rest
  | [] => []

/-- The parts of a piece of a column list. -/
def ofPiece (chars : List Char) : List ColumnPart :=
  match Lexeme.ofChars chars with
  | [.name name] => [column name]
  | lexemes => ofLexemes lexemes

/-- The parts of a column text, with a comma and a blank between its pieces. -/
def ofText (chars : List Char) : List ColumnPart :=
  List.intercalate [text [',', ' ']] ((columnPieces chars).map ofPiece)

/-- The parts of lexemes have the characters of the lexemes, in order. -/
theorem flatMap_chars_ofLexemes (lexemes : List Lexeme) :
    (ofLexemes lexemes).flatMap chars = lexemes.flatMap Lexeme.chars := by
  fun_induction ofLexemes lexemes with
  | case1 first second rest ih =>
    rw [List.flatMap_append, ih]
    split <;> simp [chars, Lexeme.chars]
  | case2 first rest ih =>
    rw [List.flatMap_append, ih]
    split <;> simp [chars, Lexeme.chars]
  | case3 lexeme rest _ _ ih => rw [List.flatMap_cons, List.flatMap_cons, ih, chars]
  | case4 => rfl

/-- The parts of a piece have the characters of the piece, in order. -/
theorem flatMap_chars_ofPiece (piece : List Char) : (ofPiece piece).flatMap chars = piece := by
  have whole := Lexeme.flatMap_chars_ofChars piece
  unfold ofPiece
  split
  next name found => rwa [found] at whole
  next => rw [flatMap_chars_ofLexemes, whole]

/-- The parts of a column text have the characters of its pieces, with a comma and a blank between
them. -/
theorem flatMap_chars_ofText (text : List Char) :
    (ofText text).flatMap chars = List.intercalate [',', ' '] (columnPieces text) := by
  rw [ofText, List.flatMap_intercalate, List.map_map]
  congr 1
  exact (List.map_congr_left fun piece _ => flatMap_chars_ofPiece piece).trans (List.map_id _)

end ColumnPart

namespace Quoter

variable (quoter : Quoter)

/-- A part as it is written. -/
def part : ColumnPart → List Char
  | .text chars => chars
  | .column name => quoter.quoted name
  | .table name => quoter.quotedTable name

/-- Lexemes are written part by part. -/
theorem quoteQualified_eq (lexemes : List Lexeme) :
    quoter.quoteQualified lexemes = (ColumnPart.ofLexemes lexemes).flatMap quoter.part := by
  fun_induction ColumnPart.ofLexemes lexemes with
  | case1 first second rest ih =>
    rw [quoteQualified, List.flatMap_append, ih]
    split <;> simp [part]
  | case2 first rest ih =>
    rw [quoteQualified, List.flatMap_append, ih]
    split <;> simp [part]
  | case3 lexeme rest _ _ ih =>
    rw [quoteQualified, List.flatMap_cons, ih, part]
    all_goals assumption
  | case4 => rfl

/-- A piece of a column list is written part by part. -/
theorem piece_eq (chars : List Char) :
    quoter.piece chars = (ColumnPart.ofPiece chars).flatMap quoter.part := by
  unfold piece ColumnPart.ofPiece
  generalize Lexeme.ofChars chars = lexemes
  match lexemes with
  | [.name _] => exact (List.append_nil _).symm
  | [] | .other _ :: _ | .name _ :: _ :: _ => exact quoter.quoteQualified_eq _

/-- A column text is written piece by piece, with a comma and a blank between them. -/
theorem toList_column_eq_intercalate (text : String) :
    (quoter.column text).toList =
      List.intercalate [',', ' '] ((columnPieces text.toList).map quoter.piece) := by
  rw [column, Text.toList_join, List.map_map]
  congr 1
  exact List.map_congr_left fun _ _ => String.toList_ofList

/-- A column text is written part by part. -/
theorem toList_column (text : String) :
    (quoter.column text).toList = (ColumnPart.ofText text.toList).flatMap quoter.part := by
  rw [toList_column_eq_intercalate, ColumnPart.ofText, List.flatMap_intercalate, List.map_map]
  congr 1
  exact List.map_congr_left fun chars _ => quoter.piece_eq chars

end Quoter

end Crud
