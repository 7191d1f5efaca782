import Crud.Proofs.ColumnLiterals
import Crud.Proofs.ColumnPieces
import Crud.Rendering

/-!
# Columns that are written again

Writing a column text adds quotes and the prefix of tables. What has been written is a column text
again, and it is written as it stands: its pieces are what was written for the pieces, as quotes
around a name leave open what was open, and no piece of it has a reference, as a quote stands
between every name in quotes and the point beside it.
-/

namespace Crud

namespace Lexeme

/-- Lexemes as a text has them: no name stands beside another one, and no character between names
is part of one. -/
def Separated : List Lexeme → Prop
  | [] => True
  | .other char :: rest => isNameChar char = false ∧ Separated rest
  | .name chars :: rest =>
    IsName chars ∧ (∀ next ∈ rest.head?, ∃ char, next = .other char) ∧ Separated rest

/-- The lexemes of a text are separated. -/
theorem separated_ofChars (text : List Char) : Separated (ofChars text) := by
  fun_induction ofChars text with
  | case1 => trivial
  | case2 head rest isName chars lexemes found ih =>
    rw [found] at ih
    obtain ⟨⟨-, all⟩, alone, behind⟩ := ih
    exact ⟨⟨List.cons_ne_nil _ _, List.forall_mem_cons.mpr ⟨isName, all⟩⟩, alone, behind⟩
  | case3 head rest isName none ih =>
    refine ⟨⟨List.cons_ne_nil _ _, List.forall_mem_singleton.mpr isName⟩, ?_, ih⟩
    intro next first
    cases next with
    | other char => exact ⟨char, rfl⟩
    | name chars =>
      obtain ⟨lexemes, found⟩ := List.head?_eq_some_iff.mp first
      exact absurd found (none chars lexemes)
  | case4 head rest isOther ih => exact ⟨Bool.eq_false_iff.mpr isOther, ih⟩

end Lexeme

/-- A text of one name is a bare name. -/
theorem isName_of_ofChars_eq {text name : List Char} (single : Lexeme.ofChars text = [.name name]) :
    IsName text ∧ name = text := by
  have whole := Lexeme.flatMap_chars_ofChars text
  rw [single, List.flatMap_singleton] at whole
  obtain rfl : name = text := whole
  have only : .name name ∈ Lexeme.ofChars name := by
    rw [single]
    exact List.mem_singleton_self _
  exact ⟨Lexeme.isName_of_mem_ofChars only, rfl⟩

/-- A bare name is one piece. -/
theorem columnPieces_of_isName {name : List Char} (isName : IsName name) :
    columnPieces name = [name] :=
  columnPieces_of_plain (fun comma => absurd (isName.2 ',' comma) (by decide))
    (Text.endsFree_of_forall fun char listed => isBlank_of_isNameChar (isName.2 char listed))

/-- A bare name is written in quotes. -/
theorem Quoter.piece_of_isName (quoter : Quoter) {name : List Char} (isName : IsName name) :
    quoter.piece name = quoter.quoted name := by
  rw [piece, Lexeme.ofChars_name isName]

/-- The parts of a text that is no bare name are those of its lexemes. -/
theorem ColumnPart.ofPiece_of_not_isName {piece : List Char} (noName : ¬IsName piece) :
    ofPiece piece = ofLexemes (Lexeme.ofChars piece) := by
  unfold ofPiece
  split
  next single => exact absurd (isName_of_ofChars_eq single).1 noName
  next => rfl

/-- Names are written as names: they stand between characters that open and close quotes, and what
is put before the name of a table is made of characters of names. -/
structure Quoter.WritesNames (quoter : Quoter) : Prop where
  /-- The character on both sides of a name opens and closes quotes. -/
  isQuote : Crud.isQuote quoter.quote = true
  /-- The prefix of tables has characters of names only. -/
  ofNameChars : ∀ name ∈ quoter.tablePrefix, ∀ char ∈ name.toList, isNameChar char = true

/-- A character that opens quotes is no part of a name. -/
theorem isNameChar_of_isQuote {char : Char} (opens : isQuote char = true) :
    isNameChar char = false := by
  refine Bool.eq_false_iff.mpr fun isName => ?_
  have inert := isInert_of_isNameChar isName
  rw [isInert, opens] at inert
  contradiction

/-- A character that opens quotes is not blank. -/
theorem isBlank_of_isQuote {char : Char} (opens : isQuote char = true) :
    Text.isBlank char = false := by
  refine Bool.eq_false_iff.mpr fun blank => ?_
  have inert := isInert_of_isBlank blank
  rw [isInert, opens] at inert
  contradiction

namespace Quoter

variable {quoter : Quoter}

/-- Names do not stand between points. -/
theorem WritesNames.ne_point (writes : quoter.WritesNames) : quoter.quote ≠ '.' :=
  fun same => absurd (same ▸ writes.isQuote) (by decide)

/-- Names do not stand between stars. -/
theorem WritesNames.ne_star (writes : quoter.WritesNames) : quoter.quote ≠ '*' :=
  fun same => absurd (same ▸ writes.isQuote) (by decide)

/-- What is written for the name of a table or a column is a name in quotes. -/
theorem WritesNames.exists_quoted (writes : quoter.WritesNames) {part : ColumnPart}
    (named : part.isText = false) (isName : IsName part.chars) :
    ∃ name, IsName name ∧ quoter.part part = quoter.quoted name := by
  cases part with
  | text => contradiction
  | column name => exact ⟨name, isName, rfl⟩
  | table name =>
    refine ⟨(quoter.tablePrefix.getD "").toList ++ name, ?_, rfl⟩
    refine ⟨List.append_ne_nil_of_right_ne_nil _ isName.1,
      List.forall_mem_append.mpr ⟨?_, isName.2⟩⟩
    cases found : quoter.tablePrefix with
    | none => exact nofun
    | some text => exact writes.ofNameChars text found

/-- A name in quotes is three lexemes. -/
theorem WritesNames.ofChars_quoted (writes : quoter.WritesNames) {name : List Char}
    (isName : IsName name) :
    Lexeme.ofChars (quoter.quoted name) =
      [.other quoter.quote, .name name, .other quoter.quote] := by
  have plain := isNameChar_of_isQuote writes.isQuote
  rw [quoted, List.cons_append, Lexeme.ofChars_other plain, Lexeme.ofChars_append_other plain,
    Lexeme.ofChars_name isName]
  rfl

variable (quoter) in
/-- What is written for parts begins with a quote or as the parts do. -/
theorem head?_flatMap_part (parts : List ColumnPart) :
    (parts.flatMap quoter.part).head? = some quoter.quote ∨
      (parts.flatMap quoter.part).head? = (parts.flatMap ColumnPart.chars).head? := by
  induction parts with
  | nil => exact .inr rfl
  | cons head rest ih =>
    cases head with
    | text chars =>
      cases chars with
      | nil => exact ih
      | cons => exact .inr rfl
    | column | table => exact .inl rfl

variable (quoter) in
/-- What is written for parts ends in a quote or as the parts do. -/
theorem getLast?_flatMap_part (parts : List ColumnPart) :
    (parts.flatMap quoter.part).getLast? = some quoter.quote ∨
      (parts.flatMap quoter.part).getLast? = (parts.flatMap ColumnPart.chars).getLast? := by
  induction parts using List.reverseRecOn with
  | nil => exact .inr rfl
  | append_singleton front last ih =>
    have ends (write : ColumnPart → List Char) :
        (front ++ [last]).flatMap write = front.flatMap write ++ write last := by
      rw [List.flatMap_append, List.flatMap_singleton]
    rw [ends, ends]
    cases last with
    | text chars =>
      by_cases some : chars = []
      · simpa only [part, ColumnPart.chars, some, List.append_nil] using ih
      · right
        change (_ ++ chars).getLast? = (_ ++ chars).getLast?
        rw [List.getLast?_append_of_ne_nil _ some, List.getLast?_append_of_ne_nil _ some]
    | column | table =>
      left
      simp only [part, quotedTable, quoted]
      rw [← List.append_assoc, List.getLast?_concat]

variable (quoter) in
/-- Lexemes with every table and column among them in quotes. -/
def rewritten (lexemes : List Lexeme) : List Lexeme :=
  (ColumnPart.ofLexemes lexemes).flatMap fun part => Lexeme.ofChars (quoter.part part)

/-- Behind a name, what is written does not go on with the name. -/
theorem WritesNames.plain_head? (writes : quoter.WritesNames) {lexemes : List Lexeme}
    (separated : Lexeme.Separated lexemes)
    (begins : ∀ lexeme ∈ lexemes.head?, ∃ char, lexeme = .other char) :
    ∀ first ∈ (quoter.quoteQualified lexemes).head?, isNameChar first = false := by
  intro first isFirst
  rw [quoteQualified_eq] at isFirst
  obtain quote | same := quoter.head?_flatMap_part (ColumnPart.ofLexemes lexemes)
  · rw [quote] at isFirst
    cases isFirst
    exact isNameChar_of_isQuote writes.isQuote
  · rw [same, ColumnPart.flatMap_chars_ofLexemes] at isFirst
    cases lexemes with
    | nil => contradiction
    | cons lexeme rest =>
      obtain ⟨char, rfl⟩ := begins lexeme rfl
      cases isFirst
      exact separated.1

/-- The lexemes of what is written for lexemes. -/
theorem WritesNames.ofChars_quoteQualified (writes : quoter.WritesNames) {lexemes : List Lexeme}
    (separated : Lexeme.Separated lexemes) :
    Lexeme.ofChars (quoter.quoteQualified lexemes) = quoter.rewritten lexemes := by
  have point : isNameChar '.' = false := by decide
  have star : isNameChar '*' = false := by decide
  -- No name runs into what is written behind it.
  have behind {front : List Char} {rest : List Lexeme} (separated : Lexeme.Separated rest)
      (begins : ∀ lexeme ∈ rest.head?, ∃ char, lexeme = .other char)
      (ih : Lexeme.ofChars (quoter.quoteQualified rest) = quoter.rewritten rest) :
      Lexeme.ofChars (front ++ quoter.quoteQualified rest) =
        Lexeme.ofChars front ++ quoter.rewritten rest := by
    rw [Lexeme.ofChars_append fun _ _ first isFirst _ =>
      writes.plain_head? separated begins first isFirst, ih]
  rw [quoteQualified_eq, rewritten]
  simp only [quoteQualified_eq, rewritten] at behind
  fun_induction ColumnPart.ofLexemes lexemes with
  | case1 first second rest ih =>
    obtain ⟨-, -, -, -, begins, separated⟩ := separated
    have three (left right : ColumnPart) :
        Lexeme.ofChars (([left, .text ['.'], right] ++ ColumnPart.ofLexemes rest).flatMap
            quoter.part) =
          ([left, .text ['.'], right] ++ ColumnPart.ofLexemes rest).flatMap
            fun part => Lexeme.ofChars (quoter.part part) := by
      simp only [List.cons_append, List.nil_append, List.flatMap_cons, part]
      rw [Lexeme.ofChars_append_other point, behind separated begins (ih separated)]
      rfl
    split
    · exact three _ _
    · exact three _ _
  | case2 first rest ih =>
    obtain ⟨-, -, -, -, separated⟩ := separated
    generalize (if first.any Text.isLetter then ColumnPart.table first else .text first) = left
    simp only [List.cons_append, List.nil_append, List.flatMap_cons, part]
    rw [Lexeme.ofChars_append_other point, Lexeme.ofChars_other star, ih separated]
    rfl
  | case3 lexeme rest _ _ ih =>
    rw [List.flatMap_cons, List.flatMap_cons, part]
    cases lexeme with
    | name chars =>
      obtain ⟨-, begins, separated⟩ := separated
      exact behind separated begins (ih separated)
    | other char =>
      obtain ⟨plain, separated⟩ := separated
      rw [Lexeme.chars, List.singleton_append, Lexeme.ofChars_other plain,
        Lexeme.ofChars_other plain, ih separated]
      rfl
  | case4 => rfl

/-- What is written for lexemes begins with a quote or with the first of them. -/
theorem WritesNames.head?_rewritten (writes : quoter.WritesNames) {lexemes : List Lexeme}
    (separated : Lexeme.Separated lexemes) :
    (quoter.rewritten lexemes).head? = some (.other quoter.quote) ∨
      (quoter.rewritten lexemes).head? = lexemes.head? := by
  have quote (name : List Char) (rest : List Lexeme) :
      (Lexeme.ofChars (quoter.quoted name) ++ rest).head? = some (.other quoter.quote) := by
    rw [quoted, List.cons_append, Lexeme.ofChars_other (isNameChar_of_isQuote writes.isQuote)]
    rfl
  have name {name : List Char} (isName : IsName name) (rest : List Lexeme) :
      (Lexeme.ofChars name ++ rest).head? = some (.name name) := by
    rw [Lexeme.ofChars_name isName]
    rfl
  rw [rewritten]
  fun_cases ColumnPart.ofLexemes lexemes with
  | case1 first second rest =>
    split
    · exact .inl (quote _ _)
    · exact .inr (name separated.1 _)
  | case2 first rest =>
    split
    · exact .inl (quote _ _)
    · exact .inr (name separated.1 _)
  | case3 lexeme rest =>
    right
    cases lexeme with
    | name chars => exact name separated.1 _
    | other char =>
      rw [List.flatMap_cons, part, Lexeme.chars, Lexeme.ofChars_other separated.1]
      rfl
  | case4 => exact .inr rfl

/-- What is written for a name holds no reference and begins none. -/
theorem WritesNames.all_isText_part (writes : quoter.WritesNames) {part : ColumnPart}
    (named : part.isText = false) (isName : IsName part.chars) (rest : List Lexeme) :
    (ColumnPart.ofLexemes (Lexeme.ofChars (quoter.part part) ++ rest)).all ColumnPart.isText =
      (ColumnPart.ofLexemes rest).all ColumnPart.isText := by
  obtain ⟨name, isName, same⟩ := writes.exists_quoted named isName
  have behind := ColumnPart.ofLexemes_append_other writes.ne_point writes.ne_star
    [.other quoter.quote, .name name] rest
  have front := ColumnPart.ofLexemes_append_other writes.ne_point writes.ne_star [] [.name name]
  rw [List.nil_append] at front
  rw [List.cons_append, List.cons_append, List.nil_append, front] at behind
  rw [same, writes.ofChars_quoted isName, List.cons_append, List.cons_append, List.cons_append,
    List.nil_append, behind]
  rfl

/-- Where a point and something else than a quote are written, they stand among the lexemes. -/
theorem WritesNames.exists_of_rewritten (writes : quoter.WritesNames) {lexemes : List Lexeme}
    (separated : Lexeme.Separated lexemes) {second : Lexeme} (kept : second ≠ .other quoter.quote)
    {tail : List Lexeme} (begun : quoter.rewritten lexemes = .other '.' :: second :: tail) :
    ∃ more, lexemes = .other '.' :: second :: more := by
  have first {third : Lexeme} {lexemes more : List Lexeme} (separated : Lexeme.Separated lexemes)
      (kept : third ≠ .other quoter.quote) (begun : quoter.rewritten lexemes = third :: more) :
      ∃ more, lexemes = third :: more := by
    have begins := writes.head?_rewritten separated
    rw [begun, List.head?_cons, Option.some_inj, or_iff_right kept] at begins
    exact List.head?_eq_some_iff.mp begins.symm
  obtain ⟨rest, rfl⟩ :=
    first separated (fun same => writes.ne_point (Lexeme.other.inj same).symm) begun
  have behind : quoter.rewritten rest = second :: tail := (List.cons.inj begun).2
  obtain ⟨more, rfl⟩ := first separated.2 kept behind
  exact ⟨more, rfl⟩

/-- No part of what is written for lexemes is a name. -/
theorem WritesNames.all_isText_rewritten (writes : quoter.WritesNames) {lexemes : List Lexeme}
    (separated : Lexeme.Separated lexemes) :
    (ColumnPart.ofLexemes (quoter.rewritten lexemes)).all ColumnPart.isText = true := by
  have table {name : List Char} (isName : IsName name) :=
    writes.all_isText_part (rfl : (ColumnPart.table name).isText = false) isName
  have column {name : List Char} (isName : IsName name) :=
    writes.all_isText_part (rfl : (ColumnPart.column name).isText = false) isName
  have other (char : Char) (rest : List Lexeme) :
      (ColumnPart.ofLexemes (.other char :: rest)).all ColumnPart.isText =
        (ColumnPart.ofLexemes rest).all ColumnPart.isText := rfl
  have text (chars : List Char) : quoter.part (.text chars) = chars := rfl
  have point : Lexeme.ofChars ['.'] = [.other '.'] := rfl
  have star : Lexeme.ofChars ['*'] = [.other '*'] := rfl
  rw [rewritten]
  fun_induction ColumnPart.ofLexemes lexemes with
  | case1 first second rest ih =>
    obtain ⟨isFirst, -, -, isSecond, -, separated⟩ := separated
    split
    · simp only [List.cons_append, List.nil_append, List.flatMap_cons]
      rw [table isFirst, part, point, List.singleton_append, other, column isSecond, ih separated]
    next numbers =>
      simp only [List.cons_append, List.nil_append, List.flatMap_cons, text, point,
        Lexeme.ofChars_name isFirst, Lexeme.ofChars_name isSecond]
      rw [ColumnPart.ofLexemes, if_neg numbers]
      exact ih separated
  | case2 first rest ih =>
    obtain ⟨isFirst, -, -, -, separated⟩ := separated
    split
    · simp only [List.cons_append, List.nil_append, List.flatMap_cons]
      rw [table isFirst, part, point, List.singleton_append, other, part, star,
        List.singleton_append, other, ih separated]
    next number =>
      simp only [List.cons_append, List.nil_append, List.flatMap_cons, text, point, star,
        Lexeme.ofChars_name isFirst]
      rw [ColumnPart.ofLexemes, if_neg number]
      exact ih separated
  | case3 lexeme rest noColumn noStar ih =>
    rw [List.flatMap_cons, part]
    cases lexeme with
    | name chars =>
      obtain ⟨isName, -, separated⟩ := separated
      rw [Lexeme.chars, Lexeme.ofChars_name isName, List.singleton_append, ColumnPart.ofLexemes,
        List.all_cons, ih separated]
      · rfl
      · intro first second tail _ begun
        obtain ⟨more, found⟩ := writes.exists_of_rewritten separated
          (fun same => by cases same) begun
        exact noColumn chars second more rfl found
      · intro first tail _ begun
        obtain ⟨more, found⟩ := writes.exists_of_rewritten separated
          (fun same => writes.ne_star (Lexeme.other.inj same).symm) begun
        exact noStar chars more rfl found
    | other char =>
      obtain ⟨plain, separated⟩ := separated
      rw [Lexeme.chars, Lexeme.ofChars_other plain]
      exact ih separated
  | case4 => rfl

/-- What is written for a piece is no bare name. -/
theorem WritesNames.not_isName_piece (writes : quoter.WritesNames) (chars : List Char) :
    ¬IsName (quoter.piece chars) := by
  intro isName
  have kept := quoter.flatMap_chars_sublist (ColumnPart.ofPiece chars)
  rw [ColumnPart.flatMap_chars_ofPiece, ← piece_eq] at kept
  have all : ∀ char ∈ chars, isNameChar char = true :=
    fun char listed => isName.2 char (kept.subset listed)
  by_cases some : chars = []
  · rw [some] at isName
    exact isName.1 rfl
  · rw [quoter.piece_of_isName ⟨some, all⟩] at isName
    have quote := isName.2 quoter.quote List.mem_cons_self
    rw [isNameChar_of_isQuote writes.isQuote] at quote
    contradiction

/-- No part of what is written for a piece is a name. -/
theorem WritesNames.all_isText_piece (writes : quoter.WritesNames) (chars : List Char) :
    (ColumnPart.ofPiece (quoter.piece chars)).all ColumnPart.isText = true := by
  rw [ColumnPart.ofPiece_of_not_isName (writes.not_isName_piece chars)]
  by_cases isName : IsName chars
  · have column := writes.all_isText_part (rfl : (ColumnPart.column chars).isText = false) isName []
    rw [List.append_nil] at column
    rw [quoter.piece_of_isName isName]
    exact column
  · have separated := Lexeme.separated_ofChars chars
    rw [piece_eq, ColumnPart.ofPiece_of_not_isName isName, ← quoteQualified_eq,
      writes.ofChars_quoteQualified separated]
    exact writes.all_isText_rewritten separated

/-- What is written for a piece is written as it stands. -/
theorem WritesNames.piece_piece (writes : quoter.WritesNames) (chars : List Char) :
    quoter.piece (quoter.piece chars) = quoter.piece chars := by
  conv => lhs; rw [piece_eq]
  rw [(quoter.flatMap_part_eq_iff _).mpr (writes.all_isText_piece chars),
    ColumnPart.flatMap_chars_ofPiece]

/-- What is written for a piece has no blanks at its ends. -/
theorem WritesNames.endsFree_piece (writes : quoter.WritesNames) {chars : List Char}
    (free : Text.EndsFree Text.isBlank chars) :
    Text.EndsFree Text.isBlank (quoter.piece chars) := by
  have isBlank := isBlank_of_isQuote writes.isQuote
  have whole := ColumnPart.flatMap_chars_ofPiece chars
  rw [piece_eq]
  constructor
  · obtain quote | same := quoter.head?_flatMap_part (ColumnPart.ofPiece chars)
    · rw [quote]
      rintro _ ⟨⟩
      exact isBlank
    · rw [same, whole]
      exact free.front
  · obtain quote | same := quoter.getLast?_flatMap_part (ColumnPart.ofPiece chars)
    · rw [quote]
      rintro _ ⟨⟩
      exact isBlank
    · rw [same, whole]
      exact free.back

/-- A name in quotes may stand for a name, and what is written for a piece for the piece. -/
theorem WritesNames.scansLike_piece (writes : quoter.WritesNames) (chars : List Char) :
    ScansLike chars (quoter.piece chars) := by
  have inert {name : List Char} (isName : IsName name) : ∀ char ∈ name, isInert char = true :=
    fun char listed => isInert_of_isNameChar (isName.2 char listed)
  have quoted {name written : List Char} (isName : IsName name) (isWritten : IsName written) :
      ScansLike name (quoter.quoted written) := by
    refine .of_inert (inert isName) (fun comma => ?_) fun _ possible =>
      ScanState.scan_quoted possible writes.isQuote (inert isWritten)
    rw [quoted, List.cons_append, List.mem_cons, List.mem_append, List.mem_singleton] at comma
    obtain quote | among | quote := comma
    · exact absurd (quote ▸ writes.isQuote) (by decide)
    · exact absurd (isWritten.2 ',' among) (by decide)
    · exact absurd (quote ▸ writes.isQuote) (by decide)
  have parts (parts : List ColumnPart)
      (names : ∀ part ∈ parts, part.isText = false → IsName part.chars) :
      ScansLike (parts.flatMap ColumnPart.chars) (parts.flatMap quoter.part) := by
    induction parts with
    | nil => exact .refl []
    | cons head rest ih =>
      obtain ⟨own, others⟩ := List.forall_mem_cons.mp names
      refine .append ?_ (ih others)
      cases isText : head.isText with
      | false =>
        obtain ⟨name, isName, same⟩ := writes.exists_quoted isText (own isText)
        rw [same]
        exact quoted (own isText) isName
      | true =>
        cases head with
        | text chars => exact .refl chars
        | column | table => contradiction
  have whole := parts (ColumnPart.ofPiece chars) fun _ => ColumnPart.isName_of_mem_ofPiece
  rwa [ColumnPart.flatMap_chars_ofPiece, ← piece_eq] at whole

/-- The pieces of what is written for a list are what is written for its pieces. -/
theorem WritesNames.columnPieces_column (writes : quoter.WritesNames) (text : String) :
    columnPieces (quoter.column text).toList = (columnPieces text.toList).map quoter.piece := by
  rw [toList_column_eq_intercalate]
  apply columnPieces_intercalate
  · have parted := parted_splitCommasFrom .outside text.toList
    refine parted.scansLike ScanState.possible_outside ?_
    rw [columnPieces, splitCommas, List.map_map, List.forall₂_map_right_iff, List.forall₂_same]
    exact fun part _ => (Padded.stripEnds part).scansLike.2.trans (writes.scansLike_piece _)
  · intro written listed
    obtain ⟨piece, isPiece, rfl⟩ := List.mem_map.mp listed
    obtain ⟨part, -, rfl⟩ := List.mem_map.mp isPiece
    exact writes.endsFree_piece (Text.endsFree_stripEnds _ part)

/-- What is written for columns is written as it stands. -/
theorem WritesNames.column_column (writes : quoter.WritesNames) (text : String) :
    quoter.column (quoter.column text) = quoter.column text := by
  rw [← String.toList_inj, toList_column_eq_intercalate, writes.columnPieces_column,
    toList_column_eq_intercalate, List.map_map]
  congr 1
  exact List.map_congr_left fun piece _ => writes.piece_piece piece

/-- Blanks at the ends of a list are not written. -/
theorem column_trim (quoter : Quoter) (text : String) :
    quoter.column (Text.trim text) = quoter.column text := by
  rw [← String.toList_inj, toList_column_eq_intercalate, toList_column_eq_intercalate, Text.trim,
    String.toList_ofList, columnPieces_stripEnds]

/-- What is written for columns is written as it stands where a table is written. -/
theorem WritesNames.table_column (writes : quoter.WritesNames) (text : String) :
    quoter.table (quoter.column text) = quoter.column text := by
  unfold table
  split
  next name single =>
    -- The name would be the only piece, and what is written for a piece is no name.
    obtain ⟨isName, -⟩ := isName_of_ofChars_eq single
    have pieces := columnPieces_of_isName isName
    have listed : (Text.trim (quoter.column text)).toList ∈
        (columnPieces text.toList).map quoter.piece := by
      rw [← writes.columnPieces_column, ← columnPieces_stripEnds]
      rw [Text.trim, String.toList_ofList] at pieces ⊢
      rw [pieces]
      exact List.mem_singleton_self _
    obtain ⟨piece, -, same⟩ := List.mem_map.mp listed
    rw [← same] at isName
    exact absurd isName (writes.not_isName_piece piece)
  next => rw [column_trim, writes.column_column]

/-- A table is written as a column is. -/
theorem WritesNames.exists_table_eq_column (writes : quoter.WritesNames) (text : String) :
    ∃ other, quoter.table text = quoter.column other := by
  unfold table
  split
  next name single =>
    obtain ⟨isName, rfl⟩ := isName_of_ofChars_eq single
    obtain ⟨written, isWritten, same⟩ := writes.exists_quoted
      (rfl : (ColumnPart.table (Text.trim text).toList).isText = false) isName
    refine ⟨.ofList written, ?_⟩
    rw [← String.toList_inj, toList_column_eq_intercalate, String.toList_ofList,
      String.toList_ofList, columnPieces_of_isName isWritten, List.map_singleton,
      List.intercalate_singleton, quoter.piece_of_isName isWritten]
    exact same
  next => exact ⟨Text.trim text, rfl⟩

/-- What is written for a table is written as it stands. -/
theorem WritesNames.table_table (writes : quoter.WritesNames) (text : String) :
    quoter.table (quoter.table text) = quoter.table text := by
  obtain ⟨other, same⟩ := writes.exists_table_eq_column text
  rw [same, writes.table_column]

/-- Without a prefix, quotes are all that is added: what is left of columns without the quotes is
what is left of their pieces, with a comma and a blank between them. -/
theorem filter_column (quoter : Quoter) (noPrefix : quoter.tablePrefix = none) (text : String) :
    (quoter.column text).toList.filter (· != quoter.quote) =
      (List.intercalate [',', ' '] (columnPieces text.toList)).filter (· != quoter.quote) := by
  have quoted (name : List Char) :
      (quoter.quoted name).filter (· != quoter.quote) = name.filter (· != quoter.quote) := by
    simp only [Quoter.quoted, List.cons_append, List.filter_cons, List.filter_append,
      bne_self_eq_false, Bool.false_eq_true, ↓reduceIte, List.filter_nil, List.append_nil]
  rw [toList_column, ← ColumnPart.flatMap_chars_ofText, List.filter_flatMap, List.filter_flatMap]
  refine List.flatMap_congr fun part _ => ?_
  cases part with
  | text chars => rfl
  | column name => exact quoted name
  | table name =>
    rw [Quoter.part, quotedTable, noPrefix]
    exact quoted name

end Quoter

/-- The dialects of the library put names between characters that open and close quotes. -/
theorem Dialect.isQuote_of_shipped {dialect : Dialect} (listed : dialect ∈ shipped) :
    isQuote dialect.quote = true := by
  simp only [shipped, List.mem_cons, List.not_mem_nil, or_false] at listed
  obtain rfl | rfl | rfl := listed <;> rfl

/-- Columns and tables are written once and for all. Without a prefix for tables, only quotes are
added to the pieces of a column text. With a prefix of letters, digits and underscores, or without
one, what has been written is written as it stands, whatever the text. -/
theorem Target.written_columns_settle {target : Target}
    (shipped : target.dialect ∈ Dialect.shipped) :
    (target.tablePrefix = none → ∀ text : String,
      (target.quoter.column text).toList.filter (· != target.dialect.quote) =
        (List.intercalate [',', ' '] (columnPieces text.toList)).filter
          (· != target.dialect.quote)) ∧
    ((∀ name ∈ target.tablePrefix, ∀ char ∈ name.toList, isNameChar char = true) →
      ∀ text : String,
        target.quoter.column (target.quoter.column text) = target.quoter.column text ∧
        target.quoter.table (target.quoter.table text) = target.quoter.table text) := by
  refine ⟨fun noPrefix text => target.quoter.filter_column noPrefix text, fun nameChars text => ?_⟩
  have writes : target.quoter.WritesNames := ⟨Dialect.isQuote_of_shipped shipped, nameChars⟩
  exact ⟨writes.column_column text, writes.table_table text⟩

/-- A text with several points, an empty piece, a numeral, a literal, names in quotes, a star, an
open parenthesis and an open quote. -/
theorem sampleColumns_settle :
    let plain : Target := ⟨.mysql, none⟩
    let target : Target := ⟨.mysql, some "app_"⟩
    let text := " a.b.c , , 1.5, 'x.y', \x60u\x60.\x60v\x60, (x, y.*, \x60open.end, "
    Dialect.mysql ∈ Dialect.shipped ∧
    target.quoter.column text = "\x60app_a\x60.\x60b\x60.c, , 1.5, '\x60app_x\x60.\x60y\x60', " ++
      "\x60u\x60.\x60v\x60, (x, \x60app_y\x60.*, \x60\x60app_open\x60.\x60end\x60," ∧
    (plain.quoter.column text).toList.filter (· != '\x60') =
      "a.b.c, , 1.5, 'x.y', u.v, (x, y.*, open.end,".toList ∧
    target.quoter.column (target.quoter.column text) = target.quoter.column text ∧
    target.quoter.table (target.quoter.table text) = target.quoter.table text := by
  intro plain target text
  have shipped : Dialect.mysql ∈ Dialect.shipped := by simp [Dialect.shipped]
  have nameChars : ∀ name ∈ target.tablePrefix, ∀ char ∈ name.toList, isNameChar char = true := by
    rintro _ ⟨⟩
    exact List.all_eq_true.mp (by decide)
  obtain ⟨quotesOnly, -⟩ := @Target.written_columns_settle plain shipped
  obtain ⟨-, settles⟩ := @Target.written_columns_settle target shipped
  have pieces : (List.intercalate [',', ' '] (columnPieces text.toList)).filter (· != '\x60') =
      "a.b.c, , 1.5, 'x.y', u.v, (x, y.*, open.end,".toList := by decide +kernel
  exact ⟨shipped, by decide +kernel, (quotesOnly rfl text).trans pieces, settles nameChars text⟩

end Crud
