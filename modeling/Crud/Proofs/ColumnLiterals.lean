import Crud.Proofs.ColumnReferences

/-!
# Literals in a column text

A column text may hold numerals and texts in single quotes. A comma in quotes separates no pieces,
but a point makes a reference there as it does anywhere else. So the content of a literal stays as
it is exactly when it holds no reference. A numeral by itself is taken for a bare name if it has
only digits and an exponent letter, and its fraction is taken for a column if it has an exponent.
-/

namespace Crud

/-- The part is no name of a table or a column. -/
def ColumnPart.isText : ColumnPart → Bool
  | text _ => true
  | column _ | table _ => false

/-- The names among the lexemes of a text are bare names. -/
theorem Lexeme.isName_of_mem_ofChars {name text : List Char}
    (listed : .name name ∈ ofChars text) : IsName name := by
  fun_induction ofChars text generalizing name with
  | case1 => contradiction
  | case2 head rest isName chars lexemes found ih =>
    rw [found] at ih
    obtain same | listed := List.mem_cons.mp listed
    · cases same
      obtain ⟨-, all⟩ := ih List.mem_cons_self
      exact ⟨List.cons_ne_nil _ _, List.forall_mem_cons.mpr ⟨isName, all⟩⟩
    · exact ih (List.mem_cons_of_mem _ listed)
  | case3 head rest isName none ih =>
    obtain same | listed := List.mem_cons.mp listed
    · cases same
      exact ⟨List.cons_ne_nil _ _, List.forall_mem_singleton.mpr isName⟩
    · exact ih listed
  | case4 head rest isOther ih =>
    obtain same | listed := List.mem_cons.mp listed
    · cases same
    · exact ih listed

namespace ColumnPart

/-- A table or a column among the parts of lexemes is a name among the lexemes. -/
theorem name_mem_of_mem_ofLexemes {part : ColumnPart} {lexemes : List Lexeme}
    (listed : part ∈ ofLexemes lexemes) (name : part.isText = false) :
    .name part.chars ∈ lexemes := by
  fun_induction ofLexemes lexemes with
  | case1 first second rest ih =>
    obtain here | later := List.mem_append.mp listed
    · split at here
      · simp only [List.mem_cons, List.not_mem_nil, or_false] at here
        obtain rfl | rfl | rfl := here
        · exact List.mem_cons_self
        · contradiction
        · exact List.mem_cons_of_mem _ (List.mem_cons_of_mem _ List.mem_cons_self)
      · simp only [List.mem_cons, List.not_mem_nil, or_false] at here
        obtain rfl | rfl | rfl := here <;> contradiction
    · exact List.mem_cons_of_mem _ (List.mem_cons_of_mem _ (List.mem_cons_of_mem _ (ih later)))
  | case2 first rest ih =>
    obtain here | later := List.mem_append.mp listed
    · simp only [List.mem_cons, List.not_mem_nil, or_false] at here
      obtain rfl | rfl | rfl := here
      · split at name
        · rw [if_pos ‹_›]
          exact List.mem_cons_self
        · contradiction
      · contradiction
      · contradiction
    · exact List.mem_cons_of_mem _ (List.mem_cons_of_mem _ (List.mem_cons_of_mem _ (ih later)))
  | case3 lexeme rest _ _ ih =>
    obtain rfl | listed := List.mem_cons.mp listed
    · contradiction
    · exact List.mem_cons_of_mem _ (ih listed)
  | case4 => contradiction

/-- A table or a column among the parts of a piece is a bare name. -/
theorem isName_of_mem_ofPiece {part : ColumnPart} {piece : List Char}
    (listed : part ∈ ofPiece piece)
    (name : part.isText = false) : IsName part.chars := by
  unfold ofPiece at listed
  split at listed
  next single lexemes =>
    rw [List.mem_singleton.mp listed]
    have only : .name single ∈ Lexeme.ofChars piece := by
      rw [lexemes]
      exact List.mem_singleton_self _
    exact Lexeme.isName_of_mem_ofChars only
  next => exact Lexeme.isName_of_mem_ofChars (name_mem_of_mem_ofLexemes listed name)

/-- A table or a column among the parts of a text is a bare name. -/
theorem isName_of_mem_ofText {part : ColumnPart} {text : List Char} (listed : part ∈ ofText text)
    (name : part.isText = false) : IsName part.chars := by
  obtain comma | ⟨_, isPiece, found⟩ := List.mem_of_mem_intercalate listed
  · rw [List.mem_singleton.mp comma] at name
    contradiction
  · obtain ⟨piece, -, rfl⟩ := List.mem_map.mp isPiece
    exact isName_of_mem_ofPiece found name

end ColumnPart

/-- A text without commas and without blanks at its ends is one piece. -/
theorem columnPieces_of_plain {text : List Char} (plain : ',' ∉ text)
    (free : Text.EndsFree Text.isBlank text) : columnPieces text = [text] := by
  obtain ⟨back, others, behind, found⟩ :=
    exists_splitCommasFrom_of_unsplit (unsplit_of_plain plain .outside) []
  cases behind
  rw [List.append_nil] at found
  rw [columnPieces, splitCommas, found, List.map_singleton, Text.stripEnds_eq_self_iff.mpr free]

namespace Quoter

variable (quoter : Quoter)

/-- Quotes make a name longer. -/
theorem length_chars_lt {part : ColumnPart} (name : part.isText = false) :
    part.chars.length < (quoter.part part).length := by
  cases part with
  | text => contradiction
  | column =>
    simp only [part, quoted, ColumnPart.chars, List.length_append, List.length_cons]
    omega
  | table =>
    simp only [part, quotedTable, quoted, ColumnPart.chars, List.length_append, List.length_cons]
    omega

/-- What is written for parts has the characters of the parts, in order. -/
theorem flatMap_chars_sublist (parts : List ColumnPart) :
    (parts.flatMap ColumnPart.chars).Sublist (parts.flatMap quoter.part) := by
  induction parts with
  | nil => exact .refl []
  | cons head rest ih =>
    have own : head.chars.Sublist (quoter.part head) := by
      cases head with
      | text => exact .refl _
      | column name => exact (List.sublist_append_left name _).cons _
      | table name =>
        exact ((List.sublist_append_right _ name).trans (List.sublist_append_left _ _)).cons _
    exact own.append ih

/-- Parts are written as they stand if and only if none of them is a name. -/
theorem flatMap_part_eq_iff (parts : List ColumnPart) :
    parts.flatMap quoter.part = parts.flatMap ColumnPart.chars ↔
      parts.all ColumnPart.isText = true := by
  induction parts with
  | nil => exact ⟨fun _ => rfl, fun _ => rfl⟩
  | cons head rest ih =>
    rw [List.all_cons, Bool.and_eq_true, ← ih, List.flatMap_cons, List.flatMap_cons]
    cases isText : head.isText with
    | true =>
      cases head with
      | text => exact ⟨fun same => ⟨rfl, List.append_cancel_left same⟩, fun same => same.2 ▸ rfl⟩
      | column | table => contradiction
    | false =>
      have longer := quoter.length_chars_lt isText
      have others := (quoter.flatMap_chars_sublist rest).length_le
      refine ⟨fun same => ?_, fun same => absurd same.1 Bool.false_ne_true⟩
      have lengths := congrArg List.length same
      simp only [List.length_append] at lengths
      omega

/-- A text of one piece is written as it stands if and only if none of its parts is a name. -/
theorem column_eq_self_iff {text : List Char} (single : columnPieces text = [text]) :
    quoter.column (.ofList text) = .ofList text ↔
      (ColumnPart.ofPiece text).all ColumnPart.isText = true := by
  have parts : ColumnPart.ofText text = ColumnPart.ofPiece text := by
    rw [ColumnPart.ofText, single, List.map_singleton, List.intercalate_singleton]
  rw [← flatMap_part_eq_iff quoter, ColumnPart.flatMap_chars_ofPiece, ← String.toList_inj,
    toList_column, String.toList_ofList, parts]

end Quoter

/-- Decimal digits, at least one. -/
structure Digits where
  /-- The digits. -/
  chars : List Char
  /-- There is one. -/
  some : chars ≠ []
  /-- They are digits. -/
  digits : chars.all Text.isDigit = true

/-- The exponent of a numeral. -/
structure Exponent where
  /-- The letter in front. -/
  letter : Char
  /-- It is an E of either case. -/
  isLetter : letter = 'e' ∨ letter = 'E'
  /-- The sign, if there is one. -/
  sign : Option Char
  /-- It is a plus or a minus. -/
  isSign : ∀ char ∈ sign, char = '+' ∨ char = '-'
  /-- The digits behind it. -/
  digits : Digits

/-- Digits with an optional fraction and an optional exponent. -/
structure Numeral where
  /-- The digits in front. -/
  whole : Digits
  /-- The digits behind the point. -/
  fraction : Option Digits
  /-- The exponent. -/
  exponent : Option Exponent

/-- A digit is not a letter. -/
theorem isLetter_of_isDigit {char : Char} (isDigit : Text.isDigit char = true) :
    Text.isLetter char = false := by
  simp only [Text.isDigit, Bool.and_eq_true, decide_eq_true_eq] at isDigit
  have last : char.toNat ≤ 57 := isDigit.2
  simp only [Text.isLetter, Bool.or_eq_false_iff, Bool.and_eq_false_iff, decide_eq_false_iff_not]
  refine ⟨.inl fun low => ?_, .inl fun low => ?_⟩
  · have first : 97 ≤ char.toNat := low
    omega
  · have first : 65 ≤ char.toNat := low
    omega

namespace Digits

variable (digits : Digits)

/-- Each of the digits is one. -/
theorem isDigit {char : Char} (listed : char ∈ digits.chars) : Text.isDigit char = true :=
  List.all_eq_true.mp digits.digits char listed

/-- Digits are a bare name. -/
theorem isName : IsName digits.chars := by
  refine ⟨digits.some, fun char listed => ?_⟩
  rw [isNameChar, digits.isDigit listed, Bool.or_true, Bool.true_or]

/-- Digits have no letter. -/
theorem any_isLetter : digits.chars.any Text.isLetter = false := by
  rw [List.any_eq_false]
  intro char listed
  rw [isLetter_of_isDigit (digits.isDigit listed)]
  exact Bool.false_ne_true

end Digits

namespace Exponent

variable (exponent : Exponent)

/-- The characters of an exponent. -/
def chars : List Char := exponent.letter :: exponent.sign.toList ++ exponent.digits.chars

/-- The characters that go on with the name in front of the exponent. -/
def name : List Char :=
  match exponent.sign with
  | none => exponent.letter :: exponent.digits.chars
  | some _ => [exponent.letter]

/-- The lexemes from the sign on. -/
def signed : List Lexeme :=
  match exponent.sign with
  | none => []
  | some sign => [.other sign, .name exponent.digits.chars]

/-- The letter of an exponent is a letter. -/
theorem isLetter_letter : Text.isLetter exponent.letter = true := by
  obtain same | same := exponent.isLetter
  · rw [same]
    decide
  · rw [same]
    decide

/-- The name in front of an exponent gets a letter. -/
theorem any_isLetter : exponent.name.any Text.isLetter = true := by
  unfold name
  split
  · rw [List.any_cons, isLetter_letter, Bool.true_or]
  · rw [List.any_cons, isLetter_letter, Bool.true_or]

/-- The letter of an exponent is a character of names. -/
theorem isNameChar_letter : isNameChar exponent.letter = true := by
  rw [isNameChar, isLetter_letter, Bool.true_or, Bool.true_or]

/-- An exponent is made of characters of names and a sign. -/
theorem mem_chars {char : Char} (listed : char ∈ exponent.chars) :
    isNameChar char = true ∨ char = '+' ∨ char = '-' := by
  rw [chars, List.cons_append, List.mem_cons, List.mem_append, Option.mem_toList] at listed
  obtain rfl | sign | digit := listed
  · exact .inl exponent.isNameChar_letter
  · exact .inr (exponent.isSign char sign)
  · exact .inl (exponent.digits.isName.2 char digit)

/-- The name in front of an exponent goes on to its sign, or to its end. -/
theorem isName_append {front : List Char} (isName : IsName front) :
    IsName (front ++ exponent.name) := by
  refine ⟨List.append_ne_nil_of_left_ne_nil isName.1 _, ?_⟩
  rw [List.forall_mem_append]
  refine ⟨isName.2, ?_⟩
  unfold name
  split
  · exact List.forall_mem_cons.mpr ⟨exponent.isNameChar_letter, exponent.digits.isName.2⟩
  · exact List.forall_mem_singleton.mpr exponent.isNameChar_letter

end Exponent

/-- A character that is not part of a name is a lexeme between those of the texts around it. -/
theorem Lexeme.ofChars_append_other {char : Char} (plain : isNameChar char = false)
    (front back : List Char) :
    ofChars (front ++ char :: back) = ofChars front ++ .other char :: ofChars back := by
  rw [ofChars_append fun _ _ first isFirst _ => ?_, ofChars_other plain]
  cases isFirst
  exact plain

/-- The lexemes of a name with an exponent behind it. -/
theorem Exponent.ofChars_append {front : List Char} (isName : IsName front) (exponent : Exponent) :
    Lexeme.ofChars (front ++ exponent.chars) =
      .name (front ++ exponent.name) :: exponent.signed := by
  have whole := exponent.isName_append isName
  unfold name at whole ⊢
  unfold chars signed
  cases signs : exponent.sign with
  | none =>
    rw [signs] at whole
    exact Lexeme.ofChars_name whole
  | some sign =>
    have plain : isNameChar sign = false := by
      obtain rfl | rfl := exponent.isSign sign signs <;> decide
    have behind : front ++ (exponent.letter :: [sign] ++ exponent.digits.chars) =
        front ++ [exponent.letter] ++ sign :: exponent.digits.chars := by
      simp only [List.cons_append, List.nil_append, List.append_assoc]
    rw [signs] at whole
    rw [Option.toList_some, behind, Lexeme.ofChars_append_other plain, Lexeme.ofChars_name whole,
      Lexeme.ofChars_name exponent.digits.isName]
    rfl

namespace Numeral

variable (numeral : Numeral)

/-- The characters of a numeral. -/
def chars : List Char :=
  let ending := numeral.exponent.elim [] Exponent.chars
  match numeral.fraction with
  | none => numeral.whole.chars ++ ending
  | some fraction => numeral.whole.chars ++ '.' :: (fraction.chars ++ ending)

/-- The lexemes of a numeral. -/
def lexemes : List Lexeme :=
  let name := numeral.exponent.elim [] Exponent.name
  let signed := numeral.exponent.elim [] Exponent.signed
  match numeral.fraction with
  | none => .name (numeral.whole.chars ++ name) :: signed
  | some fraction =>
    .name numeral.whole.chars :: .other '.' :: .name (fraction.chars ++ name) :: signed

/-- The numeral has an exponent with a sign and no fraction, or a fraction and no exponent. -/
def staysAsWritten : Bool :=
  match numeral.fraction, numeral.exponent with
  | none, some exponent => exponent.sign.isSome
  | some _, none => true
  | _, _ => false

/-- The lexemes of the characters of a numeral. -/
theorem ofChars_chars : Lexeme.ofChars numeral.chars = numeral.lexemes := by
  have ending {front : List Char} (isName : IsName front) :
      Lexeme.ofChars (front ++ numeral.exponent.elim [] Exponent.chars) =
        .name (front ++ numeral.exponent.elim [] Exponent.name) ::
          numeral.exponent.elim [] Exponent.signed := by
    cases numeral.exponent with
    | none =>
      simp only [Option.elim_none, List.append_nil]
      exact Lexeme.ofChars_name isName
    | some exponent => exact exponent.ofChars_append isName
  unfold chars lexemes
  cases numeral.fraction with
  | none => exact ending numeral.whole.isName
  | some fraction =>
    have point : isNameChar '.' = false := by decide
    simp only
    rw [Lexeme.ofChars_append_other point, Lexeme.ofChars_name numeral.whole.isName,
      ending fraction.isName]
    rfl

/-- No part of a numeral is a name if and only if the numeral stays as written. -/
theorem all_isText : (ColumnPart.ofPiece numeral.chars).all ColumnPart.isText =
    numeral.staysAsWritten := by
  unfold ColumnPart.ofPiece
  rw [numeral.ofChars_chars]
  obtain ⟨whole, fraction, exponent⟩ := numeral
  cases fraction with
  | none =>
    cases exponent with
    | none => rfl
    | some exponent =>
      simp only [lexemes, staysAsWritten, Option.elim_some, Exponent.signed]
      cases signs : exponent.sign with
      | none => rfl
      | some sign => obtain rfl | rfl := exponent.isSign sign signs <;> rfl
  | some fraction =>
    cases exponent with
    | none =>
      simp only [lexemes, staysAsWritten, Option.elim_none, List.append_nil, ColumnPart.ofLexemes,
        whole.any_isLetter, fraction.any_isLetter]
      rfl
    | some exponent =>
      have letter : (fraction.chars ++ exponent.name).any Text.isLetter = true := by
        rw [List.any_append, exponent.any_isLetter, Bool.or_true]
      simp only [lexemes, staysAsWritten, Option.elim_some, ColumnPart.ofLexemes, letter,
        Bool.or_true, if_true]
      rfl

/-- A numeral is made of characters of names, points and signs. -/
theorem mem_chars {char : Char} (listed : char ∈ numeral.chars) :
    isNameChar char = true ∨ char = '.' ∨ char = '+' ∨ char = '-' := by
  have ending (listed : char ∈ numeral.exponent.elim [] Exponent.chars) :
      isNameChar char = true ∨ char = '.' ∨ char = '+' ∨ char = '-' := by
    cases found : numeral.exponent with
    | none =>
      rw [found] at listed
      contradiction
    | some exponent =>
      rw [found] at listed
      exact (exponent.mem_chars listed).imp_right .inr
  unfold chars at listed
  split at listed
  next =>
    obtain whole | listed := List.mem_append.mp listed
    · exact .inl (numeral.whole.isName.2 char whole)
    · exact ending listed
  next fraction _ =>
    rw [List.mem_append, List.mem_cons, List.mem_append] at listed
    obtain whole | point | listed | listed := listed
    · exact .inl (numeral.whole.isName.2 char whole)
    · exact .inr (.inl point)
    · exact .inl (fraction.isName.2 char listed)
    · exact ending listed

/-- A numeral has no comma and no blank, so it is one piece. -/
theorem columnPieces_chars : columnPieces numeral.chars = [numeral.chars] := by
  refine columnPieces_of_plain (fun listed => ?_) (Text.endsFree_of_forall fun char listed => ?_)
  · obtain isName | point | plus | minus := numeral.mem_chars listed
    · exact absurd isName (by decide)
    all_goals contradiction
  · obtain isName | rfl | rfl | rfl := numeral.mem_chars listed
    · exact isBlank_of_isNameChar isName
    all_goals decide

end Numeral

/-- A text in single quotes. -/
def singleQuoted (content : List Char) : List Char := '\x27' :: content ++ ['\x27']

/-- A text in quotes has no blanks at its ends. -/
theorem endsFree_singleQuoted (content : List Char) :
    Text.EndsFree Text.isBlank (singleQuoted content) := by
  constructor
  · intro char first
    cases first
    decide
  · intro char last
    rw [singleQuoted, List.getLast?_concat] at last
    cases last
    decide

/-- Where a quote is open, nothing is split up to the end of the quote. -/
theorem unsplit_of_open {state : ScanState} {quote : Char} {content : List Char}
    (isOpen : state.quote = some quote) (closed : quote ∉ content) :
    Unsplit state (content ++ [quote]) := by
  have kept (char : Char) : ¬(char = ',' ∧ state = .outside) := by
    rintro ⟨-, rfl⟩
    contradiction
  induction content with
  | nil => exact ⟨kept quote, trivial⟩
  | cons char content ih =>
    rw [List.mem_cons, not_or] at closed
    have stays : state.step char = state := by
      simp only [ScanState.step, isOpen]
      exact if_neg fun same => closed.1 same.symm
    refine ⟨kept char, ?_⟩
    rw [stays]
    exact ih closed.2

/-- A text in quotes is not split. -/
theorem unsplit_singleQuoted {state : ScanState} {content : List Char}
    (outside : state.quote = none) (closed : '\x27' ∉ content) :
    Unsplit state (singleQuoted content) := by
  refine ⟨fun comma => absurd comma.1 (by decide), unsplit_of_open ?_ closed⟩
  simp only [ScanState.step, outside]
  rfl

namespace ColumnPart

/-- The parts of a text in quotes are those of its content between two quotes. -/
def ofQuoted (content : List Char) : List ColumnPart :=
  text ['\x27'] :: ofLexemes (Lexeme.ofChars content) ++ [text ['\x27']]

/-- A character that is neither a point nor a star is a part between those of the lexemes around
it. -/
theorem ofLexemes_append_other {char : Char} (noPoint : char ≠ '.') (noStar : char ≠ '*')
    (front back : List Lexeme) :
    ofLexemes (front ++ .other char :: back) =
      ofLexemes front ++ text [char] :: ofLexemes back := by
  fun_induction ofLexemes front with
  | case1 first second rest ih =>
    simp only [List.cons_append, ofLexemes, ih, List.append_assoc]
  | case2 first rest ih => simp only [List.cons_append, ofLexemes, ih, List.nil_append]
  | case3 lexeme rest noColumn noStarred ih =>
    -- A point and what is behind it both stand in front of the character, as it is neither.
    have inFront {third : Lexeme} {tail : List Lexeme} (different : third ≠ .other char)
        (begun : rest ++ .other char :: back = .other '.' :: third :: tail) :
        ∃ more, rest = .other '.' :: third :: more := by
      obtain _ | ⟨second, _ | ⟨third, more⟩⟩ := rest
      · cases begun
        exact absurd rfl noPoint
      · cases begun
        exact absurd rfl different
      · cases begun
        exact ⟨more, rfl⟩
    rw [List.cons_append, ofLexemes, ih, List.cons_append]
    · intro first second tail isName begun
      obtain ⟨more, found⟩ := inFront (fun same => by cases same) begun
      exact noColumn first second more isName found
    · intro first tail isName begun
      obtain ⟨more, found⟩ := inFront (fun same => by cases same; exact noStar rfl) begun
      exact noStarred first more isName found
  | case4 => rfl

/-- The parts of a piece with a text in quotes are those of the quoted text and those around it. -/
theorem ofPiece_around_quoted (front content back : List Char) :
    ofPiece (front ++ singleQuoted content ++ back) =
      ofLexemes (Lexeme.ofChars front) ++ ofQuoted content ++ ofLexemes (Lexeme.ofChars back) := by
  have plain : isNameChar '\x27' = false := by decide
  have whole : front ++ singleQuoted content ++ back =
      front ++ '\x27' :: (content ++ '\x27' :: back) := by
    simp only [singleQuoted, List.cons_append, List.append_assoc, List.nil_append]
  have lexemes := Lexeme.ofChars_append_other plain front (content ++ '\x27' :: back)
  rw [Lexeme.ofChars_append_other plain content back] at lexemes
  have quote : .other '\x27' ∈
      Lexeme.ofChars (front ++ '\x27' :: (content ++ '\x27' :: back)) := by
    rw [lexemes]
    exact List.mem_append_right _ List.mem_cons_self
  rw [whole, ofPiece_of_other quote, lexemes, ofLexemes_append_other (by decide) (by decide),
    ofLexemes_append_other (by decide) (by decide)]
  simp only [ofQuoted, List.cons_append, List.append_assoc, List.nil_append]

/-- Without a point there are no names. -/
theorem all_isText_of_noPoint {lexemes : List Lexeme} (noPoint : Lexeme.other '.' ∉ lexemes) :
    (ofLexemes lexemes).all isText = true := by
  fun_induction ofLexemes lexemes with
  | case1 | case2 => simp at noPoint
  | case3 lexeme rest _ _ ih =>
    rw [List.mem_cons, not_or] at noPoint
    exact ih noPoint.2
  | case4 => rfl

end ColumnPart

/-- The characters between names are characters of the text. -/
theorem Lexeme.mem_of_other_mem_ofChars {char : Char} {text : List Char}
    (listed : .other char ∈ ofChars text) : char ∈ text := by
  rw [← flatMap_chars_ofChars text]
  exact List.mem_flatMap.mpr ⟨_, listed, List.mem_singleton_self char⟩

/-- What becomes of literals in a column text. A numeral by itself stays as written if and only if
it has either a fraction or an exponent with a sign, but not both. A text in single quotes that
opens outside quotes stays in its quotes, between what is written for the text before and after it,
where only bare names are put in quotes and get the prefix. Its content stays as written if and only
if there is no reference in it, so in any case if it has no point. -/
theorem Quoter.column_literals (quoter : Quoter) :
    (∀ numeral : Numeral, quoter.column (.ofList numeral.chars) = .ofList numeral.chars ↔
      numeral.staysAsWritten = true) ∧
    ∀ before content after : List Char,
      (ScanState.outside.scan before).quote = none → '\x27' ∉ content →
      ∃ (left right : List ColumnPart) (written : List Char),
        (quoter.column (.ofList (before ++ singleQuoted content ++ after))).toList =
          left.flatMap quoter.part ++ singleQuoted written ++ right.flatMap quoter.part ∧
        Text.visible (left.flatMap ColumnPart.chars) = Text.visible before ∧
        Text.visible (right.flatMap ColumnPart.chars) = Text.visible after ∧
        (∀ part ∈ left ++ right, part.isText = false → IsName part.chars) ∧
        written = quoter.quoteQualified (Lexeme.ofChars content) ∧
        (written = content ↔
          (ColumnPart.ofLexemes (Lexeme.ofChars content)).all ColumnPart.isText = true) ∧
        ('.' ∉ content → written = content) := by
  refine ⟨fun numeral => ?_, fun before content after outside closed => ?_⟩
  · rw [column_eq_self_iff quoter numeral.columnPieces_chars, numeral.all_isText]
  obtain ⟨left, right, parts, seenBefore, seenAfter⟩ :=
    ColumnPart.exists_ofText_around (by simp [singleQuoted]) (endsFree_singleQuoted content)
      (unsplit_singleQuoted outside closed)
      fun front back _ _ => ColumnPart.ofPiece_around_quoted front content back
  have kept : quoter.quoteQualified (Lexeme.ofChars content) = content ↔
      (ColumnPart.ofLexemes (Lexeme.ofChars content)).all ColumnPart.isText = true := by
    rw [quoteQualified_eq, ← flatMap_part_eq_iff quoter, ColumnPart.flatMap_chars_ofLexemes,
      Lexeme.flatMap_chars_ofChars]
  have names : ∀ part ∈ left ++ right, part.isText = false → IsName part.chars := by
    intro part listed
    have isPart : part ∈ left ++ ColumnPart.ofQuoted content ++ right := by
      rw [List.mem_append, List.mem_append]
      exact (List.mem_append.mp listed).imp_left .inl
    rw [← parts] at isPart
    exact ColumnPart.isName_of_mem_ofText isPart
  refine ⟨left, right, _, ?_, seenBefore, seenAfter, names, rfl, kept, fun noPoint => ?_⟩
  · rw [toList_column, String.toList_ofList, parts, List.flatMap_append, List.flatMap_append]
    simp only [ColumnPart.ofQuoted, singleQuoted, quoteQualified_eq, List.flatMap_append,
      List.flatMap_cons, List.flatMap_nil, part, List.append_nil, List.cons_append,
      List.nil_append]
  · exact kept.mpr (ColumnPart.all_isText_of_noPoint fun listed =>
      noPoint (Lexeme.mem_of_other_mem_ofChars listed))

/-- A reference in a literal is put in quotes, and so are numerals without a fraction and the two
parts of a numeral with an exponent. -/
theorem literals_rewritten :
    Quoter.column ⟨'"', none⟩ "LOWER('a.b')" = "LOWER('\"a\".\"b\"')" ∧
    Quoter.column ⟨'"', some "app_"⟩ "1.5e3" = "\"app_1\".\"5e3\"" ∧
    Quoter.column ⟨'"', none⟩ "42" = "\"42\"" :=
  ⟨rfl, rfl, rfl⟩

/-- A numeral with a fraction. -/
def sampleNumeral : Numeral where
  whole := ⟨['0'], by decide, by decide⟩
  fraction := some ⟨['2', '5'], by decide, by decide⟩
  exponent := none

/-- A numeral that stays as written, and a literal in a call that does not, with a comma in it. -/
theorem sampleLiterals_written :
    let quoter : Quoter := ⟨'"', some "app_"⟩
    let before := "CONCAT(users.name, ".toList
    quoter.column (.ofList sampleNumeral.chars) = .ofList sampleNumeral.chars ∧
    ∃ (left right : List ColumnPart) (written : List Char),
      (quoter.column (.ofList (before ++ singleQuoted ", a.b".toList ++ ")".toList))).toList =
        left.flatMap quoter.part ++ singleQuoted written ++ right.flatMap quoter.part ∧
      Text.visible (left.flatMap ColumnPart.chars) = Text.visible before ∧
      written = ", \"app_a\".\"b\"".toList := by
  intro quoter before
  obtain ⟨numerals, literals⟩ := quoter.column_literals
  obtain ⟨left, right, written, whole, seen, -, -, rewritten, -, -⟩ :=
    literals before ", a.b".toList ")".toList rfl (by decide)
  have content : quoter.quoteQualified (Lexeme.ofChars ", a.b".toList) =
      ", \"app_a\".\"b\"".toList := by decide +kernel
  exact ⟨(numerals sampleNumeral).mpr rfl, left, right, written, whole, seen,
    rewritten.trans content⟩

end Crud
