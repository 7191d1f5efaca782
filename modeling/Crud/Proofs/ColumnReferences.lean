import Crud.Proofs.ColumnParts

/-!
# References to columns in a text

A text refers to a column of a table where a bare name, a point and a bare name or a star stand by
themselves, with neither a character of a name nor a point before them. Whatever else the text
holds, such a reference is written as the name of the table, a point and the column; where it stands
among the parts of the text shows in the characters before and after it.
-/

namespace Crud

/-- The characters are a bare name. -/
def IsName (chars : List Char) : Prop := chars ≠ [] ∧ ∀ char ∈ chars, isNameChar char = true

instance (chars : List Char) : Decidable (IsName chars) :=
  have := List.decidableBAll (isNameChar · = true) chars
  inferInstanceAs (Decidable (chars ≠ [] ∧ ∀ char ∈ chars, isNameChar char = true))

/-- A reference to a column of a table, or with a star to all its columns. The name of the table has
a letter. -/
structure ColumnReference where
  /-- The table. -/
  table : List Char
  /-- The column or a star. -/
  column : List Char
  /-- The table is a bare name. -/
  isName : IsName table
  /-- It has a letter. -/
  letter : table.any Text.isLetter = true
  /-- The column is a bare name or a star. -/
  isColumn : column = ['*'] ∨ IsName column

namespace ColumnReference

/-- The characters of a reference. -/
def chars (reference : ColumnReference) : List Char :=
  reference.table ++ '.' :: reference.column

/-- The part of a column text that the column of a reference becomes. -/
def columnPart (reference : ColumnReference) : ColumnPart :=
  if reference.column = ['*'] then .text ['*'] else .column reference.column

/-- A reference stands by itself between two texts: no name and no point runs into it, and no name
goes on where it ends. -/
structure StandsBetween (reference : ColumnReference) (before after : List Char) : Prop where
  /-- Neither a name nor a point ends in front of it. -/
  before : ∀ char ∈ before.getLast?, isNameChar char = false ∧ char ≠ '.'
  /-- No name goes on behind it. -/
  after : reference.column ≠ ['*'] → ∀ char ∈ after.head?, isNameChar char = false

end ColumnReference

namespace Lexeme

/-- A character of a name goes in front of the name behind it, or is a name of its own. -/
theorem ofChars_nameChar {char : Char} (isName : isNameChar char = true) (rest : List Char) :
    ofChars (char :: rest) =
      match ofChars rest with
      | .name chars :: lexemes => .name (char :: chars) :: lexemes
      | lexemes => .name [char] :: lexemes := by
  conv => lhs; rw [ofChars]
  exact if_pos isName

/-- A character that is not part of a name is a lexeme of its own. -/
theorem ofChars_other {char : Char} (plain : isNameChar char = false) (rest : List Char) :
    ofChars (char :: rest) = .other char :: ofChars rest := by
  rw [ofChars, if_neg (by rw [plain]; decide)]

/-- A name is one lexeme. -/
theorem ofChars_name {name : List Char} (isName : IsName name) : ofChars name = [.name name] := by
  obtain ⟨some, all⟩ := isName
  induction name with
  | nil => contradiction
  | cons first rest ih =>
    rw [List.forall_mem_cons] at all
    rw [ofChars_nameChar all.1]
    cases rest with
    | nil => rfl
    | cons second rest => rw [ih (List.cons_ne_nil _ _) all.2]

/-- There are lexemes where there are characters. -/
theorem ofChars_ne_nil (first : Char) (rest : List Char) : ofChars (first :: rest) ≠ [] := by
  rw [ofChars]
  split
  · split <;> exact List.cons_ne_nil _ _
  · exact List.cons_ne_nil _ _

/-- Between two texts where no name runs from one into the other, the lexemes are those of both. -/
theorem ofChars_append {front back : List Char}
    (apart : ∀ last ∈ front.getLast?, ∀ first ∈ back.head?,
      isNameChar last = true → isNameChar first = false) :
    ofChars (front ++ back) = ofChars front ++ ofChars back := by
  induction front with
  | nil => rfl
  | cons char rest ih =>
    cases rest with
    | nil =>
      cases isName : isNameChar char with
      | false => exact (ofChars_other isName back).trans (by rw [ofChars_other isName]; rfl)
      | true =>
        rw [List.singleton_append, ofChars_nameChar isName, ofChars_nameChar isName]
        cases back with
        | nil => rfl
        | cons first more =>
          rw [ofChars_other (apart char rfl first rfl isName)]
          rfl
    | cons second rest =>
      have both := ih fun last isLast => apart last (by rwa [List.getLast?_cons_cons])
      rw [List.cons_append]
      cases isName : isNameChar char with
      | false => rw [ofChars_other isName, both, ofChars_other isName, List.cons_append]
      | true =>
        obtain ⟨lexeme, more, found⟩ := List.exists_cons_of_ne_nil (ofChars_ne_nil second rest)
        rw [ofChars_nameChar isName, both, ofChars_nameChar isName, found]
        cases lexeme <;> rfl

/-- A text that does not end in a name ends in the lexeme of its last character. -/
theorem getLast?_ofChars {chars : List Char}
    (plain : ∀ char ∈ chars.getLast?, isNameChar char = false) :
    (ofChars chars).getLast? = chars.getLast?.map .other := by
  obtain rfl | ⟨front, char, rfl⟩ := chars.eq_nil_or_concat'
  · rfl
  · rw [List.getLast?_concat] at plain ⊢
    have lexemes : ofChars (front ++ [char]) = ofChars front ++ [.other char] := by
      rw [ofChars_append fun _ _ first isFirst _ => ?_, ofChars_other (plain char rfl)]
      · rfl
      · cases isFirst
        exact plain char rfl
    rw [lexemes, List.getLast?_concat]
    rfl

/-- A reference is three lexemes: a name, a point, and a name or a star. -/
theorem ofChars_reference (reference : ColumnReference) :
    ofChars reference.chars =
      [.name reference.table, .other '.',
        if reference.column = ['*'] then .other '*' else .name reference.column] := by
  have point : isNameChar '.' = false := by decide
  rw [ColumnReference.chars, ofChars_append fun _ _ first isFirst _ => ?_,
    ofChars_name reference.isName, ofChars_other point]
  · obtain star | isName := reference.isColumn
    · rw [star]
      rfl
    · have noStar : reference.column ≠ ['*'] := by
        intro star
        rw [star] at isName
        exact absurd (isName.2 '*' List.mem_cons_self) (by decide)
      rw [if_neg noStar, ofChars_name isName]
      rfl
  · cases isFirst
    exact point

/-- The lexemes around a reference are those of the texts before and after it. -/
theorem ofChars_around {reference : ColumnReference} {before after : List Char}
    (stands : reference.StandsBetween before after) :
    ofChars (before ++ reference.chars ++ after) =
      ofChars before ++ ofChars reference.chars ++ ofChars after := by
  have behind : ∀ last ∈ (before ++ reference.chars).getLast?, ∀ first ∈ after.head?,
      isNameChar last = true → isNameChar first = false := by
    intro last isLast first isFirst isName
    refine stands.after (fun star => ?_) first isFirst
    have ends : (before ++ reference.chars).getLast? = some '*' := by
      simp [ColumnReference.chars, star]
    rw [ends] at isLast
    cases isLast
    exact absurd isName (by decide)
  rw [ofChars_append behind, ofChars_append fun last isLast _ _ isName => ?_]
  rw [(stands.before last isLast).1] at isName
  contradiction

end Lexeme

namespace ColumnPart

/-- Behind a character that is neither in a name nor a point, parts begin anew. -/
theorem ofLexemes_append {front : List Lexeme}
    (apart : ∀ last ∈ front.getLast?, ∃ char, last = .other char ∧ char ≠ '.')
    (back : List Lexeme) : ofLexemes (front ++ back) = ofLexemes front ++ ofLexemes back := by
  have last_cons {lexeme last : Lexeme} {rest : List Lexeme} (isLast : last ∈ rest.getLast?) :
      last ∈ (lexeme :: rest).getLast? := by
    rw [List.getLast?_cons, Option.mem_def.mp isLast]
    rfl
  fun_induction ofLexemes front with
  | case1 first second rest ih =>
    have behind := ih fun last isLast => apart last (last_cons (last_cons (last_cons isLast)))
    simp only [List.cons_append, ofLexemes, behind, List.append_assoc]
  | case2 first rest ih =>
    have behind := ih fun last isLast => apart last (last_cons (last_cons (last_cons isLast)))
    simp only [List.cons_append, ofLexemes, behind, List.nil_append]
  | case3 lexeme rest noColumn noStar ih =>
    have behind := ih fun last isLast => apart last (last_cons isLast)
    -- A name and a point at the end of the front would be the beginning of a reference.
    have begun {first : List Char} {third : Lexeme} {tail : List Lexeme}
        (isName : lexeme = .name first) (point : rest ++ back = .other '.' :: third :: tail) :
        ∃ more, rest = .other '.' :: third :: more := by
      match rest, point with
      | [], _ =>
        obtain ⟨char, same, -⟩ := apart lexeme rfl
        rw [isName] at same
        contradiction
      | [only], point =>
        obtain ⟨char, same, other⟩ := apart only rfl
        obtain rfl := (List.cons.inj point).1
        cases same
        exact absurd rfl other
      | second :: third :: more, point =>
        cases point
        exact ⟨more, rfl⟩
    rw [List.cons_append, ofLexemes, behind, List.cons_append]
    · intro first second tail isName point
      obtain ⟨more, found⟩ := begun isName point
      exact noColumn first second more isName found
    · intro first tail isName point
      obtain ⟨more, found⟩ := begun isName point
      exact noStar first more isName found
  | case4 => rfl

/-- A piece with a character between names is more than a bare name. -/
theorem ofPiece_of_other {piece : List Char} {char : Char}
    (listed : .other char ∈ Lexeme.ofChars piece) :
    ofPiece piece = ofLexemes (Lexeme.ofChars piece) := by
  unfold ofPiece
  split
  next name found =>
    rw [found] at listed
    cases List.mem_singleton.mp listed
  next => rfl

/-- The parts before and after a reference in lexemes are those of the lexemes before and after. -/
theorem ofPiece_around {reference : ColumnReference} {before after : List Char}
    (stands : reference.StandsBetween before after) :
    ofPiece (before ++ reference.chars ++ after) =
      ofLexemes (Lexeme.ofChars before) ++
        [.table reference.table, .text ['.'], reference.columnPart] ++
        ofLexemes (Lexeme.ofChars after) := by
  have apart : ∀ last ∈ (Lexeme.ofChars before).getLast?,
      ∃ char, last = .other char ∧ char ≠ '.' := by
    rw [Lexeme.getLast?_ofChars fun char isLast => (stands.before char isLast).1]
    intro last isLast
    obtain ⟨char, isChar, rfl⟩ := Option.map_eq_some_iff.mp isLast
    exact ⟨char, rfl, (stands.before char isChar).2⟩
  have lexemes := Lexeme.ofChars_around stands
  rw [Lexeme.ofChars_reference] at lexemes
  have point : .other '.' ∈ Lexeme.ofChars (before ++ reference.chars ++ after) := by
    rw [lexemes]
    exact List.mem_append_left _ (List.mem_append_right _ (by simp))
  rw [ofPiece_of_other point, lexemes, List.append_assoc, ofLexemes_append apart, List.append_assoc]
  congr 1
  unfold ColumnReference.columnPart
  split
  · simp only [List.cons_append, List.nil_append, ofLexemes, reference.letter, ↓reduceIte]
  · simp only [List.cons_append, List.nil_append, ofLexemes, reference.letter, Bool.true_or,
      ↓reduceIte]

end ColumnPart

/-- There always is a part. -/
theorem splitCommasFrom_ne_nil (state : ScanState) (chars : List Char) :
    splitCommasFrom state chars ≠ [] := by
  unfold splitCommasFrom
  split
  · exact List.cons_ne_nil _ _
  · split
    · exact List.cons_ne_nil _ _
    · split <;> exact List.cons_ne_nil _ _

/-- A character that separates no parts goes in front of the first part. -/
theorem exists_splitCommasFrom_cons {state : ScanState} {char : Char}
    (kept : ¬(char = ',' ∧ state = .outside)) (rest : List Char) :
    ∃ first others, splitCommasFrom (state.step char) rest = first :: others ∧
      splitCommasFrom state (char :: rest) = (char :: first) :: others := by
  obtain ⟨first, others, found⟩ :=
    List.exists_cons_of_ne_nil (splitCommasFrom_ne_nil (state.step char) rest)
  refine ⟨first, others, found, ?_⟩
  rw [splitCommasFrom, if_neg kept, found]

/-- A comma outside quotes and parentheses ends a part. -/
theorem splitCommasFrom_comma (rest : List Char) :
    splitCommasFrom .outside (',' :: rest) = [] :: splitCommasFrom .outside rest := by
  rw [splitCommasFrom, if_pos ⟨rfl, rfl⟩]

/-- The parts between commas are the text when commas are put between them. -/
theorem intercalate_splitCommasFrom (state : ScanState) (chars : List Char) :
    List.intercalate [','] (splitCommasFrom state chars) = chars := by
  induction chars generalizing state with
  | nil => rfl
  | cons char rest ih =>
    by_cases separates : char = ',' ∧ state = .outside
    · obtain ⟨rfl, rfl⟩ := separates
      rw [splitCommasFrom_comma, List.intercalate_cons_of_ne_nil (splitCommasFrom_ne_nil _ _), ih]
      rfl
    · obtain ⟨first, others, found, whole⟩ := exists_splitCommasFrom_cons separates rest
      rw [whole, List.intercalate_cons_head, ← found, ih]

/-- No comma separates parts of the text when it is scanned from the state on. -/
def Unsplit (state : ScanState) : List Char → Prop
  | [] => True
  | char :: rest => ¬(char = ',' ∧ state = .outside) ∧ Unsplit (state.step char) rest

/-- A text without commas is not split. -/
theorem unsplit_of_plain {core : List Char} (plain : ',' ∉ core) (state : ScanState) :
    Unsplit state core := by
  induction core generalizing state with
  | nil => trivial
  | cons char core ih =>
    rw [List.mem_cons, not_or] at plain
    exact ⟨fun separates => plain.1 separates.1.symm, ih plain.2 _⟩

/-- A text that is not split stays in one part, and what is behind it is split as it is there. -/
theorem exists_splitCommasFrom_of_unsplit {state : ScanState} {core : List Char}
    (unsplit : Unsplit state core) (after : List Char) :
    ∃ back others, splitCommasFrom (state.scan core) after = back :: others ∧
      splitCommasFrom state (core ++ after) = (core ++ back) :: others := by
  induction core generalizing state with
  | nil =>
    obtain ⟨back, others, found⟩ :=
      List.exists_cons_of_ne_nil (splitCommasFrom_ne_nil state after)
    exact ⟨back, others, found, found⟩
  | cons char core ih =>
    obtain ⟨kept, unsplit⟩ := unsplit
    obtain ⟨first, others, found, whole⟩ := exists_splitCommasFrom_cons kept (core ++ after)
    obtain ⟨back, more, behind, inner⟩ := ih unsplit
    rw [inner] at found
    cases found
    exact ⟨back, others, behind, whole⟩

/-- A text that is not split stays in one part, and what is before and after it is split. -/
theorem exists_splitCommasFrom {state : ScanState} {before core : List Char}
    (unsplit : Unsplit (state.scan before) core) (after : List Char) :
    ∃ first front back others,
      splitCommasFrom state (before ++ core ++ after) = first ++ (front ++ core ++ back) :: others ∧
      List.intercalate [','] (first ++ [front]) = before ∧
      List.intercalate [','] (back :: others) = after := by
  induction before generalizing state with
  | nil =>
    obtain ⟨back, others, behind, found⟩ := exists_splitCommasFrom_of_unsplit unsplit after
    refine ⟨[], [], back, others, found, rfl, ?_⟩
    rw [← behind, intercalate_splitCommasFrom]
  | cons char before ih =>
    by_cases separates : char = ',' ∧ state = .outside
    · obtain ⟨rfl, rfl⟩ := separates
      have rest : Unsplit (ScanState.outside.scan before) core := unsplit
      obtain ⟨first, front, back, others, found, same, sameAfter⟩ := ih rest
      refine ⟨[] :: first, front, back, others, ?_, ?_, sameAfter⟩
      · rw [List.cons_append, List.cons_append, splitCommasFrom_comma, found]
        rfl
      · rw [List.cons_append, List.intercalate_cons_of_ne_nil (by simp), same]
        rfl
    · obtain ⟨head, rest, found, whole⟩ :=
        exists_splitCommasFrom_cons separates (before ++ core ++ after)
      have later : Unsplit ((state.step char).scan before) core := unsplit
      obtain ⟨first, front, back, others, inner, same, sameAfter⟩ := ih later
      rw [inner] at found
      cases first with
      | nil =>
        obtain ⟨rfl, rfl⟩ := List.cons.inj found.symm
        exact ⟨[], char :: front, back, rest, whole, congrArg (char :: ·) same, sameAfter⟩
      | cons part first =>
        obtain ⟨rfl, rfl⟩ := List.cons.inj found.symm
        refine ⟨(char :: head) :: first, front, back, others, whole, ?_, sameAfter⟩
        rw [List.cons_append, List.intercalate_cons_head]
        exact congrArg (char :: ·) same

namespace Text

/-- The characters that are not blank. -/
def visible (chars : List Char) : List Char := chars.filter fun char => !isBlank char

/-- Blanks are not visible. -/
theorem visible_eq_nil {chars : List Char} (blanks : ∀ char ∈ chars, isBlank char = true) :
    visible chars = [] := by
  rw [visible, List.filter_eq_nil_iff]
  intro char listed
  rw [blanks char listed]
  decide

/-- Two texts in order. -/
theorem visible_append (before after : List Char) :
    visible (before ++ after) = visible before ++ visible after :=
  List.filter_append ..

/-- Removing blanks at the ends is not seen. -/
theorem visible_stripEnds (chars : List Char) :
    visible (stripEnds isBlank chars) = visible chars := by
  obtain ⟨front, back, whole, isFront, isBack⟩ := exists_stripEnds isBlank chars
  have seen := congrArg visible whole
  rw [visible_append, visible_append, visible_eq_nil isFront, visible_eq_nil isBack,
    List.nil_append, List.append_nil] at seen
  exact seen.symm

/-- Dropping blanks in front is not seen. -/
theorem visible_dropWhile (chars : List Char) :
    visible (chars.dropWhile isBlank) = visible chars := by
  have whole := List.takeWhile_append_dropWhile (p := isBlank) (l := chars)
  have seen := congrArg visible whole
  rwa [visible_append, visible_eq_nil fun _ => List.mem_takeWhile_imp, List.nil_append] at seen

/-- Dropping blanks behind is not seen. -/
theorem visible_rdropWhile (chars : List Char) :
    visible (chars.rdropWhile isBlank) = visible chars := by
  have seen := congrArg visible (List.rdropWhile_append_rtakeWhile (p := isBlank) (l := chars))
  rwa [visible_append, visible_eq_nil fun _ => List.mem_rtakeWhile_imp, List.append_nil] at seen

/-- Joined texts are seen one by one. -/
theorem visible_intercalate (separator : List Char) (parts : List (List Char)) :
    visible (List.intercalate separator parts) =
      List.intercalate (visible separator) (parts.map visible) := by
  induction parts with
  | nil => rfl
  | cons first rest ih =>
    cases rest with
    | nil => rw [List.intercalate_singleton, List.map_singleton, List.intercalate_singleton]
    | cons second rest =>
      rw [List.intercalate_cons_cons, visible_append, visible_append, ih]
      simp only [List.map_cons, List.intercalate_cons_cons]

end Text

/-- A character of a name is not blank. -/
theorem isBlank_of_isNameChar {char : Char} (isName : isNameChar char = true) :
    Text.isBlank char = false := by
  simp only [isNameChar, Text.isLetter, Text.isDigit, Bool.or_eq_true, Bool.and_eq_true,
    decide_eq_true_eq, beq_iff_eq] at isName
  have bounds : 48 ≤ char.toNat ∧ char.toNat ≤ 57 ∨ 65 ≤ char.toNat ∧ char.toNat ≤ 122 := by
    rcases isName with ((⟨low, high⟩ | ⟨low, high⟩) | ⟨low, high⟩) | rfl
    · have first : 97 ≤ char.toNat := low
      have last : char.toNat ≤ 122 := high
      omega
    · have first : 65 ≤ char.toNat := low
      have last : char.toNat ≤ 90 := high
      omega
    · exact .inl ⟨low, high⟩
    · decide
  simp only [Text.isBlank, Text.blankRanges, List.any_cons, List.any_nil, Bool.or_eq_false_iff,
    Bool.and_eq_false_iff, decide_eq_false_iff_not, and_true]
  omega

namespace ColumnReference

variable {reference : ColumnReference} {before after : List Char}

/-- A reference that stands between two texts stands between parts of them. -/
theorem StandsBetween.mono (stands : reference.StandsBetween before after) {front back : List Char}
    (isFront : front <:+ before) (isBack : back <+: after) :
    reference.StandsBetween front back := by
  obtain ⟨removed, rfl⟩ := isFront
  obtain ⟨dropped, rfl⟩ := isBack
  constructor
  · intro char isLast
    apply stands.before char
    rw [List.getLast?_append, Option.mem_def.mp isLast]
    rfl
  · intro name char isFirst
    apply stands.after name char
    rw [List.head?_append, Option.mem_def.mp isFirst]
    rfl

/-- The characters of a reference are points, stars and characters of names. -/
theorem mem_chars {char : Char} (listed : char ∈ reference.chars) :
    char = '.' ∨ char = '*' ∨ isNameChar char = true := by
  rw [chars, List.mem_append, List.mem_cons] at listed
  rcases listed with isTable | rfl | isColumn
  · exact .inr (.inr (reference.isName.2 char isTable))
  · exact .inl rfl
  · obtain star | isName := reference.isColumn
    · rw [star] at isColumn
      exact .inr (.inl (List.mem_singleton.mp isColumn))
    · exact .inr (.inr (isName.2 char isColumn))

/-- A reference has no comma. -/
theorem comma_not_mem_chars (reference : ColumnReference) : ',' ∉ reference.chars := by
  intro listed
  obtain point | star | isName := mem_chars listed
  · contradiction
  · contradiction
  · exact absurd isName (by decide)

/-- A reference has no blank. -/
theorem endsFree_chars (reference : ColumnReference) :
    Text.EndsFree Text.isBlank reference.chars := by
  refine Text.endsFree_of_forall fun char listed => ?_
  obtain rfl | rfl | isName := mem_chars listed
  · decide
  · decide
  · exact isBlank_of_isNameChar isName

end ColumnReference

namespace ColumnPart

/-- The characters that are seen of parts with commas between them. -/
theorem visible_intercalate (pieces : List (List ColumnPart)) :
    Text.visible ((List.intercalate [text [',', ' ']] pieces).flatMap chars) =
      List.intercalate [','] (pieces.map fun piece => Text.visible (piece.flatMap chars)) := by
  rw [List.flatMap_intercalate, Text.visible_intercalate, List.map_map]
  rfl

/-- A text that is not split, and has the same parts in the middle of whatever piece it stands in,
has these parts among those of the whole. The parts before and after them have the characters before
and after the text, but for blanks. -/
theorem exists_ofText_around {before core after : List Char} {middle : List ColumnPart}
    (some : core ≠ []) (free : Text.EndsFree Text.isBlank core)
    (unsplit : Unsplit (ScanState.outside.scan before) core)
    (around : ∀ front back : List Char, front <:+ before → back <+: after →
      ofPiece (front ++ core ++ back) =
        ofLexemes (Lexeme.ofChars front) ++ middle ++ ofLexemes (Lexeme.ofChars back)) :
    ∃ left right,
      ofText (before ++ core ++ after) = left ++ middle ++ right ∧
      Text.visible (left.flatMap chars) = Text.visible before ∧
      Text.visible (right.flatMap chars) = Text.visible after := by
  obtain ⟨first, front, back, others, parts, sameBefore, sameAfter⟩ :=
    exists_splitCommasFrom unsplit after
  have isFront : front <:+ before := by
    rw [← sameBefore]
    exact List.suffix_intercalate first front
  have isBack : back <+: after := by
    rw [← sameAfter]
    exact List.prefix_intercalate back others
  have piece := around _ _ ((List.dropWhile_suffix Text.isBlank).trans isFront)
    ((List.rdropWhile_prefix Text.isBlank back).trans isBack)
  rw [← Text.stripEnds_around some free] at piece
  have strips (part : List Char) :
      Text.visible ((ofPiece (Text.stripEnds Text.isBlank part)).flatMap chars) =
        Text.visible part := by
    rw [flatMap_chars_ofPiece, Text.visible_stripEnds]
  have lexemes (text : List Char) : (ofLexemes (Lexeme.ofChars text)).flatMap chars = text := by
    rw [flatMap_chars_ofLexemes, Lexeme.flatMap_chars_ofChars]
  have comma : Text.visible [','] = [','] := rfl
  refine ⟨List.intercalate [text [',', ' ']]
      ((first.map (Text.stripEnds Text.isBlank)).map ofPiece ++
        [ofLexemes (Lexeme.ofChars (front.dropWhile Text.isBlank))]),
    List.intercalate [text [',', ' ']]
      (ofLexemes (Lexeme.ofChars (back.rdropWhile Text.isBlank)) ::
        (others.map (Text.stripEnds Text.isBlank)).map ofPiece), ?_, ?_, ?_⟩
  · rw [ofText, columnPieces, splitCommas, parts, List.map_append, List.map_append, List.map_cons,
      List.map_cons, piece, List.intercalate_around]
  · rw [visible_intercalate, ← sameBefore, Text.visible_intercalate, comma]
    simp only [List.map_append, List.map_map, List.map_cons, List.map_nil, lexemes,
      Function.comp_def, strips, Text.visible_dropWhile]
  · rw [visible_intercalate, ← sameAfter, Text.visible_intercalate, comma]
    simp only [List.map_map, List.map_cons, lexemes, Function.comp_def, strips,
      Text.visible_rdropWhile]

/-- A reference in a text is a table, a point and a column among the parts of the text. The parts
before and after them have the characters before and after the reference, but for blanks. -/
theorem exists_ofText {reference : ColumnReference} {before after : List Char}
    (stands : reference.StandsBetween before after) :
    ∃ left right,
      ofText (before ++ reference.chars ++ after) =
        left ++ [.table reference.table, .text ['.'], reference.columnPart] ++ right ∧
      Text.visible (left.flatMap chars) = Text.visible before ∧
      Text.visible (right.flatMap chars) = Text.visible after :=
  exists_ofText_around (by simp [ColumnReference.chars]) reference.endsFree_chars
    (unsplit_of_plain reference.comma_not_mem_chars _)
    fun _ _ isFront isBack => ofPiece_around (stands.mono isFront isBack)

end ColumnPart

end Crud
