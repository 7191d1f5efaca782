import Crud.Proofs.ColumnPieces
import Crud.Proofs.Texts

/-!
# Segments of a column text

A comma separates columns where it stands outside quotes and parentheses. Every text is cut in
exactly one way into segments that no such comma is in and that, but for the last one, leave nothing
open. So a text that leaves nothing open is written on its own, whatever stands behind the next
comma, and a text is put in parentheses on the left of a comparison exactly when it is separated.

The scan also works on byte offsets, with a slice of the text at each separator. Every offset it
stops at is a character boundary, so every slice is there, and the slices are the same columns.
-/

namespace Crud

/-- A comma stands in the text with nothing open before it. -/
def HasSeparator (chars : List Char) : Prop :=
  ∃ before after, chars = before ++ ',' :: after ∧ ScanState.outside.scan before = .outside

/-- A text is not split from a state on when nothing before any of its commas leads outside. -/
theorem unsplit_of_forall {state : ScanState} {chars : List Char}
    (inside : ∀ before after, chars = before ++ ',' :: after → state.scan before ≠ .outside) :
    Unsplit state chars := by
  induction chars generalizing state with
  | nil => trivial
  | cons char rest ih =>
    constructor
    · rintro ⟨rfl, isOutside⟩
      have first : state.scan [] ≠ .outside := inside [] rest rfl
      exact first isOutside
    · apply ih
      intro before after whole
      have later : state.scan (char :: before) ≠ .outside :=
        inside (char :: before) after (congrArg (char :: ·) whole)
      exact later

/-- A text is split exactly when it has a separator. -/
theorem unsplit_iff {chars : List Char} : Unsplit .outside chars ↔ ¬HasSeparator chars := by
  constructor
  · rintro unsplit ⟨before, after, rfl, isOutside⟩
    have behind := (unsplit_append.mp unsplit).2
    exact behind.1 ⟨rfl, isOutside⟩
  · intro plain
    apply unsplit_of_forall
    intro before after whole isOutside
    exact plain ⟨before, after, whole, isOutside⟩

/-- The segments are what separators cut a text into. -/
structure Segmented (chars : List Char) (segments : List (List Char)) : Prop where
  /-- There is a segment. -/
  some : segments ≠ []
  /-- The segments with commas between them are the text. -/
  joined : List.intercalate [','] segments = chars
  /-- No segment has a separator. -/
  whole : ∀ segment ∈ segments, ¬HasSeparator segment
  /-- No segment but the last one leaves a quote or a parenthesis open. -/
  closed : ∀ segment ∈ segments.dropLast, ScanState.outside.scan segment = .outside

/-- Parts are segments. -/
theorem parted_iff {segments : List (List Char)} :
    Parted .outside segments ↔
      segments ≠ [] ∧ (∀ segment ∈ segments, ¬HasSeparator segment) ∧
        ∀ segment ∈ segments.dropLast, ScanState.outside.scan segment = .outside := by
  induction segments with
  | nil => exact ⟨False.elim, fun segments => segments.1 rfl⟩
  | cons first others ih =>
    cases others with
    | nil =>
      rw [Parted, unsplit_iff, List.forall_mem_singleton]
      exact ⟨fun plain => ⟨List.cons_ne_nil _ _, plain, List.forall_mem_nil _⟩,
        fun segments => segments.2.1⟩
    | cons second others =>
      rw [Parted, ih, unsplit_iff, List.dropLast_cons_cons, List.forall_mem_cons (a := first),
        List.forall_mem_cons (a := first)]
      constructor
      · rintro ⟨plain, closed, -, others⟩
        exact ⟨List.cons_ne_nil _ _, ⟨plain, others.1⟩, closed, others.2⟩
      · rintro ⟨-, ⟨plain, others⟩, closed, behind⟩
        exact ⟨plain, closed, List.cons_ne_nil _ _, others, behind⟩

/-- A text is cut into segments in one way, and a scan finds it. -/
theorem segmented_iff {chars : List Char} {segments : List (List Char)} :
    Segmented chars segments ↔ segments = splitCommas chars := by
  constructor
  · rintro ⟨some, rfl, whole, closed⟩
    have parted : Parted .outside segments := parted_iff.mpr ⟨some, whole, closed⟩
    exact parted.splitCommasFrom_intercalate.symm
  · rintro rfl
    obtain ⟨some, whole, closed⟩ := parted_iff.mp (parted_splitCommasFrom .outside chars)
    exact ⟨some, intercalate_splitCommasFrom .outside chars, whole, closed⟩

/-- A text has one segment exactly without a separator. -/
theorem length_splitCommas_iff {chars : List Char} :
    1 < (splitCommas chars).length ↔ HasSeparator chars := by
  have segmented : Segmented chars (splitCommas chars) := segmented_iff.mpr rfl
  rw [← not_iff_not, ← unsplit_iff, Nat.not_lt]
  constructor
  · intro short
    have positive : 0 < (splitCommas chars).length := List.length_pos_iff.mpr segmented.some
    obtain ⟨only, single⟩ := List.length_eq_one_iff.mp (Nat.le_antisymm short positive)
    have same : only = chars := by
      have joined := segmented.joined
      rwa [single, List.intercalate_singleton] at joined
    rw [unsplit_iff, ← same]
    exact segmented.whole only (single ▸ List.mem_singleton_self only)
  · intro unsplit
    have single : Segmented chars [chars] :=
      ⟨List.cons_ne_nil _ _, List.intercalate_singleton,
        List.forall_mem_singleton.mpr (unsplit_iff.mp unsplit), List.forall_mem_nil _⟩
    rw [← segmented_iff.mp single]
    exact Nat.le_refl 1

instance : DecidablePred HasSeparator := fun _ => decidable_of_iff _ length_splitCommas_iff

/-- The segments of a text by slices at byte offsets: the segment that is scanned begins at one
offset, and the characters that are left begin at another. -/
def segmentsInBytes? (text : String) : ScanState → Nat → Nat → List Char → Option (List String)
  | _, start, _, [] => (Text.slice? text start text.utf8ByteSize).map ([·])
  | state, start, offset, char :: rest =>
    if char = ',' ∧ state = .outside then do
      let segment ← Text.slice? text start offset
      let others ← segmentsInBytes? text state (offset + 1) (offset + char.utf8Size) rest
      some (segment :: others)
    else segmentsInBytes? text (state.step char) start (offset + char.utf8Size) rest

/-- The pieces of a column list by slices at byte offsets; nothing if a slice fails. -/
def columnPiecesInBytes? (text : String) : Option (List String) :=
  (segmentsInBytes? text .outside 0 0 text.toList).map (·.map Text.trim)

/-- Behind what was cut before and the segment so far, the slices are the rest of the segment and
the parts that follow it. -/
theorem segmentsInBytes?_eq {text : String} {front segment rest : List Char}
    (whole : text.toList = front ++ segment ++ rest) {state : ScanState} {first : List Char}
    {others : List (List Char)} (parts : splitCommasFrom state rest = first :: others) :
    segmentsInBytes? text state (String.utf8Len front) (String.utf8Len (front ++ segment)) rest =
      some (((segment ++ first) :: others).map String.ofList) := by
  induction rest generalizing front segment state first others with
  | nil =>
    cases parts
    have size : text.utf8ByteSize = String.utf8Len (front ++ segment) := by
      rw [← String.ofList_toList (s := text), whole, List.append_nil, String.utf8ByteSize_ofList]
    rw [segmentsInBytes?, size, Text.slice?_middle whole, List.append_nil]
    rfl
  | cons char rest ih =>
    by_cases separates : char = ',' ∧ state = .outside
    · obtain ⟨rfl, rfl⟩ := separates
      rw [splitCommasFrom_comma] at parts
      obtain ⟨rfl, behind⟩ := List.cons.inj parts
      obtain ⟨second, more, found⟩ :=
        List.exists_cons_of_ne_nil (splitCommasFrom_ne_nil .outside rest)
      -- The comma goes to what was cut, and the next segment begins behind it.
      have cut : text.toList = (front ++ segment ++ [',']) ++ [] ++ rest := by
        rw [whole, List.append_nil, List.append_cons]
      have later := ih cut found
      have oneByte : ','.utf8Size = 1 := rfl
      have bytes := Text.utf8Len_concat (front ++ segment) ','
      rw [List.append_nil, bytes, oneByte] at later
      rw [segmentsInBytes?, if_pos ⟨rfl, rfl⟩, Text.slice?_middle whole, oneByte, later, ← behind,
        found, List.append_nil]
      rfl
    · obtain ⟨head, more, found, longer⟩ := exists_splitCommasFrom_cons separates rest
      rw [longer] at parts
      cases parts
      have moved : text.toList = front ++ (segment ++ [char]) ++ rest := by
        simp only [whole, List.append_assoc, List.singleton_append]
      have bytes := Text.utf8Len_concat (front ++ segment) char
      rw [List.append_assoc] at bytes
      have later := ih moved found
      rw [bytes] at later
      rw [segmentsInBytes?, if_neg separates, later, List.append_assoc]
      rfl

/-- No slice of a column list fails, and the pieces are what is cut out. -/
theorem columnPiecesInBytes?_eq (text : String) :
    columnPiecesInBytes? text = some ((columnPieces text.toList).map String.ofList) := by
  obtain ⟨first, others, parts⟩ :=
    List.exists_cons_of_ne_nil (splitCommasFrom_ne_nil .outside text.toList)
  have whole : text.toList = [] ++ [] ++ text.toList := rfl
  have segments : segmentsInBytes? text .outside 0 0 text.toList =
      some ((first :: others).map String.ofList) := segmentsInBytes?_eq whole parts
  have trimmed (segment : List Char) :
      Text.trim (.ofList segment) = .ofList (Text.stripEnds Text.isBlank segment) := by
    rw [Text.trim, String.toList_ofList]
  rw [columnPiecesInBytes?, segments, columnPieces, splitCommas, parts, Option.map_some,
    List.map_map, List.map_map]
  exact congrArg some (List.map_congr_left fun segment _ => trimmed segment)

/-- Commas behind characters of two bytes; two of them separate nothing. -/
example :
    columnPiecesInBytes? "é, f(ü, 'ß,') ,x" = some ["é", "f(ü, 'ß,')", "x"] := by decide +kernel

/-- Behind a text that leads outside and a comma, a text is split on its own. -/
theorem splitCommasFrom_append {state : ScanState} {front : List Char}
    (closed : state.scan front = .outside) (back : List Char) :
    splitCommasFrom state (front ++ ',' :: back) =
      splitCommasFrom state front ++ splitCommasFrom .outside back := by
  induction front generalizing state with
  | nil =>
    obtain rfl : state = .outside := closed
    exact splitCommasFrom_comma back
  | cons char front ih =>
    by_cases separates : char = ',' ∧ state = .outside
    · obtain ⟨rfl, rfl⟩ := separates
      have later : ScanState.outside.scan front = .outside := closed
      rw [List.cons_append, splitCommasFrom_comma, splitCommasFrom_comma, ih later]
      rfl
    · have later : (state.step char).scan front = .outside := closed
      obtain ⟨first, others, found, whole⟩ := exists_splitCommasFrom_cons separates front
      obtain ⟨head, more, foundBoth, wholeBoth⟩ :=
        exists_splitCommasFrom_cons separates (front ++ ',' :: back)
      rw [ih later, found, List.cons_append] at foundBoth
      obtain ⟨rfl, rfl⟩ := List.cons.inj foundBoth
      rw [List.cons_append, wholeBoth, whole, List.cons_append]

namespace Quoter

variable (quoter : Quoter)

/-- Columns that leave nothing open are written on their own. -/
theorem column_append {front : String} (closed : ScanState.outside.scan front.toList = .outside)
    (back : String) :
    quoter.column (front ++ "," ++ back) = quoter.column front ++ ", " ++ quoter.column back := by
  have pieces : columnPieces (front ++ "," ++ back).toList =
      columnPieces front.toList ++ columnPieces back.toList := by
    have text : (front ++ "," ++ back).toList = front.toList ++ ',' :: back.toList := by
      rw [String.toList_append, String.toList_append, List.append_assoc]
      rfl
    rw [columnPieces, splitCommas, text, splitCommasFrom_append closed, List.map_append]
    rfl
  have some (text : String) : (columnPieces text.toList).map quoter.piece ≠ [] := by
    rw [columnPieces, ne_eq, List.map_eq_nil_iff, List.map_eq_nil_iff]
    exact splitCommasFrom_ne_nil _ _
  rw [← String.toList_inj, toList_column_eq_intercalate, pieces, List.map_append,
    List.intercalate_append _ (some front) (some back), ← toList_column_eq_intercalate,
    ← toList_column_eq_intercalate, String.toList_append, String.toList_append]
  rfl

/-- On the left of a comparison, columns with a separator are put in parentheses. -/
theorem comparedColumn_of_hasSeparator {text : String} (separated : HasSeparator text.toList) :
    quoter.comparedColumn text = "(" ++ quoter.column text ++ ")" :=
  if_pos (length_splitCommas_iff.mpr separated)

/-- On the left of a comparison, columns without a separator are written as they are elsewhere. -/
theorem comparedColumn_of_not_hasSeparator {text : String} (plain : ¬HasSeparator text.toList) :
    quoter.comparedColumn text = quoter.column text :=
  if_neg (mt length_splitCommas_iff.mp plain)

/-- A column text is cut into segments in exactly one way, and its pieces are these segments without
the blanks around them. They can be cut out by slices at byte offsets, none of which is out of range
or inside a character. Behind columns that leave nothing open and a comma, other columns are written
on their own. On the left of a comparison, columns are put in a pair of parentheses exactly when a
separator stands among them, and are written as they are otherwise. -/
theorem columns_at_separators (text : String) :
    (∃ segments, Segmented text.toList segments ∧
      (∀ others, Segmented text.toList others → others = segments) ∧
      columnPieces text.toList = segments.map (Text.stripEnds Text.isBlank)) ∧
    columnPiecesInBytes? text = some ((columnPieces text.toList).map String.ofList) ∧
    (ScanState.outside.scan text.toList = .outside → ∀ other : String,
      quoter.column (text ++ "," ++ other) =
        quoter.column text ++ ", " ++ quoter.column other) ∧
    (quoter.comparedColumn text = "(" ++ quoter.column text ++ ")" ↔ HasSeparator text.toList) ∧
    (¬HasSeparator text.toList → quoter.comparedColumn text = quoter.column text) := by
  refine ⟨⟨splitCommas text.toList, segmented_iff.mpr rfl, fun _ => segmented_iff.mp, rfl⟩,
    columnPiecesInBytes?_eq text, quoter.column_append, ?_, ?_⟩
  · constructor
    · intro same
      by_contra plain
      rw [quoter.comparedColumn_of_not_hasSeparator plain] at same
      have lengths := congrArg String.length same
      have one : "(".length = 1 := rfl
      simp only [String.length_append] at lengths
      omega
    · exact quoter.comparedColumn_of_hasSeparator
  · exact quoter.comparedColumn_of_not_hasSeparator

end Quoter

/-- A call with a comma and a parenthesis too many, and a literal with a comma and a parenthesis.
Behind them stands an open quote. -/
theorem sampleColumns_at_separators :
    let quoter : Quoter := ⟨'"', some "app_"⟩
    let text := "CONCAT(u.a, b)) , 'x, (y'"
    ScanState.outside.scan text.toList = .outside ∧ HasSeparator text.toList ∧
    ¬HasSeparator "MAX(a, b)".toList ∧
    (∀ segments, Segmented text.toList segments ↔
      segments = ["CONCAT(u.a, b)) ".toList, " 'x, (y'".toList]) ∧
    columnPieces text.toList = ["CONCAT(u.a, b))".toList, "'x, (y'".toList] ∧
    columnPiecesInBytes? text = some ["CONCAT(u.a, b))", "'x, (y'"] ∧
    quoter.column (text ++ "," ++ "id, \"v,") =
      "CONCAT(\"app_u\".\"a\", b)), 'x, (y'" ++ ", " ++ "\"id\", \"v," ∧
    quoter.comparedColumn text = "(" ++ "CONCAT(\"app_u\".\"a\", b)), 'x, (y'" ++ ")" ∧
    quoter.comparedColumn "MAX(a, b)" = "MAX(a, b)" := by
  intro quoter text
  have closed : ScanState.outside.scan text.toList = .outside := by decide +kernel
  have separated : HasSeparator text.toList := by decide +kernel
  have plain : ¬HasSeparator "MAX(a, b)".toList := by decide +kernel
  have written : quoter.column text = "CONCAT(\"app_u\".\"a\", b)), 'x, (y'" := by decide +kernel
  have behind : quoter.column "id, \"v," = "\"id\", \"v," := by decide +kernel
  have single : quoter.column "MAX(a, b)" = "MAX(a, b)" := by decide +kernel
  have two : Segmented text.toList ["CONCAT(u.a, b)) ".toList, " 'x, (y'".toList] :=
    ⟨List.cons_ne_nil _ _, by decide +kernel, by decide +kernel, by decide +kernel⟩
  obtain ⟨⟨segments, segmented, only, pieces⟩, slices, append, compared, -⟩ :=
    quoter.columns_at_separators text
  obtain ⟨-, -, -, -, alone⟩ := quoter.columns_at_separators "MAX(a, b)"
  obtain rfl := only _ two
  have columns := append closed "id, \"v,"
  have parentheses := compared.mpr separated
  rw [written] at columns parentheses
  rw [behind] at columns
  have pieces' : columnPieces text.toList = ["CONCAT(u.a, b))".toList, "'x, (y'".toList] := by
    rw [pieces]
    decide +kernel
  have slices' : columnPiecesInBytes? text = some ["CONCAT(u.a, b))", "'x, (y'"] := by
    rw [slices, pieces']
    decide +kernel
  refine ⟨closed, separated, plain, fun others => ⟨only others, ?_⟩, pieces', slices', columns,
    parentheses, (alone plain).trans single⟩
  rintro rfl
  exact segmented

end Crud
