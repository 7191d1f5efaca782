import Crud.Fragment
import Crud.Proofs.Gapped

/-!
# Markers of a fragment

The markers of a fragment cut its text into parts. However the fragment is shown, each part is
shown in the same way, and only the fillings between the parts differ: a placeholder for every
marker, or the literals of the values and, where they have run out, the markers themselves. A
filling is never searched for markers, as the parts are cut before anything is filled in. A text
whose percent signs are all doubled is one part and shows the text.
-/

namespace Crud

namespace Fragment

/-- The character of a piece, which is the letter of a marker. -/
def Piece.character : Piece → Char
  | char value => value
  | marker letter => letter

/-- The pieces of a text have the characters of the text. -/
theorem character_mem_of_mem_piecesOf {chars : List Char} {piece : Piece}
    (listed : piece ∈ piecesOf chars) : piece.character ∈ chars := by
  fun_induction piecesOf chars with
  | case1 => contradiction
  | case2 rest ih => grind [Piece.character]
  | case3 letter rest _ _ ih => grind [Piece.character]
  | case4 letter rest _ _ ih => grind [Piece.character]
  | case5 char rest _ _ ih => grind [Piece.character]

/-- The pieces hold no marker. -/
def Unmarked (pieces : List Piece) : Prop := ∀ letter, .marker letter ∉ pieces

/-- A character that begins neither a marker nor a doubled percent sign is a piece of its own. -/
theorem piecesOf_char {char : Char} {rest : List Char}
    (plain : char = '%' → ∀ next ∈ rest.head?, next ≠ '%' ∧ isMarkerLetter next = false) :
    piecesOf (char :: rest) = .char char :: piecesOf rest := by
  by_cases percent : char = '%'
  · subst percent
    cases rest with
    | nil => rfl
    | cons next rest =>
      obtain ⟨single, noMarker⟩ := plain rfl next rfl
      rw [piecesOf, if_neg (by rw [noMarker]; decide)]
      exact fun same => single same
  · rw [piecesOf]
    · exact fun _ same => absurd same percent
    · exact fun _ _ same => absurd same percent

/-- Markers, each with the text behind it. -/
def markedText (others : List (Char × List Char)) : List Char :=
  others.flatMap fun (letter, part) => '%' :: letter :: part

/-- Markers, each with the pieces of the text behind it. -/
def markedPieces (others : List (Char × List Char)) : List Piece :=
  others.flatMap fun (letter, part) => .marker letter :: piecesOf part

/-- A text is a part without markers, and then markers with parts without markers behind them; its
pieces are the pieces of all of them. -/
theorem exists_parts (text : List Char) :
    ∃ (first : List Char) (others : List (Char × List Char)),
      text = first ++ markedText others ∧
      piecesOf text = piecesOf first ++ markedPieces others ∧
      Unmarked (piecesOf first) ∧
      ∀ other ∈ others, isMarkerLetter other.1 = true ∧ Unmarked (piecesOf other.2) := by
  -- What begins neither a marker nor a doubled percent sign in the text begins none in the part.
  have goOn (char : Char) {rest first : List Char} {others : List (Char × List Char)}
      (whole : rest = first ++ markedText others)
      (plain : char = '%' → ∀ next ∈ rest.head?, next ≠ '%' ∧ isMarkerLetter next = false) :
      piecesOf (char :: first) = .char char :: piecesOf first := by
    refine piecesOf_char fun percent next isNext => plain percent next ?_
    rw [whole, List.head?_append, Option.mem_def.mp isNext]
    rfl
  have longer {char : Char} {pieces : List Piece} (unmarked : Unmarked pieces) :
      Unmarked (.char char :: pieces) :=
    fun letter => List.not_mem_cons_of_ne_of_not_mem nofun (unmarked letter)
  fun_induction piecesOf text with
  | case1 => exact ⟨[], [], rfl, rfl, fun _ => List.not_mem_nil, nofun⟩
  | case2 rest ih =>
    obtain ⟨first, others, whole, pieces, unmarked, marked⟩ := ih
    exact ⟨'%' :: '%' :: first, others, by rw [whole]; rfl, by rw [pieces]; rfl, longer unmarked,
      marked⟩
  | case3 letter rest noPercent isMarker ih =>
    obtain ⟨first, others, whole, pieces, unmarked, marked⟩ := ih
    exact ⟨[], (letter, first) :: others, by rw [whole]; rfl, by rw [pieces]; rfl,
      fun _ => List.not_mem_nil, List.forall_mem_cons.mpr ⟨⟨isMarker, unmarked⟩, marked⟩⟩
  | case4 letter rest noPercent noMarker ih =>
    obtain ⟨first, others, whole, pieces, unmarked, marked⟩ := ih
    have alone := goOn '%' whole fun _ next isNext => by
      cases isNext
      exact ⟨noPercent, eq_false_of_ne_true noMarker⟩
    refine ⟨'%' :: first, others, by rw [whole]; rfl, by rw [alone, pieces]; rfl, ?_, marked⟩
    rw [alone]
    exact longer unmarked
  | case5 char rest noPercent noLetter ih =>
    obtain ⟨first, others, whole, pieces, unmarked, marked⟩ := ih
    have alone := goOn char whole fun percent next isNext => by
      obtain ⟨tail, found⟩ := List.head?_eq_some_iff.mp isNext
      exact absurd found (noLetter next tail percent)
    refine ⟨char :: first, others, by rw [whole]; rfl, by rw [alone, pieces]; rfl, ?_, marked⟩
    rw [alone]
    exact longer unmarked

/-- A marker as it is written. -/
def markerText (letter : Char) : String := .ofList ['%', letter]

/-- A part without markers as it is shown: a doubled percent sign is one, everything else stays. -/
def shownPart (part : String) : String := .ofList (mask "" (piecesOf part.toList))

/-- What stands for the markers with these letters: the literals of the values in order, and the
markers themselves behind the last value. -/
def fillings (letters : List Char) (values : List Value) : List String :=
  letters.mapIdx fun index letter => values[index]?.elim (markerText letter) Value.literal

/-- A marker is filled with the literal of the next value. -/
theorem fillings_cons (letter : Char) (letters : List Char) (value : Value) (values : List Value) :
    fillings (letter :: letters) (value :: values) = value.literal :: fillings letters values :=
  List.mapIdx_cons

/-- A marker for which no value is left shows itself. -/
theorem fillings_cons_nil (letter : Char) (letters : List Char) :
    fillings (letter :: letters) [] = markerText letter :: fillings letters [] :=
  List.mapIdx_cons

/-- Values that no marker is left for are not looked at. -/
theorem fillings_take (letters : List Char) (values : List Value) :
    fillings letters (values.take letters.length) = fillings letters values := by
  refine List.mapIdx_eq_mapIdx_iff.mpr fun index small => ?_
  rw [List.getElem?_take_of_lt small]

/-- Pieces without markers are shown in the same way whatever would fill the markers. -/
theorem mask_unmarked_append {front : List Piece} (unmarked : Unmarked front) (placeholder : String)
    (back : List Piece) :
    mask placeholder (front ++ back) = mask "" front ++ mask placeholder back := by
  induction front with
  | nil => rfl
  | cons piece front ih =>
    obtain char | letter := piece
    · exact congrArg (char :: ·) (ih fun letter => List.not_mem_of_not_mem_cons (unmarked letter))
    · exact absurd List.mem_cons_self (unmarked letter)

/-- Pieces without markers are shown in the same way whatever the values are. -/
theorem fill_unmarked_append {front : List Piece} (unmarked : Unmarked front) (values : List Value)
    (back : List Piece) : fill (front ++ back) values = mask "" front ++ fill back values := by
  induction front with
  | nil => exact (List.nil_append _).symm
  | cons piece front ih =>
    obtain char | letter := piece
    · exact congrArg (char :: ·) (ih fun letter => List.not_mem_of_not_mem_cons (unmarked letter))
    · exact absurd List.mem_cons_self (unmarked letter)

/-- The number of markers among pieces. -/
def countMarkers (pieces : List Piece) : Nat :=
  pieces.countP fun
    | .marker _ => true
    | .char _ => false

/-- The markers of pieces are counted one behind the other. -/
theorem countMarkers_append (front back : List Piece) :
    countMarkers (front ++ back) = countMarkers front + countMarkers back :=
  List.countP_append

/-- The markers of a fragment are those of its pieces. -/
theorem markerCount_eq (fragment : Fragment) :
    fragment.markerCount = countMarkers fragment.pieces := rfl

/-- Pieces without markers have none to count. -/
theorem countMarkers_of_unmarked {pieces : List Piece} (unmarked : Unmarked pieces) :
    countMarkers pieces = 0 := by
  refine List.countP_eq_zero.mpr fun piece listed isMarker => ?_
  obtain char | letter := piece
  · contradiction
  · exact unmarked letter listed

/-- The markers before the parts are counted, and no others. -/
theorem countMarkers_markedPieces {others : List (Char × List Char)}
    (unmarked : ∀ other ∈ others, Unmarked (piecesOf other.2)) :
    countMarkers (markedPieces others) = others.length := by
  induction others with
  | nil => rfl
  | cons other others ih =>
    obtain ⟨own, later⟩ := List.forall_mem_cons.mp unmarked
    have whole : countMarkers (markedPieces (other :: others)) =
        countMarkers (piecesOf other.2 ++ markedPieces others) + 1 := List.countP_cons_of_pos rfl
    rw [whole, countMarkers_append, countMarkers_of_unmarked own, ih later, Nat.zero_add,
      List.length_cons]

section

variable (first : List Char) (others : List (Char × List Char))

/-- A text is woven from its parts and its markers. -/
theorem weave_markers :
    weave ((first :: others.map Prod.snd).map .ofList) ((others.map Prod.fst).map markerText) =
      .ofList (first ++ markedText others) := by
  induction others generalizing first with
  | nil => simp [weave, markedText]
  | cons other others ih =>
    have behind := ih other.2
    simp only [List.map_cons] at behind
    simp only [List.map_cons, weave, behind, markedText, List.flatMap_cons, markerText,
      ← String.ofList_append, List.append_assoc, List.cons_append, List.nil_append]

variable {first others} (unmarked : Unmarked (piecesOf first))
  (marked : ∀ other ∈ others, isMarkerLetter other.1 = true ∧ Unmarked (piecesOf other.2))

include unmarked marked

/-- A text with a placeholder for every marker is woven from its parts and the placeholders. -/
theorem weave_placeholders (placeholder : String) :
    weave (((first :: others.map Prod.snd).map .ofList).map shownPart)
        (List.replicate others.length placeholder) =
      .ofList (mask placeholder (piecesOf first ++ markedPieces others)) := by
  induction others generalizing first with
  | nil =>
    rw [mask_unmarked_append unmarked]
    simp [weave, shownPart, markedPieces, mask]
  | cons other others ih =>
    obtain ⟨own, later⟩ := List.forall_mem_cons.mp marked
    have whole : mask placeholder (piecesOf first ++ markedPieces (other :: others)) =
        mask "" (piecesOf first) ++
          (placeholder.toList ++ mask placeholder (piecesOf other.2 ++ markedPieces others)) :=
      mask_unmarked_append unmarked ..
    rw [whole, String.ofList_append, String.ofList_append, String.ofList_toList, ← ih own.2 later]
    simp only [List.map_cons, List.length_cons, List.replicate_succ, weave, shownPart,
      String.toList_ofList, String.append_assoc]

/-- A text with its values is woven from its parts and the fillings. -/
theorem weave_fillings (values : List Value) :
    weave (((first :: others.map Prod.snd).map .ofList).map shownPart)
        (fillings (others.map Prod.fst) values) =
      .ofList (fill (piecesOf first ++ markedPieces others) values) := by
  induction others generalizing first values with
  | nil =>
    rw [fill_unmarked_append unmarked]
    simp [weave, shownPart, markedPieces, fillings, fill]
  | cons other others ih =>
    obtain ⟨own, later⟩ := List.forall_mem_cons.mp marked
    cases values with
    | nil =>
      have whole : fill (piecesOf first ++ markedPieces (other :: others)) [] =
          mask "" (piecesOf first) ++
            (['%', other.1] ++ fill (piecesOf other.2 ++ markedPieces others) []) :=
        fill_unmarked_append unmarked ..
      rw [whole, String.ofList_append, String.ofList_append, ← ih own.2 later]
      simp only [List.map_cons, fillings_cons_nil, weave, markerText, shownPart,
        String.toList_ofList, String.append_assoc]
    | cons value values =>
      have whole : fill (piecesOf first ++ markedPieces (other :: others)) (value :: values) =
          mask "" (piecesOf first) ++
            (value.literal.toList ++ fill (piecesOf other.2 ++ markedPieces others) values) :=
        fill_unmarked_append unmarked ..
      rw [whole, String.ofList_append, String.ofList_append, String.ofList_toList,
        ← ih own.2 later]
      simp only [List.map_cons, fillings_cons, weave, shownPart, String.toList_ofList,
        String.append_assoc]

end

/-- A text with doubled percent signs has its characters as pieces. -/
theorem piecesOf_double (text : List Char) :
    piecesOf (Text.double '%' text) = text.map Piece.char := by
  induction text with
  | nil => rfl
  | cons char text ih =>
    unfold Text.double at ih ⊢
    rw [List.flatMap_cons, List.map_cons, ← ih]
    by_cases percent : char = '%'
    · rw [percent]
      rfl
    · rw [if_neg percent]
      exact piecesOf_char fun same => absurd same percent

/-- Characters are masked as they are. -/
theorem mask_map_char (placeholder : String) (text : List Char) :
    mask placeholder (text.map Piece.char) = text := by
  induction text with
  | nil => rfl
  | cons char text ih => exact congrArg (char :: ·) ih

/-- Characters are filled in as they are. -/
theorem fill_map_char (values : List Value) (text : List Char) :
    fill (text.map Piece.char) values = text := by
  induction text with
  | nil => rfl
  | cons char text ih => exact congrArg (char :: ·) ih

/-- All renderings of a fragment come from one division of its text into parts without markers and
the markers between them. Whatever the values are, there are as many markers as are counted, the
parts are shown in the same way, and the gaps between them are filled with placeholders, or with the
literals of the values as long as there are values and with the markers themselves behind them;
more values than markers make no difference. A text with all percent signs doubled has no marker and
shows the text in every way. -/
theorem renderings_share_parts :
    (∀ text : String, ∃ (parts : List String) (letters : List Char),
      parts.length = letters.length + 1 ∧
      text = weave parts (letters.map markerText) ∧
      (∀ letter ∈ letters, isMarkerLetter letter = true) ∧
      (∀ part ∈ parts, markerCount ⟨part, []⟩ = 0) ∧
      ∀ values : List Value,
        markerCount ⟨text, values⟩ = letters.length ∧
        (∀ placeholder, masked ⟨text, values⟩ placeholder =
          weave (parts.map shownPart) (List.replicate letters.length placeholder)) ∧
        inline ⟨text, values⟩ = weave (parts.map shownPart) (fillings letters values) ∧
        inline ⟨text, values.take letters.length⟩ = inline ⟨text, values⟩) ∧
    ∀ (text : String) (values : List Value),
      let doubled : Fragment := ⟨.ofList (Text.double '%' text.toList), values⟩
      doubled.markerCount = 0 ∧ (∀ placeholder, doubled.masked placeholder = text) ∧
        doubled.inline = text := by
  refine ⟨fun text => ?_, ?_⟩
  · obtain ⟨first, others, whole, pieces, unmarked, marked⟩ := exists_parts text.toList
    have filled (values : List Value) : inline ⟨text, values⟩ =
        weave (((first :: others.map Prod.snd).map .ofList).map shownPart)
          (fillings (others.map Prod.fst) values) := by
      rw [weave_fillings unmarked marked, ← pieces]
      rfl
    refine ⟨(first :: others.map Prod.snd).map .ofList, others.map Prod.fst, by simp, ?_, ?_, ?_,
      fun values => ⟨?_, fun placeholder => ?_, filled values, ?_⟩⟩
    · rw [weave_markers, ← whole, String.ofList_toList]
    · exact List.forall_mem_map.mpr fun other listed => (marked other listed).1
    · rw [List.forall_mem_map, List.forall_mem_cons, List.forall_mem_map]
      have none {part : List Char} (unmarked : Unmarked (piecesOf part)) :
          markerCount ⟨.ofList part, []⟩ = 0 := by
        rw [markerCount_eq, Fragment.pieces, String.toList_ofList]
        exact countMarkers_of_unmarked unmarked
      exact ⟨none unmarked, fun other listed => none (marked other listed).2⟩
    · rw [markerCount_eq, Fragment.pieces, pieces, countMarkers_append,
        countMarkers_of_unmarked unmarked, Nat.zero_add, List.length_map]
      exact countMarkers_markedPieces fun other listed => (marked other listed).2
    · rw [List.length_map, weave_placeholders unmarked marked, ← pieces]
      rfl
    · rw [filled, filled, fillings_take]
  · intro text values doubled
    have pieces : doubled.pieces = text.toList.map .char := by
      rw [Fragment.pieces, String.toList_ofList, piecesOf_double]
    refine ⟨?_, fun placeholder => ?_, ?_⟩
    · rw [markerCount_eq, pieces]
      exact countMarkers_of_unmarked fun letter => by simp
    · rw [masked, pieces, mask_map_char, String.ofList_toList]
    · rw [inline, pieces, fill_map_char, String.ofList_toList]

end Fragment

end Crud
