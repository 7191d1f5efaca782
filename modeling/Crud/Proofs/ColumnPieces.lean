import Crud.Proofs.ColumnReferences
import Mathlib.Data.List.Forall2

/-!
# Pieces of a column text

Where a column text is split depends on the quotes and parentheses that are open, and only quotes
and parentheses change what is open. One text may stand for another one in a list if a scan ends in
the same state behind both and no comma separates parts of it unless one does in the other. Lists of
parts are the same as texts then: a scan separates parts, and parts with commas between them are
separated again. So pieces with a comma and a blank between them are the pieces of their list, and
blanks at the ends of a list make no difference to its pieces.
-/

namespace Crud

/-- A character that opens and closes quotes. -/
def isQuote (char : Char) : Bool := char == '\x27' || char == '"' || char == '\x60'

/-- A character that neither quotes nor parentheses are opened or closed by. -/
def isInert (char : Char) : Bool := !isQuote char && char != '(' && char != ')'

/-- There are five other characters. -/
theorem eq_of_not_isInert {char : Char} (reacts : isInert char ≠ true) :
    char = '\x27' ∨ char = '"' ∨ char = '\x60' ∨ char = '(' ∨ char = ')' := by
  simpa only [isInert, isQuote, Bool.and_eq_true, Bool.not_eq_true', Bool.or_eq_false_iff,
    beq_eq_false_iff_ne, bne_iff_ne, ne_eq, not_and_or, not_not, or_assoc] using reacts

/-- A blank opens and closes nothing. -/
theorem isInert_of_isBlank {char : Char} (blank : Text.isBlank char = true) :
    isInert char = true := by
  by_contra reacts
  obtain rfl | rfl | rfl | rfl | rfl := eq_of_not_isInert reacts <;> contradiction

/-- A character of a name opens and closes nothing. -/
theorem isInert_of_isNameChar {char : Char} (isName : isNameChar char = true) :
    isInert char = true := by
  by_contra reacts
  obtain rfl | rfl | rfl | rfl | rfl := eq_of_not_isInert reacts <;> contradiction

namespace ScanState

variable {state : ScanState}

/-- What is open as a quote can open one. -/
def Possible (state : ScanState) : Prop := ∀ quote ∈ state.quote, isQuote quote = true

/-- A scan can begin outside quotes and parentheses. -/
theorem possible_outside : outside.Possible := nofun

/-- A quote is opened where none is open. -/
theorem step_quote {char : Char} (quote : isQuote char = true) (depth : Nat) :
    step ⟨none, depth⟩ char = ⟨some char, depth⟩ := by
  simp only [isQuote, Bool.or_eq_true, beq_iff_eq, or_assoc] at quote
  simp only [step, quote, ↓reduceIte]

/-- No quote is opened by another character. -/
theorem step_plain {char : Char} (plain : isQuote char = false) (depth : Nat) :
    ∃ after, step ⟨none, depth⟩ char = ⟨none, after⟩ := by
  simp only [isQuote, Bool.or_eq_false_iff, beq_eq_false_iff_ne, and_assoc] at plain
  simp only [step, plain, or_self, ↓reduceIte]
  split
  · exact ⟨depth + 1, rfl⟩
  · split
    · exact ⟨depth - 1, rfl⟩
    · exact ⟨depth, rfl⟩

/-- An open quote is closed by itself and by nothing else. -/
theorem step_quoted (quote char : Char) (depth : Nat) :
    step ⟨some quote, depth⟩ char = if char = quote then ⟨none, depth⟩ else ⟨some quote, depth⟩ :=
  rfl

/-- One more character leads to a possible state. -/
theorem Possible.step (possible : state.Possible) (char : Char) : (state.step char).Possible := by
  obtain ⟨opened | quote, depth⟩ := state
  · cases plain : isQuote char with
    | true =>
      rw [step_quote plain]
      rintro _ ⟨⟩
      exact plain
    | false =>
      obtain ⟨after, same⟩ := step_plain plain depth
      rw [same]
      exact nofun
  · rw [step_quoted]
    split
    · exact nofun
    · exact possible

/-- A scan ends in a possible state. -/
theorem Possible.scan (possible : state.Possible) (chars : List Char) :
    (state.scan chars).Possible := by
  induction chars generalizing state with
  | nil => exact possible
  | cons char chars ih => exact ih (possible.step char)

/-- Two texts are scanned one behind the other. -/
theorem scan_append (front back : List Char) :
    state.scan (front ++ back) = (state.scan front).scan back :=
  List.foldl_append

/-- A character that nothing is opened or closed by leaves the state as it is. -/
theorem step_inert (possible : state.Possible) {char : Char} (inert : isInert char = true) :
    state.step char = state := by
  simp only [isInert, Bool.and_eq_true, Bool.not_eq_true', bne_iff_ne, and_assoc] at inert
  obtain ⟨plain, noOpen, noClose⟩ := inert
  obtain ⟨_ | quote, depth⟩ := state
  · simp only [isQuote, Bool.or_eq_false_iff, beq_eq_false_iff_ne, and_assoc] at plain
    simp only [step, plain, noOpen, noClose, or_self, ↓reduceIte]
  · rw [step_quoted, if_neg]
    rintro rfl
    rw [possible char rfl] at plain
    contradiction

/-- Characters that open and close nothing leave the state as it is. -/
theorem scan_inert (possible : state.Possible) {chars : List Char}
    (inert : ∀ char ∈ chars, isInert char = true) : state.scan chars = state := by
  induction chars with
  | nil => rfl
  | cons char chars ih =>
    obtain ⟨own, later⟩ := List.forall_mem_cons.mp inert
    change (state.step char).scan chars = state
    rw [step_inert possible own]
    exact ih later

/-- Quotes around inert characters leave the state as it is: outside quotes they open and close one,
inside another quote they are characters like all others, and inside the same quote they close it
and open it again. -/
theorem scan_quoted (possible : state.Possible) {quote : Char} (isQuote : isQuote quote = true)
    {name : List Char} (inert : ∀ char ∈ name, isInert char = true) :
    state.scan (quote :: name ++ [quote]) = state := by
  rw [scan_append]
  change ((state.step quote).scan name).step quote = state
  rw [scan_inert (possible.step quote) inert]
  obtain ⟨_ | opened, depth⟩ := state
  · rw [step_quote isQuote, step_quoted, if_pos rfl]
  · rw [step_quoted]
    by_cases same : quote = opened
    · rw [if_pos same, step_quote isQuote, same]
    · rw [if_neg same, step_quoted, if_neg same]

end ScanState

/-- A text is not split if its front is not split, nor its back from there on. -/
theorem unsplit_append {state : ScanState} {front back : List Char} :
    Unsplit state (front ++ back) ↔ Unsplit state front ∧ Unsplit (state.scan front) back := by
  induction front generalizing state with
  | nil => exact ⟨fun unsplit => ⟨trivial, unsplit⟩, And.right⟩
  | cons char front ih =>
    rw [List.cons_append, Unsplit, Unsplit, ih, and_assoc]
    rfl

/-- A scan ends in the same state behind the second text as behind the first one, and no comma of
the second text separates parts if none of the first does. -/
def ScansLike (first second : List Char) : Prop :=
  ∀ state : ScanState, state.Possible →
    state.scan second = state.scan first ∧ (Unsplit state first → Unsplit state second)

namespace ScansLike

variable {first second first' second' : List Char}

/-- Every text scans like itself. -/
theorem refl (chars : List Char) : ScansLike chars chars := fun _ _ => ⟨rfl, id⟩

/-- A text that may stand for another one may stand for whatever that one may stand for. -/
theorem trans {third : List Char} (scans : ScansLike first second)
    (further : ScansLike second third) : ScansLike first third := by
  intro state possible
  obtain ⟨same, keeps⟩ := scans state possible
  obtain ⟨sameAgain, keepsAgain⟩ := further state possible
  exact ⟨sameAgain.trans same, keepsAgain ∘ keeps⟩

/-- Texts may stand for others one behind the other. -/
theorem append (front : ScansLike first second) (back : ScansLike first' second') :
    ScansLike (first ++ first') (second ++ second') := by
  intro state possible
  obtain ⟨same, keeps⟩ := front state possible
  obtain ⟨sameBack, keepsBack⟩ := back (state.scan first) (possible.scan first)
  rw [ScanState.scan_append, ScanState.scan_append, unsplit_append, unsplit_append, same]
  exact ⟨sameBack, fun unsplit => ⟨keeps unsplit.1, keepsBack unsplit.2⟩⟩

/-- A text of inert characters without commas may stand for nothing, and nothing for it. -/
theorem of_inert (inert : ∀ char ∈ first, isInert char = true) (plain : ',' ∉ second)
    (stays : ∀ state : ScanState, state.Possible → state.scan second = state) :
    ScansLike first second := by
  intro state possible
  rw [stays state possible, ScanState.scan_inert possible inert]
  exact ⟨rfl, fun _ => unsplit_of_plain plain state⟩

end ScansLike

/-- The second text is the first one with blanks around it. -/
def Padded (chars padded : List Char) : Prop :=
  ∃ front back : List Char, (∀ char ∈ front, Text.isBlank char = true) ∧
    (∀ char ∈ back, Text.isBlank char = true) ∧ padded = front ++ chars ++ back

namespace Padded

variable {chars padded : List Char}

/-- A text is what is left of it with the blanks that are removed. -/
theorem stripEnds (chars : List Char) : Padded (Text.stripEnds Text.isBlank chars) chars := by
  obtain ⟨front, back, whole, isFront, isBack⟩ := Text.exists_stripEnds Text.isBlank chars
  exact ⟨front, back, isFront, isBack, whole⟩

/-- Blanks around a text are removed with those at its ends. -/
theorem stripEnds_eq (isPadded : Padded chars padded) :
    Text.stripEnds Text.isBlank padded = Text.stripEnds Text.isBlank chars := by
  obtain ⟨front, back, isFront, isBack, rfl⟩ := isPadded
  exact Text.stripEnds_surrounded isFront isBack chars

/-- Blanks may stand for nothing and nothing for blanks, so either text may stand for the other. -/
theorem scansLike (isPadded : Padded chars padded) :
    ScansLike chars padded ∧ ScansLike padded chars := by
  obtain ⟨front, back, isFront, isBack, rfl⟩ := isPadded
  have inert {blanks : List Char} (isBlank : ∀ char ∈ blanks, Text.isBlank char = true) :
      ∀ char ∈ blanks, isInert char = true :=
    fun char listed => isInert_of_isBlank (isBlank char listed)
  have added {blanks : List Char} (isBlank : ∀ char ∈ blanks, Text.isBlank char = true) :
      ScansLike [] blanks :=
    .of_inert nofun (fun comma => absurd (isBlank ',' comma) (by decide))
      fun _ possible => ScanState.scan_inert possible (inert isBlank)
  have removed {blanks : List Char} (isBlank : ∀ char ∈ blanks, Text.isBlank char = true) :
      ScansLike blanks [] :=
    .of_inert (inert isBlank) List.not_mem_nil fun _ _ => rfl
  have around := ((added isFront).append (.refl chars)).append (added isBack)
  have without := ((removed isFront).append (.refl chars)).append (removed isBack)
  rw [List.nil_append, List.append_nil] at around without
  exact ⟨around, without⟩

end Padded

/-- Parts as a scan from the state on separates them: no comma of a part separates, and nothing is
open behind any part but the last one. -/
def Parted (state : ScanState) : List (List Char) → Prop
  | [] => False
  | [last] => Unsplit state last
  | part :: next :: others =>
    Unsplit state part ∧ state.scan part = .outside ∧ Parted .outside (next :: others)

/-- A character that separates nothing goes in front of the first part. -/
theorem parted_cons {state : ScanState} {char : Char} (kept : ¬(char = ',' ∧ state = .outside))
    (first : List Char) (others : List (List Char)) :
    Parted state ((char :: first) :: others) ↔ Parted (state.step char) (first :: others) := by
  cases others with
  | nil => exact and_iff_right kept
  | cons next others => rw [Parted, Parted, Unsplit, and_iff_right kept]; rfl

/-- A scan separates parts. -/
theorem parted_splitCommasFrom (state : ScanState) (chars : List Char) :
    Parted state (splitCommasFrom state chars) := by
  induction chars generalizing state with
  | nil => trivial
  | cons char rest ih =>
    by_cases separates : char = ',' ∧ state = .outside
    · obtain ⟨rfl, rfl⟩ := separates
      rw [splitCommasFrom_comma]
      have behind := ih .outside
      obtain ⟨first, others, found⟩ :=
        List.exists_cons_of_ne_nil (splitCommasFrom_ne_nil .outside rest)
      rw [found] at behind ⊢
      exact ⟨trivial, rfl, behind⟩
    · obtain ⟨first, others, found, whole⟩ := exists_splitCommasFrom_cons separates rest
      rw [whole, parted_cons separates, ← found]
      exact ih _

/-- Parts with commas between them are separated again. -/
theorem Parted.splitCommasFrom_intercalate {state : ScanState} {parts : List (List Char)}
    (parted : Parted state parts) :
    splitCommasFrom state (List.intercalate [','] parts) = parts := by
  induction parts generalizing state with
  | nil => contradiction
  | cons part others ih =>
    cases others with
    | nil =>
      obtain ⟨_, _, behind, found⟩ := exists_splitCommasFrom_of_unsplit parted []
      cases behind
      rwa [List.intercalate_singleton, ← List.append_nil part]
    | cons next others =>
      obtain ⟨unsplit, closed, rest⟩ := parted
      obtain ⟨_, _, behind, found⟩ := exists_splitCommasFrom_of_unsplit unsplit
        (',' :: List.intercalate [','] (next :: others))
      rw [closed, splitCommasFrom_comma, ih rest] at behind
      cases behind
      rw [List.intercalate_cons_cons, List.append_assoc, List.singleton_append, found,
        List.append_nil]

/-- Texts that may stand for the parts are parts as well. -/
theorem Parted.scansLike {state : ScanState} (possible : state.Possible)
    {parts others : List (List Char)} (parted : Parted state parts)
    (scans : List.Forall₂ ScansLike parts others) : Parted state others := by
  induction scans generalizing state with
  | nil => exact parted
  | cons first rest ih =>
    obtain ⟨same, keeps⟩ := first state possible
    cases rest with
    | nil => exact keeps parted
    | cons =>
      obtain ⟨unsplit, closed, behind⟩ := parted
      exact ⟨keeps unsplit, same.trans closed, ih ScanState.possible_outside behind⟩

/-- The pieces of a list whose parts have blanks around them are the parts without blanks. -/
theorem columnPieces_padded {parts padded : List (List Char)} (parted : Parted .outside parts)
    (isPadded : List.Forall₂ Padded parts padded) :
    columnPieces (List.intercalate [','] padded) = parts.map (Text.stripEnds Text.isBlank) := by
  have separated : Parted .outside padded :=
    parted.scansLike ScanState.possible_outside (isPadded.imp fun _ _ own => own.scansLike.1)
  rw [columnPieces, splitCommas, separated.splitCommasFrom_intercalate]
  clear parted separated
  induction isPadded with
  | nil => rfl
  | cons own _ ih => rw [List.map_cons, List.map_cons, own.stripEnds_eq, ih]

/-- Blanks around a list are blanks around its first part and its last one. -/
theorem exists_padded_intercalate {front back : List Char}
    (isFront : ∀ char ∈ front, Text.isBlank char = true)
    (isBack : ∀ char ∈ back, Text.isBlank char = true) {parts : List (List Char)}
    (some : parts ≠ []) :
    ∃ padded, List.Forall₂ Padded parts padded ∧
      List.intercalate [','] padded = front ++ List.intercalate [','] parts ++ back := by
  induction parts generalizing front with
  | nil => contradiction
  | cons part others ih =>
    cases others with
    | nil =>
      refine ⟨[front ++ part ++ back], .cons ⟨front, back, isFront, isBack, rfl⟩ .nil, ?_⟩
      rw [List.intercalate_singleton, List.intercalate_singleton]
    | cons next others =>
      obtain ⟨padded, isPadded, whole⟩ := @ih [] nofun (List.cons_ne_nil next others)
      have others_ne_nil : padded ≠ [] := by
        rintro rfl
        contradiction
      refine ⟨(front ++ part) :: padded, .cons ⟨front, [], isFront, nofun, ?_⟩ isPadded, ?_⟩
      · rw [List.append_nil]
      · rw [List.intercalate_cons_of_ne_nil others_ne_nil, whole, List.intercalate_cons_cons]
        simp only [List.append_assoc, List.nil_append]

/-- Blanks at the ends of a list make no difference to its pieces. -/
theorem columnPieces_stripEnds (chars : List Char) :
    columnPieces (Text.stripEnds Text.isBlank chars) = columnPieces chars := by
  obtain ⟨front, back, isFront, isBack, whole⟩ := Padded.stripEnds chars
  obtain ⟨padded, isPadded, joined⟩ := exists_padded_intercalate isFront isBack
    (splitCommasFrom_ne_nil .outside (Text.stripEnds Text.isBlank chars))
  rw [intercalate_splitCommasFrom, ← whole] at joined
  rw [← joined, columnPieces_padded (parted_splitCommasFrom _ _) isPadded, joined]
  rfl

/-- Pieces with a comma and a blank between them are the pieces of their list. -/
theorem columnPieces_intercalate {pieces : List (List Char)} (parted : Parted .outside pieces)
    (free : ∀ piece ∈ pieces, Text.EndsFree Text.isBlank piece) :
    columnPieces (List.intercalate [',', ' '] pieces) = pieces := by
  obtain _ | ⟨first, others⟩ := pieces
  · contradiction
  have padded (piece : List Char) : Padded piece (' ' :: piece) :=
    ⟨[' '], [], List.forall_mem_singleton.mpr (by decide), nofun, (List.append_nil _).symm⟩
  have isPadded : List.Forall₂ Padded (first :: others) (first :: others.map (' ' :: ·)) := by
    refine .cons ⟨[], [], nofun, nofun, (List.append_nil _).symm⟩ ?_
    rw [List.forall₂_map_right_iff, List.forall₂_same]
    exact fun piece _ => padded piece
  have separator : [',', ' '] = [','] ++ [' '] := rfl
  rw [separator, List.intercalate_concat, columnPieces_padded parted isPadded]
  calc (first :: others).map (Text.stripEnds Text.isBlank)
      = (first :: others).map id := List.map_congr_left fun piece listed =>
        Text.stripEnds_eq_self_iff.mpr (free piece listed)
    _ = first :: others := List.map_id _

end Crud
