import Crud.Proofs.Texts
import Crud.Proofs.Trimming
import Crud.Rendering

/-!
# Parentheses around a subquery

Blanks and parentheses around a subquery come in layers, and a parenthesis belongs to a layer only
if it is matched by the last character. Removing all layers leaves a text without a layer, whatever
the layers were, and a balanced text stays balanced; so a subquery is written in one pair of
parentheses, and in the same way with any layers around it. The layers can be removed by slices at
byte offsets, as every slice begins behind the first parenthesis and ends in front of the last one.
-/

namespace Crud

namespace Subquery

/-- The text closes so many more parentheses than it opens, and nowhere closes more than that. -/
structure Closes (depth : Nat) (chars : List Char) : Prop where
  /-- All parentheses of the text together. -/
  total : chars.count ')' = depth + chars.count '('
  /-- The parentheses up to any place. -/
  front : ∀ front, front <+: chars → front.count ')' ≤ depth + front.count '('

/-- As many parentheses are closed as opened, and nowhere more. -/
abbrev Balanced (chars : List Char) : Prop := Closes 0 chars

/-- The first character is a parenthesis, and the last character the one that matches it. -/
def Enclosed (chars : List Char) : Prop := ∃ inner, chars = '(' :: inner ++ [')'] ∧ Balanced inner

variable {depth : Nat} {rest : List Char}

/-- An empty text closes nothing. -/
theorem closes_nil : Closes depth [] ↔ depth = 0 := by
  constructor
  · intro closes
    simpa using closes.total.symm
  · rintro rfl
    exact ⟨rfl, fun front isFront => by rw [List.prefix_nil.mp isFront]; exact Nat.le_refl 0⟩

/-- Behind a character there is as much left to close as the character leaves. -/
theorem closes_cons {char : Char} {left : Nat}
    (leaves : ∀ part : List Char, (char :: part).count ')' + (left + part.count '(') =
      part.count ')' + (depth + (char :: part).count '(')) :
    Closes depth (char :: rest) ↔ Closes left rest := by
  constructor
  · rintro ⟨total, front⟩
    refine ⟨?_, fun part isFront => ?_⟩
    · have same := leaves rest
      omega
    · have same := leaves part
      have bound := (List.forall_prefix_cons.mp front).2 part isFront
      omega
  · rintro ⟨total, front⟩
    refine ⟨?_, List.forall_prefix_cons.mpr ⟨Nat.zero_le _, fun part isFront => ?_⟩⟩
    · have same := leaves rest
      omega
    · have same := leaves part
      have bound := front part isFront
      omega

/-- A parenthesis that opens leaves one more to close. -/
theorem closes_open : Closes depth ('(' :: rest) ↔ Closes (depth + 1) rest :=
  closes_cons fun part => by
    rw [List.count_cons_of_ne (by decide), List.count_cons_self]
    omega

/-- A parenthesis that closes leaves one less to close. -/
theorem closes_close : Closes (depth + 1) (')' :: rest) ↔ Closes depth rest :=
  closes_cons fun part => by
    rw [List.count_cons_self, List.count_cons_of_ne (by decide)]
    omega

/-- With nothing open, a text cannot begin with a parenthesis that closes. -/
theorem not_closes_zero_close : ¬Closes 0 (')' :: rest) := by
  intro closes
  have bound := closes.front [')'] ⟨rest, rfl⟩
  contradiction

/-- Another character leaves as much to close as there was. -/
theorem closes_other {char : Char} (noOpen : char ≠ '(') (noClose : char ≠ ')') :
    Closes depth (char :: rest) ↔ Closes depth rest :=
  closes_cons fun part => by
    rw [List.count_cons_of_ne noOpen, List.count_cons_of_ne noClose]

/-- Two texts in order close what both of them close. -/
theorem Closes.append {first second : List Char} {later : Nat} (closes : Closes depth first)
    (closesLater : Closes later second) : Closes (depth + later) (first ++ second) := by
  induction first generalizing depth with
  | nil =>
    obtain rfl := closes_nil.mp closes
    rwa [Nat.zero_add, List.nil_append]
  | cons char first ih =>
    rw [List.cons_append]
    by_cases isOpen : char = '('
    · subst isOpen
      rw [closes_open] at closes ⊢
      rw [Nat.add_right_comm]
      exact ih closes
    by_cases isClose : char = ')'
    · subst isClose
      cases depth with
      | zero => exact absurd closes not_closes_zero_close
      | succ depth =>
        rw [closes_close] at closes
        rw [Nat.add_right_comm, closes_close]
        exact ih closes
    · rw [closes_other isOpen isClose] at closes ⊢
      exact ih closes

/-- A balanced text in parentheses is balanced. -/
theorem Balanced.parenthesized {inner : List Char} (balanced : Balanced inner) :
    Balanced ('(' :: inner ++ [')']) := by
  have closing : Closes 1 [')'] := closes_close.mpr (closes_nil.mpr rfl)
  exact closes_open.mpr (balanced.append closing)

/-- A blank is no parenthesis. -/
theorem ne_parenthesis_of_isBlank {char : Char} (blank : Text.isBlank char = true) :
    char ≠ '(' ∧ char ≠ ')' := by
  constructor <;> rintro rfl <;> contradiction

/-- Blanks in front of a text are not seen. -/
theorem closes_blanks_append {blanks chars : List Char}
    (isBlank : ∀ char ∈ blanks, Text.isBlank char = true) :
    Closes depth (blanks ++ chars) ↔ Closes depth chars := by
  induction blanks with
  | nil => rfl
  | cons char blanks ih =>
    obtain ⟨own, later⟩ := List.forall_mem_cons.mp isBlank
    obtain ⟨noOpen, noClose⟩ := ne_parenthesis_of_isBlank own
    rw [List.cons_append, closes_other noOpen noClose, ih later]

/-- Blanks behind a text are not seen. -/
theorem closes_append_blanks {chars blanks : List Char}
    (isBlank : ∀ char ∈ blanks, Text.isBlank char = true) :
    Closes depth (chars ++ blanks) ↔ Closes depth chars := by
  have none {char : Char} (solid : Text.isBlank char = false) : blanks.count char = 0 := by
    rw [List.count_eq_zero]
    intro listed
    rw [isBlank char listed] at solid
    contradiction
  constructor
  · rintro ⟨total, front⟩
    rw [List.count_append, List.count_append, none (by decide), none (by decide)] at total
    exact ⟨total, fun part isFront => front part (isFront.trans (List.prefix_append ..))⟩
  · intro closes
    have nothing : Closes 0 (blanks ++ []) :=
      (closes_blanks_append isBlank).mpr (closes_nil.mpr rfl)
    rw [List.append_nil] at nothing
    exact closes.append nothing

/-- A parenthesis is closed by the last character exactly when the text in front of it closes all
others that are open. -/
theorem closesAtEnd_iff {chars : List Char} :
    closesAtEnd (depth + 1) chars = true ↔
      ∃ inner, chars = inner ++ [')'] ∧ Closes depth inner := by
  induction chars generalizing depth with
  | nil => simp [closesAtEnd]
  | cons char rest ih =>
    rw [List.exists_cons_eq_concat, closesAtEnd]
    by_cases isOpen : char = '('
    · subst isOpen
      rw [if_pos rfl, ih]
      simp only [closes_open]
      exact ⟨.inr, fun found => found.resolve_left fun single => absurd single.1 (by decide)⟩
    rw [if_neg isOpen]
    by_cases isClose : char = ')'
    · subst isClose
      rw [if_pos rfl]
      cases depth with
      | zero =>
        rw [if_pos (Nat.le_refl 1), List.isEmpty_iff]
        constructor
        · exact fun last => .inl ⟨rfl, last, closes_nil.mpr rfl⟩
        · rintro (⟨-, last, -⟩ | ⟨inner, -, closes⟩)
          · exact last
          · exact absurd closes not_closes_zero_close
      | succ depth =>
        rw [if_neg (by omega), Nat.add_sub_cancel, ih]
        simp only [closes_close]
        refine ⟨.inr, fun found => found.resolve_left fun single => ?_⟩
        exact absurd (closes_nil.mp single.2.2) (Nat.succ_ne_zero depth)
    · rw [if_neg isClose, ih]
      simp only [closes_other isOpen isClose]
      exact ⟨.inr, fun found => found.resolve_left fun single => absurd single.1 isClose⟩

/-- The first parenthesis is closed by a last one exactly if all that open in between are closed
there. -/
theorem closesAtEnd_concat {chars : List Char} :
    closesAtEnd (depth + 1) (chars ++ [')']) = true ↔ Closes depth chars := by
  rw [closesAtEnd_iff]
  constructor
  · rintro ⟨inner, same, closes⟩
    rwa [List.append_cancel_right same]
  · exact fun closes => ⟨chars, rfl, closes⟩

instance (depth : Nat) (chars : List Char) : Decidable (Closes depth chars) :=
  decidable_of_iff (closesAtEnd (depth + 1) (chars ++ [')']) = true) closesAtEnd_concat

/-- The test finds out whether a text is enclosed. -/
theorem enclosed_iff {chars : List Char} : enclosed chars = true ↔ Enclosed chars := by
  constructor
  · intro found
    unfold enclosed at found
    split at found
    next rest =>
      obtain ⟨inner, rfl, balanced⟩ := closesAtEnd_iff.mp found
      exact ⟨inner, rfl, balanced⟩
    next => contradiction
  · rintro ⟨inner, rfl, balanced⟩
    exact closesAtEnd_iff.mpr ⟨inner, rfl, balanced⟩

/-- The second text is the first one with layers of blanks and parentheses around it. -/
inductive Layered (inner : List Char) : List Char → Prop where
  /-- No layer. -/
  | bare : Layered inner inner
  /-- A layer of blanks, before and after. -/
  | blanks {chars : List Char} (before after : List Char)
      (isBefore : ∀ char ∈ before, Text.isBlank char = true)
      (isAfter : ∀ char ∈ after, Text.isBlank char = true) (layered : Layered inner chars) :
      Layered inner (before ++ chars ++ after)
  /-- A layer of parentheses. -/
  | parentheses {chars : List Char} (layered : Layered inner chars) :
      Layered inner ('(' :: chars ++ [')'])

/-- Layers of parentheses are removed one by one. -/
theorem strip_eq (chars : List Char) :
    strip chars =
      if enclosed (Text.stripEnds Text.isBlank chars) then
        strip (Text.stripEnds Text.isBlank chars).tail.dropLast
      else Text.stripEnds Text.isBlank chars := by
  rw [strip]

/-- Blanks around a text are removed. -/
theorem strip_blanks {before after : List Char} (chars : List Char)
    (isBefore : ∀ char ∈ before, Text.isBlank char = true)
    (isAfter : ∀ char ∈ after, Text.isBlank char = true) :
    strip (before ++ chars ++ after) = strip chars := by
  rw [strip_eq, Text.stripEnds_surrounded isBefore isAfter, ← strip_eq]

/-- A text in parentheses has no blanks at its ends. -/
theorem endsFree_parenthesized (inner : List Char) :
    Text.EndsFree Text.isBlank ('(' :: inner ++ [')']) := by
  constructor
  · intro char first
    cases first
    decide
  · intro char last
    rw [List.getLast?_concat] at last
    cases last
    decide

/-- Parentheses around a balanced text are removed. -/
theorem strip_parentheses {inner : List Char} (balanced : Balanced inner) :
    strip ('(' :: inner ++ [')']) = strip inner := by
  rw [strip_eq, Text.stripEnds_eq_self_iff.mpr (endsFree_parenthesized inner),
    if_pos (enclosed_iff.mpr ⟨inner, rfl, balanced⟩), List.cons_append, List.tail_cons,
    List.dropLast_concat]

/-- All layers around a balanced text are removed, and the text stays balanced in them. -/
theorem strip_layered {inner chars : List Char} (balanced : Balanced inner)
    (layered : Layered inner chars) : Balanced chars ∧ strip chars = strip inner := by
  induction layered with
  | bare => exact ⟨balanced, rfl⟩
  | blanks before after isBefore isAfter _ ih =>
    rw [strip_blanks _ isBefore isAfter]
    exact ⟨(closes_append_blanks isAfter).mpr ((closes_blanks_append isBefore).mpr ih.1), ih.2⟩
  | parentheses _ ih =>
    rw [strip_parentheses ih.1]
    exact ⟨ih.1.parenthesized, ih.2⟩

/-- What is left of a text has no layer around it, and the text is it with layers. -/
theorem strip_spec (chars : List Char) :
    Layered (strip chars) chars ∧ Text.EndsFree Text.isBlank (strip chars) ∧
      ¬Enclosed (strip chars) ∧ (Balanced chars → Balanced (strip chars)) := by
  induction chars using strip.induct with
  | case1 chars trimmed closed ih =>
    obtain ⟨front, back, whole, isFront, isBack⟩ := Text.exists_stripEnds Text.isBlank chars
    obtain ⟨inner, found, balanced⟩ := enclosed_iff.mp closed
    have same : Text.stripEnds Text.isBlank chars = '(' :: inner ++ [')'] := found
    have left : trimmed.tail.dropLast = inner := by
      rw [found, List.cons_append, List.tail_cons, List.dropLast_concat]
    rw [left] at ih
    obtain ⟨layered, free, bare, keeps⟩ := ih
    rw [same] at whole
    have stripped : strip chars = strip inner := by
      rw [whole, strip_blanks _ isFront isBack, strip_parentheses balanced]
    rw [stripped]
    refine ⟨?_, free, bare, fun _ => keeps balanced⟩
    rw [whole]
    exact .blanks front back isFront isBack (.parentheses layered)
  | case2 chars trimmed bare =>
    obtain ⟨front, back, whole, isFront, isBack⟩ := Text.exists_stripEnds Text.isBlank chars
    have stripped : strip chars = trimmed := by
      rw [strip_eq, if_neg bare]
    rw [stripped]
    refine ⟨?_, Text.endsFree_stripEnds .., fun found => bare (enclosed_iff.mpr found), ?_⟩
    · conv => rhs; rw [whole]
      exact .blanks front back isFront isBack .bare
    · intro balanced
      rw [whole] at balanced
      exact (closes_blanks_append isFront).mp ((closes_append_blanks isBack).mp balanced)

/-- The byte offset of the parenthesis that closes the last open one. A parenthesis too many counts
as the last one. -/
def closingOffset? : Nat → Nat → List Char → Option Nat
  | _, _, [] => none
  | depth, offset, char :: rest =>
    if char = '(' then closingOffset? (depth + 1) (offset + char.utf8Size) rest
    else if char = ')' then
      if depth ≤ 1 then some offset else closingOffset? (depth - 1) (offset + char.utf8Size) rest
    else closingOffset? depth (offset + char.utf8Size) rest

/-- The text begins and ends with parentheses, and the first is closed at the last byte. -/
def enclosedInBytes (text : String) : Bool :=
  text.toList.head? = some '(' && text.toList.getLast? = some ')' &&
    closingOffset? 0 0 text.toList = some (text.utf8ByteSize - 1)

/-- Removes blanks and enclosing parentheses by slices at byte offsets, in less than so many rounds;
nothing if a slice fails or the rounds are used up. -/
def stripInBytes? : Nat → String → Option String
  | 0, _ => none
  | rounds + 1, text =>
    let trimmed := Text.trim text
    if enclosedInBytes trimmed then
      (Text.slice? trimmed 1 (trimmed.utf8ByteSize - 1)).bind (stripInBytes? rounds)
    else some trimmed

/-- The offset of the closing parenthesis is that of the last byte exactly when the parenthesis is
the last character. -/
theorem closingOffset?_iff {depth offset : Nat} {chars : List Char} :
    (∃ last, closingOffset? depth offset chars = some last ∧
      last + 1 = offset + String.utf8Len chars) ↔ closesAtEnd depth chars = true := by
  induction chars generalizing depth offset with
  | nil => simp [closingOffset?, closesAtEnd]
  | cons char rest ih =>
    have bytes (offset : Nat) : offset + String.utf8Len (char :: rest) =
        offset + char.utf8Size + String.utf8Len rest := by
      rw [String.utf8Len_cons]
      omega
    rw [closingOffset?, closesAtEnd, bytes]
    by_cases isOpen : char = '('
    · rw [if_pos isOpen, if_pos isOpen, ih]
    rw [if_neg isOpen, if_neg isOpen]
    by_cases isClose : char = ')'
    · rw [if_pos isClose, if_pos isClose]
      by_cases last : depth ≤ 1
      · have oneByte : char.utf8Size = 1 := by
          rw [isClose]
          rfl
        rw [if_pos last, if_pos last, oneByte, List.isEmpty_iff, ← String.utf8Len_eq_zero]
        simp only [Option.some.injEq, exists_eq_left']
        omega
      · rw [if_neg last, if_neg last, ih]
    · rw [if_neg isClose, if_neg isClose, ih]

/-- The test on bytes finds out whether a text is enclosed. -/
theorem enclosedInBytes_iff (text : String) :
    enclosedInBytes text = true ↔ Enclosed text.toList := by
  have size : text.utf8ByteSize = String.utf8Len text.toList := by
    rw [← String.utf8ByteSize_ofList, String.ofList_toList]
  have offset {rest : List Char} (begins : text.toList = '(' :: rest) :
      closingOffset? 0 0 text.toList = some (text.utf8ByteSize - 1) ↔ enclosed text.toList := by
    have bytes : String.utf8Len ('(' :: rest) = String.utf8Len rest + 1 := String.utf8Len_cons ..
    have closing : (∃ last, closingOffset? 1 1 rest = some last ∧
        last + 1 = 1 + String.utf8Len rest) ↔ closesAtEnd 1 rest = true := closingOffset?_iff
    rw [size, begins, bytes, Nat.add_sub_cancel]
    refine ⟨fun found => closing.mp ⟨_, found, Nat.add_comm ..⟩, fun found => ?_⟩
    obtain ⟨last, atLast, end_⟩ := closing.mpr found
    obtain rfl : last = String.utf8Len rest := by omega
    exact atLast
  rw [enclosedInBytes, Bool.and_eq_true, Bool.and_eq_true, decide_eq_true_eq, decide_eq_true_eq,
    decide_eq_true_eq, ← enclosed_iff]
  constructor
  · rintro ⟨⟨first, -⟩, found⟩
    obtain ⟨rest, begins⟩ := List.head?_eq_some_iff.mp first
    exact (offset begins).mp found
  · intro found
    obtain ⟨inner, whole, -⟩ := enclosed_iff.mp found
    refine ⟨⟨?_, ?_⟩, (offset whole).mpr found⟩
    · rw [whole]
      rfl
    · rw [whole, List.getLast?_concat]

/-- The slice inside enclosing parentheses is the text inside them. -/
theorem slice?_parenthesized (inner : List Char) :
    Text.slice? (.ofList ('(' :: inner ++ [')'])) 1
      ((String.ofList ('(' :: inner ++ [')'])).utf8ByteSize - 1) = some (.ofList inner) := by
  have size : (String.ofList ('(' :: inner ++ [')'])).utf8ByteSize - 1 =
      String.utf8Len (['('] ++ inner) := by
    have last : String.utf8Len [')'] = 1 := rfl
    rw [String.utf8ByteSize_ofList, String.utf8Len_append, last]
    rfl
  have whole : (String.ofList ('(' :: inner ++ [')'])).toList = ['('] ++ inner ++ [')'] :=
    String.toList_ofList
  rw [size]
  exact Text.slice?_middle whole

/-- No slice fails, and as many rounds as there are characters are enough. -/
theorem stripInBytes?_eq {rounds : Nat} {text : String} (enough : text.length < rounds) :
    stripInBytes? rounds text = some (.ofList (strip text.toList)) := by
  induction rounds generalizing text with
  | zero => exact absurd enough (Nat.not_lt_zero _)
  | succ rounds ih =>
    rw [stripInBytes?, strip_eq]
    have trimmed : (Text.trim text).toList = Text.stripEnds Text.isBlank text.toList :=
      String.toList_ofList
    have test : enclosedInBytes (Text.trim text) =
        enclosed (Text.stripEnds Text.isBlank text.toList) := by
      rw [Bool.eq_iff_iff, enclosedInBytes_iff, enclosed_iff, trimmed]
    by_cases closed : enclosed (Text.stripEnds Text.isBlank text.toList) = true
    · simp only [test, closed, ↓reduceIte]
      obtain ⟨inner, whole, -⟩ := enclosed_iff.mp closed
      have shorter : inner.length < text.length := by
        have bound := Text.length_stripEnds_le Text.isBlank text.toList
        rw [whole, String.length_toList] at bound
        simp at bound
        omega
      have isTrimmed : Text.trim text = .ofList ('(' :: inner ++ [')']) := by
        rw [← whole, ← trimmed, String.ofList_toList]
      have length : (String.ofList inner).length < rounds := by
        rw [String.length_ofList]
        omega
      rw [isTrimmed, slice?_parenthesized, Option.bind_some, ih length, String.toList_ofList, whole,
        List.cons_append, List.tail_cons, List.dropLast_concat]
    · simp only [test, closed]
      rfl

end Subquery

/-- A balanced subquery is written in one pair of parentheses: what stands between them is balanced,
so that they match, has no blanks at its ends and is not enclosed by another pair, and the subquery
is it with layers of blanks and parentheses; more layers around the subquery make no difference. For
any text, balanced or not, all that is removed can be removed by slices at byte offsets, none of
which is out of range or inside a character, in no more rounds than there are characters and one. -/
theorem Target.subquery_in_one_pair (target : Target) (masked : Bool) :
    (∀ text : String, Subquery.Balanced text.toList →
      ∃ inner : List Char,
        (target.operand masked (.subquery text)).toList = '(' :: inner ++ [')'] ∧
        Subquery.Balanced inner ∧ Text.EndsFree Text.isBlank inner ∧ ¬Subquery.Enclosed inner ∧
        Subquery.Layered inner text.toList ∧
        ∀ layers : String, Subquery.Layered text.toList layers.toList →
          target.operand masked (.subquery layers) = target.operand masked (.subquery text)) ∧
    ∀ (text : String) (rounds : Nat), text.length < rounds →
      (Subquery.stripInBytes? rounds text).map (fun inner => "(" ++ inner ++ ")") =
        some (target.operand masked (.subquery text)) := by
  have written (text : String) : target.operand masked (.subquery text) =
      "(" ++ .ofList (Subquery.strip text.toList) ++ ")" := rfl
  refine ⟨fun text balanced => ?_, fun text rounds enough => ?_⟩
  · obtain ⟨layered, free, bare, keeps⟩ := Subquery.strip_spec text.toList
    refine ⟨Subquery.strip text.toList, ?_, keeps balanced, free, bare, layered,
      fun layers around => ?_⟩
    · simp [written]
    · rw [written, written, (Subquery.strip_layered balanced around).2]
  · rw [Subquery.stripInBytes?_eq enough, Option.map_some, written]

/-- A subquery of two parts in parentheses of their own, and the same with two layers around it. -/
theorem sampleSubquery_in_one_pair :
    let target : Target := ⟨.mysql, none⟩
    Subquery.Balanced "(a) OR (b)".toList ∧
    target.operand false (.subquery " ((a) OR (b)) ") =
      target.operand false (.subquery "(a) OR (b)") ∧
    (Subquery.stripInBytes? 11 "(a) OR (é").map (fun inner => "(" ++ inner ++ ")") =
      some (target.operand true (.subquery "(a) OR (é")) := by
  intro target
  have balanced : Subquery.Balanced "(a) OR (b)".toList := by decide
  obtain ⟨_, -, -, -, -, -, same⟩ := (target.subquery_in_one_pair false).1 _ balanced
  have blank : ∀ char ∈ [' '], Text.isBlank char = true := List.forall_mem_singleton.mpr (by decide)
  have layers : Subquery.Layered "(a) OR (b)".toList " ((a) OR (b)) ".toList :=
    .blanks [' '] [' '] blank blank (.parentheses .bare)
  exact ⟨balanced, same _ layers, (target.subquery_in_one_pair true).2 _ 11 (by decide)⟩

end Crud
