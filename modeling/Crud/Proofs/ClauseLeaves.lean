import Crud.Proofs.Clause
import Crud.Rendering
import Mathlib.Data.List.ModifyLast
import Mathlib.Data.List.TakeWhile

/-!
# Clauses of words as lists of leaves

A clause of words and groups is written as its words in reading order. The parentheses that open
before a word and close after it stand next to it, and the connector of each word but the last one
follows them. So a group is bound to what follows by the connector of its last word, which is
written behind all the groups that end with that word.
-/

namespace Crud

/-- A condition as it stands in the text of a clause. -/
structure Leaf where
  /-- The number of groups that begin with the condition. -/
  opens : Nat
  /-- The text of the condition. -/
  word : String
  /-- The number of groups that end with the condition. -/
  closes : Nat
  /-- The connector of the condition. -/
  connector : Connector
deriving DecidableEq, Repr

namespace Leaf

/-- The characters of a leaf, without its connector. -/
def chars (leaf : Leaf) : List Char :=
  List.replicate leaf.opens '(' ++ leaf.word.toList ++ List.replicate leaf.closes ')'

/-- The leaf as an element of a clause without groups. -/
def element (leaf : Leaf) : String × Connector := (.ofList leaf.chars, leaf.connector)

/-- One more group begins with the first leaf. -/
def openFirst (leaves : List Leaf) : List Leaf :=
  leaves.modifyHead fun leaf => { leaf with opens := leaf.opens + 1 }

/-- One more group ends with the last leaf. -/
def closeLast (leaves : List Leaf) : List Leaf :=
  leaves.modifyLast fun leaf => { leaf with closes := leaf.closes + 1 }

end Leaf

/-- The conditions of a clause in reading order, with the groups that begin and end with them. -/
def Clause.leaves : Clause → List Leaf
  | empty => []
  | condition head rest => ⟨0, head.column, 0, head.connector⟩ :: rest.leaves
  | group inner rest => Leaf.closeLast (Leaf.openFirst inner.leaves) ++ rest.leaves

/-- A small letter, a digit or an underscore. -/
def isWordChar (char : Char) : Bool :=
  ('a' ≤ char && char ≤ 'z') || Text.isDigit char || char == '_'

/-- The text is a word of small letters, digits and underscores. -/
def isWord (text : String) : Bool := !text.toList.isEmpty && text.toList.all isWordChar

/-- The clause consists of words as pieces of text and of groups that are not empty. -/
def Clause.ofWords : Clause → Bool
  | empty => true
  | condition head rest =>
    head = .ofText head.column head.connector && isWord head.column && rest.ofWords
  | group inner rest => !inner.isEmpty && inner.ofWords && rest.ofWords

/-- The codes of the characters of a word. -/
theorem isWordChar_toNat {char : Char} (word : isWordChar char = true) :
    97 ≤ char.toNat ∧ char.toNat ≤ 122 ∨ 48 ≤ char.toNat ∧ char.toNat ≤ 57 ∨ char.toNat = 95 := by
  simp only [isWordChar, Text.isDigit, Bool.or_eq_true, Bool.and_eq_true, decide_eq_true_eq,
    beq_iff_eq] at word
  obtain (small | digit) | rfl := word
  · exact .inl small
  · exact .inr (.inl digit)
  · exact .inr (.inr rfl)

/-- No character of a word is a blank. -/
theorem isBlank_of_isWordChar {char : Char} (word : isWordChar char = true) :
    Text.isBlank char = false := by
  have code := isWordChar_toNat word
  rw [Text.isBlank, List.any_eq_false]
  intro range listed
  simp only [Text.blankRanges, List.mem_cons, List.not_mem_nil, or_false] at listed
  simp only [Bool.and_eq_true, decide_eq_true_eq]
  rcases listed with rfl | rfl | rfl | rfl | rfl | rfl | rfl | rfl | rfl | rfl <;> omega

/-- A word has no other characters. -/
theorem not_mem_of_isWord {text : String} (word : isWord text = true) {char : Char}
    (other : isWordChar char = false) : char ∉ text.toList := by
  intro listed
  simp only [isWord, Bool.and_eq_true, List.all_eq_true] at word
  rw [word.2 char listed] at other
  contradiction

/-- A word has characters. -/
theorem toList_ne_nil_of_isWord {text : String} (word : isWord text = true) :
    text.toList ≠ [] := by
  simp only [isWord, Bool.and_eq_true, Bool.not_eq_true', List.isEmpty_eq_false_iff] at word
  exact word.1

/-- There are no blanks around a word. -/
theorem trim_of_isWord {text : String} (word : isWord text = true) : Text.trim text = text := by
  simp only [isWord, Bool.and_eq_true, List.all_eq_true] at word
  have keeps (chars : List Char) (visible : ∀ char ∈ chars, isWordChar char = true) :
      chars.dropWhile Text.isBlank = chars := by
    rw [List.dropWhile_eq_self_iff]
    intro long
    rw [isBlank_of_isWordChar (visible _ (List.getElem_mem long))]
    decide
  have reversed : ∀ char ∈ text.toList.reverse, isWordChar char = true := by
    simpa only [List.mem_reverse] using word.2
  rw [Text.trim, Text.stripEnds, keeps _ word.2, keeps _ reversed, List.reverse_reverse,
    String.ofList_toList]

/-- An element that is not the last one is written with its connector. -/
theorem joinConnected_cons {more : List (String × Connector)} (others : more ≠ [])
    (head : String × Connector) : joinConnected (head :: more) =
      head.1 ++ " " ++ head.2.name ++ " " ++ joinConnected more := by
  cases more with
  | nil => contradiction
  | cons next rest => rfl

/-- Both lists are empty or neither is, and they are joined to the same text. -/
structure SameText (left right : List (String × Connector)) : Prop where
  /-- One list is empty exactly when the other one is. -/
  nil_iff : left = [] ↔ right = []
  /-- Both lists are joined to one text. -/
  text : joinConnected left = joinConnected right

namespace SameText

variable {left right : List (String × Connector)}

/-- A list has the text of itself. -/
theorem refl (elements : List (String × Connector)) : SameText elements elements :=
  ⟨Iff.rfl, rfl⟩

/-- One more element in front keeps the texts the same. -/
theorem cons (same : SameText left right) (head : String × Connector) :
    SameText (head :: left) (head :: right) where
  nil_iff := by simp
  text := by
    by_cases nothing : left = []
    · rw [nothing, same.nil_iff.mp nothing]
    · rw [joinConnected_cons nothing, joinConnected_cons (mt same.nil_iff.mpr nothing), same.text]

end SameText

/-- An element takes in the text of all elements before it. -/
theorem joinConnected_append (before more : List (String × Connector)) (text tail : String)
    (connector : Connector) :
    joinConnected (before ++ (text ++ tail, connector) :: more) =
      joinConnected
        ((joinConnected (before ++ [(text, connector)]) ++ tail, connector) :: more) := by
  induction before with
  | nil => rfl
  | cons head rest ih =>
    have joined : joinConnected (head :: (rest ++ [(text, connector)])) =
        head.1 ++ " " ++ head.2.name ++ " " ++ joinConnected (rest ++ [(text, connector)]) :=
      joinConnected_cons (List.append_ne_nil_of_right_ne_nil _ (List.cons_ne_nil _ _)) head
    rw [List.cons_append, List.cons_append, joined,
      joinConnected_cons (List.append_ne_nil_of_right_ne_nil _ (List.cons_ne_nil _ _)), ih]
    by_cases last : more = []
    · simp only [last, joinConnected, String.append_assoc]
    · simp only [joinConnected_cons last, String.append_assoc]

namespace Leaf

/-- One more group ends with the last leaf only. -/
theorem closeLast_concat (init : List Leaf) (last : Leaf) :
    closeLast (init ++ [last]) = init ++ [{ last with closes := last.closes + 1 }] :=
  List.modifyLast_concat _ _ _

/-- A group that begins is a parenthesis before the whole text. -/
theorem join_openFirst {leaves : List Leaf} (some : leaves ≠ []) :
    joinConnected ((openFirst leaves).map element) =
      "(" ++ joinConnected (leaves.map element) := by
  cases leaves with
  | nil => contradiction
  | cons first rest =>
    have opened : element { first with opens := first.opens + 1 } =
        ("(" ++ first.element.1, first.connector) := by
      simp only [element, chars, List.replicate_succ, List.cons_append, String.ofList_cons]
      rfl
    simp only [openFirst, List.modifyHead_cons, List.map_cons, opened]
    by_cases last : rest.map element = []
    · rw [last]
      rfl
    · simp only [joinConnected_cons last, String.append_assoc]
      rfl

/-- A group that ends is a parenthesis behind the whole text, and the connector of the last leaf
comes behind the parenthesis. -/
theorem join_closeLast (init : List Leaf) (last : Leaf) (more : List (String × Connector)) :
    joinConnected ((closeLast (init ++ [last])).map element ++ more) =
      joinConnected ((joinConnected ((init ++ [last]).map element) ++ ")", last.connector) ::
        more) := by
  have closed : element { last with closes := last.closes + 1 } =
      (last.element.1 ++ ")", last.connector) := by
    simp only [element, chars, List.replicate_succ', ← List.append_assoc, String.ofList_append]
  simp only [closeLast_concat, List.map_append, List.map_cons, List.map_nil, closed,
    List.append_assoc, List.singleton_append]
  exact joinConnected_append _ _ _ _ _

/-- The words and connectors of leaves. -/
def content (leaf : Leaf) : String × Connector := (leaf.word, leaf.connector)

/-- A group that begins changes no word and no connector. -/
theorem content_openFirst (leaves : List Leaf) :
    (openFirst leaves).map content = leaves.map content := by
  cases leaves <;> rfl

/-- A group that ends changes no word and no connector. -/
theorem content_closeLast (leaves : List Leaf) :
    (closeLast leaves).map content = leaves.map content := by
  obtain rfl | ⟨init, last, rfl⟩ := leaves.eq_nil_or_concat
  · rfl
  · rw [List.concat_eq_append, closeLast_concat, List.map_append, List.map_append]
    rfl

end Leaf

/-- A group that ends adds no leaf and removes none. -/
theorem Leaf.closeLast_eq_nil_iff {leaves : List Leaf} : closeLast leaves = [] ↔ leaves = [] := by
  rw [← List.map_eq_nil_iff (f := content), content_closeLast, List.map_eq_nil_iff]

/-- Leaves with words have a text. -/
theorem Leaf.text_ne_empty {leaves : List Leaf} (some : leaves ≠ [])
    (words : ∀ leaf ∈ leaves, isWord leaf.word = true) :
    joinConnected (leaves.map element) ≠ "" := by
  cases leaves with
  | nil => contradiction
  | cons first rest =>
    have first_ne_empty : first.element.1 ≠ "" := by
      have visible := toList_ne_nil_of_isWord (words first List.mem_cons_self)
      simp only [element, chars, ne_eq, String.ofList_eq_empty_iff, List.append_eq_nil_iff]
      exact fun nothing => visible nothing.1.2
    rw [List.map_cons]
    by_cases last : rest.map element = []
    · rw [last]
      exact first_ne_empty
    · simp [joinConnected_cons last, String.append_eq_empty_iff]

namespace Clause

/-- The leaves are the conditions in reading order. -/
theorem leaves_content (clause : Clause) : clause.leaves.map Leaf.content =
    clause.conditions.map fun condition => (condition.column, condition.connector) := by
  induction clause with
  | empty => rfl
  | condition head rest ih =>
    rw [leaves, conditions, List.map_cons, List.map_cons, ih]
    rfl
  | group inner rest ihInner ihRest =>
    rw [leaves, conditions, List.map_append, List.map_append, Leaf.content_closeLast,
      Leaf.content_openFirst, ihInner, ihRest]

/-- A clause of words has no conditions exactly when it has no elements. -/
theorem conditions_eq_nil_iff {clause : Clause} (words : clause.ofWords = true) :
    clause.conditions = [] ↔ clause.isEmpty = true := by
  induction clause with
  | empty => simp [conditions, isEmpty]
  | condition head rest => simp [conditions, isEmpty]
  | group inner rest ihInner _ =>
    simp only [ofWords, Bool.and_eq_true, Bool.not_eq_true'] at words
    have visible : inner.conditions ≠ [] := by
      rw [ne_eq, ihInner words.1.2, words.1.1]
      decide
    simp [conditions, isEmpty, visible]

/-- Without empty groups, a clause is bound to what follows by its last condition. -/
theorem lastConnector_eq {clause : Clause} (words : clause.ofWords = true) :
    clause.lastConnector = (clause.conditions.getLast?.map (·.connector)).getD .and := by
  induction clause with
  | empty => rfl
  | condition head rest ih =>
    simp only [ofWords, Bool.and_eq_true] at words
    have nothing := conditions_eq_nil_iff words.2
    rw [lastConnector, conditions]
    by_cases last : rest.isEmpty = true
    · rw [if_pos last, nothing.mpr last]
      rfl
    · obtain ⟨first, others, listed⟩ := List.exists_cons_of_ne_nil (mt nothing.mp last)
      rw [if_neg last, ih words.2, listed, List.getLast?_cons_cons]
  | group inner rest ihInner ihRest =>
    simp only [ofWords, Bool.and_eq_true, Bool.not_eq_true'] at words
    have nothing := conditions_eq_nil_iff words.2
    rw [lastConnector, conditions, List.getLast?_append]
    by_cases last : rest.isEmpty = true
    · rw [if_pos last, nothing.mpr last, ihInner words.1.2]
      rfl
    · have some : rest.conditions.getLast? ≠ none := by
        rw [ne_eq, List.getLast?_eq_none_iff]
        exact mt nothing.mp last
      rw [if_neg last, ihRest words.2, Option.or_of_isSome (Option.isSome_iff_ne_none.mpr some)]

/-- Every condition of a clause of words has a word as its column. -/
theorem isWord_of_mem_conditions {clause : Clause} (words : clause.ofWords = true) :
    ∀ condition ∈ clause.conditions, isWord condition.column = true := by
  induction clause with
  | empty => exact fun _ listed => nomatch listed
  | condition head rest ih =>
    simp only [ofWords, Bool.and_eq_true] at words
    simp only [conditions, List.forall_mem_cons]
    exact ⟨words.1.2, ih words.2⟩
  | group inner rest ihInner ihRest =>
    simp only [ofWords, Bool.and_eq_true] at words
    simp only [conditions, List.forall_mem_append]
    exact ⟨ihInner words.1.2, ihRest words.2⟩

/-- Every leaf of a clause of words has a word. -/
theorem isWord_of_mem_leaves {clause : Clause} (words : clause.ofWords = true) {leaf : Leaf}
    (listed : leaf ∈ clause.leaves) : isWord leaf.word = true := by
  have content : leaf.content ∈ clause.leaves.map Leaf.content := List.mem_map_of_mem listed
  rw [leaves_content, List.mem_map] at content
  obtain ⟨condition, found, same⟩ := content
  rw [← show condition.column = leaf.word from congrArg Prod.fst same]
  exact isWord_of_mem_conditions words condition found

/-- A clause of words has no leaves exactly when it has no elements. -/
theorem leaves_eq_nil_iff {clause : Clause} (words : clause.ofWords = true) :
    clause.leaves = [] ↔ clause.isEmpty = true := by
  rw [← conditions_eq_nil_iff words, ← List.map_eq_nil_iff, leaves_content, List.map_eq_nil_iff]

/-- A group has the same text as an element of its own as it has through its leaves. -/
theorem join_group {inner : Clause} (words : inner.ofWords = true)
    (visible : inner.isEmpty = false) (more : List (String × Connector)) :
    joinConnected ((Leaf.closeLast (Leaf.openFirst inner.leaves)).map Leaf.element ++ more) =
      joinConnected (("(" ++ joinConnected (inner.leaves.map Leaf.element) ++ ")",
        inner.lastConnector) :: more) := by
  have some : inner.leaves ≠ [] := by
    rw [ne_eq, leaves_eq_nil_iff words, visible]
    decide
  rw [← Leaf.join_openFirst some]
  have same := Leaf.content_openFirst inner.leaves
  rw [leaves_content] at same
  obtain nothing | ⟨init, last, listed⟩ := (Leaf.openFirst inner.leaves).eq_nil_or_concat
  · exact absurd (List.modifyHead_eq_nil_iff.mp nothing) some
  · rw [List.concat_eq_append] at listed
    have ends : inner.lastConnector = last.connector := by
      have ending := congrArg List.getLast? same
      rw [listed, List.map_append, List.map_singleton, List.getLast?_concat,
        List.getLast?_map] at ending
      rw [lastConnector_eq words]
      cases found : inner.conditions.getLast? with
      | none =>
        rw [found] at ending
        cases ending
      | some condition =>
        rw [found] at ending
        exact (congrArg Prod.snd (Option.some.inj ending)).symm
    rw [listed, Leaf.join_closeLast, ends]

end Clause

/-- A clause of words has the text of its leaves, each with its own connector. -/
theorem Target.clause_eq_leaves (target : Target) {clause : Clause}
    (words : clause.ofWords = true) :
    target.clause clause = .ok (joinConnected (clause.leaves.map Leaf.element)) := by
  suffices rendered : ∃ elements, target.elements clause = .ok elements ∧
      SameText elements (clause.leaves.map Leaf.element) by
    obtain ⟨elements, ran, same⟩ := rendered
    rw [Target.clause, ran, ← same.text]
    rfl
  induction clause with
  | empty => exact ⟨[], rfl, .refl _⟩
  | condition head rest ih =>
    simp only [Clause.ofWords, Bool.and_eq_true, decide_eq_true_eq] at words
    obtain ⟨⟨raw, word⟩, words⟩ := words
    obtain ⟨more, ran, same⟩ := ih words
    have text : target.condition head = .ok head.column := by
      rw [target.condition_of_raw (by rw [raw]; rfl), trim_of_isWord word]
    have leaf : Leaf.element ⟨0, head.column, 0, head.connector⟩ =
        (head.column, head.connector) := by
      simp [Leaf.element, Leaf.chars]
    refine ⟨(head.column, head.connector) :: more, ?_, ?_⟩
    · rw [Target.elements, text, ran]
      rfl
    · rw [Clause.leaves, List.map_cons, leaf]
      exact same.cons _
  | group inner rest ihInner ihRest =>
    simp only [Clause.ofWords, Bool.and_eq_true, Bool.not_eq_true'] at words
    obtain ⟨⟨visible, innerWords⟩, restWords⟩ := words
    obtain ⟨elements, ranInner, sameInner⟩ := ihInner innerWords
    obtain ⟨more, ranRest, sameRest⟩ := ihRest restWords
    have some : inner.leaves ≠ [] := by
      rw [ne_eq, Clause.leaves_eq_nil_iff innerWords, visible]
      decide
    have body := Leaf.text_ne_empty some fun _ => Clause.isWord_of_mem_leaves innerWords
    refine ⟨("(" ++ joinConnected (inner.leaves.map Leaf.element) ++ ")", inner.lastConnector) ::
      more, ?_, ?_⟩
    · rw [Target.elements, ranInner, ranRest]
      show Except.ok (if joinConnected elements = "" then _ else _) = _
      rw [sameInner.text, if_neg body]
    · rw [Clause.leaves, List.map_append]
      have joined := Clause.join_group innerWords visible (rest.leaves.map Leaf.element)
      rw [← (sameRest.cons _).text] at joined
      exact ⟨by simp [Leaf.closeLast_eq_nil_iff, Leaf.openFirst, some], joined.symm⟩

end Crud
