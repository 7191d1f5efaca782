import Crud.Proofs.ClauseLeaves
import Crud.Proofs.Lists
import Mathlib.Logic.Function.Iterate

/-!
# The structure of a clause in its text

The text of a clause of words determines its leaves, as a blank ends the characters of each leaf,
and as its word can be told from the parentheses around it. From the leaves the clause can be
rebuilt with a stack of open groups. So the text determines all of the clause but the connector
that is not written.
-/

namespace Crud

namespace Leaf

variable {leaf other : Leaf}

/-- No blank stands among the characters of a leaf with a word. -/
theorem blank_not_mem_chars (word : isWord leaf.word = true) : ' ' ∉ leaf.chars := by
  have inWord := not_mem_of_isWord word (show isWordChar ' ' = false by decide)
  simp [chars, List.mem_replicate, inWord]

/-- The parentheses and the word can be read off the characters of a leaf, so all of it but the
connector is determined. -/
theorem eq_of_chars (word : isWord leaf.word = true) (word' : isWord other.word = true)
    (same : leaf.chars = other.chars) : other = { leaf with connector := other.connector } := by
  have opens (leaf : Leaf) (word : isWord leaf.word = true) :
      leaf.chars.count '(' = leaf.opens := by
    have inWord := not_mem_of_isWord word (show isWordChar '(' = false by decide)
    simp [chars, List.count_append, List.count_replicate, List.count_eq_zero_of_not_mem inWord]
  have closes (leaf : Leaf) (word : isWord leaf.word = true) :
      leaf.chars.count ')' = leaf.closes := by
    have inWord := not_mem_of_isWord word (show isWordChar ')' = false by decide)
    simp [chars, List.count_append, List.count_replicate, List.count_eq_zero_of_not_mem inWord]
  have words (leaf : Leaf) (word : isWord leaf.word = true) :
      leaf.chars.filter isWordChar = leaf.word.toList := by
    simp only [isWord, Bool.and_eq_true, List.all_eq_true] at word
    have notOpen : isWordChar '(' = false := by decide
    have notClose : isWordChar ')' = false := by decide
    simp [chars, List.filter_append, notOpen, notClose, List.filter_eq_self.mpr word.2]
  have sameOpens : leaf.opens = other.opens := by
    rw [← opens leaf word, ← opens other word', same]
  have sameWord : leaf.word = other.word := by
    apply String.toList_inj.mp
    rw [← words leaf word, ← words other word', same]
  have sameCloses : leaf.closes = other.closes := by
    rw [← closes leaf word, ← closes other word', same]
  rw [sameOpens, sameWord, sameCloses]

/-- Another connector on the last leaf. -/
def rebindLast (connector : Connector) (leaves : List Leaf) : List Leaf :=
  leaves.modifyLast fun leaf => { leaf with connector }

/-- Only the last leaf gets another connector. -/
theorem rebindLast_concat (connector : Connector) (init : List Leaf) (last : Leaf) :
    rebindLast connector (init ++ [last]) = init ++ [{ last with connector }] :=
  List.modifyLast_concat _ _ _

/-- A leaf that is not the last one keeps its connector. -/
theorem rebindLast_cons (connector : Connector) (first next : Leaf) (rest : List Leaf) :
    rebindLast connector (first :: next :: rest) = first :: rebindLast connector (next :: rest) :=
  List.modifyLast_append_of_right_ne_nil _ [first] (next :: rest) (List.cons_ne_nil _ _)

/-- A leaf that is not the last one is written with its connector between blanks. -/
theorem toList_join_cons (first next : Leaf) (rest : List Leaf) :
    (joinConnected ((first :: next :: rest).map element)).toList =
      first.chars ++ ' ' :: (first.connector.name.toList ++
        ' ' :: (joinConnected ((next :: rest).map element)).toList) := by
  rw [List.map_cons, joinConnected_cons (mt List.map_eq_nil_iff.mp (List.cons_ne_nil _ _))]
  simp only [String.toList_append, List.append_assoc, element, String.toList_ofList]
  rfl

/-- The last leaf is written without its connector. -/
theorem toList_join_singleton (last : Leaf) :
    (joinConnected ([last].map element)).toList = last.chars :=
  String.toList_ofList

/-- Leaves with the same text are the same, but for the connector of the last one. -/
theorem eq_rebindLast_of_text {leaves others : List Leaf}
    (words : ∀ leaf ∈ leaves, isWord leaf.word = true)
    (words' : ∀ leaf ∈ others, isWord leaf.word = true)
    (same : joinConnected (leaves.map element) = joinConnected (others.map element)) :
    ∃ connector, others = rebindLast connector leaves := by
  have bare (connector : Connector) : ' ' ∉ connector.name.toList := by
    cases connector <;> decide
  -- One leaf has no blank in its text, and two leaves have one, so both lists end together.
  match leaves, others with
  | [], [] => exact ⟨.and, rfl⟩
  | [], first :: rest =>
    exact absurd same.symm (text_ne_empty (List.cons_ne_nil first rest) words')
  | first :: rest, [] =>
    exact absurd same (text_ne_empty (List.cons_ne_nil first rest) words)
  | [last], [last'] =>
    have sameChars := congrArg String.toList same
    rw [toList_join_singleton, toList_join_singleton] at sameChars
    have rebound := eq_of_chars (words last List.mem_cons_self) (words' last' List.mem_cons_self)
      sameChars
    exact ⟨last'.connector, congrArg (fun leaf => [leaf]) rebound⟩
  | [last], first' :: next' :: rest' =>
    have sameChars := congrArg String.toList same
    rw [toList_join_singleton, toList_join_cons] at sameChars
    have blank := blank_not_mem_chars (words last List.mem_cons_self)
    rw [sameChars] at blank
    simp at blank
  | first :: next :: rest, [last'] =>
    have sameChars := congrArg String.toList same
    rw [toList_join_singleton, toList_join_cons] at sameChars
    have blank := blank_not_mem_chars (words' last' List.mem_cons_self)
    rw [← sameChars] at blank
    simp at blank
  | first :: next :: rest, first' :: next' :: rest' =>
    have sameChars := congrArg String.toList same
    rw [toList_join_cons, toList_join_cons] at sameChars
    obtain ⟨sameFirst, behind⟩ := List.append_cons_inj_of_not_mem
      (blank_not_mem_chars (words first List.mem_cons_self))
      (blank_not_mem_chars (words' first' List.mem_cons_self)) sameChars
    obtain ⟨sameName, others⟩ := List.append_cons_inj_of_not_mem (bare _) (bare _) behind
    have sameConnector := Connector.name_injective (String.toList_inj.mp sameName)
    have rebound := eq_of_chars (words first List.mem_cons_self) (words' first' List.mem_cons_self)
      sameFirst
    rw [← sameConnector] at rebound
    obtain ⟨connector, reboundRest⟩ := eq_rebindLast_of_text (List.forall_mem_cons.mp words).2
      (List.forall_mem_cons.mp words').2 (String.toList_inj.mp others)
    refine ⟨connector, ?_⟩
    rw [rebindLast_cons, ← reboundRest, rebound]

end Leaf

namespace Clause

/-- Put a clause at the end of the innermost open group. -/
def addInnermost (added : Clause) : List Clause → List Clause
  | [] => []
  | innermost :: outer => (innermost ++ added) :: outer

/-- Close the innermost open group. -/
def closeInnermost : List Clause → List Clause
  | [] => []
  | innermost :: outer => addInnermost (.group innermost .empty) outer

/-- Open the groups of a leaf, put it into the innermost one, and close the groups that end. -/
def addLeaf (opened : List Clause) (leaf : Leaf) : List Clause :=
  closeInnermost^[leaf.closes]
    (addInnermost (.single (.ofText leaf.word leaf.connector))
      (List.replicate leaf.opens .empty ++ opened))

/-- The open groups, innermost first, after leaves have been added. -/
def rebuild (opened : List Clause) (leaves : List Leaf) : List Clause := leaves.foldl addLeaf opened

/-- A group that begins with the first leaf is one more open group. -/
theorem rebuild_openFirst (opened : List Clause) {leaves : List Leaf} (some : leaves ≠ []) :
    rebuild opened (Leaf.openFirst leaves) = rebuild (.empty :: opened) leaves := by
  cases leaves with
  | nil => contradiction
  | cons first rest =>
    show List.foldl addLeaf (addLeaf opened { first with opens := first.opens + 1 }) rest = _
    simp only [addLeaf, List.replicate_succ', List.append_assoc, List.singleton_append]
    rfl

/-- A group that ends with the last leaf closes the innermost open group. -/
theorem rebuild_closeLast (opened : List Clause) {leaves : List Leaf} (some : leaves ≠ []) :
    rebuild opened (Leaf.closeLast leaves) = closeInnermost (rebuild opened leaves) := by
  obtain rfl | ⟨init, last, rfl⟩ := leaves.eq_nil_or_concat
  · contradiction
  · rw [List.concat_eq_append, Leaf.closeLast_concat, rebuild, rebuild, List.foldl_append,
      List.foldl_append]
    exact Function.iterate_succ_apply' _ _ _

/-- Adding the leaves of a clause adds the clause. -/
theorem rebuild_leaves {clause : Clause} (words : clause.ofWords = true) (innermost : Clause)
    (outer : List Clause) :
    rebuild (innermost :: outer) clause.leaves = (innermost ++ clause) :: outer := by
  induction clause generalizing innermost outer with
  | empty => rw [append_empty]; rfl
  | condition head rest ih =>
    simp only [ofWords, Bool.and_eq_true, decide_eq_true_eq] at words
    show rebuild (addLeaf (innermost :: outer) ⟨0, head.column, 0, head.connector⟩) rest.leaves = _
    have added : addLeaf (innermost :: outer) ⟨0, head.column, 0, head.connector⟩ =
        (innermost ++ single head) :: outer := by
      rw [words.1.1]
      rfl
    rw [added, ih words.2, append_assoc]
    rfl
  | group inner rest ihInner ihRest =>
    simp only [ofWords, Bool.and_eq_true, Bool.not_eq_true'] at words
    have some : inner.leaves ≠ [] := by
      rw [ne_eq, leaves_eq_nil_iff words.1.2, words.1.1]
      decide
    have opened : Leaf.openFirst inner.leaves ≠ [] := mt List.modifyHead_eq_nil_iff.mp some
    rw [leaves, rebuild, List.foldl_append]
    show rebuild (rebuild _ _) rest.leaves = _
    rw [rebuild_closeLast _ opened, rebuild_openFirst _ some, ihInner words.1.2]
    show rebuild ((innermost ++ group (empty ++ inner) empty) :: outer) rest.leaves = _
    rw [ihRest words.2, append_assoc]
    rfl

/-- Clauses of words with the same leaves are the same. -/
theorem eq_of_leaves {first second : Clause} (words : first.ofWords = true)
    (words' : second.ofWords = true) (same : first.leaves = second.leaves) : first = second := by
  have rebuilt := rebuild_leaves words empty []
  rw [same, rebuild_leaves words' empty []] at rebuilt
  exact (List.cons.inj rebuilt).1.symm

end Clause

namespace Leaf

/-- The group that begins and the last connector do not affect each other. -/
theorem openFirst_rebindLast (connector : Connector) (leaves : List Leaf) :
    openFirst (rebindLast connector leaves) = rebindLast connector (openFirst leaves) := by
  match leaves with
  | [] => rfl
  | [last] => rfl
  | first :: next :: rest =>
    rw [rebindLast_cons]
    exact (rebindLast_cons connector { first with opens := first.opens + 1 } next rest).symm

/-- The group that ends and the last connector do not affect each other. -/
theorem closeLast_rebindLast (connector : Connector) (leaves : List Leaf) :
    closeLast (rebindLast connector leaves) = rebindLast connector (closeLast leaves) := by
  obtain rfl | ⟨init, last, rfl⟩ := leaves.eq_nil_or_concat
  · rfl
  · simp only [List.concat_eq_append, rebindLast_concat, closeLast_concat]

/-- The connector of the last leaf is not written. -/
theorem join_rebindLast (connector : Connector) (leaves : List Leaf) :
    joinConnected ((rebindLast connector leaves).map element) =
      joinConnected (leaves.map element) := by
  match leaves with
  | [] => rfl
  | [last] => rfl
  | first :: next :: rest =>
    have ih := join_rebindLast connector (next :: rest)
    have some : rebindLast connector (next :: rest) ≠ [] := by
      cases rest with
      | nil => exact List.cons_ne_nil _ _
      | cons second others =>
        rw [rebindLast_cons]
        exact List.cons_ne_nil _ _
    rw [rebindLast_cons, List.map_cons, List.map_cons,
      joinConnected_cons (mt List.map_eq_nil_iff.mp some), ih,
      joinConnected_cons (mt List.map_eq_nil_iff.mp (List.cons_ne_nil _ _))]

end Leaf

namespace Clause

/-- Another connector leaves a clause of words one. -/
theorem ofWords_rebind (connector : Connector) {clause : Clause} (words : clause.ofWords = true) :
    (clause.rebind connector).ofWords = true := by
  induction clause with
  | empty => exact words
  | condition head rest ih =>
    simp only [ofWords, Bool.and_eq_true, decide_eq_true_eq] at words
    unfold rebind
    split
    · simp only [ofWords, words.2, words.1.2, Bool.and_true, decide_eq_true_eq]
      rw [words.1.1]
      rfl
    · simp only [ofWords, Bool.and_eq_true, decide_eq_true_eq]
      exact ⟨words.1, ih words.2⟩
  | group inner rest ihInner ihRest =>
    simp only [ofWords, Bool.and_eq_true, Bool.not_eq_true'] at words
    unfold rebind
    split
    · simp only [ofWords, isEmpty_rebind, words.1.1, ihInner words.1.2, words.2]
      rfl
    · simp only [ofWords, words.1.1, words.1.2, ihRest words.2]
      rfl

/-- Another connector at the end of a clause is one on its last leaf. -/
theorem leaves_rebind (connector : Connector) {clause : Clause} (words : clause.ofWords = true) :
    (clause.rebind connector).leaves = Leaf.rebindLast connector clause.leaves := by
  induction clause with
  | empty => rfl
  | condition head rest ih =>
    simp only [ofWords, Bool.and_eq_true] at words
    have nothing := leaves_eq_nil_iff words.2
    unfold rebind
    by_cases last : rest.isEmpty = true
    · rw [if_pos last, leaves, leaves, nothing.mpr last]
      rfl
    · rw [if_neg last, leaves, leaves, ih words.2]
      exact (List.modifyLast_append_of_right_ne_nil _ [_] _ (mt nothing.mp last)).symm
  | group inner rest ihInner ihRest =>
    simp only [ofWords, Bool.and_eq_true, Bool.not_eq_true'] at words
    have nothing := leaves_eq_nil_iff words.2
    unfold rebind
    by_cases last : rest.isEmpty = true
    · rw [if_pos last, leaves, leaves, nothing.mpr last, ihInner words.1.2, List.append_nil,
        List.append_nil, Leaf.openFirst_rebindLast, Leaf.closeLast_rebindLast]
    · rw [if_neg last, leaves, leaves, ihRest words.2]
      exact (List.modifyLast_append_of_right_ne_nil _ _ _ (mt nothing.mp last)).symm

end Clause

namespace Target

/-- The text of a clause of words and groups that are not empty is its words in reading order, each
with the parentheses next to it and, but for the last one, with its own connector behind them. Two
such clauses have the same text exactly when they are the same but for the connector of the
condition in which they end. -/
theorem clause_determines_structure (target : Target) {first second : Clause}
    (words : first.ofWords = true) (words' : second.ofWords = true) :
    target.clause first = .ok (joinConnected (first.leaves.map Leaf.element)) ∧
    first.leaves.map Leaf.content =
      first.conditions.map (fun condition => (condition.column, condition.connector)) ∧
    (target.clause first = target.clause second ↔
      ∃ connector, second = first.rebind connector) := by
  refine ⟨target.clause_eq_leaves words, first.leaves_content, ?_⟩
  constructor
  · intro same
    rw [target.clause_eq_leaves words, target.clause_eq_leaves words'] at same
    obtain ⟨connector, rebound⟩ := Leaf.eq_rebindLast_of_text
      (fun leaf => Clause.isWord_of_mem_leaves words)
      (fun leaf => Clause.isWord_of_mem_leaves words') (Except.ok.inj same)
    rw [← Clause.leaves_rebind connector words] at rebound
    exact ⟨connector, Clause.eq_of_leaves words' (Clause.ofWords_rebind connector words) rebound⟩
  · rintro ⟨connector, rfl⟩
    rw [target.clause_eq_leaves words, target.clause_eq_leaves words',
      Clause.leaves_rebind connector words, Leaf.join_rebindLast]

/-- A word, a group that ends in a group of two words, and a word after it. -/
def sampleWords (inner outer last : Connector) : Clause :=
  .condition (.ofText "a" .or) <|
  .group
    (.condition (.ofText "b_1" .xor) <|
      .group (.condition (.ofText "c" inner) <| .single (.ofText "d" outer)) .empty) <|
  .single (.ofText "e2" last)

/-- The connector of the word at the end of both groups stands behind both, and the connector of the
last word does not stand anywhere. -/
theorem sampleWords_determined :
    (sampleWords .and .xor .and).ofWords = true ∧ (sampleWords .and .xor .or).ofWords = true ∧
    Target.clause ⟨.mysql, none⟩ (sampleWords .and .xor .and) =
      .ok "a OR (b_1 XOR (c AND d)) XOR e2" ∧
    Target.clause ⟨.mysql, none⟩ (sampleWords .and .xor .and) =
      Target.clause ⟨.mysql, none⟩ (sampleWords .and .xor .or) ∧
    Target.clause ⟨.mysql, none⟩ (sampleWords .and .xor .and) ≠
      Target.clause ⟨.mysql, none⟩ (sampleWords .and .or .and) := by
  have words : (sampleWords .and .xor .and).ofWords = true := by decide
  have words' : (sampleWords .and .xor .or).ofWords = true := by decide
  have words'' : (sampleWords .and .or .and).ofWords = true := by decide
  obtain ⟨text, -, rebound⟩ := clause_determines_structure ⟨.mysql, none⟩ words words'
  obtain ⟨-, -, different⟩ := clause_determines_structure ⟨.mysql, none⟩ words words''
  refine ⟨words, words', ?_, rebound.mpr ⟨.or, by decide⟩, ?_⟩
  · rw [text]
    exact congrArg Except.ok (by decide)
  · rw [ne_eq, different]
    rintro ⟨connector, same⟩
    cases connector <;> exact absurd same (by decide)

end Target

end Crud
