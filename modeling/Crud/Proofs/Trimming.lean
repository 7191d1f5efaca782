import Crud.Proofs.Lists
import Crud.Text.Basic
import Mathlib.Data.List.TakeWhile

/-!
# Removing characters at the ends of a text

What is left of a text is the part between the first and the last character that stays. It has none
of the characters at its ends, and everything removed is made of them.
-/

namespace Crud

namespace Text

/-- Neither the first nor the last character satisfies the test. -/
structure EndsFree (test : Char → Bool) (chars : List Char) : Prop where
  /-- The first character, if there is one. -/
  front : ∀ char ∈ chars.head?, test char = false
  /-- The last character, if there is one. -/
  back : ∀ char ∈ chars.getLast?, test char = false

-- Only the characters of the text are tried, not all characters.
instance (test : Char → Bool) (chars : List Char) : Decidable (EndsFree test chars) :=
  have (found : Option Char) : Decidable (∀ char ∈ found, test char = false) :=
    found.decidableForallMem
  decidable_of_iff
    ((∀ char ∈ chars.head?, test char = false) ∧ ∀ char ∈ chars.getLast?, test char = false)
    ⟨fun free => ⟨free.1, free.2⟩, fun free => ⟨free.front, free.back⟩⟩

variable {test : Char → Bool} {chars core : List Char}

/-- Where no character satisfies the test, none at the ends does. -/
theorem endsFree_of_forall (plain : ∀ char ∈ chars, test char = false) : EndsFree test chars :=
  ⟨fun char first => plain char (List.mem_of_head? first),
    fun char last => plain char (List.mem_of_getLast? last)⟩

/-- Nothing is left exactly of characters that all satisfy the test. -/
theorem stripEnds_eq_nil_iff :
    stripEnds test chars = [] ↔ ∀ char ∈ chars, test char = true := by
  rw [stripEnds, List.reverse_eq_nil_iff, List.dropWhile_eq_nil_iff]
  simp only [List.mem_reverse]
  constructor
  · intro behind
    rw [← List.dropWhile_eq_nil_iff]
    by_contra some
    have first := List.head_dropWhile_not test some
    rw [behind _ (List.head_mem some)] at first
    contradiction
  · exact fun all char listed => all char ((List.dropWhile_sublist test).subset listed)

/-- Characters are dropped around a text that has none of them at its ends, and nothing else. -/
theorem stripEnds_around (some : core ≠ []) (free : EndsFree test core) (front back : List Char) :
    stripEnds test (front ++ core ++ back) =
      front.dropWhile test ++ core ++ back.rdropWhile test := by
  rw [stripEnds, List.dropWhile_around some free.front]
  exact List.rdropWhile_around some free.back _ _

/-- A text that has none of the characters at its ends is what is left of it between them. -/
theorem stripEnds_append (free : EndsFree test core) {front back : List Char}
    (isFront : ∀ char ∈ front, test char = true) (isBack : ∀ char ∈ back, test char = true) :
    stripEnds test (front ++ core ++ back) = core := by
  by_cases some : core = []
  · subst some
    rw [stripEnds_eq_nil_iff, List.append_nil, List.forall_mem_append]
    exact ⟨isFront, isBack⟩
  · rw [stripEnds_around some free, List.dropWhile_eq_nil_iff.mpr isFront,
      List.rdropWhile_eq_nil_iff.mpr isBack, List.nil_append, List.append_nil]

/-- None of the characters is left at the ends. -/
theorem endsFree_stripEnds (test : Char → Bool) (chars : List Char) :
    EndsFree test (stripEnds test chars) where
  front char first := by
    obtain ⟨removed, whole⟩ : stripEnds test chars <+: chars.dropWhile test :=
      List.rdropWhile_prefix _ _
    have stops := List.head?_dropWhile_not test chars
    rw [← whole, List.head?_append, first, Option.some_or] at stops
    simpa using stops
  back char last := by
    have stops := List.head?_dropWhile_not test (chars.dropWhile test).reverse
    rw [stripEnds, List.getLast?_reverse] at last
    rw [last] at stops
    simpa using stops

/-- What is removed is made of the characters. -/
theorem exists_stripEnds (test : Char → Bool) (chars : List Char) :
    ∃ front back : List Char, chars = front ++ stripEnds test chars ++ back ∧
      (∀ char ∈ front, test char = true) ∧ ∀ char ∈ back, test char = true := by
  refine ⟨chars.takeWhile test, (chars.dropWhile test).rtakeWhile test, ?_,
    fun _ => List.mem_takeWhile_imp, fun _ => List.mem_rtakeWhile_imp⟩
  have back : stripEnds test chars ++ (chars.dropWhile test).rtakeWhile test =
      chars.dropWhile test := List.rdropWhile_append_rtakeWhile ..
  rw [List.append_assoc, back, List.takeWhile_append_dropWhile]

/-- The characters around a text make no difference to what is left of it. -/
theorem stripEnds_surrounded {front back : List Char} (isFront : ∀ char ∈ front, test char = true)
    (isBack : ∀ char ∈ back, test char = true) (chars : List Char) :
    stripEnds test (front ++ chars ++ back) = stripEnds test chars := by
  obtain ⟨before, after, whole, isBefore, isAfter⟩ := exists_stripEnds test chars
  have around : front ++ chars ++ back =
      (front ++ before) ++ stripEnds test chars ++ (after ++ back) := by
    conv => lhs; rw [whole]
    simp only [List.append_assoc]
  rw [around]
  exact stripEnds_append (endsFree_stripEnds test chars)
    (List.forall_mem_append.mpr ⟨isFront, isBefore⟩) (List.forall_mem_append.mpr ⟨isAfter, isBack⟩)

/-- Two texts without the characters at their ends, with anything between them. -/
theorem EndsFree.around {first last : List Char} (free : EndsFree test first)
    (lastFree : EndsFree test last) (some : first ≠ []) (someLast : last ≠ [])
    (middle : List Char) : EndsFree test (first ++ middle ++ last) := by
  constructor
  · rw [List.append_assoc, List.head?_append_of_ne_nil _ some]
    exact free.front
  · rw [List.getLast?_append_of_ne_nil _ someLast]
    exact lastFree.back

/-- Characters are removed, and the others keep their order. -/
theorem stripEnds_sublist (test : Char → Bool) (chars : List Char) :
    (stripEnds test chars).Sublist chars :=
  (List.rdropWhile_prefix _ _).sublist.trans (List.dropWhile_sublist _)

/-- Nothing is removed exactly when none of the characters is at the ends. -/
theorem stripEnds_eq_self_iff : stripEnds test chars = chars ↔ EndsFree test chars := by
  constructor
  · intro same
    rw [← same]
    exact endsFree_stripEnds test chars
  · intro free
    have stripped : stripEnds test ([] ++ chars ++ []) = chars :=
      stripEnds_append free (by simp) (by simp)
    rwa [List.nil_append, List.append_nil] at stripped

end Text

end Crud
