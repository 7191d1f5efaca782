import Crud.Proofs.Lists
import Crud.Text.Basic
import Mathlib.Data.String.Basic

/-!
# Joined texts and slices

Where the parts of a joined text stand in it, and what a text has between two byte offsets. A slice
of a text in three parts, at the offsets where the middle part begins and ends, is the middle part,
so a scan that keeps offsets is followed through the parts of its text.
-/

namespace Crud.Text

/-- The characters of joined texts. -/
theorem toList_join (separator : String) (texts : List String) :
    (join separator texts).toList =
      List.intercalate separator.toList (texts.map String.toList) := by
  induction texts with
  | nil => rfl
  | cons first rest ih =>
    cases rest with
    | nil => rw [join, List.map_singleton, List.intercalate_singleton]
    | cons second rest =>
      rw [join, String.toList_append, String.toList_append, ih]
      simp only [List.map_cons, List.intercalate_cons_cons]

/-- The characters of joined texts, in two parts. -/
theorem toList_join_append (separator : String) {front back : List String}
    (someFront : front ≠ []) (someBack : back ≠ []) :
    (join separator (front ++ back)).toList =
      (join separator front).toList ++ separator.toList ++ (join separator back).toList := by
  simp only [toList_join, List.map_append]
  exact List.intercalate_append _ (mt List.map_eq_nil_iff.mp someFront)
    (mt List.map_eq_nil_iff.mp someBack)

/-- Joined texts begin with the first of them. -/
theorem prefix_join (separator text : String) (back : List String) :
    text.toList <+: (join separator (text :: back)).toList := by
  rw [toList_join, List.map_cons]
  exact List.prefix_intercalate _ _

/-- A joined text that is not the first one stands behind the separator. -/
theorem infix_join_behind (separator : String) {front : List String} (some : front ≠ [])
    (text : String) (back : List String) :
    (separator ++ text).toList <:+: (join separator (front ++ text :: back)).toList := by
  have begins := String.prefix_append_right (prefix_join separator text back) separator
  rw [toList_join_append separator some (List.cons_ne_nil text back), List.append_assoc,
    ← String.toList_append]
  exact begins.isInfix.trans (List.suffix_append _ _).isInfix

/-- Joined texts beside each other have the separator between them. -/
theorem infix_join_pair (separator : String) (front : List String) (first second : String)
    (back : List String) :
    (first ++ separator ++ second).toList <:+:
      (join separator (front ++ first :: second :: back)).toList := by
  have begins : (first ++ separator ++ second).toList <+:
      (join separator (first :: second :: back)).toList :=
    String.prefix_append_right (prefix_join separator second back) (first ++ separator)
  by_cases none : front = []
  · rw [none]
    exact begins.isInfix
  · rw [toList_join_append separator none (List.cons_ne_nil first _)]
    exact begins.isInfix.trans (List.suffix_append _ _).isInfix

/-- Each of joined texts stands in their text. -/
theorem infix_join (separator : String) {text : String} {texts : List String}
    (listed : text ∈ texts) : text.toList <:+: (join separator texts).toList := by
  induction texts with
  | nil => contradiction
  | cons first rest ih =>
    cases rest with
    | nil =>
      rw [List.mem_singleton.mp listed]
      exact List.infix_rfl
    | cons second rest =>
      rw [join, String.toList_append]
      obtain rfl | behind := List.mem_cons.mp listed
      · rw [String.toList_append, List.append_assoc]
        exact (List.prefix_append _ _).isInfix
      · exact (ih behind).trans (List.suffix_append _ _).isInfix

/-- The characters of joined texts are replaced in each of them and in the separator. -/
theorem map_join (replace : Char → Char) (separator : String) (texts : List String) :
    (join separator texts).map replace =
      join (separator.map replace) (texts.map (String.map replace)) := by
  induction texts with
  | nil => exact String.map_eq_empty.mpr rfl
  | cons first rest ih =>
    cases rest with
    | nil => rfl
    | cons second rest => simp only [join, String.map_append, ih, List.map_cons]

/-- The characters from one byte offset to another, unless one of the offsets is behind the end or
inside a character, or they are out of order. -/
def slice? (text : String) (first last : Nat) : Option String :=
  if first ≤ last ∧ String.Pos.Raw.isValid text ⟨first⟩ ∧ String.Pos.Raw.isValid text ⟨last⟩ then
    some (String.Pos.Raw.extract text ⟨first⟩ ⟨last⟩)
  else none

/-- A character behind a text adds its bytes. -/
theorem utf8Len_concat (front : List Char) (char : Char) :
    String.utf8Len (front ++ [char]) = String.utf8Len front + char.utf8Size := by
  rw [String.utf8Len_append, String.utf8Len_cons, String.utf8Len_nil, Nat.zero_add]

/-- The offset behind the first of two parts of a text is no offset inside a character. -/
theorem isValid_append (front back : List Char) :
    String.Pos.Raw.isValid (.ofList (front ++ back)) ⟨String.utf8Len front⟩ = true := by
  rw [String.Pos.Raw.isValid_eq_true_iff, String.Pos.Raw.isValid_ofList]
  refine ⟨front.length, ?_⟩
  rw [List.take_left, String.utf8ByteSize_ofList]

/-- The slice from where the middle part of a text begins to where it ends is the middle part. -/
theorem slice?_middle {text : String} {front middle back : List Char}
    (whole : text.toList = front ++ middle ++ back) :
    slice? text (String.utf8Len front) (String.utf8Len (front ++ middle)) =
      some (.ofList middle) := by
  obtain rfl : text = .ofList (front ++ middle ++ back) := by
    rw [← whole, String.ofList_toList]
  have first : String.Pos.Raw.isValid (.ofList (front ++ middle ++ back))
      ⟨String.utf8Len front⟩ = true := by
    rw [List.append_assoc]
    exact isValid_append front (middle ++ back)
  have last := isValid_append (front ++ middle) back
  have ordered : String.utf8Len front ≤ String.utf8Len (front ++ middle) := by
    rw [String.utf8Len_append]
    exact Nat.le_add_right _ _
  rw [slice?, if_pos ⟨ordered, first, last⟩, String.utf8Len_append]
  exact congrArg some (String.extract_of_valid front middle back)

end Crud.Text
