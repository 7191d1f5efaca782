import Mathlib.Data.List.DropRight

/-!
# Lists, strings and numerals

General facts about lists, strings and decimal numerals. Nothing here knows of statements, columns
or JSON; the modules that do take what they need of separators, fronts and ends from here.
-/

namespace List

variable {α β : Type}

/-- The fronts of a list are the empty one and those that begin with its first item. -/
theorem forall_prefix_cons {property : List α → Prop} {head : α} {rest : List α} :
    (∀ front, front <+: head :: rest → property front) ↔
      property [] ∧ ∀ front, front <+: rest → property (head :: front) := by
  constructor
  · exact fun all => ⟨all [] nil_prefix, fun front isFront =>
      all _ (prefix_cons_iff.mpr (.inr ⟨front, rfl, isFront⟩))⟩
  · rintro ⟨empty, longer⟩ front isFront
    obtain rfl | ⟨front, rfl, isPart⟩ := prefix_cons_iff.mp isFront
    · exact empty
    · exact longer front isPart

/-- A list ends with an item behind another list exactly when it is only the item, or when the rest
of it does. -/
theorem exists_cons_eq_concat {head last : α} {rest : List α} {property : List α → Prop} :
    (∃ inner, head :: rest = inner ++ [last] ∧ property inner) ↔
      head = last ∧ rest = [] ∧ property [] ∨
        ∃ inner, rest = inner ++ [last] ∧ property (head :: inner) := by
  constructor
  · rintro ⟨inner, same, holds⟩
    cases inner with
    | nil =>
      cases same
      exact .inl ⟨rfl, rfl, holds⟩
    | cons first inner =>
      cases same
      exact .inr ⟨inner, rfl, holds⟩
  · rintro (⟨rfl, rfl, holds⟩ | ⟨inner, rfl, holds⟩)
    · exact ⟨[], rfl, holds⟩
    · exact ⟨head :: inner, rfl, holds⟩

/-- The items before the first one of a kind and those behind it are determined. -/
theorem append_cons_inj_of_not_mem {mark : α} {before before' after after' : List α}
    (first : mark ∉ before) (first' : mark ∉ before')
    (same : before ++ mark :: after = before' ++ mark :: after') :
    before = before' ∧ after = after' := by
  induction before generalizing before' with
  | nil =>
    cases before' with
    | nil => exact ⟨rfl, (cons.inj same).2⟩
    | cons head rest =>
      have isMark : mark = head := (cons.inj same).1
      exact absurd (isMark ▸ mem_cons_self) first'
  | cons head rest ih =>
    cases before' with
    | nil =>
      have isMark : head = mark := (cons.inj same).1
      exact absurd (isMark ▸ mem_cons_self) first
    | cons head' rest' =>
      obtain ⟨rfl, tails⟩ := cons.inj same
      simp only [mem_cons, not_or] at first first'
      obtain ⟨rfl, rfl⟩ := ih first.2 first'.2 tails
      exact ⟨rfl, rfl⟩

/-- Reading what has been written, one by one. -/
theorem mapM_map_eq_some (write : α → β) (read : β → Option α) {items : List α}
    (back : ∀ item ∈ items, read (write item) = some item) :
    (items.map write).mapM read = some items := by
  induction items with
  | nil => rfl
  | cons item items ih =>
    rw [forall_mem_cons] at back
    rw [map_cons, mapM_cons, back.1, ih back.2]
    rfl

/-- Reading a list reads its last item last. -/
theorem mapM_concat (read : α → Option β) (items : List α) {last : α} {value : β}
    (found : read last = some value) :
    (items ++ [last]).mapM read = (items.mapM read).map (· ++ [value]) := by
  rw [mapM_append, mapM_cons, found]
  cases items.mapM read <;> rfl

/-- Items are dropped in front of a list that does not begin with one of them, and nothing else. -/
theorem dropWhile_around {test : α → Bool} {core : List α} (some : core ≠ [])
    (free : ∀ item ∈ core.head?, test item = false) (front back : List α) :
    (front ++ core ++ back).dropWhile test = front.dropWhile test ++ core ++ back := by
  obtain ⟨first, rest, rfl⟩ := exists_cons_of_ne_nil some
  have stops : test first = false := free first rfl
  induction front with
  | nil => simp only [nil_append, cons_append, dropWhile_cons, stops, Bool.false_eq_true,
      ↓reduceIte, dropWhile_nil]
  | cons item front ih =>
    simp only [cons_append, dropWhile_cons]
    split
    · exact ih
    · rfl

/-- Items are dropped behind a list that does not end with one of them, and nothing else. -/
theorem rdropWhile_around {test : α → Bool} {core : List α} (some : core ≠ [])
    (free : ∀ item ∈ core.getLast?, test item = false) (front back : List α) :
    (front ++ core ++ back).rdropWhile test = front ++ core ++ back.rdropWhile test := by
  rw [← head?_reverse] at free
  have mirrored := dropWhile_around (reverse_ne_nil_iff.mpr some) free back.reverse front.reverse
  simp only [rdropWhile, reverse_append, ← append_assoc, mirrored, reverse_reverse]

variable {separator : List α}

/-- The first of lists with a separator begins them all. -/
theorem prefix_intercalate (first : List α) (others : List (List α)) :
    first <+: intercalate separator (first :: others) := by
  cases others with
  | nil =>
    have alone : intercalate separator [first] = first := intercalate_singleton
    exact ⟨[], (append_nil _).trans alone.symm⟩
  | cons second others =>
    rw [intercalate_cons_cons, append_assoc]
    exact prefix_append _ _

/-- The last of lists with a separator ends them all. -/
theorem suffix_intercalate (first : List (List α)) (last : List α) :
    last <:+ intercalate separator (first ++ [last]) := by
  induction first with
  | nil =>
    have alone : intercalate separator [last] = last := intercalate_singleton
    exact ⟨[], alone.symm⟩
  | cons part first ih =>
    rw [cons_append, intercalate_cons_of_ne_nil (by simp)]
    exact ih.trans (suffix_append _ _)

/-- What stands in lists with a separator stands in one of them or in the separator. -/
theorem mem_of_mem_intercalate {lists : List (List α)} {item : α}
    (listed : item ∈ intercalate separator lists) :
    item ∈ separator ∨ ∃ list ∈ lists, item ∈ list := by
  induction lists with
  | nil => contradiction
  | cons first rest ih =>
    cases rest with
    | nil =>
      rw [intercalate_singleton] at listed
      exact .inr ⟨first, mem_cons_self, listed⟩
    | cons second rest =>
      rw [intercalate_cons_cons, mem_append, mem_append] at listed
      obtain (own | between) | later := listed
      · exact .inr ⟨first, mem_cons_self, own⟩
      · exact .inl between
      · exact (ih later).imp_right fun ⟨list, among, found⟩ =>
          ⟨list, mem_cons_of_mem _ among, found⟩

variable (separator)

/-- Lists with a separator, the first of which has an item in front. -/
theorem intercalate_cons_head (head : α) (first : List α) (others : List (List α)) :
    intercalate separator ((head :: first) :: others) =
      head :: intercalate separator (first :: others) := by
  cases others with
  | nil => rfl
  | cons second others => simp only [intercalate_cons_cons, cons_append]

/-- Lists of lists with a separator, one behind the other. -/
theorem intercalate_append {front back : List (List α)} (someFront : front ≠ [])
    (someBack : back ≠ []) :
    intercalate separator (front ++ back) =
      intercalate separator front ++ separator ++ intercalate separator back := by
  induction front with
  | nil => contradiction
  | cons first front ih =>
    rw [cons_append]
    cases front with
    | nil => rw [nil_append, intercalate_cons_of_ne_nil someBack, intercalate_singleton]
    | cons second front =>
      rw [intercalate_cons_of_ne_nil (append_ne_nil_of_left_ne_nil (cons_ne_nil _ _) _),
        ih (cons_ne_nil _ _), intercalate_cons_cons]
      simp only [append_assoc]

/-- Lists with a separator, one of which is made of three. -/
theorem intercalate_around (first : List (List α)) (front core back : List α)
    (others : List (List α)) :
    intercalate separator (first ++ (front ++ core ++ back) :: others) =
      intercalate separator (first ++ [front]) ++ core ++
        intercalate separator (back :: others) := by
  induction first with
  | nil =>
    cases others with
    | nil => simp only [nil_append, intercalate_singleton]
    | cons second others =>
      simp only [nil_append, intercalate_cons_cons, intercalate_singleton, append_assoc]
  | cons part first ih =>
    rw [cons_append, cons_append, intercalate_cons_of_ne_nil (by simp),
      intercalate_cons_of_ne_nil (by simp), ih]
    simp only [append_assoc]

/-- An item behind each separator is an item in front of each list but the first one. -/
theorem intercalate_concat (item : α) (first : List α) (others : List (List α)) :
    intercalate (separator ++ [item]) (first :: others) =
      intercalate separator (first :: others.map (item :: ·)) := by
  induction others generalizing first with
  | nil => rfl
  | cons second others ih =>
    rw [intercalate_cons_cons, ih, map_cons, intercalate_cons_cons, intercalate_cons_head]
    simp only [append_assoc, cons_append, nil_append]

/-- Lists with a separator are replaced item by item, and so is the separator. -/
theorem flatMap_intercalate (replace : α → List β) (lists : List (List α)) :
    (intercalate separator lists).flatMap replace =
      intercalate (separator.flatMap replace) (lists.map (·.flatMap replace)) := by
  induction lists with
  | nil => rfl
  | cons first rest ih =>
    cases rest with
    | nil => rw [intercalate_singleton, map_singleton, intercalate_singleton]
    | cons second rest =>
      rw [intercalate_cons_cons, flatMap_append, flatMap_append, ih]
      simp only [map_cons, intercalate_cons_cons]

end List

namespace String

/-- What the first of two strings begins with, both begin with. -/
theorem prefix_append_left {text before : String} (begins : text.toList <+: before.toList)
    (after : String) : text.toList <+: (before ++ after).toList := by
  rw [toList_append]
  exact begins.trans (List.prefix_append _ _)

/-- Strings with the same string in front of them. -/
theorem prefix_append_right {text other : String} (begins : text.toList <+: other.toList)
    (before : String) : (before ++ text).toList <+: (before ++ other).toList := by
  rw [toList_append, toList_append]
  exact (List.prefix_append_right_inj _).mpr begins

/-- What stands in the first of two strings stands in both. -/
theorem infix_append_left {text before : String} (inside : text.toList <:+: before.toList)
    (after : String) : text.toList <:+: (before ++ after).toList := by
  rw [toList_append]
  exact inside.trans (List.prefix_append _ _).isInfix

/-- What stands in the second of two strings stands in both. -/
theorem infix_append_right {text after : String} (inside : text.toList <:+: after.toList)
    (before : String) : text.toList <:+: (before ++ after).toList := by
  rw [toList_append]
  exact inside.trans (List.suffix_append _ _).isInfix

/-- Replacing every character by itself. -/
theorem map_id_fun : String.map id = id := funext fun _ => map_id

/-- The characters of two strings are replaced in each of them. -/
theorem map_append (replace : Char → Char) (before after : String) :
    (before ++ after).map replace = before.map replace ++ after.map replace := by
  simp only [← toList_inj, toList_map, toList_append, List.map_append]

/-- Characters are replaced one by one. -/
theorem map_ofList (replace : Char → Char) (chars : List Char) :
    (ofList chars).map replace = ofList (chars.map replace) := by
  simp only [← toList_inj, toList_map, toList_ofList]

end String

/-- An integer has characters. -/
theorem Int.repr_ne_empty (n : Int) : n.repr ≠ "" := by
  cases n with
  | ofNat n => exact Nat.repr_ne_empty
  | negSucc n => simp [Int.repr, String.append_eq_empty_iff]

/-- Only the numeral of zero begins with a zero. -/
theorem Nat.eq_zero_of_head?_toDigits {n : Nat} (leading : (toDigits 10 n).head? = some '0') :
    n = 0 := by
  induction n using Nat.strongRecOn with
  | ind n ih =>
    rw [toDigits_eq_if (by decide)] at leading
    split at leading
    · exact digitChar_eq_zero.mp (Option.some.inj leading)
    · rw [List.head?_append_of_ne_nil _ toDigits_ne_nil] at leading
      have zero := ih (n / 10) (by omega) leading
      omega
