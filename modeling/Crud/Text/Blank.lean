import Crud.Text.Basic

/-!
# Blank characters

The characters of the White_Space property, removing them at both ends of a text, and the words
between them. A zero-width space, a byte order mark and the separators below the space are not
blank.
-/

namespace Crud.Text

/-- The code point ranges of the White_Space property. -/
def blankRanges : List (Nat × Nat) :=
  [(0x9, 0xD), (0x20, 0x20), (0x85, 0x85), (0xA0, 0xA0), (0x1680, 0x1680), (0x2000, 0x200A),
    (0x2028, 0x2029), (0x202F, 0x202F), (0x205F, 0x205F), (0x3000, 0x3000)]

/-- The character has the White_Space property. -/
def isBlank (char : Char) : Bool :=
  blankRanges.any fun (first, last) => first ≤ char.toNat && char.toNat ≤ last

/-- Every white space character of the core library is blank. -/
theorem isBlank_of_isWhitespace {char : Char} (white : char.isWhitespace) : isBlank char := by
  simp only [Char.isWhitespace, Bool.or_eq_true, decide_eq_true_eq] at white
  rcases white with ((rfl | rfl) | rfl) | rfl <;> decide

/-- The text without blanks at either end. -/
def trim (text : String) : String := .ofList (stripEnds isBlank text.toList)

/-- The maximal runs of characters that are not blank. -/
def wordsOf : List Char → List (List Char)
  | [] => []
  | char :: rest =>
    if isBlank char then wordsOf rest
    else match rest, wordsOf rest with
      | next :: _, word :: more =>
        if isBlank next then [char] :: word :: more else (char :: word) :: more
      | _, more => [char] :: more

/-- The words of a text. -/
def words (text : String) : List String := (wordsOf text.toList).map .ofList

/-- The text, unless it is empty once trimmed. -/
def trimmed? (text : String) : Option String :=
  if trim text = "" then none else some (trim text)

end Crud.Text
