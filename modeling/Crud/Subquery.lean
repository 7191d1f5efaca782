import Crud.Text.Blank

/-!
# Subqueries

A subquery stands in one pair of parentheses. The text of a subquery may come with blanks and
parentheses around it; they are removed as long as the first parenthesis closes with the last
character.
-/

namespace Crud.Subquery

/-- With that many parentheses open, the last one of them closes with the last character. A closing
parenthesis too many counts as the last one. -/
def closesAtEnd : Nat → List Char → Bool
  | _, [] => false
  | depth, char :: rest =>
    if char = '(' then closesAtEnd (depth + 1) rest
    else if char = ')' then
      if depth ≤ 1 then rest.isEmpty else closesAtEnd (depth - 1) rest
    else closesAtEnd depth rest

/-- The text is enclosed by a pair of parentheses. -/
def enclosed : List Char → Bool
  | '(' :: rest => closesAtEnd 1 rest
  | _ => false

/-- The text without blanks and enclosing parentheses. -/
def strip (chars : List Char) : List Char :=
  let trimmed := Text.stripEnds Text.isBlank chars
  if enclosed trimmed then strip trimmed.tail.dropLast else trimmed
termination_by chars.length
decreasing_by
  rename_i closed
  have shorter := Text.length_stripEnds_le Text.isBlank chars
  cases found : Text.stripEnds Text.isBlank chars with
  | nil => simp [trimmed, found, enclosed] at closed
  | cons head rest =>
    rw [found, List.length_cons] at shorter
    simp only [List.tail_cons, List.length_dropLast]
    omega

/-- The text in one pair of parentheses. -/
def write (text : String) : String := "(" ++ .ofList (strip text.toList) ++ ")"

end Crud.Subquery
