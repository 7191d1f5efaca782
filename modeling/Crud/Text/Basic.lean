/-!
# Text operations

Joining texts, removing characters at both ends and doubling a character. Scanning is written
over lists of characters, so that each operation can be reasoned about by structural induction;
the functions on `String` only convert.
-/

namespace Crud.Text

/-- The texts in order, with the separator between neighbours. -/
def join (separator : String) : List String → String
  | [] => ""
  | [only] => only
  | first :: second :: rest => first ++ separator ++ join separator (second :: rest)

/-- The characters without those at either end that satisfy the test. -/
def stripEnds (test : Char → Bool) (chars : List Char) : List Char :=
  ((chars.dropWhile test).reverse.dropWhile test).reverse

/-- Removing characters at the ends makes no text longer. -/
theorem length_stripEnds_le (test : Char → Bool) (chars : List Char) :
    (stripEnds test chars).length ≤ chars.length := by
  have front := (List.dropWhile_sublist test (l := chars)).length_le
  have back := (List.dropWhile_sublist test (l := (chars.dropWhile test).reverse)).length_le
  simp only [stripEnds, List.length_reverse] at back ⊢
  omega

/-- The characters with every occurrence of one of them written twice. -/
def double (mark : Char) (chars : List Char) : List Char :=
  chars.flatMap fun char => if char = mark then [char, char] else [char]

/-- The parts of a character list between the occurrences of a separator; there is one part more
than there are separators. -/
def splitOn (separator : Char) : List Char → List (List Char)
  | [] => [[]]
  | char :: rest =>
    if char = separator then [] :: splitOn separator rest
    else match splitOn separator rest with
      | [] => [[char]]
      | part :: parts => (char :: part) :: parts

/-- A letter of the English alphabet. -/
def isLetter (char : Char) : Bool :=
  ('a' ≤ char && char ≤ 'z') || ('A' ≤ char && char ≤ 'Z')

/-- A decimal digit. -/
def isDigit (char : Char) : Bool := '0' ≤ char && char ≤ '9'

end Crud.Text
