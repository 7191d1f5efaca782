import Crud.Text.CaseTable

/-!
# Upper and lower case

Lower case by the full mapping of the standard: the dotted capital I becomes an i and a combining
dot, and the capital sigma becomes the final small sigma at the end of a word. Upper case is the
full mapping for every character whose upper case is ASCII; that is all that recognising an ASCII
keyword asks for.
-/

namespace Crud.Text

/-- The character lies in one of the code point ranges. -/
def inRows (rows : List (Nat × Nat)) (char : Char) : Bool :=
  rows.any fun (first, last) => first ≤ char.toNat && char.toNat ≤ last

/-- The row covers the code point. -/
def LowerRow.covers (row : LowerRow) (code : Nat) : Bool :=
  row.first ≤ code && code ≤ row.last && (code - row.first) % row.stride == 0

/-- The small letters of a character outside any word. -/
def lowerChar (char : Char) : List Char :=
  if char.toNat < 0x80 then [char.toLower]
  else if char.toNat = 0x130 then ['i', Char.ofNat 0x307]
  else match lowerRows.find? (·.covers char.toNat) with
    | some row => [Char.ofNat (char.toNat + row.shift).toNat]
    | none => [char]

/-- The nearest character that is not passed over has case. -/
def nextHasCase (chars : List Char) : Bool :=
  match chars.dropWhile (inRows caseIgnorableRows) with
  | [] => false
  | char :: _ => inRows casedRows char

/-- The small letters of a text whose earlier characters, nearest first, are given. A capital
sigma is final when a letter with case stands before it and none after it. -/
def lowerFrom (before : List Char) : List Char → List Char
  | [] => []
  | char :: rest =>
    (if char.toNat = 0x3A3 then
      [Char.ofNat (if nextHasCase before && !nextHasCase rest then 0x3C2 else 0x3C3)]
    else lowerChar char) ++ lowerFrom (char :: before) rest

/-- The text in lower case. -/
def lower (text : String) : String := .ofList (lowerFrom [] text.toList)

/-- The upper case of a character where it is ASCII; any other character stands for itself. -/
def upperChar (char : Char) : List Char :=
  if char.toNat < 0x80 then [char.toUpper]
  else match char.toNat with
    | 0xDF => ['S', 'S']
    | 0x131 => ['I']
    | 0x17F => ['S']
    | 0xFB00 => ['F', 'F']
    | 0xFB01 => ['F', 'I']
    | 0xFB02 => ['F', 'L']
    | 0xFB03 => ['F', 'F', 'I']
    | 0xFB04 => ['F', 'F', 'L']
    | 0xFB05 => ['S', 'T']
    | 0xFB06 => ['S', 'T']
    | _ => [char]

/-- The text in upper case. -/
def upper (text : String) : String := .ofList (text.toList.flatMap upperChar)

end Crud.Text
