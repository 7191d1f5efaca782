import Crud.Value

/-!
# Fragments

A fragment is a piece of statement text with markers for values of its own: `%s`, `%d` and `%f`
are markers, `%%` is a percent sign, and any other percent sign stands for itself. A fragment is
shown in three ways, all from the same pieces: with the literals of its values, with a placeholder
for every marker, or as the number of its markers.
-/

namespace Crud

/-- A piece of statement text with markers, and the values for them. -/
structure Fragment where
  /-- The text with its markers. -/
  text : String
  /-- The values, first marker first. -/
  values : List Value
deriving DecidableEq, Repr

namespace Fragment

/-- A character of a fragment, or one of its markers. -/
inductive Piece where
  /-- A character that stands for itself. -/
  | char (value : Char)
  /-- A marker with its letter. -/
  | marker (letter : Char)
deriving DecidableEq, Repr

/-- The letters of markers. -/
def isMarkerLetter (char : Char) : Bool := char = 's' || char = 'd' || char = 'f'

/-- The pieces of a text. The character after a percent sign that starts neither a marker nor a
doubled percent sign is looked at again. -/
def piecesOf : List Char → List Piece
  | [] => []
  | '%' :: '%' :: rest => .char '%' :: piecesOf rest
  | '%' :: letter :: rest =>
    if isMarkerLetter letter then .marker letter :: piecesOf rest
    else .char '%' :: piecesOf (letter :: rest)
  | char :: rest => .char char :: piecesOf rest

/-- The pieces of a fragment. -/
def pieces (fragment : Fragment) : List Piece := piecesOf fragment.text.toList

/-- The text of pieces with literals for the markers, as long as there are values. -/
def fill : List Piece → List Value → List Char
  | [], _ => []
  | .char char :: rest, values => char :: fill rest values
  | .marker _ :: rest, value :: values => value.literal.toList ++ fill rest values
  | .marker letter :: rest, [] => '%' :: letter :: fill rest []

/-- The text of pieces with the same text for every marker. -/
def mask (placeholder : String) : List Piece → List Char
  | [] => []
  | .char char :: rest => char :: mask placeholder rest
  | .marker _ :: rest => placeholder.toList ++ mask placeholder rest

/-- The fragment with its values written as literals. A marker without a value stays as it is, and
a value without a marker is left out. -/
def inline (fragment : Fragment) : String := .ofList (fill fragment.pieces fragment.values)

/-- The fragment with a placeholder for every marker. -/
def masked (fragment : Fragment) (placeholder : String) : String :=
  .ofList (mask placeholder fragment.pieces)

/-- The number of markers. -/
def markerCount (fragment : Fragment) : Nat :=
  fragment.pieces.countP fun
    | .marker _ => true
    | .char _ => false

end Fragment

end Crud
