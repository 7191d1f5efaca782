import Crud.Text.Blank

/-!
# Identifiers

How columns, tables and aliases are written. A name of letters, digits and underscores is put in
the quotes of a dialect. In a longer text every `table.column` and `table.*` is found and quoted
part by part, the table with its prefix; the rest of the text stays as it is. A column text may be
a list: commas outside quotes and parentheses separate its pieces.
-/

namespace Crud

/-- A character of a bare name. -/
def isNameChar (char : Char) : Bool := Text.isLetter char || Text.isDigit char || char == '_'

/-- Where a scan stands: inside a quote or not, and inside how many parentheses. -/
structure ScanState where
  /-- The quote that is open. -/
  quote : Option Char := none
  /-- The number of open parentheses. -/
  depth : Nat := 0
deriving DecidableEq, Repr

namespace ScanState

/-- Outside quotes and parentheses. -/
def outside : ScanState := {}

/-- The state after a character. A closing parenthesis too many is passed over. -/
def step (state : ScanState) (char : Char) : ScanState :=
  match state.quote with
  | some quote => if char = quote then { state with quote := none } else state
  | none =>
    if char = '\x27' ∨ char = '"' ∨ char = '\x60' then { state with quote := some char }
    else if char = '(' then { state with depth := state.depth + 1 }
    else if char = ')' then { state with depth := state.depth - 1 }
    else state

/-- The state after a text. -/
def scan (state : ScanState) (chars : List Char) : ScanState := chars.foldl step state

end ScanState

/-- The parts of a text between the commas outside quotes and parentheses, from a state on. -/
def splitCommasFrom (state : ScanState) : List Char → List (List Char)
  | [] => [[]]
  | char :: rest =>
    if char = ',' ∧ state = .outside then [] :: splitCommasFrom .outside rest
    else match splitCommasFrom (state.step char) rest with
      | [] => [[char]]
      | part :: parts => (char :: part) :: parts

/-- The parts of a text between the commas outside quotes and parentheses. -/
def splitCommas (chars : List Char) : List (List Char) := splitCommasFrom .outside chars

/-- The pieces of a column list, without the blanks around them. -/
def columnPieces (chars : List Char) : List (List Char) :=
  (splitCommas chars).map (Text.stripEnds Text.isBlank)

/-- A maximal bare name in a text, or a character between names. -/
inductive Lexeme where
  /-- A bare name. -/
  | name (chars : List Char)
  /-- Any other character. -/
  | other (char : Char)
deriving DecidableEq, Repr

namespace Lexeme

/-- The characters of a lexeme. -/
def chars : Lexeme → List Char
  | name chars => chars
  | other char => [char]

/-- The lexemes of a text. -/
def ofChars : List Char → List Lexeme
  | [] => []
  | char :: rest =>
    if isNameChar char then
      match ofChars rest with
      | name chars :: lexemes => name (char :: chars) :: lexemes
      | lexemes => name [char] :: lexemes
    else other char :: ofChars rest

end Lexeme

/-- How names are quoted and which prefix tables get. -/
structure Quoter where
  /-- The character on both sides of a name. -/
  quote : Char
  /-- What is put before the name of a table. -/
  tablePrefix : Option String := none
deriving DecidableEq, Repr

namespace Quoter

/-- A name in quotes. -/
def quoted (quoter : Quoter) (name : List Char) : List Char :=
  quoter.quote :: name ++ [quoter.quote]

/-- A table name with its prefix, in quotes. -/
def quotedTable (quoter : Quoter) (name : List Char) : List Char :=
  quoter.quoted ((quoter.tablePrefix.getD "").toList ++ name)

/-- Lexemes with every table and column quoted that have a point between them. A number with a
fraction has no letter and stays as it is. -/
def quoteQualified (quoter : Quoter) : List Lexeme → List Char
  | .name table :: .other '.' :: .name column :: rest =>
    (if table.any Text.isLetter || column.any Text.isLetter then
      quoter.quotedTable table ++ '.' :: quoter.quoted column
    else table ++ '.' :: column) ++ quoter.quoteQualified rest
  | .name table :: .other '.' :: .other '*' :: rest =>
    (if table.any Text.isLetter then quoter.quotedTable table else table) ++
      '.' :: '*' :: quoter.quoteQualified rest
  | lexeme :: rest => lexeme.chars ++ quoter.quoteQualified rest
  | [] => []

/-- A piece of a column list. -/
def piece (quoter : Quoter) (chars : List Char) : List Char :=
  match Lexeme.ofChars chars with
  | [.name name] => quoter.quoted name
  | lexemes => quoter.quoteQualified lexemes

/-- A column or a list of columns. -/
def column (quoter : Quoter) (text : String) : String :=
  Text.join ", " ((columnPieces text.toList).map fun chars => .ofList (quoter.piece chars))

/-- A column on the left of a comparison. A list of columns stands in parentheses. -/
def comparedColumn (quoter : Quoter) (text : String) : String :=
  if 1 < (splitCommas text.toList).length then "(" ++ quoter.column text ++ ")"
  else quoter.column text

/-- A table. A text that is no bare name is written like a column. -/
def table (quoter : Quoter) (text : String) : String :=
  match Lexeme.ofChars (Text.trim text).toList with
  | [.name name] => .ofList (quoter.quotedTable name)
  | _ => quoter.column (Text.trim text)

/-- An alias, which never has a prefix. -/
def aliasName (quoter : Quoter) (text : String) : String :=
  match Lexeme.ofChars (Text.trim text).toList with
  | [.name name] => .ofList (quoter.quoted name)
  | _ => Text.trim text

end Quoter

end Crud
