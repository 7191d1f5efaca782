import Crud.Json.Basic
import Crud.Number.Style

/-!
# Writing JSON

The compact text of a value, without any blank, and the indented text with one item or member per
line. A string escapes the quote, the backslash and the control characters below the space;
everything else stands as it is. A double that is no real number is written as null.
-/

namespace Crud.Json

/-- Doubles are positional from 0.00001 up to sixteen digits before the point, and a whole one
keeps a fraction digit. -/
def numberStyle : NumberStyle where
  tie := .toEven
  positional place := -4 ≤ place && place ≤ 16
  wholeFraction := true

/-- The lower-case hexadecimal digit of a number below sixteen. -/
def hexDigit (n : Nat) : Char := Char.ofNat (if n < 10 then 48 + n else 87 + n)

/-- A character of a string as it is written. -/
def escapeChar (char : Char) : List Char :=
  if char = '"' then ['\\', '"']
  else if char = '\\' then ['\\', '\\']
  else if char.toNat < 0x20 then
    match char.toNat with
    | 0x8 => ['\\', 'b']
    | 0x9 => ['\\', 't']
    | 0xA => ['\\', 'n']
    | 0xC => ['\\', 'f']
    | 0xD => ['\\', 'r']
    | code => ['\\', 'u', '0', '0', hexDigit (code / 16), hexDigit (code % 16)]
  else [char]

/-- A string in quotes. -/
def quote (value : String) : List Char :=
  '"' :: value.toList.flatMap escapeChar ++ ['"']

/-- A double, or null when it is no real number. -/
def writeDouble (value : Double) : List Char :=
  if value.isFinite then (numberStyle.write value).toList else "null".toList

mutual

/-- The compact text of a value. -/
def write : Json → List Char
  | .null => "null".toList
  | .bool true => "true".toList
  | .bool false => "false".toList
  | .integer value => (toString value).toList
  | .double value => writeDouble value
  | .string value => quote value
  | .array [] => ['[', ']']
  | .array (item :: rest) => '[' :: write item ++ writeItems rest
  | .object [] => ['\x7b', '\x7d']
  | .object ((key, value) :: rest) =>
    '\x7b' :: quote key ++ ':' :: write value ++ writeMembers rest
  | .unreadable => "null".toList

/-- The items after the first one and the closing bracket. -/
def writeItems : List Json → List Char
  | [] => [']']
  | item :: rest => ',' :: write item ++ writeItems rest

/-- The members after the first one and the closing brace. -/
def writeMembers : List (String × Json) → List Char
  | [] => ['\x7d']
  | (key, value) :: rest => ',' :: quote key ++ ':' :: write value ++ writeMembers rest

end

/-- The compact text of a value. -/
def text (value : Json) : String := .ofList value.write

/-- A new line with the indentation of a level. -/
def newLine (level : Nat) : List Char := '\n' :: List.replicate (2 * level) ' '

mutual

/-- The indented text of a value at a level. -/
def writeIndented (level : Nat) : Json → List Char
  | .array [] => ['[', ']']
  | .array (item :: rest) =>
    '[' :: newLine (level + 1) ++ writeIndented (level + 1) item ++
      writeItemsIndented level rest
  | .object [] => ['\x7b', '\x7d']
  | .object ((key, value) :: rest) =>
    '\x7b' :: newLine (level + 1) ++ quote key ++ ':' :: ' ' :: writeIndented (level + 1) value ++
      writeMembersIndented level rest
  | .null => "null".toList
  | .bool true => "true".toList
  | .bool false => "false".toList
  | .integer value => (toString value).toList
  | .double value => writeDouble value
  | .string value => quote value
  | .unreadable => "null".toList

/-- The items after the first one and the closing bracket, one per line. -/
def writeItemsIndented (level : Nat) : List Json → List Char
  | [] => newLine level ++ [']']
  | item :: rest =>
    ',' :: newLine (level + 1) ++ writeIndented (level + 1) item ++
      writeItemsIndented level rest

/-- The members after the first one and the closing brace, one per line. -/
def writeMembersIndented (level : Nat) : List (String × Json) → List Char
  | [] => newLine level ++ ['\x7d']
  | (key, value) :: rest =>
    ',' :: newLine (level + 1) ++ quote key ++ ':' :: ' ' :: writeIndented (level + 1) value ++
      writeMembersIndented level rest

end

/-- The indented text of a value, with one item or member per line. -/
def indentedText (value : Json) : String := .ofList (value.writeIndented 0)

end Crud.Json
