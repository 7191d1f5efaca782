import Crud.Json.Number

/-!
# Reading JSON

A reader of the strict grammar: no comments, no trailing commas, no other blanks than space, tab,
line feed and carriage return, and nothing after the value. Well-formed parts without a value
become `unreadable`. An object with such a key has no value either.

The reader takes an explicit bound on its steps. Every step but the one from a list to its first
element consumes a character, so twice the length of the text is enough.
-/

namespace Crud.Json

/-- The text without the blanks at its front. -/
def skipBlanks (chars : List Char) : List Char :=
  chars.dropWhile fun char => char = ' ' || char = '\t' || char = '\n' || char = '\r'

/-- One unit of a string: a character, or the number of a four-digit escape. -/
inductive Unit16 where
  /-- A character as it stands or by a one-letter escape. -/
  | char (value : Char)
  /-- The number of a four-digit escape. -/
  | code (value : Nat)

/-- The number of a hexadecimal digit. -/
def hexValue? (char : Char) : Option Nat :=
  if '0' ≤ char ∧ char ≤ '9' then some (char.toNat - 48)
  else if 'a' ≤ char ∧ char ≤ 'f' then some (char.toNat - 87)
  else if 'A' ≤ char ∧ char ≤ 'F' then some (char.toNat - 55)
  else none

/-- The character of a one-letter escape. -/
def shortEscape? : Char → Option Char
  | '"' => some '"'
  | '\\' => some '\\'
  | '/' => some '/'
  | 'b' => some '\x08'
  | 'f' => some '\x0c'
  | 'n' => some '\n'
  | 'r' => some '\r'
  | 't' => some '\t'
  | _ => none

/-- The units of a string after its opening quote, and what follows its closing quote. -/
def takeUnits : List Char → Option (List Unit16 × List Char)
  | [] => none
  | '"' :: rest => some ([], rest)
  | '\\' :: 'u' :: a :: b :: c :: d :: rest => do
    let code := 4096 * (← hexValue? a) + 256 * (← hexValue? b) + 16 * (← hexValue? c) +
      (← hexValue? d)
    let (units, after) ← takeUnits rest
    some (.code code :: units, after)
  | '\\' :: letter :: rest => do
    let char ← shortEscape? letter
    let (units, after) ← takeUnits rest
    some (.char char :: units, after)
  | char :: rest =>
    if char.toNat < 0x20 ∨ char = '\\' then none
    else do
      let (units, after) ← takeUnits rest
      some (.char char :: units, after)

/-- The characters of a string's units. A high surrogate has to be followed by a low one, and a
low one has to follow a high one. -/
def joinUnits : List Unit16 → Option (List Char)
  | [] => some []
  | .char char :: rest => (joinUnits rest).map (char :: ·)
  | .code high :: rest =>
    if 0xD800 ≤ high ∧ high < 0xDC00 then
      match rest with
      | .code low :: rest =>
        if 0xDC00 ≤ low ∧ low < 0xE000 then
          (joinUnits rest).map
            (Char.ofNat (0x10000 + (high - 0xD800) * 0x400 + (low - 0xDC00)) :: ·)
        else none
      | _ => none
    else if 0xDC00 ≤ high ∧ high < 0xE000 then none
    else (joinUnits rest).map (Char.ofNat high :: ·)

/-- A string after its opening quote: its value, when it has one, and what follows it. -/
def takeString (chars : List Char) : Option (Option String × List Char) :=
  (takeUnits chars).map fun (units, rest) => ((joinUnits units).map .ofList, rest)

/-- A string value; one without a value is unreadable. -/
def ofString? : Option String → Json
  | some value => .string value
  | none => .unreadable

/-- An object of members whose keys may lack a value. -/
def ofMembers (members : List (Option String × Json)) : Json :=
  match members.mapM fun (key, value) => key.map (·, value) with
  | some members => .object members
  | none => .unreadable

mutual

/-- A value at the front of a text, after any blanks. -/
def takeValue : Nat → List Char → Option (Json × List Char)
  | 0, _ => none
  | steps + 1, chars =>
    match skipBlanks chars with
    | 'n' :: 'u' :: 'l' :: 'l' :: rest => some (.null, rest)
    | 't' :: 'r' :: 'u' :: 'e' :: rest => some (.bool true, rest)
    | 'f' :: 'a' :: 'l' :: 's' :: 'e' :: rest => some (.bool false, rest)
    | '"' :: rest => (takeString rest).map fun (value, rest) => (ofString? value, rest)
    | '[' :: rest =>
      match skipBlanks rest with
      | ']' :: rest => some (.array [], rest)
      | rest => (takeItems steps rest).map fun (items, rest) => (.array items, rest)
    | '\x7b' :: rest =>
      match skipBlanks rest with
      | '\x7d' :: rest => some (.object [], rest)
      | rest => (takeMembers steps rest).map fun (members, rest) => (ofMembers members, rest)
    | chars => (takeNumber chars).map fun (number, rest) => (number.toJson, rest)

/-- The items of a non-empty array and its closing bracket. -/
def takeItems : Nat → List Char → Option (List Json × List Char)
  | 0, _ => none
  | steps + 1, chars => do
    let (item, rest) ← takeValue steps chars
    match skipBlanks rest with
    | ',' :: rest =>
      let (items, rest) ← takeItems steps rest
      some (item :: items, rest)
    | ']' :: rest => some ([item], rest)
    | _ => none

/-- The members of a non-empty object and its closing brace. -/
def takeMembers : Nat → List Char → Option (List (Option String × Json) × List Char)
  | 0, _ => none
  | steps + 1, chars =>
    match skipBlanks chars with
    | '"' :: rest => do
      let (key, rest) ← takeString rest
      match skipBlanks rest with
      | ':' :: rest =>
        let (value, rest) ← takeValue steps rest
        match skipBlanks rest with
        | ',' :: rest =>
          let (members, rest) ← takeMembers steps rest
          some ((key, value) :: members, rest)
        | '\x7d' :: rest => some ([(key, value)], rest)
        | _ => none
      | _ => none
    | _ => none

end

/-- The value of a whole text. -/
def ofText? (text : String) : Option Json := do
  let (value, rest) ← takeValue (2 * text.toList.length + 2) text.toList
  if (skipBlanks rest).isEmpty then some value else none

end Crud.Json
