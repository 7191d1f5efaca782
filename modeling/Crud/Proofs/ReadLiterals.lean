import Crud.Proofs.JsonNumber
import Crud.Proofs.Literal

/-!
# Reading literals

What a database reads where a literal stands. A text ends at the first single quote that is not
doubled, so it ends where the literal does, whatever characters it holds; bytes are read from pairs
of hexadecimal digits, and an integer from its decimal form. Apart from floating-point numbers, a
literal is read back as its value, so no two values have the same literal.
-/

namespace Crud

/-- The content of a text behind its opening quote, and what follows the quote that closes it. A
doubled quote is a quote of the content, a single one closes the text. -/
def takeQuoted : List Char → Option (List Char × List Char)
  | '\x27' :: '\x27' :: rest =>
    (takeQuoted rest).map fun (content, after) => ('\x27' :: content, after)
  | '\x27' :: rest => some ([], rest)
  | char :: rest => (takeQuoted rest).map fun (content, after) => (char :: content, after)
  | [] => none

/-- A text in quotes and what follows it. -/
def readText? : List Char → Option (String × List Char)
  | '\x27' :: rest => (takeQuoted rest).map fun (content, after) => (.ofList content, after)
  | _ => none

/-- The bytes of pairs of hexadecimal digits up to a quote, and what follows the quote. -/
def takeBytes : List Char → Option (List UInt8 × List Char)
  | '\x27' :: rest => some ([], rest)
  | high :: low :: rest => do
    let byte := 16 * (← Json.hexValue? high) + (← Json.hexValue? low)
    let (bytes, after) ← takeBytes rest
    some (.ofNat byte :: bytes, after)
  | _ => none

/-- Bytes between quotes behind an X, and what follows them. -/
def readBytes? : List Char → Option (List UInt8 × List Char)
  | 'X' :: '\x27' :: rest => takeBytes rest
  | _ => none

/-- The number that decimal digits stand for. -/
def readDigits? (digits : List Char) : Option Nat :=
  if digits ≠ [] ∧ digits.all Text.isDigit then some (digitsValue digits) else none

/-- The integer, unless 64 bits are too few for it. -/
def fit64? (integer : Int) : Option Int64 :=
  if Int64.minValue.toInt ≤ integer ∧ integer ≤ Int64.maxValue.toInt then some (.ofInt integer)
  else none

/-- An integer of 64 bits in decimal form. -/
def readInteger? : List Char → Option Int64
  | '-' :: digits => do fit64? (-(← readDigits? digits))
  | digits => do fit64? (← readDigits? digits)

/-- The value that a literal stands for; floating-point numbers are not read. -/
def readLiteral? (chars : List Char) : Option Value :=
  match chars with
  | ['N', 'U', 'L', 'L'] => some .null
  | ['T', 'R', 'U', 'E'] => some (.bool true)
  | ['F', 'A', 'L', 'S', 'E'] => some (.bool false)
  | '\x27' :: _ => (readText? chars).map fun (text, _) => .text text
  | 'X' :: _ => (readBytes? chars).map fun (bytes, _) => .bytes bytes
  | _ => (readInteger? chars).map .int

/-- A quote in front of another character closes the text. -/
theorem takeQuoted_quote {rest : List Char} (single : ∀ char ∈ rest.head?, char ≠ '\x27') :
    takeQuoted ('\x27' :: rest) = some ([], rest) := by
  cases rest with
  | nil => rfl
  | cons char rest =>
    rw [takeQuoted]
    intro more same
    exact single char rfl (List.cons.inj same).1

/-- Any other character belongs to the content. -/
theorem takeQuoted_char {char : Char} (plain : char ≠ '\x27') (rest : List Char) :
    takeQuoted (char :: rest) =
      (takeQuoted rest).map fun (content, after) => (char :: content, after) := by
  rw [takeQuoted]
  · exact fun _ same => absurd same plain
  · exact fun same => absurd same plain

/-- A content with its quotes doubled is read up to the single quote behind it. -/
theorem takeQuoted_double (content : List Char) {rest : List Char}
    (single : ∀ char ∈ rest.head?, char ≠ '\x27') :
    takeQuoted (Text.double '\x27' content ++ '\x27' :: rest) = some (content, rest) := by
  induction content with
  | nil => exact takeQuoted_quote single
  | cons char content ih =>
    unfold Text.double at ih ⊢
    rw [List.flatMap_cons, List.append_assoc]
    by_cases quote : char = '\x27'
    · subst quote
      rw [if_pos rfl, List.cons_append, List.cons_append, List.nil_append, takeQuoted, ih]
      rfl
    · rw [if_neg quote, List.singleton_append, takeQuoted_char quote, ih]
      rfl

/-- A text stands between single quotes, with its own single quotes doubled. -/
theorem toList_quoteText (text : String) :
    (Value.quoteText text).toList = '\x27' :: (Text.double '\x27' text.toList ++ ['\x27']) := by
  simp [Value.quoteText]

/-- The literal of a text is read as the text, up to where the literal ends. -/
theorem readText?_literal (text : String) {rest : List Char}
    (single : ∀ char ∈ rest.head?, char ≠ '\x27') :
    readText? ((Value.text text).literal.toList ++ rest) = some (text, rest) := by
  rw [Value.literal, toList_quoteText, List.cons_append, List.append_assoc, List.singleton_append,
    readText?, takeQuoted_double _ single, Option.map_some]
  exact congrArg (fun text => some (text, rest)) String.ofList_toList

/-- A hexadecimal digit has its value and is no quote. -/
theorem hexValue?_upperHexDigit : ∀ n < 16,
    Json.hexValue? (Value.hexDigit n) = some n ∧ Value.hexDigit n ≠ '\x27' := by
  decide

/-- The two digits of a byte are read as the byte. -/
theorem takeBytes_hexDigits (bytes : List UInt8) (rest : List Char) :
    takeBytes (Value.hexDigits bytes ++ '\x27' :: rest) = some (bytes, rest) := by
  induction bytes with
  | nil => rfl
  | cons byte bytes ih =>
    have small : byte.toNat < 256 := byte.toNat_lt
    obtain ⟨high, noQuote⟩ := hexValue?_upperHexDigit (byte.toNat / 16) (by omega)
    obtain ⟨low, -⟩ := hexValue?_upperHexDigit (byte.toNat % 16) (by omega)
    have whole : 16 * (byte.toNat / 16) + byte.toNat % 16 = byte.toNat := Nat.div_add_mod ..
    unfold Value.hexDigits at ih ⊢
    rw [List.flatMap_cons, List.append_assoc, List.cons_append, List.singleton_append, takeBytes,
      high, low, ih]
    · change some (UInt8.ofNat (16 * (byte.toNat / 16) + byte.toNat % 16) :: bytes, rest) = _
      rw [whole, UInt8.ofNat_toNat]
    · exact fun same => absurd same noQuote

/-- Bytes stand as hexadecimal digits between single quotes behind an X. -/
theorem toList_bytes (bytes : List UInt8) :
    (Value.bytes bytes).literal.toList =
      'X' :: '\x27' :: (Value.hexDigits bytes ++ ['\x27']) := by
  simp [Value.literal]

/-- The literal of bytes is read as the bytes, up to where the literal ends. -/
theorem readBytes?_literal (bytes : List UInt8) (rest : List Char) :
    readBytes? ((Value.bytes bytes).literal.toList ++ rest) = some (bytes, rest) := by
  rw [toList_bytes, List.cons_append, List.cons_append, List.append_assoc, List.singleton_append,
    readBytes?, takeBytes_hexDigits]

/-- A natural number is read back from its digits. -/
theorem readDigits?_toDigits (n : Nat) : readDigits? (Nat.toDigits 10 n) = some n := by
  have digits : (Nat.toDigits 10 n).all Text.isDigit = true :=
    List.all_eq_true.mpr fun _ listed => Json.isDigit_of_mem_toDigits listed
  rw [readDigits?, if_pos ⟨Nat.toDigits_ne_nil, digits⟩, Json.digitsValue_toDigits]

/-- An integer of 64 bits fits into 64 bits. -/
theorem fit64?_toInt (integer : Int64) : fit64? integer.toInt = some integer := by
  rw [fit64?, if_pos ⟨integer.minValue_le_toInt, integer.toInt_le⟩, Int64.ofInt_toInt]

/-- The literal of an integer is read as the integer. -/
theorem readInteger?_literal (integer : Int64) :
    readInteger? (Value.int integer).literal.toList = some integer := by
  rw [Value.literal, Int.toString_eq_repr, Int.repr_eq_if]
  by_cases natural : 0 ≤ integer.toInt
  · have magnitude : (integer.toInt.toNat : Int) = integer.toInt := Int.toNat_of_nonneg natural
    have noMinus (digits : List Char) : Nat.toDigits 10 integer.toInt.toNat ≠ '-' :: digits := by
      intro same
      have minus : '-' ∈ Nat.toDigits 10 integer.toInt.toNat := same ▸ List.mem_cons_self
      exact absurd (Json.isDigit_of_mem_toDigits minus) (by decide)
    rw [if_pos natural, Nat.toList_repr, readInteger?, readDigits?_toDigits]
    · exact (congrArg fit64? magnitude).trans (fit64?_toInt integer)
    · exact fun digits => noMinus digits
  · have magnitude : -((-integer.toInt).toNat : Int) = integer.toInt := by omega
    rw [if_neg natural, String.toList_append, Nat.toList_repr]
    change (do fit64? (-(← readDigits? (Nat.toDigits 10 (-integer.toInt).toNat)))) = _
    rw [readDigits?_toDigits]
    exact (congrArg fit64? magnitude).trans (fit64?_toInt integer)

/-- The value is a floating-point number. -/
def Value.isReal : Value → Bool
  | real _ => true
  | null | bool _ | int _ | text _ | bytes _ => false

/-- A literal that is no floating-point number is read back as its value. -/
theorem readLiteral?_literal {value : Value} (exact : value.isReal = false) :
    readLiteral? value.literal.toList = some value := by
  cases value with
  | null => rfl
  | bool value => cases value <;> rfl
  | int value =>
    have numeric : Json.Numeric (Value.int value).literal.toList := .toString_int value.toInt
    have read := readInteger?_literal value
    -- No other literal begins with a character of a number.
    have other {first : Char} {rest : List Char} (letter : Json.isNumberChar first = false)
        (begins : (Value.int value).literal.toList = first :: rest) : False := by
      have isNumber := numeric first (begins ▸ List.mem_cons_self)
      rw [letter] at isNumber
      contradiction
    unfold readLiteral?
    split
    case h_6 => rw [read, Option.map_some]
    all_goals
      rename_i begins
      exact (other (by decide) begins).elim
  | real => contradiction
  | text value =>
    have read : readText? ((Value.text value).literal.toList ++ []) = some (value, []) :=
      readText?_literal value nofun
    rw [List.append_nil] at read
    have begins : (Value.text value).literal.toList = _ := toList_quoteText value
    rw [begins] at read ⊢
    exact congrArg (Option.map _) read
  | bytes value =>
    have read := readBytes?_literal value []
    rw [List.append_nil] at read
    rw [toList_bytes] at read ⊢
    exact congrArg (Option.map _) read

/-- Literals can be neither broken out of nor taken for others. The literal of a text is read as
the text up to its end, whatever follows that is no quote; the literals of bytes and of integers are
read as the bytes and the integers; and different values that are no floating-point numbers have
different literals. -/
theorem Value.literal_read :
    (∀ (text : String) (rest : List Char), (∀ char ∈ rest.head?, char ≠ '\x27') →
      readText? ((Value.text text).literal.toList ++ rest) = some (text, rest)) ∧
    (∀ (bytes : List UInt8) (rest : List Char),
      readBytes? ((Value.bytes bytes).literal.toList ++ rest) = some (bytes, rest)) ∧
    (∀ integer : Int64, readInteger? (Value.int integer).literal.toList = some integer) ∧
    ∀ left right : Value, left.isReal = false → right.isReal = false →
      left.literal = right.literal → left = right := by
  refine ⟨fun text rest => readText?_literal text, readBytes?_literal, readInteger?_literal,
    fun left right leftExact rightExact same => ?_⟩
  have read := readLiteral?_literal leftExact
  rw [same, readLiteral?_literal rightExact] at read
  exact (Option.some.inj read).symm

/-- A text that looks like the end of its own literal, in front of another condition. -/
theorem sampleLiterals_read :
    readText? ((Value.text "' OR ''='").literal.toList ++ " AND b = 1".toList) =
      some ("' OR ''='", " AND b = 1".toList) ∧
    (Value.text "NULL").literal ≠ Value.null.literal := by
  obtain ⟨texts, -, -, injective⟩ := Value.literal_read
  have space : " AND b = 1".toList.head? = some ' ' := by decide
  have apart : ∀ char ∈ " AND b = 1".toList.head?, char ≠ '\x27' := by
    rw [space]
    rintro _ ⟨⟩
    decide
  refine ⟨texts _ _ apart, fun same => ?_⟩
  cases injective (.text "NULL") .null rfl rfl same

end Crud
