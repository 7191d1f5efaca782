import Crud.Proofs.JsonNumber

/-!
# The text of a JSON value

A JSON value that has been written is read back. Every part of the value has to have a text of its
own: an integer fits into 64 bits, and a double is read back when it stands by itself.
-/

namespace Crud.Json

/-- The unit that a character is written as. -/
def unitOf (char : Char) : Unit16 :=
  if char.toNat < 0x20 ∧ char ∉ ['\x08', '\t', '\n', '\x0c', '\r'] then .code char.toNat
  else .char char

/-- The units of characters are joined to the characters. -/
theorem joinUnits_unitOf (chars : List Char) : joinUnits (chars.map unitOf) = some chars := by
  induction chars with
  | nil => rfl
  | cons char chars ih =>
    rw [List.map_cons, unitOf]
    split
    next control =>
      have low : ¬(0xD800 ≤ char.toNat ∧ char.toNat < 0xDC00) := by omega
      have high : ¬(0xDC00 ≤ char.toNat ∧ char.toNat < 0xE000) := by omega
      rw [joinUnits.eq_def]
      simp only [if_neg low, if_neg high, ih, Option.map_some, Char.ofNat_toNat]
    next => rw [joinUnits, ih, Option.map_some]

/-- A hexadecimal digit is read back. -/
theorem hexValue?_hexDigit : ∀ n < 16, hexValue? (hexDigit n) = some n := by decide

/-- The string goes on after one unit. -/
def consUnit (unit : Unit16) (taken : Option (List Unit16 × List Char)) :
    Option (List Unit16 × List Char) :=
  taken.map fun (units, after) => (unit :: units, after)

/-- A short escape is read as its character. -/
theorem takeUnits_short {letter char : Char} (known : shortEscape? letter = some char)
    (rest : List Char) :
    takeUnits ('\\' :: letter :: rest) = consUnit (.char char) (takeUnits rest) := by
  rw [takeUnits.eq_4, known]
  · cases takeUnits rest <;> rfl
  · rintro a b c d more rfl -
    contradiction

/-- An escape with a code below 32 is read as the code. -/
theorem takeUnits_code {n : Nat} (small : n < 0x20) (rest : List Char) :
    takeUnits ('\\' :: 'u' :: '0' :: '0' :: hexDigit (n / 16) :: hexDigit (n % 16) :: rest) =
      consUnit (.code n) (takeUnits rest) := by
  have zero : hexValue? '0' = some 0 := by decide
  have sum : 4096 * 0 + 256 * 0 + 16 * (n / 16) + n % 16 = n := by omega
  rw [takeUnits.eq_3, zero, hexValue?_hexDigit (n / 16) (by omega),
    hexValue?_hexDigit (n % 16) (by omega)]
  simp only [Option.bind_eq_bind, Option.bind_some, sum]
  cases takeUnits rest <;> rfl

/-- A character that needs no escape is read as it is. -/
theorem takeUnits_plain {char : Char} (notQuote : char ≠ '"') (notBackslash : char ≠ '\\')
    (printed : ¬char.toNat < 0x20) (rest : List Char) :
    takeUnits (char :: rest) = consUnit (.char char) (takeUnits rest) := by
  rw [takeUnits.eq_5, if_neg (not_or.mpr ⟨printed, notBackslash⟩)]
  · cases takeUnits rest <;> rfl
  · exact notQuote
  · exact fun _ _ _ _ _ same _ => notBackslash same
  · exact fun _ _ same _ => notBackslash same

/-- A character is read back from what it is written as. -/
theorem takeUnits_escapeChar (char : Char) (rest : List Char) :
    takeUnits (escapeChar char ++ rest) = consUnit (unitOf char) (takeUnits rest) := by
  unfold escapeChar
  split
  next quote =>
    subst quote
    exact takeUnits_short rfl rest
  next notQuote =>
  split
  next backslash =>
    subst backslash
    exact takeUnits_short rfl rest
  next notBackslash =>
  split
  next control =>
    split
    · obtain rfl : char = '\x08' := Char.toNat_inj.mp ‹_›
      exact takeUnits_short rfl rest
    · obtain rfl : char = '\t' := Char.toNat_inj.mp ‹_›
      exact takeUnits_short rfl rest
    · obtain rfl : char = '\n' := Char.toNat_inj.mp ‹_›
      exact takeUnits_short rfl rest
    · obtain rfl : char = '\x0c' := Char.toNat_inj.mp ‹_›
      exact takeUnits_short rfl rest
    · obtain rfl : char = '\r' := Char.toNat_inj.mp ‹_›
      exact takeUnits_short rfl rest
    next notBackspace notTab notLineFeed notFormFeed notReturn =>
      have unnamed : char ∉ ['\x08', '\t', '\n', '\x0c', '\r'] := by
        intro listed
        simp only [List.mem_cons, List.not_mem_nil, or_false] at listed
        rcases listed with rfl | rfl | rfl | rfl | rfl
        · exact notBackspace rfl
        · exact notTab rfl
        · exact notLineFeed rfl
        · exact notFormFeed rfl
        · exact notReturn rfl
      rw [unitOf, if_pos ⟨control, unnamed⟩]
      exact takeUnits_code control rest
  next printed =>
    rw [unitOf, if_neg fun control => printed control.1]
    exact takeUnits_plain notQuote notBackslash printed rest

/-- A string that has been written is read back. -/
theorem takeString_quote (value : String) (rest : List Char) :
    takeString (value.toList.flatMap escapeChar ++ '"' :: rest) = some (some value, rest) := by
  have units (chars : List Char) :
      takeUnits (chars.flatMap escapeChar ++ '"' :: rest) = some (chars.map unitOf, rest) := by
    induction chars with
    | nil => rw [List.flatMap_nil, List.nil_append, takeUnits, List.map_nil]
    | cons char chars ih =>
      rw [List.flatMap_cons, List.append_assoc, takeUnits_escapeChar, ih]
      rfl
  simp only [takeString, units, Option.map_some, joinUnits_unitOf, String.ofList_toList]

/-- Every part of the value has a text that stands for it. -/
inductive Printable : Json → Prop where
  /-- A null. -/
  | null : Printable .null
  /-- A truth value. -/
  | bool (value : Bool) : Printable (.bool value)
  /-- An integer of 64 bits. -/
  | integer {value : Int} (fits : IntegerFits value) : Printable (.integer value)
  /-- A finite double that is read back by itself. -/
  | double {x : Double} (finite : x.isFinite = true)
      (readBack : ofText? (text (.double x)) = some (.double x)) : Printable (.double x)
  /-- A string. -/
  | string (value : String) : Printable (.string value)
  /-- An array of such values. -/
  | array {items : List Json} (printable : ∀ item ∈ items, Printable item) :
      Printable (.array items)
  /-- An object with such values. -/
  | object {members : List (String × Json)}
      (printable : ∀ member ∈ members, Printable member.2) : Printable (.object members)

/-- A bracket behind an item ends the items. -/
theorem takeItems_last {steps : Nat} {chars rest : List Char} {item : Json}
    (read : takeValue steps chars = some (item, ']' :: rest)) :
    takeItems (steps + 1) chars = some ([item], rest) := by
  have closing : skipBlanks (']' :: rest) = ']' :: rest := skipBlanks_cons (by decide) rest
  simp only [takeItems, read, closing, Option.bind_eq_bind, Option.bind_some]

/-- A comma behind an item goes on to the next items. -/
theorem takeItems_next {steps : Nat} {chars more rest : List Char} {item : Json}
    {items : List Json} (read : takeValue steps chars = some (item, ',' :: more))
    (others : takeItems steps more = some (items, rest)) :
    takeItems (steps + 1) chars = some (item :: items, rest) := by
  have comma : skipBlanks (',' :: more) = ',' :: more := skipBlanks_cons (by decide) more
  simp only [takeItems, read, comma, others, Option.bind_eq_bind, Option.bind_some]

/-- A bracket that is not closed at once begins items. -/
theorem takeValue_bracket {first : Char} (solid : isBlank first = false) (notClosing : first ≠ ']')
    (rest : List Char) (steps : Nat) :
    takeValue (steps + 1) ('[' :: first :: rest) =
      (takeItems steps (first :: rest)).map fun (items, rest) => (.array items, rest) := by
  simp only [takeValue, skipBlanks_cons (show isBlank '[' = false by decide), skipBlanks_cons solid]
  split
  next same => exact absurd (List.cons.inj same).1 notClosing
  next => rfl

/-- The text of a string stands between quotes, with its characters escaped. -/
theorem quote_append (value : String) (rest : List Char) :
    quote value ++ rest = '"' :: (value.toList.flatMap escapeChar ++ '"' :: rest) := by
  rw [quote, List.cons_append, List.cons_append, List.append_assoc]
  rfl

/-- A brace behind a member ends the members. -/
theorem takeMembers_last (key : String) {steps : Nat} {chars rest : List Char} {value : Json}
    (read : takeValue steps chars = some (value, '\x7d' :: rest)) :
    takeMembers (steps + 1) (quote key ++ ':' :: chars) = some ([(some key, value)], rest) := by
  have colon : skipBlanks (':' :: chars) = ':' :: chars := skipBlanks_cons (by decide) chars
  have closing : skipBlanks ('\x7d' :: rest) = '\x7d' :: rest := skipBlanks_cons (by decide) rest
  rw [quote_append, takeMembers, skipBlanks_cons (by decide)]
  simp only [takeString_quote, colon, read, closing, Option.bind_eq_bind, Option.bind_some]

/-- A comma behind a member goes on to the next members. -/
theorem takeMembers_next (key : String) {steps : Nat} {chars more rest : List Char} {value : Json}
    {members : List (Option String × Json)}
    (read : takeValue steps chars = some (value, ',' :: more))
    (others : takeMembers steps more = some (members, rest)) :
    takeMembers (steps + 1) (quote key ++ ':' :: chars) =
      some ((some key, value) :: members, rest) := by
  have colon : skipBlanks (':' :: chars) = ':' :: chars := skipBlanks_cons (by decide) chars
  have comma : skipBlanks (',' :: more) = ',' :: more := skipBlanks_cons (by decide) more
  rw [quote_append, takeMembers, skipBlanks_cons (by decide)]
  simp only [takeString_quote, colon, read, comma, others, Option.bind_eq_bind, Option.bind_some]

/-- Members that all have a key are those of an object. -/
theorem ofMembers_some (members : List (String × Json)) :
    ofMembers (members.map fun member => (some member.1, member.2)) = .object members := by
  have back : ∀ member ∈ members, (some member.1).map (·, member.2) = some member :=
    fun _ _ => rfl
  have all := List.mapM_map_eq_some (fun member : String × Json => (some member.1, member.2))
    (fun member => member.1.map (·, member.2)) back
  unfold ofMembers
  split
  next found same =>
    obtain rfl := Option.some.inj (same.symm.trans all)
    rfl
  next same => exact nomatch same.symm.trans all

/-- A brace before a key begins members. -/
theorem takeValue_brace (key : String) (rest : List Char) (steps : Nat) :
    takeValue (steps + 1) ('\x7b' :: (quote key ++ rest)) =
      (takeMembers steps (quote key ++ rest)).map fun (members, rest) =>
        (ofMembers members, rest) := by
  have quoted : skipBlanks (quote key ++ rest) = quote key ++ rest := by
    rw [quote_append, skipBlanks_cons (by decide)]
  simp only [takeValue, skipBlanks_cons (show isBlank '\x7b' = false by decide), quoted]
  rw [quote_append]
  rfl

/-- A string is read back. -/
theorem takeValue_string (value : String) (steps : Nat) (rest : List Char) :
    takeValue (steps + 1) (write (.string value) ++ rest) = some (.string value, rest) := by
  have written : write (.string value) ++ rest =
      '"' :: (value.toList.flatMap escapeChar ++ '"' :: rest) := by simp [write, quote]
  rw [written, takeValue, skipBlanks_cons (by decide)]
  simp only [takeString_quote, Option.map_some, ofString?]

/-- The text of the value is read back, whatever follows it. The reader needs at most two steps for
each character of the text. -/
structure ReadsBack (json : Json) : Prop where
  /-- The text of the value begins with a character that is no blank and no closing bracket. -/
  start : ∃ first more, json.write = first :: more ∧ isBlank first = false ∧ first ≠ ']'
  /-- The value is read with what follows its text left. -/
  read : ∀ {steps : Nat} {rest : List Char}, 2 * json.write.length ≤ steps → EndsNumber rest →
    takeValue steps (json.write ++ rest) = some (json, rest)

namespace ReadsBack

/-- One more step is at hand for a text that is not empty. -/
theorem of_steps {json : Json}
    (start : ∃ first more, json.write = first :: more ∧ isBlank first = false ∧ first ≠ ']')
    (read : ∀ {steps : Nat} {rest : List Char}, 2 * json.write.length ≤ steps + 1 →
      EndsNumber rest → takeValue (steps + 1) (json.write ++ rest) = some (json, rest)) :
    ReadsBack json where
  start := start
  read := by
    intro steps rest enough ends
    cases steps with
    | succ steps => exact read enough ends
    | zero =>
      obtain ⟨first, more, written, -⟩ := start
      simp [written] at enough

/-- A null is read back. -/
theorem null : ReadsBack .null := of_steps ⟨_, _, rfl, by decide, by decide⟩ fun _ _ => rfl

/-- A truth value is read back. -/
theorem bool (value : Bool) : ReadsBack (.bool value) := by
  cases value with
  | false => exact of_steps ⟨_, _, rfl, by decide, by decide⟩ fun _ _ => rfl
  | true => exact of_steps ⟨_, _, rfl, by decide, by decide⟩ fun _ _ => rfl

/-- A string is read back before whatever follows. -/
theorem string (value : String) : ReadsBack (.string value) :=
  of_steps ⟨_, _, rfl, by decide, by decide⟩ fun {steps rest} _ _ =>
    takeValue_string value steps rest

/-- The text of a number. -/
theorem of_number {json : Json} (numeric : Numeric json.write)
    (taken : ∀ {rest}, EndsNumber rest →
      ∃ number, takeNumber (json.write ++ rest) = some (number, rest) ∧ number.toJson = json) :
    ReadsBack json := by
  cases written : json.write with
  | nil =>
    obtain ⟨number, found, -⟩ := taken endsNumber_nil
    rw [written] at found
    contradiction
  | cons first more =>
    have isNumber : isNumberChar first = true := by
      rw [written] at numeric
      exact numeric first List.mem_cons_self
    have notBracket : first ≠ ']' := by
      rintro rfl
      contradiction
    refine of_steps ⟨first, more, written, isBlank_eq_false_of_isNumberChar isNumber, notBracket⟩
      fun {steps rest} _ ends => ?_
    obtain ⟨number, found, same⟩ := taken ends
    rw [written] at found ⊢
    rw [List.cons_append, takeValue_of_isNumberChar isNumber, ← List.cons_append, found]
    simp only [Option.map_some, same]

/-- An integer of 64 bits is read back. -/
theorem integer {value : Int} (fits : IntegerFits value) : ReadsBack (.integer value) := by
  refine of_number ?_ fun ends => ?_
  · rw [write]
    exact .toString_int value
  · rw [write]
    exact takeNumber_integer fits ends

/-- A finite double is read back behind other text if it is read back by itself. -/
theorem double {x : Double} (finite : x.isFinite = true)
    (readBack : ofText? (text (.double x)) = some (.double x)) : ReadsBack (.double x) := by
  refine of_number ?_ fun ends => ?_
  · rw [write, writeDouble, if_pos finite]
    exact numeric_write numberStyle x
  · rw [write]
    exact takeNumber_double finite readBack ends

/-- Items are read back up to their bracket. -/
theorem takeItems {item : Json} {items : List Json} (itemBack : ReadsBack item)
    (itemsBack : ∀ item ∈ items, ReadsBack item) {steps : Nat} (rest : List Char)
    (enough : 2 * (item.write ++ writeItems items).length + 1 ≤ steps) :
    takeItems steps (item.write ++ (writeItems items ++ rest)) = some (item :: items, rest) := by
  obtain ⟨steps, rfl⟩ := Nat.exists_eq_add_of_le' (Nat.le_trans (Nat.le_add_left 1 _) enough)
  induction items generalizing item steps with
  | nil =>
    simp only [writeItems, List.length_append, List.length_cons] at enough
    have enoughItem : 2 * item.write.length ≤ steps := by omega
    exact takeItems_last (itemBack.read enoughItem (endsNumber_cons (by decide) rest))
  | cons next items ih =>
    rw [List.forall_mem_cons] at itemsBack
    simp only [writeItems, List.cons_append, List.length_append, List.length_cons] at enough
    have enoughItem : 2 * item.write.length ≤ steps := by omega
    obtain ⟨steps, rfl⟩ := Nat.exists_eq_add_of_le' (show 1 ≤ steps by omega)
    have enoughItems : 2 * (next.write ++ writeItems items).length + 1 ≤ steps + 1 := by
      rw [List.length_append]
      omega
    have others := ih itemsBack.1 itemsBack.2 steps enoughItems
    rw [writeItems, List.cons_append, List.cons_append, List.append_assoc]
    exact takeItems_next (itemBack.read enoughItem (endsNumber_cons (by decide) _)) others

/-- An array is read back if its items are. -/
theorem array {items : List Json} (itemsBack : ∀ item ∈ items, ReadsBack item) :
    ReadsBack (.array items) := by
  cases items with
  | nil => exact of_steps ⟨_, _, rfl, by decide, by decide⟩ fun _ _ => rfl
  | cons item items =>
    refine of_steps ⟨_, _, rfl, by decide, by decide⟩ fun {steps rest} enough _ => ?_
    rw [List.forall_mem_cons] at itemsBack
    simp only [write, List.cons_append, List.length_cons] at enough
    have enoughItems : 2 * (item.write ++ writeItems items).length + 1 ≤ steps := by omega
    have read := takeItems itemsBack.1 itemsBack.2 rest enoughItems
    obtain ⟨first, more, written, solid, notClosing⟩ := itemsBack.1.start
    simp only [write, List.cons_append, List.append_assoc]
    rw [written, List.cons_append] at read ⊢
    rw [takeValue_bracket solid notClosing, read]
    rfl

/-- Members are read back up to their brace. -/
theorem takeMembers (key : String) {value : Json} {members : List (String × Json)}
    (valueBack : ReadsBack value) (valuesBack : ∀ member ∈ members, ReadsBack member.2)
    {steps : Nat} (rest : List Char)
    (enough : 2 * (value.write ++ writeMembers members).length + 1 ≤ steps) :
    takeMembers steps (quote key ++ ':' :: (value.write ++ (writeMembers members ++ rest))) =
      some ((some key, value) :: members.map fun member => (some member.1, member.2), rest) := by
  obtain ⟨steps, rfl⟩ := Nat.exists_eq_add_of_le' (Nat.le_trans (Nat.le_add_left 1 _) enough)
  induction members generalizing key value steps with
  | nil =>
    simp only [writeMembers, List.length_append, List.length_cons] at enough
    have enoughValue : 2 * value.write.length ≤ steps := by omega
    exact takeMembers_last key (valueBack.read enoughValue (endsNumber_cons (by decide) rest))
  | cons next members ih =>
    rw [List.forall_mem_cons] at valuesBack
    simp only [writeMembers, List.cons_append, List.length_append, List.length_cons] at enough
    have enoughValue : 2 * value.write.length ≤ steps := by omega
    obtain ⟨steps, rfl⟩ := Nat.exists_eq_add_of_le' (show 1 ≤ steps by omega)
    have enoughMembers : 2 * (next.2.write ++ writeMembers members).length + 1 ≤ steps + 1 := by
      rw [List.length_append]
      omega
    have others := ih next.1 valuesBack.1 valuesBack.2 steps enoughMembers
    have ends : EndsNumber (',' :: (quote next.1 ++ ':' ::
        (next.2.write ++ (writeMembers members ++ rest)))) := endsNumber_cons (by decide) _
    have read := valueBack.read enoughValue ends
    simp only [writeMembers, List.cons_append, List.append_assoc]
    exact takeMembers_next key read others

/-- An object is read back if the values of its members are. -/
theorem object {members : List (String × Json)}
    (valuesBack : ∀ member ∈ members, ReadsBack member.2) : ReadsBack (.object members) := by
  cases members with
  | nil => exact of_steps ⟨_, _, rfl, by decide, by decide⟩ fun _ _ => rfl
  | cons first members =>
    refine of_steps ⟨_, _, rfl, by decide, by decide⟩ fun {steps rest} enough _ => ?_
    rw [List.forall_mem_cons] at valuesBack
    simp only [write, List.cons_append, List.length_cons, List.length_append] at enough
    have enoughMembers : 2 * (first.2.write ++ writeMembers members).length + 1 ≤ steps := by
      rw [List.length_append]
      omega
    have read := takeMembers first.1 valuesBack.1 valuesBack.2 rest enoughMembers
    simp only [write, List.cons_append, List.append_assoc]
    rw [takeValue_brace, read]
    exact congrArg (fun object => some (object, rest)) (ofMembers_some (first :: members))

end ReadsBack

/-- A value whose parts have texts of their own is read back. -/
theorem Printable.readsBack {json : Json} (printable : Printable json) : ReadsBack json := by
  induction printable with
  | null => exact .null
  | bool value => exact .bool value
  | integer fits => exact .integer fits
  | double finite readBack => exact .double finite readBack
  | string value => exact .string value
  | array _ ih => exact .array ih
  | object _ ih => exact .object ih

/-- A JSON value is read back from its text. -/
theorem Printable.ofText?_text {json : Json} (printable : Printable json) :
    ofText? json.text = some json := by
  have enough : 2 * json.write.length ≤ 2 * json.write.length + 2 := Nat.le_add_right _ _
  have read := printable.readsBack.read enough endsNumber_nil
  rw [List.append_nil] at read
  simp only [ofText?, text, String.toList_ofList, read, Option.bind_eq_bind, Option.bind_some]
  rfl

mutual

/-- How deep arrays and objects are nested. -/
def depth : Json → Nat
  | .array items => itemsDepth items + 1
  | .object members => membersDepth members + 1
  | _ => 0

/-- The depth of the deepest item of an array. -/
def itemsDepth : List Json → Nat
  | [] => 0
  | item :: rest => max (depth item) (itemsDepth rest)

/-- The depth of the deepest member of an object. -/
def membersDepth : List (String × Json) → Nat
  | [] => 0
  | (_, value) :: rest => max (depth value) (membersDepth rest)

end

/-- Items are as deep as the deepest of them. -/
theorem itemsDepth_le {items : List Json} {levels : Nat} :
    itemsDepth items ≤ levels ↔ ∀ item ∈ items, item.depth ≤ levels := by
  induction items with
  | nil => simp [itemsDepth]
  | cons item items ih => rw [itemsDepth, Nat.max_le, ih, List.forall_mem_cons]

/-- Members are as deep as the deepest of their values. -/
theorem membersDepth_le {members : List (String × Json)} {levels : Nat} :
    membersDepth members ≤ levels ↔ ∀ member ∈ members, member.2.depth ≤ levels := by
  induction members with
  | nil => simp [membersDepth]
  | cons member members ih => rw [membersDepth, Nat.max_le, ih, List.forall_mem_cons]

/-- An item is less deep than its array. -/
theorem depth_item_le {items : List Json} {levels : Nat} (shallow : (array items).depth ≤ levels) :
    ∀ item ∈ items, item.depth ≤ levels - 1 := by
  rw [depth] at shallow
  exact itemsDepth_le.mp (Nat.le_sub_of_add_le shallow)

/-- The value of a member is less deep than its object. -/
theorem depth_member_le {members : List (String × Json)} {levels : Nat}
    (shallow : (object members).depth ≤ levels) :
    ∀ member ∈ members, member.2.depth ≤ levels - 1 := by
  rw [depth] at shallow
  exact membersDepth_le.mp (Nat.le_sub_of_add_le shallow)

/-- Items fit into so many levels if each of them does. -/
theorem itemsFit_iff {levels : Nat} {items : List Json} :
    itemsFit levels items = true ↔ ∀ item ∈ items, fits levels item = true := by
  induction items with
  | nil => simp [itemsFit]
  | cons item items ih => rw [itemsFit, Bool.and_eq_true, ih, List.forall_mem_cons]

/-- Members fit into so many levels if each of their values does. -/
theorem membersFit_iff {levels : Nat} {members : List (String × Json)} :
    membersFit levels members = true ↔ ∀ member ∈ members, fits levels member.2 = true := by
  induction members with
  | nil => simp [membersFit]
  | cons member members ih => rw [membersFit, Bool.and_eq_true, ih, List.forall_mem_cons]

/-- A value that can be printed fits into as many levels as it has. -/
theorem Printable.fits {json : Json} (printable : Printable json) {levels : Nat}
    (shallow : json.depth ≤ levels) : json.fits levels = true := by
  induction printable generalizing levels with
  | null | bool | integer | double | string => cases levels <;> rfl
  | @array items _ ih =>
    have itemsShallow := depth_item_le shallow
    rw [depth] at shallow
    obtain ⟨levels, rfl⟩ := Nat.exists_eq_add_of_le' (Nat.le_trans (Nat.le_add_left 1 _) shallow)
    rw [Json.fits, itemsFit_iff]
    exact fun item listed => ih item listed (itemsShallow item listed)
  | @object members _ ih =>
    have membersShallow := depth_member_le shallow
    rw [depth] at shallow
    obtain ⟨levels, rfl⟩ := Nat.exists_eq_add_of_le' (Nat.le_trans (Nat.le_add_left 1 _) shallow)
    rw [Json.fits, membersFit_iff]
    exact fun member listed => ih member listed (membersShallow member listed)

end Crud.Json
