import Crud.Proofs.JsonText
import Crud.Proofs.Literal

/-!
# The shape of what is read

Whatever is read from the text of a JSON value has the shape of the value: literals, strings, items
and members as they were, and a number at most where there was one. How doubles are written and
rounded does not matter for that, so it holds of every value.
-/

namespace Crud.Json

mutual

/-- The value with null in place of its numbers and of parts that have no value. -/
def shape : Json → Json
  | .null | .integer _ | .double _ | .unreadable => .null
  | .bool value => .bool value
  | .string value => .string value
  | .array items => .array (itemsShape items)
  | .object members => .object (membersShape members)

/-- The items of an array without their numbers. -/
def itemsShape : List Json → List Json
  | [] => []
  | item :: rest => shape item :: itemsShape rest

/-- The members of an object without their numbers. -/
def membersShape : List (String × Json) → List (String × Json)
  | [] => []
  | (key, value) :: rest => (key, shape value) :: membersShape rest

end

/-- The members have the same keys, and their values lose their numbers. -/
theorem membersShape_eq (members : List (String × Json)) :
    membersShape members = members.map (Prod.map id shape) := by
  induction members with
  | nil => rfl
  | cons member members ih => rw [membersShape, ih, List.map_cons, Prod.map, id]

/-- Members of one shape have the same keys. -/
theorem keys_of_membersShape {members others : List (String × Json)}
    (same : membersShape others = membersShape members) :
    others.map Prod.fst = members.map Prod.fst := by
  have keys (members : List (String × Json)) :
      (membersShape members).map Prod.fst = members.map Prod.fst := by
    rw [membersShape_eq, List.map_map]
    rfl
  rw [← keys, same, keys]

/-- The member of a key keeps its key. -/
theorem lookup_membersShape (key : String) (members : List (String × Json)) :
    (membersShape members).lookup key = (members.lookup key).map shape := by
  induction members with
  | nil => rfl
  | cons member members ih =>
    rw [membersShape, List.lookup_cons, List.lookup_cons, ih]
    cases key == member.1 <;> rfl

/-- Only an object has the shape of an object. -/
theorem eq_object_of_shape {json : Json} {members : List (String × Json)}
    (same : json.shape = (object members).shape) :
    ∃ others, json = object others ∧ membersShape others = membersShape members := by
  cases json with
  | object others =>
    simp only [shape, object.injEq] at same
    exact ⟨others, rfl, same⟩
  | _ =>
    simp only [shape] at same
    cases same

/-- A number has no shape. -/
theorem NumberText.shape_toJson (number : NumberText) : number.toJson.shape = .null := by
  unfold toJson
  cases number.toDouble
  all_goals
    dsimp only
    split
    · rfl
    split
    · split <;> rfl
    · split <;> rfl

/-- What is taken off the front of a text can stand in a number. -/
def TakesNumeric (chars after : List Char) : Prop :=
  ∃ taken, Numeric taken ∧ chars = taken ++ after

namespace TakesNumeric

variable {chars middle after : List Char}

/-- Nothing can be taken off. -/
theorem refl (chars : List Char) : TakesNumeric chars chars := ⟨[], nofun, rfl⟩

/-- One more character of a number can be taken off before the others. -/
theorem cons {char : Char} (isNumber : isNumberChar char = true)
    (takes : TakesNumeric chars after) : TakesNumeric (char :: chars) after := by
  obtain ⟨taken, numeric, rfl⟩ := takes
  exact ⟨char :: taken, List.forall_mem_cons.mpr ⟨isNumber, numeric⟩, rfl⟩

/-- Characters of numbers can be taken off in two turns. -/
theorem trans (front : TakesNumeric chars middle) (back : TakesNumeric middle after) :
    TakesNumeric chars after := by
  obtain ⟨first, firstNumeric, rfl⟩ := front
  obtain ⟨second, secondNumeric, rfl⟩ := back
  exact ⟨first ++ second, firstNumeric.append secondNumeric, (List.append_assoc ..).symm⟩

/-- Digits are taken off. -/
theorem digits (chars : List Char) : TakesNumeric chars (takeDigits chars).2 := by
  refine ⟨(takeDigits chars).1, fun char listed => ?_, List.takeWhile_append_dropWhile.symm⟩
  have digit : Text.isDigit char = true := List.all_eq_true.mp List.all_takeWhile char listed
  simp [isNumberChar, continuesNumber, digit]

/-- A sign is taken off. -/
theorem sign (chars : List Char) : TakesNumeric chars (takeSign chars).2 := by
  unfold takeSign
  split
  · exact (refl _).cons (by decide)
  · exact (refl _).cons (by decide)
  · exact refl _

/-- A fraction is taken off. -/
theorem fraction {found : Option (List Char)} (taken : takeFraction chars = some (found, after)) :
    TakesNumeric chars after := by
  unfold takeFraction at taken
  split at taken
  next rest =>
    dsimp only at taken
    split at taken
    · cases taken
    · cases taken
      exact (digits rest).cons (by decide)
  next =>
    cases taken
    exact refl _

/-- A power is taken off. -/
theorem power {found : Option Int} (taken : takePower chars = some (found, after)) :
    TakesNumeric chars after := by
  unfold takePower at taken
  split at taken
  next =>
    cases taken
    exact refl _
  next mark rest =>
    split at taken
    next isMark =>
      dsimp only at taken
      split at taken
      · cases taken
      · cases taken
        have isNumber : isNumberChar mark = true := by
          rcases isMark with rfl | rfl <;> decide
        exact ((sign rest).trans (digits _)).cons isNumber
    next =>
      cases taken
      exact refl _

/-- A magnitude is taken off. -/
theorem magnitude {negative : Bool} {number : NumberText}
    (taken : takeMagnitude negative chars = some (number, after)) : TakesNumeric chars after := by
  unfold takeMagnitude at taken
  dsimp only at taken
  split at taken
  · cases taken
  · obtain ⟨⟨found, middle⟩, isFraction, taken⟩ := Option.bind_eq_some_iff.mp taken
    obtain ⟨⟨power, last⟩, isPower, taken⟩ := Option.bind_eq_some_iff.mp taken
    cases taken
    exact (digits chars).trans ((fraction isFraction).trans (.power isPower))

/-- A number is taken off. -/
theorem number {found : NumberText} (taken : takeNumber chars = some (found, after)) :
    TakesNumeric chars after := by
  by_cases minus : ∃ rest, chars = '-' :: rest
  · obtain ⟨rest, rfl⟩ := minus
    exact (magnitude ((takeNumber_minus rest).symm.trans taken)).cons (by decide)
  · rw [takeNumber_plain fun rest same => minus ⟨rest, same⟩] at taken
    exact magnitude taken

end TakesNumeric

/-- The text does not start with a part of a number. -/
def StartsNoNumber (chars : List Char) : Prop := ∀ char ∈ chars.head?, isNumberChar char = false

/-- No number starts at the end of a text. -/
theorem startsNoNumber_nil : StartsNoNumber [] := by
  intro char first
  cases first

/-- No number starts with a character that is not one of a number. -/
theorem startsNoNumber_cons {char : Char} (plain : isNumberChar char = false) (rest : List Char) :
    StartsNoNumber (char :: rest) := by
  intro first isFirst
  obtain rfl := Option.mem_some.mp isFirst
  exact plain

/-- A number takes all of a text that can stand in it, if no part of a number follows the text and
none stays behind. -/
theorem TakesNumeric.eq_of_stops {written rest after : List Char}
    (takes : TakesNumeric (written ++ rest) after) (numeric : Numeric written)
    (ends : StartsNoNumber rest) (stops : StartsNoNumber (skipBlanks after)) : after = rest := by
  obtain ⟨taken, takenNumeric, whole⟩ := takes
  obtain ⟨more, rfl, rfl⟩ | ⟨left, rfl, rfl⟩ := List.append_eq_append_iff.mp whole
  · cases more with
    | nil => rfl
    | cons char more =>
      have isNumber := takenNumeric char (List.mem_append_right _ List.mem_cons_self)
      rw [ends char rfl] at isNumber
      contradiction
  · cases left with
    | nil => rfl
    | cons char left =>
      have isNumber := numeric char (List.mem_append_right _ List.mem_cons_self)
      rw [List.cons_append, skipBlanks_cons (isBlank_eq_false_of_isNumberChar isNumber)] at stops
      rw [stops char rfl] at isNumber
      contradiction

/-- Whatever is read where the text of the value stands ends with that text and has the shape of the
value, if no part of a number follows the text and none stays behind. -/
structure KeepsShape (json : Json) : Prop where
  /-- The text of the value begins with a character that is no blank and no closing bracket. -/
  start : ∃ first more, json.write = first :: more ∧ isBlank first = false ∧ first ≠ ']'
  /-- Whatever is read there ends with the text and has the shape. -/
  read : ∀ {steps : Nat} {rest after : List Char} {value : Json}, StartsNoNumber rest →
    takeValue steps (json.write ++ rest) = some (value, after) →
    StartsNoNumber (skipBlanks after) → after = rest ∧ value.shape = json.shape

/-- Items are read one by one, with a comma between them and a bracket behind the last. -/
theorem takeItems_eq_some {steps : Nat} {chars after : List Char} {items : List Json}
    (taken : takeItems steps chars = some (items, after)) :
    ∃ (fewer : Nat) (item : Json) (middle : List Char),
      takeValue fewer chars = some (item, middle) ∧
      ((skipBlanks middle = ']' :: after ∧ items = [item]) ∨
        ∃ more others, skipBlanks middle = ',' :: more ∧
          takeItems fewer more = some (others, after) ∧ items = item :: others) := by
  cases steps with
  | zero => cases taken
  | succ steps =>
    rw [takeItems] at taken
    obtain ⟨⟨item, middle⟩, first, taken⟩ := Option.bind_eq_some_iff.mp taken
    refine ⟨steps, item, middle, first, ?_⟩
    dsimp only at taken
    split at taken
    next more comma =>
      obtain ⟨⟨others, last⟩, isOthers, taken⟩ := Option.bind_eq_some_iff.mp taken
      cases taken
      exact .inr ⟨more, others, comma, isOthers, rfl⟩
    next closing =>
      cases taken
      exact .inl ⟨closing, rfl⟩
    next => cases taken

/-- Members are read one by one, with a comma between them and a brace behind the last. -/
theorem takeMembers_eq_some {key : String} {steps : Nat} {chars after : List Char}
    {members : List (Option String × Json)}
    (taken : takeMembers steps (quote key ++ ':' :: chars) = some (members, after)) :
    ∃ (fewer : Nat) (value : Json) (middle : List Char),
      takeValue fewer chars = some (value, middle) ∧
      ((skipBlanks middle = '\x7d' :: after ∧ members = [(some key, value)]) ∨
        ∃ more others, skipBlanks middle = ',' :: more ∧
          takeMembers fewer more = some (others, after) ∧
          members = (some key, value) :: others) := by
  cases steps with
  | zero => cases taken
  | succ steps =>
    have colon : skipBlanks (':' :: chars) = ':' :: chars := skipBlanks_cons (by decide) chars
    rw [quote_append, takeMembers, skipBlanks_cons (by decide)] at taken
    simp only [takeString_quote, colon, Option.bind_eq_bind, Option.bind_some] at taken
    obtain ⟨⟨value, middle⟩, first, taken⟩ := Option.bind_eq_some_iff.mp taken
    refine ⟨steps, value, middle, first, ?_⟩
    dsimp only at taken
    split at taken
    next more comma =>
      obtain ⟨⟨others, last⟩, isOthers, taken⟩ := Option.bind_eq_some_iff.mp taken
      cases taken
      exact .inr ⟨more, others, comma, isOthers, rfl⟩
    next closing =>
      cases taken
      exact .inl ⟨closing, rfl⟩
    next => cases taken

namespace KeepsShape

/-- A value whose text is always read as one value of its shape. -/
theorem of_takeValue {json found : Json}
    (start : ∃ first more, json.write = first :: more ∧ isBlank first = false ∧ first ≠ ']')
    (back : ∀ steps rest, takeValue (steps + 1) (json.write ++ rest) = some (found, rest))
    (same : found.shape = json.shape) : KeepsShape json where
  start := start
  read := by
    intro steps rest after value _ taken _
    cases steps with
    | zero => cases taken
    | succ steps =>
      rw [back] at taken
      cases taken
      exact ⟨rfl, same⟩

/-- What is written as null and has no shape. -/
theorem of_null {json : Json} (written : json.write = "null".toList)
    (plain : json.shape = .null) : KeepsShape json := by
  have back (steps : Nat) (rest : List Char) :
      takeValue (steps + 1) (json.write ++ rest) = some (.null, rest) := by
    rw [written]
    rfl
  exact of_takeValue ⟨'n', ['u', 'l', 'l'], written, by decide, by decide⟩ back plain.symm

/-- The text of a number. -/
theorem of_numeric {json : Json} (numeric : Numeric json.write) (some : json.write ≠ [])
    (plain : json.shape = .null) : KeepsShape json := by
  obtain ⟨first, more, written⟩ := List.exists_cons_of_ne_nil some
  have isNumber : isNumberChar first = true :=
    numeric first (by rw [written]; exact List.mem_cons_self)
  refine ⟨⟨first, more, written, isBlank_eq_false_of_isNumberChar isNumber, ?_⟩, ?_⟩
  · rintro rfl
    contradiction
  · intro steps rest after value ends taken stops
    cases steps with
    | zero => cases taken
    | succ steps =>
      rw [written, List.cons_append, takeValue_of_isNumberChar isNumber, ← List.cons_append,
        ← written] at taken
      obtain ⟨⟨number, last⟩, isTaken, same⟩ := Option.map_eq_some_iff.mp taken
      cases same
      exact ⟨(TakesNumeric.number isTaken).eq_of_stops numeric ends stops,
        number.shape_toJson.trans plain.symm⟩

/-- A value before a comma or a closing bracket or brace is read up to that character. -/
theorem read_before {json value : Json} (keeps : KeepsShape json) {last found : Char}
    (lastEnds : isNumberChar last = false ∧ isBlank last = false)
    (foundEnds : isNumberChar found = false) {steps : Nat} {rest middle more : List Char}
    (taken : takeValue steps (json.write ++ last :: rest) = some (value, middle))
    (stands : skipBlanks middle = found :: more) :
    found = last ∧ more = rest ∧ value.shape = json.shape := by
  have stops : StartsNoNumber (skipBlanks middle) := by
    rw [stands]
    exact startsNoNumber_cons foundEnds more
  obtain ⟨rfl, same⟩ := keeps.read (startsNoNumber_cons lastEnds.1 rest) taken stops
  rw [skipBlanks_cons lastEnds.2] at stands
  cases stands
  exact ⟨rfl, rfl, same⟩

/-- Items are read up to their bracket with the shapes they have. -/
theorem takeItems {item : Json} {items : List Json} (itemKeeps : KeepsShape item)
    (itemsKeep : ∀ item ∈ items, KeepsShape item) {steps : Nat} {rest after : List Char}
    {found : List Json}
    (taken : takeItems steps (item.write ++ (writeItems items ++ rest)) = some (found, after)) :
    after = rest ∧ itemsShape found = itemsShape (item :: items) := by
  induction items generalizing item steps found with
  | nil =>
    obtain ⟨fewer, value, middle, first, ⟨stands, rfl⟩ | ⟨more, others, stands, -, -⟩⟩ :=
      takeItems_eq_some taken
    · obtain ⟨-, rfl, same⟩ := itemKeeps.read_before (by decide) (by decide) first stands
      exact ⟨rfl, congrArg ([·]) same⟩
    · obtain ⟨differ, -⟩ := itemKeeps.read_before (by decide) (by decide) first stands
      contradiction
  | cons next items ih =>
    rw [List.forall_mem_cons] at itemsKeep
    rw [writeItems, List.cons_append, List.cons_append, List.append_assoc] at taken
    obtain ⟨fewer, value, middle, first, ⟨stands, -⟩ | ⟨more, others, stands, read, rfl⟩⟩ :=
      takeItems_eq_some taken
    · obtain ⟨differ, -⟩ := itemKeeps.read_before (by decide) (by decide) first stands
      contradiction
    · obtain ⟨-, rfl, same⟩ := itemKeeps.read_before (by decide) (by decide) first stands
      obtain ⟨end_, sames⟩ := ih itemsKeep.1 itemsKeep.2 read
      exact ⟨end_, by rw [itemsShape, sames, same, ← itemsShape]⟩

/-- Members are read up to their brace with their keys and the shapes of their values. -/
theorem takeMembers (key : String) {value : Json} {members : List (String × Json)}
    (valueKeeps : KeepsShape value) (valuesKeep : ∀ member ∈ members, KeepsShape member.2)
    {steps : Nat} {rest after : List Char} {found : List (Option String × Json)}
    (taken : takeMembers steps
      (quote key ++ ':' :: (value.write ++ (writeMembers members ++ rest))) =
        some (found, after)) :
    after = rest ∧ ∃ others : List (String × Json),
      found = others.map (fun member => (some member.1, member.2)) ∧
      membersShape others = membersShape ((key, value) :: members) := by
  induction members generalizing key value steps found with
  | nil =>
    obtain ⟨fewer, json, middle, first, ⟨stands, rfl⟩ | ⟨more, others, stands, -, -⟩⟩ :=
      takeMembers_eq_some taken
    · obtain ⟨-, rfl, same⟩ := valueKeeps.read_before (by decide) (by decide) first stands
      exact ⟨rfl, [(key, json)], rfl, congrArg (fun shape => [(key, shape)]) same⟩
    · obtain ⟨differ, -⟩ := valueKeeps.read_before (by decide) (by decide) first stands
      contradiction
  | cons next members ih =>
    rw [List.forall_mem_cons] at valuesKeep
    simp only [writeMembers, List.cons_append, List.append_assoc] at taken
    obtain ⟨fewer, json, middle, first, ⟨stands, -⟩ | ⟨more, others, stands, read, rfl⟩⟩ :=
      takeMembers_eq_some taken
    · obtain ⟨differ, -⟩ := valueKeeps.read_before (by decide) (by decide) first stands
      contradiction
    · obtain ⟨-, rfl, same⟩ := valueKeeps.read_before (by decide) (by decide) first stands
      obtain ⟨ended, others, rfl, sames⟩ := ih next.1 valuesKeep.1 valuesKeep.2 read
      refine ⟨ended, (key, json) :: others, rfl, ?_⟩
      rw [membersShape, sames, same, ← membersShape]

/-- An array keeps its shape if its items do. -/
theorem array {items : List Json} (itemsKeep : ∀ item ∈ items, KeepsShape item) :
    KeepsShape (.array items) := by
  cases items with
  | nil => exact of_takeValue ⟨_, _, rfl, by decide, by decide⟩ (fun _ _ => rfl) rfl
  | cons item items =>
    rw [List.forall_mem_cons] at itemsKeep
    refine ⟨⟨_, _, rfl, by decide, by decide⟩, ?_⟩
    intro steps rest after value _ taken _
    cases steps with
    | zero => cases taken
    | succ steps =>
      obtain ⟨first, more, written, solid, notClosing⟩ := itemsKeep.1.start
      simp only [write, List.cons_append, List.append_assoc] at taken
      rw [written, List.cons_append, takeValue_bracket solid notClosing, ← List.cons_append,
        ← written] at taken
      obtain ⟨⟨found, last⟩, isTaken, same⟩ := Option.map_eq_some_iff.mp taken
      cases same
      obtain ⟨ended, sames⟩ := takeItems itemsKeep.1 itemsKeep.2 isTaken
      exact ⟨ended, congrArg Json.array sames⟩

/-- An object keeps its shape if the values of its members do. -/
theorem object {members : List (String × Json)}
    (valuesKeep : ∀ member ∈ members, KeepsShape member.2) : KeepsShape (.object members) := by
  cases members with
  | nil => exact of_takeValue ⟨_, _, rfl, by decide, by decide⟩ (fun _ _ => rfl) rfl
  | cons member members =>
    rw [List.forall_mem_cons] at valuesKeep
    refine ⟨⟨_, _, rfl, by decide, by decide⟩, ?_⟩
    intro steps rest after value _ taken _
    cases steps with
    | zero => cases taken
    | succ steps =>
      simp only [write, List.cons_append, List.append_assoc] at taken
      rw [takeValue_brace] at taken
      obtain ⟨⟨found, last⟩, isTaken, same⟩ := Option.map_eq_some_iff.mp taken
      cases same
      obtain ⟨ended, others, rfl, sames⟩ :=
        takeMembers member.1 valuesKeep.1 valuesKeep.2 isTaken
      exact ⟨ended, by rw [ofMembers_some, shape, shape, sames]⟩

/-- Where an integer stands, a number is read. -/
theorem integer (value : Int) : KeepsShape (.integer value) := by
  have written : write (.integer value) = (toString value).toList := by rw [write]
  refine of_numeric ?_ ?_ rfl
  · rw [written]
    exact .toString_int value
  · rw [written, ne_eq, String.toList_eq_nil_iff]
    exact Int.repr_ne_empty value

/-- Where a double stands, a number is read, or a null where a null is written for it. -/
theorem double (x : Double) : KeepsShape (.double x) := by
  by_cases finite : x.isFinite = true
  · have written : write (.double x) = (numberStyle.write x).toList := by
      rw [write, writeDouble, if_pos finite]
    refine of_numeric ?_ ?_ rfl
    · rw [written]
      exact numeric_write numberStyle x
    · rw [written, ne_eq, String.toList_eq_nil_iff]
      exact numberStyle.write_ne_empty x
  · have written : write (.double x) = "null".toList := by
      rw [write, writeDouble, if_neg finite]
    exact of_null written rfl

end KeepsShape

mutual

/-- Every value keeps its shape. -/
theorem keepsShape : ∀ json : Json, KeepsShape json
  | .null | .unreadable => .of_null rfl rfl
  | .bool true | .bool false =>
    .of_takeValue ⟨_, _, rfl, by decide, by decide⟩ (fun _ _ => rfl) rfl
  | .integer value => .integer value
  | .double x => .double x
  | .string value =>
    .of_takeValue ⟨_, _, rfl, by decide, by decide⟩ (takeValue_string value) rfl
  | .array items => .array (itemsKeepShape items)
  | .object members => .object (membersKeepShape members)

/-- Every item keeps its shape. -/
theorem itemsKeepShape : ∀ items : List Json, ∀ item ∈ items, KeepsShape item
  | [] => nofun
  | item :: rest => List.forall_mem_cons.mpr ⟨keepsShape item, itemsKeepShape rest⟩

/-- The value of every member keeps its shape. -/
theorem membersKeepShape : ∀ members : List (String × Json), ∀ member ∈ members,
    KeepsShape member.2
  | [] => nofun
  | (_, value) :: rest => List.forall_mem_cons.mpr ⟨keepsShape value, membersKeepShape rest⟩

end

/-- Whatever is read from the text of a value has the shape of the value. -/
theorem shape_of_ofText?_text {json again : Json} (read : ofText? json.text = some again) :
    again.shape = json.shape := by
  obtain ⟨⟨value, after⟩, taken, read⟩ := Option.bind_eq_some_iff.mp read
  rw [text, String.toList_ofList, ← List.append_nil json.write] at taken
  dsimp only at read
  split at read
  next blank =>
    cases read
    have stops : StartsNoNumber (skipBlanks after) := by
      rw [List.isEmpty_iff.mp blank]
      exact startsNoNumber_nil
    exact ((keepsShape json).read startsNoNumber_nil taken stops).2
  next => cases read

end Crud.Json
