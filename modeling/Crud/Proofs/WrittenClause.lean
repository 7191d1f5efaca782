import Crud.Description.Clause
import Crud.Proofs.JsonText

/-!
# Written conditions and clauses are read back

A value is read back from its written form, and so is everything that is made of values: fragments,
operands, conditions, and clauses with groups at any depth. Every written form has a text of its
own. Both hold for finite floating-point numbers that are read back when they stand by themselves.
-/

namespace Crud

open Json (Printable)

namespace Value

/-- A floating-point number has a text that stands for it; any other value has one anyway. -/
def Writable : Value → Prop
  | real x => x.isFinite = true ∧ Json.ofText? (Json.text (.double x)) = some (.double x)
  | _ => True

variable {value : Value}

/-- A value has a text of its own. -/
theorem printable_toJson (writable : value.Writable) : Printable value.toJson := by
  cases value with
  | null => exact .null
  | bool value => exact .bool value
  | int value =>
    refine .integer ⟨Int64.le_toInt value, ?_⟩
    exact Int.lt_of_lt_of_le (Int64.toInt_lt value) (by decide)
  | real x =>
    rw [toJson, if_pos writable.1]
    exact .double writable.1 writable.2
  | text value => exact .string value
  | bytes value =>
    refine .array fun item listed => ?_
    obtain ⟨byte, -, rfl⟩ := List.mem_map.mp listed
    have small : byte.toNat < UInt64.size := Nat.lt_trans byte.toNat_lt (by decide)
    exact .integer (Json.integerFits_of_natural small)

/-- A byte is read back. -/
theorem byteOfJson?_toJson (byte : UInt8) : byteOfJson? (.integer byte.toNat) = some byte := by
  have small := byte.toNat_lt
  rw [byteOfJson?, if_pos ⟨Int.natCast_nonneg _, by omega⟩, Int.toNat_natCast, UInt8.ofNat_toNat]

/-- A value is read back from its written form. Only a floating-point number that is not finite has
the written form of another value. -/
theorem ofJson?_toJson_of_finite (finite : ∀ x, .real x = value → x.isFinite = true) :
    ofJson? value.toJson = some value := by
  cases value with
  | null => rfl
  | bool value => rfl
  | int value =>
    have upper : value.toInt ≤ Int64.maxValue.toInt := Int64.toInt_le value
    rw [toJson, ofJson?, if_pos ⟨Int64.le_toInt value, upper⟩, Int64.ofInt_toInt]
  | real x =>
    rw [toJson, if_pos (finite x rfl)]
    rfl
  | text value => rfl
  | bytes value =>
    have bytesBack : (value.map fun byte => .integer byte.toNat).mapM byteOfJson? = some value :=
      List.mapM_map_eq_some _ _ fun byte _ => byteOfJson?_toJson byte
    rw [toJson, ofJson?, bytesBack]
    rfl

/-- A value is read back. -/
theorem ofJson?_toJson (writable : value.Writable) : ofJson? value.toJson = some value := by
  apply ofJson?_toJson_of_finite
  rintro x rfl
  exact writable.1

end Value

namespace Json

/-- Without repeated keys, a field is the member with its key. -/
theorem fieldValue?_of_nodup {members : List (String × Json)}
    (nodup : (members.map Prod.fst).Nodup) (name : String) :
    fieldValue? name members = some (members.lookup name) := by
  induction members with
  | nil => rfl
  | cons head rest ih =>
    obtain ⟨key, value⟩ := head
    rw [List.map_cons, List.nodup_cons] at nodup
    unfold fieldValue? at ih ⊢
    by_cases same : key = name
    · subst same
      have noOther : rest.filter (·.1 == key) = [] := by
        rw [List.filter_eq_nil_iff]
        intro member listed sameKey
        rw [beq_iff_eq] at sameKey
        exact nodup.1 (List.mem_map.mpr ⟨member, listed, sameKey⟩)
      rw [List.filter_cons_of_pos (by exact beq_self_eq_true key), noOther, List.lookup_cons_self]
    · have otherKey : ¬(key == name) = true := fun equal => same (beq_iff_eq.mp equal)
      have otherName : (name == key) = false := beq_eq_false_iff_ne.mpr (Ne.symm same)
      rw [List.filter_cons_of_neg (by exact otherKey), ih nodup.2, List.lookup_cons, otherName]

/-- The fields of an object without repeated keys. -/
theorem fields?_object {members : List (String × Json)} (nodup : (members.map Prod.fst).Nodup)
    (names : List String) :
    fields? names (.object members) = some (names.map (members.lookup ·)) := by
  rw [fields?]
  induction names with
  | nil => rfl
  | cons name names ih =>
    rw [List.mapM_cons, fieldValue?_of_nodup nodup, ih]
    rfl

/-- An object whose last member may be left out. -/
theorem printable_record {members : List (String × Json)} {name : String} {last : Option Json}
    (printable : ∀ member ∈ members, Printable member.2)
    (lastPrintable : ∀ json ∈ last, Printable json) :
    Printable (.object (members ++ optionalMember name last)) := by
  refine .object (List.forall_mem_append.mpr ⟨printable, ?_⟩)
  cases last with
  | none => exact nofun
  | some json => exact List.forall_mem_singleton.mpr (lastPrintable json rfl)

/-- An array has a text of its own if what its elements are written as does. -/
theorem printable_map {α : Type} {write : α → Json} {elements : List α}
    (printable : ∀ element ∈ elements, Printable (write element)) :
    Printable (.array (elements.map write)) := .array (List.forall_mem_map.mpr printable)

/-- A text that may be left out has a text of its own. -/
theorem printable_optional_string (text : Option String) :
    ∀ json ∈ text.map Json.string, Printable json := by
  intro json found
  obtain ⟨text, -, rfl⟩ := Option.map_eq_some_iff.mp found
  exact .string text

/-- A text that may be left out is read back. -/
theorem optional_string (text : Option String) :
    optional toString? (text.map .string) = some text := by
  cases text <;> rfl

/-- The two fields of an object whose second one may be left out. -/
theorem fields?_pair {first second : String} (differ : first ≠ second) (json : Json)
    (last : Option Json) :
    fields? [first, second] (.object ((first, json) :: optionalMember second last)) =
      some [some json, last] := by
  have noOther : (second == first) = false := beq_eq_false_iff_ne.mpr (Ne.symm differ)
  cases last with
  | none =>
    rw [optionalMember, fields?_object (by simp)]
    simp only [List.map_cons, List.map_nil, List.lookup_cons, beq_self_eq_true, noOther,
      List.lookup_nil]
  | some other =>
    rw [optionalMember, fields?_object (by simp [differ])]
    simp only [List.map_cons, List.map_nil, List.lookup_cons, beq_self_eq_true, noOther]

/-- A record of two fields is read back if its fields are. -/
theorem read_pair {α β γ : Type} {first second : String} (differ : first ≠ second)
    (build : α → Option β → γ) {read : Json → Option α} {readLast : Json → Option β}
    {json : Json} {value : α} (back : read json = some value)
    {last : Option Json} {lastValue : Option β}
    (lastBack : optional readLast last = some lastValue) :
    (do
      match ← fields? [first, second] (.object ((first, json) :: optionalMember second last)) with
      | [found, other] => some (build (← required read found) (← optional readLast other))
      | _ => none) = some (build value lastValue) := by
  have required : required read (some json) = some value := back
  rw [fields?_pair differ]
  simp only [Option.bind_eq_bind, Option.bind_some, required, lastBack]

/-- A list is read back if its elements are. -/
theorem toList?_map {α : Type} {read : Json → Option α} {write : α → Json} {elements : List α}
    (back : ∀ element ∈ elements, read (write element) = some element) :
    toList? read (.array (elements.map write)) = some elements :=
  List.mapM_map_eq_some write read back

end Json

namespace Fragment

variable {fragment : Fragment} (writable : ∀ value ∈ fragment.values, value.Writable)

include writable

/-- A fragment has a text of its own. -/
theorem printable_toJson : Printable fragment.toJson := by
  refine .object (List.forall_mem_cons.mpr ⟨.string _, List.forall_mem_singleton.mpr ?_⟩)
  exact Json.printable_map fun value listed => Value.printable_toJson (writable value listed)

/-- A fragment is read back. -/
theorem ofJson?_toJson : ofJson? fragment.toJson = some fragment := by
  have fields : fragment.toJson.fields? fieldNames =
      some [some (.string fragment.text), some (.array (fragment.values.map Value.toJson))] := by
    have nodup : fieldNames.Nodup := by decide
    rw [toJson, Json.fields?_object (by exact nodup)]
    rfl
  have values := Json.toList?_map fun value listed => Value.ofJson?_toJson (writable value listed)
  rw [ofJson?, fields]
  simp only [Option.bind_eq_bind, Option.bind_some, Json.required, Json.toString?,
    Json.withDefault, values]

end Fragment

namespace Operand

variable {operand : Operand} (writable : ∀ value ∈ operand.values, value.Writable)

include writable

/-- An operand has a text of its own. -/
theorem printable_toJson : Printable operand.toJson := by
  cases operand with
  | absent => exact .string _
  | scalar value =>
    have only := writable value (List.mem_singleton.mpr rfl)
    exact .object (List.forall_mem_singleton.mpr (Value.printable_toJson only))
  | list values =>
    have printable := Json.printable_map fun value listed =>
      Value.printable_toJson (writable value listed)
    exact .object (List.forall_mem_singleton.mpr printable)
  | range lower upper =>
    have bounds : ∀ value ∈ [lower, upper], Printable value.toJson :=
      fun value listed => Value.printable_toJson (writable value listed)
    exact .object (List.forall_mem_singleton.mpr (Json.printable_map bounds))
  | fragment part => exact .object (List.forall_mem_singleton.mpr (part.printable_toJson writable))
  | column name => exact .object (List.forall_mem_singleton.mpr (.string name))
  | named names =>
    have printable : Printable (.array (names.map .string)) :=
      Json.printable_map fun name _ => .string name
    exact .object (List.forall_mem_singleton.mpr printable)
  | subquery text => exact .object (List.forall_mem_singleton.mpr (.string text))

/-- An operand is read back. -/
theorem ofJson?_toJson : ofJson? operand.toJson = some operand := by
  cases operand with
  | absent => rfl
  | scalar value =>
    have only := Value.ofJson?_toJson (writable value (List.mem_singleton.mpr rfl))
    exact congrArg (Option.map scalar) only
  | list values =>
    have back := Json.toList?_map fun value listed => Value.ofJson?_toJson (writable value listed)
    exact congrArg (Option.map list) back
  | range lower upper =>
    have first := Value.ofJson?_toJson (writable lower (by simp [values]))
    have second := Value.ofJson?_toJson (writable upper (by simp [values]))
    simp only [toJson, ofJson?, rangeOfJson?, first, second, Option.bind_eq_bind, Option.bind_some]
  | fragment part => exact congrArg (Option.map fragment) (part.ofJson?_toJson writable)
  | column name => rfl
  | named names =>
    have back : Json.toList? Json.toString? (.array (names.map .string)) = some names :=
      Json.toList?_map fun name _ => rfl
    exact congrArg (Option.map named) back
  | subquery text => rfl

end Operand

/-- The kind of a condition is read back from its name. -/
theorem ConditionKind.toChoice?_name (kind : ConditionKind) :
    Json.toChoice? all name (.string kind.name) = some kind := by
  cases kind <;> rfl

/-- An operator is read back from its name. -/
theorem Operator.toChoice?_name (operator : Operator) :
    Json.toChoice? all name (.string operator.name) = some operator := by
  cases operator <;> rfl

/-- A connector is read back from its name. -/
theorem Connector.toChoice?_name (connector : Connector) :
    Json.toChoice? all name (.string connector.name) = some connector := by
  cases connector <;> rfl

namespace Condition

variable {condition : Condition} (writable : ∀ value ∈ condition.operand.values, value.Writable)

include writable

/-- A condition has a text of its own. -/
theorem printable_toJson : Printable condition.toJson := by
  refine Json.printable_record ?_ (Json.printable_optional_string condition.modifier)
  simp only [List.forall_mem_cons, List.not_mem_nil, false_implies, implies_true, and_true]
  exact ⟨.string _, .string _, .string _, Operand.printable_toJson writable, .string _, .bool _⟩

/-- A condition is read back. -/
theorem ofJson?_toJson : ofJson? condition.toJson = some condition := by
  have fields : condition.toJson.fields? fieldNames =
      some [some (.string condition.kind.name), some (.string condition.column),
        some (.string condition.operator.name), some condition.operand.toJson,
        some (.string condition.connector.name), some (.bool condition.masked),
        condition.modifier.map .string] := by
    have nodup : fieldNames.Nodup := by decide
    have nodupInit : fieldNames.dropLast.Nodup := by decide
    cases modifier : condition.modifier with
    | none =>
      rw [toJson, modifier, Json.fields?_object (by exact nodupInit)]
      rfl
    | some text =>
      rw [toJson, modifier, Json.fields?_object (by exact nodup)]
      rfl
  rw [ofJson?, fields]
  simp only [Option.bind_eq_bind, Option.bind_some, Json.required, Json.toString?, Json.toBool?,
    Json.withDefault, ConditionKind.toChoice?_name, Operator.toChoice?_name,
    Connector.toChoice?_name, Operand.ofJson?_toJson writable, Json.optional_string]

end Condition

namespace Clause

/-- The elements of a clause have texts of their own. -/
theorem printable_toItems {clause : Clause} (writable : ∀ value ∈ clause.values, value.Writable) :
    ∀ item ∈ clause.toItems, Printable item := by
  induction clause with
  | empty => exact nofun
  | condition head rest ih =>
    rw [values, List.forall_mem_append] at writable
    exact List.forall_mem_cons.mpr ⟨Condition.printable_toJson writable.1, ih writable.2⟩
  | group inner rest ihInner ihRest =>
    rw [values, List.forall_mem_append] at writable
    exact List.forall_mem_cons.mpr ⟨.array (ihInner writable.1), ihRest writable.2⟩

/-- The elements of a clause are told apart: a bracketed clause is written as an array, and a
condition is not. -/
theorem ofItems?_toItems {clause : Clause} (writable : ∀ value ∈ clause.values, value.Writable) :
    ofItems? clause.toItems = some clause := by
  induction clause with
  | empty => rfl
  | condition head rest ih =>
    rw [values, List.forall_mem_append] at writable
    have element : ofItem? head.toJson = some (condition head) :=
      congrArg (Option.map condition) (Condition.ofJson?_toJson writable.1)
    simp only [toItems, ofItems?, element, ih writable.2, Option.bind_eq_bind, Option.bind_some]
  | group inner rest ihInner ihRest =>
    rw [values, List.forall_mem_append] at writable
    have element : ofItem? (.array inner.toItems) = some (group inner) := by
      rw [ofItem?, ihInner writable.1]
    simp only [toItems, ofItems?, element, ihRest writable.2, Option.bind_eq_bind,
      Option.bind_some]

/-- A clause is read back if it does not nest too deep. -/
theorem ofJson?_toJson {clause : Clause} (writable : ∀ value ∈ clause.values, value.Writable)
    {levels : Nat} (fits : clause.toJson.fits levels = true) :
    ofJson? levels clause.toJson = some clause := by
  rw [toJson] at fits ⊢
  rw [ofJson?, if_pos fits, ofItems?_toItems writable]

end Clause

end Crud
