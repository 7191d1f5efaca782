import Crud.Proofs.Clause
import Crud.Proofs.JsonNumber
import Crud.Statement.Step
import Mathlib.Data.List.Forall2
import Mathlib.Data.List.Nodup

/-!
# What keys are bound to

A key addresses rows through markers: one named like its column for a single value, or the name with
a running number for each of several. All markers are names of one map, so a later key can set a
marker of an earlier one to another value. Every key keeps its values exactly when no marker is
given two of them, and no marker is when the names of the columns differ and none is the name of a
numbered key with digits after it.
-/

namespace Crud

namespace Bindings

/-- No name is given two values. -/
def Consistent (pairs : List (String × Value)) : Prop :=
  ∀ first ∈ pairs, ∀ second ∈ pairs, first.1 = second.1 → first.2 = second.2

instance (pairs : List (String × Value)) : Decidable (Consistent pairs) :=
  inferInstanceAs
    (Decidable (∀ first ∈ pairs, ∀ second ∈ pairs, first.1 = second.1 → first.2 = second.2))

/-- After pairs are set, each of them is what its name is looked up to exactly when no name was
given two values. -/
theorem get?_setAll_iff_consistent (bindings : Bindings) (pairs : List (String × Value)) :
    (∀ pair ∈ pairs, (bindings.setAll pairs).get? pair.1 = some pair.2) ↔ Consistent pairs := by
  constructor
  · intro kept first isFirst second isSecond same
    have found := kept second isSecond
    rw [← same, kept first isFirst] at found
    exact Option.some.inj found
  · intro consistent pair listed
    rw [get?_setAll]
    cases last : pairs.reverse.lookup pair.1 with
    | none =>
      have absent := List.lookup_eq_none_iff.mp last pair (List.mem_reverse.mpr listed)
      exact absurd rfl (bne_iff_ne.mp absent)
    | some value =>
      -- The pair that was set last is listed too, so it has the value of this one.
      obtain ⟨before, after, split, -⟩ := List.lookup_eq_some_iff.mp last
      have member : (pair.1, value) ∈ pairs := by
        rw [← List.mem_reverse, split]
        exact List.mem_append_cons_self
      rw [Option.some_or, consistent pair listed _ member rfl]

/-- Setting pairs in two goes. -/
theorem setAll_append (bindings : Bindings) (first second : List (String × Value)) :
    bindings.setAll (first ++ second) = (bindings.setAll first).setAll second :=
  List.foldl_append

end Bindings

/-- A key of rows: one value of a column, or several. -/
inductive KeyCall where
  /-- The row with the value. -/
  | one (column : String) (value : Value)
  /-- The rows with one of the values. -/
  | many (column : String) (values : List Value)

namespace KeyCall

/-- The column. -/
def column : KeyCall → String
  | one column _ | many column _ => column

/-- The values. -/
def values : KeyCall → List Value
  | one _ value => [value]
  | many _ values => values

/-- The name of the column without marker colons. -/
def name (call : KeyCall) : String := bindingName call.column

/-- The step that adds the key. -/
def step : KeyCall → Step
  | one column value => .key column value
  | many column values => .keys column values

/-- The script of the keys in order. -/
def script (calls : List KeyCall) : Script := calls.foldr (fun call => .step call.step) .done

/-- The markers with their values. -/
def pairs (call : KeyCall) : List (String × Value) :=
  match call with
  | one _ value => [(call.name, value)]
  | many _ values => values.zipIdx.map fun (value, index) => (call.name ++ toString index, value)

/-- The condition that the key adds. -/
def condition (call : KeyCall) : Condition where
  kind := .key
  column := call.column
  operator := match call with
    | one .. => .equal
    | many .. => .inList
  operand := .named (call.pairs.map Prod.fst)
  masked := false

/-- There is a marker for each value, in order. -/
theorem map_snd_pairs (call : KeyCall) : call.pairs.map Prod.snd = call.values := by
  cases call with
  | one column value => rfl
  | many column values =>
    rw [pairs, List.map_map]
    exact List.zipIdx_map_fst 0 values

end KeyCall

/-- The statement with its rows addressed by keys. -/
def Statement.address (statement : Statement) (calls : List KeyCall) : Statement :=
  { statement with
    whereClause := statement.whereClause ++ Clause.ofList (calls.map KeyCall.condition)
    bindings := statement.bindings.setAll (calls.flatMap KeyCall.pairs) }

/-- Addressing rows by no key. -/
theorem Statement.address_nil (statement : Statement) : statement.address [] = statement := by
  rw [address, List.map_nil, List.flatMap_nil]
  exact congrArg (fun rows => { statement with whereClause := rows }) (Clause.append_empty _)

/-- Addressing rows by some keys and then by others. -/
theorem Statement.address_address (statement : Statement) (first second : List KeyCall) :
    (statement.address first).address second = statement.address (first ++ second) := by
  simp only [address, List.map_append, List.flatMap_append, Bindings.setAll_append,
    Clause.append_assoc, Clause.ofList_append]

namespace KeyCall

/-- A key adds its condition, which has no positional value, and sets its markers. -/
theorem run_step {statement : Statement} (allowed : statement.action ≠ .select) (call : KeyCall) :
    call.step.run statement = .ok (statement.address [call]) := by
  have added : call.step.run statement = .ok
      { statement.addCondition call.condition with
        bindings := statement.bindings.setAll call.pairs } := by
    cases call <;> exact if_neg allowed
  rw [added, Statement.address, List.flatMap_singleton]
  simp only [Statement.addCondition, condition, Operand.values, List.append_nil]
  rfl

/-- Keys add their conditions and set their markers, all in order. -/
theorem run_script {statement : Statement} (allowed : statement.action ≠ .select)
    (calls : List KeyCall) : (script calls).run statement = .ok (statement.address calls) := by
  induction calls generalizing statement with
  | nil => rw [Statement.address_nil]; rfl
  | cons call rest ih =>
    have head := run_step allowed call
    have tail : (script rest).run (statement.address [call]) = _ := ih allowed
    rw [Statement.address_address, List.singleton_append] at tail
    rw [script, List.foldr_cons, Script.run, head]
    exact tail

/-- The condition addresses the column of a key through one marker for each of its values, and the
markers are bound to these values in order. -/
structure KeptBy (bindings : Bindings) (call : KeyCall) (condition : Condition) : Prop where
  /-- It addresses rows by key. -/
  kind : condition.kind = .key
  /-- It is about the column of the key. -/
  column : condition.column = call.column
  /-- Its markers are bound to the values of the key. -/
  bound : List.Forall₂ (fun marker value => bindings.get? marker = some value)
    condition.operand.bindingNames call.values

/-- The condition that a key adds keeps its values when its markers are bound to them. -/
theorem keptBy_condition_iff (bindings : Bindings) (call : KeyCall) :
    KeptBy bindings call call.condition ↔
      ∀ pair ∈ call.pairs, bindings.get? pair.1 = some pair.2 := by
  have markers : List.Forall₂ (fun marker value => bindings.get? marker = some value)
      call.condition.operand.bindingNames call.values ↔
        ∀ pair ∈ call.pairs, bindings.get? pair.1 = some pair.2 := by
    change List.Forall₂ _ (call.pairs.map Prod.fst) _ ↔ _
    rw [← map_snd_pairs, List.forall₂_map_left_iff, List.forall₂_map_right_iff, List.forall₂_same]
  exact ⟨fun kept => markers.mp kept.bound, fun bound => ⟨rfl, rfl, markers.mpr bound⟩⟩

/-- Keys keep their values exactly when no marker is given two. -/
theorem forall₂_keptBy_iff (bindings : Bindings) (calls : List KeyCall) :
    List.Forall₂ (KeptBy (bindings.setAll (calls.flatMap pairs))) calls (calls.map condition) ↔
      Bindings.Consistent (calls.flatMap pairs) := by
  rw [List.forall₂_map_right_iff, List.forall₂_same, ← bindings.get?_setAll_iff_consistent,
    List.forall_mem_flatMap]
  exact forall₂_congr fun call _ => keptBy_condition_iff _ call

/-- The long name is the short one with digits after it. -/
def NumberedFrom (short long : String) : Prop :=
  short ≠ long ∧ short.toList <+: long.toList ∧
    ∀ char ∈ long.toList.drop short.toList.length, Text.isDigit char = true

instance (short long : String) : Decidable (NumberedFrom short long) :=
  inferInstanceAs (Decidable (_ ∧ _ ∧ _))

/-- The markers of the key are numbered. -/
def numbered : KeyCall → Bool
  | one .. => false
  | many .. => true

/-- The names of the columns differ, and none is the name of a numbered key with digits after it. -/
structure Apart (calls : List KeyCall) : Prop where
  /-- No two names are the same. -/
  distinct : (calls.map name).Nodup
  /-- No name is another one with digits after it. -/
  notNumbered : ∀ call ∈ calls, call.numbered = true →
    ∀ other ∈ calls, ¬NumberedFrom call.name other.name

/-- A marker is the name with digits after it, if the key is numbered. -/
theorem toList_marker {call : KeyCall} {pair : String × Value} (listed : pair ∈ call.pairs) :
    ∃ digits : List Char, pair.1.toList = call.name.toList ++ digits ∧
      (∀ char ∈ digits, Text.isDigit char = true) ∧ (digits ≠ [] → call.numbered = true) := by
  cases call with
  | one column value =>
    obtain rfl := List.mem_singleton.mp listed
    exact ⟨[], (List.append_nil _).symm, nofun, fun some => absurd rfl some⟩
  | many column values =>
    obtain ⟨⟨value, index⟩, _, rfl⟩ := List.mem_map.mp listed
    refine ⟨Nat.toDigits 10 index, ?_, fun _ => Json.isDigit_of_mem_toDigits, fun _ => rfl⟩
    rw [String.toList_append, Nat.toString_eq_ofList_toDigits, String.toList_ofList]

/-- Two numbers after one name are the same when the markers are. -/
theorem eq_of_numbered {name : String} {first second : Nat}
    (same : name ++ toString first = name ++ toString second) : first = second := by
  have numerals : toString first = toString second := (String.append_right_inj name).mp same
  have digits := congrArg String.toList numerals
  rw [Nat.toString_eq_ofList_toDigits, Nat.toString_eq_ofList_toDigits, String.toList_ofList,
    String.toList_ofList] at digits
  rw [← Json.digitsValue_toDigits first, digits, Json.digitsValue_toDigits]

/-- No marker of one key is given two values. -/
theorem consistent_pairs (call : KeyCall) : Bindings.Consistent call.pairs := by
  intro first isFirst second isSecond same
  cases call with
  | one column value => rw [List.mem_singleton.mp isFirst, List.mem_singleton.mp isSecond]
  | many column values =>
    obtain ⟨⟨value, index⟩, isValue, rfl⟩ := List.mem_map.mp isFirst
    obtain ⟨⟨other, place⟩, isOther, rfl⟩ := List.mem_map.mp isSecond
    obtain rfl : index = place := eq_of_numbered same
    rw [List.mk_mem_zipIdx_iff_getElem?] at isValue isOther
    exact Option.some.inj (isValue.symm.trans isOther)

/-- A name that continues the name of a key and begins one of its markers is the same name. -/
theorem Apart.name_eq {calls : List KeyCall} (apart : Apart calls) {call other : KeyCall}
    (isCall : call ∈ calls) (isOther : other ∈ calls) {pair : String × Value}
    (listed : pair ∈ call.pairs) {more rest : List Char}
    (longer : other.name.toList = call.name.toList ++ more)
    (marker : pair.1.toList = other.name.toList ++ rest) : call.name = other.name := by
  obtain ⟨digits, whole, numeric, counts⟩ := toList_marker listed
  rw [longer, List.append_assoc, whole, List.append_cancel_left_eq] at marker
  by_contra differ
  have some : more ≠ [] := by
    rintro rfl
    rw [List.append_nil] at longer
    exact differ (String.toList_inj.mp longer.symm)
  refine apart.notNumbered call isCall (counts ?_) other isOther ⟨differ, ⟨more, longer.symm⟩, ?_⟩
  · rw [marker]
    exact List.append_ne_nil_of_left_ne_nil some rest
  · rw [longer, List.drop_left]
    exact fun char isMore => numeric char (marker ▸ List.mem_append_left rest isMore)

/-- No marker of keys with such names is given two values. -/
theorem Apart.consistent {calls : List KeyCall} (apart : Apart calls) :
    Bindings.Consistent (calls.flatMap pairs) := by
  intro first isFirst second isSecond same
  obtain ⟨call, isCall, ofCall⟩ := List.mem_flatMap.mp isFirst
  obtain ⟨other, isOther, ofOther⟩ := List.mem_flatMap.mp isSecond
  obtain ⟨digits, whole, -⟩ := toList_marker ofCall
  obtain ⟨places, part, -⟩ := toList_marker ofOther
  -- One of the two names starts with the other, as both start the one marker.
  have names : call.name = other.name := by
    have both := whole.symm.trans ((congrArg String.toList same).trans part)
    obtain ⟨more, longer, -⟩ | ⟨more, longer, -⟩ := List.append_eq_append_iff.mp both
    · exact apart.name_eq isCall isOther ofCall longer (same ▸ part)
    · exact (apart.name_eq isOther isCall ofOther longer (same ▸ whole)).symm
  obtain rfl : call = other := List.inj_on_of_nodup_map apart.distinct isCall isOther names
  exact call.consistent_pairs first ofCall second ofOther same

/-- A statement that is not a select can be addressed by any keys. Its conditions then belong to the
keys in order, and the markers of all of them are bound to the values of their keys exactly when no
marker was given two values. That is so when the names of the columns differ and none is the name of
a numbered key with digits after it. -/
theorem keys_keep_values {action : Action} (allowed : action ≠ .select) (calls : List KeyCall) :
    ∃ final, (script calls).run { action } = .ok final ∧
      (List.Forall₂ (KeptBy final.bindings) calls final.whereClause.conditions ↔
        Bindings.Consistent (calls.flatMap pairs)) ∧
      (Apart calls → List.Forall₂ (KeptBy final.bindings) calls final.whereClause.conditions) := by
  have conditions : (Statement.address { action } calls).whereClause.conditions =
      calls.map condition := Clause.conditions_ofList _
  have kept := forall₂_keptBy_iff .empty calls
  rw [← conditions] at kept
  exact ⟨_, run_script allowed calls, kept, fun apart => kept.mpr apart.consistent⟩

/-- A row of one column and two of another. -/
def sampleCalls (column : String) : List KeyCall :=
  [.one column (.int 7), .many ":id" [.int 1, .int 2]]

/-- The markers of a tenant and of numbers differ. -/
theorem sampleCalls_keep_values :
    Action.delete ≠ .select ∧ Apart (sampleCalls "tenant") ∧
    ∃ final, (script (sampleCalls "tenant")).run { action := .delete } = .ok final ∧
      List.Forall₂ (KeptBy final.bindings) (sampleCalls "tenant") final.whereClause.conditions := by
  have allowed : Action.delete ≠ .select := by decide
  have apart : Apart (sampleCalls "tenant") := ⟨by decide, by decide⟩
  obtain ⟨final, ran, -, kept⟩ := keys_keep_values allowed (sampleCalls "tenant")
  exact ⟨allowed, apart, final, ran, kept apart⟩

/-- The second marker of a numbered key takes the value from a column of its name, although the
names of the columns differ. -/
theorem numbered_key_takes_marker :
    ((sampleCalls "id1").map name).Nodup ∧
    ∃ final, (script (sampleCalls "id1")).run { action := .delete } = .ok final ∧
      final.bindings.get? "id1" = some (.int 2) ∧
      ¬List.Forall₂ (KeptBy final.bindings) (sampleCalls "id1") final.whereClause.conditions := by
  have markers : (sampleCalls "id1").flatMap pairs =
      [("id1", .int 7), ("id0", .int 1), ("id1", .int 2)] := rfl
  have taken : (Bindings.empty.setAll ((sampleCalls "id1").flatMap pairs)).get? "id1" =
      some (.int 2) := by
    rw [Bindings.get?_setAll, markers]
    rfl
  have twice : ¬Bindings.Consistent ((sampleCalls "id1").flatMap pairs) := by
    rw [markers]
    decide
  exact ⟨by decide, _, run_script (by decide) _, taken,
    fun kept => twice ((forall₂_keptBy_iff .empty _).mp kept)⟩

end KeyCall

end Crud
