import Crud.Proofs.Resolution

/-!
# Texts turned into columns

Resolving the columns of a statement turns exactly the recognised texts, wherever they stand in a
clause, and touches nothing else. `Clause.Turned` relates a clause to what becomes of it and counts
the conditions turned, each of which loses one positional value. No recognised text is left in a
clause that was resolved, so that resolving again changes nothing.
-/

namespace Crud

namespace Condition

/-- The condition may be taken for one on a column, and the lookup recognises its text. -/
structure Recognised (lookup : ColumnLookup) (condition : Condition) (text : String) : Prop where
  /-- The values of the condition are placeholders. -/
  masked : condition.masked = true
  /-- The condition is no raw text, no key and no subquery. -/
  kind : condition.kind ≠ .raw ∧ condition.kind ≠ .key ∧ condition.kind ≠ .subquery
  /-- The operand is the text. -/
  operand : condition.operand = .scalar (.text text)
  /-- The text names a column. -/
  listed : lookup text = true

variable {lookup : ColumnLookup} {condition : Condition}

/-- A condition is turned if and only if its text is recognised. -/
theorem resolved?_eq_some_iff {after : Condition} :
    condition.resolved? lookup = some after ↔
      ∃ text, condition.Recognised lookup text ∧
        after = { condition with operand := .column text } := by
  constructor
  · intro turned
    unfold resolved? at turned
    split at turned
    next => contradiction
    next free =>
      simp only [not_or, Bool.not_eq_false] at free
      split at turned
      next text operand =>
        split at turned
        next listed =>
          exact ⟨text, ⟨free.1, free.2, operand, listed⟩, (Option.some.inj turned).symm⟩
        next => contradiction
      next => contradiction
  · rintro ⟨text, recognised, rfl⟩
    have free : ¬(condition.masked = false ∨ condition.kind = .raw ∨ condition.kind = .key ∨
        condition.kind = .subquery) := by
      simp only [not_or, Bool.not_eq_false]
      exact ⟨recognised.masked, recognised.kind⟩
    rw [resolved?, if_neg free, recognised.operand]
    exact if_pos recognised.listed

/-- A condition with no recognised text is not turned. -/
theorem resolved?_eq_none (unknown : ∀ text, ¬condition.Recognised lookup text) :
    condition.resolved? lookup = none := by
  rw [Option.eq_none_iff_forall_ne_some]
  intro after turned
  obtain ⟨text, recognised, -⟩ := resolved?_eq_some_iff.mp turned
  exact unknown text recognised

/-- A column is not a text. -/
theorem not_recognised_column (name text : String) :
    ¬Recognised lookup { condition with operand := .column name } text := by
  intro recognised
  cases recognised.operand

end Condition

namespace Clause

/-- The second clause is the first one with every recognised text turned into a column, at any
depth, and nothing else changed. The number is how many conditions were turned. -/
inductive Turned (lookup : ColumnLookup) : Clause → Clause → Nat → Prop where
  /-- Nothing in nothing. -/
  | empty : Turned lookup empty empty 0
  /-- A condition whose text is recognised. -/
  | turned {head : Condition} {text : String} {rest after : Clause} {count : Nat}
      (recognised : head.Recognised lookup text) (tail : Turned lookup rest after count) :
      Turned lookup (condition head rest)
        (condition { head with operand := .column text } after) (count + 1)
  /-- A condition without such a text. -/
  | kept {head : Condition} {rest after : Clause} {count : Nat}
      (unknown : ∀ text, ¬head.Recognised lookup text) (tail : Turned lookup rest after count) :
      Turned lookup (condition head rest) (condition head after) count
  /-- A group of conditions. -/
  | group {inner innerAfter rest after : Clause} {innerCount count : Nat}
      (nested : Turned lookup inner innerAfter innerCount) (tail : Turned lookup rest after count) :
      Turned lookup (group inner rest) (group innerAfter after) (innerCount + count)

/-- Resolving a clause turns its recognised texts. -/
theorem turned_resolve (lookup : ColumnLookup) (clause : Clause) :
    Turned lookup clause (clause.resolve lookup) (clause.resolvable lookup) := by
  induction clause with
  | empty => exact .empty
  | condition head rest ih =>
    unfold resolve resolvable
    cases found : head.resolved? lookup with
    | none =>
      have unknown : ∀ text, ¬head.Recognised lookup text := by
        intro text recognised
        rw [Condition.resolved?_eq_some_iff.mpr ⟨text, recognised, rfl⟩] at found
        contradiction
      rw [Option.isSome_none, if_neg Bool.false_ne_true, Nat.zero_add]
      exact .kept unknown ih
    | some after =>
      obtain ⟨text, recognised, rfl⟩ := Condition.resolved?_eq_some_iff.mp found
      rw [Option.isSome_some, if_pos rfl, Nat.add_comm]
      exact .turned recognised ih
  | group inner rest ihInner ihRest => exact .group ihInner ihRest

namespace Turned

variable {lookup : ColumnLookup} {before after : Clause} {count : Nat}

/-- Each turned condition loses its value, and no other value is lost. -/
theorem length_values (turned : Turned lookup before after count) :
    after.values.length + count = before.values.length := by
  induction turned with
  | empty => rfl
  | turned recognised _ ih =>
    simp only [values, recognised.operand, Operand.values, List.length_append, List.length_nil,
      List.length_singleton]
    omega
  | kept _ _ ih =>
    simp only [values, List.length_append]
    omega
  | group _ _ ihInner ihRest =>
    simp only [values, List.length_append]
    omega

/-- The values that are left stand in the order that they had. -/
theorem values_sublist (turned : Turned lookup before after count) :
    after.values.Sublist before.values := by
  induction turned with
  | empty => exact .slnil
  | turned _ _ ih => exact ih.trans (List.sublist_append_right _ _)
  | kept _ _ ih => exact (List.Sublist.refl _).append ih
  | group _ _ ihInner ihRest => exact ihInner.append ihRest

/-- No recognised text is left. -/
theorem resolvable_eq_zero (turned : Turned lookup before after count) :
    after.resolvable lookup = 0 := by
  induction turned with
  | empty => rfl
  | turned _ _ ih =>
    rw [resolvable, ih, Condition.resolved?_eq_none (Condition.not_recognised_column _)]
    rfl
  | kept unknown _ ih =>
    rw [resolvable, ih, Condition.resolved?_eq_none unknown]
    rfl
  | group _ _ ihInner ihRest => rw [resolvable, ihInner, ihRest]

end Turned

end Clause

namespace Value

/-- Only a number is equal to anything, if the value is a floating-point number. -/
theorem isNan_of_same {left right : Value} (equal : left.same right = true) :
    left.isNan = false := by
  cases left with
  | real number =>
    cases right with
    | real other =>
      simp only [same, Double.same, Bool.and_eq_true, Bool.not_eq_true'] at equal
      exact equal.1.1
    | _ => contradiction
  | _ => rfl

/-- Equal lists of values are equally long. -/
theorem length_of_sameList {left right : List Value} (equal : sameList left right = true) :
    left.length = right.length := by
  induction left generalizing right with
  | nil =>
    cases right with
    | nil => rfl
    | cons => contradiction
  | cons head rest ih =>
    cases right with
    | nil => contradiction
    | cons other others =>
      rw [sameList, Bool.and_eq_true] at equal
      rw [List.length_cons, List.length_cons, ih equal.2]

/-- A list of values that equals any list has only numbers for its floating-point numbers. -/
theorem isNan_of_sameList {left right : List Value} (equal : sameList left right = true) :
    ∀ value ∈ left, value.isNan = false := by
  induction left generalizing right with
  | nil => exact fun _ listed => nomatch listed
  | cons head rest ih =>
    cases right with
    | nil => contradiction
    | cons other others =>
      rw [sameList, Bool.and_eq_true] at equal
      rw [List.forall_mem_cons]
      exact ⟨isNan_of_same equal.1, ih equal.2⟩

end Value

namespace Statement

variable {lookup : ColumnLookup} {statement : Statement}

/-- Where no text is recognised, only the lookup is attached. -/
theorem resolveColumns_of_resolvable_eq_zero
    (rows : statement.whereClause.resolvable lookup = 0)
    (groups : statement.havingClause.resolvable lookup = 0) :
    statement.resolveColumns lookup = statement.withLookup lookup := by
  unfold resolveColumns
  rw [rows, groups, Clause.resolve_of_resolvable_eq_zero lookup rows,
    Clause.resolve_of_resolvable_eq_zero lookup groups]
  exact ite_self _

/-- Where the values are not those of the clauses, only the lookup is attached. -/
theorem resolveColumns_of_other_values
    (other : Value.sameList statement.clauseValues statement.values = false) :
    statement.resolveColumns lookup = statement.withLookup lookup := by
  rw [resolveColumns, other, if_neg Bool.false_ne_true]

/-- Where the values are those of the clauses, both clauses are resolved, and the values that are
left are those of the clauses again. -/
theorem resolveColumns_of_same_values (lookup : ColumnLookup)
    (same : Value.sameList statement.clauseValues statement.values = true) :
    ∃ values : List Value,
      statement.resolveColumns lookup = { statement with
        whereClause := statement.whereClause.resolve lookup
        havingClause := statement.havingClause.resolve lookup
        values
        lookup := some lookup } ∧
      Value.sameList ((statement.whereClause.resolve lookup).values ++
        (statement.havingClause.resolve lookup).values) values = true := by
  by_cases nothing : statement.whereClause.resolvable lookup +
      statement.havingClause.resolvable lookup = 0
  · -- Neither clause changes, so the values are the same as they were, up to the sign of a zero.
    rw [Nat.add_eq_zero_iff] at nothing
    have rows := Clause.resolve_of_resolvable_eq_zero lookup nothing.1
    have groups := Clause.resolve_of_resolvable_eq_zero lookup nothing.2
    refine ⟨statement.values, ?_, ?_⟩
    · rw [resolveColumns_of_resolvable_eq_zero nothing.1 nothing.2, rows, groups]
      rfl
    · rw [rows, groups]
      exact same
  · refine ⟨_, ?_, Value.sameList_self fun value listed => ?_⟩
    · rw [resolveColumns, if_pos same, if_neg nothing]
      rfl
    · have remaining := (statement.whereClause.turned_resolve lookup).values_sublist.append
        (statement.havingClause.turned_resolve lookup).values_sublist
      exact Value.isNan_of_sameList same value (remaining.subset listed)

/-- Resolving the columns of a statement is all or nothing. If its values differ from those of its
clauses, it stays as it is. Otherwise both clauses are the same with exactly the recognised texts
turned, and the values are those of the clauses again, fewer by one for each text. Beside that only
the lookup is attached, and resolving the columns again changes nothing. -/
theorem resolveColumns_exact (lookup : ColumnLookup) (statement : Statement) :
    ∃ finish : Statement, statement.resolveColumns lookup = finish ∧
      (Value.sameList statement.clauseValues statement.values = false →
        finish = { statement with lookup := some lookup }) ∧
      (Value.sameList statement.clauseValues statement.values = true →
        ∃ rows groups : Nat,
          Clause.Turned lookup statement.whereClause finish.whereClause rows ∧
          Clause.Turned lookup statement.havingClause finish.havingClause groups ∧
          Value.sameList finish.clauseValues finish.values = true ∧
          finish.values.length + (rows + groups) = statement.values.length) ∧
      finish = { statement with
        whereClause := finish.whereClause
        havingClause := finish.havingClause
        values := finish.values
        lookup := some lookup } ∧
      finish.resolveColumns lookup = finish := by
  cases same : Value.sameList statement.clauseValues statement.values with
  | false =>
    exact ⟨_, resolveColumns_of_other_values same, fun _ => rfl, fun _ => by contradiction, rfl,
      resolveColumns_of_other_values same⟩
  | true =>
    obtain ⟨values, finished, sameValues⟩ := resolveColumns_of_same_values lookup same
    have rows := statement.whereClause.turned_resolve lookup
    have groups := statement.havingClause.turned_resolve lookup
    have lengths : values.length + (statement.whereClause.resolvable lookup +
        statement.havingClause.resolvable lookup) = statement.values.length := by
      have before := Value.length_of_sameList same
      have after := Value.length_of_sameList sameValues
      have fewerRows := rows.length_values
      have fewerGroups := groups.length_values
      simp only [clauseValues, List.length_append] at before after
      omega
    exact ⟨_, finished, fun _ => by contradiction,
      fun _ => ⟨_, _, rows, groups, sameValues, lengths⟩, rfl,
      resolveColumns_of_resolvable_eq_zero rows.resolvable_eq_zero groups.resolvable_eq_zero⟩

/-- Texts that name a column in a group and beside groups, the same text in conditions that are
never turned, and a zero whose value may have the other sign. -/
def sampleTexts (last : Double) : Statement where
  action := .select
  whereClause :=
    .group
      (.condition { column := "a", operand := .scalar (.text "t.id") } <|
        .single { column := "b", operand := .scalar (.text "t.id"), masked := false }) <|
    .condition { kind := .key, column := "c", operand := .scalar (.text "t.id") } <|
    .single { column := "d", operand := .list [.text "t.id", .null] }
  havingClause :=
    .condition { kind := .like, column := "e", operand := .scalar (.text "t.id") } <|
    .single { column := "f", operand := .scalar (.real (.zero true)) }
  values :=
    [.text "t.id", .text "t.id", .text "t.id", .text "t.id", .null, .text "t.id", .real last]

/-- Two texts of the sample are turned, and none if its last value is not a number. -/
theorem sampleTexts_resolve :
    let lookup (text : String) : Bool := text == "t.id"
    (Value.sameList (sampleTexts (.zero false)).clauseValues (sampleTexts (.zero false)).values =
        true ∧
      ∃ (finish : Statement) (rows groups : Nat),
        (sampleTexts (.zero false)).resolveColumns lookup = finish ∧
        Clause.Turned lookup (sampleTexts (.zero false)).whereClause finish.whereClause rows ∧
        Clause.Turned lookup (sampleTexts (.zero false)).havingClause finish.havingClause groups ∧
        finish.values.length + (rows + groups) = 7 ∧
        finish.values =
          [.text "t.id", .text "t.id", .text "t.id", .null, .real (.zero true)]) ∧
    Value.sameList (sampleTexts .nan).clauseValues (sampleTexts .nan).values = false ∧
    (sampleTexts .nan).resolveColumns lookup = { sampleTexts .nan with lookup := some lookup } := by
  intro lookup
  have same : Value.sameList (sampleTexts (.zero false)).clauseValues
      (sampleTexts (.zero false)).values = true := by decide +kernel
  have other : Value.sameList (sampleTexts .nan).clauseValues (sampleTexts .nan).values =
      false := by decide +kernel
  obtain ⟨finish, finished, -, turned, -, -⟩ :=
    resolveColumns_exact lookup (sampleTexts (.zero false))
  obtain ⟨rows, groups, turnedRows, turnedGroups, -, lengths⟩ := turned same
  obtain ⟨unresolved, kept, keeps, -⟩ := resolveColumns_exact lookup (sampleTexts .nan)
  refine ⟨⟨same, finish, rows, groups, finished, turnedRows, turnedGroups, lengths, ?_⟩, other,
    kept.trans (keeps other)⟩
  rw [← finished]
  decide +kernel

end Statement

end Crud
