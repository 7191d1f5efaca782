import Crud.Proofs.KeptConditions

/-!
# Which bindings are assigned

A change of rows assigns its bindings in order, each once, except those that address rows: a binding
that is named like the column of a comparison outside groups, and the bindings that keys refer to at
any depth. Two kinds of bindings are held back beside these. A piece of text outside groups holds
back the binding with just that name, although it compares no column, and a condition that is no key
holds back the bindings it refers to.
-/

namespace Crud

namespace Clause

variable (clause : Clause) (name : String)

/-- The binding addresses rows: a comparison outside groups has a column of its name, or a key at
any depth refers to it. -/
def Addresses : Prop :=
  (∃ condition ∈ clause.topConditions, condition.kind ≠ .raw ∧ condition.column = name) ∨
  ∃ condition ∈ clause.conditions, condition.kind = .key ∧ name ∈ condition.operand.bindingNames

/-- The binding is kept from the assignments for another reason: its name is a piece of text outside
groups, or a condition that is no key refers to it. -/
def Withholds : Prop :=
  (∃ condition ∈ clause.topConditions, condition.kind = .raw ∧ condition.column = name) ∨
  ∃ condition ∈ clause.conditions, condition.kind ≠ .key ∧ name ∈ condition.operand.bindingNames

instance : Decidable (clause.Addresses name) :=
  inferInstanceAs (Decidable (_ ∨ _))

instance : Decidable (clause.Withholds name) :=
  inferInstanceAs (Decidable (_ ∨ _))

variable {clause name}

/-- The names of a clause are those to which its conditions refer, at any depth. -/
theorem mem_bindingNames_iff :
    name ∈ clause.bindingNames ↔
      ∃ condition ∈ clause.conditions, name ∈ condition.operand.bindingNames := by
  induction clause with
  | empty => simp [bindingNames, conditions]
  | condition head rest ih =>
    simp only [bindingNames, conditions, List.mem_append, List.mem_cons, or_and_right, exists_or,
      exists_eq_left, ih]
  | group inner rest ihInner ihRest =>
    simp only [bindingNames, conditions, List.mem_append, ihInner, ihRest, or_and_right, exists_or]

/-- A condition in a list is of a kind or of another one. -/
theorem exists_mem_iff_or_of_kind (conditions : List Condition) (kind : ConditionKind)
    (holds : Condition → Prop) :
    (∃ condition ∈ conditions, holds condition) ↔
      (∃ condition ∈ conditions, condition.kind = kind ∧ holds condition) ∨
      ∃ condition ∈ conditions, condition.kind ≠ kind ∧ holds condition := by
  simp only [← exists_or, ← and_or_left, ← or_and_right, ne_eq, Classical.em, true_and]

/-- The names left out of assignments are those of bindings that address rows or are held back. -/
theorem mem_addressingNames_iff :
    name ∈ Target.addressingNames clause ↔ clause.Addresses name ∨ clause.Withholds name := by
  rw [Target.addressingNames, List.mem_append, List.mem_map, mem_bindingNames_iff,
    exists_mem_iff_or_of_kind clause.topConditions .raw,
    exists_mem_iff_or_of_kind clause.conditions .key, Addresses, Withholds]
  exact (or_congr_left or_comm).trans or_or_or_comm

end Clause

namespace Target

variable (target : Target)

/-- The assignment of a binding. -/
def assignment (name : String) : String × String :=
  (target.quoter.column name, target.dialect.namedPlaceholder name)

/-- A change of rows with a table, whose clause is rendered, assigns bindings in order and each
once: those that neither address rows nor are held back. It fails exactly when no such binding
exists, for lack of bindings. Where the clause holds no binding back, these are all bindings that do
not address rows. -/
theorem compile_assigns_rest {statement : Statement} (change : statement.action = .update)
    (tables : statement.tables ≠ []) {body : String}
    (rendered : target.clause statement.whereClause = .ok body) :
    ∃ assigned : List String,
      assigned.Sublist statement.bindings.names ∧ assigned.Nodup ∧
      (∀ name, name ∈ assigned ↔ name ∈ statement.bindings.names ∧
        ¬statement.whereClause.Addresses name ∧ ¬statement.whereClause.Withholds name) ∧
      ((∀ name ∈ statement.bindings.names, ¬statement.whereClause.Withholds name) →
        ∀ name, name ∈ assigned ↔
          name ∈ statement.bindings.names ∧ ¬statement.whereClause.Addresses name) ∧
      (target.compile statement = .error (.missingBindings .update) ↔ assigned = []) ∧
      (assigned ≠ [] → target.compile statement = .ok (Text.join " " (
        ["UPDATE", target.firstTable statement.tables,
          "SET " ++ writeAssignments (assigned.map target.assignment)] ++
        (if body = "" then [] else ["WHERE " ++ body]) ++ target.orderAndPage statement))) := by
  let assigned := statement.bindings.names.filter fun name =>
    !(addressingNames statement.whereClause).contains name
  have member (name : String) : name ∈ assigned ↔ name ∈ statement.bindings.names ∧
      ¬statement.whereClause.Addresses name ∧ ¬statement.whereClause.Withholds name := by
    simp only [assigned, List.mem_filter, Bool.not_eq_true', List.contains_eq_mem,
      decide_eq_false_iff_not, Clause.mem_addressingNames_iff, not_or]
  have changes : target.changes statement = assigned.map target.assignment := rfl
  have nothing : target.changes statement = [] ↔ assigned = [] := by
    rw [changes, List.map_eq_nil_iff]
  rw [target.compile_change change tables rendered]
  refine ⟨assigned, List.filter_sublist, statement.bindings.nodup.filter _, member, ?_, ?_, ?_⟩
  · intro plain name
    rw [member]
    exact ⟨fun listed => ⟨listed.1, listed.2.1⟩,
      fun listed => ⟨listed.1, listed.2, plain name listed.1⟩⟩
  · by_cases none : assigned = []
    · rw [if_pos (nothing.mpr none)]
      exact iff_of_true rfl none
    · rw [if_neg (mt nothing.mp none)]
      exact iff_of_false (fun same => by cases same) none
  · intro some
    rw [if_neg (mt nothing.mp some), changes]

/-- A change of rows with a key in a group, a comparison outside groups and a piece of text. -/
def sampleChange (text : String) : Statement where
  action := .update
  tables := [⟨"users", none⟩]
  whereClause :=
    .group
      (.condition { kind := .key, column := "id", operator := .inList
                    operand := .named ["id0", "id1"], masked := false } <|
        .single { column := "name", operator := .isNotNull }) <|
    .condition { column := "role", operand := .scalar (.text "guest") } <|
    .single (.ofText text .and)
  bindings := .ofPairs [("id0", .int 3), ("name", .text "ann"), ("role", .text "admin"),
    ("id1", .int 4), ("active", .bool false)]

/-- The change assigns what is neither compared outside groups nor a marker of the key. -/
theorem sampleChange_assigns_rest :
    (sampleChange "active > 0").action = .update ∧ (sampleChange "active > 0").tables ≠ [] ∧
    Target.clause ⟨.generic, none⟩ (sampleChange "active > 0").whereClause =
      .ok "(\"id\" IN(:id0, :id1) AND \"name\" IS NOT NULL) AND \"role\" = ? AND active > 0" ∧
    (∀ name ∈ (sampleChange "active > 0").bindings.names,
      ¬(sampleChange "active > 0").whereClause.Withholds name) ∧
    ∃ assigned : List String,
      assigned.Sublist (sampleChange "active > 0").bindings.names ∧ assigned.Nodup ∧
      (∀ name, name ∈ assigned ↔ name = "name" ∨ name = "active") ∧
      Target.compile ⟨.generic, none⟩ (sampleChange "active > 0") =
        .ok ("UPDATE \"users\" SET \"name\" = :name, \"active\" = :active WHERE " ++
          "(\"id\" IN(:id0, :id1) AND \"name\" IS NOT NULL) AND \"role\" = ? AND active > 0") := by
  have tables : (sampleChange "active > 0").tables ≠ [] := by decide
  have rendered : Target.clause ⟨.generic, none⟩ (sampleChange "active > 0").whereClause =
      .ok "(\"id\" IN(:id0, :id1) AND \"name\" IS NOT NULL) AND \"role\" = ? AND active > 0" :=
    rfl
  have plain : ∀ name ∈ (sampleChange "active > 0").bindings.names,
      ¬(sampleChange "active > 0").whereClause.Withholds name := by decide
  have rest : ∀ name, name ∈ (sampleChange "active > 0").bindings.names ∧
      ¬(sampleChange "active > 0").whereClause.Addresses name ↔
        name = "name" ∨ name = "active" := by
    intro name
    constructor
    · rintro ⟨listed, free⟩
      revert name
      decide
    · rintro (rfl | rfl) <;> decide
  obtain ⟨assigned, ordered, once, -, exactly, -, -⟩ :=
    compile_assigns_rest ⟨.generic, none⟩ rfl tables rendered
  exact ⟨rfl, tables, rendered, plain, assigned, ordered, once,
    fun name => (exactly plain name).trans (rest name), rfl⟩

/-- A piece of text that is the name of a binding keeps the binding from the assignments, although
the text compares no column. -/
theorem piece_of_text_withholds :
    "active" ∈ (sampleChange "active").bindings.names ∧
    ¬(sampleChange "active").whereClause.Addresses "active" ∧
    Target.compile ⟨.generic, none⟩ (sampleChange "active") =
      .ok ("UPDATE \"users\" SET \"name\" = :name WHERE " ++
        "(\"id\" IN(:id0, :id1) AND \"name\" IS NOT NULL) AND \"role\" = ? AND active") :=
  ⟨by decide, by decide, rfl⟩

end Target

end Crud
