import Crud.Clause

/-!
# Laws of clauses

What the functions on clauses do to a clause that is put together from smaller ones, and which
conditions show their operand. The laws of statements are derived from these and unfold no function
on clauses again.
-/

namespace Crud

/-- The text of the condition shows its operand. Raw text and the operators that ask about the
column alone show none. -/
def Condition.showsOperand (condition : Condition) : Bool :=
  condition.kind != .raw && !condition.operator.valueless

/-- A condition that does not show its operand adds no positional value. -/
def Condition.HidesNoValue (condition : Condition) : Prop :=
  condition.showsOperand = false → condition.operand.values = []

instance : DecidablePred Condition.HidesNoValue := fun condition =>
  inferInstanceAs (Decidable (condition.showsOperand = false → condition.operand.values = []))

/-- A condition whose operand has no value hides none. -/
theorem Condition.hidesNoValue_of_values_eq_nil {condition : Condition}
    (none : condition.operand.values = []) : condition.HidesNoValue :=
  fun _ => none

/-- A condition that shows its operand hides no value. -/
theorem Condition.hidesNoValue_of_showsOperand {condition : Condition}
    (shown : condition.showsOperand = true) : condition.HidesNoValue := by
  intro hidden
  rw [shown] at hidden
  contradiction

namespace Clause

/-- Nothing before a clause. -/
@[simp]
theorem empty_append (after : Clause) : empty ++ after = after := rfl

/-- Appending goes past a condition. -/
@[simp]
theorem condition_append (head : Condition) (rest after : Clause) :
    condition head rest ++ after = condition head (rest ++ after) := rfl

/-- Appending goes past a group. -/
@[simp]
theorem group_append (inner rest after : Clause) :
    group inner rest ++ after = group inner (rest ++ after) := rfl

/-- Nothing after a clause. -/
@[simp]
theorem append_empty (clause : Clause) : clause ++ empty = clause := by
  induction clause with
  | empty => rfl
  | condition head rest ih => rw [condition_append, ih]
  | group inner rest _ ih => rw [group_append, ih]

/-- Appending is associative. -/
theorem append_assoc (first second third : Clause) :
    first ++ second ++ third = first ++ (second ++ third) := by
  induction first with
  | empty => rfl
  | condition head rest ih => simp only [condition_append, ih]
  | group inner rest _ ih => simp only [group_append, ih]

/-- The conditions of two clauses in order. -/
@[simp]
theorem conditions_append (before after : Clause) :
    (before ++ after).conditions = before.conditions ++ after.conditions := by
  induction before with
  | empty => rfl
  | condition head rest ih => simp only [condition_append, conditions, ih, List.cons_append]
  | group inner rest _ ih => simp only [group_append, conditions, ih, List.append_assoc]

/-- The operands of the conditions at any depth, in reading order. -/
def operands (clause : Clause) : List Operand := clause.conditions.map (·.operand)

/-- The operands of two clauses in order. -/
theorem operands_append (before after : Clause) :
    (before ++ after).operands = before.operands ++ after.operands := by
  rw [operands, conditions_append, List.map_append]
  rfl

/-- The positional values are those of the operands. -/
theorem values_eq_flatMap (clause : Clause) :
    clause.values = clause.operands.flatMap (·.values) := by
  rw [operands, List.flatMap_map]
  induction clause with
  | empty => rfl
  | condition head rest ih => rw [values, conditions, List.flatMap_cons, ih]
  | group inner rest ihInner ihRest =>
    rw [values, conditions, List.flatMap_append, ihInner, ihRest]

/-- The markers are those of the operands. -/
theorem bindingNames_eq_flatMap (clause : Clause) :
    clause.bindingNames = clause.operands.flatMap (·.bindingNames) := by
  rw [operands, List.flatMap_map]
  induction clause with
  | empty => rfl
  | condition head rest ih => rw [bindingNames, conditions, List.flatMap_cons, ih]
  | group inner rest ihInner ihRest =>
    rw [bindingNames, conditions, List.flatMap_append, ihInner, ihRest]

/-- The positional values of two clauses in order. -/
@[simp]
theorem values_append (before after : Clause) :
    (before ++ after).values = before.values ++ after.values := by
  simp only [values_eq_flatMap, operands_append, List.flatMap_append]

/-- The markers of two clauses in order. -/
theorem bindingNames_append (before after : Clause) :
    (before ++ after).bindingNames = before.bindingNames ++ after.bindingNames := by
  simp only [bindingNames_eq_flatMap, operands_append, List.flatMap_append]

/-- The positional values of one condition. -/
@[simp]
theorem values_single (head : Condition) : (single head).values = head.operand.values :=
  List.append_nil _

/-- The markers of one condition. -/
theorem bindingNames_single (head : Condition) :
    (single head).bindingNames = head.operand.bindingNames :=
  List.append_nil _

/-- The one condition of a clause of one condition. -/
@[simp]
theorem conditions_single (head : Condition) : (single head).conditions = [head] := rfl

/-- The conditions of a clause without groups. -/
@[simp]
theorem conditions_ofList (conditions : List Condition) :
    (ofList conditions).conditions = conditions := by
  induction conditions with
  | nil => rfl
  | cons head rest ih => exact congrArg (head :: ·) ih

/-- Two clauses without groups in order are one. -/
theorem ofList_append (first second : List Condition) :
    ofList (first ++ second) = ofList first ++ ofList second := by
  induction first with
  | nil => rfl
  | cons head rest ih => exact congrArg (condition head) ih

/-- Another connector at the end adds no element and takes none away. -/
theorem isEmpty_rebind (connector : Connector) (clause : Clause) :
    (clause.rebind connector).isEmpty = clause.isEmpty := by
  cases clause with
  | empty => rfl
  | condition head rest =>
    unfold rebind
    split <;> rfl
  | group inner rest =>
    unfold rebind
    split <;> rfl

/-- Another connector at the end changes no operand. -/
theorem operands_rebind (connector : Connector) (clause : Clause) :
    (clause.rebind connector).operands = clause.operands := by
  unfold operands
  induction clause with
  | empty => rfl
  | condition head rest ih =>
    unfold rebind
    split
    · rfl
    · rw [conditions, List.map_cons, ih, conditions, List.map_cons]
  | group inner rest ihInner ihRest =>
    unfold rebind
    split
    · rw [conditions, List.map_append, ihInner, conditions, List.map_append]
    · rw [conditions, List.map_append, ihRest, conditions, List.map_append]

/-- Another connector at the end keeps whatever holds of every condition and does not depend on
its connector. -/
theorem forall_conditions_rebind {holds : Condition → Prop} {connector : Connector}
    (blind : ∀ condition, holds condition → holds { condition with connector := connector })
    {clause : Clause} (all : ∀ condition ∈ clause.conditions, holds condition) :
    ∀ condition ∈ (clause.rebind connector).conditions, holds condition := by
  induction clause with
  | empty => exact all
  | condition head rest ih =>
    simp only [conditions, List.forall_mem_cons] at all
    unfold rebind
    split
    · simp only [conditions, List.forall_mem_cons]
      exact ⟨blind head all.1, all.2⟩
    · simp only [conditions, List.forall_mem_cons]
      exact ⟨all.1, ih all.2⟩
  | group inner rest ihInner ihRest =>
    simp only [conditions, List.forall_mem_append] at all
    unfold rebind
    split
    · simp only [conditions, List.forall_mem_append]
      exact ⟨ihInner all.1, all.2⟩
    · simp only [conditions, List.forall_mem_append]
      exact ⟨all.1, ihRest all.2⟩

end Clause

end Crud
