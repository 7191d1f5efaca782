import Crud.Proofs.ClauseStructure
import Crud.Proofs.Masking

/-!
# The connector behind a clause

A clause in parentheses is bound to what follows by the connector of the condition in which it ends,
and by AND when it ends in none. That connector stands behind the parentheses: another one changes
no text between them.
-/

namespace Crud

/-- A computation agrees with itself. -/
theorem Agree.refl {ε α : Type} (outcome : Except ε α) : Agree Eq outcome outcome := by
  cases outcome with
  | error error => exact .error error
  | ok result => exact .ok rfl

namespace Clause

/-- A clause without elements is the empty one. -/
theorem eq_empty_of_isEmpty {clause : Clause} (none : clause.isEmpty = true) : clause = empty := by
  cases clause with
  | empty => rfl
  | condition | group => contradiction

/-- A clause that ends in a condition holds one. -/
theorem size_ne_zero_of_endsInCondition {clause : Clause} (ends : clause.endsInCondition = true) :
    clause.size ≠ 0 := by
  induction clause with
  | empty => contradiction
  | condition head rest => simp [size]
  | group inner rest ihInner ihRest =>
    rw [endsInCondition] at ends
    rw [size]
    split at ends
    · have some := ihInner ends
      omega
    · have some := ihRest ends
      omega

/-- A clause that ends in no condition is bound to what follows by AND. -/
theorem lastConnector_of_endsInCondition_eq_false {clause : Clause}
    (ends : clause.endsInCondition = false) : clause.lastConnector = .and := by
  induction clause with
  | empty => rfl
  | condition head rest ih =>
    rw [endsInCondition] at ends
    rw [lastConnector]
    split at ends
    · contradiction
    · rw [if_neg ‹_›, ih ends]
  | group inner rest ihInner ihRest =>
    rw [endsInCondition] at ends
    rw [lastConnector]
    split at ends
    · rw [if_pos ‹_›, ihInner ends]
    · rw [if_neg ‹_›, ihRest ends]

/-- Another connector does not change whether a clause ends in a condition. -/
@[simp]
theorem endsInCondition_rebind (connector : Connector) (clause : Clause) :
    (clause.rebind connector).endsInCondition = clause.endsInCondition := by
  induction clause with
  | empty => rfl
  | condition head rest ih =>
    unfold rebind
    split
    · rfl
    · simp only [endsInCondition, isEmpty_rebind, ih]
  | group inner rest ihInner ihRest =>
    unfold rebind
    split
    · simp only [endsInCondition, ihInner]
    · simp only [endsInCondition, isEmpty_rebind, ihRest]

/-- A clause that ends in a condition is bound to what follows by the connector it is given. -/
theorem lastConnector_rebind (connector : Connector) {clause : Clause}
    (ends : clause.endsInCondition = true) :
    (clause.rebind connector).lastConnector = connector := by
  induction clause with
  | empty => contradiction
  | condition head rest ih =>
    rw [endsInCondition] at ends
    unfold rebind
    by_cases last : rest.isEmpty = true
    · rw [if_pos last, lastConnector, if_pos last]
    · rw [if_neg last] at ends ⊢
      rw [lastConnector, isEmpty_rebind, if_neg last, ih ends]
  | group inner rest ihInner ihRest =>
    rw [endsInCondition] at ends
    unfold rebind
    by_cases last : rest.isEmpty = true
    · rw [if_pos last] at ends ⊢
      rw [lastConnector, if_pos last, ihInner ends]
    · rw [if_neg last] at ends ⊢
      rw [lastConnector, isEmpty_rebind, if_neg last, ihRest ends]

end Clause

namespace Target

variable (target : Target)

/-- Another connector at the end of a clause changes no text of its elements, and their joined text
neither, as the connector of the last element is not written. -/
theorem elements_rebind (connector : Connector) (clause : Clause) :
    Agree SameText (target.elements (clause.rebind connector)) (target.elements clause) := by
  induction clause with
  | empty => exact .ok (.refl [])
  | condition head rest ih =>
    unfold Clause.rebind
    split
    next last =>
      obtain rfl := Clause.eq_empty_of_isEmpty last
      refine (Agree.refl (target.condition head)).bind fun text text' same => ?_
      subst same
      exact .ok ⟨by simp, rfl⟩
    next =>
      refine (Agree.refl (target.condition head)).bind fun text text' same => ?_
      subst same
      refine ih.bind fun more more' others => ?_
      exact .ok (others.cons _)
  | group inner rest ihInner ihRest =>
    unfold Clause.rebind
    split
    next last =>
      obtain rfl := Clause.eq_empty_of_isEmpty last
      refine ihInner.bind fun body body' bodies => ?_
      show Agree SameText (.ok (if _ = "" then _ else _)) (.ok (if _ = "" then _ else _))
      rw [bodies.text]
      split
      · exact .ok (.refl _)
      · exact .ok ⟨by simp, rfl⟩
    next =>
      refine (Agree.refl (target.elements inner)).bind fun body body' bodies => ?_
      subst bodies
      refine ihRest.bind fun more more' others => ?_
      split
      · exact .ok others
      · exact .ok (others.cons _)

/-- The connector at the end of a clause does not show in its text. -/
theorem clause_rebind (connector : Connector) (clause : Clause) :
    target.clause (clause.rebind connector) = target.clause clause := by
  have agree := target.elements_rebind connector clause
  unfold Target.clause
  generalize target.elements (clause.rebind connector) = rebound at agree ⊢
  generalize target.elements clause = plain at agree ⊢
  cases agree with
  | error error => rfl
  | ok same => exact congrArg Except.ok same.text

/-- A group is rendered through the text of the clause in it. -/
theorem elements_group (inner rest : Clause) :
    target.elements (.group inner rest) = (do
      let body ← target.clause inner
      let more ← target.elements rest
      .ok (if body = "" then more else ("(" ++ body ++ ")", inner.lastConnector) :: more)) := by
  rw [Target.elements, Target.clause]
  cases target.elements inner <;> rfl

end Target

end Crud
