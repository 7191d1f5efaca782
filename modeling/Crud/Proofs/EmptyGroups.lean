import Crud.Proofs.TrailingConnector

/-!
# Groups without conditions

A group that holds no condition has no text, wherever it stands. It can still be noticed: a group
that ends in one is bound to what follows by AND, whatever the connector of its last condition is.
So the text of a clause is that of its conditions in the groups that hold any, with AND behind every
group that does not end in a condition. Where every group ends in a condition, the groups without
conditions leave no trace.
-/

namespace Crud

namespace Clause

/-- The clause without the groups that hold no condition, at any depth. -/
def pruned : Clause → Clause
  | empty => empty
  | condition head rest => condition head rest.pruned
  | group inner rest => if inner.size = 0 then rest.pruned else group inner.pruned rest.pruned

/-- The clause without the groups that hold no condition, and with AND on the last condition of
every group that does not end in a condition. -/
def settled : Clause → Clause
  | empty => empty
  | condition head rest => condition head rest.settled
  | group inner rest =>
    if inner.size = 0 then rest.settled
    else group (if inner.endsInCondition then inner.settled else inner.settled.rebind .and)
      rest.settled

/-- Every group that holds a condition ends in one, at any depth. -/
def groupsEndInConditions : Clause → Bool
  | empty => true
  | condition _ rest => rest.groupsEndInConditions
  | group inner rest =>
    (inner.size = 0 || inner.endsInCondition) && inner.groupsEndInConditions &&
      rest.groupsEndInConditions

/-- No connector has to be set where every group ends in a condition. -/
theorem settled_eq_pruned {clause : Clause} (closed : clause.groupsEndInConditions = true) :
    clause.settled = clause.pruned := by
  induction clause with
  | empty => rfl
  | condition head rest ih => rw [settled, pruned, ih closed]
  | group inner rest ihInner ihRest =>
    simp only [groupsEndInConditions, Bool.and_eq_true, Bool.or_eq_true, decide_eq_true_eq]
      at closed
    obtain ⟨⟨bare | ends, inside⟩, after⟩ := closed
    · rw [settled, pruned, if_pos bare, if_pos bare, ihRest after]
    · have some := size_ne_zero_of_endsInCondition ends
      rw [settled, pruned, if_neg some, if_neg some, if_pos ends, ihInner inside, ihRest after]

/-- Only of a clause without conditions nothing is left. -/
theorem isEmpty_settled (clause : Clause) : clause.settled.isEmpty = true ↔ clause.size = 0 := by
  induction clause with
  | empty => exact iff_of_true rfl rfl
  | condition head rest => simp [settled, isEmpty, size]
  | group inner rest _ ih =>
    rw [settled]
    split
    next bare => rw [ih, size, bare, Nat.zero_add]
    next some => simp [isEmpty, size, some]

/-- What is left of a clause with conditions ends in a condition. -/
theorem endsInCondition_settled {clause : Clause} (some : clause.size ≠ 0) :
    clause.settled.endsInCondition = true := by
  induction clause with
  | empty => contradiction
  | condition head rest ih =>
    rw [settled, endsInCondition]
    split
    next => rfl
    next more => exact ih (mt rest.isEmpty_settled.mpr more)
  | group inner rest ihInner ihRest =>
    rw [size] at some
    rw [settled]
    split
    next bare => exact ihRest (by omega)
    next visible =>
      rw [endsInCondition]
      split
      next =>
        split
        · exact ihInner visible
        · rw [endsInCondition_rebind, ihInner visible]
      next more => exact ihRest (mt rest.isEmpty_settled.mpr more)

/-- A clause that ends in a condition is bound to what follows as before. -/
theorem lastConnector_settled {clause : Clause} (ends : clause.endsInCondition = true) :
    clause.settled.lastConnector = clause.lastConnector := by
  induction clause with
  | empty => rfl
  | condition head rest ih =>
    rw [endsInCondition] at ends
    rw [settled, lastConnector, lastConnector]
    by_cases last : rest.isEmpty = true
    · rw [eq_empty_of_isEmpty last]
      rfl
    · rw [if_neg last] at ends ⊢
      have some := size_ne_zero_of_endsInCondition ends
      rw [if_neg (mt rest.isEmpty_settled.mp some), ih ends]
  | group inner rest ihInner ihRest =>
    rw [endsInCondition] at ends
    rw [settled, lastConnector]
    by_cases last : rest.isEmpty = true
    · rw [if_pos last] at ends ⊢
      have some := size_ne_zero_of_endsInCondition ends
      rw [eq_empty_of_isEmpty last, if_neg some, if_pos ends]
      exact ihInner ends
    · rw [if_neg last] at ends ⊢
      have some := size_ne_zero_of_endsInCondition ends
      by_cases bare : inner.size = 0
      · rw [if_pos bare, ihRest ends]
      · rw [if_neg bare, lastConnector, if_neg (mt rest.isEmpty_settled.mp some), ihRest ends]

end Clause

namespace Target

variable (target : Target)

/-- A clause without conditions has no element with text. -/
theorem elements_of_size_eq_zero {clause : Clause} (bare : clause.size = 0) :
    target.elements clause = .ok [] := by
  induction clause with
  | empty => rfl
  | condition head rest => simp [Clause.size] at bare
  | group inner rest ihInner ihRest =>
    rw [Clause.size, Nat.add_eq_zero_iff] at bare
    rw [elements, ihInner bare.1, ihRest bare.2]
    rfl

/-- A settled clause has the elements of the clause, with the same connectors. -/
theorem elements_settled (clause : Clause) :
    target.elements clause.settled = target.elements clause := by
  induction clause with
  | empty => rfl
  | condition head rest ih => rw [Clause.settled, elements, elements, ih]
  | group inner rest ihInner ihRest =>
    rw [Clause.settled]
    by_cases bare : inner.size = 0
    · rw [if_pos bare, ihRest, elements, target.elements_of_size_eq_zero bare]
      show target.elements rest = (target.elements rest >>= fun more => .ok more)
      cases target.elements rest <;> rfl
    · have sameBody : target.clause inner.settled = target.clause inner := by
        rw [Target.clause, Target.clause, ihInner]
      rw [if_neg bare, elements_group, elements_group, ihRest]
      cases ends : inner.endsInCondition with
      | true => rw [if_pos rfl, sameBody, Clause.lastConnector_settled ends]
      | false =>
        -- The connector of the last condition would be borrowed now, so it has been set to AND.
        have settledEnds := Clause.endsInCondition_settled bare
        rw [if_neg Bool.false_ne_true, target.clause_rebind, sameBody,
          Clause.lastConnector_rebind _ settledEnds,
          Clause.lastConnector_of_endsInCondition_eq_false ends]

/-- Groups without conditions have no text. A clause has the text, or the error, of its settled
clause: what is left without these groups, with AND behind every group that does not end in a
condition. Where every group that holds a condition ends in one, it has the text of what is left as
it stands. -/
theorem clause_without_bare_groups (clause : Clause) :
    target.clause clause.settled = target.clause clause ∧
    (clause.groupsEndInConditions = true → target.clause clause.pruned = target.clause clause) := by
  have same : target.clause clause.settled = target.clause clause := by
    rw [Target.clause, Target.clause, target.elements_settled]
  refine ⟨same, fun closed => ?_⟩
  rw [← Clause.settled_eq_pruned closed, same]

/-- A clause with groups that hold no condition before, between and behind its conditions. -/
def sampleBareGroups : Clause :=
  .group .empty <|
  .group
    (.group (.group .empty .empty) <|
      .condition { column := "a", operand := .scalar (.int 1) } <|
      .group (.group .empty (.group .empty .empty)) <|
      .single { column := "b", operator := .isNull, connector := .or }) <|
  .group (.group .empty .empty) <|
  .condition { column := "c", operator := .greater, operand := .column "d" } <|
  .group .empty .empty

/-- The groups of the sample that hold no condition leave no trace. -/
theorem sampleBareGroups_pruned :
    sampleBareGroups.groupsEndInConditions = true ∧
    Target.clause ⟨.sqlite, none⟩ sampleBareGroups.pruned =
      .ok "(\"a\" = ? AND \"b\" IS NULL) OR \"c\" > \"d\"" ∧
    Target.clause ⟨.sqlite, none⟩ sampleBareGroups.pruned =
      Target.clause ⟨.sqlite, none⟩ sampleBareGroups := by
  have closed : sampleBareGroups.groupsEndInConditions = true := by decide
  exact ⟨closed, rfl, (clause_without_bare_groups ⟨.sqlite, none⟩ sampleBareGroups).2 closed⟩

/-- A group that ends in a group without conditions is bound to what follows by AND, and without
that group by the connector of its last condition. -/
theorem bare_group_noticed :
    let clause : Clause :=
      .group (.condition { column := "a", operand := .scalar (.int 1), connector := .or } <|
        .group .empty .empty) <|
      .single { column := "b", operand := .scalar (.int 2) }
    Target.clause ⟨.generic, none⟩ clause = .ok "(\"a\" = ?) AND \"b\" = ?" ∧
    Target.clause ⟨.generic, none⟩ clause.pruned = .ok "(\"a\" = ?) OR \"b\" = ?" :=
  ⟨rfl, rfl⟩

end Target

end Crud
