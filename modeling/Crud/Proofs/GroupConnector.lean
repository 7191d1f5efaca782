import Crud.Proofs.Growth
import Crud.Proofs.KeptConditions

/-!
# Binding a group to what follows

A nest that is given a connector puts it on the condition in which its clause ends, however many
groups at the end of the clause have to be entered to find it. That condition is the last one of
every group around it, and the connector of a last condition is not written, so the new connector
shows in one place only: behind the parentheses of the nest.
-/

namespace Crud

namespace Clause

/-- The clause that ends in a condition. The condition stands behind a front, or in a group behind
it that ends in the condition; the fronts of the groups are listed from the outside in. -/
def endingIn (last : Condition) : Clause → List Clause → Clause
  | front, [] => front ++ single last
  | front, inner :: deeper => front ++ group (endingIn last inner deeper) empty

/-- A condition stands before the front of what follows it. -/
theorem condition_endingIn (head last : Condition) (front : Clause) (deeper : List Clause) :
    condition head (endingIn last front deeper) = endingIn last (condition head front) deeper := by
  cases deeper <;> rfl

/-- A group stands before the front of what follows it. -/
theorem group_endingIn (inner : Clause) (last : Condition) (front : Clause)
    (deeper : List Clause) :
    group inner (endingIn last front deeper) = endingIn last (group inner front) deeper := by
  cases deeper <;> rfl

/-- Going to the last element, and on through groups, finds the condition. -/
theorem exists_endingIn {clause : Clause} (ends : clause.endsInCondition = true) :
    ∃ last front deeper, clause = endingIn last front deeper := by
  induction clause with
  | empty => contradiction
  | condition head rest ih =>
    rw [endsInCondition] at ends
    split at ends
    next isLast =>
      rw [eq_empty_of_isEmpty isLast]
      exact ⟨head, empty, [], rfl⟩
    next =>
      obtain ⟨last, front, deeper, rfl⟩ := ih ends
      exact ⟨last, _, deeper, condition_endingIn head last front deeper⟩
  | group inner rest ihInner ihRest =>
    rw [endsInCondition] at ends
    split at ends
    next isLast =>
      obtain ⟨last, front, deeper, rfl⟩ := ihInner ends
      rw [eq_empty_of_isEmpty isLast]
      exact ⟨last, empty, front :: deeper, rfl⟩
    next =>
      obtain ⟨last, front, deeper, rfl⟩ := ihRest ends
      exact ⟨last, _, deeper, group_endingIn inner last front deeper⟩

section Append

variable {after : Clause} (some : after.isEmpty = false)

include some

/-- Something comes after the elements of a front. -/
theorem isEmpty_append (front : Clause) : (front ++ after).isEmpty = false := by
  cases front with
  | empty => exact some
  | condition | group => rfl

/-- Two clauses end as the second one does. -/
theorem endsInCondition_append (front : Clause) :
    (front ++ after).endsInCondition = after.endsInCondition := by
  induction front with
  | empty => rfl
  | condition head rest ih =>
    rw [condition_append, endsInCondition, isEmpty_append some, if_neg Bool.false_ne_true, ih]
  | group inner rest _ ih =>
    rw [group_append, endsInCondition, isEmpty_append some, if_neg Bool.false_ne_true, ih]

/-- Another connector at the end leaves the front as it is. -/
theorem rebind_append (connector : Connector) (front : Clause) :
    (front ++ after).rebind connector = front ++ after.rebind connector := by
  induction front with
  | empty => rfl
  | condition head rest ih =>
    rw [condition_append, rebind, isEmpty_append some, if_neg Bool.false_ne_true, ih,
      condition_append]
  | group inner rest _ ih =>
    rw [group_append, rebind, isEmpty_append some, if_neg Bool.false_ne_true, ih, group_append]

end Append

/-- The clause ends in the condition. -/
theorem endsInCondition_endingIn (last : Condition) (front : Clause) (deeper : List Clause) :
    (endingIn last front deeper).endsInCondition = true := by
  induction deeper generalizing front with
  | nil =>
    rw [endingIn, endsInCondition_append rfl]
    rfl
  | cons inner deeper ih =>
    rw [endingIn, endsInCondition_append rfl]
    exact ih inner

/-- Another connector at the end is one on the condition in which the clause ends. -/
theorem rebind_endingIn (connector : Connector) (last : Condition) (front : Clause)
    (deeper : List Clause) :
    (endingIn last front deeper).rebind connector =
      endingIn { last with connector } front deeper := by
  induction deeper generalizing front with
  | nil =>
    rw [endingIn, rebind_append rfl]
    rfl
  | cons inner deeper ih =>
    rw [endingIn, rebind_append rfl, endingIn, ← ih inner]
    rfl

/-- A clause that ends in no condition has none for another connector. -/
theorem rebind_of_endsInCondition_eq_false (connector : Connector) {clause : Clause}
    (ends : clause.endsInCondition = false) : clause.rebind connector = clause := by
  induction clause with
  | empty => rfl
  | condition head rest ih =>
    rw [endsInCondition] at ends
    rw [rebind]
    split at ends
    next => contradiction
    next more => rw [if_neg more, ih ends]
  | group inner rest ihInner ihRest =>
    rw [endsInCondition] at ends
    rw [rebind]
    split at ends
    next isLast => rw [if_pos isLast, ihInner ends]
    next more => rw [if_neg more, ihRest ends]

/-- Every group has an element, at any depth. -/
def groupsFilled : Clause → Bool
  | empty => true
  | condition _ rest => rest.groupsFilled
  | group inner rest => !inner.isEmpty && inner.groupsFilled && rest.groupsFilled

/-- Without empty groups, a clause with an element ends in a condition. -/
theorem endsInCondition_of_groupsFilled {clause : Clause} (filled : clause.groupsFilled = true)
    (some : clause.isEmpty = false) : clause.endsInCondition = true := by
  induction clause with
  | empty => contradiction
  | condition head rest ih =>
    rw [endsInCondition]
    split
    next => rfl
    next more => exact ih filled (Bool.not_eq_true _ ▸ more)
  | group inner rest ihInner ihRest =>
    simp only [groupsFilled, Bool.and_eq_true, Bool.not_eq_true'] at filled
    rw [endsInCondition]
    split
    next => exact ihInner filled.1.2 filled.1.1
    next more => exact ihRest filled.2 (Bool.not_eq_true _ ▸ more)

/-- Two clauses have no empty group when neither has one. -/
theorem groupsFilled_append {before after : Clause} (first : before.groupsFilled = true)
    (second : after.groupsFilled = true) : (before ++ after).groupsFilled = true := by
  induction before with
  | empty => exact second
  | condition head rest ih => exact ih first
  | group inner rest _ ih =>
    simp only [groupsFilled, Bool.and_eq_true] at first
    simp only [group_append, groupsFilled, first.1, ih first.2, Bool.and_self]

/-- Another connector at the end empties no group. -/
theorem groupsFilled_rebind (connector : Connector) {clause : Clause}
    (filled : clause.groupsFilled = true) : (clause.rebind connector).groupsFilled = true := by
  induction clause with
  | empty => rfl
  | condition head rest ih =>
    rw [rebind]
    split
    · exact filled
    · exact ih filled
  | group inner rest ihInner ihRest =>
    simp only [groupsFilled, Bool.and_eq_true] at filled
    rw [rebind]
    split
    · simp only [groupsFilled, isEmpty_rebind, filled.1.1, ihInner filled.1.2, filled.2,
        Bool.and_self]
    · simp only [groupsFilled, filled.1, ihRest filled.2, Bool.and_self]

/-- A nest adds no empty group. -/
theorem groupsFilled_bracketed {clause : Clause} (filled : clause.groupsFilled = true)
    (connector : Option Connector) : (clause.bracketed connector).groupsFilled = true := by
  unfold bracketed
  split
  next => rfl
  next some =>
    rw [Bool.not_eq_true] at some
    cases connector with
    | none => simp only [groupsFilled, some, filled, Bool.not_false, Bool.and_self]
    | some connector =>
      simp only [groupsFilled, isEmpty_rebind, some, groupsFilled_rebind connector filled,
        Bool.not_false, Bool.and_self]

/-- A list of conditions has no groups, so none that is empty. -/
theorem groupsFilled_ofList (conditions : List Condition) :
    (ofList conditions).groupsFilled = true := by
  induction conditions with
  | nil => rfl
  | cons head rest ih => exact ih

end Clause

/-- The step adds conditions on rows, with any values for them, and never fails. -/
def Step.fillsRows : Step → Bool
  | compare .. | like .. | search .. | between .. | subquery .. | texts .. => true
  | _ => false

/-- Every step of the script adds conditions on rows, and so does every step of its nests. -/
def Script.fillsRows : Script → Bool
  | done => true
  | step head rest => head.fillsRows && rest.fillsRows
  | nest inner _ rest => inner.fillsRows && rest.fillsRows

/-- The second statement is the first one with conditions added to its rows, in groups that are not
empty. Nothing is said of anything else. -/
def Statement.FilledFrom (start finish : Statement) : Prop :=
  ∃ rows, rows.groupsFilled = true ∧ finish.whereClause = start.whereClause ++ rows

/-- What a step adds to the rows has no empty group. -/
theorem Step.exists_run_filled {step : Step} (fills : step.fillsRows = true) (start : Statement) :
    ∃ finish, step.run start = .ok finish ∧ start.FilledFrom finish := by
  cases step with
  | compare | like | search | between | subquery => exact ⟨_, rfl, _, rfl, rfl⟩
  | texts pieces values connectors =>
    exact ⟨_, rfl, _, Clause.groupsFilled_ofList (Condition.ofTexts pieces connectors), rfl⟩
  | _ => contradiction

/-- What a script adds to the rows has no empty group. -/
theorem Script.exists_run_filled {script : Script} (fills : script.fillsRows = true)
    (start : Statement) : ∃ finish, script.run start = .ok finish ∧ start.FilledFrom finish := by
  induction script generalizing start with
  | done => exact ⟨start, rfl, .empty, rfl, (Clause.append_empty _).symm⟩
  | step head rest ih =>
    rw [fillsRows, Bool.and_eq_true] at fills
    obtain ⟨middle, first, rows, filled, added⟩ := Step.exists_run_filled fills.1 start
    obtain ⟨finish, others, more, filledMore, addedMore⟩ := ih fills.2 middle
    refine ⟨finish, run_step_eq_ok.mpr ⟨middle, first, others⟩, rows ++ more,
      Clause.groupsFilled_append filled filledMore, ?_⟩
    rw [addedMore, added, Clause.append_assoc]
  | nest inner connector rest ihInner ihRest =>
    rw [fillsRows, Bool.and_eq_true] at fills
    obtain ⟨child, built, body, filled, added⟩ := ihInner fills.1 start.nested
    have nested : start.nest inner.run connector = .ok (start.addGroup child connector) := by
      rw [Statement.nest, built, Except.map]
    obtain ⟨finish, others, more, filledMore, addedMore⟩ :=
      ihRest fills.2 (start.addGroup child connector)
    refine ⟨finish, run_nest_eq_ok.mpr ⟨_, nested, others⟩, body.bracketed connector ++ more,
      Clause.groupsFilled_append (Clause.groupsFilled_bracketed filled connector) filledMore, ?_⟩
    have bracketed : (start.addGroup child connector).whereClause =
        start.whereClause ++ body.bracketed connector := by
      have isBody : child.whereClause = body := added
      rw [← isBody]
      rfl
    rw [addedMore, bracketed, Clause.append_assoc]

/-- Before the last two elements comes a text that depends on neither. -/
theorem exists_joinConnected_pair (front : List (String × Connector)) :
    ∃ before : String, ∀ (text last : String) (connector behind : Connector),
      joinConnected (front ++ [(text, connector), (last, behind)]) =
        before ++ text ++ " " ++ connector.name ++ " " ++ last := by
  induction front with
  | nil => exact ⟨"", fun text last connector behind => by rw [String.empty_append]; rfl⟩
  | cons head rest ih =>
    obtain ⟨before, joined⟩ := ih
    refine ⟨head.1 ++ " " ++ head.2.name ++ " " ++ before, fun text last connector behind => ?_⟩
    rw [List.cons_append, joinConnected_cons (by simp), joined]
    simp only [String.append_assoc]

namespace Target

variable (target : Target)

/-- The elements of two clauses in order. -/
theorem elements_append (before after : Clause) :
    target.elements (before ++ after) = (do
      let first ← target.elements before
      let more ← target.elements after
      .ok (first ++ more)) := by
  induction before with
  | empty => cases ran : target.elements after <;> simp [ran, elements, bind, Except.bind]
  | condition head rest ih =>
    rw [Clause.condition_append, elements, elements, ih]
    cases target.condition head <;> cases target.elements rest <;> cases target.elements after <;>
      rfl
  | group inner rest _ ih =>
    rw [Clause.group_append, elements_group, elements_group, ih]
    cases target.clause inner <;> cases target.elements rest <;> cases target.elements after <;>
      try rfl
    next body more others =>
      show Except.ok _ = Except.ok _
      by_cases blank : body = ""
      · simp only [if_pos blank]
      · simp only [if_neg blank, List.cons_append]

/-- A nest and a condition behind it. Their text depends on the connector of the nest in one place,
behind the parentheses. -/
theorem clause_nested {rows : Clause} (filled : rows.groupsFilled = true)
    (some : rows.isEmpty = false) (front : Clause) (connector : Option Connector)
    (next : Condition) :
    target.clause (front ++ rows.bracketed connector ++ .single next) = (do
      let before ← target.elements front
      let body ← target.clause rows
      let last ← target.condition next
      .ok (joinConnected (before ++
        if body = "" then [(last, next.connector)]
        else [("(" ++ body ++ ")", connector.getD rows.lastConnector),
          (last, next.connector)]))) := by
  have ends := Clause.endsInCondition_of_groupsFilled filled some
  obtain ⟨inner, isGroup, sameText, binds⟩ : ∃ inner,
      rows.bracketed connector = .group inner .empty ∧ target.clause inner = target.clause rows ∧
        inner.lastConnector = connector.getD rows.lastConnector := by
    unfold Clause.bracketed
    rw [some, if_neg Bool.false_ne_true]
    cases connector with
    | none => exact ⟨rows, rfl, rfl, rfl⟩
    | some connector =>
      exact ⟨_, rfl, target.clause_rebind connector rows,
        Clause.lastConnector_rebind connector ends⟩
  have behind : target.elements (.single next) = (do
      let last ← target.condition next
      .ok [(last, next.connector)]) := by
    rw [Clause.single, elements]
    cases target.condition next <;> rfl
  rw [Target.clause, isGroup, Clause.append_assoc, elements_append, elements_append, elements_group,
    behind, sameText, binds]
  cases target.elements front <;> cases target.clause rows <;> cases target.condition next <;>
    try rfl
  next before body last =>
    show Except.ok _ = Except.ok _
    by_cases blank : body = ""
    · simp only [if_pos blank, List.nil_append]
    · simp only [if_neg blank, List.cons_append, List.nil_append]

/-- The text of a clause with a nest and a condition behind it. Whatever connector the nest is
given, there is one error for all, or there are a front, a body and a back for all, and the
connector between the parentheses of the body and the back is the given one, or else that of the
condition in which the clause of the nest ends. Only with a dialect that writes some condition
without a character there may be one text for all, in which the nest does not show. -/
theorem clause_nested_cases {rows : Clause} (filled : rows.groupsFilled = true)
    (some : rows.conditions ≠ []) (visible : ∀ condition ∈ rows.conditions, ¬condition.Blank)
    (front : Clause) (next : Condition) :
    (∃ error, ∀ connector,
      target.clause (front ++ rows.bracketed connector ++ .single next) = .error error) ∨
    (¬target.dialect.RendersText ∧ target.clause rows = .ok "" ∧ ∃ text, ∀ connector,
      target.clause (front ++ rows.bracketed connector ++ .single next) = .ok text) ∨
    ∃ before body back, target.clause rows = .ok body ∧ ∀ connector : Option Connector,
      target.clause (front ++ rows.bracketed connector ++ .single next) =
        .ok (before ++ "(" ++ body ++ ") " ++ (connector.getD rows.lastConnector).name ++ " " ++
          back) := by
  have element : rows.isEmpty = false := by
    cases rows with
    | empty => contradiction
    | condition | group => rfl
  simp only [target.clause_nested filled element]
  cases target.elements front with
  | error error => exact .inl ⟨error, fun _ => rfl⟩
  | ok elements =>
    cases rendered : target.clause rows with
    | error error => exact .inl ⟨error, fun _ => rfl⟩
    | ok body =>
      cases target.condition next with
      | error error => exact .inl ⟨error, fun _ => rfl⟩
      | ok last =>
        by_cases blank : body = ""
        · have unwritten : ¬target.dialect.RendersText := fun renders =>
            some ((body_eq_empty_iff renders visible rendered).mp blank)
          refine .inr (.inl ⟨unwritten, congrArg Except.ok blank,
            joinConnected (elements ++ [(last, next.connector)]), fun connector => ?_⟩)
          show Except.ok _ = Except.ok _
          rw [if_pos blank]
        · obtain ⟨before, joined⟩ := exists_joinConnected_pair elements
          refine .inr (.inr ⟨before, body, last, rfl, fun connector => ?_⟩)
          show Except.ok _ = Except.ok _
          rw [if_neg blank, joined]
          simp only [String.append_assoc]
          rfl

/-- Another connector at the end of a clause is one on the condition that is found by going to the
last element and on through groups, and changes nothing else; there is such a condition exactly when
the clause ends in one. It changes no text of the clause and binds the clause, as a group, to what
follows it. So a nest of conditions that is given a connector, with a comparison behind it, has the
text of the nest without one but for the connector behind its parentheses, or the same error. With a
dialect that writes some condition without a character, the nest may be written without one too,
and then the texts are the same. -/
theorem rebind_shows_behind_group (clause : Clause) (connector : Connector) :
    (clause.endsInCondition = true ↔ ∃ last front deeper, clause = .endingIn last front deeper) ∧
    (∀ last front deeper, clause = .endingIn last front deeper →
      clause.rebind connector = .endingIn { last with connector } front deeper) ∧
    (clause.endsInCondition = false → clause.rebind connector = clause) ∧
    target.clause (clause.rebind connector) = target.clause clause ∧
    (clause.endsInCondition = true → (clause.rebind connector).lastConnector = connector) ∧
    ∀ (parent : Statement) (inner : Script) (column : String) (argument : Argument)
      (operator : Operator) (next : Connector), inner.fillsRows = true →
      ∃ child, inner.run parent.nested = .ok child ∧
        (child.whereClause.conditions ≠ [] →
          (∀ condition ∈ child.whereClause.conditions, ¬condition.Blank) →
          ∃ bound free : Statement,
            (Script.nest inner (some connector)
              (.step (.compare column argument operator next) .done)).run parent = .ok bound ∧
            (Script.nest inner none
              (.step (.compare column argument operator next) .done)).run parent = .ok free ∧
            ((∃ error, target.clause bound.whereClause = .error error ∧
                target.clause free.whereClause = .error error) ∨
              (¬target.dialect.RendersText ∧ target.clause child.whereClause = .ok "" ∧
                ∃ text, target.clause bound.whereClause = .ok text ∧
                  target.clause free.whereClause = .ok text) ∨
              ∃ before body back, target.clause child.whereClause = .ok body ∧
                target.clause bound.whereClause =
                  .ok (before ++ "(" ++ body ++ ") " ++ connector.name ++ " " ++ back) ∧
                target.clause free.whereClause =
                  .ok (before ++ "(" ++ body ++ ") " ++
                    child.whereClause.lastConnector.name ++ " " ++ back))) := by
  refine ⟨⟨Clause.exists_endingIn, ?_⟩, ?_,
    Clause.rebind_of_endsInCondition_eq_false connector, target.clause_rebind connector clause,
    Clause.lastConnector_rebind connector, ?_⟩
  · rintro ⟨last, front, deeper, rfl⟩
    exact Clause.endsInCondition_endingIn last front deeper
  · rintro last front deeper rfl
    exact Clause.rebind_endingIn connector last front deeper
  · intro parent inner column argument operator next fills
    obtain ⟨child, built, rows, filled, added⟩ := Script.exists_run_filled fills parent.nested
    obtain rfl : child.whereClause = rows := added
    refine ⟨child, built, fun some visible => ?_⟩
    let compared (given : Option Connector) : Statement :=
      (parent.addGroup child given).compare column argument operator next
    have ran (given : Option Connector) :
        (Script.nest inner given
          (.step (.compare column argument operator next) .done)).run parent =
            .ok (compared given) := by
      rw [Script.run_nest, Statement.nest, built]
      rfl
    -- The comparison behind the nest is the same for both, as a nest leaves the lookup alone.
    let behind := parent.comparison column argument operator next
    have clauseOf (given : Option Connector) : (compared given).whereClause =
        parent.whereClause ++ child.whereClause.bracketed given ++ .single behind := rfl
    refine ⟨compared (.some connector), compared none, ran _, ran _, ?_⟩
    rw [clauseOf, clauseOf]
    obtain ⟨error, failed⟩ | ⟨unwritten, hidden, text, written⟩ |
        ⟨before, body, back, rendered, written⟩ :=
      target.clause_nested_cases filled some visible parent.whereClause behind
    · exact .inl ⟨error, failed _, failed _⟩
    · exact .inr (.inl ⟨unwritten, hidden, text, written _, written _⟩)
    · exact .inr (.inr ⟨before, body, back, rendered, written (.some connector), written none⟩)

/-- A comparison, and a nest that ends in a piece of text. -/
def sampleNest : Script :=
  .step (.equals "role" (.scalar (.text "admin"))) <|
  .nest
    (.step (.like true "name" (.scalar (.text "x%")) .or) <|
      .step (.texts ["score > 10"] [] [.xor]) .done)
    none .done

/-- The clause that the sample adds as a group. -/
def sampleNested : Clause :=
  .condition { column := "role", operand := .scalar (.text "admin") } <|
  .group
    (.condition
      { kind := .like, column := "name", operator := .notLike
        operand := .scalar (.text "x%"), connector := .or } <|
      .single (.ofText "score > 10" .xor))
    .empty

/-- A statement with one condition. -/
def sampleParent : Statement where
  action := .select
  whereClause := .single { column := "active", operator := .isTrue, connector := .or }

/-- The sample as a nest, with a comparison behind it. -/
def sampleBound (given : Option Connector) : Script :=
  .nest sampleNest given <| .step (.compare "gone" (.scalar (.bool false)) .equal .and) .done

/-- The connector of the piece of text stands behind both groups, and a given one in its place. -/
theorem sampleNest_binds_behind :
    (sampleNested.endsInCondition = true ∧ (sampleNested.rebind .or).lastConnector = .or) ∧
    Dialect.mysql.RendersText ∧ sampleNest.fillsRows = true ∧
    ∃ child, sampleNest.run sampleParent.nested = .ok child ∧ child.whereClause = sampleNested ∧
      child.whereClause.conditions ≠ [] ∧
      (∀ condition ∈ child.whereClause.conditions, ¬condition.Blank) ∧
      ∃ bound free, (sampleBound (some .or)).run sampleParent = .ok bound ∧
        (sampleBound none).run sampleParent = .ok free ∧
        Target.clause ⟨.mysql, none⟩ bound.whereClause =
          .ok ("\x60active\x60 IS TRUE OR (\x60role\x60 = ? AND " ++
            "(\x60name\x60 NOT LIKE ? OR score > 10)) OR \x60gone\x60 = ?") ∧
        Target.clause ⟨.mysql, none⟩ free.whereClause =
          .ok ("\x60active\x60 IS TRUE OR (\x60role\x60 = ? AND " ++
            "(\x60name\x60 NOT LIKE ? OR score > 10)) XOR \x60gone\x60 = ?") := by
  have ends : sampleNested.endsInCondition = true := by decide
  have renders : Dialect.mysql.RendersText :=
    Dialect.rendersText_of_shipped (by simp [Dialect.shipped])
  have fills : sampleNest.fillsRows = true := by decide
  obtain ⟨-, -, -, -, binds, nests⟩ :=
    rebind_shows_behind_group ⟨.mysql, none⟩ sampleNested .or
  obtain ⟨child, built, shows⟩ :=
    nests sampleParent sampleNest "gone" (.scalar (.bool false)) .equal .and fills
  have rows : child.whereClause = sampleNested := by
    have computed :
        (sampleNest.run sampleParent.nested).map (·.whereClause) = .ok sampleNested := rfl
    rw [built] at computed
    exact Except.ok.inj computed
  have present : child.whereClause.conditions ≠ [] := by
    rw [rows]
    decide
  have visible : ∀ condition ∈ child.whereClause.conditions, ¬condition.Blank := by
    have trimmed : ∀ condition ∈ sampleNested.conditions,
        ¬(condition.kind = .raw ∧ Text.trim condition.column = "") := by decide +kernel
    rw [rows]
    intro condition listed blank
    exact trimmed condition listed ⟨blank.1, Text.trim_eq_empty_iff.mpr blank.2⟩
  obtain ⟨bound, free, ranBound, ranFree, -⟩ := shows present visible
  have written {given : Option Connector} {finish : Statement} {text : String}
      (ran : (sampleBound given).run sampleParent = .ok finish)
      (computed : ((sampleBound given).run sampleParent).map
        (fun finish => Target.clause ⟨.mysql, none⟩ finish.whereClause) = .ok (.ok text)) :
      Target.clause ⟨.mysql, none⟩ finish.whereClause = .ok text := by
    rw [ran] at computed
    exact Except.ok.inj computed
  exact ⟨⟨ends, binds ends⟩, renders, fills, child, built, rows, present, visible, bound, free,
    ranBound, ranFree, written ranBound rfl, written ranFree rfl⟩

end Target

end Crud
