import Crud.Proofs.CompileFaults
import Crud.Proofs.EmptyGroups
import Crud.Proofs.Trimming

/-!
# Conditions are kept

The text of every condition stands in the text of its clause, however deep the condition is, and it
has characters unless the condition is a blank piece of text. So the clause of a statement has
characters exactly when there is a condition in it, and a statement that changes or removes rows
carries all its conditions.
-/

namespace Crud

namespace Text

/-- Trimming leaves nothing exactly of blanks. -/
theorem trim_eq_empty_iff {text : String} :
    trim text = "" ↔ ∀ char ∈ text.toList, isBlank char = true := by
  rw [trim, String.ofList_eq_empty_iff, stripEnds_eq_nil_iff]

end Text

/-- A piece of text without any character but blanks. -/
def Condition.Blank (condition : Condition) : Prop :=
  condition.kind = .raw ∧ ∀ char ∈ condition.column.toList, Text.isBlank char = true

instance : DecidablePred Condition.Blank := fun condition =>
  inferInstanceAs (Decidable (condition.kind = .raw ∧
    ∀ char ∈ condition.column.toList, Text.isBlank char = true))

/-- The common rendering of every operator has characters of its own. -/
theorem commonRendering_ne_empty (operator : Operator) (operands : Operands) :
    commonRendering operator operands ≠ "" := by
  unfold commonRendering
  cases operator <;> simp [String.append_eq_empty_iff]

/-- What the dialect renders on its own has characters. -/
def Dialect.RendersText (dialect : Dialect) : Prop :=
  ∀ operator operands, dialect.render operator operands ≠ some ""

/-- The dialects of the library render text. -/
theorem Dialect.rendersText_of_shipped {dialect : Dialect} (listed : dialect ∈ shipped) :
    dialect.RendersText := by
  intro operator operands
  simp only [shipped, List.mem_cons, List.not_mem_nil, or_false] at listed
  rcases listed with rfl | rfl | rfl
  · exact Option.some_ne_none _ ∘ Eq.symm
  · exact Option.some_ne_none _ ∘ Eq.symm
  · show (if operator = .fullText then _ else _) ≠ some ""
    split <;> simp [String.append_eq_empty_iff]

namespace Target

variable (target : Target)

/-- A condition has text, unless it is a blank piece of text. -/
theorem condition_ne_empty (renders : target.dialect.RendersText) {condition : Condition}
    (visible : ¬condition.Blank) {text : String}
    (rendered : target.condition condition = .ok text) :
    text ≠ "" := by
  by_cases raw : condition.kind = .raw
  · rw [target.condition_of_raw raw] at rendered
    cases rendered
    exact fun blank => visible ⟨raw, Text.trim_eq_empty_iff.mp blank⟩
  · rw [target.condition_of_ne_raw raw] at rendered
    split at rendered
    next own found =>
      cases rendered
      exact fun none => renders _ _ (none ▸ found)
    next =>
      split at rendered
      · cases rendered
        exact commonRendering_ne_empty _ _
      · contradiction

end Target

/-- The size of a clause is the number of its conditions. -/
theorem Clause.size_eq_length (clause : Clause) : clause.size = clause.conditions.length := by
  induction clause with
  | empty => rfl
  | condition head rest ih => rw [size, conditions, List.length_cons, ih]
  | group inner rest ihInner ihRest =>
    rw [size, conditions, List.length_append, ihInner, ihRest]

/-- The joined text of elements holds that of the elements behind the first. -/
theorem joinConnected_infix_cons (head : String × Connector) (more : List (String × Connector)) :
    (joinConnected more).toList <:+: (joinConnected (head :: more)).toList := by
  by_cases last : more = []
  · rw [last]
    exact List.nil_infix
  · rw [joinConnected_cons last, String.toList_append]
    exact (List.suffix_append _ _).isInfix

/-- The joined text of elements begins with that of the first. -/
theorem infix_joinConnected_head (head : String × Connector) (more : List (String × Connector)) :
    head.1.toList <:+: (joinConnected (head :: more)).toList := by
  by_cases last : more = []
  · rw [last]
    exact List.infix_rfl
  · simp only [joinConnected_cons last, String.toList_append, List.append_assoc]
    exact (List.prefix_append _ _).isInfix

namespace Target

variable (target : Target)

/-- A condition before a clause is rendered when both are. -/
theorem elements_condition_eq_ok {head : Condition} {rest : Clause}
    {elements : List (String × Connector)} :
    target.elements (.condition head rest) = .ok elements ↔
      ∃ text more, target.condition head = .ok text ∧ target.elements rest = .ok more ∧
        elements = (text, head.connector) :: more := by
  rw [Target.elements]
  cases target.condition head <;> cases target.elements rest <;>
    simp [bind, Except.bind, eq_comm]

/-- A group before a clause is rendered when both are. -/
theorem elements_group_eq_ok {inner rest : Clause} {elements : List (String × Connector)} :
    target.elements (.group inner rest) = .ok elements ↔
      ∃ body more, target.clause inner = .ok body ∧ target.elements rest = .ok more ∧
        elements = if body = "" then more
          else ("(" ++ body ++ ")", inner.lastConnector) :: more := by
  rw [target.elements_group]
  cases target.clause inner <;> cases target.elements rest <;>
    simp [bind, Except.bind, eq_comm]

/-- A clause is rendered when its elements are. -/
theorem clause_eq_ok {clause : Clause} {body : String} :
    target.clause clause = .ok body ↔
      ∃ elements, target.elements clause = .ok elements ∧ joinConnected elements = body := by
  rw [Target.clause]
  cases target.elements clause <;> simp [Except.map]

/-- The condition is rendered, and its text stands in the body of a clause. -/
def Shows (body : String) (condition : Condition) : Prop :=
  ∃ text, target.condition condition = .ok text ∧ text.toList <:+: body.toList

variable {target}

/-- What a body shows is shown by every text in which the body stands. -/
theorem Shows.enlarge {body larger : String} {condition : Condition}
    (shown : target.Shows body condition) (inside : body.toList <:+: larger.toList) :
    target.Shows larger condition := by
  obtain ⟨text, rendered, stands⟩ := shown
  exact ⟨text, rendered, stands.trans inside⟩

/-- The body of a clause shows every condition of the clause, at any depth. -/
theorem shows_of_mem_conditions {clause : Clause} {body : String}
    (rendered : target.clause clause = .ok body) :
    ∀ condition ∈ clause.conditions, target.Shows body condition := by
  induction clause generalizing body with
  | empty => exact fun _ listed => nomatch listed
  | condition head rest ih =>
    obtain ⟨elements, ran, rfl⟩ := target.clause_eq_ok.mp rendered
    obtain ⟨text, more, first, others, rfl⟩ := target.elements_condition_eq_ok.mp ran
    simp only [Clause.conditions, List.forall_mem_cons]
    refine ⟨⟨text, first, infix_joinConnected_head (text, head.connector) more⟩, ?_⟩
    intro condition listed
    have behind := ih (target.clause_eq_ok.mpr ⟨more, others, rfl⟩) condition listed
    exact behind.enlarge (joinConnected_infix_cons _ _)
  | group inner rest ihInner ihRest =>
    obtain ⟨elements, ran, rfl⟩ := target.clause_eq_ok.mp rendered
    obtain ⟨body, more, first, others, rfl⟩ := target.elements_group_eq_ok.mp ran
    simp only [Clause.conditions, List.forall_mem_append]
    have inside := ihInner first
    have behind := ihRest (target.clause_eq_ok.mpr ⟨more, others, rfl⟩)
    by_cases blank : body = ""
    · -- A group without characters shows conditions without characters, which stand anywhere.
      rw [if_pos blank]
      rw [blank] at inside
      exact ⟨fun condition listed => (inside condition listed).enlarge List.nil_infix, behind⟩
    · rw [if_neg blank]
      refine ⟨fun condition listed => ?_, fun condition listed => ?_⟩
      · refine ((inside condition listed).enlarge ?_).enlarge (infix_joinConnected_head _ _)
        simp only [String.toList_append]
        exact ⟨_, _, rfl⟩
      · exact (behind condition listed).enlarge (joinConnected_infix_cons _ _)

/-- Without blank pieces of text, a clause has characters exactly when there is a condition in it,
at any depth. -/
theorem body_eq_empty_iff (renders : target.dialect.RendersText) {clause : Clause}
    (visible : ∀ condition ∈ clause.conditions, ¬condition.Blank) {body : String}
    (rendered : target.clause clause = .ok body) : body = "" ↔ clause.conditions = [] := by
  constructor
  · intro blank
    by_contra some
    obtain ⟨condition, others, listed⟩ := List.exists_cons_of_ne_nil some
    have member : condition ∈ clause.conditions := listed ▸ List.mem_cons_self
    obtain ⟨text, own, stands⟩ := shows_of_mem_conditions rendered condition member
    rw [blank] at stands
    have nothing : text = "" := String.toList_eq_nil_iff.mp (List.infix_nil.mp stands)
    exact target.condition_ne_empty renders (visible condition member) own nothing
  · intro none
    have bare : clause.size = 0 := by rw [clause.size_eq_length, none, List.length_nil]
    rw [Target.clause, target.elements_of_size_eq_zero bare] at rendered
    exact (Except.ok.inj rendered).symm

variable (target)

/-- The assignments of a statement that changes rows. -/
def changes (statement : Statement) : List (String × String) :=
  target.assignments (addressingNames statement.whereClause) statement.bindings

/-- What a statement that changes or removes rows begins with: the table, and the assignments of a
change. -/
def opening (statement : Statement) : List String :=
  match statement.action with
  | .update =>
    ["UPDATE", target.firstTable statement.tables,
      "SET " ++ writeAssignments (target.changes statement)]
  | .delete => ["DELETE FROM", target.firstTable statement.tables]
  | .select | .insert => []

/-- A clause with a text is written behind its keyword, and one without is left out. -/
theorem keywordClause_of_rendered (keyword : String) {clause : Clause} {body : String}
    (rendered : target.clause clause = .ok body) :
    target.keywordClause keyword clause =
      .ok (if body = "" then [] else [keyword ++ " " ++ body]) := by
  rw [keywordClause, rendered]
  rfl

/-- The check for tables passes if there is one. -/
theorem requireTables_of_ne_nil (action : Action) {statement : Statement}
    (tables : statement.tables ≠ []) :
    requireTables action statement = .ok statement.tables := by
  rw [requireTables, if_neg (mt List.isEmpty_iff.mp tables)]

/-- A change of rows with a table and a clause that is rendered fails only without assignments. -/
theorem compile_change {statement : Statement} (change : statement.action = .update)
    (tables : statement.tables ≠ []) {body : String}
    (rendered : target.clause statement.whereClause = .ok body) :
    target.compile statement =
      if target.changes statement = [] then .error (.missingBindings .update)
      else .ok <| Text.join " " <|
        ["UPDATE", target.firstTable statement.tables,
          "SET " ++ writeAssignments (target.changes statement)] ++
        (if body = "" then [] else ["WHERE " ++ body]) ++ target.orderAndPage statement := by
  rw [compile, change, assemble, update, requireTables_of_ne_nil _ tables,
    target.keywordClause_of_rendered _ rendered]
  simp only [← List.isEmpty_iff]
  rfl

/-- A removal of rows with a table and a clause that is rendered does not fail. -/
theorem compile_removal {statement : Statement} (removal : statement.action = .delete)
    (tables : statement.tables ≠ []) {body : String}
    (rendered : target.clause statement.whereClause = .ok body) :
    target.compile statement =
      .ok (Text.join " " (["DELETE FROM", target.firstTable statement.tables] ++
        (if body = "" then [] else ["WHERE " ++ body]) ++ target.orderAndPage statement)) := by
  rw [compile, removal, assemble, delete, requireTables_of_ne_nil _ tables,
    target.keywordClause_of_rendered _ rendered]
  rfl

/-- A statement that changes or removes rows is its opening, its conditions on rows if these have
characters, and its order and page. -/
theorem exists_body_of_compile {statement : Statement}
    (writes : statement.action = .update ∨ statement.action = .delete) {text : String}
    (compiled : target.compile statement = .ok text) :
    ∃ body, target.clause statement.whereClause = .ok body ∧
      text = Text.join " " (target.opening statement ++
        (if body = "" then [] else ["WHERE " ++ body]) ++ target.orderAndPage statement) := by
  have reports := target.assemble_reports statement.action statement
  have sound : target.faults statement.action statement = [] :=
    reports.exists_ok_iff.mp ⟨text, compiled⟩
  have rows := (target.clause_reports statement.whereClause).exists_ok_iff
  unfold faults at sound
  rw [List.append_eq_nil_iff] at sound
  have tables : statement.tables ≠ [] := by simpa using sound.1
  rcases writes with change | removal
  · rw [change, List.append_eq_nil_iff] at sound
    obtain ⟨body, rendered⟩ := rows.mpr sound.2.2
    rw [target.compile_change change tables rendered] at compiled
    refine ⟨body, rendered, ?_⟩
    by_cases none : target.changes statement = []
    · rw [if_pos none] at compiled
      contradiction
    · rw [if_neg none] at compiled
      rw [opening, change]
      exact (Except.ok.inj compiled).symm
  · rw [removal] at sound
    obtain ⟨body, rendered⟩ := rows.mpr sound.2
    rw [target.compile_removal removal tables rendered] at compiled
    refine ⟨body, rendered, ?_⟩
    rw [opening, removal]
    exact (Except.ok.inj compiled).symm

/-- A statement that changes or removes rows carries its conditions. If none of them is a blank
piece of text, there is a condition in its clause, at any depth, exactly when its text has a WHERE
with a body right behind the table of a removal or the assignments of a change; the body is that of
the clause, has characters and shows every condition. Otherwise the text goes straight on with the
order and the page. -/
theorem compile_carries_conditions {statement : Statement}
    (writes : statement.action = .update ∨ statement.action = .delete)
    (shipped : target.dialect ∈ Dialect.shipped)
    (visible : ∀ condition ∈ statement.whereClause.conditions, ¬condition.Blank) {text : String}
    (compiled : target.compile statement = .ok text) :
    (statement.whereClause.conditions ≠ [] ↔
      ∃ body, target.clause statement.whereClause = .ok body ∧ body ≠ "" ∧
        (∀ condition ∈ statement.whereClause.conditions, target.Shows body condition) ∧
        text = Text.join " " (target.opening statement ++ ["WHERE " ++ body] ++
          target.orderAndPage statement)) ∧
    (statement.whereClause.conditions = [] →
      text = Text.join " " (target.opening statement ++ target.orderAndPage statement)) := by
  obtain ⟨body, rendered, written⟩ := target.exists_body_of_compile writes compiled
  have empty := body_eq_empty_iff (Dialect.rendersText_of_shipped shipped) visible rendered
  refine ⟨⟨fun some => ?_, ?_⟩, fun none => ?_⟩
  · have characters := mt empty.mp some
    rw [if_neg characters] at written
    exact ⟨body, rendered, characters, shows_of_mem_conditions rendered, written⟩
  · rintro ⟨body', rendered', characters, -, -⟩
    obtain rfl : body = body' := Except.ok.inj (rendered.symm.trans rendered')
    exact mt empty.mpr characters
  · rwa [if_pos (empty.mpr none), List.append_nil] at written

/-- A removal whose only condition has no column and stands in two groups. -/
def sampleRemoval : Statement where
  action := .delete
  tables := [⟨"log", none⟩]
  whereClause :=
    .group (.group .empty (.group (.single { column := "", operator := .isNull }) .empty)) .empty
  orders := [⟨"at", .descending⟩]

/-- The removal carries its condition. -/
theorem sampleRemoval_carries_conditions :
    Dialect.mysql ∈ Dialect.shipped ∧
    (∀ condition ∈ sampleRemoval.whereClause.conditions, ¬condition.Blank) ∧
    Target.compile ⟨.mysql, some "app_"⟩ sampleRemoval =
      .ok "DELETE FROM \x60app_log\x60 WHERE (( IS NULL)) ORDER BY \x60at\x60 DESC" ∧
    ∃ body,
      Target.clause ⟨.mysql, some "app_"⟩ sampleRemoval.whereClause = .ok body ∧ body ≠ "" := by
  have shipped : Dialect.mysql ∈ Dialect.shipped := by simp [Dialect.shipped]
  have visible : ∀ condition ∈ sampleRemoval.whereClause.conditions, ¬condition.Blank := by decide
  have compiled : Target.compile ⟨.mysql, some "app_"⟩ sampleRemoval =
      .ok "DELETE FROM \x60app_log\x60 WHERE (( IS NULL)) ORDER BY \x60at\x60 DESC" := rfl
  have present : sampleRemoval.whereClause.conditions ≠ [] := by decide
  have carried := compile_carries_conditions _ (.inr rfl) shipped visible compiled
  obtain ⟨body, rendered, characters, -, -⟩ := carried.1.mp present
  exact ⟨shipped, visible, compiled, body, rendered, characters⟩

end Target

end Crud
