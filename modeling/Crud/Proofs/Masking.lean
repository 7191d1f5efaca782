import Crud.Proofs.Clause
import Crud.Proofs.Gapped
import Crud.Rendering

/-!
# Masked and inline clauses

A masked clause has a placeholder for every value, an inline clause its literal. The two texts of
one clause differ in nothing else: they are woven from the same texts, with one gap for each
positional value and in the order of the values. Every function of the renderer keeps the relation
`Gapped`, from an operand over the rendering of an operator to nested groups.
-/

namespace Crud

/-- Two computations fail with the same error, or succeed with related results. -/
inductive Agree {ε α β : Type} (related : α → β → Prop) : Except ε α → Except ε β → Prop where
  /-- The same error. -/
  | error (error : ε) : Agree related (.error error) (.error error)
  /-- Related results. -/
  | ok {left : α} {right : β} (results : related left right) :
      Agree related (.ok left) (.ok right)

/-- Agreement goes on when related results are taken further in agreement. -/
theorem Agree.bind {ε α β γ δ : Type} {related : α → β → Prop} {further : γ → δ → Prop}
    {left : Except ε α} {right : Except ε β} {next : α → Except ε γ} {next' : β → Except ε δ}
    (agree : Agree related left right)
    (onward : ∀ result result', related result result' →
      Agree further (next result) (next' result')) :
    Agree further (left >>= next) (right >>= next') := by
  cases agree with
  | error error => exact .error error
  | ok results => exact onward _ _ results

/-- The condition with its values written as literals. -/
def Condition.inlined (condition : Condition) : Condition := { condition with masked := false }

/-- The clause with the values of every condition written as literals. -/
def Clause.inlined : Clause → Clause
  | empty => empty
  | condition head rest => condition head.inlined rest.inlined
  | group inner rest => group inner.inlined rest.inlined

/-- Masks are no part of the connectors. -/
theorem Clause.lastConnector_inlined (clause : Clause) :
    clause.inlined.lastConnector = clause.lastConnector := by
  have sameEnd (rest : Clause) : rest.inlined.isEmpty = rest.isEmpty := by cases rest <;> rfl
  induction clause with
  | empty => rfl
  | condition head rest ih => simp only [inlined, lastConnector, sameEnd, ih, Condition.inlined]
  | group inner rest ihInner ihRest =>
    simp only [inlined, lastConnector, sameEnd, ihInner, ihRest]

/-- A fragment has as many markers as values. -/
def Operand.Filled : Operand → Prop
  | fragment part => part.markerCount = part.values.length
  | _ => True

instance : DecidablePred Operand.Filled := fun operand =>
  match operand with
  | .fragment part => inferInstanceAs (Decidable (part.markerCount = part.values.length))
  | .absent | .scalar _ | .list _ | .range _ _ | .column _ | .named _ | .subquery _ =>
    .isTrue trivial

/-- A condition of which every value has a gap in the text: one that does not show its operand has
no value, and a fragment has a marker for each of its values. -/
def Condition.Countable (condition : Condition) : Prop :=
  condition.HidesNoValue ∧ condition.operand.Filled

instance : DecidablePred Condition.Countable := fun condition =>
  inferInstanceAs (Decidable (condition.HidesNoValue ∧ condition.operand.Filled))

namespace Dialect

/-- Where the dialect renders an operator of its own, it writes the whole operand once, between
texts that do not depend on it. -/
def FramesOperand (dialect : Dialect) : Prop :=
  ∀ operator column modifier,
    (∀ value range, dialect.render operator ⟨column, value, range, modifier⟩ = none) ∨
    ∃ before after, ∀ value range,
      dialect.render operator ⟨column, value, range, modifier⟩ = some (before ++ value ++ after)

variable {dialect : Dialect}

/-- The dialects of the library frame operands. -/
theorem framesOperand_of_shipped (listed : dialect ∈ shipped) : dialect.FramesOperand := by
  intro operator column modifier
  simp only [shipped, List.mem_cons, List.not_mem_nil, or_false] at listed
  rcases listed with rfl | rfl | rfl
  · exact .inl fun _ _ => rfl
  · exact .inl fun _ _ => rfl
  · by_cases search : operator = .fullText
    · refine .inr ⟨column ++ " MATCH ", "", fun value range => ?_⟩
      simp only [sqlite, search, ↓reduceIte, String.append_empty]
    · refine .inl fun value range => ?_
      simp only [sqlite, search, ↓reduceIte]

/-- The dialects of the library have a placeholder with characters. -/
theorem placeholder_ne_empty_of_shipped (listed : dialect ∈ shipped) :
    dialect.placeholder ≠ "" := by
  simp only [shipped, List.mem_cons, List.not_mem_nil, or_false] at listed
  rcases listed with rfl | rfl | rfl <;> decide

end Dialect

/-- A fragment with as many markers as values has a gap for each value. -/
theorem Fragment.gapped_pieces (placeholder : String) (pieces : List Piece) (values : List Value)
    (filled : (pieces.countP fun | .marker _ => true | .char _ => false) = values.length) :
    Gapped placeholder (.ofList (mask placeholder pieces)) (.ofList (fill pieces values))
      values := by
  induction pieces generalizing values with
  | nil =>
    obtain rfl := List.length_eq_zero_iff.mp filled.symm
    exact .text _
  | cons piece rest ih =>
    cases piece with
    | char char =>
      have tail := (ih values (by simpa using filled)).prepend (.ofList [char])
      simpa only [mask, fill, ← String.ofList_append, List.singleton_append] using tail
    | marker letter =>
      cases values with
      | nil => simp at filled
      | cons value values =>
        have tail := (Gapped.value value).append (ih values (by simpa using filled))
        simpa only [mask, fill, String.ofList_append, String.ofList_toList, List.singleton_append]
          using tail

/-- A list of values has a gap for each value. -/
theorem Gapped.join (placeholder separator : String) (values : List Value) :
    Gapped placeholder (Text.join separator (values.map fun _ => placeholder))
      (Text.join separator (values.map Value.literal)) values := by
  induction values with
  | nil => exact .text _
  | cons first rest ih =>
    cases rest with
    | nil => exact .value first
    | cons second rest => exact ((Gapped.value first).followed separator).append ih

namespace Target

variable (target : Target)

/-- An operand has a gap for each of its values. -/
theorem gapped_operand {operand : Operand} (filled : operand.Filled) :
    Gapped target.dialect.placeholder (target.operand true operand) (target.operand false operand)
      operand.values := by
  cases operand with
  | absent => exact .text _
  | scalar value => exact .value value
  | list values =>
    cases values with
    | nil => exact .text _
    | cons first rest => exact .join _ ", " (first :: rest)
  | range lower upper => exact .pair lower upper ", "
  | fragment fragment => exact Fragment.gapped_pieces _ _ _ filled
  | column name => exact .text _
  | named names => cases names <;> exact .text _
  | subquery text => exact .text _

/-- What the operators of the BETWEEN family show of an operand: its two bounds, or the whole
operand when it does not have two values. -/
def boundsText (masked : Bool) (operand : Operand) : String :=
  match target.bounds masked operand with
  | some (lower, upper) => lower ++ " AND " ++ upper
  | none => target.operand masked operand

/-- The bounds of an operand have a gap for each of its values. -/
theorem gapped_boundsText {operand : Operand} (filled : operand.Filled) :
    Gapped target.dialect.placeholder (target.boundsText true operand)
      (target.boundsText false operand) operand.values := by
  have whole := target.gapped_operand filled
  match operand with
  | .range lower upper => exact .pair lower upper " AND "
  | .list [lower, upper] => exact .pair lower upper " AND "
  -- Any other number of values is shown like a list.
  | .list [] | .list [_] | .list (_ :: _ :: _ :: _) => exact whole
  | .absent | .scalar _ | .fragment _ | .column _ | .named _ | .subquery _ => exact whole

/-- The common rendering of an operator has a gap for each value, if the operator shows the operand
or there is no value. -/
theorem gapped_commonRendering {operator : Operator} {operand : Operand}
    (hidden : operator.valueless = true → operand.values = []) (filled : operand.Filled)
    (column : String) (modifier : Option String) :
    Gapped target.dialect.placeholder
      (commonRendering operator
        ⟨column, target.operand true operand, target.bounds true operand, modifier⟩)
      (commonRendering operator
        ⟨column, target.operand false operand, target.bounds false operand, modifier⟩)
      operand.values := by
  have whole := target.gapped_operand filled
  cases operator with
  | isTrue | isFalse | isNull | isNotNull =>
    rw [hidden rfl]
    exact .text _
  | between | notBetween => exact (target.gapped_boundsText filled).prepend _
  | inList | notInList | inSet | compareText => exact (whole.prepend _).followed _
  | fullText => exact ((whole.prepend _).followed _).followed _
  | _ => exact whole.prepend _

/-- Of the parts of a condition, only the operand and its bounds depend on the mask. -/
theorem exists_operands (condition : Condition) :
    ∃ column modifier, ∀ masked, target.operands { condition with masked := masked } =
      ⟨column, target.operand masked condition.operand, target.bounds masked condition.operand,
        modifier⟩ :=
  ⟨(target.operands condition).column, (target.operands condition).modifier, fun _ => rfl⟩

/-- The two renderings of a condition fail alike, or have a gap for each of its values. -/
theorem gapped_condition (frames : target.dialect.FramesOperand) {condition : Condition}
    (masked : condition.masked = true) (countable : condition.Countable) :
    Agree (Gapped target.dialect.placeholder · · condition.operand.values)
      (target.condition condition) (target.condition condition.inlined) := by
  have remasked : condition = { condition with masked := true } := by rw [← masked]
  by_cases raw : condition.kind = .raw
  · have hidden := countable.1 (by simp [Condition.showsOperand, raw])
    simp only [Target.condition, Condition.inlined, raw, ↓reduceIte, hidden]
    exact .ok (.text _)
  obtain ⟨column, modifier, parts⟩ := target.exists_operands condition
  have maskedParts := parts true
  rw [← remasked] at maskedParts
  have inlineText := target.condition_of_ne_raw (show condition.inlined.kind ≠ .raw from raw)
  rw [target.condition_of_ne_raw raw, inlineText, maskedParts, Condition.inlined, parts false]
  obtain none | ⟨before, after, own⟩ := frames condition.operator column modifier
  · simp only [none]
    split
    · have hidden (valueless : condition.operator.valueless = true) :=
        countable.1 (by simp [Condition.showsOperand, valueless])
      exact .ok (target.gapped_commonRendering hidden countable.2 column modifier)
    · exact .error _
  · simp only [own]
    exact .ok (((target.gapped_operand countable.2).prepend before).followed after)

/-- Elements with connectors that differ only in the gaps of their texts. The values are those of
all elements in order. -/
inductive GappedElements (placeholder : String) :
    List (String × Connector) → List (String × Connector) → List Value → Prop where
  /-- No element. -/
  | nil : GappedElements placeholder [] [] []
  /-- An element before others. -/
  | cons {masked inline : String} {values values' : List Value}
      {others others' : List (String × Connector)} (connector : Connector)
      (head : Gapped placeholder masked inline values)
      (rest : GappedElements placeholder others others' values') :
      GappedElements placeholder ((masked, connector) :: others) ((inline, connector) :: others')
        (values ++ values')

/-- Elements that differ in their gaps are joined to texts that differ in their gaps. -/
theorem GappedElements.join {placeholder : String} {elements elements' : List (String × Connector)}
    {values : List Value} (gapped : GappedElements placeholder elements elements' values) :
    Gapped placeholder (joinConnected elements) (joinConnected elements') values := by
  induction gapped with
  | nil => exact .text _
  | cons connector head rest ih =>
    cases rest with
    | nil => simpa only [joinConnected, List.append_nil] using head
    | cons next second others =>
      exact (((head.followed " ").followed connector.name).followed " ").append ih

/-- The elements of a masked clause and of the inline one fail alike, or differ in a gap for each
value. -/
theorem gapped_elements (frames : target.dialect.FramesOperand)
    (visible : target.dialect.placeholder ≠ "") {clause : Clause}
    (masked : ∀ condition ∈ clause.conditions, condition.masked = true)
    (countable : ∀ condition ∈ clause.conditions, condition.Countable) :
    Agree (GappedElements target.dialect.placeholder · · clause.values)
      (target.elements clause) (target.elements clause.inlined) := by
  induction clause with
  | empty => exact .ok .nil
  | condition head rest ih =>
    simp only [Clause.conditions, List.forall_mem_cons] at masked countable
    refine (target.gapped_condition frames masked.1 countable.1).bind fun text text' first => ?_
    refine (ih masked.2 countable.2).bind fun more more' others => ?_
    exact .ok (.cons head.connector first others)
  | group inner rest ihInner ihRest =>
    simp only [Clause.conditions, List.forall_mem_append] at masked countable
    refine (ihInner masked.1 countable.1).bind fun body body' first => ?_
    refine (ihRest masked.2 countable.2).bind fun more more' others => ?_
    rw [Clause.lastConnector_inlined]
    have bodies := first.join
    have traceless := bodies.eq_empty_iff visible
    -- A body without characters has no gap, so both groups leave no trace or neither does.
    by_cases blank : joinConnected body = ""
    · simp only [blank, traceless.mp blank, ↓reduceIte, Clause.values,
        bodies.values_eq_nil visible blank, List.nil_append]
      exact .ok others
    · simp only [blank, mt traceless.mpr blank, ↓reduceIte]
      exact .ok (.cons inner.lastConnector ((bodies.prepend "(").followed ")") others)

/-- A masked clause of countable conditions and the same clause with literals fail with the same
error, or are woven from the same texts: with one placeholder for each positional value, and with
the literals of the positional values in order. -/
theorem clause_masked_or_inlined (shipped : target.dialect ∈ Dialect.shipped) (clause : Clause)
    (masked : ∀ condition ∈ clause.conditions, condition.masked = true)
    (countable : ∀ condition ∈ clause.conditions, condition.Countable) :
    (∃ error, target.clause clause = .error error ∧
      target.clause clause.inlined = .error error) ∨
    ∃ texts : List String, texts.length = clause.values.length + 1 ∧
      target.clause clause =
        .ok (weave texts (List.replicate clause.values.length target.dialect.placeholder)) ∧
      target.clause clause.inlined = .ok (weave texts (clause.values.map Value.literal)) := by
  have agree := target.gapped_elements (Dialect.framesOperand_of_shipped shipped)
    (Dialect.placeholder_ne_empty_of_shipped shipped) masked countable
  unfold Target.clause
  generalize target.elements clause = left at agree ⊢
  generalize target.elements clause.inlined = right at agree ⊢
  cases agree with
  | error error => exact .inl ⟨error, rfl, rfl⟩
  | ok gapped =>
    obtain ⟨texts, length, masked, inline⟩ := gapped.join.exists_weave
    exact .inr ⟨texts, length, congrArg Except.ok masked, congrArg Except.ok inline⟩

/-- A clause with a list, a group with two bounds given as a list, and a fragment. -/
def sampleClause : Clause :=
  .condition
    { column := "state", operator := .inList, operand := .list [.text "new", .null]
      connector := .or } <|
  .group
    (.condition { column := "age", operator := .between, operand := .list [.int 18, .int 65] } <|
      .condition { column := "note", operator := .isNull } .empty) <|
  .condition
    { column := "total", operator := .greater, operand := .fragment ⟨"price * %d", [.int 3]⟩ }
    .empty

/-- The five values of the sample clause have five gaps, across the group and the fragment. -/
theorem sampleClause_masked_or_inlined :
    Dialect.sqlite ∈ Dialect.shipped ∧
    (∀ condition ∈ sampleClause.conditions, condition.masked = true) ∧
    (∀ condition ∈ sampleClause.conditions, condition.Countable) ∧
    ∃ texts : List String, texts.length = 6 ∧
      Target.clause ⟨.sqlite, some "app_"⟩ sampleClause =
        .ok (weave texts ["?", "?", "?", "?", "?"]) ∧
      Target.clause ⟨.sqlite, some "app_"⟩ sampleClause.inlined =
        .ok (weave texts ["'new'", "NULL", "18", "65", "3"]) := by
  have shipped : Dialect.sqlite ∈ Dialect.shipped := by simp [Dialect.shipped]
  have masked : ∀ condition ∈ sampleClause.conditions, condition.masked = true := by decide
  have countable : ∀ condition ∈ sampleClause.conditions, condition.Countable := by
    decide +kernel
  refine ⟨shipped, masked, countable, ?_⟩
  obtain ⟨error, failed, _⟩ | woven :=
    clause_masked_or_inlined ⟨.sqlite, some "app_"⟩ shipped sampleClause masked countable
  · obtain ⟨text, rendered⟩ : ∃ text, Target.clause ⟨.sqlite, some "app_"⟩ sampleClause =
      .ok text := ⟨_, rfl⟩
    rw [rendered] at failed
    cases failed
  · have literals : sampleClause.values.map Value.literal = ["'new'", "NULL", "18", "65", "3"] := by
      decide +kernel
    rwa [literals] at woven

end Target

end Crud
