import Crud.Proofs.Resolution

/-!
# Early and late recognition of columns

A lookup that is attached before a statement is built turns each recognised text into a column as
it comes in. A lookup that is attached afterwards turns the texts that the statement already has,
and computes the positional values anew. Both ways give the same statement: a step that is run with
a lookup does to the resolved statement what it does to the plain one without.
-/

namespace Crud

namespace Argument

/-- Without a lookup, the operand of an argument has the values of the argument. -/
theorem values_toOperand (argument : Argument) :
    (argument.toOperand none).values = argument.values := by
  cases argument with
  | scalar value => cases value <;> rfl
  | _ => rfl

variable {value : Value} (nan : value.isNan = true)

include nan

/-- A NaN is a word of itself only. -/
theorem nan_mem_wordsOfValue {whole : Value} (listed : value ∈ wordsOfValue whole) :
    value = whole := by
  cases whole with
  | text text =>
    obtain ⟨word, -, rfl⟩ := List.mem_map.mp listed
    contradiction
  | _ => exact List.mem_singleton.mp listed

/-- Splitting an argument into words adds no NaN. -/
theorem nan_mem_splitWords {argument : Argument} (listed : value ∈ argument.splitWords.values) :
    value ∈ argument.values := by
  cases argument with
  | scalar whole => exact List.mem_singleton.mpr (nan_mem_wordsOfValue nan listed)
  | list values =>
    obtain ⟨whole, found, inWords⟩ := List.mem_flatMap.mp listed
    rw [nan_mem_wordsOfValue nan inWords]
    exact found
  | _ => exact listed

/-- Joining the words of an argument adds no NaN. -/
theorem nan_mem_joinWords {argument : Argument} (listed : value ∈ argument.joinWords.values) :
    value ∈ argument.values := by
  cases argument with
  | list values =>
    rw [List.mem_singleton.mp listed] at nan
    contradiction
  | _ => exact listed

/-- Every NaN of an operand is one of its argument. -/
theorem nan_mem_operandFor {operator : Operator} {argument : Argument}
    (listed : value ∈ (argument.operandFor none operator).values) : value ∈ argument.values := by
  unfold operandFor at listed
  split at listed
  · cases listed
  · split at listed
    · rw [values_toOperand] at listed
      exact nan_mem_splitWords nan listed
    · rwa [values_toOperand] at listed

end Argument

/-- The values that a step is given for the placeholders of its conditions. -/
def Step.given : Step → List Value
  | compare _ argument _ _ | having _ argument _ _ => argument.values
  | like _ _ argument _ | search _ argument _ _ => argument.values
  | between _ _ lower upper _ => [lower, upper]
  | _ => []

/-- The values that the steps of a script are given for the placeholders of their conditions. -/
def Script.given : Script → List Value
  | done => []
  | step head rest => head.given ++ rest.given
  | nest inner _ rest => inner.given ++ rest.given

namespace Step

variable (lookup : ColumnLookup) (step : Step)

/-- With the lookup a comparison adds what it adds without, resolved. -/
theorem rows_resolve : step.rows (some lookup) = (step.rows none).resolve lookup := by
  cases step with
  | compare =>
    rw [rows, rows, Clause.resolve_single, Argument.operandFor_resolve]
    rfl
  | like | search =>
    rw [rows, rows, Clause.resolve_single, Argument.toOperand_resolve]
    rfl
  | _ => rfl

/-- With a lookup, a step adds the resolved conditions on groups. -/
theorem groups_resolve : step.groups (some lookup) = (step.groups none).resolve lookup := by
  cases step with
  | having =>
    rw [groups, groups, Clause.resolve_single, Argument.operandFor_resolve]
    rfl
  | _ => rfl

variable {step} {value : Value} (nan : value.isNan = true)

include nan

/-- Every NaN that a step adds on rows has been given to it. -/
theorem nan_mem_rows (listed : value ∈ (step.rows none).values) : value ∈ step.given := by
  cases step with
  | compare column argument operator =>
    rw [rows, Clause.values_single] at listed
    exact Argument.nan_mem_operandFor nan listed
  | like negated column argument =>
    rw [rows, Clause.values_single, argument.values_toOperand] at listed
    exact listed
  | search columns argument =>
    rw [rows, Clause.values_single, argument.joinWords.values_toOperand] at listed
    exact Argument.nan_mem_joinWords nan listed
  | between => exact listed
  | _ => cases listed

/-- Every NaN that a step adds on groups has been given to it. -/
theorem nan_mem_groups (listed : value ∈ (step.groups none).values) : value ∈ step.given := by
  cases step with
  | having column argument operator =>
    rw [groups, Clause.values_single] at listed
    exact Argument.nan_mem_operandFor nan listed
  | _ => cases listed

end Step

namespace Script

/-- With a lookup, a script adds the resolved conditions on rows. -/
theorem rows_resolve (lookup : ColumnLookup) (script : Script) :
    script.rows (some lookup) = (script.rows none).resolve lookup := by
  induction script with
  | done => rfl
  | step head rest ih => rw [rows, rows, Clause.resolve_append, head.rows_resolve, ih]
  | nest inner connector rest ihInner ihRest =>
    rw [rows, rows, Clause.resolve_append, Clause.resolve_bracketed, ihInner, ihRest]

/-- Every NaN that a script adds on rows has been given to it. -/
theorem nan_mem_rows {script : Script} {value : Value} (nan : value.isNan = true)
    (listed : value ∈ (script.rows none).values) : value ∈ script.given := by
  induction script with
  | done => cases listed
  | step head rest ih =>
    rw [rows, Clause.values_append, List.mem_append] at listed
    exact List.mem_append.mpr (listed.imp (Step.nan_mem_rows nan) ih)
  | nest inner connector rest ihInner ihRest =>
    rw [rows, Clause.values_append, Clause.values_bracketed, List.mem_append] at listed
    exact List.mem_append.mpr (listed.imp ihInner ihRest)

end Script

/-- The step attaches no lookup. -/
def Step.keepsLookup : Step → Bool
  | lookup _ | resolveColumns _ => false
  | _ => true

/-- No step of the script attaches a lookup. -/
def Script.keepsLookup : Script → Bool
  | done => true
  | step head rest => head.keepsLookup && rest.keepsLookup
  | nest _ _ rest => rest.keepsLookup

namespace Statement

variable (lookup : ColumnLookup) (statement : Statement)

/-- A condition that is not resolved and has no value can be added before the lookup or after it. -/
theorem lookedUp_addCondition (condition : Condition) (barred : condition.mayResolve = false)
    (none : condition.operand.values = []) :
    (statement.addCondition condition).lookedUp lookup =
      (statement.lookedUp lookup).addCondition condition := by
  have noValues : (Clause.single condition).values = [] := by rw [Clause.values_single, none]
  rw [addCondition_eq, addCondition_eq, lookedUp_appendRows lookup statement (.inr noValues),
    Clause.resolve_single, Condition.resolve_of_not_mayResolve lookup barred]

end Statement

/-- From this statement, which has no lookup, the computation and the lookup can change places. The
computation attaches no lookup, and it adds no positional value that is not a number, but those
given. -/
structure Follows (lookup : ColumnLookup) (run : Statement → Except Error Statement)
    (start : Statement) (given : List Value) : Prop where
  /-- The computation on the resolved statement gives the resolved result. -/
  exchange : run (start.lookedUp lookup) = (run start).map (·.lookedUp lookup)
  /-- The computation attaches no lookup. -/
  lookup : ∀ finish, run start = .ok finish → finish.lookup = none
  /-- Every NaN among the values was there or has been given. -/
  source : ∀ finish, run start = .ok finish →
    ∀ value ∈ finish.values, value.isNan = true → value ∈ start.values ++ given

namespace Follows

variable {lookup : ColumnLookup} {run next : Statement → Except Error Statement}
variable {start finish : Statement} {given more : List Value}

/-- A computation that succeeds both ways, with the resolved result in one of them. -/
theorem of_ok (late : run start = .ok finish)
    (early : run (start.lookedUp lookup) = .ok (finish.lookedUp lookup))
    (none : finish.lookup = none)
    (source : ∀ value ∈ finish.values, value.isNan = true → value ∈ start.values ++ given) :
    Follows lookup run start given where
  exchange := by rw [late, early, Except.map]
  lookup reached ran := by
    obtain rfl := Except.ok.inj (late.symm.trans ran)
    exact none
  source reached ran := by
    obtain rfl := Except.ok.inj (late.symm.trans ran)
    exact source

/-- The computation leaves the lookup and the positional values as they are. -/
theorem of_kept (late : run start = .ok finish)
    (early : run (start.lookedUp lookup) = .ok (finish.lookedUp lookup))
    (none : finish.lookup = none) (kept : finish.values = start.values) :
    Follows lookup run start given :=
  of_ok late early none fun _ listed _ => List.mem_append_left given (kept ▸ listed)

/-- A computation that fails both ways with one error. -/
theorem of_error {error : Error} (late : run start = .error error)
    (early : run (start.lookedUp lookup) = .error error) : Follows lookup run start given where
  exchange := by rw [late, early, Except.map]
  lookup reached ran := nomatch late.symm.trans ran
  source reached ran := nomatch late.symm.trans ran

/-- The computation adds conditions on rows, the resolved ones if the lookup is attached. -/
theorem of_appendRows {rows : Clause} (late : run start = .ok (start.appendRows rows))
    (early : run (start.lookedUp lookup) =
      .ok ((start.lookedUp lookup).appendRows (rows.resolve lookup)))
    (none : start.lookup = none) (order : start.havingClause.values = [])
    (source : ∀ value ∈ rows.values, value.isNan = true → value ∈ given) :
    Follows lookup run start given := by
  refine of_ok late ?_ none fun value listed nan => ?_
  · rw [early, start.lookedUp_appendRows lookup (.inl order)]
  · rw [Statement.appendRows, List.mem_append] at listed
    exact List.mem_append.mpr (listed.imp_right (source value · nan))

/-- The computation adds conditions on groups, the resolved ones if the lookup is attached. -/
theorem of_appendGroups {groups : Clause} (late : run start = .ok (start.appendGroups groups))
    (early : run (start.lookedUp lookup) =
      .ok ((start.lookedUp lookup).appendGroups (groups.resolve lookup)))
    (none : start.lookup = none)
    (source : ∀ value ∈ groups.values, value.isNan = true → value ∈ given) :
    Follows lookup run start given := by
  refine of_ok late ?_ none fun value listed nan => ?_
  · rw [early, start.lookedUp_appendGroups lookup]
  · rw [Statement.appendGroups, List.mem_append] at listed
    exact List.mem_append.mpr (listed.imp_right (source value · nan))

/-- Computations that follow each other, with the values that are given to either. -/
theorem bind (first : Follows lookup run start given)
    (second : ∀ middle, run start = .ok middle → Follows lookup next middle more) :
    Follows lookup (fun statement => run statement >>= next) start (given ++ more) := by
  cases ran : run start with
  | error error =>
    have early : run (start.lookedUp lookup) = .error error := by
      rw [first.exchange, ran, Except.map]
    have stopped {statement : Statement} (failed : run statement = .error error) :
        run statement >>= next = .error error := by
      rw [failed]
      rfl
    exact of_error (stopped ran) (stopped early)
  | ok middle =>
    have rest := second middle ran
    have early : run (start.lookedUp lookup) = .ok (middle.lookedUp lookup) := by
      rw [first.exchange, ran, Except.map]
    have late : run start >>= next = next middle := by
      rw [ran]
      rfl
    refine ⟨?_, fun finish reached => ?_, fun finish reached value listed nan => ?_⟩
    · rw [early, late]
      exact rest.exchange
    · exact rest.lookup finish (late ▸ reached)
    · have found := rest.source finish (late ▸ reached) value listed nan
      rw [List.mem_append] at found
      rw [← List.append_assoc, List.mem_append]
      exact found.imp_left (first.source middle ran value · nan)

end Follows

/-- Pieces of text are not resolved. -/
theorem Condition.resolve_ofTexts (lookup : ColumnLookup) (pieces : List String)
    (connectors : List Connector) :
    (Clause.ofList (ofTexts pieces connectors)).resolve lookup =
      Clause.ofList (ofTexts pieces connectors) := by
  induction pieces generalizing connectors with
  | nil => rfl
  | cons piece pieces ih =>
    cases connectors with
    | nil => exact congrArg (Clause.condition (ofText piece .and)) (ih [])
    | cons connector connectors =>
      exact congrArg (Clause.condition (ofText piece connector)) (ih connectors)

namespace Step

variable (lookup : ColumnLookup) {start : Statement}

/-- Addressing rows by keys. -/
theorem follows_addKey (none : start.lookup = none) (column : String) (operator : Operator)
    (pairs : List (String × Value)) :
    Follows lookup (·.addKey column operator pairs) start [] := by
  let addressed : Condition :=
    { kind := .key, column, operator, operand := .named (pairs.map Prod.fst), masked := false }
  by_cases select : start.action = .select
  · exact .of_error (if_pos select) (if_pos select)
  · have added := start.lookedUp_addCondition lookup addressed rfl rfl
    refine .of_kept (if_neg select) ?_ none (List.append_nil _)
    refine (if_neg select).trans ?_
    rw [← added]
    rfl

/-- Pieces of text without values can be added before or after the lookup. -/
theorem follows_addTexts (none : start.lookup = none) (pieces : List String)
    (connectors : List Connector) :
    Follows lookup (fun statement => .ok (statement.addTexts pieces [] connectors)) start [] := by
  let rows := Clause.ofList (Condition.ofTexts pieces connectors)
  have noValues : rows.values = [] := Condition.values_ofTexts pieces connectors
  have unresolved : rows.resolve lookup = rows := Condition.resolve_ofTexts lookup pieces connectors
  have added (statement : Statement) :
      statement.addTexts pieces [] connectors = statement.appendRows rows := by
    rw [Statement.appendRows, noValues]
    rfl
  refine .of_kept rfl ?_ none (List.append_nil _)
  rw [added, added, start.lookedUp_appendRows lookup (.inr noValues), unresolved]

/-- A step commutes with a lookup, unless it attaches one or adds to the rows after the groups. -/
theorem follows {step : Step} (accounted : step.accounted = true)
    (keeps : step.keepsLookup = true) (none : start.lookup = none)
    (order : step.addsRows = true → start.havingClause.values = []) :
    Follows lookup step.run start step.given := by
  by_cases rows : step.comparesRows = true
  · have late := run_eq_appendRows rows start
    have early := run_eq_appendRows rows (start.lookedUp lookup)
    have addsRows : step.addsRows = true := by cases step <;> first | rfl | contradiction
    rw [none] at late
    rw [show (start.lookedUp lookup).lookup = some lookup from rfl, rows_resolve] at early
    exact .of_appendRows late early none (order addsRows) fun _ listed nan =>
      nan_mem_rows nan listed
  by_cases groups : step.comparesGroups = true
  · have late := run_eq_appendGroups groups start
    have early := run_eq_appendGroups groups (start.lookedUp lookup)
    rw [none] at late
    rw [show (start.lookedUp lookup).lookup = some lookup from rfl, groups_resolve] at early
    exact .of_appendGroups late early none fun _ listed nan => nan_mem_groups nan listed
  cases step with
  | compare | like | search | between => exact absurd rfl rows
  | having => exact absurd rfl groups
  | lookup | resolveColumns | replaceValues | copy | reset => contradiction
  | key column value => exact follows_addKey lookup none ..
  | keys column values => exact follows_addKey lookup none ..
  | texts pieces values connectors =>
    obtain rfl := List.isEmpty_iff.mp accounted
    exact follows_addTexts lookup none pieces connectors
  | subquery column text values operator connector =>
    obtain rfl := List.isEmpty_iff.mp accounted
    let compared : Condition :=
      { kind := .subquery, column, operator, operand := .subquery text, connector, masked := false }
    have added := start.lookedUp_addCondition lookup compared rfl rfl
    have ran (statement : Statement) :
        run statement (subquery column text [] operator connector) =
          .ok (statement.addCondition compared) := by
      simp only [run, Statement.compareSubquery, List.append_nil]
      rfl
    refine .of_kept (ran start) ?_ none (List.append_nil _)
    rw [ran, added]
  | bindLists columns values =>
    by_cases paired : columns.length = values.length
    · exact .of_kept (if_pos paired) (if_pos paired) none rfl
    · exact .of_error (if_neg paired) (if_neg paired)
  | join table left operator right kind =>
    cases right with
    | none => exact .of_error rfl rfl
    | some right => exact .of_kept rfl rfl none rfl
  | _ => exact .of_kept rfl rfl none rfl

end Step

namespace Script

variable (lookup : ColumnLookup) {start : Statement}

/-- Conditions on rows come next only while no condition on groups has a value. -/
theorem KeepsOrder.values_eq_nil {head : Step} {rest : Script}
    (order : (step head rest).KeepsOrder start) (adds : head.addsRows = true) :
    start.havingClause.values = [] := by
  obtain ⟨-, none⟩ | leaves := order
  · exact none
  · rw [leavesRows, adds] at leaves
    contradiction

/-- Before a nest there are no values on groups. -/
theorem KeepsOrder.values_eq_nil_of_nest {inner rest : Script} {connector : Option Connector}
    (order : (nest inner connector rest).KeepsOrder start) : start.havingClause.values = [] := by
  obtain ⟨-, none⟩ | leaves := order
  · exact none
  · contradiction

/-- A nest adds what its script adds, in brackets. -/
theorem follows_nest {inner : Script} (compares : inner.comparesRows = true)
    (none : start.lookup = none) (order : start.havingClause.values = [])
    (connector : Option Connector) :
    Follows lookup (·.nest inner.run connector) start inner.given := by
  have late := nest_eq_appendRows (run_eq_appendRows compares start.nested) connector
  have early :=
    nest_eq_appendRows (run_eq_appendRows compares (start.lookedUp lookup).nested) connector
  rw [show start.nested.lookup = start.lookup from rfl, none] at late
  rw [show (start.lookedUp lookup).nested.lookup = some lookup from rfl, rows_resolve,
    ← Clause.resolve_bracketed] at early
  refine .of_appendRows late early none order fun value listed nan => ?_
  rw [Clause.values_bracketed] at listed
  exact nan_mem_rows nan listed

/-- A script commutes with a lookup, unless it attaches one or adds to the rows after the groups. -/
theorem follows {script : Script} (accounted : script.accounted = true)
    (keeps : script.keepsLookup = true) (none : start.lookup = none)
    (before : start.InClauseOrder) (order : script.KeepsOrder start) :
    Follows lookup script.run start script.given := by
  induction script generalizing start with
  | done => exact .of_kept rfl rfl none rfl
  | step head rest ih =>
    rw [Script.accounted, Bool.and_eq_true] at accounted
    rw [keepsLookup, Bool.and_eq_true] at keeps
    have first := Step.follows lookup accounted.1 keeps.1 none order.values_eq_nil
    simp only [run_step]
    refine first.bind fun middle ran => ?_
    obtain ⟨ordered, orderRest⟩ := order.of_step accounted.1 before ran
    exact ih accounted.2 keeps.2 (first.lookup middle ran) ordered orderRest
  | nest inner connector rest _ ih =>
    rw [Script.accounted, Bool.and_eq_true] at accounted
    have first := follows_nest lookup accounted.1 none order.values_eq_nil_of_nest connector
    simp only [run_nest]
    refine first.bind fun middle ran => ?_
    obtain ⟨ordered, orderRest⟩ := order.of_nest accounted.1 before ran
    exact ih accounted.2 keeps (first.lookup middle ran) ordered orderRest

end Script

/-- Attaching the lookup to an empty statement before its script is run, and resolving the columns
of the statement after the script has been run, lead to the same statement, or to the same error. -/
theorem Script.resolve_after_eq_lookup_before {action : Action} {script : Script}
    (lookup : ColumnLookup) (accounted : script.accounted = true)
    (keeps : script.keepsLookup = true) (rowsFirst : script.rowsFirst = true)
    (numbers : ∀ value ∈ script.given, value.isNan = false) :
    (script.run { action }).map (·.resolveColumns lookup) =
      script.run (({ action } : Statement).withLookup lookup) := by
  have before : Statement.InClauseOrder { action } := rfl
  have order : script.KeepsOrder { action } := .inl ⟨rowsFirst, rfl⟩
  have follows := Script.follows lookup accounted keeps rfl before order
  have early := follows.exchange
  cases ran : script.run { action } with
  | error error =>
    rw [ran] at early
    exact early.symm
  | ok finish =>
    have ordered := run_inClauseOrder accounted before order ran
    have finite : ∀ value ∈ finish.values, value.isNan = false := by
      intro value listed
      cases nan : value.isNan with
      | false => rfl
      | true =>
        have found : value ∈ script.given := follows.source finish ran value listed nan
        rw [numbers value found] at nan
        contradiction
    rw [ran] at early
    rw [Except.map, Statement.resolveColumns_eq_lookedUp lookup ordered finite]
    exact early.symm

/-- A script with texts that name columns beside rows, in nests, in a search and beside groups, and
with texts that look the same but are never taken for columns. -/
def Script.plainSample : Script :=
  .step (.table "users") <|
  .step (.equals "users.id" (.scalar (.text "orders.user"))) <|
  .nest
    (.step (.between false "age" (.int 18) (.real (.ofInt 65)) .or) <|
      .nest (.step (.like true "name" (.scalar (.text "orders.user")) .and) .done) none <|
      .step (.inList "role" [.text "orders.user", .null]) <|
      .step (.search ["title"] (.list [.text "orders.user"]) none .and) .done)
    (some .or) <|
  .step (.key "id" (.text "orders.user")) <|
  .step (.texts ["orders.user"] [] []) <|
  .step (.subquery "id" "SELECT 1" [] .inList .and) <|
  .step (.havingEquals "total" (.scalar (.text "orders.user"))) .done

/-- Texts that are recognised in every form of an argument, and two levels of nests. The recognised
texts are values without the lookup only. -/
theorem Script.plainSample_resolve_after :
    let lookup (text : String) : Bool := text == "orders.user"
    let values (finished : Except Error Statement) : Option (List Value) :=
      finished.toOption.map (·.values)
    (plainSample.accounted = true ∧ plainSample.keepsLookup = true ∧
      plainSample.rowsFirst = true ∧ ∀ value ∈ plainSample.given, value.isNan = false) ∧
    (plainSample.run { action := .update }).map (·.resolveColumns lookup) =
      plainSample.run (({ action := .update } : Statement).withLookup lookup) ∧
    values (plainSample.run { action := .update }) =
      some [.text "orders.user", .int 18, .real (.ofInt 65), .text "orders.user",
        .text "orders.user", .null, .text "orders.user", .text "orders.user"] ∧
    values (plainSample.run (({ action := .update } : Statement).withLookup lookup)) =
      some [.int 18, .real (.ofInt 65), .text "orders.user", .null] := by
  intro lookup values
  have accounted : plainSample.accounted = true := by decide
  have keeps : plainSample.keepsLookup = true := by decide
  have rowsFirst : plainSample.rowsFirst = true := by decide
  have numbers : ∀ value ∈ plainSample.given, value.isNan = false := by decide +kernel
  refine ⟨⟨accounted, keeps, rowsFirst, numbers⟩, ?_, by decide +kernel, by decide +kernel⟩
  exact Script.resolve_after_eq_lookup_before lookup accounted keeps rowsFirst numbers

end Crud
