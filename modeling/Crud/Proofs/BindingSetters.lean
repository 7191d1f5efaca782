import Crud.Proofs.Description
import Crud.Statement.Builder
import Crud.Statement.Property

/-!
# Ways to set bindings

Bindings are set one by one, from pairs, from two lists, all at once in place of what is there, or
by reading them. All of these bring a name into its form and set it: a name that is there keeps its
place, a new one comes after the others, and the last value counts. So does reading or replacing a
map whose names are different texts for one name.
-/

namespace Crud

namespace Bindings

/-- Setting a name that is listed leaves the names as they are. -/
theorem keys_setEntry_of_mem {name : String} {entries : List (String × Value)}
    (listed : name ∈ entries.map Prod.fst) (value : Value) :
    (setEntry name value entries).map Prod.fst = entries.map Prod.fst := by
  induction entries with
  | nil => contradiction
  | cons head rest ih =>
    obtain ⟨found, old⟩ := head
    rw [setEntry]
    by_cases same : found = name
    · rw [if_pos same]
      rfl
    · have later : name ∈ rest.map Prod.fst :=
        (List.mem_cons.mp listed).resolve_left (Ne.symm same)
      rw [if_neg same, List.map_cons, List.map_cons, ih later]

/-- A name that is there keeps its place. -/
theorem names_set_of_mem {bindings : Bindings} {name : String} (listed : name ∈ bindings.names)
    (value : Value) : (bindings.set name value).names = bindings.names :=
  keys_setEntry_of_mem listed value

/-- A new name comes after the others. -/
theorem names_set_of_not_mem {bindings : Bindings} {name : String} (fresh : name ∉ bindings.names)
    (value : Value) : (bindings.set name value).names = bindings.names ++ [name] := by
  have entries : (bindings.set name value).entries = bindings.entries ++ [(name, value)] :=
    setEntry_of_not_mem fresh value
  rw [names, entries, List.map_append]
  rfl

/-- Names that are there keep their places, and new ones follow in the order in which they first
occur. -/
theorem names_setAll (bindings : Bindings) (pairs : List (String × Value)) :
    (bindings.setAll pairs).names =
      bindings.names ++ ((pairs.map Prod.fst).filter (· ∉ bindings.names)).eraseDups := by
  induction pairs generalizing bindings with
  | nil => exact (List.append_nil _).symm
  | cons pair pairs ih =>
    obtain ⟨name, value⟩ := pair
    have later := ih (bindings.set name value)
    rw [setAll, List.foldl_cons, ← setAll, later, List.map_cons]
    by_cases listed : name ∈ bindings.names
    · have skipped : decide (name ∉ bindings.names) = false :=
        decide_eq_false fun fresh => fresh listed
      rw [names_set_of_mem listed, List.filter_cons, skipped]
      rfl
    · have kept : decide (name ∉ bindings.names) = true := decide_eq_true listed
      -- What is new behind the name is what is new and another name.
      have others : (pairs.map Prod.fst).filter (· ∉ bindings.names ++ [name]) =
          ((pairs.map Prod.fst).filter (· ∉ bindings.names)).filter (!· == name) := by
        rw [List.filter_filter]
        refine List.filter_congr fun other _ => ?_
        by_cases same : other = name
        · simp [same]
        · simp [same]
      rw [names_set_of_not_mem listed, List.filter_cons, kept, if_pos rfl, List.eraseDups_cons,
        others, List.append_assoc]
      rfl

end Bindings

namespace Statement

/-- Setting bindings one by one sets all of them. -/
theorem foldl_bind (statement : Statement) (pairs : List (String × Value)) :
    pairs.foldl (fun changed (column, value) => changed.bind column value) statement =
      statement.bindAll pairs := by
  induction pairs generalizing statement with
  | nil => rfl
  | cons pair pairs ih => exact ih (statement.bind pair.1 pair.2)

/-- Two lists set the bindings of their pairs. -/
theorem bindLists_of_pairs (statement : Statement) (pairs : List (String × Value)) :
    statement.bindLists (pairs.map Prod.fst) (pairs.map Prod.snd) =
      .ok (statement.bindAll pairs) := by
  have lengths : (pairs.map Prod.fst).length = (pairs.map Prod.snd).length := by
    rw [List.length_map, List.length_map]
  have zipped : (pairs.map Prod.fst).zip (pairs.map Prod.snd) = pairs :=
    (List.zip_of_prod rfl rfl).symm
  rw [bindLists, if_pos lengths, zipped]

/-- Replacing bindings by those of a map sets its names where there is none. -/
theorem replaceBindings_entries (statement : Statement) (raw : Bindings) :
    statement.replaceBindings raw.entries = (statement.reset .bindings).bindAll raw.entries := by
  rw [replaceBindings, Bindings.ofPairs_entries]
  rfl

end Statement

namespace Json

variable {key : String} {before after : List (String × Json)}

/-- A member with another key does not matter to a field. -/
theorem fieldValue?_insert_of_ne {name : String} (other : key ≠ name) (value : Json) :
    fieldValue? name (before ++ (key, value) :: after) = fieldValue? name (before ++ after) := by
  have skipped : ((key, value) :: after).filter (·.1 == name) = after.filter (·.1 == name) :=
    List.filter_cons_of_neg fun same => other (beq_iff_eq.mp same)
  rw [fieldValue?, List.filter_append, skipped, ← List.filter_append, ← fieldValue?]

variable (fresh : key ∉ (before ++ after).map Prod.fst)

include fresh

/-- No other member has the key. -/
theorem filter_key_eq_nil : (before ++ after).filter (·.1 == key) = [] := by
  rw [List.filter_eq_nil_iff]
  intro member listed same
  exact fresh (List.mem_map.mpr ⟨member, listed, beq_iff_eq.mp same⟩)

/-- A field without a member is absent. -/
theorem fieldValue?_of_not_mem : fieldValue? key (before ++ after) = some none := by
  rw [fieldValue?, filter_key_eq_nil fresh]

/-- A field with one member has its value. -/
theorem fieldValue?_insert_self (value : Json) :
    fieldValue? key (before ++ (key, value) :: after) = some (some value) := by
  have nothing := filter_key_eq_nil fresh
  rw [List.filter_append, List.append_eq_nil_iff] at nothing
  have found : ((key, value) :: after).filter (·.1 == key) = [(key, value)] := by
    rw [List.filter_cons_of_pos (by exact beq_self_eq_true key), nothing.2]
  rw [fieldValue?, List.filter_append, nothing.1, found]
  rfl

/-- With the member of its last field, a record has the same other fields. -/
theorem exists_fields?_insert {names : List String} (others : key ∉ names) (value : Json) :
    ∃ known : Option (List (Option Json)),
      fields? (names ++ [key]) (.object (before ++ (key, value) :: after)) =
        known.map (· ++ [some value]) ∧
      fields? (names ++ [key]) (.object (before ++ after)) = known.map (· ++ [none]) := by
  have same : names.mapM (fieldValue? · (before ++ (key, value) :: after)) =
      names.mapM (fieldValue? · (before ++ after)) := by
    clear fresh
    induction names with
    | nil => rfl
    | cons name names ih =>
      rw [List.mem_cons, not_or] at others
      rw [List.mapM_cons, List.mapM_cons, fieldValue?_insert_of_ne others.1, ih others.2]
  refine ⟨names.mapM (fieldValue? · (before ++ after)), ?_, ?_⟩
  · rw [fields?,
      List.mapM_concat (fieldValue? · _) names (fieldValue?_insert_self fresh value), same]
  · rw [fields?, List.mapM_concat (fieldValue? · _) names (fieldValue?_of_not_mem fresh)]

end Json

namespace Statement

/-- Bindings that are read come in place of none. -/
theorem ofJson?_of_last {json bare written : Json} {others : List (Option Json)}
    {bindings : Bindings} (full : json.fields? fieldNames = some (others ++ [some written]))
    (rest : bare.fields? fieldNames = some (others ++ [none]))
    (read : Bindings.ofJson? written = some bindings) :
    ofJson? json = (ofJson? bare).map fun statement => { statement with bindings } := by
  rw [ofJson?, ofJson?, full, rest]
  simp only [Option.bind_eq_bind, Option.bind_some]
  split
  next action distinct tables fields whereClause havingClause groups orders page joins positional
      last same =>
    have parts : others ++ [some written] = [action, distinct, tables, fields, whereClause,
        havingClause, groups, orders, page, joins, positional] ++ [last] := same
    obtain ⟨rfl, isLast⟩ := List.append_inj' parts rfl
    cases isLast
    simp only [List.cons_append, List.nil_append, Json.withDefault, read, Option.bind_some]
    simp only [Option.map_bind, Function.comp_def, Option.map_some]
  next unlike =>
    split
    next action distinct tables fields whereClause havingClause groups orders page joins positional
      last same =>
      have parts : others ++ [none] = [action, distinct, tables, fields, whereClause,
          havingClause, groups, orders, page, joins, positional] ++ [last] := same
      obtain ⟨rfl, -⟩ := List.append_inj' parts rfl
      exact (unlike _ _ _ _ _ _ _ _ _ _ _ _ rfl).elim
    next => rfl

/-- Reading a map with the rest of a statement sets its names where there is none. -/
theorem ofJson?_of_bindings {raw : Bindings}
    (finite : ∀ x, .real x ∈ raw.entries.map Prod.snd → x.isFinite = true)
    {before after : List (String × Json)} (fresh : "bindings" ∉ (before ++ after).map Prod.fst) :
    ofJson? (.object (before ++ ("bindings", raw.toJson) :: after)) =
      (ofJson? (.object (before ++ after))).map fun statement =>
        (statement.reset .bindings).bindAll raw.entries := by
  have others : "bindings" ∉ fieldNames.dropLast := by decide
  have names : fieldNames.dropLast ++ ["bindings"] = fieldNames := rfl
  obtain ⟨known, full, rest⟩ := Json.exists_fields?_insert fresh others raw.toJson
  rw [names] at full rest
  cases known with
  | none =>
    rw [ofJson?, ofJson?, full, rest]
    rfl
  | some known => exact ofJson?_of_last full rest (Bindings.ofJson?_toJson_of_finite finite)

/-- Setting bindings from pairs, from two lists and one by one is the same: a name that is there
keeps its place, the others follow in the order in which they first occur, and every name has the
last value that one of its texts is given. Lists of different lengths are refused with both lengths.
Replacing the bindings by those of a map, and reading the map, sets the names of the map where there
is no binding, also if several of its texts have one name. -/
theorem setters_agree (statement : Statement) (pairs : List (String × Value)) :
    let bound := statement.bindAll pairs
    let named := pairs.map (Prod.map bindingName id)
    (statement.bindLists (pairs.map Prod.fst) (pairs.map Prod.snd) = .ok bound ∧
      pairs.foldl (fun changed (column, value) => changed.bind column value) statement = bound) ∧
    bound.bindings.names = statement.bindings.names ++
      ((named.map Prod.fst).filter (· ∉ statement.bindings.names)).eraseDups ∧
    (∀ name, bound.bindings.get? name =
      (named.reverse.lookup name).or (statement.bindings.get? name)) ∧
    (∀ columns values, columns.length ≠ values.length →
      statement.bindLists columns values =
        .error (.mismatchedLengths columns.length values.length)) ∧
    ∀ raw : Bindings,
      statement.replaceBindings raw.entries =
        (statement.reset .bindings).bindAll raw.entries ∧
      ((∀ x, .real x ∈ raw.entries.map Prod.snd → x.isFinite = true) →
        Bindings.ofJson? raw.toJson = some (Bindings.empty.bindAll raw.entries) ∧
        ∀ before after, "bindings" ∉ (before ++ after).map Prod.fst →
          ofJson? (.object (before ++ ("bindings", raw.toJson) :: after)) =
            (ofJson? (.object (before ++ after))).map fun statement =>
              (statement.reset .bindings).bindAll raw.entries) := by
  intro bound named
  have bindings : bound.bindings = statement.bindings.setAll named :=
    statement.bindings.bindAll_eq_setAll pairs
  refine ⟨⟨statement.bindLists_of_pairs pairs, statement.foldl_bind pairs⟩, ?names, ?values,
    fun columns values lengths => if_neg lengths, fun raw => ⟨?replaced, fun finite => ⟨?read, ?_⟩⟩⟩
  case names => rw [bindings, Bindings.names_setAll]
  case values =>
    intro name
    rw [bindings, Bindings.get?_setAll]
  case replaced => exact statement.replaceBindings_entries raw
  case read => exact Bindings.ofJson?_toJson_of_finite finite
  intro before after fresh
  exact ofJson?_of_bindings finite fresh

/-- Four texts for two names. -/
def sampleMap : Bindings where
  entries := [("id", .int 1), (":name", .text "a"), (" id ", .real (.ofRatio false 3 2)),
    ("name:", .null)]
  nodup := by decide

/-- A change with a binding. -/
def sampleChange : Statement where
  action := .update
  tables := [⟨"t", none⟩]
  bindings := .ofPairs [("name", .text "b"), ("x", .bool true)]

/-- Each name has the value that its second text is given, whether the map is set or read. -/
theorem sampleMap_setters_agree :
    let half := Value.real (.ofRatio false 3 2)
    let columns := sampleMap.entries.map Prod.fst
    let before := [("action", Json.string "update")]
    let after := [("table", Json.array [.object [("table", .string "t")]])]
    (sampleChange.bindAll sampleMap.entries).bindings.entries =
      [("name", .null), ("x", .bool true), ("id", half)] ∧
    (columns.length ≠ [half].length ∧
      sampleChange.bindLists columns [half] = .error (.mismatchedLengths 4 1)) ∧
    (∀ x, .real x ∈ sampleMap.entries.map Prod.snd → x.isFinite = true) ∧
    "bindings" ∉ (before ++ after).map Prod.fst ∧
    (sampleChange.replaceBindings sampleMap.entries).bindings.entries =
      [("id", half), ("name", .null)] ∧
    ofJson? (.object (before ++ ("bindings", sampleMap.toJson) :: after)) =
      some (sampleChange.replaceBindings sampleMap.entries) := by
  intro half columns before after
  have bound : (sampleChange.bindAll sampleMap.entries).bindings.entries =
      [("name", .null), ("x", .bool true), ("id", half)] := by decide +kernel
  have replaced : ((sampleChange.reset .bindings).bindAll sampleMap.entries).bindings.entries =
      [("id", half), ("name", .null)] := by decide +kernel
  have finite (x : Double) (listed : .real x ∈ sampleMap.entries.map Prod.snd) :
      x.isFinite = true := by
    have only : x = .ofRatio false 3 2 := by simpa [sampleMap] using listed
    rw [only]
    decide +kernel
  have fresh : "bindings" ∉ (before ++ after).map Prod.fst := by decide
  have lengths : columns.length ≠ [half].length := by decide
  have rest : ofJson? (.object (before ++ after)) = some (sampleChange.reset .bindings) := rfl
  obtain ⟨-, -, -, refused, maps⟩ := setters_agree sampleChange sampleMap.entries
  obtain ⟨same, read⟩ := maps sampleMap
  have whole := (read finite).2 before after fresh
  rw [rest, Option.map_some] at whole
  rw [same]
  exact ⟨bound, ⟨lengths, refused columns [half] lengths⟩, finite, fresh, replaced, whole⟩

end Statement

end Crud
