import Crud.Description.Statement
import Crud.Proofs.WrittenClause

/-!
# Written statements are read back

Every part of a statement is read back from its written form, at any depth of groups, and every
written form has a text of its own. A description of a statement is therefore read as the
statement without its lookup. Floating-point numbers have to be read back when they stand by
themselves, the names of bindings have to be in their form, and the text may not nest too deep.
-/

namespace Crud

open Json (Printable)

/-- A direction is read back from its name. -/
theorem Direction.toChoice?_name (direction : Direction) :
    Json.toChoice? all name (.string direction.name) = some direction := by
  cases direction <;> rfl

/-- The kind of a join is read back from its name. -/
theorem JoinKind.toChoice?_name (kind : JoinKind) :
    Json.toChoice? all name (.string kind.name) = some kind := by
  cases kind <;> rfl

/-- An action is read back from its name. -/
theorem Action.toChoice?_name (action : Action) :
    Json.toChoice? all name (.string action.name) = some action := by
  cases action <;> rfl

namespace TableRef

variable (table : TableRef)

/-- A table has a text of its own. -/
theorem printable_toJson : Printable table.toJson :=
  Json.printable_record (List.forall_mem_singleton.mpr (.string _))
    (Json.printable_optional_string table.aliasName)

/-- A table is read back. -/
theorem ofJson?_toJson : ofJson? table.toJson = some table :=
  Json.read_pair (by decide) TableRef.mk rfl (Json.optional_string table.aliasName)

end TableRef

namespace GroupEntry

variable (entry : GroupEntry)

/-- An entry of a grouping has a text of its own. -/
theorem printable_toJson : Printable entry.toJson :=
  Json.printable_record (List.forall_mem_singleton.mpr (.string _))
    (Json.printable_optional_string entry.modifier)

/-- An entry of a grouping is read back. -/
theorem ofJson?_toJson : ofJson? entry.toJson = some entry :=
  Json.read_pair (by decide) GroupEntry.mk rfl (Json.optional_string entry.modifier)

end GroupEntry

namespace OrderEntry

variable (entry : OrderEntry)

/-- An entry of an order has a text of its own. -/
theorem printable_toJson : Printable entry.toJson :=
  .object (List.forall_mem_cons.mpr ⟨.string _, List.forall_mem_singleton.mpr (.string _)⟩)

/-- An entry of an order is read back. -/
theorem ofJson?_toJson : ofJson? entry.toJson = some entry := by
  have fields : entry.toJson.fields? ["column", "direction"] =
      some [some (.string entry.column), some (.string entry.direction.name)] :=
    Json.fields?_pair (by decide) _ (some _)
  rw [ofJson?, fields]
  simp only [Option.bind_eq_bind, Option.bind_some, Json.required, Json.toString?,
    Json.withDefault, Direction.toChoice?_name]

end OrderEntry

/-- A number of 64 bits without a sign is read back. -/
theorem Json.toUInt64?_toNat (n : UInt64) : Json.toUInt64? (.integer n.toNat) = some n := by
  have small : (n.toNat : Int) < UInt64.size := Int.ofNat_lt.mpr n.toNat_lt
  rw [toUInt64?, if_pos ⟨Int.natCast_nonneg _, small⟩, Int.toNat_natCast, UInt64.ofNat_toNat]

namespace Page

variable (page : Page)

/-- A page has a text of its own. -/
theorem printable_toJson : Printable page.toJson := by
  have bound (n : UInt64) : Printable (.integer n.toNat) :=
    .integer (Json.integerFits_of_natural n.toNat_lt)
  apply Json.printable_record (List.forall_mem_singleton.mpr (bound page.limit))
  intro json found
  obtain ⟨offset, -, rfl⟩ := Option.map_eq_some_iff.mp found
  exact bound offset

/-- A page is read back, with and without an offset. -/
theorem ofJson?_toJson : ofJson? page.toJson = some page := by
  have offset : Json.optional Json.toUInt64? (page.offset.map fun n => .integer n.toNat) =
      some page.offset := by
    cases page.offset with
    | none => rfl
    | some n => simp only [Option.map_some, Json.optional, Json.toUInt64?_toNat]
  exact Json.read_pair (by decide) Page.mk (Json.toUInt64?_toNat page.limit) offset

end Page

/-- The values of a field. -/
def FieldSource.values : FieldSource → List Value
  | column _ => []
  | fragment part => part.values

namespace FieldRef

variable {field : FieldRef} (writable : ∀ value ∈ field.source.values, value.Writable)

include writable

/-- What a field shows has a text of its own. -/
theorem printable_source : Printable field.source.toJson := by
  cases source : field.source with
  | column name => exact .string name
  | fragment part =>
    rw [source] at writable
    exact Fragment.printable_toJson writable

/-- A field has a text of its own. -/
theorem printable_toJson : Printable field.toJson :=
  Json.printable_record (List.forall_mem_singleton.mpr (printable_source writable))
    (Json.printable_optional_string field.aliasName)

/-- What a field shows is read back. -/
theorem ofJson?_source {levels : Nat} (shallow : field.source.toJson.depth ≤ levels) :
    FieldSource.ofJson? levels field.source.toJson = some field.source := by
  have fits := (printable_source writable).fits shallow
  cases source : field.source with
  | column name => rfl
  | fragment part =>
    rw [source] at writable fits
    have back := congrArg (Option.map FieldSource.fragment) (Fragment.ofJson?_toJson writable)
    exact (if_pos fits).trans back

/-- A field is read back. -/
theorem ofJson?_toJson {levels : Nat} (shallow : field.toJson.depth ≤ levels) :
    ofJson? levels field.toJson = some field := by
  have sourceShallow : field.source.toJson.depth ≤ levels - 1 :=
    Json.depth_member_le shallow _ List.mem_cons_self
  exact Json.read_pair (by decide) FieldRef.mk (ofJson?_source writable sourceShallow)
    (Json.optional_string field.aliasName)

end FieldRef

namespace Join

variable {join : Join}
variable (writable : ∀ condition ∈ join.conditions, ∀ value ∈ condition.operand.values,
  value.Writable)

include writable

/-- A join has a text of its own. -/
theorem printable_toJson : Printable join.toJson := by
  refine .object (List.forall_mem_cons.mpr ⟨.string _, List.forall_mem_cons.mpr ⟨.string _, ?_⟩⟩)
  have conditions := Json.printable_map fun condition listed =>
    Condition.printable_toJson (writable condition listed)
  exact List.forall_mem_singleton.mpr conditions

/-- A join is read back with its conditions. -/
theorem ofJson?_toJson : ofJson? join.toJson = some join := by
  have fields : join.toJson.fields? ["table", "kind", "on"] =
      some [some (.string join.table), some (.string join.kind.name),
        some (.array (join.conditions.map Condition.toJson))] := by
    have nodup : ["table", "kind", "on"].Nodup := by decide
    rw [toJson, Json.fields?_object (by exact nodup)]
    rfl
  have conditions := Json.toList?_map fun condition listed =>
    Condition.ofJson?_toJson (writable condition listed)
  rw [ofJson?, fields]
  simp only [Option.bind_eq_bind, Option.bind_some, Json.required, Json.toString?,
    Json.withDefault, JoinKind.toChoice?_name, conditions]

end Join

namespace Bindings

/-- A new name comes after the others. -/
theorem setEntry_of_not_mem {name : String} {entries : List (String × Value)}
    (fresh : name ∉ entries.map Prod.fst) (value : Value) :
    setEntry name value entries = entries ++ [(name, value)] := by
  induction entries with
  | nil => rfl
  | cons head rest ih =>
    rw [List.map_cons, List.mem_cons, not_or] at fresh
    rw [setEntry, if_neg (Ne.symm fresh.1), ih fresh.2, List.cons_append]

/-- New names that are all different come after the others in their order. -/
theorem entries_setAll (bindings : Bindings) {pairs : List (String × Value)}
    (fresh : ((bindings.entries ++ pairs).map Prod.fst).Nodup) :
    (bindings.setAll pairs).entries = bindings.entries ++ pairs := by
  induction pairs generalizing bindings with
  | nil => exact (List.append_nil _).symm
  | cons pair pairs ih =>
    have freshName : pair.1 ∉ bindings.entries.map Prod.fst := by
      rw [List.map_append, List.map_cons, List.nodup_append] at fresh
      exact fun listed => fresh.2.2 _ listed _ List.mem_cons_self rfl
    have set : (bindings.set pair.1 pair.2).entries = bindings.entries ++ [pair] :=
      setEntry_of_not_mem freshName pair.2
    have freshRest : (((bindings.set pair.1 pair.2).entries ++ pairs).map Prod.fst).Nodup := by
      rw [set, List.append_assoc]
      exact fresh
    have others := ih (bindings.set pair.1 pair.2) freshRest
    rw [set, List.append_assoc] at others
    exact others

/-- Setting the entries of bindings in order leads to these bindings. -/
theorem ofPairs_entries (bindings : Bindings) : ofPairs bindings.entries = bindings := by
  have same : (ofPairs bindings.entries).entries = bindings.entries :=
    entries_setAll empty bindings.nodup
  revert same
  generalize ofPairs bindings.entries = built
  intro same
  cases built
  cases bindings
  cases same
  rfl

/-- Names that are in their form are bound as they are. -/
theorem bindAll_of_fixed (bindings : Bindings) {pairs : List (String × Value)}
    (fixed : ∀ name ∈ pairs.map Prod.fst, bindingName name = name) :
    bindings.bindAll pairs = bindings.setAll pairs := by
  induction pairs generalizing bindings with
  | nil => rw [bindAll, setAll, List.foldl_nil, List.foldl_nil]
  | cons pair pairs ih =>
    obtain ⟨name, value⟩ := pair
    rw [List.map_cons, List.forall_mem_cons] at fixed
    have bound : bindings.bind name value = bindings.set name value := by rw [bind, fixed.1]
    have others := ih (bindings.set name value) fixed.2
    rw [bindAll, setAll] at others ⊢
    simp only [List.foldl_cons, bound]
    exact others

variable {bindings : Bindings}

/-- Bindings are read back from their written form with their names brought into form. -/
theorem ofJson?_toJson_of_finite
    (finite : ∀ x, .real x ∈ bindings.entries.map Prod.snd → x.isFinite = true) :
    ofJson? bindings.toJson = some (empty.bindAll bindings.entries) := by
  have back : ∀ entry ∈ bindings.entries,
      (Value.ofJson? entry.2.toJson).map (entry.1, ·) = some entry := by
    intro entry listed
    have value : Value.ofJson? entry.2.toJson = some entry.2 := by
      apply Value.ofJson?_toJson_of_finite
      intro x same
      exact finite x (List.mem_map.mpr ⟨entry, listed, same.symm⟩)
    rw [value]
    rfl
  have pairs := List.mapM_map_eq_some (fun entry : String × Value => (entry.1, entry.2.toJson))
    (fun member => (Value.ofJson? member.2).map (member.1, ·)) back
  have read : ofJson? bindings.toJson = (some bindings.entries).bind fun pairs =>
      some (empty.bindAll (ofPairs pairs).entries) :=
    congrArg (Option.bind · fun pairs => some (empty.bindAll (ofPairs pairs).entries)) pairs
  rw [read, Option.bind_some, ofPairs_entries]

variable (writable : ∀ value ∈ bindings.entries.map Prod.snd, value.Writable)

include writable

/-- Bindings have a text of their own. -/
theorem printable_toJson : Printable bindings.toJson := by
  refine .object (List.forall_mem_map.mpr fun entry listed => ?_)
  exact Value.printable_toJson (writable entry.2 (List.mem_map.mpr ⟨entry, listed, rfl⟩))

/-- Bindings are read back if their names are in their form. -/
theorem ofJson?_toJson (fixed : ∀ name ∈ bindings.names, bindingName name = name) :
    ofJson? bindings.toJson = some bindings := by
  have set : empty.bindAll bindings.entries = bindings :=
    (bindAll_of_fixed empty fixed).trans (ofPairs_entries bindings)
  rw [ofJson?_toJson_of_finite fun x listed => (writable _ listed).1, set]

end Bindings

namespace Statement

/-- Every value that the statement has anywhere. -/
def everyValue (statement : Statement) : List Value :=
  statement.fields.flatMap (·.source.values) ++ statement.whereClause.values ++
    statement.havingClause.values ++
    statement.joins.flatMap (fun join => join.conditions.flatMap (·.operand.values)) ++
    statement.values ++ statement.bindings.entries.map Prod.snd

/-- The values of every part of the statement can be written. -/
structure Writable (statement : Statement) : Prop where
  /-- The values of what the fields show. -/
  fields : ∀ field ∈ statement.fields, ∀ value ∈ field.source.values, value.Writable
  /-- The values of the conditions on rows. -/
  whereClause : ∀ value ∈ statement.whereClause.values, value.Writable
  /-- The values of the conditions on groups. -/
  havingClause : ∀ value ∈ statement.havingClause.values, value.Writable
  /-- The values of the conditions of joins. -/
  joins : ∀ join ∈ statement.joins, ∀ condition ∈ join.conditions,
    ∀ value ∈ condition.operand.values, value.Writable
  /-- The positional values. -/
  values : ∀ value ∈ statement.values, value.Writable
  /-- The values of the bindings. -/
  bindings : ∀ value ∈ statement.bindings.entries.map Prod.snd, value.Writable

/-- It is enough that every value of the statement has a text. -/
theorem writable_of_everyValue {statement : Statement}
    (writable : ∀ value ∈ statement.everyValue, value.Writable) : statement.Writable := by
  simp only [everyValue, List.forall_mem_append] at writable
  obtain ⟨⟨⟨⟨⟨fields, whereClause⟩, havingClause⟩, joins⟩, values⟩, bindings⟩ := writable
  refine ⟨fun field listed value inField => ?_, whereClause, havingClause,
    fun join listed condition inJoin value inCondition => ?_, values, bindings⟩
  · exact fields value (List.mem_flatMap.mpr ⟨field, listed, inField⟩)
  · have inConditions : value ∈ join.conditions.flatMap (·.operand.values) :=
      List.mem_flatMap.mpr ⟨condition, inJoin, inCondition⟩
    exact joins value (List.mem_flatMap.mpr ⟨join, listed, inConditions⟩)

variable {statement : Statement} (writable : statement.Writable)

include writable

/-- A statement has a text of its own. -/
theorem printable_toJson : Printable statement.toJson := by
  have page : Printable ((statement.page.map Page.toJson).getD .null) := by
    cases statement.page with
    | none => exact .null
    | some page => exact page.printable_toJson
  refine .object ?_
  simp only [List.forall_mem_cons, List.not_mem_nil, false_implies, implies_true, and_true]
  refine ⟨.string _, .bool _, ?tables, ?fields, ?rows, ?having, ?groups, ?orders, page, ?joins,
    ?values, ?bindings⟩
  case tables => exact Json.printable_map fun table _ => table.printable_toJson
  case fields =>
    exact Json.printable_map fun field listed =>
      FieldRef.printable_toJson (writable.fields field listed)
  case rows => exact .array (Clause.printable_toItems writable.whereClause)
  case having => exact .array (Clause.printable_toItems writable.havingClause)
  case groups => exact Json.printable_map fun entry _ => entry.printable_toJson
  case orders => exact Json.printable_map fun entry _ => entry.printable_toJson
  case joins =>
    exact Json.printable_map fun join listed =>
      Join.printable_toJson (writable.joins join listed)
  case values =>
    exact Json.printable_map fun value listed =>
      Value.printable_toJson (writable.values value listed)
  case bindings => exact Bindings.printable_toJson writable.bindings

/-- A statement is read back from its written form, but for its lookup. -/
theorem ofJson?_toJson (fixed : ∀ name ∈ statement.bindings.names, bindingName name = name)
    (shallow : statement.toJson.depth ≤ Json.levelLimit) :
    ofJson? statement.toJson = some { statement with lookup := none } := by
  have depth := Json.depth_member_le shallow
  simp only [List.forall_mem_cons, List.not_mem_nil, false_implies, implies_true, and_true] at depth
  obtain ⟨-, -, -, fieldsDepth, rowsDepth, havingDepth, -⟩ := depth
  have printableRows := Printable.array (Clause.printable_toItems writable.whereClause)
  have printableHaving := Printable.array (Clause.printable_toItems writable.havingClause)
  have fieldDepth (field : FieldRef) (listed : field ∈ statement.fields) :
      field.toJson.depth ≤ Json.levelLimit - 2 :=
    Json.depth_item_le fieldsDepth _ (List.mem_map.mpr ⟨field, listed, rfl⟩)
  have tables := Json.toList?_map fun table (_ : table ∈ statement.tables) => table.ofJson?_toJson
  have fields := Json.toList?_map fun field listed =>
    FieldRef.ofJson?_toJson (writable.fields field listed) (fieldDepth field listed)
  have rows := Clause.ofJson?_toJson writable.whereClause (printableRows.fits rowsDepth)
  have having := Clause.ofJson?_toJson writable.havingClause (printableHaving.fits havingDepth)
  have groups := Json.toList?_map fun entry (_ : entry ∈ statement.groups) => entry.ofJson?_toJson
  have orders := Json.toList?_map fun entry (_ : entry ∈ statement.orders) => entry.ofJson?_toJson
  have page : Json.optional Page.ofJson? (some ((statement.page.map Page.toJson).getD .null)) =
      some statement.page := by
    cases statement.page with
    | none => rfl
    | some page => exact congrArg (Option.map some) page.ofJson?_toJson
  have joins := Json.toList?_map fun join listed =>
    Join.ofJson?_toJson (writable.joins join listed)
  have values := Json.toList?_map fun value listed =>
    Value.ofJson?_toJson (writable.values value listed)
  have bindings := Bindings.ofJson?_toJson writable.bindings fixed
  have written : statement.toJson.fields? fieldNames =
      some [some (.string statement.action.name), some (.bool statement.distinct),
        some (.array (statement.tables.map TableRef.toJson)),
        some (.array (statement.fields.map FieldRef.toJson)),
        some statement.whereClause.toJson, some statement.havingClause.toJson,
        some (.array (statement.groups.map GroupEntry.toJson)),
        some (.array (statement.orders.map OrderEntry.toJson)),
        some ((statement.page.map Page.toJson).getD .null),
        some (.array (statement.joins.map Join.toJson)),
        some (.array (statement.values.map Value.toJson)), some statement.bindings.toJson] := by
    have nodup : fieldNames.Nodup := by decide
    rw [toJson, Json.fields?_object (by exact nodup)]
    rfl
  rw [ofJson?, written]
  simp only [Option.bind_eq_bind, Option.bind_some, Json.required, Json.withDefault,
    Json.toBool?, Action.toChoice?_name, tables, fields, rows, having, groups, orders, page, joins,
    values, bindings]

omit writable

/-- The description of a statement is read as the statement without its lookup. Every
floating-point number of the statement is finite and is read back when it stands by itself, the
names of its bindings are in their form, and arrays and objects nest no deeper than the reader
goes. -/
theorem describe_reads_back (finite : ∀ x, .real x ∈ statement.everyValue → x.isFinite = true)
    (reads : ∀ x, .real x ∈ statement.everyValue →
      Json.ofText? (Json.text (.double x)) = some (.double x))
    (fixed : ∀ name ∈ statement.bindings.names, bindingName name = name)
    (shallow : statement.toJson.depth ≤ 127) :
    ofDescription? statement.describe = some { statement with lookup := none } := by
  have writable : statement.Writable := by
    refine writable_of_everyValue fun value listed => ?_
    cases value with
    | real x => exact ⟨finite x listed, reads x listed⟩
    | _ => trivial
  rw [ofDescription?, describe, (printable_toJson writable).ofText?_text]
  exact ofJson?_toJson writable fixed shallow

/-- A statement with every form of operand, values of every kind, empty bytes, an empty group, the
greatest limit, and a lookup. -/
def fullSample : Statement where
  action := .select
  distinct := true
  tables := [⟨"users", some "u"⟩]
  fields := [⟨.column "u.id", none⟩, ⟨.fragment ⟨"COALESCE(n, %d)", [.int (-1)]⟩, some "n"⟩]
  whereClause :=
    .condition
      { column := "age", operator := .between, operand := .range (.int 18) (.real half) } <|
    .group
      (.group .empty <|
        .condition { column := "data", operator := .inList, operand := .list [.bytes [], .null] } <|
        .condition { column := "name", operand := .column "u.name", connector := .or } .empty) <|
    .condition { kind := .key, column := "id", operand := .named ["id"], masked := false } <|
    .condition { column := "id", operand := .subquery "SELECT 1", masked := false } .empty
  havingClause :=
    .condition { column := "n", operand := .fragment ⟨"%s + 1", [.text "a\"\u0001"]⟩ } <|
    .condition { column := "n", operator := .isNull, modifier := some "" } .empty
  groups := [⟨"u.id", some "WITH ROLLUP"⟩]
  orders := [⟨"u.id", .descending⟩]
  page := some ⟨.ofNat (UInt64.size - 1), some 0⟩
  joins := [Join.on { table := "orders", kind := .left } "u.id" .equal "orders.user" .and]
  values := [.int 18, .real half, .bytes [], .null, .bytes [255], .bool true]
  bindings := .ofPairs [("id", .int 7), ("name", .text "")]
  lookup := some fun _ => true
where
  /-- One and a half. -/
  half : Double := .ofRatio false 3 2

/-- A statement with something in every part: values of every kind, every form of an operand, groups
in groups, and one and a half as the only floating-point number. -/
theorem fullSample_reads_back :
    ((∀ x, .real x ∈ fullSample.everyValue → x.isFinite = true) ∧
      (∀ x, .real x ∈ fullSample.everyValue →
        Json.ofText? (Json.text (.double x)) = some (.double x)) ∧
      (∀ name ∈ fullSample.bindings.names, bindingName name = name) ∧
      fullSample.toJson.depth ≤ 127) ∧
    ofDescription? fullSample.describe = some { fullSample with lookup := none } := by
  have onlyHalf (x : Double) (listed : .real x ∈ fullSample.everyValue) : x = fullSample.half := by
    have values : fullSample.everyValue =
        [.int (-1), .int 18, .real fullSample.half, .bytes [], .null, .text "a\"\u0001", .int 18,
          .real fullSample.half, .bytes [], .null, .bytes [255], .bool true, .int 7, .text ""] := by
      decide +kernel
    rw [values] at listed
    simpa using listed
  have finite : fullSample.half.isFinite = true := by decide +kernel
  have reads : Json.ofText? (Json.text (.double fullSample.half)) =
      some (.double fullSample.half) := by
    let number : Json.NumberText := ⟨false, ['1'], some ['5'], none⟩
    have written : Json.text (.double fullSample.half) = "1.5" := by decide +kernel
    have value : number.toDouble = some fullSample.half := by decide +kernel
    rw [written]
    show some number.toJson = _
    rw [Json.NumberText.toJson, value]
    rfl
  have allFinite : ∀ x, .real x ∈ fullSample.everyValue → x.isFinite = true :=
    fun x listed => onlyHalf x listed ▸ finite
  have allRead : ∀ x, .real x ∈ fullSample.everyValue →
      Json.ofText? (Json.text (.double x)) = some (.double x) :=
    fun x listed => onlyHalf x listed ▸ reads
  have fixed : ∀ name ∈ fullSample.bindings.names, bindingName name = name := by decide +kernel
  have shallow : fullSample.toJson.depth ≤ 127 := by decide +kernel
  exact ⟨⟨allFinite, allRead, fixed, shallow⟩,
    describe_reads_back allFinite allRead fixed shallow⟩

end Statement

end Crud
