import Crud.Text.Blank
import Crud.Value

/-!
# Named bindings

The values that named markers of a statement stand for. Bindings keep the order in which their
names were first set; setting a name again replaces its value and keeps its place. No name occurs
twice, which is part of the type.
-/

namespace Crud

/-- A binding name without blanks and marker colons around it. Blanks are removed, then colons,
then blanks once more. -/
def bindingName (text : String) : String :=
  Text.trim (.ofList (Text.stripEnds (· == ':') (Text.trim text).toList))

/-- Values by name, in the order in which the names were first set. -/
structure Bindings where
  /-- The names with their values. -/
  entries : List (String × Value)
  /-- No name occurs twice. -/
  nodup : (entries.map Prod.fst).Nodup
deriving DecidableEq

namespace Bindings

/-- No binding. -/
def empty : Bindings := ⟨[], .nil⟩

/-- The entries with a name set to a value. -/
def setEntry (name : String) (value : Value) : List (String × Value) → List (String × Value)
  | [] => [(name, value)]
  | (found, old) :: rest =>
    if found = name then (found, value) :: rest else (found, old) :: setEntry name value rest

/-- Setting a name adds it to the names unless it is there. -/
theorem mem_keys_setEntry {name other : String} {value : Value} {entries : List (String × Value)} :
    other ∈ (setEntry name value entries).map Prod.fst ↔
      other ∈ entries.map Prod.fst ∨ other = name := by
  induction entries with
  | nil => simp [setEntry]
  | cons head rest ih =>
    obtain ⟨found, old⟩ := head
    by_cases same : found = name
    · simp only [setEntry, same, ↓reduceIte, List.map_cons, List.mem_cons]
      grind
    · simp only [setEntry, same, ↓reduceIte, List.map_cons, List.mem_cons, ih]
      grind

/-- Setting a name keeps the names free of repetition. -/
theorem nodup_setEntry {name : String} {value : Value} {entries : List (String × Value)}
    (nodup : (entries.map Prod.fst).Nodup) :
    ((setEntry name value entries).map Prod.fst).Nodup := by
  induction entries with
  | nil => simp [setEntry]
  | cons head rest ih =>
    obtain ⟨found, old⟩ := head
    simp only [List.map_cons, List.nodup_cons] at nodup
    by_cases same : found = name
    · simpa only [setEntry, same, ↓reduceIte, List.map_cons, List.nodup_cons] using
        ⟨same ▸ nodup.1, nodup.2⟩
    · simp only [setEntry, same, ↓reduceIte, List.map_cons, List.nodup_cons, mem_keys_setEntry]
      exact ⟨fun listed => listed.elim nodup.1 id, ih nodup.2⟩

/-- The bindings with a name set to a value. -/
def set (bindings : Bindings) (name : String) (value : Value) : Bindings :=
  ⟨setEntry name value bindings.entries, nodup_setEntry bindings.nodup⟩

/-- The names in order. -/
def names (bindings : Bindings) : List String := bindings.entries.map Prod.fst

/-- The value of a name. -/
def get? (bindings : Bindings) (name : String) : Option Value := bindings.entries.lookup name

/-- There is no binding. -/
def isEmpty (bindings : Bindings) : Bool := bindings.entries.isEmpty

/-- The bindings with every pair set in order. -/
def setAll (bindings : Bindings) (pairs : List (String × Value)) : Bindings :=
  pairs.foldl (fun bindings (name, value) => bindings.set name value) bindings

/-- A name that is set has its new value, and every other name has the value it had. -/
theorem get?_set (bindings : Bindings) (name other : String) (value : Value) :
    (bindings.set name value).get? other =
      if other = name then some value else bindings.get? other := by
  unfold get? set
  dsimp only
  induction bindings.entries with
  | nil =>
    by_cases same : other = name
    · rw [setEntry, List.lookup_cons, beq_iff_eq.mpr same, if_pos same]
    · rw [setEntry, List.lookup_cons, beq_false_of_ne same, if_neg same]
  | cons head rest ih =>
    obtain ⟨found, old⟩ := head
    grind [setEntry]

/-- Of the values that a name is set to, the last one counts. -/
theorem get?_setAll (bindings : Bindings) (pairs : List (String × Value)) (name : String) :
    (bindings.setAll pairs).get? name = (pairs.reverse.lookup name).or (bindings.get? name) := by
  induction pairs generalizing bindings with
  | nil => rw [setAll, List.foldl_nil, List.reverse_nil, List.lookup_nil, Option.none_or]
  | cons head rest ih =>
    have later := ih (bindings.set head.1 head.2)
    rw [setAll, List.foldl_cons, ← setAll, later, get?_set, List.reverse_cons, List.lookup_append,
      Option.or_assoc, List.lookup_cons, List.lookup_nil]
    by_cases same : name = head.1
    · rw [if_pos same, beq_iff_eq.mpr same, Option.some_or]
    · rw [if_neg same, beq_false_of_ne same, Option.none_or]

/-- The names after pairs are set are the names before and those of the pairs. -/
theorem mem_names_setAll {bindings : Bindings} {pairs : List (String × Value)} {name : String} :
    name ∈ (bindings.setAll pairs).names ↔ name ∈ bindings.names ∨ name ∈ pairs.map Prod.fst := by
  induction pairs generalizing bindings with
  | nil => exact ⟨.inl, fun listed => listed.resolve_right (List.not_mem_nil)⟩
  | cons head rest ih =>
    have first :
        name ∈ (bindings.set head.1 head.2).names ↔ name ∈ bindings.names ∨ name = head.1 :=
      mem_keys_setEntry
    rw [setAll, List.foldl_cons, ← setAll, ih, first, List.map_cons, List.mem_cons, or_assoc]

/-- The bindings of pairs set in order, from no binding. -/
def ofPairs (pairs : List (String × Value)) : Bindings := empty.setAll pairs

/-- The bindings with the name of a text set to a value. -/
def bind (bindings : Bindings) (text : String) (value : Value) : Bindings :=
  bindings.set (bindingName text) value

/-- The bindings with the name of every text set in order. -/
def bindAll (bindings : Bindings) (pairs : List (String × Value)) : Bindings :=
  pairs.foldl (fun bindings (text, value) => bindings.bind text value) bindings

/-- Binding texts sets their names. -/
theorem bindAll_eq_setAll (bindings : Bindings) (pairs : List (String × Value)) :
    bindings.bindAll pairs = bindings.setAll (pairs.map (Prod.map bindingName id)) := by
  rw [bindAll, setAll, List.foldl_map]
  rfl

end Bindings

end Crud
