/-!
# Sorted maps

Values under text keys in increasing order of the keys, by code points. The order is part of the
type, so a listing is always sorted and no key occurs twice.
-/

namespace Crud

/-- Values under text keys, in increasing order of the keys. -/
structure SortedMap (α : Type) where
  /-- The keys with their values. -/
  entries : List (String × α)
  /-- Every key is less than all later ones. -/
  sorted : entries.Pairwise (fun left right => left.1 < right.1)

namespace SortedMap

variable {α : Type}

/-- No key. -/
def empty : SortedMap α := ⟨[], .nil⟩

/-- The entries with a value under a key. -/
def insertEntry (key : String) (value : α) : List (String × α) → List (String × α)
  | [] => [(key, value)]
  | (found, old) :: rest =>
    if key < found then (key, value) :: (found, old) :: rest
    else if found < key then (found, old) :: insertEntry key value rest
    else (key, value) :: rest

/-- Every inserted entry was there before or is the new one. -/
theorem mem_insertEntry {key : String} {value : α} {entries : List (String × α)}
    {entry : String × α} (listed : entry ∈ insertEntry key value entries) :
    entry ∈ entries ∨ entry = (key, value) := by
  induction entries with
  | nil => simpa [insertEntry] using listed
  | cons head rest ih =>
    obtain ⟨found, old⟩ := head
    simp only [insertEntry] at listed
    split at listed
    · simpa [or_comm, or_assoc] using listed
    · split at listed
      · rcases List.mem_cons.mp listed with rfl | later
        · simp
        · rcases ih later with before | new
          · exact .inl (List.mem_cons_of_mem _ before)
          · exact .inr new
      · rcases List.mem_cons.mp listed with rfl | later
        · simp
        · exact .inl (List.mem_cons_of_mem _ later)

/-- Inserting keeps the order. -/
theorem sorted_insertEntry {key : String} {value : α} {entries : List (String × α)}
    (sorted : entries.Pairwise fun left right => left.1 < right.1) :
    (insertEntry key value entries).Pairwise fun left right => left.1 < right.1 := by
  induction entries with
  | nil => simp [insertEntry]
  | cons head rest ih =>
    obtain ⟨found, old⟩ := head
    obtain ⟨first, later⟩ := List.pairwise_cons.mp sorted
    simp only [insertEntry]
    split
    · rename_i less
      refine List.pairwise_cons.mpr ⟨fun entry listed => ?_, sorted⟩
      rcases List.mem_cons.mp listed with rfl | listed
      · exact less
      · exact String.lt_trans less (first entry listed)
    · rename_i notLess
      split
      · rename_i greater
        refine List.pairwise_cons.mpr ⟨fun entry listed => ?_, ih later⟩
        rcases mem_insertEntry listed with before | rfl
        · exact first entry before
        · exact greater
      · rename_i notGreater
        have same : found = key :=
          String.le_antisymm (String.not_lt.mp notLess) (String.not_lt.mp notGreater)
        subst same
        exact List.pairwise_cons.mpr ⟨first, later⟩

/-- The map with a value under a key. -/
def insert (map : SortedMap α) (key : String) (value : α) : SortedMap α :=
  ⟨insertEntry key value map.entries, sorted_insertEntry map.sorted⟩

/-- The keys, in increasing order. -/
def keys (map : SortedMap α) : List String := map.entries.map Prod.fst

/-- The value under a key. -/
def get? (map : SortedMap α) (key : String) : Option α := map.entries.lookup key

/-- The map of pairs inserted in order; the last value of a key stays. -/
def ofPairs (pairs : List (String × α)) : SortedMap α :=
  pairs.foldl (fun map (key, value) => map.insert key value) empty

end SortedMap

end Crud
