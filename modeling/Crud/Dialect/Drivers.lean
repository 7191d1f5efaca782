import Crud.Rendering
import Crud.Error
import Crud.SortedMap
import Crud.Text.Case

/-!
# Drivers

Dialects by driver name. Names are compared without blanks around them and in lower case, and are
listed in increasing order. Registering a name again replaces its dialect.
-/

namespace Crud

/-- The form of a driver name in which names are compared. -/
def driverName (text : String) : String := Text.lower (Text.trim text)

/-- Dialects by driver name. -/
structure Drivers where
  /-- The names with their dialects. -/
  dialects : SortedMap Dialect := .empty

namespace Drivers

/-- Register a dialect under a driver name. -/
def register (drivers : Drivers) (name : String) (dialect : Dialect) : Drivers :=
  ⟨drivers.dialects.insert (driverName name) dialect⟩

/-- The registered names, sorted. -/
def names (drivers : Drivers) : List String := drivers.dialects.keys

/-- A dialect is registered under the name. -/
def contains (drivers : Drivers) (name : String) : Bool := drivers.names.contains (driverName name)

/-- The dialect under a name. -/
def find (drivers : Drivers) (name : String) : Except Error Dialect :=
  match drivers.dialects.get? (driverName name) with
  | some dialect => .ok dialect
  | none => .error (.unknownDriver name)

/-- The target of a driver, without a prefix for tables. -/
def target (drivers : Drivers) (name : String) : Except Error Target :=
  (drivers.find name).map fun dialect => { dialect }

/-- The dialects of a list, each under its own name. -/
def ofDialects (dialects : List Dialect) : Drivers :=
  dialects.foldl (fun drivers dialect => drivers.register dialect.name dialect) {}

/-- Every dialect that comes with the library. -/
def shipped : Drivers := ofDialects Dialect.shipped

end Drivers

end Crud
