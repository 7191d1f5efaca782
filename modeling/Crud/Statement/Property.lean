import Crud.Statement.Basic

/-!
# Properties of a statement

A property is present when it holds anything: an empty list, a missing page and a false flag count
as absent, and the action is always there. Resetting a property makes it absent, except that the
action stays.
-/

namespace Crud.Statement

/-- The property is present. -/
def has (statement : Statement) : Property → Bool
  | .table => !statement.tables.isEmpty
  | .field => !statement.fields.isEmpty
  | .whereClause => !statement.whereClause.isEmpty
  | .havingClause => !statement.havingClause.isEmpty
  | .group => !statement.groups.isEmpty
  | .order => !statement.orders.isEmpty
  | .limit => statement.page.isSome
  | .values => !statement.values.isEmpty
  | .bindings => !statement.bindings.isEmpty
  | .join => !statement.joins.isEmpty
  | .distinct => statement.distinct
  | .action => true

/-- The properties that are present, in canonical order. -/
def properties (statement : Statement) : List Property := Property.all.filter statement.has

/-- The statement without the property. -/
def reset (statement : Statement) : Property → Statement
  | .table => { statement with tables := [] }
  | .field => { statement with fields := [] }
  | .whereClause => { statement with whereClause := .empty }
  | .havingClause => { statement with havingClause := .empty }
  | .group => { statement with groups := [] }
  | .order => { statement with orders := [] }
  | .limit => { statement with page := none }
  | .values => { statement with values := [] }
  | .bindings => { statement with bindings := .empty }
  | .join => { statement with joins := [] }
  | .distinct => { statement with distinct := false }
  | .action => statement

/-- A reset property is absent, unless it is the action. -/
theorem has_reset (statement : Statement) (property : Property) :
    (statement.reset property).has property = (property == .action) := by
  cases property <;> rfl

end Crud.Statement
