import Crud.Keyword

/-!
# Errors

Why a statement cannot be built or compiled. Every error is the caller's, and each has one
wording.
-/

namespace Crud

/-- Why a statement cannot be built or compiled. -/
inductive Error where
  /-- The text names no action. -/
  | unknownAction (text : String)
  /-- The text names no operator. -/
  | unknownOperator (text : String)
  /-- The text names no connector. -/
  | unknownConnector (text : String)
  /-- The text names no direction. -/
  | unknownDirection (text : String)
  /-- The join kind has no meaning for whoever was asked. -/
  | unsupportedJoin (kind dialect : String)
  /-- Two lists that go together differ in length. -/
  | mismatchedLengths (columns values : Nat)
  /-- A condition of a join has only one column. -/
  | missingSecondColumn (table : String)
  /-- A select statement addresses a row by its key. -/
  | keyOfSelect (column : String)
  /-- The text names no property. -/
  | unknownProperty (text : String)
  /-- The dialect has no rendering of the operator. -/
  | unsupportedOperator (operator : Operator) (dialect : String)
  /-- No dialect goes by the name. -/
  | unknownDriver (text : String)
  /-- The statement has no table. -/
  | missingTable (action : Action)
  /-- The statement assigns nothing. -/
  | missingBindings (action : Action)
deriving DecidableEq, Repr

namespace Error

/-- The wording of an error. -/
def message : Error → String
  | unknownAction text =>
    "unsupported action: '" ++ text ++ "' (only crud actions are allowed)"
  | unknownOperator text => "operator: '" ++ text ++ "' is not supported"
  | unknownConnector text => "connector: '" ++ text ++ "' is not supported"
  | unknownDirection text => "order direction: '" ++ text ++ "' is not supported"
  | unsupportedJoin kind dialect =>
    "join type: '" ++ kind ++ "' is not supported by dialect '" ++ dialect ++ "'"
  | mismatchedLengths columns values =>
    toString columns ++ " columns/keys but " ++ toString values ++
      " values: lists must have equal length"
  | missingSecondColumn table => "join on table '" ++ table ++ "' requires a second column"
  | keyOfSelect column => "key '" ++ column ++ "' is not allowed for select statements"
  | unknownProperty text => "unable to access '" ++ text ++ "': property does not exist"
  | unsupportedOperator operator dialect =>
    "where condition operator: " ++ operator.name ++ " is not supported by dialect '" ++
      dialect ++ "'"
  | unknownDriver text => "driver dependent compiler for '" ++ text ++ "' is not registered"
  | missingTable action => action.name ++ " statement requires a table"
  | missingBindings action => action.name ++ " statement requires at least one binding to set"

end Error

end Crud
