import Crud.Error
import Crud.Text.Blank
import Crud.Text.Case

/-!
# Reading keywords

A keyword is recognised in any case and with blanks around it. An operator or connector may be
given by its name or by its shorthand, the kind of a join with spaces for underscores and without
its last word, and a property with underscores around it. An error carries the text as given.
-/

namespace Crud

/-- The action that a text names. -/
def Action.parse (text : String) : Except Error Action :=
  let written := Text.lower (Text.trim text)
  match all.find? fun action => action.name == written with
  | some action => .ok action
  | none => .error (.unknownAction text)

/-- The operator that a text names. A name goes before a shorthand. -/
def Operator.parse (text : String) : Except Error Operator :=
  let upper := Text.upper (Text.trim text)
  let lower := Text.lower (Text.trim text)
  match all.find? fun operator => operator.name == upper with
  | some operator => .ok operator
  | none =>
    match all.find? fun operator => operator.shorthand == lower with
    | some operator => .ok operator
    | none => .error (.unknownOperator text)

/-- The connector that a text names. -/
def Connector.parse (text : String) : Except Error Connector :=
  let written := Text.upper (Text.trim text)
  match all.find? fun connector => connector.name == written || connector.shorthand == written with
  | some connector => .ok connector
  | none => .error (.unknownConnector text)

/-- The direction that a text names. -/
def Direction.parse (text : String) : Except Error Direction :=
  let written := Text.upper (Text.trim text)
  match all.find? fun direction => direction.name == written with
  | some direction => .ok direction
  | none => .error (.unknownDirection text)

/-- The texts that name a kind of join, in upper case and with underscores. The last word alone
names an inner join. -/
def JoinKind.spellings (kind : JoinKind) : List String :=
  [kind.name, kind.stem] ++ if kind = inner then ["JOIN"] else []

/-- The kind of join that a text names. -/
def JoinKind.parse (text : String) : Except Error JoinKind :=
  let written := String.ofList <|
    (Text.upper (Text.trim text)).toList.map fun char => if char = ' ' then '_' else char
  match all.find? fun kind => kind.spellings.contains written with
  | some kind => .ok kind
  | none => .error (.unsupportedJoin text "filter")

/-- The property that a text names. -/
def Property.parse (text : String) : Except Error Property :=
  let bare := String.ofList (Text.stripEnds (· == '_') (Text.trim text).toList)
  let written := Text.lower bare
  match all.find? fun property => property.name == written with
  | some property => .ok property
  | none => .error (.unknownProperty text)

end Crud
