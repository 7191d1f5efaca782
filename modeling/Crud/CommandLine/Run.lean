import Crud.CommandLine.Arguments
import Crud.Compiler
import Crud.Description.Statement
import Crud.Settings
import Crud.Statement.Builder

/-!
# Running a command

A run is a function of its arguments and of what it reads: the environment, files and the standard
input. The settings are read before the description, and both before anything is looked up or
compiled, so the first thing that goes wrong is the one that is reported.
-/

namespace Crud.CommandLine

/-- What a run can read. -/
structure World (m : Type → Type) where
  /-- The value of an environment variable. -/
  environment : String → Option String
  /-- The text of a file. -/
  file : String → m (Option String)
  /-- The text of the standard input. -/
  input : m (Option String)

/-- What a run leaves behind. -/
structure Outcome where
  /-- The exit code. -/
  exitCode : UInt8
  /-- The text on the standard output. -/
  output : String := ""
  /-- What went wrong. -/
  error : Option String := none
deriving DecidableEq, Repr

/-- What can go wrong in a run. -/
inductive Failure where
  /-- The file of the settings cannot be read. -/
  | unreadSettings (path : String)
  /-- The text of the settings is wrong. -/
  | wrongSettings (path : String)
  /-- The file of the description cannot be read. -/
  | unreadDescription (path : String)
  /-- The standard input cannot be read. -/
  | unreadInput
  /-- The text of the description is wrong. -/
  | wrongDescription
  /-- An aggregate has no column. -/
  | missingColumn (aggregate : Aggregate)
  /-- The statement cannot be compiled. -/
  | statement (error : Error)
deriving DecidableEq, Repr

/-- The wording of a failure. -/
def Failure.message : Failure → String
  | unreadSettings path => "reading config " ++ path
  | wrongSettings path => "parsing config " ++ path
  | unreadDescription path => "reading filter " ++ path
  | unreadInput => "reading filter from stdin"
  | wrongDescription => "parsing filter description"
  | missingColumn aggregate => "the " ++ aggregate.title ++ " helper needs a column"
  | statement error => error.message

/-- The name and the version of the program. -/
def versionLine : String := "oxide-filter 0.1.0"

/-- How the program is used. -/
def usage : String :=
  "Usage: oxide-filter [OPTIONS] <COMMAND>\n\nCommands:\n" ++
  "  compile  Compile a filter description into a statement\n" ++
  "  table    Render a single-table helper statement\n" ++
  "  drivers  List the registered drivers\n"

/-- The environment variable that names a driver when no option does. -/
def driverVariable : String := "OXIDE_FILTER_DRIVER"

/-- The path is the dash alone, which stands for the standard input. A path may end in slashes and
in steps to the directory itself. -/
def isStandardInput (path : String) : Bool :=
  match Text.splitOn '/' path.toList with
  | ['-'] :: rest => rest.all fun part => part.isEmpty || part == ['.']
  | _ => false

/-- The printed form of a compiled statement: its bindings in the order of their names, its text and
its positional values. -/
def report (text : String) (statement : Statement) : Json :=
  let bindings := SortedMap.ofPairs statement.bindings.entries
  .object
    [("bindings", .object (bindings.entries.map fun (name, value) => (name, value.toJson))),
      ("sql", .string text), ("values", .array (statement.values.map Value.toJson))]

/-- The text of a description compiled with settings, and the statement with the known columns of
the settings recognised. -/
def compileWith (settings : Settings) (statement : Statement) :
    Except Error (String × Statement) := do
  let target ← settings.target Drivers.shipped
  let statement := match settings.lookup with
    | some lookup => statement.resolveColumns lookup
    | none => statement
  .ok (← target.compile statement, statement)

section

variable {m : Type → Type} [Monad m] (world : World m)

/-- The settings of a run: those of the file, overridden by the options. -/
def readSettings (invocation : Invocation) : ExceptT Failure m Settings := do
  let settings ← match invocation.settingsFile with
    | none => pure {}
    | some path =>
      match ← world.file path with
      | none => throw (.unreadSettings path)
      | some text =>
        match Settings.ofText? text with
        | some settings => pure settings
        | none => throw (.wrongSettings path)
  let driver := invocation.driver <|> world.environment driverVariable
  return { settings with
    driver := driver.getD settings.driver
    tablePrefix := invocation.tablePrefix <|> settings.tablePrefix }

/-- The statement of a description in a file or on the standard input. -/
def readStatement (path : String) : ExceptT Failure m Statement := do
  let text ← if isStandardInput path then
      match ← world.input with
      | some text => pure text
      | none => throw .unreadInput
    else
      match ← world.file path with
      | some text => pure text
      | none => throw (.unreadDescription path)
  match Statement.ofDescription? text with
  | some statement => pure statement
  | none => throw .wrongDescription

/-- The output of an invocation. -/
def perform (invocation : Invocation) : ExceptT Failure m String := do
  match invocation.command with
  | .drivers => return String.join (Drivers.shipped.names.map (· ++ "\n"))
  | .compile input textOnly =>
    let settings ← readSettings world invocation
    let statement ← readStatement world input
    match compileWith settings statement with
    | .ok (text, statement) =>
      return (if textOnly then text else (report text statement).indentedText) ++ "\n"
    | .error error => throw (.statement error)
  | .table query table column =>
    let settings ← readSettings world invocation
    match settings.target Drivers.shipped with
    | .error error => throw (.statement error)
    | .ok target =>
      match target.tableQuery table column query with
      | .ok text => return text ++ "\n"
      | .error aggregate => throw (.missingColumn aggregate)

/-- The outcome of a run. -/
def run (arguments : List String) : m Outcome := do
  match parse arguments with
  | .error .wrong => return { exitCode := 2 }
  | .error .version => return { exitCode := 0, output := versionLine ++ "\n" }
  | .error .help => return { exitCode := 0, output := usage }
  | .ok invocation =>
    match ← (perform world invocation).run with
    | .ok output => return { exitCode := 0, output }
    | .error failure => return { exitCode := 1, error := some failure.message }

end

end Crud.CommandLine
