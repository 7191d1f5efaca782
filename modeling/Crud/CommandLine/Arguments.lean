import Crud.TableQuery

/-!
# Command line arguments

Options are given by a letter or by a name, their values in the next argument or attached. Letters
may share an argument. No option may be given twice, and an argument that starts with a dash, unless
it is the dash alone, is never a value in an argument of its own. After two dashes every argument is
a plain one. Arguments are taken from left to right, and the first that is wrong, or that asks for
help or for the version, decides the outcome.
-/

namespace Crud.CommandLine

/-- What an option does. -/
inductive OptionKind where
  /-- It takes a value. -/
  | value
  /-- It takes a value that is not empty. -/
  | path
  /-- It is on when it is given. -/
  | flag
  /-- It asks for the version. -/
  | version
  /-- It asks for help. -/
  | help
deriving DecidableEq, Repr

/-- An option. -/
structure OptionSpec where
  /-- The name, which follows two dashes. -/
  name : String
  /-- The letter, which follows one dash. -/
  letter : Option Char
  /-- What it does. -/
  kind : OptionKind

/-- Why arguments are not carried out. -/
inductive Stop where
  /-- They are wrong. -/
  | wrong
  /-- They ask for the version. -/
  | version
  /-- They ask for help. -/
  | help
deriving DecidableEq, Repr

/-- What has been given so far: options with their values, and plain arguments. -/
structure Given where
  /-- The options with their values. -/
  options : List (String × String) := []
  /-- The plain arguments. -/
  plain : List String := []
deriving Repr

namespace Given

/-- The value of an option. -/
def value? (given : Given) (name : String) : Option String := given.options.lookup name

/-- An option is given. -/
def has (given : Given) (name : String) : Bool := (given.value? name).isSome

/-- Take an option with a value. -/
def take (given : Given) (option : OptionSpec) (value : String) : Except Stop Given :=
  match option.kind with
  | .version => .error .version
  | .help => .error .help
  | kind =>
    if given.has option.name ∨ (kind = .path ∧ value = "") then .error .wrong
    else .ok { given with options := given.options ++ [(option.name, value)] }

/-- Take a plain argument, of which there may be only as many as are accepted. -/
def takePlain (given : Given) (accepts : Nat → String → Bool) (argument : String) :
    Except Stop Given :=
  if accepts given.plain.length argument then .ok { given with plain := given.plain ++ [argument] }
  else .error .wrong

end Given

/-- The option takes a value. -/
def OptionSpec.takesValue (option : OptionSpec) : Bool :=
  option.kind = .value || option.kind = .path

/-- The argument can be a value. -/
def isValue (argument : String) : Bool :=
  match argument.toList with
  | '-' :: _ :: _ => false
  | _ => true

/-- An option whose value is in the next argument. -/
structure Waiting where
  /-- What has been given before. -/
  given : Given
  /-- The option without its value. -/
  option : OptionSpec

/-- Take the letters of an argument: what is given then, or the option that still needs a value. -/
def takeLetters (options : List OptionSpec) (given : Given) : List Char →
    Except Stop (Given ⊕ Waiting)
  | [] => .ok (.inl given)
  | letter :: rest =>
    match options.find? fun option => option.letter == some letter with
    | none => .error .wrong
    | some option =>
      if option.takesValue then
        match rest with
        | [] => .ok (.inr ⟨given, option⟩)
        | '=' :: value => (given.take option (.ofList value)).map .inl
        | value => (given.take option (.ofList value)).map .inl
      else
        match given.take option "" with
        | .ok given => takeLetters options given rest
        | .error stop => .error stop

/-- Take a named option, with its value after an equals sign or still without a value. -/
def takeNamed (options : List OptionSpec) (given : Given) (chars : List Char) :
    Except Stop (Given ⊕ Waiting) :=
  let name := String.ofList (chars.takeWhile (· != '='))
  let attached := chars.dropWhile (· != '=')
  match options.find? fun option => option.name == name with
  | none => .error .wrong
  | some option =>
    match option.takesValue, attached with
    | true, [] => .ok (.inr ⟨given, option⟩)
    | true, _ :: value => (given.take option (.ofList value)).map .inl
    | false, [] => (given.take option "").map .inl
    | false, _ :: _ => .error .wrong

/-- Take arguments up to one of the given words, which is returned with the arguments after it.
`accepts` decides by its position whether a plain argument is accepted. -/
def takeArguments (options : List OptionSpec) (words : List String)
    (accepts : Nat → String → Bool) (given : Given) : List String →
    Except Stop (Given × Option (String × List String))
  | [] => .ok (given, none)
  | argument :: rest =>
    if words.contains argument then .ok (given, some (argument, rest))
    else if argument = "--" then do .ok (← rest.foldlM (·.takePlain accepts ·) given, none)
    else do
      let taken ← match argument.toList with
        | '-' :: '-' :: name => takeNamed options given name
        | '-' :: letter :: letters => takeLetters options given (letter :: letters)
        | _ => (given.takePlain accepts argument).map .inl
      match taken, rest with
      | .inl given, rest => takeArguments options words accepts given rest
      | .inr _, [] => .error .wrong
      | .inr waiting, value :: rest =>
        if isValue value then do
          takeArguments options words accepts (← waiting.given.take waiting.option value) rest
        else .error .wrong

/-- What is asked for. -/
inductive Command where
  /-- Compile the description in a file, or print only the text of the statement. -/
  | compile (input : String) (textOnly : Bool)
  /-- Write a query on a table. -/
  | table (query : TableQuery) (table : String) (column : Option String)
  /-- List the drivers. -/
  | drivers
deriving Repr

/-- What is asked for and with which settings. -/
structure Invocation where
  /-- The file with the settings. -/
  settingsFile : Option String
  /-- The driver, which overrides that of the settings. -/
  driver : Option String
  /-- The prefix, which overrides that of the settings. -/
  tablePrefix : Option String
  /-- What is asked for. -/
  command : Command
deriving Repr

/-- The option that asks for help. -/
def helpOption : OptionSpec := ⟨"help", some 'h', .help⟩

/-- The options before the command. -/
def globalOptions : List OptionSpec :=
  [⟨"config", some 'c', .path⟩, ⟨"driver", some 'd', .value⟩, ⟨"prefix", some 'p', .value⟩,
    ⟨"verbose", some 'v', .flag⟩, ⟨"version", some 'V', .version⟩, helpOption]

/-- The names of the commands. -/
def commandNames : List String := ["compile", "table", "drivers"]

/-- The command of a name with the arguments after it. -/
def takeCommand (name : String) (arguments : List String) : Except Stop Command :=
  match name with
  | "compile" => do
    let options := [⟨"input", some 'i', .path⟩, ⟨"sql-only", none, .flag⟩, helpOption]
    let (given, _) ← takeArguments options [] (fun _ _ => false) {} arguments
    .ok (.compile ((given.value? "input").getD "-") (given.has "sql-only"))
  | "table" => do
    let accepts (position : Nat) (argument : String) : Bool :=
      if position = 0 then TableQuery.all.any (·.name == argument) else position < 3
    let (given, _) ← takeArguments [helpOption] [] accepts {} arguments
    match given.plain with
    | query :: table :: column =>
      match TableQuery.all.find? (·.name == query) with
      | some query => .ok (.table query table column.head?)
      | none => .error .wrong
    | _ => .error .wrong
  | "drivers" => do
    let _ ← takeArguments [helpOption] [] (fun _ _ => false) {} arguments
    .ok .drivers
  | _ => .error .wrong

/-- Asking for help on commands: every argument has to name one. -/
def takeHelp : List String → Stop
  | [] => .help
  | [name] => if ("help" :: commandNames).contains name then .help else .wrong
  | _ => .wrong

/-- What the arguments ask for. -/
def parse (arguments : List String) : Except Stop Invocation := do
  let (given, found) ←
    takeArguments globalOptions ("help" :: commandNames) (fun _ _ => false) {} arguments
  match found with
  | none => .error .wrong
  | some ("help", rest) => .error (takeHelp rest)
  | some (name, rest) =>
    .ok
      { settingsFile := given.value? "config"
        driver := given.value? "driver"
        tablePrefix := given.value? "prefix"
        command := ← takeCommand name rest }

end Crud.CommandLine
