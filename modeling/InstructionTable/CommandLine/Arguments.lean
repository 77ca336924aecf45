import InstructionTable.Text

/-!
# Arguments

The program takes one instruction list and a few options.  Arguments are read from left to right.
An option or a list that is named is settled only when the next argument asks for it, so an error
about it comes after an error about the spelling of that argument.
-/

namespace InstructionTable
namespace CommandLine

/-- What the arguments ask for. -/
structure Request where
  /-- The path of the instruction list. -/
  input : String
  /-- The name of the table. -/
  table : String
  /-- The path of the listing, if it is not to be printed. -/
  output : Option String
  /-- Whether to report more. -/
  verbose : Bool
deriving DecidableEq, Repr

/-- A parameter of the program. -/
inductive Parameter where
  | input
  | table
  | output
  | verbose
  | help
  | version
deriving DecidableEq, Repr

/-- A parameter as the usage shows it. -/
def Parameter.usage : Parameter → String
  | input => "<INPUT>"
  | table => "--table <TABLE>"
  | output => "--output <OUTPUT>"
  | verbose => "--verbose"
  | help => "--help"
  | version => "--version"

/-- What is wrong with the arguments. -/
inductive UsageError where
  | missingInput
  | unexpectedArgument (text : String)
  | missingValue (parameter : Parameter)
  | repeated (parameter : Parameter)
  | unexpectedValue (value : String) (parameter : Parameter)
deriving DecidableEq, Repr

/-- The wording of an error. -/
def UsageError.message : UsageError → String
  | missingInput => "the following required arguments were not provided:"
  | unexpectedArgument text => "unexpected argument '" ++ Text.plain text ++ "' found"
  | missingValue parameter =>
      "a value is required for '" ++ parameter.usage ++ "' but none was supplied"
  | repeated parameter =>
      "the argument '" ++ parameter.usage ++ "' cannot be used multiple times"
  | unexpectedValue value parameter =>
      "unexpected value '" ++ Text.plain value ++ "' for '" ++ parameter.usage
        ++ "' found; no more were expected"

/-- The report of an error. -/
def UsageError.report (error : UsageError) : String :=
  "error: " ++ error.message ++ "\n"

/-- Why the program does not go on to its work. -/
inductive Stop where
  | help
  | version
  | usage (error : UsageError)
deriving DecidableEq, Repr

/-- What is read of the arguments. -/
structure Reading where
  input : Option String := none
  table : Option String := none
  output : Option String := none
  verbose : Bool := false
  /-- A parameter that is named but not settled, and its value, if that is given. -/
  pending : Option (Parameter × Option String) := none
  /-- Whether an input is named. -/
  named : Bool := false
deriving DecidableEq, Repr

namespace Reading

/-- Give up. -/
def fail
    {α : Type}
    (error : UsageError) :
    Except Stop α :=
  .error (.usage error)

/-- Settle a parameter that takes a value.  Only a path must not be empty. -/
def assign
    (reading : Reading)
    (parameter : Parameter)
    (value : String) :
    Except Stop Reading :=
  match parameter with
  | .input =>
      if value.isEmpty then fail (.missingValue .input)
      else .ok { reading with input := some value }
  | .table =>
      if reading.table.isSome then fail (.repeated .table)
      else .ok { reading with table := some value }
  | .output =>
      if reading.output.isSome then fail (.repeated .output)
      else if value.isEmpty then fail (.missingValue .output)
      else .ok { reading with output := some value }
  | .verbose | .help | .version => .ok reading

/-- Settle the parameter that is pending. -/
def settle (reading : Reading) : Except Stop Reading :=
  match reading.pending with
  | none => .ok reading
  | some (parameter, none) => fail (.missingValue parameter)
  | some (parameter, some value) => { reading with pending := none }.assign parameter value

/-- Take a parameter that has no value. -/
def flag
    (reading : Reading)
    (parameter : Parameter) :
    Except Stop Reading := do
  let reading ← reading.settle
  match parameter with
  | .help => .error .help
  | .version => .error .version
  | _ =>
      if reading.verbose then fail (.repeated .verbose)
      else return { reading with verbose := true }

/-- Take a parameter with its value, or wait for the value. -/
def option
    (reading : Reading)
    (parameter : Parameter)
    (value : Option String) :
    Except Stop Reading := do
  let reading ← reading.settle
  match value with
  | some value => reading.assign parameter value
  | none => return { reading with pending := some (parameter, none) }

/-- Take a word that is no option: the list, and nothing else. -/
def positional
    (reading : Reading)
    (word : String) :
    Except Stop Reading :=
  if reading.named then
    fail (.unexpectedArgument word)
  else do
    let reading ← reading.settle
    return { reading with pending := some (.input, some word), named := true }

/-- Take a word: the value that is waited for, or no option. -/
def word
    (reading : Reading)
    (text : String) :
    Except Stop Reading :=
  match reading.pending with
  | some (parameter, none) => .ok { reading with pending := some (parameter, some text) }
  | _ => reading.positional text

/-- The parameter of a long name. -/
def longName? (name : String) : Option Parameter :=
  if name == "table" then some .table
  else if name == "output" then some .output
  else if name == "verbose" then some .verbose
  else if name == "help" then some .help
  else if name == "version" then some .version
  else none

/-- Take an argument with a long name, behind its two dashes. -/
def long
    (reading : Reading)
    (text : List Char) :
    Except Stop Reading :=
  let name := String.ofList (text.takeWhile (· != '='))
  let value := match text.dropWhile (· != '=') with
    | [] => none
    | _ :: rest => some (String.ofList rest)
  match longName? name, value with
  | none, _ => fail (.unexpectedArgument ("--" ++ name))
  | some .table, value => reading.option .table value
  | some .output, value => reading.option .output value
  | some parameter, some value => fail (.unexpectedValue value parameter)
  | some parameter, none => reading.flag parameter

/-- Take an argument of short names, behind its dash. -/
def short
    (reading : Reading) :
    List Char → Except Stop Reading
  | [] => .ok reading
  | 'v' :: rest => do
      let reading ← reading.flag .verbose
      reading.short rest
  | 'h' :: _ => reading.flag .help
  | 'V' :: _ => reading.flag .version
  | ['o'] => reading.option .output none
  | 'o' :: '=' :: rest => reading.option .output (some (String.ofList rest))
  | 'o' :: rest => reading.option .output (some (String.ofList rest))
  | name :: _ => fail (.unexpectedArgument (String.ofList ['-', name]))

/-- Take all arguments; behind two dashes alone none is an option. -/
def all
    (reading : Reading)
    (verbatim : Bool) :
    List String → Except Stop Reading
  | [] => reading.settle
  | argument :: rest =>
      if verbatim then do
        let reading ← reading.positional argument
        reading.all true rest
      else
        match argument.toList with
        | ['-', '-'] => reading.all true rest
        | '-' :: '-' :: name => do
            let reading ← reading.long name
            reading.all false rest
        | '-' :: c :: names => do
            let reading ← reading.short (c :: names)
            reading.all false rest
        | _ => do
            let reading ← reading.word argument
            reading.all false rest

/-- What the arguments ask for, given the name of a table that is not named. -/
def request
    (reading : Reading)
    (defaultTable : String) :
    Except Stop Request :=
  match reading.input with
  | none => fail .missingInput
  | some input =>
      .ok
        { input := input
          table := reading.table.getD defaultTable
          output := reading.output
          verbose := reading.verbose }

end Reading

/-- Read the arguments of the program. -/
def Request.ofArguments
    (defaultTable : String)
    (arguments : List String) :
    Except Stop Request := do
  let reading ← ({} : Reading).all false arguments
  reading.request defaultTable

end CommandLine
end InstructionTable
