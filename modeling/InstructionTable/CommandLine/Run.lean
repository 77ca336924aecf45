import InstructionTable.CommandLine.Arguments
import InstructionTable.CommandLine.Report

/-!
# Runs of the program

A run makes a plan of what it does with files, and the plan is carried out.
-/

namespace InstructionTable
namespace CommandLine

/-!
## Plans

A plan is a tree of what a run does with files.  Each file that it reads or writes is a node, and
the answer selects the branch that follows.  The leaves hold what the run leaves behind.  A plan
can be carried out in a directory that is given as a value, or on the files of a system.
-/

/-- What a run leaves behind. -/
structure Outcome where
  /-- The exit code. -/
  exit : Nat
  /-- What is reported on the way. -/
  report : String
  /-- What is printed. -/
  output : String
deriving DecidableEq, Repr

/-- The lines of the report. -/
def Outcome.lines (outcome : Outcome) : List String :=
  Text.lines outcome.report

/-- What a run does with files. -/
inductive Plan where
  /-- The run is over. -/
  | done (outcome : Outcome)
  /-- The bytes of a file are read. -/
  | read (path : String) (next : Except Directory.Error (List UInt8) → Plan)
  /-- A text is written to a file. -/
  | write (path text : String) (next : Except Directory.Error Unit → Plan)

namespace Plan

/-- Carry out a plan in a directory: the outcome, and the directory afterwards. -/
def runIn : Plan → Directory → Outcome × Directory
  | done outcome, directory => (outcome, directory)
  | read path next, directory => (next (directory.read path)).runIn directory
  | write path text next, directory =>
      match directory.write path text.toUTF8.toList with
      | .ok written => (next (.ok ())).runIn written
      | .error error => (next (.error error)).runIn directory

@[simp] theorem runIn_read
    (path : String)
    (next : Except Directory.Error (List UInt8) → Plan)
    (directory : Directory) :
    (read path next).runIn directory = (next (directory.read path)).runIn directory := rfl

theorem runIn_write
    (path text : String)
    (next : Except Directory.Error Unit → Plan)
    (directory : Directory) :
    (write path text next).runIn directory =
      match directory.write path text.toUTF8.toList with
      | .ok written => (next (.ok ())).runIn written
      | .error error => (next (.error error)).runIn directory := by
  rw [runIn]

end Plan

/-!
## From arguments to a plan

A run checks the name of the table, loads the list, lists its templates and puts the listing where
it is asked for.  It reports on its way, and the first step that fails ends it.
-/

/-- The lines that explain the usage. -/
def helpLines : List String :=
  [ "Generates instruction template tables from an instruction list",
    "",
    "Usage: isa-gen [OPTIONS] <INPUT>",
    "",
    "Arguments:",
    "  <INPUT>  JSON instruction list",
    "",
    "Options:",
    "      --table <TABLE>    Name of the generated table [default: INSNS_ARM64]",
    "  -o, --output <OUTPUT>  Write the generated source here instead of stdout",
    "  -v, --verbose          Enable verbose logging",
    "  -h, --help             Print help",
    "  -V, --version          Print version" ]

/-- The text that explains the usage. -/
def helpText : String :=
  String.join (helpLines.map (· ++ "\n"))

/-- The text that tells the version. -/
def versionText : String :=
  "isa-gen 0.1.0\n"

/-- The outcome of arguments that ask for no work; of an error only the first line is kept. -/
def Stop.outcome : Stop → Outcome
  | help => { exit := 0, report := "", output := helpText }
  | version => { exit := 0, report := "", output := versionText }
  | usage error =>
      { exit := 2
        report := String.join ((Text.lines error.report).take 1 |>.map (· ++ "\n"))
        output := "" }

namespace Request

/-- The message about the bytes of the list. -/
def readMessage
    (request : Request)
    (bytes : List UInt8) :
    Message :=
  { level := .debug
    speaker := "isa_gen::loader::json"
    text := "read " ++ toString bytes.length ++ " bytes from " ++ request.input }

/-- The messages about the descriptions of the list. -/
def loadMessages
    (request : Request)
    (descriptions : List Description) :
    List Message :=
  let count := toString descriptions.length
  [ { level := .debug
      speaker := "isa_gen::loader::json"
      text := "parsed " ++ count ++ " instruction descriptions" },
    { level := .debug
      speaker := "isa_gen"
      text := "loaded " ++ count ++ " descriptions from " ++ request.input } ]

/-- The messages about a listing of some instructions. -/
def listMessages
    (table : Identifier)
    (instructions : List Instruction) :
    List Message :=
  let count := toString instructions.length
  [ { level := .debug
      speaker := "isa_gen::emitter::strategies::table"
      text := "emitting " ++ count ++ " instructions into " ++ table.text },
    { level := .info
      speaker := "isa_gen"
      text := "handled " ++ count ++ " instructions" } ]

/-- The message about a listing that is written. -/
def wroteMessage (path : String) : Message :=
  { level := .info, speaker := "isa_gen", text := "wrote " ++ path }

/-- The outcome of a run that fails behind some messages. -/
def failed
    (request : Request)
    (messages : List Message)
    (failure : Failure) :
    Outcome :=
  { exit := 1
    report := Message.reportOf request.verbose messages ++ failure.report
    output := "" }

/-- The outcome of a run that succeeds behind some messages. -/
def succeeded
    (request : Request)
    (messages : List Message)
    (output : String) :
    Outcome :=
  { exit := 0
    report := Message.reportOf request.verbose messages
    output := output }

/-- Put a listing where it is asked for. -/
def deliver
    (request : Request)
    (messages : List Message)
    (source : String) :
    Plan :=
  match request.output with
  | none => .done (request.succeeded messages source)
  | some path =>
      .write path source fun
        | .error error => .done (request.failed messages (.unwritable path error))
        | .ok () => .done (request.succeeded (messages ++ [wroteMessage path]) "")

/-- List the instructions of some descriptions, behind the messages about them. -/
def list
    (request : Request)
    (table : Identifier)
    (messages : List Message)
    (descriptions : List Description) :
    Plan :=
  match Batch.compile descriptions with
  | .error error => .done (request.failed messages (.batch request.input error))
  | .ok instructions =>
      request.deliver (messages ++ listMessages table instructions)
        (Listing.source table (Listing.templates instructions))

/-- Go on with what is read of the list. -/
def load
    (request : Request)
    (table : Identifier)
    (contents : Except Directory.Error (List UInt8)) :
    Plan :=
  let messages := contents.toOption.toList.map request.readMessage
  match InstructionList.ofContents request.input contents with
  | .error error => .done (request.failed messages (.load error))
  | .ok descriptions =>
      request.list table (messages ++ request.loadMessages descriptions) descriptions

/-- The plan of a run. -/
def plan (request : Request) : Plan :=
  match Identifier.ofText request.table with
  | .error error => .done (request.failed [] (.tableName request.table error))
  | .ok table => .read request.input (request.load table)

end Request

/-- The plan of a run with some arguments. -/
def plan (arguments : List String) : Plan :=
  match Request.ofArguments Identifier.default.text arguments with
  | .error stop => .done stop.outcome
  | .ok request => request.plan

/-- Run the program with some arguments in a directory. -/
def run
    (arguments : List String)
    (directory : Directory) :
    Outcome × Directory :=
  (plan arguments).runIn directory

end CommandLine
end InstructionTable
