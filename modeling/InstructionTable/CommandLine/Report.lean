import InstructionTable.Generate

/-!
# What a run reports

A run reports what it does in messages, and why it fails.
-/

namespace InstructionTable
namespace CommandLine

/-!
## Messages about a run

A run reports what it does in messages.  Those that only matter in the search for a mistake are
left out unless they are asked for.
-/

/-- The weight of a message. -/
inductive Level where
  | info
  | debug
deriving DecidableEq, Repr

/-- The front of a message of some weight. -/
def Level.front : Level → String
  | info => "[INFO  "
  | debug => "[DEBUG "

/-- A message about a run. -/
structure Message where
  level : Level
  /-- The part of the program that speaks. -/
  speaker : String
  text : String
deriving DecidableEq, Repr

namespace Message

/-- The text of a message as it is reported. -/
def report (message : Message) : String :=
  Text.plain
    (message.level.front ++ message.speaker ++ "] " ++ Text.indentLines message.text ++ "\n")

/-- Whether a message is wanted. -/
def isWanted
    (verbose : Bool)
    (message : Message) :
    Bool :=
  verbose || message.level == .info

/-- The report of those messages that are wanted. -/
def reportOf
    (verbose : Bool)
    (messages : List Message) :
    String :=
  String.join ((messages.filter (isWanted verbose)).map report)

end Message

/-!
## Failures of a run

A failure is reported in two parts: what could not be done, and why.
-/

/-- Why a run fails. -/
inductive Failure where
  | tableName (name : String) (error : Identifier.Error)
  | load (error : InstructionList.LoadError)
  | batch (path : String) (error : Batch.Error)
  | unwritable (path : String) (error : Directory.Error)
deriving DecidableEq, Repr

namespace Failure

/-- What could not be done. -/
def headline : Failure → String
  | tableName name _ => "invalid table name `" ++ name ++ "`"
  | load error => error.message
  | batch path _ => "failed to generate from " ++ path
  | unwritable path _ => "failed to write " ++ path

/-- Why it could not be done. -/
def cause : Failure → String
  | tableName _ error => error.message
  | load error => error.cause
  | batch _ error => error.message
  | unwritable _ error => error.message

/-- The report of a failure. -/
def report (failure : Failure) : String :=
  "Error: " ++ failure.headline ++ "\n\nCaused by:\n    " ++ Text.indentLines failure.cause ++ "\n"

end Failure

end CommandLine
end InstructionTable
