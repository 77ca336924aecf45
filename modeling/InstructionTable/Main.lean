import InstructionTable.CommandLine.Run

/-!
# The program

The program carries out its plan on the files of the system and prints what the run leaves behind.
-/

namespace InstructionTable
namespace CommandLine

/-- The reason that a number of the system stands for; its sign may be changed. -/
def reasonOfNumber? (number : UInt32) : Option Directory.Error :=
  let magnitude := min number (0 - number)
  if magnitude == 20 then some .notDirectory
  else if magnitude == 21 then some .isDirectory
  else if magnitude == 36 then some .nameTooLong
  else none

/-- The reason in an error of the system. -/
def reasonOf (error : IO.Error) : Directory.Error :=
  match error with
  | .noFileOrDirectory .. => .missing
  | .inappropriateType _ number _ | .invalidArgument _ number _ =>
      (reasonOfNumber? number).getD (.other (toString error))
  | _ => .other (toString error)

/-- What a use of a file gives, or the reason why it fails. -/
def attempt
    {α : Type}
    (use : IO α) :
    IO (Except Directory.Error α) := do
  try
    return .ok (← use)
  catch error =>
    return .error (reasonOf error)

/-- Carry out a plan on the files of the system. -/
def Plan.perform : Plan → IO Outcome
  | done outcome => return outcome
  | read path next => do
      let contents ← attempt (IO.FS.readBinFile path)
      (next (contents.map fun bytes => bytes.toList)).perform
  | write path text next => do
      let written ← attempt (IO.FS.writeFile path text)
      (next written).perform

/-- Print what a run leaves behind. -/
def Outcome.print (outcome : Outcome) : IO UInt32 := do
  IO.eprint outcome.report
  IO.print outcome.output
  return outcome.exit.toUInt32

end CommandLine
end InstructionTable

/-- Run the program with its arguments. -/
def main (arguments : List String) : IO UInt32 := do
  let outcome ← (InstructionTable.CommandLine.plan arguments).perform
  outcome.print
