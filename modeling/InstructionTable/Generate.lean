import InstructionTable.Directory
import InstructionTable.InstructionList
import InstructionTable.Listing.Source

/-!
# From files to listings

An instruction list is loaded, compiled and listed.
-/

namespace InstructionTable

/-!
## Loading instruction lists

An instruction list is loaded from a file.
-/

namespace InstructionList

/-- Why a list is not loaded. -/
inductive LoadError where
  | unreadable (path : String) (error : Directory.Error)
  | malformed (error : Json.Located)
deriving DecidableEq, Repr

namespace LoadError

/-- What lies behind an error. -/
def cause : LoadError → String
  | unreadable _ error => error.message
  | malformed error => error.message

/-- The report of an error. -/
def message : LoadError → String
  | unreadable path error => "failed to read " ++ path ++ ": " ++ error.message
  | malformed error => "malformed instruction list: " ++ error.message

end LoadError

/-- The list in the bytes of a file, if they can be had. -/
def ofContents
    (path : String)
    (contents : Except Directory.Error Json.Bytes) :
    Except LoadError (List Description) :=
  match contents with
  | .error error => .error (.unreadable path error)
  | .ok bytes => (ofJson bytes).mapError .malformed

/-- Load a list from a file of a directory. -/
def load
    (directory : Directory)
    (path : String) :
    Except LoadError (List Description) :=
  ofContents path (directory.read path)

end InstructionList

/-!
## From descriptions to a listing

The name of the table is checked first.  Then the descriptions are loaded and compiled, and their
templates listed.  Nothing is listed unless all of this succeeds.
-/

namespace Listing

/-- The templates that a listing keeps of some instructions. -/
def templates (instructions : List Instruction) : List Template :=
  instructions.map Template.ofInstruction

/--
Compile descriptions and list them in a table.  Only the batch can fail.  The tokens of a listing
are parsed again before they are laid out, but under an accepted identifier they always parse,
whatever the templates are, so there is no failure of the layout.
-/
def generate
    (table : Identifier)
    (descriptions : List Description) :
    Except Batch.Error String :=
  (Batch.compile descriptions).map fun instructions => source table (templates instructions)

/-- Why there is no listing; a layout that fails is no reason, since the tokens always parse. -/
inductive Failure where
  | tableName (error : Identifier.Error)
  | load (error : InstructionList.LoadError)
  | batch (error : Batch.Error)
deriving DecidableEq, Repr

/-- List what is loaded, under the name of a table. -/
def generateNamed
    (name : String)
    (loaded : Except InstructionList.LoadError (List Description)) :
    Except Failure String := do
  let table ← (Identifier.ofText name).mapError .tableName
  let descriptions ← loaded.mapError .load
  (generate table descriptions).mapError .batch

end Listing

end InstructionTable
