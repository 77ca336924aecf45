import InstructionTable.Pattern.Encoding

/-!
# Instructions

An instruction is described by its author and compiled by itself or in a batch.
-/

namespace InstructionTable

/-!
## Descriptions

A description is one entry of an instruction list, as its author wrote it.
-/

/-- An instruction as it is listed: its mnemonic, its bit pattern and free text about it. -/
structure Description where
  /-- The mnemonic. -/
  name : String
  /-- The bit pattern. -/
  bits : String
  /-- The architecture that has the instruction. -/
  arch : String := ""
  /-- The assembly form. -/
  assembly : String := ""
  /-- The meaning, in pseudocode. -/
  code : String := ""
  /-- The mnemonic this one stands for. -/
  aliasOf : String := ""
deriving DecidableEq, Repr

/-!
## Compiled instructions

An instruction is a description whose bit pattern is replaced by its encoding.  A few mnemonics are
privileged: they reach system registers and caches.
-/

/-- The mnemonics that only a privileged program may execute. -/
inductive PrivilegedMnemonic where
  | addressTranslation
  | dataCache
  | instructionCache
  | system
  | systemWithResult
  | translationBuffer
deriving DecidableEq, Repr

namespace PrivilegedMnemonic

/-- All privileged mnemonics, in their order of declaration. -/
def all : List PrivilegedMnemonic :=
  [addressTranslation, dataCache, instructionCache, system, systemWithResult, translationBuffer]

/-- The spelling of a privileged mnemonic. -/
def text : PrivilegedMnemonic → String
  | addressTranslation => "AT"
  | dataCache => "DC"
  | instructionCache => "IC"
  | system => "SYS"
  | systemWithResult => "SYSL"
  | translationBuffer => "TLBI"

/-- The privileged mnemonic that is spelled like this, letter case included. -/
def ofText? (name : String) : Option PrivilegedMnemonic :=
  all.find? (fun mnemonic => mnemonic.text == name)

end PrivilegedMnemonic

/-- Whether an instruction of this name is privileged. -/
def isPrivileged (name : String) : Bool :=
  (PrivilegedMnemonic.ofText? name).isSome

/-- A compiled instruction. -/
structure Instruction where
  /-- The mnemonic. -/
  name : String
  /-- The values of the fixed bits. -/
  opcode : Word
  /-- The places of the fixed bits. -/
  mask : Word
  /-- The operands, from the top of the word downwards. -/
  fields : List (Field 32)
  /-- Whether only a privileged program may execute it. -/
  privileged : Bool := false
  /-- The architecture that has the instruction. -/
  arch : String := ""
  /-- The assembly form. -/
  assembly : String := ""
  /-- The meaning, in pseudocode. -/
  code : String := ""
  /-- The mnemonic this one stands for. -/
  aliasOf : String := ""
deriving DecidableEq, Repr

namespace Instruction

/-- The instruction that a description and the encoding of its pattern make. -/
def ofEncoding
    (description : Description)
    (encoding : Encoding) :
    Instruction :=
  { name := description.name
    opcode := encoding.opcode
    mask := encoding.mask
    fields := encoding.fields
    privileged := isPrivileged description.name
    arch := description.arch
    assembly := description.assembly
    code := description.code
    aliasOf := description.aliasOf }

/-- Compile a description. -/
def ofDescription (description : Description) : Except Pattern.Failure Instruction :=
  (Encoding.ofText description.bits).map (ofEncoding description)

/-- The first operand of a name. -/
def field?
    (instruction : Instruction)
    (name : String) :
    Option (Field 32) :=
  instruction.fields.find? (fun field => field.name == name)

end Instruction

/-!
## Batches

A batch compiles a list of descriptions in order.  The first description that fails ends it, and
nothing of a failed batch is kept.
-/

namespace Batch

/-- The first description of a batch that does not compile. -/
structure Error where
  /-- How many descriptions come before it. -/
  index : Nat
  /-- Its mnemonic. -/
  name : String
  /-- What is wrong with its pattern. -/
  cause : Pattern.Failure
deriving DecidableEq, Repr

/-- The report of a failed batch. -/
def Error.message (error : Error) : String :=
  "instruction #" ++ toString error.index ++ " `" ++ error.name ++ "`: " ++ error.cause.message

/-- Compile descriptions of which the first has the given index. -/
def compileFrom : Nat → List Description → Except Error (List Instruction)
  | _, [] => .ok []
  | index, description :: rest =>
      match Instruction.ofDescription description with
      | .error cause => .error { index := index, name := description.name, cause := cause }
      | .ok instruction =>
          match compileFrom (index + 1) rest with
          | .error error => .error error
          | .ok instructions => .ok (instruction :: instructions)

/-- Compile a list of descriptions. -/
def compile (descriptions : List Description) : Except Error (List Instruction) :=
  compileFrom 0 descriptions

end Batch

end InstructionTable
