import InstructionTable.Instruction

/-!
# Templates and registries

A template recognises the words of an instruction, and a registry holds tables of templates.
-/

namespace InstructionTable

/-!
## Templates

A template recognises the words of an instruction and takes them apart.  It is what a table keeps
of a compiled instruction: the bounds of its fields are single bytes.
-/

/-- The shape of the words of one instruction. -/
structure Template where
  /-- The mnemonic. -/
  name : String
  /-- The values of the fixed bits. -/
  opcode : Word
  /-- The places of the fixed bits. -/
  mask : Word
  /-- The operands. -/
  fields : List (Field 8)
  /-- Whether only a privileged program may execute it. -/
  privileged : Bool := false
  /-- The architecture that has the instruction. -/
  arch : String := ""
  /-- The assembly form. -/
  assembly : String := ""
deriving DecidableEq, Repr

namespace Template

/-- The template of a compiled instruction. -/
def ofInstruction (instruction : Instruction) : Template :=
  { name := instruction.name
    opcode := instruction.opcode
    mask := instruction.mask
    fields := instruction.fields.map (Field.resize · 8)
    privileged := instruction.privileged
    arch := instruction.arch
    assembly := instruction.assembly }

/-- Whether a word has the fixed bits of a template. -/
def matchesWord
    (template : Template)
    (word : Word) :
    Bool :=
  word &&& template.mask == template.opcode

/-- The first operand of a name. -/
def field?
    (template : Template)
    (name : String) :
    Option (Field 8) :=
  template.fields.find? (fun field => field.name == name)

/-- The places of all operands together. -/
def fieldBits (template : Template) : Except Overflow Word :=
  template.fields.foldlM (fun bits field => (bits ||| ·) <$> field.mask) 0

/-- The places that neither the fixed bits nor an operand takes. -/
def freeBits (template : Template) : Except Overflow Word := do
  let bits ← template.fieldBits
  return ~~~(template.mask ||| bits)

/-- Insert the numbers asked for into a word, field after field; `call` counts the requests. -/
def encodeFields
    (ask : Nat → Field 8 → Word) :
    Nat → Word → List (Field 8) → Except Overflow Word
  | _, word, [] => .ok word
  | call, word, field :: rest => do
      let next ← field.insert word (ask call field)
      encodeFields ask (call + 1) next rest

/--
The word of a template whose operands are asked for one by one, in the order of the fields.  A
request is told how many came before it and which field it is for.  Free bits stay clear.
-/
def encode
    (template : Template)
    (ask : Nat → Field 8 → Word) :
    Except Overflow Word :=
  encodeFields ask 0 template.opcode template.fields

/-- A word taken apart by a template. -/
structure Disassembly where
  /-- The mnemonic. -/
  name : String
  /-- The operands with their numbers. -/
  operands : List (String × Word)
  /-- The free bits that are set. -/
  free : Word
deriving DecidableEq, Repr

/-- Take a word apart. -/
def disassemble
    (template : Template)
    (word : Word) :
    Except Overflow Disassembly := do
  let operands ← template.fields.mapM fun field => do
    let value ← field.extract word
    return (field.name, value)
  let free ← template.freeBits
  return { name := template.name, operands := operands, free := word &&& free }

end Template

/-!
## Registries

A registry holds tables of templates in the order of their registration.  Queries go through the
templates in that order, and the first that fits answers.
-/

/-- Tables of templates, in the order of their registration. -/
structure Registry where
  /-- The tables. -/
  tables : List (List Template) := []
deriving DecidableEq, Repr

namespace Registry

/-- A registry without tables. -/
def empty : Registry := {}

/-- Add a table behind the others. -/
def register
    (registry : Registry)
    (table : List Template) :
    Registry :=
  { tables := registry.tables ++ [table] }

/-- Compile descriptions and add their templates as one table. -/
def registerCompiled
    (registry : Registry)
    (descriptions : List Description) :
    Except Batch.Error Registry := do
  let instructions ← Batch.compile descriptions
  return registry.register (instructions.map Template.ofInstruction)

/-- All templates, in order. -/
def templates (registry : Registry) : List Template :=
  registry.tables.flatten

/-- The number of templates. -/
def size (registry : Registry) : Nat :=
  registry.tables.foldl (fun size table => size + table.length) 0

/-- Whether there is no template. -/
def isEmpty (registry : Registry) : Bool :=
  registry.size == 0

/-- The first template that fits a word. -/
def decode?
    (registry : Registry)
    (word : Word) :
    Option Template :=
  registry.templates.find? (fun template => template.matchesWord word)

/-- The first template of a name. -/
def find?
    (registry : Registry)
    (name : String) :
    Option Template :=
  registry.templates.find? (fun template => template.name == name)

/-- The privileged templates, in order. -/
def privileged (registry : Registry) : List Template :=
  registry.templates.filter (fun template => template.privileged)

/-- The templates that any program may execute, in order. -/
def unprivileged (registry : Registry) : List Template :=
  registry.templates.filter (fun template => !template.privileged)

end Registry

end InstructionTable
