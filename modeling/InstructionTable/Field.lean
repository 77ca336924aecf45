/-!
# Words and their fields

A field is a named run of neighbouring bits of a 32-bit word.  It is written down by its most
significant bit and its length, and these two are numbers of a fixed size themselves: the run they
describe is computed with checked arithmetic of that size.
-/

namespace InstructionTable

/-!
## Checked arithmetic

Arithmetic on numbers of a fixed size refuses a result that the size cannot hold.  A refusal names
the operation, so that the first failing step of a computation decides what is reported.
-/

section

/-- The operation whose result is out of range. -/
inductive Overflow where
  | add
  | subtract
  | shiftLeft
  | shiftRight
deriving DecidableEq, Repr

namespace Overflow

/-- The report of a refused operation. -/
def message : Overflow → String
  | add => "attempt to add with overflow"
  | subtract => "attempt to subtract with overflow"
  | shiftLeft => "attempt to shift left with overflow"
  | shiftRight => "attempt to shift right with overflow"

end Overflow

variable {size : Nat}

/-- The sum of two numbers, when their size can hold it. -/
def addChecked
    (left right : BitVec size) :
    Except Overflow (BitVec size) :=
  if left.uaddOverflow right then .error .add else .ok (left + right)

/-- The difference of two numbers, when it is not negative. -/
def subtractChecked
    (left right : BitVec size) :
    Except Overflow (BitVec size) :=
  if left.usubOverflow right then .error .subtract else .ok (left - right)

/-- A number moved up by fewer places than it has; bits that leave at the top are dropped. -/
def shiftLeftChecked
    (value : BitVec size)
    (places : Nat) :
    Except Overflow (BitVec size) :=
  if places < size then .ok (value <<< places) else .error .shiftLeft

/-- A number moved down by fewer places than it has; bits that leave at the bottom are dropped. -/
def shiftRightChecked
    (value : BitVec size)
    (places : Nat) :
    Except Overflow (BitVec size) :=
  if places < size then .ok (value >>> places) else .error .shiftRight

end

/-!
## Words and fields

A field is a named run of neighbouring bits of a 32-bit word.  It is written down by its most
significant bit and its length, and these two are numbers of a fixed size themselves: the run they
describe is computed with checked arithmetic of that size.  The same definitions serve the wide
numbers of a compiled instruction and the narrow ones of a template.
-/

/-- The number of bits of an instruction word. -/
def wordBits : Nat := 32

/-- An instruction word. -/
abbrev Word := BitVec wordBits

/-- The number of different words. -/
def wordCount : Nat := 0x100000000

/-- A run of bits of a word whose bounds are numbers of the given size. -/
structure Field (size : Nat) where
  /-- The operand's name. -/
  name : String
  /-- The most significant bit, where 31 is the top of a word. -/
  start : BitVec size
  /-- The number of bits. -/
  length : BitVec size
deriving DecidableEq, Repr

namespace Field

variable {size : Nat}

/-- The least significant bit of a field. -/
def lowest (field : Field size) : Except Overflow (BitVec size) := do
  let above ← addChecked field.start 1
  subtractChecked above field.length

/--
The bits of a field, as a mask over a word.  A row of ones as long as the field is cut to a word
and then moved up to the field's place.
-/
def mask (field : Field size) : Except Overflow Word := do
  let power ← shiftLeftChecked (1 : BitVec 64) field.length.toNat
  let ones := (power - 1).setWidth wordBits
  let low ← field.lowest
  shiftLeftChecked ones low.toNat

/-- The number a word holds in a field. -/
def extract
    (field : Field size)
    (word : Word) :
    Except Overflow Word := do
  let bits ← field.mask
  let low ← field.lowest
  shiftRightChecked (word &&& bits) low.toNat

/-- A word with a field replaced by a number, which is cut to the field's place. -/
def insert
    (field : Field size)
    (word value : Word) :
    Except Overflow Word := do
  let bits ← field.mask
  let low ← field.lowest
  let placed ← shiftLeftChecked value low.toNat
  return (word &&& ~~~bits) ||| (placed &&& bits)

/-- The same field with its bounds cut to another size. -/
def resize
    (field : Field size)
    (newSize : Nat) :
    Field newSize :=
  { name := field.name
    start := field.start.setWidth newSize
    length := field.length.setWidth newSize }

end Field

end InstructionTable
