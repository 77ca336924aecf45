import InstructionTable.Pattern.Segment

/-!
# Encodings

Segments that fill a word are laid out from the top of the word downwards.  The fixed bits make the
opcode and the mask, and each operand becomes a field.  The layout is a walk over the segments:
two accumulators move up by the width of each segment before its own bits come in at the bottom,
and a cursor counts the bits already laid out.
-/

namespace InstructionTable

/-- The fixed bits of an instruction and its operands. -/
structure Encoding where
  /-- The values of the fixed bits. -/
  opcode : Word
  /-- The places of the fixed bits. -/
  mask : Word
  /-- The operands, from the top of the word downwards. -/
  fields : List (Field 32)
deriving DecidableEq, Repr

namespace Encoding
open Pattern

/-- What is known after a part of the segments is laid out. -/
structure Progress where
  /-- The values of the fixed bits so far. -/
  opcode : BitVec 64 := 0
  /-- The places of the fixed bits so far. -/
  mask : BitVec 64 := 0
  /-- The number of bits laid out. -/
  consumed : BitVec 32 := 0
  /-- The operands so far. -/
  fields : List (Field 32) := []
deriving DecidableEq, Repr

/-- A step of checked arithmetic, as a step of the layout. -/
def checked
    {α : Type}
    (result : Except Overflow α) :
    Except Failure α :=
  result.mapError .overflow

/-- What one segment contributes: the bits that enter at the bottom, their mask, and its operand. -/
def contribution
    (consumed : BitVec 32)
    (segment : Segment) :
    Except Failure (BitVec 64 × BitVec 64 × List (Field 32)) :=
  match segment.kind with
  | .ignored => .ok (0, 0, [])
  | .literal value => do
      let value := value.setWidth 64
      let above ← checked (shiftRightChecked value segment.width.toNat)
      if above ≠ 0 then
        .error (.refused (.malformedSegment segment.pattern .literalTooWide))
      else
        let power ← checked (shiftLeftChecked (1 : BitVec 64) segment.width.toNat)
        return (value, power - 1, [])
  | .operand name => do
      let start ← checked (subtractChecked (BitVec.ofNat 32 (wordBits - 1)) consumed)
      return (0, 0, [{ name := name, start := start, length := segment.width }])

namespace Progress

/-- Lay out one more segment. -/
def step
    (progress : Progress)
    (segment : Segment) :
    Except Failure Progress := do
  let (value, places, operands) ← contribution progress.consumed segment
  let opcode ← checked (shiftLeftChecked progress.opcode segment.width.toNat)
  let mask ← checked (shiftLeftChecked progress.mask segment.width.toNat)
  let consumed ← checked (addChecked progress.consumed segment.width)
  return { opcode := opcode ||| value
           mask := mask ||| places
           consumed := consumed
           fields := progress.fields ++ operands }

/-- The encoding, once all segments are laid out. -/
def encoding (progress : Progress) : Encoding :=
  { opcode := progress.opcode.setWidth wordBits
    mask := progress.mask.setWidth wordBits
    fields := progress.fields }

end Progress

/-- The sum of the widths of some segments. -/
def totalWidth (segments : List Segment) : Except Overflow (BitVec 64) :=
  segments.foldlM (fun total segment => addChecked total (segment.width.setWidth 64)) 0

/-- Lay out segments over a word, which they have to fill exactly. -/
def ofSegments (segments : List Segment) : Except Failure Encoding := do
  let total ← checked (totalWidth segments)
  if total.toNat ≠ wordBits then
    .error (.refused (.widthMismatch total.toNat))
  else
    let progress ← segments.foldlM Progress.step {}
    return progress.encoding

/-- The encoding that a pattern's text describes. -/
def ofText (bits : String) : Except Failure Encoding := do
  let segments ← (Segment.listOfText bits).mapError .refused
  ofSegments segments

end Encoding
end InstructionTable
