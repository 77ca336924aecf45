import InstructionTable.Proofs.Template.Compiled
import Mathlib.Data.List.Induction
import Mathlib.Data.List.Range
import Mathlib.Data.Nat.Bitwise

/-!
# Words read by a pattern

A word is read by a pattern digit by digit, and by the template of the pattern with masks and
shifts.
-/

namespace InstructionTable
open Pattern

/-!
## Words as rows of digits

A word is written as a row of binary digits, most significant first, and the segments of a pattern
cut the row from the front, each as far as it is wide.  This reading of a word by a pattern knows
nothing of masks and shifts: a part of the row is a number because its digits denote one.
-/

/-- A bit as a binary digit. -/
def digit (bit : Bool) : Char :=
  if bit then '1' else '0'

/-- The binary digits of a word, most significant first. -/
def digits (word : Word) : List Char :=
  (List.range wordBits).map fun index => digit (word.getMsbD index)

/-- Segments with the digits that they take from the front of a row. -/
def readings : List Segment → List Char → List (Segment × List Char)
  | [], _ => []
  | segment :: rest, row =>
      (segment, row.take segment.width.toNat) ::
        readings rest (row.drop segment.width.toNat)

@[simp] theorem length_digits (word : Word) : (digits word).length = wordBits := by
  simp [digits]

theorem ofDigitChars_concat_digit
    (row : List Char)
    (bit : Bool) :
    Nat.ofDigitChars 2 (row ++ [digit bit]) 0 =
      2 * Nat.ofDigitChars 2 row 0 + bit.toNat := by
  rw [Nat.ofDigitChars_append, Nat.ofDigitChars_cons, Nat.ofDigitChars_nil]
  cases bit with
  | false => rfl
  | true => rfl

/-- The number that a row of digits denotes has the digits as its bits, the last one lowest. -/
theorem testBit_ofDigitChars
    (bits : Nat → Bool)
    (start count distance : Nat) :
    (Nat.ofDigitChars 2
        ((List.range' start count).map fun index => digit (bits index)) 0).testBit distance =
      (decide (distance < count) && bits (start + (count - 1 - distance))) := by
  induction count generalizing distance with
  | zero => simp
  | succ count inductionHypothesis =>
      rw [List.range'_concat, List.map_append, List.map_singleton, ofDigitChars_concat_digit]
      cases distance with
      | zero =>
          cases bit : bits (start + 1 * count) with
          | false => simpa using bit
          | true => simpa using bit
      | succ distance =>
          have half (value : Nat) : (2 * value + (bits (start + 1 * count)).toNat) / 2 = value := by
            have small := Bool.toNat_lt (bits (start + 1 * count))
            omega
          rw [Nat.testBit_succ, half, inductionHypothesis]
          have same : count + 1 - 1 - (distance + 1) = count - 1 - distance := by omega
          rw [same]
          simp

/-- A segment at the end takes its digits behind those of all others. -/
theorem readings_concat
    (segments : List Segment)
    (segment : Segment)
    (row : List Char) :
    readings (segments ++ [segment]) row =
      readings segments row ++
        [(segment, (row.drop (bitCount segments)).take segment.width.toNat)] := by
  induction segments generalizing row with
  | nil => rfl
  | cons first rest inductionHypothesis =>
      rw [List.cons_append, readings, inductionHypothesis, readings, bitCount_cons,
        List.drop_drop]
      rfl

/-- Each segment takes the digits of its place. -/
theorem readings_eq_map_placements
    (segments : List Segment)
    (row : List Char) :
    readings segments row =
      (placements segments).map fun placement =>
        (placement.segment, (row.drop placement.above).take placement.width) := by
  induction segments using List.reverseRecOn with
  | nil => rfl
  | append_singleton segments segment inductionHypothesis =>
      rw [readings_concat, placements_concat, List.map_append, inductionHypothesis]
      rfl

/-- Segments that take the whole row leave no digit out. -/
theorem flatMap_readings
    {segments : List Segment}
    {row : List Char}
    (full : row.length ≤ bitCount segments) :
    ((readings segments row).flatMap fun reading => reading.2) = row := by
  induction segments generalizing row with
  | nil =>
      rw [bitCount_nil, Nat.le_zero, List.length_eq_zero_iff] at full
      subst full
      rfl
  | cons segment rest inductionHypothesis =>
      have short : (row.drop segment.width.toNat).length ≤ bitCount rest := by
        rw [bitCount_cons] at full
        rw [List.length_drop]
        omega
      rw [readings, List.flatMap_cons, inductionHypothesis short, List.take_append_drop]

namespace Placement

variable {placement : Placement}

/-- The digits of a place are those of its bits. -/
theorem take_drop_digits
    (room : placement.above + placement.width ≤ wordBits)
    (word : Word) :
    ((digits word).drop placement.above).take placement.width =
      (List.range' placement.above placement.width).map fun index =>
        digit (word.getMsbD index) := by
  have enough : placement.width ≤ wordBits - placement.above := by omega
  rw [digits, ← List.map_drop, ← List.map_take, List.range_eq_range', List.drop_range',
    List.take_range'_of_length_ge enough, Nat.zero_add, Nat.mul_one]

/-- The bits of the number that the digits of a place denote. -/
theorem testBit_ofDigitChars_digits
    (room : placement.above + placement.width ≤ wordBits)
    (word : Word)
    (distance : Nat) :
    (Nat.ofDigitChars 2
        (((digits word).drop placement.above).take placement.width) 0).testBit distance =
      (decide (distance < placement.width) &&
        word.getLsbD (placement.lowest + distance)) := by
  rw [take_drop_digits room, testBit_ofDigitChars]
  by_cases inside : distance < placement.width
  · have above : placement.above + (placement.width - 1 - distance) < wordBits := by omega
    rw [BitVec.getMsbD, decide_eq_true above, Bool.true_and]
    congr 2
    unfold lowest
    omega
  · rw [decide_eq_false inside, Bool.false_and, Bool.false_and]

end Placement

/-!
## Words read by a pattern and by its template

A pattern reads a word digit by digit, and the template of the pattern reads it by masks and
shifts.  Both agree on whether the word fits, on the numbers of the operands and on the free bits.
-/

/-- Whether a segment accepts some digits: a literal accepts those that denote its number. -/
def Segment.admits
    (segment : Segment)
    (row : List Char) : Bool :=
  match segment.kind with
  | .literal value => Nat.ofDigitChars 2 row 0 == value.toNat
  | .ignored | .operand _ => true

/-- The operands that segments name in a row of digits, with the numbers that they denote. -/
def operandReadings
    (segments : List Segment)
    (row : List Char) : List (String × Nat) :=
  ((readings segments row).filter fun reading => reading.1.isOperand).map fun reading =>
    (reading.1.pattern, Nat.ofDigitChars 2 reading.2 0)

/-- A row of digits with zeros everywhere but in the ignored segments. -/
def ignoredDigits
    (segments : List Segment)
    (row : List Char) : List Char :=
  (readings segments row).flatMap fun reading =>
    if reading.1.isIgnored then reading.2 else List.replicate reading.2.length '0'

/-- A template whose fields are within their bounds takes every word apart. -/
theorem Template.disassemble_eq
    {template : Template}
    (bounds : ∀ field ∈ template.fields, field.InBounds)
    (word : Word) :
    template.disassemble word = .ok
      { name := template.name
        operands := template.fields.map fun field => (field.name, field.content word)
        free := word &&& template.vacant } := by
  have read (field : Field 8) (member : field ∈ template.fields) :
      (do
        let value ← field.extract word
        return (field.name, value)) = Except.ok (field.name, field.content word) := by
    rw [(bounds field member).extract_eq]
    rfl
  unfold disassemble
  rw [mapM_eq_ok read, freeBits_eq bounds]
  rfl

namespace Template
namespace Depicts

variable {template : Template} {segments : List Segment}

/-- A literal fits the width of its place. -/
theorem toNat_lt_of_literal
    (depicts : template.Depicts segments)
    {placement : Placement}
    (member : placement ∈ placements segments)
    {value : BitVec 32}
    (literal : placement.segment.kind = .literal value) :
    value.toNat < 2 ^ placement.width := by
  have free := List.findSome?_eq_none_iff.mp depicts.clear placement member
  by_contra large
  simp [Placement.obstacle?, literal, large] at free

/-- The digits of a place are accepted when the word has the bits that the segment fixes. -/
theorem admits_iff
    (depicts : template.Depicts segments)
    {placement : Placement}
    (member : placement ∈ placements segments)
    (word : Word) :
    placement.segment.admits (((digits word).drop placement.above).take placement.width) = true ↔
      (placement.segment.isLiteral = true → ∀ position, placement.Covers position →
        word.getLsbD position = placement.segment.fixedBit (position - placement.lowest)) := by
  have room := depicts.room member
  have bits := Placement.testBit_ofDigitChars_digits room word
  unfold Segment.admits Segment.isLiteral Segment.fixedBit
  cases kind : placement.segment.kind with
  | ignored => simp
  | operand name => simp
  | literal value =>
      have fits := depicts.toNat_lt_of_literal member kind
      simp only [beq_iff_eq, forall_const]
      constructor
      · intro equal position covered
        obtain ⟨low, high⟩ := (Placement.covers_iff room).mp covered
        have inside : position - placement.lowest < placement.width := by omega
        have bit := bits (position - placement.lowest)
        rw [equal, BitVec.testBit_toNat, decide_eq_true inside, Bool.true_and,
          Nat.add_sub_cancel' low] at bit
        exact bit.symm
      · intro agree
        apply Nat.eq_of_testBit_eq
        intro distance
        rw [bits]
        by_cases inside : distance < placement.width
        · have covered : placement.Covers (placement.lowest + distance) := by
            rw [Placement.covers_iff room]
            omega
          rw [decide_eq_true inside, Bool.true_and, agree _ covered, Nat.add_sub_cancel_left,
            BitVec.testBit_toNat]
        · have large : value.toNat < 2 ^ distance :=
            Nat.lt_of_lt_of_le fits (Nat.pow_le_pow_right (by omega) (by omega))
          rw [decide_eq_false inside, Bool.false_and, Nat.testBit_lt_two_pow large]

/-- A word has the fixed bits of the template when every segment accepts its digits. -/
theorem matchesWord_eq
    (depicts : template.Depicts segments)
    (word : Word) :
    template.matchesWord word =
      (readings segments (digits word)).all fun reading => reading.1.admits reading.2 := by
  apply Bool.eq_iff_iff.mpr
  rw [matchesWord_iff, readings_eq_map_placements, List.all_map, List.all_eq_true]
  constructor
  · intro agree placement member
    apply (depicts.admits_iff member word).mpr
    intro literal position covered
    have bit := agree position
    rw [depicts.mask placement member position covered, literal, Bool.and_true] at bit
    rw [bit, depicts.opcode placement member position covered]
  · intro accepted position
    by_cases inside : position < wordBits
    · obtain ⟨placement, member, covered⟩ := depicts.exists_covers inside
      have fixed := (depicts.admits_iff member word).mp (accepted placement member)
      rw [depicts.mask placement member position covered,
        depicts.opcode placement member position covered]
      cases literal : placement.segment.isLiteral with
      | true => rw [Bool.and_true, fixed literal position covered]
      | false =>
          unfold Segment.isLiteral at literal
          unfold Segment.fixedBit
          cases kind : placement.segment.kind with
          | ignored => simp
          | operand name => simp
          | literal value => simp [kind] at literal
    · rw [BitVec.getLsbD_of_ge word position (by omega),
        BitVec.getLsbD_of_ge template.opcode position (by omega), Bool.false_and]

/-- The number in the field of an operand is the one that the digits of its place denote. -/
theorem toNat_content_byteField
    (depicts : template.Depicts segments)
    {placement : Placement}
    (member : placement ∈ placements segments)
    (operand : placement.segment.isOperand = true)
    (word : Word) :
    (placement.byteField.content word).toNat =
      Nat.ofDigitChars 2 (((digits word).drop placement.above).take placement.width) 0 := by
  have room := depicts.room member
  have positive := depicts.width_pos_of_isOperand member operand
  apply Nat.eq_of_testBit_eq
  intro distance
  rw [Placement.testBit_ofDigitChars_digits room, BitVec.testBit_toNat,
    (Placement.inBounds_byteField room positive).getLsbD_content,
    Placement.bottom_byteField room positive]
  congr 1
  apply decide_eq_decide.mpr
  rw [Placement.covers_byteField_iff room positive, Placement.covers_iff room]
  omega

/-- The operands of a word are those that its digits spell. -/
theorem operands_eq
    (depicts : template.Depicts segments)
    (word : Word) :
    (template.fields.map fun field => (field.name, (field.content word).toNat)) =
      operandReadings segments (digits word) := by
  rw [depicts.fields, operandReadings, readings_eq_map_placements, List.filter_map,
    List.map_map, List.map_map]
  apply List.map_congr_left
  intro placement member
  obtain ⟨placementMember, operand⟩ := List.mem_filter.mp member
  exact congrArg (Prod.mk placement.segment.pattern)
    (depicts.toNat_content_byteField placementMember operand word)

/-- The free bits of a word keep the digits of the ignored segments and no other. -/
theorem digits_and_vacant
    (depicts : template.Depicts segments)
    (word : Word) :
    digits (word &&& template.vacant) = ignoredDigits segments (digits word) := by
  have whole (row : Word) : (digits row).length ≤ bitCount segments := by
    rw [length_digits, depicts.full]
  rw [← flatMap_readings (whole (word &&& template.vacant)), ignoredDigits,
    readings_eq_map_placements, readings_eq_map_placements, List.flatMap_map, List.flatMap_map]
  apply List.flatMap_congr
  intro placement member
  have room := depicts.room member
  simp only [Placement.take_drop_digits room, List.length_map, List.length_range']
  have bit (index : Nat) (taken : index ∈ List.range' placement.above placement.width) :
      (word &&& template.vacant).getMsbD index =
        (word.getMsbD index && placement.segment.isIgnored) := by
    rw [List.mem_range'_1] at taken
    have inside : index < wordBits := by omega
    have covered : placement.Covers (wordBits - 1 - index) := by
      unfold Placement.Covers
      omega
    rw [BitVec.getMsbD, BitVec.getLsbD_and, depicts.getLsbD_vacant member covered,
      BitVec.getMsbD, decide_eq_true inside, Bool.true_and, Bool.true_and]
  cases ignored : placement.segment.isIgnored with
  | true =>
      rw [if_pos rfl]
      apply List.map_congr_left
      intro index taken
      rw [bit index taken, ignored, Bool.and_true]
  | false =>
      rw [if_neg Bool.false_ne_true]
      apply List.eq_replicate_iff.mpr
      refine ⟨by simp, ?_⟩
      intro c member
      obtain ⟨index, taken, rfl⟩ := List.mem_map.mp member
      rw [bit index taken, ignored, Bool.and_false]
      rfl

end Depicts
end Template

end InstructionTable
