import InstructionTable.Proofs.Layout.Filled
import InstructionTable.Proofs.Pattern.Grammar
import InstructionTable.Proofs.Template.Fields

/-!
# Templates of compiled patterns

The fields of a template are those of the compiled instruction with their bounds cut to single
bytes.  The bounds of a row that fills a word are so small that nothing is lost: a field of the
template covers the bits of its operand's place.  So every bit of a word is fixed by the template,
covered by one of its fields or free, according to the segment in whose place it lies.
-/

namespace InstructionTable
open Pattern

namespace Placement

/-- The field of a template for a place that holds an operand. -/
def byteField (placement : Placement) : Field 8 :=
  placement.field.resize 8

variable {placement : Placement}

/-- The start of a place inside a word survives the cut to a byte. -/
theorem toNat_start_byteField
    (above : placement.above < wordBits) :
    placement.byteField.start.toNat = wordBits - 1 - placement.above := by
  have wordBits_eq : wordBits = 32 := rfl
  simp only [byteField, Field.resize, field, BitVec.toNat_setWidth, BitVec.toNat_ofNat]
  omega

theorem toNat_length_byteField
    (narrow : placement.width ≤ wordBits) :
    placement.byteField.length.toNat = placement.width := by
  have wordBits_eq : wordBits = 32 := rfl
  have small : placement.width < 2 ^ 8 := by omega
  simp only [byteField, Field.resize, field, BitVec.toNat_setWidth]
  exact Nat.mod_eq_of_lt small

theorem bottom_byteField
    (room : placement.above + placement.width ≤ wordBits)
    (positive : 0 < placement.width) :
    placement.byteField.bottom = placement.lowest := by
  unfold Field.bottom lowest
  rw [toNat_start_byteField (by omega), toNat_length_byteField (by omega)]
  omega

/-- The field of a place inside a word covers the bits of the place. -/
theorem covers_byteField_iff
    (room : placement.above + placement.width ≤ wordBits)
    (positive : 0 < placement.width)
    (position : Nat) :
    placement.byteField.Covers position ↔ placement.Covers position := by
  unfold Field.Covers Covers
  rw [bottom_byteField room positive, toNat_start_byteField (by omega), lowest]
  omega

theorem inBounds_byteField
    (room : placement.above + placement.width ≤ wordBits)
    (positive : 0 < placement.width) :
    placement.byteField.InBounds := by
  have wordBits_eq : wordBits = 32 := rfl
  have start := toNat_start_byteField (show placement.above < wordBits by omega)
  have length := toNat_length_byteField (show placement.width ≤ wordBits by omega)
  exact
    { length_lt := by omega
      room := by omega
      length_le := by omega
      bottom_lt := by
        unfold Field.bottom
        omega }

end Placement

namespace Template

/-- What the template of a compiled pattern says about the pattern's segments. -/
structure Depicts
    (template : Template)
    (segments : List Segment) : Prop where
  /-- The widths add up to a word. -/
  full : bitCount segments = wordBits
  /-- Literals fit their widths. -/
  clear : (placements segments).findSome? Placement.obstacle? = none
  /-- No operand is empty. -/
  positive : ∀ segment ∈ segments, segment.isOperand = true → 0 < segment.width.toNat
  /-- The mask is set where a literal lies. -/
  mask : ∀ placement ∈ placements segments, ∀ position, placement.Covers position →
    template.mask.getLsbD position = placement.segment.isLiteral
  /-- The opcode has the bits that literals fix. -/
  opcode : ∀ placement ∈ placements segments, ∀ position, placement.Covers position →
    template.opcode.getLsbD position =
      placement.segment.fixedBit (position - placement.lowest)
  /-- The fields are the operands. -/
  fields : template.fields =
    ((placements segments).filter fun placement => placement.segment.isOperand).map
      Placement.byteField

/-- A compiled description is that of the encoding of its pattern. -/
theorem exists_ofEncoding_of_ofDescription
    {description : Description}
    {instruction : Instruction}
    (compiled : Instruction.ofDescription description = .ok instruction) :
    ∃ encoding, Encoding.ofText description.bits = .ok encoding ∧
      Instruction.ofEncoding description encoding = instruction := by
  unfold Instruction.ofDescription at compiled
  cases laid : Encoding.ofText description.bits with
  | error failure =>
      rw [laid] at compiled
      contradiction
  | ok encoding =>
      rw [laid] at compiled
      exact ⟨encoding, rfl, Except.ok.inj compiled⟩

/-- The template of a compiled description depicts the segments of its pattern. -/
theorem exists_depicts_of_ofDescription
    {description : Description}
    {instruction : Instruction}
    (compiled : Instruction.ofDescription description = .ok instruction) :
    ∃ segments, Segment.listOfText description.bits = .ok segments ∧
      (ofInstruction instruction).Depicts segments := by
  obtain ⟨encoding, laid, rfl⟩ := exists_ofEncoding_of_ofDescription compiled
  obtain ⟨segments, read, fills⟩ := Encoding.exists_fills_of_ofText laid
  refine ⟨segments, read,
    { full := fills.full
      clear := fills.clear
      positive := fun segment member => width_pos_of_listOfText read member
      mask := fills.mask
      opcode := fills.opcode
      fields := ?_ }⟩
  change encoding.fields.map (Field.resize · 8) = _
  rw [fills.fields, Encoding.operandFields, List.map_map]
  rfl

namespace Depicts

variable {template : Template} {segments : List Segment}

/-- Every place has room in the word. -/
theorem room
    (depicts : template.Depicts segments)
    {placement : Placement}
    (member : placement ∈ placements segments) :
    placement.above + placement.width ≤ wordBits := by
  rw [← depicts.full]
  exact above_add_width_le_bitCount member

theorem width_pos_of_isOperand
    (depicts : template.Depicts segments)
    {placement : Placement}
    (member : placement ∈ placements segments)
    (operand : placement.segment.isOperand = true) :
    0 < placement.width :=
  depicts.positive placement.segment (segment_mem_of_mem_placements member) operand

/-- The field of an operand's place is a field of the template. -/
theorem byteField_mem_fields
    (depicts : template.Depicts segments)
    {placement : Placement}
    (member : placement ∈ placements segments)
    (operand : placement.segment.isOperand = true) :
    placement.byteField ∈ template.fields := by
  rw [depicts.fields]
  exact List.mem_map_of_mem (List.mem_filter.mpr ⟨member, operand⟩)

/-- A field of the template is that of an operand's place, which has room and is not empty. -/
theorem exists_of_mem_fields
    (depicts : template.Depicts segments)
    {field : Field 8}
    (member : field ∈ template.fields) :
    ∃ placement ∈ placements segments,
      placement.segment.isOperand = true ∧
        placement.above + placement.width ≤ wordBits ∧ 0 < placement.width ∧
        placement.byteField = field := by
  rw [depicts.fields] at member
  obtain ⟨placement, filtered, rfl⟩ := List.mem_map.mp member
  obtain ⟨placementMember, operand⟩ := List.mem_filter.mp filtered
  exact ⟨placement, placementMember, operand, depicts.room placementMember,
    depicts.width_pos_of_isOperand placementMember operand, rfl⟩

/-- Every bit of a word lies in a place. -/
theorem exists_covers
    (depicts : template.Depicts segments)
    {position : Nat}
    (inside : position < wordBits) :
    ∃ placement ∈ placements segments, placement.Covers position :=
  exists_mem_covers depicts.full inside

/-- The template of a compiled pattern is sound. -/
theorem sound (depicts : template.Depicts segments) : template.Sound where
  opcode := by
    intro position set
    have inside : position < wordBits := BitVec.lt_of_getLsbD set
    obtain ⟨placement, member, covered⟩ := depicts.exists_covers inside
    rw [depicts.opcode placement member position covered] at set
    rw [depicts.mask placement member position covered]
    exact Segment.isLiteral_of_fixedBit set
  bounds := by
    intro field member
    obtain ⟨placement, -, -, room, positive, rfl⟩ := depicts.exists_of_mem_fields member
    exact Placement.inBounds_byteField room positive
  inside := by
    intro field member
    obtain ⟨placement, -, -, room, positive, rfl⟩ := depicts.exists_of_mem_fields member
    rw [Placement.toNat_start_byteField (by omega)]
    omega
  apart := by
    rw [depicts.fields, List.pairwise_map]
    apply List.Pairwise.imp_of_mem _ ((placements_pairwise segments).filter _)
    intro former latter formerMember latterMember ordered position
    obtain ⟨formerMember, formerOperand⟩ := List.mem_filter.mp formerMember
    obtain ⟨latterMember, latterOperand⟩ := List.mem_filter.mp latterMember
    rw [Placement.covers_byteField_iff (depicts.room formerMember)
        (depicts.width_pos_of_isOperand formerMember formerOperand),
      Placement.covers_byteField_iff (depicts.room latterMember)
        (depicts.width_pos_of_isOperand latterMember latterOperand)]
    intro covered
    exact covered.not_covers_of_le ordered
  clear := by
    intro field member position covered
    obtain ⟨placement, placementMember, operand, room, positive, rfl⟩ :=
      depicts.exists_of_mem_fields member
    rw [Placement.covers_byteField_iff room positive] at covered
    rw [depicts.mask placement placementMember position covered,
      Segment.isLiteral_of_isOperand operand]

/-- A bit is free exactly when it lies in an ignored place. -/
theorem getLsbD_vacant
    (depicts : template.Depicts segments)
    {placement : Placement}
    (member : placement ∈ placements segments)
    {position : Nat}
    (covered : placement.Covers position) :
    template.vacant.getLsbD position = placement.segment.isIgnored := by
  apply Bool.eq_iff_iff.mpr
  rw [getLsbD_vacant_iff depicts.sound.bounds, depicts.mask placement member position covered]
  unfold Segment.isLiteral Segment.isIgnored
  cases kind : placement.segment.kind with
  | ignored =>
      refine iff_of_true ⟨covered.lt_wordBits, rfl, ?_⟩ rfl
      intro field fieldMember fieldCovers
      obtain ⟨other, otherMember, operand, room, positive, rfl⟩ :=
        depicts.exists_of_mem_fields fieldMember
      rw [Placement.covers_byteField_iff room positive] at fieldCovers
      rw [← eq_of_covers member otherMember covered fieldCovers] at operand
      simp [Segment.isOperand, kind] at operand
  | literal value => simp
  | operand name =>
      have operand : placement.segment.isOperand = true := by
        simp [Segment.isOperand, kind]
      have fieldCovers := (Placement.covers_byteField_iff (depicts.room member)
        (depicts.width_pos_of_isOperand member operand) position).mpr covered
      refine iff_of_false ?_ Bool.false_ne_true
      rintro ⟨-, -, uncovered⟩
      exact uncovered _ (depicts.byteField_mem_fields member operand) fieldCovers

end Depicts
end Template
end InstructionTable
