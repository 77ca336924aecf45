import InstructionTable.Proofs.Layout.Row
import InstructionTable.Proofs.Pattern.Spelling

/-!
# The encodings that patterns have

The encoding of a pattern keeps its opcode within its mask, its fields in order from the top of the
word and clear of the mask, and has names that a text can spell.  The main statement says that there
is nothing more to it: every encoding of this kind is that of some pattern.
-/

namespace InstructionTable
namespace Pattern

/-- A name that a pattern can give to an operand. -/
structure OperandName (name : List Char) : Prop where
  /-- There is a character in it. -/
  nonempty : name ≠ []
  /-- It does not end at a bar. -/
  noBar : '|' ∉ name
  /-- It does not end at a colon. -/
  noColon : ':' ∉ name
  /-- It does not open a placeholder. -/
  noPlaceholder : name.head? ≠ some '('
  /-- It is not read as a number. -/
  noLiteral : ¬DenotesLiteral name

/-- A pattern names an operand when it opens no placeholder and denotes no literal. -/
theorem ofPattern_eq_operand_iff {pattern : String} :
    Kind.ofPattern pattern = .operand pattern ↔
      pattern.toList.head? ≠ some '(' ∧ ¬DenotesLiteral pattern.toList := by
  unfold Kind.ofPattern
  rw [literalValue?_eq]
  by_cases opens : pattern.toList.head? = some '('
  · simp [opensPlaceholder, opens]
  · by_cases literal : DenotesLiteral pattern.toList
    · simp [opensPlaceholder, opens, literal]
    · simp [opensPlaceholder, opens, literal]

theorem OperandName.spellable
    {name : List Char}
    (operandName : OperandName name) :
    Spellable name where
  nonempty := operandName.nonempty
  noBar := operandName.noBar
  noColon := operandName.noColon
  closed := fun opens => absurd opens operandName.noPlaceholder

theorem spellable_ofBit (fixed set : Bool) :
    Spellable (Segment.ofBit fixed set).pattern.toList := by
  cases fixed with
  | false =>
      change Spellable "()".toList
      exact ⟨by decide, by decide, by decide, by decide⟩
  | true =>
      cases set with
      | false => exact ⟨by decide, by decide, by decide, by decide⟩
      | true => exact ⟨by decide, by decide, by decide, by decide⟩

end Pattern

namespace Encoding
open Pattern

/-- What holds of the encodings of patterns. -/
structure Admissible (encoding : Encoding) : Prop where
  /-- The opcode has no bit outside the mask. -/
  opcode : encoding.opcode &&& ~~~encoding.mask = 0
  /-- Fields begin inside the word. -/
  start_le : ∀ field ∈ encoding.fields, field.start.toNat ≤ 31
  /-- No field is empty. -/
  one_le_length : ∀ field ∈ encoding.fields, 1 ≤ field.length.toNat
  /-- No field reaches below the word. -/
  length_le : ∀ field ∈ encoding.fields, field.length.toNat ≤ field.start.toNat + 1
  /-- A field begins below the end of the one before it. -/
  ordered : encoding.fields.IsChain fun former latter =>
    latter.start.toNat + former.length.toNat ≤ former.start.toNat
  /-- No bit of a field is fixed. -/
  clear : ∀ field ∈ encoding.fields, ∀ position,
    field.start.toNat + 1 - field.length.toNat ≤ position → position ≤ field.start.toNat →
      encoding.mask.getLsbD position = false
  /-- A pattern can name the fields as they are named. -/
  names : ∀ field ∈ encoding.fields, OperandName field.name.toList

variable {encoding : Encoding}

namespace Admissible

/-- An admissible encoding tiles the word. -/
theorem tiles (admissible : encoding.Admissible) : encoding.Tiles where
  opcode := and_not_eq_zero_iff.mp admissible.opcode
  descends :=
    { below := by
        intro field first
        have inside := admissible.start_le field (List.mem_of_mem_head? first)
        have wordBits_eq : wordBits = 32 := rfl
        omega
      ordered := admissible.ordered
      positive := admissible.one_le_length
      length_le := admissible.length_le }
  inside := by
    intro field member
    have inside := admissible.start_le field member
    have wordBits_eq : wordBits = 32 := rfl
    omega
  clear := admissible.clear
  operands := by
    intro field member
    have name := admissible.names field member
    exact ofPattern_eq_operand_iff.mpr ⟨name.noPlaceholder, name.noLiteral⟩

/-- A segment of the row of an encoding is that of a field or of a single bit. -/
theorem exists_of_mem_row
    (admissible : encoding.Admissible)
    {segment : Segment}
    (member : segment ∈ encoding.row) :
    (∃ fixed set, Segment.ofBit fixed set = segment) ∨
      ∃ field ∈ encoding.fields, field.placement.segment = segment := by
  rw [← map_segment_placements encoding.row] at member
  obtain ⟨placement, placed, rfl⟩ := List.mem_map.mp member
  rcases admissible.tiles.exists_of_mem_placements placed with
    ⟨position, -, rfl⟩ | ⟨field, found, rfl⟩
  · exact .inl ⟨_, _, rfl⟩
  · exact .inr ⟨field, found, rfl⟩

/-- The row of an admissible encoding is read from the text that spells it. -/
theorem listOfText_row (admissible : encoding.Admissible) :
    Segment.listOfText (textOfList encoding.row) = .ok encoding.row := by
  apply listOfText_textOfList
  · intro empty
    have full := admissible.tiles.fills.full
    rw [empty] at full
    contradiction
  · intro segment member
    rcases admissible.exists_of_mem_row member with ⟨fixed, set, rfl⟩ | ⟨field, found, rfl⟩
    · exact spellable_ofBit fixed set
    · exact (admissible.names field found).spellable
  · intro segment member
    rcases admissible.exists_of_mem_row member with ⟨fixed, set, rfl⟩ | ⟨field, found, rfl⟩
    · rw [Segment.toNat_width_ofBit]
      exact Nat.one_pos
    · exact admissible.one_le_length field found

/-- An admissible encoding is that of the text that spells its row. -/
theorem ofText_textOfList_row (admissible : encoding.Admissible) :
    ofText (textOfList encoding.row) = .ok encoding := by
  unfold ofText
  rw [admissible.listOfText_row]
  exact admissible.tiles.ofSegments_row

end Admissible

namespace Fills

variable {bits : String} {segments : List Segment}

/-- Every field is that of an operand in its place. -/
theorem exists_of_mem_fields
    (fills : Fills segments encoding)
    {field : Field 32}
    (member : field ∈ encoding.fields) :
    ∃ placement ∈ placements segments,
      placement.segment.isOperand = true ∧ placement.field = field := by
  rw [fills.fields, operandFields] at member
  obtain ⟨placement, filtered, rfl⟩ := List.mem_map.mp member
  obtain ⟨placementMember, operand⟩ := List.mem_filter.mp filtered
  exact ⟨placement, placementMember, operand, rfl⟩

/-- The bounds of the field that an operand in a text's row makes. -/
theorem field_bounds
    (fills : Fills segments encoding)
    (read : Segment.listOfText bits = .ok segments)
    {placement : Placement}
    (member : placement ∈ placements segments)
    (operand : placement.segment.isOperand = true) :
    placement.field.start.toNat = wordBits - 1 - placement.above ∧
      placement.field.length.toNat = placement.width ∧ 0 < placement.width ∧
      placement.above + placement.width ≤ wordBits := by
  have wordBits_eq : wordBits = 32 := rfl
  refine ⟨?_, rfl, width_pos_of_listOfText read (segment_mem_of_mem_placements member) operand, ?_⟩
  · unfold Placement.field
    rw [BitVec.toNat_ofNat]
    omega
  · rw [← fills.full]
    exact above_add_width_le_bitCount member

/-- An operand that is read from a text has a name that a pattern can give. -/
theorem operandName
    (read : Segment.listOfText bits = .ok segments)
    {segment : Segment}
    (member : segment ∈ segments)
    (operand : segment.isOperand = true) :
    OperandName segment.pattern.toList := by
  have spellable := spellable_of_listOfText read member
  have kind : segment.kind = .operand segment.pattern := by
    unfold Segment.isOperand at operand
    cases kind : segment.kind with
    | ignored => simp [kind] at operand
    | literal value => simp [kind] at operand
    | operand name => rw [Segment.pattern_eq_of_kind_eq_operand kind]
  obtain ⟨noPlaceholder, noLiteral⟩ := ofPattern_eq_operand_iff.mp kind
  exact ⟨spellable.nonempty, spellable.noBar, spellable.noColon, noPlaceholder, noLiteral⟩

/-- The opcode has bits of literals only. -/
theorem opcode_subset
    (fills : Fills segments encoding)
    (position : Nat)
    (set : encoding.opcode.getLsbD position = true) :
    encoding.mask.getLsbD position = true := by
  obtain ⟨placement, member, covered⟩ :=
    exists_mem_covers fills.full (BitVec.lt_of_getLsbD set)
  rw [fills.mask placement member position covered]
  rw [fills.opcode placement member position covered] at set
  exact Segment.isLiteral_of_fixedBit set

/-- The fields that a text's row makes begin below each other's ends. -/
theorem isChain_fields
    (fills : Fills segments encoding)
    (read : Segment.listOfText bits = .ok segments) :
    encoding.fields.IsChain fun former latter =>
      latter.start.toNat + former.length.toNat ≤ former.start.toNat := by
  rw [fills.fields, operandFields]
  apply List.Pairwise.isChain
  rw [List.pairwise_map]
  apply List.Pairwise.imp_of_mem _ ((placements_pairwise segments).filter _)
  intro former latter formerMember latterMember before
  obtain ⟨formerMember, formerOperand⟩ := List.mem_filter.mp formerMember
  obtain ⟨latterMember, latterOperand⟩ := List.mem_filter.mp latterMember
  obtain ⟨formerStart, formerLength, -, -⟩ := fills.field_bounds read formerMember formerOperand
  obtain ⟨latterStart, -, positive, room⟩ := fills.field_bounds read latterMember latterOperand
  omega

end Fills

/-- The encoding of a text is admissible. -/
theorem admissible_of_ofText
    {bits : String}
    (compiled : ofText bits = .ok encoding) :
    encoding.Admissible := by
  obtain ⟨segments, read, fills⟩ := exists_fills_of_ofText compiled
  have wordBits_eq : wordBits = 32 := rfl
  have bounds (field : Field 32) (member : field ∈ encoding.fields) :
      field.start.toNat ≤ 31 ∧ 1 ≤ field.length.toNat ∧
        field.length.toNat ≤ field.start.toNat + 1 := by
    obtain ⟨placement, placementMember, operand, rfl⟩ := fills.exists_of_mem_fields member
    obtain ⟨start, length, positive, room⟩ := fills.field_bounds read placementMember operand
    omega
  exact
    { opcode := and_not_eq_zero_iff.mpr fills.opcode_subset
      start_le := fun field member => (bounds field member).1
      one_le_length := fun field member => (bounds field member).2.1
      length_le := fun field member => (bounds field member).2.2
      ordered := fills.isChain_fields read
      clear := by
        intro field member position low high
        obtain ⟨placement, placementMember, operand, rfl⟩ := fills.exists_of_mem_fields member
        obtain ⟨start, length, positive, room⟩ := fills.field_bounds read placementMember operand
        have covered : placement.Covers position := by
          unfold Placement.Covers
          omega
        rw [fills.mask placement placementMember position covered,
          Segment.isLiteral_of_isOperand operand]
      names := by
        intro field member
        obtain ⟨placement, placementMember, operand, rfl⟩ := fills.exists_of_mem_fields member
        exact Fills.operandName read (segment_mem_of_mem_placements placementMember) operand }

/--
A pattern's text can have exactly the encodings whose opcode stays within the mask, whose fields are
not empty, lie inside the word, descend from its top without overlap and stay clear of the mask, and
whose fields have names that a pattern can give to an operand.
-/
theorem exists_ofText_iff_admissible (encoding : Encoding) :
    (∃ bits, ofText bits = .ok encoding) ↔ encoding.Admissible := by
  constructor
  · rintro ⟨bits, compiled⟩
    exact admissible_of_ofText compiled
  · intro admissible
    exact ⟨_, admissible.ofText_textOfList_row⟩

end Encoding
end InstructionTable
