import InstructionTable.Proofs.Field.Geometry
import InstructionTable.Proofs.Pattern.Image
import InstructionTable.Proofs.Template.Compiled
import Mathlib.Data.List.Forall2

/-!
# From wide fields to narrow ones

A compiled instruction has the bounds of its fields in 32 bits, a template in single bytes.  The
same geometry is computed in both, and it comes out the same as long as the number above the highest
bit fits a byte.  The fields of a compiled instruction are far from that limit, so a template has
its instruction's fields, in place, with the same lowest bits and the same masks.
-/

namespace InstructionTable

namespace Field

/-- The index of the first field of a name. -/
def indexOf?
    {size : Nat}
    (name : String)
    (fields : List (Field size)) :
    Option Nat :=
  fields.findIdx? fun field => field.name == name

theorem indexOf?_map_resize
    {size : Nat}
    (name : String)
    (fields : List (Field size))
    (newSize : Nat) :
    indexOf? name (fields.map (resize · newSize)) = indexOf? name fields := by
  unfold indexOf?
  rw [List.findIdx?_map]
  rfl

/-- A narrow field stands for a wide one: nothing is lost, and neither fails. -/
structure NarrowsTo
    (wide : Field 32)
    (narrow : Field 8) : Prop where
  /-- They have the same name. -/
  name : narrow.name = wide.name
  /-- They have the same bounds. -/
  bounds : narrow.SameBounds wide
  /-- They have the same lowest bit. -/
  lowest : ∃ narrowLow wideLow, narrow.lowest = .ok narrowLow ∧ wide.lowest = .ok wideLow ∧
    narrowLow.toNat = wideLow.toNat
  /-- They have the same mask. -/
  mask : ∃ bits, narrow.mask = .ok bits ∧ wide.mask = .ok bits

/-- Cut to bytes, bounds that are bytes stay as they are. -/
theorem sameBounds_resize
    {field : Field 32}
    (start : field.start.toNat < 2 ^ 8)
    (length : field.length.toNat < 2 ^ 8) :
    (field.resize 8).SameBounds field where
  start := by rw [resize, BitVec.toNat_setWidth, Nat.mod_eq_of_lt start]
  length := by rw [resize, BitVec.toNat_setWidth, Nat.mod_eq_of_lt length]

/-- A field within its bounds is narrowed without loss when its bounds and the next number are bytes. -/
theorem InBounds.narrowsTo_resize
    {field : Field 32}
    (bounds : field.InBounds)
    (room : field.start.toNat + 1 < 2 ^ 8) :
    field.NarrowsTo (field.resize 8) := by
  have length := bounds.length_le
  have same := sameBounds_resize (show field.start.toNat < 2 ^ 8 by omega) (by omega)
  have narrowBounds := same.inBounds (by rw [same.start]; exact room) bounds
  obtain ⟨wideLow, wideFound, wideValue⟩ := bounds.exists_lowest
  obtain ⟨narrowLow, narrowFound, narrowValue⟩ := narrowBounds.exists_lowest
  exact
    { name := rfl
      bounds := same
      lowest := ⟨narrowLow, wideLow, narrowFound, wideFound, by
        rw [narrowValue, wideValue, same.bottom_eq]⟩
      mask := ⟨field.bits, by rw [narrowBounds.mask_eq, same.bits_eq], bounds.mask_eq⟩ }

end Field

/-- The fields of an admissible encoding are within their bounds. -/
theorem Encoding.Admissible.inBounds
    {encoding : Encoding}
    (admissible : encoding.Admissible)
    {field : Field 32}
    (member : field ∈ encoding.fields) :
    field.InBounds := by
  have start := admissible.start_le field member
  have positive := admissible.one_le_length field member
  have length := admissible.length_le field member
  have wordBits_eq : wordBits = 32 := rfl
  exact
    { length_lt := by omega
      room := by omega
      length_le := length
      bottom_lt := by
        unfold Field.bottom
        omega }

/-- The first field of a name stands at the index of the name. -/
theorem Instruction.field?_eq_bind
    (instruction : Instruction)
    (name : String) :
    instruction.field? name =
      (Field.indexOf? name instruction.fields).bind (instruction.fields[·]?) :=
  List.find?_eq_bind_findIdx?_getElem?

namespace Template

theorem field?_eq_bind
    (template : Template)
    (name : String) :
    template.field? name = (Field.indexOf? name template.fields).bind (template.fields[·]?) :=
  List.find?_eq_bind_findIdx?_getElem?

/-- The template of a compiled description has the fields of the instruction, narrowed without loss. -/
theorem forall₂_narrowsTo
    {description : Description}
    {instruction : Instruction}
    (compiled : Instruction.ofDescription description = .ok instruction) :
    List.Forall₂ Field.NarrowsTo instruction.fields (ofInstruction instruction).fields := by
  obtain ⟨encoding, laid, rfl⟩ := exists_ofEncoding_of_ofDescription compiled
  have admissible := Encoding.admissible_of_ofText laid
  apply List.forall₂_map_right_iff.mpr
  apply List.forall₂_same.mpr
  intro field member
  have start := admissible.start_le field member
  exact (admissible.inBounds member).narrowsTo_resize (by omega)

/--
A field with bounds of 32 bits has a mask exactly when its length is below 64, the number above its
highest bit can be stored, its length does not reach below bit zero and it begins inside the word.
The mask then has the bits of the word from the lowest to the highest bit of the field, and else the
first condition that fails tells the step that is refused.  A field with the same bounds as bytes,
the highest of which is at most 254, has the same lowest bit and the same mask, or is refused at the
same step.  The fields of a compiled instruction are narrowed to those of its template without loss,
none is refused, and every name finds the same place in both.
-/
theorem geometry_of_narrowed_fields :
    (∀ field : Field 32,
      ((∃ bits, field.mask = .ok bits) ↔
        field.length.toNat ≤ 63 ∧ field.start.toNat < 2 ^ 32 - 1 ∧
          field.length.toNat ≤ field.start.toNat + 1 ∧
          field.start.toNat + 1 - field.length.toNat ≤ 31) ∧
      (∀ bits, field.mask = .ok bits → ∃ low, field.lowest = .ok low ∧
        low.toNat = field.start.toNat + 1 - field.length.toNat ∧
        ∀ position, bits.getLsbD position = true ↔
          position ≤ 31 ∧ low.toNat ≤ position ∧ position ≤ field.start.toNat) ∧
      ∀ overflow, field.mask = .error overflow ↔ field.maskOverflow? = some overflow) ∧
    (∀ (narrow : Field 8) (wide : Field 32), narrow.SameBounds wide → wide.start.toNat ≤ 254 →
      narrow.lowest.map BitVec.toNat = wide.lowest.map BitVec.toNat ∧
        narrow.mask = wide.mask) ∧
    (∀ description instruction, Instruction.ofDescription description = .ok instruction →
      List.Forall₂ Field.NarrowsTo instruction.fields (ofInstruction instruction).fields ∧
      ∀ name,
        Field.indexOf? name (ofInstruction instruction).fields =
            Field.indexOf? name instruction.fields ∧
          instruction.field? name =
            (Field.indexOf? name instruction.fields).bind (instruction.fields[·]?) ∧
          (ofInstruction instruction).field? name =
            (Field.indexOf? name (ofInstruction instruction).fields).bind
              ((ofInstruction instruction).fields[·]?)) := by
  have wordBits_eq : wordBits = 32 := rfl
  refine ⟨?_, ?_, ?_⟩
  · intro field
    refine ⟨?_, ?_, fun _ => Field.mask_eq_error_iff (by decide)⟩
    · rw [Field.exists_mask_iff (by decide)]
      constructor
      · rintro ⟨length, room, length_le, bottom⟩
        unfold Field.bottom at bottom
        omega
      · rintro ⟨length, start, length_le, bottom⟩
        exact ⟨by omega, by omega, length_le, by unfold Field.bottom; omega⟩
    · intro bits made
      obtain ⟨bounds, rfl⟩ := (Field.mask_eq_ok_iff (by decide)).mp made
      obtain ⟨low, found, value⟩ := bounds.exists_lowest
      refine ⟨low, found, value, ?_⟩
      intro position
      rw [bounds.getLsbD_bits, decide_eq_true_iff, value, Field.Covers, wordBits_eq,
        Nat.lt_succ_iff]
  · intro narrow wide same start
    have narrowRoom : narrow.start.toNat + 1 < 2 ^ 8 := by
      rw [same.start]
      omega
    exact ⟨same.lowest_eq narrowRoom (by omega), same.mask_eq narrowRoom (by omega)⟩
  · intro description instruction compiled
    refine ⟨forall₂_narrowsTo compiled, ?_⟩
    intro name
    exact ⟨Field.indexOf?_map_resize name _ 8, instruction.field?_eq_bind name,
      (ofInstruction instruction).field?_eq_bind name⟩

/-- A field that only just reaches into the word, and a pattern with two operands of one name. -/
theorem geometry_of_narrowed_fields_of_repeated_name :
    (⟨"imm", 93, 63⟩ : Field 8).SameBounds (⟨"imm", 93, 63⟩ : Field 32) ∧
      (⟨"imm", 93, 63⟩ : Field 32).start.toNat ≤ 254 ∧
      (⟨"imm", 93, 63⟩ : Field 32).mask = .ok 0x80000000 ∧
      (⟨"imm", 93, 63⟩ : Field 8).mask = .ok 0x80000000 ∧
      ∃ instruction,
        Instruction.ofDescription ⟨"MOV", "101|(x):2|Rd:13|Rd:14", "", "", "", ""⟩ =
          .ok instruction ∧
        List.Forall₂ Field.NarrowsTo instruction.fields (ofInstruction instruction).fields ∧
        instruction.field? "Rd" = some ⟨"Rd", 26, 13⟩ ∧
        (ofInstruction instruction).field? "Rd" = some ⟨"Rd", 26, 13⟩ := by
  have same : (⟨"imm", 93, 63⟩ : Field 8).SameBounds (⟨"imm", 93, 63⟩ : Field 32) := ⟨rfl, rfl⟩
  have start : (⟨"imm", 93, 63⟩ : Field 32).start.toNat ≤ 254 := by decide
  have wide : (⟨"imm", 93, 63⟩ : Field 32).mask = .ok 0x80000000 := by rfl
  have compiled :
      Instruction.ofDescription ⟨"MOV", "101|(x):2|Rd:13|Rd:14", "", "", "", ""⟩ =
        .ok ⟨"MOV", 0xA0000000, 0xE0000000, [⟨"Rd", 26, 13⟩, ⟨"Rd", 13, 14⟩],
          false, "", "", "", ""⟩ := by
    rfl
  obtain ⟨-, agree, narrowed⟩ := geometry_of_narrowed_fields
  obtain ⟨-, masks⟩ := agree _ _ same start
  obtain ⟨fields, found⟩ := narrowed _ _ compiled
  obtain ⟨-, wideFound, narrowFound⟩ := found "Rd"
  exact ⟨same, start, wide, masks.trans wide, _, compiled, fields, wideFound, narrowFound⟩

end Template
end InstructionTable
