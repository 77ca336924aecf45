import InstructionTable.Proofs.Field.Geometry
import InstructionTable.Proofs.Template.Fields

/-!
# Templates that fit every word they encode

Encoding starts from the opcode and writes a number into each field, one field after the other.  In
a template that was not compiled, fields may overlap, reach above the word or cover fixed bits.  A
bit that some field covers holds what the last such field is given, so it can be set or cleared at
will.  This tells exactly which templates fit all that they encode.
-/

namespace InstructionTable
namespace Template

variable {template : Template}

/-- The opcode of a template that fits any word has no bit outside the mask. -/
theorem opcode_subset_of_matchesWord
    {word : Word}
    (fits : template.matchesWord word = true)
    (position : Nat)
    (set : template.opcode.getLsbD position = true) :
    template.mask.getLsbD position = true := by
  rw [← matchesWord_iff.mp fits position, Bool.and_eq_true] at set
  exact set.2

/-- A bit that some field covers can be given either value, the same number being asked for all. -/
theorem exists_getLsbD_stamped_eq
    (bounds : ∀ field ∈ template.fields, field.InBounds)
    {position : Nat}
    (covered : ∃ field ∈ template.fields, field.Covers position)
    (bit : Bool) :
    ∃ ask, (stamped ask 0 template.opcode template.fields).getLsbD position = bit := by
  obtain ⟨index, last, -, covers, decides⟩ := exists_getLsbD_stamped_of_covers bounds covered
  refine ⟨fun _ _ => if bit then BitVec.allOnes wordBits else 0, ?_⟩
  have distance : position - last.bottom < wordBits :=
    Nat.lt_of_le_of_lt (Nat.sub_le position last.bottom) covers.1
  rw [decides]
  cases bit with
  | false => simp
  | true => simp [distance]

/-- A field covers no fixed bit when the template fits every word that it encodes. -/
theorem not_covers_of_forall_matchesWord_stamped
    (bounds : ∀ field ∈ template.fields, field.InBounds)
    (fits : ∀ ask,
      template.matchesWord (stamped ask 0 template.opcode template.fields) = true)
    {position : Nat}
    (fixed : template.mask.getLsbD position = true)
    (field : Field 8)
    (member : field ∈ template.fields) :
    ¬field.Covers position := by
  intro covers
  -- the last field over this bit is given the opposite of the opcode's bit
  obtain ⟨ask, opposite⟩ := exists_getLsbD_stamped_eq bounds ⟨field, member, covers⟩
    (!template.opcode.getLsbD position)
  have bit := matchesWord_iff.mp (fits ask) position
  rw [opposite, fixed, Bool.and_true] at bit
  simp at bit

/--
A template all of whose fields have a mask fits every word that it encodes, whatever numbers it is
given, exactly when its opcode has no bit outside its mask and no field has a bit of the mask.
-/
theorem matchesWord_encode_iff
    (masks : ∀ field ∈ template.fields, ∃ bits, field.mask = .ok bits) :
    (∀ ask, ∃ word, template.encode ask = .ok word ∧ template.matchesWord word = true) ↔
      template.opcode &&& ~~~template.mask = 0 ∧
        ∀ field ∈ template.fields, ∀ bits, field.mask = .ok bits →
          bits &&& template.mask = 0 := by
  have bounds (field : Field 8) (member : field ∈ template.fields) : field.InBounds := by
    obtain ⟨bits, made⟩ := masks field member
    exact ((Field.mask_eq_ok_iff (by decide)).mp made).1
  have encoded (ask : Nat → Field 8 → Word) :
      template.encode ask = .ok (stamped ask 0 template.opcode template.fields) :=
    encodeFields_eq bounds 0 template.opcode
  rw [and_not_eq_zero_iff]
  constructor
  · intro always
    have fits (ask : Nat → Field 8 → Word) :
        template.matchesWord (stamped ask 0 template.opcode template.fields) = true := by
      obtain ⟨word, made, fits⟩ := always ask
      rw [encoded] at made
      injection made with same
      rw [same]
      exact fits
    refine ⟨opcode_subset_of_matchesWord (fits fun _ _ => 0), ?_⟩
    intro field member bits made
    obtain ⟨inBounds, rfl⟩ := (Field.mask_eq_ok_iff (by decide)).mp made
    rw [and_eq_zero_iff]
    intro position set
    rw [inBounds.getLsbD_bits, decide_eq_true_iff] at set
    apply Bool.eq_false_iff.mpr
    intro fixed
    exact not_covers_of_forall_matchesWord_stamped bounds fits fixed field member set
  · rintro ⟨opcode, clear⟩ ask
    refine ⟨_, encoded ask, matchesWord_stamped bounds opcode ?_⟩
    intro position fixed field member covers
    have inBounds := bounds field member
    have apart := and_eq_zero_iff.mp (clear field member _ inBounds.mask_eq) position
    rw [inBounds.getLsbD_bits, decide_eq_true covers, fixed] at apart
    exact Bool.noConfusion (apart rfl)

/-- Two fields that overlap, one of which reaches above the word, leave the fixed bit alone. -/
theorem matchesWord_encode_iff_of_overlap :
    ∃ template : Template,
      template.opcode = 1 ∧ template.mask = 1 ∧
        template.fields = [⟨"a", 40, 30⟩, ⟨"b", 20, 10⟩] ∧
        (∀ field ∈ template.fields, ∃ bits, field.mask = .ok bits) ∧
        ∀ ask, ∃ word, template.encode ask = .ok word ∧ template.matchesWord word = true := by
  have former : (⟨"a", 40, 30⟩ : Field 8).mask = .ok 0xFFFFF800 := by rfl
  have latter : (⟨"b", 20, 10⟩ : Field 8).mask = .ok 0x001FF800 := by rfl
  have masks : ∀ field ∈ ([⟨"a", 40, 30⟩, ⟨"b", 20, 10⟩] : List (Field 8)),
      ∃ bits, field.mask = .ok bits := by
    intro field member
    simp only [List.mem_cons, List.not_mem_nil, or_false] at member
    rcases member with rfl | rfl
    · exact ⟨_, former⟩
    · exact ⟨_, latter⟩
  refine ⟨⟨"MOV", 1, 1, [⟨"a", 40, 30⟩, ⟨"b", 20, 10⟩], false, "", ""⟩, rfl, rfl, rfl, masks,
    (matchesWord_encode_iff masks).mpr ⟨by decide, ?_⟩⟩
  intro field member bits made
  simp only [List.mem_cons, List.not_mem_nil, or_false] at member
  rcases member with rfl | rfl
  · rw [Except.ok.inj (made.symm.trans former)]
    decide
  · rw [Except.ok.inj (made.symm.trans latter)]
    decide

end Template
end InstructionTable
