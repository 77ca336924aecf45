import InstructionTable.Proofs.Layout.Row
import InstructionTable.Proofs.Template.Compiled
import Mathlib.Data.Nat.Count

/-!
# The owners of bits

A bit of a word can belong to the fixed bits of a template, to one of its fields or to its free
bits.  In the template of a compiled pattern every bit has exactly one owner.  The free bits are
those in the ignored places of the pattern, so there are as many as the widths of these say.
-/

namespace InstructionTable

/-- When a row ends with the word, a property of its selected places holds for all their bits. -/
theorem count_eq_bitCount_filter
    {holds : Nat → Prop}
    [DecidablePred holds]
    {select : Segment → Bool}
    {above : Nat}
    {segments : List Segment}
    (ends : above + bitCount segments = wordBits)
    (agree : ∀ placement ∈ placementsFrom above segments, ∀ position,
      placement.Covers position → (holds position ↔ select placement.segment = true)) :
    Nat.count holds (bitCount segments) = bitCount (segments.filter select) := by
  induction segments generalizing above with
  | nil => rfl
  | cons segment rest inductionHypothesis =>
      rw [bitCount_cons] at ends
      rw [placementsFrom_cons, List.forall_mem_cons] at agree
      obtain ⟨agreeFirst, agreeRest⟩ := agree
      have counted := inductionHypothesis (by omega) agreeRest
      have covered (distance : Nat) (inside : distance < segment.width.toNat) :
          holds (bitCount rest + distance) ↔ select segment = true := by
        apply agreeFirst
        simp only [Placement.Covers, Placement.width]
        omega
      rw [bitCount_cons, Nat.add_comm, Nat.count_add, counted, List.filter_cons]
      by_cases selected : select segment = true
      · rw [if_pos selected, bitCount_cons, Nat.add_comm, Nat.count_of_forall]
        intro distance inside
        exact (covered distance inside).mpr selected
      · rw [if_neg selected, Nat.count_of_forall_not, Nat.add_zero]
        intro distance inside holdsThere
        exact selected ((covered distance inside).mp holdsThere)

namespace Template

/-- What a bit of a word can belong to. -/
inductive Owner (template : Template) where
  /-- The fixed bits. -/
  | fixed
  /-- The field at a position. -/
  | field (index : Fin template.fields.length)
  /-- The free bits. -/
  | free

namespace Owner

variable {template : Template}

/-- The bits of an owner. -/
def bits : template.Owner → Except Overflow Word
  | fixed => .ok template.mask
  | field index => template.fields[index].mask
  | free => template.freeBits

/-- A bit belongs to an owner. -/
def Owns
    (owner : template.Owner)
    (position : Nat) : Prop :=
  ∃ bits, owner.bits = .ok bits ∧ bits.getLsbD position = true

/-- An owner whose bits are known has the bits that are set. -/
theorem owns_iff
    (owner : template.Owner)
    {bits : Word}
    (found : owner.bits = .ok bits)
    {position : Nat} :
    owner.Owns position ↔ bits.getLsbD position = true := by
  constructor
  · rintro ⟨others, made, set⟩
    rwa [Except.ok.inj (found.symm.trans made)]
  · intro set
    exact ⟨bits, found, set⟩

/-- Whether a bit is fixed can be read off the mask. -/
theorem owns_fixed_iff {position : Nat} :
    (fixed : template.Owner).Owns position ↔ template.mask.getLsbD position = true :=
  owns_iff fixed rfl

end Owner

namespace Sound

variable {template : Template} {position : Nat}

theorem owns_field_iff
    (sound : template.Sound)
    {index : Fin template.fields.length} :
    (Owner.field index).Owns position ↔ (template.fields.get index).Covers position := by
  have bounds := sound.bounds _ (List.get_mem template.fields index)
  rw [Owner.owns_iff (.field index) bounds.mask_eq, bounds.getLsbD_bits, decide_eq_true_iff]

theorem owns_free_iff (sound : template.Sound) :
    (Owner.free : template.Owner).Owns position ↔
      position < wordBits ∧ template.mask.getLsbD position = false ∧
        ∀ field ∈ template.fields, ¬field.Covers position := by
  rw [← getLsbD_vacant_iff sound.bounds]
  exact Owner.owns_iff .free (freeBits_eq sound.bounds)

/-- Every owner of a sound template has bits. -/
theorem exists_bits
    (sound : template.Sound)
    (owner : template.Owner) :
    ∃ bits, owner.bits = .ok bits := by
  cases owner with
  | fixed => exact ⟨_, rfl⟩
  | field index => exact ⟨_, (sound.bounds _ (getElem_mem_fields index)).mask_eq⟩
  | free => exact ⟨_, freeBits_eq sound.bounds⟩

/-- A bit of a word has an owner. -/
theorem exists_owner
    (sound : template.Sound)
    (inside : position < wordBits) :
    ∃ owner : template.Owner, owner.Owns position := by
  cases fixed : template.mask.getLsbD position with
  | true => exact ⟨.fixed, Owner.owns_fixed_iff.mpr fixed⟩
  | false =>
      rcases exists_covers_or_not_covers template.fields position with
        ⟨field, member, covers⟩ | uncovered
      · obtain ⟨index, bound, rfl⟩ := List.getElem_of_mem member
        exact ⟨.field ⟨index, bound⟩, sound.owns_field_iff.mpr covers⟩
      · exact ⟨.free, sound.owns_free_iff.mpr ⟨inside, fixed, uncovered⟩⟩

/-- A bit has no two owners. -/
theorem owner_unique
    (sound : template.Sound)
    {left right : template.Owner}
    (leftOwns : left.Owns position)
    (rightOwns : right.Owns position) :
    left = right := by
  -- fields stay clear of the mask and of one another, and free bits of both
  cases left with
  | fixed =>
      rw [Owner.owns_fixed_iff] at leftOwns
      cases right with
      | fixed => rfl
      | field index =>
          exact absurd (sound.owns_field_iff.mp rightOwns)
            (sound.not_covers_of_mask leftOwns _ (getElem_mem_fields index))
      | free =>
          rw [(sound.owns_free_iff.mp rightOwns).2.1] at leftOwns
          contradiction
  | field index =>
      rw [sound.owns_field_iff] at leftOwns
      cases right with
      | fixed =>
          exact absurd leftOwns (sound.not_covers_of_mask (Owner.owns_fixed_iff.mp rightOwns) _
            (getElem_mem_fields index))
      | field other => rw [sound.eq_of_covers leftOwns (sound.owns_field_iff.mp rightOwns)]
      | free =>
          exact absurd leftOwns
            ((sound.owns_free_iff.mp rightOwns).2.2 _ (getElem_mem_fields index))
  | free =>
      obtain ⟨-, unfixed, uncovered⟩ := sound.owns_free_iff.mp leftOwns
      cases right with
      | fixed =>
          rw [Owner.owns_fixed_iff.mp rightOwns] at unfixed
          contradiction
      | field index =>
          exact absurd (sound.owns_field_iff.mp rightOwns)
            (uncovered _ (getElem_mem_fields index))
      | free => rfl

end Sound

namespace Depicts

variable {template : Template} {segments : List Segment}

/-- A bit is free exactly when an ignored place covers it. -/
theorem getLsbD_vacant_iff
    (depicts : template.Depicts segments)
    (position : Nat) :
    template.vacant.getLsbD position = true ↔
      ∃ placement ∈ placements segments,
        placement.segment.isIgnored = true ∧ placement.Covers position := by
  constructor
  · intro free
    obtain ⟨placement, member, covered⟩ := depicts.exists_covers (BitVec.lt_of_getLsbD free)
    rw [depicts.getLsbD_vacant member covered] at free
    exact ⟨placement, member, free, covered⟩
  · rintro ⟨placement, member, ignored, covered⟩
    rw [depicts.getLsbD_vacant member covered, ignored]

/-- There are as many free bits as the widths of the ignored segments add up to. -/
theorem toNat_cpop_vacant (depicts : template.Depicts segments) :
    template.vacant.cpop.toNat = bitCount (segments.filter Segment.isIgnored) := by
  have ends : 0 + bitCount segments = wordBits := by
    rw [Nat.zero_add, depicts.full]
  have counted : Nat.count (fun position => template.vacant.getLsbD position = true)
      (bitCount segments) = bitCount (segments.filter Segment.isIgnored) := by
    apply count_eq_bitCount_filter ends
    intro placement member position covered
    rw [← placements_eq_placementsFrom] at member
    rw [depicts.getLsbD_vacant member covered]
  rw [depicts.full] at counted
  rw [toNat_cpop_eq_count, counted]

end Depicts

/--
In the template of a compiled description every bit of a word has exactly one owner: it is fixed, it
is in the mask of one field, or it is free.  The free bits are those that lie in an ignored segment
of the pattern, and there are as many as the widths of these segments add up to.
-/
theorem existsUnique_owner
    {description : Description}
    {instruction : Instruction}
    (compiled : Instruction.ofDescription description = .ok instruction) :
    ∃ segments free,
      Segment.listOfText description.bits = .ok segments ∧
      (ofInstruction instruction).freeBits = .ok free ∧
      (∀ owner : (ofInstruction instruction).Owner, ∃ bits, owner.bits = .ok bits) ∧
      (∀ position < wordBits,
        ∃! owner : (ofInstruction instruction).Owner, owner.Owns position) ∧
      (∀ position, free.getLsbD position = true ↔
        ∃ placement ∈ placements segments,
          placement.segment.isIgnored = true ∧ placement.Covers position) ∧
      free.cpop.toNat = bitCount (segments.filter Segment.isIgnored) := by
  obtain ⟨segments, read, depicts⟩ := exists_depicts_of_ofDescription compiled
  have sound := depicts.sound
  refine ⟨segments, _, read, freeBits_eq sound.bounds, sound.exists_bits, ?_,
    depicts.getLsbD_vacant_iff, depicts.toNat_cpop_vacant⟩
  intro position inside
  obtain ⟨owner, owns⟩ := sound.exists_owner inside
  exact ⟨owner, owns, fun other otherOwns => sound.owner_unique otherOwns owns⟩

/-- A pattern with a literal, two ignored placeholders and an operand between them. -/
theorem existsUnique_owner_of_split_free_bits :
    ∃ instruction segments free,
      Instruction.ofDescription ⟨"MOV", "101|(x):2|Rd:13|(y)|imm:13", "", "", "", ""⟩ =
        .ok instruction ∧
      Segment.listOfText "101|(x):2|Rd:13|(y)|imm:13" = .ok segments ∧
      (ofInstruction instruction).freeBits = .ok free ∧
      (∀ position < wordBits,
        ∃! owner : (ofInstruction instruction).Owner, owner.Owns position) ∧
      free.cpop.toNat = 3 := by
  have compiled :
      Instruction.ofDescription ⟨"MOV", "101|(x):2|Rd:13|(y)|imm:13", "", "", "", ""⟩ =
        .ok ⟨"MOV", 0xA0000000, 0xE0000000, [⟨"Rd", 26, 13⟩, ⟨"imm", 12, 13⟩],
          false, "", "", "", ""⟩ := by
    rfl
  obtain ⟨segments, free, read, clear, -, owned, -, counted⟩ := existsUnique_owner compiled
  have listed : Segment.listOfText "101|(x):2|Rd:13|(y)|imm:13" =
      .ok [⟨"101", 3⟩, ⟨"(x)", 2⟩, ⟨"Rd", 13⟩, ⟨"(y)", 1⟩, ⟨"imm", 13⟩] := by
    rfl
  have same := Except.ok.inj (read.symm.trans listed)
  refine ⟨_, segments, free, compiled, read, clear, owned, ?_⟩
  rw [counted, same]
  decide

end Template
end InstructionTable
