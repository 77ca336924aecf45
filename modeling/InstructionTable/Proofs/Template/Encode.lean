import InstructionTable.Proofs.Template.Compiled
import Mathlib.Data.Set.Function

/-!
# Encoding and extracting

A template that was compiled makes words from numbers and numbers from words.  The words it makes
have its fixed bits and no free bit, and the numbers can be read back from them; the numbers read
from a word make the same word again, without its free bits.
-/

namespace InstructionTable
namespace Template

/-- Answer requests with the numbers of a list, by position. -/
def supply (values : List Word) : Nat → Field 8 → Word :=
  fun call _ => values.getD call 0

/-- Numbers for the fields of a template: one for each, and none too large for its field. -/
structure InRange
    (template : Template)
    (values : List Word) : Prop where
  /-- There are as many numbers as fields. -/
  length : values.length = template.fields.length
  /-- Every number fits its field. -/
  fits : ∀ (index : Nat) (field : Field 8) (value : Word),
    template.fields[index]? = some field → values[index]? = some value →
      value.toNat < 2 ^ field.length.toNat

theorem supply_of_getElem?
    {values : List Word}
    {index : Nat}
    {value : Word}
    (found : values[index]? = some value)
    (field : Field 8) :
    supply values index field = value := by
  rw [supply, List.getD_eq_getElem?_getD, found, Option.getD_some]

namespace Sound

variable {template : Template} {ask : Nat → Field 8 → Word}

theorem encode_eq
    (sound : template.Sound)
    (ask : Nat → Field 8 → Word) :
    template.encode ask = .ok (stamped ask 0 template.opcode template.fields) :=
  encodeFields_eq sound.bounds 0 template.opcode

/-- Outside its fields, an encoded word has the bits of the opcode. -/
theorem getLsbD_stamped_of_not_covers
    (sound : template.Sound)
    {position : Nat}
    (uncovered : ∀ field ∈ template.fields, ¬field.Covers position) :
    (stamped ask 0 template.opcode template.fields).getLsbD position =
      template.opcode.getLsbD position :=
  Template.getLsbD_stamped_of_not_covers sound.bounds uncovered 0 template.opcode

/-- A bit that is not fixed is clear in the opcode. -/
theorem getLsbD_opcode_of_mask
    (sound : template.Sound)
    {position : Nat}
    (unfixed : template.mask.getLsbD position = false) :
    template.opcode.getLsbD position = false := by
  apply Bool.eq_false_iff.mpr
  intro set
  rw [sound.opcode position set] at unfixed
  contradiction

theorem matchesWord_stamped (sound : template.Sound) :
    template.matchesWord (stamped ask 0 template.opcode template.fields) = true :=
  Template.matchesWord_stamped sound.bounds sound.opcode fun _ => sound.not_covers_of_mask

/-- An encoded word has no free bit. -/
theorem stamped_and_vacant (sound : template.Sound) :
    stamped ask 0 template.opcode template.fields &&& template.vacant = 0 := by
  apply BitVec.eq_of_getLsbD_eq
  intro position _
  rw [BitVec.getLsbD_and]
  cases free : template.vacant.getLsbD position with
  | false => simp
  | true =>
      obtain ⟨-, unfixed, uncovered⟩ := (getLsbD_vacant_iff sound.bounds position).mp free
      rw [sound.getLsbD_stamped_of_not_covers uncovered, sound.getLsbD_opcode_of_mask unfixed]
      simp

/-- From an encoded word, a field gives back its number, cut to its length. -/
theorem toNat_content_stamped
    (sound : template.Sound)
    {index : Nat}
    {field : Field 8}
    (found : template.fields[index]? = some field) :
    (field.content (stamped ask 0 template.opcode template.fields)).toNat =
      (ask index field).toNat % 2 ^ field.length.toNat := by
  have member := List.mem_of_getElem? found
  apply (sound.bounds field member).toNat_content (sound.inside field member)
  intro position covered
  rw [getLsbD_stamped_of_covers sound.bounds sound.apart found covered, Nat.zero_add]

/-- The numbers of a word, written into the opcode, give the word without its free bits. -/
theorem stamped_content
    (sound : template.Sound)
    {word : Word}
    (fits : template.matchesWord word = true)
    (asked : ∀ index field, template.fields[index]? = some field →
      ask index field = field.content word) :
    stamped ask 0 template.opcode template.fields = word &&& ~~~template.vacant := by
  apply BitVec.eq_of_getLsbD_eq
  intro position inside
  rw [BitVec.getLsbD_and, BitVec.getLsbD_not, decide_eq_true inside, Bool.true_and]
  rcases exists_covers_or_not_covers template.fields position with
    ⟨field, member, covers⟩ | uncovered
  · obtain ⟨index, found⟩ := List.getElem?_of_mem member
    rw [getLsbD_stamped_of_covers sound.bounds sound.apart found covers, Nat.zero_add,
      asked index field found, (sound.bounds field member).getLsbD_content_sub covers,
      getLsbD_vacant_of_covers sound.bounds member covers, Bool.not_false, Bool.and_true]
  · rw [sound.getLsbD_stamped_of_not_covers uncovered, ← matchesWord_iff.mp fits position]
    -- outside the fields a bit is either fixed or free
    cases fixed : template.mask.getLsbD position with
    | true => rw [getLsbD_vacant_of_mask sound.bounds fixed, Bool.not_false]
    | false =>
        have free := (getLsbD_vacant_iff sound.bounds position).mpr ⟨inside, fixed, uncovered⟩
        rw [free, Bool.not_true]

/-- Taking a word apart does not fail. -/
theorem mapM_extract_eq
    (sound : template.Sound)
    (word : Word) :
    template.fields.mapM (fun field => field.extract word) =
      .ok (template.fields.map fun field => field.content word) :=
  mapM_eq_ok fun field member => (sound.bounds field member).extract_eq word

/-- The numbers of a word encode to the word without its free bits. -/
theorem encode_supply_content
    (sound : template.Sound)
    {word : Word}
    (fits : template.matchesWord word = true) :
    template.encode (supply (template.fields.map fun field => field.content word)) =
      .ok (word &&& ~~~template.vacant) := by
  rw [sound.encode_eq, sound.stamped_content fits]
  intro index field found
  apply supply_of_getElem?
  rw [List.getElem?_map, found, Option.map_some]

/-- Numbers in range are the ones that their word gives back. -/
theorem eq_map_content_of_inRange
    (sound : template.Sound)
    {values : List Word}
    (range : template.InRange values) :
    values = template.fields.map fun field =>
      field.content (stamped (supply values) 0 template.opcode template.fields) := by
  apply List.ext_getElem
  · rw [range.length, List.length_map]
  · intro index inside _
    have fieldInside : index < template.fields.length := by
      rw [← range.length]
      exact inside
    have found := List.getElem?_eq_getElem fieldInside
    have given := List.getElem?_eq_getElem inside
    rw [List.getElem_map]
    apply BitVec.eq_of_toNat_eq
    rw [sound.toNat_content_stamped found, supply_of_getElem? given,
      Nat.mod_eq_of_lt (range.fits _ _ _ found given)]

theorem inRange_map_content
    (sound : template.Sound)
    (word : Word) :
    template.InRange (template.fields.map fun field => field.content word) where
  length := List.length_map _
  fits := by
    intro index field value found given
    rw [List.getElem?_map, found, Option.map_some] at given
    injection given with equal
    subst equal
    have member := List.mem_of_getElem? found
    exact (sound.bounds field member).toNat_content_lt (sound.inside field member) word

/-- Encoding pairs the numbers in range with the words that have no free bit. -/
theorem bijOn_encode (sound : template.Sound) :
    Set.BijOn (fun values => template.encode (supply values))
      {values | template.InRange values}
      (Except.ok '' {word | template.matchesWord word = true ∧ word &&& template.vacant = 0}) := by
  refine ⟨?_, ?_, ?_⟩
  · intro values _
    exact ⟨_, ⟨sound.matchesWord_stamped, sound.stamped_and_vacant⟩, (sound.encode_eq _).symm⟩
  · intro values range others otherRange same
    simp only [sound.encode_eq] at same
    injection same with words
    rw [sound.eq_map_content_of_inRange range, words]
    exact (sound.eq_map_content_of_inRange otherRange).symm
  · rintro _ ⟨word, ⟨fits, free⟩, rfl⟩
    refine ⟨_, sound.inRange_map_content word, ?_⟩
    change template.encode _ = _
    rw [sound.encode_supply_content fits]
    rw [and_not_eq_self_of_and_eq_zero free]

end Sound

/--
Encoding and extracting are inverse to each other on the template of a compiled description.  For
any numbers, encoding gives a word that has the fixed bits and no free bit, and each field, by
position, gives back its number modulo two to the power of its length.  For any word that has the
fixed bits, encoding the numbers of its fields gives the word without its free bits.  So encoding
pairs the numbers in range with the words that have the fixed bits and no free bit.
-/
theorem encode_inverse_extract
    {description : Description}
    {instruction : Instruction}
    (compiled : Instruction.ofDescription description = .ok instruction) :
    ∃ free, (ofInstruction instruction).freeBits = .ok free ∧
      (∀ ask, ∃ word, (ofInstruction instruction).encode ask = .ok word ∧
        (ofInstruction instruction).matchesWord word = true ∧
        word &&& free = 0 ∧
        ∀ index field, (ofInstruction instruction).fields[index]? = some field →
          ∃ value, field.extract word = .ok value ∧
            value.toNat = (ask index field).toNat % 2 ^ field.length.toNat) ∧
      (∀ word, (ofInstruction instruction).matchesWord word = true →
        ∃ values,
          (ofInstruction instruction).fields.mapM (fun field => field.extract word) =
            .ok values ∧
          (ofInstruction instruction).encode (supply values) = .ok (word &&& ~~~free)) ∧
      Set.BijOn (fun values => (ofInstruction instruction).encode (supply values))
        {values | (ofInstruction instruction).InRange values}
        (Except.ok '' {word |
          (ofInstruction instruction).matchesWord word = true ∧ word &&& free = 0}) := by
  obtain ⟨segments, -, depicts⟩ := exists_depicts_of_ofDescription compiled
  have sound := depicts.sound
  refine ⟨_, freeBits_eq sound.bounds, ?_, ?_, sound.bijOn_encode⟩
  · intro ask
    refine ⟨_, sound.encode_eq ask, sound.matchesWord_stamped, sound.stamped_and_vacant, ?_⟩
    intro index field found
    have bounds := sound.bounds field (List.mem_of_getElem? found)
    exact ⟨_, bounds.extract_eq _, sound.toNat_content_stamped found⟩
  · intro word fits
    exact ⟨_, sound.mapM_extract_eq word, sound.encode_supply_content fits⟩

/-- A pattern with a literal, an ignored placeholder and two operands of the same name. -/
theorem encode_inverse_extract_of_repeated_name :
    ∃ instruction,
      Instruction.ofDescription ⟨"MOV", "101|(x):2|Rd:13|Rd:14", "", "", "", ""⟩ =
        .ok instruction ∧
      instruction.fields = [⟨"Rd", 26, 13⟩, ⟨"Rd", 13, 14⟩] ∧
      ∃ free, (ofInstruction instruction).freeBits = .ok free ∧
        ∀ word, (ofInstruction instruction).matchesWord word = true →
          ∃ values,
            (ofInstruction instruction).fields.mapM (fun field => field.extract word) =
              .ok values ∧
            (ofInstruction instruction).encode (supply values) = .ok (word &&& ~~~free) := by
  have compiled :
      Instruction.ofDescription ⟨"MOV", "101|(x):2|Rd:13|Rd:14", "", "", "", ""⟩ =
        .ok ⟨"MOV", 0xA0000000, 0xE0000000, [⟨"Rd", 26, 13⟩, ⟨"Rd", 13, 14⟩],
          false, "", "", "", ""⟩ := by
    rfl
  obtain ⟨free, clear, -, back, -⟩ := encode_inverse_extract compiled
  exact ⟨_, compiled, rfl, free, clear, back⟩

end Template
end InstructionTable
