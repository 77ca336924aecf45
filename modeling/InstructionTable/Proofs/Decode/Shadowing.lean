import InstructionTable.Proofs.Template.Encode

/-!
# Templates that hide behind others

The first template that fits a word answers for it, so a template can hide behind those in front of
it.  Whether two templates fit a common word is a test of their masks.  The same test, with the free
bits of the later template among its fixed ones, tells whether the earlier template can fit a word
that the later one encodes, since encoding leaves free bits clear.
-/

namespace InstructionTable
namespace Template

/-- The bits that both templates fix, and not to the same value. -/
def conflict (earlier later : Template) : Word :=
  (earlier.opcode ^^^ later.opcode) &&& earlier.mask &&& later.mask

/-- The bits that one template fixes, and that every word encoded by the other has otherwise. -/
def encodedConflict (earlier later : Template) (free : Word) : Word :=
  (earlier.opcode ^^^ later.opcode) &&& earlier.mask &&& (later.mask ||| free)

/-- Two numbers do not differ under two masks when they have the same bits there. -/
theorem xor_and_and_eq_zero_iff
    {size : Nat}
    {left right first second : BitVec size} :
    (left ^^^ right) &&& first &&& second = 0 ↔
      ∀ position, first.getLsbD position = true → second.getLsbD position = true →
        left.getLsbD position = right.getLsbD position := by
  constructor
  · intro zero position inFirst inSecond
    have bit := congrArg (BitVec.getLsbD · position) zero
    simpa [inFirst, inSecond] using bit
  · intro agree
    apply BitVec.eq_of_getLsbD_eq
    intro position _
    simp only [BitVec.getLsbD_and, BitVec.getLsbD_xor]
    cases inFirst : first.getLsbD position with
    | false => simp
    | true =>
        cases inSecond : second.getLsbD position with
        | false => simp
        | true => simp [agree position inFirst inSecond]

namespace Sound

variable {earlier later : Template}

/-- The bits that two templates set together have the fixed bits of each, if the two agree. -/
theorem matchesWord_or
    (earlierSound : earlier.Sound)
    (laterSound : later.Sound)
    (agree : ∀ position, earlier.mask.getLsbD position = true →
      later.mask.getLsbD position = true →
        earlier.opcode.getLsbD position = later.opcode.getLsbD position) :
    earlier.matchesWord (earlier.opcode ||| later.opcode) = true := by
  rw [matchesWord_iff]
  intro position
  rw [BitVec.getLsbD_or]
  cases earlierFixes : earlier.mask.getLsbD position with
  | false => rw [Bool.and_false, earlierSound.getLsbD_opcode_of_mask earlierFixes]
  | true =>
      cases laterFixes : later.mask.getLsbD position with
      | false => rw [laterSound.getLsbD_opcode_of_mask laterFixes, Bool.or_false, Bool.and_true]
      | true => rw [agree position earlierFixes laterFixes, Bool.or_self, Bool.and_true]

/-- Two templates fit a common word exactly when they fix no bit to different values. -/
theorem exists_matchesWord_iff
    (earlierSound : earlier.Sound)
    (laterSound : later.Sound) :
    (∃ word, earlier.matchesWord word = true ∧ later.matchesWord word = true) ↔
      conflict earlier later = 0 := by
  unfold conflict
  rw [xor_and_and_eq_zero_iff]
  constructor
  · rintro ⟨word, earlierFits, laterFits⟩ position earlierFixes laterFixes
    have earlierBit := matchesWord_iff.mp earlierFits position
    have laterBit := matchesWord_iff.mp laterFits position
    rw [earlierFixes, Bool.and_true] at earlierBit
    rw [laterFixes, Bool.and_true] at laterBit
    rw [← earlierBit, ← laterBit]
  · intro agree
    refine ⟨earlier.opcode ||| later.opcode, earlierSound.matchesWord_or laterSound agree, ?_⟩
    rw [BitVec.or_comm]
    apply laterSound.matchesWord_or earlierSound
    intro position laterFixes earlierFixes
    exact (agree position earlierFixes laterFixes).symm

theorem not_covers_iff
    (sound : later.Sound)
    {position : Nat}
    (inside : position < wordBits) :
    (∀ field ∈ later.fields, ¬field.Covers position) ↔
      (later.mask ||| later.vacant).getLsbD position = true := by
  rw [BitVec.getLsbD_or, Bool.or_eq_true, getLsbD_vacant_iff sound.bounds]
  constructor
  · intro uncovered
    cases fixed : later.mask.getLsbD position with
    | false => exact .inr ⟨inside, rfl, uncovered⟩
    | true => exact .inl rfl
  · rintro (fixed | free)
    · exact sound.not_covers_of_mask fixed
    · exact free.2.2

/--
A template fits some word that another one encodes exactly when it fixes no bit that all such words
have otherwise.
-/
theorem exists_matchesWord_stamped_iff
    (earlierSound : earlier.Sound)
    (laterSound : later.Sound) :
    (∃ ask, earlier.matchesWord (stamped ask 0 later.opcode later.fields) = true) ↔
      encodedConflict earlier later later.vacant = 0 := by
  unfold encodedConflict
  rw [xor_and_and_eq_zero_iff]
  constructor
  · rintro ⟨ask, fits⟩ position fixes kept
    have inside := BitVec.lt_of_getLsbD fixes
    have bit := matchesWord_iff.mp fits position
    rw [fixes, Bool.and_true, laterSound.getLsbD_stamped_of_not_covers
      ((laterSound.not_covers_iff inside).mpr kept)] at bit
    exact bit.symm
  · intro agree
    -- every field is given the bits that the earlier template has there
    refine ⟨fun _ field => field.content earlier.opcode, ?_⟩
    rw [matchesWord_iff]
    intro position
    cases fixes : earlier.mask.getLsbD position with
    | false => rw [Bool.and_false, earlierSound.getLsbD_opcode_of_mask fixes]
    | true =>
        rw [Bool.and_true]
        rcases exists_covers_or_not_covers later.fields position with
          ⟨field, member, covers⟩ | uncovered
        · obtain ⟨index, found⟩ := List.getElem?_of_mem member
          rw [getLsbD_stamped_of_covers laterSound.bounds laterSound.apart found covers,
            (laterSound.bounds field member).getLsbD_content_sub covers]
        · have inside := BitVec.lt_of_getLsbD fixes
          rw [laterSound.getLsbD_stamped_of_not_covers uncovered]
          exact (agree position fixes ((laterSound.not_covers_iff inside).mp uncovered)).symm

end Sound
end Template

namespace Registry

/-- Every template of a registry is that of a compiled description. -/
def Compiled (registry : Registry) : Prop :=
  ∀ template ∈ registry.templates, ∃ description instruction,
    Instruction.ofDescription description = .ok instruction ∧
      Template.ofInstruction instruction = template

/-- The position of the first template that fits a word. -/
def position?
    (registry : Registry)
    (word : Word) :
    Option (Fin registry.templates.length) :=
  registry.templates.findFinIdx? fun template => template.matchesWord word

variable {registry : Registry}

/-- A word is decoded to the template at the first position that fits. -/
theorem decode?_eq_map_position? (registry : Registry) (word : Word) :
    registry.decode? word = (registry.position? word).map (registry.templates[·]) :=
  List.find?_eq_map_findFinIdx?_getElem

/-- A position is the first that fits when its template fits and none before it does. -/
theorem position?_eq_some_iff
    {word : Word}
    {index : Fin registry.templates.length} :
    registry.position? word = some index ↔
      registry.templates[index].matchesWord word = true ∧
        ∀ earlier < index, ¬registry.templates[earlier].matchesWord word = true :=
  List.findFinIdx?_eq_some_iff

/-- The templates of a compiled registry are sound. -/
theorem Compiled.sound
    (compiled : registry.Compiled)
    (index : Fin registry.templates.length) :
    registry.templates[index].Sound := by
  obtain ⟨description, instruction, compiles, same⟩ :=
    compiled registry.templates[index] (List.getElem_mem index.isLt)
  obtain ⟨segments, -, depicts⟩ := Template.exists_depicts_of_ofDescription compiles
  rw [← same]
  exact depicts.sound

/--
In a registry of compiled templates, two templates fit a common word exactly when there is no
conflict between their fixed bits.  So the template at a position is the first that fits, for all
words that it fits, exactly when each earlier one is in conflict with it.  For all words that it
encodes it is the first exactly when each earlier one is in conflict with its fixed and free bits.
-/
theorem first_iff_conflict
    (compiled : registry.Compiled)
    (index : Fin registry.templates.length) :
    (∀ word, registry.decode? word =
      (registry.position? word).map (registry.templates[·])) ∧
    (∀ other : Fin registry.templates.length,
      (∃ word, registry.templates[other].matchesWord word = true ∧
        registry.templates[index].matchesWord word = true) ↔
      Template.conflict registry.templates[other] registry.templates[index] = 0) ∧
    ((∀ word, registry.templates[index].matchesWord word = true →
        registry.position? word = some index) ↔
      ∀ earlier < index,
        Template.conflict registry.templates[earlier] registry.templates[index] ≠ 0) ∧
    ∃ free, registry.templates[index].freeBits = .ok free ∧
      ((∀ ask, ∃ word, registry.templates[index].encode ask = .ok word ∧
          registry.position? word = some index) ↔
        ∀ earlier < index,
          Template.encodedConflict registry.templates[earlier] registry.templates[index] free ≠
            0) := by
  have sound := compiled.sound index
  have common (other : Fin registry.templates.length) :=
    (compiled.sound other).exists_matchesWord_iff sound
  have encoded (other : Fin registry.templates.length) :=
    (compiled.sound other).exists_matchesWord_stamped_iff sound
  refine ⟨registry.decode?_eq_map_position?, common, ?_, _,
    Template.freeBits_eq sound.bounds, ?_⟩
  · constructor
    · intro first earlier before zero
      obtain ⟨word, earlierFits, fits⟩ := (common earlier).mpr zero
      exact (position?_eq_some_iff.mp (first word fits)).2 earlier before earlierFits
    · intro conflicts word fits
      refine position?_eq_some_iff.mpr ⟨fits, ?_⟩
      intro earlier before earlierFits
      exact conflicts earlier before ((common earlier).mp ⟨word, earlierFits, fits⟩)
  · constructor
    · intro first earlier before zero
      obtain ⟨ask, earlierFits⟩ := (encoded earlier).mpr zero
      obtain ⟨word, made, position⟩ := first ask
      rw [sound.encode_eq] at made
      injection made with made
      subst made
      exact (position?_eq_some_iff.mp position).2 earlier before earlierFits
    · intro conflicts ask
      refine ⟨_, sound.encode_eq ask,
        position?_eq_some_iff.mpr ⟨sound.matchesWord_stamped, ?_⟩⟩
      intro earlier before earlierFits
      exact conflicts earlier before ((encoded earlier).mp ⟨ask, earlierFits⟩)

/-- A template that fixes the free bit of the next one hides words of it, but none that it encodes. -/
theorem first_iff_conflict_of_free_bit :
    ∃ registry index,
      Registry.empty.registerCompiled
          [⟨"HLT", "1|(x):31", "", "", "", ""⟩, ⟨"MOV", "(x)|Rd:31", "", "", "", ""⟩] =
        .ok registry ∧
      registry.Compiled ∧
      (∃ word, registry.templates[index].matchesWord word = true ∧
        registry.position? word ≠ some index) ∧
      ∀ ask, ∃ word, registry.templates[index].encode ask = .ok word ∧
        registry.position? word = some index := by
  have registered : Registry.empty.registerCompiled
        [⟨"HLT", "1|(x):31", "", "", "", ""⟩, ⟨"MOV", "(x)|Rd:31", "", "", "", ""⟩] =
      .ok ⟨[[⟨"HLT", 0x80000000, 0x80000000, [], false, "", ""⟩,
        ⟨"MOV", 0, 0, [⟨"Rd", 30, 31⟩], false, "", ""⟩]]⟩ := by
    rfl
  have compiled : Registry.Compiled ⟨[[⟨"HLT", 0x80000000, 0x80000000, [], false, "", ""⟩,
      ⟨"MOV", 0, 0, [⟨"Rd", 30, 31⟩], false, "", ""⟩]]⟩ := by
    intro template member
    simp only [templates, List.flatten_cons, List.flatten_nil, List.append_nil, List.mem_cons,
      List.not_mem_nil, or_false] at member
    rcases member with rfl | rfl
    · exact ⟨⟨"HLT", "1|(x):31", "", "", "", ""⟩,
        ⟨"HLT", 0x80000000, 0x80000000, [], false, "", "", "", ""⟩, by rfl, by rfl⟩
    · exact ⟨⟨"MOV", "(x)|Rd:31", "", "", "", ""⟩,
        ⟨"MOV", 0, 0, [⟨"Rd", 30, 31⟩], false, "", "", "", ""⟩, by rfl, by rfl⟩
  obtain ⟨-, -, -, free, clear, encoded⟩ := first_iff_conflict compiled ⟨1, by decide⟩
  refine ⟨_, ⟨1, by decide⟩, registered, compiled, ?_, encoded.mpr ?_⟩
  · refine ⟨0x80000000, by decide, by decide⟩
  · have value : free = 0x80000000 := by
      have computed : (⟨"MOV", 0, 0, [⟨"Rd", 30, 31⟩], false, "", ""⟩ : Template).freeBits =
          .ok 0x80000000 := by
        rfl
      exact Except.ok.inj (clear.symm.trans computed)
    subst value
    decide

end Registry
end InstructionTable
