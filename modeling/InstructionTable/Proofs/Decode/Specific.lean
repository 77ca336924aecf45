import InstructionTable.Proofs.Decode.Shadowing

/-!
# Registries with the specific templates first

Templates that overlap answer in the order of the registry.  When of any two that overlap the former
fixes all bits that the latter fixes, the answer to a word is a most specific template that fits it.
When they are privileged alike too, the order decides nothing about the privilege of a word.  Both
are tests of all pairs of templates, as are the tests that a template is never the answer, and that
it is the answer for all words that it encodes.
-/

namespace InstructionTable
namespace Template

/-- The former template is in conflict with the latter, or as specific and privileged alike. -/
def Outranks (earlier later : Template) : Prop :=
  conflict earlier later ≠ 0 ∨
    earlier.mask &&& later.mask = later.mask ∧ earlier.privileged = later.privileged

instance (earlier later : Template) : Decidable (Outranks earlier later) :=
  inferInstanceAs (Decidable (_ ∨ _))

/-- The former template fixes only bits that the latter fixes too, and to the same values. -/
def Hides (earlier later : Template) : Prop :=
  later.mask &&& earlier.mask = earlier.mask ∧ later.opcode &&& earlier.mask = earlier.opcode

instance (earlier later : Template) : Decidable (Hides earlier later) :=
  inferInstanceAs (Decidable (_ ∧ _))

/-- Every template of a name stands behind one of some other names that hides it. -/
def Hidden
    (name : String)
    (others : List String)
    (templates : List Template) : Prop :=
  ∀ index : Fin templates.length, templates[index].name = name →
    ∃ earlier < index, templates[earlier].name ∈ others ∧
      Hides templates[earlier] templates[index]

instance (name : String) (others : List String) (templates : List Template) :
    Decidable (Hidden name others templates) :=
  inferInstanceAs (Decidable (∀ _ : Fin templates.length, _ → _))

/-- But for those of some names, no template encodes a word that an earlier one fits. -/
def Distinct
    (exceptions : List String)
    (templates : List Template) : Prop :=
  ∀ index : Fin templates.length, templates[index].name ∉ exceptions →
    ∀ earlier < index,
      encodedConflict templates[earlier] templates[index] templates[index].vacant ≠ 0

instance (exceptions : List String) (templates : List Template) :
    Decidable (Distinct exceptions templates) :=
  inferInstanceAs (Decidable (∀ _ : Fin templates.length, _ → _))

variable {earlier later : Template} {word : Word}

/-- A template that hides another fits all words that the other fits. -/
theorem Hides.matchesWord
    (hides : Hides earlier later)
    (fits : later.matchesWord word = true) :
    earlier.matchesWord word = true := by
  obtain ⟨masks, opcodes⟩ := hides
  rw [Template.matchesWord, beq_iff_eq] at fits ⊢
  calc
    word &&& earlier.mask = word &&& later.mask &&& earlier.mask := by
      rw [BitVec.and_assoc, masks]
    _ = later.opcode &&& earlier.mask := by rw [fits]
    _ = earlier.opcode := opcodes

/-- Of two templates that fit a word, the one that outranks the other is as specific. -/
theorem Outranks.of_matchesWord
    (outranks : Outranks earlier later)
    (earlierSound : earlier.Sound)
    (laterSound : later.Sound)
    (earlierFits : earlier.matchesWord word = true)
    (laterFits : later.matchesWord word = true) :
    earlier.mask &&& later.mask = later.mask ∧ earlier.privileged = later.privileged := by
  apply outranks.resolve_left
  rw [not_not]
  exact (earlierSound.exists_matchesWord_iff laterSound).mp ⟨word, earlierFits, laterFits⟩

end Template

/-- What is found first is related to all else that passes, if each item is related to later ones. -/
theorem related_of_find?
    {Item : Type}
    {related : Item → Item → Prop}
    {check : Item → Bool}
    {items : List Item}
    (ordered : items.Pairwise related)
    {first other : Item}
    (found : items.find? check = some first)
    (member : other ∈ items)
    (passes : check other = true) :
    other = first ∨ related first other := by
  obtain ⟨-, before, after, rfl, refused⟩ := List.find?_eq_some_iff_append.mp found
  rcases List.mem_append.mp member with inFront | behind
  · have rejected := refused other inFront
    rw [passes] at rejected
    contradiction
  · obtain ⟨-, tail, -⟩ := List.pairwise_append.mp ordered
    rcases List.mem_cons.mp behind with rfl | later
    · exact .inl rfl
    · exact .inr ((List.pairwise_cons.mp tail).1 other later)

namespace Registry

variable {registry : Registry} {word : Word}

/-- Every template outranks all templates behind it. -/
def Graded (registry : Registry) : Prop :=
  registry.templates.Pairwise Template.Outranks

theorem Compiled.sound_of_mem
    (compiled : registry.Compiled)
    {template : Template}
    (member : template ∈ registry.templates) :
    template.Sound := by
  obtain ⟨index, inside, rfl⟩ := List.getElem_of_mem member
  exact compiled.sound ⟨index, inside⟩

/-- The answer to a word is a template of the registry that fits it. -/
theorem mem_and_matchesWord_of_decode?
    {template : Template}
    (decoded : registry.decode? word = some template) :
    template ∈ registry.templates ∧ template.matchesWord word = true := by
  have fits := List.find?_some decoded
  exact ⟨List.mem_of_find?_eq_some decoded, fits⟩

/-- In a graded registry, the answer to a word is most specific, and privileged as all that fit. -/
theorem Graded.decode?_specific
    (graded : registry.Graded)
    (compiled : registry.Compiled)
    {first other : Template}
    (decoded : registry.decode? word = some first)
    (member : other ∈ registry.templates)
    (fits : other.matchesWord word = true) :
    first.mask &&& other.mask = other.mask ∧ first.privileged = other.privileged := by
  rcases related_of_find? graded decoded member fits with rfl | outranks
  · exact ⟨BitVec.and_self, rfl⟩
  · obtain ⟨firstMember, firstFits⟩ := mem_and_matchesWord_of_decode? decoded
    exact outranks.of_matchesWord (compiled.sound_of_mem firstMember)
      (compiled.sound_of_mem member) firstFits fits

theorem exists_decode?_eq_some
    {template : Template}
    (member : template ∈ registry.templates)
    (fits : template.matchesWord word = true) :
    ∃ first, registry.decode? word = some first :=
  Option.isSome_iff_exists.mp (List.find?_isSome.mpr ⟨template, member, fits⟩)

/-- The privilege of a word is the same in every order of a graded registry. -/
theorem Graded.privileged_decode?_of_perm
    (graded : registry.Graded)
    (compiled : registry.Compiled)
    {other : Registry}
    (reordered : other.templates.Perm registry.templates)
    (word : Word) :
    (other.decode? word).map (·.privileged) = (registry.decode? word).map (·.privileged) := by
  cases decoded : other.decode? word with
  | none =>
      have refused := List.find?_eq_none.mp decoded
      have nothing : registry.decode? word = none :=
        List.find?_eq_none.mpr fun template member =>
          refused template (reordered.mem_iff.mpr member)
      rw [nothing]
  | some answer =>
      obtain ⟨otherMember, fits⟩ := mem_and_matchesWord_of_decode? decoded
      have member := reordered.mem_iff.mp otherMember
      obtain ⟨first, firstDecoded⟩ := exists_decode?_eq_some member fits
      have same := graded.decode?_specific compiled firstDecoded member fits
      rw [firstDecoded, Option.map_some, Option.map_some, same.2]

/-- A word that a hidden template fits is fit by one in front of it, which has another name. -/
theorem exists_matchesWord_of_hidden
    {name : String}
    {others : List String}
    (hidden : Template.Hidden name others registry.templates)
    {index : Fin registry.templates.length}
    (named : (registry.templates.get index).name = name)
    (fits : (registry.templates.get index).matchesWord word = true) :
    ∃ earlier < index, (registry.templates.get earlier).name ∈ others ∧
      (registry.templates.get earlier).matchesWord word = true := by
  obtain ⟨earlier, before, other, hides⟩ := hidden index named
  exact ⟨earlier, before, other, hides.matchesWord fits⟩

/-- A hidden template is never the answer. -/
theorem name_ne_of_hidden
    {name : String}
    {others : List String}
    (hidden : Template.Hidden name others registry.templates)
    {first : Template}
    (decoded : registry.decode? word = some first) :
    first.name ≠ name := by
  intro named
  rw [decode?_eq_map_position?] at decoded
  obtain ⟨index, position, rfl⟩ := Option.map_eq_some_iff.mp decoded
  obtain ⟨fits, refused⟩ := position?_eq_some_iff.mp position
  obtain ⟨earlier, before, -, earlierFits⟩ := exists_matchesWord_of_hidden hidden named fits
  exact refused earlier before earlierFits

/-- A distinct template answers for all words that it encodes. -/
theorem Compiled.exists_decode?_encode
    (compiled : registry.Compiled)
    {exceptions : List String}
    (distinct : Template.Distinct exceptions registry.templates)
    {template : Template}
    (member : template ∈ registry.templates)
    (named : template.name ∉ exceptions)
    (ask : Nat → Field 8 → Word) :
    ∃ word, template.encode ask = .ok word ∧ registry.decode? word = some template := by
  obtain ⟨index, rfl⟩ := List.get_of_mem member
  have sound := compiled.sound index
  have position : registry.position? _ = some index :=
    position?_eq_some_iff.mpr ⟨sound.matchesWord_stamped, fun earlier before fits =>
      distinct index named earlier before
        (((compiled.sound earlier).exists_matchesWord_stamped_iff sound).mp ⟨ask, fits⟩)⟩
  refine ⟨_, sound.encode_eq ask, ?_⟩
  rw [decode?_eq_map_position?, position]
  rfl

end Registry
end InstructionTable
