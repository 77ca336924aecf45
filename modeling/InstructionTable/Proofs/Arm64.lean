import InstructionTable.Proofs.Batch
import InstructionTable.Proofs.Decode.Specific

/-!
# Every word under the ARM64 table

The table has overlapping templates for system instructions, and they stand in such an order that a
most specific one answers.  What the tests of all pairs of templates say for single registries is
put together here for all words and for all numbers in the fields.
-/

namespace InstructionTable
namespace Arm64

/-- The mnemonics of the table, in order. -/
def mnemonics : List String :=
  ["NOP", "ADD", "MOVZ", "MOV", "B", "BL", "RET", "LDAXR", "AT", "DC", "IC", "TLBI", "SYS", "SYSL"]

/-- The encodings of the patterns, in order. -/
def encodings : List Encoding :=
  [ ⟨0xD503201F, 0xFFFFFFFF, []⟩,
    ⟨0x11000000, 0x7F800000,
      [⟨"sf", 31, 1⟩, ⟨"sh", 22, 1⟩, ⟨"imm12", 21, 12⟩, ⟨"Rn", 9, 5⟩, ⟨"Rd", 4, 5⟩]⟩,
    ⟨0x52800000, 0x7F800000, [⟨"sf", 31, 1⟩, ⟨"hw", 22, 2⟩, ⟨"imm16", 20, 16⟩, ⟨"Rd", 4, 5⟩]⟩,
    ⟨0x2A0003E0, 0x7FE0FFE0, [⟨"sf", 31, 1⟩, ⟨"Rm", 20, 5⟩, ⟨"Rd", 4, 5⟩]⟩,
    ⟨0x14000000, 0xFC000000, [⟨"imm26", 25, 26⟩]⟩,
    ⟨0x94000000, 0xFC000000, [⟨"imm26", 25, 26⟩]⟩,
    ⟨0xD65F0000, 0xFFFFFC1F, [⟨"Rn", 9, 5⟩]⟩,
    ⟨0x08408000, 0x3FE08000, [⟨"size", 31, 2⟩, ⟨"Rn", 9, 5⟩, ⟨"Rt", 4, 5⟩]⟩,
    ⟨0xD5087800, 0xFFF8FE00, [⟨"op1", 18, 3⟩, ⟨"CRm0", 8, 1⟩, ⟨"op2", 7, 3⟩, ⟨"Rt", 4, 5⟩]⟩,
    ⟨0xD5087000, 0xFFF8F000, [⟨"op1", 18, 3⟩, ⟨"CRm", 11, 4⟩, ⟨"op2", 7, 3⟩, ⟨"Rt", 4, 5⟩]⟩,
    ⟨0xD5087000, 0xFFF8F000, [⟨"op1", 18, 3⟩, ⟨"CRm", 11, 4⟩, ⟨"op2", 7, 3⟩, ⟨"Rt", 4, 5⟩]⟩,
    ⟨0xD5088000, 0xFFF8F000, [⟨"op1", 18, 3⟩, ⟨"CRm", 11, 4⟩, ⟨"op2", 7, 3⟩, ⟨"Rt", 4, 5⟩]⟩,
    ⟨0xD5080000, 0xFFF80000,
      [⟨"op1", 18, 3⟩, ⟨"CRn", 15, 4⟩, ⟨"CRm", 11, 4⟩, ⟨"op2", 7, 3⟩, ⟨"Rt", 4, 5⟩]⟩,
    ⟨0xD5280000, 0xFFF80000,
      [⟨"op1", 18, 3⟩, ⟨"CRn", 15, 4⟩, ⟨"CRm", 11, 4⟩, ⟨"op2", 7, 3⟩, ⟨"Rt", 4, 5⟩]⟩ ]

/-- The instructions of the table, in order. -/
def instructions : List Instruction :=
  List.zipWith Instruction.ofEncoding descriptions encodings

/-- The templates of the table, in order. -/
def templates : List Template :=
  instructions.map Template.ofInstruction

/-- Every pattern has its encoding. -/
theorem map_ofText_descriptions :
    descriptions.map (fun description => Encoding.ofText description.bits) =
      encodings.map .ok := by
  rfl

theorem compile_descriptions : Batch.compile descriptions = .ok instructions :=
  Batch.compile_of_map_ofText map_ofText_descriptions

/-- The table holds the templates of the compiled descriptions. -/
theorem table_eq : table = templates := by
  unfold table
  rw [compile_descriptions]
  rfl

/-- The registry holds the templates of the table. -/
theorem templates_registry : registry.templates = templates := by
  rw [registry, Registry.templates_register, table_eq]
  exact List.nil_append templates

/-- The registry is what registering the descriptions gives. -/
theorem registerCompiled_descriptions :
    Registry.empty.registerCompiled descriptions = .ok registry := by
  rw [Registry.registerCompiled_of_compile compile_descriptions]
  exact congrArg (fun held => Except.ok (Registry.empty.register held)) table_eq.symm

/-- Every template of the registry is that of a compiled description. -/
theorem compiled_registry : registry.Compiled := by
  intro template member
  rw [templates_registry] at member
  obtain ⟨instruction, instructionMember, rfl⟩ := List.mem_map.mp member
  obtain ⟨index, inside, rfl⟩ := List.getElem_of_mem instructionMember
  have aligned := Batch.compileFrom_eq_ok_iff.mp compile_descriptions
  have compiled := List.Forall₂.get aligned (aligned.length_eq ▸ inside) inside
  exact ⟨_, _, compiled, rfl⟩

/-- Every template of the registry outranks all templates behind it. -/
theorem graded_registry : registry.Graded := by
  rw [Registry.Graded, templates_registry]
  decide +kernel

/-- The template of `IC` is hidden. -/
theorem hidden_registry : Template.Hidden "IC" ["AT", "DC"] registry.templates := by
  rw [templates_registry]
  decide +kernel

/-- All templates but three answer for what they encode. -/
theorem distinct_registry : Template.Distinct ["DC", "IC", "SYS"] registry.templates := by
  rw [templates_registry]
  decide +kernel

/--
The registry of the table holds the templates of its descriptions, and these have the mnemonics of
the table.  If a template fits a word, then the word is decoded to a template that fixes all bits
that any template which fits the word fixes, and that is privileged exactly if these are; so the
privilege of a word does not depend on the order of the table.  No word is decoded to `IC`, since
`AT` or `DC` in front of it fits all words that it fits.  Every template but `DC`, `IC` and `SYS`
is what its encoded words are decoded to.
-/
theorem decode?_registry_specific :
    Registry.empty.registerCompiled descriptions = .ok registry ∧
    registry.templates.map (·.name) = mnemonics ∧
    (∀ word, ∀ template ∈ registry.templates, template.matchesWord word = true →
      ∃ first, registry.decode? word = some first ∧
        ∀ other ∈ registry.templates, other.matchesWord word = true →
          first.mask &&& other.mask = other.mask ∧ first.privileged = other.privileged) ∧
    (∀ word, ∀ other : Registry, other.templates.Perm registry.templates →
      (other.decode? word).map (·.privileged) = (registry.decode? word).map (·.privileged)) ∧
    (∀ word first, registry.decode? word = some first → first.name ≠ "IC") ∧
    (∀ word, ∀ index : Fin registry.templates.length, registry.templates[index].name = "IC" →
      registry.templates[index].matchesWord word = true →
        ∃ earlier < index, registry.templates[earlier].name ∈ ["AT", "DC"] ∧
          registry.templates[earlier].matchesWord word = true) ∧
    ∀ template ∈ registry.templates, template.name ∉ ["DC", "IC", "SYS"] →
      ∀ ask, ∃ word, template.encode ask = .ok word ∧ registry.decode? word = some template := by
  refine ⟨registerCompiled_descriptions, ?_, ?_, ?_, ?_, ?_, ?_⟩
  · rw [templates_registry]
    decide +kernel
  · intro word template member fits
    obtain ⟨first, decoded⟩ := Registry.exists_decode?_eq_some member fits
    exact ⟨first, decoded, fun other otherMember otherFits =>
      graded_registry.decode?_specific compiled_registry decoded otherMember otherFits⟩
  · intro word other reordered
    exact graded_registry.privileged_decode?_of_perm compiled_registry reordered word
  · intro word first decoded
    exact Registry.name_ne_of_hidden hidden_registry decoded
  · intro word index named fits
    exact Registry.exists_matchesWord_of_hidden hidden_registry named fits
  · intro template member named ask
    exact compiled_registry.exists_decode?_encode distinct_registry member named ask

end Arm64
end InstructionTable
