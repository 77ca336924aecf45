import InstructionTable.Proofs.Batch
import InstructionTable.Proofs.Decode.Reading

/-!
# Decoding by the text of the patterns

A registry finds a template for a word by masks, one template after the other.  The main statement
says that this is the first description whose pattern reads the word digit by digit, and that the
template takes the word apart into what the pattern reads.
-/

namespace InstructionTable

/-- Whether every segment of a description's pattern accepts its digits of a word. -/
def Description.matchesText
    (description : Description)
    (word : Word) : Bool :=
  match Segment.listOfText description.bits with
  | .error _ => false
  | .ok segments =>
      (readings segments (digits word)).all fun reading => reading.1.admits reading.2

/-- A compiled template has the fixed bits of the words that its pattern reads. -/
theorem matchesWord_of_compilesTo
    {description : Description}
    {instruction : Instruction}
    (compiled : CompilesTo description instruction)
    (word : Word) :
    description.matchesText word =
      (Template.ofInstruction instruction).matchesWord word := by
  obtain ⟨segments, read, depicts⟩ := Template.exists_depicts_of_ofDescription compiled
  rw [Description.matchesText, read, depicts.matchesWord_eq]

/-- A compiled template takes a word apart into what its pattern reads. -/
theorem exists_disassemble_of_compilesTo
    {description : Description}
    {instruction : Instruction}
    (compiled : CompilesTo description instruction)
    (word : Word) :
    ∃ segments disassembly,
      Segment.listOfText description.bits = .ok segments ∧
      (Template.ofInstruction instruction).disassemble word = .ok disassembly ∧
      (disassembly.operands.map fun operand => (operand.1, operand.2.toNat)) =
        operandReadings segments (digits word) ∧
      digits disassembly.free = ignoredDigits segments (digits word) := by
  obtain ⟨segments, read, depicts⟩ := Template.exists_depicts_of_ofDescription compiled
  refine ⟨segments, _, read, Template.disassemble_eq depicts.sound.bounds word, ?_, ?_⟩
  · rw [List.map_map]
    exact depicts.operands_eq word
  · exact depicts.digits_and_vacant word

/--
Batches that compile can all be added to an empty registry.  It then decodes a word to the template
of the first description, over all batches in order, whose pattern reads the word, and to none when
no pattern does.  The template takes the word apart: the operands, in order, have the names of the
pattern's operand segments and the numbers that their digits denote, and the free bits keep the
digits of the ignored segments, with zeros elsewhere.
-/
theorem decode?_eq_first_matchesText
    {batches : List (List Description)}
    (compile : ∀ batch ∈ batches, ∃ instructions, Batch.compile batch = .ok instructions) :
    ∃ registry,
      batches.foldlM Registry.registerCompiled Registry.empty = .ok registry ∧
      ∀ word : Word,
        match batches.flatten.find? fun description => description.matchesText word with
        | none => registry.decode? word = none
        | some description =>
            ∃ instruction segments disassembly,
              Instruction.ofDescription description = .ok instruction ∧
              registry.decode? word = some (Template.ofInstruction instruction) ∧
              Segment.listOfText description.bits = .ok segments ∧
              (Template.ofInstruction instruction).disassemble word = .ok disassembly ∧
              (disassembly.operands.map fun operand => (operand.1, operand.2.toNat)) =
                operandReadings segments (digits word) ∧
              digits disassembly.free = ignoredDigits segments (digits word) := by
  obtain ⟨registry, instructions, registered, aligned, templates⟩ :=
    Registry.exists_foldlM_registerCompiled compile Registry.empty
  refine ⟨registry, registered, ?_⟩
  intro word
  have decoded : registry.decode? word =
      (instructions.find? fun instruction =>
        (Template.ofInstruction instruction).matchesWord word).map Template.ofInstruction := by
    rw [Registry.decode?, templates]
    exact List.find?_map
  have found := rel_find?
    (fun description instruction (compiled : CompilesTo description instruction) =>
      matchesWord_of_compilesTo compiled word) aligned
  rw [decoded]
  generalize batches.flatten.find? (fun description => description.matchesText word) = first
    at found ⊢
  generalize instructions.find? (fun instruction =>
    (Template.ofInstruction instruction).matchesWord word) = answer at found ⊢
  cases found with
  | none => rfl
  | some compiled =>
      obtain ⟨segments, disassembly, read, taken, operands, free⟩ :=
        exists_disassemble_of_compilesTo compiled word
      exact ⟨_, segments, disassembly, compiled, rfl, read, taken, operands, free⟩

/-- The first of two batches does not read the word, and the second names one operand twice. -/
theorem decode?_eq_first_matchesText_of_two_batches :
    (∀ batch ∈ [[Description.mk "HLT" "0|(x):31" "" "" "" ""],
        [⟨"MOV", "(x)|Rd:15|Rd:16", "", "", "", ""⟩]],
      ∃ instructions, Batch.compile batch = .ok instructions) ∧
    ∃ registry,
      [[Description.mk "HLT" "0|(x):31" "" "" "" ""],
        [⟨"MOV", "(x)|Rd:15|Rd:16", "", "", "", ""⟩]].foldlM
          Registry.registerCompiled Registry.empty = .ok registry ∧
      ∃ instruction disassembly,
        Instruction.ofDescription ⟨"MOV", "(x)|Rd:15|Rd:16", "", "", "", ""⟩ = .ok instruction ∧
        registry.decode? 0x80020005 = some (Template.ofInstruction instruction) ∧
        (Template.ofInstruction instruction).disassemble 0x80020005 = .ok disassembly ∧
        (disassembly.operands.map fun operand => (operand.1, operand.2.toNat)) =
          [("Rd", 2), ("Rd", 5)] := by
  have compile : ∀ batch ∈ [[Description.mk "HLT" "0|(x):31" "" "" "" ""],
        [⟨"MOV", "(x)|Rd:15|Rd:16", "", "", "", ""⟩]],
      ∃ instructions, Batch.compile batch = .ok instructions := by
    intro batch member
    simp only [List.mem_cons, List.not_mem_nil, or_false] at member
    rcases member with rfl | rfl
    · exact ⟨[⟨"HLT", 0, 0x80000000, [], false, "", "", "", ""⟩], by rfl⟩
    · exact ⟨[⟨"MOV", 0, 0, [⟨"Rd", 30, 15⟩, ⟨"Rd", 15, 16⟩], false, "", "", "", ""⟩], by rfl⟩
  obtain ⟨registry, registered, decoded⟩ := decode?_eq_first_matchesText compile
  have answer := decoded 0x80020005
  have first : [[Description.mk "HLT" "0|(x):31" "" "" "" ""],
        [⟨"MOV", "(x)|Rd:15|Rd:16", "", "", "", ""⟩]].flatten.find?
          (fun description => description.matchesText 0x80020005) =
        some ⟨"MOV", "(x)|Rd:15|Rd:16", "", "", "", ""⟩ := by
    decide
  rw [first] at answer
  obtain ⟨instruction, segments, disassembly, compiled, found, read, taken, operands, -⟩ := answer
  have spelled : Segment.listOfText "(x)|Rd:15|Rd:16" =
      .ok [⟨"(x)", 1⟩, ⟨"Rd", 15⟩, ⟨"Rd", 16⟩] := by
    rfl
  rw [spelled] at read
  rw [← Except.ok.inj read] at operands
  refine ⟨compile, registry, registered, instruction, disassembly, compiled, found, taken, ?_⟩
  rw [operands]
  decide

end InstructionTable
