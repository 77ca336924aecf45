import InstructionTable.Proofs.Batch
import InstructionTable.Proofs.Listing.ReadBack
import InstructionTable.Proofs.Pattern.Image
import InstructionTable.Proofs.Template.Compiled

/-!
# What a listing records of instructions

The entries of a listing record all of an instruction that a table keeps, with the bounds of its
fields cut to bytes.  Nothing else is lost: two listings are the same text exactly when what they
record is the same, and the bounds of compiled fields are so small that none is cut.
-/

namespace InstructionTable
namespace Listing
open Lexical

/-- A field of an entry records a field of an instruction. -/
structure RecordsField
    (entry : Field 8)
    (field : Field 32) : Prop where
  /-- It has the same name. -/
  name : entry.name = field.name
  /-- Its start is cut to a byte. -/
  start : entry.start.toNat = field.start.toNat % 256
  /-- Its length is cut to a byte. -/
  length : entry.length.toNat = field.length.toNat % 256

/-- An entry records an instruction. -/
structure Records
    (entry : Template)
    (instruction : Instruction) : Prop where
  /-- It has the same mnemonic. -/
  name : entry.name = instruction.name
  /-- It has the same architecture. -/
  arch : entry.arch = instruction.arch
  /-- It has the same assembly form. -/
  assembly : entry.assembly = instruction.assembly
  /-- It fixes bits to the same values. -/
  opcode : entry.opcode = instruction.opcode
  /-- It fixes bits at the same places. -/
  mask : entry.mask = instruction.mask
  /-- It is privileged if the instruction is. -/
  privileged : entry.privileged = instruction.privileged
  /-- It has the same fields, in order. -/
  fields : List.Forall₂ RecordsField entry.fields instruction.fields

/-- Two fields that no listing tells apart. -/
structure FieldsAgree (left right : Field 32) : Prop where
  /-- They have the same name. -/
  name : left.name = right.name
  /-- Their starts are the same byte. -/
  start : left.start.toNat % 256 = right.start.toNat % 256
  /-- Their lengths are the same byte. -/
  length : left.length.toNat % 256 = right.length.toNat % 256

/-- Two instructions that no listing tells apart. -/
structure InstructionsAgree (left right : Instruction) : Prop where
  /-- They have the same mnemonic. -/
  name : left.name = right.name
  /-- They have the same architecture. -/
  arch : left.arch = right.arch
  /-- They have the same assembly form. -/
  assembly : left.assembly = right.assembly
  /-- They fix bits to the same values. -/
  opcode : left.opcode = right.opcode
  /-- They fix bits at the same places. -/
  mask : left.mask = right.mask
  /-- Both are privileged, or none is. -/
  privileged : left.privileged = right.privileged
  /-- They have the same fields, in order. -/
  fields : List.Forall₂ FieldsAgree left.fields right.fields

/-- A field of an entry has the bounds of a field of an instruction as they are. -/
structure KeepsField
    (entry : Field 8)
    (field : Field 32) : Prop where
  /-- It has the same name. -/
  name : entry.name = field.name
  /-- It has the same start. -/
  start : entry.start.toNat = field.start.toNat
  /-- It has the same length. -/
  length : entry.length.toNat = field.length.toNat

theorem recordsField_resize (field : Field 32) : RecordsField (field.resize 8) field where
  name := rfl
  start := BitVec.toNat_setWidth 8 field.start
  length := BitVec.toNat_setWidth 8 field.length

/-- The template of an instruction records the instruction. -/
theorem records_ofInstruction (instruction : Instruction) :
    Records (Template.ofInstruction instruction) instruction where
  name := rfl
  arch := rfl
  assembly := rfl
  opcode := rfl
  mask := rfl
  privileged := rfl
  fields := List.forall₂_map_left_iff.mpr
    (List.forall₂_same.mpr fun field _ => recordsField_resize field)

/-- Fields agree exactly when they are cut to the same field. -/
theorem resize_eq_resize_iff
    {left right : Field 32} :
    left.resize 8 = right.resize 8 ↔ FieldsAgree left right := by
  unfold Field.resize
  rw [Field.mk.injEq, ← BitVec.toNat_inj, ← BitVec.toNat_inj, BitVec.toNat_setWidth,
    BitVec.toNat_setWidth, BitVec.toNat_setWidth, BitVec.toNat_setWidth]
  exact ⟨fun ⟨name, start, length⟩ => ⟨name, start, length⟩,
    fun agree => ⟨agree.name, agree.start, agree.length⟩⟩

theorem map_eq_map_iff_forall₂
    {Item Image : Type}
    {image : Item → Image}
    {left right : List Item} :
    left.map image = right.map image ↔
      List.Forall₂ (fun former latter => image former = image latter) left right := by
  rw [← List.forall₂_eq_eq_eq, List.forall₂_map_left_iff, List.forall₂_map_right_iff]

/-- Instructions agree exactly when they have the same template. -/
theorem ofInstruction_eq_ofInstruction_iff
    {left right : Instruction} :
    Template.ofInstruction left = Template.ofInstruction right ↔ InstructionsAgree left right := by
  unfold Template.ofInstruction
  rw [Template.mk.injEq, map_eq_map_iff_forall₂]
  simp only [resize_eq_resize_iff]
  constructor
  · rintro ⟨name, opcode, mask, fields, privileged, arch, assembly⟩
    exact ⟨name, arch, assembly, opcode, mask, privileged, fields⟩
  · rintro ⟨name, arch, assembly, opcode, mask, privileged, fields⟩
    exact ⟨name, opcode, mask, fields, privileged, arch, assembly⟩

/-- The fields of a compiled description keep their bounds. -/
theorem keepsField_of_compilesTo
    {description : Description}
    {instruction : Instruction}
    (compiled : CompilesTo description instruction) :
    List.Forall₂ KeepsField (Template.ofInstruction instruction).fields instruction.fields := by
  obtain ⟨encoding, laid, rfl⟩ := Template.exists_ofEncoding_of_ofDescription compiled
  have admissible := Encoding.admissible_of_ofText laid
  apply List.forall₂_map_left_iff.mpr
  apply List.forall₂_same.mpr
  intro field member
  have start := admissible.start_le field member
  have length := admissible.length_le field member
  have recorded := recordsField_resize field
  exact
    { name := rfl
      start := by
        rw [recorded.start]
        omega
      length := by
        rw [recorded.length]
        omega }

/--
Reading the text of a listing under an accepted name gives the name, twice, the number of entries
and one entry that records each instruction; the entries of compiled instructions keep the bounds of
their fields.  So two such texts are the same exactly when the names are and the instructions agree.
-/
theorem contents?_tokenText_templates
    {name : String}
    {table : Identifier}
    (accepted : Identifier.ofText name = .ok table)
    (instructions : List Instruction) :
    (∃ contents,
      contents? (tokenText table (templates instructions)) = some contents ∧
      contents.table = table ∧ contents.registered = table ∧
      contents.declared = contents.entries.length ∧
      List.Forall₂ Records contents.entries instructions ∧
      ∀ descriptions, Batch.compile descriptions = .ok instructions →
        List.Forall₂ (fun entry instruction =>
          List.Forall₂ KeepsField entry.fields instruction.fields)
          contents.entries instructions) ∧
    ∀ otherName other others, Identifier.ofText otherName = .ok other →
      (tokenText table (templates instructions) = tokenText other (templates others) ↔
        table = other ∧ List.Forall₂ InstructionsAgree instructions others) := by
  have read := contents?_tokenText (legible_of_ofText accepted) (templates instructions)
  refine ⟨⟨_, read, rfl, rfl, rfl, ?_, ?_⟩, ?_⟩
  · exact List.forall₂_map_left_iff.mpr
      (List.forall₂_same.mpr fun instruction _ => records_ofInstruction instruction)
  · intro descriptions compiled
    have related := Batch.compileFrom_eq_ok_iff.mp compiled
    clear read compiled
    induction related with
    | nil => exact .nil
    | cons compilesTo _ inductionHypothesis =>
        exact .cons (keepsField_of_compilesTo compilesTo) inductionHypothesis
  · intro otherName other others otherAccepted
    have otherRead := contents?_tokenText (legible_of_ofText otherAccepted) (templates others)
    constructor
    · intro same
      rw [same, otherRead] at read
      injection read with same
      injection same with tableEq _ entriesEq _
      refine ⟨tableEq.symm, ?_⟩
      exact (map_eq_map_iff_forall₂.mp entriesEq.symm).imp
        fun _ _ => ofInstruction_eq_ofInstruction_iff.mp
    · rintro ⟨rfl, agree⟩
      have sameTemplates := map_eq_map_iff_forall₂.mpr
        (agree.imp fun _ _ => ofInstruction_eq_ofInstruction_iff.mpr)
      rw [templates, templates, sameTemplates]

/-- A well spelled identifier that is no keyword, or is marked as none, is accepted as written. -/
theorem ofText_text
    {table : Identifier}
    (wellSpelled : (identifierToken table).WellSpelled)
    (allowed : table.raw = true ∨ table.name ∉ Identifier.keywords) :
    Identifier.ofText table.text = .ok table := by
  have written : table.text = print [identifierToken table] := by
    simp [print, pieces, Token.text, identifierToken, Identifier.text]
  have legible : Legible [identifierToken table] := .of_wellSpelled wellSpelled
  rw [written, Identifier.ofText, legible.tokens?_print]
  simp only [identifierToken, Identifier.ofTokens]
  rw [if_neg, List.isEmpty_nil, if_pos rfl]
  simpa [imp_iff_not_or] using allowed

/-- A word that is no keyword is accepted. -/
theorem ofText_of_isWord
    {name : String}
    (word : IsWord name.toList)
    (allowed : name ∉ Identifier.keywords) :
    Identifier.ofText name = .ok { raw := false, name := name } := by
  have accepted : Identifier.ofText (Identifier.text { raw := false, name := name }) = _ :=
    ofText_text ⟨word, by simp⟩ (.inr allowed)
  exact accepted

/--
A keyword marked as none names a table whose entry has quotes, a NUL in front of a digit, a mark
that combines with its neighbour and the tokens of the next part in its strings, and a field whose
bounds are cut; the text is the same if they are cut before.
-/
theorem contents?_tokenText_templates_of_quotes :
    let table : Identifier := { raw := true, name := "static" }
    let instruction (start length : BitVec 32) : Instruction :=
      { name := "\" , arch : \"\\"
        opcode := 0xFFFFFFFF
        mask := 0
        fields := [{ name := "\x007e\u0301", start := start, length := length }] }
    Identifier.ofText "r#static" = .ok table ∧
    (∃ contents,
      contents? (tokenText table (templates [instruction 300 256])) = some contents ∧
      contents.registered = table ∧ contents.declared = 1 ∧
      contents.entries.map Template.name = ["\" , arch : \"\\"]) ∧
    tokenText table (templates [instruction 300 256]) =
      tokenText table (templates [instruction 44 0]) := by
  intro table instruction
  have written : "r#static" = table.text := by decide
  have accepted : Identifier.ofText table.text = .ok table :=
    ofText_text ⟨{ begins := by decide, continues := by decide }, fun _ => by decide⟩ (.inl rfl)
  rw [← written] at accepted
  obtain ⟨⟨contents, read, -, registered, declared, records, -⟩, agree⟩ :=
    contents?_tokenText_templates accepted [instruction 300 256]
  refine ⟨accepted, ⟨contents, read, registered, ?_, ?_⟩, ?_⟩
  · rw [declared, records.length_eq]
    rfl
  · obtain ⟨entry, _, record, rest, same⟩ := List.forall₂_cons_right_iff.mp records
    rw [List.forall₂_nil_right_iff] at rest
    rw [same, rest]
    exact congrArg (fun name => [name]) record.name
  · exact (agree "r#static" table [instruction 44 0] accepted).mpr
      ⟨rfl, .cons ⟨rfl, rfl, rfl, rfl, rfl, rfl, .cons ⟨rfl, rfl, rfl⟩ .nil⟩ .nil⟩

end Listing
end InstructionTable
