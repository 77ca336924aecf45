import InstructionTable.Proofs.Template.Compiled

/-!
# Runs of writes

A word is mutated by writing numbers into fields of its template, one after the other, in any order
and as often as one likes.  A run never leaves the template: fixed and free bits stay, and every
field holds the last number written into it.  So only the order of the writes to one and the same
field matters.
-/

namespace InstructionTable
namespace Template

/-- A write: the position of a field, and the number for it. -/
abbrev Write (template : Template) :=
  Fin template.fields.length × Word

/-- Write numbers into the fields of a word, one after the other. -/
def mutate
    (template : Template)
    (word : Word)
    (writes : List template.Write) :
    Except Overflow Word :=
  writes.foldlM (fun word write => template.fields[write.1].insert word write.2) word

variable {template : Template}

/-- The writes of a run that are for one field, in order. -/
def writesTo
    (index : Fin template.fields.length)
    (writes : List template.Write) :
    List template.Write :=
  writes.filter fun write => write.1 = index

/-- The last number that a run writes into a field. -/
def lastWritten?
    (index : Fin template.fields.length)
    (writes : List template.Write) :
    Option Word :=
  (writesTo index writes).getLast?.map Prod.snd

/-- The same writes in another order: those to each field are the same, and follow each other alike. -/
def Reorders (reordered writes : List template.Write) : Prop :=
  ∀ index, writesTo index reordered = writesTo index writes

@[simp] theorem lastWritten?_concat
    (index : Fin template.fields.length)
    (writes : List template.Write)
    (write : template.Write) :
    lastWritten? index (writes ++ [write]) =
      if write.1 = index then some write.2 else lastWritten? index writes := by
  unfold lastWritten? writesTo
  by_cases here : write.1 = index
  · simp [here]
  · simp [here]

/-- Runs with the same writes to each field have the same last numbers. -/
theorem Reorders.lastWritten?_eq
    {reordered writes : List template.Write}
    (reorders : Reorders reordered writes)
    (index : Fin template.fields.length) :
    lastWritten? index reordered = lastWritten? index writes := by
  rw [lastWritten?, reorders index, lastWritten?]

/-- A word after numbers are written into its fields. -/
def rewritten
    (word : Word)
    (writes : List template.Write) :
    Word :=
  writes.foldl (fun word write => template.fields[write.1].replaced word write.2) word

@[simp] theorem rewritten_concat
    (word : Word)
    (writes : List template.Write)
    (write : template.Write) :
    rewritten word (writes ++ [write]) =
      template.fields[write.1].replaced (rewritten word writes) write.2 := by
  simp [rewritten]

namespace Sound

/-- No run of writes fails. -/
theorem mutate_eq
    (sound : template.Sound)
    (word : Word)
    (writes : List template.Write) :
    template.mutate word writes = .ok (rewritten word writes) := by
  induction writes using List.reverseRecOn with
  | nil => rfl
  | append_singleton writes write inductionHypothesis =>
      have bounds := sound.bounds _ (getElem_mem_fields write.1)
      unfold mutate at inductionHypothesis ⊢
      rw [foldlM_concat_of_eq_ok inductionHypothesis, bounds.insert_eq, rewritten_concat]

/-- A run leaves the bits that no field covers alone. -/
theorem getLsbD_rewritten_of_not_covers
    (sound : template.Sound)
    {position : Nat}
    (uncovered : ∀ field ∈ template.fields, ¬field.Covers position)
    (word : Word)
    (writes : List template.Write) :
    (rewritten word writes).getLsbD position = word.getLsbD position := by
  induction writes using List.reverseRecOn with
  | nil => rfl
  | append_singleton writes write inductionHypothesis =>
      have member := getElem_mem_fields write.1
      rw [rewritten_concat, (sound.bounds _ member).getLsbD_replaced,
        if_neg (uncovered _ member), inductionHypothesis]

/-- After a run, a bit of a field is the one last written, or else the one it was. -/
theorem getLsbD_rewritten_of_covers
    (sound : template.Sound)
    {index : Fin template.fields.length}
    {position : Nat}
    (covered : (template.fields.get index).Covers position)
    (word : Word)
    (writes : List template.Write) :
    (rewritten word writes).getLsbD position =
      match lastWritten? index writes with
      | some value => value.getLsbD (position - (template.fields.get index).bottom)
      | none => word.getLsbD position := by
  induction writes using List.reverseRecOn with
  | nil => rfl
  | append_singleton writes write inductionHypothesis =>
      have bounds := sound.bounds _ (getElem_mem_fields write.1)
      rw [rewritten_concat, bounds.getLsbD_replaced, lastWritten?_concat]
      by_cases here : write.1 = index
      · subst here
        rw [if_pos rfl]
        exact if_pos covered
      · have uncovered : ¬template.fields[write.1].Covers position :=
          fun other => here (sound.eq_of_covers other covered)
        rw [if_neg uncovered, if_neg here, inductionHypothesis]

/-- A run keeps the fixed bits. -/
theorem matchesWord_rewritten
    (sound : template.Sound)
    {word : Word}
    (fits : template.matchesWord word = true)
    (writes : List template.Write) :
    template.matchesWord (rewritten word writes) = true := by
  rw [matchesWord_iff] at fits ⊢
  intro position
  rw [← fits position]
  cases fixed : template.mask.getLsbD position with
  | false => rw [Bool.and_false, Bool.and_false]
  | true => rw [sound.getLsbD_rewritten_of_not_covers (sound.not_covers_of_mask fixed)]

/-- A run keeps the free bits. -/
theorem rewritten_and_vacant
    (sound : template.Sound)
    (word : Word)
    (writes : List template.Write) :
    rewritten word writes &&& template.vacant = word &&& template.vacant := by
  apply BitVec.eq_of_getLsbD_eq
  intro position _
  rw [BitVec.getLsbD_and, BitVec.getLsbD_and]
  cases free : template.vacant.getLsbD position with
  | false => rw [Bool.and_false, Bool.and_false]
  | true =>
      have uncovered := ((getLsbD_vacant_iff sound.bounds position).mp free).2.2
      rw [sound.getLsbD_rewritten_of_not_covers uncovered]

/-- After a run, a field holds the last number written into it, cut to its length. -/
theorem toNat_content_rewritten
    (sound : template.Sound)
    {index : Fin template.fields.length}
    {writes : List template.Write}
    {value : Word}
    (written : lastWritten? index writes = some value)
    (word : Word) :
    ((template.fields.get index).content (rewritten word writes)).toNat =
      value.toNat % 2 ^ (template.fields.get index).length.toNat := by
  have member := List.get_mem template.fields index
  apply (sound.bounds _ member).toNat_content (sound.inside _ member)
  intro position covered
  rw [sound.getLsbD_rewritten_of_covers covered, written]

/-- After a run without writes to it, a field holds what it held. -/
theorem content_rewritten
    (sound : template.Sound)
    {index : Fin template.fields.length}
    {writes : List template.Write}
    (unwritten : lastWritten? index writes = none)
    (word : Word) :
    (template.fields.get index).content (rewritten word writes) =
      (template.fields.get index).content word := by
  apply (sound.bounds _ (List.get_mem template.fields index)).content_congr
  intro position covered
  rw [sound.getLsbD_rewritten_of_covers covered, unwritten]

/-- Only the order of the writes to one and the same field matters. -/
theorem rewritten_eq_of_reorders
    (sound : template.Sound)
    {reordered writes : List template.Write}
    (reorders : Reorders reordered writes)
    (word : Word) :
    rewritten word reordered = rewritten word writes := by
  apply BitVec.eq_of_getLsbD_eq
  intro position _
  rcases exists_covers_or_not_covers template.fields position with
    ⟨field, member, covers⟩ | uncovered
  · obtain ⟨index, inside, rfl⟩ := List.getElem_of_mem member
    have here : template.fields[(⟨index, inside⟩ : Fin template.fields.length)].Covers position :=
      covers
    rw [sound.getLsbD_rewritten_of_covers here, sound.getLsbD_rewritten_of_covers here,
      reorders.lastWritten?_eq]
  · rw [sound.getLsbD_rewritten_of_not_covers uncovered,
      sound.getLsbD_rewritten_of_not_covers uncovered]

end Sound

/--
Writing numbers into fields of a compiled template, as often and in whatever order, does not fail
and does not leave the template.  The word at the end has the fixed bits still and the free bits
that it had.  A field, by position, gives back the last number written into it modulo two to the
power of its length, and what it held when nothing was written into it.  Any other order of the
writes that keeps those to each field in order leads to the same word.
-/
theorem mutate_stays_in_template
    {description : Description}
    {instruction : Instruction}
    (compiled : Instruction.ofDescription description = .ok instruction)
    {word : Word}
    (fits : (ofInstruction instruction).matchesWord word = true)
    (writes : List (ofInstruction instruction).Write) :
    ∃ free reached,
      (ofInstruction instruction).freeBits = .ok free ∧
      (ofInstruction instruction).mutate word writes = .ok reached ∧
      (ofInstruction instruction).matchesWord reached = true ∧
      reached &&& free = word &&& free ∧
      (∀ index : Fin (ofInstruction instruction).fields.length, ∃ value,
        (ofInstruction instruction).fields[index].extract reached = .ok value ∧
        match lastWritten? index writes with
        | some number =>
            value.toNat =
              number.toNat % 2 ^ (ofInstruction instruction).fields[index].length.toNat
        | none => (ofInstruction instruction).fields[index].extract word = .ok value) ∧
      ∀ reordered, Reorders reordered writes →
        (ofInstruction instruction).mutate word reordered = .ok reached := by
  obtain ⟨segments, -, depicts⟩ := exists_depicts_of_ofDescription compiled
  have sound := depicts.sound
  refine ⟨_, _, freeBits_eq sound.bounds, sound.mutate_eq word writes,
    sound.matchesWord_rewritten fits writes, sound.rewritten_and_vacant word writes, ?_, ?_⟩
  · intro index
    have bounds := sound.bounds _ (getElem_mem_fields index)
    refine ⟨_, bounds.extract_eq _, ?_⟩
    cases written : lastWritten? index writes with
    | some number => exact sound.toNat_content_rewritten written word
    | none =>
        have kept := sound.content_rewritten written word
        exact (bounds.extract_eq word).trans (congrArg Except.ok kept.symm)
  · intro reordered reorders
    rw [sound.mutate_eq, sound.rewritten_eq_of_reorders reorders]

/-- Writes to two fields of one name, of which one is written twice and cut to its length. -/
theorem mutate_stays_in_template_of_interleaved_writes :
    ∃ instruction,
      Instruction.ofDescription ⟨"MOV", "101|(x):2|Rd:13|Rd:14", "", "", "", ""⟩ =
        .ok instruction ∧
      instruction.fields = [⟨"Rd", 26, 13⟩, ⟨"Rd", 13, 14⟩] ∧
      (ofInstruction instruction).matchesWord 0xB8000003 = true ∧
      ∃ (first second : Fin (ofInstruction instruction).fields.length) (reached : Word),
        first ≠ second ∧
        (ofInstruction instruction).mutate 0xB8000003 [(first, 5), (second, 7), (first, 0x2009)] =
          .ok reached ∧
        (ofInstruction instruction).matchesWord reached = true ∧
        (ofInstruction instruction).mutate 0xB8000003 [(first, 5), (first, 0x2009), (second, 7)] =
          .ok reached := by
  have compiled :
      Instruction.ofDescription ⟨"MOV", "101|(x):2|Rd:13|Rd:14", "", "", "", ""⟩ =
        .ok ⟨"MOV", 0xA0000000, 0xE0000000, [⟨"Rd", 26, 13⟩, ⟨"Rd", 13, 14⟩],
          false, "", "", "", ""⟩ := by
    rfl
  have fits : (ofInstruction ⟨"MOV", 0xA0000000, 0xE0000000, [⟨"Rd", 26, 13⟩, ⟨"Rd", 13, 14⟩],
      false, "", "", "", ""⟩).matchesWord 0xB8000003 = true := by
    decide
  let first : Fin (ofInstruction ⟨"MOV", 0xA0000000, 0xE0000000,
      [⟨"Rd", 26, 13⟩, ⟨"Rd", 13, 14⟩], false, "", "", "", ""⟩).fields.length := ⟨0, by decide⟩
  let second : Fin (ofInstruction ⟨"MOV", 0xA0000000, 0xE0000000,
      [⟨"Rd", 26, 13⟩, ⟨"Rd", 13, 14⟩], false, "", "", "", ""⟩).fields.length := ⟨1, by decide⟩
  obtain ⟨free, reached, -, run, kept, -, -, other⟩ :=
    mutate_stays_in_template compiled fits [(first, 5), (second, 7), (first, 0x2009)]
  have reorders : Reorders [(first, (5 : Word)), (first, 0x2009), (second, 7)]
      [(first, 5), (second, 7), (first, 0x2009)] := by
    unfold Reorders
    decide
  exact ⟨_, compiled, rfl, fits, first, second, reached, by decide, run, kept, other _ reorders⟩

end Template
end InstructionTable
