import InstructionTable.Proofs.Field.Bits
import InstructionTable.Template

/-!
# Words and the fields of a template

The operations of a template go through its fields one by one.  When every field is within its
bounds, no step fails, and what comes out is a plain word.  A bit of an encoded word comes from the
number asked for the field that covers it, or else from the opcode; a free bit is one that is
neither fixed nor covered.
-/

namespace InstructionTable
namespace Template

/-- A word after the numbers asked for are written into some fields. -/
def stamped
    (ask : Nat → Field 8 → Word) :
    Nat → Word → List (Field 8) → Word
  | _, word, [] => word
  | call, word, field :: rest =>
      stamped ask (call + 1) (field.replaced word (ask call field)) rest

/-- The bits that neither the mask nor a field takes. -/
def vacant (template : Template) : Word :=
  ~~~(template.mask ||| template.fields.foldl (fun bits field => bits ||| field.bits) 0)

/-- A bit is in one of several fields or in none of them. -/
theorem exists_covers_or_not_covers
    (fields : List (Field 8))
    (position : Nat) :
    (∃ field ∈ fields, field.Covers position) ∨ ∀ field ∈ fields, ¬field.Covers position := by
  by_cases covered : ∃ field ∈ fields, field.Covers position
  · exact Or.inl covered
  · exact Or.inr fun field member covers => covered ⟨field, member, covers⟩

/-- Writing into fields within their bounds does not fail. -/
theorem encodeFields_eq
    {ask : Nat → Field 8 → Word}
    {fields : List (Field 8)}
    (bounds : ∀ field ∈ fields, field.InBounds)
    (call : Nat)
    (word : Word) :
    encodeFields ask call word fields = .ok (stamped ask call word fields) := by
  induction fields generalizing call word with
  | nil => rfl
  | cons field rest inductionHypothesis =>
      unfold encodeFields
      rw [(bounds field List.mem_cons_self).insert_eq]
      exact inductionHypothesis
        (fun other member => bounds other (List.mem_cons_of_mem field member)) _ _

/-- Writing into fields leaves the bits that none of them covers alone. -/
theorem getLsbD_stamped_of_not_covers
    {ask : Nat → Field 8 → Word}
    {fields : List (Field 8)}
    (bounds : ∀ field ∈ fields, field.InBounds)
    {position : Nat}
    (uncovered : ∀ field ∈ fields, ¬field.Covers position)
    (call : Nat)
    (word : Word) :
    (stamped ask call word fields).getLsbD position = word.getLsbD position := by
  induction fields generalizing call word with
  | nil => rfl
  | cons field rest inductionHypothesis =>
      unfold stamped
      rw [inductionHypothesis
          (fun other member => bounds other (List.mem_cons_of_mem field member))
          (fun other member => uncovered other (List.mem_cons_of_mem field member)),
        (bounds field List.mem_cons_self).getLsbD_replaced,
        if_neg (uncovered field List.mem_cons_self)]

/-- A number written into one of several fields apart from each other outlasts the later ones. -/
theorem getLsbD_stamped_of_covers
    {ask : Nat → Field 8 → Word}
    {fields : List (Field 8)}
    (bounds : ∀ field ∈ fields, field.InBounds)
    (apart : fields.Pairwise Field.Apart)
    {index : Nat}
    {field : Field 8}
    (found : fields[index]? = some field)
    {position : Nat}
    (covered : field.Covers position)
    (call : Nat)
    (word : Word) :
    (stamped ask call word fields).getLsbD position =
      (ask (call + index) field).getLsbD (position - field.bottom) := by
  induction fields generalizing index call word with
  | nil => simp at found
  | cons first rest inductionHypothesis =>
      have restBounds (other : Field 8) (member : other ∈ rest) : other.InBounds :=
        bounds other (List.mem_cons_of_mem first member)
      obtain ⟨firstApart, restApart⟩ := List.pairwise_cons.mp apart
      unfold stamped
      cases index with
      | zero =>
          rw [List.getElem?_cons_zero] at found
          injection found with equal
          subst equal
          -- the fields behind the first cannot reach this bit any more
          have uncovered (other : Field 8) (member : other ∈ rest) : ¬other.Covers position :=
            firstApart other member position covered
          rw [getLsbD_stamped_of_not_covers restBounds uncovered,
            (bounds first List.mem_cons_self).getLsbD_replaced, if_pos covered, Nat.add_zero]
      | succ index =>
          rw [List.getElem?_cons_succ] at found
          rw [inductionHypothesis restBounds restApart found, Nat.add_right_comm, Nat.add_assoc]

/-- Of the fields that cover a bit, the last one decides it. -/
theorem exists_getLsbD_stamped_of_covers
    {fields : List (Field 8)}
    (bounds : ∀ field ∈ fields, field.InBounds)
    {position : Nat}
    (covered : ∃ field ∈ fields, field.Covers position) :
    ∃ (index : Nat) (last : Field 8), fields[index]? = some last ∧ last.Covers position ∧
      ∀ ask call word, (stamped ask call word fields).getLsbD position =
        (ask (call + index) last).getLsbD (position - last.bottom) := by
  induction fields with
  | nil => simp at covered
  | cons first rest inductionHypothesis =>
      have restBounds (other : Field 8) (member : other ∈ rest) : other.InBounds :=
        bounds other (List.mem_cons_of_mem first member)
      by_cases later : ∃ field ∈ rest, field.Covers position
      · obtain ⟨index, last, found, covers, decides⟩ := inductionHypothesis restBounds later
        refine ⟨index + 1, last, by rwa [List.getElem?_cons_succ], covers, ?_⟩
        intro ask call word
        unfold stamped
        rw [decides, Nat.add_assoc, Nat.add_comm 1]
      · obtain ⟨field, member, covers⟩ := covered
        have uncovered (other : Field 8) (otherMember : other ∈ rest) : ¬other.Covers position :=
          fun otherCovers => later ⟨other, otherMember, otherCovers⟩
        have same : field = first :=
          (List.mem_cons.mp member).resolve_right fun behind => uncovered field behind covers
        subst same
        refine ⟨0, field, rfl, covers, ?_⟩
        intro ask call word
        unfold stamped
        rw [getLsbD_stamped_of_not_covers restBounds uncovered,
          (bounds field List.mem_cons_self).getLsbD_replaced, if_pos covers, Nat.add_zero]

/-- Collecting the places of fields within their bounds does not fail. -/
theorem foldlM_mask_eq
    {fields : List (Field 8)}
    (bounds : ∀ field ∈ fields, field.InBounds)
    (start : Word) :
    fields.foldlM (fun bits field => (bits ||| ·) <$> field.mask) start =
      .ok (fields.foldl (fun bits field => bits ||| field.bits) start) := by
  induction fields generalizing start with
  | nil => rfl
  | cons field rest inductionHypothesis =>
      rw [List.foldlM_cons, (bounds field List.mem_cons_self).mask_eq, List.foldl_cons]
      exact inductionHypothesis
        (fun other member => bounds other (List.mem_cons_of_mem field member)) _

/-- The free bits of a template whose fields are within their bounds. -/
theorem freeBits_eq
    {template : Template}
    (bounds : ∀ field ∈ template.fields, field.InBounds) :
    template.freeBits = .ok template.vacant := by
  unfold freeBits fieldBits
  rw [foldlM_mask_eq bounds]
  rfl

/-- The collected places are those that some field covers. -/
theorem getLsbD_foldl_bits
    {fields : List (Field 8)}
    (bounds : ∀ field ∈ fields, field.InBounds)
    (start : Word)
    (position : Nat) :
    (fields.foldl (fun bits field => bits ||| field.bits) start).getLsbD position =
      (start.getLsbD position || fields.any fun field => decide (field.Covers position)) := by
  induction fields generalizing start with
  | nil => simp
  | cons field rest inductionHypothesis =>
      rw [List.foldl_cons,
        inductionHypothesis fun other member => bounds other (List.mem_cons_of_mem field member),
        BitVec.getLsbD_or, (bounds field List.mem_cons_self).getLsbD_bits, List.any_cons,
        Bool.or_assoc]

/-- A bit is free when it is neither fixed nor covered by a field. -/
theorem getLsbD_vacant_iff
    {template : Template}
    (bounds : ∀ field ∈ template.fields, field.InBounds)
    (position : Nat) :
    template.vacant.getLsbD position = true ↔
      position < wordBits ∧ template.mask.getLsbD position = false ∧
        ∀ field ∈ template.fields, ¬field.Covers position := by
  unfold vacant
  rw [BitVec.getLsbD_not, BitVec.getLsbD_or, getLsbD_foldl_bits bounds]
  simp

theorem getLsbD_vacant_of_covers
    {template : Template}
    (bounds : ∀ field ∈ template.fields, field.InBounds)
    {field : Field 8}
    (member : field ∈ template.fields)
    {position : Nat}
    (covered : field.Covers position) :
    template.vacant.getLsbD position = false := by
  apply Bool.eq_false_iff.mpr
  intro set
  exact ((getLsbD_vacant_iff bounds position).mp set).2.2 field member covered

theorem getLsbD_vacant_of_mask
    {template : Template}
    (bounds : ∀ field ∈ template.fields, field.InBounds)
    {position : Nat}
    (fixed : template.mask.getLsbD position = true) :
    template.vacant.getLsbD position = false := by
  apply Bool.eq_false_iff.mpr
  intro set
  rw [((getLsbD_vacant_iff bounds position).mp set).2.1] at fixed
  contradiction

/-- A word has the fixed bits of a template when it agrees with the opcode under the mask. -/
theorem matchesWord_iff
    {template : Template}
    {word : Word} :
    template.matchesWord word = true ↔
      ∀ position, (word.getLsbD position && template.mask.getLsbD position) =
        template.opcode.getLsbD position := by
  unfold matchesWord
  rw [beq_iff_eq]
  constructor
  · intro equal position
    rw [← equal, BitVec.getLsbD_and]
  · intro agree
    apply BitVec.eq_of_getLsbD_eq
    intro position _
    rw [BitVec.getLsbD_and, agree]

/-- A word has the fixed bits when the opcode has no others and no field covers any of them. -/
theorem matchesWord_stamped
    {template : Template}
    {ask : Nat → Field 8 → Word}
    (bounds : ∀ field ∈ template.fields, field.InBounds)
    (opcode : ∀ position, template.opcode.getLsbD position = true →
      template.mask.getLsbD position = true)
    (clear : ∀ position, template.mask.getLsbD position = true →
      ∀ field ∈ template.fields, ¬field.Covers position) :
    template.matchesWord (stamped ask 0 template.opcode template.fields) = true := by
  rw [matchesWord_iff]
  intro position
  cases fixed : template.mask.getLsbD position with
  | true => rw [getLsbD_stamped_of_not_covers bounds (clear position fixed), Bool.and_true]
  | false =>
      rw [Bool.and_false]
      exact (Bool.eq_false_iff.mpr fun set => Bool.eq_false_iff.mp fixed (opcode position set)).symm

/-- What holds of the fixed bits and the fields of a template that was compiled. -/
structure Sound (template : Template) : Prop where
  /-- The opcode has no bit outside the mask. -/
  opcode : ∀ position, template.opcode.getLsbD position = true →
    template.mask.getLsbD position = true
  /-- No mask of a field fails. -/
  bounds : ∀ field ∈ template.fields, field.InBounds
  /-- Fields do not reach above the word. -/
  inside : ∀ field ∈ template.fields, field.start.toNat < wordBits
  /-- No bit is in two fields. -/
  apart : template.fields.Pairwise Field.Apart
  /-- No bit of a field is fixed. -/
  clear : ∀ field ∈ template.fields, ∀ position, field.Covers position →
    template.mask.getLsbD position = false

theorem getElem_mem_fields
    {template : Template}
    (index : Fin template.fields.length) :
    template.fields[index] ∈ template.fields :=
  List.getElem_mem index.isLt

namespace Sound

variable {template : Template}

/-- Fields at different positions have no bit in common. -/
theorem eq_of_covers
    (sound : template.Sound)
    {left right : Fin template.fields.length}
    {position : Nat}
    (leftCovers : template.fields[left].Covers position)
    (rightCovers : template.fields[right].Covers position) :
    left = right := by
  have apart := List.pairwise_iff_getElem.mp sound.apart
  rcases Nat.lt_trichotomy left right with before | same | behind
  · exact absurd rightCovers (apart left right left.isLt right.isLt before position leftCovers)
  · exact Fin.ext same
  · exact absurd leftCovers (apart right left right.isLt left.isLt behind position rightCovers)

theorem not_covers_of_mask
    (sound : template.Sound)
    {position : Nat}
    (fixed : template.mask.getLsbD position = true) :
    ∀ field ∈ template.fields, ¬field.Covers position := by
  intro field member covered
  rw [sound.clear field member position covered] at fixed
  contradiction

end Sound
end Template
end InstructionTable
