import InstructionTable.Proofs.Arithmetic
import InstructionTable.Proofs.Except
import InstructionTable.Proofs.Layout.Placement

/-!
# The walk over a row of segments

The walk keeps two accumulators, a cursor and a list of fields.  After any part of a row, each
accumulator holds the bits of that part where they will lie in the word, moved down by the bits that
are still to come.  The walk stops at the first segment that stands in its way: a literal that is
too large for its width, or an operand below the lowest bit of the word.
-/

namespace InstructionTable
open Pattern

/-- What stands in the way of laying out a segment in its place. -/
def Placement.obstacle? (placement : Placement) : Option Failure :=
  match placement.segment.kind with
  | .ignored => none
  | .literal value =>
      if value.toNat < 2 ^ placement.width then
        none
      else
        some (.refused (.malformedSegment placement.segment.pattern .literalTooWide))
  | .operand _ =>
      if placement.above < wordBits then none else some (.overflow .subtract)

/-- What is wrong with a literal that is too large for its width. -/
def Segment.misfit? (segment : Segment) : Option Failure :=
  match segment.kind with
  | .literal value =>
      if value.toNat < 2 ^ segment.width.toNat then
        none
      else
        some (.refused (.malformedSegment segment.pattern .literalTooWide))
  | .ignored | .operand _ => none

/-- Above the end of the word only a literal can be in the way. -/
theorem Placement.obstacle?_of_above_lt
    {placement : Placement}
    (inside : placement.segment.isOperand = true → placement.above < wordBits) :
    placement.obstacle? = placement.segment.misfit? := by
  unfold Segment.isOperand at inside
  unfold Placement.obstacle? Segment.misfit?
  cases kind : placement.segment.kind with
  | ignored => rfl
  | literal value => rfl
  | operand name => exact if_pos (inside (by rw [kind]))

/-- When no operand is empty, only a literal can be in the way of a row that a word can hold. -/
theorem findSome?_obstacle?_eq
    {segments : List Segment}
    (room : bitCount segments ≤ wordBits)
    (positive : ∀ segment ∈ segments, segment.isOperand = true → 0 < segment.width.toNat) :
    (placements segments).findSome? Placement.obstacle? =
      segments.findSome? Segment.misfit? := by
  have same : (placements segments).findSome? Placement.obstacle? =
      (placements segments).findSome? (Segment.misfit? ∘ Placement.segment) := by
    apply findSome?_congr
    intro placement member
    apply Placement.obstacle?_of_above_lt
    intro operand
    have ends := above_add_width_le_bitCount member
    have width : 0 < placement.width :=
      positive placement.segment (segment_mem_of_mem_placements member) operand
    omega
  rw [same, ← List.findSome?_map, map_segment_placements]

namespace Encoding

/-- The bit of a row at a position of the word, when each segment makes bits of its own. -/
def rowBit
    (bit : Segment → Nat → Bool)
    (segments : List Segment)
    (position : Nat) : Bool :=
  (placements segments).any fun placement =>
    decide (placement.Covers position) &&
      bit placement.segment (position - placement.lowest)

/-- The bit of a row is made by the segment in whose place it lies. -/
theorem rowBit_of_covers
    {bit : Segment → Nat → Bool}
    {segments : List Segment}
    {placement : Placement}
    (member : placement ∈ placements segments)
    {position : Nat}
    (covered : placement.Covers position) :
    rowBit bit segments position =
      bit placement.segment (position - placement.lowest) := by
  apply Bool.eq_iff_iff.mpr
  simp only [rowBit, List.any_eq_true, Bool.and_eq_true, decide_eq_true_eq]
  constructor
  · rintro ⟨other, otherMember, otherCovered, set⟩
    rw [eq_of_covers member otherMember covered otherCovered]
    exact set
  · intro set
    exact ⟨placement, member, covered, set⟩

theorem rowBit_of_wordBits_le
    {bit : Segment → Nat → Bool}
    {segments : List Segment}
    {position : Nat}
    (outside : wordBits ≤ position) :
    rowBit bit segments position = false := by
  simp only [rowBit, List.any_eq_false, Bool.and_eq_true, decide_eq_true_eq]
  rintro placement - ⟨covered, -⟩
  exact Nat.not_lt.mpr outside covered.lt_wordBits

/-- A row has no bits below its end. -/
theorem rowBit_of_lt_wordBits
    {bit : Segment → Nat → Bool}
    {segments : List Segment}
    {position : Nat}
    (below : position + bitCount segments < wordBits) :
    rowBit bit segments position = false := by
  simp only [rowBit, List.any_eq_false, Bool.and_eq_true, decide_eq_true_eq]
  rintro placement member ⟨covered, -⟩
  have ends := above_add_width_le_bitCount member
  unfold Placement.Covers at covered
  omega

/-- An accumulator holds the bits of a row, moved down by the bits that are still to come. -/
def Holds
    (bit : Segment → Nat → Bool)
    (segments : List Segment)
    (accumulator : BitVec 64) : Prop :=
  ∀ offset, accumulator.getLsbD offset =
    rowBit bit segments (offset + (wordBits - bitCount segments))

/-- Moving an accumulator up and letting a segment's bits in makes it hold one segment more. -/
theorem Holds.concat
    {bit : Segment → Nat → Bool}
    {segments : List Segment}
    {accumulator part : BitVec 64}
    {segment : Segment}
    (held : Holds bit segments accumulator)
    (room : bitCount segments + segment.width.toNat ≤ wordBits)
    (makes : ∀ offset, part.getLsbD offset =
      (decide (offset < segment.width.toNat) && bit segment offset)) :
    Holds bit (segments ++ [segment])
      ((accumulator <<< segment.width.toNat) ||| part) := by
  have wordBits_eq : wordBits = 32 := rfl
  intro offset
  have last (position : Nat) :
      rowBit bit (segments ++ [segment]) position =
        (rowBit bit segments position ||
          (decide (Placement.Covers ⟨bitCount segments, segment⟩ position) &&
            bit segment (position - Placement.lowest ⟨bitCount segments, segment⟩))) := by
    simp [rowBit]
  have clear (position : Nat) (above : segment.width.toNat ≤ position) :
      part.getLsbD position = false := by
    rw [makes, decide_eq_false (by omega), Bool.false_and]
  simp only [bitCount_append, bitCount_cons, bitCount_nil, Nat.add_zero]
  by_cases inside : offset < 64
  · rw [getLsbD_shiftLeft_or clear inside, last]
    by_cases low : offset < segment.width.toNat
    · have covered : Placement.Covers ⟨bitCount segments, segment⟩
          (offset + (wordBits - (bitCount segments + segment.width.toNat))) := by
        simp only [Placement.Covers, Placement.width]
        omega
      rw [if_pos low, makes, rowBit_of_lt_wordBits (by omega), decide_eq_true low,
        decide_eq_true covered]
      simp [Placement.lowest]
    · have uncovered : ¬Placement.Covers ⟨bitCount segments, segment⟩
          (offset + (wordBits - (bitCount segments + segment.width.toNat))) := by
        simp only [Placement.Covers, Placement.width]
        omega
      rw [if_neg low, held, decide_eq_false uncovered, Bool.false_and, Bool.or_false]
      congr 1
      omega
  · rw [BitVec.getLsbD_of_ge _ _ (by omega), rowBit_of_wordBits_le (by omega)]

/-- The operands of a row as fields, from the top of the word downwards. -/
def operandFields (segments : List Segment) : List (Field 32) :=
  ((placements segments).filter fun placement => placement.segment.isOperand).map
    Placement.field

/-- What the walk knows once a row is laid out. -/
structure LaidOut
    (segments : List Segment)
    (progress : Progress) : Prop where
  /-- The cursor counts the bits of the row. -/
  consumed : progress.consumed.toNat = bitCount segments
  /-- One accumulator holds the values of the fixed bits. -/
  opcode : Holds Segment.fixedBit segments progress.opcode
  /-- The other holds their places. -/
  mask : Holds (fun segment _ => segment.isLiteral) segments progress.mask
  /-- Every operand has become a field. -/
  fields : progress.fields = operandFields segments

theorem laidOut_nil : LaidOut [] {} where
  consumed := rfl
  opcode := by
    intro offset
    simp [rowBit]
  mask := by
    intro offset
    simp [rowBit]
  fields := rfl

/-- A literal leaves something behind its width exactly when it is too large for it. -/
theorem setWidth_ushiftRight_eq_zero_iff
    (value : BitVec 32)
    (width : Nat) :
    value.setWidth 64 >>> width = 0 ↔ value.toNat < 2 ^ width := by
  have small : value.toNat < 2 ^ 64 := Nat.lt_trans value.isLt (by decide)
  have quotient : (value.setWidth 64 >>> width).toNat = value.toNat / 2 ^ width := by
    rw [BitVec.toNat_ushiftRight, BitVec.toNat_setWidth, Nat.mod_eq_of_lt small,
      Nat.shiftRight_eq_div_pow]
  rw [← BitVec.toNat_inj, quotient]
  change value.toNat / 2 ^ width = 0 ↔ _
  rw [Nat.div_eq_zero_iff]
  have positive : 0 < 2 ^ width := Nat.two_pow_pos width
  omega

/-- A literal that fits its width brings its bits and a row of ones; any other is refused. -/
theorem contribution_literal
    {consumed : BitVec 32}
    {segment : Segment}
    {value : BitVec 32}
    (kind : segment.kind = .literal value)
    (narrow : segment.width.toNat ≤ wordBits) :
    contribution consumed segment =
      if value.toNat < 2 ^ segment.width.toNat then
        .ok (value.setWidth 64, ((1 : BitVec 64) <<< segment.width.toNat) - 1, [])
      else
        .error (.refused (.malformedSegment segment.pattern .literalTooWide)) := by
  have wordBits_eq : wordBits = 32 := rfl
  have small : segment.width.toNat < 64 := by omega
  simp only [contribution, kind, shiftRightChecked_of_lt small, shiftLeftChecked_of_lt small]
  change (if value.setWidth 64 >>> segment.width.toNat ≠ 0 then _ else _) = _
  by_cases fits : value.toNat < 2 ^ segment.width.toNat
  · have nothingAbove := (setWidth_ushiftRight_eq_zero_iff value segment.width.toNat).mpr fits
    rw [if_neg (not_not_intro nothingAbove), if_pos fits]
    rfl
  · have above : value.setWidth 64 >>> segment.width.toNat ≠ 0 := by
      rw [Ne, setWidth_ushiftRight_eq_zero_iff]
      exact fits
    rw [if_pos above, if_neg fits]

/-- An operand above the end of the word brings its field; any other has no highest bit. -/
theorem contribution_operand
    {consumed : BitVec 32}
    {segment : Segment}
    {name : String}
    (kind : segment.kind = .operand name) :
    contribution consumed segment =
      if consumed.toNat < wordBits then
        .ok (0, 0, [Placement.field ⟨consumed.toNat, segment⟩])
      else
        .error (.overflow .subtract) := by
  have top : (BitVec.ofNat 32 (wordBits - 1)).toNat = wordBits - 1 := rfl
  have positive : 0 < wordBits := by decide
  simp only [contribution, kind]
  by_cases inside : consumed.toNat < wordBits
  · have enough : consumed.toNat ≤ (BitVec.ofNat 32 (wordBits - 1)).toNat := by omega
    have start : BitVec.ofNat 32 (wordBits - 1) - consumed =
        BitVec.ofNat 32 (wordBits - 1 - consumed.toNat) := by
      apply BitVec.eq_of_toNat_eq
      rw [BitVec.toNat_sub_of_le (BitVec.le_def.mpr enough), top, BitVec.toNat_ofNat,
        Nat.mod_eq_of_lt (Nat.lt_of_le_of_lt (Nat.sub_le _ _) (by decide))]
    rw [subtractChecked_of_le enough, start, if_pos inside, Placement.field,
      Segment.pattern_eq_of_kind_eq_operand kind]
    rfl
  · rw [subtractChecked_of_lt (by omega), if_neg inside]
    rfl

/-- The segment that stands in the way is reported. -/
theorem contribution_of_obstacle
    {consumed : BitVec 32}
    {segment : Segment}
    {failure : Failure}
    (narrow : segment.width.toNat ≤ wordBits)
    (found : Placement.obstacle? ⟨consumed.toNat, segment⟩ = some failure) :
    contribution consumed segment = .error failure := by
  unfold Placement.obstacle? at found
  cases kind : segment.kind with
  | ignored => simp [kind] at found
  | literal value =>
      simp only [kind, Option.ite_none_left_eq_some] at found
      obtain ⟨tooLarge, reported⟩ := found
      rw [contribution_literal kind narrow, if_neg tooLarge]
      exact congrArg Except.error (Option.some.inj reported)
  | operand name =>
      simp only [kind, Option.ite_none_left_eq_some] at found
      obtain ⟨below, reported⟩ := found
      rw [contribution_operand kind, if_neg below]
      exact congrArg Except.error (Option.some.inj reported)

/-- A number that fits some width has no bits above it. -/
theorem getLsbD_setWidth_of_lt
    {value : BitVec 32}
    {width : Nat}
    (fits : value.toNat < 2 ^ width)
    (small : width < 64)
    (offset : Nat) :
    (value.setWidth 64).getLsbD offset = (decide (offset < width) && value.getLsbD offset) := by
  rw [BitVec.getLsbD_setWidth]
  by_cases low : offset < width
  · simp [low, Nat.lt_trans low small]
  · have large : value.toNat < 2 ^ offset :=
      Nat.lt_of_lt_of_le fits (Nat.pow_le_pow_right (by decide) (Nat.not_lt.mp low))
    rw [← BitVec.testBit_toNat, Nat.testBit_lt_two_pow large, Bool.and_false, Bool.and_false]

/-- A segment that can be laid out brings its own bits, their places, and its operand. -/
theorem exists_contribution
    {consumed : BitVec 32}
    {segment : Segment}
    (narrow : segment.width.toNat ≤ wordBits)
    (clear : Placement.obstacle? ⟨consumed.toNat, segment⟩ = none) :
    ∃ value places,
      contribution consumed segment = .ok (value, places,
        if segment.isOperand then [Placement.field ⟨consumed.toNat, segment⟩] else []) ∧
      (∀ offset, value.getLsbD offset =
        (decide (offset < segment.width.toNat) && segment.fixedBit offset)) ∧
      (∀ offset, places.getLsbD offset =
        (decide (offset < segment.width.toNat) && segment.isLiteral)) := by
  have wordBits_eq : wordBits = 32 := rfl
  have small : segment.width.toNat < 64 := by omega
  unfold Placement.obstacle? at clear
  cases kind : segment.kind with
  | ignored =>
      refine ⟨0, 0, ?_, ?_, ?_⟩
      · simp [contribution, Segment.isOperand, kind]
      · simp [Segment.fixedBit, kind]
      · simp [Segment.isLiteral, kind]
  | literal value =>
      have fits : value.toNat < 2 ^ segment.width.toNat := by
        by_contra tooWide
        simp [kind, tooWide] at clear
      refine ⟨value.setWidth 64, ((1 : BitVec 64) <<< segment.width.toNat) - 1, ?_, ?_, ?_⟩
      · rw [contribution_literal kind narrow, if_pos fits]
        simp [Segment.isOperand, kind]
      · simpa [Segment.fixedBit, kind] using getLsbD_setWidth_of_lt fits small
      · simpa [Segment.isLiteral, kind] using getLsbD_one_shiftLeft_sub_one small
  | operand name =>
      have inside : consumed.toNat < wordBits := by
        by_contra below
        simp [kind, below] at clear
      refine ⟨0, 0, ?_, ?_, ?_⟩
      · rw [contribution_operand kind, if_pos inside]
        simp [Segment.isOperand, kind]
      · simp [Segment.fixedBit, kind]
      · simp [Segment.isLiteral, kind]

/-- A segment in the way ends the walk. -/
theorem step_of_obstacle
    {progress : Progress}
    {segment : Segment}
    {failure : Failure}
    (narrow : segment.width.toNat ≤ wordBits)
    (found : Placement.obstacle? ⟨progress.consumed.toNat, segment⟩ = some failure) :
    progress.step segment = .error failure := by
  unfold Progress.step
  rw [contribution_of_obstacle narrow found]
  rfl

/-- A segment that is not in the way is laid out behind the others. -/
theorem LaidOut.step
    {segments : List Segment}
    {progress : Progress}
    {segment : Segment}
    (laid : LaidOut segments progress)
    (room : bitCount segments + segment.width.toNat ≤ wordBits)
    (clear : Placement.obstacle? ⟨bitCount segments, segment⟩ = none) :
    ∃ next, progress.step segment = .ok next ∧ LaidOut (segments ++ [segment]) next := by
  have wordBits_eq : wordBits = 32 := rfl
  rw [← laid.consumed] at clear
  obtain ⟨value, places, contributed, valueBits, placesBits⟩ :=
    exists_contribution (by omega) clear
  have small : segment.width.toNat < 64 := by omega
  have fits : progress.consumed.toNat + segment.width.toNat < 2 ^ 32 := by
    rw [laid.consumed]
    omega
  refine ⟨
    { opcode := (progress.opcode <<< segment.width.toNat) ||| value
      mask := (progress.mask <<< segment.width.toNat) ||| places
      consumed := progress.consumed + segment.width
      fields := progress.fields ++
        if segment.isOperand then [Placement.field ⟨progress.consumed.toNat, segment⟩] else [] },
    ?_,
    { consumed := ?_
      opcode := laid.opcode.concat room valueBits
      mask := laid.mask.concat room placesBits
      fields := ?_ }⟩
  · unfold Progress.step
    rw [contributed]
    simp only [shiftLeftChecked_of_lt small, addChecked_of_lt fits]
    rfl
  · rw [BitVec.toNat_add_of_lt fits, laid.consumed]
    simp
  · rw [laid.fields, laid.consumed]
    cases operand : segment.isOperand with
    | true => simp [operandFields, operand]
    | false => simp [operandFields, operand]

/-- A walk with nothing in its way lays out the whole row. -/
theorem exists_laidOut
    {segments : List Segment}
    (room : bitCount segments ≤ wordBits)
    (clear : (placements segments).findSome? Placement.obstacle? = none) :
    ∃ progress, segments.foldlM Progress.step {} = .ok progress ∧ LaidOut segments progress := by
  induction segments using List.reverseRecOn with
  | nil => exact ⟨{}, rfl, laidOut_nil⟩
  | append_singleton segments segment inductionHypothesis =>
      simp only [bitCount_append, bitCount_cons, bitCount_nil, Nat.add_zero] at room
      rw [placements_concat, List.findSome?_append, Option.or_eq_none_iff] at clear
      obtain ⟨formerClear, lastClear⟩ := clear
      obtain ⟨progress, walked, laid⟩ := inductionHypothesis (by omega) formerClear
      obtain ⟨next, stepped, nextLaid⟩ := laid.step room (by simpa using lastClear)
      refine ⟨next, ?_, nextLaid⟩
      rw [foldlM_concat_of_eq_ok walked, stepped]

/-- The walk reports the first segment in its way. -/
theorem foldlM_step_of_obstacle
    {segments : List Segment}
    {failure : Failure}
    (room : bitCount segments ≤ wordBits)
    (found : (placements segments).findSome? Placement.obstacle? = some failure) :
    segments.foldlM Progress.step {} = .error failure := by
  induction segments using List.reverseRecOn with
  | nil => simp at found
  | append_singleton segments segment inductionHypothesis =>
      simp only [bitCount_append, bitCount_cons, bitCount_nil, Nat.add_zero] at room
      rw [placements_concat, List.findSome?_append] at found
      cases former : (placements segments).findSome? Placement.obstacle? with
      | some earlier =>
          rw [former, Option.some_or] at found
          exact foldlM_concat_of_eq_error
            (inductionHypothesis (by omega) (former.trans found)) segment
      | none =>
          rw [former, Option.none_or] at found
          obtain ⟨progress, walked, laid⟩ := exists_laidOut (by omega) former
          have blocked : Placement.obstacle? ⟨progress.consumed.toNat, segment⟩ = some failure := by
            rw [laid.consumed]
            simpa using found
          rw [foldlM_concat_of_eq_ok walked, step_of_obstacle (by omega) blocked]

/-- The sum of the widths is exact, and refused when it does not fit. -/
theorem totalWidth_eq (segments : List Segment) :
    totalWidth segments =
      if bitCount segments < 2 ^ 64 then
        .ok (BitVec.ofNat 64 (bitCount segments))
      else
        .error .add := by
  unfold totalWidth
  induction segments using List.reverseRecOn with
  | nil => rfl
  | append_singleton segments segment inductionHypothesis =>
      have narrow : (segment.width.setWidth 64).toNat = segment.width.toNat := by
        rw [BitVec.toNat_setWidth, Nat.mod_eq_of_lt (Nat.lt_trans segment.width.isLt (by decide))]
      simp only [bitCount_append, bitCount_cons, bitCount_nil, Nat.add_zero]
      by_cases former : bitCount segments < 2 ^ 64
      · have value : (BitVec.ofNat 64 (bitCount segments)).toNat = bitCount segments := by
          rw [BitVec.toNat_ofNat, Nat.mod_eq_of_lt former]
        rw [foldlM_concat_of_eq_ok (inductionHypothesis.trans (if_pos former))]
        by_cases fits : bitCount segments + segment.width.toNat < 2 ^ 64
        · have sumFits : (BitVec.ofNat 64 (bitCount segments)).toNat +
              (segment.width.setWidth 64).toNat < 2 ^ 64 := by
            rw [value, narrow]
            exact fits
          rw [if_pos fits, addChecked_of_lt sumFits]
          congr 1
          apply BitVec.eq_of_toNat_eq
          rw [BitVec.toNat_add_of_lt sumFits, value, narrow, BitVec.toNat_ofNat, Nat.mod_eq_of_lt fits]
        · rw [if_neg fits, addChecked_of_le (by rw [value, narrow]; omega)]
      · rw [foldlM_concat_of_eq_error (inductionHypothesis.trans (if_neg former)),
          if_neg (by omega)]

end Encoding
end InstructionTable
