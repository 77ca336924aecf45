import InstructionTable.Proofs.Layout.Walk

/-!
# Rows that fill a word

A row is laid out when its widths add up to a word and nothing stands in the way of the walk.  Then
the mask, the opcode and the fields can be read off the places of the segments, and cutting the
accumulators to a word loses nothing.
-/

namespace InstructionTable
namespace Encoding
open Pattern

/-- Widths that do not add up to a word are reported by their sum. -/
theorem ofSegments_of_bitCount_ne
    {segments : List Segment}
    (storable : bitCount segments < 2 ^ 64)
    (mismatch : bitCount segments ≠ wordBits) :
    ofSegments segments = .error (.refused (.widthMismatch (bitCount segments))) := by
  have total : (BitVec.ofNat 64 (bitCount segments)).toNat = bitCount segments := by
    rw [BitVec.toNat_ofNat, Nat.mod_eq_of_lt storable]
  unfold ofSegments
  rw [totalWidth_eq, if_pos storable]
  change (if (BitVec.ofNat 64 (bitCount segments)).toNat ≠ wordBits then _ else _) = _
  rw [if_pos (by rw [total]; exact mismatch), total]

/-- A row that fills a word is handed to the walk. -/
theorem ofSegments_of_bitCount_eq
    {segments : List Segment}
    (full : bitCount segments = wordBits) :
    ofSegments segments =
      (segments.foldlM Progress.step {}).map Progress.encoding := by
  have storable : bitCount segments < 2 ^ 64 := by
    rw [full]
    decide
  have total : (BitVec.ofNat 64 (bitCount segments)).toNat = wordBits := by
    rw [BitVec.toNat_ofNat, Nat.mod_eq_of_lt storable, full]
  unfold ofSegments
  rw [totalWidth_eq, if_pos storable]
  change (if (BitVec.ofNat 64 (bitCount segments)).toNat ≠ wordBits then _ else _) = _
  rw [if_neg (not_not_intro total)]
  cases segments.foldlM Progress.step {} with
  | error failure => rfl
  | ok progress => rfl

/-- The first segment in the way of the walk is reported. -/
theorem ofSegments_of_obstacle
    {segments : List Segment}
    {failure : Failure}
    (full : bitCount segments = wordBits)
    (found : (placements segments).findSome? Placement.obstacle? = some failure) :
    ofSegments segments = .error failure := by
  rw [ofSegments_of_bitCount_eq full, foldlM_step_of_obstacle (Nat.le_of_eq full) found]
  rfl

theorem exists_ofSegments_eq_ok
    {segments : List Segment}
    (full : bitCount segments = wordBits)
    (clear : (placements segments).findSome? Placement.obstacle? = none) :
    ∃ encoding, ofSegments segments = .ok encoding := by
  obtain ⟨progress, walked, -⟩ := exists_laidOut (Nat.le_of_eq full) clear
  exact ⟨progress.encoding, by rw [ofSegments_of_bitCount_eq full, walked]; rfl⟩

/-- What is known of a row that is laid out: it fills a word, and its walk has an end. -/
theorem exists_walk_of_ofSegments
    {segments : List Segment}
    {encoding : Encoding}
    (compiled : ofSegments segments = .ok encoding) :
    bitCount segments = wordBits ∧
      (placements segments).findSome? Placement.obstacle? = none ∧
      ∃ progress, segments.foldlM Progress.step {} = .ok progress ∧
        LaidOut segments progress ∧ progress.encoding = encoding := by
  have full : bitCount segments = wordBits := by
    by_contra mismatch
    by_cases storable : bitCount segments < 2 ^ 64
    · rw [ofSegments_of_bitCount_ne storable mismatch] at compiled
      contradiction
    · unfold ofSegments at compiled
      rw [totalWidth_eq, if_neg storable] at compiled
      contradiction
  have clear : (placements segments).findSome? Placement.obstacle? = none := by
    cases found : (placements segments).findSome? Placement.obstacle? with
    | none => rfl
    | some failure =>
        rw [ofSegments_of_obstacle full found] at compiled
        contradiction
  obtain ⟨progress, walked, laid⟩ := exists_laidOut (Nat.le_of_eq full) clear
  rw [ofSegments_of_bitCount_eq full, walked] at compiled
  injection compiled with equal
  exact ⟨full, clear, progress, walked, laid, equal⟩

/-- Cutting the accumulator of a row that fits a word to a word loses no bit. -/
theorem Holds.toNat_setWidth
    {bit : Segment → Nat → Bool}
    {segments : List Segment}
    {accumulator : BitVec 64}
    (held : Holds bit segments accumulator) :
    (accumulator.setWidth wordBits).toNat = accumulator.toNat := by
  apply Nat.eq_of_testBit_eq
  intro position
  rw [BitVec.testBit_toNat, BitVec.testBit_toNat, BitVec.getLsbD_setWidth]
  by_cases inside : position < wordBits
  · rw [decide_eq_true inside, Bool.true_and]
  · rw [decide_eq_false inside, Bool.false_and, held, rowBit_of_wordBits_le (by omega)]

/-- Cut to a word, the accumulator of a full row has the bits that the segments make in place. -/
theorem Holds.getLsbD_setWidth
    {bit : Segment → Nat → Bool}
    {segments : List Segment}
    {accumulator : BitVec 64}
    (held : Holds bit segments accumulator)
    (full : bitCount segments = wordBits)
    {placement : Placement}
    (member : placement ∈ placements segments)
    {position : Nat}
    (covered : placement.Covers position) :
    (accumulator.setWidth wordBits).getLsbD position =
      bit placement.segment (position - placement.lowest) := by
  rw [BitVec.getLsbD_setWidth, decide_eq_true covered.lt_wordBits, Bool.true_and, held, full,
    Nat.sub_self, Nat.add_zero, rowBit_of_covers member covered]

/-- An operand that is not in the way lies above the end of the word. -/
theorem above_lt_of_clear
    {segments : List Segment}
    (clear : (placements segments).findSome? Placement.obstacle? = none)
    {placement : Placement}
    (member : placement ∈ placements segments)
    (operand : placement.segment.isOperand = true) :
    placement.above < wordBits := by
  have free := List.findSome?_eq_none_iff.mp clear placement member
  unfold Segment.isOperand at operand
  unfold Placement.obstacle? at free
  cases kind : placement.segment.kind with
  | ignored => simp [kind] at operand
  | literal value => simp [kind] at operand
  | operand name =>
      by_contra below
      simp [kind, below] at free

/-- What the encoding of a row says about its segments. -/
structure Fills
    (segments : List Segment)
    (encoding : Encoding) : Prop where
  /-- The widths add up to a word. -/
  full : bitCount segments = wordBits
  /-- Nothing is in the way of the walk. -/
  clear : (placements segments).findSome? Placement.obstacle? = none
  /-- The mask is set where a literal lies. -/
  mask : ∀ placement ∈ placements segments, ∀ position, placement.Covers position →
    encoding.mask.getLsbD position = placement.segment.isLiteral
  /-- The opcode has the bits that literals fix. -/
  opcode : ∀ placement ∈ placements segments, ∀ position, placement.Covers position →
    encoding.opcode.getLsbD position =
      placement.segment.fixedBit (position - placement.lowest)
  /-- The fields are the operands. -/
  fields : encoding.fields = operandFields segments

/-- The end of a walk over a row that fills a word is its encoding. -/
theorem LaidOut.fills
    {segments : List Segment}
    {progress : Progress}
    (laid : LaidOut segments progress)
    (full : bitCount segments = wordBits)
    (clear : (placements segments).findSome? Placement.obstacle? = none) :
    Fills segments progress.encoding where
  full := full
  clear := clear
  mask := fun _ member _ covered => laid.mask.getLsbD_setWidth full member covered
  opcode := fun _ member _ covered => laid.opcode.getLsbD_setWidth full member covered
  fields := laid.fields

/-- A row that is laid out fills a word. -/
theorem fills_of_ofSegments
    {segments : List Segment}
    {encoding : Encoding}
    (compiled : ofSegments segments = .ok encoding) :
    Fills segments encoding := by
  obtain ⟨full, clear, progress, -, laid, rfl⟩ := exists_walk_of_ofSegments compiled
  exact laid.fills full clear

/-- A text with an encoding is read as a row that fills a word. -/
theorem exists_fills_of_ofText
    {bits : String}
    {encoding : Encoding}
    (compiled : ofText bits = .ok encoding) :
    ∃ segments, Segment.listOfText bits = .ok segments ∧ Fills segments encoding := by
  unfold ofText at compiled
  cases read : Segment.listOfText bits with
  | error error =>
      rw [read] at compiled
      contradiction
  | ok segments =>
      rw [read] at compiled
      exact ⟨segments, rfl, fills_of_ofSegments compiled⟩

/--
A row of segments that is laid out takes every bit of the word exactly once.  In the place of a
literal the mask is set and the opcode has the literal's bits, counted from the lowest bit of the
place; elsewhere both are clear.  The fields are the operands in order, each with its pattern as its
name, the highest bit of its place as its start and its width as its length.  The accumulators hold
nothing that a word cannot hold.
-/
theorem layout_of_ofSegments
    {segments : List Segment}
    {encoding : Encoding}
    (compiled : ofSegments segments = .ok encoding) :
    (∀ position < wordBits, ∃! index : Nat, ∃ placement : Placement,
      (placements segments)[index]? = some placement ∧ placement.Covers position) ∧
    (∀ placement ∈ placements segments, ∀ position, placement.Covers position →
      encoding.mask.getLsbD position = placement.segment.isLiteral ∧
      encoding.opcode.getLsbD position =
        placement.segment.fixedBit (position - placement.lowest)) ∧
    encoding.fields = operandFields segments ∧
    (∀ placement ∈ placements segments, placement.segment.isOperand = true →
      placement.above < wordBits) ∧
    ∃ progress, segments.foldlM Progress.step {} = .ok progress ∧
      progress.encoding = encoding ∧
      encoding.opcode.toNat = progress.opcode.toNat ∧
      encoding.mask.toNat = progress.mask.toNat := by
  obtain ⟨full, clear, progress, walked, laid, rfl⟩ := exists_walk_of_ofSegments compiled
  have fills := laid.fills full clear
  refine ⟨?_, ?_, fills.fields, ?_, progress, walked, rfl, ?_, ?_⟩
  · intro position inside
    exact existsUnique_covers full inside
  · intro placement member position covered
    exact ⟨fills.mask placement member position covered,
      fills.opcode placement member position covered⟩
  · intro placement member operand
    exact above_lt_of_clear clear member operand
  · exact laid.opcode.toNat_setWidth
  · exact laid.mask.toNat_setWidth

/-- A row with an overlong literal, a padded one and two empty places. -/
theorem layout_of_padded_row :
    ofSegments [⟨"0011", 2⟩, ⟨"(x)", 0⟩, ⟨"sf", 0⟩, ⟨"1", 5⟩, ⟨"(", 3⟩, ⟨"Rd", 22⟩] =
        .ok ⟨0xC2000000, 0xFE000000, [⟨"sf", 29, 0⟩, ⟨"Rd", 21, 22⟩]⟩ ∧
      ∀ position < wordBits, ∃! index : Nat, ∃ placement : Placement,
        (placements [⟨"0011", 2⟩, ⟨"(x)", 0⟩, ⟨"sf", 0⟩, ⟨"1", 5⟩, ⟨"(", 3⟩,
          ⟨"Rd", 22⟩])[index]? = some placement ∧ placement.Covers position := by
  have compiled :
      ofSegments [⟨"0011", 2⟩, ⟨"(x)", 0⟩, ⟨"sf", 0⟩, ⟨"1", 5⟩, ⟨"(", 3⟩, ⟨"Rd", 22⟩] =
        .ok ⟨0xC2000000, 0xFE000000, [⟨"sf", 29, 0⟩, ⟨"Rd", 21, 22⟩]⟩ := by
    rfl
  exact ⟨compiled, (layout_of_ofSegments compiled).1⟩

end Encoding
end InstructionTable
