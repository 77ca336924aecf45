import InstructionTable.Proofs.Pattern.FirstError

/-!
# What becomes of a row

A row need not come from a text: its places may be empty and its widths of any size.  When its
widths add up to a word, the first place that blocks the walk decides what is reported, and the only
step of arithmetic that can fail is the one that finds the highest bit of an operand.  A row that is
read from a text is not blocked by an operand.
-/

namespace InstructionTable
open Pattern

namespace Placement

/-- A literal's number needs more bits than its place has. -/
def IsTooNarrow (placement : Placement) : Prop :=
  match placement.segment.kind with
  | .literal value => 2 ^ placement.width ≤ value.toNat
  | .ignored | .operand _ => False

instance (placement : Placement) : Decidable placement.IsTooNarrow := by
  unfold IsTooNarrow
  split <;> infer_instance

/-- An operand's place begins where the word has ended. -/
def IsBeyondWord (placement : Placement) : Prop :=
  placement.segment.isOperand = true ∧ placement.above = wordBits

instance (placement : Placement) : Decidable placement.IsBeyondWord := by
  unfold IsBeyondWord
  infer_instance

/-- A place stops the walk. -/
def Blocks (placement : Placement) : Prop :=
  placement.IsTooNarrow ∨ placement.IsBeyondWord

instance (placement : Placement) : Decidable placement.Blocks := by
  unfold Blocks
  infer_instance

variable {placement : Placement}

/-- A place that is too narrow for its literal is refused for it. -/
theorem IsTooNarrow.obstacle?_eq
    (narrow : placement.IsTooNarrow) :
    placement.obstacle? =
      some (.refused (.malformedSegment placement.segment.pattern .literalTooWide)) := by
  unfold IsTooNarrow at narrow
  unfold obstacle?
  cases kind : placement.segment.kind with
  | ignored => simp [kind] at narrow
  | literal value =>
      rw [kind] at narrow
      exact if_neg (Nat.not_lt.mpr narrow)
  | operand name => simp [kind] at narrow

/-- An operand beyond the word has no highest bit. -/
theorem IsBeyondWord.obstacle?_eq
    (beyond : placement.IsBeyondWord) :
    placement.obstacle? = some (.overflow .subtract) := by
  obtain ⟨operand, above⟩ := beyond
  unfold Segment.isOperand at operand
  unfold obstacle?
  cases kind : placement.segment.kind with
  | ignored => simp [kind] at operand
  | literal value => simp [kind] at operand
  | operand name => exact if_neg (Nat.not_lt.mpr (Nat.le_of_eq above.symm))

/-- Up to the end of the word, nothing else is an obstacle. -/
theorem isSome_obstacle?
    (room : placement.above ≤ wordBits) :
    placement.obstacle?.isSome = decide placement.Blocks := by
  by_cases blocks : placement.Blocks
  · rw [decide_eq_true blocks]
    rcases blocks with narrow | beyond
    · rw [narrow.obstacle?_eq, Option.isSome_some]
    · rw [beyond.obstacle?_eq, Option.isSome_some]
  · obtain ⟨wide, within⟩ := not_or.mp blocks
    unfold IsTooNarrow at wide
    unfold IsBeyondWord Segment.isOperand at within
    rw [decide_eq_false blocks]
    unfold obstacle?
    cases kind : placement.segment.kind with
    | ignored => rfl
    | literal value =>
        rw [kind] at wide
        simp only [Nat.lt_of_not_le wide, if_true, Option.isSome_none]
    | operand name =>
        simp only [kind, true_and] at within
        simp only [Nat.lt_of_le_of_ne room within, if_true, Option.isSome_none]

end Placement

/-- The first place of a row that stops the walk. -/
def firstBlocking? (segments : List Segment) : Option Placement :=
  (placements segments).find? fun placement => decide placement.Blocks

/-- The obstacle in the way of a row is that of its first place that stops the walk. -/
theorem findSome?_obstacle?_eq_bind
    {segments : List Segment}
    (full : bitCount segments = wordBits) :
    (placements segments).findSome? Placement.obstacle? =
      (firstBlocking? segments).bind Placement.obstacle? := by
  apply findSome?_eq_bind_find?
  intro placement member
  apply Placement.isSome_obstacle?
  have ends := above_add_width_le_bitCount member
  omega

/-- Fewer segments than there are numbers for a width have a sum of widths that can be stored. -/
theorem bitCount_lt
    {segments : List Segment}
    (few : segments.length < 2 ^ 32) :
    bitCount segments < 2 ^ 64 := by
  have widths : bitCount segments ≤
      (segments.map fun segment => segment.width.toNat).length • (2 ^ 32 - 1) := by
    apply List.sum_le_card_nsmul
    intro width member
    obtain ⟨segment, -, rfl⟩ := List.mem_map.mp member
    have small := segment.width.isLt
    omega
  rw [List.length_map, Nat.nsmul_eq_mul] at widths
  calc
    bitCount segments ≤ segments.length * (2 ^ 32 - 1) := widths
    _ ≤ 2 ^ 32 * (2 ^ 32 - 1) := Nat.mul_le_mul_right _ (Nat.le_of_lt few)
    _ < 2 ^ 64 := by decide

namespace Encoding

theorem exists_totalWidth
    {segments : List Segment}
    (storable : bitCount segments < 2 ^ 64) :
    ∃ total, totalWidth segments = .ok total ∧ total.toNat = bitCount segments := by
  refine ⟨BitVec.ofNat 64 (bitCount segments), by rw [totalWidth_eq, if_pos storable], ?_⟩
  rw [BitVec.toNat_ofNat, Nat.mod_eq_of_lt storable]

/-- A part of a row that was walked has been laid out. -/
theorem laidOut_of_foldlM
    {segments : List Segment}
    {progress : Progress}
    (room : bitCount segments ≤ wordBits)
    (walked : segments.foldlM Progress.step {} = .ok progress) :
    LaidOut segments progress := by
  cases found : (placements segments).findSome? Placement.obstacle? with
  | some failure =>
      -- the obstacle would have stopped the walk
      rw [foldlM_step_of_obstacle room found] at walked
      contradiction
  | none =>
      obtain ⟨reached, walkedThere, laid⟩ := exists_laidOut room found
      rw [walked] at walkedThere
      injection walkedThere with same
      rwa [same]

/-- The steps of arithmetic that lay out a segment, the one for an operand's highest bit aside. -/
structure Computes
    (progress : Progress)
    (segment : Segment) : Prop where
  /-- The accumulator of values can be moved up. -/
  opcode : ∃ moved, shiftLeftChecked progress.opcode segment.width.toNat = .ok moved
  /-- The accumulator of places can be moved up. -/
  mask : ∃ moved, shiftLeftChecked progress.mask segment.width.toNat = .ok moved
  /-- The cursor can be moved on. -/
  consumed : ∃ next, addChecked progress.consumed segment.width = .ok next
  /-- What a literal has above its width can be looked at. -/
  excess : ∀ value, segment.kind = .literal value →
    ∃ above, shiftRightChecked (value.setWidth 64) segment.width.toNat = .ok above
  /-- The power that a literal's places are one less than can be made, and is not zero. -/
  power : ∀ value, segment.kind = .literal value →
    ∃ power, shiftLeftChecked (1 : BitVec 64) segment.width.toNat = .ok power ∧
      0 < power.toNat

/-- Wherever the walk gets to in a word, it can compute what it needs. -/
theorem LaidOut.computes
    {segments : List Segment}
    {progress : Progress}
    {segment : Segment}
    (laid : LaidOut segments progress)
    (room : bitCount segments + segment.width.toNat ≤ wordBits) :
    Computes progress segment := by
  have wordBits_eq : wordBits = 32 := rfl
  have small : segment.width.toNat < 64 := by omega
  have fits : progress.consumed.toNat + segment.width.toNat < 2 ^ 32 := by
    rw [laid.consumed]
    omega
  exact
    { opcode := ⟨_, shiftLeftChecked_of_lt small⟩
      mask := ⟨_, shiftLeftChecked_of_lt small⟩
      consumed := ⟨_, addChecked_of_lt fits⟩
      excess := fun _ _ => ⟨_, shiftRightChecked_of_lt small⟩
      power := by
        intro value _
        refine ⟨_, shiftLeftChecked_of_lt small, ?_⟩
        rw [toNat_one_shiftLeft small]
        exact Nat.two_pow_pos _ }

variable {segments : List Segment} {placement : Placement}

/-- A row that fills a word and that no place stops has an encoding. -/
theorem exists_ofSegments_of_firstBlocking?_eq_none
    (full : bitCount segments = wordBits)
    (passes : firstBlocking? segments = none) :
    ∃ encoding, ofSegments segments = .ok encoding := by
  apply exists_ofSegments_eq_ok full
  rw [findSome?_obstacle?_eq_bind full, passes, Option.bind_none]

/-- A row is refused for a literal when its place is the first that stops the walk. -/
theorem ofSegments_of_isTooNarrow
    (full : bitCount segments = wordBits)
    (first : firstBlocking? segments = some placement)
    (narrow : placement.IsTooNarrow) :
    ofSegments segments =
      .error (.refused (.malformedSegment placement.segment.pattern .literalTooWide)) := by
  apply ofSegments_of_obstacle full
  rw [findSome?_obstacle?_eq_bind full, first, Option.bind_some, narrow.obstacle?_eq]

/-- A subtraction fails when the first place that stops the walk is that of an operand. -/
theorem ofSegments_of_isBeyondWord
    (full : bitCount segments = wordBits)
    (first : firstBlocking? segments = some placement)
    (beyond : placement.IsBeyondWord) :
    ofSegments segments = .error (.overflow .subtract) := by
  apply ofSegments_of_obstacle full
  rw [findSome?_obstacle?_eq_bind full, first, Option.bind_some, beyond.obstacle?_eq]

/-- The place of an operand beyond the word is empty. -/
theorem width_eq_zero_of_isBeyondWord
    (full : bitCount segments = wordBits)
    (first : firstBlocking? segments = some placement)
    (beyond : placement.IsBeyondWord) :
    placement.width = 0 := by
  have ends := above_add_width_le_bitCount (List.mem_of_find?_eq_some first)
  have above := beyond.2
  omega

/-- No step of arithmetic fails on a row without empty operands. -/
theorem ofSegments_ne_overflow
    (storable : bitCount segments < 2 ^ 64)
    (positive : ∀ segment ∈ segments, segment.isOperand = true → 0 < segment.width.toNat)
    (overflow : Overflow) :
    ofSegments segments ≠ .error (.overflow overflow) := by
  intro failed
  by_cases full : bitCount segments = wordBits
  · cases first : firstBlocking? segments with
    | none =>
        obtain ⟨encoding, laid⟩ := exists_ofSegments_of_firstBlocking?_eq_none full first
        rw [laid] at failed
        contradiction
    | some placement =>
        have blocks := List.find?_some first
        rcases of_decide_eq_true blocks with narrow | beyond
        · rw [ofSegments_of_isTooNarrow full first narrow] at failed
          injection failed with failed
          contradiction
        · have member := segment_mem_of_mem_placements (List.mem_of_find?_eq_some first)
          exact absurd (width_eq_zero_of_isBeyondWord full first beyond)
            (Nat.ne_of_gt (positive placement.segment member beyond.1))
  · rw [ofSegments_of_bitCount_ne storable full] at failed
    injection failed with failed
    contradiction

/-- No step of arithmetic fails on the segments of a text that is not too long. -/
theorem ofSegments_ne_overflow_of_listOfText
    {bits : String}
    (short : bits.utf8ByteSize < wordCount)
    (read : Segment.listOfText bits = .ok segments)
    (overflow : Overflow) :
    ofSegments segments ≠ .error (.overflow overflow) := by
  have positive (segment : Segment) (member : segment ∈ segments) :
      segment.isOperand = true → 0 < segment.width.toNat :=
    width_pos_of_listOfText read member
  obtain ⟨sound, rfl⟩ := listOfText_eq_ok_iff.mp read
  have small (piece : List Char) (member : piece ∈ pieces bits) : pieceWidth piece < wordCount :=
    pieceWidth_lt_wordCount short member (sound piece member)
  have storable := textWidth_lt short sound
  rw [← bitCount_map_segmentOf small] at storable
  exact ofSegments_ne_overflow storable positive overflow

/--
A row of fewer than `2 ^ 32` segments whose widths do not add up to a word is refused with their
exact sum.  If they do, the first place that is too narrow for its literal or begins beyond the word
decides: without one the row has an encoding, a narrow place is refused for its literal, and an
operand beyond the word, which is empty, has no highest bit.  No other step of arithmetic fails, and
none at all on the segments of a text of fewer than `2 ^ 32` bytes.
-/
theorem ofSegments_first_blocking :
    (∀ segments : List Segment, segments.length < 2 ^ 32 →
      (∃ total, totalWidth segments = .ok total ∧ total.toNat = bitCount segments) ∧
      (bitCount segments ≠ wordBits →
        ofSegments segments = .error (.refused (.widthMismatch (bitCount segments)))) ∧
      (bitCount segments = wordBits →
        (match firstBlocking? segments with
          | none => ∃ encoding, ofSegments segments = .ok encoding
          | some placement =>
              (placement.IsTooNarrow ∧ ofSegments segments =
                .error (.refused (.malformedSegment placement.segment.pattern .literalTooWide))) ∨
              (placement.IsBeyondWord ∧ placement.width = 0 ∧
                ofSegments segments = .error (.overflow .subtract))) ∧
        ∀ front segment behind progress,
          segments = front ++ segment :: behind →
          front.foldlM Progress.step {} = .ok progress →
          Computes progress segment)) ∧
    (∀ bits segments, bits.utf8ByteSize < 2 ^ 32 → Segment.listOfText bits = .ok segments →
      ∀ overflow, ofSegments segments ≠ .error (.overflow overflow)) ∧
    Overflow.subtract.message = "attempt to subtract with overflow" ∧
    Flaw.literalTooWide.reason = "literal does not fit its width" := by
  refine ⟨?_, fun _ _ short read => ofSegments_ne_overflow_of_listOfText short read, rfl, rfl⟩
  intro segments few
  have storable := bitCount_lt few
  refine ⟨exists_totalWidth storable, ofSegments_of_bitCount_ne storable, ?_⟩
  intro full
  constructor
  · cases first : firstBlocking? segments with
    | none => exact exists_ofSegments_of_firstBlocking?_eq_none full first
    | some placement =>
        have blocks := List.find?_some first
        rcases of_decide_eq_true blocks with narrow | beyond
        · exact .inl ⟨narrow, ofSegments_of_isTooNarrow full first narrow⟩
        · exact .inr ⟨beyond, width_eq_zero_of_isBeyondWord full first beyond,
            ofSegments_of_isBeyondWord full first beyond⟩
  · rintro front segment behind progress rfl walked
    simp only [bitCount_append, bitCount_cons] at full
    exact (laidOut_of_foldlM (by omega) walked).computes (by omega)

/-- An empty operand behind a full word comes before, or after, a literal in an empty place. -/
theorem ofSegments_first_blocking_of_empty_places :
    ([⟨"imm", 32⟩, ⟨"Rd", 0⟩, ⟨"1", 0⟩] : List Segment).length < 2 ^ 32 ∧
      ofSegments [⟨"imm", 32⟩, ⟨"Rd", 0⟩, ⟨"1", 0⟩] = .error (.overflow .subtract) ∧
      ofSegments [⟨"imm", 32⟩, ⟨"1", 0⟩, ⟨"Rd", 0⟩] =
        .error (.refused (.malformedSegment "1" .literalTooWide)) := by
  have few : ([⟨"imm", 32⟩, ⟨"Rd", 0⟩, ⟨"1", 0⟩] : List Segment).length < 2 ^ 32 := by decide
  have operandFirst : firstBlocking? [⟨"imm", 32⟩, ⟨"Rd", 0⟩, ⟨"1", 0⟩] = some ⟨32, ⟨"Rd", 0⟩⟩ := by
    rfl
  have literalFirst : firstBlocking? [⟨"imm", 32⟩, ⟨"1", 0⟩, ⟨"Rd", 0⟩] = some ⟨32, ⟨"1", 0⟩⟩ := by
    rfl
  have former := ((ofSegments_first_blocking.1 _ few).2.2 (by decide)).1
  have latter := ((ofSegments_first_blocking.1 [⟨"imm", 32⟩, ⟨"1", 0⟩, ⟨"Rd", 0⟩]
    (by decide)).2.2 (by decide)).1
  rw [operandFirst] at former
  rw [literalFirst] at latter
  refine ⟨few, ?_, ?_⟩
  · rcases former with ⟨narrow, -⟩ | ⟨-, -, reported⟩
    · exact absurd narrow (by decide)
    · exact reported
  · rcases latter with ⟨-, reported⟩ | ⟨beyond, -, -⟩
    · exact reported
    · exact absurd beyond (by decide)

end Encoding
end InstructionTable
