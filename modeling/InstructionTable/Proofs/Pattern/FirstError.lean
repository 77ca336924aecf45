import InstructionTable.Proofs.Layout.Filled
import InstructionTable.Proofs.Pattern.Grammar
import Mathlib.Algebra.Order.BigOperators.Group.List
import Mathlib.Algebra.Order.Ring.Nat

/-!
# The first error of a bit pattern

A pattern's text is judged in three rounds.  The leftmost piece that is wrong on its own comes
first, then the sum of the widths, then the leftmost literal that is too large for its width.  The
main statement says that a text has an encoding exactly when no round finds anything, and that else
the first finding is reported.
-/

namespace InstructionTable
namespace Pattern

/-- What is wrong with a piece whose literal is too large for its width. -/
def fitError? (piece : List Char) : Option Error :=
  if DenotesLiteral (piecePattern piece) ∧
      2 ^ pieceWidth piece ≤ Nat.ofDigitChars 2 (piecePattern piece) 0 then
    some (.malformedSegment (String.ofList (piecePattern piece)) .literalTooWide)
  else
    none

/-- The sum of the widths of a text's pieces. -/
def textWidth (bits : String) : Nat :=
  ((pieces bits).map pieceWidth).sum

/-- The first thing that is wrong with a pattern's text. -/
def firstError? (bits : String) : Option Error :=
  match (pieces bits).findSome? localError? with
  | some error => some error
  | none =>
      if textWidth bits = wordBits then
        (pieces bits).findSome? fitError?
      else
        some (.widthMismatch (textWidth bits))

/-- A text has no more characters than bytes. -/
theorem length_toList_le_utf8ByteSize (text : String) :
    text.toList.length ≤ text.utf8ByteSize := by
  have encoded : text.utf8ByteSize = text.toList.utf8Encode.size := by
    rw [String.utf8Encode_toList]
    rfl
  rw [encoded, List.utf8Encode, List.size_toByteArray]
  induction text.toList with
  | nil => exact Nat.le_refl 0
  | cons c rest inductionHypothesis =>
      have positive := c.utf8Size_pos
      rw [List.flatMap_cons, List.length_append, List.length_cons, String.length_utf8EncodeChar]
      omega

/-- In a text that is not too long, the digits of a piece can be counted in a width. -/
theorem pieceWidth_lt_wordCount
    {bits : String}
    (short : bits.utf8ByteSize < wordCount)
    {piece : List Char}
    (member : piece ∈ pieces bits)
    (sound : localError? piece = none) :
    pieceWidth piece < wordCount := by
  rcases (pieceWidth_bounds sound).2 with small | ⟨-, digits⟩
  · exact small
  · have characters := length_toList_le_utf8ByteSize bits
    have total := sum_length_splitOn '|' bits.toList
    have inPiece := length_piecePattern_le piece
    have inText : piece.length ≤ ((pieces bits).map List.length).sum :=
      List.le_sum_of_mem (List.mem_map_of_mem member)
    have pieceCount : 0 < (pieces bits).length := List.length_pos_of_mem member
    unfold pieces at inText pieceCount
    omega

/-- In a text that is not too long, the widths have a sum that can be stored. -/
theorem textWidth_lt
    {bits : String}
    (short : bits.utf8ByteSize < wordCount)
    (sound : ∀ piece ∈ pieces bits, localError? piece = none) :
    textWidth bits < 2 ^ 64 := by
  have characters := length_toList_le_utf8ByteSize bits
  have total := sum_length_splitOn '|' bits.toList
  have pieceCount : (pieces bits).length ≤ wordCount := by
    unfold pieces
    omega
  have widths : textWidth bits ≤ ((pieces bits).map pieceWidth).length • (wordCount - 1) := by
    apply List.sum_le_card_nsmul
    intro width member
    obtain ⟨piece, pieceMember, rfl⟩ := List.mem_map.mp member
    have small := pieceWidth_lt_wordCount short pieceMember (sound piece pieceMember)
    omega
  rw [List.length_map, Nat.nsmul_eq_mul] at widths
  calc
    textWidth bits ≤ (pieces bits).length * (wordCount - 1) := widths
    _ ≤ wordCount * (wordCount - 1) := Nat.mul_le_mul_right _ pieceCount
    _ < 2 ^ 64 := by decide

/-- A literal is too large for its width exactly when its piece says so. -/
theorem misfit?_segmentOf
    {piece : List Char}
    (small : pieceWidth piece < wordCount) :
    (segmentOf piece).misfit? = (fitError? piece).map .refused := by
  have wordCount_eq : wordCount = 2 ^ 32 := by decide
  unfold Segment.misfit? fitError?
  rw [width_segmentOf small]
  by_cases literal : DenotesLiteral (piecePattern piece)
  · have kind : (segmentOf piece).kind =
        .literal (BitVec.ofNat 32 (Nat.ofDigitChars 2 (piecePattern piece) 0)) :=
      ofPattern_of_denotesLiteral literal
    have value : (BitVec.ofNat 32 (Nat.ofDigitChars 2 (piecePattern piece) 0)).toNat =
        Nat.ofDigitChars 2 (piecePattern piece) 0 := by
      rw [BitVec.toNat_ofNat, Nat.mod_eq_of_lt (wordCount_eq ▸ literal.2.2)]
    rw [kind]
    simp only [value, literal, true_and]
    by_cases fits : Nat.ofDigitChars 2 (piecePattern piece) 0 < 2 ^ pieceWidth piece
    · rw [if_pos fits, if_neg (by omega)]
      rfl
    · rw [if_neg fits, if_pos (by omega)]
      rfl
  · have other := ofPattern_of_not_denotesLiteral literal
    rw [if_neg (mt And.left literal)]
    cases kind : (segmentOf piece).kind with
    | ignored => rfl
    | literal value => exact absurd kind (other value)
    | operand name => rfl

/-- A text with no piece that is wrong on its own is laid out as it is spelled. -/
theorem ofText_of_sound
    {bits : String}
    (sound : (pieces bits).findSome? localError? = none) :
    Encoding.ofText bits = Encoding.ofSegments ((pieces bits).map segmentOf) := by
  unfold Encoding.ofText
  rw [listOfText_eq, sound]
  rfl

/-- A text with a piece that is wrong on its own is refused for the leftmost. -/
theorem ofText_of_localError
    {bits : String}
    {error : Error}
    (found : (pieces bits).findSome? localError? = some error) :
    Encoding.ofText bits = .error (.refused error) := by
  unfold Encoding.ofText
  rw [listOfText_eq, found]
  rfl

/-- The bits of the segments of a sound text are as many as its pieces say. -/
theorem bitCount_map_segmentOf
    {bits : String}
    (small : ∀ piece ∈ pieces bits, pieceWidth piece < wordCount) :
    bitCount ((pieces bits).map segmentOf) = textWidth bits := by
  unfold bitCount textWidth
  rw [List.map_map]
  congr 1
  apply List.map_congr_left
  intro piece member
  exact width_segmentOf (small piece member)

/-- What stands in the way of a sound text is its leftmost literal that is too large. -/
theorem findSome?_obstacle?_map_segmentOf
    {bits : String}
    (small : ∀ piece ∈ pieces bits, pieceWidth piece < wordCount)
    (sound : ∀ piece ∈ pieces bits, localError? piece = none)
    (full : textWidth bits = wordBits) :
    (placements ((pieces bits).map segmentOf)).findSome? Placement.obstacle? =
      ((pieces bits).findSome? fitError?).map .refused := by
  have positive : ∀ segment ∈ (pieces bits).map segmentOf,
      segment.isOperand = true → 0 < segment.width.toNat := by
    intro segment member operand
    obtain ⟨piece, pieceMember, rfl⟩ := List.mem_map.mp member
    exact width_segmentOf_pos (sound piece pieceMember) operand
  have room : bitCount ((pieces bits).map segmentOf) ≤ wordBits := by
    rw [bitCount_map_segmentOf small, full]
  rw [findSome?_obstacle?_eq room positive, List.findSome?_map, List.map_findSome?]
  apply findSome?_congr
  intro piece member
  exact misfit?_segmentOf (small piece member)

/--
A text has an encoding exactly when nothing is wrong with it, and else the first thing that is wrong
with it is reported: the leftmost piece that is wrong on its own, or else the sum of the widths, or
else the leftmost literal that is too large for its width.
-/
theorem ofText_eq_firstError
    (bits : String)
    (short : bits.utf8ByteSize < 2 ^ 32) :
    (match firstError? bits with
      | some error => Encoding.ofText bits = .error (.refused error)
      | none => ∃ encoding, Encoding.ofText bits = .ok encoding) ∧
    Flaw.manyWidths.reason = "more than one width suffix" ∧
    Flaw.empty.reason = "empty pattern" ∧
    Flaw.unterminated.reason = "unterminated placeholder" ∧
    Flaw.literalTooWide.reason = "literal does not fit its width" := by
  refine ⟨?_, rfl, rfl, rfl, rfl⟩
  unfold firstError?
  cases found : (pieces bits).findSome? localError? with
  | some error => exact ofText_of_localError found
  | none =>
      have sound := List.findSome?_eq_none_iff.mp found
      have small (piece : List Char) (member : piece ∈ pieces bits) :
          pieceWidth piece < wordCount :=
        pieceWidth_lt_wordCount short member (sound piece member)
      rw [ofText_of_sound found]
      by_cases full : textWidth bits = wordBits
      · rw [if_pos full]
        have obstacle := findSome?_obstacle?_map_segmentOf small sound full
        have filled : bitCount ((pieces bits).map segmentOf) = wordBits := by
          rw [bitCount_map_segmentOf small, full]
        cases misfit : (pieces bits).findSome? fitError? with
        | some error =>
            rw [misfit] at obstacle
            exact Encoding.ofSegments_of_obstacle filled obstacle
        | none =>
            rw [misfit] at obstacle
            exact Encoding.exists_ofSegments_eq_ok filled obstacle
      · rw [if_neg full]
        have total := bitCount_map_segmentOf small
        have storable := textWidth_lt short sound
        rw [← total] at storable full ⊢
        exact Encoding.ofSegments_of_bitCount_ne storable full

/-- A later piece is wrong on its own, an earlier literal is too large: the piece is reported. -/
theorem ofText_eq_firstError_of_two_faults :
    "111:2|Rd:+5".utf8ByteSize < 2 ^ 32 ∧
      Encoding.ofText "111:2|Rd:+5" = .error (.refused (.malformedWidth "Rd:+5" "+5")) := by
  have size : "111:2|Rd:+5".utf8ByteSize = 11 := by decide
  have short : "111:2|Rd:+5".utf8ByteSize < 2 ^ 32 := by omega
  have first : firstError? "111:2|Rd:+5" = some (.malformedWidth "Rd:+5" "+5") := by
    decide
  have reported := ofText_eq_firstError "111:2|Rd:+5" short
  rw [first] at reported
  exact ⟨short, reported.1⟩

end Pattern
end InstructionTable
