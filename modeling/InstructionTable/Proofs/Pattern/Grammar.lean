import InstructionTable.Proofs.Except
import InstructionTable.Proofs.Layout.Placement
import Mathlib.Data.List.Basic
import Mathlib.Data.List.TakeWhile

/-!
# The grammar of bit patterns

A pattern's text is cut at every bar and each piece at every colon.  A piece has one part or two: a
pattern, and a width that is a positive number of 32 bits.  What is wrong with a piece on its own is
stated here over the parts, and the reader is shown to follow it.
-/

namespace InstructionTable
namespace Pattern

/-- A row of decimal digits that denotes a width. -/
def DenotesWidth (suffix : List Char) : Prop :=
  suffix ≠ [] ∧ (∀ digit ∈ suffix, digit.isDigit = true) ∧
    0 < Nat.ofDigitChars 10 suffix 0 ∧ Nat.ofDigitChars 10 suffix 0 < wordCount

instance (suffix : List Char) : Decidable (DenotesWidth suffix) :=
  decidable_of_iff
    (suffix ≠ [] ∧ suffix.all Char.isDigit = true ∧
      0 < Nat.ofDigitChars 10 suffix 0 ∧ Nat.ofDigitChars 10 suffix 0 < wordCount)
    (by rw [DenotesWidth, List.all_eq_true])

/-- A row of binary digits whose number a word can hold. -/
def DenotesLiteral (pattern : List Char) : Prop :=
  pattern ≠ [] ∧ (∀ digit ∈ pattern, digit = '0' ∨ digit = '1') ∧
    Nat.ofDigitChars 2 pattern 0 < wordCount

instance (pattern : List Char) : Decidable (DenotesLiteral pattern) :=
  decidable_of_iff
    (pattern ≠ [] ∧ pattern.all isBinaryDigit = true ∧
      Nat.ofDigitChars 2 pattern 0 < wordCount)
    (by simp [DenotesLiteral, isBinaryDigit])

/-- What is wrong with the pattern of a piece. -/
def patternError?
    (piece pattern : List Char) : Option Error :=
  if pattern = [] then
    some (.malformedSegment (String.ofList piece) .empty)
  else if pattern.head? = some '(' ∧ pattern.getLast? ≠ some ')' then
    some (.malformedSegment (String.ofList piece) .unterminated)
  else
    none

/-- What is wrong with a piece on its own: too many colons, then the width, then the pattern. -/
def localError? (piece : List Char) : Option Error :=
  match piece.splitOn ':' with
  | [] => none
  | [pattern] => patternError? piece pattern
  | [pattern, suffix] =>
      if DenotesWidth suffix then
        patternError? piece pattern
      else
        some (.malformedWidth (String.ofList piece) (String.ofList suffix))
  | _ => some (.malformedSegment (String.ofList piece) .manyWidths)

/-- The pattern of a piece. -/
def piecePattern (piece : List Char) : List Char :=
  (piece.splitOn ':').headD []

/-- The width of a piece: its suffix, or else the number of a literal's digits, or else one. -/
def pieceWidth (piece : List Char) : Nat :=
  match (piece.splitOn ':').tail with
  | suffix :: _ => Nat.ofDigitChars 10 suffix 0
  | [] => if DenotesLiteral (piecePattern piece) then (piecePattern piece).length else 1

/-- The pieces of a pattern's text. -/
def pieces (bits : String) : List (List Char) :=
  bits.toList.splitOn '|'

/-! ## Numbers and kinds -/

/-- The reader's decimal numbers are the usual ones. -/
theorem decimalValue_eq (digits : List Char) :
    decimalValue digits = Nat.ofDigitChars 10 digits 0 := by
  rw [Nat.ofDigitChars_eq_foldl]
  rfl

/-- On binary digits the reader's numbers are the usual ones. -/
theorem binaryValue_eq
    {digits : List Char}
    (binary : ∀ digit ∈ digits, digit = '0' ∨ digit = '1') :
    binaryValue digits = Nat.ofDigitChars 2 digits 0 := by
  rw [Nat.ofDigitChars_eq_foldl]
  unfold binaryValue
  apply List.foldl_ext
  intro value digit member
  rcases binary digit member with rfl | rfl
  · rfl
  · rfl

/-- A width is read exactly when the suffix denotes one. -/
theorem readWidth_eq (suffix : List Char) :
    readWidth suffix =
      if DenotesWidth suffix then
        some (BitVec.ofNat 32 (Nat.ofDigitChars 10 suffix 0))
      else
        none := by
  unfold readWidth
  rw [decimalValue_eq]
  apply if_congr
  · simp [DenotesWidth, and_assoc]
  · rfl
  · rfl

/-- A pattern is a literal exactly when it denotes one, and then it has the number denoted. -/
theorem literalValue?_eq (pattern : List Char) :
    literalValue? pattern =
      if DenotesLiteral pattern then
        some (BitVec.ofNat 32 (Nat.ofDigitChars 2 pattern 0))
      else
        none := by
  unfold literalValue?
  by_cases binary : ∀ digit ∈ pattern, digit = '0' ∨ digit = '1'
  · rw [binaryValue_eq binary]
    apply if_congr
    · simp [DenotesLiteral, isBinaryDigit, and_assoc]
    · rfl
    · rfl
  · have notAll : pattern.all isBinaryDigit = false := by
      rw [List.all_eq_false]
      simp only [not_forall] at binary
      obtain ⟨digit, member, other⟩ := binary
      exact ⟨digit, member, by simpa [isBinaryDigit] using other⟩
    have notLiteral : ¬DenotesLiteral pattern := fun literal => binary literal.2.1
    simp [notAll, notLiteral]

theorem DenotesLiteral.opensPlaceholder_eq_false
    {pattern : List Char}
    (literal : DenotesLiteral pattern) :
    opensPlaceholder pattern = false := by
  cases pattern with
  | nil => rfl
  | cons first rest =>
      rcases literal.2.1 first List.mem_cons_self with rfl | rfl
      · rfl
      · rfl

theorem ofPattern_of_denotesLiteral
    {pattern : List Char}
    (literal : DenotesLiteral pattern) :
    Kind.ofPattern (String.ofList pattern) =
      .literal (BitVec.ofNat 32 (Nat.ofDigitChars 2 pattern 0)) := by
  unfold Kind.ofPattern
  rw [String.toList_ofList, literal.opensPlaceholder_eq_false, literalValue?_eq,
    if_pos literal]
  rfl

theorem ofPattern_of_not_denotesLiteral
    {pattern : List Char}
    (other : ¬DenotesLiteral pattern)
    (value : BitVec 32) :
    Kind.ofPattern (String.ofList pattern) ≠ .literal value := by
  unfold Kind.ofPattern
  rw [String.toList_ofList, literalValue?_eq, if_neg other]
  by_cases opens : opensPlaceholder pattern = true
  · simp [opens]
  · simp [opens]

/-- The default width of a pattern: the number of a literal's digits, or else one. -/
theorem defaultWidth_eq (pattern : List Char) :
    defaultWidth pattern =
      BitVec.ofNat 32 (if DenotesLiteral pattern then pattern.length else 1) := by
  unfold defaultWidth
  by_cases literal : DenotesLiteral pattern
  · rw [ofPattern_of_denotesLiteral literal, if_pos literal]
  · rw [if_neg literal]
    cases kind : Kind.ofPattern (String.ofList pattern) with
    | ignored => rfl
    | literal value => exact absurd kind (ofPattern_of_not_denotesLiteral literal value)
    | operand name => rfl

/-! ## Pieces -/

/-- A piece without a colon is all pattern. -/
theorem splitOn_of_not_mem
    {piece : List Char}
    (plain : ':' ∉ piece) :
    piece.splitOn ':' = [piece] ∧
      piece.takeWhile (· != ':') = piece ∧
      piece.dropWhile (· != ':') = [] := by
  have all : ∀ c ∈ piece, (c != ':') = true := by
    intro c member
    rw [bne_iff_ne]
    rintro rfl
    exact plain member
  exact ⟨List.splitOn_eq_singleton plain, List.takeWhile_eq_self_iff.mpr all,
    List.dropWhile_eq_nil_iff.mpr all⟩

/-- A piece with a colon has its pattern in front of the first one. -/
theorem splitOn_append_colon
    {pattern : List Char}
    (plain : ':' ∉ pattern)
    (suffix : List Char) :
    (pattern ++ ':' :: suffix).splitOn ':' = pattern :: suffix.splitOn ':' ∧
      (pattern ++ ':' :: suffix).takeWhile (· != ':') = pattern ∧
      (pattern ++ ':' :: suffix).dropWhile (· != ':') = ':' :: suffix := by
  have all : ∀ c ∈ pattern, (c != ':') = true := by
    intro c member
    rw [bne_iff_ne]
    rintro rfl
    exact plain member
  refine ⟨List.splitOn_append_cons_self_of_not_mem plain suffix, ?_, ?_⟩
  · rw [List.takeWhile_append_of_pos all]
    simp
  · rw [List.dropWhile_append_of_pos all]
    simp

theorem splitOn_of_mem
    {suffix : List Char}
    (colon : ':' ∈ suffix) :
    ∃ first second rest, suffix.splitOn ':' = first :: second :: rest := by
  obtain ⟨first, behind, rfl, plain⟩ := List.eq_append_cons_of_mem colon
  rw [(splitOn_append_colon plain behind).1]
  obtain ⟨second, rest, parts⟩ := List.exists_cons_of_ne_nil (List.splitOn_ne_nil ':' behind)
  exact ⟨first, second, rest, by rw [parts]⟩

/-- When a placeholder is opened and not closed. -/
theorem unterminated_iff {pattern : List Char} :
    (opensPlaceholder pattern && !closesPlaceholder pattern) = true ↔
      pattern.head? = some '(' ∧ pattern.getLast? ≠ some ')' := by
  simp [opensPlaceholder, closesPlaceholder]

/-- Once its width is settled, a piece is refused for its pattern or read. -/
theorem ofPiece_of_statedWidth
    {piece : List Char}
    {width : Option (BitVec 32)}
    (stated : statedWidth piece = .ok width) :
    Segment.ofPiece piece =
      refuseOr (patternError? piece (piece.takeWhile (· != ':')))
        { pattern := String.ofList (piece.takeWhile (· != ':'))
          width := width.getD (defaultWidth (piece.takeWhile (· != ':'))) } := by
  unfold Segment.ofPiece
  rw [stated]
  generalize piece.takeWhile (· != ':') = pattern
  cases pattern with
  | nil => rfl
  | cons first rest =>
      by_cases unterminated :
          (first :: rest).head? = some '(' ∧ (first :: rest).getLast? ≠ some ')'
      · have error : patternError? piece (first :: rest) =
            some (.malformedSegment (String.ofList piece) .unterminated) := by
          unfold patternError?
          rw [if_neg (List.cons_ne_nil first rest), if_pos unterminated]
        rw [error]
        exact if_pos (unterminated_iff.mpr unterminated)
      · have noError : patternError? piece (first :: rest) = none := by
          unfold patternError?
          rw [if_neg (List.cons_ne_nil first rest), if_neg unterminated]
        rw [noError]
        exact if_neg (mt unterminated_iff.mp unterminated)

/-- The segment that a piece spells. -/
def segmentOf (piece : List Char) : Segment :=
  { pattern := String.ofList (piecePattern piece)
    width := BitVec.ofNat 32 (pieceWidth piece) }

theorem ofPiece_of_statedWidth_error
    {piece : List Char}
    {error : Error}
    (refused : statedWidth piece = .error error) :
    Segment.ofPiece piece = .error error := by
  unfold Segment.ofPiece
  rw [refused]
  rfl

/-- A piece without a colon is read as it is spelled. -/
theorem ofPiece_of_not_mem
    {piece : List Char}
    (plain : ':' ∉ piece) :
    Segment.ofPiece piece = refuseOr (localError? piece) (segmentOf piece) := by
  obtain ⟨parts, front, back⟩ := splitOn_of_not_mem plain
  have stated : statedWidth piece = .ok none := by
    unfold statedWidth
    rw [back]
  have verdict : localError? piece = patternError? piece piece := by
    unfold localError?
    rw [parts]
  have spelled : segmentOf piece =
      { pattern := String.ofList piece, width := defaultWidth piece } := by
    simp [segmentOf, piecePattern, pieceWidth, parts, defaultWidth_eq]
  rw [ofPiece_of_statedWidth stated, front, verdict, spelled]
  rfl

/-- A piece with one colon is read as it is spelled, or refused for its width. -/
theorem ofPiece_append_width
    {pattern suffix : List Char}
    (plain : ':' ∉ pattern)
    (single : ':' ∉ suffix) :
    Segment.ofPiece (pattern ++ ':' :: suffix) =
      refuseOr (localError? (pattern ++ ':' :: suffix))
        (segmentOf (pattern ++ ':' :: suffix)) := by
  obtain ⟨parts, front, back⟩ := splitOn_append_colon plain suffix
  rw [List.splitOn_eq_singleton single] at parts
  by_cases width : DenotesWidth suffix
  · have stated : statedWidth (pattern ++ ':' :: suffix) =
        .ok (some (BitVec.ofNat 32 (Nat.ofDigitChars 10 suffix 0))) := by
      unfold statedWidth
      simp only [back, readWidth_eq, if_pos width]
      exact if_neg (by simpa using single)
    have verdict : localError? (pattern ++ ':' :: suffix) =
        patternError? (pattern ++ ':' :: suffix) pattern := by
      unfold localError?
      rw [parts]
      exact if_pos width
    have spelled : segmentOf (pattern ++ ':' :: suffix) =
        { pattern := String.ofList pattern
          width := BitVec.ofNat 32 (Nat.ofDigitChars 10 suffix 0) } := by
      simp [segmentOf, piecePattern, pieceWidth, parts]
    rw [ofPiece_of_statedWidth stated, front, verdict, spelled]
    rfl
  · have stated : statedWidth (pattern ++ ':' :: suffix) =
        .error (.malformedWidth (String.ofList (pattern ++ ':' :: suffix))
          (String.ofList suffix)) := by
      unfold statedWidth
      simp only [back, readWidth_eq, if_neg width]
      exact if_neg (by simpa using single)
    have verdict : localError? (pattern ++ ':' :: suffix) =
        some (.malformedWidth (String.ofList (pattern ++ ':' :: suffix))
          (String.ofList suffix)) := by
      unfold localError?
      rw [parts]
      exact if_neg width
    rw [ofPiece_of_statedWidth_error stated, verdict, refuseOr_some]

/-- A piece with a second colon is refused for it. -/
theorem ofPiece_append_widths
    {pattern suffix : List Char}
    (plain : ':' ∉ pattern)
    (second : ':' ∈ suffix) :
    Segment.ofPiece (pattern ++ ':' :: suffix) =
      refuseOr (localError? (pattern ++ ':' :: suffix))
        (segmentOf (pattern ++ ':' :: suffix)) := by
  obtain ⟨parts, -, back⟩ := splitOn_append_colon plain suffix
  obtain ⟨first, next, rest, suffixParts⟩ := splitOn_of_mem second
  have stated : statedWidth (pattern ++ ':' :: suffix) =
      .error (.malformedSegment (String.ofList (pattern ++ ':' :: suffix)) .manyWidths) := by
    unfold statedWidth
    rw [back]
    exact if_pos (by simpa using second)
  have verdict : localError? (pattern ++ ':' :: suffix) =
      some (.malformedSegment (String.ofList (pattern ++ ':' :: suffix)) .manyWidths) := by
    unfold localError?
    rw [parts, suffixParts]
  rw [ofPiece_of_statedWidth_error stated, verdict, refuseOr_some]

/-- A piece is refused for the first thing that is wrong with it, or read as it is spelled. -/
theorem ofPiece_eq (piece : List Char) :
    Segment.ofPiece piece = refuseOr (localError? piece) (segmentOf piece) := by
  by_cases colon : ':' ∈ piece
  · obtain ⟨pattern, suffix, rfl, plain⟩ := List.eq_append_cons_of_mem colon
    by_cases second : ':' ∈ suffix
    · exact ofPiece_append_widths plain second
    · exact ofPiece_append_width plain second
  · exact ofPiece_of_not_mem colon

/-! ## Texts -/

/-- The reader cuts a text where the library's list function does. -/
theorem cut_eq_splitOn
    (separator : Char)
    (text : List Char) :
    Text.cut separator text = text.splitOn separator := by
  induction text with
  | nil => rfl
  | cons c rest inductionHypothesis =>
      rw [List.splitOn_cons_eq_if_modifyHead, Text.cut, inductionHypothesis]
      by_cases same : c = separator
      · rw [if_pos same, if_pos (beq_iff_eq.mpr same)]
      · rw [if_neg same, if_neg (mt beq_iff_eq.mp same)]
        obtain ⟨piece, pieces, parts⟩ :=
          List.exists_cons_of_ne_nil (List.splitOn_ne_nil separator rest)
        rw [parts]
        rfl

/-- A text is refused for its leftmost piece that is wrong on its own, or read piece by piece. -/
theorem listOfText_eq (bits : String) :
    Segment.listOfText bits =
      refuseOr ((pieces bits).findSome? localError?) ((pieces bits).map segmentOf) := by
  unfold Segment.listOfText
  rw [cut_eq_splitOn]
  exact mapM_eq_refuseOr fun piece _ => ofPiece_eq piece

/-- A text is read exactly when no piece of it is wrong on its own. -/
theorem listOfText_eq_ok_iff
    {bits : String}
    {segments : List Segment} :
    Segment.listOfText bits = .ok segments ↔
      (∀ piece ∈ pieces bits, localError? piece = none) ∧
        (pieces bits).map segmentOf = segments := by
  rw [listOfText_eq, refuseOr_eq_ok_iff, List.findSome?_eq_none_iff]

/-! ## Widths -/

theorem DenotesLiteral.length_pos
    {pattern : List Char}
    (literal : DenotesLiteral pattern) :
    0 < pattern.length :=
  List.length_pos_iff.mpr literal.1

/--
A piece with nothing wrong on its own has a positive width, which is less than the number of words
unless it is the number of a literal's digits.
-/
theorem pieceWidth_bounds
    {piece : List Char}
    (sound : localError? piece = none) :
    0 < pieceWidth piece ∧
      (pieceWidth piece < wordCount ∨
        DenotesLiteral (piecePattern piece) ∧ pieceWidth piece = (piecePattern piece).length) := by
  have one_lt : 1 < wordCount := by decide
  by_cases suffixed : ∃ pattern suffix, piece.splitOn ':' = [pattern, suffix]
  · obtain ⟨pattern, suffix, parts⟩ := suffixed
    have width : DenotesWidth suffix := by
      by_contra other
      simp [localError?, parts, other] at sound
    have value : pieceWidth piece = Nat.ofDigitChars 10 suffix 0 := by
      simp [pieceWidth, parts]
    rw [value]
    exact ⟨width.2.2.1, .inl width.2.2.2⟩
  · have unsuffixed : (piece.splitOn ':').tail = [] := by
      unfold localError? at sound
      split at sound
      · next parts => rw [parts]; rfl
      · next parts => rw [parts]; rfl
      · next parts => exact absurd ⟨_, _, parts⟩ suffixed
      · contradiction
    have value : pieceWidth piece =
        if DenotesLiteral (piecePattern piece) then (piecePattern piece).length else 1 := by
      simp [pieceWidth, unsuffixed]
    rw [value]
    by_cases literal : DenotesLiteral (piecePattern piece)
    · rw [if_pos literal]
      exact ⟨literal.length_pos, .inr ⟨literal, rfl⟩⟩
    · rw [if_neg literal]
      exact ⟨Nat.one_pos, .inl one_lt⟩

theorem width_segmentOf
    {piece : List Char}
    (small : pieceWidth piece < wordCount) :
    (segmentOf piece).width.toNat = pieceWidth piece := by
  have wordCount_eq : wordCount = 2 ^ 32 := by decide
  rw [segmentOf, BitVec.toNat_ofNat, Nat.mod_eq_of_lt (by omega)]

/-- A piece with nothing wrong on its own makes an operand only with a positive width. -/
theorem width_segmentOf_pos
    {piece : List Char}
    (sound : localError? piece = none)
    (operand : (segmentOf piece).isOperand = true) :
    0 < (segmentOf piece).width.toNat := by
  obtain ⟨positive, small | ⟨literal, -⟩⟩ := pieceWidth_bounds sound
  · rw [width_segmentOf small]
    exact positive
  · have kind : (segmentOf piece).kind =
        .literal (BitVec.ofNat 32 (Nat.ofDigitChars 2 (piecePattern piece) 0)) :=
      ofPattern_of_denotesLiteral literal
    simp [Segment.isOperand, kind] at operand

/-- Read from a text, an operand has a positive width. -/
theorem width_pos_of_listOfText
    {bits : String}
    {segments : List Segment}
    (read : Segment.listOfText bits = .ok segments)
    {segment : Segment}
    (member : segment ∈ segments)
    (operand : segment.isOperand = true) :
    0 < segment.width.toNat := by
  obtain ⟨sound, rfl⟩ := listOfText_eq_ok_iff.mp read
  obtain ⟨piece, pieceMember, rfl⟩ := List.mem_map.mp member
  exact width_segmentOf_pos (sound piece pieceMember) operand

/-- Cutting a text takes the separators out and keeps the rest. -/
theorem sum_length_splitOn
    (separator : Char)
    (text : List Char) :
    ((text.splitOn separator).map List.length).sum + (text.splitOn separator).length =
      text.length + 1 := by
  induction text with
  | nil => rfl
  | cons c rest inductionHypothesis =>
      obtain ⟨piece, pieces, parts⟩ :=
        List.exists_cons_of_ne_nil (List.splitOn_ne_nil separator rest)
      rw [parts] at inductionHypothesis
      rw [List.splitOn_cons_eq_if_modifyHead, parts]
      by_cases same : (c == separator) = true
      · rw [if_pos same]
        simp only [List.map_cons, List.sum_cons, List.length_cons, List.length_nil]
          at inductionHypothesis ⊢
        omega
      · rw [if_neg same]
        simp only [List.modifyHead_cons, List.map_cons, List.sum_cons, List.length_cons]
          at inductionHypothesis ⊢
        omega

theorem length_piecePattern_le (piece : List Char) :
    (piecePattern piece).length ≤ piece.length := by
  have total := sum_length_splitOn ':' piece
  obtain ⟨pattern, rest, parts⟩ :=
    List.exists_cons_of_ne_nil (List.splitOn_ne_nil ':' piece)
  rw [parts] at total
  simp only [piecePattern, parts, List.headD_cons]
  simp only [List.map_cons, List.sum_cons, List.length_cons] at total
  omega

end Pattern
end InstructionTable
