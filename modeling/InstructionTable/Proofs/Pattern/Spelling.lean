import InstructionTable.Proofs.Pattern.Grammar

/-!
# Segments as text

A row of segments is spelled with a width for every segment and bars between them.  The reader gives
the row back when its patterns can stand in a text, and it reads no others.
-/

namespace InstructionTable
namespace Pattern

/-- A pattern that can stand in a text. -/
structure Spellable (pattern : List Char) : Prop where
  /-- There is a character in it. -/
  nonempty : pattern ≠ []
  /-- It does not end at a bar. -/
  noBar : '|' ∉ pattern
  /-- It does not end at a colon. -/
  noColon : ':' ∉ pattern
  /-- A placeholder is closed. -/
  closed : pattern.head? = some '(' → pattern.getLast? = some ')'

/-- The piece that spells a segment. -/
def spelling (segment : Segment) : List Char :=
  segment.pattern.toList ++ ':' :: Nat.toDigits 10 segment.width.toNat

/-- The text that spells a row of segments. -/
def textOfList (segments : List Segment) : String :=
  String.ofList (['|'].intercalate (segments.map spelling))

theorem not_mem_toDigits
    {separator : Char}
    (noDigit : separator.isDigit = false)
    (number : Nat) :
    separator ∉ Nat.toDigits 10 number := by
  intro member
  rw [Nat.isDigit_of_mem_toDigits (by decide) (by decide) member] at noDigit
  contradiction

/-- A positive width is denoted by its decimal digits. -/
theorem denotesWidth_toDigits
    {width : BitVec 32}
    (positive : 0 < width.toNat) :
    DenotesWidth (Nat.toDigits 10 width.toNat) := by
  have wordCount_eq : wordCount = 2 ^ 32 := by decide
  refine ⟨Nat.toDigits_ne_nil, ?_, ?_, ?_⟩
  · intro digit member
    exact Nat.isDigit_of_mem_toDigits (by decide) (by decide) member
  · rw [Nat.ofDigitChars_ten_toDigits]
    exact positive
  · rw [Nat.ofDigitChars_ten_toDigits, wordCount_eq]
    exact width.isLt

namespace Spellable

variable {segment : Segment}

/-- A spelled segment falls into its pattern and its width. -/
theorem splitOn_spelling (spellable : Spellable segment.pattern.toList) :
    (spelling segment).splitOn ':' =
      [segment.pattern.toList, Nat.toDigits 10 segment.width.toNat] := by
  rw [spelling, (splitOn_append_colon spellable.noColon _).1,
    List.splitOn_eq_singleton (not_mem_toDigits (by decide) _)]

theorem bar_not_mem_spelling (spellable : Spellable segment.pattern.toList) :
    '|' ∉ spelling segment := by
  rw [spelling, List.mem_append, List.mem_cons, not_or, not_or]
  exact ⟨spellable.noBar, by decide, not_mem_toDigits (by decide) _⟩

/-- Nothing is wrong with a spelled segment. -/
theorem localError?_spelling
    (spellable : Spellable segment.pattern.toList)
    (positive : 0 < segment.width.toNat) :
    localError? (spelling segment) = none := by
  have terminated : ¬(segment.pattern.toList.head? = some '(' ∧
      segment.pattern.toList.getLast? ≠ some ')') :=
    fun unterminated => unterminated.2 (spellable.closed unterminated.1)
  unfold localError?
  rw [spellable.splitOn_spelling]
  change (if DenotesWidth _ then _ else _) = _
  rw [if_pos (denotesWidth_toDigits positive), patternError?, if_neg spellable.nonempty,
    if_neg terminated]

theorem segmentOf_spelling (spellable : Spellable segment.pattern.toList) :
    segmentOf (spelling segment) = segment := by
  unfold segmentOf piecePattern pieceWidth
  rw [spellable.splitOn_spelling]
  change Segment.mk (String.ofList segment.pattern.toList)
    (BitVec.ofNat 32 (Nat.ofDigitChars 10 (Nat.toDigits 10 segment.width.toNat) 0)) = segment
  rw [Nat.ofDigitChars_ten_toDigits, BitVec.ofNat_toNat, BitVec.setWidth_eq, String.ofList_toList]

end Spellable

/-- A row that is spelled is read again. -/
theorem listOfText_textOfList
    {segments : List Segment}
    (nonempty : segments ≠ [])
    (spellable : ∀ segment ∈ segments, Spellable segment.pattern.toList)
    (positive : ∀ segment ∈ segments, 0 < segment.width.toNat) :
    Segment.listOfText (textOfList segments) = .ok segments := by
  have cut : pieces (textOfList segments) = segments.map spelling := by
    unfold pieces textOfList
    rw [String.toList_ofList]
    apply List.splitOn_intercalate
    · intro piece member
      obtain ⟨segment, segmentMember, rfl⟩ := List.mem_map.mp member
      exact (spellable segment segmentMember).bar_not_mem_spelling
    · simpa using nonempty
  have sound : (segments.map spelling).findSome? localError? = none := by
    rw [List.findSome?_eq_none_iff]
    intro piece member
    obtain ⟨segment, segmentMember, rfl⟩ := List.mem_map.mp member
    exact (spellable segment segmentMember).localError?_spelling (positive segment segmentMember)
  have same : (segments.map spelling).map segmentOf = segments := by
    rw [List.map_map]
    calc
      segments.map (segmentOf ∘ spelling) = segments.map id :=
        List.map_congr_left fun segment member => (spellable segment member).segmentOf_spelling
      _ = segments := List.map_id segments
  rw [listOfText_eq, cut, sound, same, refuseOr_none]

/-- A piece between separators holds none. -/
theorem not_mem_of_mem_splitOn
    {separator : Char}
    {text piece : List Char}
    (member : piece ∈ text.splitOn separator) :
    separator ∉ piece := by
  induction text generalizing piece with
  | nil =>
      rw [List.splitOn_nil, List.mem_singleton] at member
      subst member
      exact List.not_mem_nil
  | cons c rest inductionHypothesis =>
      obtain ⟨first, others, parts⟩ :=
        List.exists_cons_of_ne_nil (List.splitOn_ne_nil separator rest)
      rw [List.splitOn_cons_eq_if_modifyHead, parts] at member
      rw [parts] at inductionHypothesis
      by_cases same : (c == separator) = true
      · rw [if_pos same, List.mem_cons] at member
        rcases member with rfl | behind
        · exact List.not_mem_nil
        · exact inductionHypothesis behind
      · rw [if_neg same, List.modifyHead_cons, List.mem_cons] at member
        rcases member with rfl | behind
        · rw [List.mem_cons, not_or]
          refine ⟨?_, inductionHypothesis List.mem_cons_self⟩
          rintro rfl
          exact same (beq_self_eq_true _)
        · exact inductionHypothesis (List.mem_cons_of_mem first behind)

/-- The pattern of a piece is what stands in front of its first colon. -/
theorem piecePattern_eq_takeWhile (piece : List Char) :
    piecePattern piece = piece.takeWhile (· != ':') := by
  unfold piecePattern
  by_cases colon : ':' ∈ piece
  · obtain ⟨pattern, suffix, rfl, plain⟩ := List.eq_append_cons_of_mem colon
    obtain ⟨parts, front, -⟩ := splitOn_append_colon plain suffix
    rw [parts, front, List.headD_cons]
  · obtain ⟨parts, front, -⟩ := splitOn_of_not_mem colon
    rw [parts, front, List.headD_cons]

/-- When nothing is wrong with a piece, nothing is wrong with its pattern. -/
theorem patternError?_piecePattern
    {piece : List Char}
    (sound : localError? piece = none) :
    patternError? piece (piecePattern piece) = none := by
  unfold localError? at sound
  unfold piecePattern
  cases parts : piece.splitOn ':' with
  | nil => exact absurd parts (List.splitOn_ne_nil ':' piece)
  | cons pattern rest =>
      rw [parts] at sound
      cases rest with
      | nil => exact sound
      | cons suffix more =>
          cases more with
          | cons => contradiction
          | nil =>
              change (if DenotesWidth suffix then _ else _) = none at sound
              by_cases width : DenotesWidth suffix
              · rwa [if_pos width] at sound
              · rw [if_neg width] at sound
                contradiction

/-- The patterns that are read from a text can stand in it. -/
theorem spellable_of_listOfText
    {bits : String}
    {segments : List Segment}
    (read : Segment.listOfText bits = .ok segments)
    {segment : Segment}
    (member : segment ∈ segments) :
    Spellable segment.pattern.toList := by
  obtain ⟨sound, rfl⟩ := listOfText_eq_ok_iff.mp read
  obtain ⟨piece, pieceMember, rfl⟩ := List.mem_map.mp member
  have clear := patternError?_piecePattern (sound piece pieceMember)
  unfold patternError? at clear
  rw [segmentOf, String.toList_ofList]
  by_cases empty : piecePattern piece = []
  · simp [empty] at clear
  · rw [if_neg empty] at clear
    refine ⟨empty, ?_, ?_, ?_⟩
    · intro bar
      rw [piecePattern_eq_takeWhile] at bar
      exact not_mem_of_mem_splitOn pieceMember (List.takeWhile_subset _ bar)
    · intro colon
      rw [piecePattern_eq_takeWhile] at colon
      exact absurd (List.mem_takeWhile_imp colon) (by simp)
    · intro opens
      by_contra unclosed
      rw [if_pos ⟨opens, unclosed⟩] at clear
      contradiction

end Pattern
end InstructionTable
