import InstructionTable.Proofs.Lexical.Characters

/-!
# Words as tokens

A word is read back as one token from any text in which a separator follows it, or nothing at all.
Conversely, every word that is read has the characters of one.
-/

namespace InstructionTable
namespace Lexical

/-- The characters of a word. -/
structure IsWord (name : List Char) : Prop where
  /-- The first character may begin a word, and there is one. -/
  begins : name.head?.any beginsWord = true
  /-- All others may go on with a word. -/
  continues : name.tail.all continuesWord = true

section Word

variable {c : Char} {tail : List Char}

/-- Where a word goes on or ends, no hash and no quote stand. -/
theorem EndsWord.head?_dropWhile_hash_ne
    (ends : EndsWord tail) :
    (tail.dropWhile (· == '#')).head? ≠ some '"' := by
  have noHash := ends.head?_ne '#' (by decide) (by decide)
  have noQuote := ends.head?_ne '"' (by decide) (by decide)
  cases tail with
  | nil => simp
  | cons next more =>
      have different : ¬(next == '#') = true := by
        rw [beq_iff_eq]
        rintro rfl
        exact noHash rfl
      rw [List.dropWhile_cons, if_neg different]
      exact noQuote

/-- A word is no string with a letter in front. -/
theorem skipString?_letter_of_endsWord
    (ends : EndsWord tail)
    (content : Content)
    (letter : Char) :
    skipString? content [letter] (c :: tail) = none := by
  apply skipString?_eq_none
  · exact after?_cons_of_head?_ne (ends.head?_ne _ (by decide) (by decide))
  · intro rest found
    have whole := eq_append_of_after? found
    injection whole with _ tailEq
    subst tailEq
    exact (ends.tail (by decide)).head?_dropWhile_hash_ne

/-- A word is no literal. -/
theorem skipLiteral?_of_endsWord
    (begins : beginsWord c = true)
    (ends : EndsWord tail) :
    skipLiteral? (c :: tail) = none := by
  have noQuote := not_mem_of_passes begins (show ['"', '\''].all _ = true by decide)
  simp only [List.mem_cons, List.not_mem_nil, or_false, not_or] at noQuote
  have noDigit := isDigit_eq_false_of_beginsWord begins
  have noText : skipString? .text [] (c :: tail) = none := by
    apply skipString?_eq_none
    · exact after?_eq_none (by simp [noQuote])
    · intro rest found
      have whole := eq_append_of_after? found
      injection whole with _ tailEq
      subst tailEq
      exact ends.head?_dropWhile_hash_ne
  have noByte : after? ['b', '\''] (c :: tail) = none :=
    after?_cons_of_head?_ne (ends.head?_ne _ (by decide) (by decide))
  have noCharacter : after? ['\''] (c :: tail) = none := after?_eq_none (by simp [noQuote])
  rw [skipLiteral?, skipQuoted?, noText, skipString?_letter_of_endsWord ends,
    skipString?_letter_of_endsWord ends, noByte, noCharacter, skipDecimal?_eq_none noDigit,
    skipInteger?_eq_none noDigit]
  rfl

/-- A word marked as no keyword is no literal. -/
theorem skipLiteral?_of_raw
    (begins : beginsWord c = true) :
    skipLiteral? ('r' :: '#' :: c :: tail) = none := by
  have plain := not_mem_of_passes begins (show ['"', '#'].all _ = true by decide)
  simp only [List.mem_cons, List.not_mem_nil, or_false, not_or] at plain
  have noText : skipString? .text [] ('r' :: '#' :: c :: tail) = none := by
    apply skipString?_eq_none
    · rfl
    · intro rest found
      have whole := eq_append_of_after? found
      injection whole with _ restEq
      subst restEq
      simp [plain]
  rw [skipLiteral?, skipQuoted?, noText, skipDecimal?_eq_none (by decide),
    skipInteger?_eq_none (by decide)]
  rfl

end Word

/-- A word is not the front of a literal. -/
theorem literalFronts_any_of_endsWord
    {c : Char}
    {tail : List Char}
    (ends : EndsWord tail) :
    literalFronts.any (startsWith · (c :: tail)) = false := by
  have noQuote := ends.head?_ne '"' (by decide) (by decide)
  have noHash := ends.head?_ne '#' (by decide) (by decide)
  have noApostrophe := ends.head?_ne '\'' (by decide) (by decide)
  -- behind a second letter the word goes on or ends as behind the first
  have noThird (first third : Char) (sought : third = '"' ∨ third = '#') :
      after? [first, 'r', third] (c :: tail) = none := by
    cases tail with
    | nil => rw [after?_cons_of_head?_ne (by simp)]
    | cons next more =>
        rw [after?]
        split
        · by_cases letter : 'r' = next
          · subst letter
            have moreEnds := ends.tail (by decide)
            have noThird : more.head? ≠ some third := by
              obtain rfl | rfl := sought <;> exact moreEnds.head?_ne _ (by decide) (by decide)
            exact after?_cons_of_head?_ne noThird
          · exact after?_eq_none (by simpa using Ne.symm letter)
        · rfl
  simp [literalFronts, startsWith, after?_cons_of_head?_ne noQuote,
    after?_cons_of_head?_ne noHash, after?_cons_of_head?_ne noApostrophe, noThird]

theorem IsWord.exists_eq_cons
    {name : List Char}
    (word : IsWord name) :
    ∃ c more, name = c :: more ∧ beginsWord c = true ∧ more.all continuesWord = true := by
  cases name with
  | nil => exact absurd word.begins (by simp)
  | cons c more => exact ⟨c, more, rfl, by simpa using word.begins, word.continues⟩

/-- A word is read up to the separator behind it. -/
theorem readWord?_append
    {name rest : List Char}
    (word : IsWord name)
    (separated : isSeparated rest = true) :
    readWord? (name ++ rest) = some (name, rest) := by
  obtain ⟨c, more, rfl, begins, continues⟩ := word.exists_eq_cons
  have all := List.all_eq_true.mp continues
  rw [List.cons_append, readWord?, if_pos begins, List.takeWhile_append_of_pos all,
    List.dropWhile_append_of_pos all, takeWhile_of_isSeparated separated,
    dropWhile_of_isSeparated separated, List.append_nil]

/-- A word that is not marked is read up to the separator behind it. -/
theorem readWordToken?_append
    {name rest : List Char}
    (word : IsWord name)
    (separated : isSeparated rest = true) :
    readWordToken? (name ++ rest) = some (.word false (String.ofList name), rest) := by
  have read := readWord?_append word separated
  obtain ⟨c, more, rfl, begins, continues⟩ := word.exists_eq_cons
  have ends := EndsWord.of_continues continues separated
  rw [List.cons_append] at read ⊢
  have notRaw : after? ['r', '#'] (c :: (more ++ rest)) = none :=
    after?_cons_of_head?_ne (ends.head?_ne _ (by decide) (by decide))
  rw [readWordToken?, literalFronts_any_of_endsWord ends, readAnyWord?, notRaw, read]
  rfl

/-- A word that is marked is read up to the separator behind it, if it can be marked. -/
theorem readWordToken?_append_of_raw
    {name rest : List Char}
    (word : IsWord name)
    (allowed : String.ofList name ∉ neverRaw)
    (separated : isSeparated rest = true) :
    readWordToken? ('r' :: '#' :: (name ++ rest)) = some (.word true (String.ofList name), rest) := by
  have read := readWord?_append word separated
  obtain ⟨c, more, rfl, begins, continues⟩ := word.exists_eq_cons
  rw [List.cons_append] at read ⊢
  have plain := not_mem_of_passes begins (show ['"', '#'].all _ = true by decide)
  simp only [List.mem_cons, List.not_mem_nil, or_false, not_or] at plain
  have noFront : literalFronts.any (startsWith · ('r' :: '#' :: c :: (more ++ rest))) = false := by
    simp [literalFronts, startsWith, after?, Ne.symm plain.1, Ne.symm plain.2]
  have marked : after? ['r', '#'] ('r' :: '#' :: c :: (more ++ rest)) =
      some (c :: (more ++ rest)) := rfl
  have notNever : ¬neverRaw.contains (String.ofList (c :: more)) = true := by
    rwa [List.contains_iff_mem]
  rw [readWordToken?, noFront, readAnyWord?, marked]
  simp only [Bool.false_eq_true, if_false, read, if_neg notNever]

/-- Whether a token that is a word has the characters of one, and may be marked if it is. -/
def Token.WellSpelled : Token → Prop
  | .word raw name => IsWord name.toList ∧ (raw = true → name ∉ neverRaw)
  | _ => True

/-- A word is read back up to the separator behind it. -/
theorem readToken?_word
    {raw : Bool}
    {name : String}
    (wellSpelled : (Token.word raw name).WellSpelled)
    {rest : List Char}
    (separated : isSeparated rest = true) :
    readToken? ((Token.word raw name).text.toList ++ rest) = some (.word raw name, rest) := by
  obtain ⟨word, allowed⟩ := wellSpelled
  cases raw with
  | false =>
      have read := readWordToken?_append word separated
      obtain ⟨c, more, same, begins, continues⟩ := word.exists_eq_cons
      have ends := EndsWord.of_continues continues separated
      rw [String.ofList_toList] at read
      simp only [Token.text, Bool.false_eq_true, if_false]
      rw [same, List.cons_append] at read ⊢
      have noSlash := not_mem_of_passes begins (show ['/'].all _ = true by decide)
      rw [readToken?, readDocumentation?_eq_none (by simpa using noSlash),
        readBracket?_eq_none (not_mem_of_passes begins (by decide)), readLiteral?,
        skipLiteral?_of_endsWord begins ends,
        readMark?_eq_none (not_mem_of_passes begins (by decide)), read]
      rfl
  | true =>
      have read := readWordToken?_append_of_raw word
        (by simpa only [String.ofList_toList] using allowed rfl) separated
      obtain ⟨c, more, same, begins, continues⟩ := word.exists_eq_cons
      rw [String.ofList_toList] at read
      have text : (Token.word true name).text.toList ++ rest =
          'r' :: '#' :: (name.toList ++ rest) := by
        simp [Token.text]
      rw [text]
      rw [same, List.cons_append] at read ⊢
      rw [readToken?, readDocumentation?_eq_none (by decide), readBracket?_eq_none (by decide),
        readLiteral?, skipLiteral?_of_raw begins, readMark?_eq_none (by decide), read]
      rfl

/-! ## What is read as a word is one -/

theorem isWord_of_readWord?
    {text name rest : List Char}
    (read : readWord? text = some (name, rest)) :
    IsWord name := by
  unfold readWord? at read
  split at read
  · contradiction
  · rename_i c tail
    split at read
    · rename_i begins
      injection read with same
      injection same with nameEq
      subst nameEq
      exact
        { begins := by simpa using begins
          continues := List.all_takeWhile }
    · contradiction

/-- A word that is read is well spelled. -/
theorem wellSpelled_of_readAnyWord?
    {text rest : List Char}
    {token : Token}
    (read : readAnyWord? text = some (token, rest)) :
    token.WellSpelled := by
  unfold readAnyWord? at read
  split at read
  · split at read
    · rename_i name behind found
      injection read with same
      injection same with tokenEq
      subst tokenEq
      refine ⟨?_, by simp⟩
      rw [String.toList_ofList]
      exact isWord_of_readWord? found
    · contradiction
  · split at read
    · rename_i name behind found
      split at read
      · contradiction
      · rename_i allowed
        injection read with same
        injection same with tokenEq
        subst tokenEq
        refine ⟨?_, fun _ => by simpa using allowed⟩
        rw [String.toList_ofList]
        exact isWord_of_readWord? found
    · contradiction

/-- A token that is read is well spelled. -/
theorem wellSpelled_of_readToken?
    {text rest : List Char}
    {token : Token}
    (read : readToken? text = some (token, rest)) :
    token.WellSpelled := by
  cases token with
  | word raw name =>
      simp only [readToken?, Option.orElse_eq_orElse, Option.orElse_eq_or, Option.or_eq_some_iff]
        at read
      rcases read with found | ⟨_, found | ⟨_, found | ⟨_, found | ⟨_, found⟩⟩⟩⟩
      · unfold readDocumentation? at found
        grind
      · unfold readBracket? at found
        grind
      · unfold readLiteral? at found
        grind
      · unfold readMark? at found
        grind
      · unfold readWordToken? at found
        split at found
        · contradiction
        · exact wellSpelled_of_readAnyWord? found
  | _ => trivial

theorem wellSpelled_of_cutTokens?
    {text : List Char}
    {tokens : List Token}
    (cut : cutTokens? text = some tokens)
    {token : Token}
    (member : token ∈ tokens) :
    token.WellSpelled := by
  fun_induction cutTokens? text generalizing tokens with
  | case1 text start =>
      injection cut with same
      subst same
      contradiction
  | case2 => contradiction
  | case3 text c tail start first rest found shorter inductionHypothesis =>
      obtain ⟨others, cutRest, rfl⟩ := Option.map_eq_some_iff.mp cut
      obtain rfl | behind := List.mem_cons.mp member
      · exact wellSpelled_of_readToken? found
      · exact inductionHypothesis cutRest behind

/-- The tokens of a text are well spelled. -/
theorem wellSpelled_of_tokens?
    {text : String}
    {tokens : List Token}
    (cut : tokens? text = some tokens)
    {token : Token}
    (member : token ∈ tokens) :
    token.WellSpelled := by
  unfold tokens? at cut
  split at cut
  all_goals
    dsimp only at cut
    split at cut
    · rename_i found
      split at cut
      · injection cut with same
        subst same
        exact wellSpelled_of_cutTokens? found member
      · contradiction
    · contradiction

end Lexical
end InstructionTable
