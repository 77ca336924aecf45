import InstructionTable.Lexical.Token
import Mathlib.Data.List.Basic

/-!
# The characters at the front of a token

What begins a word begins no comment, bracket, literal or mark, and what separates words does not go
on with one.  So the first characters of a text settle which of its readers refuse it.
-/

namespace InstructionTable

namespace Unicode

/-- A number that lies in some ranges lies in one of them. -/
theorem exists_range_of_inRanges
    {code : Nat}
    {ranges : List (Nat × Nat)}
    (inside : inRanges code ranges = true) :
    ∃ range ∈ ranges, range.1 ≤ code ∧ code ≤ range.2 := by
  induction ranges with
  | nil => simp [inRanges] at inside
  | cons range rest inductionHypothesis =>
      obtain ⟨first, last⟩ := range
      rw [inRanges] at inside
      split at inside
      · rename_i before
        exact ⟨(first, last), List.mem_cons_self, of_decide_eq_true inside, before⟩
      · obtain ⟨other, member, bounds⟩ := inductionHypothesis inside
        exact ⟨other, List.mem_cons_of_mem _ member, bounds⟩

/-- Whether no number lies in a range of either table. -/
def rangesApart (left right : List (Nat × Nat)) : Bool :=
  left.all fun former => right.all fun latter => former.2 < latter.1 || latter.2 < former.1

/-- A number in one of two tables that lie apart is not in the other. -/
theorem inRanges_eq_false_of_rangesApart
    {left right : List (Nat × Nat)}
    (apart : rangesApart left right = true)
    {code : Nat}
    (inside : inRanges code right = true) :
    inRanges code left = false := by
  apply Bool.eq_false_iff.mpr
  intro insideLeft
  obtain ⟨former, formerMember, formerBounds⟩ := exists_range_of_inRanges insideLeft
  obtain ⟨latter, latterMember, latterBounds⟩ := exists_range_of_inRanges inside
  have separated := List.all_eq_true.mp (List.all_eq_true.mp apart former formerMember)
    latter latterMember
  simp only [Bool.or_eq_true, decide_eq_true_eq] at separated
  omega

end Unicode

namespace Lexical

/-- The characters that end the word that they follow, wherever it is written. -/
def separators : List Char :=
  [' ', '\n', ',', ';', ':', '.', '(', ')', ']', '\x7d']

/-- Whether a character ends the word that it follows; all but the point end a number as well. -/
def isSeparator (c : Char) : Bool :=
  separators.contains c

/-- The characters that are brackets. -/
def bracketFronts : List Char :=
  ['(', '[', '\x7b', ')', ']', '\x7d']

/-- The characters that begin a literal in quotes, or its letters. -/
def quoteFronts : List Char :=
  ['"', 'r', 'b', 'c', '\'']

/-- Whether a text is at its end or goes on with a separator. -/
def isSeparated (text : List Char) : Bool :=
  text.head?.all isSeparator

/-- A text that goes on with a word, which may be empty, up to its end or to a separator. -/
def EndsWord (text : List Char) : Prop :=
  isSeparated (text.dropWhile continuesWord) = true

/-! ## Characters that are in no word -/

section Characters

variable {c : Char}

/-- A character that passes a check is none of those that all fail it. -/
theorem not_mem_of_passes
    {check : Char → Bool}
    (passes : check c = true)
    {others : List Char}
    (nowhere : others.all (fun other => !check other) = true) :
    c ∉ others := by
  intro member
  have refused := List.all_eq_true.mp nowhere c member
  rw [passes] at refused
  contradiction

/-- A character that begins a word may go on with one. -/
theorem continuesWord_of_beginsWord (begins : beginsWord c = true) : continuesWord c = true := by
  unfold beginsWord at begins
  rw [Bool.or_eq_true, beq_iff_eq] at begins
  obtain rfl | start := begins
  · decide +kernel
  · rw [continuesWord, Unicode.isIdentifierContinue, start, Bool.true_or]

/-- A character that begins a word lies in no ranges apart from those of all that do. -/
theorem inRanges_eq_false_of_beginsWord
    (begins : beginsWord c = true)
    {ranges : List (Nat × Nat)}
    (apart : Unicode.rangesApart ranges Unicode.identifierStartRanges = true)
    (underscore : Unicode.inRanges '_'.toNat ranges = false) :
    Unicode.inRanges c.toNat ranges = false := by
  unfold beginsWord at begins
  rw [Bool.or_eq_true, beq_iff_eq] at begins
  obtain rfl | start := begins
  · exact underscore
  · exact Unicode.inRanges_eq_false_of_rangesApart apart start

theorem isBlank_eq_false_of_beginsWord (begins : beginsWord c = true) : isBlank c = false := by
  have notMark := not_mem_of_passes begins
    (show ['\u200e', '\u200f'].all (fun other => !beginsWord other) = true by decide +kernel)
  have notWhite : Unicode.isWhiteSpace c = false :=
    inRanges_eq_false_of_beginsWord begins (by decide +kernel) (by decide)
  simp only [List.mem_cons, List.not_mem_nil, or_false, not_or] at notMark
  simp [isBlank, notWhite, notMark]

theorem isDigit_eq_false_of_beginsWord (begins : beginsWord c = true) : c.isDigit = false := by
  have outside : Unicode.inRanges c.toNat [('0'.toNat, '9'.toNat)] = false :=
    inRanges_eq_false_of_beginsWord begins (by decide +kernel) (by decide)
  apply Bool.eq_false_iff.mpr
  intro digit
  have bounds := Char.isDigit_iff_toNat.mp digit
  simp only [Unicode.inRanges, Char.reduceToNat] at bounds outside
  simp_all

/-- What fails for each separator fails for any. -/
theorem eq_false_of_isSeparator
    (separator : isSeparator c = true)
    (check : Char → Bool)
    (refused : separators.all (fun other => !check other) = true) :
    check c = false :=
  Bool.eq_false_iff.mpr fun passes =>
    not_mem_of_passes passes refused (List.contains_iff_mem.mp separator)

theorem continuesWord_eq_false_of_isSeparator
    (separator : isSeparator c = true) :
    continuesWord c = false :=
  eq_false_of_isSeparator separator continuesWord (by decide +kernel)

end Characters

/-! ## Where a word ends -/

@[simp]
theorem isSeparated_cons
    (c : Char)
    (tail : List Char) :
    isSeparated (c :: tail) = isSeparator c :=
  rfl

/-- No word stands at the front of a separated text. -/
theorem skipWord_of_isSeparated
    {rest : List Char}
    (separated : isSeparated rest = true) :
    skipWord rest = rest := by
  cases rest with
  | nil => rfl
  | cons c tail =>
      have refused : beginsWord c = false := by
        apply Bool.eq_false_iff.mpr
        intro begins
        have continued := continuesWord_of_beginsWord begins
        rw [continuesWord_eq_false_of_isSeparator separated] at continued
        contradiction
      simp [skipWord, readWord?, refused]

/-- A separated text has nothing of a word at its front. -/
theorem dropWhile_of_isSeparated
    {rest : List Char}
    (separated : isSeparated rest = true) :
    rest.dropWhile continuesWord = rest := by
  cases rest with
  | nil => rfl
  | cons c tail =>
      exact List.dropWhile_cons_of_neg
        (Bool.eq_false_iff.mp (continuesWord_eq_false_of_isSeparator separated))

theorem takeWhile_of_isSeparated
    {rest : List Char}
    (separated : isSeparated rest = true) :
    rest.takeWhile continuesWord = [] := by
  cases rest with
  | nil => rfl
  | cons c tail =>
      exact List.takeWhile_cons_of_neg
        (Bool.eq_false_iff.mp (continuesWord_eq_false_of_isSeparator separated))

/-- A word goes on to the separator behind it. -/
theorem EndsWord.of_continues
    {more rest : List Char}
    (continues : more.all continuesWord = true)
    (separated : isSeparated rest = true) :
    EndsWord (more ++ rest) := by
  unfold EndsWord
  rw [List.dropWhile_append_of_pos (List.all_eq_true.mp continues),
    dropWhile_of_isSeparated separated]
  exact separated

/-- What is left of a word that has not ended ends as the word does. -/
theorem EndsWord.tail
    {c : Char}
    {tail : List Char}
    (ends : EndsWord (c :: tail))
    (inside : isSeparator c = false) :
    EndsWord tail := by
  unfold EndsWord at ends
  rw [List.dropWhile_cons] at ends
  split at ends
  · exact ends
  · rw [isSeparated_cons, inside] at ends
    contradiction

/-- What neither separates nor goes on with a word does not stand where a word goes on or ends. -/
theorem EndsWord.head?_ne
    {text : List Char}
    (ends : EndsWord text)
    (other : Char)
    (inside : isSeparator other = false)
    (refused : continuesWord other = false) :
    text.head? ≠ some other := by
  intro first
  obtain ⟨tail, rfl⟩ := List.head?_eq_some_iff.mp first
  unfold EndsWord at ends
  rw [List.dropWhile_cons_of_neg (Bool.eq_false_iff.mp refused), isSeparated_cons, inside] at ends
  contradiction

/-! ## What a word is not -/

/-- A text that does not begin with the first of some characters does not begin with them. -/
theorem after?_eq_none
    {expected : Char}
    {more text : List Char}
    (other : text.head? ≠ some expected) :
    after? (expected :: more) text = none := by
  cases text with
  | nil => rfl
  | cons c tail =>
      have different : ¬(expected == c) = true := by
        rw [beq_iff_eq]
        rintro rfl
        exact other rfl
      rw [after?, if_neg different]

/-- A text whose second character is another does not begin with two or more characters. -/
theorem after?_cons_of_head?_ne
    {c expected next : Char}
    {more tail : List Char}
    (other : tail.head? ≠ some next) :
    after? (expected :: next :: more) (c :: tail) = none := by
  rw [after?, after?_eq_none other, ite_self]

theorem readDocumentation?_eq_none
    {c : Char}
    (other : c ≠ '/')
    (tail : List Char) :
    readDocumentation? (c :: tail) = none := by
  have none : skipDocComment? (c :: tail) = none := by
    unfold skipDocComment?
    split <;> simp_all
  rw [readDocumentation?, none]

theorem ofOpening?_eq_none
    {c : Char}
    (other : c ∉ bracketFronts) :
    Bracket.ofOpening? c = none := by
  simp only [bracketFronts, List.mem_cons, List.not_mem_nil, or_false, not_or] at other
  simp [Bracket.ofOpening?, Bracket.opening, Ne.symm other.1, Ne.symm other.2.1,
    Ne.symm other.2.2.1]

theorem ofClosing?_eq_none
    {c : Char}
    (other : c ∉ bracketFronts) :
    Bracket.ofClosing? c = none := by
  simp only [bracketFronts, List.mem_cons, List.not_mem_nil, or_false, not_or] at other
  simp [Bracket.ofClosing?, Bracket.closing, Ne.symm other.2.2.2.1, Ne.symm other.2.2.2.2.1,
    Ne.symm other.2.2.2.2.2]

theorem readBracket?_eq_none
    {c : Char}
    (other : c ∉ bracketFronts)
    (tail : List Char) :
    readBracket? (c :: tail) = none := by
  rw [readBracket?, ofOpening?_eq_none other, ofClosing?_eq_none other]

theorem readMark?_eq_none
    {c : Char}
    (other : c ∉ marks)
    (tail : List Char) :
    readMark? (c :: tail) = none := by
  simp [readMark?, other]

/-- Without a quote behind its hashes, a raw string is none. -/
theorem skipRaw?_eq_none
    {text : List Char}
    (other : (text.dropWhile (· == '#')).head? ≠ some '"')
    (content : Content) :
    skipRaw? content text = none := by
  unfold skipRaw?
  split
  · rename_i found
    rw [found] at other
    exact absurd rfl other
  · rfl

/-- A text is no string if neither a quote nor a raw string is behind the letters. -/
theorem skipString?_eq_none
    {letters text : List Char}
    (quote : after? (letters ++ ['"']) text = none)
    (raw : ∀ rest, after? (letters ++ ['r']) text = some rest →
      (rest.dropWhile (· == '#')).head? ≠ some '"')
    (content : Content) :
    skipString? content letters text = none := by
  rw [skipString?, quote]
  cases found : after? (letters ++ ['r']) text with
  | none => rfl
  | some rest => exact skipRaw?_eq_none (raw rest found) content

/-- What begins with no quote and no letter of a string is no literal in quotes. -/
theorem skipQuoted?_eq_none
    {c : Char}
    (other : c ∉ quoteFronts)
    (tail : List Char) :
    skipQuoted? (c :: tail) = none := by
  simp only [quoteFronts, List.mem_cons, List.not_mem_nil, or_false, not_or] at other
  have unmet (expected : Char) (more : List Char) (different : c ≠ expected) :
      after? (expected :: more) (c :: tail) = none :=
    after?_eq_none (by simpa using different)
  simp [skipQuoted?, skipString?, unmet, other]

theorem skipDecimal?_eq_none
    {c : Char}
    (noDigit : c.isDigit = false)
    (tail : List Char) :
    skipDecimal? (c :: tail) = none := by
  simp [skipDecimal?, skipDecimalDigits?, noDigit]

/-- What does not begin with a zero is an integer in base ten. -/
theorem readBase_of_ne_zero
    {c : Char}
    (other : c ≠ '0')
    (tail : List Char) :
    readBase (c :: tail) = (10, c :: tail) := by
  unfold readBase
  split <;> simp_all

theorem skipInteger?_eq_none
    {c : Char}
    (noDigit : c.isDigit = false)
    (tail : List Char) :
    skipInteger? (c :: tail) = none := by
  have notZero : c ≠ '0' := by
    rintro rfl
    contradiction
  have noDigits : skipDigits? 10 false (c :: tail) = none := by
    rw [skipDigits?]
    split
    · rfl
    · unfold hexDigit?
      simp only [noDigit, Bool.false_eq_true, if_false]
      grind
  rw [skipInteger?, readBase_of_ne_zero notZero, noDigits]
  rfl

end Lexical
end InstructionTable
