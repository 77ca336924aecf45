import InstructionTable.Proofs.Lexical.Numbers
import InstructionTable.Text

/-!
# Strings as tokens

A string literal stands for the characters between its quotes, with each escape read as the
character it stands for.  A text in quotes is read as one token, and it stands for the text.  Both
follow from what one escaped character is read as, whatever stands behind it.
-/

namespace InstructionTable
namespace Lexical

/-! ## What a string literal stands for -/

/-- The character that a letter behind a backslash stands for. -/
def letterValue? : Char → Option Char
  | 'n' => some '\n'
  | 'r' => some '\r'
  | 't' => some '\t'
  | '0' => some '\x00'
  | '\\' => some '\\'
  | '\'' => some '\''
  | '"' => some '"'
  | _ => none

/-- The character of two hexadecimal digits; the first is below eight. -/
def byteValue? (high low : Char) : Option Char :=
  match hexDigit? high, hexDigit? low with
  | some high, some low => if high < 8 then some (Char.ofNat (16 * high + low)) else none
  | _, _ => none

/-- Whether a character is left out behind an escaped end of line. -/
def isIndentation (c : Char) : Bool :=
  c == ' ' || c == '\t' || c == '\n' || c == '\r'

/--
The characters that a string stands for, from behind its opening quote to the end of the literal.
A carriage return counts only in front of a line feed, with which it is one.
-/
def stringCharacters? : List Char → Option (List Char)
  | [] => none
  | '"' :: rest => if rest.isEmpty then some [] else none
  | '\r' :: '\n' :: rest => (stringCharacters? rest).map ('\n' :: ·)
  | '\r' :: _ => none
  | '\\' :: 'x' :: high :: low :: rest =>
      match byteValue? high low with
      | some c => (stringCharacters? rest).map (c :: ·)
      | none => none
  | '\\' :: 'u' :: rest =>
      match found : readBraced? rest with
      | some (code, behind) =>
          have : behind.length < rest.length := length_of_readBraced? found
          (stringCharacters? behind).map (Char.ofNat code :: ·)
      | none => none
  | '\\' :: '\n' :: rest =>
      have : (rest.dropWhile isIndentation).length ≤ rest.length :=
        (List.dropWhile_suffix _).length_le
      stringCharacters? (rest.dropWhile isIndentation)
  | '\\' :: '\r' :: '\n' :: rest =>
      have : (rest.dropWhile isIndentation).length ≤ rest.length :=
        (List.dropWhile_suffix _).length_le
      stringCharacters? (rest.dropWhile isIndentation)
  | '\\' :: letter :: rest =>
      match letterValue? letter with
      | some c => (stringCharacters? rest).map (c :: ·)
      | none => none
  | c :: rest => if c == '\\' then none else (stringCharacters? rest).map (c :: ·)
termination_by text => text.length

/-- The text that a string literal stands for. -/
def stringValue? (literal : String) : Option String :=
  match literal.toList with
  | '"' :: rest => (stringCharacters? rest).map String.ofList
  | _ => none

/-! ## How a character is written in quotes -/

/-- The ways to write a character in quotes. -/
inductive Writes : Char → List Char → Prop where
  /-- A letter behind a backslash. -/
  | letter {letter c : Char} (value : letterValue? letter = some c) : Writes c ['\\', letter]
  /-- Two digits behind a backslash. -/
  | byte {high low c : Char} (value : byteValue? high low = some c) :
      Writes c ['\\', 'x', high, low]
  /-- The number of the character in braces. -/
  | number (c : Char) : Writes c (Text.escapeByNumber c)
  /-- The character itself. -/
  | itself {c : Char} (plain : c ∉ ['"', '\\', '\r']) : Writes c [c]

/-- The printed form of a character is a way to write it. -/
theorem writes_escapeChar (c : Char) : Writes c (Text.escapeChar c) := by
  unfold Text.escapeChar
  simp only [beq_iff_eq]
  split
  · next same =>
      subst same
      exact .letter rfl
  split
  · next same =>
      subst same
      exact .letter rfl
  split
  · next same =>
      subst same
      exact .letter rfl
  split
  · next same =>
      subst same
      exact .letter rfl
  split
  · next same =>
      subst same
      exact .letter rfl
  split
  · next same =>
      subst same
      exact .letter rfl
  split
  · exact .number c
  · exact .itself (by simp [*])

/-- The digits of a code point are read up to the brace behind them. -/
theorem readCodePoint?_append
    {digits rest : List Char}
    (all : ∀ c ∈ digits, IsDigitOf 16 c)
    {value count code : Nat}
    (worth : digitsValue? 16 value digits = some code)
    (any : 0 < count + digits.length)
    (few : count + digits.length ≤ 6)
    (valid : isCodePoint code = true) :
    readCodePoint? value count (digits ++ '\x7d' :: rest) = some (code, rest) := by
  induction digits generalizing value count with
  | nil =>
      injection worth with same
      subst same
      have notBrace : hexDigit? '\x7d' = none := rfl
      have counted : (count == 0) = false := beq_eq_false_iff_ne.mpr (by simp at any; omega)
      rw [List.nil_append, readCodePoint?, notBrace]
      simp [counted, valid]
  | cons c more inductionHypothesis =>
      obtain ⟨digit, small, read⟩ := all c List.mem_cons_self
      rw [digitsValue?, (all c List.mem_cons_self).beq_underscore, read] at worth
      simp only [Bool.false_eq_true, if_false, if_pos small] at worth
      rw [List.length_cons] at few
      have room : ¬(count == 6) = true := by
        rw [beq_iff_eq]
        omega
      rw [List.cons_append, readCodePoint?, read]
      dsimp only
      rw [if_neg room]
      exact inductionHypothesis (fun other member => all other (List.mem_cons_of_mem c member))
        worth (by omega) (by omega)

theorem isCodePoint_toNat (c : Char) : isCodePoint c.toNat = true := by
  have valid : c.toNat.isValidChar := c.valid
  unfold Nat.isValidChar at valid
  simp only [isCodePoint, Bool.or_eq_true, Bool.and_eq_true, decide_eq_true_eq]
  omega

/-- The number of a character in braces is read. -/
theorem readBraced?_escape
    (c : Char)
    (rest : List Char) :
    readBraced? ('\x7b' :: (Nat.toDigits 16 c.toNat ++ '\x7d' :: rest)) = some (c.toNat, rest) := by
  have valid := isCodePoint_toNat c
  have below : c.toNat < 16 ^ 6 := by
    simp only [isCodePoint, Bool.or_eq_true, Bool.and_eq_true, decide_eq_true_eq] at valid
    omega
  have few := (Nat.length_toDigits_le_iff (b := 16) (n := c.toNat) (k := 6) (by decide)
    (by decide)).mpr below
  have any := List.length_pos_of_ne_nil (Nat.toDigits_ne_nil (b := 16) (n := c.toNat))
  rw [readBraced?]
  exact readCodePoint?_append (fun other => isDigitOf_of_mem_toDigits (by decide) (by decide))
    (digitsValue?_toDigits (by decide) (by decide) c.toNat) (by omega) (by omega) valid

/-! ## One character in quotes -/

theorem skipEscaped?_cons
    {c : Char}
    (plain : c ∉ ['"', '\\', '\r'])
    (rest : List Char) :
    skipEscaped? .text (c :: rest) = skipEscaped? .text rest := by
  simp only [List.mem_cons, List.not_mem_nil, or_false, not_or] at plain
  conv => lhs; unfold skipEscaped?
  split <;> simp_all [Content.allows]

/-- Characters that are not special are left out of a string. -/
theorem skipEscaped?_append_of_plain
    {front : List Char}
    (plain : ∀ c ∈ front, c ∉ ['"', '\\', '\r'])
    (rest : List Char) :
    skipEscaped? .text (front ++ rest) = skipEscaped? .text rest := by
  induction front with
  | nil => rfl
  | cons c more inductionHypothesis =>
      rw [List.cons_append, skipEscaped?_cons (plain c List.mem_cons_self)]
      exact inductionHypothesis fun other member => plain other (List.mem_cons_of_mem c member)

/-- A number in braces has no special character. -/
theorem plain_of_mem_braces
    {number : Nat}
    {c : Char}
    (member : c ∈ '\x7b' :: Nat.toDigits 16 number ++ ['\x7d']) :
    c ∉ ['"', '\\', '\r'] := by
  rw [List.cons_append, List.mem_cons, List.mem_append, List.mem_singleton] at member
  obtain rfl | digit | rfl := member
  · decide
  · exact (isDigitOf_of_mem_toDigits (by decide) (by decide) digit).not_mem (by decide)
  · decide

/-- However a character is written, all of it is left out of a string. -/
theorem Writes.skipEscaped?_append
    {c : Char}
    {written : List Char}
    (writes : Writes c written)
    (rest : List Char) :
    skipEscaped? .text (written ++ rest) = skipEscaped? .text rest := by
  cases writes with
  | @letter letter _ value =>
      unfold letterValue? at value
      split at value <;> first | rfl | contradiction
  | @byte high low _ value =>
      have allowed : Content.text.allowsByte high low = true := by
        unfold byteValue? at value
        unfold Content.allowsByte
        cases readHigh : hexDigit? high with
        | none => simp [readHigh] at value
        | some highDigit =>
            cases readLow : hexDigit? low with
            | none => simp [readLow] at value
            | some lowDigit =>
                by_cases small : highDigit < 8
                · exact decide_eq_true small
                · simp [readHigh, readLow, small] at value
      simp [skipEscaped?, allowed]
  | number =>
      -- the number is read ahead, and what is in the braces is then left out like other characters
      have braces : ∀ other ∈ '\x7b' :: Nat.toDigits 16 c.toNat ++ ['\x7d'],
          other ∉ ['"', '\\', '\r'] := fun _ => plain_of_mem_braces
      have skipped := skipEscaped?_append_of_plain braces rest
      have allowed : Content.text.allowsBraced
          ('\x7b' :: (Nat.toDigits 16 c.toNat ++ '\x7d' :: rest)) = true := by
        rw [Content.allowsBraced, readBraced?_escape]
      simp only [List.cons_append, List.append_assoc, List.nil_append] at skipped
      simp only [Text.escapeByNumber, List.cons_append, List.append_assoc, List.nil_append,
        skipEscaped?, allowed, if_true]
      exact skipped
  | itself plain => exact skipEscaped?_cons plain rest

theorem stringCharacters?_cons
    {c : Char}
    (plain : c ∉ ['"', '\\', '\r'])
    (rest : List Char) :
    stringCharacters? (c :: rest) = (stringCharacters? rest).map (c :: ·) := by
  simp only [List.mem_cons, List.not_mem_nil, or_false, not_or] at plain
  conv => lhs; unfold stringCharacters?
  split <;> simp_all

/-- However a character is written, it is what a string stands for there. -/
theorem Writes.stringCharacters?_append
    {c : Char}
    {written : List Char}
    (writes : Writes c written)
    (rest : List Char) :
    stringCharacters? (written ++ rest) = (stringCharacters? rest).map (c :: ·) := by
  cases writes with
  | @letter letter _ value =>
      unfold letterValue? at value
      split at value
      case h_8 => contradiction
      all_goals
        injection value with same
        subst same
        simp [stringCharacters?, letterValue?]
  | @byte high low _ value => simp [stringCharacters?, value]
  | number =>
      simp only [Text.escapeByNumber, List.cons_append, List.append_assoc, List.nil_append]
      rw [stringCharacters?]
      split
      · rename_i code behind found
        rw [readBraced?_escape] at found
        injection found with same
        injection same with codeEq behindEq
        subst codeEq behindEq
        rw [Char.ofNat_toNat]
      · rename_i found
        rw [readBraced?_escape] at found
        contradiction
  | itself plain => exact stringCharacters?_cons plain rest

/-! ## A text in quotes -/

variable (style : Text.QuoteStyle)

/-- The first character of a text in quotes is written in some way, and the others behind it. -/
theorem exists_escape_cons
    (c : Char)
    (rest : List Char) :
    ∃ written, Writes c written ∧ style.escape (c :: rest) = written ++ style.escape rest := by
  rw [Text.QuoteStyle.escape]
  split
  · rename_i guarded
    simp only [Bool.and_eq_true, beq_iff_eq] at guarded
    exact ⟨['\\', 'x', '0', '0'], guarded.1.1 ▸ .byte rfl, rfl⟩
  · exact ⟨Text.escapeChar c, writes_escapeChar c, rfl⟩

/-- A text in quotes is a string up to its closing quote, whatever the text holds. -/
theorem skipEscaped?_escape
    (text rest : List Char) :
    skipEscaped? .text (style.escape text ++ '"' :: rest) = some (skipWord rest) := by
  induction text with
  | nil => rfl
  | cons c more inductionHypothesis =>
      obtain ⟨written, writes, escaped⟩ := exists_escape_cons style c more
      rw [escaped, List.append_assoc, writes.skipEscaped?_append]
      exact inductionHypothesis

/-- A text in quotes stands for the text. -/
theorem stringCharacters?_escape (text : List Char) :
    stringCharacters? (style.escape text ++ ['"']) = some text := by
  induction text with
  | nil => simp [Text.QuoteStyle.escape, stringCharacters?]
  | cons c more inductionHypothesis =>
      obtain ⟨written, writes, escaped⟩ := exists_escape_cons style c more
      rw [escaped, List.append_assoc, writes.stringCharacters?_append, inductionHypothesis]
      rfl

theorem toList_quote (text : String) :
    (style.quote text).toList = '"' :: (style.escape text.toList ++ ['"']) := by
  rw [Text.QuoteStyle.quote, String.toList_ofList]
  rfl

/-- A text in quotes is read up to the separator behind it. -/
theorem skipLiteral?_quote
    (text : String)
    {rest : List Char}
    (separated : isSeparated rest = true) :
    skipLiteral? ((style.quote text).toList ++ rest) = some rest := by
  have skipped : skipQuoted? ((style.quote text).toList ++ rest) = some rest := by
    rw [toList_quote, List.cons_append, List.append_assoc, skipQuoted?, skipString?]
    change (skipEscaped? .text (style.escape text.toList ++ '"' :: rest) <|> _) = _
    rw [skipEscaped?_escape, skipWord_of_isSeparated separated]
    rfl
  rw [skipLiteral?, skipped]
  rfl

theorem stringValue?_quote (text : String) : stringValue? (style.quote text) = some text := by
  rw [stringValue?, toList_quote]
  change (stringCharacters? (style.escape text.toList ++ ['"'])).map String.ofList = some text
  rw [stringCharacters?_escape, Option.map_some, String.ofList_toList]

end Lexical
end InstructionTable
