import InstructionTable.Lexical.Word

/-!
# Literals

A literal is left out to its end, and with it a word right behind it.
-/

namespace InstructionTable
namespace Lexical

/-!
## Quoted literals

There are strings of text, of bytes and of text that must not hold NUL, each in a form with escapes
and a raw form, and there are single characters and single bytes in quotes.  Each reader takes what
follows the opening of a literal and gives what follows the literal.  A word right behind a literal
belongs to it.
-/

/-- What a string may hold. -/
inductive Content where
  /-- Any characters. -/
  | text
  /-- ASCII characters, and any byte as an escape. -/
  | bytes
  /-- Any characters but NUL, and any byte but zero as an escape. -/
  | terminated
deriving DecidableEq, Repr

namespace Content

/-- Whether a character may stand in a string by itself. -/
def allows : Content → Char → Bool
  | text, _ => true
  | bytes, c => c.toNat < 0x80
  | terminated, c => c != '\x00'

end Content

/-- The number of a hexadecimal digit. -/
def hexDigit? (c : Char) : Option Nat :=
  if c.isDigit then some (c.toNat - '0'.toNat)
  else if 'a' ≤ c && c ≤ 'f' then some (c.toNat - 'a'.toNat + 10)
  else if 'A' ≤ c && c ≤ 'F' then some (c.toNat - 'A'.toNat + 10)
  else none

/-- Whether two digits make an escape by number. -/
def Content.allowsByte
    (content : Content)
    (high low : Char) :
    Bool :=
  match hexDigit? high, hexDigit? low with
  | some high, some low =>
      match content with
      | text => high < 8
      | bytes => true
      | terminated => high != 0 || low != 0
  | _, _ => false

/-- Whether a letter makes an escape by itself. -/
def Content.allowsLetter
    (content : Content)
    (letter : Char) :
    Bool :=
  ['n', 'r', 't', '\\', '\'', '"'].contains letter || (letter == '0' && content != terminated)

/-- Whether a number is that of a character. -/
def isCodePoint (code : Nat) : Bool :=
  code < 0xD800 || (0xE000 ≤ code && code < 0x110000)

/--
The code point written by the digits at the front of a text, up to a closing brace.  There are one
to six digits, and underscores behind the first.
-/
def readCodePoint? (value count : Nat) : List Char → Option (Nat × List Char)
  | [] => none
  | c :: rest =>
      match hexDigit? c with
      | some digit =>
          if count == 6 then none else readCodePoint? (16 * value + digit) (count + 1) rest
      | none =>
          if count == 0 then none
          else if c == '_' then readCodePoint? value count rest
          else if c == '\x7d' && isCodePoint value then some (value, rest)
          else none

/-- The code point of an escape in braces. -/
def readBraced? : List Char → Option (Nat × List Char)
  | '\x7b' :: rest => readCodePoint? 0 0 rest
  | _ => none

/-- Whether a string of this content may hold the escape in braces at the front of a text. -/
def Content.allowsBraced
    (content : Content)
    (rest : List Char) :
    Bool :=
  match readBraced? rest with
  | none => false
  | some (code, _) =>
      match content with
      | text => true
      | bytes => false
      | terminated => code != 0

/--
Read a string with escapes up to its closing quote.  What an escape in braces holds may stand in
the string by itself, so it need not be left out; neither need the blanks behind an escaped end of
line.
-/
def skipEscaped? (content : Content) : List Char → Option (List Char)
  | [] => none
  | '"' :: rest => some (skipWord rest)
  | '\r' :: '\n' :: rest => skipEscaped? content rest
  | '\r' :: _ => none
  | '\\' :: 'x' :: high :: low :: rest =>
      if content.allowsByte high low then skipEscaped? content rest else none
  | '\\' :: 'u' :: rest =>
      if content.allowsBraced rest then skipEscaped? content rest else none
  | '\\' :: '\n' :: rest => skipEscaped? content rest
  | '\\' :: '\r' :: '\n' :: rest => skipEscaped? content rest
  | '\\' :: letter :: rest =>
      if content.allowsLetter letter then skipEscaped? content rest else none
  | c :: rest => if c != '\\' && content.allows c then skipEscaped? content rest else none

/-- Read a raw string up to the quote that is followed by the given number of hashes. -/
def skipRawBody? (content : Content) (hashes : Nat) : List Char → Option (List Char)
  | [] => none
  | '\r' :: '\n' :: rest => skipRawBody? content hashes rest
  | '\r' :: _ => none
  | c :: rest =>
      if c == '"' && startsWith (List.replicate hashes '#') rest then
        some (skipWord (rest.drop hashes))
      else if content.allows c then
        skipRawBody? content hashes rest
      else
        none

/-- The largest number of hashes around a raw string. -/
def mostHashes : Nat := 255

/-- Read a raw string behind its letters: hashes, a quote, and the same hashes behind a quote. -/
def skipRaw?
    (content : Content)
    (text : List Char) :
    Option (List Char) :=
  let hashes := (text.takeWhile (· == '#')).length
  match text.dropWhile (· == '#') with
  | '"' :: rest => if hashes ≤ mostHashes then skipRawBody? content hashes rest else none
  | _ => none

/-- Read the closing quote of a single character or byte. -/
def skipClosing? : List Char → Option (List Char)
  | '\'' :: rest => some (skipWord rest)
  | _ => none

/-- Read a character behind its opening quote. -/
def skipCharacter? : List Char → Option (List Char)
  | [] => none
  | '\\' :: 'x' :: high :: low :: rest =>
      if Content.text.allowsByte high low then skipClosing? rest else none
  | '\\' :: 'u' :: rest =>
      match readBraced? rest with
      | some (_, rest) => skipClosing? rest
      | none => none
  | '\\' :: letter :: rest => if Content.text.allowsLetter letter then skipClosing? rest else none
  | c :: rest => if c != '\\' then skipClosing? rest else none

/-- Read a byte behind its opening quote. -/
def skipByte? : List Char → Option (List Char)
  | [] => none
  | '\\' :: 'x' :: high :: low :: rest =>
      if Content.bytes.allowsByte high low then skipClosing? rest else none
  | '\\' :: letter :: rest => if Content.bytes.allowsLetter letter then skipClosing? rest else none
  | c :: rest => if c != '\\' && Content.bytes.allows c then skipClosing? rest else none

/-- Read a string with the given letters in front: escapes behind a quote, or else a raw string. -/
def skipString?
    (content : Content)
    (letters : List Char)
    (text : List Char) :
    Option (List Char) :=
  match after? (letters ++ ['"']) text with
  | some rest => skipEscaped? content rest
  | none => (after? (letters ++ ['r']) text).bind (skipRaw? content)

/-- Read a literal in quotes. -/
def skipQuoted? (text : List Char) : Option (List Char) :=
  (skipString? .text [] text)
    <|> (skipString? .bytes ['b'] text)
    <|> (skipString? .terminated ['c'] text)
    <|> ((after? ['b', '\''] text).bind skipByte?)
    <|> ((after? ['\''] text).bind skipCharacter?)

theorem length_of_skipEscaped?
    {content : Content}
    {text rest : List Char}
    (skipped : skipEscaped? content text = some rest) :
    rest.length < text.length := by
  fun_induction skipEscaped? content text <;> grind [length_skipWord]

theorem length_of_skipRawBody?
    {content : Content}
    {hashes : Nat}
    {text rest : List Char}
    (skipped : skipRawBody? content hashes text = some rest) :
    rest.length < text.length := by
  fun_induction skipRawBody? content hashes text <;> grind [length_skipWord]

theorem length_of_skipRaw?
    {content : Content}
    {text rest : List Char}
    (skipped : skipRaw? content text = some rest) :
    rest.length < text.length := by
  have shorter := (List.dropWhile_suffix (· == '#') (l := text)).length_le
  unfold skipRaw? at skipped
  grind [→ length_of_skipRawBody?]

theorem length_of_readCodePoint?
    {value count code : Nat}
    {text rest : List Char}
    (read : readCodePoint? value count text = some (code, rest)) :
    rest.length < text.length := by
  fun_induction readCodePoint? value count text <;> grind

theorem length_of_readBraced?
    {code : Nat}
    {text rest : List Char}
    (read : readBraced? text = some (code, rest)) :
    rest.length < text.length := by
  unfold readBraced? at read
  grind [→ length_of_readCodePoint?]

theorem length_of_skipClosing?
    {text rest : List Char}
    (skipped : skipClosing? text = some rest) :
    rest.length < text.length := by
  unfold skipClosing? at skipped
  grind [length_skipWord]

theorem length_of_skipCharacter?
    {text rest : List Char}
    (skipped : skipCharacter? text = some rest) :
    rest.length < text.length := by
  unfold skipCharacter? at skipped
  grind [→ length_of_skipClosing?, → length_of_readBraced?]

theorem length_of_skipByte?
    {text rest : List Char}
    (skipped : skipByte? text = some rest) :
    rest.length < text.length := by
  unfold skipByte? at skipped
  grind [→ length_of_skipClosing?]

theorem length_of_skipString?
    {content : Content}
    {letters text rest : List Char}
    (skipped : skipString? content letters text = some rest) :
    rest.length < text.length := by
  unfold skipString? at skipped
  split at skipped
  · rename_i found
    have whole := length_of_after? found
    have shorter := length_of_skipEscaped? skipped
    omega
  · obtain ⟨tail, found, raw⟩ := Option.bind_eq_some_iff.1 skipped
    have whole := length_of_after? found
    have shorter := length_of_skipRaw? raw
    omega

theorem length_of_skipQuoted?
    {text rest : List Char}
    (skipped : skipQuoted? text = some rest) :
    rest.length < text.length := by
  simp only [skipQuoted?, Option.orElse_eq_orElse, Option.orElse_eq_or, Option.or_eq_some_iff]
    at skipped
  rcases skipped with found | ⟨_, found | ⟨_, found | ⟨_, found | ⟨_, found⟩⟩⟩⟩
  · exact length_of_skipString? found
  · exact length_of_skipString? found
  · exact length_of_skipString? found
  · obtain ⟨tail, opened, byte⟩ := Option.bind_eq_some_iff.1 found
    have whole := length_of_after? opened
    have shorter := length_of_skipByte? byte
    omega
  · obtain ⟨tail, opened, character⟩ := Option.bind_eq_some_iff.1 found
    have whole := length_of_after? opened
    have shorter := length_of_skipCharacter? character
    omega

/-!
## Number literals

A number is an integer in base ten, two, eight or sixteen, or a decimal with a point or an exponent.
Underscores may stand between digits.  A word right behind a number belongs to it.
-/

/-- Whether a character may stand between the digits of a decimal. -/
def isDigitOrUnderscore (c : Char) : Bool :=
  c.isDigit || c == '_'

/--
Read an exponent behind its letter: a sign, if there is one, and at least one digit.  Underscores
may stand anywhere but are no digits.
-/
def skipExponent? (signed valued : Bool) : List Char → Option (List Char)
  | [] => if valued then some [] else none
  | c :: rest =>
      if c == '+' || c == '-' then
        if valued then some (c :: rest)
        else if signed then none
        else skipExponent? true false rest
      else if c.isDigit then skipExponent? signed true rest
      else if c == '_' then skipExponent? signed valued rest
      else if valued then some (c :: rest)
      else none

/-- Read what may follow the digits of a decimal; without a good exponent, the given part stands. -/
def skipDecimalTail?
    (withoutExponent : Option (List Char))
    (text : List Char) :
    Option (List Char) :=
  match text with
  | [] => withoutExponent
  | c :: rest =>
      if c == 'e' || c == 'E' then
        match skipExponent? false false rest with
        | some rest => some rest
        | none => withoutExponent
      else
        withoutExponent

/--
Read the digits of a decimal, which needs a point or an exponent.  Behind the point there must not
be another point or a word.  When what looks like an exponent is none, the letter is not read.
-/
def skipDecimalDigits? (text : List Char) : Option (List Char) :=
  match text with
  | [] => none
  | first :: _ =>
      if !first.isDigit then
        none
      else
        match text.dropWhile isDigitOrUnderscore with
        | '.' :: rest =>
            if rest.head?.any (fun c => c == '.' || beginsWord c) then none
            else
              let behind := rest.dropWhile isDigitOrUnderscore
              skipDecimalTail? (some behind) behind
        | rest => skipDecimalTail? none rest

/-- Leave out the word behind a number; after that nothing may go on with a word. -/
def endNumber? (text : List Char) : Option (List Char) :=
  let rest := skipWord text
  if rest.head?.any continuesWord then none else some rest

/-- Read a decimal. -/
def skipDecimal? (text : List Char) : Option (List Char) :=
  (skipDecimalDigits? text).bind endNumber?

/-- The base of an integer, and its digits. -/
def readBase (text : List Char) : Nat × List Char :=
  match text with
  | '0' :: 'x' :: rest => (16, rest)
  | '0' :: 'o' :: rest => (8, rest)
  | '0' :: 'b' :: rest => (2, rest)
  | _ => (10, text)

/--
Read the digits of an integer, of which there is at least one.  A decimal digit must be below the
base, and a letter that is not ends the digits.  In base ten no underscore comes first.
-/
def skipDigits? (base : Nat) (started : Bool) : List Char → Option (List Char)
  | [] => if started then some [] else none
  | c :: rest =>
      if c == '_' then
        if !started && base == 10 then none else skipDigits? base started rest
      else
        match hexDigit? c with
        | some digit =>
            if digit < base then skipDigits? base true rest
            else if c.isDigit then none
            else if started then some (c :: rest)
            else none
        | none => if started then some (c :: rest) else none

/-- Read an integer. -/
def skipInteger? (text : List Char) : Option (List Char) :=
  (skipDigits? (readBase text).1 false (readBase text).2).bind endNumber?

theorem length_of_skipExponent?
    {signed valued : Bool}
    {text rest : List Char}
    (skipped : skipExponent? signed valued text = some rest) :
    rest.length ≤ text.length := by
  fun_induction skipExponent? signed valued text <;> grind

theorem length_of_skipDecimalTail?
    {withoutExponent : Option (List Char)}
    {text rest : List Char}
    (skipped : skipDecimalTail? withoutExponent text = some rest) :
    rest.length ≤ text.length ∨ withoutExponent = some rest := by
  unfold skipDecimalTail? at skipped
  grind [→ length_of_skipExponent?]

theorem length_of_endNumber?
    {text rest : List Char}
    (ended : endNumber? text = some rest) :
    rest.length ≤ text.length := by
  have shorter := length_skipWord text
  unfold endNumber? at ended
  grind

theorem length_of_skipDecimalDigits?
    {text rest : List Char}
    (skipped : skipDecimalDigits? text = some rest) :
    rest.length < text.length := by
  unfold skipDecimalDigits? at skipped
  split at skipped
  · simp at skipped
  · rename_i first tail
    split at skipped
    · simp at skipped
    · rename_i digit
      have dropped : ((first :: tail).dropWhile isDigitOrUnderscore).length ≤ tail.length := by
        have isDigit : isDigitOrUnderscore first = true := by
          simp_all [isDigitOrUnderscore]
        rw [List.dropWhile_cons, if_pos isDigit]
        exact (List.dropWhile_suffix _).length_le
      split at skipped
      · rename_i behindPoint equal
        have more := (List.dropWhile_suffix isDigitOrUnderscore (l := behindPoint)).length_le
        rw [equal] at dropped
        split at skipped
        · simp at skipped
        · grind [→ length_of_skipDecimalTail?]
      · grind [→ length_of_skipDecimalTail?]

theorem length_of_skipDecimal?
    {text rest : List Char}
    (skipped : skipDecimal? text = some rest) :
    rest.length < text.length := by
  obtain ⟨behind, digits, ended⟩ := Option.bind_eq_some_iff.1 skipped
  exact Nat.lt_of_le_of_lt (length_of_endNumber? ended) (length_of_skipDecimalDigits? digits)

theorem length_of_skipDigits?
    {base : Nat}
    {started : Bool}
    {text rest : List Char}
    (skipped : skipDigits? base started text = some rest) :
    rest.length ≤ text.length ∧ (started = false → rest.length < text.length) := by
  fun_induction skipDigits? base started text <;> grind

theorem length_readBase (text : List Char) : (readBase text).2.length ≤ text.length := by
  unfold readBase
  grind

theorem length_of_skipInteger?
    {text rest : List Char}
    (skipped : skipInteger? text = some rest) :
    rest.length < text.length := by
  unfold skipInteger? at skipped
  obtain ⟨behind, digits, ended⟩ := Option.bind_eq_some_iff.1 skipped
  have first := length_readBase text
  have second := (length_of_skipDigits? digits).2 rfl
  have third := length_of_endNumber? ended
  omega

/-- Read a literal of any kind. -/
def skipLiteral? (text : List Char) : Option (List Char) :=
  (skipQuoted? text) <|> (skipDecimal? text) <|> (skipInteger? text)

theorem length_of_skipLiteral?
    {text rest : List Char}
    (skipped : skipLiteral? text = some rest) :
    rest.length < text.length := by
  simp only [skipLiteral?, Option.orElse_eq_orElse, Option.orElse_eq_or, Option.or_eq_some_iff]
    at skipped
  rcases skipped with found | ⟨_, found | ⟨_, found⟩⟩
  · exact length_of_skipQuoted? found
  · exact length_of_skipDecimal? found
  · exact length_of_skipInteger? found

end Lexical
end InstructionTable
