import InstructionTable.Json.Strings
import InstructionTable.Proofs.Json.Numerals
import InstructionTable.Proofs.Text.Utf8

/-!
# Strings as they are written

A character of a string is written as it is or as an escape: by a letter, by its number, or by the
numbers of a pair of surrogates.  However the characters are written, a string is read as the text
that it was written for; and it is left out to its end.
-/

namespace InstructionTable
namespace Json

/-! ## How a character is written -/

/-- The ways to write a hexadecimal digit. -/
def WritesDigit
    (digit : Nat)
    (byte : UInt8) : Prop :=
  (ascii "0123456789abcdef")[digit]? = some byte ∨ (ascii "0123456789ABCDEF")[digit]? = some byte

/-- The ways to write four hexadecimal digits. -/
inductive WritesUnit : Nat → Bytes → Prop where
  | digits {a b c d : Nat} {first second third fourth : UInt8}
      (firstWritten : WritesDigit a first)
      (secondWritten : WritesDigit b second)
      (thirdWritten : WritesDigit c third)
      (fourthWritten : WritesDigit d fourth) :
      WritesUnit (0x1000 * a + 0x100 * b + 0x10 * c + d) [first, second, third, fourth]

/-- The characters that have an escape of one letter, and the letters. -/
def letterEscapes : List (Char × Char) :=
  [('"', '"'), ('\\', '\\'), ('/', '/'), ('\x08', 'b'), ('\x0C', 'f'), ('\n', 'n'), ('\r', 'r'),
    ('\t', 't')]

/-- The ways to write a character behind a backslash. -/
inductive Escapes : Char → Bytes → Prop where
  /-- A letter. -/
  | letter {c letter : Char} (listed : (c, letter) ∈ letterEscapes) :
      Escapes c [UInt8.ofNat letter.toNat]
  /-- The number of the character. -/
  | number {c : Char} {digits : Bytes} (written : WritesUnit c.toNat digits) :
      Escapes c (ascii "u" ++ digits)
  /-- The numbers of two surrogates. -/
  | pair {c : Char} {leading trailing : Bytes}
      (large : 0x10000 ≤ c.toNat)
      (leadingWritten : WritesUnit (0xD800 + (c.toNat - 0x10000) / 0x400) leading)
      (trailingWritten : WritesUnit (0xDC00 + (c.toNat - 0x10000) % 0x400) trailing) :
      Escapes c (ascii "u" ++ leading ++ (ascii "\\u" ++ trailing))

/-- The ways to write a character in a string. -/
inductive Writes : Char → Bytes → Prop where
  /-- The character itself, unless it is a control character, a quote or a backslash. -/
  | itself {c : Char} (plain : 0x20 ≤ c.toNat ∧ c ≠ '"' ∧ c ≠ '\\') :
      Writes c (String.utf8EncodeChar c)
  /-- An escape. -/
  | escaped {c : Char} {bytes : Bytes} (escapes : Escapes c bytes) :
      Writes c (ascii "\\" ++ bytes)

/-- The ways to write the characters of a string. -/
inductive WritesAll : List Char → Bytes → Prop where
  | nil : WritesAll [] []
  | cons {c : Char} {characters : List Char} {head tail : Bytes}
      (first : Writes c head)
      (others : WritesAll characters tail) :
      WritesAll (c :: characters) (head ++ tail)

theorem writesAll_itself
    {characters : List Char}
    (plain : ∀ c ∈ characters, 0x20 ≤ c.toNat ∧ c ≠ '"' ∧ c ≠ '\\') :
    WritesAll characters (characters.flatMap String.utf8EncodeChar) := by
  induction characters with
  | nil => exact .nil
  | cons c characters inductionHypothesis =>
      exact .cons (.itself (plain c List.mem_cons_self)) (inductionHypothesis fun other member =>
        plain other (List.mem_cons_of_mem c member))

/-! ## Escapes -/

/-- A digit is read in both cases. -/
theorem hexValue?_of_writesDigit
    {digit : Nat}
    {byte : UInt8}
    (written : WritesDigit digit byte) :
    hexValue? byte = some digit := by
  have known : ∀ digit : Fin 16,
      hexValue? ((ascii "0123456789abcdef")[digit]) = some digit.1 ∧
        hexValue? ((ascii "0123456789ABCDEF")[digit]) = some digit.1 := by
    decide
  rcases written with lower | upper
  · obtain ⟨small, rfl⟩ := List.getElem?_eq_some_iff.mp lower
    exact (known ⟨digit, small⟩).1
  · obtain ⟨small, rfl⟩ := List.getElem?_eq_some_iff.mp upper
    exact (known ⟨digit, small⟩).2

/-- Four digits are read as their number. -/
theorem readUnit_append
    {unit : Nat}
    {digits : Bytes}
    (written : WritesUnit unit digits)
    (rest : Bytes) :
    readUnit (digits ++ rest) = .ok (unit, rest) := by
  cases written with
  | @digits a b c d first second third fourth firstWritten secondWritten thirdWritten
      fourthWritten =>
      have value : unitValue? first second third fourth =
          some (0x1000 * a + 0x100 * b + 0x10 * c + d) := by
        rw [unitValue?, hexValue?_of_writesDigit firstWritten,
          hexValue?_of_writesDigit secondWritten, hexValue?_of_writesDigit thirdWritten,
          hexValue?_of_writesDigit fourthWritten]
        simp only [Option.bind_eq_bind, Option.bind_some, Option.pure_def, Option.some.injEq]
        omega
      simp only [List.cons_append, List.nil_append, readUnit, value]

theorem ascii_u : ascii "u" = [letterU] := by decide

theorem ascii_backslash : ascii "\\" = [backslash] := by decide

theorem isSurrogate_toNat (c : Char) :
    isTrailing c.toNat = false ∧ isLeading c.toNat = false := by
  simp only [isTrailing, isLeading, Bool.and_eq_false_iff, decide_eq_false_iff_not]
  rcases c.valid with low | ⟨high, -⟩
  · have below : c.toNat < 0xD800 := low
    omega
  · have above : 0xDFFF < c.toNat := high
    omega

theorem readEscape_letter
    {c letter : Char}
    (listed : (c, letter) ∈ letterEscapes) :
    UInt8.ofNat letter.toNat ≠ letterU ∧
      shortEscape? (UInt8.ofNat letter.toNat) = some c := by
  have known : ∀ entry ∈ letterEscapes, UInt8.ofNat entry.2.toNat ≠ letterU ∧
      shortEscape? (UInt8.ofNat entry.2.toNat) = some entry.1 := by
    decide
  exact known (c, letter) listed

/-- The second half of a pair is read together with the first. -/
theorem readTrailing_append
    {c : Char}
    {leading unit : Nat}
    {trailing : Bytes}
    (written : WritesUnit unit trailing)
    (second : isTrailing unit = true)
    (number : (leading - 0xD800) * 0x400 + (unit - 0xDC00) + 0x10000 = c.toNat)
    (rest : Bytes) :
    readTrailing leading (ascii "\\u" ++ trailing ++ rest) = .ok (c, rest) := by
  have front : ascii "\\u" = [backslash, letterU] := by decide
  rw [front, List.append_assoc, List.cons_append, List.singleton_append, readTrailing]
  simp only [bne_self_eq_false, Bool.false_eq_true, if_false, readUnit_append written,
    bind, Except.bind, second, if_true, number, Char.ofNat_toNat]
  rfl

theorem isLeading_add
    {bits : Nat}
    (small : bits < 0x400) :
    isTrailing (0xD800 + bits) = false ∧ isLeading (0xD800 + bits) = true := by
  refine ⟨?_, ?_⟩
  · simp only [isTrailing, Bool.and_eq_false_iff, decide_eq_false_iff_not]
    omega
  · simp only [isLeading, Bool.and_eq_true, decide_eq_true_eq]
    omega

theorem isTrailing_add
    {bits : Nat}
    (small : bits < 0x400) :
    isTrailing (0xDC00 + bits) = true := by
  simp only [isTrailing, Bool.and_eq_true, decide_eq_true_eq]
  omega

/-- An escape by number is read as the character of the number. -/
theorem readCodePoint_append
    {c : Char}
    {digits : Bytes}
    (written : WritesUnit c.toNat digits)
    (rest : Bytes) :
    readCodePoint (digits ++ rest) = .ok (c, rest) := by
  obtain ⟨notTrailing, notLeading⟩ := isSurrogate_toNat c
  rw [readCodePoint, readUnit_append written]
  simp only [bind, Except.bind, notTrailing, notLeading, Bool.false_eq_true, if_false,
    Char.ofNat_toNat]
  rfl

/-- Behind a leading surrogate the other half of the pair is read. -/
theorem readCodePoint_of_isLeading
    {unit : Nat}
    {digits : Bytes}
    (written : WritesUnit unit digits)
    (notTrailing : isTrailing unit = false)
    (leading : isLeading unit = true)
    (rest : Bytes) :
    readCodePoint (digits ++ rest) = readTrailing unit rest := by
  rw [readCodePoint, readUnit_append written]
  simp only [bind, Except.bind, notTrailing, leading, Bool.false_eq_true, if_false, if_true]

/-- An escaped pair is read as one character. -/
theorem readCodePoint_pair
    {c : Char}
    {leading trailing : Bytes}
    (large : 0x10000 ≤ c.toNat)
    (leadingWritten : WritesUnit (0xD800 + (c.toNat - 0x10000) / 0x400) leading)
    (trailingWritten : WritesUnit (0xDC00 + (c.toNat - 0x10000) % 0x400) trailing)
    (rest : Bytes) :
    readCodePoint (leading ++ (ascii "\\u" ++ trailing) ++ rest) = .ok (c, rest) := by
  have bounded : c.toNat < 0x110000 := Text.Utf8.toNat_lt c
  have leadingBits : (c.toNat - 0x10000) / 0x400 < 0x400 := by omega
  have trailingBits : (c.toNat - 0x10000) % 0x400 < 0x400 := Nat.mod_lt _ (by decide)
  obtain ⟨notTrailing, isFirst⟩ := isLeading_add leadingBits
  rw [List.append_assoc, readCodePoint_of_isLeading leadingWritten notTrailing isFirst]
  exact readTrailing_append trailingWritten (isTrailing_add trailingBits) (by omega) rest

/-- An escape is read as its character. -/
theorem readEscape_append
    {c : Char}
    {bytes : Bytes}
    (escapes : Escapes c bytes)
    (rest : Bytes) :
    readEscape (bytes ++ rest) = .ok (c, rest) := by
  cases escapes with
  | @letter letter listed =>
      obtain ⟨other, short⟩ := readEscape_letter listed
      rw [List.singleton_append, readEscape, if_neg (by simpa using other), short]
  | @number digits written =>
      rw [ascii_u, List.singleton_append, List.cons_append, readEscape,
        if_pos (beq_self_eq_true _), readCodePoint_append written]
  | @pair leading trailing large leadingWritten trailingWritten =>
      rw [ascii_u, List.singleton_append, List.cons_append, List.cons_append, readEscape,
        if_pos (beq_self_eq_true _), readCodePoint_pair large leadingWritten trailingWritten]

/-! ## Strings that are read -/

/-- A byte stands for itself unless it is that of a control character, a quote or a backslash. -/
theorem isPlain_iff
    {byte : UInt8} :
    isPlain byte = true ↔ 0x20 ≤ byte.toNat ∧ byte.toNat ≠ 0x22 ∧ byte.toNat ≠ 0x5C := by
  have quote : byte = quoteMark ↔ byte.toNat = 0x22 := UInt8.toNat_inj.symm
  have back : byte = backslash ↔ byte.toNat = 0x5C := UInt8.toNat_inj.symm
  have control : byte < 0x20 ↔ byte.toNat < 0x20 := UInt8.lt_iff_toNat_lt
  simp only [isPlain, isControl, Bool.not_eq_true', Bool.or_eq_false_iff, beq_eq_false_iff_ne,
    decide_eq_false_iff_not, ne_eq, quote, back, control]
  omega

/-- The bytes of a character that stands for itself do so. -/
theorem isPlain_of_mem
    {c : Char}
    (plain : 0x20 ≤ c.toNat ∧ c ≠ '"' ∧ c ≠ '\\') :
    ∀ byte ∈ String.utf8EncodeChar c, isPlain byte = true := by
  obtain ⟨visible, noQuote, noBackslash⟩ := plain
  have notQuote : c.toNat ≠ 0x22 := fun same => noQuote (Char.toNat_inj.mp same)
  have notBackslash : c.toNat ≠ 0x5C := fun same => noBackslash (Char.toNat_inj.mp same)
  have bounded : c.toNat < 0x110000 := Text.Utf8.toNat_lt c
  have number : c.val.toNat = c.toNat := rfl
  simp only [String.utf8EncodeChar, number]
  intro byte member
  rw [isPlain_iff]
  split at member
  · obtain rfl := List.mem_singleton.mp member
    rw [UInt8.toNat_ofNat', Nat.mod_eq_of_lt (by omega)]
    exact ⟨visible, notQuote, notBackslash⟩
  -- Of a character with more bytes, each has its highest bit.
  · have high : 0x80 ≤ byte.toNat := by
      split at member
      · simp only [List.mem_cons, List.not_mem_nil, or_false] at member
        rcases member with rfl | rfl <;> simp only [UInt8.toNat_ofNat'] <;> omega
      · split at member
        · simp only [List.mem_cons, List.not_mem_nil, or_false] at member
          rcases member with rfl | rfl | rfl <;> simp only [UInt8.toNat_ofNat'] <;> omega
        · simp only [List.mem_cons, List.not_mem_nil, or_false] at member
          rcases member with rfl | rfl | rfl | rfl <;> simp only [UInt8.toNat_ofNat'] <;> omega
    omega

/-- A string ends at the first quote behind bytes that stand for themselves. -/
theorem readStringBytes_of_quote
    {bytes rest : Bytes}
    (split : bytes.dropWhile isPlain = quoteMark :: rest) :
    readStringBytes bytes = .ok (bytes.takeWhile isPlain, rest) := by
  rw [readStringBytes]
  split
  · next none => simp [none] at split
  · next byte tail some =>
      rw [some] at split
      obtain ⟨rfl, rfl⟩ := List.cons.inj split
      rfl

/-- A string goes on behind an escape. -/
theorem readStringBytes_of_escape
    {bytes escape next text rest : Bytes}
    {c : Char}
    (split : bytes.dropWhile isPlain = backslash :: escape)
    (read : readEscape escape = .ok (c, next))
    (readNext : readStringBytes next = .ok (text, rest)) :
    readStringBytes bytes =
      .ok (bytes.takeWhile isPlain ++ (String.utf8EncodeChar c ++ text), rest) := by
  rw [readStringBytes]
  split
  · next none => simp [none] at split
  · next byte tail some =>
      rw [some] at split
      obtain ⟨rfl, rfl⟩ := List.cons.inj split
      rw [if_neg (by decide), if_pos (beq_self_eq_true _)]
      split
      · next failed => simp [failed] at read
      · next d after given =>
          rw [read] at given
          obtain ⟨rfl, rfl⟩ := Prod.mk.inj (Except.ok.inj given)
          rw [readNext]
          rfl

/-- The bytes of a string are those of its characters, however these are written. -/
theorem readStringBytes_append
    {characters : List Char}
    {body : Bytes}
    (written : WritesAll characters body)
    {front : Bytes}
    (plain : ∀ byte ∈ front, isPlain byte = true)
    (rest : Bytes) :
    readStringBytes (front ++ (body ++ quoteMark :: rest)) =
      .ok (front ++ characters.flatMap String.utf8EncodeChar, rest) := by
  induction written generalizing front with
  | nil =>
      have stops : StopsAt isPlain (quoteMark :: rest) := by
        rintro _ ⟨⟩
        decide
      rw [List.nil_append, List.flatMap_nil, List.append_nil,
        readStringBytes_of_quote (dropWhile_append_of_stopsAt plain stops),
        takeWhile_append_of_stopsAt plain stops]
  | @cons c characters head tail first others inductionHypothesis =>
      cases first with
      | itself visible =>
          have longer : ∀ byte ∈ front ++ String.utf8EncodeChar c, isPlain byte = true :=
            fun byte member => (List.mem_append.mp member).elim (plain byte)
              (isPlain_of_mem visible byte)
          have read := inductionHypothesis longer
          rw [List.append_assoc] at read
          rw [List.append_assoc, read, List.flatMap_cons, List.append_assoc]
      | @escaped bytes escapes =>
          have readNext := @inductionHypothesis [] (fun _ member => nomatch member)
          have stops : StopsAt isPlain (backslash :: (bytes ++ (tail ++ quoteMark :: rest))) := by
            rintro _ ⟨⟩
            decide
          rw [ascii_backslash, List.append_assoc, List.append_assoc, List.singleton_append,
            readStringBytes_of_escape (dropWhile_append_of_stopsAt plain stops)
              (readEscape_append escapes _) readNext,
            takeWhile_append_of_stopsAt plain stops, List.nil_append, List.flatMap_cons]

/-- A string is read as its text, however its characters are written. -/
theorem readString_append
    {text : String}
    {body : Bytes}
    (written : WritesAll text.toList body)
    (rest : Bytes) :
    readString (body ++ quoteMark :: rest) = .ok (text, rest) := by
  have read := @readStringBytes_append _ _ written [] (fun _ member => nomatch member) rest
  rw [List.nil_append, List.nil_append] at read
  rw [readString, read]
  simp only [bind, Except.bind, Text.Utf8.decode_flatMap, String.ofList_toList]
  rfl

/-! ## Strings that are left out -/

theorem skipString_of_skipEscape
    {bytes next : Bytes}
    (skipped : skipEscape bytes = .ok next) :
    skipString (backslash :: bytes) = skipString next := by
  rw [skipString, if_neg (by decide), if_pos (beq_self_eq_true _)]
  split
  · next failed => simp [failed] at skipped
  · next given =>
      rw [skipped] at given
      rw [Except.ok.inj given]

theorem skipEscape_unit
    {unit : Nat}
    {digits : Bytes}
    (written : WritesUnit unit digits)
    (rest : Bytes) :
    skipEscape (letterU :: (digits ++ rest)) = .ok rest := by
  rw [skipEscape, if_pos (beq_self_eq_true _), readUnit_append written]
  rfl

/-- An escape is left out; that of a pair takes two steps. -/
theorem skipString_escape
    {c : Char}
    {bytes : Bytes}
    (escapes : Escapes c bytes)
    (rest : Bytes) :
    skipString (backslash :: (bytes ++ rest)) = skipString rest := by
  cases escapes with
  | @letter letter listed =>
      obtain ⟨other, short⟩ := readEscape_letter listed
      apply skipString_of_skipEscape
      rw [List.singleton_append, skipEscape, if_neg (by simpa using other), short]
      rfl
  | number written =>
      rw [ascii_u, List.singleton_append, List.cons_append]
      exact skipString_of_skipEscape (skipEscape_unit written rest)
  | @pair leading trailing large leadingWritten trailingWritten =>
      have front : ascii "\\u" = [backslash, letterU] := by decide
      rw [ascii_u, List.singleton_append, List.append_assoc, List.cons_append,
        skipString_of_skipEscape (skipEscape_unit leadingWritten _), front, List.append_assoc,
        List.cons_append, List.singleton_append]
      exact skipString_of_skipEscape (skipEscape_unit trailingWritten rest)

/-- Bytes that stand for themselves are left out. -/
theorem skipString_append
    {front : Bytes}
    (plain : ∀ byte ∈ front, isPlain byte = true)
    (rest : Bytes) :
    skipString (front ++ rest) = skipString rest := by
  induction front with
  | nil => rfl
  | cons byte front inductionHypothesis =>
      have visible := plain byte List.mem_cons_self
      simp only [isPlain, Bool.not_eq_true', Bool.or_eq_false_iff] at visible
      obtain ⟨⟨noQuote, noBackslash⟩, noControl⟩ := visible
      rw [List.cons_append, skipString, if_neg (by simp [noQuote]), if_neg (by simp [noBackslash]),
        if_neg (by simp [noControl])]
      exact inductionHypothesis fun other member => plain other (List.mem_cons_of_mem byte member)

/-- A string is left out to its closing quote, however its characters are written. -/
theorem skipString_of_writesAll
    {characters : List Char}
    {body : Bytes}
    (written : WritesAll characters body)
    (rest : Bytes) :
    skipString (body ++ quoteMark :: rest) = .ok rest := by
  induction written with
  | nil => rw [List.nil_append, skipString, if_pos (beq_self_eq_true _)]
  | @cons c characters head tail first others inductionHypothesis =>
      rw [List.append_assoc]
      cases first with
      | itself visible => rw [skipString_append (isPlain_of_mem visible), inductionHypothesis]
      | escaped escapes =>
          rw [ascii_backslash, List.append_assoc, List.singleton_append,
            skipString_escape escapes, inductionHypothesis]

end Json
end InstructionTable
