import InstructionTable.Json.Scan

/-!
# Numerals of a JSON text

A numeral is a sign, an integer part, a fraction and an exponent, of which all but the integer part
may be missing.
-/

namespace InstructionTable
namespace Json

/-- Read as many digits as there are. -/
def readDigits (bytes : Bytes) : List Nat × Bytes :=
  ((bytes.takeWhile isDigit).map digitValue, bytes.dropWhile isDigit)

/--
Read an integer part: a single zero, or digits that begin with another one.  The given cause is
reported when the text ends before it.
-/
def readInteger
    (atEnd : Cause) :
    Bytes → Except Error (List Nat × Bytes)
  | [] => failHere atEnd []
  | byte :: rest =>
      if byte == 0x30 then
        if rest.head?.any isDigit then failNext .invalidNumber rest else .ok ([0], rest)
      else if isDigit byte then
        .ok (readDigits (byte :: rest))
      else
        failHere .invalidNumber rest

/-- Read the digits behind a point, of which there is at least one. -/
def readFraction
    (atEnd : Cause)
    (bytes : Bytes) :
    Except Error (List Nat × Bytes) :=
  let (digits, rest) := readDigits bytes
  if digits.isEmpty then
    failNext (if rest.isEmpty then atEnd else .invalidNumber) rest
  else
    .ok (digits, rest)

/-- Read the sign of an exponent: whether it is a minus. -/
def readSign : Bytes → Bool × Bytes
  | [] => (false, [])
  | byte :: rest =>
      if byte == 0x2D then (true, rest)
      else if byte == 0x2B then (false, rest)
      else (false, byte :: rest)

/-- Read an exponent behind its letter: a sign, if there is one, and at least one digit. -/
def readExponent
    (atEnd : Cause)
    (bytes : Bytes) :
    Except Error ((Bool × List Nat) × Bytes) :=
  match readSign bytes with
  | (_, []) => failHere atEnd []
  | (down, byte :: rest) =>
      if isDigit byte then
        let (digits, rest) := readDigits (byte :: rest)
        .ok ((down, digits), rest)
      else
        failHere .invalidNumber rest

/-- Read an exponent, if its letter is next. -/
def readOptionalExponent
    (atEnd : Cause) :
    Bytes → Except Error (Option (Bool × List Nat) × Bytes)
  | [] => .ok (none, [])
  | byte :: rest =>
      if byte == 0x65 || byte == 0x45 then do
        let (exponent, rest) ← readExponent atEnd rest
        return (some exponent, rest)
      else
        .ok (none, byte :: rest)

/-- Read a fraction, if a point is next. -/
def readOptionalFraction
    (atEnd : Cause) :
    Bytes → Except Error (List Nat × Bytes)
  | [] => .ok ([], [])
  | byte :: rest => if byte == 0x2E then readFraction atEnd rest else .ok ([], byte :: rest)

/-- Read a numeral behind its sign. -/
def readUnsigned
    (atEnd : Cause)
    (negative : Bool)
    (bytes : Bytes) :
    Except Error (Numeral × Bytes) := do
  let (integer, rest) ← readInteger atEnd bytes
  let (fraction, rest) ← readOptionalFraction atEnd rest
  let (exponent, rest) ← readOptionalExponent atEnd rest
  return ({ negative := negative, integer := integer, fraction := fraction, exponent := exponent },
    rest)

/-- Read a numeral, with a minus sign or without. -/
def readNumeral
    (atEnd : Cause)
    (bytes : Bytes) :
    Except Error (Numeral × Bytes) :=
  match bytes with
  | [] => readUnsigned atEnd false []
  | byte :: rest =>
      if byte == 0x2D then readUnsigned atEnd true rest
      else readUnsigned atEnd false (byte :: rest)

/-- Read a number and find its value. -/
def readNumber (bytes : Bytes) : Except Error (Number × Bytes) := do
  let (numeral, rest) ← readNumeral (.unfinished .value) bytes
  match numeral.value with
  | .ok number => return (number, rest)
  | .error outOfRange =>
      .error { cause := .numberOutOfRange, remaining := rest.length + outOfRange.unread }

theorem length_readDigits (bytes : Bytes) : (readDigits bytes).2.length ≤ bytes.length :=
  (List.dropWhile_suffix _).length_le

theorem length_readDigits_of_digit
    {byte : UInt8}
    (rest : Bytes)
    (digit : isDigit byte = true) :
    (readDigits (byte :: rest)).2.length ≤ rest.length := by
  simp only [readDigits, List.dropWhile_cons, digit, if_true]
  exact (List.dropWhile_suffix _).length_le

theorem length_of_readInteger
    {atEnd : Cause}
    {bytes rest : Bytes}
    {digits : List Nat}
    (read : readInteger atEnd bytes = .ok (digits, rest)) :
    rest.length < bytes.length := by
  unfold readInteger failHere failNext at read
  split at read
  · simp at read
  · rename_i byte tail
    split at read
    · split at read
      · simp at read
      · cases read
        simp
    · split at read
      · rename_i digit
        have shorter := length_readDigits_of_digit tail digit
        rw [Except.ok.inj read] at shorter
        exact Nat.lt_succ_of_le shorter
      · simp at read

theorem length_of_readFraction
    {atEnd : Cause}
    {bytes rest : Bytes}
    {digits : List Nat}
    (read : readFraction atEnd bytes = .ok (digits, rest)) :
    rest.length ≤ bytes.length := by
  have shorter := length_readDigits bytes
  unfold readFraction failNext at read
  grind

theorem length_readSign (bytes : Bytes) : (readSign bytes).2.length ≤ bytes.length := by
  unfold readSign
  grind

theorem length_of_readExponent
    {atEnd : Cause}
    {bytes rest : Bytes}
    {exponent : Bool × List Nat}
    (read : readExponent atEnd bytes = .ok (exponent, rest)) :
    rest.length ≤ bytes.length := by
  have unsigned := length_readSign bytes
  unfold readExponent failHere at read
  split at read
  · simp at read
  · rename_i down byte tail equal
    rw [equal, List.length_cons] at unsigned
    split at read
    · rename_i digit
      have shorter := length_readDigits_of_digit tail digit
      cases read
      exact Nat.le_trans shorter (Nat.le_of_succ_le unsigned)
    · simp at read

theorem length_of_readOptionalExponent
    {atEnd : Cause}
    {bytes rest : Bytes}
    {exponent : Option (Bool × List Nat)}
    (read : readOptionalExponent atEnd bytes = .ok (exponent, rest)) :
    rest.length ≤ bytes.length := by
  unfold readOptionalExponent at read
  split at read
  · cases read
    exact Nat.le_refl _
  · split at read
    · obtain ⟨⟨value, last⟩, exponentRead, read⟩ := exists_of_bind_eq_ok read
      have shorter := length_of_readExponent exponentRead
      cases read
      exact Nat.le_succ_of_le shorter
    · cases read
      exact Nat.le_refl _

theorem length_of_readOptionalFraction
    {atEnd : Cause}
    {bytes rest : Bytes}
    {digits : List Nat}
    (read : readOptionalFraction atEnd bytes = .ok (digits, rest)) :
    rest.length ≤ bytes.length := by
  unfold readOptionalFraction at read
  split at read
  · cases read
    exact Nat.le_refl _
  · split at read
    · exact Nat.le_succ_of_le (length_of_readFraction read)
    · cases read
      exact Nat.le_refl _

theorem length_of_readUnsigned
    {atEnd : Cause}
    {negative : Bool}
    {bytes rest : Bytes}
    {numeral : Numeral}
    (read : readUnsigned atEnd negative bytes = .ok (numeral, rest)) :
    rest.length < bytes.length := by
  obtain ⟨⟨integer, afterInteger⟩, integerRead, read⟩ := exists_of_bind_eq_ok read
  obtain ⟨⟨fraction, afterFraction⟩, fractionRead, read⟩ := exists_of_bind_eq_ok read
  obtain ⟨⟨exponent, last⟩, exponentRead, read⟩ := exists_of_bind_eq_ok read
  have first := length_of_readInteger integerRead
  have second := length_of_readOptionalFraction fractionRead
  have third := length_of_readOptionalExponent exponentRead
  cases read
  omega

theorem length_of_readNumeral
    {atEnd : Cause}
    {bytes rest : Bytes}
    {numeral : Numeral}
    (read : readNumeral atEnd bytes = .ok (numeral, rest)) :
    rest.length < bytes.length := by
  unfold readNumeral at read
  split at read
  · exact length_of_readUnsigned read
  · split at read
    · exact Nat.lt_succ_of_lt (length_of_readUnsigned read)
    · exact length_of_readUnsigned read

end Json
end InstructionTable
