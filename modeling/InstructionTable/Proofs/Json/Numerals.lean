import InstructionTable.Json.Numeral
import Mathlib.Data.List.TakeWhile

/-!
# Numerals as they are written

A numeral is read to its end: as long as nothing behind it would continue it, all of its bytes are
read and no others.
-/

namespace InstructionTable
namespace Json

/-!
## Runs of bytes

A run of bytes of one kind ends at the first byte of another kind, or at the end of the text.
-/

section

/-- The first of some bytes is not of a kind, or there is none. -/
def StopsAt
    (kind : UInt8 → Bool)
    (bytes : Bytes) : Prop :=
  ∀ byte ∈ bytes.head?, kind byte = false

variable {kind : UInt8 → Bool} {front rest : Bytes}

/-- A run is taken up to where it stops. -/
theorem takeWhile_append_of_stopsAt
    (all : ∀ byte ∈ front, kind byte = true)
    (stops : StopsAt kind rest) :
    (front ++ rest).takeWhile kind = front := by
  rw [List.takeWhile_append_of_pos all]
  cases rest with
  | nil => rw [List.takeWhile_nil, List.append_nil]
  | cons byte rest =>
      rw [List.takeWhile_cons_of_neg (by simp [stops byte rfl]), List.append_nil]

theorem dropWhile_append_of_stopsAt
    (all : ∀ byte ∈ front, kind byte = true)
    (stops : StopsAt kind rest) :
    (front ++ rest).dropWhile kind = rest := by
  rw [List.dropWhile_append_of_pos all]
  cases rest with
  | nil => rfl
  | cons byte rest => exact List.dropWhile_cons_of_neg (by simp [stops byte rfl])

theorem readWord_append (word rest : Bytes) : readWord word (word ++ rest) = .ok rest := by
  induction word with
  | nil => rfl
  | cons byte word inductionHypothesis =>
      rw [List.cons_append, readWord, if_pos (beq_self_eq_true byte), inductionHypothesis]

end

/-! ## How a numeral is written -/

/-- An exponent as it is written. -/
structure WrittenExponent where
  /-- Whether its letter is a capital one. -/
  capital : Bool
  /-- Its sign, if there is one: whether it is a minus. -/
  sign : Option Bool
  /-- Its digits. -/
  digits : List (Fin 10)
  /-- There is at least one digit. -/
  nonempty : digits ≠ []
deriving DecidableEq, Repr

/-- A numeral as it is written. -/
structure WrittenNumeral where
  /-- Whether there is a minus sign. -/
  negative : Bool
  /-- The digits of the integer part. -/
  integer : List (Fin 10)
  /-- There is an integer part. -/
  nonempty : integer ≠ []
  /-- A zero at the front of it stands alone. -/
  plain : integer.head? = some 0 → integer = [0]
  /-- The digits behind the point; without any there is no point. -/
  fraction : List (Fin 10)
  /-- The exponent, if there is one. -/
  exponent : Option WrittenExponent
deriving DecidableEq, Repr

/-- The bytes of some digits. -/
def digitBytes (digits : List (Fin 10)) : Bytes :=
  digits.map fun digit => UInt8.ofNat (0x30 + digit.1)

/-- The bytes of a sign. -/
def signBytes : Option Bool → Bytes
  | none => []
  | some false => ascii "+"
  | some true => ascii "-"

/-- The bytes of an exponent. -/
def WrittenExponent.bytes (exponent : WrittenExponent) : Bytes :=
  ascii (if exponent.capital then "E" else "e") ++ (signBytes exponent.sign ++
    digitBytes exponent.digits)

namespace WrittenNumeral

/-- The bytes of the fraction, with its point. -/
def fractionBytes (numeral : WrittenNumeral) : Bytes :=
  if numeral.fraction.isEmpty then [] else ascii "." ++ digitBytes numeral.fraction

/-- The bytes of the exponent, if there is one. -/
def exponentBytes (numeral : WrittenNumeral) : Bytes :=
  (numeral.exponent.map WrittenExponent.bytes).getD []

/-- The bytes behind the sign. -/
def unsignedBytes (numeral : WrittenNumeral) : Bytes :=
  digitBytes numeral.integer ++ (numeral.fractionBytes ++ numeral.exponentBytes)

/-- The bytes of a numeral. -/
def bytes (numeral : WrittenNumeral) : Bytes :=
  (if numeral.negative then ascii "-" else []) ++ numeral.unsignedBytes

/-- What a numeral is read as. -/
def value (numeral : WrittenNumeral) : Numeral :=
  { negative := numeral.negative
    integer := numeral.integer.map Fin.val
    fraction := numeral.fraction.map Fin.val
    exponent := numeral.exponent.map fun exponent =>
      (exponent.sign == some true, exponent.digits.map Fin.val) }

end WrittenNumeral

/-- Whether a byte behind a numeral would continue it. -/
def continuesNumeral (byte : UInt8) : Bool :=
  isDigit byte || byte == 0x2E || byte == 0x65 || byte == 0x45

/-! ## Digits -/

theorem isDigit_digit (digit : Fin 10) :
    isDigit (UInt8.ofNat (0x30 + digit.1)) = true ∧
      digitValue (UInt8.ofNat (0x30 + digit.1)) = digit.1 := by
  revert digit
  decide

/-- Digits are read up to what is no digit. -/
theorem readDigits_append
    (digits : List (Fin 10))
    {rest : Bytes}
    (stops : StopsAt isDigit rest) :
    readDigits (digitBytes digits ++ rest) = (digits.map Fin.val, rest) := by
  have all : ∀ byte ∈ digitBytes digits, isDigit byte = true := by
    intro byte member
    obtain ⟨digit, -, rfl⟩ := List.mem_map.mp member
    exact (isDigit_digit digit).1
  have values : (digitBytes digits).map digitValue = digits.map Fin.val := by
    rw [digitBytes, List.map_map]
    exact List.map_congr_left fun digit _ => (isDigit_digit digit).2
  rw [readDigits, takeWhile_append_of_stopsAt all stops, dropWhile_append_of_stopsAt all stops,
    values]

/-- What is no part of a numeral is no digit. -/
theorem StopsAt.isDigit
    {rest : Bytes}
    (stops : StopsAt continuesNumeral rest) :
    StopsAt isDigit rest := by
  intro byte first
  have other := stops byte first
  simp only [continuesNumeral, Bool.or_eq_false_iff] at other
  exact other.1.1.1

/-! ## Parts of a numeral -/

theorem digit_ne_zero :
    ∀ digit : Fin 10, digit ≠ 0 → (UInt8.ofNat (0x30 + digit.1) == 0x30) = false := by
  decide

/-- An integer part is read up to what is no digit. -/
theorem readInteger_append
    {integer : List (Fin 10)}
    (nonempty : integer ≠ [])
    (plain : integer.head? = some 0 → integer = [0])
    {rest : Bytes}
    (stops : StopsAt isDigit rest)
    (atEnd : Cause) :
    readInteger atEnd (digitBytes integer ++ rest) = .ok (integer.map Fin.val, rest) := by
  cases integer with
  | nil => contradiction
  | cons digit others =>
      by_cases zero : digit = 0
      · have alone : digit :: others = [0] := plain (by rw [List.head?_cons, zero])
        have ends : ¬(rest.head?.any isDigit = true) := by
          cases rest with
          | nil => exact Bool.false_ne_true
          | cons byte rest => simp [stops byte rfl]
        rw [alone]
        change readInteger atEnd (0x30 :: rest) = _
        rw [readInteger, if_pos (beq_self_eq_true _), if_neg ends]
        rfl
      · have read := readDigits_append (digit :: others) stops
        rw [digitBytes, List.map_cons, List.cons_append] at read ⊢
        rw [readInteger, digit_ne_zero digit zero, if_neg Bool.false_ne_true,
          if_pos (isDigit_digit digit).1, read]

/-- A fraction is read with its point, or there is none. -/
theorem readOptionalFraction_append
    (numeral : WrittenNumeral)
    {rest : Bytes}
    (stops : StopsAt isDigit rest)
    (noPoint : rest.head? ≠ some 0x2E)
    (atEnd : Cause) :
    readOptionalFraction atEnd (numeral.fractionBytes ++ rest) =
      .ok (numeral.fraction.map Fin.val, rest) := by
  unfold WrittenNumeral.fractionBytes
  cases digits : numeral.fraction with
  | nil =>
      cases rest with
      | nil => rfl
      | cons byte rest =>
          have other : ¬((byte == 0x2E) = true) := by simpa using noPoint
          simp only [List.isEmpty_nil, if_true, List.nil_append]
          rw [readOptionalFraction, if_neg other, List.map_nil]
  | cons digit others =>
      have point : ascii "." = [0x2E] := by decide
      have read := readDigits_append (digit :: others) stops
      simp only [List.isEmpty_cons, Bool.false_eq_true, if_false]
      rw [point, List.append_assoc, List.singleton_append, readOptionalFraction,
        if_pos (beq_self_eq_true _), readFraction, read]
      rfl

theorem readSign_append
    (sign : Option Bool)
    (digit : Fin 10)
    (rest : Bytes) :
    readSign (signBytes sign ++ UInt8.ofNat (0x30 + digit.1) :: rest) =
      (sign == some true, UInt8.ofNat (0x30 + digit.1) :: rest) := by
  have noSign : ∀ digit : Fin 10, (UInt8.ofNat (0x30 + digit.1) == 0x2D) = false ∧
      (UInt8.ofNat (0x30 + digit.1) == 0x2B) = false := by
    decide
  obtain ⟨noMinus, noPlus⟩ := noSign digit
  cases sign with
  | none =>
      rw [signBytes, List.nil_append, readSign, noMinus, noPlus]
      rfl
  | some minus => cases minus <;> rfl

/-- An exponent is read behind its letter. -/
theorem readExponent_append
    (exponent : WrittenExponent)
    {rest : Bytes}
    (stops : StopsAt isDigit rest)
    (atEnd : Cause) :
    readExponent atEnd (signBytes exponent.sign ++ digitBytes exponent.digits ++ rest) =
      .ok ((exponent.sign == some true, exponent.digits.map Fin.val), rest) := by
  obtain ⟨capital, sign, digits, nonempty⟩ := exponent
  cases digits with
  | nil => contradiction
  | cons digit others =>
      have read := readDigits_append (digit :: others) stops
      simp only [digitBytes, List.map_cons, List.cons_append] at read ⊢
      rw [List.append_assoc, List.cons_append, readExponent, readSign_append]
      simp only [(isDigit_digit digit).1, if_true, read]

theorem WrittenExponent.exists_bytes_eq_cons (exponent : WrittenExponent) :
    ∃ letter, (letter = 0x65 ∨ letter = 0x45) ∧
      exponent.bytes = letter :: (signBytes exponent.sign ++ digitBytes exponent.digits) := by
  obtain ⟨capital, sign, digits, nonempty⟩ := exponent
  cases capital with
  | false =>
      have letter : ascii "e" = [0x65] := by decide
      exact ⟨0x65, .inl rfl, congrArg (· ++ _) letter⟩
  | true =>
      have letter : ascii "E" = [0x45] := by decide
      exact ⟨0x45, .inr rfl, congrArg (· ++ _) letter⟩

theorem readOptionalExponent_append
    (numeral : WrittenNumeral)
    {rest : Bytes}
    (stops : StopsAt continuesNumeral rest)
    (atEnd : Cause) :
    readOptionalExponent atEnd (numeral.exponentBytes ++ rest) =
      .ok (numeral.value.exponent, rest) := by
  unfold WrittenNumeral.exponentBytes WrittenNumeral.value
  cases numeral.exponent with
  | none =>
      cases rest with
      | nil => rfl
      | cons byte rest =>
          have other := stops byte rfl
          simp only [continuesNumeral, Bool.or_eq_false_iff] at other
          obtain ⟨⟨-, small⟩, capital⟩ := other
          simp [readOptionalExponent, small, capital]
  | some exponent =>
      obtain ⟨letter, isLetter, written⟩ := exponent.exists_bytes_eq_cons
      have read := readExponent_append exponent stops.isDigit atEnd
      have known : (letter == 0x65 || letter == 0x45) = true := by
        rcases isLetter with rfl | rfl <;> rfl
      simp only [Option.map_some, Option.getD_some]
      rw [written, List.cons_append, readOptionalExponent, if_pos known, read]
      rfl

/-! ## Whole numerals -/

namespace WrittenNumeral

variable {rest : Bytes}

/-- An exponent, or what stands behind the numeral, begins with neither a digit nor a point. -/
theorem stopsAt_exponentBytes
    (numeral : WrittenNumeral)
    (stops : StopsAt continuesNumeral rest) :
    StopsAt isDigit (numeral.exponentBytes ++ rest) ∧
      (numeral.exponentBytes ++ rest).head? ≠ some 0x2E := by
  unfold exponentBytes
  cases numeral.exponent with
  | none =>
      refine ⟨stops.isDigit, fun point => ?_⟩
      have other := stops 0x2E point
      contradiction
  | some exponent =>
      obtain ⟨letter, isLetter, written⟩ := exponent.exists_bytes_eq_cons
      rw [Option.map_some, Option.getD_some, written, List.cons_append]
      rcases isLetter with rfl | rfl
      · refine ⟨?_, by simp⟩
        rintro _ ⟨⟩
        decide
      · refine ⟨?_, by simp⟩
        rintro _ ⟨⟩
        decide

/-- What stands behind the integer part begins with no digit. -/
theorem stopsAt_fractionBytes
    (numeral : WrittenNumeral)
    (stops : StopsAt continuesNumeral rest) :
    StopsAt isDigit (numeral.fractionBytes ++ (numeral.exponentBytes ++ rest)) := by
  unfold fractionBytes
  cases numeral.fraction with
  | nil => exact (numeral.stopsAt_exponentBytes stops).1
  | cons digit others =>
      rintro _ ⟨⟩
      decide

end WrittenNumeral

/-- A numeral is read behind its sign. -/
theorem readUnsigned_append
    (numeral : WrittenNumeral)
    {rest : Bytes}
    (stops : StopsAt continuesNumeral rest)
    (atEnd : Cause) :
    readUnsigned atEnd numeral.negative (numeral.unsignedBytes ++ rest) =
      .ok (numeral.value, rest) := by
  obtain ⟨noDigit, noPoint⟩ := numeral.stopsAt_exponentBytes stops
  rw [readUnsigned, WrittenNumeral.unsignedBytes, List.append_assoc, List.append_assoc,
    readInteger_append numeral.nonempty numeral.plain (numeral.stopsAt_fractionBytes stops)]
  simp only [bind, Except.bind, readOptionalFraction_append numeral noDigit noPoint,
    readOptionalExponent_append numeral stops]
  rfl

/-- A numeral is read to its end. -/
theorem readNumeral_append
    (numeral : WrittenNumeral)
    {rest : Bytes}
    (stops : StopsAt continuesNumeral rest)
    (atEnd : Cause) :
    readNumeral atEnd (numeral.bytes ++ rest) = .ok (numeral.value, rest) := by
  have read := readUnsigned_append numeral stops atEnd
  rw [WrittenNumeral.bytes, List.append_assoc]
  cases sign : numeral.negative with
  | true =>
      rw [sign] at read
      exact read
  | false =>
      obtain ⟨digit, others, digits⟩ := List.exists_cons_of_ne_nil numeral.nonempty
      rw [sign, WrittenNumeral.unsignedBytes, digits, digitBytes, List.map_cons] at read
      rw [if_neg Bool.false_ne_true, WrittenNumeral.unsignedBytes, digits, digitBytes,
        List.map_cons, List.nil_append]
      simp only [List.cons_append] at read ⊢
      have noMinus : ∀ digit : Fin 10, (UInt8.ofNat (0x30 + digit.1) == 0x2D) = false := by
        decide
      rw [readNumeral, noMinus, if_neg Bool.false_ne_true, read]

end Json
end InstructionTable
