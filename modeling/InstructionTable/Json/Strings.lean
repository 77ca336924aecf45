import InstructionTable.Json.Scan
import InstructionTable.Text.Utf8

/-!
# Strings of a JSON text

A string is read up to its closing quote.  It consists of plain bytes and of escapes, each of which
is put as the bytes of its character; an escaped pair of surrogates is one character.  All of these
bytes together have to be UTF-8.  A string that is left out is only checked for control characters
and for the form of its escapes.
-/

namespace InstructionTable
namespace Json

/-- The byte that opens and closes a string. -/
def quoteMark : UInt8 := 0x22

/-- The byte that begins an escape. -/
def backslash : UInt8 := 0x5C

/-- The byte that begins an escape by number. -/
def letterU : UInt8 := 0x75

/-- Whether a byte may not stand in a string by itself. -/
def isControl (byte : UInt8) : Bool :=
  byte < 0x20

/-- The number of a hexadecimal digit. -/
def hexValue? (byte : UInt8) : Option Nat :=
  if isDigit byte then some (digitValue byte)
  else if 0x61 ≤ byte && byte ≤ 0x66 then some (byte.toNat - 0x61 + 10)
  else if 0x41 ≤ byte && byte ≤ 0x46 then some (byte.toNat - 0x41 + 10)
  else none

/-- The number of four hexadecimal digits. -/
def unitValue? (first second third fourth : UInt8) : Option Nat := do
  let a ← hexValue? first
  let b ← hexValue? second
  let c ← hexValue? third
  let d ← hexValue? fourth
  return ((a * 16 + b) * 16 + c) * 16 + d

/-- Read four hexadecimal digits. -/
def readUnit : Bytes → Except Error (Nat × Bytes)
  | first :: second :: third :: fourth :: rest =>
      match unitValue? first second third fourth with
      | some unit => .ok (unit, rest)
      | none => failHere .invalidEscape rest
  | _ => failHere (.unfinished .string) []

/-- Whether a unit is the first half of a pair. -/
def isLeading (unit : Nat) : Bool :=
  0xD800 ≤ unit && unit ≤ 0xDBFF

/-- Whether a unit is the second half of a pair. -/
def isTrailing (unit : Nat) : Bool :=
  0xDC00 ≤ unit && unit ≤ 0xDFFF

/-- The character that an escape of one letter stands for. -/
def shortEscape? (letter : UInt8) : Option Char :=
  if letter == 0x22 then some '"'
  else if letter == 0x5C then some '\\'
  else if letter == 0x2F then some '/'
  else if letter == 0x62 then some '\x08'
  else if letter == 0x66 then some '\x0C'
  else if letter == 0x6E then some '\n'
  else if letter == 0x72 then some '\r'
  else if letter == 0x74 then some '\t'
  else none

/-- Read the second half of a pair, which has to be escaped as well. -/
def readTrailing
    (leading : Nat) :
    Bytes → Except Error (Char × Bytes)
  | [] => failHere (.unfinished .string) []
  | first :: rest =>
      if first != backslash then
        failHere .unfinishedPair rest
      else
        match rest with
        | [] => failHere (.unfinished .string) []
        | second :: rest =>
            if second != letterU then
              failHere .unfinishedPair rest
            else do
              let (unit, rest) ← readUnit rest
              if isTrailing unit then
                return (Char.ofNat
                  ((leading - 0xD800) * 0x400 + (unit - 0xDC00) + 0x10000), rest)
              else
                failHere .loneSurrogate rest

/-- Read an escape by number, behind its letter. -/
def readCodePoint (bytes : Bytes) : Except Error (Char × Bytes) := do
  let (unit, rest) ← readUnit bytes
  if isTrailing unit then failHere .loneSurrogate rest
  else if isLeading unit then readTrailing unit rest
  else return (Char.ofNat unit, rest)

/-- Read an escape, behind its backslash: the character it stands for. -/
def readEscape : Bytes → Except Error (Char × Bytes)
  | [] => failHere (.unfinished .string) []
  | letter :: rest =>
      if letter == letterU then
        readCodePoint rest
      else
        match shortEscape? letter with
        | some c => .ok (c, rest)
        | none => failHere .invalidEscape rest

theorem length_of_readUnit
    {bytes rest : Bytes}
    {unit : Nat}
    (read : readUnit bytes = .ok (unit, rest)) :
    rest.length < bytes.length := by
  unfold readUnit failHere at read
  grind

theorem length_of_readTrailing
    {leading : Nat}
    {bytes rest : Bytes}
    {c : Char}
    (read : readTrailing leading bytes = .ok (c, rest)) :
    rest.length < bytes.length := by
  unfold readTrailing failHere at read
  split at read
  · simp at read
  · split at read
    · simp at read
    · split at read
      · simp at read
      · split at read
        · simp at read
        · obtain ⟨⟨unit, last⟩, unitRead, read⟩ := exists_of_bind_eq_ok read
          have shorter := length_of_readUnit unitRead
          simp only [pure, Except.pure, List.length_cons] at read ⊢
          split at read
          · rw [← (Prod.mk.inj (Except.ok.inj read)).2]
            omega
          · simp at read

theorem length_of_readCodePoint
    {bytes rest : Bytes}
    {c : Char}
    (read : readCodePoint bytes = .ok (c, rest)) :
    rest.length < bytes.length := by
  unfold readCodePoint failHere at read
  obtain ⟨⟨unit, last⟩, unitRead, read⟩ := exists_of_bind_eq_ok read
  have shorter := length_of_readUnit unitRead
  simp only at read
  split at read
  · simp at read
  · split at read
    · exact Nat.lt_trans (length_of_readTrailing read) shorter
    · cases read
      exact shorter

theorem length_of_readEscape
    {bytes rest : Bytes}
    {c : Char}
    (read : readEscape bytes = .ok (c, rest)) :
    rest.length < bytes.length := by
  unfold readEscape failHere at read
  split at read
  · simp at read
  · split at read
    · have shorter := length_of_readCodePoint read
      simp only [List.length_cons]
      omega
    · grind

/-- Whether a byte of a string stands for itself. -/
def isPlain (byte : UInt8) : Bool :=
  !(byte == quoteMark || byte == backslash || isControl byte)

/-- Read the bytes of a string behind its opening quote. -/
def readStringBytes (bytes : Bytes) : Except Error (Bytes × Bytes) :=
  match split : bytes.dropWhile isPlain with
  | [] => failHere (.unfinished .string) []
  | byte :: rest =>
      if byte == quoteMark then
        .ok (bytes.takeWhile isPlain, rest)
      else if byte == backslash then
        match escape : readEscape rest with
        | .error error => .error error
        | .ok (c, next) =>
            have : next.length < bytes.length := by
              have whole := (List.dropWhile_suffix isPlain : _ <:+ bytes).length_le
              have shorter := length_of_readEscape escape
              rw [split, List.length_cons] at whole
              omega
            do
              let (tail, last) ← readStringBytes next
              return (bytes.takeWhile isPlain ++ (String.utf8EncodeChar c ++ tail), last)
      else
        failHere .controlCharacter rest
termination_by bytes.length

/--
Read a string behind its opening quote.  When a byte makes no character, the error lies as many
bytes in front of the end of the string as there are from that byte to the end of what was read.
-/
def readString (bytes : Bytes) : Except Error (String × Bytes) := do
  let (text, rest) ← readStringBytes bytes
  match Text.Utf8.decode text with
  | .ok characters => return (String.ofList characters, rest)
  | .error unread => .error { cause := .invalidCodePoint, remaining := unread + rest.length }

theorem length_of_readStringBytes
    {bytes text rest : Bytes}
    (read : readStringBytes bytes = .ok (text, rest)) :
    rest.length < bytes.length := by
  fun_induction readStringBytes bytes generalizing text rest with
  | case1 => simp [failHere] at read
  | case2 bytes byte tail split quote =>
      have whole := (List.dropWhile_suffix isPlain : _ <:+ bytes).length_le
      rw [split, List.length_cons] at whole
      cases read
      omega
  | case3 => simp at read
  | case4 bytes byte tail split _ _ c next escape shorter inductionHypothesis =>
      obtain ⟨⟨after, last⟩, tailRead, read⟩ := exists_of_bind_eq_ok read
      have second := inductionHypothesis tailRead
      cases read
      omega
  | case5 => simp [failHere] at read

theorem length_of_readString
    {bytes rest : Bytes}
    {text : String}
    (read : readString bytes = .ok (text, rest)) :
    rest.length < bytes.length := by
  obtain ⟨⟨encoded, last⟩, textRead, read⟩ := exists_of_bind_eq_ok read
  simp only at read
  split at read
  · cases read
    exact length_of_readStringBytes textRead
  · simp at read

/-- Leave out an escape, behind its backslash. -/
def skipEscape : Bytes → Except Error Bytes
  | [] => failHere (.unfinished .string) []
  | letter :: rest =>
      if letter == letterU then do
        let (_, rest) ← readUnit rest
        return rest
      else if (shortEscape? letter).isSome then
        .ok rest
      else
        failHere .invalidEscape rest

theorem length_of_skipEscape
    {bytes rest : Bytes}
    (skipped : skipEscape bytes = .ok rest) :
    rest.length < bytes.length := by
  unfold skipEscape failHere at skipped
  split at skipped
  · simp at skipped
  · split at skipped
    · obtain ⟨⟨unit, last⟩, unitRead, skipped⟩ := exists_of_bind_eq_ok skipped
      cases skipped
      exact Nat.lt_succ_of_lt (length_of_readUnit unitRead)
    · grind

/-- Leave out a string behind its opening quote. -/
def skipString : Bytes → Except Error Bytes
  | [] => failHere (.unfinished .string) []
  | byte :: rest =>
      if byte == quoteMark then
        .ok rest
      else if byte == backslash then
        match escape : skipEscape rest with
        | .error error => .error error
        | .ok next =>
            have : next.length < rest.length := length_of_skipEscape escape
            skipString next
      else if isControl byte then
        failHere .controlCharacter (byte :: rest)
      else
        skipString rest
termination_by bytes => bytes.length

theorem length_of_skipString
    {bytes rest : Bytes}
    (skipped : skipString bytes = .ok rest) :
    rest.length < bytes.length := by
  fun_induction skipString bytes with
  | case1 => simp [failHere] at skipped
  | case2 byte tail =>
      cases skipped
      simp
  | case3 byte tail _ _ error => simp at skipped
  | case4 byte tail _ _ next escape shorter inductionHypothesis =>
      have := inductionHypothesis skipped
      simp only [List.length_cons]
      omega
  | case5 byte tail => simp [failHere] at skipped
  | case6 byte tail _ _ _ inductionHypothesis =>
      have := inductionHypothesis skipped
      simp only [List.length_cons]
      omega

end Json
end InstructionTable
