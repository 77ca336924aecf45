import InstructionTable.Json.Numeral
import InstructionTable.Json.Strings

/-!
# Values that are left out

A value of any depth is left out without recursion on its depth: the brackets that are open are
kept in a list.  Its form is checked and nothing else, so its numbers may be of any size.
-/

namespace InstructionTable
namespace Json

/-- An open bracket. -/
inductive Bracket where
  | list
  | object
deriving DecidableEq, Repr

namespace Bracket

/-- The byte that closes a bracket. -/
def closing : Bracket → UInt8
  | list => 0x5D
  | object => 0x7D

/-- The part of a text that a bracket opens. -/
def part : Bracket → Part
  | list => .list
  | object => .object

/-- What is wrong when a value is followed by neither a comma nor the closing bracket. -/
def unclosed : Bracket → Cause
  | list => .expectedCommaOrBracket
  | object => .expectedCommaOrBrace

end Bracket

/-- The byte between two values. -/
def comma : UInt8 := 0x2C

/-- The byte between a key and its value. -/
def colon : UInt8 := 0x3A

/-- Read the colon behind a key. -/
def readColon (bytes : Bytes) : Except Error Bytes :=
  match skipBlanks bytes with
  | [] => failNext (.unfinished .object) []
  | byte :: rest =>
      if byte == colon then .ok rest else failNext .expectedColon (byte :: rest)

/-- Leave out a key and its colon. -/
def skipKey (bytes : Bytes) : Except Error Bytes :=
  match skipBlanks bytes with
  | [] => failNext (.unfinished .object) []
  | byte :: rest =>
      if byte == quoteMark then do
        let rest ← skipString rest
        readColon rest
      else
        failNext .keyNotString (byte :: rest)

/-- Leave out what is left of a value without brackets, given its first byte. -/
def skipScalar
    (first : UInt8)
    (rest : Bytes) :
    Except Error Bytes :=
  if first == 0x6E then readWord (ascii "ull") rest
  else if first == 0x74 then readWord (ascii "rue") rest
  else if first == 0x66 then readWord (ascii "alse") rest
  else if first == quoteMark then skipString rest
  else if first == 0x2D || isDigit first then do
    let (_, rest) ← readNumeral .invalidNumber (first :: rest)
    return rest
  else
    failNext .expectedValue (first :: rest)

/-- What follows a value that is left out. -/
inductive Follow where
  /-- Nothing: no bracket is open. -/
  | done (rest : Bytes)
  /-- Another value inside these brackets. -/
  | value (opened : List Bracket) (rest : Bytes)
deriving DecidableEq, Repr

/-- The bytes that are left. -/
def Follow.rest : Follow → Bytes
  | done rest => rest
  | value _ rest => rest

/-- Close brackets behind a value, up to the next value in one of them. -/
def closeBrackets : List Bracket → Bytes → Except Error Follow
  | [], rest => .ok (.done rest)
  | bracket :: opened, bytes =>
      match skipBlanks bytes with
      | [] => failNext (.unfinished bracket.part) []
      | byte :: rest =>
          if byte == comma then
            match bracket with
            | .list => .ok (.value (bracket :: opened) rest)
            | .object => do
                let rest ← skipKey rest
                return .value (bracket :: opened) rest
          else if byte == bracket.closing then
            closeBrackets opened rest
          else
            failNext bracket.unclosed (byte :: rest)

/-- Open a bracket: its first value follows, unless it is closed at once. -/
def openBracket
    (bracket : Bracket)
    (opened : List Bracket)
    (bytes : Bytes) :
    Except Error Follow :=
  match skipBlanks bytes with
  | [] => failNext (.unfinished bracket.part) []
  | byte :: rest =>
      if byte == bracket.closing then
        closeBrackets opened rest
      else
        match bracket with
        | .list => .ok (.value (bracket :: opened) (byte :: rest))
        | .object => do
            let rest ← skipKey (byte :: rest)
            return .value (bracket :: opened) rest

/-- Leave out the front of a value, given its first byte. -/
def skipFront
    (opened : List Bracket)
    (first : UInt8)
    (rest : Bytes) :
    Except Error Follow :=
  if first == 0x5B then
    openBracket .list opened rest
  else if first == 0x7B then
    openBracket .object opened rest
  else do
    let rest ← skipScalar first rest
    closeBrackets opened rest

theorem length_of_readColon
    {bytes rest : Bytes}
    (read : readColon bytes = .ok rest) :
    rest.length < bytes.length := by
  have blanks := length_skipBlanks bytes
  unfold readColon failNext at read
  split at read
  · simp at read
  · rename_i byte tail equal
    rw [equal, List.length_cons] at blanks
    split at read
    · cases read
      omega
    · simp at read

theorem length_of_skipKey
    {bytes rest : Bytes}
    (skipped : skipKey bytes = .ok rest) :
    rest.length < bytes.length := by
  have blanks := length_skipBlanks bytes
  unfold skipKey failNext at skipped
  split at skipped
  · simp at skipped
  · rename_i byte tail equal
    rw [equal, List.length_cons] at blanks
    split at skipped
    · obtain ⟨next, stringSkipped, skipped⟩ := exists_of_bind_eq_ok skipped
      have first := length_of_skipString stringSkipped
      have second := length_of_readColon skipped
      omega
    · simp at skipped

theorem length_of_skipScalar
    {first : UInt8}
    {bytes rest : Bytes}
    (skipped : skipScalar first bytes = .ok rest) :
    rest.length ≤ bytes.length := by
  unfold skipScalar failNext at skipped
  split at skipped
  · exact length_of_readWord skipped
  · split at skipped
    · exact length_of_readWord skipped
    · split at skipped
      · exact length_of_readWord skipped
      · split at skipped
        · exact Nat.le_of_lt (length_of_skipString skipped)
        · split at skipped
          · obtain ⟨⟨numeral, last⟩, numeralRead, skipped⟩ := exists_of_bind_eq_ok skipped
            cases skipped
            exact Nat.le_of_lt_succ (length_of_readNumeral numeralRead)
          · simp at skipped

theorem length_of_closeBrackets
    {opened : List Bracket}
    {bytes : Bytes}
    {follow : Follow}
    (closed : closeBrackets opened bytes = .ok follow) :
    follow.rest.length ≤ bytes.length := by
  fun_induction closeBrackets opened bytes with
  | case1 =>
      cases closed
      exact Nat.le_refl _
  | case2 => simp [failNext] at closed
  | case3 opened bytes byte tail equal =>
      have blanks := length_skipBlanks bytes
      rw [equal, List.length_cons] at blanks
      cases closed
      exact Nat.le_of_succ_le blanks
  | case4 opened bytes byte tail equal =>
      have blanks := length_skipBlanks bytes
      rw [equal, List.length_cons] at blanks
      obtain ⟨next, keySkipped, closed⟩ := exists_of_bind_eq_ok closed
      have shorter := length_of_skipKey keySkipped
      cases closed
      simp only [Follow.rest]
      omega
  | case5 bracket opened bytes byte tail equal _ _ inductionHypothesis =>
      have blanks := length_skipBlanks bytes
      have shorter := inductionHypothesis closed
      rw [equal, List.length_cons] at blanks
      omega
  | case6 => simp [failNext] at closed

theorem length_of_openBracket
    {bracket : Bracket}
    {opened : List Bracket}
    {bytes : Bytes}
    {follow : Follow}
    (read : openBracket bracket opened bytes = .ok follow) :
    follow.rest.length ≤ bytes.length := by
  have blanks := length_skipBlanks bytes
  unfold openBracket failNext at read
  split at read
  · simp at read
  · rename_i byte tail equal
    rw [equal, List.length_cons] at blanks
    split at read
    · have shorter := length_of_closeBrackets read
      omega
    · split at read
      · cases read
        exact blanks
      · obtain ⟨next, keySkipped, read⟩ := exists_of_bind_eq_ok read
        have shorter := length_of_skipKey keySkipped
        cases read
        exact Nat.le_trans (Nat.le_of_lt shorter) blanks

theorem length_of_skipFront
    {opened : List Bracket}
    {first : UInt8}
    {bytes : Bytes}
    {follow : Follow}
    (read : skipFront opened first bytes = .ok follow) :
    follow.rest.length ≤ bytes.length := by
  unfold skipFront at read
  split at read
  · exact length_of_openBracket read
  · split at read
    · exact length_of_openBracket read
    · obtain ⟨next, scalarSkipped, read⟩ := exists_of_bind_eq_ok read
      exact Nat.le_trans (length_of_closeBrackets read) (length_of_skipScalar scalarSkipped)

/-- Leave out values until all of the given brackets are closed. -/
def skipValues
    (opened : List Bracket)
    (bytes : Bytes) :
    Except Error Bytes :=
  match blanks : skipBlanks bytes with
  | [] => failNext (.unfinished .value) []
  | first :: tail =>
      match front : skipFront opened first tail with
      | .error error => .error error
      | .ok (.done rest) => .ok rest
      | .ok (.value stillOpened next) =>
          have : next.length < bytes.length := by
            have shorter := length_of_skipFront front
            have whole := length_skipBlanks bytes
            rw [blanks, List.length_cons] at whole
            exact Nat.lt_of_le_of_lt shorter whole
          skipValues stillOpened next
termination_by bytes.length

theorem length_of_skipValues
    {opened : List Bracket}
    {bytes rest : Bytes}
    (skipped : skipValues opened bytes = .ok rest) :
    rest.length < bytes.length := by
  fun_induction skipValues opened bytes with
  | case1 => simp [failNext] at skipped
  | case2 => simp at skipped
  | case3 opened bytes first tail blanks last front =>
      have whole := length_skipBlanks bytes
      have shorter := length_of_skipFront front
      rw [blanks, List.length_cons] at whole
      cases skipped
      exact Nat.lt_of_le_of_lt shorter whole
  | case4 opened bytes first tail blanks stillOpened next front shorter inductionHypothesis =>
      exact Nat.lt_trans (inductionHypothesis skipped) shorter

/-- Leave out one value. -/
def skipValue (bytes : Bytes) : Except Error Bytes :=
  skipValues [] bytes

end Json
end InstructionTable
