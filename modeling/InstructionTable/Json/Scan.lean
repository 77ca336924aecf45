import InstructionTable.Json.Number
import InstructionTable.Text

/-!
# Readers of a JSON text

A reader takes the bytes that are left, and fails with an error that tells the place.
-/

namespace InstructionTable
namespace Json

/-!
## What can be wrong with a JSON text

An error has a cause and a place.  While a text is read the place is the number of bytes that are
left; in the end it is a line and a column.
-/

/-- What a text breaks off in. -/
inductive Part where
  | value
  | list
  | object
  | string
deriving DecidableEq, Repr

/-- The name of a part. -/
def Part.text : Part → String
  | value => "a value"
  | list => "a list"
  | object => "an object"
  | string => "a string"

/-- A value that stands where another kind is expected. -/
inductive Found where
  | null
  | boolean (value : Bool)
  | number (value : Number)
  | string (value : String)
  | list
  | object
deriving DecidableEq, Repr

/-- The description of a value in a report. -/
def Found.text : Found → String
  | null => "null"
  | boolean true => "boolean `true`"
  | boolean false => "boolean `false`"
  | number (.integer value) => "integer `" ++ (Number.integer value).text ++ "`"
  | number (.decimal negative magnitude) =>
      "floating point `" ++ (Number.decimal negative magnitude).text ++ "`"
  | string value => "string " ++ (Text.QuoteStyle.mk false).quote value
  | list => "sequence"
  | object => "map"

/-- What a reader expects. -/
inductive Expected where
  | string
  | list
  | record
deriving DecidableEq, Repr

/-- The description of an expectation in a report. -/
def Expected.text : Expected → String
  | string => "a string"
  | list => "a sequence"
  | record => "struct Description"

/-- What is wrong with a text. -/
inductive Cause where
  | unfinished (part : Part)
  | expectedValue
  | expectedWord
  | expectedColon
  | expectedCommaOrBracket
  | expectedCommaOrBrace
  | keyNotString
  | trailingComma
  | trailingCharacters
  | invalidNumber
  | numberOutOfRange
  | invalidEscape
  | unfinishedPair
  | loneSurrogate
  | invalidCodePoint
  | controlCharacter
  | wrongKind (found : Found) (expected : Expected)
  | tooFewElements (count : Nat)
  | missingField (name : String)
  | duplicateField (name : String)
deriving DecidableEq, Repr

/-- The wording of a cause. -/
def Cause.text : Cause → String
  | unfinished part => "EOF while parsing " ++ part.text
  | expectedValue => "expected value"
  | expectedWord => "expected ident"
  | expectedColon => "expected `:`"
  | expectedCommaOrBracket => "expected `,` or `]`"
  | expectedCommaOrBrace => "expected `,` or `\x7d`"
  | keyNotString => "key must be a string"
  | trailingComma => "trailing comma"
  | trailingCharacters => "trailing characters"
  | invalidNumber => "invalid number"
  | numberOutOfRange => "number out of range"
  | invalidEscape => "invalid escape"
  | unfinishedPair => "unexpected end of hex escape"
  | loneSurrogate => "lone leading surrogate in hex escape"
  | invalidCodePoint => "invalid unicode code point"
  | controlCharacter => "control character (\\u0000-\\u001F) found while parsing a string"
  | wrongKind found expected => "invalid type: " ++ found.text ++ ", expected " ++ expected.text
  | tooFewElements count =>
      "invalid length " ++ toString count ++ ", expected struct Description with 6 elements"
  | missingField name => "missing field `" ++ name ++ "`"
  | duplicateField name => "duplicate field `" ++ name ++ "`"

/-- An error met while reading. -/
structure Error where
  /-- What is wrong. -/
  cause : Cause
  /-- The number of bytes left behind the place of the error. -/
  remaining : Nat
deriving DecidableEq, Repr

/-- The bytes of a text, or those that are left of it. -/
abbrev Bytes := List UInt8

/-- Fail behind all that is read. -/
def failHere
    {α : Type}
    (cause : Cause)
    (rest : Bytes) :
    Except Error α :=
  .error { cause := cause, remaining := rest.length }

/-- Fail behind the next byte, if there is one. -/
def failNext
    {α : Type}
    (cause : Cause)
    (rest : Bytes) :
    Except Error α :=
  .error { cause := cause, remaining := rest.length - 1 }

/-- An error with its place in the text. -/
structure Located where
  /-- What is wrong. -/
  cause : Cause
  /-- The line, counted from one. -/
  line : Nat
  /-- The number of bytes of the line before the place. -/
  column : Nat
deriving DecidableEq, Repr

namespace Located

/-- The byte that ends a line. -/
def lineFeed : UInt8 := 0x0A

/-- Find the place of an error in the whole text. -/
def ofError
    (text : Bytes)
    (error : Error) :
    Located :=
  let read := text.take (text.length - error.remaining)
  { cause := error.cause
    line := read.count lineFeed + 1
    column := (read.reverse.takeWhile (· != lineFeed)).length }

/-- The report of an error. -/
def message (error : Located) : String :=
  error.cause.text ++ " at line " ++ toString error.line ++ " column " ++ toString error.column

end Located

/-!
## Readers

A reader takes the bytes that are left and gives its result with those left after it.  What it
leaves is shorter than what it takes, or as long when it may read nothing.
-/

/-- Whether a byte is blank between the tokens of a text. -/
def isBlank (byte : UInt8) : Bool :=
  byte == 0x20 || byte == 0x0A || byte == 0x09 || byte == 0x0D

/-- Leave out the blanks at the front. -/
def skipBlanks (bytes : Bytes) : Bytes :=
  bytes.dropWhile isBlank

/-- The bytes of an ASCII text. -/
def ascii (text : String) : Bytes :=
  text.toList.map fun c => UInt8.ofNat c.toNat

/-- Read the given bytes, one after the other. -/
def readWord : Bytes → Bytes → Except Error Bytes
  | [], rest => .ok rest
  | _ :: _, [] => failHere (.unfinished .value) []
  | expected :: word, byte :: rest =>
      if byte == expected then readWord word rest else failHere .expectedWord rest

/-- A chain of readers that succeeds has a first link that succeeds. -/
theorem exists_of_bind_eq_ok
    {ε α β : Type}
    {first : Except ε α}
    {next : α → Except ε β}
    {result : β}
    (succeeded : (first >>= next) = .ok result) :
    ∃ value, first = .ok value ∧ next value = .ok result := by
  cases first with
  | error => simp [bind, Except.bind] at succeeded
  | ok value => exact ⟨value, rfl, succeeded⟩

theorem length_skipBlanks (bytes : Bytes) : (skipBlanks bytes).length ≤ bytes.length :=
  (List.dropWhile_suffix _).length_le

theorem length_of_readWord
    {word bytes rest : Bytes}
    (read : readWord word bytes = .ok rest) :
    rest.length ≤ bytes.length := by
  fun_induction readWord word bytes with
  | case1 tail =>
      cases read
      exact Nat.le_refl _
  | case2 => simp [failHere] at read
  | case3 expected word byte tail _ inductionHypothesis =>
      have := inductionHypothesis read
      simp only [List.length_cons]
      omega
  | case4 => simp [failHere] at read

/-- Whether a byte is a decimal digit. -/
def isDigit (byte : UInt8) : Bool :=
  0x30 ≤ byte && byte ≤ 0x39

/-- The number of a decimal digit. -/
def digitValue (byte : UInt8) : Nat :=
  byte.toNat - 0x30

end Json
end InstructionTable
