import InstructionTable.Json.Skip

/-!
# Values and items

A value of an expected kind is read, and the items of a list or an object are found one by one.
-/

namespace InstructionTable
namespace Json

/-!
## Values of an expected kind

A value of another kind than the expected one is reported with as much of it as the report shows.
-/

/--
Read as much of a value as a report about it needs, given its first byte: a list or an object is
not read at all.
-/
def readFound
    (first : UInt8)
    (rest : Bytes) :
    Except Error (Found × Bytes) :=
  if first == 0x6E then do
    let rest ← readWord (ascii "ull") rest
    return (.null, rest)
  else if first == 0x74 then do
    let rest ← readWord (ascii "rue") rest
    return (.boolean true, rest)
  else if first == 0x66 then do
    let rest ← readWord (ascii "alse") rest
    return (.boolean false, rest)
  else if first == 0x2D || isDigit first then do
    let (number, rest) ← readNumber (first :: rest)
    return (.number number, rest)
  else if first == quoteMark then do
    let (text, rest) ← readString rest
    return (.string text, rest)
  else if first == 0x5B then
    return (.list, first :: rest)
  else if first == 0x7B then
    return (.object, first :: rest)
  else
    failNext .expectedValue (first :: rest)

/-- The error about a value that is not of the expected kind, given its first byte. -/
def wrongKind
    (expected : Expected)
    (first : UInt8)
    (rest : Bytes) :
    Error :=
  match readFound first rest with
  | .error error => error
  | .ok (found, rest) => { cause := .wrongKind found expected, remaining := rest.length }

/-- Read a value that has to be a string. -/
def readText (bytes : Bytes) : Except Error (String × Bytes) :=
  match skipBlanks bytes with
  | [] => failNext (.unfinished .value) []
  | first :: rest =>
      if first == quoteMark then readString rest else .error (wrongKind .string first rest)

theorem length_of_readText
    {bytes rest : Bytes}
    {text : String}
    (read : readText bytes = .ok (text, rest)) :
    rest.length < bytes.length := by
  have blanks := length_skipBlanks bytes
  unfold readText failNext at read
  split at read
  · simp at read
  · rename_i byte tail equal
    rw [equal, List.length_cons] at blanks
    split at read
    · have shorter := length_of_readString read
      omega
    · simp at read

/-!
## Items inside brackets

The elements of a list and the keys of an object stand between commas.  A comma has an item behind
it.
-/

/-- What is next inside brackets. -/
inductive Next where
  /-- Nothing more: the bracket is closed. -/
  | closed (rest : Bytes)
  /-- Another element or key. -/
  | item (rest : Bytes)
deriving DecidableEq, Repr

/-- Look for another element of a list. -/
def nextElement
    (isFirst : Bool)
    (bytes : Bytes) :
    Except Error Next :=
  match skipBlanks bytes with
  | [] => failNext (.unfinished .list) []
  | byte :: rest =>
      if byte == Bracket.list.closing then
        .ok (.closed rest)
      else if isFirst then
        .ok (.item (byte :: rest))
      else if byte == comma then
        match skipBlanks rest with
        | [] => failNext (.unfinished .value) []
        | byte :: rest =>
            if byte == Bracket.list.closing then failNext .trailingComma (byte :: rest)
            else .ok (.item (byte :: rest))
      else
        failNext .expectedCommaOrBracket (byte :: rest)

/-- Look for another key of an object; what follows it begins behind its opening quote. -/
def nextMember
    (isFirst : Bool)
    (bytes : Bytes) :
    Except Error Next :=
  match skipBlanks bytes with
  | [] => failNext (.unfinished .object) []
  | byte :: rest =>
      if byte == Bracket.object.closing then
        .ok (.closed rest)
      else if isFirst then
        if byte == quoteMark then .ok (.item rest) else failNext .keyNotString (byte :: rest)
      else if byte == comma then
        match skipBlanks rest with
        | [] => failNext (.unfinished .value) []
        | byte :: rest =>
            if byte == quoteMark then .ok (.item rest)
            else if byte == Bracket.object.closing then failNext .trailingComma (byte :: rest)
            else failNext .keyNotString (byte :: rest)
      else
        failNext .expectedCommaOrBrace (byte :: rest)

/-- Read the closing bracket of a list that has all its elements. -/
def readClosing (bytes : Bytes) : Except Error Bytes :=
  match skipBlanks bytes with
  | [] => failNext (.unfinished .list) []
  | byte :: rest =>
      if byte == Bracket.list.closing then
        .ok rest
      else if byte == comma then
        match skipBlanks rest with
        | [] => failNext .trailingCharacters []
        | byte :: rest =>
            if byte == Bracket.list.closing then failNext .trailingComma (byte :: rest)
            else failNext .trailingCharacters (byte :: rest)
      else
        failNext .trailingCharacters (byte :: rest)

theorem length_of_nextElement
    {isFirst : Bool}
    {bytes rest : Bytes}
    (found : nextElement isFirst bytes = .ok (.item rest)) :
    rest.length ≤ bytes.length := by
  have blanks := length_skipBlanks bytes
  unfold nextElement failNext at found
  split at found
  · simp at found
  · rename_i byte tail equal
    rw [equal, List.length_cons] at blanks
    have more := length_skipBlanks tail
    grind

theorem length_of_nextMember
    {isFirst : Bool}
    {bytes rest : Bytes}
    (found : nextMember isFirst bytes = .ok (.item rest)) :
    rest.length < bytes.length := by
  have blanks := length_skipBlanks bytes
  unfold nextMember failNext at found
  split at found
  · simp at found
  · rename_i byte tail equal
    rw [equal, List.length_cons] at blanks
    have more := length_skipBlanks tail
    grind

theorem length_of_nextElement_closed
    {isFirst : Bool}
    {bytes rest : Bytes}
    (found : nextElement isFirst bytes = .ok (.closed rest)) :
    rest.length ≤ bytes.length := by
  have blanks := length_skipBlanks bytes
  unfold nextElement failNext at found
  grind

theorem length_of_readClosing
    {bytes rest : Bytes}
    (read : readClosing bytes = .ok rest) :
    rest.length ≤ bytes.length := by
  have blanks := length_skipBlanks bytes
  unfold readClosing failNext at read
  grind

end Json
end InstructionTable
