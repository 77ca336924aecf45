import InstructionTable.Instruction
import InstructionTable.Json.Items

/-!
# Instruction lists

An instruction list is a JSON list of records, and each record is the description of an instruction.
-/

namespace InstructionTable
namespace InstructionList
open Json

/-!
## Keys of a record

A record has six keys.  A key may be capitalised; both spellings are the same key.
-/

/-- A key of a record. -/
inductive Key where
  | name
  | bits
  | arch
  | assembly
  | code
  | aliasOf
deriving DecidableEq, Repr

namespace Key

/-- All keys, in the order in which a list of strings gives their values. -/
def all : List Key :=
  [name, bits, arch, assembly, code, aliasOf]

/-- The spelling of a key. -/
def text : Key → String
  | name => "name"
  | bits => "bits"
  | arch => "arch"
  | assembly => "syntax"
  | code => "code"
  | aliasOf => "alias"

/-- The capitalised spelling of a key. -/
def capitalized : Key → String
  | name => "Name"
  | bits => "Bits"
  | arch => "Arch"
  | assembly => "Syntax"
  | code => "Code"
  | aliasOf => "Alias"

/-- The key that a text spells. -/
def ofText? (text : String) : Option Key :=
  all.find? fun key => key.text == text || key.capitalized == text

end Key

/-!
## Records of an instruction list

A record is an object whose known keys hold strings, or a list of two to six strings in the order
of the keys.  No key comes twice, and other keys are left out with their values.
-/

/-- The values of a record that are read so far. -/
abbrev Draft := List (Key × String)

/-- The description with the values of a draft, given those it cannot do without. -/
def describe
    (draft : Draft)
    (name bits : String) :
    Description :=
  { name := name
    bits := bits
    arch := (draft.lookup .arch).getD ""
    assembly := (draft.lookup .assembly).getD ""
    code := (draft.lookup .code).getD ""
    aliasOf := (draft.lookup .aliasOf).getD "" }

/-- Finish a record written as an object. -/
def finishObject
    (draft : Draft)
    (rest : Bytes) :
    Except Error (Description × Bytes) :=
  match draft.lookup .name, draft.lookup .bits with
  | none, _ => failHere (.missingField Key.name.text) rest
  | some _, none => failHere (.missingField Key.bits.text) rest
  | some name, some bits => .ok (describe draft name bits, rest)

/-- Finish a record written as a list. -/
def finishList
    (draft : Draft)
    (rest : Bytes) :
    Except Error (Description × Bytes) :=
  match draft.lookup .name, draft.lookup .bits with
  | some name, some bits => .ok (describe draft name bits, rest)
  | _, _ => failHere (.tooFewElements draft.length) rest

/--
The error about a key that comes twice.  Its place is behind the key, or behind the object if the
key ends that.
-/
def duplicateKey
    (key : Key)
    (rest : Bytes) :
    Error :=
  let place := match skipBlanks rest with
    | [] => []
    | byte :: rest => if byte == Bracket.object.closing then rest else byte :: rest
  { cause := .duplicateField key.text, remaining := place.length }

/-- Read a key, behind its opening quote, and its value. -/
def readMember
    (draft : Draft)
    (bytes : Bytes) :
    Except Error (Draft × Bytes) := do
  let (text, rest) ← readString bytes
  match Key.ofText? text with
  | none =>
      let rest ← readColon rest
      let rest ← skipValue rest
      return (draft, rest)
  | some key =>
      if (draft.lookup key).isSome then
        .error (duplicateKey key rest)
      else
        let rest ← readColon rest
        let (value, rest) ← readText rest
        return (draft ++ [(key, value)], rest)

/-- Read a record written as a list, given the keys whose values are still to come. -/
def readElements
    (draft : Draft)
    (isFirst : Bool) :
    List Key → Bytes → Except Error (Description × Bytes)
  | [], bytes => do
      let rest ← readClosing bytes
      finishList draft rest
  | key :: keys, bytes => do
      match ← nextElement isFirst bytes with
      | .closed rest => finishList draft rest
      | .item rest =>
          let (value, rest) ← readText rest
          readElements (draft ++ [(key, value)]) false keys rest

theorem finishObject_rest
    {draft : Draft}
    {bytes rest : Bytes}
    {description : Description}
    (finished : finishObject draft bytes = .ok (description, rest)) :
    rest = bytes := by
  unfold finishObject failHere at finished
  grind

theorem finishList_rest
    {draft : Draft}
    {bytes rest : Bytes}
    {description : Description}
    (finished : finishList draft bytes = .ok (description, rest)) :
    rest = bytes := by
  unfold finishList failHere at finished
  grind

theorem length_of_readMember
    {draft next : Draft}
    {bytes rest : Bytes}
    (read : readMember draft bytes = .ok (next, rest)) :
    rest.length < bytes.length := by
  obtain ⟨⟨text, afterKey⟩, keyRead, read⟩ := exists_of_bind_eq_ok read
  have first := length_of_readString keyRead
  simp only at read
  split at read
  · obtain ⟨afterColon, colonRead, read⟩ := exists_of_bind_eq_ok read
    obtain ⟨afterValue, valueSkipped, read⟩ := exists_of_bind_eq_ok read
    have second := length_of_readColon colonRead
    have third := length_of_skipValues valueSkipped
    cases read
    exact Nat.lt_trans third (Nat.lt_trans second first)
  · split at read
    · simp at read
    · obtain ⟨afterColon, colonRead, read⟩ := exists_of_bind_eq_ok read
      obtain ⟨⟨value, afterValue⟩, valueRead, read⟩ := exists_of_bind_eq_ok read
      have second := length_of_readColon colonRead
      have third := length_of_readText valueRead
      cases read
      exact Nat.lt_trans third (Nat.lt_trans second first)

/-- Read a record written as an object, behind its opening bracket. -/
def readMembers
    (draft : Draft)
    (isFirst : Bool)
    (bytes : Bytes) :
    Except Error (Description × Bytes) :=
  match found : nextMember isFirst bytes with
  | .error error => .error error
  | .ok (.closed rest) => finishObject draft rest
  | .ok (.item afterQuote) =>
      match member : readMember draft afterQuote with
      | .error error => .error error
      | .ok (next, rest) =>
          have : rest.length < bytes.length :=
            Nat.lt_trans (length_of_readMember member) (length_of_nextMember found)
          readMembers next false rest
termination_by bytes.length

/-- Read a record. -/
def readRecord (bytes : Bytes) : Except Error (Description × Bytes) :=
  match skipBlanks bytes with
  | [] => failNext (.unfinished .value) []
  | first :: rest =>
      if first == 0x5B then readElements [] true Key.all rest
      else if first == 0x7B then readMembers [] true rest
      else .error (wrongKind .record first rest)

theorem length_of_readMembers
    {draft : Draft}
    {isFirst : Bool}
    {bytes rest : Bytes}
    {description : Description}
    (read : readMembers draft isFirst bytes = .ok (description, rest)) :
    rest.length ≤ bytes.length := by
  fun_induction readMembers draft isFirst bytes with
  | case1 => simp at read
  | case2 draft isFirst bytes tail found =>
      have equal := finishObject_rest read
      have blanks := length_skipBlanks bytes
      unfold nextMember failNext at found
      grind
  | case3 => simp at read
  | case4 draft isFirst bytes afterQuote found next tail member shorter inductionHypothesis =>
      exact Nat.le_of_lt (Nat.lt_of_le_of_lt (inductionHypothesis read) shorter)

theorem length_of_readElements
    {draft : Draft}
    {isFirst : Bool}
    {keys : List Key}
    {bytes rest : Bytes}
    {description : Description}
    (read : readElements draft isFirst keys bytes = .ok (description, rest)) :
    rest.length ≤ bytes.length := by
  induction keys generalizing draft isFirst bytes with
  | nil =>
      obtain ⟨tail, closed, read⟩ := exists_of_bind_eq_ok read
      rw [finishList_rest read]
      exact length_of_readClosing closed
  | cons key keys inductionHypothesis =>
      obtain ⟨next, found, read⟩ := exists_of_bind_eq_ok read
      cases next with
      | closed tail =>
          rw [finishList_rest read]
          exact length_of_nextElement_closed found
      | item tail =>
          obtain ⟨⟨value, afterValue⟩, valueRead, read⟩ := exists_of_bind_eq_ok read
          have first := length_of_nextElement found
          have second := length_of_readText valueRead
          have third := inductionHypothesis read
          omega

theorem length_of_readRecord
    {bytes rest : Bytes}
    {description : Description}
    (read : readRecord bytes = .ok (description, rest)) :
    rest.length < bytes.length := by
  have blanks := length_skipBlanks bytes
  unfold readRecord failNext at read
  split at read
  · simp at read
  · rename_i byte tail equal
    rw [equal, List.length_cons] at blanks
    split at read
    · have shorter := length_of_readElements read
      omega
    · split at read
      · have shorter := length_of_readMembers read
        omega
      · simp at read

/-!
## Lists of records

An instruction list is a JSON list of records, with nothing but blanks around it.
-/

/-- Read the records of a list, behind its opening bracket. -/
def readRecords
    (isFirst : Bool)
    (bytes : Bytes) :
    Except Error (List Description × Bytes) :=
  match found : nextElement isFirst bytes with
  | .error error => .error error
  | .ok (.closed rest) => .ok ([], rest)
  | .ok (.item start) =>
      match record : readRecord start with
      | .error error => .error error
      | .ok (description, next) =>
          have : next.length < bytes.length :=
            Nat.lt_of_lt_of_le (length_of_readRecord record) (length_of_nextElement found)
          match readRecords false next with
          | .error error => .error error
          | .ok (descriptions, rest) => .ok (description :: descriptions, rest)
termination_by bytes.length

/-- Read a whole text: one list of records, with nothing but blanks around it. -/
def readList (text : Bytes) : Except Error (List Description) :=
  match skipBlanks text with
  | [] => failNext (.unfinished .value) []
  | first :: rest =>
      if first == 0x5B then do
        let (descriptions, rest) ← readRecords true rest
        match skipBlanks rest with
        | [] => return descriptions
        | byte :: rest => failNext .trailingCharacters (byte :: rest)
      else
        .error (wrongKind .list first rest)

/-- Read an instruction list; an error comes with its line and column. -/
def ofJson (text : Bytes) : Except Located (List Description) :=
  (readList text).mapError (Located.ofError text)

end InstructionList
end InstructionTable
