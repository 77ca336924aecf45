import InstructionTable.Json.Items
import InstructionTable.Proofs.Json.Strings

/-!
# Values as they are written

A value is written as a row of tokens with any blanks around them, and each token has its own ways
to be written.  The tokens that are still to come tell where a reader stands.
-/

namespace InstructionTable
namespace Json

/-! ## Values and their tokens -/

/-- A value without brackets. -/
inductive Scalar where
  | null
  | boolean (value : Bool)
  | number (numeral : WrittenNumeral)
  | string (text : String)
deriving DecidableEq, Repr

/-- A value. -/
inductive Value where
  | scalar (scalar : Scalar)
  | list (elements : List Value)
  | object (members : List (String × Value))

/-- A token of a text. -/
inductive Token where
  | opening (bracket : Bracket)
  | closing (bracket : Bracket)
  | comma
  | colon
  | scalar (scalar : Scalar)
deriving DecidableEq, Repr

/--
The tokens of items inside a bracket, up to where it is closed: a comma is in front of each item but
the first.
-/
def inside
    (bracket : Bracket) :
    Bool → List (List Token) → List Token
  | _, [] => [.closing bracket]
  | isFirst, item :: items =>
      (if isFirst then [] else [.comma]) ++ (item ++ inside bracket false items)

mutual

/-- The tokens of a value. -/
def Value.tokens : Value → List Token
  | .scalar scalar => [.scalar scalar]
  | .list elements => .opening .list :: inside .list true (elementTokens elements)
  | .object members => .opening .object :: inside .object true (memberTokens members)

/-- The tokens of each element of a list. -/
def elementTokens : List Value → List (List Token)
  | [] => []
  | value :: values => value.tokens :: elementTokens values

/-- The tokens of each member of an object. -/
def memberTokens : List (String × Value) → List (List Token)
  | [] => []
  | (key, value) :: members =>
      (.scalar (.string key) :: .colon :: value.tokens) :: memberTokens members

end

/-! ## How tokens are written -/

/-- The ways to write a value without brackets. -/
inductive WritesScalar : Scalar → Bytes → Prop where
  | null : WritesScalar .null (ascii "null")
  | true : WritesScalar (.boolean true) (ascii "true")
  | false : WritesScalar (.boolean false) (ascii "false")
  | number (numeral : WrittenNumeral) : WritesScalar (.number numeral) numeral.bytes
  | string {text : String} {body : Bytes} (written : WritesAll text.toList body) :
      WritesScalar (.string text) (ascii "\"" ++ (body ++ ascii "\""))

/-- The ways to write a token. -/
inductive WritesToken : Token → Bytes → Prop where
  | openingList : WritesToken (.opening .list) (ascii "[")
  | openingObject : WritesToken (.opening .object) (ascii "\x7b")
  | closingList : WritesToken (.closing .list) (ascii "]")
  | closingObject : WritesToken (.closing .object) (ascii "\x7d")
  | comma : WritesToken .comma (ascii ",")
  | colon : WritesToken .colon (ascii ":")
  | scalar {scalar : Scalar} {bytes : Bytes} (written : WritesScalar scalar bytes) :
      WritesToken (.scalar scalar) bytes

/-- The ways to write tokens: there may be blanks in front of each, and behind the last. -/
inductive WritesTokens : List Token → Bytes → Prop where
  | nil {blanks : Bytes} (blank : blanks ⊆ ascii " \t\n\r") : WritesTokens [] blanks
  | cons {token : Token} {tokens : List Token} {blanks head tail : Bytes}
      (blank : blanks ⊆ ascii " \t\n\r")
      (first : WritesToken token head)
      (others : WritesTokens tokens tail) :
      WritesTokens (token :: tokens) (blanks ++ (head ++ tail))

/-! ## The first byte of a token -/

/-- The bytes that a value without brackets can begin with. -/
def Scalar.fronts : Scalar → Bytes
  | null => ascii "n"
  | boolean true => ascii "t"
  | boolean false => ascii "f"
  | number _ => ascii "-0123456789"
  | string _ => [quoteMark]

/-- The byte that opens a bracket. -/
def Bracket.opening : Bracket → UInt8
  | list => 0x5B
  | object => 0x7B

/-- The bytes that a token can begin with. -/
def Token.fronts : Token → Bytes
  | opening bracket => [bracket.opening]
  | closing bracket => [bracket.closing]
  | comma => [Json.comma]
  | colon => [Json.colon]
  | .scalar value => value.fronts

/-- Whether a token is a mark of one byte. -/
def Token.IsMark : Token → Prop
  | scalar _ => False
  | _ => True

theorem digit_mem_fronts :
    ∀ digit : Fin 10, UInt8.ofNat (0x30 + digit.1) ∈ ascii "-0123456789" := by
  decide

/-- A value without brackets begins as it can. -/
theorem WritesScalar.exists_eq_cons
    {scalar : Scalar}
    {bytes : Bytes}
    (written : WritesScalar scalar bytes) :
    ∃ first rest, bytes = first :: rest ∧ first ∈ scalar.fronts := by
  cases written with
  | null => exact ⟨0x6E, ascii "ull", by decide, by decide⟩
  | true => exact ⟨0x74, ascii "rue", by decide, by decide⟩
  | false => exact ⟨0x66, ascii "alse", by decide, by decide⟩
  | number numeral =>
      obtain ⟨negative, integer, nonempty, plain, fraction, exponent⟩ := numeral
      cases negative with
      | true =>
          have minus : ascii "-" = [0x2D] := by decide
          exact ⟨0x2D, _, congrArg (· ++ _) minus, List.mem_cons_self⟩
      | false =>
          cases integer with
          | nil => contradiction
          | cons digit others => exact ⟨_, _, rfl, digit_mem_fronts digit⟩
  | string written => exact ⟨quoteMark, _, rfl, List.mem_singleton_self quoteMark⟩

/-- A token begins as it can; a mark is no longer than that. -/
theorem WritesToken.exists_eq_cons
    {token : Token}
    {bytes : Bytes}
    (written : WritesToken token bytes) :
    ∃ first rest, bytes = first :: rest ∧ first ∈ token.fronts ∧ (token.IsMark → rest = []) := by
  cases written with
  | openingList => exact ⟨0x5B, [], by decide, by decide, fun _ => rfl⟩
  | openingObject => exact ⟨0x7B, [], by decide, by decide, fun _ => rfl⟩
  | closingList => exact ⟨0x5D, [], by decide, by decide, fun _ => rfl⟩
  | closingObject => exact ⟨0x7D, [], by decide, by decide, fun _ => rfl⟩
  | comma => exact ⟨0x2C, [], by decide, by decide, fun _ => rfl⟩
  | colon => exact ⟨0x3A, [], by decide, by decide, fun _ => rfl⟩
  | scalar written =>
      obtain ⟨first, rest, whole, front⟩ := written.exists_eq_cons
      exact ⟨first, rest, whole, front, False.elim⟩

theorem Token.IsMark.fronts_subset
    {token : Token}
    (mark : token.IsMark) :
    token.fronts ⊆ ascii "[]\x7b\x7d,:" := by
  cases token with
  | opening bracket => cases bracket <;> decide
  | closing bracket => cases bracket <;> decide
  | comma => decide
  | colon => decide
  | scalar value => contradiction

theorem Scalar.fronts_subset (scalar : Scalar) : scalar.fronts ⊆ ascii "ntf-0123456789\"" := by
  cases scalar with
  | null => decide
  | boolean value => cases value <;> decide
  | number numeral =>
      change ascii "-0123456789" ⊆ _
      decide
  | string text =>
      change [quoteMark] ⊆ _
      decide

/-- A mark begins with no byte that continues a numeral. -/
theorem Token.IsMark.continuesNumeral
    {token : Token}
    {first : UInt8}
    (mark : token.IsMark)
    (front : first ∈ token.fronts) :
    continuesNumeral first = false := by
  have known : (ascii "[]\x7b\x7d,:").all (Json.continuesNumeral · == false) = true := by decide
  exact eq_of_beq (List.all_eq_true.mp known first (mark.fronts_subset front))

/-- A token does not begin with a blank. -/
theorem Token.isBlank_of_mem_fronts
    {token : Token}
    {first : UInt8}
    (front : first ∈ token.fronts) :
    isBlank first = false := by
  have marks : (ascii "[]\x7b\x7d,:").all (isBlank · == false) = true := by decide
  have scalars : (ascii "ntf-0123456789\"").all (isBlank · == false) = true := by decide
  by_cases mark : token.IsMark
  · exact eq_of_beq (List.all_eq_true.mp marks first (mark.fronts_subset front))
  · cases token with
    | scalar value =>
        exact eq_of_beq (List.all_eq_true.mp scalars first (value.fronts_subset front))
    | _ => exact absurd trivial mark

/-- Whether a value can begin with a token. -/
def Token.OpensValue : Token → Prop
  | opening _ | scalar _ => True
  | _ => False

theorem Value.exists_tokens_eq_cons (value : Value) :
    ∃ token others, value.tokens = token :: others ∧ token.OpensValue := by
  cases value with
  | scalar value => exact ⟨.scalar value, [], by rw [tokens], trivial⟩
  | list elements => exact ⟨.opening .list, _, by rw [tokens], trivial⟩
  | object members => exact ⟨.opening .object, _, by rw [tokens], trivial⟩

/-- No value begins with the byte that closes a bracket. -/
theorem Token.OpensValue.ne_closing
    {token : Token}
    {first : UInt8}
    (opens : token.OpensValue)
    (front : first ∈ token.fronts)
    (bracket : Bracket) :
    (first == bracket.closing) = false := by
  have known : (ascii "ntf-0123456789\"").all (fun byte => (byte == bracket.closing) == false) =
      true := by
    cases bracket <;> decide
  cases token with
  | opening other =>
      obtain rfl := List.mem_singleton.mp front
      cases other <;> cases bracket <;> rfl
  | scalar value =>
      exact eq_of_beq (List.all_eq_true.mp known first (value.fronts_subset front))
  | closing other => contradiction
  | comma => contradiction
  | colon => contradiction

/-! ## Reading the next token -/

theorem isBlank_of_subset
    {blanks : Bytes}
    (blank : blanks ⊆ ascii " \t\n\r") :
    ∀ byte ∈ blanks, isBlank byte = true := by
  intro byte member
  have known : (ascii " \t\n\r").all isBlank = true := by decide
  exact List.all_eq_true.mp known byte (blank member)

namespace WritesTokens

variable {token : Token} {tokens : List Token} {bytes : Bytes}

theorem skipBlanks_eq_nil (written : WritesTokens [] bytes) : skipBlanks bytes = [] := by
  cases written with
  | nil blank => exact List.dropWhile_eq_nil_iff.mpr (isBlank_of_subset blank)

/-- Behind the blanks is the next token. -/
theorem exists_skipBlanks_eq
    (written : WritesTokens (token :: tokens) bytes) :
    ∃ head tail, WritesToken token head ∧ WritesTokens tokens tail ∧
      skipBlanks bytes = head ++ tail := by
  cases written with
  | @cons _ _ blanks head tail blank first others =>
      refine ⟨head, tail, first, others, ?_⟩
      obtain ⟨byte, rest, rfl, front, -⟩ := first.exists_eq_cons
      apply dropWhile_append_of_stopsAt (isBlank_of_subset blank)
      rintro _ ⟨⟩
      exact Token.isBlank_of_mem_fronts front

theorem exists_skipBlanks_eq_cons
    (written : WritesTokens (token :: tokens) bytes) :
    ∃ first rest, first ∈ token.fronts ∧ skipBlanks bytes = first :: rest := by
  obtain ⟨head, tail, first, -, behind⟩ := written.exists_skipBlanks_eq
  obtain ⟨byte, rest, rfl, front, -⟩ := first.exists_eq_cons
  exact ⟨byte, rest ++ tail, front, behind⟩

/-- Behind the blanks is the next mark. -/
theorem exists_skipBlanks_eq_of_fronts
    {byte : UInt8}
    (written : WritesTokens (token :: tokens) bytes)
    (mark : token.IsMark)
    (fronts : token.fronts = [byte]) :
    ∃ tail, WritesTokens tokens tail ∧ skipBlanks bytes = byte :: tail := by
  obtain ⟨head, tail, first, others, behind⟩ := written.exists_skipBlanks_eq
  obtain ⟨byte', rest, rfl, front, short⟩ := first.exists_eq_cons
  rw [fronts, List.mem_singleton] at front
  rw [short mark, front] at behind
  exact ⟨tail, others, behind⟩

/-- Behind the blanks is the next string, in its quotes. -/
theorem exists_skipBlanks_eq_string
    {text : String}
    (written : WritesTokens (.scalar (.string text) :: tokens) bytes) :
    ∃ body tail, WritesAll text.toList body ∧ WritesTokens tokens tail ∧
      skipBlanks bytes = quoteMark :: (body ++ quoteMark :: tail) := by
  obtain ⟨head, tail, first, others, behind⟩ := written.exists_skipBlanks_eq
  cases first with
  | scalar first =>
      cases first with
      | @string _ body written =>
          have quote : ascii "\"" = [quoteMark] := by decide
          refine ⟨body, tail, written, others, ?_⟩
          rw [behind, quote, List.append_assoc, List.append_assoc, List.singleton_append,
            List.singleton_append]

/-- The same tokens are to come behind the blanks. -/
theorem skipBlanks (written : WritesTokens tokens bytes) :
    WritesTokens tokens (Json.skipBlanks bytes) := by
  cases tokens with
  | nil =>
      rw [written.skipBlanks_eq_nil]
      exact .nil (List.nil_subset _)
  | cons token tokens =>
      obtain ⟨head, tail, first, others, behind⟩ := written.exists_skipBlanks_eq
      rw [behind]
      exact .cons (List.nil_subset _) first others

/-- What stands behind a value does not continue a numeral. -/
theorem stopsAt
    (written : WritesTokens tokens bytes)
    (ends : ∀ token ∈ tokens.head?, token.IsMark) :
    StopsAt continuesNumeral bytes := by
  have blankStops {byte : UInt8} (member : byte ∈ ascii " \t\n\r") :
      continuesNumeral byte = false := by
    have known : (ascii " \t\n\r").all (continuesNumeral · == false) = true := by decide
    exact eq_of_beq (List.all_eq_true.mp known byte member)
  intro byte first
  cases written with
  | nil blank => exact blankStops (blank (List.mem_of_mem_head? first))
  | @cons token _ blanks head _ blank written _ =>
      cases blanks with
      | cons other blanks =>
          exact blankStops (blank (List.mem_of_mem_head? first))
      | nil =>
          obtain ⟨other, rest, rfl, front, -⟩ := written.exists_eq_cons
          have same : other = byte := Option.some.inj first
          exact (ends token rfl).continuesNumeral (same ▸ front)

end WritesTokens

end Json
end InstructionTable
