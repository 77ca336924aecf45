import InstructionTable.InstructionList
import InstructionTable.Proofs.Except
import InstructionTable.Proofs.Json.Brackets

/-!
# Records as they are read

What a record of a list gives is told by its values alone, and so is whether it gives anything.  The
reader of its bytes finds the same, however the values are written.
-/

namespace InstructionTable
namespace InstructionList
open Json

/-! ## What a record gives -/

/-- A record of a list. -/
inductive Record where
  | object (members : List (String × Value))
  | list (elements : List Value)

/-- A record as a value. -/
def Record.value : Record → Value
  | object members => .object members
  | list elements => .list elements

/-- The text of a value that is a string. -/
def text? : Value → Option String
  | .scalar (.string text) => some text
  | _ => none

/-- The values of a draft with those of another member. -/
def takeMember
    (draft : Draft)
    (member : String × Value) :
    Option Draft :=
  match Key.ofText? member.1 with
  | none => some draft
  | some key =>
      if (draft.lookup key).isSome then none
      else (text? member.2).map fun text => draft ++ [(key, text)]

/-- The values of a draft with those of more elements, given the keys that are still to come. -/
def takeElements : Draft → List Key → List Value → Option Draft
  | draft, _, [] => some draft
  | _, [], _ :: _ => none
  | draft, key :: keys, value :: values =>
      (text? value).bind fun text => takeElements (draft ++ [(key, text)]) keys values

/-- The description with the values of a draft, if it has those it cannot do without. -/
def finish (draft : Draft) : Option Description :=
  (draft.lookup .name).bind fun name =>
    (draft.lookup .bits).map fun bits => describe draft name bits

/-- The values of a record. -/
def Record.draft? : Record → Option Draft
  | object members => members.foldlM takeMember []
  | list elements => takeElements [] Key.all elements

/-- The description that a record gives. -/
def Record.description? (record : Record) : Option Description :=
  record.draft?.bind finish

/-! ## What a reader gives -/

/--
A reader gives the value that is expected, and leaves what the tokens behind it are to be read from;
or it gives an error where no value is expected.
-/
inductive Gives
    {α : Type}
    (more : List Token) :
    Option α → Except Error (α × Bytes) → Prop where
  | value {value : α} {rest : Bytes} (left : WritesTokens more rest) :
      Gives more (some value) (.ok (value, rest))
  | failure {error : Error} : Gives more none (.error error)

variable {more : List Token} {bytes rest : Bytes}

/-- A reader that goes on from what another gives. -/
theorem Gives.bind
    {α β : Type}
    {middle : List Token}
    {expected : Option α}
    {result : Except Error (α × Bytes)}
    (gives : Gives middle expected result)
    {next : α → Option β}
    {goOn : α × Bytes → Except Error (β × Bytes)}
    (nextGives : ∀ value rest, WritesTokens middle rest →
      Gives more (next value) (goOn (value, rest))) :
    Gives more (expected.bind next) (result >>= goOn) := by
  cases gives with
  | value left => exact nextGives _ _ left
  | failure => exact .failure

theorem Gives.of_exists
    {α : Type}
    {result : Except Error (α × Bytes)}
    (failed : ∃ error, result = .error error) :
    Gives more none result := by
  obtain ⟨error, rfl⟩ := failed
  exact .failure

/-- What is no string does not begin with a quote. -/
theorem ne_quoteMark_of_mem_fronts
    {scalar : Scalar}
    (other : text? (.scalar scalar) = none)
    {first : UInt8}
    (front : first ∈ scalar.fronts) :
    (first == quoteMark) = false := by
  cases scalar with
  | null =>
      obtain rfl := List.mem_singleton.mp front
      rfl
  | boolean value =>
      cases value <;> (obtain rfl := List.mem_singleton.mp front; rfl)
  | number numeral => exact (front_of_number front).2.2.2.1
  | string text => contradiction

/-- A value that is no string is not read as one. -/
theorem exists_readText_eq_error
    {value : Value}
    (other : text? value = none)
    (written : WritesTokens (value.tokens ++ more) bytes) :
    ∃ error, readText bytes = .error error := by
  have front : ∃ first rest, skipBlanks bytes = first :: rest ∧ (first == quoteMark) = false := by
    cases value with
    | scalar scalar =>
        rw [Value.tokens, List.singleton_append] at written
        obtain ⟨first, rest, front, behind⟩ := written.exists_skipBlanks_eq_cons
        exact ⟨first, rest, behind, ne_quoteMark_of_mem_fronts other front⟩
    | list elements =>
        rw [Value.tokens, List.cons_append] at written
        obtain ⟨rest, -, behind⟩ := written.exists_skipBlanks_eq_of_fronts trivial rfl
        exact ⟨_, rest, behind, rfl⟩
    | object members =>
        rw [Value.tokens, List.cons_append] at written
        obtain ⟨rest, -, behind⟩ := written.exists_skipBlanks_eq_of_fronts trivial rfl
        exact ⟨_, rest, behind, rfl⟩
  obtain ⟨first, rest, behind, noQuote⟩ := front
  rw [readText, behind]
  simp only [noQuote, Bool.false_eq_true, if_false]
  exact ⟨_, rfl⟩

/-- A value that has to be a string is read as its text, or not at all. -/
theorem gives_readText
    {value : Value}
    (written : WritesTokens (value.tokens ++ more) bytes) :
    Gives more (text? value) (readText bytes) := by
  cases given : text? value with
  | none => exact Gives.of_exists (exists_readText_eq_error given written)
  | some text =>
      have same : value = .scalar (.string text) := by
        unfold text? at given
        split at given
        · rw [Option.some.inj given]
        · contradiction
      rw [same, Value.tokens, List.singleton_append] at written
      obtain ⟨body, rest, bodyWritten, left, behind⟩ := written.exists_skipBlanks_eq_string
      rw [readText, behind]
      simp only [beq_self_eq_true, if_true, readString_append bodyWritten]
      exact .value left

/-- A member is read as what it adds to a draft. -/
theorem gives_readMember
    (draft : Draft)
    {key : String}
    {value : Value}
    {body : Bytes}
    (keyWritten : WritesAll key.toList body)
    (written : WritesTokens (.colon :: (value.tokens ++ more)) rest)
    (ends : EndsValue more) :
    Gives more (takeMember draft (key, value)) (readMember draft (body ++ quoteMark :: rest)) := by
  obtain ⟨afterColon, colonWritten, colonRead⟩ := written.readColon
  rw [readMember, readString_append keyWritten, takeMember]
  simp only [ok_bind]
  cases Key.ofText? key with
  | none =>
      obtain ⟨afterValue, valueWritten, skipped⟩ := colonWritten.skipValue ends
      simp only [colonRead, skipped, ok_bind]
      exact .value valueWritten
  | some known =>
      simp only [colonRead, ok_bind]
      by_cases repeated : (draft.lookup known).isSome = true
      · rw [if_pos repeated, if_pos repeated]
        exact .failure
      · rw [if_neg repeated, if_neg repeated, Option.map_eq_bind]
        exact (gives_readText colonWritten).bind fun text rest left => .value left

/-- The end of an object gives what its values describe. -/
theorem gives_finishObject
    (draft : Draft)
    (left : WritesTokens more rest) :
    Gives more (finish draft) (finishObject draft rest) := by
  unfold finish finishObject
  cases draft.lookup .name with
  | none => exact .failure
  | some name =>
      cases draft.lookup .bits with
      | none => exact .failure
      | some bits => exact .value left

theorem gives_finishList
    (draft : Draft)
    (left : WritesTokens more rest) :
    Gives more (finish draft) (finishList draft rest) := by
  unfold finish finishList
  cases draft.lookup .name with
  | none => exact .failure
  | some name =>
      cases draft.lookup .bits with
      | none => exact .failure
      | some bits => exact .value left

/-- A record written as a list is read as what its elements describe. -/
theorem gives_readElements
    {draft : Draft}
    {isFirst : Bool}
    {keys : List Key}
    {elements : List Value}
    (written : WritesTokens (inside .list isFirst (elementTokens elements) ++ more) bytes) :
    Gives more ((takeElements draft keys elements).bind finish)
      (readElements draft isFirst keys bytes) := by
  induction keys generalizing draft isFirst elements bytes with
  | nil =>
      rw [readElements]
      cases elements with
      | nil =>
          obtain ⟨rest, left, closed⟩ := readClosing_closing written
          rw [closed]
          exact gives_finishList draft left
      | cons value values =>
          apply Gives.of_exists
          obtain ⟨error, refused⟩ := readClosing_item value.exists_tokens_eq_cons written
          rw [refused]
          exact ⟨error, rfl⟩
  | cons key keys inductionHypothesis =>
      rw [readElements]
      cases elements with
      | nil =>
          obtain ⟨rest, left, closed⟩ := nextElement_closing written
          rw [closed]
          exact gives_finishList draft left
      | cons value values =>
          obtain ⟨rest, left, found⟩ := nextElement_item value.exists_tokens_eq_cons written
          rw [found, takeElements, Option.bind_assoc]
          exact (gives_readText left).bind fun text rest left => inductionHypothesis left

/-- An object goes on behind each member, and is finished where it is closed. -/
theorem readMembers_eq
    (draft : Draft)
    (isFirst : Bool)
    (bytes : Bytes) :
    readMembers draft isFirst bytes = (do
      match ← nextMember isFirst bytes with
      | .closed rest => finishObject draft rest
      | .item afterQuote =>
          let (next, rest) ← readMember draft afterQuote
          readMembers next false rest) := by
  rw [readMembers]
  split
  · next failed =>
      rw [failed]
      rfl
  · next closed =>
      rw [closed]
      rfl
  · next item =>
      simp only [item, ok_bind]
      split
      · next failed =>
          rw [failed]
          rfl
      · next member =>
          simp only [member, ok_bind]

/-- A record written as an object is read as what its members describe. -/
theorem gives_readMembers
    {draft : Draft}
    {isFirst : Bool}
    {members : List (String × Value)}
    (written : WritesTokens (inside .object isFirst (memberTokens members) ++ more) bytes) :
    Gives more ((members.foldlM takeMember draft).bind finish)
      (readMembers draft isFirst bytes) := by
  induction members generalizing draft isFirst bytes with
  | nil =>
      obtain ⟨rest, left, closed⟩ := nextMember_closing written
      rw [readMembers_eq, closed]
      exact gives_finishObject draft left
  | cons member members inductionHypothesis =>
      obtain ⟨key, value⟩ := member
      obtain ⟨body, rest, keyWritten, left, found⟩ := nextMember_item written
      rw [readMembers_eq, found, ok_bind, List.foldlM_cons, Option.bind_eq_bind, Option.bind_assoc]
      exact (gives_readMember draft keyWritten left (endsValue_inside .object _ more)).bind
        fun next rest left => inductionHypothesis left

/-- A record is read as what it describes. -/
theorem gives_readRecord
    {record : Record}
    (written : WritesTokens (record.value.tokens ++ more) bytes) :
    Gives more record.description? (readRecord bytes) := by
  cases record with
  | object members =>
      rw [Record.value, Value.tokens, List.cons_append] at written
      obtain ⟨rest, left, behind⟩ := written.exists_skipBlanks_eq_of_fronts trivial rfl
      rw [readRecord, behind]
      exact gives_readMembers left
  | list elements =>
      rw [Record.value, Value.tokens, List.cons_append] at written
      obtain ⟨rest, left, behind⟩ := written.exists_skipBlanks_eq_of_fronts trivial rfl
      rw [readRecord, behind]
      exact gives_readElements left

/-! ## Whole lists -/

/-- A list goes on behind each record, up to where it is closed. -/
theorem readRecords_eq
    (isFirst : Bool)
    (bytes : Bytes) :
    readRecords isFirst bytes = (do
      match ← nextElement isFirst bytes with
      | .closed rest => return ([], rest)
      | .item start =>
          let (description, next) ← readRecord start
          let (descriptions, rest) ← readRecords false next
          return (description :: descriptions, rest)) := by
  rw [readRecords]
  split
  · next failed =>
      rw [failed]
      rfl
  · next closed =>
      rw [closed]
      rfl
  · next item =>
      simp only [item, ok_bind]
      split
      · next failed =>
          rw [failed]
          rfl
      · next description next record =>
          simp only [record, ok_bind]
          cases readRecords false next <;> rfl

/-- The records of a list are read as what they describe. -/
theorem gives_readRecords
    {isFirst : Bool}
    {records : List Record}
    (written : WritesTokens
      (inside .list isFirst (elementTokens (records.map Record.value)) ++ more) bytes) :
    Gives more (records.mapM Record.description?) (readRecords isFirst bytes) := by
  induction records generalizing isFirst bytes with
  | nil =>
      obtain ⟨rest, left, closed⟩ := nextElement_closing written
      rw [readRecords_eq, closed]
      exact .value left
  | cons record records inductionHypothesis =>
      obtain ⟨rest, left, found⟩ := nextElement_item record.value.exists_tokens_eq_cons written
      rw [readRecords_eq, found, ok_bind, List.mapM_cons]
      exact (gives_readRecord left).bind fun description next left =>
        (inductionHypothesis left).bind fun descriptions rest left => .value left

/-- A document is read as what its records describe. -/
theorem ofJson_eq_ok_iff
    {records : List Record}
    {text : Bytes}
    (written : WritesTokens (Value.list (records.map Record.value)).tokens text)
    {descriptions : List Description} :
    ofJson text = .ok descriptions ↔ records.mapM Record.description? = some descriptions := by
  rw [Value.tokens] at written
  obtain ⟨rest, left, behind⟩ := written.exists_skipBlanks_eq_of_fronts trivial rfl
  rw [← List.append_nil (inside _ _ _)] at left
  have gives := gives_readRecords left
  have opens : (Bracket.list.opening == 0x5B) = true := rfl
  rw [ofJson, mapError_eq_ok_iff, readList, behind]
  simp only [opens, if_true]
  revert gives
  generalize records.mapM Record.description? = expected
  generalize readRecords true rest = result
  intro gives
  cases gives with
  | value nothing =>
      simp only [ok_bind, nothing.skipBlanks_eq_nil]
      exact ⟨fun same => congrArg some (Except.ok.inj same),
        fun same => congrArg Except.ok (Option.some.inj same)⟩
  | @failure error =>
      have refused : (Except.error error : Except Error (List Description)) ≠ .ok descriptions := by
        simp
      exact iff_of_false refused (by simp)

end InstructionList
end InstructionTable
