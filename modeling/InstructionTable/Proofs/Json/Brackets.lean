import InstructionTable.Proofs.Json.Values

/-!
# Lists and objects as they are written

A list or an object is left out in one piece, or its items are found one by one.
-/

namespace InstructionTable
namespace Json

/-!
## Values that are left out

A value of any depth is left out in one piece.  Inside it the reader stands behind some value with
some brackets open, and goes on to the end of the outermost one.
-/

section

/-! ## Values without brackets and keys -/

/-- What begins a number is nothing else that begins a value without brackets. -/
theorem front_of_number
    {first : UInt8}
    (front : first ∈ ascii "-0123456789") :
    (first == 0x6E) = false ∧ (first == 0x74) = false ∧ (first == 0x66) = false ∧
      (first == quoteMark) = false ∧ (first == 0x2D || isDigit first) = true := by
  have known : (ascii "-0123456789").all (fun first =>
      decide ((first == 0x6E) = false ∧ (first == 0x74) = false ∧ (first == 0x66) = false ∧
        (first == quoteMark) = false ∧ (first == 0x2D || isDigit first) = true)) = true := by
    decide
  exact of_decide_eq_true (List.all_eq_true.mp known first front)

/-- A value without brackets is left out. -/
theorem skipScalar_append
    {scalar : Scalar}
    {head tail rest : Bytes}
    {first : UInt8}
    (written : WritesScalar scalar head)
    (whole : head = first :: tail)
    (stops : StopsAt continuesNumeral rest) :
    skipScalar first (tail ++ rest) = .ok rest := by
  cases written with
  | null =>
      obtain ⟨rfl, rfl⟩ := List.cons.inj
        (show 0x6E :: ascii "ull" = first :: tail from .trans (by decide) whole)
      exact readWord_append _ rest
  | true =>
      obtain ⟨rfl, rfl⟩ := List.cons.inj
        (show 0x74 :: ascii "rue" = first :: tail from .trans (by decide) whole)
      exact readWord_append _ rest
  | false =>
      obtain ⟨rfl, rfl⟩ := List.cons.inj
        (show 0x66 :: ascii "alse" = first :: tail from .trans (by decide) whole)
      exact readWord_append _ rest
  | number numeral =>
      obtain ⟨other, others, same, front⟩ := (WritesScalar.number numeral).exists_eq_cons
      obtain ⟨rfl, rfl⟩ := List.cons.inj (whole.symm.trans same)
      obtain ⟨notN, notT, notF, notQuote, begins⟩ := front_of_number front
      have read := readNumeral_append numeral stops .invalidNumber
      rw [whole, List.cons_append] at read
      simp only [skipScalar, notN, notT, notF, notQuote, begins, read]
      rfl
  | @string text body written =>
      have quote : ascii "\"" = [quoteMark] := by decide
      rw [quote, List.singleton_append] at whole
      obtain ⟨rfl, rfl⟩ := List.cons.inj whole
      rw [List.append_assoc]
      exact skipString_of_writesAll written rest

variable {tokens : List Token} {bytes : Bytes}

theorem WritesTokens.readColon
    (written : WritesTokens (.colon :: tokens) bytes) :
    ∃ rest, WritesTokens tokens rest ∧ readColon bytes = .ok rest := by
  obtain ⟨rest, others, behind⟩ := written.exists_skipBlanks_eq_of_fronts trivial rfl
  refine ⟨rest, others, ?_⟩
  rw [Json.readColon, behind]
  rfl

theorem WritesTokens.skipKey
    {key : String}
    (written : WritesTokens (.scalar (.string key) :: .colon :: tokens) bytes) :
    ∃ rest, WritesTokens tokens rest ∧ skipKey bytes = .ok rest := by
  obtain ⟨body, tail, bodyWritten, others, behind⟩ := written.exists_skipBlanks_eq_string
  obtain ⟨rest, othersBehind, read⟩ := others.readColon
  refine ⟨rest, othersBehind, ?_⟩
  simp only [Json.skipKey, behind, beq_self_eq_true, if_true,
    skipString_of_writesAll bodyWritten tail]
  exact read

/-! ## Behind a value -/

/-- No numeral goes on with these tokens: the first is a mark, or there is none. -/
def EndsValue (tokens : List Token) : Prop :=
  ∀ token ∈ tokens.head?, token.IsMark

/-- Inside a bracket a value ends in front of the next item. -/
theorem endsValue_inside
    (bracket : Bracket)
    (items : List (List Token))
    (more : List Token) :
    EndsValue (inside bracket false items ++ more) := by
  cases items with
  | nil =>
      rintro _ ⟨⟩
      trivial
  | cons item items =>
      rintro _ ⟨⟩
      trivial

/-- Leave out what follows, if anything does. -/
def goOn : Except Error Follow → Except Error Bytes
  | .error error => .error error
  | .ok (.done rest) => .ok rest
  | .ok (.value opened rest) => skipValues opened rest

/-- A value is left out from its first byte. -/
theorem skipValues_eq
    {opened : List Bracket}
    {first : UInt8}
    {tail : Bytes}
    (behind : skipBlanks bytes = first :: tail) :
    skipValues opened bytes = goOn (skipFront opened first tail) := by
  rw [skipValues]
  split
  · next none =>
      rw [none] at behind
      contradiction
  · next other others some =>
      rw [some] at behind
      obtain ⟨rfl, rfl⟩ := List.cons.inj behind
      split
      · next failed => exact (congrArg goOn failed).symm
      · next ended => exact (congrArg goOn ended).symm
      · next goes => exact (congrArg goOn goes).symm

/-- Go on behind a value inside a bracket. -/
def goOnInside
    (bracket : Bracket)
    (opened : List Bracket)
    (bytes : Bytes) :
    Except Error Bytes :=
  goOn (closeBrackets (bracket :: opened) bytes)

/--
A reader leaves out some tokens: it goes on behind them in the brackets that are open, whatever
tokens come there.
-/
def LeavesOut
    (tokens : List Token)
    (reader : List Bracket → Bytes → Except Error Bytes) : Prop :=
  ∀ {opened : List Bracket} {more : List Token} {bytes : Bytes},
    WritesTokens (tokens ++ more) bytes → EndsValue more →
      ∃ rest, WritesTokens more rest ∧ reader opened bytes = goOn (closeBrackets opened rest)

/-! ## Values inside brackets -/

/-- A value without brackets is left out. -/
theorem leavesOut_scalar (scalar : Scalar) : LeavesOut [.scalar scalar] skipValues := by
  intro opened more bytes written ends
  rw [List.singleton_append] at written
  obtain ⟨head, rest, first, others, behind⟩ := written.exists_skipBlanks_eq
  cases first with
  | scalar first =>
      obtain ⟨byte, tail, whole, front⟩ := first.exists_eq_cons
      have skipped := skipScalar_append first whole (others.stopsAt ends)
      have known : (ascii "ntf-0123456789\"").all (fun byte =>
          decide ((byte == 0x5B) = false ∧ (byte == 0x7B) = false)) = true := by
        decide
      obtain ⟨noList, noObject⟩ :=
        of_decide_eq_true (List.all_eq_true.mp known byte (scalar.fronts_subset front))
      refine ⟨rest, others, ?_⟩
      rw [whole, List.cons_append] at behind
      rw [skipValues_eq behind, skipFront, noList, noObject, skipped]
      rfl

theorem leavesOut_closing (bracket : Bracket) :
    LeavesOut (inside bracket false []) (goOnInside bracket) := by
  intro opened more bytes written ends
  rw [inside, List.singleton_append] at written
  obtain ⟨rest, others, behind⟩ := written.exists_skipBlanks_eq_of_fronts trivial rfl
  refine ⟨rest, others, ?_⟩
  rw [goOnInside, closeBrackets, behind]
  cases bracket <;> rfl

variable {value : List Token} {items : List (List Token)}

/-- A value inside a bracket is left out with all that follows it there. -/
theorem leavesOut_item
    {bracket : Bracket}
    (first : LeavesOut value skipValues)
    (others : LeavesOut (inside bracket false items) (goOnInside bracket)) :
    LeavesOut (value ++ inside bracket false items)
      fun opened => skipValues (bracket :: opened) := by
  intro opened more bytes written ends
  rw [List.append_assoc] at written
  obtain ⟨middle, middleWritten, skipped⟩ := first written (endsValue_inside bracket items more)
  obtain ⟨rest, restWritten, skippedOthers⟩ := others middleWritten ends
  exact ⟨rest, restWritten, skipped.trans skippedOthers⟩

/-- Behind a comma an element is left out with all that follows it. -/
theorem leavesOut_element
    (first : LeavesOut value skipValues)
    (others : LeavesOut (inside .list false items) (goOnInside .list)) :
    LeavesOut (inside .list false (value :: items)) (goOnInside .list) := by
  intro opened more bytes written ends
  rw [inside, if_neg Bool.false_ne_true, List.singleton_append, List.cons_append] at written
  obtain ⟨tail, tailWritten, behind⟩ := written.exists_skipBlanks_eq_of_fronts trivial rfl
  obtain ⟨rest, restWritten, skipped⟩ := leavesOut_item first others tailWritten ends
  refine ⟨rest, restWritten, ?_⟩
  rw [← skipped, goOnInside, closeBrackets, behind]
  rfl

/-- Behind a comma a member is left out with all that follows it. -/
theorem leavesOut_member
    (key : String)
    (first : LeavesOut value skipValues)
    (others : LeavesOut (inside .object false items) (goOnInside .object)) :
    LeavesOut (inside .object false ((.scalar (.string key) :: .colon :: value) :: items))
      (goOnInside .object) := by
  intro opened more bytes written ends
  rw [inside, if_neg Bool.false_ne_true, List.singleton_append, List.cons_append] at written
  obtain ⟨tail, tailWritten, behind⟩ := written.exists_skipBlanks_eq_of_fronts trivial rfl
  obtain ⟨valueBytes, valueWritten, keySkipped⟩ := tailWritten.skipKey
  obtain ⟨rest, restWritten, skipped⟩ := leavesOut_item first others valueWritten ends
  refine ⟨rest, restWritten, ?_⟩
  rw [← skipped, goOnInside, closeBrackets, behind]
  simp only [beq_self_eq_true, if_true, keySkipped]
  rfl

/-! ## Values in brackets -/

/-- Behind its first byte a value in brackets is one that opens a bracket. -/
theorem skipFront_opening
    (bracket : Bracket)
    (opened : List Bracket)
    (rest : Bytes) :
    skipFront opened bracket.opening rest = openBracket bracket opened rest := by
  cases bracket <;> rfl

theorem leavesOut_empty (bracket : Bracket) :
    LeavesOut (.opening bracket :: inside bracket true []) skipValues := by
  intro opened more bytes written ends
  rw [inside, List.cons_append, List.singleton_append] at written
  obtain ⟨tail, tailWritten, behind⟩ := written.exists_skipBlanks_eq_of_fronts trivial rfl
  obtain ⟨rest, restWritten, closed⟩ := tailWritten.exists_skipBlanks_eq_of_fronts trivial rfl
  refine ⟨rest, restWritten, ?_⟩
  rw [skipValues_eq behind, skipFront_opening, openBracket, closed]
  simp only [beq_self_eq_true, if_true]

/-- A list is left out, with all of its elements. -/
theorem leavesOut_list
    (opens : ∃ token tokens, value = token :: tokens ∧ token.OpensValue)
    (first : LeavesOut value skipValues)
    (others : LeavesOut (inside .list false items) (goOnInside .list)) :
    LeavesOut (.opening .list :: inside .list true (value :: items)) skipValues := by
  obtain ⟨token, tokens, rfl, opensValue⟩ := opens
  intro opened more bytes written ends
  rw [inside, if_pos rfl, List.nil_append, List.cons_append] at written
  obtain ⟨tail, tailWritten, behind⟩ := written.exists_skipBlanks_eq_of_fronts trivial rfl
  obtain ⟨rest, restWritten, skipped⟩ := leavesOut_item first others tailWritten.skipBlanks ends
  obtain ⟨byte, next, front, found⟩ := tailWritten.exists_skipBlanks_eq_cons
  refine ⟨rest, restWritten, ?_⟩
  rw [← skipped, skipValues_eq behind, skipFront_opening, openBracket, found]
  simp only [opensValue.ne_closing front, Bool.false_eq_true, if_false]
  rfl

/-- An object is left out, with all of its members. -/
theorem leavesOut_object
    (key : String)
    (first : LeavesOut value skipValues)
    (others : LeavesOut (inside .object false items) (goOnInside .object)) :
    LeavesOut (.opening .object :: inside .object true
      ((.scalar (.string key) :: .colon :: value) :: items)) skipValues := by
  intro opened more bytes written ends
  rw [inside, if_pos rfl, List.nil_append, List.cons_append] at written
  obtain ⟨tail, tailWritten, behind⟩ := written.exists_skipBlanks_eq_of_fronts trivial rfl
  obtain ⟨valueBytes, valueWritten, keySkipped⟩ := tailWritten.skipBlanks.skipKey
  obtain ⟨rest, restWritten, skipped⟩ := leavesOut_item first others valueWritten ends
  obtain ⟨body, next, -, -, found⟩ := tailWritten.exists_skipBlanks_eq_string
  refine ⟨rest, restWritten, ?_⟩
  rw [found] at keySkipped
  rw [← skipped, skipValues_eq behind, skipFront_opening, openBracket, found]
  simp only [keySkipped]
  rfl

mutual

/-- A value of any depth is left out. -/
theorem leavesOut_value : (value : Value) → LeavesOut value.tokens skipValues
  | .scalar value => by
      rw [Value.tokens]
      exact leavesOut_scalar value
  | .list [] => by
      rw [Value.tokens, elementTokens]
      exact leavesOut_empty .list
  | .list (value :: values) => by
      rw [Value.tokens, elementTokens]
      exact leavesOut_list value.exists_tokens_eq_cons (leavesOut_value value)
        (leavesOut_elements values)
  | .object [] => by
      rw [Value.tokens, memberTokens]
      exact leavesOut_empty .object
  | .object ((key, value) :: members) => by
      rw [Value.tokens, memberTokens]
      exact leavesOut_object key (leavesOut_value value) (leavesOut_members members)

theorem leavesOut_elements : (values : List Value) →
    LeavesOut (inside .list false (elementTokens values)) (goOnInside .list)
  | [] => leavesOut_closing .list
  | value :: values => leavesOut_element (leavesOut_value value) (leavesOut_elements values)

theorem leavesOut_members : (members : List (String × Value)) →
    LeavesOut (inside .object false (memberTokens members)) (goOnInside .object)
  | [] => leavesOut_closing .object
  | (key, value) :: members =>
      leavesOut_member key (leavesOut_value value) (leavesOut_members members)

end

/-- A value is left out to its end. -/
theorem WritesTokens.skipValue
    {value : Value}
    (written : WritesTokens (value.tokens ++ tokens) bytes)
    (ends : EndsValue tokens) :
    ∃ rest, WritesTokens tokens rest ∧ skipValue bytes = .ok rest :=
  leavesOut_value value written ends

end

/-!
## Items inside brackets, as they are written

The reader of a list or an object finds each item in front of the tokens that follow it, and the end
behind the last one.
-/

variable {isFirst : Bool} {more : List Token} {bytes : Bytes}

/-- Behind the blanks is the end of a bracket without further items. -/
theorem WritesTokens.exists_skipBlanks_eq_closing
    {bracket : Bracket}
    (written : WritesTokens (inside bracket isFirst [] ++ more) bytes) :
    ∃ rest, WritesTokens more rest ∧ Json.skipBlanks bytes = bracket.closing :: rest := by
  rw [inside, List.singleton_append] at written
  exact written.exists_skipBlanks_eq_of_fronts trivial rfl

/-! ## Lists -/

/-- A list that has all its elements is closed. -/
theorem nextElement_closing
    (written : WritesTokens (inside .list isFirst [] ++ more) bytes) :
    ∃ rest, WritesTokens more rest ∧ nextElement isFirst bytes = .ok (.closed rest) := by
  obtain ⟨rest, restWritten, behind⟩ := written.exists_skipBlanks_eq_closing
  refine ⟨rest, restWritten, ?_⟩
  rw [nextElement, behind]
  rfl

/-- Another element of a list is found, behind its comma unless it is the first. -/
theorem nextElement_item
    {value : List Token}
    {items : List (List Token)}
    (opens : ∃ token tokens, value = token :: tokens ∧ token.OpensValue)
    (written : WritesTokens (inside .list isFirst (value :: items) ++ more) bytes) :
    ∃ rest, WritesTokens (value ++ (inside .list false items ++ more)) rest ∧
      nextElement isFirst bytes = .ok (.item rest) := by
  obtain ⟨token, tokens, rfl, opensValue⟩ := opens
  rw [inside, List.append_assoc, List.append_assoc] at written
  cases isFirst with
  | true =>
      rw [if_pos rfl, List.nil_append] at written
      obtain ⟨byte, rest, front, behind⟩ := written.exists_skipBlanks_eq_cons
      refine ⟨byte :: rest, behind ▸ written.skipBlanks, ?_⟩
      rw [nextElement, behind]
      simp only [opensValue.ne_closing front, Bool.false_eq_true, if_false, if_true]
  | false =>
      rw [if_neg Bool.false_ne_true, List.singleton_append] at written
      obtain ⟨tail, tailWritten, behind⟩ := written.exists_skipBlanks_eq_of_fronts trivial rfl
      obtain ⟨byte, rest, front, found⟩ := tailWritten.exists_skipBlanks_eq_cons
      refine ⟨byte :: rest, found ▸ tailWritten.skipBlanks, ?_⟩
      rw [nextElement, behind]
      simp only [found, opensValue.ne_closing front, Bool.false_eq_true, if_false,
        beq_self_eq_true, if_true]
      rfl

/-- The end of a list is read behind its last element. -/
theorem readClosing_closing
    (written : WritesTokens (inside .list isFirst [] ++ more) bytes) :
    ∃ rest, WritesTokens more rest ∧ readClosing bytes = .ok rest := by
  obtain ⟨rest, restWritten, behind⟩ := written.exists_skipBlanks_eq_closing
  refine ⟨rest, restWritten, ?_⟩
  rw [readClosing, behind]
  rfl

/-- Where another element is to come the end of the list is not read. -/
theorem readClosing_item
    {value : List Token}
    {items : List (List Token)}
    (opens : ∃ token tokens, value = token :: tokens ∧ token.OpensValue)
    (written : WritesTokens (inside .list isFirst (value :: items) ++ more) bytes) :
    ∃ error, readClosing bytes = .error error := by
  obtain ⟨token, tokens, rfl, opensValue⟩ := opens
  have other : ∃ byte rest, skipBlanks bytes = byte :: rest ∧
      (byte == Bracket.list.closing) = false := by
    rw [inside, List.append_assoc, List.append_assoc] at written
    cases isFirst with
    | true =>
        rw [if_pos rfl, List.nil_append] at written
        obtain ⟨byte, rest, front, behind⟩ := written.exists_skipBlanks_eq_cons
        exact ⟨byte, rest, behind, opensValue.ne_closing front .list⟩
    | false =>
        rw [if_neg Bool.false_ne_true, List.singleton_append] at written
        obtain ⟨rest, -, behind⟩ := written.exists_skipBlanks_eq_of_fronts trivial rfl
        exact ⟨comma, rest, behind, rfl⟩
  obtain ⟨byte, rest, behind, notClosing⟩ := other
  rw [readClosing, behind]
  simp only [notClosing, Bool.false_eq_true, if_false]
  split
  · split
    · exact ⟨_, rfl⟩
    · split <;> exact ⟨_, rfl⟩
  · exact ⟨_, rfl⟩

/-! ## Objects -/

theorem nextMember_closing
    (written : WritesTokens (inside .object isFirst [] ++ more) bytes) :
    ∃ rest, WritesTokens more rest ∧ nextMember isFirst bytes = .ok (.closed rest) := by
  obtain ⟨rest, restWritten, behind⟩ := written.exists_skipBlanks_eq_closing
  refine ⟨rest, restWritten, ?_⟩
  rw [nextMember, behind]
  rfl

/-- Another key of an object is found, behind its comma unless it is the first. -/
theorem nextMember_item
    {key : String}
    {value : List Token}
    {items : List (List Token)}
    (written : WritesTokens
      (inside .object isFirst ((.scalar (.string key) :: value) :: items) ++ more) bytes) :
    ∃ body rest, WritesAll key.toList body ∧
      WritesTokens (value ++ (inside .object false items ++ more)) rest ∧
      nextMember isFirst bytes = .ok (.item (body ++ quoteMark :: rest)) := by
  rw [inside, List.append_assoc, List.append_assoc] at written
  cases isFirst with
  | true =>
      rw [if_pos rfl, List.nil_append] at written
      obtain ⟨body, rest, bodyWritten, restWritten, behind⟩ := written.exists_skipBlanks_eq_string
      refine ⟨body, rest, bodyWritten, restWritten, ?_⟩
      rw [nextMember, behind]
      rfl
  | false =>
      rw [if_neg Bool.false_ne_true, List.singleton_append] at written
      obtain ⟨tail, tailWritten, behind⟩ := written.exists_skipBlanks_eq_of_fronts trivial rfl
      obtain ⟨body, rest, bodyWritten, restWritten, found⟩ :=
        tailWritten.exists_skipBlanks_eq_string
      refine ⟨body, rest, bodyWritten, restWritten, ?_⟩
      rw [nextMember, behind]
      simp only [found]
      rfl

end Json
end InstructionTable
