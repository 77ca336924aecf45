import InstructionTable.Proofs.Lexical.Strings
import InstructionTable.Proofs.Lexical.Words

/-!
# Printed tokens are read back

A text that holds some tokens with white space between them is cut into these tokens, if each of
them is read as itself wherever it ends: a word or a literal in front of a separator, anything else
in front of any text.  What is printed is such a text, since the space between two tokens is left
out only where a bracket or a colon keeps them apart.
-/

namespace InstructionTable
namespace Lexical

namespace Token

/-- Whether a token ends where the given text follows it. -/
def endsBefore : Token → List Char → Bool
  | word _ _, rest => isSeparated rest
  | literal _, rest => isSeparated rest && rest.head? != some '.'
  | _, _ => true

/-- Whether a character stands neither between tokens nor at the front of a text that is a file. -/
def isFront (c : Char) : Bool :=
  !isBlank c && c != '/' && c != '\ufeff'

/-- A token is read as itself wherever it ends. -/
structure ReadsBack (token : Token) : Prop where
  /-- Its first character is none that is left out. -/
  front : token.text.toList.head?.any isFront = true
  /-- It is read. -/
  read : ∀ rest, token.endsBefore rest = true →
    readToken? (token.text.toList ++ rest) = some (token, rest)

/-- A word that is well spelled is read as itself. -/
theorem WellSpelled.readsBack
    {raw : Bool}
    {name : String}
    (wellSpelled : (word raw name).WellSpelled) :
    (word raw name).ReadsBack where
  front := by
    cases raw with
    | false =>
        obtain ⟨c, more, same, begins, -⟩ := wellSpelled.1.exists_eq_cons
        have notLeftOut := not_mem_of_passes begins
          (show ['/', '\ufeff'].all _ = true by decide +kernel)
        simp only [List.mem_cons, List.not_mem_nil, or_false, not_or] at notLeftOut
        simp [text, same, isFront, isBlank_eq_false_of_beginsWord begins, notLeftOut]
    | true =>
        have first : (word true name).text.toList = 'r' :: '#' :: name.toList := by simp [text]
        rw [first]
        rfl
  read := fun rest separated => readToken?_word wellSpelled separated

theorem readsBack_opening (bracket : Bracket) : (opening bracket).ReadsBack where
  front := by cases bracket <;> decide
  read := by
    intro rest _
    cases bracket <;> rfl

theorem readsBack_closing (bracket : Bracket) : (closing bracket).ReadsBack where
  front := by cases bracket <;> decide
  read := by
    intro rest _
    cases bracket <;> rfl

/-- The marks that begin neither a comment nor a label. -/
def plainMarks : List Char :=
  marks.filter fun c => c != '/' && c != '\''

/-- A mark is read as itself, if it begins neither a comment nor a label. -/
theorem readsBack_mark
    {c : Char}
    (member : c ∈ plainMarks) :
    (mark c).ReadsBack where
  front := by
    have front := List.all_eq_true.mp (show plainMarks.all isFront = true by decide) c member
    simpa [text] using front
  read := by
    intro rest _
    have others : plainMarks.all (fun c => !quoteFronts.contains c &&
        !c.isDigit && !bracketFronts.contains c) = true := by decide
    have other := List.all_eq_true.mp others c member
    simp only [Bool.and_eq_true, Bool.not_eq_true', List.contains_eq_mem, decide_eq_false_iff_not]
      at other
    obtain ⟨⟨noQuote, noDigit⟩, noBracket⟩ := other
    obtain ⟨isMark, plain⟩ := List.mem_filter.mp member
    rw [Bool.and_eq_true, bne_iff_ne, bne_iff_ne] at plain
    have noLiteral : skipLiteral? (c :: rest) = none := by
      rw [skipLiteral?, skipQuoted?_eq_none noQuote, skipDecimal?_eq_none noDigit,
        skipInteger?_eq_none noDigit]
      rfl
    have isRead : readMark? (c :: rest) = some (mark c, rest) := by
      simp [readMark?, isMark, plain]
    rw [text, String.toList_ofList, List.singleton_append, readToken?,
      readDocumentation?_eq_none plain.1, readBracket?_eq_none noBracket, readLiteral?, noLiteral,
      isRead]
    rfl

/-- The characters that strings and numbers begin with. -/
def literalStarts : List Char :=
  ['"', '0', '1', '2', '3', '4', '5', '6', '7', '8', '9']

/-- A literal is read as itself, if it is read up to any separator behind it but a point. -/
theorem readsBack_literal
    {written : String}
    (starts : ∃ c ∈ literalStarts, written.toList.head? = some c)
    (skipped : ∀ rest, isSeparated rest = true → rest.head? ≠ some '.' →
      skipLiteral? (written.toList ++ rest) = some rest) :
    (literal written).ReadsBack := by
  obtain ⟨c, member, first⟩ := starts
  have others : literalStarts.all (fun c => isFront c && c != '/' &&
      !bracketFronts.contains c) = true := by decide
  have other := List.all_eq_true.mp others c member
  simp only [Bool.and_eq_true, bne_iff_ne, Bool.not_eq_true', List.contains_eq_mem,
    decide_eq_false_iff_not] at other
  obtain ⟨⟨front, noSlash⟩, noBracket⟩ := other
  obtain ⟨tail, shape⟩ := List.head?_eq_some_iff.mp first
  refine { front := ?_, read := ?_ }
  · simpa [text, shape] using front
  · intro rest ends
    rw [endsBefore, Bool.and_eq_true, bne_iff_ne] at ends
    have isRead : readLiteral? (written.toList ++ rest) = some (literal written, rest) := by
      simp [readLiteral?, skipped rest ends.1 ends.2]
    rw [text]
    rw [shape, List.cons_append] at isRead ⊢
    rw [readToken?, readDocumentation?_eq_none noSlash, readBracket?_eq_none noBracket, isRead]
    rfl

theorem readsBack_quote
    (style : Text.QuoteStyle)
    (text : String) :
    (literal (style.quote text)).ReadsBack :=
  readsBack_literal ⟨'"', by decide, by rw [toList_quote]; rfl⟩
    fun _ separated _ => skipLiteral?_quote style text separated

theorem readsBack_toString (number : Nat) : (literal (toString number)).ReadsBack := by
  apply readsBack_literal
  · obtain ⟨first, more, written, digit⟩ := exists_toList_toString number
    have starts := check_of_isDigit (digit first List.mem_cons_self) literalStarts.contains
      (by decide)
    exact ⟨first, List.contains_iff_mem.mp starts, by rw [written]; rfl⟩
  · intro rest separated noPoint
    rw [Nat.toString_eq_ofList_toDigits, String.toList_ofList]
    exact skipLiteral?_toDigits number separated noPoint

end Token

/-! ## All tokens of a text -/

/--
A text renders some tokens: it holds them in order, each where it ends, and nothing else but white
space.
-/
inductive Renders : List Token → List Char → Prop where
  /-- An empty text renders no tokens. -/
  | nil : Renders [] []
  /-- White space may stand in front of a text. -/
  | blank
      {tokens : List Token}
      {text : List Char}
      {c : Char}
      (white : Unicode.isWhiteSpace c = true)
      (renders : Renders tokens text) :
      Renders tokens (c :: text)
  /-- A token may stand in front of a text if it ends there. -/
  | token
      {token : Token}
      {tokens : List Token}
      {text : List Char}
      (ends : token.endsBefore text = true)
      (renders : Renders tokens text) :
      Renders (token :: tokens) (token.text.toList ++ text)

theorem skipTrivia_cons
    {c : Char}
    (white : Unicode.isWhiteSpace c = true)
    (text : List Char) :
    skipTrivia (c :: text) = skipTrivia text := by
  have noSlash : c ≠ '/' := by
    rintro rfl
    contradiction
  have noComment : skipComment? (c :: text) = none := by
    unfold skipComment?
    split <;> simp_all
  rw [skipTrivia]
  split
  · rename_i comment
    rw [noComment] at comment
    contradiction
  · simp [isBlank, white]

/-- A comment between tokens is left out. -/
theorem skipTrivia_of_skipComment?
    {text rest : List Char}
    (comment : skipComment? text = some rest) :
    skipTrivia text = skipTrivia rest := by
  rw [skipTrivia]
  split
  · rename_i behind found
    rw [comment] at found
    injection found with same
    subst same
    rfl
  · rename_i found
    rw [comment] at found
    contradiction

/-- A character that is not left out ends what stands between tokens. -/
theorem skipTrivia_of_isFront
    {c : Char}
    (front : Token.isFront c = true)
    (tail : List Char) :
    skipTrivia (c :: tail) = c :: tail := by
  simp only [Token.isFront, Bool.and_eq_true, Bool.not_eq_true', bne_iff_ne] at front
  have noComment : skipComment? (c :: tail) = none := by
    unfold skipComment?
    split <;> simp_all
  rw [skipTrivia]
  split
  · rename_i rest comment
    rw [noComment] at comment
    contradiction
  · simp [front.1.1]

/-- The tokens of a text are the one at its front, if there is one, and those of what follows it. -/
theorem cutTokens?_eq (text : List Char) :
    cutTokens? text =
      match skipTrivia text with
      | [] => some []
      | c :: tail =>
          match readToken? (c :: tail) with
          | none => none
          | some (token, rest) => (cutTokens? rest).map (token :: ·) := by
  rw [cutTokens?]
  split
  · rename_i start
    rw [start]
  · rename_i start
    split
    · rename_i found
      simp only [start, found]
    · rename_i found
      simp only [start, found]

theorem cutTokens?_nil : cutTokens? [] = some [] := by
  have start : skipTrivia [] = [] := by
    rw [skipTrivia]
    rfl
  rw [cutTokens?_eq, start]

theorem cutTokens?_cons
    {c : Char}
    (white : Unicode.isWhiteSpace c = true)
    (text : List Char) :
    cutTokens? (c :: text) = cutTokens? text := by
  rw [cutTokens?_eq, skipTrivia_cons white, ← cutTokens?_eq]

/-- A text goes on behind the token at its front. -/
theorem cutTokens?_append
    {token : Token}
    (readsBack : token.ReadsBack)
    {rest : List Char}
    (ends : token.endsBefore rest = true) :
    cutTokens? (token.text.toList ++ rest) = (cutTokens? rest).map (token :: ·) := by
  have read := readsBack.read rest ends
  have front := readsBack.front
  cases shape : token.text.toList with
  | nil =>
      rw [shape] at front
      contradiction
  | cons c tail =>
      rw [shape] at read front
      have start := skipTrivia_of_isFront (by simpa using front) (tail ++ rest)
      rw [List.cons_append] at read ⊢
      rw [cutTokens?_eq, start]
      dsimp only
      rw [read]

/-- A text that renders some tokens is cut into them. -/
theorem Renders.cutTokens?
    {tokens : List Token}
    {text : List Char}
    (renders : Renders tokens text)
    (readBack : ∀ token ∈ tokens, token.ReadsBack) :
    cutTokens? text = some tokens := by
  induction renders with
  | nil => exact cutTokens?_nil
  | blank white _ inductionHypothesis =>
      rw [cutTokens?_cons white]
      exact inductionHypothesis readBack
  | token ends _ inductionHypothesis =>
      obtain ⟨first, others⟩ := List.forall_mem_cons.mp readBack
      rw [cutTokens?_append first ends, inductionHypothesis others]
      rfl

/-- A text that renders some tokens has no byte order mark at its front. -/
theorem Renders.head?_ne
    {tokens : List Token}
    {text : List Char}
    (renders : Renders tokens text)
    (readBack : ∀ token ∈ tokens, token.ReadsBack) :
    text.head? ≠ some '\ufeff' := by
  cases renders with
  | nil => simp
  | blank white _ =>
      intro first
      injection first with same
      subst same
      contradiction
  | @token token =>
      have front := (readBack token List.mem_cons_self).front
      cases shape : token.text.toList with
      | nil =>
          rw [shape] at front
          contradiction
      | cons c tail =>
          rw [shape] at front
          intro first
          injection first with same
          subst same
          contradiction

/-- A text that renders tokens whose brackets pair up has these tokens. -/
theorem Renders.tokens?
    {tokens : List Token}
    {text : String}
    (renders : Renders tokens text.toList)
    (readBack : ∀ token ∈ tokens, token.ReadsBack)
    (paired : pairsUp [] tokens = true) :
    tokens? text = some tokens := by
  have cut := renders.cutTokens? readBack
  have noMark := renders.head?_ne readBack
  unfold Lexical.tokens?
  split
  · rename_i rest begins
    rw [begins] at noMark
    contradiction
  · simp [cut, paired]

/-- A token ends where a separator follows it that is no point. -/
theorem Token.endsBefore_of_isSeparated
    (token : Token)
    {rest : List Char}
    (separated : isSeparated rest = true)
    (noPoint : rest.head? ≠ some '.') :
    token.endsBefore rest = true := by
  cases token <;> simp [endsBefore, separated, noPoint]

/-- A token ends where it is joined to a closing bracket or a colon, or another joins it so. -/
theorem Token.endsBefore_of_joins
    {token next : Token}
    (joined : token.joins next = true)
    (rest : List Char) :
    token.endsBefore (next.text.toList ++ rest) = true := by
  cases next with
  | closing bracket => cases bracket <;> cases token <;> rfl
  | _ => cases token <;> first | rfl | contradiction

theorem print_cons_cons
    (token next : Token)
    (rest : List Token) :
    print (token :: next :: rest) =
      token.text ++ (if token.joins next then "" else " ") ++ print (next :: rest) := by
  rw [print, print, pieces]
  simp [String.append_assoc]

/-- What is printed begins with its first token. -/
theorem exists_toList_print
    (token : Token)
    (rest : List Token) :
    ∃ behind, (print (token :: rest)).toList = token.text.toList ++ behind := by
  cases rest with
  | nil => exact ⟨[], by simp [print, pieces]⟩
  | cons next more =>
      rw [print_cons_cons, String.append_assoc, String.toList_append]
      exact ⟨_, rfl⟩

/-- Some tokens are rendered by what is printed of them. -/
theorem renders_print (tokens : List Token) : Renders tokens (print tokens).toList := by
  induction tokens with
  | nil => exact .nil
  | cons token rest inductionHypothesis =>
      cases rest with
      | nil =>
          have alone : (print [token]).toList = token.text.toList ++ [] := by simp [print, pieces]
          rw [alone]
          exact .token (token.endsBefore_of_isSeparated rfl (by simp)) .nil
      | cons next more =>
          rw [print_cons_cons, String.append_assoc, String.toList_append]
          -- a token without a space behind it is ended by what is joined to it
          cases joined : token.joins next with
          | true =>
              obtain ⟨behind, shape⟩ := exists_toList_print next more
              have ends := Token.endsBefore_of_joins joined behind
              rw [← shape] at ends
              have unspaced : ((if true = true then "" else " ") ++ print (next :: more)).toList =
                  (print (next :: more)).toList := by simp
              rw [unspaced]
              exact .token ends inductionHypothesis
          | false =>
              have spaced : ((if false = true then "" else " ") ++ print (next :: more)).toList =
                  ' ' :: (print (next :: more)).toList := by simp
              rw [spaced]
              exact .token (token.endsBefore_of_isSeparated rfl (by simp))
                (.blank (by decide) inductionHypothesis)

end Lexical
end InstructionTable
