import InstructionTable.Unicode

/-!
# Words and what stands between them

A word is read as far as it goes, and blanks and comments in front of a token are left out.
-/

namespace InstructionTable
namespace Lexical

/-!
## Words

A word begins with an identifier character or an underscore and goes on as long as it can.
-/

/-- Whether a character may begin a word. -/
def beginsWord (c : Char) : Bool :=
  c == '_' || Unicode.isIdentifierStart c

/-- Whether a character may go on with a word. -/
def continuesWord (c : Char) : Bool :=
  Unicode.isIdentifierContinue c

/-- The word at the front of a text, and what follows it. -/
def readWord? : List Char → Option (List Char × List Char)
  | [] => none
  | c :: rest =>
      if beginsWord c then
        some (c :: rest.takeWhile continuesWord, rest.dropWhile continuesWord)
      else
        none

/-- Leave out the word at the front of a text, if there is one. -/
def skipWord (text : List Char) : List Char :=
  match readWord? text with
  | some (_, rest) => rest
  | none => text

/-- What follows the given characters at the front of a text. -/
def after? : List Char → List Char → Option (List Char)
  | [], text => some text
  | _ :: _, [] => none
  | expected :: more, c :: rest => if expected == c then after? more rest else none

/-- Whether a text has the given characters at its front. -/
def startsWith (front text : List Char) : Bool :=
  (after? front text).isSome

theorem length_of_readWord?
    {text word rest : List Char}
    (read : readWord? text = some (word, rest)) :
    rest.length < text.length := by
  unfold readWord? at read
  split at read
  · simp at read
  · rename_i c tail
    split at read
    · simp only [Option.some.injEq, Prod.mk.injEq] at read
      have shorter := (List.dropWhile_suffix continuesWord (l := tail)).length_le
      rw [← read.2, List.length_cons]
      omega
    · simp at read

theorem length_skipWord (text : List Char) : (skipWord text).length ≤ text.length := by
  unfold skipWord
  split
  · rename_i read
    exact Nat.le_of_lt (length_of_readWord? read)
  · exact Nat.le_refl _

theorem eq_append_of_after?
    {front text rest : List Char}
    (found : after? front text = some rest) :
    text = front ++ rest := by
  fun_induction after? front text <;> simp_all

theorem length_of_after?
    {front text rest : List Char}
    (found : after? front text = some rest) :
    text.length = front.length + rest.length := by
  rw [eq_append_of_after? found, List.length_append]

/-!
## What stands between tokens

Blanks and comments stand between tokens.  A comment runs to the end of its line, or it is a block
with blocks inside it.  Comments that document what follows them are tokens of their own.
-/

/-- Whether a character is blank: white space, or a mark of the direction of writing. -/
def isBlank (c : Char) : Bool :=
  Unicode.isWhiteSpace c || c == '\u200e' || c == '\u200f'

/-- The rest of a line: what follows its characters, the line feed first. -/
def skipLine (text : List Char) : List Char :=
  text.dropWhile (· != '\n')

/-- Leave out a block comment in which the given number of blocks is open. -/
def skipBlock? : Nat → List Char → Option (List Char)
  | opened, '/' :: '*' :: rest => skipBlock? (opened + 1) rest
  | opened, '*' :: '/' :: rest => if opened ≤ 1 then some rest else skipBlock? (opened - 1) rest
  | opened, _ :: rest => skipBlock? opened rest
  | _, [] => none

/-- What follows a comment that documents nothing. -/
def skipComment? (text : List Char) : Option (List Char) :=
  match text with
  | '/' :: '/' :: rest =>
      if startsWith ['!'] rest || (startsWith ['/'] rest && !startsWith ['/', '/'] rest) then none
      else some (skipLine rest)
  | '/' :: '*' :: rest =>
      match rest with
      | '*' :: '/' :: rest => some rest
      | _ =>
          if startsWith ['!'] rest || (startsWith ['*'] rest && !startsWith ['*', '*'] rest) then
            none
          else
            skipBlock? 1 rest
  | _ => none

/-- Whether a carriage return stands without a line feed behind it. -/
def hasBareReturn : List Char → Bool
  | [] => false
  | '\r' :: '\n' :: rest => hasBareReturn rest
  | '\r' :: _ => true
  | _ :: rest => hasBareReturn rest

/-- What follows a documenting line; the end of the line belongs to its last carriage return. -/
def skipDocLine? (text : List Char) : Option (List Char) :=
  let rest := skipLine text
  if hasBareReturn (text.takeWhile (· != '\n') ++ rest.take 1) then none else some rest

/-- What follows a documenting block. -/
def skipDocBlock? (text : List Char) : Option (List Char) :=
  match skipBlock? 1 text with
  | none => none
  | some rest =>
      if hasBareReturn (text.take (text.length - rest.length - 2)) then none else some rest

/-- What follows a comment that documents what is around it. -/
def skipDocComment? (text : List Char) : Option (List Char) :=
  match text with
  | '/' :: '/' :: '!' :: rest => skipDocLine? rest
  | '/' :: '*' :: '!' :: rest => skipDocBlock? rest
  | '/' :: '/' :: '/' :: rest => if startsWith ['/'] rest then none else skipDocLine? rest
  | '/' :: '*' :: '*' :: rest => if startsWith ['*'] rest then none else skipDocBlock? rest
  | _ => none

theorem length_skipLine (text : List Char) : (skipLine text).length ≤ text.length :=
  (List.dropWhile_suffix _).length_le

theorem length_of_skipBlock?
    {opened : Nat}
    {text rest : List Char}
    (skipped : skipBlock? opened text = some rest) :
    rest.length < text.length := by
  fun_induction skipBlock? opened text <;> grind

theorem length_of_skipComment?
    {text rest : List Char}
    (skipped : skipComment? text = some rest) :
    rest.length < text.length := by
  unfold skipComment? at skipped
  split at skipped
  · rename_i tail
    have shorter := length_skipLine tail
    grind
  · split at skipped
    · grind
    · split at skipped
      · simp at skipped
      · have shorter := length_of_skipBlock? skipped
        simp only [List.length_cons]
        omega
  · simp at skipped

theorem length_of_skipDocLine?
    {text rest : List Char}
    (skipped : skipDocLine? text = some rest) :
    rest.length ≤ text.length := by
  have shorter := length_skipLine text
  unfold skipDocLine? at skipped
  grind

theorem length_of_skipDocBlock?
    {text rest : List Char}
    (skipped : skipDocBlock? text = some rest) :
    rest.length < text.length := by
  unfold skipDocBlock? at skipped
  split at skipped
  · simp at skipped
  · rename_i block
    have shorter := length_of_skipBlock? block
    grind

theorem length_of_skipDocComment?
    {text rest : List Char}
    (skipped : skipDocComment? text = some rest) :
    rest.length < text.length := by
  unfold skipDocComment? at skipped
  split at skipped
  · have shorter := length_of_skipDocLine? skipped
    simp only [List.length_cons]
    omega
  · have shorter := length_of_skipDocBlock? skipped
    simp only [List.length_cons]
    omega
  · split at skipped
    · simp at skipped
    · have shorter := length_of_skipDocLine? skipped
      simp only [List.length_cons]
      omega
  · split at skipped
    · simp at skipped
    · have shorter := length_of_skipDocBlock? skipped
      simp only [List.length_cons]
      omega
  · simp at skipped

/-- Leave out blanks and comments. -/
def skipTrivia (text : List Char) : List Char :=
  match comment : skipComment? text with
  | some rest =>
      have : rest.length < text.length := length_of_skipComment? comment
      skipTrivia rest
  | none =>
      match text with
      | [] => []
      | c :: rest => if isBlank c then skipTrivia rest else c :: rest
termination_by text.length

theorem length_skipTrivia (text : List Char) : (skipTrivia text).length ≤ text.length := by
  fun_induction skipTrivia text <;> grind

end Lexical
end InstructionTable
