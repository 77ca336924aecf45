import InstructionTable.Lexical.Literal

/-!
# Tokens

A text is cut into tokens, and tokens are written as a text.
-/

namespace InstructionTable
namespace Lexical

/-!
## Tokens of a text

A text is cut into tokens: words, marks, literals, documenting comments and brackets.  A text has
tokens only if all of it can be cut and its brackets pair up.
-/

/-- A kind of bracket. -/
inductive Bracket where
  | round
  | square
  | curly
deriving DecidableEq, Repr

namespace Bracket

/-- The opening bracket of a kind. -/
def opening : Bracket → Char
  | round => '('
  | square => '['
  | curly => '\x7b'

/-- The closing bracket of a kind. -/
def closing : Bracket → Char
  | round => ')'
  | square => ']'
  | curly => '\x7d'

/-- The kind of an opening bracket. -/
def ofOpening? (c : Char) : Option Bracket :=
  [round, square, curly].find? (fun bracket => bracket.opening == c)

/-- The kind of a closing bracket. -/
def ofClosing? (c : Char) : Option Bracket :=
  [round, square, curly].find? (fun bracket => bracket.closing == c)

end Bracket

/-- A token. -/
inductive Token where
  /-- A word; a raw one is marked as being no keyword. -/
  | word (raw : Bool) (name : String)
  /-- A single mark. -/
  | mark (c : Char)
  /-- A literal, as it is written. -/
  | literal (text : String)
  /-- A comment that documents what is around it. -/
  | documentation
  /-- An opening bracket. -/
  | opening (bracket : Bracket)
  /-- A closing bracket. -/
  | closing (bracket : Bracket)
deriving DecidableEq, Repr

/-- The characters that are marks. -/
def marks : List Char :=
  ['~', '!', '@', '#', '$', '%', '^', '&', '*', '-', '=', '+', '|', ';', ':', ',', '<', '.', '>',
    '/', '?', '\'']

/-- The words that cannot be raw. -/
def neverRaw : List String :=
  ["_", "super", "self", "Self", "crate"]

/-- The fronts of literals, with which no word begins. -/
def literalFronts : List (List Char) :=
  [['r', '"'], ['r', '#', '"'], ['r', '#', '#'], ['b', '"'], ['b', '\''], ['b', 'r', '"'],
    ['b', 'r', '#'], ['c', '"'], ['c', 'r', '"'], ['c', 'r', '#']]

/-- Read a word, raw or not. -/
def readAnyWord? (text : List Char) : Option (Token × List Char) :=
  match after? ['r', '#'] text with
  | none =>
      match readWord? text with
      | some (name, rest) => some (.word false (String.ofList name), rest)
      | none => none
  | some raw =>
      match readWord? raw with
      | some (name, rest) =>
          if neverRaw.contains (String.ofList name) then none
          else some (.word true (String.ofList name), rest)
      | none => none

/-- Read a word that is not the front of a literal. -/
def readWordToken? (text : List Char) : Option (Token × List Char) :=
  if literalFronts.any (startsWith · text) then none else readAnyWord? text

/--
Read a mark.  A quote is the mark of a label: a word follows it, and not the closing quote of a
character or the hash of a raw string.
-/
def readMark? (text : List Char) : Option (Token × List Char) :=
  match text with
  | [] => none
  | c :: rest =>
      if !marks.contains c then
        none
      else if c == '/' && (startsWith ['/'] rest || startsWith ['*'] rest) then
        none
      else if c == '\'' then
        match readAnyWord? rest with
        | none => none
        | some (_, behind) =>
            if startsWith ['\''] behind ||
                (startsWith ['#'] behind && !startsWith ['r', '#'] rest) then
              none
            else
              some (.mark c, rest)
      else
        some (.mark c, rest)

/-- Read a literal. -/
def readLiteral? (text : List Char) : Option (Token × List Char) :=
  match skipLiteral? text with
  | some rest =>
      some (.literal (String.ofList (text.take (text.length - rest.length))), rest)
  | none => none

/-- Read a bracket. -/
def readBracket? (text : List Char) : Option (Token × List Char) :=
  match text with
  | [] => none
  | c :: rest =>
      match Bracket.ofOpening? c with
      | some bracket => some (.opening bracket, rest)
      | none =>
          match Bracket.ofClosing? c with
          | some bracket => some (.closing bracket, rest)
          | none => none

/-- Read a documenting comment. -/
def readDocumentation? (text : List Char) : Option (Token × List Char) :=
  match skipDocComment? text with
  | some rest => some (.documentation, rest)
  | none => none

/-- Read the token at the front of a text. -/
def readToken? (text : List Char) : Option (Token × List Char) :=
  (readDocumentation? text)
    <|> (readBracket? text)
    <|> (readLiteral? text)
    <|> (readMark? text)
    <|> (readWordToken? text)

theorem length_of_readAnyWord?
    {text rest : List Char}
    {token : Token}
    (read : readAnyWord? text = some (token, rest)) :
    rest.length < text.length := by
  unfold readAnyWord? at read
  grind [→ length_of_readWord?, → length_of_after?]

theorem length_of_readToken?
    {text rest : List Char}
    {token : Token}
    (read : readToken? text = some (token, rest)) :
    rest.length < text.length := by
  simp only [readToken?, Option.orElse_eq_orElse, Option.orElse_eq_or, Option.or_eq_some_iff]
    at read
  rcases read with found | ⟨_, found | ⟨_, found | ⟨_, found | ⟨_, found⟩⟩⟩⟩
  · unfold readDocumentation? at found
    grind [→ length_of_skipDocComment?]
  · unfold readBracket? at found
    grind
  · unfold readLiteral? at found
    grind [→ length_of_skipLiteral?]
  · unfold readMark? at found
    grind
  · unfold readWordToken? at found
    grind [→ length_of_readAnyWord?]

/-- Cut a text into tokens, whether or not its brackets pair up. -/
def cutTokens? (text : List Char) : Option (List Token) :=
  match start : skipTrivia text with
  | [] => some []
  | c :: tail =>
      match found : readToken? (c :: tail) with
      | none => none
      | some (token, rest) =>
          have : rest.length < text.length := by
            have shorter := length_of_readToken? found
            have whole := length_skipTrivia text
            rw [start] at whole
            omega
          (cutTokens? rest).map (token :: ·)
termination_by text.length

/-- Whether brackets pair up, behind some that are open. -/
def pairsUp : List Bracket → List Token → Bool
  | opened, [] => opened.isEmpty
  | opened, .opening bracket :: rest => pairsUp (bracket :: opened) rest
  | bracket :: opened, .closing closed :: rest => bracket == closed && pairsUp opened rest
  | [], .closing _ :: _ => false
  | opened, _ :: rest => pairsUp opened rest

/-- The tokens of a text; a byte order mark at its front is left out. -/
def tokens? (text : String) : Option (List Token) :=
  let characters := match text.toList with
    | '\ufeff' :: rest => rest
    | characters => characters
  match cutTokens? characters with
  | some tokens => if pairsUp [] tokens then some tokens else none
  | none => none

/-!
## Tokens as text

Tokens are written one after the other with a space between two of them, except inside round and
square brackets at their ends, and between two colons.
-/

/-- A token as it is written; a documenting comment is not kept. -/
def Token.text : Token → String
  | word raw name => if raw then "r#" ++ name else name
  | mark c => String.ofList [c]
  | literal text => text
  | documentation => ""
  | opening bracket => String.ofList [bracket.opening]
  | closing bracket => String.ofList [bracket.closing]

/-- Whether two tokens are written without a space between them. -/
def Token.joins : Token → Token → Bool
  | opening .round, _ => true
  | opening .square, _ => true
  | _, closing .round => true
  | _, closing .square => true
  | mark first, mark second => first == ':' && second == ':'
  | _, _ => false

/-- The text of each token, and of what stands between it and the next. -/
def pieces : List Token → List String
  | [] => []
  | [token] => [token.text]
  | token :: next :: rest =>
      token.text :: (if token.joins next then "" else " ") :: pieces (next :: rest)

/-- The text of some tokens. -/
def print (tokens : List Token) : String :=
  String.join (pieces tokens)

end Lexical
end InstructionTable
