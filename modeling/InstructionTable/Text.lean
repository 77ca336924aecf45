import InstructionTable.Unicode

/-!
# Texts

Texts are cut at separators and into lines, cleared of what a terminal would not show, and quoted.
-/

namespace InstructionTable
namespace Text

/-!
## Texts cut at a separator

A text is cut at every occurrence of a separator.  There is one piece more than separators.  A line
ends in a newline, with or without a carriage return in front of it.
-/

/-- The pieces of a text between the occurrences of a separator. -/
def cut (separator : Char) : List Char → List (List Char)
  | [] => [[]]
  | c :: rest =>
      if c = separator then
        [] :: cut separator rest
      else
        match cut separator rest with
        | [] => [[c]]
        | piece :: pieces => (c :: piece) :: pieces

/-- A piece in front of a newline without the carriage return at its end. -/
def dropReturn (piece : List Char) : List Char :=
  if piece.getLast? == some '\r' then piece.dropLast else piece

/-- The lines in the pieces between newlines; the last piece is a line unless it is empty. -/
def linesOfPieces : List (List Char) → List (List Char)
  | [] => []
  | [last] => if last.isEmpty then [] else [last]
  | piece :: next :: pieces => dropReturn piece :: linesOfPieces (next :: pieces)

/-- The lines of a text. -/
def lines (text : String) : List String :=
  (linesOfPieces (cut '\n' text.toList)).map String.ofList

/-- A text with some indentation behind every newline. -/
def indent
    (indentation : List Char) :
    List Char → List Char
  | [] => []
  | c :: rest =>
      if c = '\n' then
        c :: (indentation ++ indent indentation rest)
      else
        c :: indent indentation rest

/-- A text whose lines but the first are moved by four blanks. -/
def indentLines (text : String) : String :=
  String.ofList (indent [' ', ' ', ' ', ' '] text.toList)

/-!
## Plain texts

A text for a terminal holds control characters, and control sequences, which begin with an escape.
Away from a terminal both are left out; what shows, and the white space among the control
characters, stays.  That holds inside a sequence as well: white space there stays together with the
text behind it, and the sequence goes on at the next character that is left out.
-/

/-- Where a character stands with respect to control sequences. -/
inductive Context where
  /-- Outside of all sequences. -/
  | ground
  /-- Behind an escape. -/
  | escape
  /-- Behind an escape and a character that waits for a last one. -/
  | intermediate
  /-- Among the parameters of a sequence. -/
  | parameters
  /-- In a command for the terminal, which a bell ends. -/
  | command
  /-- Behind the escape that begins a sequence for a device. -/
  | deviceEntry
  /-- Among the parameters of a sequence for a device. -/
  | deviceParameters
  /-- Behind a character that waits for the last one in front of a string for a device. -/
  | deviceIntermediate
  /-- In a string, which a terminator ends. -/
  | string
deriving DecidableEq, Repr

/-- Whether a control character is white space. -/
def isLayout (c : Char) : Bool :=
  c == '\t' || c == '\n' || c == '\x0C' || c == '\r'

/-- Whether a character outside of all sequences stays. -/
def isKept (c : Char) : Bool :=
  isLayout c || (' ' ≤ c && c != '\x7F')

namespace Context

/-- Whether a character stays. -/
def keeps
    (context : Context)
    (c : Char) :
    Bool :=
  match context with
  | ground => isKept c
  | escape | intermediate | parameters => isLayout c
  | command | deviceEntry | deviceParameters | deviceIntermediate | string => false

/-- Whether a character waits for another one to end a sequence. -/
def isIntermediate (c : Char) : Bool :=
  ' ' ≤ c && c ≤ '/'

/-- Whether the string terminator, which is a single byte, is among the bytes of a character. -/
def holdsTerminator (c : Char) : Bool :=
  (String.utf8EncodeChar c).contains 0x9C

/-- The context behind a character that an escape introduces. -/
def afterEscape (c : Char) : Context :=
  if c == '[' then parameters
  else if c == ']' then command
  else if c == 'P' then deviceEntry
  else if c == 'X' || c == '^' || c == '_' then string
  else if isIntermediate c then intermediate
  else if '0' ≤ c && c ≤ '~' then ground
  else escape

/-- The context behind a character at the front of a sequence for a device. -/
def afterDeviceEntry (c : Char) : Context :=
  if isIntermediate c then deviceIntermediate
  else if '0' ≤ c && c ≤ '?' then deviceParameters
  else if '@' ≤ c && c ≤ '~' then string
  else deviceEntry

/-- The context behind a character among the parameters of a sequence for a device. -/
def afterDeviceParameters (c : Char) : Context :=
  if isIntermediate c then deviceIntermediate
  else if '<' ≤ c && c ≤ '~' then string
  else deviceParameters

/-- The context behind a character that is left out.  Two characters break any sequence off. -/
def after
    (context : Context)
    (c : Char) :
    Context :=
  if c == '\x18' || c == '\x1A' then ground
  else if c == '\x1B' then escape
  else
    match context with
    | ground => ground
    | escape => afterEscape c
    | intermediate => if '0' ≤ c && c ≤ '~' then ground else intermediate
    | parameters => if '@' ≤ c && c ≤ '~' then ground else parameters
    | command => if c == '\x07' then ground else command
    | deviceEntry => afterDeviceEntry c
    | deviceParameters => afterDeviceParameters c
    | deviceIntermediate => if '0' ≤ c && c ≤ '~' then string else deviceIntermediate
    | string => if holdsTerminator c then ground else string

/-- The context behind a character that stays: one that is not ASCII ends a sequence. -/
def afterKept
    (context : Context)
    (c : Char) :
    Context :=
  if c.toNat < 0x80 then context else ground

/-- The characters that stay; those that follow a kept one stay as they would outside. -/
def plain
    (context : Context)
    (follows : Bool) :
    List Char → List Char
  | [] => []
  | c :: rest =>
      if context.keeps c || (follows && isKept c) then
        c :: plain (context.afterKept c) true rest
      else
        plain (context.after c) false rest

end Context

/-- A text without control sequences and control characters other than white space. -/
def plain (text : String) : String :=
  String.ofList (Context.ground.plain false text.toList)

/-!
## Quoted text

A text in quotes shows each character as itself when it has a shape, and as an escape otherwise.
-/

/-- How texts are quoted. -/
structure QuoteStyle where
  /-- Whether NUL is written with two digits when a digit below eight follows it. -/
  guardsNul : Bool
deriving DecidableEq, Repr

/-- The escape of a character by its number. -/
def escapeByNumber (c : Char) : List Char :=
  ['\\', 'u', '\x7b'] ++ Nat.toDigits 16 c.toNat ++ ['\x7d']

/-- A character in quotes. -/
def escapeChar (c : Char) : List Char :=
  if c == '\x00' then ['\\', '0']
  else if c == '\t' then ['\\', 't']
  else if c == '\r' then ['\\', 'r']
  else if c == '\n' then ['\\', 'n']
  else if c == '\\' then ['\\', '\\']
  else if c == '"' then ['\\', '"']
  else if Unicode.isCombining c || !Unicode.isPrintable c then escapeByNumber c
  else [c]

/-- Whether a character is a digit below eight. -/
def isOctalDigit (c : Char) : Bool :=
  '0' ≤ c && c ≤ '7'

namespace QuoteStyle

/-- The characters of a text in quotes. -/
def escape
    (style : QuoteStyle) :
    List Char → List Char
  | [] => []
  | c :: rest =>
      let escaped :=
        if c == '\x00' && style.guardsNul && rest.head?.any isOctalDigit then
          ['\\', 'x', '0', '0']
        else
          escapeChar c
      escaped ++ escape style rest

/-- A text in quotes. -/
def quote
    (style : QuoteStyle)
    (text : String) :
    String :=
  String.ofList ('"' :: style.escape text.toList ++ ['"'])

end QuoteStyle

end Text
end InstructionTable
