import InstructionTable.Field
import InstructionTable.Text

/-!
# Segments

A bit pattern is a row of segments, most significant first.  Its text is read segment by segment,
and the first segment that cannot be read decides what is wrong with the pattern.
-/

namespace InstructionTable

/-!
## What can be wrong with a bit pattern

A pattern is refused for one segment, or for the sum of its widths.
-/

namespace Pattern

/-- What is wrong with a segment whose width is not at fault. -/
inductive Flaw where
  /-- There is a second width after the first. -/
  | manyWidths
  /-- Nothing stands before the width. -/
  | empty
  /-- An opened placeholder is not closed. -/
  | unterminated
  /-- A literal has more significant digits than its segment has bits. -/
  | literalTooWide
deriving DecidableEq, Repr

/-- The wording of a flaw. -/
def Flaw.reason : Flaw → String
  | manyWidths => "more than one width suffix"
  | empty => "empty pattern"
  | unterminated => "unterminated placeholder"
  | literalTooWide => "literal does not fit its width"

/-- Why a pattern is refused. -/
inductive Error where
  /-- The width of a segment is not a positive number. -/
  | malformedWidth (segment width : String)
  /-- A segment is flawed. -/
  | malformedSegment (segment : String) (flaw : Flaw)
  /-- The widths do not add up to a word. -/
  | widthMismatch (total : Nat)
deriving DecidableEq, Repr

/-- The report of a refused pattern. -/
def Error.message : Error → String
  | malformedWidth segment width =>
      "segment `" ++ segment ++ "` has a malformed width `" ++ width ++ "`"
  | malformedSegment segment flaw =>
      "segment `" ++ segment ++ "` is malformed: " ++ flaw.reason
  | widthMismatch total =>
      "segment widths sum to " ++ toString total ++ " bits, expected 32"

/-- Why a pattern has no encoding: it is refused, or a step of its arithmetic is. -/
inductive Failure where
  | refused (error : Error)
  | overflow (error : Overflow)
deriving DecidableEq, Repr

/-- The report of a failure. -/
def Failure.message : Failure → String
  | refused error => error.message
  | overflow error => error.message

end Pattern

/-!
## What a segment stands for

A bit pattern is a row of segments, most significant first.  A segment has a pattern and a width:
a pattern of binary digits is a literal, one that opens a parenthesis is an ignored placeholder,
and any other names an operand.
-/

namespace Pattern

/-- What the bits of a segment stand for. -/
inductive Kind where
  /-- Bits that may hold anything. -/
  | ignored
  /-- Bits that are fixed to a number. -/
  | literal (value : BitVec 32)
  /-- Bits that hold an operand. -/
  | operand (name : String)
deriving DecidableEq, Repr

/-- Whether a character is a binary digit. -/
def isBinaryDigit (c : Char) : Bool :=
  c == '0' || c == '1'

/-- The number that a row of binary digits denotes, most significant first. -/
def binaryValue (digits : List Char) : Nat :=
  digits.foldl (fun value digit => 2 * value + if digit = '1' then 1 else 0) 0

/-- Whether a pattern opens a placeholder. -/
def opensPlaceholder (pattern : List Char) : Bool :=
  pattern.head? == some '('

/-- Whether a pattern closes a placeholder. -/
def closesPlaceholder (pattern : List Char) : Bool :=
  pattern.getLast? == some ')'

/-- The value of a literal: binary digits only, at least one, and no more than a word holds. -/
def literalValue? (pattern : List Char) : Option (BitVec 32) :=
  if !pattern.isEmpty && pattern.all isBinaryDigit && binaryValue pattern < wordCount then
    some (BitVec.ofNat 32 (binaryValue pattern))
  else
    none

/-- The kind of segment that a pattern makes. -/
def Kind.ofPattern (pattern : String) : Kind :=
  if opensPlaceholder pattern.toList then
    .ignored
  else
    match literalValue? pattern.toList with
    | some value => .literal value
    | none => .operand pattern

end Pattern

/-- One piece of a bit pattern. -/
structure Segment where
  /-- The text that tells what the bits stand for. -/
  pattern : String
  /-- The number of bits. -/
  width : BitVec 32
deriving DecidableEq, Repr

namespace Segment

/-- What the bits of a segment stand for. -/
def kind (segment : Segment) : Pattern.Kind :=
  Pattern.Kind.ofPattern segment.pattern

end Segment

/-!
## Segments from text

A pattern's text is cut at every bar, and each piece is read on its own: a pattern, and after a
colon its width.  Without a width, a literal is as wide as it has digits and anything else is one
bit wide.  The leftmost piece that cannot be read decides the error.
-/

namespace Pattern

/-- The number that a row of decimal digits denotes, most significant first. -/
def decimalValue (digits : List Char) : Nat :=
  digits.foldl (fun value digit => 10 * value + (digit.toNat - '0'.toNat)) 0

/-- A width is written in decimal digits only, and is neither zero nor too large to store. -/
def readWidth (width : List Char) : Option (BitVec 32) :=
  if !width.isEmpty && width.all Char.isDigit &&
      0 < decimalValue width && decimalValue width < wordCount then
    some (BitVec.ofNat 32 (decimalValue width))
  else
    none

/-- The width of a segment that states none. -/
def defaultWidth (pattern : List Char) : BitVec 32 :=
  match Kind.ofPattern (String.ofList pattern) with
  | .literal _ => BitVec.ofNat 32 pattern.length
  | .ignored | .operand _ => 1

/-- The stated width of a piece, if it states one. -/
def statedWidth (piece : List Char) : Except Error (Option (BitVec 32)) :=
  match piece.dropWhile (· != ':') with
  | [] => .ok none
  | _ :: suffix =>
      if suffix.contains ':' then
        .error (.malformedSegment (String.ofList piece) .manyWidths)
      else
        match readWidth suffix with
        | none => .error (.malformedWidth (String.ofList piece) (String.ofList suffix))
        | some width => .ok (some width)

end Pattern

namespace Segment
open Pattern

/-- Read one piece of a pattern's text. -/
def ofPiece (piece : List Char) : Except Error Segment := do
  let pattern := piece.takeWhile (· != ':')
  let width ← statedWidth piece
  if pattern.isEmpty then
    .error (.malformedSegment (String.ofList piece) .empty)
  else if opensPlaceholder pattern && !closesPlaceholder pattern then
    .error (.malformedSegment (String.ofList piece) .unterminated)
  else
    return { pattern := String.ofList pattern
             width := width.getD (defaultWidth pattern) }

/-- Read the segments of a pattern's text. -/
def listOfText (bits : String) : Except Error (List Segment) :=
  (Text.cut '|' bits.toList).mapM ofPiece

end Segment

end InstructionTable
