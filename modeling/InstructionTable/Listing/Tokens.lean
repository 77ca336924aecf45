import InstructionTable.Identifier
import InstructionTable.Template

/-!
# The tokens of a listing

A listing declares a table of templates and a function that registers it.  Each template is one
entry, in order, and each of its fields an entry in that.
-/

namespace InstructionTable
namespace Listing
open Lexical

/-- How the listing quotes text: a NUL is guarded from a digit behind it. -/
def quoteStyle : Text.QuoteStyle := { guardsNul := true }

/-- The text of a string. -/
def quoted (text : String) : String :=
  quoteStyle.quote text

/-- A hexadecimal digit. -/
def upperDigit (value : Nat) : Char :=
  if value < 10 then Char.ofNat ('0'.toNat + value) else Char.ofNat ('A'.toNat + (value - 10))

/-- A word in hexadecimal, with all its eight digits. -/
def hexWord (word : Word) : String :=
  String.ofList ('0' :: 'x' ::
    [28, 24, 20, 16, 12, 8, 4, 0].map fun place => upperDigit ((word >>> place).toNat % 16))

/-- A plain word. -/
def plain (name : String) : Token :=
  .word false name

/-- The name of a part of an entry, with its value. -/
def member
    (name : String)
    (value : List Token) :
    List Token :=
  plain name :: .mark ':' :: value

/-- Lists of tokens with commas between them. -/
def commaSeparated (items : List (List Token)) : List Token :=
  [Token.mark ','].intercalate items

/-- The tokens of a field. -/
def fieldTokens (field : Field 8) : List Token :=
  [plain "InsnField", .opening .curly]
    ++ commaSeparated
      [ member "name" [.literal (quoted field.name)],
        member "start" [.literal (toString field.start.toNat)],
        member "length" [.literal (toString field.length.toNat)] ]
    ++ [.closing .curly]

/-- The tokens of a template; there is a comma behind its last part. -/
def templateTokens (template : Template) : List Token :=
  [plain "Insn", .opening .curly]
    ++ commaSeparated
      [ member "name" [.literal (quoted template.name)],
        member "arch" [.literal (quoted template.arch)],
        member "syntax" [.literal (quoted template.assembly)],
        member "opcode" [.literal (hexWord template.opcode)],
        member "mask" [.literal (hexWord template.mask)],
        member "fields"
          ([.mark '&', .opening .square]
            ++ commaSeparated (template.fields.map fieldTokens) ++ [.closing .square]),
        member "privileged" [plain (if template.privileged then "true" else "false")] ]
    ++ [.mark ',', .closing .curly]

/-- The tokens of an identifier. -/
def identifierToken (identifier : Identifier) : Token :=
  .word identifier.raw identifier.name

/-- The tokens that bring the names of the entries into scope. -/
def useTokens : List Token :=
  [.mark '#', .opening .square, plain "allow", .opening .round, plain "unused_imports",
    .closing .round, .closing .square,
    plain "use", plain "isa_gen_nostd", .mark ':', .mark ':', .opening .curly,
    plain "Insn", .mark ',', plain "InsnField", .mark ',', plain "Registry", .closing .curly,
    .mark ';']

/-- The tokens that declare the table. -/
def tableTokens
    (table : Identifier)
    (templates : List Template) :
    List Token :=
  [plain "pub", plain "static", identifierToken table, .mark ':', .opening .square, plain "Insn",
    .mark ';', .literal (toString templates.length), .closing .square, .mark '=',
    .opening .square]
    ++ commaSeparated (templates.map templateTokens)
    ++ [.closing .square, .mark ';']

/-- The tokens of the function that registers the table. -/
def registerTokens (table : Identifier) : List Token :=
  [plain "pub", plain "fn", plain "register", .opening .round, plain "registry", .mark ':',
    .mark '&', plain "mut", plain "Registry", .closing .round, .opening .curly,
    plain "registry", .mark '.', plain "register", .opening .round, .mark '&',
    identifierToken table, .closing .round, .mark ';', .closing .curly]

/-- All tokens of a listing. -/
def tokens
    (table : Identifier)
    (templates : List Template) :
    List Token :=
  useTokens ++ tableTokens table templates ++ registerTokens table

/-- A listing on one line. -/
def tokenText
    (table : Identifier)
    (templates : List Template) :
    String :=
  print (tokens table templates)

end Listing
end InstructionTable
