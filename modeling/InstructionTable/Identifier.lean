import InstructionTable.Lexical.Token

/-!
# Identifiers

The name of a table has to be one identifier.  A word is one unless it is a keyword, and a raw word
always is.  What stands around the word is left out.
-/

namespace InstructionTable

/-- A name that a listing can give to a table. -/
structure Identifier where
  /-- Whether the name is marked as being no keyword. -/
  raw : Bool
  /-- The name itself. -/
  name : String
deriving DecidableEq, Repr

namespace Identifier

/-- The identifier as it is written. -/
def text (identifier : Identifier) : String :=
  if identifier.raw then "r#" ++ identifier.name else identifier.name

/-- The words that are not identifiers. -/
def keywords : List String :=
  ["_", "abstract", "as", "async", "await", "become", "box", "break", "const", "continue", "crate",
    "do", "dyn", "else", "enum", "extern", "false", "final", "fn", "for", "if", "impl", "in",
    "let", "loop", "macro", "match", "mod", "move", "mut", "override", "priv", "pub", "ref",
    "return", "Self", "self", "static", "struct", "super", "trait", "true", "try", "type",
    "typeof", "unsafe", "unsized", "use", "virtual", "where", "while", "yield"]

/-- Why a text is not an identifier. -/
inductive Error where
  /-- It cannot be cut into tokens. -/
  | notTokens
  /-- It has no token. -/
  | empty
  /-- It begins with a keyword. -/
  | keyword (word : String)
  /-- It begins with another token. -/
  | notWord
  /-- Something follows its first token. -/
  | extraToken
deriving DecidableEq, Repr

/-- The report of a refused text. -/
def Error.message : Error → String
  | notTokens => "cannot parse string into token stream"
  | empty => "unexpected end of input, expected identifier"
  | keyword word => "expected identifier, found keyword `" ++ word ++ "`"
  | notWord => "expected identifier"
  | extraToken => "unexpected token"

/-- The identifier that some tokens make. -/
def ofTokens : List Lexical.Token → Except Error Identifier
  | [] => .error .empty
  | .word raw name :: rest =>
      if !raw && keywords.contains name then .error (.keyword name)
      else if rest.isEmpty then .ok { raw := raw, name := name }
      else .error .extraToken
  | _ :: _ => .error .notWord

/-- Read an identifier. -/
def ofText (text : String) : Except Error Identifier :=
  match Lexical.tokens? text with
  | none => .error .notTokens
  | some tokens => ofTokens tokens

/-- The name of a table that is not named. -/
def default : Identifier := { raw := false, name := "INSNS_ARM64" }

end Identifier
end InstructionTable
