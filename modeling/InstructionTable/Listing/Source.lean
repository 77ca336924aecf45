import InstructionTable.Listing.Tokens

/-!
# The layout of a listing

A listing is laid out in lines.  Every entry that is not empty is broken, with one part to a line
and a comma behind each.  Only the call that registers the table depends on the width of a line: it
breaks before the dot when it is too wide, and around the argument when it still is.
-/

namespace InstructionTable
namespace Listing

/-- A line: how deep it is indented, and its text. -/
structure Line where
  depth : Nat
  text : String
deriving DecidableEq, Repr

/-- The number of spaces of one step of indentation. -/
def indentWidth : Nat := 4

/-- The number of columns of a line; a column is a byte. -/
def lineWidth : Nat := 89

namespace Line

/-- The text of a line with its indentation. -/
def render (line : Line) : String :=
  String.ofList (List.replicate (indentWidth * line.depth) ' ') ++ line.text

/-- Whether a line is not too wide. -/
def fits (line : Line) : Bool :=
  line.render.utf8ByteSize ≤ lineWidth

end Line

/-- The text before everything else. -/
def header : String :=
  "// Code generated by isa-gen. DO NOT EDIT.\n\n"

/-- The lines of a field. -/
def fieldLines (field : Field 8) : List Line :=
  [ { depth := 3, text := "InsnField \x7b" },
    { depth := 4, text := "name: " ++ quoted field.name ++ "," },
    { depth := 4, text := "start: " ++ toString field.start.toNat ++ "," },
    { depth := 4, text := "length: " ++ toString field.length.toNat ++ "," },
    { depth := 3, text := "\x7d," } ]

/-- The lines of some fields. -/
def fieldsLines : List (Field 8) → List Line
  | [] => [{ depth := 2, text := "fields: &[]," }]
  | fields =>
      [{ depth := 2, text := "fields: &[" }] ++ fields.flatMap fieldLines
        ++ [{ depth := 2, text := "]," }]

/-- The lines of a template. -/
def templateLines (template : Template) : List Line :=
  [ { depth := 1, text := "Insn \x7b" },
    { depth := 2, text := "name: " ++ quoted template.name ++ "," },
    { depth := 2, text := "arch: " ++ quoted template.arch ++ "," },
    { depth := 2, text := "syntax: " ++ quoted template.assembly ++ "," },
    { depth := 2, text := "opcode: " ++ hexWord template.opcode ++ "," },
    { depth := 2, text := "mask: " ++ hexWord template.mask ++ "," } ]
    ++ fieldsLines template.fields
    ++ [ { depth := 2,
           text := "privileged: " ++ (if template.privileged then "true" else "false") ++ "," },
         { depth := 1, text := "\x7d," } ]

/-- The lines that bring the names of the entries into scope. -/
def useLines : List Line :=
  [ { depth := 0, text := "#[allow(unused_imports)]" },
    { depth := 0, text := "use isa_gen_nostd::\x7bInsn, InsnField, Registry\x7d;" } ]

/-- The front of the declaration of the table, up to its opening bracket. -/
def tableFront
    (table : Identifier)
    (templates : List Template) :
    String :=
  "pub static " ++ table.text ++ ": [Insn; " ++ toString templates.length ++ "] = ["

/-- The lines that declare the table. -/
def tableLines
    (table : Identifier)
    (templates : List Template) :
    List Line :=
  match templates with
  | [] => [{ depth := 0, text := tableFront table [] ++ "];" }]
  | templates =>
      [{ depth := 0, text := tableFront table templates }] ++ templates.flatMap templateLines
        ++ [{ depth := 0, text := "];" }]

/-- The call that registers the table, on one line. -/
def flatCall (table : Identifier) : Line :=
  { depth := 1, text := "registry.register(&" ++ table.text ++ ");" }

/-- The call behind its dot, on one line. -/
def chainedCall (table : Identifier) : Line :=
  { depth := 2, text := ".register(&" ++ table.text ++ ");" }

/-- The lines of the call that registers the table. -/
def callLines (table : Identifier) : List Line :=
  if (flatCall table).fits then
    [flatCall table]
  else if (chainedCall table).fits then
    [{ depth := 1, text := "registry" }, chainedCall table]
  else
    [ { depth := 1, text := "registry" },
      { depth := 2, text := ".register(" },
      { depth := 3, text := "&" ++ table.text ++ "," },
      { depth := 2, text := ");" } ]

/-- The lines of the function that registers the table. -/
def registerLines (table : Identifier) : List Line :=
  [{ depth := 0, text := "pub fn register(registry: &mut Registry) \x7b" }]
    ++ callLines table ++ [{ depth := 0, text := "\x7d" }]

/-- All lines of a listing behind its header. -/
def lines
    (table : Identifier)
    (templates : List Template) :
    List Line :=
  useLines ++ tableLines table templates ++ registerLines table

/-- The text of some lines. -/
def renderLines (lines : List Line) : String :=
  String.join (lines.map fun line => line.render ++ "\n")

/-- A listing laid out in lines. -/
def source
    (table : Identifier)
    (templates : List Template) :
    String :=
  header ++ renderLines (lines table templates)

end Listing
end InstructionTable
