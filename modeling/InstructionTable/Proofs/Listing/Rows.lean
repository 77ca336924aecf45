import InstructionTable.Listing.Source
import InstructionTable.Proofs.Listing.Legible

/-!
# The rows of a listing

The lines of a listing are texts.  A row is a line of which the tokens are known: it has tokens and
spaces between them, so that each token ends where the next part follows it.  All lines of a listing
are those of its rows, so the text of the listing renders the tokens of the rows.
-/

namespace InstructionTable
namespace Listing
open Lexical

/-! ## Rows -/

/-- A part of a row. -/
inductive Part where
  /-- A token. -/
  | token (written : Token)
  /-- A space. -/
  | space

/-- The characters of a part. -/
def Part.text : Part → List Char
  | token written => written.text.toList
  | space => [' ']

/-- The tokens of a part. -/
def Part.tokens : Part → List Token
  | token written => [written]
  | space => []

/-- Whether each token among some parts ends where the next part, or the end of a line, follows. -/
def isApart : List Part → Bool
  | [] => true
  | .space :: rest => isApart rest
  | .token written :: rest =>
      written.endsBefore (rest.flatMap Part.text ++ ['\n']) && isApart rest

/-- A line with known tokens. -/
structure Row where
  /-- How deep it is indented. -/
  depth : Nat
  /-- What stands in it. -/
  parts : List Part
  /-- Its tokens are apart. -/
  apart : isApart parts = true

namespace Row

/-- The line of a row. -/
def line (row : Row) : Line where
  depth := row.depth
  text := String.ofList (row.parts.flatMap Part.text)

/-- The tokens of a row. -/
def tokens (row : Row) : List Token :=
  row.parts.flatMap Part.tokens

end Row

/-- The tokens of some rows. -/
def rowTokens (rows : List Row) : List Token :=
  rows.flatMap Row.tokens

/-- Where a token ends depends on the next character only. -/
theorem endsBefore_eq_of_head?_eq
    (token : Token)
    {left right : List Char}
    (same : left.head? = right.head?) :
    token.endsBefore left = token.endsBefore right := by
  cases token <;> simp [Token.endsBefore, isSeparated, same]

/-- Parts that are apart render their tokens in a line, whatever the lines below it render. -/
theorem renders_parts
    {parts : List Part}
    (apart : isApart parts = true)
    {tokens : List Token}
    {text : List Char}
    (renders : Renders tokens text) :
    Renders (parts.flatMap Part.tokens ++ tokens) (parts.flatMap Part.text ++ '\n' :: text) := by
  induction parts with
  | nil => exact .blank (by decide) renders
  | cons part rest inductionHypothesis =>
      cases part with
      | space => exact .blank (by decide) (inductionHypothesis apart)
      | token written =>
          rw [isApart, Bool.and_eq_true] at apart
          have next : (rest.flatMap Part.text ++ ['\n']).head? =
              (rest.flatMap Part.text ++ '\n' :: text).head? := by
            cases rest.flatMap Part.text <;> rfl
          have ends := apart.1
          rw [endsBefore_eq_of_head?_eq written next] at ends
          rw [List.flatMap_cons, List.flatMap_cons, List.append_assoc, List.append_assoc]
          exact .token ends (inductionHypothesis apart.2)

/-- The lines of some rows render the tokens of the rows. -/
theorem renders_rows (rows : List Row) :
    Renders (rowTokens rows) (renderLines (rows.map Row.line)).toList := by
  induction rows with
  | nil => exact .nil
  | cons row rest inductionHypothesis =>
      have text : (renderLines ((row :: rest).map Row.line)).toList =
          List.replicate (indentWidth * row.depth) ' ' ++
            (row.parts.flatMap Part.text ++ '\n' :: (renderLines (rest.map Row.line)).toList) := by
        simp [renderLines, Line.render, Row.line]
      rw [text, rowTokens, List.flatMap_cons]
      have renders := renders_parts row.apart inductionHypothesis
      induction indentWidth * row.depth with
      | zero => exact renders
      | succ columns behind => exact .blank (by decide) behind

/-! ## The rows of entries -/

/-- The row of a named part: its name and its value, with a comma behind. -/
def memberRow
    (depth : Nat)
    (name : String)
    (value : Token) :
    Row where
  depth := depth
  parts := [.token (plain name), .token (.mark ':'), .space, .token value, .token (.mark ',')]
  apart := by cases value <;> rfl

/-- The row at the front of a named block. -/
def blockRow
    (depth : Nat)
    (name : String) :
    Row where
  depth := depth
  parts := [.token (plain name), .space, .token (.opening .curly)]
  apart := rfl

/-- The row that closes a bracket, with a mark behind. -/
def closingRow
    (depth : Nat)
    (bracket : Bracket)
    (behind : Char) :
    Row where
  depth := depth
  parts := [.token (.closing bracket), .token (.mark behind)]
  apart := rfl

/-- The parts in front of the fields of a template. -/
def fieldsFront : List Part :=
  [.token (plain "fields"), .token (.mark ':'), .space, .token (.mark '&'),
    .token (.opening .square)]

/-- The rows of a field. -/
def fieldRows (field : Field 8) : List Row :=
  [ blockRow 3 "InsnField",
    memberRow 4 "name" (.literal (quoted field.name)),
    memberRow 4 "start" (.literal (toString field.start.toNat)),
    memberRow 4 "length" (.literal (toString field.length.toNat)),
    closingRow 3 .curly ',' ]

/-- The rows of some fields. -/
def fieldsRows : List (Field 8) → List Row
  | [] =>
      [ { depth := 2
          parts := fieldsFront ++ [.token (.closing .square), .token (.mark ',')]
          apart := rfl } ]
  | fields =>
      [{ depth := 2, parts := fieldsFront, apart := rfl }] ++ fields.flatMap fieldRows
        ++ [closingRow 2 .square ',']

/-- The rows of a template. -/
def templateRows (template : Template) : List Row :=
  [ blockRow 1 "Insn",
    memberRow 2 "name" (.literal (quoted template.name)),
    memberRow 2 "arch" (.literal (quoted template.arch)),
    memberRow 2 "syntax" (.literal (quoted template.assembly)),
    memberRow 2 "opcode" (.literal (hexWord template.opcode)),
    memberRow 2 "mask" (.literal (hexWord template.mask)) ]
    ++ fieldsRows template.fields
    ++ [ memberRow 2 "privileged" (plain (if template.privileged then "true" else "false")),
         closingRow 1 .curly ',' ]

/-! ## The rows of a listing -/

/-- The rows that bring the names of the entries into scope. -/
def useRows : List Row :=
  [ { depth := 0
      parts :=
        [.token (.mark '#'), .token (.opening .square), .token (plain "allow"),
          .token (.opening .round), .token (plain "unused_imports"), .token (.closing .round),
          .token (.closing .square)]
      apart := rfl },
    { depth := 0
      parts :=
        [.token (plain "use"), .space, .token (plain "isa_gen_nostd"), .token (.mark ':'),
          .token (.mark ':'), .token (.opening .curly), .token (plain "Insn"), .token (.mark ','),
          .space, .token (plain "InsnField"), .token (.mark ','), .space,
          .token (plain "Registry"), .token (.closing .curly), .token (.mark ';')]
      apart := rfl } ]

/-- The parts in front of the entries of a table. -/
def tableParts
    (table : Identifier)
    (count : Nat) :
    List Part :=
  [.token (plain "pub"), .space, .token (plain "static"), .space, .token (identifierToken table),
    .token (.mark ':'), .space, .token (.opening .square), .token (plain "Insn"),
    .token (.mark ';'), .space, .token (.literal (toString count)), .token (.closing .square),
    .space, .token (.mark '='), .space, .token (.opening .square)]

/-- The rows that declare the table. -/
def tableRows
    (table : Identifier)
    (templates : List Template) :
    List Row :=
  match templates with
  | [] =>
      [ { depth := 0
          parts := tableParts table 0 ++ [.token (.closing .square), .token (.mark ';')]
          apart := rfl } ]
  | templates =>
      [{ depth := 0, parts := tableParts table templates.length, apart := rfl }]
        ++ templates.flatMap templateRows ++ [closingRow 0 .square ';']

/-- The row of the call that registers the table, on one line. -/
def flatCallRow (table : Identifier) : Row where
  depth := 1
  parts :=
    [.token (plain "registry"), .token (.mark '.'), .token (plain "register"),
      .token (.opening .round), .token (.mark '&'), .token (identifierToken table),
      .token (.closing .round), .token (.mark ';')]
  apart := rfl

/-- The rows of the call that registers the table, with a break before the dot. -/
def chainedCallRows (table : Identifier) : List Row :=
  [ { depth := 1, parts := [.token (plain "registry")], apart := rfl },
    { depth := 2
      parts :=
        [.token (.mark '.'), .token (plain "register"), .token (.opening .round),
          .token (.mark '&'), .token (identifierToken table), .token (.closing .round),
          .token (.mark ';')]
      apart := rfl } ]

/-- The rows of the call that registers the table, with breaks around the argument as well. -/
def brokenCallRows (table : Identifier) : List Row :=
  [ { depth := 1, parts := [.token (plain "registry")], apart := rfl },
    { depth := 2
      parts := [.token (.mark '.'), .token (plain "register"), .token (.opening .round)]
      apart := rfl },
    { depth := 3
      parts := [.token (.mark '&'), .token (identifierToken table), .token (.mark ',')]
      apart := rfl },
    closingRow 2 .round ';' ]

/-- The rows of the layouts of the call that registers the table. -/
def callRowLayouts (table : Identifier) : List (List Row) :=
  [[flatCallRow table], chainedCallRows table, brokenCallRows table]

/-- The rows of the call that registers the table. -/
def callRows (table : Identifier) : List Row :=
  if (flatCall table).fits then [flatCallRow table]
  else if (chainedCall table).fits then chainedCallRows table
  else brokenCallRows table

/-- The rows of the function that registers the table. -/
def registerRows (table : Identifier) : List Row :=
  [ { depth := 0
      parts :=
        [.token (plain "pub"), .space, .token (plain "fn"), .space, .token (plain "register"),
          .token (.opening .round), .token (plain "registry"), .token (.mark ':'), .space,
          .token (.mark '&'), .token (plain "mut"), .space, .token (plain "Registry"),
          .token (.closing .round), .space, .token (.opening .curly)]
      apart := rfl } ]
    ++ callRows table ++ [{ depth := 0, parts := [.token (.closing .curly)], apart := rfl }]

/-- All rows of a listing behind its header. -/
def rows
    (table : Identifier)
    (templates : List Template) :
    List Row :=
  useRows ++ tableRows table templates ++ registerRows table

/-- The tokens of a listing as it is laid out. -/
def laidTokens
    (table : Identifier)
    (templates : List Template) :
    List Token :=
  rowTokens (rows table templates)

/-! ## Lines and rows -/

/-- The layouts of the call that registers the table. -/
def callLayouts (table : Identifier) : List (List Line) :=
  [ [flatCall table],
    [{ depth := 1, text := "registry" }, chainedCall table],
    [ { depth := 1, text := "registry" },
      { depth := 2, text := ".register(" },
      { depth := 3, text := "&" ++ table.text ++ "," },
      { depth := 2, text := ");" } ] ]

/-- The call that registers the table has one of its layouts. -/
theorem callLines_mem_callLayouts (table : Identifier) : callLines table ∈ callLayouts table := by
  unfold callLines callLayouts
  split
  · exact List.mem_cons_self
  · split
    · exact List.mem_cons_of_mem _ List.mem_cons_self
    · exact List.mem_cons_of_mem _ (List.mem_cons_of_mem _ List.mem_cons_self)

theorem callRows_mem_callRowLayouts (table : Identifier) :
    callRows table ∈ callRowLayouts table := by
  unfold callRows callRowLayouts
  split
  · exact List.mem_cons_self
  · split
    · exact List.mem_cons_of_mem _ List.mem_cons_self
    · exact List.mem_cons_of_mem _ (List.mem_cons_of_mem _ List.mem_cons_self)

section Lines

attribute [local simp] Row.line memberRow blockRow closingRow Part.text Token.text plain
  identifierToken Identifier.text Bracket.opening Bracket.closing

theorem fieldLines_eq (field : Field 8) : fieldLines field = (fieldRows field).map Row.line := by
  simp [fieldLines, fieldRows, ← String.toList_inj]

theorem fieldsLines_eq (fields : List (Field 8)) :
    fieldsLines fields = (fieldsRows fields).map Row.line := by
  cases fields with
  | nil => simp [fieldsLines, fieldsRows, fieldsFront]
  | cons field rest =>
      simp [fieldsLines, fieldsRows, fieldsFront, List.map_flatMap, funext fieldLines_eq]

theorem templateLines_eq (template : Template) :
    templateLines template = (templateRows template).map Row.line := by
  simp [templateLines, templateRows, fieldsLines_eq, ← String.toList_inj]

theorem tableLines_eq
    (table : Identifier)
    (templates : List Template) :
    tableLines table templates = (tableRows table templates).map Row.line := by
  cases templates with
  | nil => simp [tableLines, tableRows, tableFront, tableParts, ← String.toList_inj]
  | cons template rest =>
      simp [tableLines, tableRows, tableFront, tableParts, List.map_flatMap,
        funext templateLines_eq, ← String.toList_inj]

theorem callLayouts_eq (table : Identifier) :
    callLayouts table = (callRowLayouts table).map fun rows => rows.map Row.line := by
  simp [callLayouts, callRowLayouts, flatCall, chainedCall, flatCallRow, chainedCallRows,
    brokenCallRows, ← String.toList_inj]

/-- The lines of the call that registers the table are those of its rows. -/
theorem callLines_eq (table : Identifier) :
    callLines table = (callRows table).map Row.line := by
  have layouts := callLayouts_eq table
  simp only [callLayouts, callRowLayouts, List.map_cons, List.map_nil, List.cons.injEq] at layouts
  obtain ⟨flat, chained, broken, -⟩ := layouts
  unfold callLines callRows
  split
  · simp only [List.map_cons, List.map_nil, flat]
  · split
    · exact chained
    · exact broken

/-- The lines of a listing are those of its rows. -/
theorem lines_eq
    (table : Identifier)
    (templates : List Template) :
    lines table templates = (rows table templates).map Row.line := by
  simp [lines, rows, useLines, useRows, registerLines, registerRows, tableLines_eq, callLines_eq]

end Lines

end Listing
end InstructionTable
