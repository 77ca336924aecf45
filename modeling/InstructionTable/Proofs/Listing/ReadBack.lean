import InstructionTable.Proofs.Listing.Legible

/-!
# Reading a listing back

A listing is read token by token, and gives back what it was printed from.
-/

namespace InstructionTable
namespace Listing
open Lexical

/-!
## Reading a listing

A listing is read token by token.  What it has to say in any case is expected word for word, and
what stands between is read for its value: strings, numbers that have to fit their sizes, truth
values, identifiers, and lists of entries with commas between them.
-/

/-- A reader of what is at the front of some tokens, which also gives the tokens behind it. -/
abbrev Reader := StateT (List Token) Option

/-- A reader takes given tokens for a value, whatever stands behind them. -/
def Reads
    {Value : Type}
    (reader : Reader Value)
    (tokens : List Token)
    (value : Value) : Prop :=
  ∀ rest, reader (tokens ++ rest) = some (value, rest)

section Reads

variable {First Second : Type}

/-- One reader behind another takes the tokens of both. -/
theorem Reads.bind
    {first : Reader First}
    {next : First → Reader Second}
    {front back : List Token}
    {value : First}
    {result : Second}
    (reads : Reads first front value)
    (continues : Reads (next value) back result) :
    Reads (first >>= next) (front ++ back) result := by
  intro rest
  change (first (front ++ back ++ rest)).bind (fun pair => next pair.1 pair.2) = _
  rw [List.append_assoc, reads]
  exact continues rest

theorem Reads.pure (value : First) : Reads (Pure.pure value) [] value :=
  fun _ => rfl

end Reads

/-! ## Parts of a listing -/

/-- Leave out tokens that have to be there. -/
def expect (expected : List Token) : Reader Unit := fun tokens =>
  if expected.isPrefixOf tokens then some ((), tokens.drop expected.length) else none

/-- Read a string. -/
def readString : Reader String
  | .literal text :: rest => (stringValue? text).map (·, rest)
  | _ => none

/-- Read a number of any size. -/
def readNumber : Reader Nat
  | .literal text :: rest => (numberValue? text).map (·, rest)
  | _ => none

/-- Read a number that fits a number of bits. -/
def readBits (size : Nat) : Reader (BitVec size) := do
  let value ← readNumber
  if value < 2 ^ size then return BitVec.ofNat size value else failure

/-- Read a truth value. -/
def readTruth : Reader Bool
  | .word false "true" :: rest => some (true, rest)
  | .word false "false" :: rest => some (false, rest)
  | _ => none

/-- Read an identifier. -/
def readIdentifier : Reader Identifier
  | .word raw name :: rest => some ({ raw := raw, name := name }, rest)
  | _ => none

/--
Read items up to a closing bracket, with a comma between two of them; one may stand behind the last.
Each item takes a token at least.
-/
def readItems
    {Item : Type}
    (readItem : Reader Item)
    (tokens : List Token) :
    Option (List Item × List Token) :=
  match tokens with
  | .closing .square :: rest => some ([], rest)
  | tokens =>
      match readItem tokens with
      | some (item, .closing .square :: rest) => some ([item], rest)
      | some (item, .mark ',' :: rest) =>
          if rest.length < tokens.length then
            (readItems readItem rest).map fun (items, behind) => (item :: items, behind)
          else
            none
      | _ => none
termination_by tokens.length

/-- Read a field. -/
def readField : Reader (Field 8) := do
  expect [plain "InsnField", .opening .curly, plain "name", .mark ':']
  let name ← readString
  expect [.mark ',', plain "start", .mark ':']
  let start ← readBits 8
  expect [.mark ',', plain "length", .mark ':']
  let length ← readBits 8
  expect [.closing .curly]
  return { name := name, start := start, length := length }

/-- Read an entry. -/
def readTemplate : Reader Template := do
  expect [plain "Insn", .opening .curly, plain "name", .mark ':']
  let name ← readString
  expect [.mark ',', plain "arch", .mark ':']
  let arch ← readString
  expect [.mark ',', plain "syntax", .mark ':']
  let assembly ← readString
  expect [.mark ',', plain "opcode", .mark ':']
  let opcode ← readBits 32
  expect [.mark ',', plain "mask", .mark ':']
  let mask ← readBits 32
  expect [.mark ',', plain "fields", .mark ':', .mark '&', .opening .square]
  let fields ← readItems readField
  expect [.mark ',', plain "privileged", .mark ':']
  let privileged ← readTruth
  expect [.mark ',', .closing .curly]
  return {
    name := name
    opcode := opcode
    mask := mask
    fields := fields
    privileged := privileged
    arch := arch
    assembly := assembly }

/-- What a listing says. -/
structure Contents where
  /-- The name that the table is declared under. -/
  table : Identifier
  /-- The declared number of entries. -/
  declared : Nat
  /-- The entries of the table. -/
  entries : List Template
  /-- The name that is registered. -/
  registered : Identifier
deriving DecidableEq, Repr

/-- Read a listing. -/
def readContents : Reader Contents := do
  expect useTokens
  expect [plain "pub", plain "static"]
  let table ← readIdentifier
  expect [.mark ':', .opening .square, plain "Insn", .mark ';']
  let declared ← readNumber
  expect [.closing .square, .mark '=', .opening .square]
  let entries ← readItems readTemplate
  expect
    [ .mark ';', plain "pub", plain "fn", plain "register", .opening .round, plain "registry",
      .mark ':', .mark '&', plain "mut", plain "Registry", .closing .round, .opening .curly,
      plain "registry", .mark '.', plain "register", .opening .round, .mark '&' ]
  let registered ← readIdentifier
  expect [.closing .round, .mark ';', .closing .curly]
  return { table := table, declared := declared, entries := entries, registered := registered }

/-- What the text of a listing says, if it is the text of one. -/
def contents? (text : String) : Option Contents := do
  match ← readContents (← tokens? text) with
  | (contents, []) => return contents
  | _ => none

/-!
## A listing says what it was made from

Every part of a listing is taken by the reader of that part for what it was printed from.  So the
text of a listing, cut into tokens and read, gives back the identifier and all templates.
-/

/-! ## Tokens of one value -/

/-- Expected tokens are left out. -/
theorem reads_expect (expected : List Token) : Reads (expect expected) expected () := by
  intro rest
  simp [expect]

theorem reads_quoted (text : String) : Reads readString [.literal (quoted text)] text := by
  intro rest
  change (stringValue? (quoteStyle.quote text)).map (·, rest) = _
  rw [stringValue?_quote]
  rfl

theorem reads_toString (number : Nat) :
    Reads readNumber [.literal (toString number)] number := by
  intro rest
  change (numberValue? (toString number)).map (·, rest) = _
  rw [numberValue?_toString]
  rfl

/-- A number that fits its size is read as its bits. -/
theorem reads_bits
    {size : Nat}
    (bits : BitVec size)
    {text : String}
    (worth : numberValue? text = some bits.toNat) :
    Reads (readBits size) [.literal text] bits := by
  intro rest
  have read : readNumber (.literal text :: rest) = some (bits.toNat, rest) := by
    change (numberValue? text).map (·, rest) = _
    rw [worth]
    rfl
  change (readNumber (.literal text :: rest)).bind _ = _
  rw [read]
  simp [bits.isLt]
  rfl

theorem reads_truth (value : Bool) :
    Reads readTruth [plain (if value then "true" else "false")] value := by
  intro rest
  cases value <;> rfl

theorem reads_identifier (identifier : Identifier) :
    Reads readIdentifier [identifierToken identifier] identifier :=
  fun _ => rfl

/-! ## Lists of entries -/

section Items

variable {Item : Type} {readItem : Reader Item}

/-- The last item is the one that a bracket is behind. -/
theorem readItems_last
    {tokens rest : List Token}
    {item : Item}
    (opens : tokens.head?.any (· != .closing .square) = true)
    (read : readItem tokens = some (item, .closing .square :: rest)) :
    readItems readItem tokens = some ([item], rest) := by
  rw [readItems, read]
  rintro other rfl
  contradiction

/-- Behind an item and a comma, the other items follow. -/
theorem readItems_next
    {tokens rest : List Token}
    {item : Item}
    (opens : tokens.head?.any (· != .closing .square) = true)
    (read : readItem tokens = some (item, .mark ',' :: rest))
    (shorter : rest.length < tokens.length) :
    readItems readItem tokens =
      (readItems readItem rest).map fun (items, behind) => (item :: items, behind) := by
  rw [readItems, read]
  · exact if_pos shorter
  · rintro other rfl
    contradiction

/-- Items with commas between them are read up to the bracket behind them. -/
theorem reads_items
    {print : Item → List Token}
    (opens : ∀ item, (print item).head?.any (· != .closing .square) = true)
    (reads : ∀ item, Reads readItem (print item) item)
    (items : List Item) :
    Reads (readItems readItem) (commaSeparated (items.map print) ++ [.closing .square]) items := by
  have opensBefore (item : Item) (behind : List Token) :
      (print item ++ behind).head?.any (· != .closing .square) = true := by
    have opened := opens item
    cases shape : print item with
    | nil =>
        rw [shape] at opened
        contradiction
    | cons token more =>
        rw [shape] at opened
        exact opened
  intro rest
  induction items with
  | nil =>
      change readItems readItem (.closing .square :: rest) = some ([], rest)
      rw [readItems]
  | cons item more inductionHypothesis =>
      cases more with
      | nil =>
          have shape : commaSeparated ([item].map print) ++ [.closing .square] ++ rest =
              print item ++ .closing .square :: rest := by
            simp [commaSeparated]
          rw [shape]
          exact readItems_last (opensBefore item _) (reads item _)
      | cons next others =>
          have shape : commaSeparated ((item :: next :: others).map print) ++ [.closing .square] ++
                rest =
              print item ++ .mark ',' ::
                (commaSeparated ((next :: others).map print) ++ [.closing .square] ++ rest) := by
            simp [commaSeparated, List.intercalate_cons_cons]
          rw [shape, readItems_next (opensBefore item _) (reads item _), inductionHypothesis]
          · rfl
          · simp only [List.length_append, List.length_cons]
            omega

end Items

theorem reads_field (field : Field 8) : Reads readField (fieldTokens field) field := by
  have shape : fieldTokens field = List.flatten (
      [ [plain "InsnField", .opening .curly, plain "name", .mark ':'],
        [.literal (quoted field.name)],
        [.mark ',', plain "start", .mark ':'],
        [.literal (toString field.start.toNat)],
        [.mark ',', plain "length", .mark ':'],
        [.literal (toString field.length.toNat)],
        [.closing .curly] ] : List (List Token)) := by
    rfl
  rw [shape]
  exact (reads_expect _).bind <| (reads_quoted _).bind <| (reads_expect _).bind <|
    (reads_bits field.start (numberValue?_toString _)).bind <| (reads_expect _).bind <|
    (reads_bits field.length (numberValue?_toString _)).bind <| (reads_expect _).bind <|
    Reads.pure _

theorem reads_template (template : Template) :
    Reads readTemplate (templateTokens template) template := by
  have shape : templateTokens template = List.flatten (
      [ [plain "Insn", .opening .curly, plain "name", .mark ':'],
        [.literal (quoted template.name)],
        [.mark ',', plain "arch", .mark ':'],
        [.literal (quoted template.arch)],
        [.mark ',', plain "syntax", .mark ':'],
        [.literal (quoted template.assembly)],
        [.mark ',', plain "opcode", .mark ':'],
        [.literal (hexWord template.opcode)],
        [.mark ',', plain "mask", .mark ':'],
        [.literal (hexWord template.mask)],
        [.mark ',', plain "fields", .mark ':', .mark '&', .opening .square],
        commaSeparated (template.fields.map fieldTokens) ++ [.closing .square],
        [.mark ',', plain "privileged", .mark ':'],
        [plain (if template.privileged then "true" else "false")],
        [.mark ',', .closing .curly] ] : List (List Token)) := by
    simp [templateTokens, commaSeparated, member, List.intercalate_cons_cons]
  rw [shape]
  exact (reads_expect _).bind <| (reads_quoted _).bind <| (reads_expect _).bind <|
    (reads_quoted _).bind <| (reads_expect _).bind <| (reads_quoted _).bind <|
    (reads_expect _).bind <| (reads_bits template.opcode (numberValue?_hexWord _)).bind <|
    (reads_expect _).bind <| (reads_bits template.mask (numberValue?_hexWord _)).bind <|
    (reads_expect _).bind <| (reads_items (fun _ => rfl) reads_field template.fields).bind <|
    (reads_expect _).bind <| (reads_truth _).bind <| (reads_expect _).bind <| Reads.pure _

/-- A listing is read as what it was made from. -/
theorem reads_contents
    (table : Identifier)
    (templates : List Template) :
    Reads readContents (tokens table templates)
      { table := table
        declared := templates.length
        entries := templates
        registered := table } := by
  have shape : tokens table templates = List.flatten (
      [ useTokens,
        [plain "pub", plain "static"],
        [identifierToken table],
        [.mark ':', .opening .square, plain "Insn", .mark ';'],
        [.literal (toString templates.length)],
        [.closing .square, .mark '=', .opening .square],
        commaSeparated (templates.map templateTokens) ++ [.closing .square],
        [ .mark ';', plain "pub", plain "fn", plain "register", .opening .round, plain "registry",
          .mark ':', .mark '&', plain "mut", plain "Registry", .closing .round, .opening .curly,
          plain "registry", .mark '.', plain "register", .opening .round, .mark '&' ],
        [identifierToken table],
        [.closing .round, .mark ';', .closing .curly] ] : List (List Token)) := by
    simp [tokens, tableTokens, registerTokens]
  rw [shape]
  exact (reads_expect _).bind <| (reads_expect _).bind <| (reads_identifier _).bind <|
    (reads_expect _).bind <| (reads_toString _).bind <| (reads_expect _).bind <|
    (reads_items (fun _ => rfl) reads_template templates).bind <| (reads_expect _).bind <|
    (reads_identifier _).bind <| (reads_expect _).bind <| Reads.pure _

/-! ## The text of a listing -/

/-- The text of a listing says what the listing was made from. -/
theorem contents?_tokenText
    {table : Identifier}
    (identifier : Legible [identifierToken table])
    (templates : List Template) :
    contents? (tokenText table templates) =
      some
        { table := table
          declared := templates.length
          entries := templates
          registered := table } := by
  have cut := (legible_tokens identifier templates).tokens?_print
  have read := reads_contents table templates []
  rw [List.append_nil] at read
  unfold contents? tokenText
  rw [cut]
  simp [read]

end Listing
end InstructionTable
