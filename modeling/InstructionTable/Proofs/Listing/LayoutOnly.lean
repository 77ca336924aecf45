import InstructionTable.Proofs.Listing.Recorded
import InstructionTable.Proofs.Listing.Rows

/-!
# A listing and its layout

The lines of a listing and the listing on one line are rendered from the same tokens, but for the
commas that the lines have behind the last part of a list.  So the two texts differ in their layout
only, whatever the strings of the listing hold and however the call that registers the table is
broken.
-/

namespace InstructionTable
namespace Listing
open Lexical

/-! ## Tokens less trailing commas -/

/-- Tokens that are the given ones less their trailing commas, whatever stands behind them. -/
def Trims (tokens trimmed : List Token) : Prop :=
  ∀ rest, withoutTrailing (tokens ++ rest) = trimmed ++ withoutTrailing rest

/-- Tokens of a part that is laid out with a comma behind it. -/
def LaidOut (laid trimmed : List Token) : Prop :=
  ∃ front, laid = front ++ [.mark ','] ∧ front.head?.map Token.isClosing = some false ∧
    Trims front trimmed

namespace Trims

theorem withoutTrailing_eq
    {tokens trimmed : List Token}
    (trims : Trims tokens trimmed) :
    withoutTrailing tokens = trimmed := by
  have whole := trims []
  rw [List.append_nil] at whole
  rw [whole]
  exact List.append_nil trimmed

/-- Tokens and others behind them are trimmed apart. -/
theorem append
    {front back trimmedFront trimmedBack : List Token}
    (frontTrims : Trims front trimmedFront)
    (backTrims : Trims back trimmedBack) :
    Trims (front ++ back) (trimmedFront ++ trimmedBack) := by
  intro rest
  rw [List.append_assoc, frontTrims, backTrims, List.append_assoc]

/-- A comma stays in front of tokens that do not begin with a closing bracket. -/
theorem comma
    {tokens trimmed : List Token}
    (opens : tokens.head?.map Token.isClosing = some false)
    (trims : Trims tokens trimmed) :
    Trims (.mark ',' :: tokens) (.mark ',' :: trimmed) := by
  intro rest
  cases tokens with
  | nil => contradiction
  | cons next more =>
      have stays : next.isClosing = false := Option.some.inj opens
      have behind := trims rest
      rw [withoutTrailing] at behind ⊢
      rw [List.cons_append, dropTrailing, if_neg (by simp [stays]), behind]
      rfl

/-- Lists of tokens with commas between them are trimmed one by one. -/
theorem separated
    {Item : Type}
    {image trimmed : Item → List Token}
    (opens : ∀ item, (image item).head?.map Token.isClosing = some false)
    (trims : ∀ item, Trims (image item) (trimmed item))
    (items : List Item)
    (bracket : Bracket) :
    Trims (commaSeparated (items.map image) ++ [.closing bracket])
      (commaSeparated (items.map trimmed) ++ [.closing bracket]) := by
  induction items with
  | nil => exact fun _ => rfl
  | cons item rest inductionHypothesis =>
      cases rest with
      | nil =>
          simp only [commaSeparated, List.map_cons, List.map_nil, List.intercalate_singleton]
          exact (trims item).append fun _ => rfl
      | cons next more =>
          have front : ((commaSeparated ((next :: more).map image)) ++
              [Token.closing bracket]).head?.map Token.isClosing = some false := by
            have first := opens next
            cases shape : image next with
            | nil =>
                rw [shape] at first
                contradiction
            | cons token tail =>
                rw [shape] at first
                cases more <;> simpa [commaSeparated, shape, List.intercalate_cons_cons] using first
          have behind := (trims item).append (inductionHypothesis.comma front)
          simpa [commaSeparated, List.intercalate_cons_cons] using behind

/-- Lists of tokens with commas behind them are trimmed one by one, and the last comma left out. -/
theorem terminated
    {Item : Type}
    {image trimmed : Item → List Token}
    (laidOut : ∀ item, LaidOut (image item) (trimmed item))
    (items : List Item)
    (bracket : Bracket) :
    Trims (items.flatMap image ++ [.closing bracket])
      (commaSeparated (items.map trimmed) ++ [.closing bracket]) := by
  induction items with
  | nil => exact fun _ => rfl
  | cons item rest inductionHypothesis =>
      obtain ⟨front, shape, -, trims⟩ := laidOut item
      cases rest with
      | nil =>
          have last : Trims [.mark ',', .closing bracket] [.closing bracket] := fun _ => rfl
          simpa [commaSeparated, shape] using trims.append last
      | cons next more =>
          obtain ⟨nextFront, nextShape, opens, -⟩ := laidOut next
          have first : ((next :: more).flatMap image ++ [Token.closing bracket]).head?.map
              Token.isClosing = some false := by
            cases nextFront with
            | nil => contradiction
            | cons token tail => simpa [nextShape] using opens
          have behind := trims.append (inductionHypothesis.comma first)
          simpa [commaSeparated, shape, List.intercalate_cons_cons] using behind

end Trims

/-! ## The tokens of entries as they are laid out -/

theorem laidOut_fieldRows (field : Field 8) :
    LaidOut (rowTokens (fieldRows field)) (fieldTokens field) :=
  ⟨(rowTokens (fieldRows field)).dropLast, rfl, rfl, fun _ => rfl⟩

/-- The tokens in front of the fields of a template. -/
def templateFront (template : Template) : List Token :=
  [ plain "Insn", .opening .curly,
    plain "name", .mark ':', .literal (quoted template.name), .mark ',',
    plain "arch", .mark ':', .literal (quoted template.arch), .mark ',',
    plain "syntax", .mark ':', .literal (quoted template.assembly), .mark ',',
    plain "opcode", .mark ':', .literal (hexWord template.opcode), .mark ',',
    plain "mask", .mark ':', .literal (hexWord template.mask), .mark ',',
    plain "fields", .mark ':', .mark '&', .opening .square ]

/-- The tokens behind the fields of a template, but for its last comma and its closing bracket. -/
def templateBack (template : Template) : List Token :=
  [ .mark ',', plain "privileged", .mark ':',
    plain (if template.privileged then "true" else "false") ]

/-- The tokens of a template less its trailing comma. -/
def trimmedTemplate (template : Template) : List Token :=
  templateFront template
    ++ (commaSeparated (template.fields.map fieldTokens) ++ [.closing .square])
    ++ (templateBack template ++ [.closing .curly])

/-- The tokens of a template are its front, its fields and its back. -/
theorem templateTokens_eq (template : Template) :
    templateTokens template =
      templateFront template
        ++ (commaSeparated (template.fields.map fieldTokens) ++ [.closing .square])
        ++ (templateBack template ++ [.mark ',', .closing .curly]) := by
  simp [templateTokens, templateFront, templateBack, commaSeparated, member,
    List.intercalate_cons_cons]

/-- The rows of a template have its front, the rows of its fields and its back. -/
theorem rowTokens_templateRows (template : Template) :
    rowTokens (templateRows template) =
      templateFront template
        ++ (template.fields.flatMap (fun field => rowTokens (fieldRows field))
          ++ [.closing .square])
        ++ (templateBack template ++ [.mark ',', .closing .curly]) ++ [.mark ','] := by
  cases shape : template.fields <;>
    simp [rowTokens, templateRows, templateFront, templateBack, fieldsRows, shape, fieldsFront,
      memberRow, blockRow, closingRow, Row.tokens, Part.tokens, List.flatMap_assoc]

theorem trims_fieldTokens (field : Field 8) : Trims (fieldTokens field) (fieldTokens field) :=
  fun _ => rfl

theorem trims_templateFront (template : Template) :
    Trims (templateFront template) (templateFront template) :=
  fun _ => rfl

/-- The comma behind the last part of a template is trailing. -/
theorem trims_templateBack (template : Template) :
    Trims (templateBack template ++ [.mark ',', .closing .curly])
      (templateBack template ++ [.closing .curly]) :=
  fun _ => rfl

/-- A template has a trailing comma behind its last part. -/
theorem trims_templateTokens (template : Template) :
    Trims (templateTokens template) (trimmedTemplate template) := by
  have fields := Trims.separated (fun _ => rfl) trims_fieldTokens template.fields .square
  rw [templateTokens_eq]
  exact ((trims_templateFront template).append fields).append (trims_templateBack template)

theorem laidOut_templateRows (template : Template) :
    LaidOut (rowTokens (templateRows template)) (trimmedTemplate template) := by
  have fields := Trims.terminated laidOut_fieldRows template.fields .square
  exact ⟨_, rowTokens_templateRows template, rfl,
    ((trims_templateFront template).append fields).append (trims_templateBack template)⟩

/-! ## The tokens of a listing as it is laid out -/

/-- The tokens of the call that registers the table. -/
def callTokens (table : Identifier) : List Token :=
  [plain "registry", .mark '.', plain "register", .opening .round, .mark '&',
    identifierToken table, .closing .round, .mark ';']

/-- The tokens in front of the entries of a listing. -/
def listingFront
    (table : Identifier)
    (count : Nat) :
    List Token :=
  useTokens ++
    [plain "pub", plain "static", identifierToken table, .mark ':', .opening .square, plain "Insn",
      .mark ';', .literal (toString count), .closing .square, .mark '=', .opening .square]

/-- The tokens between the entries of a listing and the call that registers its table. -/
def registerFront : List Token :=
  [.mark ';', plain "pub", plain "fn", plain "register", .opening .round, plain "registry",
    .mark ':', .mark '&', plain "mut", plain "Registry", .closing .round, .opening .curly]

/-- The tokens of a listing are those around its entries and around the call. -/
theorem tokens_eq
    (table : Identifier)
    (templates : List Template) :
    tokens table templates =
      listingFront table templates.length
        ++ (commaSeparated (templates.map templateTokens) ++ [.closing .square])
        ++ registerFront ++ callTokens table ++ [.closing .curly] := by
  simp [tokens, tableTokens, registerTokens, listingFront, registerFront, callTokens]

/-- The rows of a listing have the same tokens around its entries and around the call. -/
theorem laidTokens_eq
    (table : Identifier)
    (templates : List Template) :
    laidTokens table templates =
      listingFront table templates.length
        ++ (templates.flatMap (fun template => rowTokens (templateRows template))
          ++ [.closing .square])
        ++ registerFront ++ rowTokens (callRows table) ++ [.closing .curly] := by
  cases templates <;>
    simp [laidTokens, rowTokens, rows, useRows, tableRows, registerRows, tableParts, listingFront,
      useTokens, registerFront, closingRow, Row.tokens, Part.tokens, List.flatMap_assoc]

/-- Whatever its layout, the call has the same tokens but for a trailing comma. -/
theorem trims_of_mem_callRowLayouts
    {table : Identifier}
    {layout : List Row}
    (member : layout ∈ callRowLayouts table) :
    Trims (rowTokens layout) (callTokens table) := by
  simp only [callRowLayouts, List.mem_cons, List.not_mem_nil, or_false] at member
  obtain rfl | rfl | rfl := member <;> exact fun _ => rfl

/-- Whatever its layout, the call has the same tokens less trailing commas. -/
theorem withoutTrailing_of_mem_callRowLayouts
    {table : Identifier}
    {layout : List Row}
    (member : layout ∈ callRowLayouts table) :
    withoutTrailing (rowTokens layout) = withoutTrailing (callTokens table) :=
  (trims_of_mem_callRowLayouts member).withoutTrailing_eq

/-- The rows of a listing have the tokens of the listing but for trailing commas. -/
theorem withoutTrailing_laidTokens
    (table : Identifier)
    (templates : List Template) :
    withoutTrailing (laidTokens table templates) = withoutTrailing (tokens table templates) := by
  have front : Trims (listingFront table templates.length) (listingFront table templates.length) :=
    fun _ => rfl
  have between : Trims registerFront registerFront := fun _ => rfl
  have last : Trims [.closing .curly] [.closing .curly] := fun _ => rfl
  have laid := Trims.terminated laidOut_templateRows templates .square
  have plain := Trims.separated (fun _ => rfl) trims_templateTokens templates .square
  have laidCall := trims_of_mem_callRowLayouts (callRows_mem_callRowLayouts table)
  have call : Trims (callTokens table) (callTokens table) := fun _ => rfl
  have laidWhole := (((front.append laid).append between).append laidCall).append last
  have whole := (((front.append plain).append between).append call).append last
  rw [laidTokens_eq, tokens_eq, laidWhole.withoutTrailing_eq, whole.withoutTrailing_eq]

/-! ## The texts of a listing -/

/-- Whether a token is a literal. -/
def isLiteral : Token → Bool
  | .literal _ => true
  | _ => false

/-- Tokens with the same trailing commas left out have the same literals. -/
theorem filter_isLiteral_eq
    {left right : List Token}
    (same : withoutTrailing left = withoutTrailing right) :
    left.filter isLiteral = right.filter isLiteral := by
  have noComma : ∀ token : Token, token.isComma = true → isLiteral token = false := by
    intro token isComma
    rw [Token.eq_of_isComma isComma]
    rfl
  rw [← filter_dropTrailing Token.isComma Token.isClosing noComma left,
    ← filter_dropTrailing Token.isComma Token.isClosing noComma right]
  exact congrArg (List.filter isLiteral) same

/-- Tokens that differ from legible ones in trailing commas only can be read back. -/
theorem readsBack_of_withoutTrailing_eq
    {laid expected : List Token}
    (legible : Legible expected)
    (same : withoutTrailing laid = withoutTrailing expected) :
    ∀ token ∈ laid, token.ReadsBack := by
  have comma : ',' ∈ Token.plainMarks := by decide
  exact forall_mem_of_withoutTrailing_eq (Token.readsBack_mark comma) same legible.readBack

theorem pairsUp_of_withoutTrailing_eq
    {laid expected : List Token}
    (legible : Legible expected)
    (same : withoutTrailing laid = withoutTrailing expected) :
    pairsUp [] laid = true := by
  rw [← pairsUp_withoutTrailing, same, pairsUp_withoutTrailing]
  exact legible.pairsUp

/-- The lines of rows are read as the tokens of the rows. -/
theorem tokens?_renderLines
    {rows : List Row}
    {expected : List Token}
    (legible : Legible expected)
    (same : withoutTrailing (rowTokens rows) = withoutTrailing expected) :
    tokens? (renderLines (rows.map Row.line)) = some (rowTokens rows) :=
  (renders_rows rows).tokens? (readsBack_of_withoutTrailing_eq legible same)
    (pairsUp_of_withoutTrailing_eq legible same)

theorem skipTrivia_header (text : List Char) :
    skipTrivia (header.toList ++ text) = skipTrivia text := by
  have comment : skipComment? (header.toList ++ text) = some ('\n' :: '\n' :: text) := rfl
  rw [skipTrivia_of_skipComment? comment, skipTrivia_cons (by decide), skipTrivia_cons (by decide)]

/-- The source of a listing is read as the tokens of its rows. -/
theorem tokens?_source
    {table : Identifier}
    (identifier : Legible [identifierToken table])
    (templates : List Template) :
    tokens? (source table templates) = some (laidTokens table templates) := by
  have legible := legible_tokens identifier templates
  have same := withoutTrailing_laidTokens table templates
  have cut := (renders_rows (rows table templates)).cutTokens?
    (readsBack_of_withoutTrailing_eq legible same)
  have paired := pairsUp_of_withoutTrailing_eq legible same
  have text : (source table templates).toList =
      header.toList ++ (renderLines ((rows table templates).map Row.line)).toList := by
    rw [source, String.toList_append, lines_eq]
  have whole : cutTokens? (source table templates).toList =
      some (laidTokens table templates) := by
    rw [text, cutTokens?_eq, skipTrivia_header, ← cutTokens?_eq, cut, laidTokens]
  unfold tokens?
  split
  · rename_i rest begins
    rw [text] at begins
    injection begins with mark
    contradiction
  · simp [whole, paired]

theorem legible_callTokens
    {table : Identifier}
    (identifier : Legible [identifierToken table]) :
    Legible (callTokens table) := by
  have callee : Legible [plain "registry", .mark '.', plain "register"] := .of_isFixed (by decide)
  have reference : Legible [.mark '&'] := .of_isFixed (by decide)
  have semicolon : Legible [.mark ';'] := .of_isFixed (by decide)
  exact callee.append (((reference.append identifier).enclosed .round).append semicolon)

/-- In each of its layouts the call that registers the table has the same tokens. -/
theorem tokens?_of_mem_callLayouts
    {table : Identifier}
    (identifier : Legible [identifierToken table])
    {call : List Line}
    (member : call ∈ callLayouts table) :
    (tokens? (renderLines call)).map withoutTrailing = some (callTokens table) := by
  rw [callLayouts_eq] at member
  obtain ⟨layout, rowMember, rfl⟩ := List.mem_map.mp member
  have same := withoutTrailing_of_mem_callRowLayouts rowMember
  rw [tokens?_renderLines (legible_callTokens identifier) same, Option.map_some, same]
  rfl

/--
The source of a listing is its header and a body that differs from the text of its tokens in layout
only: both are the same without white space outside of strings and without trailing commas, and both
have the same literals.  The call that registers the table stands at the end of both, and it has the
same tokens in each layout.
-/
theorem bareText_source
    {name : String}
    {table : Identifier}
    (accepted : Identifier.ofText name = .ok table)
    (instructions : List Instruction) :
    let entries := templates instructions
    (∃ body laid,
      source table entries = header ++ body ∧
      bareText body = bareText (tokenText table entries) ∧
      tokens? body = some laid ∧
      tokens? (tokenText table entries) = some (tokens table entries) ∧
      withoutTrailing laid = withoutTrailing (tokens table entries) ∧
      laid.filter isLiteral = (tokens table entries).filter isLiteral ∧
      ∃ front, body = front ++ renderLines (callLines table) ++ "\x7d\n") ∧
    (∃ front, tokens table entries = front ++ callTokens table ++ [.closing .curly]) ∧
    callLines table ∈ callLayouts table ∧
    ∀ call ∈ callLayouts table,
      (tokens? (renderLines call)).map withoutTrailing = some (callTokens table) := by
  intro entries
  have identifier := legible_of_ofText accepted
  have legible := legible_tokens identifier entries
  have same : withoutTrailing (rowTokens (rows table entries)) =
      withoutTrailing (tokens table entries) := withoutTrailing_laidTokens table entries
  have comma : ',' ∈ Token.plainMarks := by decide
  have evident := forall_mem_of_withoutTrailing_eq (Token.evident_mark comma) same legible.evident
  have laid := tokens?_renderLines legible same
  have body :
      bareText (renderLines (lines table entries)) = bareText (tokenText table entries) := by
    rw [lines_eq, (renders_rows (rows table entries)).bareText evident, tokenText,
      (renders_print (tokens table entries)).bareText legible.evident]
    exact congrArg _ (congrArg _ (congrArg _ same))
  refine ⟨⟨_, _, rfl, body, by rw [lines_eq]; exact laid, legible.tokens?_print, same,
    filter_isLiteral_eq same, ?_⟩, ?_, callLines_mem_callLayouts table, ?_⟩
  · refine ⟨renderLines (useLines ++ tableLines table entries ++
      [{ depth := 0, text := "pub fn register(registry: &mut Registry) \x7b" }]), ?_⟩
    simp [lines, registerLines, renderLines, Line.render, String.append_assoc]
  · exact ⟨_, tokens_eq table entries⟩
  · exact fun call => tokens?_of_mem_callLayouts identifier

/--
Under a name of seventy letters the call is broken around its argument.  The strings of the only
entry hold a comma in front of a bracket, white space and a quote behind a backslash.
-/
theorem bareText_source_of_broken_call :
    let name := String.ofList (List.replicate 70 'A')
    let table : Identifier := { raw := false, name := name }
    let instruction : Instruction :=
      { name := "a , )"
        opcode := 1
        mask := 3
        fields := [{ name := "\\\" ]\n", start := 2, length := 30 }] }
    let entries := templates [instruction]
    Identifier.ofText name = .ok table ∧
    (callLines table).length = 4 ∧
    ∃ body,
      source table entries = header ++ body ∧
      bareText body = bareText (tokenText table entries) := by
  intro name table instruction entries
  have accepted : Identifier.ofText name = .ok table :=
    ofText_of_isWord { begins := by decide, continues := by decide } (by decide)
  obtain ⟨⟨body, laid, shape, same, -⟩, -⟩ := bareText_source accepted [instruction]
  exact ⟨accepted, by decide, body, shape, same⟩

end Listing
end InstructionTable
