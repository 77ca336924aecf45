import InstructionTable.Proofs.Listing.LayoutOnly

/-!
# The names that a listing binds

A listing binds three names to values: that of its table, that of the function that registers it and
that of the parameter of the function.  The last two are the same in every listing, and any
identifier is accepted for the table, so the names are apart exactly if the table has neither of the
other two.  A mark that says the identifier is no keyword is no part of the name.
-/

namespace InstructionTable
namespace Listing
open Lexical

/-- What a name is bound to. -/
inductive Binding where
  /-- A static. -/
  | static
  /-- A function. -/
  | function
  /-- The parameter of a function. -/
  | parameter
deriving DecidableEq, Repr

/--
The names that the items of a file bind to values, in order: those of its statics, and those of its
functions and their first parameters.  What a file brings into scope from elsewhere are types, which
do not meet with values.
-/
def bindings : List Token → List (String × Binding)
  | [] => []
  | .word false "static" :: .word _ name :: rest => (name, .static) :: bindings rest
  | .word false "fn" :: .word _ name :: .opening .round :: .word _ parameter :: .mark ':' :: rest =>
      (name, .function) :: (parameter, .parameter) :: bindings rest
  | _ :: rest => bindings rest

/-- The names that a file binds to values. -/
def boundNames (file : List Token) : List String :=
  (bindings file).map Prod.fst

/--
What a name stands for inside a function, where the scope of its parameters is the inner one.  A
file with a parameter named like a static, or with two items of one name, does not compile; this
says what such a name would stand for.
-/
def meanings
    (bound : List (String × Binding))
    (name : String) :
    List Binding :=
  let named := (bound.filter fun binding => binding.1 == name).map Prod.snd
  if named.contains .parameter then [.parameter] else named

/-- The keywords of items that bind names to values. -/
def itemKeywords : List String :=
  ["static", "fn"]

/-- Whether a token is the keyword of an item that binds names to values. -/
def isItemKeyword : Token → Bool
  | .word raw name => !raw && itemKeywords.contains name
  | _ => false

/-- A token that is no keyword of an item binds nothing. -/
theorem bindings_cons
    {token : Token}
    (other : isItemKeyword token = false)
    (rest : List Token) :
    bindings (token :: rest) = bindings rest := by
  conv => lhs; unfold bindings
  split
  · contradiction
  · rename_i same
    injection same with tokenEq
    subst tokenEq
    contradiction
  · rename_i same
    injection same with tokenEq
    subst tokenEq
    contradiction
  · rename_i same
    injection same with _ restEq
    rw [restEq]

theorem bindings_static
    (identifier : Identifier)
    (rest : List Token) :
    bindings (plain "static" :: identifierToken identifier :: rest) =
      (identifier.name, .static) :: bindings rest :=
  rfl

/-- A function binds its name and that of its parameter. -/
theorem bindings_function
    (name parameter : String)
    (rest : List Token) :
    bindings (plain "fn" :: plain name :: .opening .round :: plain parameter :: .mark ':' :: rest) =
      (name, .function) :: (parameter, .parameter) :: bindings rest :=
  rfl

/-- Tokens among which there is no keyword of an item bind nothing. -/
theorem bindings_append
    {front : List Token}
    (others : ∀ token ∈ front, isItemKeyword token = false)
    (rest : List Token) :
    bindings (front ++ rest) = bindings rest := by
  induction front with
  | nil => rfl
  | cons token more inductionHypothesis =>
      obtain ⟨first, behind⟩ := List.forall_mem_cons.mp others
      rw [List.cons_append, bindings_cons first, inductionHypothesis behind]

/-- A name that is accepted is no keyword, or it is marked as none. -/
theorem raw_or_not_mem_keywords
    {name : String}
    {table : Identifier}
    (accepted : Identifier.ofText name = .ok table) :
    table.raw = true ∨ table.name ∉ Identifier.keywords := by
  unfold Identifier.ofText at accepted
  split at accepted
  · contradiction
  · unfold Identifier.ofTokens at accepted
    split at accepted
    · contradiction
    · split at accepted
      · contradiction
      · rename_i allowed
        split at accepted
        · injection accepted with same
          subst same
          simpa [Bool.eq_false_or_eq_true, imp_iff_or_not, or_comm] using allowed
        · contradiction
    · contradiction

/-- The identifier of a table is no keyword of an item. -/
theorem isItemKeyword_identifierToken
    {name : String}
    {table : Identifier}
    (accepted : Identifier.ofText name = .ok table) :
    isItemKeyword (identifierToken table) = false := by
  have keywords : ∀ word ∈ itemKeywords, word ∈ Identifier.keywords := by decide
  obtain isRaw | noKeyword := raw_or_not_mem_keywords accepted
  · simp [isItemKeyword, identifierToken, isRaw]
  · have other : table.name ∉ itemKeywords := fun member => noKeyword (keywords _ member)
    simp [isItemKeyword, identifierToken, other]

/-! ## The names of a listing -/

section Entries

attribute [local simp] isItemKeyword itemKeywords plain

theorem isItemKeyword_of_mem_fieldRows (field : Field 8) :
    ∀ token ∈ rowTokens (fieldRows field), isItemKeyword token = false := by
  simp [rowTokens, fieldRows, memberRow, blockRow, closingRow, Row.tokens, Part.tokens]

/-- The rows of a template bind nothing. -/
theorem isItemKeyword_of_mem_templateRows (template : Template) :
    ∀ token ∈ rowTokens (templateRows template), isItemKeyword token = false := by
  have front : ∀ token ∈ templateFront template, isItemKeyword token = false := by
    simp [templateFront]
  have fields : ∀ token ∈ template.fields.flatMap (fun field => rowTokens (fieldRows field)),
      isItemKeyword token = false := by
    intro token member
    obtain ⟨field, -, inField⟩ := List.mem_flatMap.mp member
    exact isItemKeyword_of_mem_fieldRows field token inField
  have back : ∀ token ∈ templateBack template, isItemKeyword token = false := by
    cases shape : template.privileged <;> simp [templateBack, shape]
  rw [rowTokens_templateRows]
  simp only [List.forall_mem_append]
  exact ⟨⟨⟨front, fields, by simp⟩, back, by simp⟩, by simp⟩

end Entries

/-- A listing binds the name of its table and the two names of the function that registers it. -/
theorem bindings_laidTokens
    {table : Identifier}
    (identifier : isItemKeyword (identifierToken table) = false)
    (templates : List Template) :
    bindings (laidTokens table templates) =
      [(table.name, .static), ("register", .function), ("registry", .parameter)] := by
  have use : ∀ token ∈ useTokens ++ [plain "pub"], isItemKeyword token = false := by decide
  have entries : ∀ token ∈ templates.flatMap (fun template => rowTokens (templateRows template)),
      isItemKeyword token = false := by
    intro token member
    obtain ⟨template, -, inTemplate⟩ := List.mem_flatMap.mp member
    exact isItemKeyword_of_mem_templateRows template token inTemplate
  have call : ∀ token ∈ rowTokens (callRows table), isItemKeyword token = false := by
    have same := withoutTrailing_of_mem_callRowLayouts (callRows_mem_callRowLayouts table)
    have comma : isItemKeyword (.mark ',') = false := rfl
    have front : ∀ token ∈ [plain "registry", .mark '.', plain "register", .opening .round,
        .mark '&'], isItemKeyword token = false := by decide
    have inCall : ∀ token ∈ callTokens table, isItemKeyword token = false :=
      List.forall_mem_append.mpr ⟨front, List.forall_mem_cons.mpr ⟨identifier, by decide⟩⟩
    exact forall_mem_of_withoutTrailing_eq comma same inCall
  have shape : laidTokens table templates =
      (useTokens ++ [plain "pub"]) ++ plain "static" :: identifierToken table ::
        ([ .mark ':', .opening .square, plain "Insn", .mark ';',
            .literal (toString templates.length), .closing .square, .mark '=', .opening .square ]
          ++ (templates.flatMap (fun template => rowTokens (templateRows template))
          ++ ([.closing .square, .mark ';', plain "pub"]
          ++ plain "fn" :: plain "register" :: .opening .round :: plain "registry" :: .mark ':' ::
            ([.mark '&', plain "mut", plain "Registry", .closing .round, .opening .curly]
              ++ (rowTokens (callRows table) ++ [.closing .curly]))))) := by
    simp [laidTokens_eq, listingFront, registerFront]
  have declared : ∀ token ∈ [ Token.mark ':', .opening .square, plain "Insn", .mark ';',
      .literal (toString templates.length), .closing .square, .mark '=', .opening .square ],
      isItemKeyword token = false := by
    simp [isItemKeyword, itemKeywords, plain]
  rw [shape, bindings_append use, bindings_static, bindings_append declared,
    bindings_append entries, bindings_append (by decide), bindings_function,
    bindings_append (by decide), bindings_append call]
  rfl

/-- The source of a listing binds the name of its table and those of its function. -/
theorem exists_bindings_source
    {name : String}
    {table : Identifier}
    (accepted : Identifier.ofText name = .ok table)
    (instructions : List Instruction) :
    ∃ file,
      tokens? (source table (templates instructions)) = some file ∧
      bindings file = [(table.name, .static), ("register", .function), ("registry", .parameter)] :=
  ⟨_, tokens?_source (legible_of_ofText accepted) _,
    bindings_laidTokens (isItemKeyword_identifierToken accepted) _⟩

/--
The names that the source of a listing binds to values are pairwise different exactly if the table
has the name neither of the function that registers it nor of the parameter of the function, and
this is when its name stands for the table inside the function.
-/
theorem nodup_boundNames_source_iff
    {name : String}
    {table : Identifier}
    (accepted : Identifier.ofText name = .ok table)
    (instructions : List Instruction) :
    ∃ file,
      tokens? (source table (templates instructions)) = some file ∧
      boundNames file = [table.name, "register", "registry"] ∧
      ((boundNames file).Nodup ↔ table.name ≠ "register" ∧ table.name ≠ "registry") ∧
      (meanings (bindings file) table.name = [.static] ↔
        table.name ≠ "register" ∧ table.name ≠ "registry") := by
  obtain ⟨file, cut, bound⟩ := exists_bindings_source accepted instructions
  have names : boundNames file = [table.name, "register", "registry"] := by
    rw [boundNames, bound]
    rfl
  refine ⟨file, cut, names, ?_, ?_⟩
  · rw [names]
    simp
  · rw [bound]
    by_cases isRegister : table.name = "register"
    · simp [meanings, isRegister]
    · by_cases isRegistry : table.name = "registry"
      · simp [meanings, isRegistry]
      · simp [meanings, isRegister, isRegistry, Ne.symm isRegister, Ne.symm isRegistry]

/-- Under the name that a table has if it is not named, all names are apart. -/
theorem nodup_boundNames_source_of_default :
    Identifier.ofText "INSNS_ARM64" = .ok .default ∧
    ∃ file,
      tokens? (source .default (templates [])) = some file ∧
      (boundNames file).Nodup ∧
      meanings (bindings file) "INSNS_ARM64" = [.static] := by
  have accepted : Identifier.ofText "INSNS_ARM64" = .ok .default :=
    ofText_of_isWord { begins := by decide, continues := by decide } (by decide)
  obtain ⟨file, cut, -, nodup, meaning⟩ := nodup_boundNames_source_iff accepted []
  have other : Identifier.default.name ≠ "register" ∧ Identifier.default.name ≠ "registry" := by
    decide
  exact ⟨accepted, file, cut, nodup.mpr other, meaning.mpr other⟩

/--
A table may be named like the parameter of the function that registers it, and then its name stands
for the parameter there; or it may be named like the function, and then its name stands for both.
-/
theorem not_nodup_boundNames_source :
    (∃ table file,
      Identifier.ofText "registry" = .ok table ∧
      tokens? (source table (templates [])) = some file ∧
      ¬(boundNames file).Nodup ∧
      meanings (bindings file) table.name = [.parameter]) ∧
    ∃ table file,
      Identifier.ofText "register" = .ok table ∧
      tokens? (source table (templates [])) = some file ∧
      ¬(boundNames file).Nodup ∧
      meanings (bindings file) table.name = [.static, .function] := by
  refine ⟨?_, ?_⟩
  · have accepted : Identifier.ofText "registry" = .ok { raw := false, name := "registry" } :=
      ofText_of_isWord { begins := by decide, continues := by decide } (by decide)
    obtain ⟨file, cut, bound⟩ := exists_bindings_source accepted []
    refine ⟨_, file, accepted, cut, ?_, ?_⟩
    · rw [boundNames, bound]
      decide
    · rw [bound]
      rfl
  · have accepted : Identifier.ofText "register" = .ok { raw := false, name := "register" } :=
      ofText_of_isWord { begins := by decide, continues := by decide } (by decide)
    obtain ⟨file, cut, bound⟩ := exists_bindings_source accepted []
    refine ⟨_, file, accepted, cut, ?_, ?_⟩
    · rw [boundNames, bound]
      decide
    · rw [bound]
      rfl

end Listing
end InstructionTable
