import InstructionTable.Listing.Tokens
import InstructionTable.Proofs.Lexical.Legible

/-!
# The tokens of a listing can be printed

Every string and number of a listing is read back as one token, and the brackets around its parts
pair up.  So the text of a listing is cut into the tokens it was printed from, under any name that
is accepted for its table.
-/

namespace InstructionTable
namespace Listing
open Lexical

/-! ## Words in base sixteen -/

theorem hexDigit?_upperDigit
    {digit : Nat}
    (small : digit < 16) :
    hexDigit? (upperDigit digit) = some digit := by
  interval_cases digit <;> rfl

/-- The digits of a word, from its top. -/
def wordDigits (word : Word) : List Nat :=
  [28, 24, 20, 16, 12, 8, 4, 0].map fun place => (word >>> place).toNat % 16

theorem toList_hexWord (word : Word) :
    (hexWord word).toList = '0' :: 'x' :: (wordDigits word).map upperDigit := by
  rw [hexWord, String.toList_ofList, wordDigits, List.map_map]
  rfl

theorem lt_of_mem_wordDigits
    {word : Word}
    {digit : Nat}
    (member : digit ∈ wordDigits word) :
    digit < 16 := by
  obtain ⟨place, -, rfl⟩ := List.mem_map.mp member
  exact Nat.mod_lt _ (by decide)

theorem isDigitOf_of_mem_wordDigits
    {word : Word}
    {c : Char}
    (member : c ∈ (wordDigits word).map upperDigit) :
    IsDigitOf 16 c := by
  obtain ⟨digit, digitMember, rfl⟩ := List.mem_map.mp member
  have small := lt_of_mem_wordDigits digitMember
  exact ⟨digit, small, hexDigit?_upperDigit small⟩

/-- The digits of a word are worth the word. -/
theorem foldl_wordDigits (word : Word) :
    (wordDigits word).foldl (fun value digit => 16 * value + digit) 0 = word.toNat := by
  have small : word.toNat < 2 ^ 32 := word.isLt
  have top : word.toNat / 2 ^ 28 % 16 = word.toNat / 2 ^ 28 := Nat.mod_eq_of_lt (by omega)
  -- the digits from the top down to a place are worth what is left of the word above that place
  have next (place : Nat) :
      16 * (word.toNat / 2 ^ (place + 4)) + word.toNat / 2 ^ place % 16 =
        word.toNat / 2 ^ place := by
    rw [Nat.pow_add, ← Nat.div_div_eq_div_mul]
    exact Nat.div_add_mod _ 16
  simp only [wordDigits, List.map_cons, List.map_nil, List.foldl_cons, List.foldl_nil,
    BitVec.toNat_ushiftRight, Nat.shiftRight_eq_div_pow]
  rw [Nat.mul_zero, Nat.zero_add, top, next 24, next 20, next 16, next 12, next 8, next 4, next 0,
    Nat.pow_zero, Nat.div_one]

/-- Printed hexadecimal digits have the value of the digits. -/
theorem digitsValue?_map_upperDigit
    {digits : List Nat}
    (small : ∀ digit ∈ digits, digit < 16)
    (value : Nat) :
    digitsValue? 16 value (digits.map upperDigit) =
      some (digits.foldl (fun value digit => 16 * value + digit) value) := by
  induction digits generalizing value with
  | nil => rfl
  | cons digit rest inductionHypothesis =>
      have below := small digit List.mem_cons_self
      have read := hexDigit?_upperDigit below
      rw [List.map_cons, digitsValue?, IsDigitOf.beq_underscore ⟨digit, below, read⟩, read]
      simp only [Bool.false_eq_true, if_false, if_pos below, List.foldl_cons]
      exact inductionHypothesis (fun other member => small other (List.mem_cons_of_mem _ member)) _

/-- A word in base sixteen is read up to the separator behind it. -/
theorem skipLiteral?_hexWord
    (word : Word)
    {rest : List Char}
    (separated : isSeparated rest = true) :
    skipLiteral? ((hexWord word).toList ++ rest) = some rest := by
  rw [toList_hexWord, List.cons_append, List.cons_append]
  have digits : ∀ c ∈ (wordDigits word).map upperDigit, IsDigitOf 16 c :=
    fun c => isDigitOf_of_mem_wordDigits
  have noDecimal :
      skipDecimal? ('0' :: 'x' :: ((wordDigits word).map upperDigit ++ rest)) = none :=
    skipDecimal?_eq_none_of_behind rfl
  have integer :
      skipInteger? ('0' :: 'x' :: ((wordDigits word).map upperDigit ++ rest)) = some rest := by
    rw [skipInteger?]
    change (skipDigits? 16 false ((wordDigits word).map upperDigit ++ rest)).bind endNumber? = _
    rw [skipDigits?_append digits (.inr (by simp [wordDigits])) separated]
    exact endNumber?_of_isSeparated separated
  rw [skipLiteral?, skipQuoted?_of_isDigit (by decide), noDecimal, integer]
  rfl

theorem numberValue?_hexWord (word : Word) : numberValue? (hexWord word) = some word.toNat := by
  rw [numberValue?, toList_hexWord]
  change digitsValue? 16 0 ((wordDigits word).map upperDigit) = some word.toNat
  rw [digitsValue?_map_upperDigit fun digit => lt_of_mem_wordDigits, foldl_wordDigits]

theorem readsBack_hexWord (word : Word) : (Token.literal (hexWord word)).ReadsBack :=
  Token.readsBack_literal ⟨'0', by decide, by rw [toList_hexWord]; rfl⟩
    fun _ separated _ => skipLiteral?_hexWord word separated

theorem evident_hexWord (word : Word) : (Token.literal (hexWord word)).Evident := by
  have plain : ∀ c ∈ '0' :: 'x' :: (wordDigits word).map upperDigit, c ∉ Token.outerMarks := by
    refine List.forall_mem_cons.mpr ⟨by decide, List.forall_mem_cons.mpr ⟨by decide, ?_⟩⟩
    exact fun c member => (isDigitOf_of_mem_wordDigits member).not_mem (by decide)
  exact Token.evident_of_first (toList_hexWord word) plain (by decide) rfl

/-! ## Parts of a listing -/

theorem legible_quoted (text : String) : Legible [.literal (quoted text)] :=
  .of_literal (Token.readsBack_quote quoteStyle text) (Token.evident_quote quoteStyle text)

theorem legible_toString (number : Nat) : Legible [.literal (toString number)] :=
  .of_literal (Token.readsBack_toString number) (Token.evident_toString number)

theorem legible_hexWord (word : Word) : Legible [.literal (hexWord word)] :=
  .of_literal (readsBack_hexWord word) (evident_hexWord word)

/-- A named part can be printed if its value can. -/
theorem legible_member
    {name : String}
    (fixed : (plain name).isFixed = true)
    {value : List Token}
    (legible : Legible value) :
    Legible (member name value) := by
  have front : [plain name, .mark ':'].all Token.isFixed = true := by
    rw [List.all_cons, fixed]
    decide
  exact (Legible.of_isFixed front).append legible

/-- Lists can be printed with commas between them if all can. -/
theorem legible_commaSeparated
    {items : List (List Token)}
    (legible : ∀ item ∈ items, Legible item) :
    Legible (commaSeparated items) :=
  Legible.intercalate (.of_isFixed (by decide)) legible

/-- A named block can be printed if its parts can. -/
theorem legible_block
    {name : String}
    (fixed : (plain name).isFixed = true)
    {parts : List (List Token)}
    (legible : ∀ part ∈ parts, Legible part)
    (more : List Token)
    (moreFixed : more.all Token.isFixed = true) :
    Legible ([plain name, .opening .curly] ++ commaSeparated parts ++
      (more ++ [.closing .curly])) := by
  have front : Legible [plain name] := .of_isFixed (by rw [List.all_cons, fixed]; rfl)
  have inside := (legible_commaSeparated legible).append (.of_isFixed moreFixed)
  have block := front.append (inside.enclosed .curly)
  simpa only [List.append_assoc, List.cons_append, List.nil_append] using block

theorem legible_fieldTokens (field : Field 8) : Legible (fieldTokens field) := by
  have named : (plain "InsnField").isFixed = true := by decide
  unfold fieldTokens
  refine legible_block named ?_ [] rfl
  simp only [List.forall_mem_cons, List.not_mem_nil, false_imp_iff, implies_true, and_true]
  exact ⟨legible_member (by decide) (legible_quoted _),
    legible_member (by decide) (legible_toString _),
    legible_member (by decide) (legible_toString _)⟩

theorem legible_templateTokens (template : Template) : Legible (templateTokens template) := by
  have fields : Legible (commaSeparated (template.fields.map fieldTokens)) :=
    legible_commaSeparated (List.forall_mem_map.mpr fun field _ => legible_fieldTokens field)
  have reference : Legible [.mark '&'] := .of_isFixed (by decide)
  have truth : Legible [plain (if template.privileged then "true" else "false")] := by
    cases template.privileged <;> exact .of_isFixed (by decide)
  have named : (plain "Insn").isFixed = true := by decide
  have comma : [Token.mark ','].all Token.isFixed = true := by decide
  unfold templateTokens
  refine legible_block named ?_ [.mark ','] comma
  simp only [List.forall_mem_cons, List.not_mem_nil, false_imp_iff, implies_true, and_true]
  exact ⟨legible_member (by decide) (legible_quoted _),
    legible_member (by decide) (legible_quoted _),
    legible_member (by decide) (legible_quoted _),
    legible_member (by decide) (legible_hexWord _),
    legible_member (by decide) (legible_hexWord _),
    legible_member (by decide) (reference.append (fields.enclosed .square)),
    legible_member (by decide) truth⟩

/-- The tokens that bring names into scope can be printed. -/
theorem legible_useTokens : Legible useTokens := by
  have argument : Legible [plain "unused_imports"] := .of_isFixed (by decide)
  have allowance : Legible ([plain "allow"] ++ _) :=
    (Legible.of_isFixed (by decide)).append (argument.enclosed .round)
  have names : Legible
      [plain "Insn", .mark ',', plain "InsnField", .mark ',', plain "Registry"] :=
    .of_isFixed (by decide)
  have path : Legible [plain "use", plain "isa_gen_nostd", .mark ':', .mark ':'] :=
    .of_isFixed (by decide)
  have hash : Legible [.mark '#'] := .of_isFixed (by decide)
  have semicolon : Legible [.mark ';'] := .of_isFixed (by decide)
  exact hash.append ((allowance.enclosed .square).append
    (path.append ((names.enclosed .curly).append semicolon)))

theorem legible_tableTokens
    {table : Identifier}
    (identifier : Legible [identifierToken table])
    (templates : List Template) :
    Legible (tableTokens table templates) := by
  have entries : Legible (commaSeparated (templates.map templateTokens)) :=
    legible_commaSeparated (List.forall_mem_map.mpr fun template _ =>
      legible_templateTokens template)
  have front : Legible [plain "pub", plain "static"] := .of_isFixed (by decide)
  have colon : Legible [.mark ':'] := .of_isFixed (by decide)
  have element : Legible [plain "Insn", .mark ';'] := .of_isFixed (by decide)
  have equals : Legible [.mark '='] := .of_isFixed (by decide)
  have semicolon : Legible [.mark ';'] := .of_isFixed (by decide)
  have declared := front.append (identifier.append (colon.append
    ((element.append (legible_toString templates.length)).enclosed .square)))
  have value := equals.append ((entries.enclosed .square).append semicolon)
  unfold tableTokens
  simpa only [List.append_assoc, List.cons_append, List.nil_append] using declared.append value

/-- The function that registers a table can be printed. -/
theorem legible_registerTokens
    {table : Identifier}
    (identifier : Legible [identifierToken table]) :
    Legible (registerTokens table) := by
  have front : Legible [plain "pub", plain "fn", plain "register"] := .of_isFixed (by decide)
  have parameter : Legible
      [plain "registry", .mark ':', .mark '&', plain "mut", plain "Registry"] :=
    .of_isFixed (by decide)
  have callee : Legible [plain "registry", .mark '.', plain "register"] := .of_isFixed (by decide)
  have reference : Legible [.mark '&'] := .of_isFixed (by decide)
  have semicolon : Legible [.mark ';'] := .of_isFixed (by decide)
  have call := callee.append (((reference.append identifier).enclosed .round).append semicolon)
  exact front.append ((parameter.enclosed .round).append (call.enclosed .curly))

/-- A listing can be printed if its identifier can. -/
theorem legible_tokens
    {table : Identifier}
    (identifier : Legible [identifierToken table])
    (templates : List Template) :
    Legible (tokens table templates) :=
  (legible_useTokens.append (legible_tableTokens identifier templates)).append
    (legible_registerTokens identifier)

/-- An identifier that is accepted can be printed. -/
theorem legible_of_ofText
    {name : String}
    {table : Identifier}
    (accepted : Identifier.ofText name = .ok table) :
    Legible [identifierToken table] := by
  unfold Identifier.ofText at accepted
  split at accepted
  · contradiction
  · rename_i found cut
    unfold Identifier.ofTokens at accepted
    split at accepted
    · contradiction
    · rename_i raw word rest
      have wellSpelled := wellSpelled_of_tokens? cut List.mem_cons_self
      split at accepted
      · contradiction
      · split at accepted
        · injection accepted with same
          subst same
          exact .of_wellSpelled wellSpelled
        · contradiction
    · contradiction

end Listing
end InstructionTable
