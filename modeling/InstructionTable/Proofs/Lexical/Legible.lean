import InstructionTable.Proofs.Lexical.Bare

/-!
# Tokens that can be printed

Tokens can be printed if their text says which they are: each of them is read back and shows what it
is, and their brackets pair up.  Parts that can be printed make up lists and blocks that can be.
-/

namespace InstructionTable
namespace Lexical

/--
Tokens that are read back and evident, and whose brackets pair up whatever is open around them.
-/
structure Legible (tokens : List Token) : Prop where
  /-- Each token is read as itself. -/
  readBack : ∀ token ∈ tokens, token.ReadsBack
  /-- Each token shows what it is. -/
  evident : ∀ token ∈ tokens, token.Evident
  /-- No bracket is left open, and none is closed that was open before. -/
  paired : ∀ opened rest, pairsUp opened (tokens ++ rest) = pairsUp opened rest

/-- Whether a token is a word or a mark that is read as itself. -/
def Token.isFixed : Token → Bool
  | .word raw name => !raw && name.toList.head?.any beginsWord && name.toList.tail.all continuesWord
  | .mark c => plainMarks.contains c
  | _ => false

namespace Legible

/-- A token that is read back and evident and is no bracket can be printed. -/
theorem of_readsBack
    {token : Token}
    (readsBack : token.ReadsBack)
    (evident : token.Evident)
    (noOpening : ∀ bracket, token ≠ .opening bracket)
    (noClosing : ∀ bracket, token ≠ .closing bracket) :
    Legible [token] where
  readBack := by
    intro other member
    rwa [List.mem_singleton.mp member]
  evident := by
    intro other member
    rwa [List.mem_singleton.mp member]
  paired := by
    intro opened rest
    cases token with
    | opening bracket => exact absurd rfl (noOpening bracket)
    | closing bracket => exact absurd rfl (noClosing bracket)
    | _ => simp [pairsUp]

theorem of_wellSpelled
    {raw : Bool}
    {name : String}
    (wellSpelled : (Token.word raw name).WellSpelled) :
    Legible [.word raw name] :=
  of_readsBack wellSpelled.readsBack wellSpelled.evident (by simp) (by simp)

theorem of_literal
    {text : String}
    (readsBack : (Token.literal text).ReadsBack)
    (evident : (Token.literal text).Evident) :
    Legible [.literal text] :=
  of_readsBack readsBack evident (by simp) (by simp)

/-- Tokens with others behind them can be printed if both can. -/
theorem append
    {front back : List Token}
    (frontLegible : Legible front)
    (backLegible : Legible back) :
    Legible (front ++ back) where
  readBack := List.forall_mem_append.mpr ⟨frontLegible.readBack, backLegible.readBack⟩
  evident := List.forall_mem_append.mpr ⟨frontLegible.evident, backLegible.evident⟩
  paired := by
    intro opened rest
    rw [List.append_assoc, frontLegible.paired, backLegible.paired]

/-- Words and marks can be printed. -/
theorem of_isFixed
    {tokens : List Token}
    (fixed : tokens.all Token.isFixed = true) :
    Legible tokens := by
  induction tokens with
  | nil => exact { readBack := by simp, evident := by simp, paired := fun _ _ => rfl }
  | cons token rest inductionHypothesis =>
      rw [List.all_cons, Bool.and_eq_true] at fixed
      refine (show Legible [token] from ?_).append (inductionHypothesis fixed.2)
      have isFixed := fixed.1
      cases token with
      | word raw name =>
          simp only [Token.isFixed, Bool.and_eq_true, Bool.not_eq_true'] at isFixed
          obtain ⟨⟨notRaw, begins⟩, continues⟩ := isFixed
          exact of_wellSpelled ⟨{ begins := begins, continues := continues }, by simp [notRaw]⟩
      | mark c =>
          have member := List.contains_iff_mem.mp isFixed
          exact of_readsBack (Token.readsBack_mark member) (Token.evident_mark member) (by simp)
            (by simp)
      | _ => contradiction

/-- Tokens in brackets of one kind can be printed if those inside can. -/
theorem enclosed
    {tokens : List Token}
    (legible : Legible tokens)
    (bracket : Bracket) :
    Legible ([.opening bracket] ++ tokens ++ [.closing bracket]) where
  readBack := by
    simp only [List.forall_mem_append, List.forall_mem_singleton]
    exact ⟨⟨Token.readsBack_opening bracket, legible.readBack⟩, Token.readsBack_closing bracket⟩
  evident := by
    simp only [List.forall_mem_append, List.forall_mem_singleton]
    exact ⟨⟨Token.evident_opening bracket, legible.evident⟩, Token.evident_closing bracket⟩
  paired := by
    intro opened rest
    rw [List.append_assoc, List.append_assoc, List.singleton_append, pairsUp, legible.paired,
      List.singleton_append, pairsUp, beq_self_eq_true, Bool.true_and]

/-- Lists of tokens can be printed with others between them if all can. -/
theorem intercalate
    {separator : List Token}
    (separatorLegible : Legible separator)
    {items : List (List Token)}
    (legible : ∀ item ∈ items, Legible item) :
    Legible (separator.intercalate items) := by
  induction items with
  | nil => exact of_isFixed rfl
  | cons item rest inductionHypothesis =>
      have first := legible item List.mem_cons_self
      have others := inductionHypothesis fun other member =>
        legible other (List.mem_cons_of_mem item member)
      cases rest with
      | nil => rwa [List.intercalate_singleton]
      | cons next more =>
          rw [List.intercalate_cons_cons]
          exact (first.append separatorLegible).append others

end Legible

theorem Legible.pairsUp
    {tokens : List Token}
    (legible : Legible tokens) :
    pairsUp [] tokens = true := by
  have paired := legible.paired [] []
  rwa [List.append_nil] at paired

/-- The text of tokens that can be printed has the same tokens. -/
theorem Legible.tokens?_print
    {tokens : List Token}
    (legible : Legible tokens) :
    tokens? (print tokens) = some tokens :=
  (renders_print tokens).tokens? legible.readBack legible.pairsUp

end Lexical
end InstructionTable
