import InstructionTable.Proofs.Lexical.Printed

/-!
# Bare texts

A bare text has no layout: no white space outside of its strings, and no comma in front of a bracket
that closes.  What is left of a text that renders some tokens depends on nothing but these tokens,
less the commas that trail in front of a closing bracket.  For this a token has to show what it is
by its characters outside of strings, as words, marks, brackets, strings and numbers do.
-/

namespace InstructionTable
namespace Lexical

/-! ## Trailing items of a list -/

/-- A list without those items to be dropped that stand right in front of one that closes. -/
def dropTrailing
    {Item : Type}
    (drops closes : Item → Bool) :
    List Item → List Item
  | [] => []
  | item :: rest =>
      if drops item && rest.head?.any closes then dropTrailing drops closes rest
      else item :: dropTrailing drops closes rest

section Trailing

variable {Item : Type} {drops closes : Item → Bool}

theorem dropTrailing_cons_of_neg
    {item : Item}
    (stays : drops item = false)
    (rest : List Item) :
    dropTrailing drops closes (item :: rest) = item :: dropTrailing drops closes rest := by
  rw [dropTrailing, stays, Bool.false_and, if_neg Bool.false_ne_true]

theorem dropTrailing_append_of_neg
    {front : List Item}
    (stay : ∀ item ∈ front, drops item = false)
    (rest : List Item) :
    dropTrailing drops closes (front ++ rest) = front ++ dropTrailing drops closes rest := by
  induction front with
  | nil => rfl
  | cons item more inductionHypothesis =>
      obtain ⟨first, others⟩ := List.forall_mem_cons.mp stay
      rw [List.cons_append, dropTrailing_cons_of_neg first, inductionHypothesis others]
      rfl

/-- What holds for no item to be dropped is found in a list as often as without trailing items. -/
theorem filter_dropTrailing
    (drops closes : Item → Bool)
    {check : Item → Bool}
    (exclusive : ∀ item, drops item = true → check item = false)
    (items : List Item) :
    (dropTrailing drops closes items).filter check = items.filter check := by
  induction items with
  | nil => rfl
  | cons item rest inductionHypothesis =>
      rw [dropTrailing]
      split
      · rename_i dropped
        rw [Bool.and_eq_true] at dropped
        rw [inductionHypothesis, List.filter_cons_of_neg (by simp [exclusive item dropped.1])]
      · rw [List.filter_cons, List.filter_cons, inductionHypothesis]

/-- A list has no items but those that are to be dropped and those it has without trailing ones. -/
theorem mem_dropTrailing_of_mem
    (drops closes : Item → Bool)
    {item : Item}
    {items : List Item}
    (member : item ∈ items) :
    drops item = true ∨ item ∈ dropTrailing drops closes items := by
  cases stays : drops item with
  | true => exact .inl rfl
  | false =>
      have kept : _ = items.filter fun item => !drops item :=
        filter_dropTrailing drops closes (by simp) items
      have found : item ∈ items.filter fun item => !drops item :=
        List.mem_filter.mpr ⟨member, by simp [stays]⟩
      rw [← kept] at found
      exact .inr (List.mem_of_mem_filter found)

/-- A list has all items that it has without trailing ones. -/
theorem mem_of_mem_dropTrailing
    {item : Item}
    {items : List Item}
    (member : item ∈ dropTrailing drops closes items) :
    item ∈ items := by
  induction items with
  | nil => contradiction
  | cons first rest inductionHypothesis =>
      rw [dropTrailing] at member
      split at member
      · exact List.mem_cons_of_mem _ (inductionHypothesis member)
      · obtain rfl | behind := List.mem_cons.mp member
        · exact List.mem_cons_self
        · exact List.mem_cons_of_mem _ (inductionHypothesis behind)

end Trailing

/-! ## Bare texts -/

/-- Where a character stands with respect to strings. -/
inductive Place where
  /-- Outside of all strings; a quote opens one. -/
  | outside
  /-- Inside a string; a quote closes it. -/
  | inside
  /-- Inside a string, behind a backslash. -/
  | escaped
deriving DecidableEq, Repr

/-- The place behind a character. -/
def Place.next : Place → Char → Place
  | outside, c => if c == '"' then inside else outside
  | inside, c => if c == '"' then outside else if c == '\\' then escaped else inside
  | escaped, _ => inside

/-- The place behind some characters. -/
def Place.behind
    (place : Place)
    (text : List Char) :
    Place :=
  text.foldl next place

/-- The characters of a text, each at its place, less the white space outside of strings. -/
def unspaced : Place → List Char → List (Place × Char)
  | _, [] => []
  | place, c :: rest =>
      if place == .outside && Unicode.isWhiteSpace c then unspaced (place.next c) rest
      else (place, c) :: unspaced (place.next c) rest

/-- Whether a character at its place is a comma between tokens. -/
def isOuterComma (placed : Place × Char) : Bool :=
  placed.1 == .outside && placed.2 == ','

/-- Whether a character at its place is a bracket that closes. -/
def isOuterClosing (placed : Place × Char) : Bool :=
  placed.1 == .outside && (Bracket.ofClosing? placed.2).isSome

/-- A text less its white space outside of strings and the commas in front of closing brackets. -/
def bareText (text : String) : String :=
  String.ofList
    ((dropTrailing isOuterComma isOuterClosing (unspaced .outside text.toList)).map Prod.snd)

/-- Whether a token is a comma. -/
def Token.isComma : Token → Bool
  | mark c => c == ','
  | _ => false

/-- Whether a token is a bracket that closes. -/
def Token.isClosing : Token → Bool
  | closing _ => true
  | _ => false

/-- Some tokens less the commas in front of closing brackets. -/
def withoutTrailing (tokens : List Token) : List Token :=
  dropTrailing Token.isComma Token.isClosing tokens

/-- The characters that a token leaves in a bare text, each at its place. -/
def Token.shown (token : Token) : List (Place × Char) :=
  unspaced .outside token.text.toList

theorem Token.eq_of_isComma
    {token : Token}
    (isComma : token.isComma = true) :
    token = .mark ',' := by
  cases token with
  | mark c => exact congrArg mark (eq_of_beq isComma)
  | _ => contradiction

/-- What holds for a comma and for all of some tokens holds for those with other trailing commas. -/
theorem forall_mem_of_withoutTrailing_eq
    {holds : Token → Prop}
    (comma : holds (.mark ','))
    {left right : List Token}
    (same : withoutTrailing left = withoutTrailing right)
    (all : ∀ token ∈ right, holds token) :
    ∀ token ∈ left, holds token := by
  intro token member
  obtain isComma | kept := mem_dropTrailing_of_mem Token.isComma Token.isClosing member
  · rw [Token.eq_of_isComma isComma]
    exact comma
  · change token ∈ withoutTrailing left at kept
    rw [same] at kept
    exact all token (mem_of_mem_dropTrailing kept)

/-- Brackets pair up whether or not there are trailing commas. -/
theorem pairsUp_withoutTrailing
    (opened : List Bracket)
    (tokens : List Token) :
    pairsUp opened (withoutTrailing tokens) = pairsUp opened tokens := by
  induction tokens generalizing opened with
  | nil => rfl
  | cons token rest inductionHypothesis =>
      rw [withoutTrailing] at inductionHypothesis ⊢
      rw [dropTrailing]
      split
      · rename_i dropped
        rw [Bool.and_eq_true] at dropped
        rw [Token.eq_of_isComma dropped.1, inductionHypothesis]
        simp [pairsUp]
      · cases token with
        | closing bracket => cases opened <;> simp [pairsUp, inductionHypothesis]
        | _ => simp [pairsUp, inductionHypothesis]

/-- A token shows what it is by its characters outside of strings. -/
structure Token.Evident (token : Token) : Prop where
  /-- It leaves no string open. -/
  closed : Place.outside.behind token.text.toList = .outside
  /-- It has no comma outside of strings unless it is one. -/
  comma : token.isComma = false → ∀ placed ∈ token.shown, isOuterComma placed = false
  /-- It begins with a closing bracket exactly if it is one. -/
  first : token.shown.head?.map isOuterClosing = some token.isClosing

/-- The place behind some characters and others is behind the others from behind the first. -/
theorem Place.behind_append
    (place : Place)
    (front back : List Char) :
    place.behind (front ++ back) = (place.behind front).behind back :=
  List.foldl_append

/-- A text less its white space has that of its front before that of its back. -/
theorem unspaced_append
    (place : Place)
    (front back : List Char) :
    unspaced place (front ++ back) =
      unspaced place front ++ unspaced (place.behind front) back := by
  induction front generalizing place with
  | nil => rfl
  | cons c rest inductionHypothesis =>
      rw [List.cons_append, unspaced, unspaced, inductionHypothesis]
      split <;> rfl

/-- A text that renders some tokens has, less its white space, what each token shows. -/
theorem Renders.unspaced
    {tokens : List Token}
    {text : List Char}
    (renders : Renders tokens text)
    (evident : ∀ token ∈ tokens, token.Evident) :
    unspaced .outside text = tokens.flatMap Token.shown := by
  induction renders with
  | nil => rfl
  | @blank tokens text c white _ inductionHypothesis =>
      have noQuote : (c == '"') = false := by
        apply beq_eq_false_iff_ne.mpr
        rintro rfl
        contradiction
      rw [Lexical.unspaced, white, Place.next, noQuote]
      exact inductionHypothesis evident
  | @token token tokens text _ _ inductionHypothesis =>
      obtain ⟨first, others⟩ := List.forall_mem_cons.mp evident
      rw [unspaced_append, first.closed, inductionHypothesis others, List.flatMap_cons]
      rfl

/-- What some tokens show begins with a closing bracket exactly if the first token is one. -/
theorem any_head?_flatMap_shown
    {tokens : List Token}
    (evident : ∀ token ∈ tokens, token.Evident) :
    (tokens.flatMap Token.shown).head?.any isOuterClosing =
      tokens.head?.any Token.isClosing := by
  cases tokens with
  | nil => rfl
  | cons token rest =>
      have first := (evident token List.mem_cons_self).first
      cases shape : token.shown with
      | nil =>
          rw [shape] at first
          contradiction
      | cons placed tail =>
          rw [shape] at first
          simpa [shape] using first

/-- Where tokens show what they are, the trailing commas are those among the tokens. -/
theorem dropTrailing_flatMap_shown
    {tokens : List Token}
    (evident : ∀ token ∈ tokens, token.Evident) :
    dropTrailing isOuterComma isOuterClosing (tokens.flatMap Token.shown) =
      (withoutTrailing tokens).flatMap Token.shown := by
  induction tokens with
  | nil => rfl
  | cons token rest inductionHypothesis =>
      obtain ⟨first, others⟩ := List.forall_mem_cons.mp evident
      have behind := inductionHypothesis others
      rw [List.flatMap_cons, withoutTrailing]
      cases isComma : token.isComma with
      | true =>
          -- a comma is one character, and it is dropped for what follows it
          obtain rfl := Token.eq_of_isComma isComma
          change dropTrailing _ _ ((.outside, ',') :: rest.flatMap Token.shown) = _
          rw [dropTrailing, dropTrailing, any_head?_flatMap_shown others, behind]
          cases rest.head?.any Token.isClosing <;> rfl
      | false =>
          rw [dropTrailing_append_of_neg (first.comma isComma), dropTrailing_cons_of_neg isComma,
            behind]
          rfl

/-- What is bare of a text that renders some tokens are these tokens less their trailing commas. -/
theorem Renders.bareText
    {tokens : List Token}
    {text : String}
    (renders : Renders tokens text.toList)
    (evident : ∀ token ∈ tokens, token.Evident) :
    bareText text =
      String.ofList (((withoutTrailing tokens).flatMap Token.shown).map Prod.snd) := by
  rw [Lexical.bareText, renders.unspaced evident, dropTrailing_flatMap_shown evident]

/-! ## Tokens that are evident -/

namespace Token

/-- Outside of strings, characters that open none are left, except for white space. -/
theorem unspaced_of_noQuote
    {text : List Char}
    (noQuote : '"' ∉ text) :
    Place.outside.behind text = .outside ∧
      unspaced .outside text =
        (text.filter fun c => !Unicode.isWhiteSpace c).map fun c => (.outside, c) := by
  induction text with
  | nil => exact ⟨rfl, rfl⟩
  | cons c rest inductionHypothesis =>
      rw [List.mem_cons, not_or] at noQuote
      obtain ⟨behind, unspacedRest⟩ := inductionHypothesis noQuote.2
      have next : Place.outside.next c = .outside := by
        rw [Place.next, if_neg]
        simpa using Ne.symm noQuote.1
      refine ⟨?_, ?_⟩
      · rw [Place.behind, List.foldl_cons, next]
        exact behind
      · rw [unspaced, next, unspacedRest, List.filter_cons]
        cases Unicode.isWhiteSpace c <;> rfl

/-- The characters that a token without strings has nowhere if it is no comma. -/
def outerMarks : List Char :=
  ['"', ',']

/-- A token without quotes and commas is evident if its first character tells whether it closes. -/
theorem evident_of_first
    {token : Token}
    {c : Char}
    {more : List Char}
    (written : token.text.toList = c :: more)
    (plain : ∀ other ∈ c :: more, other ∉ outerMarks)
    (shown : Unicode.isWhiteSpace c = false)
    (closes : (Bracket.ofClosing? c).isSome = token.isClosing) :
    token.Evident := by
  simp only [outerMarks, List.mem_cons, List.not_mem_nil, or_false, not_or] at plain
  have noQuote : '"' ∉ c :: more := fun member =>
    (plain '"' (by simpa using member)).1 rfl
  obtain ⟨behind, all⟩ := unspaced_of_noQuote noQuote
  refine { closed := ?_, comma := ?_, first := ?_ }
  · rw [written, behind]
  · intro _ placed member
    rw [Token.shown, written, all] at member
    obtain ⟨other, found, rfl⟩ := List.mem_map.mp member
    have noComma := (plain other (by simpa using List.mem_of_mem_filter found)).2
    simp [isOuterComma, noComma]
  · rw [Token.shown, written, all, List.filter_cons_of_pos (by simp [shown])]
    simp [isOuterClosing, closes]

/-- A word that is well spelled is evident. -/
theorem WellSpelled.evident
    {raw : Bool}
    {name : String}
    (wellSpelled : (word raw name).WellSpelled) :
    (word raw name).Evident := by
  obtain ⟨c, more, same, begins, continues⟩ := wellSpelled.1.exists_eq_cons
  have plain : ∀ other ∈ c :: more, other ∉ outerMarks := by
    have nowhere : outerMarks.all (fun other => !continuesWord other) = true := by decide +kernel
    refine List.forall_mem_cons.mpr ⟨?_, ?_⟩
    · exact not_mem_of_passes (continuesWord_of_beginsWord begins) nowhere
    · exact fun other member =>
        not_mem_of_passes (List.all_eq_true.mp continues other member) nowhere
  cases raw with
  | false =>
      have notBlank := isBlank_eq_false_of_beginsWord begins
      simp only [isBlank, Bool.or_eq_false_iff] at notBlank
      have noBracket := not_mem_of_passes begins (show bracketFronts.all _ = true by decide)
      exact evident_of_first (by simpa [text] using same) plain notBlank.1.1
        (by rw [ofClosing?_eq_none noBracket]; rfl)
  | true =>
      have marked : (word true name).text.toList = 'r' :: '#' :: name.toList := by simp [text]
      refine evident_of_first marked ?_ (by decide) rfl
      rw [same]
      exact List.forall_mem_cons.mpr ⟨by decide, List.forall_mem_cons.mpr ⟨by decide, plain⟩⟩

theorem evident_opening (bracket : Bracket) : (opening bracket).Evident := by
  have written : (opening bracket).text.toList = [bracket.opening] := by
    rw [text, String.toList_ofList]
  cases bracket <;>
    exact evident_of_first written (List.forall_mem_singleton.mpr (by decide)) (by decide) rfl

theorem evident_closing (bracket : Bracket) : (closing bracket).Evident := by
  have written : (closing bracket).text.toList = [bracket.closing] := by
    rw [text, String.toList_ofList]
  cases bracket <;>
    exact evident_of_first written (List.forall_mem_singleton.mpr (by decide)) (by decide) rfl

/-- A mark is evident, if it begins neither a comment nor a label. -/
theorem evident_mark
    {c : Char}
    (member : c ∈ plainMarks) :
    (mark c).Evident := by
  by_cases comma : c = ','
  · subst comma
    exact { closed := by decide, comma := fun other => absurd other (by decide), first := rfl }
  · have others : plainMarks.all (fun c => c == ',' || (!outerMarks.contains c &&
        !Unicode.isWhiteSpace c && (Bracket.ofClosing? c).isNone)) = true := by decide
    have other := List.all_eq_true.mp others c member
    simp only [Bool.or_eq_true, beq_iff_eq, comma, false_or, Bool.and_eq_true, Bool.not_eq_true',
      List.contains_eq_mem, decide_eq_false_iff_not, Option.isNone_iff_eq_none] at other
    obtain ⟨⟨plain, shown⟩, closes⟩ := other
    exact evident_of_first (by rw [text, String.toList_ofList]) (by simpa using plain) shown
      (by rw [closes]; rfl)

theorem evident_toString (number : Nat) : (literal (toString number)).Evident := by
  obtain ⟨first, more, written, digit⟩ := exists_toList_toString number
  have plain : ∀ other ∈ first :: more, other ∉ outerMarks := by
    intro other member
    simpa using check_of_isDigit (digit other member) (fun c => !outerMarks.contains c) (by decide)
  have isDigit := digit first List.mem_cons_self
  have shown := check_of_isDigit isDigit (fun c => !Unicode.isWhiteSpace c) (by decide)
  have closes := check_of_isDigit isDigit (fun c => (Bracket.ofClosing? c).isNone) (by decide)
  exact evident_of_first written plain (by simpa using shown)
    (by rw [Option.isNone_iff_eq_none.mp closes]; rfl)

end Token

/-! ## Texts in quotes -/

/-- A text that stands in a string does not end it. -/
structure StaysInside (text : List Char) : Prop where
  /-- The string goes on behind it. -/
  behind : Place.inside.behind text = .inside
  /-- All of it is in the string. -/
  within : ∀ placed ∈ unspaced .inside text, placed.1 ≠ .outside

theorem StaysInside.append
    {front back : List Char}
    (frontStays : StaysInside front)
    (backStays : StaysInside back) :
    StaysInside (front ++ back) where
  behind := by rw [Place.behind_append, frontStays.behind, backStays.behind]
  within := by
    rw [unspaced_append, frontStays.behind]
    exact List.forall_mem_append.mpr ⟨frontStays.within, backStays.within⟩

/-- A text without special characters stays in a string. -/
theorem staysInside_of_plain
    {text : List Char}
    (plain : ∀ c ∈ text, c ∉ ['"', '\\', '\r']) :
    StaysInside text := by
  induction text with
  | nil => exact { behind := rfl, within := by simp [unspaced] }
  | cons c rest inductionHypothesis =>
      obtain ⟨first, others⟩ := List.forall_mem_cons.mp plain
      simp only [List.mem_cons, List.not_mem_nil, or_false, not_or] at first
      have next : Place.inside.next c = .inside := by simp [Place.next, first]
      have single : StaysInside [c] :=
        { behind := next, within := by simp [unspaced] }
      exact single.append (inductionHypothesis others)

/-- However a character is written in a string, it stays there. -/
theorem Writes.staysInside
    {c : Char}
    {written : List Char}
    (writes : Writes c written) :
    StaysInside written := by
  have escaped (letter : Char) : StaysInside ['\\', letter] :=
    { behind := rfl, within := by simp [unspaced, Place.next] }
  cases writes with
  | letter => exact escaped _
  | @byte high low _ value =>
      have digits : ∀ digit ∈ [high, low], digit ∉ ['"', '\\', '\r'] := by
        unfold byteValue? at value
        split at value
        · rename_i first second
          have isDigit {digit : Char} {number : Nat} (read : hexDigit? digit = some number) :
              IsDigitOf (number + 1) digit := ⟨number, Nat.lt_succ_self number, read⟩
          simp only [List.forall_mem_cons, List.not_mem_nil, false_imp_iff, implies_true, and_true]
          exact ⟨(isDigit first).not_mem (by decide), (isDigit second).not_mem (by decide)⟩
        · contradiction
      exact (escaped 'x').append (staysInside_of_plain digits)
  | number =>
      exact (escaped 'u').append (staysInside_of_plain fun _ => plain_of_mem_braces)
  | itself plain => exact staysInside_of_plain (List.forall_mem_singleton.mpr plain)

/-- A text in quotes stays in its string up to the closing quote. -/
theorem staysInside_escape
    (style : Text.QuoteStyle)
    (text : List Char) :
    StaysInside (style.escape text) := by
  induction text with
  | nil => exact { behind := rfl, within := by simp [Text.QuoteStyle.escape, unspaced] }
  | cons c rest inductionHypothesis =>
      obtain ⟨written, writes, escaped⟩ := exists_escape_cons style c rest
      rw [escaped]
      exact writes.staysInside.append inductionHypothesis

/-- A text in quotes is evident. -/
theorem Token.evident_quote
    (style : Text.QuoteStyle)
    (text : String) :
    (literal (style.quote text)).Evident := by
  have inside := staysInside_escape style text.toList
  have shown : (literal (style.quote text)).shown = (.outside, '"') ::
      (unspaced .inside (style.escape text.toList) ++ [(.inside, '"')]) := by
    rw [Token.shown, Token.text, toList_quote]
    change (.outside, '"') :: unspaced .inside (style.escape text.toList ++ ['"']) = _
    rw [unspaced_append, inside.behind]
    rfl
  refine { closed := ?_, comma := fun _ => ?_, first := ?_ }
  · rw [Token.text, toList_quote]
    change Place.inside.behind (style.escape text.toList ++ ['"']) = .outside
    rw [Place.behind_append, inside.behind]
    rfl
  · rw [shown]
    simp only [List.forall_mem_cons, List.forall_mem_append, List.not_mem_nil, false_imp_iff,
      implies_true, and_true]
    refine ⟨rfl, fun placed member => ?_, rfl⟩
    simp [isOuterComma, inside.within placed member]
  · rw [shown]
    rfl

end Lexical
end InstructionTable
