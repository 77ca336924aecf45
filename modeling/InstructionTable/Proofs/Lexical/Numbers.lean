import InstructionTable.Proofs.Lexical.Characters
import Mathlib.Tactic.IntervalCases

/-!
# Numbers as tokens

A number stands for the value of its digits in its base.  The numerals of a number in base ten are
read back as one token up to a separator, and they stand for the number.
-/

namespace InstructionTable
namespace Lexical

/-- The value of some digits behind others with the given value; underscores count for nothing. -/
def digitsValue? (base value : Nat) : List Char → Option Nat
  | [] => some value
  | c :: rest =>
      if c == '_' then
        digitsValue? base value rest
      else
        match hexDigit? c with
        | some digit => if digit < base then digitsValue? base (base * value + digit) rest else none
        | none => none

/-- The number that an integer literal stands for, if no type is written behind it. -/
def numberValue? (text : String) : Option Nat :=
  digitsValue? (readBase text.toList).1 0 (readBase text.toList).2

/-! ## Digits -/

/-- What holds for each decimal digit holds for any. -/
theorem check_of_isDigit
    {c : Char}
    (digit : c.isDigit = true)
    (check : Char → Bool)
    (accepted : ['0', '1', '2', '3', '4', '5', '6', '7', '8', '9'].all check = true) :
    check c = true := by
  apply List.all_eq_true.mp accepted
  obtain ⟨lower, upper⟩ := Char.isDigit_iff_toNat.mp digit
  simp only [Char.reduceToNat] at lower upper
  rw [← Char.ofNat_toNat c]
  generalize c.toNat = code at lower upper
  interval_cases code <;> decide

/-- A character is a digit of a base. -/
def IsDigitOf
    (base : Nat)
    (c : Char) : Prop :=
  ∃ digit < base, hexDigit? c = some digit

/-- Each character that is printed for a digit is read as that digit. -/
theorem hexDigit?_digitChar
    {digit : Nat}
    (small : digit < 16) :
    hexDigit? digit.digitChar = some digit := by
  interval_cases digit <;> rfl

/-- The digits of a number in a base are digits of it. -/
theorem isDigitOf_of_mem_toDigits
    {base : Nat}
    (proper : 1 < base)
    (known : base ≤ 16)
    {number : Nat}
    {c : Char}
    (member : c ∈ Nat.toDigits base number) :
    IsDigitOf base c := by
  induction number using Nat.strongRecOn with
  | ind number inductionHypothesis =>
      obtain small | large := Nat.lt_or_ge number base
      · rw [Nat.toDigits_of_lt_base small, List.mem_singleton] at member
        subst member
        exact ⟨number, small, hexDigit?_digitChar (by omega)⟩
      · rw [Nat.toDigits_of_base_le proper large, List.mem_append, List.mem_singleton] at member
        obtain front | rfl := member
        · exact inductionHypothesis _ (Nat.div_lt_self (by omega) proper) front
        · have below := Nat.mod_lt number (show 0 < base by omega)
          exact ⟨number % base, below, hexDigit?_digitChar (by omega)⟩

theorem IsDigitOf.not_mem
    {base : Nat}
    {c : Char}
    (digit : IsDigitOf base c)
    {others : List Char}
    (nowhere : others.all (fun other => !(hexDigit? other).isSome) = true) :
    c ∉ others := by
  obtain ⟨_, _, read⟩ := digit
  exact not_mem_of_passes (Option.isSome_of_eq_some read) nowhere

theorem IsDigitOf.beq_underscore
    {base : Nat}
    {c : Char}
    (digit : IsDigitOf base c) :
    (c == '_') = false :=
  beq_eq_false_iff_ne.mpr (by simpa using digit.not_mem (show ['_'].all _ = true by decide))

/-- A number in base ten is written in decimal digits, of which there is at least one. -/
theorem exists_toList_toString (number : Nat) :
    ∃ first more, (toString number).toList = first :: more ∧
      ∀ c ∈ first :: more, c.isDigit = true := by
  obtain ⟨first, more, shape⟩ := List.exists_cons_of_ne_nil
    (Nat.toDigits_ne_nil (b := 10) (n := number))
  refine ⟨first, more, ?_, ?_⟩
  · rw [Nat.toString_eq_ofList_toDigits, String.toList_ofList, shape]
  · rw [← shape]
    exact fun c member => Nat.isDigit_of_mem_toDigits (by decide) (by decide) member

theorem hexDigit?_eq_none_of_isSeparator
    {c : Char}
    (separator : isSeparator c = true) :
    hexDigit? c = none := by
  have noDigit : (hexDigit? c).isSome = false :=
    eq_false_of_isSeparator separator (fun c => (hexDigit? c).isSome) (by decide)
  exact Option.isNone_iff_eq_none.mp (Option.isSome_eq_false_iff.mp noDigit)

theorem digitsValue?_append
    {base value : Nat}
    {front back : List Char} :
    digitsValue? base value (front ++ back) =
      (digitsValue? base value front).bind (digitsValue? base · back) := by
  fun_induction digitsValue? base value front <;> simp_all [digitsValue?]

/-- The digits of a number in a base have its value. -/
theorem digitsValue?_toDigits
    {base : Nat}
    (proper : 1 < base)
    (known : base ≤ 16)
    (number : Nat) :
    digitsValue? base 0 (Nat.toDigits base number) = some number := by
  have single {digit : Nat} (small : digit < base) (value : Nat) :
      digitsValue? base value [digit.digitChar] = some (base * value + digit) := by
    have read := hexDigit?_digitChar (show digit < 16 by omega)
    have notUnderscore := IsDigitOf.beq_underscore ⟨digit, small, read⟩
    simp [digitsValue?, notUnderscore, read, small]
  induction number using Nat.strongRecOn with
  | ind number inductionHypothesis =>
      obtain small | large := Nat.lt_or_ge number base
      · rw [Nat.toDigits_of_lt_base small, single small, Nat.mul_zero, Nat.zero_add]
      · rw [Nat.toDigits_of_base_le proper large, digitsValue?_append,
          inductionHypothesis _ (Nat.div_lt_self (by omega) proper)]
        change digitsValue? base (number / base) [(number % base).digitChar] = some number
        rw [single (Nat.mod_lt number (by omega)), Nat.div_add_mod]

/-! ## Numerals up to a separator -/

section Separated

variable {rest : List Char}

/-- Nothing belongs to a number whose last digit a separator follows. -/
theorem endNumber?_of_isSeparated (separated : isSeparated rest = true) :
    endNumber? rest = some rest := by
  rw [endNumber?, skipWord_of_isSeparated separated]
  cases rest with
  | nil => rfl
  | cons c tail =>
      simp [continuesWord_eq_false_of_isSeparator separated]

/-- The digits of a number are read up to the separator behind them. -/
theorem skipDigits?_append
    {base : Nat}
    {digits : List Char}
    (all : ∀ c ∈ digits, IsDigitOf base c)
    {started : Bool}
    (any : started = true ∨ digits ≠ [])
    (separated : isSeparated rest = true) :
    skipDigits? base started (digits ++ rest) = some rest := by
  induction digits generalizing started with
  | nil =>
      have isStarted : started = true := any.resolve_right (absurd rfl)
      subst isStarted
      cases rest with
      | nil => rfl
      | cons c tail =>
          have notUnderscore : (c == '_') = false :=
            eq_false_of_isSeparator separated (· == '_') (by decide)
          rw [List.nil_append, skipDigits?, notUnderscore,
            hexDigit?_eq_none_of_isSeparator separated]
          rfl
  | cons c more inductionHypothesis =>
      obtain ⟨digit, small, read⟩ := all c List.mem_cons_self
      have others := fun other member => all other (List.mem_cons_of_mem c member)
      rw [List.cons_append, skipDigits?, (all c List.mem_cons_self).beq_underscore, read]
      simp only [Bool.false_eq_true, if_false, if_pos small]
      exact inductionHypothesis others (.inl rfl)

theorem skipQuoted?_of_isDigit
    {c : Char}
    (digit : c.isDigit = true)
    (tail : List Char) :
    skipQuoted? (c :: tail) = none := by
  apply skipQuoted?_eq_none
  have other := check_of_isDigit digit
    (fun c => !quoteFronts.contains c) (by decide)
  simpa using other

/-- What holds for each separator holds for the first character of a separated text. -/
theorem head?_all_of_isSeparated
    (separated : isSeparated rest = true)
    (check : Char → Bool)
    (accepted : separators.all check = true) :
    rest.head?.all check = true := by
  cases rest with
  | nil => rfl
  | cons c tail => exact List.all_eq_true.mp accepted c (List.contains_iff_mem.mp separated)

/-- Digits with no point and no exponent behind them are no decimal. -/
theorem skipDecimal?_eq_none_of_behind
    {text : List Char}
    (behind : (text.dropWhile isDigitOrUnderscore).head?.all
      (fun c => c != '.' && c != 'e' && c != 'E') = true) :
    skipDecimal? text = none := by
  have noTail (behind : List Char)
      (plain : behind.head?.all (fun c => c != '.' && c != 'e' && c != 'E') = true) :
      skipDecimalTail? none behind = none := by
    cases behind with
    | nil => rfl
    | cons c tail => simp_all [skipDecimalTail?]
  have noDigits : skipDecimalDigits? text = none := by
    unfold skipDecimalDigits?
    split
    · rfl
    · split
      · rfl
      · split
        · rename_i point
          rw [point] at behind
          contradiction
        · exact noTail _ behind
  rw [skipDecimal?, noDigits]
  rfl

/-- Without the letter of a base behind its first digit, a number is in base ten. -/
theorem readBase_of_plain
    {text : List Char}
    (plain : text.tail.head?.all (fun c => c != 'x' && c != 'o' && c != 'b') = true) :
    readBase text = (10, text) := by
  unfold readBase
  split <;> simp_all

/-- The digits of a number in base ten are in that base, whatever separator follows them. -/
theorem readBase_toDigits
    (number : Nat)
    (separated : isSeparated rest = true) :
    readBase (Nat.toDigits 10 number ++ rest) = (10, Nat.toDigits 10 number ++ rest) := by
  apply readBase_of_plain
  obtain ⟨first, more, shape⟩ :=
    List.exists_cons_of_ne_nil (Nat.toDigits_ne_nil (b := 10) (n := number))
  rw [shape, List.cons_append, List.tail_cons]
  cases more with
  | nil => exact head?_all_of_isSeparated separated _ (by decide)
  | cons second others =>
      have digit : second.isDigit = true :=
        Nat.isDigit_of_mem_toDigits (b := 10) (n := number) (by decide) (by decide)
          (by simp [shape])
      exact check_of_isDigit digit (fun c => c != 'x' && c != 'o' && c != 'b') (by decide)

/-- A number in base ten is read up to the separator behind it, if that is no point. -/
theorem skipLiteral?_toDigits
    (number : Nat)
    (separated : isSeparated rest = true)
    (noPoint : rest.head? ≠ some '.') :
    skipLiteral? (Nat.toDigits 10 number ++ rest) = some rest := by
  have digits : ∀ c ∈ Nat.toDigits 10 number, c.isDigit = true :=
    fun c member => Nat.isDigit_of_mem_toDigits (by decide) (by decide) member
  have noQuoted : skipQuoted? (Nat.toDigits 10 number ++ rest) = none := by
    cases shape : Nat.toDigits 10 number with
    | nil => exact absurd shape Nat.toDigits_ne_nil
    | cons c more =>
        exact skipQuoted?_of_isDigit (digits c (shape ▸ List.mem_cons_self)) (more ++ rest)
  have noDecimal : skipDecimal? (Nat.toDigits 10 number ++ rest) = none := by
    apply skipDecimal?_eq_none_of_behind
    have behind : rest.dropWhile isDigitOrUnderscore = rest := by
      cases rest with
      | nil => rfl
      | cons separator tail =>
          exact List.dropWhile_cons_of_neg
            (Bool.eq_false_iff.mp
              (eq_false_of_isSeparator separated isDigitOrUnderscore (by decide)))
    rw [List.dropWhile_append_of_pos (by simp_all [isDigitOrUnderscore]), behind]
    have noExponent :=
      head?_all_of_isSeparated separated (fun c => c != 'e' && c != 'E') (by decide)
    cases rest with
    | nil => rfl
    | cons separator tail => simp_all
  have integer : skipInteger? (Nat.toDigits 10 number ++ rest) = some rest := by
    rw [skipInteger?, readBase_toDigits number separated]
    dsimp only
    rw [skipDigits?_append (fun c => isDigitOf_of_mem_toDigits (by decide) (by decide))
      (.inr Nat.toDigits_ne_nil) separated]
    exact endNumber?_of_isSeparated separated
  rw [skipLiteral?, noQuoted, noDecimal, integer]
  rfl

end Separated

theorem numberValue?_toString (number : Nat) : numberValue? (toString number) = some number := by
  have base : readBase (Nat.toDigits 10 number ++ []) = _ := readBase_toDigits number rfl
  rw [List.append_nil] at base
  rw [numberValue?, Nat.toString_eq_ofList_toDigits, String.toList_ofList, base]
  change digitsValue? 10 0 (Nat.toDigits 10 number) = some number
  exact digitsValue?_toDigits (by decide) (by decide) number

end Lexical
end InstructionTable
