/-!
# Decimals

A number of the binary64 format is written as a decimal that reads back as that number.
-/

namespace InstructionTable
namespace Decimal

/-!
## Numbers of the binary64 format

A number of this format is a significand of at most 53 bits times a power of two.  Sums of digits
are rounded to it as the format asks: to the nearest number, and half way to the even significand.
All arithmetic is exact, on numerators and denominators.
-/

/-- A quotient rounded to the nearest number; half way it goes to the even one. -/
def roundHalfEven (numerator denominator : Nat) : Nat :=
  let quotient := numerator / denominator
  let twice := 2 * (numerator % denominator)
  if twice < denominator || (twice == denominator && quotient % 2 == 0) then
    quotient
  else
    quotient + 1

/-- A finite number of the format that is not negative: `significand * 2 ^ exponent`. -/
structure Binary64 where
  significand : Nat
  exponent : Int
deriving DecidableEq, Repr

namespace Binary64

/-- The exponent of the smallest numbers. -/
def lowestExponent : Int := -1074

/-- The exponent of the largest numbers. -/
def highestExponent : Int := 971

/-- The smallest significand with all its bits. -/
def leadingBit : Nat := 0x10000000000000

/-- Zero. -/
def zero : Binary64 := { significand := 0, exponent := lowestExponent }

/-- A quotient divided by a power of two, as a numerator and a denominator. -/
def dividePower (numerator denominator : Nat) : Int → Nat × Nat
  | .ofNat power => (numerator, denominator * Nat.pow 2 power)
  | .negSucc power => (numerator * Nat.pow 2 (power + 1), denominator)

/-- The exponent with which a quotient that is not zero has a significand of 53 bits. -/
def exponentOf (numerator denominator : Nat) : Int :=
  let guess : Int := (Nat.log2 numerator : Int) - (Nat.log2 denominator : Int) - 52
  let (scaledNumerator, scaledDenominator) := dividePower numerator denominator guess
  let fitted := if scaledNumerator < leadingBit * scaledDenominator then guess - 1 else guess
  if fitted < lowestExponent then lowestExponent else fitted

/-- The number nearest to a quotient, unless that is beyond the largest number. -/
def ofRatio? (numerator denominator : Nat) : Option Binary64 :=
  if numerator == 0 then
    some zero
  else
    let exponent := exponentOf numerator denominator
    let (scaledNumerator, scaledDenominator) := dividePower numerator denominator exponent
    let rounded := roundHalfEven scaledNumerator scaledDenominator
    let number : Binary64 :=
      if rounded == 2 * leadingBit then
        { significand := leadingBit, exponent := exponent + 1 }
      else
        { significand := rounded, exponent := exponent }
    if highestExponent < number.exponent then none else some number

/-- The number as a numerator and a denominator. -/
def toRatio (number : Binary64) : Nat × Nat :=
  dividePower number.significand 1 (-number.exponent)

/-- The number nearest to a product. -/
def multiply? (left right : Binary64) : Option Binary64 :=
  let (leftNumerator, leftDenominator) := left.toRatio
  let (rightNumerator, rightDenominator) := right.toRatio
  ofRatio? (leftNumerator * rightNumerator) (leftDenominator * rightDenominator)

/-- The number nearest to a quotient. -/
def divide? (left right : Binary64) : Option Binary64 :=
  let (leftNumerator, leftDenominator) := left.toRatio
  let (rightNumerator, rightDenominator) := right.toRatio
  ofRatio? (leftNumerator * rightDenominator) (leftDenominator * rightNumerator)

end Binary64

/-!
## Shortest decimals

The shortest decimal of a number is the one with the fewest digits among those that round to the
number, and of several the nearest, half way the even one.  Only the two neighbours of the number on
each decimal grid can be that decimal, and the coarsest grid with a hit decides.
-/

/-- A decimal number: `digits * 10 ^ exponent`. -/
structure Digits where
  digits : Nat
  exponent : Int
deriving DecidableEq, Repr

/-- A quotient divided by a power of ten, as a numerator and a denominator. -/
def dividePowerOfTen (numerator denominator : Nat) : Int → Nat × Nat
  | .ofNat power => (numerator, denominator * Nat.pow 10 power)
  | .negSucc power => (numerator * Nat.pow 10 (power + 1), denominator)

/-- The power of ten of the leading digit of a quotient that is not zero. -/
def leadingPower (numerator denominator : Nat) : Int :=
  let guess : Int :=
    ((Nat.toDigits 10 numerator).length : Int) - ((Nat.toDigits 10 denominator).length : Int)
  let (scaledNumerator, scaledDenominator) := dividePowerOfTen numerator denominator guess
  if scaledNumerator < scaledDenominator then guess - 1 else guess

namespace Binary64

/--
The bounds of the reals that round to a number, in quarters of its last place.  Below a significand
that is a power of two the numbers lie twice as close.
-/
def bounds (number : Binary64) : Nat × Nat :=
  let middle := 4 * number.significand
  if number.significand == leadingBit && lowestExponent < number.exponent then
    (middle - 1, middle + 2)
  else
    (middle - 2, middle + 2)

/-- The decimal of a number on the grid of a power of ten, if one there rounds to the number. -/
def onGrid
    (number : Binary64)
    (power : Int) :
    Option Digits :=
  let (quarter, one) := dividePower 1 1 (2 - number.exponent)
  let (unit, whole) := dividePowerOfTen quarter one power
  let (low, high) := number.bounds
  let middle := 4 * number.significand * unit
  let rounds (candidate : Nat) : Bool :=
    let place := candidate * whole
    if number.significand % 2 == 0 then
      low * unit ≤ place && place ≤ high * unit
    else
      low * unit < place && place < high * unit
  let below := middle / whole
  let above := below + 1
  match rounds below, rounds above with
  | true, true => some { digits := roundHalfEven middle whole, exponent := power }
  | true, false => some { digits := below, exponent := power }
  | false, true => some { digits := above, exponent := power }
  | false, false => none

/-- The shortest decimal of a number; seventeen digits always suffice. -/
def shortest (number : Binary64) : Digits :=
  if number.significand == 0 then
    { digits := 0, exponent := 0 }
  else
    let (numerator, denominator) := number.toRatio
    let top := leadingPower numerator denominator
    match (List.range 17).findSome? (fun (places : Nat) => number.onGrid (top - places)) with
    | some decimal => decimal
    | none => { digits := numerator / denominator, exponent := 0 }

end Binary64

/-- Which decimals are written out in full: those whose leading digit has a power in a range. -/
structure Layout where
  lowestPower : Int
  highestPower : Int
deriving DecidableEq, Repr

namespace Layout

/-- The digits of a decimal without the zeros at its end, and the power of the leading digit. -/
def significant (decimal : Digits) : List Char × Int :=
  let written := Nat.toDigits 10 decimal.digits
  let kept := (written.reverse.dropWhile (· == '0')).reverse
  let power := decimal.exponent + (written.length : Int) - 1
  if kept.isEmpty then (['0'], 0) else (kept, power)

/-- Digits with a point behind the place of a power; there is a digit on each side of the point. -/
def positional
    (digits : List Char) :
    Int → List Char
  | .ofNat power =>
      let whole := digits.take (power + 1) ++ List.replicate (power + 1 - digits.length) '0'
      let fraction := digits.drop (power + 1)
      whole ++ '.' :: (if fraction.isEmpty then ['0'] else fraction)
  | .negSucc power => '0' :: '.' :: List.replicate power '0' ++ digits

/-- Digits with a point behind the first, if there are more, and the power with its sign. -/
def scientific
    (digits : List Char)
    (power : Int) :
    List Char :=
  let sign := if power < 0 then '-' else '+'
  let exponent := 'e' :: sign :: Nat.toDigits 10 power.natAbs
  match digits with
  | [] => exponent
  | [first] => first :: exponent
  | first :: rest => first :: '.' :: rest ++ exponent

/-- The text of a decimal. -/
def write
    (style : Layout)
    (decimal : Digits) :
    String :=
  let (digits, power) := significant decimal
  if style.lowestPower ≤ power && power ≤ style.highestPower then
    String.ofList (positional digits power)
  else
    String.ofList (scientific digits power)

end Layout

end Decimal
end InstructionTable
