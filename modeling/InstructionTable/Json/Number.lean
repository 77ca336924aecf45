import InstructionTable.Decimal

/-!
# Numbers of a JSON text

A numeral has an integer part, and maybe a fraction and an exponent.  One without either that a
64-bit integer can hold is that integer.  Any other becomes a binary64 number: its leading digits
are gathered as long as they fit 64 bits, and the rest is a power of ten that is multiplied in
afterwards, with a rounding at each step.
-/

namespace InstructionTable
namespace Json

/-- A numeral as it is written; digits are numbers below ten. -/
structure Numeral where
  /-- Whether there is a minus sign. -/
  negative : Bool
  /-- The integer part. -/
  integer : List Nat
  /-- The digits behind the point, none without a point. -/
  fraction : List Nat := []
  /-- The exponent: whether it is negative, and its digits. -/
  exponent : Option (Bool × List Nat) := none
deriving DecidableEq, Repr

/-- The value of a numeral. -/
inductive Number where
  | integer (value : Int)
  | decimal (negative : Bool) (magnitude : Decimal.Binary64)
deriving DecidableEq, Repr

namespace Number

/-- The largest number of 64 bits. -/
def largest : Nat := 0xFFFFFFFFFFFFFFFF

/-- The largest magnitude of a negative number of 64 bits. -/
def largestNegative : Nat := 0x8000000000000000

/-- The largest exponent that is taken at its value. -/
def largestExponent : Nat := 0x7FFFFFFF

/-- The largest power of ten of the binary64 format. -/
def largestPower : Nat := 308

/-- How a number is written in a report: from 0.00001 up to sixteen digits in full. -/
def layout : Decimal.Layout := { lowestPower := -5, highestPower := 15 }

/-- The text of a number. -/
def text : Number → String
  | integer value => toString value
  | decimal negative magnitude =>
      (if negative then "-" else "") ++ layout.write magnitude.shortest

/-- Gather digits while they fit 64 bits: the number, and how many digits are gathered. -/
def gather
    (gathered count : Nat) :
    List Nat → Nat × Nat
  | [] => (gathered, count)
  | digit :: rest =>
      if largest < 10 * gathered + digit then (gathered, count)
      else gather (10 * gathered + digit) (count + 1) rest

/-- A power of ten, when the format has it. -/
def powerOfTen? (power : Nat) : Option Decimal.Binary64 :=
  if power ≤ largestPower then Decimal.Binary64.ofRatio? (Nat.pow 10 power) 1 else none

/--
A number divided by the largest power of ten as often as the last argument says, and then by
another.  Zero stays zero.
-/
def divideInSteps?
    (number : Decimal.Binary64)
    (lastPower : Nat) :
    Nat → Option Decimal.Binary64
  | 0 =>
      if number.significand == 0 then some number
      else (powerOfTen? lastPower).bind number.divide?
  | steps + 1 =>
      if number.significand == 0 then
        some number
      else
        match (powerOfTen? largestPower).bind number.divide? with
        | none => none
        | some next => divideInSteps? next lastPower steps

/-- A number divided by a power of ten other than one, in as few steps as the format allows. -/
def dividePowerOfTen?
    (number : Decimal.Binary64)
    (power : Nat) :
    Option Decimal.Binary64 :=
  let steps := (power - 1) / largestPower
  divideInSteps? number (power - steps * largestPower) steps

/-- A number times a power of ten, unless that is beyond the format. -/
def scale?
    (number : Decimal.Binary64) :
    Int → Option Decimal.Binary64
  | .ofNat power =>
      if number.significand == 0 then some number
      else (powerOfTen? power).bind number.multiply?
  | .negSucc power => dividePowerOfTen? number (power + 1)

end Number

/-- Why a numeral has no value: it is too large, and the given number of digits is left unread. -/
structure OutOfRange where
  unread : Nat
deriving DecidableEq, Repr

namespace Numeral

/-- Read an exponent: its value, or how many digits follow the one that makes it too large. -/
def readExponent
    (value : Nat) :
    List Nat → Except OutOfRange Nat
  | [] => .ok value
  | digit :: rest =>
      if Number.largestExponent < 10 * value + digit then .error { unread := rest.length }
      else readExponent (10 * value + digit) rest

/-- The number of gathered digits and the power of ten that the other digits leave. -/
def gathered (numeral : Numeral) : Nat × Int :=
  let (whole, wholeCount) := Number.gather 0 0 numeral.integer
  let (significand, fractionCount) := Number.gather whole 0 numeral.fraction
  (significand, ((numeral.integer.length - wholeCount : Nat) : Int) - (fractionCount : Int))

/-- A decimal made of gathered digits and a power of ten. -/
def decimalValue
    (negative : Bool)
    (significand : Nat)
    (power : Int) :
    Except OutOfRange Number :=
  match (Decimal.Binary64.ofRatio? significand 1).bind (Number.scale? · power) with
  | some magnitude => .ok (.decimal negative magnitude)
  | none => .error { unread := 0 }

/-- Whether a numeral is written as an integer that 64 bits can hold; zero has no negative. -/
def asInteger? (numeral : Numeral) : Option Int :=
  if numeral.fraction.isEmpty && numeral.exponent.isNone then
    let (whole, count) := Number.gather 0 0 numeral.integer
    if count < numeral.integer.length then none
    else if !numeral.negative then some (whole : Int)
    else if 0 < whole && whole ≤ Number.largestNegative then some (-(whole : Int))
    else none
  else
    none

/-- The value of a numeral. -/
def value (numeral : Numeral) : Except OutOfRange Number :=
  match numeral.asInteger? with
  | some value => .ok (.integer value)
  | none =>
      let (significand, power) := numeral.gathered
      match numeral.exponent with
      | none => decimalValue numeral.negative significand power
      | some (down, digits) =>
          match readExponent 0 digits with
          | .ok exponent =>
              decimalValue numeral.negative significand
                (if down then power - (exponent : Int) else power + (exponent : Int))
          | .error outOfRange =>
              if significand == 0 || down then
                .ok (.decimal numeral.negative Decimal.Binary64.zero)
              else
                .error outOfRange

end Numeral
end Json
end InstructionTable
