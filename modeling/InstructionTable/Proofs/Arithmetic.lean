import InstructionTable.Field
import Mathlib.Algebra.Group.Nat.Even
import Mathlib.Data.Nat.Count

/-!
# When checked arithmetic succeeds

A checked operation gives the plain result exactly when the result fits its size.  The bits of the
results that masks and accumulators are made of are read off and counted here once.
-/

namespace InstructionTable

variable {size : Nat}

/-- A sum that fits is the plain sum. -/
theorem addChecked_of_lt
    {left right : BitVec size}
    (fits : left.toNat + right.toNat < 2 ^ size) :
    addChecked left right = .ok (left + right) := by
  have noOverflow : left.uaddOverflow right = false := by
    simpa [BitVec.uaddOverflow] using fits
  simp [addChecked, noOverflow]

/-- A sum that does not fit is refused. -/
theorem addChecked_of_le
    {left right : BitVec size}
    (tooLarge : 2 ^ size ≤ left.toNat + right.toNat) :
    addChecked left right = .error .add := by
  have overflow : left.uaddOverflow right = true := by
    simpa [BitVec.uaddOverflow] using tooLarge
  simp [addChecked, overflow]

theorem subtractChecked_of_le
    {left right : BitVec size}
    (enough : right.toNat ≤ left.toNat) :
    subtractChecked left right = .ok (left - right) := by
  have noOverflow : left.usubOverflow right = false := by
    simpa [BitVec.usubOverflow] using enough
  simp [subtractChecked, noOverflow]

theorem subtractChecked_of_lt
    {left right : BitVec size}
    (short : left.toNat < right.toNat) :
    subtractChecked left right = .error .subtract := by
  have overflow : left.usubOverflow right = true := by
    simpa [BitVec.usubOverflow] using short
  simp [subtractChecked, overflow]

/-- A shift by fewer places than there are drops what leaves at the top. -/
theorem shiftLeftChecked_of_lt
    {value : BitVec size}
    {places : Nat}
    (fits : places < size) :
    shiftLeftChecked value places = .ok (value <<< places) :=
  if_pos fits

theorem shiftLeftChecked_of_le
    {value : BitVec size}
    {places : Nat}
    (tooFar : size ≤ places) :
    shiftLeftChecked value places = .error .shiftLeft :=
  if_neg (Nat.not_lt.mpr tooFar)

theorem shiftRightChecked_of_lt
    {value : BitVec size}
    {places : Nat}
    (fits : places < size) :
    shiftRightChecked value places = .ok (value >>> places) :=
  if_pos fits

theorem toNat_one_shiftLeft
    {places : Nat}
    (fits : places < size) :
    ((1 : BitVec size) <<< places).toNat = 2 ^ places := by
  have one : (1 : BitVec size).toNat = 1 := BitVec.toNat_one (by omega)
  rw [BitVec.toNat_shiftLeft, one, Nat.one_shiftLeft,
    Nat.mod_eq_of_lt (Nat.pow_lt_pow_right (by omega) fits)]

/-- One less than a power of two is a row of ones. -/
theorem getLsbD_one_shiftLeft_sub_one
    {places : Nat}
    (fits : places < size)
    (position : Nat) :
    (((1 : BitVec size) <<< places) - 1).getLsbD position = decide (position < places) := by
  have one : (1 : BitVec size).toNat = 1 := BitVec.toNat_one (by omega)
  have power : ((1 : BitVec size) <<< places).toNat = 2 ^ places := toNat_one_shiftLeft fits
  have ones : (((1 : BitVec size) <<< places) - 1).toNat = 2 ^ places - 1 := by
    rw [BitVec.toNat_sub_of_le, power, one]
    rw [BitVec.le_def, power, one]
    exact Nat.one_le_two_pow
  rw [← BitVec.testBit_toNat, ones, Nat.testBit_two_pow_sub_one]

/-- Bits that enter at the bottom push the others up by as many places. -/
theorem getLsbD_shiftLeft_or
    {accumulator part : BitVec size}
    {places : Nat}
    (clear : ∀ position, places ≤ position → part.getLsbD position = false)
    {position : Nat}
    (inside : position < size) :
    ((accumulator <<< places) ||| part).getLsbD position =
      if position < places then
        part.getLsbD position
      else
        accumulator.getLsbD (position - places) := by
  rw [BitVec.getLsbD_or, BitVec.getLsbD_shiftLeft]
  by_cases low : position < places
  · simp [low]
  · rw [if_neg low, clear position (by omega), Bool.or_false]
    simp [low, inside]

/-- Two numbers have no bit in common when every bit of the one is clear in the other. -/
theorem and_eq_zero_iff {value other : BitVec size} :
    value &&& other = 0 ↔
      ∀ position, value.getLsbD position = true → other.getLsbD position = false := by
  constructor
  · intro zero position set
    have bit := congrArg (BitVec.getLsbD · position) zero
    simpa [set] using bit
  · intro apart
    apply BitVec.eq_of_getLsbD_eq
    intro position _
    rw [BitVec.getLsbD_and]
    cases set : value.getLsbD position with
    | false => simp
    | true => simp [apart position set]

/-- A number has no bit outside another one when it has only bits of the other. -/
theorem and_not_eq_zero_iff {value other : BitVec size} :
    value &&& ~~~other = 0 ↔
      ∀ position, value.getLsbD position = true → other.getLsbD position = true := by
  rw [and_eq_zero_iff]
  refine forall_congr' fun position => forall_congr' fun set => ?_
  rw [BitVec.getLsbD_not, decide_eq_true (BitVec.lt_of_getLsbD set), Bool.true_and,
    Bool.not_eq_false']

/-- Clearing bits that a number does not have changes nothing. -/
theorem and_not_eq_self_of_and_eq_zero
    {value other : BitVec size}
    (apart : value &&& other = 0) :
    value &&& ~~~other = value := by
  apply BitVec.eq_of_getLsbD_eq
  intro position inside
  rw [BitVec.getLsbD_and, BitVec.getLsbD_not, decide_eq_true inside, Bool.true_and]
  cases set : value.getLsbD position with
  | false => rfl
  | true => rw [and_eq_zero_iff.mp apart position set, Bool.not_false, Bool.and_true]

/-- The bits of a number that are set are counted from the lowest one upwards. -/
theorem toNat_cpop_eq_count (value : BitVec size) :
    value.cpop.toNat = Nat.count (fun position => value.getLsbD position = true) size := by
  have below (limit : Nat) : value.cpopNatRec limit 0 =
      Nat.count (fun position => value.getLsbD position = true) limit := by
    induction limit with
    | zero => rfl
    | succ limit inductionHypothesis =>
        rw [BitVec.cpopNatRec_succ, BitVec.cpopNatRec_add, inductionHypothesis, Nat.count_succ]
        cases value.getLsbD limit with
        | false => rfl
        | true => rfl
  rw [BitVec.toNat_cpop, below]

end InstructionTable
