import InstructionTable.Proofs.Arithmetic
import InstructionTable.Proofs.Except

/-!
# The bits of a field

A field describes bits of a word when its bounds leave room for the arithmetic that its mask is made
of.  Then the mask, the number read from the field and the word with the field replaced are plain
words, and each is known bit by bit.
-/

namespace InstructionTable
namespace Field

variable {size : Nat}

/-- The lowest bit between a field's bounds. -/
def bottom (field : Field size) : Nat :=
  field.start.toNat + 1 - field.length.toNat

/-- The bits of a word that lie between a field's bounds. -/
def Covers
    (field : Field size)
    (position : Nat) : Prop :=
  position < wordBits ∧ field.bottom ≤ position ∧ position ≤ field.start.toNat

instance (field : Field size) (position : Nat) :
    Decidable (field.Covers position) := by
  unfold Covers
  infer_instance

/-- The number of bits of a word that lie between a field's bounds. -/
def breadth (field : Field size) : Nat :=
  min (field.start.toNat + 1) wordBits - field.bottom

/-- Two fields have no bit in common. -/
def Apart (former latter : Field size) : Prop :=
  ∀ position, former.Covers position → ¬latter.Covers position

/-- The bounds of a field leave room for the arithmetic of its mask. -/
structure InBounds (field : Field size) : Prop where
  /-- A row of ones as long as the field can be made. -/
  length_lt : field.length.toNat < 64
  /-- The number above the highest bit can be stored. -/
  room : field.start.toNat + 1 < 2 ^ size
  /-- The field does not reach below the lowest bit of a word. -/
  length_le : field.length.toNat ≤ field.start.toNat + 1
  /-- The field begins inside a word. -/
  bottom_lt : field.bottom < wordBits

/-- The bits of a field, as a word. -/
def bits (field : Field size) : Word :=
  (((1 : BitVec 64) <<< field.length.toNat) - 1).setWidth wordBits <<< field.bottom

/-- The number between the bounds of a field. -/
def content
    (field : Field size)
    (word : Word) : Word :=
  (word &&& field.bits) >>> field.bottom

/-- A word with other bits between the bounds of a field. -/
def replaced
    (field : Field size)
    (word value : Word) : Word :=
  (word &&& ~~~field.bits) ||| ((value <<< field.bottom) &&& field.bits)

/-- The first step that fails when the lowest bit of a field is looked for. -/
def lowestOverflow? (field : Field size) : Option Overflow :=
  if 2 ^ size ≤ field.start.toNat + 1 then
    some .add
  else if field.start.toNat + 1 < field.length.toNat then
    some .subtract
  else
    none

/-- Only a size with bits of its own can store the number above the highest bit. -/
theorem size_pos
    {field : Field size}
    (room : field.start.toNat + 1 < 2 ^ size) :
    0 < size := by
  apply Nat.pos_of_ne_zero
  rintro rfl
  omega

/-- With the number above the highest bit stored, only a field that is too long has no lowest bit. -/
theorem lowestOverflow?_of_room
    {field : Field size}
    (room : field.start.toNat + 1 < 2 ^ size) :
    field.lowestOverflow? =
      if field.start.toNat + 1 < field.length.toNat then some .subtract else none :=
  if_neg (Nat.not_le.mpr room)

theorem toNat_ofNat_bottom
    {field : Field size}
    (room : field.start.toNat + 1 < 2 ^ size) :
    (BitVec.ofNat size field.bottom).toNat = field.bottom := by
  have small : field.bottom < 2 ^ size := by
    unfold bottom
    omega
  rw [BitVec.toNat_ofNat, Nat.mod_eq_of_lt small]

/-- The lowest bit of a field, unless a step on the way to it fails. -/
theorem lowest_eq
    (positive : 0 < size)
    (field : Field size) :
    field.lowest = refuseOr field.lowestOverflow? (BitVec.ofNat size field.bottom) := by
  have one : (1 : BitVec size).toNat = 1 := BitVec.toNat_one positive
  unfold lowest
  by_cases room : field.start.toNat + 1 < 2 ^ size
  · have fits : field.start.toNat + (1 : BitVec size).toNat < 2 ^ size := by
      rw [one]
      exact room
    have above : (field.start + 1).toNat = field.start.toNat + 1 := by
      rw [BitVec.toNat_add_of_lt fits, one]
    rw [lowestOverflow?_of_room room, addChecked_of_lt fits]
    change subtractChecked (field.start + 1) field.length = _
    by_cases short : field.start.toNat + 1 < field.length.toNat
    · rw [if_pos short, subtractChecked_of_lt (by rw [above]; exact short)]
      rfl
    · have enough : field.length.toNat ≤ (field.start + 1).toNat := by
        rw [above]
        omega
      rw [if_neg short, subtractChecked_of_le enough, refuseOr_none]
      congr 1
      apply BitVec.eq_of_toNat_eq
      rw [BitVec.toNat_sub_of_le (BitVec.le_def.mpr enough), above, toNat_ofNat_bottom room, bottom]
  · have full : field.lowestOverflow? = some .add := if_pos (Nat.not_lt.mp room)
    rw [full, addChecked_of_le (by rw [one]; omega)]
    rfl

theorem InBounds.exists_lowest
    {field : Field size}
    (bounds : field.InBounds) :
    ∃ low, field.lowest = .ok low ∧ low.toNat = field.bottom := by
  have room := bounds.room
  have clear : field.lowestOverflow? = none := by
    rw [lowestOverflow?_of_room room, if_neg (Nat.not_lt.mpr bounds.length_le)]
  exact ⟨_, by rw [lowest_eq (size_pos room), clear, refuseOr_none], toNat_ofNat_bottom room⟩

/-- The mask of a field within its bounds. -/
theorem InBounds.mask_eq
    {field : Field size}
    (bounds : field.InBounds) :
    field.mask = .ok field.bits := by
  obtain ⟨low, found, value⟩ := bounds.exists_lowest
  unfold mask
  rw [shiftLeftChecked_of_lt bounds.length_lt, found]
  change shiftLeftChecked _ low.toNat = _
  rw [value, shiftLeftChecked_of_lt bounds.bottom_lt]
  rfl

theorem InBounds.extract_eq
    {field : Field size}
    (bounds : field.InBounds)
    (word : Word) :
    field.extract word = .ok (field.content word) := by
  obtain ⟨low, found, value⟩ := bounds.exists_lowest
  unfold extract
  rw [bounds.mask_eq, found]
  change shiftRightChecked _ low.toNat = _
  rw [value, shiftRightChecked_of_lt bounds.bottom_lt]
  rfl

theorem InBounds.insert_eq
    {field : Field size}
    (bounds : field.InBounds)
    (word value : Word) :
    field.insert word value = .ok (field.replaced word value) := by
  obtain ⟨low, found, position⟩ := bounds.exists_lowest
  unfold insert
  rw [bounds.mask_eq, found]
  change (do
    let placed ← shiftLeftChecked value low.toNat
    return (word &&& ~~~field.bits) ||| (placed &&& field.bits)) = _
  rw [position, shiftLeftChecked_of_lt bounds.bottom_lt]
  rfl

/-- The mask has the bits between the bounds. -/
theorem InBounds.getLsbD_bits
    {field : Field size}
    (bounds : field.InBounds)
    (position : Nat) :
    field.bits.getLsbD position = decide (field.Covers position) := by
  have wordBits_eq : wordBits = 32 := rfl
  have length := bounds.length_le
  unfold bits Covers bottom
  rw [BitVec.getLsbD_shiftLeft, BitVec.getLsbD_setWidth,
    getLsbD_one_shiftLeft_sub_one bounds.length_lt]
  simp only [← decide_not, ← Bool.decide_and]
  apply decide_eq_decide.mpr
  omega

/-- The number in a field has the word's bits from the lowest one on. -/
theorem InBounds.getLsbD_content
    {field : Field size}
    (bounds : field.InBounds)
    (word : Word)
    (distance : Nat) :
    (field.content word).getLsbD distance =
      (decide (field.Covers (field.bottom + distance)) &&
        word.getLsbD (field.bottom + distance)) := by
  unfold content
  rw [BitVec.getLsbD_ushiftRight, BitVec.getLsbD_and, bounds.getLsbD_bits, Bool.and_comm]

/-- A bit between the bounds is in the number, as far up as it is above the lowest one. -/
theorem InBounds.getLsbD_content_sub
    {field : Field size}
    (bounds : field.InBounds)
    {position : Nat}
    (covered : field.Covers position)
    (word : Word) :
    (field.content word).getLsbD (position - field.bottom) = word.getLsbD position := by
  rw [bounds.getLsbD_content, Nat.add_sub_cancel' covered.2.1, decide_eq_true covered,
    Bool.true_and]

/-- Writing changes the bits between the bounds and no other. -/
theorem InBounds.getLsbD_replaced
    {field : Field size}
    (bounds : field.InBounds)
    (word value : Word)
    (position : Nat) :
    (field.replaced word value).getLsbD position =
      if field.Covers position then
        value.getLsbD (position - field.bottom)
      else
        word.getLsbD position := by
  unfold replaced
  rw [BitVec.getLsbD_or, BitVec.getLsbD_and, BitVec.getLsbD_and, BitVec.getLsbD_not,
    BitVec.getLsbD_shiftLeft, bounds.getLsbD_bits]
  by_cases covered : field.Covers position
  · have inside := covered.1
    have low := Nat.not_lt.mpr covered.2.1
    simp [covered, inside, low]
  · by_cases inside : position < wordBits
    · simp [covered, inside]
    · simp [covered, inside, BitVec.getLsbD_of_ge word position (by omega)]

/-- The number in a field depends on the bits between the bounds alone. -/
theorem InBounds.content_congr
    {field : Field size}
    (bounds : field.InBounds)
    {word other : Word}
    (agree : ∀ position, field.Covers position →
      word.getLsbD position = other.getLsbD position) :
    field.content word = field.content other := by
  apply BitVec.eq_of_getLsbD_eq
  intro distance _
  rw [bounds.getLsbD_content, bounds.getLsbD_content]
  by_cases covered : field.Covers (field.bottom + distance)
  · rw [agree _ covered]
  · rw [decide_eq_false covered, Bool.false_and, Bool.false_and]

/-- The bits between the bounds are the first ones from the lowest bit on. -/
theorem covers_bottom_add_iff
    {field : Field size}
    {distance : Nat} :
    field.Covers (field.bottom + distance) ↔ distance < field.breadth := by
  unfold Covers breadth
  omega

/-- A field holds a number cut to the bits that it has in the word. -/
theorem InBounds.toNat_content_eq_mod_breadth
    {field : Field size}
    (bounds : field.InBounds)
    {word value : Word}
    (agree : ∀ position, field.Covers position →
      word.getLsbD position = value.getLsbD (position - field.bottom)) :
    (field.content word).toNat = value.toNat % 2 ^ field.breadth := by
  apply Nat.eq_of_testBit_eq
  intro distance
  rw [Nat.testBit_mod_two_pow, BitVec.testBit_toNat, BitVec.testBit_toNat,
    bounds.getLsbD_content]
  by_cases covered : distance < field.breadth
  · have bit := agree _ (covers_bottom_add_iff.mpr covered)
    rw [Nat.add_sub_cancel_left] at bit
    simp only [covers_bottom_add_iff, covered, bit]
  · simp only [covers_bottom_add_iff, covered, decide_false, Bool.false_and]

/-- A field that lies in a word has all its bits there. -/
theorem InBounds.breadth_eq_length
    {field : Field size}
    (bounds : field.InBounds)
    (inside : field.start.toNat < wordBits) :
    field.breadth = field.length.toNat := by
  have length := bounds.length_le
  unfold breadth bottom
  omega

/-- A field that lies in a word holds a number cut to its length. -/
theorem InBounds.toNat_content
    {field : Field size}
    (bounds : field.InBounds)
    (inside : field.start.toNat < wordBits)
    {word value : Word}
    (agree : ∀ position, field.Covers position →
      word.getLsbD position = value.getLsbD (position - field.bottom)) :
    (field.content word).toNat = value.toNat % 2 ^ field.length.toNat := by
  rw [← bounds.breadth_eq_length inside]
  exact bounds.toNat_content_eq_mod_breadth agree

/-- The number in a field that lies in a word is less than the field's length allows. -/
theorem InBounds.toNat_content_lt
    {field : Field size}
    (bounds : field.InBounds)
    (inside : field.start.toNat < wordBits)
    (word : Word) :
    (field.content word).toNat < 2 ^ field.length.toNat := by
  have agree (position : Nat) (covered : field.Covers position) :
      word.getLsbD position = (field.content word).getLsbD (position - field.bottom) :=
    (bounds.getLsbD_content_sub covered word).symm
  rw [bounds.toNat_content inside agree]
  exact Nat.mod_lt _ (Nat.two_pow_pos _)

end Field
end InstructionTable
