import InstructionTable.Proofs.Field.Bits

/-!
# Fields with a mask and fields without

The mask of a field takes several steps of checked arithmetic, some of them on numbers of the size
of its bounds.  The first step to fail is known from the bounds alone, and a field is within its
bounds exactly when no step fails.  So fields of different sizes with the same bounds have the same
mask or fail at the same step, as long as both sizes can store the number above the highest bit.
-/

namespace InstructionTable
namespace Field

variable {size narrowSize wideSize : Nat}

/-- The first step that fails when the mask of a field is made. -/
def maskOverflow? (field : Field size) : Option Overflow :=
  if 64 ≤ field.length.toNat then
    some .shiftLeft
  else if 2 ^ size ≤ field.start.toNat + 1 then
    some .add
  else if field.start.toNat + 1 < field.length.toNat then
    some .subtract
  else if wordBits ≤ field.bottom then
    some .shiftLeft
  else
    none

/-- A row of ones comes first, then the lowest bit, and last the shift to the lowest bit. -/
theorem maskOverflow?_of_length_lt
    {field : Field size}
    (length : field.length.toNat < 64) :
    field.maskOverflow? =
      field.lowestOverflow?.or (if wordBits ≤ field.bottom then some .shiftLeft else none) := by
  unfold maskOverflow? lowestOverflow?
  rw [if_neg (by omega)]
  split
  · rfl
  · split
    · rfl
    · rfl

/-- A field is within its bounds exactly when no step towards its mask fails. -/
theorem inBounds_iff {field : Field size} :
    field.InBounds ↔ field.maskOverflow? = none := by
  unfold maskOverflow?
  constructor
  · rintro ⟨length, room, length_le, bottom⟩
    rw [if_neg (by omega), if_neg (by omega), if_neg (by omega), if_neg (by omega)]
  · intro clear
    split_ifs at clear with length room short bottom
    exact ⟨by omega, by omega, by omega, by omega⟩

/-- The mask of a field, unless a step on the way to it fails. -/
theorem mask_eq
    (positive : 0 < size)
    (field : Field size) :
    field.mask = refuseOr field.maskOverflow? field.bits := by
  unfold mask
  by_cases length : field.length.toNat < 64
  · rw [maskOverflow?_of_length_lt length, shiftLeftChecked_of_lt length, lowest_eq positive]
    cases missing : field.lowestOverflow? with
    | some overflow => rfl
    | none =>
        have room : field.start.toNat + 1 < 2 ^ size := by
          by_contra full
          simp [lowestOverflow?, Nat.not_lt.mp full] at missing
        change shiftLeftChecked _ (BitVec.ofNat size field.bottom).toNat = _
        rw [toNat_ofNat_bottom room, Option.none_or]
        by_cases below : wordBits ≤ field.bottom
        · rw [if_pos below, shiftLeftChecked_of_le below, refuseOr_some]
        · rw [if_neg below, shiftLeftChecked_of_lt (by omega)]
          rfl
  · have first : field.maskOverflow? = some .shiftLeft := if_pos (Nat.not_lt.mp length)
    rw [shiftLeftChecked_of_le (Nat.not_lt.mp length), first]
    rfl

theorem mask_eq_ok_iff
    (positive : 0 < size)
    {field : Field size}
    {bits : Word} :
    field.mask = .ok bits ↔ field.InBounds ∧ field.bits = bits := by
  rw [mask_eq positive, inBounds_iff, refuseOr_eq_ok_iff]

/-- A field within its bounds has a mask, and no other field has one. -/
theorem exists_mask_iff
    (positive : 0 < size)
    {field : Field size} :
    (∃ bits, field.mask = .ok bits) ↔ field.InBounds := by
  simp only [mask_eq_ok_iff positive, exists_and_left, exists_eq', and_true]

/-- A mask fails at the first step that cannot be taken. -/
theorem mask_eq_error_iff
    (positive : 0 < size)
    {field : Field size}
    {overflow : Overflow} :
    field.mask = .error overflow ↔ field.maskOverflow? = some overflow := by
  rw [mask_eq positive, refuseOr_eq_error_iff]

/-- Two fields have the same bounds, in numbers of different sizes. -/
structure SameBounds
    (narrow : Field narrowSize)
    (wide : Field wideSize) : Prop where
  /-- They have the same highest bit. -/
  start : narrow.start.toNat = wide.start.toNat
  /-- They have the same length. -/
  length : narrow.length.toNat = wide.length.toNat

namespace SameBounds

variable {narrow : Field narrowSize} {wide : Field wideSize}

theorem bottom_eq (same : narrow.SameBounds wide) : narrow.bottom = wide.bottom := by
  rw [bottom, bottom, same.start, same.length]

theorem bits_eq (same : narrow.SameBounds wide) : narrow.bits = wide.bits := by
  rw [bits, bits, same.length, same.bottom_eq]

/-- A field is within its bounds when one of the same bounds is, if its size has room. -/
theorem inBounds
    (same : narrow.SameBounds wide)
    (narrowRoom : narrow.start.toNat + 1 < 2 ^ narrowSize)
    (bounds : wide.InBounds) :
    narrow.InBounds where
  length_lt := same.length ▸ bounds.length_lt
  room := narrowRoom
  length_le := by
    rw [same.start, same.length]
    exact bounds.length_le
  bottom_lt := same.bottom_eq ▸ bounds.bottom_lt

/-- Fields of the same bounds have the same lowest bit, or fail at the same step towards it. -/
theorem lowest_eq
    (same : narrow.SameBounds wide)
    (narrowRoom : narrow.start.toNat + 1 < 2 ^ narrowSize)
    (wideRoom : wide.start.toNat + 1 < 2 ^ wideSize) :
    narrow.lowest.map BitVec.toNat = wide.lowest.map BitVec.toNat := by
  have steps : narrow.lowestOverflow? = wide.lowestOverflow? := by
    rw [lowestOverflow?_of_room narrowRoom, lowestOverflow?_of_room wideRoom, same.start,
      same.length]
  rw [Field.lowest_eq (size_pos narrowRoom), Field.lowest_eq (size_pos wideRoom), steps]
  cases wide.lowestOverflow? with
  | some overflow => rfl
  | none =>
      change Except.ok (BitVec.ofNat narrowSize narrow.bottom).toNat =
        Except.ok (BitVec.ofNat wideSize wide.bottom).toNat
      rw [toNat_ofNat_bottom narrowRoom, toNat_ofNat_bottom wideRoom, same.bottom_eq]

/-- Fields of the same bounds have the same mask, or fail at the same step towards it. -/
theorem mask_eq
    (same : narrow.SameBounds wide)
    (narrowRoom : narrow.start.toNat + 1 < 2 ^ narrowSize)
    (wideRoom : wide.start.toNat + 1 < 2 ^ wideSize) :
    narrow.mask = wide.mask := by
  have steps : narrow.maskOverflow? = wide.maskOverflow? := by
    unfold maskOverflow?
    rw [if_neg (Nat.not_le.mpr narrowRoom), if_neg (Nat.not_le.mpr wideRoom), same.start,
      same.length, same.bottom_eq]
  rw [Field.mask_eq (size_pos narrowRoom), Field.mask_eq (size_pos wideRoom), steps, same.bits_eq]

end SameBounds
end Field
end InstructionTable
