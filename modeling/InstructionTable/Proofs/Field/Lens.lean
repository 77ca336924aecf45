import InstructionTable.Proofs.Field.Geometry
import Mathlib.Order.Interval.Finset.Nat

/-!
# Fields as lenses

Reading and writing a field follow the laws of a lens: a number that was written is read again,
writing what was read changes nothing, and of two writes the last one counts.  A number is cut to as
many bits as the mask has.  These are fewer than the length of a field that reaches above the word,
and a field of length zero has none.  Two fields whose masks have no bit in common do not notice
each other's writes.
-/

namespace InstructionTable
namespace Field

variable {size : Nat}

/-- The laws by which a field is a lens that shows the bits of a mask. -/
structure IsLens
    (field : Field size)
    (bits : Word) : Prop where
  /-- The field of every word can be read. -/
  extracts : ∀ word, ∃ held, field.extract word = .ok held
  /-- Every number can be written, and no bit outside the mask changes. -/
  inserts : ∀ word value, ∃ written,
    field.insert word value = .ok written ∧ written &&& ~~~bits = word &&& ~~~bits
  /-- What was written is read again, cut to the number of bits of the mask. -/
  extract_insert : ∀ word value, ∃ held,
    (field.insert word value >>= field.extract) = .ok held ∧
      held.toNat = value.toNat % 2 ^ bits.cpop.toNat
  /-- Writing what was read changes nothing. -/
  insert_extract : ∀ word, (field.extract word >>= field.insert word) = .ok word
  /-- Of two writes the last one counts. -/
  insert_insert : ∀ word former latter,
    (field.insert word former >>= (field.insert · latter)) = field.insert word latter

/-- Two fields do not notice each other's writes. -/
structure Independent (left right : Field size) : Prop where
  /-- A write into the right field leaves what the left one shows. -/
  left_kept : ∀ word value, ∃ held,
    left.extract word = .ok held ∧ (right.insert word value >>= left.extract) = .ok held
  /-- A write into the left field leaves what the right one shows. -/
  right_kept : ∀ word value, ∃ held,
    right.extract word = .ok held ∧ (left.insert word value >>= right.extract) = .ok held
  /-- Writes into both fields can be made in either order. -/
  insert_comm : ∀ word leftValue rightValue, ∃ reached,
    (left.insert word leftValue >>= (right.insert · rightValue)) = .ok reached ∧
      (right.insert word rightValue >>= (left.insert · leftValue)) = .ok reached

section Lens

variable {field : Field size}

/-- The mask has as many bits as lie between the bounds. -/
theorem InBounds.toNat_cpop_bits (bounds : field.InBounds) :
    field.bits.cpop.toNat = field.breadth := by
  have between : (Finset.range wordBits).filter (field.bits.getLsbD · = true) =
      Finset.Ico field.bottom (min (field.start.toNat + 1) wordBits) := by
    ext position
    rw [Finset.mem_filter, Finset.mem_range, Finset.mem_Ico, bounds.getLsbD_bits,
      decide_eq_true_iff, Covers]
    omega
  rw [toNat_cpop_eq_count, Nat.count_eq_card_filter_range, between, Nat.card_Ico, breadth]

/-- A field holds what was written into it, cut to its bits. -/
theorem InBounds.toNat_content_replaced
    (bounds : field.InBounds)
    (word value : Word) :
    (field.content (field.replaced word value)).toNat = value.toNat % 2 ^ field.breadth := by
  apply bounds.toNat_content_eq_mod_breadth
  intro position covered
  rw [bounds.getLsbD_replaced, if_pos covered]

/-- Writing what a field holds changes nothing. -/
theorem InBounds.replaced_content
    (bounds : field.InBounds)
    (word : Word) :
    field.replaced word (field.content word) = word := by
  apply BitVec.eq_of_getLsbD_eq
  intro position _
  rw [bounds.getLsbD_replaced]
  by_cases covered : field.Covers position
  · rw [if_pos covered, bounds.getLsbD_content_sub covered]
  · rw [if_neg covered]

/-- A write leaves nothing of the one before it. -/
theorem InBounds.replaced_replaced
    (bounds : field.InBounds)
    (word former latter : Word) :
    field.replaced (field.replaced word former) latter = field.replaced word latter := by
  apply BitVec.eq_of_getLsbD_eq
  intro position _
  rw [bounds.getLsbD_replaced, bounds.getLsbD_replaced, bounds.getLsbD_replaced]
  by_cases covered : field.Covers position
  · rw [if_pos covered, if_pos covered]
  · rw [if_neg covered, if_neg covered, if_neg covered]

/-- A write changes no bit outside the mask. -/
theorem InBounds.replaced_and_not_bits
    (bounds : field.InBounds)
    (word value : Word) :
    field.replaced word value &&& ~~~field.bits = word &&& ~~~field.bits := by
  apply BitVec.eq_of_getLsbD_eq
  intro position _
  rw [BitVec.getLsbD_and, BitVec.getLsbD_and, BitVec.getLsbD_not, bounds.getLsbD_bits,
    bounds.getLsbD_replaced]
  by_cases covered : field.Covers position
  · rw [decide_eq_true covered, Bool.not_true, Bool.and_false, Bool.and_false, Bool.and_false]
  · rw [if_neg covered]

/-- A field within its bounds is a lens that shows the bits of its mask. -/
theorem InBounds.isLens (bounds : field.InBounds) : field.IsLens field.bits where
  extracts word := ⟨_, bounds.extract_eq word⟩
  inserts word value := ⟨_, bounds.insert_eq word value, bounds.replaced_and_not_bits word value⟩
  extract_insert := by
    intro word value
    refine ⟨field.content (field.replaced word value), ?_, ?_⟩
    · rw [bounds.insert_eq, ok_bind, bounds.extract_eq]
    · rw [bounds.toNat_content_replaced, bounds.toNat_cpop_bits]
  insert_extract := by
    intro word
    rw [bounds.extract_eq, ok_bind, bounds.insert_eq, bounds.replaced_content]
  insert_insert := by
    intro word former latter
    rw [bounds.insert_eq, ok_bind, bounds.insert_eq, bounds.insert_eq, bounds.replaced_replaced]

end Lens

section Apart

variable {left right : Field size}

/-- Fields have no bit in common exactly when their masks have none. -/
theorem apart_iff
    (leftBounds : left.InBounds)
    (rightBounds : right.InBounds) :
    left.Apart right ↔ left.bits &&& right.bits = 0 := by
  rw [and_eq_zero_iff]
  apply forall_congr'
  intro position
  rw [leftBounds.getLsbD_bits, rightBounds.getLsbD_bits, decide_eq_true_iff,
    decide_eq_false_iff_not]

theorem Apart.symm (apart : left.Apart right) : right.Apart left :=
  fun position rightCovers leftCovers => apart position leftCovers rightCovers

/-- A field holds the same after a write into one apart from it. -/
theorem Apart.content_replaced
    (apart : left.Apart right)
    (leftBounds : left.InBounds)
    (rightBounds : right.InBounds)
    (word value : Word) :
    left.content (right.replaced word value) = left.content word := by
  apply leftBounds.content_congr
  intro position covered
  rw [rightBounds.getLsbD_replaced, if_neg (apart position covered)]

/-- Writes into fields apart from each other can be made in either order. -/
theorem Apart.replaced_comm
    (apart : left.Apart right)
    (leftBounds : left.InBounds)
    (rightBounds : right.InBounds)
    (word leftValue rightValue : Word) :
    right.replaced (left.replaced word leftValue) rightValue =
      left.replaced (right.replaced word rightValue) leftValue := by
  apply BitVec.eq_of_getLsbD_eq
  intro position _
  rw [rightBounds.getLsbD_replaced, leftBounds.getLsbD_replaced, leftBounds.getLsbD_replaced,
    rightBounds.getLsbD_replaced]
  -- outside the left field both sides are what the write into the right one makes of the word
  by_cases leftCovers : left.Covers position
  · rw [if_neg (apart position leftCovers), if_pos leftCovers, if_pos leftCovers]
  · rw [if_neg leftCovers, if_neg leftCovers]

/-- Fields apart from each other do not notice each other's writes. -/
theorem Apart.independent
    (apart : left.Apart right)
    (leftBounds : left.InBounds)
    (rightBounds : right.InBounds) :
    left.Independent right where
  left_kept := by
    intro word value
    refine ⟨_, leftBounds.extract_eq word, ?_⟩
    rw [rightBounds.insert_eq, ok_bind, leftBounds.extract_eq,
      apart.content_replaced leftBounds rightBounds]
  right_kept := by
    intro word value
    refine ⟨_, rightBounds.extract_eq word, ?_⟩
    rw [leftBounds.insert_eq, ok_bind, rightBounds.extract_eq,
      apart.symm.content_replaced rightBounds leftBounds]
  insert_comm := by
    intro word leftValue rightValue
    refine ⟨right.replaced (left.replaced word leftValue) rightValue, ?_, ?_⟩
    · rw [leftBounds.insert_eq, ok_bind, rightBounds.insert_eq]
    · rw [rightBounds.insert_eq, ok_bind, leftBounds.insert_eq,
        apart.replaced_comm leftBounds rightBounds]

end Apart

/--
A field of byte bounds whose mask can be made is a lens that shows the bits of the mask, also when
it reaches above the word or has no bits.  Reading and writing do not fail; what was written is read
again modulo two to the power of the number of set bits of the mask; writing what was read changes
nothing; of two writes the last one counts; and no bit outside the mask changes.  Two such fields
whose masks have no bit in common do not notice each other's writes.
-/
theorem isLens_and_independent_of_mask
    {field : Field 8}
    {bits : Word}
    (made : field.mask = .ok bits) :
    field.IsLens bits ∧
      ∀ (other : Field 8) (otherBits : Word), other.mask = .ok otherBits →
        bits &&& otherBits = 0 → field.Independent other := by
  obtain ⟨bounds, rfl⟩ := (mask_eq_ok_iff (by decide)).mp made
  refine ⟨bounds.isLens, ?_⟩
  intro other otherBits otherMade disjoint
  obtain ⟨otherBounds, rfl⟩ := (mask_eq_ok_iff (by decide)).mp otherMade
  exact ((apart_iff bounds otherBounds).mpr disjoint).independent bounds otherBounds

/-- A field that loses nine bits above the word, one that fills the rest, and one without bits. -/
theorem isLens_and_independent_of_mask_of_truncated_field :
    (⟨"imm", 40, 30⟩ : Field 8).mask = .ok 0xFFFFF800 ∧
      (⟨"Rd", 10, 11⟩ : Field 8).mask = .ok 0x7FF ∧
      (0xFFFFF800 : Word) &&& 0x7FF = 0 ∧
      (⟨"none", 20, 0⟩ : Field 8).mask = .ok 0 ∧
      (∀ word, ∃ held,
        ((⟨"imm", 40, 30⟩ : Field 8).insert word 0xABCDEF12 >>=
          (⟨"imm", 40, 30⟩ : Field 8).extract) = .ok held ∧ held.toNat = 0x0DEF12) ∧
      (⟨"imm", 40, 30⟩ : Field 8).Independent ⟨"Rd", 10, 11⟩ ∧
      (⟨"none", 20, 0⟩ : Field 8).IsLens 0 := by
  have truncated : (⟨"imm", 40, 30⟩ : Field 8).mask = .ok 0xFFFFF800 := by rfl
  have rest : (⟨"Rd", 10, 11⟩ : Field 8).mask = .ok 0x7FF := by rfl
  have disjoint : (0xFFFFF800 : Word) &&& 0x7FF = 0 := by decide
  have empty : (⟨"none", 20, 0⟩ : Field 8).mask = .ok 0 := by rfl
  obtain ⟨lens, independent⟩ := isLens_and_independent_of_mask truncated
  refine ⟨truncated, rest, disjoint, empty, ?_, independent _ _ rest disjoint,
    (isLens_and_independent_of_mask empty).1⟩
  intro word
  obtain ⟨held, read, value⟩ := lens.extract_insert word 0xABCDEF12
  exact ⟨held, read, value.trans (by decide)⟩

end Field
end InstructionTable
