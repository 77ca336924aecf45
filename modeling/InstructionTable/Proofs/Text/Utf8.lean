import InstructionTable.Text.Utf8

/-!
# Characters read back from their bytes

The first byte of a character tells how many follow, and each byte gives back the bits that it was
made of.  So a text is what is read from its bytes.
-/

namespace InstructionTable
namespace Text
namespace Utf8

/-! ## Single bytes -/

theorem first?_of_lt
    {bits : Nat}
    (small : bits < 0x80) :
    first? (UInt8.ofNat bits) = some (0, bits) := by
  have value : (UInt8.ofNat bits).toNat = bits :=
    UInt8.toNat_ofNat_of_lt' (Nat.lt_of_lt_of_le small (by decide))
  rw [first?, value, if_pos small]

theorem first?_two
    {bits : Nat}
    (small : bits < 0x20) :
    first? (UInt8.ofNat (bits + 0xC0)) = some (1, bits) := by
  have value : (UInt8.ofNat (bits + 0xC0)).toNat = bits + 0xC0 :=
    UInt8.toNat_ofNat_of_lt' (Nat.lt_of_lt_of_le (Nat.add_lt_add_right small 0xC0) (by decide))
  rw [first?, value, if_neg (by omega), if_neg (by omega), if_pos (by omega), Nat.add_sub_cancel]

theorem first?_three
    {bits : Nat}
    (small : bits < 0x10) :
    first? (UInt8.ofNat (bits + 0xE0)) = some (2, bits) := by
  have value : (UInt8.ofNat (bits + 0xE0)).toNat = bits + 0xE0 :=
    UInt8.toNat_ofNat_of_lt' (Nat.lt_of_lt_of_le (Nat.add_lt_add_right small 0xE0) (by decide))
  rw [first?, value, if_neg (by omega), if_neg (by omega), if_neg (by omega), if_pos (by omega),
    Nat.add_sub_cancel]

theorem first?_four
    {bits : Nat}
    (small : bits < 0x08) :
    first? (UInt8.ofNat (bits + 0xF0)) = some (3, bits) := by
  have value : (UInt8.ofNat (bits + 0xF0)).toNat = bits + 0xF0 :=
    UInt8.toNat_ofNat_of_lt' (Nat.lt_of_lt_of_le (Nat.add_lt_add_right small 0xF0) (by decide))
  rw [first?, value, if_neg (by omega), if_neg (by omega), if_neg (by omega), if_neg (by omega),
    if_pos (by omega), Nat.add_sub_cancel]

/-- A byte behind the first one adds its six bits. -/
theorem readFollowing_succ
    {count bits low : Nat}
    (small : low < 0x40)
    (rest : List UInt8) :
    readFollowing (count + 1) bits (UInt8.ofNat (low + 0x80) :: rest) =
      readFollowing count (bits * 64 + low) rest := by
  have value : (UInt8.ofNat (low + 0x80)).toNat = low + 0x80 :=
    UInt8.toNat_ofNat_of_lt' (Nat.lt_of_lt_of_le (Nat.add_lt_add_right small 0x80) (by decide))
  have gives : following? (UInt8.ofNat (low + 0x80)) = some low := by
    rw [following?, value, if_pos ⟨by omega, by omega⟩, Nat.add_sub_cancel]
  rw [readFollowing, gives]
  rfl

/-! ## Characters -/

/-- What the bytes of a character give is the character, if they are as few as can be. -/
theorem decodeChar?_of_code
    {c : Char}
    {byte : UInt8}
    {bytes rest : List UInt8}
    {count bits : Nat}
    (first : first? byte = some (count, bits))
    (following : readFollowing count bits (bytes ++ rest) = some (c.toNat, rest))
    (needed : least count ≤ c.toNat) :
    decodeChar? (byte :: bytes ++ rest) = some (c, rest) := by
  rw [List.cons_append, decodeChar?, first]
  simp only [Option.bind_eq_bind, Option.bind_some, following]
  rw [if_pos ⟨needed, c.valid⟩, Char.ofNat_toNat]
  rfl

theorem toNat_lt (c : Char) : c.toNat < 0x110000 := by
  rcases c.valid with low | ⟨-, high⟩
  · exact Nat.lt_trans low (by decide)
  · exact high

/-- The first character is read from its bytes. -/
theorem decodeChar?_append
    (c : Char)
    (rest : List UInt8) :
    decodeChar? (String.utf8EncodeChar c ++ rest) = some (c, rest) := by
  have bounded : c.toNat < 0x110000 := toNat_lt c
  have number : c.val.toNat = c.toNat := rfl
  simp only [String.utf8EncodeChar, number]
  split
  · exact decodeChar?_of_code (first?_of_lt (by omega)) rfl (Nat.zero_le _)
  · split
    · refine decodeChar?_of_code (first?_two (by omega)) ?_ (by simp only [least]; omega)
      rw [List.singleton_append, readFollowing_succ (by omega), readFollowing]
      congr 2
      omega
    · split
      · refine decodeChar?_of_code (first?_three (by omega)) ?_ (by simp only [least]; omega)
        rw [List.cons_append, readFollowing_succ (by omega), List.singleton_append,
          readFollowing_succ (by omega), readFollowing]
        congr 2
        omega
      · refine decodeChar?_of_code (first?_four (by omega)) ?_ (by simp only [least]; omega)
        rw [List.cons_append, readFollowing_succ (by omega), List.cons_append,
          readFollowing_succ (by omega), List.singleton_append, readFollowing_succ (by omega),
          readFollowing]
        congr 2
        omega

/-- A text is read from its bytes. -/
theorem decode_flatMap (characters : List Char) :
    decode (characters.flatMap String.utf8EncodeChar) = .ok characters := by
  induction characters with
  | nil => rw [List.flatMap_nil, decode]
  | cons c rest inductionHypothesis =>
      rw [List.flatMap_cons]
      have read := decodeChar?_append c (rest.flatMap String.utf8EncodeChar)
      unfold decode
      split
      · next empty => simp [empty, decodeChar?] at read
      · next byte bytes whole =>
          rw [whole] at read
          split
          · next failed => simp [failed] at read
          · next d next given =>
              rw [read] at given
              obtain ⟨rfl, rfl⟩ := Prod.mk.inj (Option.some.inj given)
              rw [inductionHypothesis]
              rfl

end Utf8
end Text
end InstructionTable
