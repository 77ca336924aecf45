/-!
# Characters as bytes

In UTF-8 the first byte of a character tells how many bytes follow it.  Each of those carries six
bits.  A character is only read from the fewest bytes that hold it, so no character has two forms.
-/

namespace InstructionTable
namespace Text
namespace Utf8

/-- What a first byte tells: how many bytes follow it, and its own bits of the character. -/
def first? (byte : UInt8) : Option (Nat × Nat) :=
  let value := byte.toNat
  if value < 0x80 then some (0, value)
  else if value < 0xC0 then none
  else if value < 0xE0 then some (1, value - 0xC0)
  else if value < 0xF0 then some (2, value - 0xE0)
  else if value < 0xF8 then some (3, value - 0xF0)
  else none

/-- The six bits of a byte that follows a first one. -/
def following? (byte : UInt8) : Option Nat :=
  let value := byte.toNat
  if 0x80 ≤ value ∧ value < 0xC0 then some (value - 0x80) else none

/-- Read so many bytes behind the bits that are there. -/
def readFollowing : Nat → Nat → List UInt8 → Option (Nat × List UInt8)
  | 0, bits, rest => some (bits, rest)
  | _ + 1, _, [] => none
  | count + 1, bits, byte :: rest => do
      let low ← following? byte
      readFollowing count (bits * 64 + low) rest

/-- The least number that needs so many bytes behind the first one. -/
def least : Nat → Nat
  | 0 => 0
  | 1 => 0x80
  | 2 => 0x800
  | _ => 0x10000

/-- Read the first character. -/
def decodeChar? : List UInt8 → Option (Char × List UInt8)
  | [] => none
  | byte :: rest => do
      let (count, bits) ← first? byte
      let (code, rest) ← readFollowing count bits rest
      if least count ≤ code ∧ code.isValidChar then
        return (Char.ofNat code, rest)
      else
        none

theorem length_of_readFollowing
    {count bits code : Nat}
    {bytes rest : List UInt8}
    (read : readFollowing count bits bytes = some (code, rest)) :
    rest.length ≤ bytes.length := by
  fun_induction readFollowing count bits bytes with
  | case1 =>
      cases read
      exact Nat.le_refl _
  | case2 => simp at read
  | case3 count bits byte tail inductionHypothesis =>
      obtain ⟨low, -, read⟩ := Option.bind_eq_some_iff.mp read
      have := inductionHypothesis low read
      simp only [List.length_cons]
      omega

theorem length_of_decodeChar?
    {bytes rest : List UInt8}
    {c : Char}
    (read : decodeChar? bytes = some (c, rest)) :
    rest.length < bytes.length := by
  unfold decodeChar? at read
  split at read
  · simp at read
  · obtain ⟨⟨count, bits⟩, -, read⟩ := Option.bind_eq_some_iff.mp read
    obtain ⟨⟨code, tail⟩, following, read⟩ := Option.bind_eq_some_iff.mp read
    have shorter := length_of_readFollowing following
    simp only [List.length_cons]
    grind

/-- The characters of some bytes, or the number of bytes left from the first that make none. -/
def decode (bytes : List UInt8) : Except Nat (List Char) :=
  match bytes with
  | [] => .ok []
  | byte :: rest =>
      match read : decodeChar? (byte :: rest) with
      | none => .error (rest.length + 1)
      | some (c, next) =>
          have : next.length ≤ rest.length := Nat.le_of_lt_succ (length_of_decodeChar? read)
          (decode next).map (c :: ·)
termination_by bytes.length

end Utf8
end Text
end InstructionTable
