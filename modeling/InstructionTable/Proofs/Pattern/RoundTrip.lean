import InstructionTable.Proofs.Pattern.FirstError
import InstructionTable.Proofs.Pattern.Spelling

/-!
# Rows of segments and their texts

Spelling a row of segments and reading it are inverse to each other, up to the widths that a text
leaves out.  The rows that are read are just those that can be spelled, and a text in which every
width is written out means the same as the text it was read from.  A text that is cut at a bar is
read in two parts, the first of which decides the error.
-/

namespace InstructionTable
namespace Pattern

/-- A row of segments that can be spelled with all its widths. -/
structure SpellableRow (segments : List Segment) : Prop where
  /-- There is a segment in it. -/
  nonempty : segments ≠ []
  /-- Every pattern can stand in a text. -/
  patterns : ∀ segment ∈ segments, Spellable segment.pattern.toList
  /-- No width is zero. -/
  widths : ∀ segment ∈ segments, 0 < segment.width.toNat

/-- The segments read from a text that is not too long have positive widths. -/
theorem toNat_width_pos_of_listOfText
    {bits : String}
    (short : bits.utf8ByteSize < wordCount)
    {segments : List Segment}
    (read : Segment.listOfText bits = .ok segments)
    {segment : Segment}
    (member : segment ∈ segments) :
    0 < segment.width.toNat := by
  obtain ⟨sound, rfl⟩ := listOfText_eq_ok_iff.mp read
  obtain ⟨piece, pieceMember, rfl⟩ := List.mem_map.mp member
  rw [width_segmentOf (pieceWidth_lt_wordCount short pieceMember (sound piece pieceMember))]
  exact (pieceWidth_bounds (sound piece pieceMember)).1

theorem ne_nil_of_listOfText
    {bits : String}
    {segments : List Segment}
    (read : Segment.listOfText bits = .ok segments) :
    segments ≠ [] := by
  obtain ⟨-, rfl⟩ := listOfText_eq_ok_iff.mp read
  exact mt List.map_eq_nil_iff.mp (List.splitOn_ne_nil '|' bits.toList)

/-- The segments read from a text that is not too long can be spelled. -/
theorem spellableRow_of_listOfText
    {bits : String}
    (short : bits.utf8ByteSize < wordCount)
    {segments : List Segment}
    (read : Segment.listOfText bits = .ok segments) :
    SpellableRow segments where
  nonempty := ne_nil_of_listOfText read
  patterns := fun _ => spellable_of_listOfText read
  widths := fun _ => toNat_width_pos_of_listOfText short read

/-- Texts with the same segments have the same encoding, or fail alike. -/
theorem ofText_congr
    {bits other : String}
    (same : Segment.listOfText bits = Segment.listOfText other) :
    Encoding.ofText bits = Encoding.ofText other := by
  unfold Encoding.ofText
  rw [same]

/-- The pieces of two texts with a bar between them are those of the one and then of the other. -/
theorem pieces_append (former latter : String) :
    pieces (former ++ "|" ++ latter) = pieces former ++ pieces latter := by
  unfold pieces
  rw [String.toList_append, String.toList_append, List.append_assoc]
  exact List.splitOn_append_cons_self former.toList latter.toList

/-- Two texts with a bar between them are read one after the other. -/
theorem listOfText_append (former latter : String) :
    Segment.listOfText (former ++ "|" ++ latter) =
      match Segment.listOfText former, Segment.listOfText latter with
      | .ok segments, .ok others => .ok (segments ++ others)
      | .error error, _ => .error error
      | .ok _, .error error => .error error := by
  rw [listOfText_eq, listOfText_eq former, listOfText_eq latter, pieces_append,
    List.findSome?_append, List.map_append]
  cases (pieces former).findSome? localError? with
  | some error => rfl
  | none =>
      cases (pieces latter).findSome? localError? with
      | some error => rfl
      | none => rfl

/--
A row that can be spelled is read from its spelling.  Conversely, what is read from a text that is
not too long can be spelled, and the spelling is read as the text is and has the same encoding or
fails alike.  Two texts with a bar between them are read as the segments of both in a row, if both
can be read; else the former decides the error, if it cannot be read, and else the latter.
-/
theorem listOfText_round_trip :
    (∀ segments, SpellableRow segments →
      Segment.listOfText (textOfList segments) = .ok segments) ∧
    (∀ bits segments, bits.utf8ByteSize < 2 ^ 32 → Segment.listOfText bits = .ok segments →
      SpellableRow segments ∧
      Segment.listOfText (textOfList segments) = Segment.listOfText bits ∧
      Encoding.ofText (textOfList segments) = Encoding.ofText bits) ∧
    ∀ former latter,
      Segment.listOfText (former ++ "|" ++ latter) =
        match Segment.listOfText former, Segment.listOfText latter with
        | .ok segments, .ok others => .ok (segments ++ others)
        | .error error, _ => .error error
        | .ok _, .error error => .error error := by
  refine ⟨?_, ?_, listOfText_append⟩
  · intro segments row
    exact listOfText_textOfList row.nonempty row.patterns row.widths
  · intro bits segments short read
    have row := spellableRow_of_listOfText short read
    have same : Segment.listOfText (textOfList segments) = Segment.listOfText bits := by
      rw [read]
      exact listOfText_textOfList row.nonempty row.patterns row.widths
    exact ⟨row, same, ofText_congr same⟩

/-- A width that is left out, one with a leading zero and a row of digits that is no literal. -/
theorem listOfText_round_trip_of_widths :
    Segment.listOfText "0110|(x):03|100000000000000000000000000000000|Rd:24" =
      .ok [⟨"0110", 4⟩, ⟨"(x)", 3⟩, ⟨"100000000000000000000000000000000", 1⟩, ⟨"Rd", 24⟩] ∧
    Segment.listOfText "0110:4|(x):3|100000000000000000000000000000000:1|Rd:24" =
      Segment.listOfText "0110|(x):03|100000000000000000000000000000000|Rd:24" ∧
    Encoding.ofText "0110:4|(x):3|100000000000000000000000000000000:1|Rd:24" =
      Encoding.ofText "0110|(x):03|100000000000000000000000000000000|Rd:24" := by
  have read : Segment.listOfText "0110|(x):03|100000000000000000000000000000000|Rd:24" =
      .ok [⟨"0110", 4⟩, ⟨"(x)", 3⟩, ⟨"100000000000000000000000000000000", 1⟩, ⟨"Rd", 24⟩] := by
    rfl
  have spelled : textOfList
      [⟨"0110", 4⟩, ⟨"(x)", 3⟩, ⟨"100000000000000000000000000000000", 1⟩, ⟨"Rd", 24⟩] =
        "0110:4|(x):3|100000000000000000000000000000000:1|Rd:24" := by
    decide
  have short : "0110|(x):03|100000000000000000000000000000000|Rd:24".utf8ByteSize < 2 ^ 32 := by
    decide
  obtain ⟨-, back, -⟩ := listOfText_round_trip
  obtain ⟨-, segments, encodings⟩ := back _ _ short read
  rw [spelled] at segments encodings
  exact ⟨read, segments, encodings⟩

end Pattern
end InstructionTable
