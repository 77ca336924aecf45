import InstructionTable.Proofs.Layout.Filled
import Mathlib.Data.List.Chain

/-!
# The row of an encoding

An encoding is turned back into a row of segments.  Its fields become operands, and every bit in the
gaps around them a segment of its own: a literal where the mask is set, and a placeholder elsewhere.
When the fields descend from the top of the word and stay clear of the mask, the row is laid out as
that encoding.
-/

namespace InstructionTable
open Pattern

/-! ## Places counted from the front -/

/-- The segments of a row in their places, behind so many bits. -/
def placementsFrom (above : Nat) : List Segment → List Placement
  | [] => []
  | segment :: rest =>
      { above := above, segment := segment } ::
        placementsFrom (above + segment.width.toNat) rest

@[simp] theorem placementsFrom_cons (above : Nat) (segment : Segment) (rest : List Segment) :
    placementsFrom above (segment :: rest) =
      { above := above, segment := segment } ::
        placementsFrom (above + segment.width.toNat) rest := rfl

/-- The latter part of a row is placed behind the former. -/
theorem placementsFrom_append
    (above : Nat)
    (former latter : List Segment) :
    placementsFrom above (former ++ latter) =
      placementsFrom above former ++ placementsFrom (above + bitCount former) latter := by
  induction former generalizing above with
  | nil => rfl
  | cons segment rest inductionHypothesis =>
      rw [List.cons_append, placementsFrom_cons, placementsFrom_cons, inductionHypothesis,
        bitCount_cons, List.cons_append, Nat.add_assoc]

theorem placements_eq_placementsFrom (segments : List Segment) :
    placements segments = placementsFrom 0 segments := by
  induction segments using List.reverseRecOn with
  | nil => rfl
  | append_singleton segments segment inductionHypothesis =>
      rw [placements_concat, placementsFrom_append, inductionHypothesis, Nat.zero_add]
      rfl

namespace Segment

/-- The segment of a single bit: a literal when the bit is fixed, and else a placeholder. -/
def ofBit (fixed set : Bool) : Segment :=
  { pattern := if fixed then (if set then "1" else "0") else "()"
    width := 1 }

theorem toNat_width_ofBit : ∀ fixed set, (ofBit fixed set).width.toNat = 1 := by
  decide

theorem isLiteral_ofBit : ∀ fixed set, (ofBit fixed set).isLiteral = fixed := by
  decide

theorem isOperand_ofBit : ∀ fixed set, (ofBit fixed set).isOperand = false := by
  decide

theorem fixedBit_ofBit : ∀ fixed set, (ofBit fixed set).fixedBit 0 = (fixed && set) := by
  decide

theorem misfit?_ofBit : ∀ fixed set, (ofBit fixed set).misfit? = none := by
  decide

end Segment

namespace Encoding

/-- The segments of so many bits above another, from the top downwards. -/
def gap
    (encoding : Encoding)
    (bottom : Nat) :
    Nat → List Segment
  | 0 => []
  | count + 1 =>
      Segment.ofBit (encoding.mask.getLsbD (bottom + count))
          (encoding.opcode.getLsbD (bottom + count)) ::
        gap encoding bottom count

/-- The segments of some fields and of the gaps around them, below a height of the word. -/
def rowBelow
    (encoding : Encoding) :
    Nat → List (Field 32) → List Segment
  | height, [] => encoding.gap 0 height
  | height, field :: rest =>
      encoding.gap (field.start.toNat + 1) (height - (field.start.toNat + 1)) ++
        { pattern := field.name, width := field.length } ::
          rowBelow encoding (field.start.toNat + 1 - field.length.toNat) rest

/-- The row of an encoding. -/
def row (encoding : Encoding) : List Segment :=
  encoding.rowBelow wordBits encoding.fields

/-- The place of a single bit. -/
def bitPlacement
    (encoding : Encoding)
    (position : Nat) :
    Placement :=
  { above := wordBits - 1 - position
    segment :=
      Segment.ofBit (encoding.mask.getLsbD position) (encoding.opcode.getLsbD position) }

end Encoding

/-- The place of a field. -/
def Field.placement (field : Field 32) : Placement :=
  { above := wordBits - 1 - field.start.toNat
    segment := { pattern := field.name, width := field.length } }

namespace Encoding

variable {encoding : Encoding}

@[simp] theorem bitCount_gap (bottom count : Nat) :
    bitCount (encoding.gap bottom count) = count := by
  induction count with
  | zero => rfl
  | succ count inductionHypothesis =>
      rw [gap, bitCount_cons, inductionHypothesis, Segment.toNat_width_ofBit, Nat.add_comm]

/-- The places in a gap are those of single bits. -/
theorem exists_of_mem_placementsFrom_gap
    {above bottom count : Nat}
    (inside : above + (bottom + count) = wordBits)
    {placement : Placement}
    (member : placement ∈ placementsFrom above (encoding.gap bottom count)) :
    ∃ position < wordBits, encoding.bitPlacement position = placement := by
  induction count generalizing above with
  | zero => exact absurd member List.not_mem_nil
  | succ count inductionHypothesis =>
      rw [gap, placementsFrom_cons, Segment.toNat_width_ofBit, List.mem_cons] at member
      rcases member with rfl | behind
      · refine ⟨bottom + count, by omega, ?_⟩
        unfold bitPlacement
        congr 1
        omega
      · exact inductionHypothesis (by omega) behind

/-- The fields that begin below a height of the word and descend from there. -/
structure Descends
    (height : Nat)
    (fields : List (Field 32)) : Prop where
  /-- The first field begins below the height. -/
  below : ∀ field ∈ fields.head?, field.start.toNat < height
  /-- A field begins below the end of the one before it. -/
  ordered : fields.IsChain fun former latter =>
    latter.start.toNat + former.length.toNat ≤ former.start.toNat
  /-- No field is empty. -/
  positive : ∀ field ∈ fields, 0 < field.length.toNat
  /-- No field reaches below the word. -/
  length_le : ∀ field ∈ fields, field.length.toNat ≤ field.start.toNat + 1

/-- Behind the first field, the others descend from its end. -/
theorem Descends.tail
    {height : Nat}
    {field : Field 32}
    {rest : List (Field 32)}
    (descends : Descends height (field :: rest)) :
    Descends (field.start.toNat + 1 - field.length.toNat) rest where
  below := by
    intro next first
    have ordered := (List.isChain_cons.mp descends.ordered).1 next first
    omega
  ordered := (List.isChain_cons.mp descends.ordered).2
  positive := fun next member => descends.positive next (List.mem_cons_of_mem field member)
  length_le := fun next member => descends.length_le next (List.mem_cons_of_mem field member)

theorem Descends.head
    {height : Nat}
    {field : Field 32}
    {rest : List (Field 32)}
    (descends : Descends height (field :: rest)) :
    field.start.toNat < height ∧ 0 < field.length.toNat ∧
      field.length.toNat ≤ field.start.toNat + 1 :=
  ⟨descends.below field rfl, descends.positive field List.mem_cons_self,
    descends.length_le field List.mem_cons_self⟩

/-- The row below a height takes all bits below it. -/
theorem bitCount_rowBelow
    {height : Nat}
    {fields : List (Field 32)}
    (descends : Descends height fields) :
    bitCount (encoding.rowBelow height fields) = height := by
  induction fields generalizing height with
  | nil => exact bitCount_gap 0 height
  | cons field rest inductionHypothesis =>
      obtain ⟨below, positive, length⟩ := descends.head
      rw [rowBelow, bitCount_append, bitCount_cons, bitCount_gap,
        inductionHypothesis descends.tail]
      change _ + (field.length.toNat + _) = _
      omega

/-- The row below a height has its gaps and fields one below the other. -/
theorem placementsFrom_rowBelow
    {above height : Nat}
    (inside : above + height = wordBits)
    {field : Field 32}
    {rest : List (Field 32)}
    (descends : Descends height (field :: rest)) :
    ∃ below, below + (field.start.toNat + 1 - field.length.toNat) = wordBits ∧
      placementsFrom above (encoding.rowBelow height (field :: rest)) =
        placementsFrom above
            (encoding.gap (field.start.toNat + 1) (height - (field.start.toNat + 1))) ++
          field.placement ::
            placementsFrom below
              (encoding.rowBelow (field.start.toNat + 1 - field.length.toNat) rest) := by
  obtain ⟨below, positive, length⟩ := descends.head
  have start : above + (height - (field.start.toNat + 1)) = wordBits - 1 - field.start.toNat := by
    omega
  refine ⟨wordBits - 1 - field.start.toNat + field.length.toNat, by omega, ?_⟩
  rw [rowBelow, placementsFrom_append, bitCount_gap, start, placementsFrom_cons]
  rfl

/-- The places of the row below a height are those of its fields and of single bits. -/
theorem exists_of_mem_placementsFrom_rowBelow
    {above height : Nat}
    (inside : above + height = wordBits)
    {fields : List (Field 32)}
    (descends : Descends height fields)
    {placement : Placement}
    (member : placement ∈ placementsFrom above (encoding.rowBelow height fields)) :
    (∃ position < wordBits, encoding.bitPlacement position = placement) ∨
      ∃ field ∈ fields, field.placement = placement := by
  induction fields generalizing above height with
  | nil => exact .inl (exists_of_mem_placementsFrom_gap (by omega) member)
  | cons field rest inductionHypothesis =>
      obtain ⟨below, ends, places⟩ := placementsFrom_rowBelow inside descends
      obtain ⟨begins, -, -⟩ := descends.head
      rw [places, List.mem_append, List.mem_cons] at member
      rcases member with inGap | rfl | behind
      · exact .inl (exists_of_mem_placementsFrom_gap (by omega) inGap)
      · exact .inr ⟨field, List.mem_cons_self, rfl⟩
      · rcases inductionHypothesis ends descends.tail behind with bit | ⟨other, found, same⟩
        · exact .inl bit
        · exact .inr ⟨other, List.mem_cons_of_mem field found, same⟩

/-- There is no operand in a gap. -/
theorem filter_placementsFrom_gap
    {above bottom count : Nat}
    (inside : above + (bottom + count) = wordBits) :
    (placementsFrom above (encoding.gap bottom count)).filter
        (fun placement => placement.segment.isOperand) = [] := by
  rw [List.filter_eq_nil_iff]
  intro placement member
  obtain ⟨position, -, rfl⟩ := exists_of_mem_placementsFrom_gap inside member
  rw [bitPlacement, Segment.isOperand_ofBit]
  exact Bool.false_ne_true

/-- The place of a field is that of an operand when its name makes one. -/
theorem isOperand_placement
    {field : Field 32}
    (operand : Kind.ofPattern field.name = .operand field.name) :
    field.placement.segment.isOperand = true := by
  have kind : field.placement.segment.kind = .operand field.name := operand
  unfold Segment.isOperand
  rw [kind]

/-- The field in its place is the field again. -/
theorem field_placement
    {field : Field 32}
    (inside : field.start.toNat < wordBits) :
    field.placement.field = field := by
  have start : wordBits - 1 - (wordBits - 1 - field.start.toNat) = field.start.toNat := by omega
  unfold Field.placement Placement.field
  simp only [start, BitVec.ofNat_toNat, BitVec.setWidth_eq]

/-- The operands of the row below a height are its fields. -/
theorem filter_placementsFrom_rowBelow
    {above height : Nat}
    (inside : above + height = wordBits)
    {fields : List (Field 32)}
    (descends : Descends height fields)
    (operands : ∀ field ∈ fields, Kind.ofPattern field.name = .operand field.name) :
    ((placementsFrom above (encoding.rowBelow height fields)).filter
        fun placement => placement.segment.isOperand).map Placement.field = fields := by
  induction fields generalizing above height with
  | nil =>
      rw [rowBelow, filter_placementsFrom_gap (by omega)]
      rfl
  | cons field rest inductionHypothesis =>
      obtain ⟨below, ends, places⟩ := placementsFrom_rowBelow inside descends
      obtain ⟨begins, -, -⟩ := descends.head
      have operand := isOperand_placement (operands field List.mem_cons_self)
      have others := inductionHypothesis ends descends.tail fun other member =>
        operands other (List.mem_cons_of_mem field member)
      rw [places, List.filter_append, filter_placementsFrom_gap (by omega), List.nil_append,
        List.filter_cons, if_pos operand, List.map_cons, others, field_placement (by omega)]

theorem covers_bitPlacement_iff
    {position other : Nat}
    (inside : position < wordBits) :
    (encoding.bitPlacement position).Covers other ↔ other = position := by
  unfold Placement.Covers Placement.width bitPlacement
  rw [Segment.toNat_width_ofBit]
  dsimp only
  omega

theorem lowest_bitPlacement
    {position : Nat}
    (inside : position < wordBits) :
    (encoding.bitPlacement position).lowest = position := by
  unfold Placement.lowest Placement.width bitPlacement
  rw [Segment.toNat_width_ofBit]
  dsimp only
  omega

/-- The place of a field covers the bits between the field's bounds. -/
theorem covers_placement_iff
    {field : Field 32}
    (inside : field.start.toNat < wordBits)
    {position : Nat} :
    field.placement.Covers position ↔
      field.start.toNat + 1 - field.length.toNat ≤ position ∧ position ≤ field.start.toNat := by
  unfold Placement.Covers Placement.width Field.placement
  dsimp only
  omega

/-- What the fields of an encoding have to keep to so that a row can be made of it. -/
structure Tiles (encoding : Encoding) : Prop where
  /-- The opcode has no bit outside the mask. -/
  opcode : ∀ position, encoding.opcode.getLsbD position = true →
    encoding.mask.getLsbD position = true
  /-- The fields descend from the top of the word. -/
  descends : Descends wordBits encoding.fields
  /-- Fields begin inside the word. -/
  inside : ∀ field ∈ encoding.fields, field.start.toNat < wordBits
  /-- No bit of a field is fixed. -/
  clear : ∀ field ∈ encoding.fields, ∀ position,
    field.start.toNat + 1 - field.length.toNat ≤ position → position ≤ field.start.toNat →
      encoding.mask.getLsbD position = false
  /-- The fields' names make operands. -/
  operands : ∀ field ∈ encoding.fields, Kind.ofPattern field.name = .operand field.name

namespace Tiles

/-- The places of the row are those of the fields and of single bits. -/
theorem exists_of_mem_placements
    (tiles : encoding.Tiles)
    {placement : Placement}
    (member : placement ∈ placements encoding.row) :
    (∃ position < wordBits, encoding.bitPlacement position = placement) ∨
      ∃ field ∈ encoding.fields, field.placement = placement := by
  rw [placements_eq_placementsFrom] at member
  exact exists_of_mem_placementsFrom_rowBelow (Nat.zero_add wordBits) tiles.descends member

theorem isLiteral_placement
    (tiles : encoding.Tiles)
    {field : Field 32}
    (found : field ∈ encoding.fields) :
    field.placement.segment.isLiteral = false :=
  Segment.isLiteral_of_isOperand (isOperand_placement (tiles.operands field found))

/-- A bit of a field is neither fixed nor set. -/
theorem clear_of_covers
    (tiles : encoding.Tiles)
    {field : Field 32}
    (found : field ∈ encoding.fields)
    {position : Nat}
    (covered : field.placement.Covers position) :
    encoding.mask.getLsbD position = false ∧ encoding.opcode.getLsbD position = false := by
  obtain ⟨low, high⟩ := (covers_placement_iff (tiles.inside field found)).mp covered
  have unfixed := tiles.clear field found position low high
  refine ⟨unfixed, Bool.eq_false_iff.mpr fun set => ?_⟩
  rw [tiles.opcode position set] at unfixed
  contradiction

/-- The row of an encoding is laid out as the encoding. -/
theorem fills (tiles : encoding.Tiles) : Fills encoding.row encoding where
  full := bitCount_rowBelow tiles.descends
  clear := by
    rw [List.findSome?_eq_none_iff]
    intro placement member
    rcases tiles.exists_of_mem_placements member with ⟨position, inside, rfl⟩ | ⟨field, found, rfl⟩
    · rw [Placement.obstacle?_of_above_lt]
      · exact Segment.misfit?_ofBit _ _
      · intro operand
        rw [bitPlacement, Segment.isOperand_ofBit] at operand
        contradiction
    · have kind : field.placement.segment.kind = .operand field.name := tiles.operands field found
      unfold Placement.obstacle?
      rw [kind]
      have inside := tiles.inside field found
      have above : field.placement.above < wordBits := by
        unfold Field.placement
        dsimp only
        omega
      exact if_pos above
  mask := by
    intro placement member position covered
    rcases tiles.exists_of_mem_placements member with ⟨bit, inside, rfl⟩ | ⟨field, found, rfl⟩
    · rw [covers_bitPlacement_iff inside] at covered
      subst covered
      exact (Segment.isLiteral_ofBit _ _).symm
    · rw [(tiles.clear_of_covers found covered).1, tiles.isLiteral_placement found]
  opcode := by
    intro placement member position covered
    rcases tiles.exists_of_mem_placements member with ⟨bit, inside, rfl⟩ | ⟨field, found, rfl⟩
    · rw [covers_bitPlacement_iff inside] at covered
      subst covered
      rw [lowest_bitPlacement inside, Nat.sub_self, bitPlacement, Segment.fixedBit_ofBit]
      cases set : encoding.opcode.getLsbD position with
      | false => rw [Bool.and_false]
      | true => rw [tiles.opcode position set, Bool.and_true]
    · rw [(tiles.clear_of_covers found covered).2,
        Segment.fixedBit_of_isLiteral_eq_false (tiles.isLiteral_placement found)]
  fields := by
    unfold operandFields
    rw [placements_eq_placementsFrom]
    exact (filter_placementsFrom_rowBelow (Nat.zero_add wordBits) tiles.descends
      tiles.operands).symm

end Tiles

/-- A row is laid out as one encoding only. -/
theorem Fills.eq
    {segments : List Segment}
    {other : Encoding}
    (fills : Fills segments encoding)
    (otherFills : Fills segments other) :
    encoding = other := by
  have opcode : encoding.opcode = other.opcode := by
    apply BitVec.eq_of_getLsbD_eq
    intro position inside
    obtain ⟨placement, member, covered⟩ := exists_mem_covers fills.full inside
    rw [fills.opcode placement member position covered,
      otherFills.opcode placement member position covered]
  have mask : encoding.mask = other.mask := by
    apply BitVec.eq_of_getLsbD_eq
    intro position inside
    obtain ⟨placement, member, covered⟩ := exists_mem_covers fills.full inside
    rw [fills.mask placement member position covered,
      otherFills.mask placement member position covered]
  have fields : encoding.fields = other.fields := by
    rw [fills.fields, otherFills.fields]
  cases encoding
  cases other
  congr

/-- The row of an encoding that tiles the word is laid out as the encoding. -/
theorem Tiles.ofSegments_row (tiles : encoding.Tiles) :
    ofSegments encoding.row = .ok encoding := by
  obtain ⟨laid, compiled⟩ := exists_ofSegments_eq_ok tiles.fills.full tiles.fills.clear
  rw [compiled, tiles.fills.eq (fills_of_ofSegments compiled)]

end Encoding
end InstructionTable
