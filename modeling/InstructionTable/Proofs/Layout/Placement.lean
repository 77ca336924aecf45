import InstructionTable.Pattern.Encoding
import Mathlib.Data.List.Induction
import Mathlib.Logic.ExistsUnique
import Mathlib.Algebra.Ring.Nat

/-!
# Segments in their places

A row of segments is laid out over a word from the top downwards.  A segment takes the bits right
below those of the segments in front of it.  The places of a row follow one another without a gap,
so every bit of the word lies in exactly one of them when the widths add up to a word.
-/

namespace InstructionTable
open Pattern

/-- The number of bits that a row of segments takes. -/
def bitCount (segments : List Segment) : Nat :=
  (segments.map fun segment => segment.width.toNat).sum

@[simp] theorem bitCount_nil : bitCount [] = 0 := rfl

@[simp] theorem bitCount_append (former latter : List Segment) :
    bitCount (former ++ latter) = bitCount former + bitCount latter := by
  simp [bitCount]

@[simp] theorem bitCount_cons (segment : Segment) (rest : List Segment) :
    bitCount (segment :: rest) = segment.width.toNat + bitCount rest := by
  simp [bitCount]

namespace Segment

/-- Whether the bits of a segment are fixed. -/
def isLiteral (segment : Segment) : Bool :=
  match segment.kind with
  | .literal _ => true
  | .ignored | .operand _ => false

/-- Whether the bits of a segment hold an operand. -/
def isOperand (segment : Segment) : Bool :=
  match segment.kind with
  | .operand _ => true
  | .ignored | .literal _ => false

/-- Whether the bits of a segment may hold anything. -/
def isIgnored (segment : Segment) : Bool :=
  match segment.kind with
  | .ignored => true
  | .literal _ | .operand _ => false

/-- The bit that a segment fixes at a distance from its lowest bit; false where it fixes none. -/
def fixedBit
    (segment : Segment)
    (distance : Nat) :
    Bool :=
  match segment.kind with
  | .literal value => value.getLsbD distance
  | .ignored | .operand _ => false

theorem fixedBit_of_isLiteral_eq_false
    {segment : Segment}
    (other : segment.isLiteral = false)
    (distance : Nat) :
    segment.fixedBit distance = false := by
  unfold isLiteral at other
  unfold fixedBit
  cases kind : segment.kind with
  | ignored => rfl
  | literal value => simp [kind] at other
  | operand name => rfl

theorem isLiteral_of_fixedBit
    {segment : Segment}
    {distance : Nat}
    (set : segment.fixedBit distance = true) :
    segment.isLiteral = true := by
  by_contra other
  rw [fixedBit_of_isLiteral_eq_false (Bool.eq_false_iff.mpr other)] at set
  contradiction

theorem isLiteral_of_isOperand
    {segment : Segment}
    (operand : segment.isOperand = true) :
    segment.isLiteral = false := by
  unfold isOperand at operand
  unfold isLiteral
  cases kind : segment.kind with
  | ignored => rfl
  | literal value => simp [kind] at operand
  | operand name => rfl

/-- An operand has the name that its segment spells. -/
theorem pattern_eq_of_kind_eq_operand
    {segment : Segment}
    {name : String}
    (operand : segment.kind = .operand name) :
    segment.pattern = name := by
  unfold kind Kind.ofPattern at operand
  by_cases opens : opensPlaceholder segment.pattern.toList
  · simp [opens] at operand
  · cases literal : literalValue? segment.pattern.toList with
    | some value => simp [opens, literal] at operand
    | none => simpa [opens, literal] using operand

end Segment

/-- A segment in its place. -/
structure Placement where
  /-- The number of bits that the segments in front of it take. -/
  above : Nat
  /-- The segment. -/
  segment : Segment

namespace Placement

/-- The number of bits of a place. -/
abbrev width (placement : Placement) : Nat :=
  placement.segment.width.toNat

/-- The lowest bit of a place. -/
def lowest (placement : Placement) : Nat :=
  wordBits - (placement.above + placement.width)

/-- A place takes as many bits as its width says, from bit `31 - above` downwards. -/
def Covers
    (placement : Placement)
    (position : Nat) : Prop :=
  placement.above + position < wordBits ∧
    wordBits ≤ placement.above + position + placement.width

instance (placement : Placement) (position : Nat) :
    Decidable (placement.Covers position) := by
  unfold Covers
  infer_instance

theorem Covers.lt_wordBits
    {placement : Placement}
    {position : Nat}
    (covered : placement.Covers position) :
    position < wordBits := by
  unfold Covers at covered
  omega

/-- The field of a place that holds an operand. -/
def field (placement : Placement) : Field 32 :=
  { name := placement.segment.pattern
    start := BitVec.ofNat 32 (wordBits - 1 - placement.above)
    length := placement.segment.width }

/-- Inside a word, a place takes the bits from its lowest one on. -/
theorem covers_iff
    {placement : Placement}
    {position : Nat}
    (inside : placement.above + placement.width ≤ wordBits) :
    placement.Covers position ↔
      placement.lowest ≤ position ∧ position < placement.lowest + placement.width := by
  unfold Covers lowest
  omega

end Placement

/-- The segments of a row in their places. -/
def placements (segments : List Segment) : List Placement :=
  segments.mapIdx fun index segment =>
    { above := bitCount (segments.take index), segment := segment }

@[simp] theorem placements_nil : placements [] = [] := rfl

@[simp] theorem placements_concat (segments : List Segment) (segment : Segment) :
    placements (segments ++ [segment]) =
      placements segments ++ [{ above := bitCount segments, segment := segment }] := by
  simp only [placements, List.mapIdx_concat, List.take_left', List.append_cancel_right_eq]
  apply List.mapIdx_eq_mapIdx_iff.mpr
  intro index inside
  rw [List.take_append_of_le_length (Nat.le_of_lt inside)]

@[simp] theorem length_placements (segments : List Segment) :
    (placements segments).length = segments.length := by
  simp [placements]

@[simp] theorem map_segment_placements (segments : List Segment) :
    (placements segments).map Placement.segment = segments := by
  induction segments using List.reverseRecOn with
  | nil => rfl
  | append_singleton segments segment inductionHypothesis =>
      rw [placements_concat, List.map_append, inductionHypothesis]
      rfl

theorem segment_mem_of_mem_placements
    {segments : List Segment}
    {placement : Placement}
    (member : placement ∈ placements segments) :
    placement.segment ∈ segments := by
  rw [← map_segment_placements segments]
  exact List.mem_map_of_mem member

/-- The places of a row end where its bits end. -/
theorem above_add_width_le_bitCount
    {segments : List Segment}
    {placement : Placement}
    (member : placement ∈ placements segments) :
    placement.above + placement.width ≤ bitCount segments := by
  induction segments using List.reverseRecOn with
  | nil => simp at member
  | append_singleton segments segment inductionHypothesis =>
      simp only [placements_concat, List.mem_append, List.mem_singleton] at member
      rcases member with former | rfl
      · have bound := inductionHypothesis former
        simp only [bitCount_append]
        omega
      · simp

/-- A place ends at the latest where a place behind it begins. -/
theorem placements_pairwise (segments : List Segment) :
    (placements segments).Pairwise fun former latter =>
      former.above + former.width ≤ latter.above := by
  induction segments using List.reverseRecOn with
  | nil => simp
  | append_singleton segments segment inductionHypothesis =>
      rw [placements_concat, List.pairwise_append]
      refine ⟨inductionHypothesis, List.pairwise_singleton _ _, ?_⟩
      intro former present latter last
      rw [List.mem_singleton] at last
      subst last
      exact above_add_width_le_bitCount present

/-- Two places of which one ends before the other begins have no bit in common. -/
theorem Placement.Covers.not_covers_of_le
    {former latter : Placement}
    {position : Nat}
    (covered : former.Covers position)
    (apart : former.above + former.width ≤ latter.above) :
    ¬latter.Covers position := by
  unfold Placement.Covers at *
  omega

/-- A row takes every bit from the top of the word as far down as it has bits. -/
theorem exists_covers
    {segments : List Segment}
    {position : Nat}
    (upper : position < wordBits)
    (lower : wordBits ≤ position + bitCount segments) :
    ∃ (index : Nat) (placement : Placement),
      (placements segments)[index]? = some placement ∧ placement.Covers position := by
  induction segments using List.reverseRecOn with
  | nil =>
      rw [bitCount_nil] at lower
      omega
  | append_singleton segments segment inductionHypothesis =>
      by_cases higher : wordBits ≤ position + bitCount segments
      · obtain ⟨index, placement, found, covered⟩ := inductionHypothesis higher
        have inside : index < (placements segments).length :=
          (List.getElem?_eq_some_iff.mp found).1
        refine ⟨index, placement, ?_, covered⟩
        rw [placements_concat, List.getElem?_append_left inside, found]
      · refine ⟨(placements segments).length,
          { above := bitCount segments, segment := segment }, by simp, ?_⟩
        simp only [bitCount_append, bitCount_cons, bitCount_nil] at lower
        simp only [Placement.Covers, Placement.width]
        omega

/-- A row that fills a word takes every bit of it. -/
theorem exists_mem_covers
    {segments : List Segment}
    (full : bitCount segments = wordBits)
    {position : Nat}
    (inside : position < wordBits) :
    ∃ placement ∈ placements segments, placement.Covers position := by
  obtain ⟨index, placement, found, covered⟩ :=
    exists_covers inside (show wordBits ≤ position + bitCount segments by omega)
  exact ⟨placement, List.mem_of_getElem? found, covered⟩

/-- No bit lies in two places of a row. -/
theorem index_eq_of_covers
    {segments : List Segment}
    {position : Nat}
    {left right : Nat}
    {leftPlacement rightPlacement : Placement}
    (leftFound : (placements segments)[left]? = some leftPlacement)
    (rightFound : (placements segments)[right]? = some rightPlacement)
    (leftCovers : leftPlacement.Covers position)
    (rightCovers : rightPlacement.Covers position) :
    left = right := by
  have ordered := List.pairwise_iff_getElem.mp (placements_pairwise segments)
  obtain ⟨leftInside, rfl⟩ := List.getElem?_eq_some_iff.mp leftFound
  obtain ⟨rightInside, rfl⟩ := List.getElem?_eq_some_iff.mp rightFound
  rcases Nat.lt_trichotomy left right with before | same | behind
  · exact absurd rightCovers
      (leftCovers.not_covers_of_le (ordered left right leftInside rightInside before))
  · exact same
  · exact absurd leftCovers
      (rightCovers.not_covers_of_le (ordered right left rightInside leftInside behind))

/-- A bit lies in one place only. -/
theorem eq_of_covers
    {segments : List Segment}
    {former latter : Placement}
    (formerMember : former ∈ placements segments)
    (latterMember : latter ∈ placements segments)
    {position : Nat}
    (formerCovers : former.Covers position)
    (latterCovers : latter.Covers position) :
    former = latter := by
  obtain ⟨index, found⟩ := List.getElem?_of_mem formerMember
  obtain ⟨other, otherFound⟩ := List.getElem?_of_mem latterMember
  have same := index_eq_of_covers found otherFound formerCovers latterCovers
  subst same
  rw [found] at otherFound
  injection otherFound

/-- A row that fills a word has exactly one place for every bit. -/
theorem existsUnique_covers
    {segments : List Segment}
    (full : bitCount segments = wordBits)
    {position : Nat}
    (inside : position < wordBits) :
    ∃! index : Nat, ∃ placement : Placement,
      (placements segments)[index]? = some placement ∧ placement.Covers position := by
  obtain ⟨index, placement, found, covered⟩ :=
    exists_covers inside (show wordBits ≤ position + bitCount segments by omega)
  refine ⟨index, ⟨placement, found, covered⟩, ?_⟩
  rintro other ⟨otherPlacement, otherFound, otherCovered⟩
  exact index_eq_of_covers otherFound found otherCovered covered

end InstructionTable
