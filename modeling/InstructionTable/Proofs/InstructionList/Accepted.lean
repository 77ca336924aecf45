import InstructionTable.Proofs.InstructionList.Drafts
import Mathlib.Data.List.Forall2

/-!
# Which lists are accepted

A document is accepted exactly when each of its records gives every key at most one value, which is
a string, and gives values for the name and the bit pattern.  It then gives one description for each
record, with those values.
-/

namespace InstructionTable
namespace InstructionList
open Json

/-! ## What is accepted -/

namespace Record

/-- Whether a record is accepted. -/
def IsAccepted : Record → Prop
  | object members =>
      (∀ key, ((object members).values key).length ≤ 1) ∧
      (object members).values .name ≠ [] ∧
      (object members).values .bits ≠ [] ∧
      ∀ key, ∀ value ∈ (object members).values key, IsString value
  | list elements =>
      2 ≤ elements.length ∧ elements.length ≤ 6 ∧ ∀ value ∈ elements, IsString value

/-- The text of a description for a key. -/
def textOf (description : Description) : Key → String
  | .name => description.name
  | .bits => description.bits
  | .arch => description.arch
  | .assembly => description.assembly
  | .code => description.code
  | .aliasOf => description.aliasOf

/-- Whether a description has the values of a record, and is empty where the record has none. -/
def Describes
    (record : Record)
    (description : Description) : Prop :=
  ∀ key, (∀ text, .scalar (.string text) ∈ record.values key → textOf description key = text) ∧
    (record.values key = [] → textOf description key = "")

end Record

/-! ## Records -/

/-- A draft is finished when it has the values it cannot do without. -/
theorem exists_finish_iff
    {draft : Draft} :
    (∃ description, finish draft = some description) ↔
      draft.lookup .name ≠ none ∧ draft.lookup .bits ≠ none := by
  unfold finish
  cases draft.lookup .name with
  | none => simp
  | some name => cases draft.lookup .bits <;> simp

/-- A finished draft has its values, and nothing where it has none. -/
theorem textOf_of_finish
    {draft : Draft}
    {description : Description}
    (finished : finish draft = some description)
    (key : Key) :
    Record.textOf description key = (draft.lookup key).getD "" := by
  obtain ⟨name, named, finished⟩ := Option.bind_eq_some_iff.mp finished
  obtain ⟨bits, given, rfl⟩ := Option.map_eq_some_iff.mp finished
  cases key with
  | name => rw [named]; rfl
  | bits => rw [given]; rfl
  | arch => rfl
  | assembly => rfl
  | code => rfl
  | aliasOf => rfl

theorem firstText_ne_none_iff
    {values : List Value}
    (strings : ∀ value ∈ values, IsString value) :
    firstText values ≠ none ↔ values ≠ [] := by
  cases values with
  | nil => exact iff_of_false (fun some => some rfl) fun some => some rfl
  | cons value values =>
      obtain ⟨text, rfl⟩ := strings value List.mem_cons_self
      exact iff_of_true (Option.some_ne_none text) (List.cons_ne_nil _ _)

/-- A record describes what it gives. -/
theorem describes_of_description?
    {record : Record}
    {description : Description}
    (given : record.description? = some description) :
    record.Describes description := by
  obtain ⟨draft, drafted, finished⟩ := Option.bind_eq_some_iff.mp given
  intro key
  obtain ⟨found, once⟩ := lookup_of_draft? drafted key
  rw [textOf_of_finish finished, found]
  refine ⟨?_, ?_⟩
  · intro text member
    obtain ⟨value, alone⟩ := List.length_eq_one_iff.mp
      (Nat.le_antisymm once (List.length_pos_of_mem member))
    rw [alone] at member ⊢
    rw [← List.mem_singleton.mp member]
    rfl
  · intro none
    rw [none]
    rfl

/-- A record gives a description when its values can be had and none is missing. -/
theorem exists_description?_iff
    {record : Record} :
    (∃ description, record.description? = some description) ↔
      (∃ draft, record.draft? = some draft) ∧
        firstText (record.values .name) ≠ none ∧ firstText (record.values .bits) ≠ none := by
  constructor
  · rintro ⟨description, given⟩
    obtain ⟨draft, drafted, finished⟩ := Option.bind_eq_some_iff.mp given
    rw [← (lookup_of_draft? drafted .name).1, ← (lookup_of_draft? drafted .bits).1]
    exact ⟨⟨draft, drafted⟩, exists_finish_iff.mp ⟨description, finished⟩⟩
  · rintro ⟨⟨draft, drafted⟩, complete⟩
    rw [← (lookup_of_draft? drafted .name).1, ← (lookup_of_draft? drafted .bits).1] at complete
    obtain ⟨description, finished⟩ := exists_finish_iff.mpr complete
    exact ⟨description, Option.bind_eq_some_iff.mpr ⟨draft, drafted, finished⟩⟩

/-- The values of an object can be had when it gives no key two, and all are strings. -/
theorem exists_draft?_object_iff
    {members : List (String × Value)} :
    (∃ draft, (Record.object members).draft? = some draft) ↔
      ∀ key, ((Record.object members).values key).length ≤ 1 ∧
        ∀ value ∈ (Record.object members).values key, IsString value := by
  rw [Record.draft?, exists_foldlM_takeMember_iff]
  refine forall_congr' fun key => ?_
  rw [List.lookup_nil, Option.toList_none, List.length_nil, Nat.zero_add]

theorem forall_isString_iff
    {values : List Value} :
    (∀ value ∈ values, IsString value) ↔
      ∃ texts : List String, values = texts.map fun text => .scalar (.string text) := by
  constructor
  · intro strings
    induction values with
    | nil => exact ⟨[], rfl⟩
    | cons value values inductionHypothesis =>
        obtain ⟨text, rfl⟩ := strings value List.mem_cons_self
        obtain ⟨texts, rfl⟩ := inductionHypothesis fun other member =>
          strings other (List.mem_cons_of_mem _ member)
        exact ⟨text :: texts, rfl⟩
  · rintro ⟨texts, rfl⟩ value member
    obtain ⟨text, -, rfl⟩ := List.mem_map.mp member
    exact ⟨text, rfl⟩

/-- The values of a list can be had when there are no more than keys, and all are strings. -/
theorem exists_draft?_list_iff
    {elements : List Value} :
    (∃ draft, (Record.list elements).draft? = some draft) ↔
      elements.length ≤ 6 ∧ ∀ value ∈ elements, IsString value := by
  rw [forall_isString_iff]
  constructor
  · rintro ⟨draft, drafted⟩
    obtain ⟨texts, rfl, short, -⟩ := takeElements_eq_some_iff.mp drafted
    exact ⟨by rwa [List.length_map], texts, rfl⟩
  · rintro ⟨short, texts, rfl⟩
    rw [List.length_map] at short
    exact ⟨_, takeElements_eq_some_iff.mpr ⟨texts, rfl, short, rfl⟩⟩

/-- The first of the values at the place of a key is missing where the list is too short. -/
theorem firstText_values_list_iff
    {elements : List Value}
    (strings : ∀ value ∈ elements, IsString value)
    (key : Key) :
    firstText ((Record.list elements).values key) ≠ none ↔
      Key.all.idxOf key < elements.length := by
  rw [firstText_ne_none_iff, Record.values]
  · rw [Ne, Option.toList_eq_nil_iff, List.getElem?_eq_none_iff, Nat.not_le]
  · intro value member
    rw [Record.values, Option.mem_toList] at member
    exact strings value (List.mem_of_getElem? member)

/-- A record gives a description when it is accepted. -/
theorem isAccepted_iff
    {record : Record} :
    record.IsAccepted ↔ ∃ description, record.description? = some description := by
  rw [exists_description?_iff]
  cases record with
  | object members =>
      rw [exists_draft?_object_iff, Record.IsAccepted]
      constructor
      · rintro ⟨once, named, coded, strings⟩
        exact ⟨fun key => ⟨once key, strings key⟩,
          (firstText_ne_none_iff (strings .name)).mpr named,
          (firstText_ne_none_iff (strings .bits)).mpr coded⟩
      · rintro ⟨fits, named, coded⟩
        exact ⟨fun key => (fits key).1, (firstText_ne_none_iff (fits .name).2).mp named,
          (firstText_ne_none_iff (fits .bits).2).mp coded, fun key => (fits key).2⟩
  | list elements =>
      have places : Key.all.idxOf .name = 0 ∧ Key.all.idxOf .bits = 1 := ⟨rfl, rfl⟩
      rw [exists_draft?_list_iff, Record.IsAccepted]
      constructor
      · rintro ⟨long, short, strings⟩
        rw [firstText_values_list_iff strings, firstText_values_list_iff strings, places.1,
          places.2]
        exact ⟨⟨short, strings⟩, Nat.lt_of_succ_lt long, long⟩
      · rintro ⟨⟨short, strings⟩, -, long⟩
        rw [firstText_values_list_iff strings, places.2] at long
        exact ⟨long, short, strings⟩

/-! ## Documents -/

section Maps

variable {Item Result : Type} {give : Item → Option Result} {items : List Item}

/-- A map succeeds when it gives something for each item. -/
theorem exists_mapM_eq_some_iff :
    (∃ results, items.mapM give = some results) ↔
      ∀ item ∈ items, ∃ result, give item = some result := by
  induction items with
  | nil => exact iff_of_true ⟨[], rfl⟩ fun _ member => nomatch member
  | cons item items inductionHypothesis =>
      rw [List.forall_mem_cons, ← inductionHypothesis, List.mapM_cons]
      constructor
      · rintro ⟨results, given⟩
        obtain ⟨result, first, given⟩ := Option.bind_eq_some_iff.mp given
        obtain ⟨others, rest, -⟩ := Option.bind_eq_some_iff.mp given
        exact ⟨⟨result, first⟩, others, rest⟩
      · rintro ⟨⟨result, first⟩, others, rest⟩
        rw [first, rest]
        exact ⟨result :: others, rfl⟩

theorem forall₂_of_mapM_eq_some
    {results : List Result}
    (given : items.mapM give = some results) :
    List.Forall₂ (fun item result => give item = some result) items results := by
  induction items generalizing results with
  | nil =>
      obtain rfl := Option.some.inj given
      exact .nil
  | cons item items inductionHypothesis =>
      rw [List.mapM_cons] at given
      obtain ⟨result, first, given⟩ := Option.bind_eq_some_iff.mp given
      obtain ⟨others, rest, same⟩ := Option.bind_eq_some_iff.mp given
      obtain rfl := Option.some.inj same
      exact .cons first (inductionHypothesis rest)

end Maps

/--
However a document is written, it is accepted exactly when each of its records is: an object that
gives no key two values, gives the name and the bit pattern, and gives only strings, or a list of
two to six strings.  It then gives one description for each record, in their order, with the values
of the record and nothing where it has none.
-/
theorem ofJson_accepts_exactly
    {records : List Record}
    {text : Bytes}
    (written : WritesTokens (Value.list (records.map Record.value)).tokens text) :
    ((∃ descriptions, ofJson text = .ok descriptions) ↔
      ∀ record ∈ records, record.IsAccepted) ∧
    ∀ descriptions, ofJson text = .ok descriptions →
      List.Forall₂ Record.Describes records descriptions := by
  refine ⟨?_, fun descriptions read => ?_⟩
  · simp only [ofJson_eq_ok_iff written, exists_mapM_eq_some_iff, isAccepted_iff]
  · have given := forall₂_of_mapM_eq_some ((ofJson_eq_ok_iff written).mp read)
    exact given.imp fun record description => describes_of_description?

/--
An object with a capitalised key that has an escape in it, a name that is an escaped pair, and a
value for a key that is not known.
-/
theorem ofJson_accepts_exactly_of_escapes :
    ∃ description,
      ofJson (ascii "[\x7b\"\\u004Eame\":\"\\uD83d\\uDE00\", \"x\":[],\"bits\":\"1\"\x7d]") =
        .ok [description] ∧
      description.name = "😀" ∧ description.bits = "1" ∧ description.code = "" := by
  let record : Record := .object
    [("Name", .scalar (.string "😀")), ("x", .list []), ("bits", .scalar (.string "1"))]
  have lower (digit : Nat) (byte : UInt8)
      (listed : (ascii "0123456789abcdef")[digit]? = some byte) : WritesDigit digit byte :=
    .inl listed
  have upper (digit : Nat) (byte : UInt8)
      (listed : (ascii "0123456789ABCDEF")[digit]? = some byte) : WritesDigit digit byte :=
    .inr listed
  have zero : WritesDigit 0 0x30 := lower 0 0x30 (by decide)
  have letter : WritesUnit 'N'.toNat (ascii "004E") :=
    .digits zero zero (lower 4 0x34 (by decide)) (upper 14 0x45 (by decide))
  have leading : WritesUnit 0xD83D (ascii "D83d") :=
    .digits (upper 13 0x44 (by decide)) (lower 8 0x38 (by decide)) (lower 3 0x33 (by decide))
      (lower 13 0x64 (by decide))
  have trailing : WritesUnit 0xDE00 (ascii "DE00") :=
    .digits (upper 13 0x44 (by decide)) (upper 14 0x45 (by decide)) zero zero
  have name : WritesAll "Name".toList _ :=
    .cons (.escaped (.number letter)) (@writesAll_itself "ame".toList (by simp))
  have face : WritesAll "😀".toList _ := .cons (.escaped (.pair (by decide) leading trailing)) .nil
  have none : ([] : Bytes) ⊆ ascii " \t\n\r" := List.nil_subset _
  have space : [0x20] ⊆ ascii " \t\n\r" := by decide
  have written : WritesTokens (Value.list [record.value]).tokens _ :=
    .cons none .openingList (.cons none .openingObject
      (.cons none (.scalar (.string name)) (.cons none .colon
        (.cons none (.scalar (.string face)) (.cons none .comma
      (.cons space (.scalar (.string (writesAll_itself (by simp)))) (.cons none .colon
        (.cons none .openingList (.cons none .closingList (.cons none .comma
      (.cons none (.scalar (.string (writesAll_itself (by simp)))) (.cons none .colon
        (.cons none (.scalar (.string (writesAll_itself (by simp))))
      (.cons none .closingObject (.cons none .closingList (.nil none))))))))))))))))
  have values : ∀ key, record.values key = match key with
      | .name => [.scalar (.string "😀")]
      | .bits => [.scalar (.string "1")]
      | _ => [] := by
    intro key
    cases key <;> simp [record, Record.values, Key.Spells, Key.text, Key.capitalized]
  have accepted : record.IsAccepted := by
    refine ⟨?_, ?_, ?_, ?_⟩
    · intro key
      rw [values]
      cases key <;> simp
    · simp [record, values]
    · simp [record, values]
    · intro key value member
      rw [values] at member
      cases key <;> simp at member
      · exact ⟨_, member⟩
      · exact ⟨_, member⟩
  obtain ⟨accepts, describes⟩ := @ofJson_accepts_exactly [record] _ written
  obtain ⟨descriptions, read⟩ := accepts.mpr fun other member =>
    List.mem_singleton.mp member ▸ accepted
  obtain ⟨description, others, described, rest, rfl⟩ :=
    List.forall₂_cons_left_iff.mp (describes descriptions read)
  rw [List.forall₂_nil_left_iff.mp rest] at read
  refine ⟨description, ?_, ?_, ?_, ?_⟩
  · refine .trans (congrArg ofJson ?_) read
    decide
  · exact (described .name).1 "😀" (by simp [values])
  · exact (described .bits).1 "1" (by simp [values])
  · exact (described .code).2 (values .code)

end InstructionList
end InstructionTable
