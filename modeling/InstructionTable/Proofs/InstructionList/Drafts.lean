import InstructionTable.Proofs.InstructionList.Reading
import Mathlib.Data.List.Basic

/-!
# The values of a record

A record gives values for the keys that it has.  They make a draft when no key has two of them and
all are strings, and the draft has the text of each.
-/

namespace InstructionTable
namespace InstructionList
open Json

/-! ## What a record gives for a key -/

/-- Whether a text spells a key, in one of its two spellings. -/
def Key.Spells
    (key : Key)
    (text : String) : Prop :=
  text = key.text ∨ text = key.capitalized

instance (key : Key) (text : String) : Decidable (key.Spells text) :=
  inferInstanceAs (Decidable (_ ∨ _))

/-- Whether a value is a string. -/
def IsString (value : Value) : Prop :=
  ∃ text, value = .scalar (.string text)

/-- The values that a record gives for a key: by its spelling, or by its place among all keys. -/
def Record.values : Record → Key → List Value
  | object members, key => members.filterMap fun member =>
      if key.Spells member.1 then some member.2 else none
  | list elements, key => elements[Key.all.idxOf key]?.toList

/-! ## Drafts -/

theorem Key.ofText?_eq_some_iff
    {text : String}
    {key : Key} :
    Key.ofText? text = some key ↔ key.Spells text := by
  constructor
  · intro found
    have spelled := List.find?_some found
    simp only [Bool.or_eq_true, beq_iff_eq] at spelled
    exact spelled.imp Eq.symm Eq.symm
  · intro spelled
    cases key <;> rcases spelled with rfl | rfl <;> decide

/-- The first value that is a string, as its text. -/
def firstText (values : List Value) : Option String :=
  values.head?.bind text?

theorem text?_eq_some_iff
    {value : Value}
    {text : String} :
    text? value = some text ↔ value = .scalar (.string text) := by
  constructor
  · intro given
    unfold text? at given
    split at given
    · rw [Option.some.inj given]
    · contradiction
  · rintro rfl
    rfl

/-- A draft takes members that give no key a second value, and no value but a string. -/
def Fits
    (draft : Draft)
    (members : List (String × Value)) : Prop :=
  ∀ key, (draft.lookup key).toList.length + ((Record.object members).values key).length ≤ 1 ∧
    ∀ value ∈ (Record.object members).values key, IsString value

/-- A member gives its value for the key that it spells. -/
theorem values_cons
    (member : String × Value)
    (members : List (String × Value))
    (key : Key) :
    (Record.object (member :: members)).values key =
      (if Key.ofText? member.1 = some key then [member.2] else []) ++
        (Record.object members).values key := by
  simp only [Record.values, List.filterMap_cons, Key.ofText?_eq_some_iff]
  by_cases spelled : key.Spells member.1
  · rw [if_pos spelled, if_pos spelled]
    rfl
  · rw [if_neg spelled, if_neg spelled]
    rfl

/-- A draft takes a member whose key it does not know, or one with a string for a new key. -/
theorem takeMember_eq_some_iff
    {draft next : Draft}
    {member : String × Value} :
    takeMember draft member = some next ↔
      (Key.ofText? member.1 = none ∧ next = draft) ∨
      ∃ key text, Key.ofText? member.1 = some key ∧ draft.lookup key = none ∧
        member.2 = .scalar (.string text) ∧ next = draft ++ [(key, text)] := by
  unfold takeMember
  cases Key.ofText? member.1 with
  | none =>
      constructor
      · exact fun taken => .inl ⟨rfl, (Option.some.inj taken).symm⟩
      · rintro (⟨-, rfl⟩ | ⟨key, text, known, -⟩)
        · rfl
        · contradiction
  | some known =>
      constructor
      · intro taken
        simp only at taken
        split at taken
        · contradiction
        · next new =>
            obtain ⟨text, given, rfl⟩ := Option.map_eq_some_iff.mp taken
            exact .inr ⟨known, text, rfl, Option.not_isSome_iff_eq_none.mp new,
              text?_eq_some_iff.mp given, rfl⟩
      · rintro (⟨unknown, -⟩ | ⟨key, text, same, new, given, rfl⟩)
        · contradiction
        · obtain rfl := Option.some.inj same
          simp [new, given, text?]

theorem lookup_concat
    (draft : Draft)
    (known : Key)
    (text : String)
    (key : Key) :
    (draft ++ [(known, text)]).lookup key =
      (draft.lookup key).or (if known = key then some text else none) := by
  rw [List.lookup_append]
  by_cases same : known = key
  · rw [if_pos same, same, List.lookup_cons_self]
  · have passed : (key == known) = false := beq_eq_false_iff_ne.mpr (Ne.symm same)
    rw [if_neg same, List.lookup_cons, passed, List.lookup_nil]

/-- A draft has the values that it takes from members, for keys without one before. -/
theorem lookup_of_foldlM_takeMember
    {draft next : Draft}
    {members : List (String × Value)}
    (taken : members.foldlM takeMember draft = some next)
    (key : Key) :
    next.lookup key = (draft.lookup key).or (firstText ((Record.object members).values key)) := by
  induction members generalizing draft with
  | nil =>
      obtain rfl := Option.some.inj taken
      exact Option.or_none.symm
  | cons member members inductionHypothesis =>
      rw [List.foldlM_cons] at taken
      obtain ⟨middle, first, others⟩ := Option.bind_eq_some_iff.mp taken
      rw [inductionHypothesis others, values_cons]
      obtain ⟨unknown, rfl⟩ | ⟨known, text, spelled, new, given, rfl⟩ :=
        takeMember_eq_some_iff.mp first
      · rw [unknown, if_neg (by simp), List.nil_append]
      · rw [spelled, lookup_concat, Option.or_assoc, given]
        by_cases same : known = key
        · rw [if_pos same, if_pos (congrArg some same)]
          rfl
        · rw [if_neg same, if_neg fun both => same (Option.some.inj both)]
          rfl

/-- Behind a value that a draft takes fits what fits with it. -/
theorem fits_concat_iff
    {draft : Draft}
    {known : Key}
    {text : String}
    {member : String × Value}
    {members : List (String × Value)}
    (spelled : Key.ofText? member.1 = some known)
    (new : draft.lookup known = none)
    (given : member.2 = .scalar (.string text)) :
    Fits (draft ++ [(known, text)]) members ↔ Fits draft (member :: members) := by
  refine forall_congr' fun key => ?_
  rw [lookup_concat, values_cons, spelled]
  by_cases same : known = key
  · subst same
    simp [new, given, IsString, Nat.add_comm]
  · rw [if_neg same, if_neg fun both => same (Option.some.inj both), Option.or_none,
      List.nil_append]

/-- A member that gives no value for a key does not matter. -/
theorem fits_cons_of_unknown
    {draft : Draft}
    {member : String × Value}
    {members : List (String × Value)}
    (unknown : Key.ofText? member.1 = none) :
    Fits draft (member :: members) ↔ Fits draft members := by
  refine forall_congr' fun key => ?_
  rw [values_cons, unknown, if_neg (by simp), List.nil_append]

/-- A member that fits a draft is taken. -/
theorem exists_takeMember_of_fits
    {draft : Draft}
    {member : String × Value}
    {members : List (String × Value)}
    (fits : Fits draft (member :: members)) :
    ∃ next, takeMember draft member = some next ∧ Fits next members := by
  cases spelled : Key.ofText? member.1 with
  | none =>
      exact ⟨draft, takeMember_eq_some_iff.mpr (.inl ⟨spelled, rfl⟩),
        (fits_cons_of_unknown spelled).mp fits⟩
  | some known =>
      obtain ⟨once, strings⟩ := fits known
      rw [values_cons, spelled, if_pos rfl] at once strings
      obtain ⟨text, given⟩ := strings member.2 List.mem_cons_self
      have new : draft.lookup known = none := by
        cases old : draft.lookup known with
        | none => rfl
        | some old =>
            rw [old] at once
            simp only [Option.toList_some, List.singleton_append, List.length_cons,
              List.length_nil] at once
            omega
      exact ⟨_, takeMember_eq_some_iff.mpr (.inr ⟨known, text, spelled, new, given, rfl⟩),
        (fits_concat_iff spelled new given).mpr fits⟩

/-- The members that a draft takes are those that fit it. -/
theorem exists_foldlM_takeMember_iff
    {draft : Draft}
    {members : List (String × Value)} :
    (∃ next, members.foldlM takeMember draft = some next) ↔ Fits draft members := by
  induction members generalizing draft with
  | nil =>
      refine iff_of_true ⟨draft, rfl⟩ fun key => ⟨?_, fun _ member => nomatch member⟩
      cases draft.lookup key <;> simp [Record.values]
  | cons member members inductionHypothesis =>
      rw [List.foldlM_cons]
      constructor
      · rintro ⟨next, taken⟩
        obtain ⟨middle, first, others⟩ := Option.bind_eq_some_iff.mp taken
        have fits := inductionHypothesis.mp ⟨next, others⟩
        obtain ⟨unknown, rfl⟩ | ⟨known, text, spelled, new, given, rfl⟩ :=
          takeMember_eq_some_iff.mp first
        · exact (fits_cons_of_unknown unknown).mpr fits
        · exact (fits_concat_iff spelled new given).mp fits
      · intro fits
        obtain ⟨middle, first, fitsNext⟩ := exists_takeMember_of_fits fits
        obtain ⟨next, others⟩ := inductionHypothesis.mpr fitsNext
        exact ⟨next, Option.bind_eq_some_iff.mpr ⟨middle, first, others⟩⟩

/-! ## Elements -/

/-- The elements that are taken are strings, no more than there are keys, and go by their places. -/
theorem takeElements_eq_some_iff
    {draft next : Draft}
    {keys : List Key}
    {elements : List Value} :
    takeElements draft keys elements = some next ↔
      ∃ texts, elements = texts.map (fun text => .scalar (.string text)) ∧
        texts.length ≤ keys.length ∧ next = draft ++ keys.zip texts := by
  induction elements generalizing draft keys with
  | nil =>
      rw [takeElements]
      constructor
      · intro taken
        refine ⟨[], rfl, Nat.zero_le _, ?_⟩
        rw [List.zip_nil_right, List.append_nil]
        exact (Option.some.inj taken).symm
      · rintro ⟨texts, none, -, rfl⟩
        rw [List.map_eq_nil_iff.mp none.symm, List.zip_nil_right, List.append_nil]
  | cons value values inductionHypothesis =>
      cases keys with
      | nil =>
          refine iff_of_false (by simp [takeElements]) ?_
          rintro ⟨texts, same, short, -⟩
          rw [List.eq_nil_of_length_eq_zero (Nat.le_zero.mp short)] at same
          contradiction
      | cons key keys =>
          rw [takeElements]
          constructor
          · intro taken
            obtain ⟨text, given, others⟩ := Option.bind_eq_some_iff.mp taken
            obtain ⟨texts, rfl, short, rfl⟩ := inductionHypothesis.mp others
            refine ⟨text :: texts, ?_, Nat.succ_le_succ short, List.append_assoc _ _ _⟩
            rw [text?_eq_some_iff.mp given, List.map_cons]
          · rintro ⟨texts, same, short, rfl⟩
            cases texts with
            | nil => contradiction
            | cons text texts =>
                obtain ⟨rfl, rfl⟩ := List.cons.inj same
                refine Option.bind_eq_some_iff.mpr ⟨text, rfl, inductionHypothesis.mpr ?_⟩
                refine ⟨texts, rfl, Nat.le_of_succ_le_succ short, ?_⟩
                rw [List.append_assoc]
                rfl

/-- The text at the place of a key is found under the key. -/
theorem lookup_zip
    {keys : List Key}
    {key : Key}
    (listed : key ∈ keys)
    (texts : List String) :
    (keys.zip texts).lookup key = texts[keys.idxOf key]? := by
  induction keys generalizing texts with
  | nil => contradiction
  | cons first others inductionHypothesis =>
      cases texts with
      | nil => rfl
      | cons text texts =>
          by_cases same : first = key
          · rw [same, List.zip_cons_cons, List.lookup_cons_self, List.idxOf_cons_self]
            rfl
          · have behind : key ∈ others := (List.mem_cons.mp listed).resolve_left (Ne.symm same)
            have passed : (key == first) = false := beq_eq_false_iff_ne.mpr (Ne.symm same)
            rw [List.zip_cons_cons, List.lookup_cons, passed, inductionHypothesis behind,
              List.idxOf_cons_ne others same, List.getElem?_cons_succ]

/-! ## Records -/

/-- A record without a wrong value has the values that it gives for each key. -/
theorem lookup_of_draft?
    {record : Record}
    {draft : Draft}
    (drafted : record.draft? = some draft)
    (key : Key) :
    draft.lookup key = firstText (record.values key) ∧ (record.values key).length ≤ 1 := by
  cases record with
  | object members =>
      refine ⟨lookup_of_foldlM_takeMember drafted key, ?_⟩
      have fits := exists_foldlM_takeMember_iff.mp ⟨draft, drafted⟩
      exact Nat.le_trans (Nat.le_add_left _ _) (fits key).1
  | list elements =>
      obtain ⟨texts, rfl, short, rfl⟩ := takeElements_eq_some_iff.mp drafted
      have listed : key ∈ Key.all := by cases key <;> decide
      rw [List.nil_append, lookup_zip listed, Record.values, List.getElem?_map]
      cases texts[Key.all.idxOf key]? with
      | none => exact ⟨rfl, Nat.zero_le 1⟩
      | some text => exact ⟨rfl, Nat.le_refl 1⟩

end InstructionList
end InstructionTable
