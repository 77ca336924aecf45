import InstructionTable.Generate
import InstructionTable.Session
import Mathlib.Data.List.Forall2

/-!
# Batches

What a batch compiles to, by itself and in parts, and what is made of it.
-/

namespace InstructionTable

/-!
## Batches and the registries made of them

A batch that compiles gives one instruction for each of its descriptions, in order.  A registry that
compiled batches are added to one by one has one template for each of their descriptions, in order.
-/

/-- A description compiles to an instruction. -/
def CompilesTo
    (description : Description)
    (instruction : Instruction) : Prop :=
  Instruction.ofDescription description = .ok instruction

/-- A batch compiles exactly when its descriptions do, one by one. -/
theorem Batch.compileFrom_eq_ok_iff
    {index : Nat}
    {descriptions : List Description}
    {instructions : List Instruction} :
    compileFrom index descriptions = .ok instructions ↔
      List.Forall₂ CompilesTo descriptions instructions := by
  induction descriptions generalizing index instructions with
  | nil =>
      rw [List.forall₂_nil_left_iff]
      exact ⟨fun same => (Except.ok.inj same).symm, fun same => congrArg Except.ok same.symm⟩
  | cons description rest inductionHypothesis =>
      rw [List.forall₂_cons_left_iff]
      unfold compileFrom
      cases first : Instruction.ofDescription description with
      | error cause =>
          refine iff_of_false (by simp) ?_
          rintro ⟨instruction, _, compiled, -⟩
          rw [CompilesTo, first] at compiled
          contradiction
      | ok instruction =>
          cases others : compileFrom (index + 1) rest with
          | error error =>
              refine iff_of_false (by simp) ?_
              rintro ⟨_, following, -, related, -⟩
              rw [inductionHypothesis.mpr related] at others
              contradiction
          | ok following =>
              constructor
              · intro same
                exact ⟨instruction, following, first, inductionHypothesis.mp others,
                  (Except.ok.inj same).symm⟩
              · rintro ⟨other, otherFollowing, compiled, related, rfl⟩
                rw [CompilesTo, first] at compiled
                rw [inductionHypothesis.mpr related] at others
                rw [Except.ok.inj compiled, Except.ok.inj others]

/-- A batch compiles to the encodings of its patterns, if each pattern has one. -/
theorem Batch.compile_of_map_ofText
    {descriptions : List Description}
    {encodings : List Encoding}
    (laid : descriptions.map (fun description => Encoding.ofText description.bits) =
      encodings.map .ok) :
    Batch.compile descriptions =
      .ok (List.zipWith Instruction.ofEncoding descriptions encodings) := by
  apply compileFrom_eq_ok_iff.mpr
  induction descriptions generalizing encodings with
  | nil => exact .nil
  | cons description rest inductionHypothesis =>
      cases encodings with
      | nil => contradiction
      | cons encoding others =>
          injection laid with first following
          have compiles : CompilesTo description (.ofEncoding description encoding) :=
            congrArg (Except.map (Instruction.ofEncoding description)) first
          exact .cons compiles (inductionHypothesis following)

/-- A table is added behind all templates. -/
theorem Registry.templates_register
    (registry : Registry)
    (table : List Template) :
    (registry.register table).templates = registry.templates ++ table := by
  simp [register, templates]

/-- A batch that compiles is added as the table of its templates. -/
theorem Registry.registerCompiled_of_compile
    {registry : Registry}
    {descriptions : List Description}
    {instructions : List Instruction}
    (compiled : Batch.compile descriptions = .ok instructions) :
    registry.registerCompiled descriptions =
      .ok (registry.register (instructions.map Template.ofInstruction)) := by
  unfold registerCompiled
  rw [compiled]
  rfl

/-- Batches that compile are all added, each template behind those of the descriptions before it. -/
theorem Registry.exists_foldlM_registerCompiled
    {batches : List (List Description)}
    (compile : ∀ batch ∈ batches, ∃ instructions, Batch.compile batch = .ok instructions)
    (registry : Registry) :
    ∃ reached instructions,
      batches.foldlM Registry.registerCompiled registry = .ok reached ∧
      List.Forall₂ CompilesTo batches.flatten instructions ∧
      reached.templates = registry.templates ++ instructions.map Template.ofInstruction := by
  induction batches generalizing registry with
  | nil => exact ⟨registry, [], rfl, .nil, by simp⟩
  | cons batch rest inductionHypothesis =>
      obtain ⟨instructions, compiled⟩ := compile batch List.mem_cons_self
      obtain ⟨reached, others, registered, related, templates⟩ :=
        inductionHypothesis (fun other member => compile other (List.mem_cons_of_mem batch member))
          (registry.register (instructions.map Template.ofInstruction))
      refine ⟨reached, instructions ++ others, ?_, ?_, ?_⟩
      · rw [List.foldlM_cons, registerCompiled_of_compile compiled]
        exact registered
      · rw [List.flatten_cons]
        exact List.rel_append (Batch.compileFrom_eq_ok_iff.mp compiled) related
      · rw [templates, templates_register, List.map_append, List.append_assoc]

/-- Checks that agree on related items find related items. -/
theorem rel_find?
    {Left Right : Type}
    {related : Left → Right → Prop}
    {leftCheck : Left → Bool}
    {rightCheck : Right → Bool}
    (agree : ∀ left right, related left right → leftCheck left = rightCheck right)
    {lefts : List Left}
    {rights : List Right}
    (aligned : List.Forall₂ related lefts rights) :
    Option.Rel related (lefts.find? leftCheck) (rights.find? rightCheck) := by
  induction aligned with
  | nil => exact .none
  | @cons left right lefts rights head tail inductionHypothesis =>
      rw [List.find?_cons, List.find?_cons, ← agree left right head]
      cases leftCheck left with
      | true => exact .some head
      | false => exact inductionHypothesis

/-!
## Batches put together

Two batches in a row compile to what each compiles to by itself, one behind the other, and the
first failure of the two ends them.  So a batch is determined by what its descriptions compile to
one by one.  What is made of a failed batch shows nothing of the descriptions in front of the
failing one: there is no listing, and a registry stays as it was.
-/

/-- The spellings of the privileged mnemonics. -/
def privilegedNames : List String :=
  ["AT", "DC", "IC", "SYS", "SYSL", "TLBI"]

/-- A name is privileged when it is spelled like one of the mnemonics. -/
theorem isPrivileged_eq (name : String) :
    isPrivileged name = decide (name ∈ privilegedNames) := by
  apply Bool.eq_iff_iff.mpr
  rw [isPrivileged, PrivilegedMnemonic.ofText?, List.find?_isSome]
  simp [PrivilegedMnemonic.all, PrivilegedMnemonic.text, privilegedNames, @eq_comm String name]

namespace Batch

/-- The same failure in a batch that has more descriptions in front. -/
def Error.behind
    (error : Error)
    (count : Nat) : Error :=
  { error with index := error.index + count }

/-- A failure is counted from the index of the first description. -/
theorem compileFrom_add
    (index count : Nat)
    (descriptions : List Description) :
    compileFrom (index + count) descriptions =
      (compileFrom index descriptions).mapError (Error.behind · count) := by
  induction descriptions generalizing index with
  | nil => rfl
  | cons description rest inductionHypothesis =>
      unfold compileFrom
      cases Instruction.ofDescription description with
      | error cause => rfl
      | ok instruction =>
          have following := inductionHypothesis (index + 1)
          rw [Nat.add_right_comm] at following
          simp only [following]
          cases compileFrom (index + 1) rest with
          | error error => rfl
          | ok instructions => rfl

/-- A batch goes on behind its front part, unless that fails. -/
theorem compileFrom_append
    (index : Nat)
    (former latter : List Description) :
    compileFrom index (former ++ latter) = (do
      let instructions ← compileFrom index former
      let others ← compileFrom (index + former.length) latter
      return instructions ++ others) := by
  induction former generalizing index with
  | nil => exact (bind_pure (compileFrom index latter)).symm
  | cons description rest inductionHypothesis =>
      rw [List.cons_append, List.length_cons, compileFrom, compileFrom,
        inductionHypothesis (index + 1), Nat.add_right_comm, Nat.add_assoc]
      cases Instruction.ofDescription description with
      | error cause => rfl
      | ok instruction =>
          cases compileFrom (index + 1) rest with
          | error error => rfl
          | ok instructions =>
              cases compileFrom (index + (rest.length + 1)) latter with
              | error error => rfl
              | ok others => rfl

/-- Two batches in a row, each compiled by itself. -/
theorem compile_append (former latter : List Description) :
    compile (former ++ latter) = (do
      let instructions ← compile former
      let others ← (compile latter).mapError (Error.behind · former.length)
      return instructions ++ others) := by
  rw [compile, compileFrom_append, compileFrom_add]
  rfl

theorem compile_singleton (description : Description) :
    compile [description] =
      match Encoding.ofText description.bits with
      | .ok encoding => .ok [Instruction.ofEncoding description encoding]
      | .error cause => .error { index := 0, name := description.name, cause := cause } := by
  rw [compile, compileFrom, Instruction.ofDescription]
  cases Encoding.ofText description.bits with
  | error cause => rfl
  | ok encoding => rfl

end Batch

/-- There is no listing exactly when the batch fails, and the failure is the same. -/
theorem Listing.generate_eq_error_iff
    {table : Identifier}
    {descriptions : List Description}
    {error : Batch.Error} :
    generate table descriptions = .error error ↔ Batch.compile descriptions = .error error := by
  unfold generate
  cases Batch.compile descriptions with
  | error other => exact ⟨fun same => congrArg _ (Except.error.inj same), fun same =>
      congrArg _ (Except.error.inj same)⟩
  | ok instructions => exact ⟨nofun, nofun⟩

/-- Under an accepted name, there is no listing of some descriptions exactly when they fail. -/
theorem Listing.generateNamed_eq_error_iff
    {name : String}
    {table : Identifier}
    (accepted : Identifier.ofText name = .ok table)
    {descriptions : List Description}
    {failure : Failure} :
    generateNamed name (.ok descriptions) = .error failure ↔
      ∃ error, Batch.compile descriptions = .error error ∧ failure = .batch error := by
  have run : generateNamed name (.ok descriptions) =
      (generate table descriptions).mapError .batch := by
    rw [generateNamed, accepted]
    rfl
  rw [run]
  cases generated : generate table descriptions with
  | error error =>
      rw [generate_eq_error_iff] at generated
      rw [generated]
      constructor
      · intro same
        exact ⟨error, rfl, (Except.error.inj same).symm⟩
      · rintro ⟨other, same, rfl⟩
        rw [Except.error.inj same]
        rfl
  | ok source =>
      refine iff_of_false nofun ?_
      rintro ⟨error, failed, -⟩
      rw [generate_eq_error_iff.mpr failed] at generated
      contradiction

/-- A batch that fails leaves a registry alone. -/
theorem Session.step_registerCompiled_of_compile
    {descriptions : List Description}
    {error : Batch.Error}
    (failed : Batch.compile descriptions = .error error)
    (registry : Registry) :
    step registry (.registerCompiled descriptions) = (registry, .error (.batch error)) := by
  have refused : registry.registerCompiled descriptions = .error error := by
    rw [Registry.registerCompiled, failed]
    rfl
  rw [step, refused]

/--
Two batches in a row fail as the former does.  If it compiles they fail as the latter does, with
the index counted on; if that compiles too they compile to the instructions of both in a row.  A
batch of one description is decided by its pattern, and keeps all that the description says.  There
is no listing under an accepted name exactly when the batch fails, with that failure, and a registry
is left as it was by a batch that fails.
-/
theorem Batch.compile_ordered_fail_fast (former latter : List Description) :
    (∀ error, compile former = .error error → compile (former ++ latter) = .error error) ∧
    (∀ instructions error,
      compile former = .ok instructions → compile latter = .error error →
        compile (former ++ latter) = .error
          { index := error.index + former.length, name := error.name, cause := error.cause }) ∧
    (∀ instructions others,
      compile former = .ok instructions → compile latter = .ok others →
        compile (former ++ latter) = .ok (instructions ++ others)) ∧
    (∀ description : Description,
      compile [description] =
        match Encoding.ofText description.bits with
        | .error cause => .error { index := 0, name := description.name, cause := cause }
        | .ok encoding => .ok
            [{ name := description.name
               opcode := encoding.opcode
               mask := encoding.mask
               fields := encoding.fields
               privileged := decide (description.name ∈ privilegedNames)
               arch := description.arch
               assembly := description.assembly
               code := description.code
               aliasOf := description.aliasOf }]) ∧
    (∀ name table, Identifier.ofText name = .ok table → ∀ descriptions,
      (∀ error, Listing.generate table descriptions = .error error ↔
        compile descriptions = .error error) ∧
      ∀ failure, Listing.generateNamed name (.ok descriptions) = .error failure ↔
        ∃ error, compile descriptions = .error error ∧ failure = .batch error) ∧
    ∀ descriptions error, compile descriptions = .error error → ∀ registry : Registry,
      registry.registerCompiled descriptions = .error error ∧
      Session.step registry (.registerCompiled descriptions) =
        (registry, .error (.batch error)) := by
  refine ⟨?_, ?_, ?_, ?_, ?_, ?_⟩
  · intro error failed
    rw [compile_append, failed]
    rfl
  · intro instructions error compiled failed
    rw [compile_append, compiled, failed]
    rfl
  · intro instructions others compiled otherCompiled
    rw [compile_append, compiled, otherCompiled]
    rfl
  · intro description
    rw [compile_singleton]
    cases Encoding.ofText description.bits with
    | error cause => rfl
    | ok encoding => simp only [Instruction.ofEncoding, isPrivileged_eq]
  · intro name table accepted descriptions
    exact ⟨fun error => Listing.generate_eq_error_iff,
      fun failure => Listing.generateNamed_eq_error_iff accepted⟩
  · intro descriptions error failed registry
    refine ⟨?_, Session.step_registerCompiled_of_compile failed registry⟩
    rw [Registry.registerCompiled, failed]
    rfl

/-- Of two failing descriptions behind one that compiles, the first decides, and all are counted. -/
theorem Batch.compile_ordered_fail_fast_of_two_faults :
    let former : List Description := [{ name := "NOP", bits := "imm:32" }]
    let latter : List Description :=
      [{ name := "B", bits := "0|imm25:25" }, { name := "BL", bits := "1|imm:x" }]
    compile latter =
      .error { index := 0, name := "B", cause := .refused (.widthMismatch 26) } ∧
    compile (former ++ latter) =
      .error { index := 1, name := "B", cause := .refused (.widthMismatch 26) } ∧
    Session.step Registry.empty (.registerCompiled (former ++ latter)) =
      (Registry.empty,
        .error (.batch { index := 1, name := "B", cause := .refused (.widthMismatch 26) })) := by
  intro former latter
  have compiled : compile former =
      .ok [{ name := "NOP", opcode := 0, mask := 0, fields := [⟨"imm", 31, 32⟩] }] := by
    rfl
  have failed : compile latter =
      .error { index := 0, name := "B", cause := .refused (.widthMismatch 26) } := by
    rfl
  obtain ⟨-, shifted, -, -, -, left⟩ := compile_ordered_fail_fast former latter
  have together := shifted _ _ compiled failed
  exact ⟨failed, together, (left _ _ together Registry.empty).2⟩

end InstructionTable
