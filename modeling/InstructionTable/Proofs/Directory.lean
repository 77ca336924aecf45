import InstructionTable.Directory
import InstructionTable.Json.Scan
import InstructionTable.Proofs.Pattern.Grammar

/-!
# Files written and read back

A file of a plain name lies directly in the directory.  When it can be written it has the bytes that
were written, and no other file changes.
-/

namespace InstructionTable
namespace Directory

variable {directory : Directory} {bytes : List UInt8}

/-! ## Files by their paths -/

/-- A file that is put has its bytes. -/
theorem lookup_put_self
    (directory : Directory)
    (path : List String)
    (bytes : List UInt8) :
    (directory.put path bytes).files.lookup path = some bytes := by
  unfold put
  induction directory.files with
  | nil => simp
  | cons entry rest inductionHypothesis =>
      obtain ⟨file, old⟩ := entry
      by_cases same : file = path
      · simpa [same] using inductionHypothesis
      · have passed : (path == file) = false := beq_eq_false_iff_ne.mpr (Ne.symm same)
        simpa [same, List.lookup_cons, passed] using inductionHypothesis

/-- No other file changes when one is put. -/
theorem lookup_put_of_ne
    (directory : Directory)
    {path other : List String}
    (different : other ≠ path)
    (bytes : List UInt8) :
    (directory.put path bytes).files.lookup other = directory.files.lookup other := by
  have passed : (other == path) = false := beq_eq_false_iff_ne.mpr different
  unfold put
  induction directory.files with
  | nil => simp [List.lookup_cons, passed]
  | cons entry rest inductionHypothesis =>
      obtain ⟨file, old⟩ := entry
      by_cases same : file = path
      · simpa [same, List.lookup_cons, passed] using inductionHypothesis
      · simp only at inductionHypothesis
        simp [same, List.lookup_cons, inductionHypothesis]

/-! ## Paths of one name -/

/-- A name without a slash is the only name of its path. -/
theorem names_of_not_mem
    {name : String}
    (plain : '/' ∉ name.toList) :
    names name = [name] := by
  rw [names, Pattern.cut_eq_splitOn, List.splitOn_eq_singleton plain]
  simp

/-- A path of one name is followed by entering the name. -/
theorem follow_of_not_mem
    {name : String}
    (plain : '/' ∉ name.toList)
    (directory : Directory) :
    directory.follow name = (do
      checkPath name
      directory.enter name (.directory [])) := by
  have inside : origin name = .directory [] := by
    unfold origin
    rw [if_neg]
    intro slash
    exact plain (List.mem_of_mem_head? (Option.mem_def.mpr (eq_of_beq slash)))
  rw [follow, names_of_not_mem plain, inside, List.foldlM_cons]
  simp only [List.foldlM_nil, bind_pure]

/-- A plain name leads to a directory, or to what stands under it in the directory at hand. -/
theorem eq_place_of_follow
    {name : String}
    (plain : '/' ∉ name.toList)
    {place : Place}
    (followed : directory.follow name = .ok place) :
    place = .directory [] ∨ place = .outside ∨
      ∀ other : Directory, other.follow name = .ok (other.place [name]) := by
  rw [follow_of_not_mem plain] at followed
  obtain ⟨_, checked, entered⟩ := Json.exists_of_bind_eq_ok followed
  simp only [enter, List.isEmpty_nil, if_true, List.nil_append] at entered
  split at entered
  · exact .inl (Except.ok.inj entered).symm
  · next moves =>
      split at entered
      · exact .inr (.inl (Except.ok.inj entered).symm)
      · next inside =>
          refine .inr (.inr fun other => ?_)
          unfold named at entered
          split at entered
          · contradiction
          · next short =>
              rw [follow_of_not_mem plain, checked]
              simp [bind, Except.bind, enter, moves, inside, named, short]

/-- A file that is there is found under its plain name. -/
theorem read_of_lookup
    {name : String}
    (leads : directory.follow name = .ok (directory.place [name]))
    (there : directory.files.lookup [name] = some bytes) :
    directory.read name = .ok bytes := by
  have file : directory.place [name] = .file [name] := by
    unfold place
    rw [there]
    rfl
  rw [read, leads, file]
  simp [bind, Except.bind, there]

/-- What is written under a plain name is put there. -/
theorem eq_put_of_write
    {name : String}
    (plain : '/' ∉ name.toList)
    {after : Directory}
    (written : directory.write name bytes = .ok after) :
    after = directory.put [name] bytes ∧ after.read name = .ok bytes := by
  have noSlash : endsInSlash name = false := by
    rw [endsInSlash, beq_eq_false_iff_ne]
    intro slash
    exact plain (List.mem_of_getLast? slash)
  rw [write, noSlash] at written
  obtain ⟨place, followed, kept⟩ := Json.exists_of_bind_eq_ok written
  obtain rfl | rfl | leads := eq_place_of_follow plain followed
  · contradiction
  · contradiction
  · rw [leads directory] at followed
    have reached : after = directory.put [name] bytes := by
      unfold Directory.place at followed
      split at followed
      · rw [← Except.ok.inj followed] at kept
        exact (Except.ok.inj kept).symm
      · split at followed
        · rw [← Except.ok.inj followed] at kept
          contradiction
        · rw [← Except.ok.inj followed] at kept
          exact (Except.ok.inj kept).symm
    refine ⟨reached, read_of_lookup (leads after) ?_⟩
    rw [reached]
    exact lookup_put_self directory [name] bytes

/-! ## Paths that can be written -/

/-- Whether a file can be written under a path, whatever its bytes are. -/
def IsWritable
    (directory : Directory)
    (path : String) : Prop :=
  ∀ bytes, ∃ after, directory.write path bytes = .ok after

/-- It does not depend on the bytes whether a file can be written. -/
theorem isWritable_iff
    {path : String}
    (bytes : List UInt8) :
    directory.IsWritable path ↔ ∃ after, directory.write path bytes = .ok after := by
  refine ⟨fun writable => writable bytes, ?_⟩
  rintro ⟨after, written⟩ others
  unfold write at written ⊢
  split at written
  · next slash =>
      obtain ⟨_, _, written⟩ := Json.exists_of_bind_eq_ok written
      obtain ⟨_, _, written⟩ := Json.exists_of_bind_eq_ok written
      exact nomatch written
  · next noSlash =>
      obtain ⟨place, followed, kept⟩ := Json.exists_of_bind_eq_ok written
      rw [if_neg noSlash, followed]
      cases place with
      | file path => exact ⟨_, rfl⟩
      | vacant path => cases path <;> exact ⟨_, rfl⟩
      | nullDevice => exact ⟨_, rfl⟩
      | directory path => contradiction
      | outside => contradiction
      | root => contradiction
      | devices => contradiction

theorem read_empty (directory : Directory) : directory.read "" = .error .missing := rfl

theorem not_isWritable_empty (directory : Directory) : ¬directory.IsWritable "" := by
  intro writable
  obtain ⟨after, written⟩ := writable []
  have refused : directory.write "" [] = .error .missing := rfl
  rw [refused] at written
  contradiction

end Directory
end InstructionTable
