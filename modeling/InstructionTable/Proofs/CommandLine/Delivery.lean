import InstructionTable.CommandLine.Run
import InstructionTable.Proofs.CommandLine.Invocation
import InstructionTable.Proofs.Directory
import InstructionTable.Proofs.Listing.Recorded

/-!
# All or nothing

A run delivers the whole listing or leaves nothing behind.  The listing is the one that is generated
from the descriptions of the list under the name of the table.  It is delivered in one place only:
it is printed, or it becomes the content of the file that is asked for.
-/

namespace InstructionTable

/-- A list is loaded when its file can be read and its bytes are such a list. -/
theorem InstructionList.load_eq_ok_iff
    {directory : Directory}
    {path : String}
    {descriptions : List Description} :
    load directory path = .ok descriptions ↔
      ∃ bytes, directory.read path = .ok bytes ∧ ofJson bytes = .ok descriptions := by
  unfold load ofContents
  cases directory.read path with
  | error error => exact iff_of_false nofun fun ⟨_, read, _⟩ => nomatch read
  | ok bytes =>
      rw [mapError_eq_ok_iff]
      constructor
      · exact fun parsed => ⟨bytes, rfl, parsed⟩
      · rintro ⟨other, same, parsed⟩
        rwa [Except.ok.inj same]

/-- A listing is generated when the descriptions compile. -/
theorem Listing.generate_eq_ok_iff
    {table : Identifier}
    {descriptions : List Description}
    {text : String} :
    generate table descriptions = .ok text ↔
      ∃ instructions, Batch.compile descriptions = .ok instructions ∧
        source table (templates instructions) = text := by
  unfold generate
  cases Batch.compile descriptions with
  | error error => exact iff_of_false nofun fun ⟨_, compiled, _⟩ => nomatch compiled
  | ok instructions =>
      constructor
      · exact fun generated => ⟨instructions, rfl, Except.ok.inj generated⟩
      · rintro ⟨others, same, rfl⟩
        rw [Except.ok.inj same]
        rfl

namespace CommandLine

/--
A listing is all that a run leaves behind: it is printed, or it is the whole of the one file that is
not as it was.
-/
def Delivered
    (output : Option String)
    (source : String)
    (before : Directory)
    (run : Outcome × Directory) : Prop :=
  match output with
  | none => run.1.output = source ∧ run.2 = before
  | some path =>
      run.1.output = "" ∧ run.2.read path = .ok source.toUTF8.toList ∧
        ∀ other, other ≠ [path] → run.2.files.lookup other = before.files.lookup other

namespace Request

variable {request : Request} {directory : Directory}

/-- The listing that is asked for, or why there is none. -/
def listing
    (request : Request)
    (directory : Directory) : Except Failure String := do
  let table ← (Identifier.ofText request.table).mapError (.tableName request.table)
  let descriptions ← (InstructionList.load directory request.input).mapError .load
  (Listing.generate table descriptions).mapError (.batch request.input)

/-- Without a listing a run fails and touches no file; with one, all that is left is delivery. -/
theorem runIn_plan
    (request : Request)
    (directory : Directory) :
    ∃ messages, request.plan.runIn directory =
      match request.listing directory with
      | .error failure => (request.failed messages failure, directory)
      | .ok source => (request.deliver messages source).runIn directory := by
  unfold plan listing
  cases Identifier.ofText request.table with
  | error error => exact ⟨[], rfl⟩
  | ok table =>
      rw [Plan.runIn_read, load, ← InstructionList.load]
      cases InstructionList.load directory request.input with
      | error error => exact ⟨_, rfl⟩
      | ok descriptions =>
          simp only [list, Listing.generate, Except.mapError, bind, Except.bind]
          cases Batch.compile descriptions with
          | error error => exact ⟨_, rfl⟩
          | ok instructions => exact ⟨_, rfl⟩

/-- A listing is delivered when the file that is asked for can be written. -/
theorem runIn_deliver_exit_eq_zero_iff
    (request : Request)
    (messages : List Message)
    (source : String)
    (directory : Directory) :
    ((request.deliver messages source).runIn directory).1.exit = 0 ↔
      ∀ path ∈ request.output, ∃ written,
        directory.write path source.toUTF8.toList = .ok written := by
  unfold deliver
  cases request.output with
  | none => exact iff_of_true rfl fun _ member => nomatch member
  | some path =>
      rw [Plan.runIn_write]
      cases result : directory.write path source.toUTF8.toList with
      | error error =>
          refine iff_of_false Nat.one_ne_zero fun writable => ?_
          obtain ⟨written, put⟩ := writable path rfl
          rw [result] at put
          contradiction
      | ok written =>
          refine iff_of_true rfl ?_
          rintro _ ⟨⟩
          exact ⟨written, result⟩

/-- A listing that is not delivered leaves nothing behind. -/
theorem runIn_deliver_of_exit_ne_zero
    {messages : List Message}
    {source : String}
    (failed : ((request.deliver messages source).runIn directory).1.exit ≠ 0) :
    ((request.deliver messages source).runIn directory).1.output = "" ∧
      ((request.deliver messages source).runIn directory).2 = directory := by
  unfold deliver at failed ⊢
  cases output : request.output with
  | none =>
      rw [output] at failed
      exact absurd rfl failed
  | some path =>
      rw [output] at failed
      simp only [Plan.runIn_write] at failed ⊢
      cases result : directory.write path source.toUTF8.toList with
      | error error => exact ⟨rfl, rfl⟩
      | ok written =>
          rw [result] at failed
          exact absurd rfl failed

/-- A listing that is delivered is all that is left behind. -/
theorem delivered_of_runIn_deliver
    {messages : List Message}
    {source : String}
    (succeeded : ((request.deliver messages source).runIn directory).1.exit = 0)
    (plain : ∀ path ∈ request.output, '/' ∉ path.toList) :
    Delivered request.output source directory
      ((request.deliver messages source).runIn directory) := by
  unfold deliver at succeeded ⊢
  cases output : request.output with
  | none => exact ⟨rfl, rfl⟩
  | some path =>
      rw [output] at succeeded
      simp only [Plan.runIn_write] at succeeded ⊢
      cases result : directory.write path source.toUTF8.toList with
      | error error =>
          rw [result] at succeeded
          contradiction
      | ok written =>
          obtain ⟨put, back⟩ := Directory.eq_put_of_write (plain path output) result
          refine ⟨rfl, back, fun other different => ?_⟩
          rw [← Directory.lookup_put_of_ne directory different, ← put]
          rfl

/-- A run that fails prints nothing and touches no file. -/
theorem runIn_plan_of_exit_ne_zero
    (failed : (request.plan.runIn directory).1.exit ≠ 0) :
    (request.plan.runIn directory).1.output = "" ∧
      (request.plan.runIn directory).2 = directory := by
  obtain ⟨messages, run⟩ := request.runIn_plan directory
  rw [run] at failed ⊢
  cases listed : request.listing directory with
  | error failure => exact ⟨rfl, rfl⟩
  | ok source =>
      rw [listed] at failed
      exact runIn_deliver_of_exit_ne_zero failed

/-- A run succeeds when there is a listing and it can be put where it is asked for. -/
theorem runIn_plan_exit_eq_zero_iff :
    (request.plan.runIn directory).1.exit = 0 ↔
      ∃ source, request.listing directory = .ok source ∧
        ∀ path ∈ request.output, ∃ written,
          directory.write path source.toUTF8.toList = .ok written := by
  obtain ⟨messages, run⟩ := request.runIn_plan directory
  rw [run]
  cases request.listing directory with
  | error failure => exact iff_of_false Nat.one_ne_zero fun ⟨_, listed, _⟩ => nomatch listed
  | ok source =>
      rw [runIn_deliver_exit_eq_zero_iff]
      constructor
      · exact fun writable => ⟨source, rfl, writable⟩
      · rintro ⟨other, same, writable⟩
        rwa [Except.ok.inj same]

/-- A run that succeeds delivers the listing, and nothing else. -/
theorem delivered_of_exit_eq_zero
    (succeeded : (request.plan.runIn directory).1.exit = 0)
    {source : String}
    (listed : request.listing directory = .ok source)
    (plain : ∀ path ∈ request.output, '/' ∉ path.toList) :
    Delivered request.output source directory (request.plan.runIn directory) := by
  obtain ⟨messages, run⟩ := request.runIn_plan directory
  rw [listed] at run
  rw [run] at succeeded ⊢
  exact delivered_of_runIn_deliver succeeded plain

end Request

namespace Invocation

variable {invocation : Invocation} {arguments : List String} {directory : Directory}

/-- The table that an invocation names: the usual one if it gives no name. -/
def Names
    (invocation : Invocation)
    (table : Identifier) : Prop :=
  match invocation.table with
  | none => table = Identifier.default
  | some name => Identifier.ofText name = .ok table

theorem ofText_default : Identifier.ofText Identifier.default.text = .ok Identifier.default :=
  Listing.ofText_text ⟨{ begins := by decide, continues := by decide }, fun _ => by decide⟩
    (.inr (by decide))

/-- The name in the request is accepted when the invocation names a table. -/
theorem names_iff
    {table : Identifier} :
    invocation.Names table ↔
      Identifier.ofText (invocation.request Identifier.default.text).table = .ok table := by
  unfold Names request
  cases invocation.table with
  | none =>
      rw [Option.getD_none, ofText_default]
      exact ⟨fun same => congrArg _ same.symm, fun same => (Except.ok.inj same).symm⟩
  | some name => rfl

/-- The listing for an invocation is generated from what its list holds. -/
theorem listing_eq_ok_iff
    {source : String} :
    (invocation.request Identifier.default.text).listing directory = .ok source ↔
      ∃ table descriptions,
        invocation.Names table ∧
        InstructionList.load directory invocation.input = .ok descriptions ∧
        Listing.generate table descriptions = .ok source := by
  constructor
  · intro listed
    obtain ⟨table, named, listed⟩ := Json.exists_of_bind_eq_ok listed
    obtain ⟨descriptions, loaded, listed⟩ := Json.exists_of_bind_eq_ok listed
    exact ⟨table, descriptions, names_iff.mpr (mapError_eq_ok_iff.mp named),
      mapError_eq_ok_iff.mp loaded, mapError_eq_ok_iff.mp listed⟩
  · rintro ⟨table, descriptions, named, loaded, generated⟩
    have loadedRequest : InstructionList.load directory
        (invocation.request Identifier.default.text).input = .ok descriptions := loaded
    rw [Request.listing, names_iff.mp named, loadedRequest]
    simp only [Except.mapError, bind, Except.bind, generated]

/-- The arguments for an invocation run its request. -/
theorem run_eq_of_spelledBy
    (spelled : invocation.SpelledBy arguments)
    (plain : ∀ part ∈ invocation.parts, part.IsPlain)
    (hasPath : ∀ part ∈ invocation.parts, part.HasPath)
    (directory : Directory) :
    run arguments directory =
      (invocation.request Identifier.default.text).plan.runIn directory := by
  rw [run, CommandLine.plan, ofArguments_of_spelledBy spelled plain hasPath]

/-- An invocation with an empty path fails. -/
theorem run_exit_of_not_hasPath
    (spelled : invocation.SpelledBy arguments)
    (plain : ∀ part ∈ invocation.parts, part.IsPlain)
    (empty : ∃ part ∈ invocation.parts, ¬part.HasPath)
    (directory : Directory) :
    (run arguments directory).1.exit ≠ 0 := by
  obtain ⟨error, refused⟩ :=
    ofArguments_of_not_hasPath spelled plain empty Identifier.default.text
  rw [run, CommandLine.plan, refused]
  exact Nat.succ_ne_zero 1

/-- There is nothing to read, or nowhere to write, under an empty path. -/
theorem empty_path
    (empty : ∃ part ∈ invocation.parts, ¬part.HasPath) :
    invocation.input = "" ∨ invocation.output = some "" := by
  obtain ⟨part, member, without⟩ := empty
  obtain ⟨input, table, output, verbose⟩ := invocation
  simp only [parts, List.mem_cons, List.mem_append, Option.mem_toList, Option.map_eq_some_iff]
    at member
  rcases member with rfl | ⟨name, -, rfl⟩ | ⟨path, rfl, rfl⟩ | asked
  · exact .inl (not_not.mp without)
  · exact absurd trivial without
  · exact .inr (congrArg some (not_not.mp without))
  · cases verbose with
    | false => contradiction
    | true =>
        obtain rfl := List.mem_singleton.mp asked
        exact absurd trivial without

end Invocation

/-- Arguments that ask for no work, or for none that can be done, leave every file alone. -/
theorem run_of_exit_ne_zero
    {arguments : List String}
    {directory : Directory}
    (failed : (run arguments directory).1.exit ≠ 0) :
    (run arguments directory).1.output = "" ∧ (run arguments directory).2 = directory := by
  unfold run CommandLine.plan at failed ⊢
  split at failed
  · next stop stopped =>
      cases stop with
      | help => exact absurd rfl failed
      | version => exact absurd rfl failed
      | usage error => exact ⟨rfl, rfl⟩
  · next request asked => exact Request.runIn_plan_of_exit_ne_zero failed

/--
A run that fails prints nothing and touches no file, whatever its arguments are.  The arguments for
an invocation, in any order, succeed exactly when its table may be named so, its list can be read,
parsed and compiled, and the file for the listing can be written.  The listing is then the one that
is generated for that table from that list, and it is all that the run leaves behind.
-/
theorem run_all_or_nothing (directory : Directory) :
    (∀ arguments, (run arguments directory).1.exit ≠ 0 →
      (run arguments directory).1.output = "" ∧ (run arguments directory).2 = directory) ∧
    ∀ (invocation : Invocation) (arguments : List String),
      invocation.SpelledBy arguments →
      (∀ part ∈ invocation.parts, part.IsPlain) →
      (∀ path ∈ invocation.output, '/' ∉ path.toList) →
      ((run arguments directory).1.exit = 0 ↔
        ∃ table bytes descriptions instructions,
          invocation.Names table ∧
          directory.read invocation.input = .ok bytes ∧
          InstructionList.ofJson bytes = .ok descriptions ∧
          Batch.compile descriptions = .ok instructions ∧
          ∀ path ∈ invocation.output, directory.IsWritable path) ∧
      ((run arguments directory).1.exit = 0 →
        ∃ table descriptions source,
          invocation.Names table ∧
          InstructionList.load directory invocation.input = .ok descriptions ∧
          Listing.generate table descriptions = .ok source ∧
          Delivered invocation.output source directory (run arguments directory)) := by
  refine ⟨fun arguments => run_of_exit_ne_zero, ?_⟩
  intro invocation arguments spelled plain file
  by_cases hasPath : ∀ part ∈ invocation.parts, part.HasPath
  · rw [Invocation.run_eq_of_spelledBy spelled plain hasPath, Request.runIn_plan_exit_eq_zero_iff]
    refine ⟨⟨?_, ?_⟩, ?_⟩
    · rintro ⟨source, listed, writable⟩
      obtain ⟨table, descriptions, named, loaded, generated⟩ :=
        Invocation.listing_eq_ok_iff.mp listed
      obtain ⟨bytes, read, parsed⟩ := InstructionList.load_eq_ok_iff.mp loaded
      obtain ⟨instructions, compiled, -⟩ := Listing.generate_eq_ok_iff.mp generated
      exact ⟨table, bytes, descriptions, instructions, named, read, parsed, compiled,
        fun path member => (Directory.isWritable_iff _).mpr (writable path member)⟩
    · rintro ⟨table, bytes, descriptions, instructions, named, read, parsed, compiled, writable⟩
      have loaded := InstructionList.load_eq_ok_iff.mpr ⟨bytes, read, parsed⟩
      have generated : Listing.generate table descriptions = _ :=
        Listing.generate_eq_ok_iff.mpr ⟨instructions, compiled, rfl⟩
      exact ⟨_, Invocation.listing_eq_ok_iff.mpr ⟨table, descriptions, named, loaded, generated⟩,
        fun path member => writable path member _⟩
    · rintro ⟨source, listed, writable⟩
      obtain ⟨table, descriptions, named, loaded, generated⟩ :=
        Invocation.listing_eq_ok_iff.mp listed
      exact ⟨table, descriptions, source, named, loaded, generated,
        Request.delivered_of_exit_eq_zero
          (Request.runIn_plan_exit_eq_zero_iff.mpr ⟨source, listed, writable⟩) listed file⟩
  · have empty : ∃ part ∈ invocation.parts, ¬part.HasPath := by
      simpa only [not_forall, exists_prop] using hasPath
    have failed := Invocation.run_exit_of_not_hasPath spelled plain empty directory
    refine ⟨iff_of_false failed ?_, fun succeeded => absurd succeeded failed⟩
    rintro ⟨table, bytes, descriptions, instructions, -, read, -, -, writable⟩
    obtain input | output := Invocation.empty_path empty
    · rw [input, Directory.read_empty] at read
      contradiction
    · exact Directory.not_isWritable_empty directory (writable "" output)

/--
A run whose arguments name its file for the listing first, which is the list itself, leaves the
listing in place of the list and all else as it was.
-/
theorem run_all_or_nothing_of_list_overwritten :
    let arguments := ["-o", "list", "--table", "T", "list"]
    let before : Directory := ⟨[(["list"], "[]".toUTF8.toList), (["other"], [0])]⟩
    let after := run arguments before
    after.1.exit = 0 ∧ after.1.output = "" ∧ after.2.files.lookup ["other"] = some [0] ∧
      ∃ source, Listing.generate { raw := false, name := "T" } [] = .ok source ∧
        after.2.read "list" = .ok source.toUTF8.toList := by
  intro arguments before after
  let invocation : Invocation :=
    { input := "list", table := some "T", output := some "list", verbose := false }
  have spelled : invocation.SpelledBy arguments :=
    ⟨[.output "list", .table "T", .input "list"], [["-o", "list"], ["--table", "T"], ["list"]],
      by decide, .cons (.shortOutput _) (.cons (.table _) (.cons (.input _) .nil)), rfl⟩
  have plain : ∀ part ∈ invocation.parts, part.IsPlain := by
    intro part member
    rcases List.mem_cons.mp member with rfl | member
    · rintro _ ⟨⟩
      decide
    · rcases List.mem_cons.mp member with rfl | member
      · rintro _ ⟨⟩
        decide
      · obtain rfl := List.mem_singleton.mp member
        rintro _ ⟨⟩
        decide
  have file : ∀ path ∈ invocation.output, '/' ∉ path.toList := by
    rintro _ ⟨⟩
    decide
  have written : "T" = ({ raw := false, name := "T" } : Identifier).text := by decide
  have named : Identifier.ofText "T" = .ok { raw := false, name := "T" } := by
    rw [written]
    exact Listing.ofText_text
      ⟨{ begins := by decide, continues := by decide }, fun _ => by decide⟩ (.inr (by decide))
  have parsed : InstructionList.ofJson "[]".toUTF8.toList = .ok [] := by decide +kernel
  have writable : ∀ path ∈ invocation.output, before.IsWritable path := by
    rintro _ ⟨⟩ bytes
    exact ⟨_, rfl⟩
  obtain ⟨succeeds, delivers⟩ :=
    (run_all_or_nothing before).2 invocation arguments spelled plain file
  have read : before.read "list" = .ok "[]".toUTF8.toList := by decide +kernel
  have succeeded := succeeds.mpr ⟨_, _, _, _, named, read, parsed, rfl, writable⟩
  obtain ⟨table, descriptions, source, names, loaded, generated, silent, back, others⟩ :=
    delivers succeeded
  have sameTable : { raw := false, name := "T" } = table := Except.ok.inj (named.symm.trans names)
  have sameList : [] = descriptions := by
    obtain ⟨bytes, found, same⟩ := InstructionList.load_eq_ok_iff.mp loaded
    rw [← Except.ok.inj (read.symm.trans found), parsed] at same
    exact Except.ok.inj same
  rw [← sameTable, ← sameList] at generated
  exact ⟨succeeded, silent, others ["other"] (by decide), source, generated, back⟩

end CommandLine
end InstructionTable
