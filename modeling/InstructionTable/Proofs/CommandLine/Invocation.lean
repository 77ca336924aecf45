import InstructionTable.CommandLine.Arguments
import InstructionTable.Json.Scan
import Mathlib.Data.List.Forall2
import Mathlib.Data.List.Perm.Basic

/-!
# Invocations

The arguments of an invocation are read the same in any order of their parts.
-/

namespace InstructionTable
namespace CommandLine

/-!
## Arguments in parts

The arguments of a run are put together from parts: the list, and options with their values.  In
whatever order the parts come, the reader takes each of them for what it is.
-/

/-- A part of the arguments. -/
inductive Part where
  | input (path : String)
  | table (name : String)
  | output (path : String)
  | verbose
deriving DecidableEq, Repr

namespace Part

/-- The ways to spell a part. -/
inductive Spelled : Part → List String → Prop where
  | input (path : String) : Spelled (input path) [path]
  | table (name : String) : Spelled (table name) ["--table", name]
  | shortOutput (path : String) : Spelled (output path) ["-o", path]
  | longOutput (path : String) : Spelled (output path) ["--output", path]
  | shortVerbose : Spelled verbose ["-v"]
  | longVerbose : Spelled verbose ["--verbose"]

/-- The parameter that a part gives. -/
def parameter : Part → Parameter
  | input _ => .input
  | table _ => .table
  | output _ => .output
  | verbose => .verbose

/-- The value of a part. -/
def value? : Part → Option String
  | input value | table value | output value => some value
  | verbose => none

/-- Whether the value of a part cannot be taken for an option. -/
def IsPlain (part : Part) : Prop :=
  ∀ value ∈ part.value?, value.toList.head? ≠ some '-'

/-- Whether the path in a part is not empty. -/
def HasPath : Part → Prop
  | input path | output path => path ≠ ""
  | table _ | verbose => True

/-- The path of the list in a part. -/
def input? : Part → Option String
  | input path => some path
  | _ => none

/-- The name of the table in a part. -/
def table? : Part → Option String
  | table name => some name
  | _ => none

/-- The path of the listing in a part. -/
def output? : Part → Option String
  | output path => some path
  | _ => none

/-- Whether a part asks for more messages. -/
def isVerbose : Part → Bool
  | verbose => true
  | _ => false

theorem input?_eq_none
    {part : Part}
    (different : part.parameter ≠ .input) :
    part.input? = none := by
  cases part <;> first | rfl | contradiction

theorem table?_eq_none
    {part : Part}
    (different : part.parameter ≠ .table) :
    part.table? = none := by
  cases part <;> first | rfl | contradiction

theorem output?_eq_none
    {part : Part}
    (different : part.parameter ≠ .output) :
    part.output? = none := by
  cases part <;> first | rfl | contradiction

end Part

namespace Reading

variable {reading : Reading}

/-- Whether no parameter waits for its value. -/
def IsReady (reading : Reading) : Prop :=
  ∀ parameter, reading.pending ≠ some (parameter, none)

/-- Take a part of the arguments. -/
def take (reading : Reading) : Part → Except Stop Reading
  | .input path => reading.positional path
  | .table name => do
      let settled ← reading.settle
      return { settled with pending := some (.table, some name) }
  | .output path => do
      let settled ← reading.settle
      return { settled with pending := some (.output, some path) }
  | .verbose => reading.flag .verbose

/-- What does not look like an option is a word. -/
theorem all_cons_of_plain
    {argument : String}
    (plain : argument.toList.head? ≠ some '-')
    (rest : List String) :
    reading.all false (argument :: rest) = (do
      let next ← reading.word argument
      next.all false rest) := by
  rw [all]
  simp only [Bool.false_eq_true, if_false]
  split
  · next shape => simp [shape] at plain
  · next shape => simp [shape] at plain
  · next shape => simp [shape] at plain
  · rfl

/-- The value behind an option is taken for what the option waits for. -/
theorem option_append_value
    {value : String}
    (plain : value.toList.head? ≠ some '-')
    (parameter : Parameter)
    (rest : List String) :
    (do
      let next ← reading.option parameter none
      next.all false (value :: rest)) = (do
      let settled ← reading.settle
      { settled with pending := some (parameter, some value) }.all false rest) := by
  unfold option
  cases reading.settle with
  | error stop => rfl
  | ok settled => exact all_cons_of_plain plain rest

/-- The arguments of a part are taken together. -/
theorem all_append_of_spelled
    {part : Part}
    {chunk : List String}
    (spelled : part.Spelled chunk)
    (plain : part.IsPlain)
    (ready : reading.IsReady)
    (rest : List String) :
    reading.all false (chunk ++ rest) = (do
      let next ← reading.take part
      next.all false rest) := by
  cases spelled with
  | input path =>
      rw [List.singleton_append, all_cons_of_plain (plain path rfl)]
      have asPath : reading.word path = reading.positional path := by
        unfold word
        split
        · next parameter waits => exact absurd waits (ready parameter)
        · rfl
      rw [asPath]
      rfl
  | table name =>
      refine (option_append_value (plain name rfl) .table rest).trans ?_
      unfold take
      cases reading.settle <;> rfl
  | shortOutput path =>
      refine (option_append_value (plain path rfl) .output rest).trans ?_
      unfold take
      cases reading.settle <;> rfl
  | longOutput path =>
      refine (option_append_value (plain path rfl) .output rest).trans ?_
      unfold take
      cases reading.settle <;> rfl
  | shortVerbose =>
      change (do
        let next ← reading.short ['v']
        next.all false rest) = _
      unfold short take
      cases reading.flag .verbose <;> rfl
  | longVerbose => rfl

/-! ## What the parts make -/

/-- What is read of some parts, once all of them are settled. -/
def ofParts (parts : List Part) : Reading :=
  { input := parts.findSome? Part.input?
    table := parts.findSome? Part.table?
    output := parts.findSome? Part.output?
    verbose := parts.any Part.isVerbose
    named := (parts.findSome? Part.input?).isSome }

/-- What is read of some parts, the last of which may still have to be settled. -/
structure Holds (reading : Reading) (parts : List Part) : Prop where
  /-- No parameter waits for its value. -/
  ready : reading.IsReady
  /-- Once settled, the parts are read. -/
  settle : reading.settle = .ok (ofParts parts)
  /-- An input is named when it is among the parts. -/
  named : reading.named = (parts.findSome? Part.input?).isSome

theorem holds_nil : ({} : Reading).Holds [] where
  ready := nofun
  settle := rfl
  named := rfl

/-- What parts of other parameters do not give is still missing. -/
theorem findSome?_eq_none_of_fresh
    {parts : List Part}
    {part : Part}
    (fresh : ∀ other ∈ parts, other.parameter ≠ part.parameter)
    {give : Part → Option String}
    (gives : ∀ other, other.parameter ≠ part.parameter → give other = none) :
    parts.findSome? give = none :=
  List.findSome?_eq_none_iff.mpr fun other member => gives other (fresh other member)

/-- The path of the list is taken if no part before it gives one. -/
theorem Holds.take_input
    {parts : List Part}
    (holds : reading.Holds parts)
    (missing : parts.findSome? Part.input? = none)
    (path : String) :
    reading.take (.input path) =
      .ok { ofParts parts with pending := some (.input, some path), named := true } := by
  have unnamed : reading.named = false := by
    rw [holds.named, missing]
    rfl
  simp [Reading.take, positional, unnamed, holds.settle, bind, Except.bind, pure, Except.pure]

theorem Holds.take_table
    {parts : List Part}
    (holds : reading.Holds parts)
    (name : String) :
    reading.take (.table name) =
      .ok { ofParts parts with pending := some (.table, some name) } := by
  simp [Reading.take, holds.settle, bind, Except.bind, pure, Except.pure]

theorem Holds.take_output
    {parts : List Part}
    (holds : reading.Holds parts)
    (path : String) :
    reading.take (.output path) =
      .ok { ofParts parts with pending := some (.output, some path) } := by
  simp [Reading.take, holds.settle, bind, Except.bind, pure, Except.pure]

/-- One more part of another parameter is read. -/
theorem Holds.take
    {parts : List Part}
    {part : Part}
    (holds : reading.Holds parts)
    (fresh : ∀ other ∈ parts, other.parameter ≠ part.parameter)
    (hasPath : part.HasPath) :
    ∃ next, reading.take part = .ok next ∧ next.Holds (parts ++ [part]) := by
  cases part with
  | input path =>
      have missing : parts.findSome? Part.input? = none :=
        findSome?_eq_none_of_fresh fresh fun _ => Part.input?_eq_none
      have nonempty : path ≠ "" := hasPath
      refine ⟨_, holds.take_input missing path,
        { ready := by simp [IsReady], settle := ?_, named := ?_ }⟩
      · simp [Reading.settle, assign, ofParts, missing, nonempty, Part.input?, Part.table?,
          Part.output?, Part.isVerbose]
      · simp [Part.input?]
  | table name =>
      have missing : parts.findSome? Part.table? = none :=
        findSome?_eq_none_of_fresh fresh fun _ => Part.table?_eq_none
      refine ⟨_, holds.take_table name,
        { ready := by simp [IsReady], settle := ?_, named := ?_ }⟩
      · simp [Reading.settle, assign, ofParts, missing, Part.input?, Part.table?, Part.output?,
          Part.isVerbose]
      · simp [ofParts, Part.input?]
  | output path =>
      have missing : parts.findSome? Part.output? = none :=
        findSome?_eq_none_of_fresh fresh fun _ => Part.output?_eq_none
      have nonempty : path ≠ "" := hasPath
      refine ⟨_, holds.take_output path,
        { ready := by simp [IsReady], settle := ?_, named := ?_ }⟩
      · simp [Reading.settle, assign, ofParts, missing, nonempty, Part.input?, Part.table?,
          Part.output?, Part.isVerbose]
      · simp [ofParts, Part.input?]
  | verbose =>
      have quiet : parts.any Part.isVerbose = false := by
        rw [List.any_eq_false]
        intro other member
        have different := fresh other member
        cases other <;> first | exact Bool.false_ne_true | contradiction
      refine ⟨{ ofParts parts with verbose := true }, ?_,
        { ready := by simp [IsReady, ofParts], settle := ?_, named := ?_ }⟩
      · simp [Reading.take, flag, holds.settle, bind, Except.bind, pure, Except.pure, ofParts,
          quiet]
      · simp [Reading.settle, ofParts, Part.input?, Part.table?, Part.output?, Part.isVerbose]
      · simp [ofParts, Part.input?]

/-- Parts of different parameters, each with a path where it needs one, are all read. -/
theorem all_flatten
    {parts : List Part}
    {chunks : List (List String)}
    (spelled : List.Forall₂ Part.Spelled parts chunks)
    (plain : ∀ part ∈ parts, part.IsPlain)
    (hasPath : ∀ part ∈ parts, part.HasPath)
    (before : List Part)
    (distinct : (before ++ parts).Pairwise fun former latter =>
      former.parameter ≠ latter.parameter)
    (holds : reading.Holds before) :
    reading.all false chunks.flatten = .ok (ofParts (before ++ parts)) := by
  induction spelled generalizing reading before with
  | nil =>
      rw [List.append_nil]
      exact holds.settle
  | @cons part chunk parts chunks head _ inductionHypothesis =>
      have fresh : ∀ other ∈ before, other.parameter ≠ part.parameter :=
        fun other member =>
          (List.pairwise_append.mp distinct).2.2 other member part List.mem_cons_self
      obtain ⟨next, taken, nextHolds⟩ := holds.take fresh (hasPath part List.mem_cons_self)
      rw [List.append_cons] at distinct ⊢
      rw [List.flatten_cons,
        all_append_of_spelled head (plain part List.mem_cons_self) holds.ready, taken]
      exact inductionHypothesis
        (fun other member => plain other (List.mem_cons_of_mem part member))
        (fun other member => hasPath other (List.mem_cons_of_mem part member))
        _ distinct nextHolds

/-- A value that cannot be settled is refused, whatever follows. -/
theorem all_of_settle_eq_error
    {error : UsageError}
    (refused : reading.settle = .error (.usage error))
    (ready : reading.IsReady)
    {parts : List Part}
    {chunks : List (List String)}
    (spelled : List.Forall₂ Part.Spelled parts chunks)
    (plain : ∀ part ∈ parts, part.IsPlain) :
    ∃ other, reading.all false chunks.flatten = .error (.usage other) := by
  cases spelled with
  | nil => exact ⟨error, refused⟩
  | @cons part chunk parts chunks head _ =>
      rw [List.flatten_cons, all_append_of_spelled head (plain part List.mem_cons_self) ready]
      cases part with
      | input path =>
          rw [take, positional]
          cases reading.named with
          | true => exact ⟨.unexpectedArgument path, rfl⟩
          | false =>
              rw [refused]
              exact ⟨error, rfl⟩
      | table name =>
          rw [take, refused]
          exact ⟨error, rfl⟩
      | output path =>
          rw [take, refused]
          exact ⟨error, rfl⟩
      | verbose =>
          rw [take, flag, refused]
          exact ⟨error, rfl⟩

/-- An empty path is taken, and refused when it is settled. -/
theorem Holds.take_of_not_hasPath
    {parts : List Part}
    {part : Part}
    (holds : reading.Holds parts)
    (fresh : ∀ other ∈ parts, other.parameter ≠ part.parameter)
    (empty : ¬part.HasPath) :
    ∃ next error, reading.take part = .ok next ∧ next.IsReady ∧
      next.settle = .error (.usage error) := by
  cases part with
  | input path =>
      have missing : parts.findSome? Part.input? = none :=
        findSome?_eq_none_of_fresh fresh fun _ => Part.input?_eq_none
      have same : path = "" := not_not.mp empty
      refine ⟨_, .missingValue .input, holds.take_input missing path, by simp [IsReady], ?_⟩
      rw [same]
      rfl
  | output path =>
      have missing : parts.findSome? Part.output? = none :=
        findSome?_eq_none_of_fresh fresh fun _ => Part.output?_eq_none
      have same : path = "" := not_not.mp empty
      refine ⟨_, .missingValue .output, holds.take_output path, by simp [IsReady], ?_⟩
      simp [Reading.settle, assign, ofParts, missing, same, fail]
  | table name => exact absurd trivial empty
  | verbose => exact absurd trivial empty

/-- An empty path is refused, whatever stands around it. -/
theorem all_flatten_of_not_hasPath
    {parts : List Part}
    {chunks : List (List String)}
    (spelled : List.Forall₂ Part.Spelled parts chunks)
    (plain : ∀ part ∈ parts, part.IsPlain)
    (empty : ∃ part ∈ parts, ¬part.HasPath)
    (before : List Part)
    (distinct : (before ++ parts).Pairwise fun former latter =>
      former.parameter ≠ latter.parameter)
    (holds : reading.Holds before) :
    ∃ error, reading.all false chunks.flatten = .error (.usage error) := by
  induction spelled generalizing reading before with
  | nil =>
      obtain ⟨part, member, -⟩ := empty
      contradiction
  | @cons part chunk parts chunks head tail inductionHypothesis =>
      have fresh : ∀ other ∈ before, other.parameter ≠ part.parameter :=
        fun other member =>
          (List.pairwise_append.mp distinct).2.2 other member part List.mem_cons_self
      have plainTail : ∀ other ∈ parts, other.IsPlain :=
        fun other member => plain other (List.mem_cons_of_mem part member)
      rw [List.flatten_cons,
        all_append_of_spelled head (plain part List.mem_cons_self) holds.ready]
      by_cases hasPath : part.HasPath
      · obtain ⟨next, taken, nextHolds⟩ := holds.take fresh hasPath
        obtain ⟨other, member, without⟩ := empty
        have behind : other ∈ parts := by
          rcases List.mem_cons.mp member with rfl | behind
          · contradiction
          · exact behind
        rw [List.append_cons] at distinct
        rw [taken]
        exact inductionHypothesis plainTail ⟨other, behind, without⟩ _ distinct nextHolds
      · obtain ⟨next, error, taken, ready, refused⟩ := holds.take_of_not_hasPath fresh hasPath
        rw [taken]
        exact all_of_settle_eq_error refused ready tail plainTail

end Reading

/-!
## Arguments of an invocation

An invocation names a list, and maybe a table and a file for the listing.  Its arguments may come in
any order; they are read as the request for the invocation, unless a path is empty.
-/

/-- What one asks of a run that is to do its work. -/
structure Invocation where
  /-- The path of the instruction list. -/
  input : String
  /-- The name of the table, if it is given. -/
  table : Option String
  /-- The path of the listing, if it is given. -/
  output : Option String
  /-- Whether more messages are asked for. -/
  verbose : Bool
deriving DecidableEq, Repr

namespace Invocation

/-- The parts of the arguments for an invocation, in one order. -/
def parts (invocation : Invocation) : List Part :=
  .input invocation.input ::
    ((invocation.table.map Part.table).toList ++
      ((invocation.output.map Part.output).toList ++
        if invocation.verbose then [.verbose] else []))

/-- The arguments spell all parts of the invocation, in any order. -/
def SpelledBy
    (invocation : Invocation)
    (arguments : List String) : Prop :=
  ∃ parts chunks, parts.Perm invocation.parts ∧ List.Forall₂ Part.Spelled parts chunks ∧
    arguments = chunks.flatten

/-- No parameter is given twice, in whatever order the parts come. -/
theorem pairwise_of_perm
    {invocation : Invocation}
    {parts : List Part}
    (reordered : parts.Perm invocation.parts) :
    parts.Pairwise fun former latter => former.parameter ≠ latter.parameter := by
  apply (reordered.pairwise_iff fun different => Ne.symm different).mpr
  obtain ⟨input, table, output, verbose⟩ := invocation
  cases table <;> cases output <;> cases verbose <;>
    simp [Invocation.parts, Part.parameter]

theorem filterMap_input?_parts (invocation : Invocation) :
    invocation.parts.filterMap Part.input? = [invocation.input] := by
  obtain ⟨input, table, output, verbose⟩ := invocation
  cases table <;> cases output <;> cases verbose <;> rfl

theorem filterMap_table?_parts (invocation : Invocation) :
    invocation.parts.filterMap Part.table? = invocation.table.toList := by
  obtain ⟨input, table, output, verbose⟩ := invocation
  cases table <;> cases output <;> cases verbose <;> rfl

theorem filterMap_output?_parts (invocation : Invocation) :
    invocation.parts.filterMap Part.output? = invocation.output.toList := by
  obtain ⟨input, table, output, verbose⟩ := invocation
  cases table <;> cases output <;> cases verbose <;> rfl

theorem any_isVerbose_parts (invocation : Invocation) :
    invocation.parts.any Part.isVerbose = invocation.verbose := by
  obtain ⟨input, table, output, verbose⟩ := invocation
  cases table <;> cases output <;> cases verbose <;> rfl

/-- The only value that some parts give is found in any order. -/
theorem findSome?_of_perm
    {parts others : List Part}
    (reordered : parts.Perm others)
    {give : Part → Option String}
    {value : Option String}
    (given : others.filterMap give = value.toList) :
    parts.findSome? give = value := by
  have same : parts.filterMap give = value.toList := by
    have reorderedValues := reordered.filterMap give
    rw [given] at reorderedValues
    cases value with
    | none => exact reorderedValues.eq_nil
    | some text => exact reorderedValues.eq_singleton
  rw [← List.head?_filterMap, same]
  cases value <;> rfl

/-- The parts of an invocation are read as what it asks for, in any order. -/
theorem ofParts_of_perm
    {invocation : Invocation}
    {parts : List Part}
    (reordered : parts.Perm invocation.parts) :
    Reading.ofParts parts =
      { input := some invocation.input
        table := invocation.table
        output := invocation.output
        verbose := invocation.verbose
        named := true } := by
  have input : parts.findSome? Part.input? = some invocation.input :=
    findSome?_of_perm reordered invocation.filterMap_input?_parts
  have table : parts.findSome? Part.table? = invocation.table :=
    findSome?_of_perm reordered invocation.filterMap_table?_parts
  have output : parts.findSome? Part.output? = invocation.output :=
    findSome?_of_perm reordered invocation.filterMap_output?_parts
  rw [Reading.ofParts, input, table, output, reordered.any_eq, any_isVerbose_parts]
  rfl

/-- The request for an invocation, given the name of a table that is not named. -/
def request
    (invocation : Invocation)
    (defaultTable : String) : Request :=
  { input := invocation.input
    table := invocation.table.getD defaultTable
    output := invocation.output
    verbose := invocation.verbose }

variable {invocation : Invocation} {arguments : List String}

/-- Arguments in any order are read as the invocation that they spell. -/
theorem ofArguments_of_spelledBy
    (spelled : invocation.SpelledBy arguments)
    (plain : ∀ part ∈ invocation.parts, part.IsPlain)
    (hasPath : ∀ part ∈ invocation.parts, part.HasPath)
    (defaultTable : String) :
    Request.ofArguments defaultTable arguments = .ok (invocation.request defaultTable) := by
  obtain ⟨parts, chunks, reordered, chunksSpelled, rfl⟩ := spelled
  have read := Reading.all_flatten chunksSpelled
    (fun part member => plain part (reordered.mem_iff.mp member))
    (fun part member => hasPath part (reordered.mem_iff.mp member))
    [] (pairwise_of_perm reordered) Reading.holds_nil
  rw [Request.ofArguments, read, List.nil_append, ofParts_of_perm reordered]
  rfl

/-- An invocation with an empty path is refused. -/
theorem ofArguments_of_not_hasPath
    (spelled : invocation.SpelledBy arguments)
    (plain : ∀ part ∈ invocation.parts, part.IsPlain)
    (empty : ∃ part ∈ invocation.parts, ¬part.HasPath)
    (defaultTable : String) :
    ∃ error, Request.ofArguments defaultTable arguments = .error (.usage error) := by
  obtain ⟨parts, chunks, reordered, chunksSpelled, rfl⟩ := spelled
  obtain ⟨part, member, without⟩ := empty
  obtain ⟨error, refused⟩ := Reading.all_flatten_of_not_hasPath chunksSpelled
    (fun part member => plain part (reordered.mem_iff.mp member))
    ⟨part, reordered.mem_iff.mpr member, without⟩
    [] (pairwise_of_perm reordered) Reading.holds_nil
  refine ⟨error, ?_⟩
  rw [Request.ofArguments, refused]
  rfl

end Invocation

end CommandLine
end InstructionTable
