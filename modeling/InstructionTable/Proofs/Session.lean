import InstructionTable.Proofs.Batch
import Mathlib.Data.List.Induction
import Mathlib.Logic.Relation

/-!
# Sessions

What the queries of a session see of the tables that were added before them.
-/

namespace InstructionTable

/-!
## Queries of a registry

A query looks at the templates of a registry in their order, and not at the tables that hold them.
The first template that fits stays the first when more templates come behind, and the privileged
templates and the others share out the positions.
-/

/-- The items of a list at all of its positions. -/
theorem filterMap_getElem?_range
    {Item : Type}
    (items : List Item) :
    (List.range items.length).filterMap (items[·]?) = items := by
  induction items using List.reverseRecOn with
  | nil => rfl
  | append_singleton items last inductionHypothesis =>
      have front : (List.range items.length).filterMap ((items ++ [last])[·]?) =
          (List.range items.length).filterMap (items[·]?) := by
        apply List.filterMap_congr
        intro position inside
        exact List.getElem?_append_left (List.mem_range.mp inside)
      rw [List.length_append, List.length_singleton, List.range_succ, List.filterMap_append, front,
        inductionHypothesis]
      simp

namespace Registry

theorem size_eq (registry : Registry) : registry.size = registry.templates.length := by
  rw [size, templates, List.length_flatten, List.sum_eq_foldl, List.foldl_map]

/-- The first template that fits a word, when more templates come behind. -/
theorem decode?_of_templates_eq_append
    {registry later : Registry}
    {added : List Template}
    (extended : later.templates = registry.templates ++ added)
    (word : Word) :
    later.decode? word =
      (registry.decode? word).or (added.find? fun template => template.matchesWord word) := by
  rw [decode?, extended, List.find?_append]
  rfl

/-- The first template of a name, when more templates come behind. -/
theorem find?_of_templates_eq_append
    {registry later : Registry}
    {added : List Template}
    (extended : later.templates = registry.templates ++ added)
    (name : String) :
    later.find? name =
      (registry.find? name).or (added.find? fun template => template.name == name) := by
  rw [find?, extended, List.find?_append]
  rfl

/-- The positions of the templates that pass a check, in order. -/
def positions
    (registry : Registry)
    (check : Template → Bool) : List Nat :=
  (List.range registry.size).filter fun position => registry.templates[position]?.any check

theorem positions_pairwise
    (registry : Registry)
    (check : Template → Bool) :
    (registry.positions check).Pairwise (· < ·) :=
  List.pairwise_lt_range.filter _

/-- The templates at the positions are those that pass the check. -/
theorem filterMap_positions
    (registry : Registry)
    (check : Template → Bool) :
    (registry.positions check).filterMap (registry.templates[·]?) =
      registry.templates.filter check := by
  have checked (position : Nat) :
      (if registry.templates[position]?.any check then registry.templates[position]? else none) =
        registry.templates[position]?.filter check := by
    cases registry.templates[position]? with
    | none => rfl
    | some template => rfl
  rw [positions, size_eq, List.filterMap_filter]
  simp only [checked]
  rw [← List.filter_filterMap, filterMap_getElem?_range]

/-- The positions of a check and those of its opposite are all positions. -/
theorem positions_append_perm
    (registry : Registry)
    (check : Template → Bool) :
    (registry.positions check ++ registry.positions (!check ·)).Perm
      (List.range registry.size) := by
  have opposite : registry.positions (!check ·) =
      (List.range registry.size).filter fun position =>
        !registry.templates[position]?.any check := by
    unfold positions
    apply List.filter_congr
    intro position inside
    rw [List.mem_range, size_eq] at inside
    rw [List.getElem?_eq_getElem inside]
    rfl
  rw [opposite]
  exact List.filter_append_perm _ _

end Registry

namespace Session

/-- A query depends on the templates alone. -/
theorem query_congr
    {registry other : Registry}
    (same : registry.templates = other.templates)
    (step : Step) :
    query registry step = query other step := by
  have size : registry.size = other.size := by
    rw [Registry.size_eq, Registry.size_eq, same]
  have find (name : String) : registry.find? name = other.find? name := by
    rw [Registry.find?, Registry.find?, same]
  have decode (word : Word) : registry.decode? word = other.decode? word := by
    rw [Registry.decode?, Registry.decode?, same]
  cases step <;>
    simp only [query, Registry.isEmpty, Registry.privileged, Registry.unprivileged, same, size,
      find, decode]

end Session

/-!
## Registries of a session

A step adds a table behind the others, starts afresh, or leaves the registry alone.  So the registry
of a session holds the tables added since the last fresh start, in their order.
-/

namespace Session

namespace Step

/-- The table that a step adds, if it adds one: a batch that fails adds none. -/
def table? : Step → Option (List Template)
  | register table => some table
  | registerCompiled descriptions =>
      match Batch.compile descriptions with
      | .ok instructions => some (instructions.map Template.ofInstruction)
      | .error _ => none
  | registerArm64 => some Arm64.table
  | _ => none

/-- The tables that a step starts afresh with, if it does. -/
def start? : Step → Option (List (List Template))
  | startEmpty => some []
  | startArm64 => some [Arm64.table]
  | _ => none

/-- Whether a step only asks. -/
def isQuery : Step → Bool
  | register _ | registerCompiled _ | registerArm64 | startEmpty | startArm64 => false
  | _ => true

theorem isQuery_of_table?
    {step : Step}
    {table : List Template}
    (adds : step.table? = some table) :
    step.isQuery = false := by
  cases step <;> first | rfl | contradiction

theorem isQuery_of_start?
    {step : Step}
    {tables : List (List Template)}
    (starts : step.start? = some tables) :
    step.isQuery = false := by
  cases step <;> first | rfl | contradiction

theorem start?_of_table?
    {step : Step}
    {table : List Template}
    (adds : step.table? = some table) :
    step.start? = none := by
  cases step <;> first | rfl | contradiction

end Step

/-- The tables added since the last fresh start, in order. -/
def registered (steps : List Step) : List (List Template) :=
  (steps.reverse.findSome? Step.start?).getD [] ++
    ((steps.reverse.takeWhile (·.start?.isNone)).reverse.filterMap Step.table?)

/-- One more step starts afresh or goes on with the tables before it. -/
theorem registered_concat
    (steps : List Step)
    (step : Step) :
    registered (steps ++ [step]) =
      step.start?.getD (registered steps ++ step.table?.toList) := by
  unfold registered
  rw [List.reverse_append, List.reverse_singleton, List.singleton_append, List.findSome?_cons,
    List.takeWhile_cons]
  cases starts : step.start? with
  | some tables => simp
  | none =>
      cases adds : step.table? with
      | some table => simp [adds]
      | none => simp [adds]

/-- A step that leaves the registry alone does what its query does. -/
theorem step_of_isQuery
    {next : Step}
    (asks : next.isQuery = true)
    (registry : Registry) :
    step registry next = (registry, query registry next) := by
  cases next <;> first | rfl | contradiction

/-- The tables of a registry after one step. -/
theorem tables_step
    (registry : Registry)
    (next : Step) :
    (step registry next).1.tables =
      next.start?.getD (registry.tables ++ next.table?.toList) := by
  cases next with
  | registerCompiled descriptions =>
      cases compiled : Batch.compile descriptions with
      | error error =>
          rw [step_registerCompiled_of_compile compiled]
          simp [Step.start?, Step.table?, compiled]
      | ok instructions =>
          rw [step, Registry.registerCompiled_of_compile compiled]
          simp [Step.start?, Step.table?, compiled, registration, Registry.register]
  | _ => simp [step, registration, Registry.register, Registry.empty, Arm64.registry,
      Step.start?, Step.table?]

/-- A step that fails leaves the registry alone. -/
theorem step_of_error
    {registry : Registry}
    {next : Step}
    {failure : Failure}
    (failed : (step registry next).2 = .error failure) :
    (step registry next).1 = registry := by
  cases next with
  | registerCompiled descriptions =>
      rw [step] at failed ⊢
      cases compiled : registry.registerCompiled descriptions with
      | error error => rfl
      | ok registry =>
          rw [compiled] at failed
          contradiction
  | register | registerArm64 | startEmpty | startArm64 => contradiction
  | _ => rfl

/-- A session goes on behind its first step. -/
theorem run_cons
    (registry : Registry)
    (first : Step)
    (rest : List Step) :
    run registry (first :: rest) =
      ((run (step registry first).1 rest).1,
        (step registry first).2 :: (run (step registry first).1 rest).2) := rfl

theorem run_append
    (registry : Registry)
    (steps more : List Step) :
    run registry (steps ++ more) =
      ((run (run registry steps).1 more).1,
        (run registry steps).2 ++ (run (run registry steps).1 more).2) := by
  induction steps generalizing registry with
  | nil => rfl
  | cons first rest inductionHypothesis =>
      rw [List.cons_append, run_cons, run_cons, inductionHypothesis]
      rfl

/-- The registry of a session holds the tables added since the last fresh start. -/
theorem tables_run (steps : List Step) :
    (run Registry.empty steps).1.tables = registered steps := by
  induction steps using List.reverseRecOn with
  | nil => rfl
  | append_singleton steps last inductionHypothesis =>
      rw [run_append, registered_concat, ← inductionHypothesis]
      exact tables_step _ last

/-- Steps without a fresh start add their tables behind those of the registry. -/
theorem tables_run_of_start?_eq_none
    {steps : List Step}
    (goesOn : ∀ step ∈ steps, step.start? = none)
    (registry : Registry) :
    (run registry steps).1.tables = registry.tables ++ steps.filterMap Step.table? := by
  induction steps generalizing registry with
  | nil => simp [run]
  | cons first rest inductionHypothesis =>
      have head := goesOn first List.mem_cons_self
      have tail := inductionHypothesis
        (fun step member => goesOn step (List.mem_cons_of_mem first member))
        (step registry first).1
      rw [run_cons, tail, tables_step, head, Option.getD_none, List.append_assoc,
        List.filterMap_cons]
      cases first.table? with
      | none => rfl
      | some table => rfl

/-- Steps without a fresh start add their templates behind those of the registry. -/
theorem templates_run_of_start?_eq_none
    {steps : List Step}
    (goesOn : ∀ step ∈ steps, step.start? = none)
    (registry : Registry) :
    (run registry steps).1.templates =
      registry.templates ++ (steps.filterMap Step.table?).flatten := by
  rw [Registry.templates, tables_run_of_start?_eq_none goesOn, List.flatten_append]
  rfl

end Session

/-!
## Sessions that cut their tables differently

A table may be added in pieces, neighbouring tables may be added as one, and empty tables may be
added anywhere.  No query answers differently.  The last statement puts together what holds after
any session: which templates there are and in what order, which steps leave them alone, and what
later steps can change.
-/

namespace Session

/-- The answers of those steps of a session that only ask. -/
def queryAnswers
    (registry : Registry)
    (steps : List Step) : List (Except Failure Answer) :=
  ((steps.zip (run registry steps).2).filter fun taken => taken.1.isQuery).map Prod.snd

/-- One session is another with the table of one step added in pieces. -/
inductive Cut : List Step → List Step → Prop where
  /-- A table is added in pieces, of which there may be none. -/
  | table
      (front back : List Step)
      {whole : Step}
      {pieces : List (List Template)}
      (adds : whole.table? = some pieces.flatten) :
      Cut (front ++ whole :: back) (front ++ (pieces.map Step.register ++ back))
  /-- What a fresh start begins with is added in pieces behind one that begins with nothing. -/
  | start
      (front back : List Step)
      {whole : Step}
      {tables pieces : List (List Template)}
      (starts : whole.start? = some tables)
      (same : pieces.flatten = tables.flatten) :
      Cut (front ++ whole :: back) (front ++ (.startEmpty :: pieces.map Step.register ++ back))

/-- Two sessions differ in how they cut what they add into tables. -/
def Recut : List Step → List Step → Prop :=
  Relation.EqvGen Cut

/-! ## Answers to queries -/

/-- A query is answered at once; other steps only change what later queries see. -/
theorem queryAnswers_cons
    (registry : Registry)
    (first : Step)
    (rest : List Step) :
    queryAnswers registry (first :: rest) =
      (if first.isQuery then [query registry first] else []) ++
        queryAnswers (step registry first).1 rest := by
  rw [queryAnswers, run_cons, List.zip_cons_cons, List.filter_cons]
  cases asks : first.isQuery with
  | true =>
      rw [step_of_isQuery asks]
      rfl
  | false => rfl

/-- The queries of a session in two parts. -/
theorem queryAnswers_append
    (registry : Registry)
    (steps more : List Step) :
    queryAnswers registry (steps ++ more) =
      queryAnswers registry steps ++ queryAnswers (run registry steps).1 more := by
  induction steps generalizing registry with
  | nil => rfl
  | cons first rest inductionHypothesis =>
      rw [List.cons_append, queryAnswers_cons, queryAnswers_cons, inductionHypothesis,
        List.append_assoc, run_cons]

theorem queryAnswers_eq_nil
    {steps : List Step}
    (silent : ∀ step ∈ steps, step.isQuery = false)
    (registry : Registry) :
    queryAnswers registry steps = [] := by
  induction steps generalizing registry with
  | nil => rfl
  | cons first rest inductionHypothesis =>
      rw [queryAnswers_cons, silent first List.mem_cons_self,
        inductionHypothesis fun step member => silent step (List.mem_cons_of_mem first member)]
      rfl

/-- Registries with the same templates have the same templates after a step. -/
theorem templates_step_congr
    {registry other : Registry}
    (same : registry.templates = other.templates)
    (next : Step) :
    (step registry next).1.templates = (step other next).1.templates := by
  unfold Registry.templates at same ⊢
  rw [tables_step, tables_step]
  cases next.start? with
  | some tables => rfl
  | none => simp [same]

/-- Registries with the same templates answer all queries of a session alike. -/
theorem queryAnswers_congr
    {registry other : Registry}
    (same : registry.templates = other.templates)
    (steps : List Step) :
    queryAnswers registry steps = queryAnswers other steps := by
  induction steps generalizing registry other with
  | nil => rfl
  | cons first rest inductionHypothesis =>
      rw [queryAnswers_cons, queryAnswers_cons, query_congr same,
        inductionHypothesis (templates_step_congr same first)]

/-- Two parts of a session without queries may be exchanged if they lead to the same templates. -/
theorem queryAnswers_exchange
    {part other : List Step}
    (silent : ∀ step ∈ part, step.isQuery = false)
    (otherSilent : ∀ step ∈ other, step.isQuery = false)
    (same : ∀ registry,
      (run registry part).1.templates = (run registry other).1.templates)
    (registry : Registry)
    (front back : List Step) :
    queryAnswers registry (front ++ (part ++ back)) =
      queryAnswers registry (front ++ (other ++ back)) := by
  rw [queryAnswers_append, queryAnswers_append, queryAnswers_append, queryAnswers_append,
    queryAnswers_eq_nil silent, queryAnswers_eq_nil otherSilent, queryAnswers_congr (same _)]

/-- The pieces of a table are added behind the templates that are there. -/
theorem templates_run_register
    (registry : Registry)
    (pieces : List (List Template)) :
    (run registry (pieces.map Step.register)).1.templates =
      registry.templates ++ pieces.flatten := by
  have goesOn : ∀ step ∈ pieces.map Step.register, step.start? = none := by
    intro step member
    obtain ⟨piece, -, rfl⟩ := List.mem_map.mp member
    rfl
  have tables : (pieces.map Step.register).filterMap Step.table? = pieces := by
    rw [List.filterMap_map]
    exact List.filterMap_some
  rw [templates_run_of_start?_eq_none goesOn, tables]

theorem isQuery_of_mem_map_register
    {pieces : List (List Template)}
    {step : Step}
    (member : step ∈ pieces.map Step.register) :
    step.isQuery = false := by
  obtain ⟨piece, -, rfl⟩ := List.mem_map.mp member
  rfl

/-- Adding a table in pieces changes the answer of no query. -/
theorem Cut.queryAnswers_eq
    {steps others : List Step}
    (cut : Cut steps others)
    (registry : Registry) :
    queryAnswers registry steps = queryAnswers registry others := by
  cases cut with
  | @table front back whole pieces adds =>
      have single : ∀ other ∈ [whole], other.isQuery = false := by
        simpa using Step.isQuery_of_table? adds
      have goesOn : ∀ other ∈ [whole], other.start? = none := by
        simpa using Step.start?_of_table? adds
      apply queryAnswers_exchange single (fun _ => isQuery_of_mem_map_register)
      intro registry
      rw [templates_run_register, templates_run_of_start?_eq_none goesOn]
      simp [adds]
  | @start front back whole tables pieces starts same =>
      have single : ∀ other ∈ [whole], other.isQuery = false := by
        simpa using Step.isQuery_of_start? starts
      have silent : ∀ other ∈ Step.startEmpty :: pieces.map Step.register,
          other.isQuery = false := by
        intro other member
        rcases List.mem_cons.mp member with rfl | member
        · rfl
        · exact isQuery_of_mem_map_register member
      apply queryAnswers_exchange single silent
      intro registry
      have afresh : (step registry whole).1.templates = pieces.flatten := by
        rw [Registry.templates, tables_step, starts, same]
        rfl
      rw [run_cons, run_cons, templates_run_register]
      exact afresh

/-- Cutting tables differently changes the answer of no query. -/
theorem Recut.queryAnswers_eq
    {steps others : List Step}
    (recut : Recut steps others)
    (registry : Registry) :
    queryAnswers registry steps = queryAnswers registry others := by
  induction recut with
  | rel steps others cut => exact cut.queryAnswers_eq registry
  | refl steps => rfl
  | symm steps others _ inductionHypothesis => exact inductionHypothesis.symm
  | trans steps middle others _ _ former latter => exact former.trans latter

/--
After any session that starts without tables, the templates are those of the tables added since the
last fresh start, in order.  A step that fails and a query leave the registry as it is, and cutting
the tables of the session differently changes the answer of no query.  When the session goes on
without a fresh start, a word or a name that has a template keeps it, and one that has none can only
get the first that fits among the added ones.  The privileged templates and the others stand in
order, at positions that together are all positions, each once.
-/
theorem run_keeps_order_and_answers (steps : List Step) :
    let registry := (run Registry.empty steps).1
    registry.templates = (registered steps).flatten ∧
    (∀ next, (next.isQuery = true ∨ ∃ failure, (step registry next).2 = .error failure) →
      (step registry next).1 = registry) ∧
    (∀ others, Recut steps others →
      queryAnswers Registry.empty steps = queryAnswers Registry.empty others) ∧
    (∀ more, (∀ next ∈ more, next.start? = none) →
      let later := (run Registry.empty (steps ++ more)).1
      let added := (more.filterMap Step.table?).flatten
      (∀ word,
        (∀ template, registry.decode? word = some template →
          later.decode? word = some template) ∧
        (registry.decode? word = none →
          later.decode? word = added.find? fun template => template.matchesWord word)) ∧
      ∀ name,
        (∀ template, registry.find? name = some template → later.find? name = some template) ∧
        (registry.find? name = none →
          later.find? name = added.find? fun template => template.name == name)) ∧
    ∃ privileged unprivileged : List Nat,
      privileged.Pairwise (· < ·) ∧ unprivileged.Pairwise (· < ·) ∧
      (privileged ++ unprivileged).Perm (List.range registry.size) ∧
      privileged.filterMap (registry.templates[·]?) = registry.privileged ∧
      unprivileged.filterMap (registry.templates[·]?) = registry.unprivileged ∧
      (∀ template ∈ registry.privileged, template.privileged = true) ∧
      ∀ template ∈ registry.unprivileged, template.privileged = false := by
  intro registry
  refine ⟨?_, ?_, ?_, ?_, ?_⟩
  · rw [Registry.templates, tables_run]
  · rintro next (asks | ⟨failure, failed⟩)
    · rw [step_of_isQuery asks]
    · exact step_of_error failed
  · intro others recut
    exact recut.queryAnswers_eq Registry.empty
  · intro more goesOn later added
    have extended : later.templates = registry.templates ++ added := by
      change (run Registry.empty (steps ++ more)).1.templates = _
      rw [run_append]
      exact templates_run_of_start?_eq_none goesOn registry
    refine ⟨fun word => ⟨?_, ?_⟩, fun name => ⟨?_, ?_⟩⟩
    · intro template found
      rw [Registry.decode?_of_templates_eq_append extended, found, Option.some_or]
    · intro missing
      rw [Registry.decode?_of_templates_eq_append extended, missing, Option.none_or]
    · intro template found
      rw [Registry.find?_of_templates_eq_append extended, found, Option.some_or]
    · intro missing
      rw [Registry.find?_of_templates_eq_append extended, missing, Option.none_or]
  · refine ⟨registry.positions Template.privileged, registry.positions (!Template.privileged ·),
      registry.positions_pairwise _, registry.positions_pairwise _,
      registry.positions_append_perm _, registry.filterMap_positions _,
      registry.filterMap_positions _, ?_, ?_⟩
    · intro template member
      exact (List.mem_filter.mp member).2
    · intro template member
      exact Bool.not_eq_true' _ ▸ (List.mem_filter.mp member).2

/--
A table of two templates is cut in three, one of them empty, in front of a batch that fails.  The
word that both templates fit keeps the first when a third one comes behind.
-/
theorem run_keeps_order_and_answers_of_empty_piece :
    queryAnswers Registry.empty
        [.register [⟨"ANY", 0, 0, [], false, "", ""⟩], .register [],
          .register [⟨"ZERO", 0, 0xFFFFFFFF, [], false, "", ""⟩],
          .registerCompiled [⟨"BAD", "0", "", "", "", ""⟩], .decode 0, .find "ZERO", .size] =
      [.ok (.template ⟨"ANY", 0, 0, [], false, "", ""⟩),
        .ok (.template ⟨"ZERO", 0, 0xFFFFFFFF, [], false, "", ""⟩), .ok (.count 2)] ∧
    (run Registry.empty
        ([.register [⟨"ANY", 0, 0, [], false, "", ""⟩,
            ⟨"ZERO", 0, 0xFFFFFFFF, [], false, "", ""⟩],
          .registerCompiled [⟨"BAD", "0", "", "", "", ""⟩], .decode 0, .find "ZERO", .size] ++
        [.register [⟨"OTHER", 0, 0, [], false, "", ""⟩]])).1.decode? 0 =
      some ⟨"ANY", 0, 0, [], false, "", ""⟩ := by
  obtain ⟨-, -, recut, later, -⟩ := run_keeps_order_and_answers
    [.register [⟨"ANY", 0, 0, [], false, "", ""⟩, ⟨"ZERO", 0, 0xFFFFFFFF, [], false, "", ""⟩],
      .registerCompiled [⟨"BAD", "0", "", "", "", ""⟩], .decode 0, .find "ZERO", .size]
  have cut := @Cut.table []
    [.registerCompiled [⟨"BAD", "0", "", "", "", ""⟩], .decode 0, .find "ZERO", .size]
    (.register [⟨"ANY", 0, 0, [], false, "", ""⟩, ⟨"ZERO", 0, 0xFFFFFFFF, [], false, "", ""⟩])
    [[⟨"ANY", 0, 0, [], false, "", ""⟩], [], [⟨"ZERO", 0, 0xFFFFFFFF, [], false, "", ""⟩]] rfl
  have goesOn : ∀ next ∈ [Step.register [⟨"OTHER", 0, 0, [], false, "", ""⟩]],
      next.start? = none := by
    intro next member
    rw [List.mem_singleton.mp member]
    rfl
  refine ⟨?_, ((later _ goesOn).1 0).1 _ rfl⟩
  have same := recut _ (.rel _ _ cut)
  exact same.symm.trans rfl

end Session

end InstructionTable
