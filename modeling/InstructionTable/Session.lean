import InstructionTable.Arm64

/-!
# Sessions

A session is a run of steps on a registry.  Each step gives one answer.  A step that fails leaves
the registry as it was, and the session goes on.
-/

namespace InstructionTable
namespace Session

/-- The numbers offered to an encoding: by request or by field name. -/
inductive Supply where
  /-- The number of each request in turn. -/
  | byCall (values : List Word)
  /-- The number of each field name. -/
  | byName (values : List (String × Word))
deriving DecidableEq, Repr

/-- The number offered to a request, or the fallback where nothing is offered. -/
def Supply.value
    (supply : Supply)
    (fallback : Word)
    (call : Nat)
    (field : Field 8) :
    Word :=
  match supply with
  | byCall values => values[call]?.getD fallback
  | byName values => (values.lookup field.name).getD fallback

/-- A step of a session. -/
inductive Step where
  | register (table : List Template)
  | registerCompiled (descriptions : List Description)
  | registerArm64
  /-- Start afresh without tables. -/
  | startEmpty
  /-- Start afresh with the ARM64 table alone. -/
  | startArm64
  | size
  | isEmpty
  | names
  | templates
  | privileged
  | unprivileged
  | find (name : String)
  | decode (word : Word)
  | disassemble (word : Word)
  | matchesWord (name : String) (word : Word)
  | freeBits (name : String)
  | field (name field : String)
  | extract (name field : String) (word : Word)
  | insert (name field : String) (word value : Word)
  | encode (name : String) (supply : Supply) (fallback : Word)
deriving DecidableEq, Repr

/-- The outcome of an encoding. -/
structure Encoded where
  /-- The names of the fields asked for, in order. -/
  asked : List String
  /-- Whether the template recognises its own word. -/
  recognised : Bool
  /-- The word. -/
  word : Word
deriving DecidableEq, Repr

/-- What a step answers. -/
inductive Answer where
  /-- There is no such template or field. -/
  | nothing
  | count (size : Nat)
  | truth (value : Bool)
  | names (names : List String)
  | templates (templates : List Template)
  | template (template : Template)
  | field (field : Field 8)
  | word (word : Word)
  | disassembly (disassembly : Template.Disassembly)
  | encoded (encoded : Encoded)
deriving DecidableEq, Repr

/-- Why a step fails. -/
inductive Failure where
  | batch (error : Batch.Error)
  | overflow (error : Overflow)
deriving DecidableEq, Repr

/-- What a step makes of the registry: the size afterwards is the answer. -/
def registration (registry : Registry) : Registry × Except Failure Answer :=
  (registry, .ok (.count registry.size))

/-- Encode by a template. -/
def encodeAnswer
    (supply : Supply)
    (fallback : Word)
    (template : Template) :
    Except Overflow Answer := do
  let word ← template.encode (supply.value fallback)
  return .encoded
    { asked := template.fields.map Field.name
      recognised := template.matchesWord word
      word := word }

/-- The answer about a template that may be missing. -/
def withTemplate
    (found : Option Template)
    (answer : Template → Except Overflow Answer) :
    Except Failure Answer :=
  match found with
  | none => .ok .nothing
  | some template => (answer template).mapError .overflow

/-- The answer about a field that may be missing, as may its template. -/
def withField
    (found : Option Template)
    (name : String)
    (answer : Field 8 → Except Overflow Answer) :
    Except Failure Answer :=
  withTemplate found fun template =>
    match template.field? name with
    | none => .ok .nothing
    | some field => answer field

/-- The answer of a step that leaves the registry alone. -/
def query
    (registry : Registry) :
    Step → Except Failure Answer
  | .register _ | .registerCompiled _ | .registerArm64 | .startEmpty | .startArm64 | .size =>
      .ok (.count registry.size)
  | .isEmpty => .ok (.truth registry.isEmpty)
  | .names => .ok (.names (registry.templates.map Template.name))
  | .templates => .ok (.templates registry.templates)
  | .privileged => .ok (.names (registry.privileged.map Template.name))
  | .unprivileged => .ok (.names (registry.unprivileged.map Template.name))
  | .find name => withTemplate (registry.find? name) fun template => .ok (.template template)
  | .decode word => withTemplate (registry.decode? word) fun template => .ok (.template template)
  | .disassemble word =>
      withTemplate (registry.decode? word) fun template =>
        .disassembly <$> template.disassemble word
  | .matchesWord name word =>
      withTemplate (registry.find? name) fun template => .ok (.truth (template.matchesWord word))
  | .freeBits name =>
      withTemplate (registry.find? name) fun template => .word <$> template.freeBits
  | .field name field => withField (registry.find? name) field fun found => .ok (.field found)
  | .extract name field word =>
      withField (registry.find? name) field fun found => .word <$> found.extract word
  | .insert name field word value =>
      withField (registry.find? name) field fun found => .word <$> found.insert word value
  | .encode name supply fallback =>
      withTemplate (registry.find? name) (encodeAnswer supply fallback)

/-- Take one step: the registry afterwards, and the answer. -/
def step
    (registry : Registry) :
    Step → Registry × Except Failure Answer
  | .register table => registration (registry.register table)
  | .registerCompiled descriptions =>
      match registry.registerCompiled descriptions with
      | .error error => (registry, .error (.batch error))
      | .ok registry => registration registry
  | .registerArm64 => registration (registry.register Arm64.table)
  | .startEmpty => registration Registry.empty
  | .startArm64 => registration Arm64.registry
  | other => (registry, query registry other)

/-- Take steps one after the other: the registry at the end, and the answers. -/
def run
    (registry : Registry) :
    List Step → Registry × List (Except Failure Answer)
  | [] => (registry, [])
  | first :: rest =>
      let (next, answer) := step registry first
      let (last, answers) := run next rest
      (last, answer :: answers)

/-- The answers of a session that starts without tables. -/
def answers (steps : List Step) : List (Except Failure Answer) :=
  (run Registry.empty steps).2

end Session
end InstructionTable
