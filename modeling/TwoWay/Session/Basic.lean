import TwoWay.Description
import TwoWay.Session.Held
import TwoWay.Session.Settled
import TwoWay.Settings.Validation
import TwoWay.Value.Mutation

/-!
# Sessions

A session holds a schema and the last output, and changes them step by step: it parses,
inverts, chains methods, calls functions. A step that fails leaves the session as it was,
except that lazy nodes it has forced stay forced. Each answer comes with what happened
during the step.
-/

namespace TwoWay

/-- The value of a step: given with it, or the last output. -/
inductive Input where
  | value (v : Datum)
  | last

inductive Step where
  | parse (input : Input) (mode : Mode) (settle : Bool)
  | safeParse (input : Input) (mode : Mode)
  | roundTrip (input : Input) (mode : Mode) (settings : Fields)
  | invert (settings : Fields)
  | chain (methods : List (Method Blueprint))
  /-- Goes back to the first schema. -/
  | reset
  | describe
  | keys
  /-- Calls the function at a place within the last output. -/
  | call (args place : List Datum)
  | implement (input : Input)
  /-- Calls a method of the last output. -/
  | mutate (method : String) (args : List Datum)
  | assign (field : String)

inductive Answer where
  | value (v : Value Settled)
  /-- The outcome of a parse that does not fail. -/
  | parsed (output : Except Failure (Value Settled))
  /-- The schema after the step, and whether it is the one before. -/
  | schema (d : Description) (same : Bool)
  | description (d : Description)
  | mutated (v result : Value Settled)
  | failed (f : Failure)
  | badSettings (errors : List SettingsError)

/-- An answer and what happened until then, in order. -/
structure Report where
  answer : Answer
  happened : List Event

structure Session where
  library : Library
  depth : Nat
  first : Held
  current : Held
  last : Datum := .none
  world : World
  /-- The number of steps made, building included. -/
  steps : Nat := 1

namespace Session

/-- How deep lazy nodes may lead. -/
def standardDepth : Nat := 1000

/-- Runs on a world whose journal is empty, and gives what happened. -/
def observe {α : Type} (run : Run α) (w : World) : Except Failure α × World × List Event :=
  match run { w with journal := [] } with
  | .ok a w => (.ok a, w, w.history)
  | .error f w => (.error f, w, w.history)

/-- Builds the first schema of a session. -/
def start (library : Library) (b : Blueprint) : Except Failure (Session × List Event) :=
  let depth := standardDepth
  match observe ((b.build (library.plans.builder depth 0)).run' 0) {} with
  | (.ok s, w, events) =>
    let held : Held := ⟨s, .made 0 0, []⟩
    .ok (⟨library, depth, held, held, .none, w, 1⟩, events)
  | (.error f, _, _) => .error f

def input (s : Session) : Input → Datum
  | .value v => v
  | .last => s.last

/-- Describes a schema as it is now. -/
def describe (w : World) (s : Schema) : Description :=
  s.describe fun id origin => (w.forced? id origin).isSome

/-- What a step does to a session: an answer, the schema held afterwards and the last
output afterwards. -/
structure Change where
  answer : World → Answer
  current : Held
  last : Datum

/-- A change that leaves schema and output alone. -/
def keep (s : Session) (answer : Answer) : Change := ⟨fun _ => answer, s.current, s.last⟩

/-- The answer that shows a schema. -/
def schemaAnswer (s : Session) (h : Held) : Change :=
  ⟨fun w => .schema (describe w h.schema) (decide (h.id = s.current.id)), h, s.last⟩

/-- Applies methods one after the other. -/
def runMethods (b : Builder) (step : Nat) :
    Nat → List (Method Blueprint) → Held → Make Held
  | _, [], h => return h
  | i, m :: rest, h => do
    let built ← Blueprint.buildMethod b m
    let s ← h.schema.call b.toMaker built
    runMethods b step (i + 1) rest (h.afterMethod (.made step i) m s)

/-- The part of a value that a list of keys leads to. -/
def partAt (v : Datum) (place : List Datum) : Except Fault Datum := place.foldlM Value.part v

/-- The keys of an object. -/
def objectKeys (s : Schema) : Except Fault Datum :=
  match s with
  | .object shape _ _ => .ok (.tuple (shape.map fun f => .str f.1))
  | _ => .error (.noAttribute s.className "keys")

/-- Parses and remembers the output. -/
def runParse (s : Session) (v : Datum) (mode : Mode) (settle : Bool) : Run Change := do
  let output ← s.library.parse mode s.depth s.current.schema v
  let shown ← if settle then s.library.settle mode s.depth output else pure (Settled.shown output)
  return ⟨fun _ => .value shown, s.current, output⟩

/-- Parses; a refused value is no failure of the step. -/
def runSafeParse (s : Session) (v : Datum) (mode : Mode) : Run Change := do
  Library.requireSchema mode "safe_parse" s.current.schema
  match ← (s.library.parse mode s.depth s.current.schema v).outcome with
  | .ok output => return ⟨fun _ => .parsed (.ok (Settled.shown output)), s.current, output⟩
  | .error (.refused issues) => return s.keep (.parsed (.error (.refused issues)))
  | .error f => throw f

/-- Reads inversion settings before a run. -/
def withSettings (s : Session) (fields : Fields) (run : InversionSettings → Run Change) :
    Run Change :=
  match InversionSettings.ofFields fields with
  | .ok settings => run settings
  | .error errors => return s.keep (.badSettings errors)

/-- What a step does. -/
def runStep (s : Session) : Step → Run Change
  | .parse input mode settle => s.runParse (s.input input) mode settle
  | .safeParse input mode => s.runSafeParse (s.input input) mode
  | .roundTrip input mode fields => s.withSettings fields fun settings => do
    let output ← s.library.roundTrip mode s.depth s.steps settings s.current.schema (s.input input)
    let shown ← s.library.settle mode s.depth output
    return ⟨fun _ => .value shown, s.current, output⟩
  | .invert fields => s.withSettings fields fun settings => do
    let inverse ← s.library.invert s.depth s.steps settings s.current.schema
    return s.schemaAnswer (s.current.inverted (.made s.steps 0) inverse)
  | .chain methods => do
    let b := s.library.plans.builder s.depth s.steps
    let h ← (runMethods b s.steps 0 methods s.current).run' 0
    return s.schemaAnswer h
  | .reset => return s.schemaAnswer s.first
  | .describe => return ⟨fun w => .description (describe w s.current.schema), s.current, s.last⟩
  | .keys => do
    let keys ← Run.liftFault (objectKeys s.current.schema)
    return s.keep (.value (Settled.shown keys))
  | .call args place => do
    let function ← Run.liftFault (partAt s.last place)
    let result ← s.library.call s.depth function args
    return s.keep (.value (← s.library.settle .sync s.depth result))
  | .implement input => do
    match s.current.schema with
    | .function .. => s.runParse (s.input input) .sync true
    | schema => throw (.fault (.noAttribute schema.className "implement"))
  | .mutate method args => do
    let called := s.last.callMethod method args
    let answer := match called.result with
      | .ok v => Answer.mutated (Settled.shown called.after) (Settled.shown v)
      | .error f => .failed (.fault f)
    return ⟨fun _ => answer, s.current, called.after⟩
  | .assign field => throw (.malformed (.frozen field))

/-- Makes a step. -/
def step (s : Session) (what : Step) : Report × Session :=
  match observe (s.runStep what) s.world with
  | (.ok change, w, events) =>
    (⟨change.answer w, events⟩,
      { s with current := change.current, last := change.last, world := w, steps := s.steps + 1 })
  | (.error f, w, events) => (⟨.failed f, events⟩, { s with world := w, steps := s.steps + 1 })

/-- Makes steps in order. -/
def run : Session → List Step → List Report
  | _, [] => []
  | s, what :: rest =>
    let (report, next) := s.step what
    report :: run next rest

end Session
end TwoWay
