import TwoWay.Parse.Engine
import TwoWay.Schema.Forcing

/-!
# Execution

Lazy nodes and awaitables lead from one tree to the next. `Library.links` ties the trees
together within a depth: each lazy node or awaitable that is entered takes one from it.
On top of it stand the parse of a whole value, the inversion of a schema, the round trip
and the call of a function value.
-/

namespace TwoWay

/-- Everything outside of the trees: the user functions, the getters and the shared
definitions. -/
structure Library where
  host : Host
  plans : Plans

/-- Waits for an awaitable. -/
def Live.awaitWith (links : Links) : Live → Run Parsed
  | .promise _ suspends value => do
    if suspends then links.suspend
    return ⟨value, []⟩
  | .pending id inner awaited => do
    Run.awaitOnce id
    let v ← awaited.awaitWith links
    let r ← inner.runWith links [] v.value
    return ⟨← Run.lift r.finish, v.issues⟩
  | .running id fn args => do
    Run.awaitOnce id
    let reply := links.host.call fn args
    Run.record (.called fn args)
    discard <| links.play [] reply.happenings
    return ⟨← (← Run.lift reply.outcome).numbered, []⟩
  | .working id fn path v => do
    Run.awaitOnce id
    let reply := links.host.effect fn v path
    Run.record (.called fn [v])
    let issues ← links.play path reply.happenings
    return ⟨← (← Run.lift reply.outcome).numbered, issues⟩
  | x => return ⟨.live x, []⟩
  termination_by structural x => x

namespace Library

variable (lib : Library)

/-- The links of a parse within a depth. -/
def links (mode : Mode) : Nat → Links
  | 0 => {
      host := lib.host
      mode := mode
      enter := fun _ _ _ _ => throw (.fault .tooDeep)
      await := fun _ => throw (.fault .tooDeep) }
  | depth + 1 => {
      host := lib.host
      mode := mode
      enter := fun id origin path v => do
        let s ← lib.plans.force (depth + 1) id origin
        s.runWith (links mode depth) path v
      await := fun x => x.awaitWith (links mode depth) }

/-- Fails for what is no schema and so cannot be asked to parse. -/
def requireSchema (mode : Mode) (method : String) (s : Schema) : Run Unit := do
  let name := match mode with
    | .sync => method
    | .async => method ++ "_async"
  if !s.isSchema then throw (.fault (.noAttribute s.className name))

/-- Parses a whole value. -/
def parse (mode : Mode) (depth : Nat) (s : Schema) (v : Datum) : Run Datum := do
  requireSchema mode "parse" s
  let r ← s.runWith (lib.links mode depth) [] v
  Run.lift r.finish

/-- The inverse of a schema, made in a numbered step. -/
def invert (depth step : Nat) (settings : InversionSettings) (s : Schema) : Run Schema :=
  (s.invertWith (lib.plans.maker depth step) settings).run' 0

/-- Parses a value and parses the output with the inverse. A synchronous round trip makes
the inverse first, an asynchronous one when it has the output. -/
def roundTrip (mode : Mode) (depth step : Nat) (settings : InversionSettings) (s : Schema)
    (v : Datum) : Run Datum := do
  match mode with
  | .sync => do
    let inverse ← lib.invert depth step settings s
    let output ← lib.parse .sync depth s v
    lib.parse .sync depth inverse output
  | .async => do
    let output ← lib.parse .async depth s v
    let inverse ← lib.invert depth step settings s
    lib.parse .async depth inverse output

/-- Parses what goes into or comes out of a checked function. -/
def checkCall (depth : Nat) (code : IssueCode) (what : String) (s : Schema) (v : Datum) :
    Run Datum := do
  let r ← s.runWith (lib.links .sync depth) [] v
  if r.issues.isEmpty && !r.value.isInvalid then return r.value
  else throw (.ofIssues [⟨code, "Invalid function " ++ what, [], [("issues", .issues r.issues)]⟩])

/-- Calls a function value. -/
def callLive (depth : Nat) : Live → List Datum → Run Datum
  | .function fn, args => do
    if lib.host.isAsync fn then return .live (.running (← Run.identity) fn args)
    else
      let reply := lib.host.call fn args
      Run.record (.called fn args)
      discard <| (lib.links .sync depth).play [] reply.happenings
      (← Run.lift reply.outcome).numbered
  | .guarded _ items rest returns target, args => do
    let parsed ← lib.checkCall depth .invalidArguments "arguments" (.tuple items rest)
      (.list .free args)
    let result ← callLive depth target (parsed.listItems?.getD [])
    lib.checkCall depth .invalidReturnType "return type" returns result
  | x, _ => throw (.fault (.notCallable x.typeName))
  termination_by structural x => x

/-- Calls a value, which has to be a function. -/
def call (depth : Nat) (v : Datum) (args : List Datum) : Run Datum :=
  match v with
  | .live x => lib.callLive depth x args
  | _ => throw (.fault (.notCallable v.typeName))

end Library
end TwoWay
