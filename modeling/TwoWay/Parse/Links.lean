import TwoWay.Parse.Basic
import TwoWay.Schema.Numbering

/-!
# Links

What a node needs beyond its own tree: the host of the user functions, the mode of the
parse, lazy nodes and awaitables. `Links.act` runs an effect.
-/

namespace TwoWay

/-- A synchronous parse cannot wait for anything; an asynchronous one can. -/
inductive Mode where
  | sync
  | async
  deriving DecidableEq, Repr, Inhabited

structure Links where
  host : Host
  mode : Mode
  /-- Parses with the schema of a lazy node. -/
  enter : LazyId → Origin → Path Live → Datum → Run Parsed
  /-- Waits for an awaitable. That of an effect may report issues. -/
  await : Live → Run Parsed

namespace Links

variable (links : Links)

/-- Waits, which a synchronous parse refuses. -/
def suspend : Run Unit :=
  match links.mode with
  | .sync => throw .suspended
  | .async => Run.record .suspended

/-- Lets happen what a reply lists, in order, and collects the issues. -/
def play (path : Path Live) : List Happening → Run (List (Issue Live))
  | [] => return []
  | h :: rest => do
    let issues ← match h with
      | .noted entry => do Run.record (.noted entry); pure []
      | .yielded => do Run.record .yielded; pure []
      | .suspended => do links.suspend; pure []
      | .reported code message below details =>
        pure [⟨code, message, path ++ below, details.map fun d => (d.1, .value d.2)⟩]
    return issues ++ (← play path rest)

/-- The value of an awaitable, or a plain value as it is. -/
def resolve (v : Datum) : Run Parsed :=
  match v with
  | .live x => do if x.isAwaitable then links.await (← x.numbered) else return ⟨v, []⟩
  | _ => return ⟨v, []⟩

/-- Lets a call of a user function happen. An awaitable that a plain function gives is
waited for. -/
def answer (fn : FunctionRef) (args : List Datum) (path : Path Live) (reply : Reply) :
    Run Parsed := do
  Run.record (.called fn args)
  let issues ← links.play path reply.happenings
  let value ← Run.lift reply.outcome
  if links.host.isAsync fn then return ⟨value, issues⟩
  let resolved ← links.resolve value
  return ⟨resolved.value, issues ++ resolved.issues⟩

/-- Runs an effect on a value. A check gives an issue if its predicate does not hold. -/
def act (action : Action Live) (path : Path Live) (v : Datum) : Run Parsed :=
  match action with
  | .custom fn => links.answer fn [v] path (links.host.effect fn v path)
  | .check fn message below => do
    let verdict ← links.answer fn [v] path (links.host.check fn v)
    let issues := if verdict.value.truthy then [] else [⟨.custom, message, path ++ below, []⟩]
    return ⟨v, verdict.issues ++ issues⟩

/-- Runs an effect and takes over the value it gives. -/
def apply (action : Action Live) (path : Path Live) (v : Datum) : Run Parsed := do
  let r ← links.act action path v
  return ⟨← r.value.numbered, r.issues⟩

/-- Maps a value by a user function. -/
def map (fn : FunctionRef) (path : Path Live) (v : Datum) : Run Parsed :=
  links.apply (.custom fn) path v

/-- The substitute for a missing value. -/
def supply : Supply Live → Run Datum
  | .value v => return v
  | .factory fn => do
    let reply := links.host.supply fn
    Run.record (.called fn [])
    discard <| links.play [] reply.happenings
    Run.lift reply.outcome

/-- The substitute for a value refused for the given issues. A factory is handed the
failure, which has to be reportable. -/
def rescue (issues : List (Issue Live)) : Supply Live → Run Datum
  | .value v => return v
  | .factory fn => do
    match Failure.ofIssues issues with
    | .refused issues => do
      let reply := links.host.rescue fn issues
      Run.record (.called fn [])
      discard <| links.play [] reply.happenings
      Run.lift reply.outcome
    | f => throw f

end Links
end TwoWay
