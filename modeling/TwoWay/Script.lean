import TwoWay.Execution

/-!
# Scripts

A script is an asynchronous computation spelled out: it pauses, waits, notes things down,
resolves awaitables, and gives a value or gives up. A synchronous run sits out pauses but
cannot wait.
-/

namespace TwoWay

inductive Instruction where
  /-- Pauses. -/
  | yield
  /-- Waits for something. -/
  | suspend
  | note (entry : Datum)
  /-- Notes down what an awaitable gives, or the value itself if it is none. -/
  | resolve (v : Datum)
  | give (v : Datum)
  | raise (message : String)

/-- Runs a script. One that ends without giving anything gives `none`. -/
def Links.follow (links : Links) : List Instruction → Run Datum
  | [] => return .none
  | i :: rest => do
    match i with
    | .yield => do
      Run.record .yielded
      links.follow rest
    | .suspend => do
      links.suspend
      links.follow rest
    | .note entry => do
      Run.record (.noted entry)
      links.follow rest
    | .resolve v => do
      let r ← links.resolve v
      Run.record (.noted (.list .free [.str "resolved", r.value]))
      links.follow rest
    | .give v => return v
    | .raise message => throw (.fault (.raised .value message))

namespace Library

/-- Runs a script from the start: how it ends, and what has happened. -/
def runScript (lib : Library) (mode : Mode) (depth : Nat) (script : List Instruction) :
    Except Failure Datum × List Event :=
  match (lib.links mode depth).follow script {} with
  | .ok v w => (.ok v, w.history)
  | .error f w => (.error f, w.history)

/-- Runs a user function by itself on a value at a path. An asynchronous one only gives an
awaitable. -/
def apply (lib : Library) (depth : Nat) (fn : FunctionRef) (path : Path Live) (v : Datum) :
    Except Failure Parsed :=
  let run : Run Parsed := do
    if lib.host.isAsync fn then
      return ⟨.live (.working (← Run.identity) fn path v), []⟩
    let reply := lib.host.effect fn v path
    let issues ← (lib.links .sync depth).play path reply.happenings
    return ⟨← Run.lift reply.outcome, issues⟩
  match run {} with
  | .ok r _ => .ok r
  | .error f _ => .error f

end Library
end TwoWay
