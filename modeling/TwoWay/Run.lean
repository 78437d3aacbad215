import TwoWay.Failure

/-!
# Runs

A run works on a `World`: the lazy nodes that have been forced, the shared definitions
that have been built, and a journal of what user functions were called with, what they
noted down, where the run was suspended and what was logged. A run that fails keeps the
world it reached.

A `Host` tells what the user functions behind the references do. It answers a call with
a `Reply`: what happens while the function runs, one after the other, and how it ends.
-/

namespace TwoWay

/-- Log records of an inversion. -/
inductive InversionEvent where
  | effectElided (kind : EffectKind)
  | kindPassedThrough (kind className : String)
  deriving DecidableEq, Repr

/-- An entry of the journal. -/
inductive Event where
  | called (fn : FunctionRef) (args : List Datum)
  | noted (entry : Datum)
  | yielded
  | suspended
  | logged (event : InversionEvent)

structure World where
  /-- The schemas of forced lazy nodes. -/
  forced : List ((LazyId × Origin) × Schema) := []
  /-- The shared definitions built so far. -/
  shared : List (String × Schema) := []
  /-- What has happened, latest first. -/
  journal : List Event := []
  /-- The number of identities given out. -/
  made : Nat := 0
  /-- The awaitables that have been awaited. -/
  awaited : List Identity := []

namespace World

def forced? (w : World) (id : LazyId) (origin : Origin) : Option Schema :=
  w.forced.lookup (id, origin)

def shared? (w : World) (name : String) : Option Schema := w.shared.lookup name

def record (e : Event) (w : World) : World := { w with journal := e :: w.journal }

/-- What has happened, in order. -/
def history (w : World) : List Event := w.journal.reverse

end World

/-- A run on a world. -/
abbrev Run := EStateM Failure World

namespace Run

def record (e : Event) : Run Unit := modify (·.record e)

def fail {α : Type} (f : Failure) : Run α := throw f

/-- The result of a computation that needs no world. -/
def lift {α : Type} : Except Failure α → Run α
  | .ok a => pure a
  | .error f => throw f

def liftFault {α : Type} : Except Fault α → Run α
  | .ok a => pure a
  | .error f => throw (.fault f)

/-- An identity that nothing else has. -/
def identity : Run Identity := modifyGet fun w => (.made w.made, { w with made := w.made + 1 })

/-- Notes that an awaitable is awaited, which happens once. -/
def awaitOnce (id : Identity) : Run Unit := do
  if (← get).awaited.contains id then throw (.fault .reusedAwaitable)
  modify fun w => { w with awaited := id :: w.awaited }

/-- Fails if the value cannot be a key or a member of a set. -/
def requireHashable (v : Datum) : Run Unit :=
  match v.unhashable? with
  | some t => throw (.fault (.unhashable t))
  | none => pure ()

end Run

/-- What happens while a user function runs. -/
inductive Happening where
  | noted (entry : Datum)
  | yielded
  | suspended
  /-- The function reports an issue; `path` leads on from where it runs. -/
  | reported (code : IssueCode) (message : String) (path : Path Live)
      (details : List (String × Datum))

/-- A call of a user function from start to end. -/
structure Reply where
  happenings : List Happening := []
  outcome : Except Failure Datum

/-- What user functions do. -/
structure Host where
  /-- An effect, or a mapping of an invertible node, on a value at a path. -/
  effect : FunctionRef → Datum → Path Live → Reply
  /-- The predicate of a check. -/
  check : FunctionRef → Datum → Reply
  /-- The substitute for a missing value. -/
  supply : FunctionRef → Reply
  /-- The substitute for a refused value. -/
  rescue : FunctionRef → List (Issue Live) → Reply
  /-- A function value on arguments. -/
  call : FunctionRef → List Datum → Reply
  /-- Whether a call gives an awaitable, so that the reply comes when it is awaited. -/
  isAsync : FunctionRef → Bool

end TwoWay
