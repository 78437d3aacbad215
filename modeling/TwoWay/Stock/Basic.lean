import TwoWay.Execution
import TwoWay.Stock.Function

/-!
# A stock of functions

A stock gives the user functions of a family of schemas their meanings. A function is
plain or asynchronous; an asynchronous one runs when its awaitable is awaited, and it may
pause or wait before it does anything.
-/

namespace TwoWay.Stock

/-- How a function takes its time. -/
inductive Pace where
  | plain
  /-- Asynchronous without a pause. -/
  | async
  /-- Pauses, which even a synchronous parse can sit out. -/
  | yielding
  /-- Waits for something. -/
  | suspending
  deriving DecidableEq, Repr, Inhabited

/-- A reply at a pace. -/
def Pace.delay (pace : Pace) (reply : Reply) : Reply :=
  match pace with
  | .plain | .async => reply
  | .yielding => { reply with happenings := .yielded :: reply.happenings }
  | .suspending => { reply with happenings := .suspended :: reply.happenings }

/-- What a function reference stands for. -/
inductive Meaning where
  | effect (f : Function) (pace : Pace)
  | predicate (p : Predicate) (pace : Pace)
  | callable (c : Callable) (pace : Pace)
  /-- A factory that always gives the same value. -/
  | factory (value : Datum)
  | rescue (r : Rescue)
  | getter (g : Getter)
  /-- A value that stands where a function should. -/
  | value (v : Datum)

def Meaning.pace : Meaning → Pace
  | .effect _ p | .predicate _ p | .callable _ p => p
  | _ => .plain

/-- The meanings of function references, by identity, and the shared definitions. -/
structure Catalogue where
  meanings : Array Meaning := #[]
  definitions : List (String × Blueprint) := []

namespace Catalogue

/-- Gives a meaning a reference of its own. -/
def add (c : Catalogue) (name : String) (m : Meaning) : FunctionRef × Catalogue :=
  (⟨c.meanings.size, name⟩, { c with meanings := c.meanings.push m })

def meaning? (c : Catalogue) (fn : FunctionRef) : Option Meaning := c.meanings[fn.id]?

/-- The reply of something that cannot be called that way. -/
def notCallable (c : Catalogue) (fn : FunctionRef) : Reply :=
  match c.meaning? fn with
  | some (.value v) => ⟨[], .error (.fault (.notCallable v.typeName))⟩
  | _ => ⟨[], .error (.fault (.notCallable "function"))⟩

def host (c : Catalogue) : Host where
  effect fn v path :=
    match c.meaning? fn with
    | some (.effect f pace) => pace.delay (f.run path v).reply
    | _ => c.notCallable fn
  check fn v :=
    match c.meaning? fn with
    | some (.predicate p pace) => pace.delay (p.run v).reply
    | _ => c.notCallable fn
  supply fn :=
    match c.meaning? fn with
    | some (.factory value) => ⟨[.noted (.list .free [.str "factory"])], .ok value⟩
    | _ => c.notCallable fn
  rescue fn issues :=
    match c.meaning? fn with
    | some (.rescue r) => (r.run issues).reply
    | _ => c.notCallable fn
  call fn args :=
    match c.meaning? fn with
    | some (.callable f pace) => pace.delay (f.run args).reply
    | _ => c.notCallable fn
  isAsync fn :=
    match c.meaning? fn with
    | some m => m.pace != .plain
    | none => false

def plans (c : Catalogue) : Plans where
  getter fn :=
    match c.meaning? fn with
    | some (.getter g) => g
    | _ => default
  definition name := (c.definitions.lookup name).getD default

def library (c : Catalogue) : Library := ⟨c.host, c.plans⟩

end Catalogue
end TwoWay.Stock
