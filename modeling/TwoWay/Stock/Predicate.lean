import TwoWay.Number.Conversion
import TwoWay.Run
import TwoWay.Value.Order

/-!
# Ready-made predicates

Predicates on values for refinements. What a predicate does besides answering is in its
reply.
-/

namespace TwoWay.Stock

/-- A computation that lists what happens, latest first. -/
abbrev Act := EStateM Failure (List Happening)

namespace Act

def note (entry : List Datum) : Act Unit := modify (.noted (.list .free entry) :: ·)

def fail {α : Type} (f : Failure) : Act α := throw f

def lift {α : Type} : Except Fault α → Act α
  | .ok a => pure a
  | .error f => throw (.fault f)

/-- The reply of a computation. -/
def reply (act : Act Datum) : Reply :=
  match act.run [] with
  | .ok v happenings => ⟨happenings.reverse, .ok v⟩
  | .error f happenings => ⟨happenings.reverse, .error f⟩

end Act

inductive Predicate where
  /-- The value itself, which may count as true or not. -/
  | raw
  | always
  | never
  | even
  | above (bound : Datum)
  /-- The same type and equal. -/
  | equals (value : Datum)
  | hasType (name : Datum)
  | longerThan (bound : Datum)
  | hasKey (key : Datum)
  | spy
  | not (p : Predicate)
  /-- An asynchronous predicate that nobody waits for. Its awaitable counts as true. -/
  | unawaited
  | raise (message : String)
  deriving Inhabited

namespace Predicate

/-- The answer of a predicate. -/
def run : Predicate → Datum → Act Datum
  | .raw, v => return v
  | .always, _ => return .bool true
  | .never, _ => return .bool false
  | .even, v => return .bool v.isEvenNumber
  | .above bound, v => do
    if v.isNumber then return .bool (← Act.lift (v.isGreater bound)) else return .bool false
  | .equals value, v => return .bool (v.isExactly value)
  | .hasType name, v => return .bool ((Value.str v.received : Datum).equal name)
  | .longerThan bound, v => do
    match v.size? with
    | some n => return .bool (← Act.lift (Value.isGreater (.int n) bound))
    | none => return .bool false
  | .hasKey key, v => do
    match v with
    | .dict _ entries =>
      match key.unhashable? with
      | some t => Act.fail (.fault (.unhashable t))
      | none => return .bool (Entries.hasKey entries key)
    | _ => return .bool false
  | .spy, v => do
    Act.note [.str "pred", v]
    return .bool true
  | .not p, v => do
    let verdict ← p.run v
    return .bool !verdict.truthy
  | .unawaited, _ => return .bool true
  | .raise message, _ => Act.fail (.fault (.raised .value message))

end Predicate
end TwoWay.Stock
