import TwoWay.Value.Order
import TwoWay.Value.Quoted

/-!
# Places in containers

What an index or a key leads to. An index counts from the front or, if it is negative, from
the back.
-/

namespace TwoWay.Value

variable {κ : Type} [Handle κ]

/-- The place of an index in a container of a size. -/
def position? (i : Int) (size : Nat) : Option Nat :=
  let p := if i < 0 then i + size else i
  if 0 ≤ p && p < size then some p.toNat else Option.none

/-- Integers of a container's size lie between this number and its negative. -/
def sizeBound : Nat := powerOfTwo 63

def isSizeable (i : Int) : Bool := -(sizeBound : Int) ≤ i && i < (sizeBound : Int)

/-- A count is an integer; `huge` is the fault of one beyond all sizes. -/
def asCount (huge : Fault) (v : Value κ) : Except Fault Int :=
  match v.asInteger? with
  | some i => if isSizeable i then .ok i else .error huge
  | Option.none => .error (.noInteger v.typeName)

/-- The index that a value means; `wrong` is the fault of a value that is none. -/
def asIndex (wrong : Fault) (v : Value κ) : Except Fault Int :=
  match v.asInteger? with
  | some i => if isSizeable i then .ok i else .error (.hugeIndex .index)
  | Option.none => .error wrong

/-- The place that an index means; `outside` is the fault if there is none. -/
def asPlace (wrong outside : Fault) (size : Nat) (v : Value κ) : Except Fault Nat := do
  match position? (← v.asIndex wrong) size with
  | some p => return p
  | Option.none => throw outside

/-- The place of an item of a list. -/
def asListPlace (outside : Fault) (size : Nat) (v : Value κ) : Except Fault Nat :=
  v.asPlace (.badIndex "list" v.typeName) outside size

/-- The item of a list or tuple at an index. -/
def itemAt (container : String) (items : List (Value κ)) (index : Value κ) :
    Except Fault (Value κ) := do
  let i ← index.asPlace (.badIndex container index.typeName) (.indexOutOfRange (container ++ " "))
    items.length
  return items.getD i .none

/-- The value under a key of a mapping. -/
def entryAt (entries : Entries κ) (key : Value κ) : Except Fault (Value κ) :=
  match key.unhashable?, Entries.get? entries key with
  | some t, _ => .error (.unhashable t)
  | Option.none, some x => .ok x
  | Option.none, Option.none => .error (.noEntry key.quoted)

/-- The part of a value under a key or at an index. -/
def part (v key : Value κ) : Except Fault (Value κ) :=
  match v with
  | .list _ items => itemAt "list" items key
  | .tuple items => itemAt "tuple" items key
  | .dict _ entries => entryAt entries key
  | .str s => do
    let i ← key.asPlace (.badTextIndex key.typeName) (.indexOutOfRange "string ") s.length
    return .str ((s.toList.drop i).headD ' ').toString
  | .bytes bs => do
    let i ← key.asPlace (.badIndex "byte" key.typeName) (.indexOutOfRange "") bs.length
    return .int (bs.getD i 0).toNat
  | _ => .error (.notSubscriptable v.typeName)

/-- What a value gives when it is gone through. -/
def iterate : Value κ → Except Fault (List (Value κ))
  | .list _ items | .tuple items | .set _ items => .ok items
  | .dict _ entries => .ok (entries.map (·.1))
  | .str s => .ok (s.toList.map fun c => .str c.toString)
  | .bytes bs => .ok (bs.map fun b => .int b.toNat)
  | v => .error (.notIterable v.typeName)

end TwoWay.Value
