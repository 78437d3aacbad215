import TwoWay.Value.Order

/-!
# Sorting

A list is sorted in ascending order, and items of which none is below the other keep theirs. It
starts from the run of items that are in order already, or in strictly descending order and then
turned round, and puts the others in their places one after the other. If two items cannot be
compared the list stays as far as it was sorted.
-/

namespace TwoWay.Value

variable {κ : Type} [Handle κ]

/-- How many items go on in order from one on: each below the one before if `falling` holds, none
below the one before otherwise. -/
def runLength (falling : Bool) (before : Value κ) : List (Value κ) → Except Fault Nat
  | [] => .ok 0
  | x :: rest => do
    if (← x.isLess before) = falling then return (← runLength falling x rest) + 1 else return 0

/-- The place for an item among sorted ones, between two places. It goes after those that it is
not below. -/
def placeFor (sorted : Array (Value κ)) (x : Value κ) : Nat → Nat → Nat → Except Fault Nat
  | 0, low, _ => .ok low
  | fuel + 1, low, high =>
    if high ≤ low then .ok low
    else do
      let middle := low + (high - low) / 2
      match sorted[middle]? with
      | some y =>
        if ← x.isLess y then placeFor sorted x fuel low middle
        else placeFor sorted x fuel (middle + 1) high
      | Option.none => return low

/-- Puts items in their places among sorted ones: the list afterwards, and what went wrong. -/
def sortInto (sorted : List (Value κ)) : List (Value κ) → List (Value κ) × Except Fault Unit
  | [] => (sorted, .ok ())
  | x :: rest =>
    match placeFor sorted.toArray x (sorted.length + 1) 0 sorted.length with
    | .ok i => sortInto (sorted.insertIdx i x) rest
    | .error f => (sorted ++ x :: rest, .error f)

/-- A list sorted: its items afterwards, and what went wrong. -/
def sortItems (items : List (Value κ)) : List (Value κ) × Except Fault Unit :=
  match items with
  | x :: y :: rest =>
    let run : Except Fault (Bool × Nat) := do
      let falling ← y.isLess x
      return (falling, 2 + (← runLength falling y rest))
    match run with
    | .ok (falling, n) =>
      let start := items.take n
      sortInto (if falling then start.reverse else start) (items.drop n)
    | .error f => (items, .error f)
  | _ => (items, .ok ())

end TwoWay.Value
