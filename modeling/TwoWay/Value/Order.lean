import TwoWay.Fault
import TwoWay.Value.Equality

/-!
# Order

Numbers and truth values are ordered by their place on the number line, and a `nan` is in no
order with any number. Texts and bytes are ordered like words in a dictionary, lists and tuples
as well, by their first difference. One set is below another if it is a part of it. Comparing
anything else is a fault.
-/

namespace TwoWay

/-- The ways to compare by order. -/
inductive Comparison where
  | less
  | atMost
  | greater
  | atLeast
  deriving DecidableEq, Repr

namespace Comparison

def symbol : Comparison → String
  | .less => "<"
  | .atMost => "<="
  | .greater => ">"
  | .atLeast => ">="

/-- The same comparison, read from the other side. -/
def swapped : Comparison → Comparison
  | .less => .greater
  | .atMost => .atLeast
  | .greater => .less
  | .atLeast => .atMost

/-- Whether it holds of two things in an order. -/
def holds (c : Comparison) (o : Ordering) : Bool :=
  match c with
  | .less => o = .lt
  | .atMost => o != .gt
  | .greater => o = .gt
  | .atLeast => o != .lt

end Comparison

def Place.order (p q : Place) : Ordering :=
  if p.before q then .lt else if q.before p then .gt else .eq

namespace Value

variable {κ : Type} [Handle κ]

/-- What a value is called when it cannot be compared. -/
def comparedName : Value κ → String
  | .dict .. => "dict"
  | v => v.typeName

/-- The fault of values without an order. A read-only mapping on the right is asked first. -/
def incomparable (c : Comparison) (left right : Value κ) : Fault :=
  match right with
  | .dict (.readOnly _) _ =>
    .incomparable c.swapped.symbol right.comparedName left.comparedName
  | _ => .incomparable c.symbol left.comparedName right.comparedName

/-- The fault of two values without an order, the second one on the left if `turned` holds. -/
def unlike (turned : Bool) (c : Comparison) (a b : Value κ) : Fault :=
  if turned then incomparable c.swapped b a else incomparable c a b

/-- Whether lists are compared from the other side: a plain list on the left leaves that to
a read-only one on the right. `turned` holds if the second list is on the left. -/
def turns (turned : Bool) (first second : Access) : Bool :=
  if turned then !(first.isReadOnly && !second.isReadOnly)
  else !first.isReadOnly && second.isReadOnly

mutual

/-- Compares two values. If `turned` holds the second one is on the left, which only shows
in a fault. -/
def compareFrom (turned : Bool) (c : Comparison) : Value κ → Value κ → Except Fault Bool
  | .list r xs, b => match b with
    | .list q ys => compareItems (turns turned r q) c xs ys
    | b => .error (unlike turned c (.list r xs) b)
  | .tuple xs, b => match b with
    | .tuple ys => compareItems turned c xs ys
    | b => .error (unlike turned c (.tuple xs) b)
  | .set r xs, b => match b with
    | .set _ ys => .ok (match c with
      | .less => itemsIn xs ys && xs.length < ys.length
      | .atMost => itemsIn xs ys
      | .greater => itemsIn ys xs && ys.length < xs.length
      | .atLeast => itemsIn ys xs)
    | b => .error (unlike turned c (.set r xs) b)
  | .str s, b => match b with
    | .str t => .ok (c.holds (compare s t))
    | b => .error (unlike turned c (.str s) b)
  | .bytes s, b => match b with
    | .bytes t => .ok (c.holds (compare s t))
    | b => .error (unlike turned c (.bytes s) b)
  | a, b =>
    if a.isOrdered && b.isOrdered then
      match a.place?, b.place? with
      | some p, some q => .ok (c.holds (p.order q))
      | _, _ => .ok false
    else .error (unlike turned c a b)
  termination_by structural a => a

/-- Compares lists by their first difference or, if there is none, by their lengths. -/
def compareItems (turned : Bool) (c : Comparison) :
    List (Value κ) → List (Value κ) → Except Fault Bool
  | [], ys => .ok (c.holds (if ys.isEmpty then .eq else .lt))
  | _ :: _, [] => .ok (c.holds .gt)
  | x :: xs, y :: ys =>
    if x.agrees y then compareItems turned c xs ys else compareFrom turned c x y
  termination_by structural xs => xs

end

/-- Compares two values, the first one on the left. -/
def compared (c : Comparison) (a b : Value κ) : Except Fault Bool := compareFrom false c a b

def isLess : Value κ → Value κ → Except Fault Bool := compared .less

def isGreater : Value κ → Value κ → Except Fault Bool := compared .greater

def isAtMost : Value κ → Value κ → Except Fault Bool := compared .atMost

def isAtLeast : Value κ → Value κ → Except Fault Bool := compared .atLeast

end Value
end TwoWay
