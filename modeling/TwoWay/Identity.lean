/-!
# Identities

Some values are told from others with the same content: a `nan` is equal to none but is itself,
a copy of a read-only container is another container, and an awaitable is awaited once. Such
values carry an identity.
-/

namespace TwoWay

inductive Identity where
  /-- Just made, and not yet told from others that were. -/
  | new
  /-- Given from outside. -/
  | given (number : Nat)
  /-- Made during a run. -/
  | made (number : Nat)
  deriving DecidableEq, Repr, Inhabited

/-- Whether both are the same. What was just made is not known to be. -/
def Identity.same (a b : Identity) : Bool := a != .new && a == b

end TwoWay
