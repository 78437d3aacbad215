import TwoWay.Schema.Method

/-!
# Held schemas

A session tells whether a step gives the very node it had before. A held schema carries
the identity of its node and, as far as the session has seen them wrapped, those of the
nodes inside it.
-/

namespace TwoWay

/-- Which node it is: one made by a step, numbered within it, or the child of another. -/
inductive NodeId where
  | made (step index : Nat)
  | childOf (id : NodeId)
  deriving DecidableEq, Repr

structure Held where
  schema : Schema
  id : NodeId
  /-- The nodes inside, outermost first. -/
  inner : List NodeId := []

namespace Held

/-- The child of a held node. -/
def child (h : Held) (s : Schema) : Held :=
  match h.inner with
  | id :: rest => ⟨s, id, rest⟩
  | [] => ⟨s, .childOf h.id, []⟩

/-- A wrapper around a held node. -/
def wrap (h : Held) (id : NodeId) (s : Schema) : Held := ⟨s, id, h.id :: h.inner⟩

/-- What a method gives: a child, a wrapper, or a new node. -/
def afterMethod {β : Type} (h : Held) (id : NodeId) (m : Method β) (s : Schema) : Held :=
  match m with
  | .unwrap | .inner | .removeDefault | .removeCatch => h.child s
  | .optional | .nullable | .readonly | .promise | .brand _ | .superRefine _ | .transform ..
  | .refine .. | .default .. | .catch .. => h.wrap id s
  | _ => ⟨s, id, []⟩

/-- Whether inverting gives the node itself. -/
def isOwnInverse : Schema → Bool
  | .string .. | .number .. | .boolean | .none | .any | .unknown | .never | .literal _ | .enum _
  | .foreign _ | .raw _ => true
  | _ => false

/-- The nodes that inverting gives, outermost first: a node that is its own inverse is kept,
also inside of what inverting drops or wraps anew. -/
def inverseIds (fresh : NodeId) : Schema → NodeId → List NodeId → NodeId × List NodeId
  | .default s _, id, inner | .catch s _, id, inner | .branded s _, id, inner
  | .effect .transform _ _ s, id, inner | .effect .preprocess _ _ s, id, inner =>
    inverseIds fresh s (inner.headD (.childOf id)) inner.tail
  | .optional s, id, inner | .nullable s, id, inner | .promise s, id, inner
  | .readonly s, id, inner =>
    let (child, rest) := inverseIds (.childOf fresh) s (inner.headD (.childOf id)) inner.tail
    (fresh, child :: rest)
  | s, id, inner => if isOwnInverse s then (id, inner) else (fresh, [])

/-- The inverse of what is held. -/
def inverted (h : Held) (fresh : NodeId) (inverse : Schema) : Held :=
  let (id, inner) := inverseIds fresh h.schema h.id h.inner
  ⟨inverse, id, inner⟩

end Held
end TwoWay
