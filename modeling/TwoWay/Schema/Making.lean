import TwoWay.Run

/-!
# Making schemas

Schemas are made by building, by chaining methods and by inverting. Whoever makes them
numbers the lazy nodes, and may have to look behind lazy nodes for the tags of a
discriminated union.
-/

namespace TwoWay

/-- What making a schema needs: an owner for the lazy nodes, and the tags behind a lazy
node. -/
structure Maker where
  owner : LazyId
  lazyTags : LazyId → Origin → Run (List Datum)

/-- Making counts the lazy nodes made so far. -/
abbrev Make := StateT Nat Run

namespace Make

def fail {α : Type} (f : Failure) : Make α := fun _ => throw f

def refuse {α : Type} (m : Malformed) : Make α := fail (.malformed m)

/-- The identity of the next lazy node. -/
def freshId (maker : Maker) : Make LazyId := fun n => return (.within maker.owner n, n + 1)

end Make

namespace Schema

/-- The values that a tag field can accept, as far as its nodes tell. -/
def tagValues (lazyTags : LazyId → Origin → Run (List Datum)) : Schema → Run (List Datum)
  | .literal value => return [value]
  | .enum values => return values
  | .none => return [.none]
  | .lazy id origin => lazyTags id origin
  | .effect _ _ _ inner | .branded inner _ | .readonly inner | .default inner _
  | .catch inner _ => inner.tagValues lazyTags
  | .nullable inner => return (← inner.tagValues lazyTags) ++ [.none]
  | .optional inner => return (← inner.tagValues lazyTags) ++ [.missing]
  | .pipeline first second | .invertible first _ second _ => do
    let values ← first.tagValues lazyTags
    if values.isEmpty then second.tagValues lazyTags else return values
  | _ => return []

/-- Adds the tags of the option at a position to the table. Every tag has to be new and
usable as a key. -/
def addTags (key : String) (position : Nat) :
    List Datum → List (Datum × Nat) → Run (List (Datum × Nat))
  | [], table => return table
  | v :: rest, table => do
    Run.requireHashable v
    if table.any (·.1.agrees v) then
      throw (.malformed (.repeatedTagValue (Text.quoted key) v.quoted))
    addTags key position rest (table ++ [(v, position)])

end Schema
end TwoWay
