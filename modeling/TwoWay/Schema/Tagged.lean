import TwoWay.Schema.Making
import TwoWay.Schema.Name

/-!
# Discriminated unions

A discriminated union finds its option by the value under a key that all options
declare. The table from values to options is made with the node.
-/

namespace TwoWay.Schema

/-- The schema of a declared field. -/
def field? (shape : List (String × Schema)) (key : String) : Option Schema := shape.lookup key

/-- The table from tags to the positions of the options that accept them. -/
def tagTable (maker : Maker) (key : String) :
    Nat → List Schema → List (Datum × Nat) → Run (List (Datum × Nat))
  | _, [], table => return table
  | i, .object shape _ _ :: rest, table =>
    match field? shape key with
    | Option.none => throw (.malformed (.optionWithoutTag (Text.quoted key)))
    | some s => do
      let values ← s.tagValues maker.lazyTags
      if values.isEmpty then throw (.malformed (.tagWithoutValues (Text.quoted key)))
      tagTable maker key (i + 1) rest (← addTags key i values table)
  | _, s :: _, _ => throw (.malformed (.optionNotObject s.className))

/-- A discriminated union of objects that share a key. -/
def ofTagged (maker : Maker) (key : String) (options : List Schema) : Run Schema := do
  return .tagged key options (← tagTable maker key 0 options [])

end TwoWay.Schema
