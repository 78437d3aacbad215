import TwoWay.Schema.Basic
import TwoWay.Settings.Moment
import TwoWay.Value.Equality

/-!
# Nodes

Documents and variables hold nodes: plain values, lists and mappings, moments, and texts
that are templates. A node may also be a mark, which says how it goes together with what is
there already: a removal takes it away, a replacement takes its place, an addition goes into
it.

* `Node.isVacant`: whether there is nothing in a node;
* `Node.put`: a mapping with a node at the end of a path.
-/

namespace TwoWay.Settings

/-- A key of a mapping: a text, or the text of another value. -/
structure Key where
  text : String
  isText : Bool := true
  deriving DecidableEq, Repr

/-- What is done to the text of a node. -/
inductive Conversion where
  | text
  | integer
  | number
  | flag
  | json
  | upper
  | lower
  | title
  | capitalize
  | swap
  | fold
  | strip
  | stripLeft
  | stripRight
  deriving DecidableEq, Repr

inductive Node where
  | null
  | bool (b : Bool)
  | int (i : Int)
  | float (d : Double)
  | text (s : String)
  | moment (m : Moment)
  | list (items : List Node)
  | map (entries : List (Key × Node))
  /-- A text to be filled in at the end, and what is done to it then. Only those whose form is
  `known` can be. -/
  | template (text : String) (known : Bool) (conversions : List Conversion)
  | removal
  | replacement (v : Node)
  | addition (v : Node)
  /-- A mark that changes nothing here. -/
  | mark
  deriving Inhabited

namespace Node

/-- The name of a node's type. -/
def typeName : Node → String
  | .null => "NoneType"
  | .bool _ => "bool"
  | .int _ => "int"
  | .float _ => "float"
  | .text _ | .template .. => "str"
  | .moment m => m.typeName
  | .list _ => "list"
  | .map _ => "dict"
  | .removal => "Del"
  | .replacement _ => "Reset"
  | .addition _ => "Merge"
  | .mark => "object"

/-- Whether there is anything in a node. -/
def isVacant : Node → Bool
  | .null => true
  | .bool b => !b
  | .int i => i = 0
  | .float (.finite _ significand _) => significand = 0
  | .text s => s.isEmpty
  | .list items => items.isEmpty
  | .map entries => entries.isEmpty
  | _ => false

/-- An entry of a mapping by its key. -/
def get? (entries : List (Key × Node)) (key : Key) : Option Node := entries.lookup key

/-- A mapping with an entry written: in its place, if it is there, or else at the end. -/
def put (entries : List (Key × Node)) (key : Key) (v : Node) : List (Key × Node) :=
  match entries with
  | [] => [(key, v)]
  | (k, w) :: rest => if k = key then (k, v) :: rest else (k, w) :: put rest key v

/-- The entries of a mapping; what is none has none. -/
def entries : Node → List (Key × Node)
  | .map es => es
  | _ => []

/-- A node at the end of a path of keys, beside what stands there already. -/
def place : List String → Node → Node → Node
  | [], v, _ => v
  | name :: path, v, old =>
    let inner := (get? old.entries ⟨name, true⟩).getD .null
    .map (put old.entries ⟨name, true⟩ (place path v inner))

end Node
end TwoWay.Settings
