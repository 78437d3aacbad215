import TwoWay.Run
import TwoWay.Schema.Name

/-!
# Descriptions

What a schema looks like from outside: the class and the kind of each node and its named
attributes. Descriptions stop at lazy nodes, of which they only tell whether they have
been forced, and at nodes of foreign classes.
-/

namespace TwoWay

mutual

/-- A described node. -/
inductive Description where
  | node (className : String) (kind : Option String) (attributes : List (String × Attribute))

inductive Attribute where
  | value (v : Datum)
  | flag (b : Bool)
  | text (s : String)
  | effect (kind : EffectKind) (fn : String)
  | child (d : Description)
  | children (ds : List Description)
  | shape (fields : List (String × Description))

end

/-- The name of the function of an action; a check has none of its own. -/
def Action.name : Action Live → String
  | .custom fn => fn.name
  | .check .. => "refinement"

/-- The attributes about where a substitute comes from. -/
def Supply.attributes : Supply Live → List (String × Attribute)
  | .value v => [("value", .value v), ("factory", .flag false)]
  | .factory _ => [("value", .value .missing), ("factory", .flag true)]

/-- The kind that a foreign node declares, in words. -/
def DeclaredKind.text? : DeclaredKind Live → Option String
  | .absent | .other .none => none
  | .other v => some v.text
  | .known kind => some kind.text

/-- The attributes of a length. -/
def Lengths.attributes (l : Lengths Live) : List (String × Attribute) :=
  [("min_length", .value l.least), ("max_length", .value l.most)]

/-- A child that is no schema is shown as the value it is. -/
def childAttribute (s : Schema) (d : Description) : Attribute :=
  match s with
  | .raw v => .value v
  | _ => .child d

namespace Schema

/-- The node of a schema of a known class. -/
def describedNode (s : Schema) (attributes : List (String × Attribute)) : Description :=
  .node s.className (s.kind?.map (·.text)) attributes

mutual

/-- Describes a schema. `forced` tells which lazy nodes have been forced. -/
def describe (forced : LazyId → Origin → Bool) : Schema → Description
  | .string lengths pattern =>
    let text : Datum := match pattern with
      | some (.text s) => .str s
      | some (.bytes bs) => .bytes bs
      | Option.none => .none
    describedNode (.string lengths pattern) (lengths.attributes ++ [("pattern", .value text)])
  | .number bounds integer =>
    describedNode (.number bounds integer) [("gt", .value bounds.above),
      ("ge", .value bounds.atLeast), ("lt", .value bounds.below), ("le", .value bounds.atMost),
      ("integer", .flag integer)]
  | .literal value => describedNode (.literal value) [("value", .value value)]
  | .enum values => describedNode (.enum values) [("values", .value (.tuple values))]
  | .array element lengths =>
    describedNode (.array element lengths)
      (("element", childAttribute element (element.describe forced)) :: lengths.attributes)
  | .object shape catchall policy =>
    let catchallAttribute := match catchall with
      | some c => childAttribute c (c.describe forced)
      | Option.none => .value .none
    describedNode (.object shape catchall policy) [("shape", .shape (describeFields forced shape)),
      ("catchall", catchallAttribute), ("unknown_keys", .text policy.text)]
  | .union options =>
    describedNode (.union options) [("options", .children (describeAll forced options))]
  | .tagged key options table =>
    describedNode (.tagged key options table) [("discriminator", .text key),
      ("options", .children (describeAll forced options)),
      ("tags", .value (.list .free (table.map (·.1))))]
  | .intersection left right =>
    describedNode (.intersection left right)
      [("left", childAttribute left (left.describe forced)),
        ("right", childAttribute right (right.describe forced))]
  | .tuple items rest =>
    let restAttribute := match rest with
      | some r => childAttribute r (r.describe forced)
      | Option.none => .value .none
    describedNode (.tuple items rest)
      [("items", .children (describeAll forced items)), ("rest", restAttribute)]
  | .record key value =>
    describedNode (.record key value)
      [("key_schema", childAttribute key (key.describe forced)),
        ("value_schema", childAttribute value (value.describe forced))]
  | .map key value =>
    describedNode (.map key value)
      [("key_schema", childAttribute key (key.describe forced)),
        ("value_schema", childAttribute value (value.describe forced))]
  | .set element =>
    describedNode (.set element) [("element", childAttribute element (element.describe forced))]
  | .function items rest returns =>
    let restAttribute := match rest with
      | some r => childAttribute r (r.describe forced)
      | Option.none => .value .none
    let args := describedNode (.tuple items rest)
      [("items", .children (describeAll forced items)), ("rest", restAttribute)]
    describedNode (.function items rest returns)
      [("args", .child args), ("returns", childAttribute returns (returns.describe forced))]
  | .lazy id origin => describedNode (.lazy id origin) [("forced", .flag (forced id origin))]
  | .effect kind action elidable inner =>
    describedNode (.effect kind action elidable inner)
      [("schema", childAttribute inner (inner.describe forced)),
        ("effect", .effect kind action.name), ("elidable", .flag elidable)]
  | .optional inner =>
    describedNode (.optional inner) [("inner", childAttribute inner (inner.describe forced))]
  | .nullable inner =>
    describedNode (.nullable inner) [("inner", childAttribute inner (inner.describe forced))]
  | .default inner supply =>
    describedNode (.default inner supply)
      (("inner", childAttribute inner (inner.describe forced)) :: supply.attributes)
  | .catch inner supply =>
    describedNode (.catch inner supply)
      (("inner", childAttribute inner (inner.describe forced)) :: supply.attributes)
  | .promise inner =>
    describedNode (.promise inner) [("inner", childAttribute inner (inner.describe forced))]
  | .branded inner name =>
    describedNode (.branded inner name)
      [("inner", childAttribute inner (inner.describe forced)), ("brand_name", .value name)]
  | .pipeline input output =>
    describedNode (.pipeline input output)
      [("in_", childAttribute input (input.describe forced)),
        ("out", childAttribute output (output.describe forced))]
  | .invertible input parse output format =>
    describedNode (.invertible input parse output format)
      [("input_schema", childAttribute input (input.describe forced)),
        ("parse_fn", .text parse.name),
        ("output_schema", childAttribute output (output.describe forced)),
        ("format_fn", .text format.name)]
  | .readonly inner =>
    describedNode (.readonly inner) [("inner", childAttribute inner (inner.describe forced))]
  | .foreign kind => .node (Schema.foreign kind).className kind.text? []
  | s => describedNode s []
  termination_by structural s => s

def describeAll (forced : LazyId → Origin → Bool) : List Schema → List Description
  | [] => []
  | s :: rest => s.describe forced :: describeAll forced rest
  termination_by structural xs => xs

def describeFields (forced : LazyId → Origin → Bool) : List (String × Schema) → List (String × Description)
  | [] => []
  | (key, s) :: rest => (key, s.describe forced) :: describeFields forced rest
  termination_by structural fields => fields

end
end Schema
end TwoWay
