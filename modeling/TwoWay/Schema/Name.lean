import TwoWay.Schema.Basic

/-!
# Class names

The name that messages and descriptions give to a node.
-/

namespace TwoWay.Schema

/-- The name of a node's class; a value in the place of a schema has its type's name. -/
def className : Schema → String
  | .string .. => "StringSchema"
  | .number .. => "NumberSchema"
  | .boolean => "BooleanSchema"
  | .none => "NoneSchema"
  | .any => "AnySchema"
  | .unknown => "UnknownSchema"
  | .never => "NeverSchema"
  | .literal _ => "LiteralSchema"
  | .enum _ => "EnumSchema"
  | .array .. => "ArraySchema"
  | .object .. => "ObjectSchema"
  | .union _ => "UnionSchema"
  | .tagged .. => "DiscriminatedUnionSchema"
  | .intersection .. => "IntersectionSchema"
  | .tuple .. => "TupleSchema"
  | .record .. => "RecordSchema"
  | .map .. => "MapSchema"
  | .set _ => "SetSchema"
  | .function .. => "FunctionSchema"
  | .lazy .. => "LazySchema"
  | .effect .. => "EffectsSchema"
  | .optional _ => "OptionalSchema"
  | .nullable _ => "NullableSchema"
  | .default .. => "DefaultSchema"
  | .catch .. => "CatchSchema"
  | .promise _ => "PromiseSchema"
  | .branded .. => "BrandedSchema"
  | .pipeline .. => "PipelineSchema"
  | .invertible .. => "InvertibleSchema"
  | .readonly _ => "ReadonlySchema"
  | .foreign .absent => "KindlessSchema"
  | .foreign _ => "CustomSchema"
  | .raw v => v.typeName

/-- The kind of a node of a known class. A two-way node is a pipeline. -/
def kind? : Schema → Option SchemaKind
  | .string .. => some .string
  | .number .. => some .number
  | .boolean => some .boolean
  | .none => some .none
  | .any => some .any
  | .unknown => some .unknown
  | .never => some .never
  | .literal _ => some .literal
  | .enum _ => some .enum
  | .array .. => some .array
  | .object .. => some .object
  | .union _ => some .union
  | .tagged .. => some .discriminatedUnion
  | .intersection .. => some .intersection
  | .tuple .. => some .tuple
  | .record .. => some .record
  | .map .. => some .map
  | .set _ => some .set
  | .function .. => some .function
  | .lazy .. => some .lazy
  | .effect .. => some .effects
  | .optional _ => some .optional
  | .nullable _ => some .nullable
  | .default .. => some .default
  | .catch .. => some .catch
  | .promise _ => some .promise
  | .branded .. => some .branded
  | .pipeline .. | .invertible .. => some .pipeline
  | .readonly _ => some .readonly
  | .foreign (.known kind) => some kind
  | .foreign _ | .raw _ => Option.none

end TwoWay.Schema
