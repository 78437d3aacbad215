/-!
# Kinds

The kinds of schema nodes, of one-way effects and of policies for unknown keys, with
the words that name them.
-/

namespace TwoWay

/-- The kinds of schema nodes. -/
inductive SchemaKind where
  | string
  | number
  | boolean
  | none
  | literal
  | enum
  | any
  | unknown
  | never
  | array
  | object
  | union
  | discriminatedUnion
  | intersection
  | tuple
  | record
  | map
  | set
  | function
  | lazy
  | effects
  | optional
  | nullable
  | default
  | catch
  | promise
  | branded
  | pipeline
  | readonly
  deriving DecidableEq, Repr, Inhabited

namespace SchemaKind

def text : SchemaKind → String
  | .string => "string"
  | .number => "number"
  | .boolean => "boolean"
  | .none => "none"
  | .literal => "literal"
  | .enum => "enum"
  | .any => "any"
  | .unknown => "unknown"
  | .never => "never"
  | .array => "array"
  | .object => "object"
  | .union => "union"
  | .discriminatedUnion => "discriminated_union"
  | .intersection => "intersection"
  | .tuple => "tuple"
  | .record => "record"
  | .map => "map"
  | .set => "set"
  | .function => "function"
  | .lazy => "lazy"
  | .effects => "effects"
  | .optional => "optional"
  | .nullable => "nullable"
  | .default => "default"
  | .catch => "catch"
  | .promise => "promise"
  | .branded => "branded"
  | .pipeline => "pipeline"
  | .readonly => "readonly"

def all : List SchemaKind := [
  .string, .number, .boolean, .none, .literal, .enum, .any, .unknown, .never, .array, .object,
  .union, .discriminatedUnion, .intersection, .tuple, .record, .map, .set, .function, .lazy,
  .effects, .optional, .nullable, .default, .catch, .promise, .branded, .pipeline, .readonly]

theorem mem_all (kind : SchemaKind) : kind ∈ all := by cases kind <;> decide

def ofText? (text : String) : Option SchemaKind := all.find? (·.text = text)

theorem ofText?_text (kind : SchemaKind) : ofText? kind.text = some kind := by
  cases kind <;> decide

/-- Nodes of a leaf kind have no child schemas and are their own inverse. -/
def isLeaf : SchemaKind → Bool
  | .string | .number | .boolean | .none | .literal | .enum | .any | .unknown | .never => true
  | _ => false

end SchemaKind

/-- The kinds of one-way effects: a refinement checks the output of the inner schema, a
transform maps it to a new value, a preprocess step maps the raw input. -/
inductive EffectKind where
  | refinement
  | transform
  | preprocess
  deriving DecidableEq, Repr, Inhabited

namespace EffectKind

def text : EffectKind → String
  | .refinement => "refinement"
  | .transform => "transform"
  | .preprocess => "preprocess"

def all : List EffectKind := [.refinement, .transform, .preprocess]

theorem mem_all (kind : EffectKind) : kind ∈ all := by cases kind <;> decide

def ofText? (text : String) : Option EffectKind := all.find? (·.text = text)

end EffectKind

/-- What an object does with keys outside its shape. -/
inductive UnknownKeys where
  | strip
  | strict
  | passthrough
  deriving DecidableEq, Repr, Inhabited

namespace UnknownKeys

def text : UnknownKeys → String
  | .strip => "strip"
  | .strict => "strict"
  | .passthrough => "passthrough"

def all : List UnknownKeys := [.strip, .strict, .passthrough]

theorem mem_all (policy : UnknownKeys) : policy ∈ all := by cases policy <;> decide

def ofText? (text : String) : Option UnknownKeys := all.find? (·.text = text)

end UnknownKeys
end TwoWay
