import TwoWay.Schema.Method
import TwoWay.Value.Place

/-!
# Blueprints

A blueprint says how to build a schema: by a constructor from the blueprints of its
children, by a shared definition, or by calling a method on another schema. Building
checks what the constructors check.
-/

namespace TwoWay

inductive Blueprint where
  | string
  | number (bounds : Bounds Live)
  | boolean
  | none
  | any
  | unknown
  | never
  | literal (value : Datum)
  | enum (values : List Datum)
  | array (element : Blueprint)
  | set (element : Blueprint)
  | object (shape : List (String × Blueprint)) (catchall : Option Blueprint)
      (unknownKeys : Option String)
  | union (options : List Blueprint)
  | tagged (key : String) (options : List Blueprint)
  | intersection (left right : Blueprint)
  | tuple (items : List Blueprint) (rest : Option Blueprint)
  | record (key : Option Blueprint) (value : Blueprint)
  | map (key value : Blueprint)
  /-- Without arguments, any are accepted. -/
  | function (args : Option (List Blueprint)) (returns : Option Blueprint)
  /-- A function whose arguments are given by a tuple schema. -/
  | functionOf (args : Blueprint) (returns : Option Blueprint)
  | lazy (getter : FunctionRef)
  | promise (inner : Blueprint)
  | preprocess (fn : FunctionRef) (inner : Blueprint) (elidable : Bool)
  /-- A two-way node; a side without a function is refused. -/
  | invertible (input : Blueprint) (parse : Option FunctionRef) (output : Blueprint)
      (format : Option FunctionRef)
  /-- A node of an unknown class that declares a kind, or the schema kind of that name. -/
  | foreign (kind : Datum) (isMember : Bool)
  | kindless
  | raw (value : Datum)
  | shared (name : String)
  | call (base : Blueprint) (method : Method Blueprint)

instance : Inhabited Blueprint := ⟨.any⟩

/-- What building needs beyond making: the shared definitions. -/
structure Builder extends Maker where
  shared : String → Run Schema

namespace Blueprint

/-- A shape policy by its name. -/
def unknownKeysOf : Option String → Make UnknownKeys
  | Option.none => return .strip
  | some text =>
    match UnknownKeys.ofText? text with
    | some p => return p
    | Option.none => Make.refuse (.notUnknownKeys (Text.quoted text))

/-- The declared kind of a foreign node. -/
def declaredKind (kind : Datum) (isMember : Bool) : Make (DeclaredKind Live) :=
  if isMember then
    let known := match kind with
      | .str s => SchemaKind.ofText? s
      | _ => Option.none
    match known with
    | some k => return .known k
    | Option.none => Make.refuse (.notSchemaKind kind.quoted)
  else return .other kind

/-- A two-way node of schemas and functions. -/
def twoWay (input : Schema) (parse : Option FunctionRef) (output : Schema)
    (format : Option FunctionRef) : Make Schema :=
  if input.isSchema && output.isSchema then
    match parse, format with
    | some f, some g => return .invertible input f output g
    | _, _ => Make.refuse .sidesNotFunctions
  else Make.refuse .sidesNotSchemas

/-- A function whose arguments a tuple schema gives. Without one it takes any arguments, and
another value is gone through for the schemas. -/
def functionOfTuple (args returns : Schema) : Make Schema :=
  match args with
  | .tuple items rest => return .function items rest returns
  | .raw .none => return .function [] (some .unknown) returns
  | .raw v =>
    match v.iterate with
    | .ok items => return .function (items.map .raw) Option.none returns
    | .error f => Make.fail (.fault f)
  | s => Make.fail (.fault (.notIterable s.className))

/-- A record of keys and values. Without values the first schema is that of the values,
and the keys are texts. -/
def recordOf (key value : Schema) : Schema :=
  match value.given with
  | some v => .record key v
  | Option.none => .record (.string {} Option.none) key

mutual

/-- Builds a schema. -/
def build (b : Builder) : Blueprint → Make Schema
  | .string => return .string {} Option.none
  | .number bounds => return .number bounds false
  | .boolean => return .boolean
  | .none => return .none
  | .any => return .any
  | .unknown => return .unknown
  | .never => return .never
  | .literal value => return .literal value
  | .enum values => if values.isEmpty then Make.refuse .emptyEnum else return .enum values
  | .array element => return .array (← element.build b) {}
  | .set element => return .set (← element.build b)
  | .object shape catchall policy => do
    let fields ← buildFields b shape
    let catchall ← match catchall with
      | some c => Schema.given <$> c.build b
      | Option.none => pure Option.none
    return .object (Schema.putFields [] fields) catchall (← unknownKeysOf policy)
  | .union options => do Schema.ofUnion (← buildAll b options)
  | .tagged key options => do
    let options ← buildAll b options
    Schema.ofTagged b.toMaker key options
  | .intersection left right => do
    let left ← left.build b
    let right ← right.build b
    return .intersection left right
  | .tuple items rest => do
    let items ← buildAll b items
    let rest ← match rest with
      | some r => Schema.given <$> r.build b
      | Option.none => pure Option.none
    return .tuple items rest
  | .record key value => do
    match key with
    | some k => do
      let k ← k.build b
      return recordOf k (← value.build b)
    | Option.none => return .record (.string {} Option.none) (← value.build b)
  | .map key value => do
    let key ← key.build b
    return .map key (← value.build b)
  | .function args returns => do
    let (items, rest) ← match args with
      | some items => do pure (← buildAll b items, Option.none)
      | Option.none => pure ([], some Schema.unknown)
    let returns ← match returns with
      | some r => (fun s => s.given.getD .unknown) <$> r.build b
      | Option.none => pure .unknown
    return .function items rest returns
  | .functionOf args returns => do
    let args ← args.build b
    let returns ← match returns with
      | some r => (fun s => s.given.getD .unknown) <$> r.build b
      | Option.none => pure .unknown
    functionOfTuple args returns
  | .lazy getter => return .lazy (← Make.freshId b.toMaker) (.getter getter)
  | .promise inner => return .promise (← inner.build b)
  | .preprocess fn inner elidable => do
    return .effect .preprocess (.custom fn) elidable (← inner.build b)
  | .invertible input parse output format => do
    let input ← input.build b
    let output ← output.build b
    twoWay input parse output format
  | .foreign kind isMember => return .foreign (← declaredKind kind isMember)
  | .kindless => return .foreign .absent
  | .raw value => return .raw value
  | .shared name => b.shared name
  | .call base method => do
    let base ← base.build b
    let method ← buildMethod b method
    base.call b.toMaker method
  termination_by structural s => s

def buildAll (b : Builder) : List Blueprint → Make (List Schema)
  | [] => return []
  | s :: rest => do
    let s ← s.build b
    return s :: (← buildAll b rest)
  termination_by structural xs => xs

def buildFields (b : Builder) : List (String × Blueprint) → Make (List (String × Schema))
  | [] => return []
  | (key, s) :: rest => do
    let s ← s.build b
    return (key, s) :: (← buildFields b rest)
  termination_by structural fields => fields

/-- Builds the schemas among the arguments of a method. -/
def buildMethod (b : Builder) : Method Blueprint → Make (Method Schema)
  | .min v => return .min v
  | .max v => return .max v
  | .regex v => return .regex v
  | .brand v => return .brand v
  | .nonempty => return .nonempty
  | .positive => return .positive
  | .negative => return .negative
  | .nonnegative => return .nonnegative
  | .integer => return .integer
  | .policy p => return .policy p
  | .allOptional => return .allOptional
  | .optional => return .optional
  | .nullable => return .nullable
  | .readonly => return .readonly
  | .promise => return .promise
  | .array => return .array
  | .inverse => return .inverse
  | .unwrap => return .unwrap
  | .removeDefault => return .removeDefault
  | .removeCatch => return .removeCatch
  | .ignoreEffect => return .ignoreEffect
  | .inner => return .inner
  | .pipe s => return .pipe (← s.build b)
  | .or s => return .or (← s.build b)
  | .and s => return .and (← s.build b)
  | .withCatchall s => return .withCatchall (← s.build b)
  | .withRest s => return .withRest (← s.build b)
  | .withReturns s => return .withReturns (← s.build b)
  | .withArgs ss => return .withArgs (← buildAll b ss)
  | .extend fields => return .extend (← buildFields b fields)
  | .superRefine fn => return .superRefine fn
  | .transform fn elidable => return .transform fn elidable
  | .refine fn message path => return .refine fn message path
  | .default v f => return .default v f
  | .catch v f => return .catch v f
  termination_by structural m => m

end
end Blueprint
end TwoWay
