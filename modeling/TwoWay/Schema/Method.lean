import TwoWay.Inversion
import TwoWay.Pattern.Reader

/-!
# Methods

Schemas are refined by chained methods. A method never changes the schema it is called
on; it gives a new one, or a child of it. Each class of nodes has methods of its own, and
all schemas can be wrapped.
-/

namespace TwoWay

/-- A method with its arguments; `β` stands for the schemas among them. -/
inductive Method (β : Type) where
  | min (bound : Datum)
  | max (bound : Datum)
  | regex (pattern : Datum)
  | brand (name : Datum)
  | nonempty
  | positive
  | negative
  | nonnegative
  | integer
  | policy (policy : UnknownKeys)
  | allOptional
  | optional
  | nullable
  | readonly
  | promise
  | array
  | inverse
  | unwrap
  | removeDefault
  | removeCatch
  | ignoreEffect
  | inner
  | pipe (next : β)
  | or (other : β)
  | and (other : β)
  | withCatchall (schema : β)
  | withRest (schema : β)
  | withReturns (schema : β)
  | withArgs (schemas : List β)
  | extend (shape : List (String × β))
  | superRefine (fn : FunctionRef)
  | transform (fn : FunctionRef) (elidable : Bool)
  | refine (fn : FunctionRef) (message : String) (path : List Datum)
  | default (value : Option Datum) (factory : Option FunctionRef)
  | catch (value : Option Datum) (factory : Option FunctionRef)

namespace Method

variable {β : Type}

def name : Method β → String
  | .min _ => "min"
  | .max _ => "max"
  | .regex _ => "regex"
  | .brand _ => "brand"
  | .nonempty => "nonempty"
  | .positive => "positive"
  | .negative => "negative"
  | .nonnegative => "nonnegative"
  | .integer => "int"
  | .policy p => p.text
  | .allOptional => "partial"
  | .optional => "optional"
  | .nullable => "nullable"
  | .readonly => "readonly"
  | .promise => "promise"
  | .array => "array"
  | .inverse => "inverse"
  | .unwrap => "unwrap"
  | .removeDefault => "remove_default"
  | .removeCatch => "remove_catch"
  | .ignoreEffect => "ignore_effect"
  | .inner => "inner"
  | .pipe _ => "pipe"
  | .or _ => "or_"
  | .and _ => "and_"
  | .withCatchall _ => "with_catchall"
  | .withRest _ => "with_rest"
  | .withReturns _ => "with_returns"
  | .withArgs _ => "with_args"
  | .extend _ => "extend"
  | .superRefine _ => "super_refine"
  | .transform .. => "transform"
  | .refine .. => "refine"
  | .default .. => "default"
  | .catch .. => "catch"

end Method

/-- The substitute that a value or a factory gives; it takes exactly one of them. -/
def supplyOf? (value : Option Datum) (factory : Option FunctionRef) : Option (Supply Live) :=
  match value.getD .missing, factory with
  | .missing, some fn => some (.factory fn)
  | .missing, none => none
  | v, none => some (.value v)
  | _, some _ => none

namespace Schema

/-- An optional child; `none` in its place leaves it out. -/
def given : Schema → Option Schema
  | .raw .none => Option.none
  | s => some s

/-- A union, which takes two options at least. -/
def ofUnion (options : List Schema) : Make Schema :=
  if options.length < 2 then Make.refuse .fewOptions else return .union options

/-- A pattern has to be readable when it is given. -/
def checkPattern (pattern : Datum) : Make WrittenPattern :=
  match pattern with
  | .str s => read (.text s)
  | .bytes bs => read (.bytes bs)
  | v =>
    match v.unhashable? with
    | some t => Make.fail (.fault (.unhashable t))
    | Option.none => Make.refuse .notPattern
where
  read (written : WrittenPattern) : Make WrittenPattern :=
    match Pattern.ofWritten written with
    | .ok _ => return written
    | .error e => Make.refuse (.badPattern written e)

/-- The fields of a shape in their order; of equal names the last schema counts. -/
def putField : List (String × Schema) → String → Schema → List (String × Schema)
  | [], key, s => [(key, s)]
  | (k, t) :: rest, key, s => if k = key then (k, s) :: rest else (k, t) :: putField rest key s

def putFields (shape fields : List (String × Schema)) : List (String × Schema) :=
  fields.foldl (fun acc f => putField acc f.1 f.2) shape

/-- Every field wrapped as optional. -/
def optionalFields : List (String × Schema) → Make (List (String × Schema))
  | [] => return []
  | (key, s) :: rest => do
    requireMethod s "optional"
    return (key, .optional s) :: (← optionalFields rest)

/-- The child of a node with a single one. -/
def child? : Schema → Option Schema
  | .effect _ _ _ s | .optional s | .nullable s | .default s _ | .catch s _ | .promise s
  | .branded s _ | .readonly s => some s
  | _ => Option.none

/-- What a wrapper that can be taken off is around. -/
def unwrapped? : Schema → Option Schema
  | .optional s | .nullable s | .promise s | .branded s _ | .readonly s => some s
  | _ => Option.none

/-- The methods that every schema has. -/
def callCommon (m : Method Schema) (s : Schema) : Make (Option Schema) :=
  match m with
  | .brand name => return some (.branded s name)
  | .optional => return some (.optional s)
  | .nullable => return some (.nullable s)
  | .readonly => return some (.readonly s)
  | .promise => return some (.promise s)
  | .array => return some (.array s {})
  | .pipe next => return some (.pipeline s next)
  | .or other => return some (.union [s, other])
  | .and other => return some (.intersection s other)
  | .superRefine fn => return some (.effect .refinement (.custom fn) false s)
  | .transform fn elidable => return some (.effect .transform (.custom fn) elidable s)
  | .refine fn message path => return some (.effect .refinement (.check fn message path) false s)
  | .default value factory =>
    match supplyOf? value factory with
    | some supply => return some (.default s supply)
    | Option.none => Make.refuse .defaultSupply
  | .catch value factory =>
    match supplyOf? value factory with
    | some supply => return some (.catch s supply)
    | Option.none => Make.refuse .catchSupply
  | _ => return Option.none

/-- The methods of the class of a node. -/
def callOwn (maker : Maker) (m : Method Schema) (s : Schema) : Make (Option Schema) :=
  match m, s with
  | .min v, .string l p => return some (.string { l with least := v } p)
  | .max v, .string l p => return some (.string { l with most := v } p)
  | .regex v, .string l _ => return some (.string l (some (← checkPattern v)))
  | .min v, .array e l => return some (.array e { l with least := v })
  | .max v, .array e l => return some (.array e { l with most := v })
  | .nonempty, .array e l => return some (.array e { l with least := .int 1 })
  | .min v, .number b i => return some (.number { b with atLeast := v } i)
  | .max v, .number b i => return some (.number { b with atMost := v } i)
  | .positive, .number b i => return some (.number { b with above := .int 0 } i)
  | .negative, .number b i => return some (.number { b with below := .int 0 } i)
  | .nonnegative, .number b i => return some (.number { b with atLeast := .int 0 } i)
  | .integer, .number b _ => return some (.number b true)
  | .policy p, .object shape c _ => return some (.object shape c p)
  | .withCatchall t, .object shape _ p => return some (.object shape (given t) p)
  | .extend fields, .object shape c p => return some (.object (putFields shape fields) c p)
  | .allOptional, .object shape c p => return some (.object (← optionalFields shape) c p)
  | .withRest t, .tuple items _ => return some (.tuple items (given t))
  | .withArgs items, .function _ _ returns => return some (.function items Option.none returns)
  | .withReturns t, .function items rest _ => return some (.function items rest t)
  | .inverse, .invertible .. => some <$> invertWith maker {} s
  | .removeDefault, .default inner _ => return some inner
  | .removeCatch, .catch inner _ => return some inner
  | .unwrap, _ => return unwrapped? s
  | .inner, _ => return child? s
  | _, _ => return Option.none

/-- Calls a method. -/
def call (maker : Maker) (m : Method Schema) (s : Schema) : Make Schema :=
  match m, s with
  | .ignoreEffect, .effect kind action _ inner => return .effect kind action true inner
  | .ignoreEffect, _ => Make.refuse (.notEffect s.className)
  | _, _ => do
    let missing := Make.fail (.fault (.noAttribute s.className m.name))
    if !s.isSchema then missing
    else match ← callOwn maker m s with
      | some t => return t
      | Option.none =>
        match ← callCommon m s with
        | some t => return t
        | Option.none => missing

end Schema
end TwoWay
