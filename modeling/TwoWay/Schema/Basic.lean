import TwoWay.Issue.Basic
import TwoWay.Pattern.Written
import TwoWay.Schema.Kind
import TwoWay.Settings.Basic

/-!
# Schemas

A schema is a tree of nodes. User functions stand in it as references, so that a tree is
plain data; what the functions do is the business of a `Host`. Lazy nodes refer to their
origin instead of holding a child: the getter that builds the schema, or the lazy node
whose schema is to be inverted. That keeps trees finite while the schemas they describe
may refer to themselves.

`Live` holds what values may contain besides data: functions, functions whose arguments
and results are checked, and awaitables.
-/

namespace TwoWay

/-- A user function: its identity and its name. -/
structure FunctionRef where
  id : Nat
  name : String
  deriving DecidableEq, Repr, Inhabited

/-- The identity of a lazy node: the place where it was made. The nodes made by one step,
by one shared definition, or while one lazy node was forced are numbered. -/
inductive LazyId where
  | step (number : Nat)
  | shared (name : String)
  | within (owner : LazyId) (index : Nat)
  deriving DecidableEq, Repr, Inhabited

/-- Where the schema of a lazy node comes from. -/
inductive Origin where
  | getter (fn : FunctionRef)
  | inverse (settings : InversionSettings) (id : LazyId) (of : Origin)
  deriving DecidableEq, Repr, Inhabited

/-- What an effect runs. A `check` reports `message` below `path` when its function
finds the value wanting. -/
inductive Action (κ : Type) where
  | custom (fn : FunctionRef)
  | check (fn : FunctionRef) (message : String) (path : List (Value κ))

/-- Where a substitute comes from. -/
inductive Supply (κ : Type) where
  | value (v : Value κ)
  | factory (fn : FunctionRef)

/-- The kind that a foreign node declares. -/
inductive DeclaredKind (κ : Type) where
  | absent
  | other (v : Value κ)
  | known (kind : SchemaKind)

/-- Bounds on a number; `none` is no bound. -/
structure Bounds (κ : Type) where
  above : Value κ := .none
  atLeast : Value κ := .none
  below : Value κ := .none
  atMost : Value κ := .none

/-- Bounds on a length; `none` is no bound. -/
structure Lengths (κ : Type) where
  least : Value κ := .none
  most : Value κ := .none

mutual

inductive Live where
  | function (fn : FunctionRef)
  /-- A function behind argument and result schemas. -/
  | guarded (id : Identity) (items : List Schema) (rest : Option Schema) (returns : Schema) (target : Live)
  /-- An awaitable of a value; it may suspend first. -/
  | promise (id : Nat) (suspends : Bool) (value : Value Live)
  /-- An awaitable that parses what another awaitable gives. It is awaited once. -/
  | pending (id : Identity) (inner : Schema) (awaited : Live)
  /-- The awaitable that a call of an asynchronous function gives. It is awaited once. -/
  | running (id : Identity) (fn : FunctionRef) (args : List (Value Live))
  /-- The awaitable that an asynchronous effect gives for a value at a path. It is awaited
  once. -/
  | working (id : Identity) (fn : FunctionRef) (path : List (Value Live)) (value : Value Live)

inductive Schema where
  | string (lengths : Lengths Live) (pattern : Option WrittenPattern)
  | number (bounds : Bounds Live) (integer : Bool)
  | boolean
  | none
  | any
  | unknown
  | never
  | literal (value : Value Live)
  | enum (values : List (Value Live))
  | array (element : Schema) (lengths : Lengths Live)
  | object (shape : List (String × Schema)) (catchall : Option Schema) (unknownKeys : UnknownKeys)
  | union (options : List Schema)
  /-- A discriminated union: the table leads from tags to options by their position. -/
  | tagged (tag : String) (options : List Schema) (table : List (Value Live × Nat))
  | intersection (left right : Schema)
  | tuple (items : List Schema) (rest : Option Schema)
  | record (key value : Schema)
  | map (key value : Schema)
  | set (element : Schema)
  | function (items : List Schema) (rest : Option Schema) (returns : Schema)
  | lazy (id : LazyId) (origin : Origin)
  | effect (kind : EffectKind) (action : Action Live) (elidable : Bool) (inner : Schema)
  | optional (inner : Schema)
  | nullable (inner : Schema)
  | default (inner : Schema) (supply : Supply Live)
  | catch (inner : Schema) (supply : Supply Live)
  | promise (inner : Schema)
  | branded (inner : Schema) (name : Value Live)
  | pipeline (input output : Schema)
  /-- A two-way node: the input schema, the function to the output schema and back. -/
  | invertible (input : Schema) (parse : FunctionRef) (output : Schema) (format : FunctionRef)
  | readonly (inner : Schema)
  /-- A node of a class the library does not know. -/
  | foreign (kind : DeclaredKind Live)
  /-- A value in the place of a schema. -/
  | raw (value : Value Live)

end

instance : Inhabited Live := ⟨.function default⟩
instance : Inhabited Schema := ⟨.any⟩

namespace Live

def typeName : Live → String
  | .function _ | .guarded .. => "function"
  | .promise .. => "Promise"
  | .pending .. | .running .. | .working .. => "coroutine"

/-- What tells functions behind schemas and awaitables that are awaited once from others. -/
def identity : Live → Identity
  | .guarded id .. | .pending id .. | .running id .. | .working id .. => id
  | _ => .new

/-- Whether two handles are the same. -/
def same : Live → Live → Bool
  | .function f, .function g => decide (f.id = g.id)
  | .promise i _ _, .promise j _ _ => i == j
  | x, y => x.identity.same y.identity

instance : Handle Live := ⟨typeName, same⟩

/-- Functions, checked or not. -/
def isCallable : Live → Bool
  | .function _ | .guarded .. => true
  | _ => false

def isAwaitable (x : Live) : Bool := !x.isCallable

/-- The name of a function; checking keeps it. -/
def functionName? : Live → Option String
  | .function fn => some fn.name
  | .guarded _ _ _ _ target => functionName? target
  | _ => Option.none

end Live

/-- The values that schemas work on. -/
abbrev Datum := Value Live

namespace Schema

/-- Objects are the options of discriminated unions. -/
def isObject : Schema → Bool
  | .object .. => true
  | _ => false

/-- Whether a node is a schema at all. -/
def isSchema : Schema → Bool
  | .raw _ => false
  | _ => true

end Schema
end TwoWay
